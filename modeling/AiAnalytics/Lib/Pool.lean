import Mathlib.Data.List.Basic
import Mathlib.Order.Lattice

/-!
# Pools

A list with at least one element, for code that picks one of several candidates. `Pool.prefer` is
Python's `[x for x in pool if p(x)] or pool`, and `Pool.best` is `min(pool, key=...)`: the first
element that no later one beats.
-/

namespace AiAnalytics.Lib

structure Pool (α : Type) where
  head : α
  tail : List α := []

namespace Pool

variable {α : Type} {pool : Pool α} {items : List α} {keep : α → Bool}

def toList (pool : Pool α) : List α := pool.head :: pool.tail

def ofList : List α → Option (Pool α)
  | [] => none
  | head :: tail => some { head, tail }

theorem ofList_eq_none_iff : ofList items = none ↔ items = [] := by
  cases items with
  | nil => exact iff_of_true rfl rfl
  | cons => exact iff_of_false nofun nofun

theorem toList_of_ofList (h : ofList items = some pool) : pool.toList = items := by
  cases items with
  | nil => cases h
  | cons => cases h; rfl

theorem exists_ofList (h : items ≠ []) :
    ∃ pool, ofList items = some pool ∧ pool.toList = items := by
  cases items with
  | nil => exact absurd rfl h
  | cons head tail => exact ⟨_, rfl, rfl⟩

section Choice

def get (pool : Pool α) (i : Fin pool.toList.length) : α := pool.toList.get i

theorem get_mem (i : Fin pool.toList.length) : pool.get i ∈ pool.toList := List.get_mem ..

theorem length_pos : 0 < pool.toList.length := Nat.succ_pos _

def best (better : α → α → Bool) (pool : Pool α) : α :=
  pool.tail.foldl (fun front item => if better item front then item else front) pool.head

theorem foldl_best_mem (better : α → α → Bool) (front : α) (items : List α) :
    items.foldl (fun front item => if better item front then item else front) front ∈
      front :: items := by
  induction items generalizing front with
  | nil => exact List.mem_singleton_self front
  | cons item items ih =>
      rw [List.foldl_cons]
      by_cases hbetter : better item front = true
      · rw [if_pos hbetter]
        exact List.mem_cons_of_mem _ (ih item)
      · rw [if_neg hbetter]
        rcases List.mem_cons.mp (ih front) with hfront | hlater
        · rw [hfront]
          exact List.mem_cons_self
        · exact List.mem_cons_of_mem _ (List.mem_cons_of_mem _ hlater)

theorem best_mem (better : α → α → Bool) (pool : Pool α) : pool.best better ∈ pool.toList :=
  foldl_best_mem better pool.head pool.tail

theorem foldl_best_le {β : Type} [LinearOrder β] {key : α → β} {better : α → α → Bool}
    (hbetter : ∀ item front, better item front = true ↔ key item < key front) (front : α)
    (items : List α) :
    ∀ item ∈ front :: items,
      key (items.foldl (fun front item => if better item front then item else front) front) ≤
        key item := by
  induction items generalizing front with
  | nil =>
      intro item hitem
      rw [List.mem_singleton.mp hitem]
      exact le_rfl
  | cons next items ih =>
      intro item hitem
      rw [List.foldl_cons]
      have hfront := ih (if better next front then next else front) _ List.mem_cons_self
      by_cases hnext : better next front = true
      · rw [if_pos hnext] at hfront ⊢
        rcases List.mem_cons.mp hitem with rfl | hitem
        · exact hfront.trans ((hbetter next item).mp hnext).le
        · exact ih next item hitem
      · rw [if_neg hnext] at hfront ⊢
        rcases List.mem_cons.mp hitem with rfl | hitem
        · exact hfront
        rcases List.mem_cons.mp hitem with rfl | hlater
        · exact hfront.trans (not_lt.mp fun hlt => hnext ((hbetter item front).mpr hlt))
        · exact ih front item (List.mem_cons_of_mem _ hlater)

theorem best_le {β : Type} [LinearOrder β] {key : α → β} {better : α → α → Bool}
    (hbetter : ∀ item front, better item front = true ↔ key item < key front) (pool : Pool α) :
    ∀ item ∈ pool.toList, key (pool.best better) ≤ key item :=
  foldl_best_le hbetter pool.head pool.tail

end Choice

section Preference

def prefer (keep : α → Bool) (pool : Pool α) : Pool α :=
  (ofList (pool.toList.filter keep)).getD pool

theorem toList_prefer : (pool.prefer keep).toList =
    if pool.toList.filter keep = [] then pool.toList else pool.toList.filter keep := by
  rw [prefer]
  by_cases hnone : pool.toList.filter keep = []
  · rw [if_pos hnone, hnone]
    rfl
  · obtain ⟨kept, hkept, hlist⟩ := exists_ofList hnone
    rw [if_neg hnone, hkept, Option.getD_some, hlist]

theorem mem_prefer {item : α} : item ∈ (pool.prefer keep).toList ↔
    item ∈ pool.toList ∧ (keep item = true ∨ ∀ other ∈ pool.toList, keep other = false) := by
  rw [toList_prefer]
  by_cases hnone : pool.toList.filter keep = []
  · have hall : ∀ other ∈ pool.toList, keep other = false := by
      simpa using List.filter_eq_nil_iff.mp hnone
    rw [if_pos hnone]
    exact ⟨fun hmem => ⟨hmem, .inr hall⟩, And.left⟩
  · rw [if_neg hnone, List.mem_filter]
    constructor
    · rintro ⟨hmem, hkeep⟩
      exact ⟨hmem, .inl hkeep⟩
    · rintro ⟨hmem, hkeep | hall⟩
      · exact ⟨hmem, hkeep⟩
      · refine absurd (List.filter_eq_nil_iff.mpr ?_) hnone
        intro other hother
        rw [hall other hother]
        exact Bool.false_ne_true

end Preference

end Pool

end AiAnalytics.Lib
