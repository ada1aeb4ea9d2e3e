import Mathlib.Data.List.Count
import Mathlib.Algebra.BigOperators.Group.List.Basic
import Mathlib.Algebra.Order.BigOperators.Group.List
import Mathlib.Tactic.Abel

/-!
# Counting the entries of a list that is updated in place

A state machine may keep one record per call in a list and update it by index. A count or a sum over
the records then moves by what the changed record counted for before and after.
-/

namespace AiAnalytics.Lib

variable {α : Type*}

theorem countP_le_one {β : Type*} {p : α → Bool} {name : α → β} {l : List α}
    (hnodup : (l.map name).Nodup) (hsame : ∀ a ∈ l, ∀ b ∈ l, p a → p b → name a = name b) :
    l.countP p ≤ 1 := by
  induction l with
  | nil => exact Nat.zero_le 1
  | cons head tail ih =>
      obtain ⟨hhead, htail⟩ := List.nodup_cons.mp hnodup
      by_cases hp : p head
      · have hnone : tail.countP p = 0 := by
          refine List.countP_eq_zero.mpr fun a ha hpa => hhead ?_
          rw [hsame head List.mem_cons_self a (List.mem_cons_of_mem head ha) hp hpa]
          exact List.mem_map_of_mem ha
        rw [List.countP_cons_of_pos hp, hnone]
      · rw [List.countP_cons_of_neg hp]
        exact ih htail fun a ha b hb => hsame a (List.mem_cons_of_mem head ha) b
          (List.mem_cons_of_mem head hb)

theorem eq_of_countP_eq_one {p : α → Bool} {l : List α} {a b : α} (h : l.countP p = 1) (ha : a ∈ l)
    (hb : b ∈ l) (hpa : p a) (hpb : p b) : a = b := by
  rw [List.countP_eq_length_filter, List.length_eq_one_iff] at h
  obtain ⟨c, hc⟩ := h
  have hmem {d : α} (hd : d ∈ l) (hpd : p d) : d = c := by
    have hfilter := List.mem_filter.mpr ⟨hd, hpd⟩
    rwa [hc, List.mem_singleton] at hfilter
  rw [hmem ha hpa, hmem hb hpb]

theorem countP_modify_of_getElem? {p : α → Bool} {f : α → α} {l : List α} {i : Nat} {a : α}
    (hget : l[i]? = some a) :
    ((l.modify i f).countP p : Int)
      = l.countP p - (if p a then 1 else 0) + (if p (f a) then 1 else 0) := by
  induction l generalizing i with
  | nil => simp at hget
  | cons head tail ih =>
      cases i with
      | zero =>
          obtain rfl : head = a := by simpa using hget
          rw [List.modify_zero_cons, List.countP_cons, List.countP_cons]
          push_cast
          split <;> split <;> omega
      | succ i =>
          have htail := ih (by simpa using hget)
          rw [List.modify_succ_cons, List.countP_cons, List.countP_cons]
          push_cast
          omega

theorem sum_map_modify_of_getElem? {β : Type*} [AddCommGroup β] {g : α → β} {f : α → α} {l : List α}
    {i : Nat} {a : α} (hget : l[i]? = some a) :
    ((l.modify i f).map g).sum = (l.map g).sum - g a + g (f a) := by
  induction l generalizing i with
  | nil => simp at hget
  | cons head tail ih =>
      cases i with
      | zero =>
          obtain rfl : head = a := by simpa using hget
          rw [List.modify_zero_cons, List.map_cons, List.map_cons, List.sum_cons, List.sum_cons]
          abel
      | succ i =>
          have htail := ih (by simpa using hget)
          rw [List.modify_succ_cons, List.map_cons, List.map_cons, List.sum_cons, List.sum_cons,
            htail]
          abel

theorem sum_map_filter (p : α → Bool) (g : α → Int) (l : List α) :
    ((l.filter p).map g).sum = (l.map fun a => if p a then g a else 0).sum := by
  induction l with
  | nil => rfl
  | cons head tail ih =>
      by_cases hp : p head = true <;> simp [hp, ih]

theorem le_sum_map_of_getElem? {β : Type*} [AddCommMonoid β] [PartialOrder β]
    [IsOrderedAddMonoid β] {g : α → β} {l : List α} {i : Nat} {a : α} (hget : l[i]? = some a)
    (hnonneg : ∀ x ∈ l, 0 ≤ g x) : g a ≤ (l.map g).sum := by
  have hmem : g a ∈ l.map g := List.mem_map_of_mem (List.mem_of_getElem? hget)
  refine List.single_le_sum (fun y hy => ?_) _ hmem
  obtain ⟨x, hx, rfl⟩ := List.mem_map.mp hy
  exact hnonneg x hx

theorem exists_mem_of_mem_modify {f : α → α} {l : List α} {i : Nat} {x : α}
    (hmem : x ∈ l.modify i f) : ∃ a ∈ l, x = a ∨ x = f a := by
  obtain ⟨j, hget⟩ := List.mem_iff_getElem?.mp hmem
  rw [List.getElem?_modify] at hget
  obtain ⟨a, hold, hnew⟩ := Option.map_eq_some_iff.mp hget
  refine ⟨a, List.mem_of_getElem? hold, ?_⟩
  split at hnew
  · exact .inr hnew.symm
  · exact .inl hnew.symm

/-! ### Who stands where

A record with an id below `size` stands at one place at a time, or at none. -/

section Census

variable {Place : Type*} [DecidableEq Place] {size id : Nat} {before after : Nat → Option Place}
  {source target : Place}

def census (size : Nat) (stands : Nat → Option Place) (place : Place) : Nat :=
  (List.range size).countP fun id => stands id = some place

theorem census_congr (h : ∀ id < size, after id = before id) (place : Place) :
    census size after place = census size before place := by
  unfold census
  refine List.countP_congr fun id hid => ?_
  rw [h id (List.mem_range.mp hid)]

theorem census_move (hid : id < size) (hbefore : before id = some source)
    (hafter : after id = some target) (hothers : ∀ other, other ≠ id → after other = before other)
    (place : Place) :
    census size after place + (if place = source then 1 else 0) =
      census size before place + (if place = target then 1 else 0) := by
  induction size with
  | zero => exact absurd hid (Nat.not_lt_zero _)
  | succ size ih =>
      simp only [census, List.range_succ, List.countP_append, List.countP_singleton] at ih ⊢
      by_cases hlast : id = size
      · subst hlast
        have hbelow : ∀ other < id, after other = before other :=
          fun other hlt => hothers other (Nat.ne_of_lt hlt)
        have hrest := census_congr hbelow place
        simp only [census] at hrest
        simp only [hrest, hbefore, hafter, Option.some_inj, decide_eq_true_eq, eq_comm (a := place)]
        omega
      · rw [hothers size (Ne.symm hlast)]
        have hmoved := ih (by omega)
        omega

theorem census_enter (hbefore : ∀ id < size, after id = before id)
    (hafter : after size = some target) (place : Place) :
    census (size + 1) after place = census size before place + (if place = target then 1
      else 0) := by
  have hold := census_congr hbefore place
  unfold census at hold ⊢
  rw [List.range_succ, List.countP_append, List.countP_singleton, hold, hafter]
  by_cases heq : place = target
  · simp [heq]
  · simp [heq, Ne.symm heq]

end Census

end AiAnalytics.Lib
