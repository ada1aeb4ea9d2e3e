import Mathlib.Data.List.MinMax
import Mathlib.Data.List.Sort

/-!
# The first of the least

A program that asks a list for the element with the least key gets, of several with that key, the
one that comes first. What it then reads off that element depends on the order of the list, unless
all of them give the same. -/

namespace AiAnalytics.Lib

variable {α κ β : Type*} [LinearOrder κ] {p : α → Bool} {key : α → κ} {l l' : List α} {a b : α}

structure Earliest (p : α → Bool) (key : α → κ) (l : List α) (a : α) : Prop where
  mem : a ∈ l
  holds : p a = true
  le : ∀ b ∈ l, p b = true → key a ≤ key b

theorem Earliest.perm (h : Earliest p key l a) (hperm : l'.Perm l) : Earliest p key l' a :=
  ⟨hperm.symm.subset h.mem, h.holds, fun b hb => h.le b (hperm.subset hb)⟩

structure PicksEarliest (p : α → Bool) (key : α → κ) (pick : List α → Option α) : Prop where
  sound : ∀ l a, pick l = some a → Earliest p key l a
  complete : ∀ l, pick l = none → ∀ a ∈ l, p a = false
  head : ∀ a l, Earliest p key (a :: l) a → pick (a :: l) = some a

theorem picksEarliest_find?_insertionSort :
    PicksEarliest p key fun l => (l.insertionSort fun a b => key a ≤ key b).find? p where
  sound l a h := by
    have hsorted := List.pairwise_insertionSort (fun a b => key a ≤ key b) l
    obtain ⟨hp, before, after, hsplit, hbefore⟩ := List.find?_eq_some_iff_append.mp h
    have hmem (b : α) : b ∈ before ++ a :: after ↔ b ∈ l := hsplit ▸ List.mem_insertionSort _
    refine ⟨(hmem a).mp (by simp), hp, fun b hb hpb => ?_⟩
    rw [hsplit, List.pairwise_append, List.pairwise_cons] at hsorted
    rcases List.mem_append.mp ((hmem b).mpr hb) with hb | hb
    · exact absurd hpb (by simpa using hbefore b hb)
    · rcases List.mem_cons.mp hb with rfl | hb
      · exact le_rfl
      · exact hsorted.2.1.1 b hb
  complete l h a ha := by
    have hnone := List.find?_eq_none.mp h a ((List.mem_insertionSort _).mpr ha)
    simpa using hnone
  head a l h := by
    -- what is sorted before the head has a smaller key, and so not `p`
    rw [List.insertionSort_cons_eq_take_drop, List.find?_append]
    have hbefore : (List.takeWhile (fun b => ¬ key a ≤ key b) (l.insertionSort fun a b =>
      key a ≤ key b)).find? p
        = none := by
      refine List.find?_eq_none.mpr fun b hb hpb => ?_
      have hkey := List.all_eq_true.mp (List.all_takeWhile ..) b hb
      have hmem := (List.mem_insertionSort _).mp ((List.takeWhile_sublist _).subset hb)
      exact absurd (h.le b (List.mem_cons_of_mem _ hmem) hpb) (by simpa using hkey)
    rw [hbefore, List.find?_cons, h.holds, Option.none_or]

def minBy (key : α → κ) (l : List α) : Option α := l.argmin key

theorem picksEarliest_minBy : PicksEarliest p key fun l => minBy key (l.filter p) where
  sound l a h := by
    have hmem := List.argmin_mem h
    refine ⟨List.mem_of_mem_filter hmem, (List.mem_filter.mp hmem).2, fun b hb hpb => ?_⟩
    exact List.le_of_mem_argmin (List.mem_filter.mpr ⟨hb, hpb⟩) h
  complete l h a ha := by
    have hempty := List.filter_eq_nil_iff.mp (List.argmin_eq_none.mp h) a ha
    simpa using hempty
  head a l h := by
    rw [List.filter_cons_of_pos h.holds, minBy, List.argmin_cons]
    cases hrest : (l.filter p).argmin key with
    | none => rfl
    | some b =>
        have hb := List.mem_filter.mp (List.argmin_mem hrest)
        exact if_neg (not_lt.mpr (h.le b (List.mem_cons_of_mem _ hb.1) hb.2))

namespace PicksEarliest

variable {pick pick' : List α → Option α} {verdict : α → β}

theorem eq_none_iff (hpick : PicksEarliest p key pick) : pick l = none ↔ ∀ a ∈ l, p a = false := by
  refine ⟨hpick.complete l, fun h => ?_⟩
  by_contra hne
  obtain ⟨a, ha⟩ := Option.ne_none_iff_exists'.mp hne
  have hfirst := hpick.sound l a ha
  exact Bool.false_ne_true ((h a hfirst.mem).symm.trans hfirst.holds)

theorem map_eq_of_perm (hpick : PicksEarliest p key pick) (hpick' : PicksEarliest p key pick')
    (hagree : ∀ a b, Earliest p key l a → Earliest p key l b → verdict a = verdict b)
    (hperm : l'.Perm l) :
    (pick' l').map verdict = (pick l).map verdict := by
  cases h : pick l with
  | none =>
      have hnone : pick' l' = none :=
        hpick'.eq_none_iff.mpr fun a ha => hpick.complete l h a (hperm.subset ha)
      rw [hnone]
  | some a =>
      cases h' : pick' l' with
      | none =>
          have hfirst := hpick.sound l a h
          exact absurd (hpick'.complete l' h' a (hperm.symm.subset hfirst.mem))
            (by simp [hfirst.holds])
      | some b =>
          have hb := (hpick'.sound l' b h').perm hperm.symm
          exact congrArg some (hagree b a hb (hpick.sound l a h))

end PicksEarliest

theorem exists_perm_cons (h : a ∈ l) : ∃ rest, (a :: rest).Perm l := by
  obtain ⟨before, after, rfl⟩ := List.append_of_mem h
  exact ⟨before ++ after, List.perm_middle.symm⟩

end AiAnalytics.Lib
