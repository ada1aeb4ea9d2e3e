import AiAnalytics.Lib.PyText
import Mathlib.Data.List.Infix

/-!
# Searching a text for a fixed tag

`splitAtTag` finds the first occurrence. A text that is still growing is searched piece by piece:
what has been found stays found, and where nothing was found all but the last `tag.length - 1`
characters are settled, because an occurrence yet to come begins after them.
-/

namespace AiAnalytics.Lib

variable {tag text before after : List Char}

theorem splitAtTag_cons (tag : List Char) (c : Char) (text : List Char) :
    splitAtTag tag (c :: text) =
      if tag.isPrefixOf (c :: text) then some ([], (c :: text).drop tag.length)
      else (splitAtTag tag text).map fun (before, after) => (c :: before, after) := rfl

theorem splitAtTag_cons_eq_none_iff {c : Char} :
    splitAtTag tag (c :: text) = none ↔ ¬ tag <+: c :: text ∧ splitAtTag tag text = none := by
  rw [splitAtTag_cons]
  by_cases hprefix : tag <+: c :: text
  · simp [List.isPrefixOf_iff_prefix.mpr hprefix, hprefix]
  · have hfalse : tag.isPrefixOf (c :: text) = false := by
      rwa [← Bool.not_eq_true, List.isPrefixOf_iff_prefix]
    simp [hfalse, hprefix]

theorem eq_of_splitAtTag (h : splitAtTag tag text = some (before, after)) :
    text = before ++ tag ++ after := by
  induction text generalizing before after with
  | nil =>
      by_cases htag : tag = []
      · simp only [splitAtTag, htag, if_true, Option.some.injEq, Prod.mk.injEq] at h
        simp [← h.1, ← h.2, htag]
      · simp [splitAtTag, htag] at h
  | cons c text ih =>
      rw [splitAtTag_cons] at h
      split at h
      case isTrue hprefix =>
        obtain ⟨rest, hrest⟩ := List.isPrefixOf_iff_prefix.mp hprefix
        simp only [Option.some.injEq, Prod.mk.injEq] at h
        rw [← h.1, ← h.2, ← hrest, List.drop_left, List.nil_append]
      case isFalse =>
        obtain ⟨⟨before', after'⟩, hfound, heq⟩ := Option.map_eq_some_iff.mp h
        simp only [Prod.mk.injEq] at heq
        rw [← heq.1, ← heq.2, ih hfound, List.cons_append, List.cons_append]

theorem length_lt_of_splitAtTag (htag : tag ≠ []) (h : splitAtTag tag text = some (before, after)) :
    after.length < text.length := by
  have hlength := congrArg List.length (eq_of_splitAtTag h)
  have hpos := List.length_pos_iff.mpr htag
  simp only [List.length_append] at hlength
  omega

theorem splitAtTag_none_of_append {released kept : List Char}
    (h : splitAtTag tag (released ++ kept) = none) : splitAtTag tag kept = none := by
  induction released with
  | nil => exact h
  | cons c released ih =>
      rw [List.cons_append, splitAtTag_cons_eq_none_iff] at h
      exact ih h.2

theorem splitAtTag_append_of_some (h : splitAtTag tag text = some (before, after))
    (more : List Char) : splitAtTag tag (text ++ more) = some (before, after ++ more) := by
  induction text generalizing before after with
  | nil =>
      by_cases htag : tag = []
      · subst htag
        simp only [splitAtTag, if_true, Option.some.injEq, Prod.mk.injEq] at h
        cases more <;> simp [splitAtTag, ← h.1, ← h.2]
      · simp [splitAtTag, htag] at h
  | cons c text ih =>
      rw [splitAtTag_cons] at h
      rw [List.cons_append, splitAtTag_cons]
      split at h
      case isTrue hprefix =>
        obtain ⟨rest, hrest⟩ := List.isPrefixOf_iff_prefix.mp hprefix
        simp only [Option.some.injEq, Prod.mk.injEq] at h
        have hlonger : tag.isPrefixOf (c :: (text ++ more)) = true := by
          rw [List.isPrefixOf_iff_prefix, ← List.cons_append, ← hrest, List.append_assoc]
          exact List.prefix_append _ _
        rw [if_pos hlonger, ← h.1, ← h.2, ← List.cons_append, ← hrest, List.append_assoc,
          List.drop_left, List.drop_left]
      case isFalse hprefix =>
        obtain ⟨⟨before', after'⟩, hfound, heq⟩ := Option.map_eq_some_iff.mp h
        simp only [Prod.mk.injEq] at heq
        have hlength := congrArg List.length (eq_of_splitAtTag hfound)
        have hnot : ¬ tag.isPrefixOf (c :: (text ++ more)) = true := by
          rw [List.isPrefixOf_iff_prefix, ← List.cons_append]
          rw [List.isPrefixOf_iff_prefix] at hprefix
          intro hlonger
          refine hprefix (List.prefix_of_prefix_length_le hlonger (List.prefix_append _ _) ?_)
          simp only [List.length_append, List.length_cons] at hlength ⊢
          omega
        rw [if_neg hnot, ih hfound, Option.map_some, ← heq.1, ← heq.2]

theorem splitAtTag_append_of_none {released kept : List Char}
    (hkept : tag.length ≤ kept.length + 1) (h : splitAtTag tag (released ++ kept) = none)
    (more : List Char) :
    splitAtTag tag (released ++ kept ++ more) =
      (splitAtTag tag (kept ++ more)).map fun (before, after) => (released ++ before, after) := by
  induction released with
  | nil => simp
  | cons c released ih =>
      rw [List.cons_append, splitAtTag_cons_eq_none_iff] at h
      have hnot : ¬ tag.isPrefixOf (c :: (released ++ kept ++ more)) = true := by
        rw [List.isPrefixOf_iff_prefix, ← List.cons_append]
        intro hlonger
        refine h.1 (List.prefix_of_prefix_length_le hlonger (List.prefix_append _ _) ?_)
        simp only [List.length_append, List.length_cons]
        omega
      rw [List.cons_append, List.cons_append, splitAtTag_cons, if_neg hnot, ih h.2, Option.map_map]
      rfl

end AiAnalytics.Lib
