import Mathlib.Data.List.Basic
import Mathlib.Data.List.Forall2

/-!
# Texts with placeholders

A text is put together from parts of which some hold a placeholder and a value belongs to it.
`Binds` follows how the text is put together; from it comes that the placeholders are as many as the
values, and that each placeholder stands in the part its value belongs to.
-/

namespace AiAnalytics.Lib

variable {α : Type} {mark : Char} {text text' sep : String} {bound bound' : List (String × α)}

def occurrences (mark : Char) (text : String) : Nat := text.toList.count mark

@[simp]
theorem occurrences_append (text text' : String) :
    occurrences mark (text ++ text') = occurrences mark text + occurrences mark text' := by
  simp [occurrences]

@[simp]
theorem occurrences_empty : occurrences mark "" = 0 := rfl

theorem occurrences_literal {letters : List Char} {n : Nat} (h : letters.count mark = n) :
    occurrences mark (String.ofList letters) = n := by
  rw [occurrences, String.toList_ofList, h]

theorem literal_plain {marks letters : List Char} (hmark : mark ∈ marks)
    (h : marks.all (fun mark => letters.all (· != mark)) = true) :
    occurrences mark (String.ofList letters) = 0 := by
  have hall := List.all_eq_true.mp (List.all_eq_true.mp h mark hmark)
  have hnone : mark ∉ letters := fun hmem => by simpa using hall mark hmem
  exact occurrences_literal (List.count_eq_zero.mpr hnone)

theorem append_plain (h : occurrences mark text = 0) (h' : occurrences mark text' = 0) :
    occurrences mark (text ++ text') = 0 := by
  rw [occurrences_append, h, h']

theorem intercalate_plain (hsep : occurrences mark sep = 0) {parts : List String}
    (hparts : ∀ part ∈ parts, occurrences mark part = 0) :
    occurrences mark (sep.intercalate parts) = 0 := by
  induction parts with
  | nil => simp
  | cons part parts ih =>
      obtain ⟨hpart, hrest⟩ := List.forall_mem_cons.mp hparts
      cases parts with
      | nil => simpa using hpart
      | cons next rest =>
          rw [String.intercalate_cons_cons]
          exact append_plain (append_plain hpart hsep) (ih hrest)

def Mentions (text part : String) : Prop := ∃ before after, text = before ++ part ++ after

theorem Mentions.append_left (h : Mentions text sep) (before : String) :
    Mentions (before ++ text) sep := by
  obtain ⟨left, right, rfl⟩ := h
  exact ⟨before ++ left, right, by simp [String.append_assoc]⟩

theorem Mentions.append_right (h : Mentions text sep) (after : String) :
    Mentions (text ++ after) sep := by
  obtain ⟨left, right, rfl⟩ := h
  exact ⟨left, right ++ after, by simp [String.append_assoc]⟩

theorem Mentions.refl (text : String) : Mentions text text := ⟨"", "", by simp⟩

theorem Mentions.trans {part : String} (h : Mentions text sep) (h' : Mentions sep part) :
    Mentions text part := by
  obtain ⟨before, after, rfl⟩ := h
  exact (h'.append_left before).append_right after

theorem mentions_intercalate {parts : List String} {part : String} (h : part ∈ parts) :
    Mentions (sep.intercalate parts) part := by
  induction parts with
  | nil => cases h
  | cons first rest ih =>
      cases rest with
      | nil =>
          rw [List.mem_singleton.mp h]
          simpa using Mentions.refl first
      | cons second rest =>
          rw [String.intercalate_cons_cons]
          rcases List.mem_cons.mp h with rfl | h
          · exact ((Mentions.refl part).append_right sep).append_right _
          · exact (ih h).append_left (first ++ sep)

theorem not_mentions {part : String} (hpart : occurrences mark part ≠ 0)
    (htext : occurrences mark text = 0) : ¬ Mentions text part := by
  rintro ⟨before, after, rfl⟩
  rw [occurrences_append, occurrences_append] at htext
  omega

theorem toString_plain (hmark : mark.isDigit = false) (n : Nat) :
    occurrences mark (toString n) = 0 := by
  rw [occurrences, List.count_eq_zero]
  intro hmem
  rw [Nat.toString_eq_repr, Nat.repr, String.toList_ofList] at hmem
  have hdigit := Nat.isDigit_of_mem_toDigits (by decide) (by decide) hmem
  rw [hmark] at hdigit
  cases hdigit

inductive Binds (mark : Char) : String → List (String × α) → Prop
  | plain {text : String} (h : occurrences mark text = 0) : Binds mark text []
  | clause {text : String} (value : α) (h : occurrences mark text = 1) :
    Binds mark text [(text, value)]
  | append {text text' : String} {bound bound' : List (String × α)} (h : Binds mark text bound)
      (h' : Binds mark text' bound') : Binds mark (text ++ text') (bound ++ bound')

namespace Binds

theorem append_plain (h : Binds mark text bound) (h' : occurrences mark text' = 0) :
    Binds mark (text ++ text') bound := by
  have hplain : Binds mark text' ([] : List (String × α)) := plain h'
  have hall := h.append hplain
  rwa [List.append_nil] at hall

theorem plain_append (h : occurrences mark text = 0) (h' : Binds mark text' bound) :
    Binds mark (text ++ text') bound := (plain h).append h'

theorem intercalate (hsep : occurrences mark sep = 0) {texts : List String}
    {groups : List (List (String × α))} (h : List.Forall₂ (Binds mark) texts groups) :
    Binds mark (sep.intercalate texts) groups.flatten := by
  induction h with
  | nil => exact plain (by simp)
  | @cons text group texts groups htext hrest ih =>
      cases hrest with
      | nil => simpa using htext
      | @cons next group' texts groups hnext hlast =>
          rw [String.intercalate_cons_cons, List.flatten_cons]
          exact (htext.append_plain hsep).append ih

theorem occurrences_eq (h : Binds mark text bound) : occurrences mark text = bound.length := by
  induction h with
  | plain h => exact h
  | clause value h => exact h
  | append _ _ ih ih' => rw [occurrences_append, ih, ih', List.length_append]

theorem intercalate_nonempty (hsep : occurrences mark sep = 0) {texts : List String}
    {groups : List (List (String × α))} (h : List.Forall₂ (Binds mark) texts groups) :
    Binds mark (sep.intercalate (texts.filter (· ≠ ""))) groups.flatten := by
  obtain ⟨kept, hkept, hflatten⟩ : ∃ kept : List (List (String × α)),
      List.Forall₂ (Binds mark) (texts.filter (· ≠ "")) kept ∧ kept.flatten = groups.flatten := by
    induction h with
    | nil => exact ⟨[], .nil, rfl⟩
    | @cons text group texts groups htext _ ih =>
        obtain ⟨kept, hkept, hflatten⟩ := ih
        by_cases hempty : text = ""
        · subst hempty
          have hgroup : group = [] := List.eq_nil_of_length_eq_zero htext.occurrences_eq.symm
          refine ⟨kept, by simpa using hkept, ?_⟩
          rw [hgroup, List.flatten_cons, List.nil_append, hflatten]
        · refine ⟨group :: kept, ?_, ?_⟩
          · rw [List.filter_cons_of_pos (by simpa using hempty)]
            exact .cons htext hkept
          · rw [List.flatten_cons, List.flatten_cons, hflatten]
  rw [← hflatten]
  exact intercalate hsep hkept

theorem part_at (h : Binds mark text bound) {i : Nat} {part : String} {value : α}
    (hpart : bound[i]? = some (part, value)) :
    ∃ before after, text = before ++ part ++ after ∧ occurrences mark before = i ∧
      occurrences mark part = 1 := by
  induction h generalizing i with
  | plain h => cases hpart
  | clause value h =>
      cases i with
      | zero =>
          cases hpart
          exact ⟨"", "", by simp, rfl, h⟩
      | succ i => cases hpart
  | @append text text' bound bound' h h' ih ih' =>
      by_cases hi : i < bound.length
      · rw [List.getElem?_append_left hi] at hpart
        obtain ⟨before, after, rfl, hbefore, hmark⟩ := ih hpart
        exact ⟨before, after ++ text', by simp [String.append_assoc], hbefore, hmark⟩
      · rw [List.getElem?_append_right (Nat.not_lt.mp hi)] at hpart
        obtain ⟨before, after, rfl, hbefore, hmark⟩ := ih' hpart
        refine ⟨text ++ before, after, by simp [String.append_assoc], ?_, hmark⟩
        rw [occurrences_append, hbefore, h.occurrences_eq]
        omega

end Binds

structure HoldsInOrder (mark : Char) (text : String) (bound : List (String × α)) : Prop where
  count : occurrences mark text = bound.length
  part_at : ∀ i part value, bound[i]? = some (part, value) →
    ∃ before after, text = before ++ part ++ after ∧ occurrences mark before = i ∧
      occurrences mark part = 1

theorem Binds.holdsInOrder (h : Binds mark text bound) : HoldsInOrder mark text bound :=
  ⟨h.occurrences_eq, fun _ _ _ => h.part_at⟩

end AiAnalytics.Lib
