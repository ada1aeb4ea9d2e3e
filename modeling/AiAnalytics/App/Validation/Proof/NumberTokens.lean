import AiAnalytics.App.Validation.Grounding
import Mathlib.Data.List.TakeWhile

/-!
# The numbers of a text

Where `_NUMBER` matches, and what: a numeral as far as it goes, with the dollar before it and the
suffix after it. -/

namespace AiAnalytics.App.Validation

open Lib Lib.Regex

variable {classes : CharClasses}

section Characters

theorem digit_of_isDigit {c : Char} (h : c.isDigit = true) :
    classes.digit c = some (c.toNat - 48) := by
  have hascii : c.toNat < 128 := by
    simp only [Char.isDigit, Bool.and_eq_true, decide_eq_true_eq, UInt32.le_iff_toNat_le] at h
    have hle : c.toNat ≤ 57 := h.2
    omega
  rw [classes.digit_ascii c hascii, if_pos h]

theorem digit_eq_none {c : Char} (hascii : c.toNat < 128) (h : c.isDigit = false) :
    classes.digit c = none := by
  rw [classes.digit_ascii c hascii, h]
  rfl

def inRun (classes : CharClasses) (c : Char) : Bool := (classes.digit c).isSome || c = ','

def bars (classes : CharClasses) (c : Char) : Bool := classes.word c || c = '.'

def fractionOf (classes : CharClasses) : List Char → List Char
  | '.' :: c :: text =>
      if (classes.digit c).isSome then '.' :: c :: text.takeWhile fun c => (classes.digit c).isSome
        else []
  | _ => []

def numeralOf (classes : CharClasses) (text : List Char) : List Char :=
  text.takeWhile (inRun classes) ++ fractionOf classes (text.dropWhile (inRun classes))

def suffixFound (classes : CharClasses) (place : Place) : Found :=
  (((suffixPattern classes).first place).map fun found =>
    ⟨found.text, ("suffix", found.text) :: found.groups⟩).getD ⟨[], []⟩

end Characters

section Patterns

variable {prev : Option Char} {c : Char} {text : List Char} {place : Place}

theorem first_fraction : (opt (.seq (.char (· = '.')) (.plus (digit classes)))).first place =
    some ⟨fractionOf classes place.rest, []⟩ := by
  obtain ⟨prev, rest⟩ := place
  rw [first_opt]
  rcases rest with _ | ⟨c, rest⟩
  · rw [first_seq_of_none first_char_nil]
    rfl
  by_cases hpoint : c = '.'
  swap
  · rw [first_seq_of_none (by simp [first_char_cons, hpoint])]
    simp [fractionOf, hpoint]
  subst hpoint
  have hhead : (Regex.char (· = '.')).first ⟨prev, '.' :: rest⟩ = some ⟨['.'], []⟩ := by
    simp [first_char_cons]
  have hnone (htail : (plus (digit classes)).first ⟨some '.', rest⟩ = none) :
      (Regex.seq (.char (· = '.')) (.plus (digit classes))).first ⟨prev, '.' :: rest⟩ = none := by
    refine first_seq_eq_none fun found hfound => ?_
    obtain rfl : found = ⟨['.'], []⟩ := by simpa [results] using hfound
    exact htail
  rcases rest with _ | ⟨d, rest⟩
  · rw [hnone first_plus_char_nil]
    rfl
  by_cases hdigit : (classes.digit d).isSome = true
  · have hplus : (plus (digit classes)).first ⟨some '.', d :: rest⟩ =
        some ⟨d :: rest.takeWhile fun c => (classes.digit c).isSome, []⟩ := by
      rw [digit, first_plus_char_cons, if_pos hdigit]
    rw [first_seq_of_some hhead hplus]
    simp [Found.append, fractionOf, hdigit]
  · rw [hnone (by rw [digit, first_plus_char_cons, if_neg hdigit])]
    simp [fractionOf, hdigit]

theorem first_numeral (hc : (classes.digit c).isSome = true) :
    (numeralPattern classes).first ⟨prev, c :: text⟩ =
      some ⟨numeralOf classes (c :: text), []⟩ := by
  have hhead : (digit classes).first ⟨prev, c :: text⟩ = some ⟨[c], []⟩ := by
    simp [digit, first_char_cons, hc]
  have hrun : inRun classes c = true := by simp [inRun, hc]
  have hstar : (Regex.star (.char fun c => (classes.digit c).isSome || c = ',')).first
      ⟨some c, text⟩ = some ⟨text.takeWhile (inRun classes), []⟩ := first_star_char
  rw [numeralPattern, first_seq_of_some hhead (first_seq_of_some hstar first_fraction)]
  simp [Found.append, numeralOf, Place.after, hrun, drop_length_takeWhile]

def numberFound (classes : CharClasses) (dollar : List Char) (place : Place) : Found :=
  let num := numeralOf classes place.rest
  Found.append ⟨dollar ++ num, (if dollar = [] then [] else [("money", dollar)]) ++ [("num", num)]⟩
    (suffixFound classes (place.after num))

def amountPattern (classes : CharClasses) : Regex :=
  .seq (.group "num" (numeralPattern classes)) (.opt (.group "suffix" (suffixPattern classes)))

theorem first_amount (hc : (classes.digit c).isSome = true) :
    (amountPattern classes).first ⟨prev, c :: text⟩ =
      some (Found.append ⟨numeralOf classes (c :: text), [("num", numeralOf classes (c :: text))]⟩
        (suffixFound classes (Place.after ⟨prev, c :: text⟩ (numeralOf classes (c :: text))))) := by
  refine first_seq_of_some ?_ ?_
  · rw [first_group, first_numeral hc]
    rfl
  · rw [first_opt, first_group]
    rfl

theorem first_amount_eq_none (h : ∀ c ∈ place.rest.head?, (classes.digit c).isSome = false) :
    (amountPattern classes).first place = none := by
  obtain ⟨prev, rest⟩ := place
  have hnumeral : (numeralPattern classes).first ⟨prev, rest⟩ = none := by
    refine first_seq_of_none ?_
    cases rest with
    | nil => rfl
    | cons c rest => rw [digit, first_char_cons, h c rfl]; rfl
  refine first_seq_of_none ?_
  rw [first_group, hnumeral]
  rfl

theorem numberPattern_eq : numberPattern classes = .seq (.notBehind (bars classes))
    (.seq (.opt (.group "money" (.char (· = '$')))) (amountPattern classes)) := rfl

theorem first_money_cons : (opt (.group "money" (.char (· = '$')))).first ⟨prev, c :: text⟩ =
    some (if c = '$' then ⟨['$'], [("money", ['$'])]⟩ else ⟨[], []⟩) := by
  rw [first_opt, first_group, first_char_cons]
  by_cases hc : c = '$' <;> simp [hc]

theorem first_number {dollar : List Char} (hprev : prev.any (bars classes) = false)
    (hdollar : dollar = [] ∨ dollar = ['$']) (hc : (classes.digit c).isSome = true) :
    (numberPattern classes).first ⟨prev, dollar ++ c :: text⟩ =
      some (numberFound classes dollar ⟨dollar.getLast?.or prev, c :: text⟩) := by
  have hlook : (notBehind (bars classes)).first ⟨prev, dollar ++ c :: text⟩ = some ⟨[], []⟩ := by
    rw [notBehind, first_look, hprev]
    rfl
  have hdollarDigit : classes.digit '$' = none := digit_eq_none (by decide) (by decide)
  have hne : c ≠ '$' := by
    rintro rfl
    rw [hdollarDigit] at hc
    cases hc
  rw [numberPattern_eq]
  rcases hdollar with rfl | rfl
  · have hmoney : (opt (.group "money" (.char (· = '$')))).first ⟨prev, c :: text⟩ =
        some ⟨[], []⟩ := by
      rw [first_money_cons, if_neg hne]
    rw [first_seq_of_some hlook (first_seq_of_some hmoney (first_amount hc))]
    simp [Found.append, numberFound, Place.after]
  · have hmoney : (opt (.group "money" (.char (· = '$')))).first ⟨prev, '$' :: c :: text⟩ =
        some ⟨['$'], [("money", ['$'])]⟩ := by
      rw [first_money_cons, if_pos rfl]
    rw [first_seq_of_some hlook (first_seq_of_some hmoney (first_amount hc))]
    simp [Found.append, numberFound, Place.after]

theorem first_number_eq_none (hplain : ∀ c ∈ text.head?, (classes.digit c).isSome = false)
    (hmoney : ∀ rest, text = '$' :: rest → ∀ c ∈ rest.head?, (classes.digit c).isSome = false) :
    (numberPattern classes).first ⟨prev, text⟩ = none := by
  have hamount : ∀ found ∈ (opt (.group "money" (.char (· = '$')))).results ⟨prev, text⟩,
      (amountPattern classes).first (Place.after ⟨prev, text⟩ found.text) = none := by
    intro found hfound
    refine first_amount_eq_none ?_
    cases text with
    | nil =>
        obtain rfl : found = ⟨[], []⟩ := by simpa [opt, results] using hfound
        exact hplain
    | cons c rest =>
        by_cases hc : c = '$'
        · subst hc
          have hcases : found = ⟨['$'], [("money", ['$'])]⟩ ∨ found = ⟨[], []⟩ := by
            simpa [opt, results] using hfound
          rcases hcases with rfl | rfl
          · exact hmoney rest rfl
          · exact hplain
        · obtain rfl : found = ⟨[], []⟩ := by simpa [opt, results, hc] using hfound
          exact hplain
  rw [numberPattern_eq]
  refine first_seq_eq_none fun found hfound => ?_
  have htext : found.text = [] := by
    simp only [notBehind, results] at hfound
    split at hfound
    · rw [List.mem_singleton.mp hfound]
    · cases hfound
  rw [htext, after_nil]
  exact first_seq_eq_none hamount

theorem exists_of_first_number {found : Found}
    (h : (numberPattern classes).first ⟨prev, text⟩ = some found) :
    prev.any (bars classes) = false ∧ ∃ dollar c rest, text = dollar ++ c :: rest ∧
      (dollar = [] ∨ dollar = ['$']) ∧ (classes.digit c).isSome = true ∧
      found = numberFound classes dollar ⟨dollar.getLast?.or prev, c :: rest⟩ := by
  have hprev : prev.any (bars classes) = false := by
    by_contra hbars
    have hlook : (notBehind (bars classes)).first ⟨prev, text⟩ = none := by
      rw [notBehind, first_look, Bool.eq_true_of_not_eq_false hbars]
      rfl
    rw [numberPattern_eq, first_seq_of_none hlook] at h
    cases h
  refine ⟨hprev, ?_⟩
  by_cases hplain : ∀ c ∈ text.head?, (classes.digit c).isSome = false
  · by_cases hmoney : ∀ rest, text = '$' :: rest → ∀ c ∈ rest.head?,
      (classes.digit c).isSome = false
    · rw [first_number_eq_none hplain hmoney] at h
      cases h
    · push Not at hmoney
      obtain ⟨rest, rfl, c, hc, hdigit⟩ := hmoney
      obtain ⟨more, rfl⟩ := List.head?_eq_some_iff.mp hc
      have hdigit := Bool.eq_true_of_not_eq_false hdigit
      have hfound : (numberPattern classes).first ⟨prev, ['$'] ++ c :: more⟩ = _ :=
        first_number hprev (.inr rfl) hdigit
      exact ⟨['$'], c, more, rfl, .inr rfl, hdigit, Option.some.inj (h.symm.trans hfound)⟩
  · push Not at hplain
    obtain ⟨c, hc, hdigit⟩ := hplain
    obtain ⟨rest, rfl⟩ := List.head?_eq_some_iff.mp hc
    have hdigit := Bool.eq_true_of_not_eq_false hdigit
    have hfound : (numberPattern classes).first ⟨prev, [] ++ c :: rest⟩ = _ :=
      first_number hprev (.inl rfl) hdigit
    exact ⟨[], c, rest, rfl, .inl rfl, hdigit, Option.some.inj (h.symm.trans hfound)⟩

end Patterns

section Crossing

variable {prev : Option Char} {c : Char} {text : List Char} {place : Place}

def Unfigured (c : Char) : Prop := c.isDigit = false ∧ c ≠ '$'

theorem isDigit_iff (c : Char) : c.isDigit = true ↔ 48 ≤ c.toNat ∧ c.toNat ≤ 57 := by
  simp only [Char.isDigit, Bool.and_eq_true, decide_eq_true_eq, UInt32.le_iff_toNat_le]
  rfl

theorem unfigured_of_isSpace (h : isSpace c = true) : Unfigured c := by
  simp only [isSpace, decide_eq_true_eq] at h
  constructor
  · rw [← Bool.not_eq_true, isDigit_iff]
    omega
  · rintro rfl
    simp at h

theorem unfigured_of_sameLetter {letter : Char} (hletter : letter.isLower = true)
    (h : sameLetter letter c = true) : Unfigured c := by
  rcases sameLetter_cases h with rfl | rfl | rfl | rfl | rfl
  · have hlow (hsmall : c.toNat ≤ 57) : False := by
      rw [toLower_eq_self (.inl (by omega))] at hletter
      delta Char.isLower at hletter
      simp only [Bool.and_eq_true, decide_eq_true_eq] at hletter
      have hge : 97 ≤ c.toNat := hletter.1
      omega
    refine ⟨?_, fun hc => hlow (by simp [hc])⟩
    rw [← Bool.not_eq_true, isDigit_iff]
    exact fun hdigit => hlow hdigit.2
  all_goals exact ⟨by decide, by decide⟩

theorem within_word {letters : List Char} (h : letters.all Char.isLower = true) :
    (word letters).Within Unfigured := by
  induction letters with
  | nil => trivial
  | cons letter letters ih =>
      rw [List.all_cons, Bool.and_eq_true] at h
      exact ⟨fun c hc => unfigured_of_sameLetter h.1 hc, ih h.2⟩

theorem within_suffixPattern : (suffixPattern classes).Within Unfigured := by
  have hspace : (star space).Within Unfigured := fun c hc => unfigured_of_isSpace hc
  have hliteral (text : String) (h : text.toList.all Char.isLower = true) :
      (literal text).Within Unfigured :=
    within_word h
  refine ⟨⟨hspace, fun c hc => ?_⟩, hspace, ⟨?_, ?_, ?_, ?_, ?_, ?_, trivial⟩, trivial⟩
  · obtain rfl := of_decide_eq_true hc
    exact ⟨by decide, by decide⟩
  all_goals exact hliteral _ (by decide)

theorem ungrouped_suffixPattern : (suffixPattern classes).Ungrouped := by
  simp [suffixPattern, Ungrouped, space, anyOf, literal, word, boundary]

theorem suffixFound_eq (place : Place) : suffixFound classes place = ⟨[], []⟩ ∨
    ∃ found ∈ (suffixPattern classes).results place,
      suffixFound classes place = ⟨found.text, [("suffix", found.text)]⟩ := by
  cases hfirst : (suffixPattern classes).first place with
  | none => exact .inl (by simp [suffixFound, hfirst])
  | some found =>
      have hmem := List.mem_of_head? hfirst
      exact .inr ⟨found, hmem, by simp [suffixFound, hfirst, ungrouped_suffixPattern.groups hmem]⟩

theorem unfigured_of_mem_suffix (h : c ∈ (suffixFound classes place).text) : Unfigured c := by
  rcases suffixFound_eq place with hnone | ⟨found, hfound, hsome⟩
  · rw [hnone] at h
    cases h
  · rw [hsome] at h
    exact within_suffixPattern.text hfound c h

theorem bars_of_mem_fraction (h : c ∈ fractionOf classes text) : bars classes c = true := by
  have hdigit {d : Char} (hd : (classes.digit d).isSome = true) : bars classes d = true := by
    simp [bars, classes.word_of_digit d hd]
  unfold fractionOf at h
  split at h
  · split at h
    case isTrue hd =>
      rcases List.mem_cons.mp h with rfl | h
      · simp [bars]
      rcases List.mem_cons.mp h with rfl | h
      · exact hdigit hd
      · exact hdigit (List.mem_takeWhile_imp (p := fun d => (classes.digit d).isSome) h)
    case isFalse => cases h
  · cases h

theorem head_fraction {d : Char} (h : d ∈ (fractionOf classes text).head?) : d = '.' := by
  unfold fractionOf at h
  split at h
  · split at h
    · simpa [eq_comm] using h
    · cases h
  · cases h

theorem exists_run_end {d : Char} {run : List Char} (hd : (classes.digit d).isSome = true)
    (hrun : ∀ c ∈ run, inRun classes c = true) :
    ∃ start last commas, d :: run = start ++ last :: commas ∧ (classes.digit last).isSome = true ∧
      ∀ c ∈ commas, c = ',' := by
  induction run using List.reverseRecOn with
  | nil => exact ⟨[], d, [], rfl, hd, by simp⟩
  | append_singleton run c ih =>
      obtain ⟨hrest, hc⟩ := List.forall_mem_append.mp hrun
      have hlast : inRun classes c = true := hc c (List.mem_singleton_self c)
      by_cases hdigit : (classes.digit c).isSome = true
      · exact ⟨d :: run, c, [], by simp, hdigit, by simp⟩
      · obtain ⟨start, last, commas, hsplit, hlastDigit, hcommas⟩ := ih hrest
        refine ⟨start, last, commas ++ [c], ?_, hlastDigit, ?_⟩
        · rw [← List.cons_append, hsplit, List.append_assoc, List.cons_append]
        · refine List.forall_mem_append.mpr ⟨hcommas, List.forall_mem_singleton.mpr ?_⟩
          simpa [inRun, hdigit] using hlast

theorem append_cons_eq_append {q : Char} {rest tail left right : List Char}
    (h : rest ++ q :: tail = left ++ right) :
    (∃ more, left = rest ++ q :: more) ∨ ∃ more, rest = left ++ more ∧
      right = more ++ q :: tail := by
  rcases List.append_eq_append_iff.mp h with ⟨more, hleft, hright⟩ | hright
  · cases more with
    | nil => exact .inr ⟨[], by simpa using hleft.symm, by simpa using hright.symm⟩
    | cons d more =>
        obtain ⟨rfl, -⟩ := List.cons.inj hright
        exact .inl ⟨more, hleft⟩
  · exact .inr hright

structure Clear (classes : CharClasses) (lead : List Char) : Prop where
  last : lead.getLast?.any (bars classes) = false
  run : ¬ ∃ start d commas, lead = start ++ d :: commas ∧ (classes.digit d).isSome = true ∧
    ∀ c ∈ commas, c = ','
  dollar : ∀ start, lead = start ++ ['$'] → start.getLast?.any (bars classes) = true

theorem clear_concat {start : List Char} (hbars : bars classes c = false) (hcomma : c ≠ ',')
    (hdollar : c ≠ '$') : Clear classes (start ++ [c]) where
  last := by simpa using hbars
  run := by
    rintro ⟨begin, d, commas, hsplit, hdigit, hcommas⟩
    rcases List.eq_nil_or_concat commas with rfl | ⟨init, last, rfl⟩
    · obtain ⟨-, rfl⟩ : start = begin ∧ c = d := by simpa using hsplit
      simp [bars, classes.word_of_digit c hdigit] at hbars
    · have hlast := congrArg List.getLast? hsplit
      obtain rfl : c = last := by simpa [List.getLast?_append, List.getLast?_cons] using hlast
      exact hcomma (hcommas c (by simp))
  dollar := by
    intro begin hsplit
    obtain ⟨-, rfl⟩ : start = begin ∧ c = '$' := by simpa using hsplit
    exact absurd rfl hdollar

theorem Clear.staysIn {lead post : List Char} {q : Char} (h : Clear classes lead)
    (hq : q = '$' ∨ q.isDigit = true) : StaysIn (numberPattern classes) none lead (q :: post) := by
  rintro start rest rfl hne found hfound
  obtain ⟨hprev, dollar, c, more, htext, hdollar, hdigit, heq⟩ := exists_of_first_number hfound
  have hrunHead : inRun classes c = true := by simp [inRun, hdigit]
  have hfoundText : found.text = (dollar ++ ((c :: more).takeWhile (inRun classes) ++
      fractionOf classes ((c :: more).dropWhile (inRun classes)))) ++ (suffixFound classes
        (Place.after ⟨dollar.getLast?.or (start.getLast?.or none),
          c :: more⟩ (numeralOf classes (c :: more)))).text := by
    rw [heq]
    rfl
  refine ⟨by simp [hfoundText, hrunHead], ?_⟩
  by_contra hlong
  obtain ⟨tail, htail⟩ : ∃ tail, found.text = rest ++ q :: tail := by
    obtain ⟨behind, hbehind⟩ := text_prefix (List.mem_of_head? hfound)
    rcases append_cons_eq_append hbehind.symm with h | ⟨more, hrest, -⟩
    · exact h
    · rw [hrest, List.length_append] at hlong
      omega
  rw [hfoundText] at htail
  rcases append_cons_eq_append htail.symm with ⟨more₁, h₁⟩ | ⟨more₁, -, h₁⟩
  swap
  · -- The figure would begin in the suffix.
    have hunfigured := unfigured_of_mem_suffix (h₁ ▸ List.mem_append_right more₁ List.mem_cons_self)
    rcases hq with rfl | hq
    · exact hunfigured.2 rfl
    · rw [hunfigured.1] at hq
      cases hq
  rw [← List.append_assoc] at h₁
  rcases append_cons_eq_append h₁.symm with ⟨more₂, h₂⟩ | ⟨more₂, hrest, h₂⟩
  swap
  · -- It would begin in the fraction.
    rcases List.eq_nil_or_concat more₂ with rfl | ⟨init, d, rfl⟩
    · have hpoint : q = '.' := head_fraction (by rw [h₂]; rfl)
      rcases hq with rfl | hq
      · cases hpoint
      · rw [hpoint] at hq
        cases hq
    · have hbars := bars_of_mem_fraction (c := d) (by rw [h₂]; simp)
      have hlast := h.last
      rw [hrest, List.concat_eq_append, ← List.append_assoc, ← List.append_assoc,
        List.getLast?_append] at hlast
      simp [hbars] at hlast
  rcases append_cons_eq_append h₂.symm with ⟨more₃, h₃⟩ | ⟨more₃, hrest, h₃⟩
  · have hlength := congrArg List.length h₃
    have hpos := List.length_pos_iff.mpr hne
    have hle : dollar.length ≤ 1 := by rcases hdollar with rfl | rfl <;> simp
    simp only [List.length_append, List.length_cons] at hlength
    omega
  · rcases more₃ with _ | ⟨d, more₃⟩
    · rw [List.append_nil] at hrest
      obtain rfl : dollar = ['$'] := hdollar.resolve_left fun hnil => hne (hrest.trans hnil)
      have hbars := h.dollar start (by rw [hrest])
      rw [Option.or_none, hbars] at hprev
      cases hprev
    · rw [List.takeWhile_cons_of_pos hrunHead] at h₃
      obtain ⟨rfl, hrun⟩ := List.cons.inj h₃
      have hinner : ∀ d ∈ more₃, inRun classes d = true := fun d hd =>
        List.mem_takeWhile_imp (by rw [hrun]; exact List.mem_append_left _ hd)
      obtain ⟨start', last, commas, hsplit, hlast, hcommas⟩ := exists_run_end hdigit hinner
      refine h.run ⟨start ++ dollar ++ start', last, commas, ?_, hlast, hcommas⟩
      rw [hrest, hsplit, List.append_assoc, List.append_assoc]

end Crossing

end AiAnalytics.App.Validation
