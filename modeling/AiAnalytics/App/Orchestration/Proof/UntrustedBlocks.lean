import AiAnalytics.App.Orchestration.History
import Mathlib.Data.List.DropRight

/-!
# Blocks of untrusted data

What stands after a `<` decides whether it begins a tag, and only up to the next character that no
tag has. So the tags of a message are those of its parts, and a neutralized part has none.
-/

namespace AiAnalytics.App.DeepAgents

open Lib Lib.Regex

inductive TagKind where
  | opening
  | closing
deriving DecidableEq, Repr

section Tags

def kindOf (found : Found) : TagKind := if '/' ∈ found.text then .closing else .opening

def tags (text : List Char) : List TagKind := (tagPattern.finditer text).map kindOf

def tagAfter (text : List Char) : Option TagKind :=
  let rest := text.dropWhile isSpace
  if rest.head? = some '/' then
    if beginsWord untrustedTag (rest.tail.dropWhile isSpace) then some .closing else none
  else if beginsWord untrustedTag rest then some .opening else none

def innerPattern : Regex :=
  .seq (.star (.char isSpace)) (.seq (.opt (.char (· = '/')))
    (.seq (.star (.char isSpace)) (.word untrustedTag)))

theorem exists_parts {text : List Char} (h : innerPattern.Spells text) :
    ∃ spaces slash more name, text = spaces ++ (slash ++ (more ++ name)) ∧
      (∀ c ∈ spaces, isSpace c = true) ∧
      (slash = ['/'] ∨ slash = []) ∧ (∀ c ∈ more, isSpace c = true) ∧
      (word untrustedTag).Spells name := by
  have hspaces {text : List Char} (h : (star (char isSpace)).Spells text) : ∀ c ∈ text, isSpace c =
      true := by
    obtain ⟨parts, hparts, rfl⟩ := h
    intro c hc
    obtain ⟨part, hpart, hmem⟩ := List.mem_flatten.mp hc
    obtain ⟨d, hd, rfl⟩ := hparts part hpart
    exact List.mem_singleton.mp hmem ▸ hd
  obtain ⟨spaces, rest, h₁, ⟨slash, rest, h₂, ⟨more, name, h₃, hname, rfl⟩, rfl⟩, rfl⟩ := h
  refine ⟨spaces, slash, more, name, rfl, hspaces h₁, ?_, hspaces h₃, hname⟩
  rcases h₂ with ⟨c, hc, rfl⟩ | hnil
  · exact .inl (by rw [of_decide_eq_true hc])
  · exact .inr hnil

structure Bar (c : Char) : Prop where
  space : isSpace c = false
  slash : c ≠ '/'
  letter : ∀ letter ∈ untrustedTag, sameLetter letter c = false

theorem unlettered {c : Char} (h : untrustedTag.all (fun letter => !sameLetter letter c) = true) :
    ∀ letter ∈ untrustedTag, sameLetter letter c = false := by
  intro letter hletter
  have hletter := List.all_eq_true.mp h letter hletter
  simpa using hletter

theorem not_letter_of_isSpace {c : Char} (hc : isSpace c = true) :
    ∀ letter ∈ untrustedTag, sameLetter letter c = false := by
  have hname : untrustedTag.all (fun letter => !isSpace letter) = true := by decide
  intro letter hletter
  have hspace := List.all_eq_true.mp hname letter hletter
  exact not_sameLetter_of_isSpace (by simpa using hspace) hc

theorem dropWhile_append_cons {p : Char → Bool} {c : Char} (hc : p c = false)
    (text more : List Char) : (text ++ c :: more).dropWhile p = text.dropWhile p ++ c :: more := by
  induction text with
  | nil => simp [hc]
  | cons d text ih => by_cases hd : p d = true <;> simp [hd, ih]

theorem tagAfter_bar {c : Char} (hc : Bar c) (text more : List Char) :
    tagAfter (text ++ c :: more) = tagAfter text := by
  simp only [tagAfter, dropWhile_append_cons hc.space]
  rcases text.dropWhile isSpace with _ | ⟨d, rest⟩
  · have hslash := hc.slash
    have hnone : beginsWord untrustedTag (c :: more) = beginsWord untrustedTag [] :=
      beginsWord_append_cons hc.letter [] more
    simp [hslash, hnone]
  · have hword : beginsWord untrustedTag (d :: rest ++ c :: more) =
        beginsWord untrustedTag (d :: rest) :=
      beginsWord_append_cons hc.letter _ _
    rw [hword, List.cons_append, List.head?_cons, List.head?_cons, List.tail_cons, List.tail_cons,
      dropWhile_append_cons hc.space, beginsWord_append_cons hc.letter]

theorem dropWhile_append_of_ne_nil {p : Char → Bool} {text : List Char} (h : text.dropWhile p ≠ [])
    (more : List Char) : (text ++ more).dropWhile p = text.dropWhile p ++ more := by
  rw [List.dropWhile_append, if_neg (by simpa using h)]

theorem beginsWord_space {c : Char} (hc : isSpace c = true) (text : List Char) :
    beginsWord untrustedTag ((text ++ [c]).dropWhile isSpace) =
      beginsWord untrustedTag (text.dropWhile isSpace) := by
  by_cases hnil : text.dropWhile isSpace = []
  · rw [List.dropWhile_append, hnil]
    simp [hc]
  · rw [dropWhile_append_of_ne_nil hnil, beginsWord_append_cons (not_letter_of_isSpace hc)]

theorem tagAfter_space {c : Char} (hc : isSpace c = true) (text : List Char) :
    tagAfter (text ++ [c]) = tagAfter text := by
  by_cases hnil : text.dropWhile isSpace = []
  · simp [tagAfter, List.dropWhile_append, hnil, hc]
  · obtain ⟨d, rest, hrest⟩ := List.exists_cons_of_ne_nil hnil
    have hword : beginsWord untrustedTag (d :: rest ++ [c]) = beginsWord untrustedTag (d :: rest) :=
      beginsWord_append_cons (not_letter_of_isSpace hc) _ _
    simp only [tagAfter, dropWhile_append_of_ne_nil hnil, hrest, hword]
    rw [List.cons_append, List.head?_cons, List.head?_cons, List.tail_cons, List.tail_cons,
      beginsWord_space hc]

theorem tagAfter_append {kind : TagKind} {text : List Char} (h : tagAfter text = some kind)
    (more : List Char) : tagAfter (text ++ more) = some kind := by
  have hempty : beginsWord untrustedTag [] = false := rfl
  by_cases hnil : text.dropWhile isSpace = []
  · simp [tagAfter, hnil, hempty] at h
  · obtain ⟨d, rest, hrest⟩ := List.exists_cons_of_ne_nil hnil
    simp only [tagAfter, hrest] at h
    simp only [tagAfter, dropWhile_append_of_ne_nil hnil, hrest]
    rw [List.cons_append, List.head?_cons, List.tail_cons]
    rw [List.head?_cons, List.tail_cons] at h
    split at h
    case isTrue hslash =>
      rw [if_pos hslash]
      split at h
      case isTrue hword =>
        have hne : rest.dropWhile isSpace ≠ [] := by
          intro hnone
          rw [hnone, hempty] at hword
          cases hword
        rw [dropWhile_append_of_ne_nil hne, if_pos (beginsWord_append hword more), h]
      case isFalse => cases h
    case isFalse hslash =>
      rw [if_neg hslash]
      split at h
      case isTrue hword => rw [← List.cons_append, if_pos (beginsWord_append hword more), h]
      case isFalse => cases h

theorem not_bar_of_tagAfter {c : Char} (hc : Bar c) {text more : List Char}
    (hnone : tagAfter text = none) (hsome : (tagAfter (text ++ more)).isSome = true) :
    c ∉ text := by
  intro hmem
  obtain ⟨before, after, rfl⟩ := List.append_of_mem hmem
  rw [List.append_assoc, List.cons_append, tagAfter_bar hc] at hsome
  rw [tagAfter_bar hc] at hnone
  rw [hnone] at hsome
  cases hsome

end Tags

section Reading

variable {text more : List Char} {prev : Option Char}

theorem untrustedTag_eq : untrustedTag = 'u' :: "ntrusted_tool_data".toList := by decide

theorem exists_head_of_spells {name : List Char} (h : (word untrustedTag).Spells name) :
    ∃ c rest, name = c :: rest ∧ isSpace c = false ∧ c ≠ '/' := by
  rw [untrustedTag_eq] at h
  obtain ⟨_, rest, ⟨c, hc, rfl⟩, -, rfl⟩ := h
  refine ⟨c, rest, rfl, ?_, ?_⟩
  · rw [← Bool.not_eq_true]
    intro hspace
    have hfalse : sameLetter 'u' c = false := not_letter_of_isSpace hspace 'u' (by decide)
    rw [hfalse] at hc
    cases hc
  · rintro rfl
    revert hc
    decide

theorem tagAfter_of_spells (h : innerPattern.Spells text) (more : List Char) :
    tagAfter (text ++ more) = some (if '/' ∈ text then .closing else .opening) ∧ '<' ∉ text := by
  obtain ⟨spaces, slash, inner, name, rfl, hspaces, hslash, hinner, hname⟩ := exists_parts h
  obtain ⟨hword, hletters⟩ := beginsWord_of_spells hname more
  obtain ⟨c, rest, rfl, hspace, hne⟩ := exists_head_of_spells hname
  have hno (d : Char) (hd : isSpace d = false)
      (hletter : ∀ letter ∈ untrustedTag, sameLetter letter d = false) :
      d ∉ spaces ∧ d ∉ inner ∧ d ∉ c :: rest := by
    refine ⟨fun hmem => ?_, fun hmem => ?_, fun hmem => ?_⟩
    · rw [hspaces d hmem] at hd
      cases hd
    · rw [hinner d hmem] at hd
      cases hd
    · obtain ⟨letter, hmember, hsame⟩ := hletters d hmem
      rw [hletter letter hmember] at hsame
      cases hsame
  have hdrop : (c :: rest ++ more).dropWhile isSpace = c :: rest ++ more := by simp [hspace]
  obtain ⟨hs₁, hs₂, hs₃⟩ := hno '/' (by decide) (unlettered (by decide))
  obtain ⟨hl₁, hl₂, hl₃⟩ := hno '<' (by decide) (unlettered (by decide))
  rcases hslash with rfl | rfl
  · have hread : (spaces ++ (['/'] ++ (inner ++ c :: rest)) ++ more).dropWhile isSpace =
        '/' :: (inner ++ (c :: rest ++ more)) := by
      rw [List.append_assoc, List.dropWhile_append_of_pos hspaces]
      simp [isSpace]
    constructor
    · simp only [tagAfter, hread, List.head?_cons, if_true, List.tail_cons]
      rw [List.dropWhile_append_of_pos hinner, hdrop, if_pos hword, if_pos (by simp)]
    · simp only [List.mem_append, not_or]
      exact ⟨hl₁, by decide, hl₂, hl₃⟩
  · have hread : (spaces ++ ([] ++ (inner ++ c :: rest)) ++ more).dropWhile isSpace =
        c :: rest ++ more := by
      rw [List.append_assoc, List.dropWhile_append_of_pos hspaces, List.nil_append,
        List.append_assoc, List.dropWhile_append_of_pos hinner, hdrop]
    have hhead : (c :: rest ++ more).head? ≠ some '/' := by simpa using hne
    constructor
    · rw [tagAfter, hread]
      simp only [hhead, if_false, hword, if_true]
      rw [if_neg]
      simp only [List.mem_append, not_or]
      exact ⟨hs₁, List.not_mem_nil, hs₂, hs₃⟩
    · simp only [List.mem_append, not_or]
      exact ⟨hl₁, List.not_mem_nil, hl₂, hl₃⟩

theorem first_name {place : Place}
    (h : beginsWord untrustedTag (place.rest.dropWhile isSpace) = true) :
    ∃ found, (Regex.seq (.star (.char isSpace)) (.word untrustedTag)).first place = some found := by
  obtain ⟨prev, text⟩ := place
  have hspaces : (star (char isSpace)).first ⟨prev, text⟩ = some ⟨text.takeWhile isSpace, []⟩ :=
    first_star_char
  have hrest : (Place.after ⟨prev, text⟩ (text.takeWhile isSpace)).rest = text.dropWhile isSpace :=
    drop_length_takeWhile _ _
  have hname : (word untrustedTag).first (Place.after ⟨prev, text⟩ (text.takeWhile isSpace)) = _ :=
    first_word (by rw [drop_length_takeWhile]; exact h)
  exact ⟨_, first_seq_of_some hspaces hname⟩

theorem first_slash {place : Place} : (opt (char (· = '/'))).first place =
    some (if place.rest.head? = some '/' then ⟨['/'], []⟩ else ⟨[], []⟩) := by
  obtain ⟨prev, _ | ⟨c, rest⟩⟩ := place
  · rfl
  · rw [first_opt, first_char_cons]
    by_cases hc : c = '/' <;> simp [hc]

theorem first_inner_of_tagAfter {kind : TagKind} (h : tagAfter text = some kind) :
    ∃ found, innerPattern.first ⟨prev, text⟩ = some found := by
  have hspaces : (star (char isSpace)).first ⟨prev, text⟩ = some ⟨text.takeWhile isSpace, []⟩ :=
    first_star_char
  have hrest : (Place.after ⟨prev, text⟩ (text.takeWhile isSpace)).rest = text.dropWhile isSpace :=
    drop_length_takeWhile _ _
  have hafter : ∃ found, (Regex.seq (.opt (.char (· = '/'))) (.seq (.star (.char isSpace))
      (.word untrustedTag))).first (Place.after ⟨prev, text⟩ (text.takeWhile isSpace)) =
        some found := by
    generalize Place.after ⟨prev, text⟩ (text.takeWhile isSpace) = place at hrest
    simp only [tagAfter, ← hrest] at h
    have hopt := @first_slash place
    by_cases hhead : place.rest.head? = some '/'
    · obtain ⟨rest, hcons⟩ := List.head?_eq_some_iff.mp hhead
      rw [if_pos hhead] at h hopt
      have hword : beginsWord untrustedTag ((place.after ['/']).rest.dropWhile isSpace) = true := by
        by_contra hword
        simp only [Place.after, hcons, List.length_cons, List.length_nil, List.drop_succ_cons,
          List.drop_zero] at hword
        simp [hcons, hword] at h
      obtain ⟨found, hfound⟩ := first_name hword
      exact ⟨_, first_seq_of_some hopt hfound⟩
    · rw [if_neg hhead] at h hopt
      have hword : beginsWord untrustedTag ((place.after []).rest.dropWhile isSpace) = true := by
        rw [after_nil, hrest, List.dropWhile_idempotent, ← hrest]
        by_contra hword
        simp [hword] at h
      obtain ⟨found, hfound⟩ := first_name hword
      exact ⟨_, first_seq_of_some hopt hfound⟩
  obtain ⟨found, hfound⟩ := hafter
  exact ⟨_, first_seq_of_some hspaces hfound⟩

theorem tagPattern_eq : tagPattern = .seq (.char (· = '<')) (.group "1" innerPattern) := rfl

theorem ungrouped_innerPattern : innerPattern.Ungrouped :=
  ⟨trivial, ⟨trivial, trivial⟩, trivial, ungrouped_word _⟩

theorem first_tag_of_ne {c : Char} (hc : c ≠ '<') : tagPattern.first ⟨prev, c :: text⟩ = none := by
  refine first_seq_of_none ?_
  rw [first_char_cons, if_neg (by simpa using hc)]

theorem first_tag : tagPattern.first ⟨prev, '<' :: text⟩ =
    (innerPattern.first ⟨some '<', text⟩).map fun found =>
      ⟨'<' :: found.text, [("1", found.text)]⟩ := by
  have hhead : (char (· = '<')).first ⟨prev, '<' :: text⟩ = some ⟨['<'], []⟩ := by
    simp [first_char_cons]
  cases hinner : innerPattern.first ⟨some '<', text⟩ with
  | none =>
      rw [tagPattern_eq, first_seq_eq_none]
      · rfl
      · intro found hfound
        obtain rfl : found = ⟨['<'], []⟩ := by simpa [results] using hfound
        have hplace : Place.after ⟨prev, '<' :: text⟩ ['<'] = ⟨some '<', text⟩ := rfl
        rw [hplace, first_group, hinner]
        rfl
  | some found =>
      have hgroup : (group "1" innerPattern).first ⟨some '<', text⟩ =
          some ⟨found.text, [("1", found.text)]⟩ := by
        rw [first_group, hinner, Option.map_some,
          ungrouped_innerPattern.groups (List.mem_of_head? hinner)]
      rw [tagPattern_eq, first_seq_of_some hhead hgroup]
      rfl

theorem first_tag_cases : (tagAfter text = none ∧ tagPattern.first ⟨prev, '<' :: text⟩ = none) ∨
    ∃ name rest, text = name ++ rest ∧ '<' ∉ name ∧
      tagPattern.first ⟨prev, '<' :: text⟩ = some ⟨'<' :: name, [("1", name)]⟩ ∧
        tagAfter text = some (kindOf ⟨'<' :: name, [("1", name)]⟩) := by
  cases hinner : innerPattern.first ⟨some '<', text⟩ with
  | none =>
      refine .inl ⟨?_, by rw [first_tag, hinner]; rfl⟩
      cases hafter : tagAfter text with
      | none => rfl
      | some kind =>
          obtain ⟨found, hfound⟩ : ∃ found, innerPattern.first ⟨some '<', text⟩ = some found :=
            first_inner_of_tagAfter hafter
          rw [hinner] at hfound
          cases hfound
  | some found =>
      have hmem := List.mem_of_head? hinner
      obtain ⟨rest, hrest⟩ := text_prefix hmem
      obtain ⟨hafter, hname⟩ := tagAfter_of_spells (spells_of_mem_results hmem) rest
      have htext : text = found.text ++ rest := hrest.symm
      refine .inr ⟨found.text, rest, htext, hname, by rw [first_tag, hinner]; rfl, ?_⟩
      rw [htext, hafter]
      simp [kindOf]

theorem scan_tag_induction {motive : List Char → List (Char ⊕ Found) → Prop} (nil : motive [] [])
    (plain : ∀ c text segments, (c = '<' → tagAfter text = none) → motive text segments →
      motive (c :: text) (.inl c :: segments))
    (tag : ∀ name rest segments, '<' ∉ name →
      tagAfter (name ++ rest) = some (kindOf ⟨'<' :: name, [("1", name)]⟩) → motive rest segments →
        motive ('<' :: (name ++ rest)) (.inr ⟨'<' :: name, [("1", name)]⟩ :: segments))
    (prev : Option Char) (text : List Char) : motive text (tagPattern.scan 0 prev text) := by
  induction hn : text.length using Nat.strong_induction_on generalizing prev text with
  | _ n ih =>
      cases text with
      | nil => exact nil
      | cons c text =>
          have hplain (hnone : tagPattern.first ⟨prev, c :: text⟩ = none)
              (hc : c = '<' → tagAfter text = none) :
              motive (c :: text) (tagPattern.scan 0 prev (c :: text)) := by
            rw [scan_cons_of_none hnone]
            exact plain c text _ hc (ih text.length (by simp [← hn]) (some c) text rfl)
          by_cases hc : c = '<'
          · subst hc
            rcases @first_tag_cases text prev with ⟨hafter, hnone⟩ |
              ⟨name, rest, rfl, hname, hsome, hafter⟩
            · exact hplain hnone fun _ => hafter
            · have hscan := scan_of_some hsome (by simp)
              have hrest : (Place.after ⟨prev, '<' :: (name ++ rest)⟩ ('<' :: name)).rest =
                  rest := by
                simp [Place.after]
              rw [hscan, hrest]
              refine tag name rest _ hname hafter (ih rest.length ?_ _ rest rfl)
              rw [← hn, List.length_cons, List.length_append]
              omega
          · exact hplain (first_tag_of_ne hc) fun h => absurd h hc

end Reading

section Counting

variable {text more : List Char}

def tagsOf : List Char → List TagKind
  | [] => []
  | c :: text => (if c = '<' then (tagAfter text).toList else []) ++ tagsOf text

def neutralized : List Char → List Char
  | [] => []
  | c :: text =>
    (if c = '<' ∧ (tagAfter text).isSome then "&lt;".toList else [c]) ++ neutralized text

theorem tagsOf_append_of_not_mem (h : '<' ∉ text) (more : List Char) :
    tagsOf (text ++ more) = tagsOf more := by
  induction text with
  | nil => rfl
  | cons c text ih =>
      rw [List.mem_cons, not_or] at h
      rw [List.cons_append, tagsOf, if_neg (Ne.symm h.1), List.nil_append, ih h.2]

theorem neutralized_append_of_not_mem (h : '<' ∉ text) (more : List Char) :
    neutralized (text ++ more) = text ++ neutralized more := by
  induction text with
  | nil => rfl
  | cons c text ih =>
      rw [List.mem_cons, not_or] at h
      rw [List.cons_append, neutralized, if_neg fun hc => h.1 hc.1.symm, ih h.2]
      rfl

theorem tags_eq (text : List Char) : tags text = tagsOf text := by
  rw [tags, finditer]
  refine scan_tag_induction (motive := fun text segments =>
    (segments.filterMap Sum.getRight?).map kindOf = tagsOf text) rfl ?_ ?_ none text
  · intro c text segments hc ih
    have hskip : (Sum.inl c :: segments).filterMap Sum.getRight? =
      segments.filterMap Sum.getRight? := rfl
    rw [tagsOf, ← ih, hskip]
    by_cases hlt : c = '<'
    · simp [hlt, hc hlt]
    · simp [hlt]
  · intro name rest segments hname hafter ih
    rw [tagsOf, if_pos rfl, hafter, tagsOf_append_of_not_mem hname, ← ih]
    rfl

theorem neutralize_eq (text : List Char) : neutralize text = neutralized text := by
  rw [neutralize, sub_eq]
  refine scan_tag_induction (motive := fun text segments =>
    segments.flatMap (Sum.elim (fun c => [c])
    fun found => "&lt;".toList ++ found.group "1") = neutralized text) rfl ?_ ?_ none text
  · intro c text segments hc ih
    have hplain : ¬ (c = '<' ∧ (tagAfter text).isSome = true) := by
      rintro ⟨hlt, hsome⟩
      rw [hc hlt] at hsome
      cases hsome
    rw [neutralized, if_neg hplain, ← ih]
    rfl
  · intro name rest segments hname hafter ih
    rw [neutralized, if_pos ⟨rfl, by rw [hafter]; rfl⟩, neutralized_append_of_not_mem hname, ← ih]
    simp [Found.group]

theorem bar_lt : Bar '<' := ⟨by decide, by decide, unlettered (by decide)⟩

theorem bar_amp : Bar '&' := ⟨by decide, by decide, unlettered (by decide)⟩

theorem bar_bracket : Bar '[' := ⟨by decide, by decide, unlettered (by decide)⟩

theorem tagAfter_neutralized (text : List Char) : tagAfter (neutralized text) = tagAfter text := by
  by_cases hlt : '<' ∈ text
  · obtain ⟨before, after, rfl, hbefore⟩ := List.eq_append_cons_of_mem hlt
    rw [neutralized_append_of_not_mem hbefore, tagAfter_bar bar_lt, neutralized]
    split
    · exact tagAfter_bar bar_amp before _
    · exact tagAfter_bar bar_lt before _
  · have hsame := neutralized_append_of_not_mem hlt []
    rw [List.append_nil, neutralized, List.append_nil] at hsame
    rw [hsame]

theorem tagsOf_neutralized (text : List Char) : tagsOf (neutralized text) = [] := by
  induction text with
  | nil => rfl
  | cons c text ih =>
      rw [neutralized]
      by_cases htag : c = '<' ∧ (tagAfter text).isSome = true
      · rw [if_pos htag, tagsOf_append_of_not_mem (by decide), ih]
      · rw [if_neg htag, List.singleton_append, tagsOf, ih, List.append_nil, tagAfter_neutralized]
        by_cases hlt : c = '<'
        · have hnone : tagAfter text = none := by simpa [hlt] using htag
          simp [hnone]
        · simp [hlt]

theorem tagsOf_append_line (text more : List Char) :
    tagsOf (text ++ '\n' :: '<' :: more) = tagsOf text ++ tagsOf ('<' :: more) := by
  induction text with
  | nil => exact @tagsOf_append_of_not_mem ['\n'] (by decide) _
  | cons c text ih =>
      have hafter : tagAfter (text ++ '\n' :: '<' :: more) = tagAfter text := by
        have hbar := tagAfter_bar bar_lt (text ++ ['\n']) more
        rw [List.append_assoc, List.singleton_append] at hbar
        rw [hbar, tagAfter_space (by decide)]
      rw [List.cons_append, tagsOf, tagsOf, hafter, ih, List.append_assoc]

theorem not_mem_replaceChar {c old : Char} {new : String} {text : List Char} (hnew : c ∉ new.toList)
    (h : c ∉ text ∨ c = old) : c ∉ replaceChar old new text := by
  rw [replaceChar, List.mem_flatMap]
  rintro ⟨d, hd, hmem⟩
  split at hmem
  case isTrue => exact hnew hmem
  case isFalse hne =>
    obtain rfl := List.mem_singleton.mp hmem
    rcases h with h | h
    · exact h hd
    · exact hne h

theorem not_mem_attr (value : List Char) : '<' ∉ attr value :=
  not_mem_replaceChar (by decide) (.inl (not_mem_replaceChar (by decide) (.inl
    (not_mem_replaceChar (by decide) (.inr rfl)))))

theorem not_mem_tagAttribute {name : String} (hname : '<' ∉ name.toList) (value : List Char) :
    '<' ∉ tagAttribute name value := by
  simp only [tagAttribute, List.mem_append, List.mem_cons, not_or]
  exact ⟨⟨⟨⟨by decide, hname⟩, by decide⟩, not_mem_attr value⟩, by decide⟩

variable {caps : TurnCaps}

theorem not_mem_attrs (obs : Obs) : '<' ∉ attrs caps obs := by
  have hsource : '<' ∉ "source=\"mcp\"".toList := by decide
  have htool : '<' ∉ tagAttribute "tool" obs.tool := not_mem_tagAttribute (by decide) _
  have hqueryId (queryId : List Char) : '<' ∉ tagAttribute "query_id" queryId :=
    not_mem_tagAttribute (by decide) _
  have harguments (arguments : List Char) : '<' ∉ tagAttribute "arguments" arguments :=
    not_mem_tagAttribute (by decide) _
  unfold attrs
  intro hmem
  rcases List.mem_append.mp hmem with hmem | hmem
  · rcases List.mem_append.mp hmem with hmem | hmem
    · exact (List.mem_append.mp hmem).elim hsource htool
    · cases hid : obs.queryId with
      | none =>
          rw [hid] at hmem
          cases hmem
      | some queryId =>
          rw [hid] at hmem
          by_cases hempty : queryId = []
          · simp [hempty] at hmem
          · exact hqueryId queryId (by simpa [hempty] using hmem)
  · cases hgiven : obs.arguments with
    | none =>
        rw [hgiven] at hmem
        cases hmem
    | some arguments =>
        rw [hgiven] at hmem
        exact harguments _ hmem

theorem tagsOf_lt {kind : TagKind} (h : tagAfter text = some kind) :
    tagsOf ('<' :: text) = kind :: tagsOf text := by
  rw [tagsOf, if_pos rfl, h]
  rfl

theorem tagsOf_block (obs : Obs) (more : List Char) :
    tagsOf (block caps obs ++ '\n' :: more) = .opening :: .closing :: tagsOf more := by
  have hname : '<' ∉ untrustedTag := by decide
  have hopening (text : List Char) : tagAfter (untrustedTag ++ text) = some .opening :=
    tagAfter_append (by decide) text
  have hclosing (text : List Char) : tagAfter ('/' :: untrustedTag ++ text) = some .closing :=
    tagAfter_append (by decide) text
  have hhead : '<' ∉ untrustedTag ++ ' ' :: attrs caps obs ++ ">\n".toList := by
    have hattrs : '<' ∉ attrs caps obs := not_mem_attrs obs
    simp only [List.mem_append, List.mem_cons, not_or]
    exact ⟨⟨hname, by decide, hattrs⟩, by decide⟩
  have htail : '<' ∉ '/' :: untrustedTag ++ ['>', '\n'] := by decide
  have hsplit : block caps obs ++ '\n' :: more =
      '<' :: (untrustedTag ++ ' ' :: attrs caps obs ++ ">\n".toList ++
      (neutralize (clip obs.content caps.resultCap).1 ++ '\n' :: '<' ::
        ('/' :: untrustedTag ++ ['>', '\n'] ++ more))) := by
    simp [block]
  rw [hsplit, tagsOf_lt, tagsOf_append_of_not_mem hhead, neutralize_eq, tagsOf_append_line,
    tagsOf_neutralized, List.nil_append, tagsOf_lt, tagsOf_append_of_not_mem htail]
  · rw [List.append_assoc]
    exact hclosing _
  · rw [List.append_assoc, List.append_assoc]
    exact hopening _

theorem tagsOf_prefix (text more : List Char) : tagsOf text <+: tagsOf (text ++ more) := by
  induction text with
  | nil => exact List.nil_prefix
  | cons c text ih =>
      by_cases hlt : c = '<'
      swap
      · rw [List.cons_append, tagsOf, tagsOf, if_neg hlt, if_neg hlt]
        exact ih
      subst hlt
      cases hafter : tagAfter text with
      | some kind =>
          rw [List.cons_append, tagsOf_lt hafter, tagsOf_lt (tagAfter_append hafter more)]
          exact (List.prefix_cons_inj _).mpr ih
      | none =>
          rw [List.cons_append, tagsOf, tagsOf, if_pos rfl, if_pos rfl, hafter, Option.toList_none,
            List.nil_append]
          by_cases hmore : (tagAfter (text ++ more)).isSome = true
          · have hrest := tagsOf_append_of_not_mem (not_bar_of_tagAfter bar_lt hafter hmore) []
            rw [List.append_nil] at hrest
            rw [hrest]
            exact List.nil_prefix
          · have hnone : tagAfter (text ++ more) = none := by simpa using hmore
            rw [hnone, Option.toList_none, List.nil_append]
            exact ih

theorem tagsOf_truncated (text : List Char) :
    tagsOf (text ++ ' ' :: truncatedMarker) = tagsOf text := by
  induction text with
  | nil => decide
  | cons c text ih =>
      have hafter : tagAfter (text ++ ' ' :: truncatedMarker) = tagAfter text := by
        have hbar := tagAfter_bar bar_bracket (text ++ [' ']) "truncated]".toList
        rw [List.append_assoc, List.singleton_append] at hbar
        have hmarker : truncatedMarker = '[' :: "truncated]".toList := by decide
        rw [hmarker, hbar, tagAfter_space (by decide)]
      rw [List.cons_append, tagsOf, tagsOf, hafter, ih]

theorem tags_clip (text : List Char) (cap : Int) : tags (clip text cap).1 <+: tags text := by
  rw [tags_eq, tags_eq, clip]
  split
  · exact List.prefix_rfl
  · rw [tagsOf_truncated]
    conv_rhs => rw [← List.take_append_drop cap.toNat text]
    exact tagsOf_prefix _ _

theorem tagsOf_blocks (observations : List Obs) (answer : List Char) :
    tagsOf (['\n'].intercalate (observations.map (block caps) ++ [answer])) =
      (observations.flatMap fun _ => [.opening, .closing]) ++ tagsOf answer := by
  induction observations with
  | nil => simp [List.intercalate]
  | cons obs observations ih =>
      have hjoin : ['\n'].intercalate ((obs :: observations).map (block caps) ++ [answer]) =
          block caps obs ++ '\n' :: ['\n'].intercalate
            (observations.map (block caps) ++ [answer]) := by
        cases observations <;> simp [List.intercalate]
      rw [hjoin, tagsOf_block, ih]
      rfl

/-- **Untrusted blocks stay closed.** The tags of the assistant message of a turn are an opening and
a closing one for each observation in it, in turn, and then those of the answer as it was
written. -/
theorem tags_renderTurn (caps : TurnCaps) (turn : Turn) :
    ∃ own, own <+: tags turn.assistant ∧ tags (renderTurn caps turn).2.1 =
      ((included caps turn.observations).flatMap fun _ => [.opening, .closing]) ++ own := by
  refine ⟨tags (clip turn.assistant caps.textCap).1, tags_clip _ _, ?_⟩
  rw [tags_eq, tags_eq]
  exact tagsOf_blocks _ _

end Counting

end AiAnalytics.App.DeepAgents
