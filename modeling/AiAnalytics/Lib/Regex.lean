import AiAnalytics.Lib.PyText
import Mathlib.Data.List.Infix
import Mathlib.Tactic.Common

/-!
# Regular expressions

Patterns as `re` matches them: a pattern is tried at a place of a text, its parts are tried in
order, the greedy way first, and the first success counts. `results` lists the successes in the
order in which backtracking finds them. A text is then read from left to right into characters and
matches, which is what `finditer`, `sub` and `split` go by.

What `\d` and `\w` match beyond ASCII is a parameter.
-/

namespace AiAnalytics.Lib

section Characters

structure CharClasses where
  digit : Char → Option Nat
  word : Char → Bool
  digit_ascii : ∀ c, c.toNat < 128 → digit c = if c.isDigit then some (c.toNat - 48) else none
  word_ascii : ∀ c, c.toNat < 128 → word c = (c.isAlphanum || c == '_')
  word_of_digit : ∀ c, (digit c).isSome = true → word c = true

def sameLetter (letter c : Char) : Bool :=
  c.toLower = letter || (letter = 'i' && (c = '\u0130' || c = '\u0131')) ||
    (letter = 's' && c = '\u017f') || (letter = 'k' && c = '\u212a')

def isLatin (c : Char) : Bool :=
  c.isAlpha || c = '\u0130' || c = '\u0131' || c = '\u017f' || c = '\u212a'

def lowerLetter (c : Char) : List Char :=
  if c = '\u0130' then ['i', '\u0307'] else if c = '\u212a' then ['k'] else [c.toLower]

theorem toLower_eq_self {c : Char} (h : c.toNat < 65 ∨ 90 < c.toNat) : c.toLower = c := by
  delta Char.toLower
  rw [dif_neg]
  rintro ⟨hlow, hhigh⟩
  have hlow : 65 ≤ c.toNat := hlow
  have hhigh : c.toNat ≤ 90 := hhigh
  omega

theorem sameLetter_cases {letter c : Char} (h : sameLetter letter c = true) :
    c.toLower = letter ∨ c = '\u0130' ∨ c = '\u0131' ∨ c = '\u017f' ∨ c = '\u212a' := by
  simp only [sameLetter, Bool.or_eq_true, Bool.and_eq_true, decide_eq_true_eq] at h
  tauto

theorem not_sameLetter_of_isSpace {letter c : Char} (hletter : isSpace letter = false)
    (hc : isSpace c = true) : sameLetter letter c = false := by
  rw [← Bool.not_eq_true]
  intro h
  have hkept : c.toLower = c := by
    refine toLower_eq_self ?_
    simp only [isSpace, decide_eq_true_eq] at hc
    omega
  rcases sameLetter_cases h with rfl | rfl | rfl | rfl | rfl
  · rw [hkept, hc] at hletter
    cases hletter
  all_goals simp [isSpace] at hc

end Characters

structure Place where
  prev : Option Char
  rest : List Char

def Place.after (place : Place) (text : List Char) : Place :=
  ⟨text.getLast?.or place.prev, place.rest.drop text.length⟩

structure Found where
  text : List Char
  groups : List (String × List Char) := []
deriving DecidableEq

def Found.append (found more : Found) : Found :=
  ⟨found.text ++ more.text, found.groups ++ more.groups⟩

inductive Regex where
  | empty
  | char (p : Char → Bool)
  | look (p : Place → Bool)
  | seq (first second : Regex)
  | alt (first second : Regex)
  | star (part : Regex)
  | group (name : String) (part : Regex)

namespace Regex

def repeated (step : Place → List Found) : Nat → Place → List Found
  | 0, _ => [⟨[], []⟩]
  | n + 1, place =>
      ((step place).filter (·.text ≠ [])).flatMap (fun found =>
        (repeated step n (place.after found.text)).map found.append) ++ [⟨[], []⟩]

def results : Regex → Place → List Found
  | empty, _ => [⟨[], []⟩]
  | char p, ⟨_, c :: _⟩ => if p c then [⟨[c], []⟩] else []
  | char _, ⟨_, []⟩ => []
  | look p, place => if p place then [⟨[], []⟩] else []
  | seq r s, place => (r.results place).flatMap fun found =>
      (s.results (place.after found.text)).map found.append
  | alt r s, place => r.results place ++ s.results place
  | star r, place => repeated r.results place.rest.length place
  | group name r, place => (r.results place).map fun found =>
      ⟨found.text, (name, found.text) :: found.groups⟩

def first (r : Regex) (place : Place) : Option Found := (r.results place).head?

def opt (r : Regex) : Regex := alt r empty

def plus (r : Regex) : Regex := seq r (star r)

def upTo (r : Regex) : Nat → Regex
  | 0 => empty
  | n + 1 => opt (seq r (r.upTo n))

def word (letters : List Char) : Regex :=
  letters.foldr (fun letter r => seq (char (sameLetter letter)) r) empty

def anyOf (parts : List Regex) : Regex := parts.foldr alt (look fun _ => false)

/-- `\b` -/
def boundary (classes : CharClasses) : Regex :=
  look fun place => place.prev.any classes.word != place.rest.head?.any classes.word

def notBehind (p : Char → Bool) : Regex := look fun place => !place.prev.any p

def behind (p : Char → Bool) : Regex := look fun place => place.prev.any p

section Scanning

/-- A text read with a pattern that matches no empty text: what it does not match stays as
characters. The number says how many characters belong to the last match. -/
def scan (r : Regex) : Nat → Option Char → List Char → List (Char ⊕ Found)
  | _, _, [] => []
  | skip + 1, _, c :: text => r.scan skip (some c) text
  | 0, prev, c :: text =>
      match r.first ⟨prev, c :: text⟩ with
      | none => .inl c :: r.scan 0 (some c) text
      | some found => .inr found :: r.scan (found.text.length - 1) (some c) text

/-- `pattern.finditer(text)` -/
def finditer (r : Regex) (text : List Char) : List Found :=
  (r.scan 0 none text).filterMap Sum.getRight?

/-- `pattern.search(text) is not None` -/
def search (r : Regex) (text : List Char) : Bool := !(r.finditer text).isEmpty

/-- `pattern.sub(replacement, text)` -/
def sub (r : Regex) (replacement : Found → List Char) (text : List Char) : List Char :=
  (r.scan 0 none text).flatMap fun
    | .inl c => [c]
    | .inr found => replacement found

theorem sub_eq (r : Regex) (replacement : Found → List Char) (text : List Char) :
    r.sub replacement text = (r.scan 0 none text).flatMap
      (Sum.elim (fun c => [c]) replacement) := by
  rw [sub]
  congr 1
  funext segment
  cases segment <;> rfl

def pieces : List (Char ⊕ Found) → List (List Char)
  | [] => [[]]
  | .inr _ :: segments => [] :: pieces segments
  | .inl c :: segments => match pieces segments with
    | [] => [[c]]
    | piece :: more => (c :: piece) :: more

/-- `re.split(pattern, text)` -/
def split (r : Regex) (text : List Char) : List (List Char) := pieces (r.scan 0 none text)

end Scanning

section Results

variable {r s : Regex} {p : Char → Bool} {place : Place} {found more : Found}

theorem results_char_cons {prev : Option Char} {c : Char} {rest : List Char} :
    (char p).results ⟨prev, c :: rest⟩ = if p c then [⟨[c], []⟩] else [] := rfl

theorem results_look {test : Place → Bool} :
    (look test).results place = if test place then [⟨[], []⟩] else [] := rfl

theorem results_seq :
    (seq r s).results place = (r.results place).flatMap fun found =>
      (s.results (place.after found.text)).map found.append := rfl

theorem results_group {name : String} :
    (group name r).results place =
      (r.results place).map fun found => ⟨found.text, (name, found.text) :: found.groups⟩ := rfl

theorem mem_results_char (h : found ∈ (char p).results place) :
    ∃ c rest, place.rest = c :: rest ∧ p c = true ∧ found = ⟨[c], []⟩ := by
  obtain ⟨prev, _ | ⟨c, rest⟩⟩ := place
  · cases h
  · rw [results_char_cons] at h
    split at h
    case isTrue hc => exact ⟨c, rest, rfl, hc, List.mem_singleton.mp h⟩
    case isFalse => cases h

theorem mem_results_look {test : Place → Bool} (h : found ∈ (look test).results place) :
    found = ⟨[], []⟩ := by
  rw [results_look] at h
  split at h
  · exact List.mem_singleton.mp h
  · cases h

theorem after_nil (place : Place) : place.after [] = place := by
  simp [Place.after]

theorem first_eq_none_iff : r.first place = none ↔ r.results place = [] := List.head?_eq_none_iff

theorem first_char_cons {prev : Option Char} {c : Char} {rest : List Char} :
    (char p).first ⟨prev, c :: rest⟩ = if p c then some ⟨[c], []⟩ else none := by
  rw [first, results_char_cons]
  split <;> rfl

theorem first_char_nil {prev : Option Char} : (char p).first ⟨prev, []⟩ = none := rfl

theorem first_look {test : Place → Bool} :
    (look test).first place = if test place then some ⟨[], []⟩ else none := by
  rw [first, results_look]
  split <;> rfl

theorem first_seq_of_some (hr : r.first place = some found)
    (hs : s.first (place.after found.text) = some more) :
    (seq r s).first place = some (found.append more) := by
  obtain ⟨_, hr⟩ := List.head?_eq_some_iff.mp hr
  obtain ⟨_, hs⟩ := List.head?_eq_some_iff.mp hs
  rw [first, results_seq, hr, List.flatMap_cons, hs]
  rfl

theorem first_seq_eq_none (h : ∀ found ∈ r.results place, s.first (place.after found.text) = none) :
    (seq r s).first place = none := by
  rw [first_eq_none_iff, results_seq, List.flatMap_eq_nil_iff]
  intro found hfound
  rw [first_eq_none_iff.mp (h found hfound), List.map_nil]

theorem first_seq_of_none (hr : r.first place = none) : (seq r s).first place = none := by
  refine first_seq_eq_none fun found hfound => ?_
  rw [first_eq_none_iff.mp hr] at hfound
  cases hfound

theorem first_opt : (opt r).first place = some ((r.first place).getD ⟨[], []⟩) := by
  have hresults : (opt r).results place = r.results place ++ [⟨[], []⟩] := rfl
  rw [first, first, hresults]
  cases r.results place <;> rfl

theorem first_group {name : String} :
    (group name r).first place = (r.first place).map fun found =>
      ⟨found.text, (name, found.text) :: found.groups⟩ := by
  rw [first, first, results_group, List.head?_map]

theorem first_star_char : (star (char p)).first place = some ⟨place.rest.takeWhile p, []⟩ := by
  obtain ⟨prev, rest⟩ := place
  suffices h : ∀ n prev rest, rest.length ≤ n →
      (repeated (char p).results n ⟨prev, rest⟩).head? = some ⟨rest.takeWhile p, []⟩ from h
        _ _ _ le_rfl
  intro n
  induction n with
  | zero =>
      intro prev rest hlength
      obtain rfl := List.length_eq_zero_iff.mp (Nat.le_zero.mp hlength)
      rfl
  | succ n ih =>
      intro prev rest hlength
      cases rest with
      | nil => rfl
      | cons c rest =>
          by_cases hc : p c = true
          · have hrest := ih (some c) rest (by simpa using hlength)
            obtain ⟨_, hrest⟩ := List.head?_eq_some_iff.mp hrest
            simp [repeated, results_char_cons, hc, Place.after, hrest, Found.append]
          · simp [repeated, results_char_cons, hc]

theorem append_prefix {text text' : List Char} (h : text <+: place.rest)
    (h' : text' <+: (place.after text).rest) : text ++ text' <+: place.rest := by
  obtain ⟨rest, hrest⟩ := h
  obtain ⟨rest', hrest'⟩ := h'
  refine ⟨rest', ?_⟩
  rw [Place.after, ← hrest, List.drop_left] at hrest'
  have hmore : text' ++ rest' = rest := hrest'
  rw [← hrest, ← hmore, List.append_assoc]

theorem repeated_prefix {step : Place → List Found} {n : ℕ}
    (hstep : ∀ {place found}, found ∈ step place → found.text <+: place.rest)
    (h : found ∈ repeated step n place) : found.text <+: place.rest := by
  induction n generalizing place found with
  | zero =>
      obtain rfl := List.mem_singleton.mp h
      exact List.nil_prefix
  | succ n ih =>
      rcases List.mem_append.mp h with h | h
      · obtain ⟨left, hleft, hmore⟩ := List.mem_flatMap.mp h
        obtain ⟨right, hright, rfl⟩ := List.mem_map.mp hmore
        exact append_prefix (hstep (List.mem_of_mem_filter hleft)) (ih hright)
      · obtain rfl := List.mem_singleton.mp h
        exact List.nil_prefix

theorem drop_length_takeWhile (p : Char → Bool) (text : List Char) :
    text.drop (text.takeWhile p).length = text.dropWhile p := by
  induction text with
  | nil => rfl
  | cons c text ih => by_cases hc : p c = true <;> simp [hc, ih]

theorem first_plus_char_cons {prev : Option Char} {c : Char} {rest : List Char} :
    (plus (char p)).first ⟨prev, c :: rest⟩ = if p c then some ⟨c :: rest.takeWhile p, []⟩
      else none := by
  by_cases hc : p c = true
  · have hhead : (char p).first ⟨prev, c :: rest⟩ = some ⟨[c], []⟩ := by
      rw [first_char_cons, if_pos hc]
    rw [plus, first_seq_of_some hhead first_star_char, if_pos hc]
    rfl
  · rw [plus, first_seq_of_none (by rw [first_char_cons, if_neg hc]), if_neg hc]

theorem first_plus_char_nil {prev : Option Char} : (plus (char p)).first ⟨prev, []⟩ = none :=
  first_seq_of_none rfl

theorem text_prefix (h : found ∈ r.results place) : found.text <+: place.rest := by
  induction r generalizing place found with
  | empty =>
      obtain rfl := List.mem_singleton.mp h
      exact List.nil_prefix
  | char p =>
      obtain ⟨c, rest, hrest, -, rfl⟩ := mem_results_char h
      exact ⟨rest, hrest.symm⟩
  | look p =>
      obtain rfl := mem_results_look h
      exact List.nil_prefix
  | seq r s ihr ihs =>
      obtain ⟨left, hleft, hmore⟩ := List.mem_flatMap.mp h
      obtain ⟨right, hright, rfl⟩ := List.mem_map.mp hmore
      exact append_prefix (ihr hleft) (ihs hright)
  | alt r s ihr ihs => exact (List.mem_append.mp h).elim ihr ihs
  | star r ih => exact repeated_prefix ih h
  | group name r ih =>
      obtain ⟨inner, hinner, rfl⟩ := List.mem_map.mp h
      have htext : inner.text <+: place.rest := ih hinner
      exact htext

def Within (q : Char → Prop) : Regex → Prop
  | empty | look _ => True
  | char p => ∀ c, p c = true → q c
  | seq r s | alt r s => r.Within q ∧ s.Within q
  | star r | group _ r => r.Within q

theorem repeated_forall {q : Char → Prop} {step : Place → List Found} {n : ℕ}
    (hstep : ∀ {place found}, found ∈ step place → ∀ c ∈ found.text, q c)
    (h : found ∈ repeated step n place) : ∀ c ∈ found.text, q c := by
  induction n generalizing place found with
  | zero =>
      obtain rfl := List.mem_singleton.mp h
      simp
  | succ n ih =>
      rcases List.mem_append.mp h with h | h
      · obtain ⟨left, hleft, hmore⟩ := List.mem_flatMap.mp h
        obtain ⟨right, hright, rfl⟩ := List.mem_map.mp hmore
        exact List.forall_mem_append.mpr ⟨hstep (List.mem_of_mem_filter hleft), ih hright⟩
      · obtain rfl := List.mem_singleton.mp h
        simp

theorem Within.text {q : Char → Prop} (hr : r.Within q) (h : found ∈ r.results place) :
    ∀ c ∈ found.text, q c := by
  induction r generalizing place found with
  | empty =>
      obtain rfl := List.mem_singleton.mp h
      simp
  | char p =>
      obtain ⟨c, rest, -, hc, rfl⟩ := mem_results_char h
      exact List.forall_mem_singleton.mpr (hr c hc)
  | look p =>
      obtain rfl := mem_results_look h
      simp
  | seq r s ihr ihs =>
      obtain ⟨left, hleft, hmore⟩ := List.mem_flatMap.mp h
      obtain ⟨right, hright, rfl⟩ := List.mem_map.mp hmore
      exact List.forall_mem_append.mpr ⟨ihr hr.1 hleft, ihs hr.2 hright⟩
  | alt r s ihr ihs => exact (List.mem_append.mp h).elim (ihr hr.1) (ihs hr.2)
  | star r ih => exact repeated_forall (ih hr) h
  | group name r ih =>
      obtain ⟨inner, hinner, rfl⟩ := List.mem_map.mp h
      have htext : ∀ c ∈ inner.text, q c := ih hr hinner
      exact htext

def Spells : Regex → List Char → Prop
  | empty, text | look _, text => text = []
  | char p, text => ∃ c, p c = true ∧ text = [c]
  | seq r s, text => ∃ left right, r.Spells left ∧ s.Spells right ∧ text = left ++ right
  | alt r s, text => r.Spells text ∨ s.Spells text
  | star r, text =>
    ∃ parts : List (List Char), (∀ part ∈ parts, r.Spells part) ∧ text = parts.flatten
  | group _ r, text => r.Spells text

theorem repeated_spells {step : Place → List Found} {n : ℕ} {spells : List Char → Prop}
    (hstep : ∀ {place found}, found ∈ step place → spells found.text)
    (h : found ∈ repeated step n place) :
    ∃ parts : List (List Char), (∀ part ∈ parts, spells part) ∧ found.text = parts.flatten := by
  induction n generalizing place found with
  | zero =>
      obtain rfl := List.mem_singleton.mp h
      exact ⟨[], by simp, rfl⟩
  | succ n ih =>
      rcases List.mem_append.mp h with h | h
      · obtain ⟨left, hleft, hmore⟩ := List.mem_flatMap.mp h
        obtain ⟨right, hright, rfl⟩ := List.mem_map.mp hmore
        obtain ⟨parts, hparts, htext⟩ := ih hright
        refine ⟨left.text :: parts, List.forall_mem_cons.mpr ⟨hstep (List.mem_of_mem_filter hleft),
          hparts⟩, ?_⟩
        rw [List.flatten_cons, ← htext]
        rfl
      · obtain rfl := List.mem_singleton.mp h
        exact ⟨[], by simp, rfl⟩

theorem spells_of_mem_results (h : found ∈ r.results place) : r.Spells found.text := by
  induction r generalizing place found with
  | empty => rw [List.mem_singleton.mp h, Spells]
  | char p =>
      obtain ⟨c, rest, -, hc, rfl⟩ := mem_results_char h
      exact ⟨c, hc, rfl⟩
  | look p => rw [mem_results_look h, Spells]
  | seq r s ihr ihs =>
      obtain ⟨left, hleft, hmore⟩ := List.mem_flatMap.mp h
      obtain ⟨right, hright, rfl⟩ := List.mem_map.mp hmore
      exact ⟨left.text, right.text, ihr hleft, ihs hright, rfl⟩
  | alt r s ihr ihs =>
      rcases List.mem_append.mp h with h | h
      · exact .inl (ihr h)
      · exact .inr (ihs h)
  | star r ih => exact repeated_spells ih h
  | group name r ih =>
      obtain ⟨inner, hinner, rfl⟩ := List.mem_map.mp h
      have htext : r.Spells inner.text := ih hinner
      exact htext

def beginsWord : List Char → List Char → Bool
  | [], _ => true
  | letter :: letters, c :: text => sameLetter letter c && beginsWord letters text
  | _ :: _, [] => false

theorem beginsWord_of_spells {letters text : List Char} (h : (word letters).Spells text)
    (more : List Char) :
    beginsWord letters (text ++ more) = true ∧ ∀ c ∈ text, ∃ letter ∈ letters,
      sameLetter letter c = true := by
  induction letters generalizing text with
  | nil =>
      obtain rfl : text = [] := h
      exact ⟨rfl, by simp⟩
  | cons letter letters ih =>
      obtain ⟨left, right, ⟨c, hc, rfl⟩, hright, rfl⟩ := h
      obtain ⟨hmore, hletters⟩ := ih hright
      refine ⟨by simp [beginsWord, hc, hmore],
        List.forall_mem_cons.mpr ⟨⟨letter, by simp, hc⟩, fun d hd => ?_⟩⟩
      obtain ⟨other, hother, hsame⟩ := hletters d hd
      exact ⟨other, List.mem_cons_of_mem _ hother, hsame⟩

theorem first_word {letters text : List Char} {prev : Option Char}
    (h : beginsWord letters text = true) :
    (word letters).first ⟨prev, text⟩ = some ⟨text.take letters.length, []⟩ := by
  induction letters generalizing prev text with
  | nil => rfl
  | cons letter letters ih =>
      cases text with
      | nil => cases h
      | cons c text =>
          rw [beginsWord, Bool.and_eq_true] at h
          have hhead : (char (sameLetter letter)).first ⟨prev, c :: text⟩ = some ⟨[c], []⟩ := by
            rw [first_char_cons, if_pos h.1]
          have hrest : (word letters).first ⟨some c, text⟩ = _ := ih h.2
          exact first_seq_of_some hhead hrest

theorem beginsWord_append_cons {letters : List Char} {c : Char}
    (hc : ∀ letter ∈ letters, sameLetter letter c = false) (text more : List Char) :
    beginsWord letters (text ++ c :: more) = beginsWord letters text := by
  induction letters generalizing text with
  | nil => cases text <;> rfl
  | cons letter letters ih =>
      obtain ⟨hletter, hrest⟩ := List.forall_mem_cons.mp hc
      cases text with
      | nil => simp [beginsWord, hletter]
      | cons d text => simp [beginsWord, ih hrest]

theorem beginsWord_append {letters text : List Char} (h : beginsWord letters text = true)
    (more : List Char) : beginsWord letters (text ++ more) = true := by
  induction letters generalizing text with
  | nil => cases text <;> rfl
  | cons letter letters ih =>
      cases text with
      | nil => cases h
      | cons c text =>
          rw [beginsWord, Bool.and_eq_true] at h
          simp [beginsWord, h.1, ih h.2]

def Ungrouped : Regex → Prop
  | empty | char _ | look _ => True
  | seq r s | alt r s => r.Ungrouped ∧ s.Ungrouped
  | star r => r.Ungrouped
  | group _ _ => False

theorem repeated_groups {step : Place → List Found} {n : ℕ}
    (hstep : ∀ {place found}, found ∈ step place → found.groups = [])
    (h : found ∈ repeated step n place) :
    found.groups = [] := by
  induction n generalizing place found with
  | zero => rw [List.mem_singleton.mp h]
  | succ n ih =>
      rcases List.mem_append.mp h with h | h
      · obtain ⟨left, hleft, hmore⟩ := List.mem_flatMap.mp h
        obtain ⟨right, hright, rfl⟩ := List.mem_map.mp hmore
        simp [Found.append, hstep (List.mem_of_mem_filter hleft), ih hright]
      · rw [List.mem_singleton.mp h]

theorem Ungrouped.groups (hr : r.Ungrouped) (h : found ∈ r.results place) : found.groups = [] := by
  induction r generalizing place found with
  | empty => rw [List.mem_singleton.mp h]
  | char p =>
      obtain ⟨c, rest, -, -, rfl⟩ := mem_results_char h
      rfl
  | look p => rw [mem_results_look h]
  | seq r s ihr ihs =>
      obtain ⟨left, hleft, hmore⟩ := List.mem_flatMap.mp h
      obtain ⟨right, hright, rfl⟩ := List.mem_map.mp hmore
      simp [Found.append, ihr hr.1 hleft, ihs hr.2 hright]
  | alt r s ihr ihs => exact (List.mem_append.mp h).elim (ihr hr.1) (ihs hr.2)
  | star r ih => exact repeated_groups (ih hr) h
  | group name r ih => cases hr

theorem ungrouped_word (letters : List Char) : (word letters).Ungrouped := by
  induction letters with
  | nil => trivial
  | cons letter letters ih => exact ⟨trivial, ih⟩

end Results

section Scans

variable {r : Regex} {prev : Option Char} {before after : List Char}

def textOf (segments : List (Char ⊕ Found)) : List Char :=
  segments.flatMap fun
    | .inl c => [c]
    | .inr found => found.text

theorem scan_skip (n : ℕ) (prev : Option Char) (text : List Char) :
    r.scan n prev text = r.scan 0 ((text.take n).getLast?.or prev) (text.drop n) := by
  induction n generalizing prev text with
  | zero => simp
  | succ n ih =>
      cases text with
      | nil => rfl
      | cons c text =>
          rw [scan, ih]
          cases hlast : (text.take n).getLast? <;> simp [List.getLast?_cons, hlast]

theorem scan_cons_of_none {c : Char} {text : List Char} (h : r.first ⟨prev, c :: text⟩ = none) :
    r.scan 0 prev (c :: text) = .inl c :: r.scan 0 (some c) text := by
  rw [scan, h]

theorem scan_of_some {place : Place} {found : Found} (h : r.first place = some found)
    (hne : found.text ≠ []) : r.scan 0 place.prev place.rest =
      .inr found :: r.scan 0 (place.after found.text).prev (place.after found.text).rest := by
  obtain ⟨prev, rest⟩ := place
  obtain ⟨more, hmore⟩ := text_prefix (List.mem_of_head? h)
  obtain ⟨c, text, htext⟩ := List.exists_cons_of_ne_nil hne
  rw [htext, List.cons_append] at hmore
  obtain rfl : c :: (text ++ more) = rest := hmore
  have hskip := scan_skip (r := r) text.length (some c) (text ++ more)
  have hlast : (c :: text).getLast?.or prev = text.getLast?.or (some c) := by
    cases hlast : text.getLast? <;> simp [List.getLast?_cons, hlast]
  rw [List.take_left, List.drop_left] at hskip
  simp only [scan, h, htext, List.length_cons, Nat.add_sub_cancel, hskip, Place.after, hlast,
    List.drop_succ_cons, List.drop_left]

def StaysIn (r : Regex) (prev : Option Char) (before after : List Char) : Prop :=
  ∀ start rest, before = start ++ rest → rest ≠ [] → ∀ found,
    r.first ⟨start.getLast?.or prev, rest ++ after⟩ = some found →
      found.text ≠ [] ∧ found.text.length ≤ rest.length

theorem StaysIn.drop {text : List Char} (h : StaysIn r prev (text ++ before) after) :
    StaysIn r (text.getLast?.or prev) before after := by
  rintro start rest rfl hne found hfound
  refine h (text ++ start) rest (List.append_assoc _ _ _).symm hne found ?_
  rwa [List.getLast?_append, Option.or_assoc]

theorem scan_append (hstay : StaysIn r prev before after) :
    ∃ segments, r.scan 0 prev (before ++ after) = segments ++ r.scan 0 (before.getLast?.or prev)
      after ∧ textOf segments = before ∧ ∀ found, .inr found ∈ segments → found.text ≠ [] := by
  induction hn : before.length using Nat.strong_induction_on generalizing before prev with
  | _ n ih =>
      cases before with
      | nil => exact ⟨[], rfl, rfl, by simp⟩
      | cons c rest =>
          cases hfirst : r.first ⟨prev, c :: (rest ++ after)⟩ with
          | none =>
              have hrest : StaysIn r (some c) rest after :=
                @StaysIn.drop r prev rest after [c] hstay
              obtain ⟨segments, hscan, htext, hne⟩ := ih rest.length (by simp [← hn]) hrest rfl
              refine ⟨.inl c :: segments, ?_, ?_, ?_⟩
              · rw [List.cons_append, scan_cons_of_none hfirst, hscan, List.cons_append]
                cases hlast : rest.getLast? <;> simp [List.getLast?_cons, hlast]
              · rw [← htext]
                rfl
              · simpa using hne
          | some found =>
              obtain ⟨hfound, hlength⟩ := hstay [] (c :: rest) rfl (by simp) found hfirst
              have hstart := text_prefix (List.mem_of_head? hfirst)
              obtain ⟨more, hmore⟩ : found.text <+: c :: rest :=
                List.prefix_of_prefix_length_le hstart (List.prefix_append (c :: rest) after)
                  hlength
              rw [← hmore] at hstay
              have hshorter : more.length < n := by
                have hpos := List.length_pos_iff.mpr hfound
                have hsum := congrArg List.length hmore
                rw [List.length_append] at hsum
                omega
              obtain ⟨segments, hscan, htext, hne⟩ := ih more.length hshorter hstay.drop rfl
              refine ⟨.inr found :: segments, ?_, ?_, ?_⟩
              · have hstep := scan_of_some hfirst hfound
                rw [List.cons_append, hstep, List.cons_append, ← hmore, List.getLast?_append,
                  Option.or_assoc, ← hscan,
                  Place.after, ← List.cons_append, ← hmore, List.append_assoc, List.drop_left]
              · rw [← hmore, ← htext]
                rfl
              · intro other hother
                rcases List.mem_cons.mp hother with heq | hother
                · exact (Sum.inr.inj heq) ▸ hfound
                · exact hne other hother

def foundAt : List (Char ⊕ Found) → ℕ → Option Found
  | .inr found :: _, 0 => some found
  | .inl _ :: segments, n + 1 => foundAt segments n
  | .inr found :: segments, n + 1 =>
      if found.text.length ≤ n + 1 then foundAt segments (n + 1 - found.text.length) else none
  | _, _ => none

theorem foundAt_append {segments rest : List (Char ⊕ Found)} {found : Found}
    (hne : ∀ found, .inr found ∈ segments → found.text ≠ []) :
    foundAt (segments ++ .inr found :: rest) (textOf segments).length = some found := by
  induction segments with
  | nil => rfl
  | cons segment segments ih =>
      have hrest := ih fun found hfound => hne found (List.mem_cons_of_mem _ hfound)
      cases segment with
      | inl c => exact hrest
      | inr other =>
          obtain ⟨c, text, htext⟩ := List.exists_cons_of_ne_nil (hne other List.mem_cons_self)
          have hlength : (textOf (.inr other :: segments)).length =
              text.length + (textOf segments).length + 1 := by
            simp [textOf, htext]
          rw [hlength, List.cons_append, foundAt, htext, List.length_cons, if_pos (by omega)]
          have hsub : text.length + (textOf segments).length + 1 - (text.length + 1) =
              (textOf segments).length := by
            omega
          rw [hsub, hrest]

theorem foundAt_scan {found : Found} (hstay : StaysIn r none before after)
    (hfound : r.first ⟨before.getLast?, after⟩ = some found) (hne : found.text ≠ []) :
    foundAt (r.scan 0 none (before ++ after)) before.length = some found := by
  obtain ⟨segments, hscan, htext, hsegments⟩ := scan_append hstay
  have hrest := scan_of_some hfound hne
  rw [hscan, Option.or_none, hrest, ← htext]
  exact foundAt_append hsegments

end Scans

end Regex

/-- `match.group(name) or ""` -/
def Found.group (found : Found) (name : String) : List Char := (found.groups.lookup name).getD []

end AiAnalytics.Lib
