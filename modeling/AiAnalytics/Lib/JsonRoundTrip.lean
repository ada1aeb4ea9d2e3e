import AiAnalytics.Lib.Json
import Mathlib.Tactic.IntervalCases

/-!
# What is written as JSON is read back

Every JSON value is written as one line of printable ASCII, and reading that line gives the value
again. -/

namespace AiAnalytics.Lib

section Texts

theorem hexValue_hexDigit : ∀ n < 16, hexValue (hexDigit n) = some n := by decide

theorem readHex_unicodeEscape {n : Nat} (h : n < 0x10000) (rest : List Char) :
    readHex ((unicodeEscape n).drop 2 ++ rest) = some (n, rest) := by
  have hdigit (m : Nat) : hexValue (hexDigit (m % 16)) = some (m % 16) :=
    hexValue_hexDigit _ (Nat.mod_lt _ (by decide))
  have hvalue : n / 4096 % 16 * 4096 + n / 256 % 16 * 256 + n / 16 % 16 * 16 + n % 16 = n := by
    omega
  simp only [unicodeEscape, List.drop_succ_cons, List.drop_zero, List.cons_append, List.nil_append,
    readHex, hdigit, Option.bind_eq_bind, Option.bind_some, hvalue]

theorem readUnicode_basic {c : Char} (h : c.toNat < 0x10000) (rest : List Char) :
    readUnicode ((unicodeEscape c.toNat).drop 2 ++ rest) = some (c, rest) := by
  have hvalid : c.toNat < 0xd800 ∨ 0xdfff < c.toNat := by
    rcases c.valid with hlow | ⟨hhigh, -⟩
    · exact .inl hlow
    · exact .inr hhigh
  have hhigh : isHighSurrogate c.toNat = false := by
    simp only [isHighSurrogate, decide_eq_false_iff_not]
    omega
  have hlow : isLowSurrogate c.toNat = false := by
    simp only [isLowSurrogate, decide_eq_false_iff_not]
    omega
  simp only [readUnicode, readHex_unicodeEscape h, hhigh, hlow, Bool.false_eq_true, if_false,
    Char.ofNat_toNat]

theorem readUnicode_surrogates {high low : Nat} (hhigh : isHighSurrogate high = true)
    (hlow : isLowSurrogate low = true) (rest : List Char) :
    readUnicode ((unicodeEscape high).drop 2 ++ (unicodeEscape low ++ rest)) =
      some (Char.ofNat (0x10000 + (high - 0xd800) * 1024 + (low - 0xdc00)), rest) := by
  have hhigh' : high < 0x10000 := by
    simp only [isHighSurrogate, decide_eq_true_eq] at hhigh
    omega
  have hlow' : low < 0x10000 := by
    simp only [isLowSurrogate, decide_eq_true_eq] at hlow
    omega
  have hsplit : unicodeEscape low ++ rest = '\\' :: 'u' :: ((unicodeEscape low).drop 2 ++ rest) :=
    rfl
  rw [readUnicode, readHex_unicodeEscape hhigh', hsplit]
  simp only [hhigh, hlow, readHex_unicodeEscape hlow', if_true]

theorem readUnicode_pair {c : Char} (h : 0x10000 ≤ c.toNat) (rest : List Char) :
    readUnicode ((unicodeEscape (0xd800 + (c.toNat - 0x10000) / 1024)).drop 2 ++
      (unicodeEscape (0xdc00 + (c.toNat - 0x10000) % 1024) ++ rest)) = some (c, rest) := by
  have hbound : c.toNat < 0x110000 := by
    rcases c.valid with hlow | ⟨-, hhigh⟩
    · exact hlow.trans (by decide)
    · exact hhigh
  have hhigh : isHighSurrogate (0xd800 + (c.toNat - 0x10000) / 1024) = true := by
    simp only [isHighSurrogate, decide_eq_true_eq]
    omega
  have hlow : isLowSurrogate (0xdc00 + (c.toNat - 0x10000) % 1024) = true := by
    simp only [isLowSurrogate, decide_eq_true_eq]
    omega
  have hvalue : 0x10000 + (0xd800 + (c.toNat - 0x10000) / 1024 - 0xd800) * 1024 +
      (0xdc00 + (c.toNat - 0x10000) % 1024 - 0xdc00) = c.toNat := by omega
  rw [readUnicode_surrogates hhigh hlow, hvalue, Char.ofNat_toNat]

theorem readChar_unicodeEscape (n : Nat) (rest : List Char) :
    readChar (unicodeEscape n ++ rest) = readUnicode ((unicodeEscape n).drop 2 ++ rest) := rfl

theorem readChar_escaped {letter : Char} (h : letter ≠ 'u') (rest : List Char) :
    readChar ('\\' :: letter :: rest) = (escapeLetter letter).map fun c => (c, rest) :=
  readChar.eq_2 letter rest fun hsame => h hsame

theorem readChar_plain {c : Char} (h : c ≠ '\\') (rest : List Char) :
    readChar (c :: rest) = if c.toNat < 32 then none else some (c, rest) :=
  readChar.eq_4 c rest (fun _ hc _ => h hc) (fun _ _ hc _ => h hc) fun hc _ => h hc

theorem jsonChar_cases (c : Char) :
    (∃ letter, jsonChar c = ['\\', letter] ∧ escapeLetter letter = some c ∧ letter ≠ 'u' ∧
        32 ≤ letter.toNat ∧ letter.toNat ≤ 126) ∨
      (jsonChar c = [c] ∧ ¬(c = '"' ∨ c = '\\') ∧ 32 ≤ c.toNat ∧ c.toNat ≤ 126) ∨
      (jsonChar c = unicodeEscape c.toNat ∧ c.toNat < 0x10000) ∨
      (jsonChar c = unicodeEscape (0xd800 + (c.toNat - 0x10000) / 1024) ++
        unicodeEscape (0xdc00 + (c.toNat - 0x10000) % 1024) ∧ 0x10000 ≤ c.toNat) := by
  rw [jsonChar]
  by_cases hquote : c = '"' ∨ c = '\\'
  · refine .inl ⟨c, if_pos hquote, ?_⟩
    rcases hquote with rfl | rfl <;> decide
  rw [if_neg hquote]
  by_cases hfeed : c = '\n'
  · exact .inl ⟨'n', if_pos hfeed, by subst hfeed; decide⟩
  rw [if_neg hfeed]
  by_cases hreturn : c = '\r'
  · exact .inl ⟨'r', if_pos hreturn, by subst hreturn; decide⟩
  rw [if_neg hreturn]
  by_cases htab : c = '\t'
  · exact .inl ⟨'t', if_pos htab, by subst htab; decide⟩
  rw [if_neg htab]
  by_cases hback : c.toNat = 8
  · exact .inl ⟨'b', if_pos hback, by rw [← Char.ofNat_toNat c, hback]; decide⟩
  rw [if_neg hback]
  by_cases hform : c.toNat = 12
  · exact .inl ⟨'f', if_pos hform, by rw [← Char.ofNat_toNat c, hform]; decide⟩
  rw [if_neg hform]
  by_cases hprintable : 32 ≤ c.toNat ∧ c.toNat ≤ 126
  · exact .inr (.inl ⟨if_pos hprintable, hquote, hprintable⟩)
  rw [if_neg hprintable]
  by_cases hbasic : c.toNat < 0x10000
  · exact .inr (.inr (.inl ⟨if_pos hbasic, hbasic⟩))
  · exact .inr (.inr (.inr ⟨if_neg hbasic, not_lt.mp hbasic⟩))

theorem readChar_jsonChar (c : Char) (rest : List Char) :
    readChar (jsonChar c ++ rest) = some (c, rest) := by
  obtain ⟨letter, htext, hescape, hletter, -⟩ | ⟨htext, hplain, hprintable⟩ | ⟨htext, hbasic⟩
      | ⟨htext, hpair⟩ :=
    jsonChar_cases c
  · rw [htext, List.cons_append, List.singleton_append, readChar_escaped hletter, hescape]
    rfl
  · rw [htext, List.singleton_append, readChar_plain (fun hsame => hplain (.inr hsame)),
      if_neg (not_lt.mpr hprintable.1)]
  · rw [htext, readChar_unicodeEscape, readUnicode_basic hbasic]
  · rw [htext, List.append_assoc, readChar_unicodeEscape, readUnicode_pair hpair]

def Plain (text : List Char) : Prop := ∀ c ∈ text, 32 ≤ c.toNat ∧ c.toNat ≤ 126

instance (text : List Char) : Decidable (Plain text) := List.decidableBAll _ text

theorem Plain.append {text text' : List Char} (h : Plain text) (h' : Plain text') :
    Plain (text ++ text') :=
  List.forall_mem_append.mpr ⟨h, h'⟩

theorem plain_unicodeEscape (n : Nat) : Plain (unicodeEscape n) := by
  have hdigits : ∀ m < 16, 32 ≤ (hexDigit m).toNat ∧ (hexDigit m).toNat ≤ 126 := by decide
  have hdigit (m : Nat) : 32 ≤ (hexDigit (m % 16)).toNat ∧ (hexDigit (m % 16)).toNat ≤ 126 :=
    hdigits _ (Nat.mod_lt _ (by decide))
  simp only [Plain, unicodeEscape, List.forall_mem_cons, hdigit, true_and]
  exact ⟨by decide, by decide, List.forall_mem_nil _⟩

theorem plain_escaped {c : Char} (h : 32 ≤ c.toNat ∧ c.toNat ≤ 126) : Plain ['\\', c] :=
  List.forall_mem_cons.mpr ⟨by decide, List.forall_mem_singleton.mpr h⟩

theorem plain_jsonChar (c : Char) : Plain (jsonChar c) := by
  obtain ⟨letter, htext, -, -, hletter⟩ | ⟨htext, -, hprintable⟩ | ⟨htext, -⟩ | ⟨htext, -⟩ :=
    jsonChar_cases c <;> rw [htext]
  · exact plain_escaped hletter
  · exact List.forall_mem_singleton.mpr hprintable
  · exact plain_unicodeEscape _
  · exact (plain_unicodeEscape _).append (plain_unicodeEscape _)

theorem plain_jsonText (text : String) : Plain (jsonText text) := by
  intro c hc
  rw [jsonText, List.mem_cons, List.mem_append, List.mem_flatMap, List.mem_singleton] at hc
  rcases hc with rfl | ⟨char, -, hchar⟩ | rfl
  · decide
  · exact plain_jsonChar char c hchar
  · decide

theorem jsonChar_head (c : Char) : ∃ d rest, jsonChar c = d :: rest ∧ d ≠ '"' := by
  obtain ⟨letter, htext, -⟩ | ⟨htext, hplain, -⟩ | ⟨htext, -⟩ | ⟨htext, -⟩ := jsonChar_cases c
  · exact ⟨_, _, htext, by decide⟩
  · exact ⟨c, [], htext, fun hsame => hplain (.inl hsame)⟩
  · exact ⟨_, _, htext, by decide⟩
  · exact ⟨_, _, htext, by decide⟩

theorem scanText_flatMap (letters rest : List Char) {fuel : Nat} (h : letters.length ≤ fuel) :
    scanText fuel (letters.flatMap jsonChar ++ '"' :: rest) = some (letters, rest) := by
  induction letters generalizing fuel with
  | nil => rw [List.flatMap_nil, List.nil_append, scanText.eq_1]
  | cons c letters ih =>
      obtain ⟨fuel, rfl⟩ : ∃ fuel', fuel = fuel' + 1 := ⟨fuel - 1, by simp at h; omega⟩
      have hread := readChar_jsonChar c (letters.flatMap jsonChar ++ '"' :: rest)
      obtain ⟨d, tail, hchar, hquote⟩ := jsonChar_head c
      rw [List.flatMap_cons, List.append_assoc, scanText.eq_3]
      · rw [hread]
        simp only [Option.bind_eq_bind, Option.bind_some, ih (Nat.le_of_succ_le_succ h)]
      · rintro other hsame
        rw [hchar, List.cons_append] at hsame
        exact hquote (List.cons.inj hsame).1

theorem length_le_flatMap_jsonChar (letters : List Char) :
    letters.length ≤ (letters.flatMap jsonChar).length := by
  induction letters with
  | nil => exact le_rfl
  | cons c letters ih =>
      obtain ⟨d, tail, hchar, -⟩ := jsonChar_head c
      rw [List.flatMap_cons, List.length_append, hchar, List.length_cons, List.length_cons]
      omega

theorem scanText_jsonText (text : String) (rest : List Char) :
    scanText (text.toList.flatMap jsonChar ++ '"' :: rest).length
      (text.toList.flatMap jsonChar ++ '"' :: rest) = some (text.toList, rest) := by
  refine scanText_flatMap _ _ ?_
  have hletters := length_le_flatMap_jsonChar text.toList
  rw [List.length_append]
  omega

end Texts

section Numbers

def NumberEnd (rest : List Char) : Prop :=
  ∀ c tail, rest = c :: tail → c.isDigit = false ∧ c ≠ '.' ∧ c ≠ 'e' ∧ c ≠ 'E'

def Digits (text : List Char) : Prop := text ≠ [] ∧ ∀ c ∈ text, c.isDigit = true

def IntDigits (text : List Char) : Prop := text = ['0'] ∨ Digits text ∧ text.head? ≠ some '0'

structure FloatText (text : List Char) : Prop where
  parts : ∃ minus digits fraction exponent, text = minus ++ digits ++ fraction ++ exponent ∧
    (minus = [] ∨ minus = ['-']) ∧ IntDigits digits ∧
    (fraction = [] ∨ ∃ behind, fraction = '.' :: behind ∧ Digits behind) ∧
    (exponent = [] ∨ ∃ mark sign power, exponent = mark :: (sign ++ power) ∧
      (mark = 'e' ∨ mark = 'E') ∧ (sign = [] ∨ sign = ['+'] ∨ sign = ['-']) ∧ Digits power) ∧
    (fraction ≠ [] ∨ exponent ≠ [])

variable {text rest : List Char}

def NoDigit (rest : List Char) : Prop := ∀ c tail, rest = c :: tail → c.isDigit = false

theorem NumberEnd.noDigit (h : NumberEnd rest) : NoDigit rest :=
  fun c tail hrest => (h c tail hrest).1

theorem takeWhile_digits (h : ∀ c ∈ text, c.isDigit = true) (hrest : NoDigit rest) :
    (text ++ rest).takeWhile Char.isDigit = text ∧ (text ++ rest).dropWhile Char.isDigit =
      rest := by
  have hstop : rest.takeWhile Char.isDigit = [] ∧ rest.dropWhile Char.isDigit = rest := by
    cases rest with
    | nil => exact ⟨rfl, rfl⟩
    | cons c tail => simp [hrest c tail rfl]
  rw [List.takeWhile_append_of_pos h, List.dropWhile_append_of_pos h, hstop.1, hstop.2,
    List.append_nil]
  exact ⟨rfl, rfl⟩

theorem takeInt_append (h : IntDigits text) (hrest : NoDigit rest) :
    takeInt (text ++ rest) = some (text, rest) := by
  rcases h with rfl | ⟨⟨hne, hdigits⟩, hzero⟩
  · rfl
  · obtain ⟨htake, hdrop⟩ := takeWhile_digits hdigits hrest
    rw [takeInt.eq_2]
    · rw [htake, if_neg hne, List.span_eq_takeWhile_dropWhile, htake, hdrop]
    · rintro tail hsame
      obtain ⟨c, letters, rfl⟩ := List.exists_cons_of_ne_nil hne
      rw [List.cons_append] at hsame
      exact hzero (congrArg some (List.cons.inj hsame).1)

theorem Digits.head (h : Digits text) : ∃ c tail, text = c :: tail ∧ c.isDigit = true := by
  obtain ⟨c, tail, rfl⟩ := List.exists_cons_of_ne_nil h.1
  exact ⟨c, tail, rfl, h.2 c List.mem_cons_self⟩

theorem IntDigits.digits (h : IntDigits text) : Digits text := by
  rcases h with rfl | ⟨hdigits, -⟩
  · exact ⟨List.cons_ne_nil _ _, List.forall_mem_singleton.mpr rfl⟩
  · exact hdigits

theorem takeMinus_append (h : Digits text) (rest : List Char) :
    takeMinus (text ++ rest) = ([], text ++ rest) := by
  obtain ⟨c, tail, rfl, hdigit⟩ := h.head
  refine takeMinus.eq_2 _ fun other hsame => ?_
  rw [(List.cons.inj hsame).1] at hdigit
  exact absurd hdigit (by decide)

theorem takeFraction_append (h : Digits text) (hrest : NoDigit rest) :
    takeFraction ('.' :: text ++ rest) = ('.' :: text, rest) := by
  obtain ⟨htake, hdrop⟩ := takeWhile_digits h.2 hrest
  rw [List.cons_append, takeFraction.eq_1, htake, hdrop, if_neg h.1]

theorem takeFraction_none (h : ∀ tail, rest ≠ '.' :: tail) : takeFraction rest = ([], rest) :=
  takeFraction.eq_2 rest fun tail hsame => h tail hsame

theorem takeSign_append {sign : List Char} (hsign : sign = [] ∨ sign = ['+'] ∨ sign = ['-'])
    (h : Digits text) (rest : List Char) :
    takeSign (sign ++ text ++ rest) = (sign, text ++ rest) := by
  rcases hsign with rfl | rfl | rfl
  · obtain ⟨c, tail, rfl, hdigit⟩ := h.head
    refine takeSign.eq_3 _ (fun other hsame => ?_) fun other hsame => ?_
    · rw [(List.cons.inj hsame).1] at hdigit
      exact absurd hdigit (by decide)
    · rw [(List.cons.inj hsame).1] at hdigit
      exact absurd hdigit (by decide)
  · rfl
  · rfl

theorem takeExponent_append {mark : Char} {sign : List Char} (hmark : mark = 'e' ∨ mark = 'E')
    (hsign : sign = [] ∨ sign = ['+'] ∨ sign = ['-']) (h : Digits text) (hrest : NoDigit rest) :
    takeExponent (mark :: (sign ++ text) ++ rest) = (mark :: (sign ++ text), rest) := by
  obtain ⟨htake, hdrop⟩ := takeWhile_digits h.2 hrest
  rw [List.cons_append, takeExponent, takeSign_append hsign h]
  simp only [htake, hdrop]
  exact if_pos ⟨hmark, h.1⟩

theorem takeExponent_none (h : ∀ c tail, rest = c :: tail → c ≠ 'e' ∧ c ≠ 'E') :
    takeExponent rest = ([], rest) := by
  cases rest with
  | nil => rfl
  | cons c tail =>
      obtain ⟨hsmall, hlarge⟩ := h c tail rfl
      rw [takeExponent]
      exact if_neg fun hcond => hcond.1.elim hsmall hlarge

theorem intDigits_toDigits (n : Nat) : IntDigits (Nat.toDigits 10 n) := by
  have hdigits (n : Nat) : Digits (Nat.toDigits 10 n) :=
    ⟨Nat.toDigits_ne_nil, fun c hc => mem_toDigits hc⟩
  by_cases hzero : n = 0
  · rw [hzero]
    exact .inl rfl
  · refine .inr ⟨hdigits n, ?_⟩
    induction n using Nat.strong_induction_on with
    | _ n ih =>
        by_cases hsmall : n < 10
        · rw [Nat.toDigits_of_lt_base hsmall]
          interval_cases n <;> first | exact absurd rfl hzero | decide
        · -- The first digit is that of the number without its last one.
          have hfirst := ih (n / 10) (by omega) (by omega)
          obtain ⟨c, tail, hshort, -⟩ := (hdigits (n / 10)).head
          rw [Nat.toDigits_of_base_le (by decide) (by omega), hshort]
          rw [hshort] at hfirst
          exact hfirst

theorem intText_eq_some_iff {n : Int} {text : List Char} :
    intText n = some text ↔ Printable n ∧ canonicalInt n = text := by
  rw [intText]
  by_cases hprintable : Printable n
  · rw [if_pos hprintable, Option.some_inj]
    exact (and_iff_right hprintable).symm
  · rw [if_neg hprintable]
    exact iff_of_false (Option.some_ne_none text).symm fun h => hprintable h.1

theorem digitsValue_toDigits {n : Nat} (h : (Nat.toDigits 10 n).length ≤ maxIntDigits) :
    digitsValue (Nat.toDigits 10 n) = some n := by
  rw [digitsValue, if_pos h, Nat.ofDigitChars_ten_toDigits]

variable {Float : Type} {floats : JsonFloats Float}

theorem scanNumber_digits {minus : List Char} (hminus : minus = [] ∨ minus = ['-']) {n : Nat}
    (h : (Nat.toDigits 10 n).length ≤ maxIntDigits) (hrest : NumberEnd rest) :
    scanNumber floats (minus ++ (Nat.toDigits 10 n ++ rest)) =
      some (.int (if minus = [] then (n : Int) else -n), rest) := by
  have hint := intDigits_toDigits n
  have hnodot : takeFraction rest = ([], rest) :=
    takeFraction_none fun tail hsame => (hrest _ tail hsame).2.1 rfl
  have hnomark : takeExponent rest = ([], rest) := takeExponent_none fun c tail hsame =>
    (hrest c tail hsame).2.2
  have hsign : takeMinus (minus ++ (Nat.toDigits 10 n ++ rest)) =
      (minus, Nat.toDigits 10 n ++ rest) := by
    rcases hminus with rfl | rfl
    · exact takeMinus_append hint.digits rest
    · rfl
  simp only [scanNumber, hsign, takeInt_append hint hrest.noDigit, hnodot, hnomark,
    digitsValue_toDigits h, Option.bind_eq_bind, Option.bind_some, and_self, if_true]

theorem scanNumber_int {n : Int} (h : Printable n) (hrest : NumberEnd rest) :
    scanNumber floats (canonicalInt n ++ rest) = some (.int n, rest) := by
  rw [canonicalInt]
  split_ifs with hneg
  · have hread : scanNumber floats (['-'] ++ _) = _ := scanNumber_digits (.inr rfl) h hrest
    have hvalue : -(n.natAbs : Int) = n := by omega
    rw [if_neg (List.cons_ne_nil _ _), hvalue] at hread
    exact hread
  · have hread : scanNumber floats ([] ++ _) = _ := scanNumber_digits (.inl rfl) h hrest
    have hvalue : (n.natAbs : Int) = n := by omega
    rw [if_pos rfl, hvalue] at hread
    exact hread

theorem scanNumber_float (h : FloatText text) (hrest : NumberEnd rest) :
    scanNumber floats (text ++ rest) = some (.float (floats.read text), rest) := by
  obtain ⟨minus, digits, fraction, exponent, rfl, hminus, hdigits, hfraction, hexponent, hsome⟩ :=
    h.parts
  -- What stands behind the digits, and behind the fraction, does not go on with a digit.
  have hpower : takeExponent (exponent ++ rest) = (exponent, rest) := by
    rcases hexponent with rfl | ⟨mark, sign, power, rfl, hmark, hsign, hpower⟩
    · exact takeExponent_none fun c tail hsame => (hrest c tail hsame).2.2
    · exact takeExponent_append hmark hsign hpower hrest.noDigit
  have hafter : NoDigit (exponent ++ rest) ∧ ∀ tail, exponent ++ rest ≠ '.' :: tail := by
    rcases hexponent with rfl | ⟨mark, sign, power, rfl, hmark, -⟩
    · exact ⟨hrest.noDigit, fun tail hsame => (hrest _ tail hsame).2.1 rfl⟩
    · constructor
      · intro c tail hsame
        rw [← (List.cons.inj hsame).1]
        rcases hmark with rfl | rfl <;> rfl
      · intro tail hsame
        have hdot := (List.cons.inj hsame).1
        rcases hmark with rfl | rfl <;> exact absurd hdot (by decide)
  have hpoint : takeFraction (fraction ++ (exponent ++ rest)) = (fraction, exponent ++ rest) := by
    rcases hfraction with rfl | ⟨behind, rfl, hbehind⟩
    · exact takeFraction_none hafter.2
    · exact takeFraction_append hbehind hafter.1
  have hbehind : NoDigit (fraction ++ (exponent ++ rest)) := by
    rcases hfraction with rfl | ⟨behind, rfl, -⟩
    · exact hafter.1
    · intro c tail hsame
      rw [← (List.cons.inj hsame).1]
      rfl
  have hsign : takeMinus (minus ++ (digits ++ (fraction ++ (exponent ++ rest)))) =
      (minus, digits ++ (fraction ++ (exponent ++ rest))) := by
    rcases hminus with rfl | rfl
    · exact takeMinus_append hdigits.digits _
    · rfl
  have hnonint : ¬ (fraction = [] ∧ exponent = []) :=
    fun hnone => hsome.elim (absurd hnone.1) (absurd hnone.2)
  simp only [List.append_assoc, scanNumber, hsign, takeInt_append hdigits hbehind, hpoint, hpower,
    Option.bind_eq_bind, Option.bind_some, if_neg hnonint]

end Numbers

section Values

variable {Float : Type}

inductive IsJson (floats : JsonFloats Float) : PyValue Float → Prop where
  | none : IsJson floats .none
  | bool (b : Bool) : IsJson floats (.bool b)
  | int {n : Int} (h : Printable n) : IsJson floats (.int n)
  | float {x : Float} (h : floats.isFinite x = true) : IsJson floats (.float x)
  | str (s : String) : IsJson floats (.str s)
  | list {items : List (PyValue Float)} (h : ∀ item ∈ items, IsJson floats item) :
    IsJson floats (.list items)
  | dict {entries : List (String × PyValue Float)} (hkeys : (entries.map Prod.fst).Nodup)
      (h : ∀ entry ∈ entries, IsJson floats entry.2) : IsJson floats (.dict entries)

structure JsonFloats.Lawful (floats : JsonFloats Float) : Prop where
  text : ∀ x, floats.isFinite x = true → FloatText (floats.write x)
  read : ∀ x, floats.isFinite x = true → floats.read (floats.write x) = x

variable {text rest : List Char}

def Starts (text : List Char) : Prop := ∃ c tail, text = c :: tail ∧ isJsonSpace c = false ∧ c ≠ ']'

theorem Starts.append (h : Starts text) (rest : List Char) : Starts (text ++ rest) := by
  obtain ⟨c, tail, rfl, hstart⟩ := h
  exact ⟨c, tail ++ rest, rfl, hstart⟩

theorem Starts.skipSpace (h : Starts text) : skipSpace text = text := by
  obtain ⟨c, tail, rfl, hspace, -⟩ := h
  rw [AiAnalytics.Lib.skipSpace, List.dropWhile_cons_of_neg (by rw [hspace]; decide)]

theorem starts_intercalate {first : List Char} (h : Starts first) (texts : List (List Char)) :
    Starts (List.intercalate ", ".toList (first :: texts)) := by
  cases texts with
  | nil => rwa [List.intercalate_singleton]
  | cons second texts =>
      rw [List.intercalate_cons_cons, List.append_assoc]
      exact h.append _

structure Reads (floats : JsonFloats Float) (text : List Char) (value : PyValue Float) : Prop where
  dumps : jsonDumps floats value = some text
  plain : Plain text
  starts : Starts text
  scan : ∀ fuel rest, text.length ≤ fuel → NumberEnd rest →
    scanValue floats fuel (text ++ rest) = some (value, rest)

variable {floats : JsonFloats Float} {value : PyValue Float}

theorem scanValue_number {minus digits : List Char} (hminus : minus = [] ∨ minus = ['-'])
    (h : Digits digits) (fuel : Nat) (rest : List Char) :
    scanValue floats (fuel + 1) (minus ++ (digits ++ rest)) =
      scanNumber floats (minus ++ (digits ++ rest)) := by
  obtain ⟨c, tail, rfl, hdigit⟩ := h.head
  have hne {d : Char} (hd : d.isDigit = false) : c ≠ d := by
    rintro rfl
    rw [hd] at hdigit
    cases hdigit
  rcases hminus with rfl | rfl
  · refine scanValue.eq_11 floats _ fuel ?_ ?_ ?_ ?_ ?_ ?_ ?_ ?_ ?_ <;> intro other hsame <;>
      exact hne (by decide) (List.cons.inj hsame).1
  · refine scanValue.eq_11 floats _ fuel ?_ ?_ ?_ ?_ ?_ ?_ ?_ ?_ ?_ <;> intro other hsame
    all_goals first
      | exact absurd (List.cons.inj hsame).1 (by decide)
      | exact hne (by decide) (List.cons.inj (List.cons.inj hsame).2).1

theorem starts_number {minus digits : List Char} (hminus : minus = [] ∨ minus = ['-'])
    (h : Digits digits) (rest : List Char) : Starts (minus ++ (digits ++ rest)) := by
  obtain ⟨c, tail, rfl, hdigit⟩ := h.head
  rcases hminus with rfl | rfl
  · refine ⟨c, tail ++ rest, rfl, ?_, ?_⟩
    · have hne {d : Char} (hd : d.isDigit = false) : c ≠ d := by
        rintro rfl
        rw [hd] at hdigit
        cases hdigit
      simp [isJsonSpace, hne]
    · rintro rfl
      exact absurd hdigit (by decide)
  · exact ⟨'-', c :: tail ++ rest, rfl, by decide, by decide⟩

theorem plain_digits (h : ∀ c ∈ text, c.isDigit = true) : Plain text := by
  intro c hc
  have hdigit := h c hc
  rw [Char.isDigit, Bool.and_eq_true, decide_eq_true_iff, decide_eq_true_iff] at hdigit
  obtain ⟨hlow, hhigh⟩ := hdigit
  have hlow' : 48 ≤ c.toNat := hlow
  have hhigh' : c.toNat ≤ 57 := hhigh
  omega

theorem FloatText.plain (h : FloatText text) : Plain text := by
  obtain ⟨minus, digits, fraction, exponent, rfl, hminus, hdigits, hfraction, hexponent, -⟩ :=
    h.parts
  have hminus' : Plain minus := by
    rcases hminus with rfl | rfl <;> decide
  have hfraction' : Plain fraction := by
    rcases hfraction with rfl | ⟨behind, rfl, hbehind⟩
    · exact List.forall_mem_nil _
    · exact List.forall_mem_cons.mpr ⟨by decide, plain_digits hbehind.2⟩
  have hexponent' : Plain exponent := by
    rcases hexponent with rfl | ⟨mark, sign, power, rfl, hmark, hsign, hpower⟩
    · exact List.forall_mem_nil _
    · have hmark' : 32 ≤ mark.toNat ∧ mark.toNat ≤ 126 := by
        rcases hmark with rfl | rfl <;> decide
      have hsign' : Plain sign := by
        rcases hsign with rfl | rfl | rfl <;> decide
      exact List.forall_mem_cons.mpr ⟨hmark', hsign'.append (plain_digits hpower.2)⟩
  exact ((hminus'.append (plain_digits hdigits.digits.2)).append hfraction').append hexponent'

theorem reads_int {n : Int} (h : Printable n) : Reads floats (canonicalInt n) (.int n) := by
  obtain ⟨minus, hminus, htext⟩ : ∃ minus : List Char, (minus = [] ∨ minus = ['-']) ∧
      canonicalInt n = minus ++ Nat.toDigits 10 n.natAbs := by
    rw [canonicalInt]
    split_ifs
    · exact ⟨['-'], .inr rfl, rfl⟩
    · exact ⟨[], .inl rfl, rfl⟩
  have hdigits := (intDigits_toDigits n.natAbs).digits
  refine ⟨?_, ?_, ?_, fun fuel rest hfuel hrest => ?_⟩
  · exact intText_eq_some_iff.mpr ⟨h, rfl⟩
  · rw [htext]
    refine Plain.append ?_ (plain_digits hdigits.2)
    rcases hminus with rfl | rfl <;> decide
  · have hhead := starts_number hminus hdigits []
    rwa [List.append_nil, ← htext] at hhead
  · have hpos : 0 < (canonicalInt n).length := List.length_pos_of_ne_nil (canonicalInt_ne_nil n)
    obtain ⟨fuel, rfl⟩ : ∃ fuel', fuel = fuel' + 1 := ⟨fuel - 1, by omega⟩
    rw [← scanNumber_int h hrest, htext, List.append_assoc, scanValue_number hminus hdigits]

theorem reads_float (hlawful : floats.Lawful) {x : Float} (h : floats.isFinite x = true) :
    Reads floats (floats.write x) (.float x) := by
  have hfloat := hlawful.text x h
  obtain ⟨minus, digits, fraction, exponent, htext, hminus, hdigits, -⟩ := hfloat.parts
  have hsplit (rest : List Char) :
      floats.write x ++ rest = minus ++ (digits ++ (fraction ++ exponent ++ rest)) := by
    simp only [htext, List.append_assoc]
  have hhead := starts_number hminus hdigits.digits (fraction ++ exponent ++ [])
  rw [← hsplit, List.append_nil] at hhead
  refine ⟨rfl, hfloat.plain, hhead, fun fuel rest hfuel hrest => ?_⟩
  obtain ⟨c, tail, hcons, -⟩ := hhead
  rw [hcons, List.length_cons] at hfuel
  obtain ⟨fuel, rfl⟩ : ∃ fuel', fuel = fuel' + 1 := ⟨fuel - 1, by omega⟩
  have hread : scanNumber floats _ = _ := scanNumber_float hfloat hrest
  rw [hlawful.read x h] at hread
  rw [← hread, hsplit, scanValue_number hminus hdigits.digits]

theorem scanValue_quote (fuel : Nat) (rest : List Char) :
    scanValue floats (fuel + 1) ('"' :: rest) =
      (scanText rest.length rest).bind fun read => some (.str (String.ofList read.1), read.2) := rfl

theorem reads_str (s : String) : Reads floats (jsonText s) (.str s) := by
  refine ⟨rfl, plain_jsonText s, ⟨'"', _, rfl, by decide, by decide⟩, fun fuel rest hfuel _ => ?_⟩
  obtain ⟨fuel, rfl⟩ : ∃ fuel', fuel = fuel' + 1 := ⟨fuel - 1, by simp [jsonText] at hfuel; omega⟩
  have hread := scanText_jsonText s rest
  rw [jsonText, List.cons_append, List.append_assoc, List.singleton_append, scanValue_quote, hread,
    Option.bind_some, String.ofList_toList]

theorem reads_none : Reads floats "null".toList .none := by
  refine ⟨rfl, by decide, ⟨'n', _, rfl, by decide, by decide⟩, fun fuel rest hfuel _ => ?_⟩
  obtain ⟨fuel, rfl⟩ : ∃ fuel', fuel = fuel' + 1 := ⟨fuel - 1, by simp at hfuel; omega⟩
  rfl

theorem reads_bool (b : Bool) :
    Reads floats (if b then "true".toList else "false".toList) (.bool b) := by
  cases b with
  | false =>
      refine ⟨rfl, by decide, ⟨'f', _, rfl, by decide, by decide⟩, fun fuel rest hfuel _ => ?_⟩
      obtain ⟨fuel, rfl⟩ : ∃ fuel', fuel = fuel' + 1 := ⟨fuel - 1, by simp at hfuel; omega⟩
      rfl
  | true =>
      refine ⟨rfl, by decide, ⟨'t', _, rfl, by decide, by decide⟩, fun fuel rest hfuel _ => ?_⟩
      obtain ⟨fuel, rfl⟩ : ∃ fuel', fuel = fuel' + 1 := ⟨fuel - 1, by simp at hfuel; omega⟩
      rfl

theorem jsonDumps_list (items : List (PyValue Float)) :
    jsonDumps floats (.list items) =
      (dumpItems floats items).map fun texts =>
      '[' :: (List.intercalate ", ".toList texts ++ [']']) := rfl

theorem jsonDumps_dict (entries : List (String × PyValue Float)) :
    jsonDumps floats (.dict entries) =
      (dumpEntries floats entries).map fun texts =>
      '\x7b' :: (List.intercalate ", ".toList texts ++ ['\x7d']) := rfl

theorem scanValue_bracket (fuel : Nat) (rest : List Char) :
    scanValue floats (fuel + 1) ('[' :: rest) = match skipSpace rest with
      | ']' :: rest => some (.list [], rest)
      | rest => (scanItems floats fuel rest).bind fun read => some (.list read.1, read.2) := rfl

theorem scanValue_brace (fuel : Nat) (rest : List Char) :
    scanValue floats (fuel + 1) ('\x7b' :: rest) = match skipSpace rest with
      | '\x7d' :: rest => some (.dict [], rest)
      | rest =>
        (scanEntries floats fuel rest).bind fun read => some (.dict (dictOfPairs read.1), read.2) :=
          rfl

def ReadsAll (floats : JsonFloats Float) : List (List Char) → List (PyValue Float) → Prop :=
  List.Forall₂ (Reads floats)

theorem dumpItems_of_readsAll {texts : List (List Char)} {items : List (PyValue Float)}
    (h : ReadsAll floats texts items) : dumpItems floats items = some texts := by
  induction h with
  | nil => rw [dumpItems]
  | cons hfirst _ ih =>
      rw [dumpItems, hfirst.dumps, ih]
      rfl

theorem plain_intercalate {texts : List (List Char)} (h : ∀ text ∈ texts, Plain text) :
    Plain (List.intercalate ", ".toList texts) := by
  induction texts with
  | nil => exact List.forall_mem_nil _
  | cons first texts ih =>
      obtain ⟨hfirst, hothers⟩ := List.forall_mem_cons.mp h
      cases texts with
      | nil => simpa using hfirst
      | cons second texts =>
          rw [List.intercalate_cons_cons]
          exact (hfirst.append (by decide)).append (ih hothers)

theorem readsAll_starts {texts : List (List Char)} {items : List (PyValue Float)}
    (h : ReadsAll floats texts items) (hne : texts ≠ []) :
    Starts (List.intercalate ", ".toList texts) := by
  cases h with
  | nil => exact absurd rfl hne
  | cons hfirst _ => exact starts_intercalate hfirst.starts _

theorem scanItems_reads {texts : List (List Char)} {items : List (PyValue Float)}
    (h : ReadsAll floats texts items) (hne : texts ≠ []) {fuel : Nat}
    (hfuel : (List.intercalate ", ".toList texts).length < fuel) (rest : List Char) :
    scanItems floats fuel (List.intercalate ", ".toList texts ++ ']' :: rest) =
      some (items, rest) := by
  induction h generalizing fuel with
  | nil => exact absurd rfl hne
  | @cons text item texts items hfirst hothers ih =>
      obtain ⟨fuel, rfl⟩ : ∃ fuel', fuel = fuel' + 1 := ⟨fuel - 1, by omega⟩
      by_cases hlast : texts = []
      · subst hlast
        cases hothers
        have hread := hfirst.scan fuel (']' :: rest) (by simpa using Nat.le_of_lt_succ hfuel)
          (by rintro c tail ⟨⟩; decide)
        have hclose : skipSpace (']' :: rest) = ']' :: rest := rfl
        rw [List.intercalate_singleton, scanItems.eq_2, hread]
        simp only [Option.bind_eq_bind, Option.bind_some, hclose]
      · obtain ⟨second, others, rfl⟩ := List.exists_cons_of_ne_nil hlast
        set more := List.intercalate ", ".toList (second :: others) ++ ']' :: rest with hmore
        have htext : List.intercalate ", ".toList (text :: second :: others) ++ ']' :: rest =
            text ++ (',' :: ' ' :: more) := by
          simp [hmore, List.intercalate_cons_cons]
        rw [List.intercalate_cons_cons, List.length_append, List.length_append] at hfuel
        have hread := hfirst.scan fuel (',' :: ' ' :: more) (by omega) (by rintro c tail ⟨⟩; decide)
        have hcomma : skipSpace (',' :: ' ' :: more) = ',' :: ' ' :: more := rfl
        have hspace : skipSpace (' ' :: more) = more :=
          ((readsAll_starts hothers (List.cons_ne_nil _ _)).append (']' :: rest)).skipSpace
        have hnext : scanItems floats fuel more = some (_, rest) :=
          ih (List.cons_ne_nil _ _) (by simp at hfuel ⊢; omega)
        rw [htext, scanItems.eq_2, hread]
        simp only [Option.bind_eq_bind, Option.bind_some, hcomma, hspace, hnext]

theorem reads_list {texts : List (List Char)} {items : List (PyValue Float)}
    (h : ReadsAll floats texts items) :
    Reads floats ('[' :: (List.intercalate ", ".toList texts ++ [']'])) (.list items) := by
  have hplain : ∀ text ∈ texts, Plain text := by
    induction h with
    | nil => exact List.forall_mem_nil _
    | cons hfirst _ ih => exact List.forall_mem_cons.mpr ⟨hfirst.plain, ih⟩
  refine ⟨?_, ?_, ⟨'[', _, rfl, by decide, by decide⟩, fun fuel rest hfuel _ => ?_⟩
  · rw [jsonDumps_list, dumpItems_of_readsAll h]
    rfl
  · exact List.forall_mem_cons.mpr ⟨by decide, (plain_intercalate hplain).append (by decide)⟩
  · rw [List.length_cons, List.length_append, List.length_singleton] at hfuel
    obtain ⟨fuel, rfl⟩ : ∃ fuel', fuel = fuel' + 1 := ⟨fuel - 1, by omega⟩
    rw [List.cons_append, List.append_assoc, List.singleton_append, scanValue_bracket]
    by_cases hempty : texts = []
    · subst hempty
      cases h
      rfl
    · have hstarts := (readsAll_starts h hempty).append (']' :: rest)
      have hitems := scanItems_reads h hempty (Nat.lt_of_succ_lt_succ hfuel) rest
      rw [hstarts.skipSpace]
      obtain ⟨c, tail, hcons, -, hclose⟩ := hstarts
      rw [hcons] at hitems ⊢
      split
      · rename_i other hsame
        exact absurd (List.cons.inj hsame).1 hclose
      · rw [hitems]
        rfl

def ReadsEntry (floats : JsonFloats Float) (text : List Char) (entry : String × PyValue Float) :
    Prop :=
  ∃ valueText, text = jsonText entry.1 ++ ": ".toList ++ valueText ∧ Reads floats valueText entry.2

def ReadsEntries (floats : JsonFloats Float) :
    List (List Char) → List (String × PyValue Float) → Prop :=
  List.Forall₂ (ReadsEntry floats)

theorem ReadsEntry.starts {text : List Char} {entry : String × PyValue Float}
    (h : ReadsEntry floats text entry) : Starts text := by
  obtain ⟨valueText, rfl, -⟩ := h
  exact ⟨'"', _, rfl, by decide, by decide⟩

theorem ReadsEntry.plain {text : List Char} {entry : String × PyValue Float}
    (h : ReadsEntry floats text entry) : Plain text := by
  obtain ⟨valueText, rfl, hvalue⟩ := h
  exact ((plain_jsonText _).append (by decide)).append hvalue.plain

theorem dumpEntries_of_readsEntries {texts : List (List Char)}
    {entries : List (String × PyValue Float)} (h : ReadsEntries floats texts entries) :
    dumpEntries floats entries = some texts := by
  induction h with
  | nil => rw [dumpEntries]
  | cons hfirst _ ih =>
      obtain ⟨valueText, rfl, hvalue⟩ := hfirst
      rw [dumpEntries, hvalue.dumps, ih]
      rfl

theorem readsEntries_starts {texts : List (List Char)} {entries : List (String × PyValue Float)}
    (h : ReadsEntries floats texts entries) (hne : texts ≠ []) :
    Starts (List.intercalate ", ".toList texts) := by
  cases h with
  | nil => exact absurd rfl hne
  | cons hfirst _ => exact starts_intercalate hfirst.starts _

theorem scanEntries_entry {text : List Char} {entry : String × PyValue Float}
    (h : ReadsEntry floats text entry) {fuel : Nat} (hfuel : text.length ≤ fuel)
    {behind : List Char} (hbehind : NumberEnd behind) :
    scanEntries floats (fuel + 1) (text ++ behind) = match skipSpace behind with
      | '\x7d' :: rest => some ([entry], rest)
      | ',' :: rest =>
        (scanEntries floats fuel (skipSpace rest)).bind fun read => some (entry :: read.1, read.2)
      | _ => none := by
  obtain ⟨key, value⟩ := entry
  obtain ⟨valueText, rfl, hvalue⟩ := h
  have hletters := scanText_jsonText key (':' :: ' ' :: (valueText ++ behind))
  have htext : jsonText key ++ ": ".toList ++ valueText ++ behind =
      '"' :: (key.toList.flatMap jsonChar ++ '"' :: ':' :: ' ' :: (valueText ++ behind)) := by
    simp [jsonText]
  have hcolon : skipSpace (':' :: ' ' :: (valueText ++ behind)) =
    ':' :: ' ' :: (valueText ++ behind) := rfl
  have hspace : skipSpace (' ' :: (valueText ++ behind)) = valueText ++ behind :=
    (hvalue.starts.append behind).skipSpace
  have hread := hvalue.scan fuel behind (by simp only [List.length_append] at hfuel; omega) hbehind
  have hscan :=
    scanEntries.eq_2 floats fuel (key.toList.flatMap jsonChar ++ '"' :: ':' :: ' ' ::
      (valueText ++ behind))
  simp only [hletters, Option.bind_eq_bind, Option.bind_some, hcolon, hspace, hread,
    String.ofList_toList] at hscan
  rw [htext]
  exact hscan

theorem scanEntries_reads {texts : List (List Char)} {entries : List (String × PyValue Float)}
    (h : ReadsEntries floats texts entries) (hne : texts ≠ []) {fuel : Nat}
    (hfuel : (List.intercalate ", ".toList texts).length < fuel) (rest : List Char) :
    scanEntries floats fuel (List.intercalate ", ".toList texts ++ '\x7d' :: rest) =
      some (entries, rest) := by
  induction h generalizing fuel with
  | nil => exact absurd rfl hne
  | @cons text entry texts entries hfirst hothers ih =>
      obtain ⟨fuel, rfl⟩ : ∃ fuel', fuel = fuel' + 1 := ⟨fuel - 1, by omega⟩
      by_cases hlast : texts = []
      · subst hlast
        cases hothers
        rw [List.intercalate_singleton] at hfuel ⊢
        rw [scanEntries_entry hfirst (Nat.le_of_lt_succ hfuel) (by rintro c tail ⟨⟩; decide)]
        rfl
      · obtain ⟨second, others, rfl⟩ := List.exists_cons_of_ne_nil hlast
        set more := List.intercalate ", ".toList (second :: others) ++ '\x7d' :: rest with hmore
        have htext : List.intercalate ", ".toList (text :: second :: others) ++ '\x7d' :: rest =
            text ++ (',' :: ' ' :: more) := by
          simp [hmore, List.intercalate_cons_cons]
        rw [List.intercalate_cons_cons, List.length_append, List.length_append] at hfuel
        have hcomma : skipSpace (',' :: ' ' :: more) = ',' :: ' ' :: more := rfl
        have hspace : skipSpace (' ' :: more) = more :=
          ((readsEntries_starts hothers (List.cons_ne_nil _ _)).append ('\x7d' :: rest)).skipSpace
        have hnext : scanEntries floats fuel more = some (_, rest) :=
          ih (List.cons_ne_nil _ _) (by simp at hfuel ⊢; omega)
        rw [htext, scanEntries_entry hfirst (by omega) (by rintro c tail ⟨⟩; decide), hcomma]
        simp only [hspace, hnext, Option.bind_some]

theorem dictOfPairs_of_nodup {entries : List (String × PyValue Float)}
    (h : (entries.map Prod.fst).Nodup) : dictOfPairs entries = entries := by
  induction entries using List.reverseRecOn with
  | nil => rfl
  | append_singleton entries entry ih =>
      rw [List.map_append, List.map_singleton, List.nodup_append] at h
      obtain ⟨hentries, -, hnew⟩ := h
      have hfresh : entry.1 ∉ entries.map Prod.fst :=
        fun hmem => hnew _ hmem _ (List.mem_singleton_self _) rfl
      rw [dictOfPairs, List.foldl_append, ← dictOfPairs, ih hentries]
      exact if_neg hfresh

theorem reads_dict {texts : List (List Char)} {entries : List (String × PyValue Float)}
    (h : ReadsEntries floats texts entries) (hkeys : (entries.map Prod.fst).Nodup) :
    Reads floats ('\x7b' :: (List.intercalate ", ".toList texts ++ ['\x7d'])) (.dict entries) := by
  have hplain : ∀ text ∈ texts, Plain text := by
    clear hkeys
    induction h with
    | nil => exact List.forall_mem_nil _
    | cons hfirst _ ih => exact List.forall_mem_cons.mpr ⟨hfirst.plain, ih⟩
  refine ⟨?_, ?_, ⟨'\x7b', _, rfl, by decide, by decide⟩, fun fuel rest hfuel _ => ?_⟩
  · rw [jsonDumps_dict, dumpEntries_of_readsEntries h]
    rfl
  · exact List.forall_mem_cons.mpr ⟨by decide, (plain_intercalate hplain).append (by decide)⟩
  · rw [List.length_cons, List.length_append, List.length_singleton] at hfuel
    obtain ⟨fuel, rfl⟩ : ∃ fuel', fuel = fuel' + 1 := ⟨fuel - 1, by omega⟩
    rw [List.cons_append, List.append_assoc, List.singleton_append, scanValue_brace]
    cases h with
    | nil => rfl
    | @cons text entry texts entries hfirst hothers =>
        have hall : ReadsEntries floats (text :: texts) (entry :: entries) := .cons hfirst hothers
        have hentries :=
          scanEntries_reads hall (List.cons_ne_nil _ _) (Nat.lt_of_succ_lt_succ hfuel) rest
        rw [((readsEntries_starts hall (List.cons_ne_nil _ _)).append ('\x7d' :: rest)).skipSpace]
        obtain ⟨letters, hquote⟩ : ∃ letters, List.intercalate ", ".toList (text :: texts) ++
            '\x7d' :: rest = '"' :: letters := by
          obtain ⟨valueText, rfl, -⟩ := hfirst
          cases texts <;> exact ⟨_, by simp [jsonText, List.intercalate_cons_cons]; rfl⟩
        rw [hquote] at hentries ⊢
        change ((scanEntries floats fuel ('"' :: letters)).bind fun read =>
          some (PyValue.dict (dictOfPairs read.1), read.2)) = _
        rw [hentries, Option.bind_some, dictOfPairs_of_nodup hkeys]

theorem exists_forall₂ {α β : Type} {related : α → β → Prop} {values : List β}
    (h : ∀ value ∈ values, ∃ text, related text value) :
    ∃ texts, List.Forall₂ related texts values := by
  induction values with
  | nil => exact ⟨[], .nil⟩
  | cons value values ih =>
      obtain ⟨hfirst, hothers⟩ := List.forall_mem_cons.mp h
      obtain ⟨text, htext⟩ := hfirst
      obtain ⟨texts, htexts⟩ := ih hothers
      exact ⟨text :: texts, .cons htext htexts⟩

theorem exists_reads (hlawful : floats.Lawful) (h : IsJson floats value) :
    ∃ text, Reads floats text value := by
  induction h with
  | none => exact ⟨_, reads_none⟩
  | bool b => exact ⟨_, reads_bool b⟩
  | int hprintable => exact ⟨_, reads_int hprintable⟩
  | float hfinite => exact ⟨_, reads_float hlawful hfinite⟩
  | str s => exact ⟨_, reads_str s⟩
  | @list items _ ih =>
      obtain ⟨texts, htexts⟩ := exists_forall₂ ih
      exact ⟨_, reads_list htexts⟩
  | @dict entries hkeys _ ih =>
      have hentry : ∀ entry ∈ entries, ∃ text, ReadsEntry floats text entry := by
        intro entry hentry
        obtain ⟨valueText, hvalue⟩ := ih entry hentry
        exact ⟨_, valueText, rfl, hvalue⟩
      obtain ⟨texts, htexts⟩ := exists_forall₂ hentry
      exact ⟨_, reads_dict htexts hkeys⟩

theorem Reads.loads {spaces : List Char} (h : Reads floats text value)
    (hspaces : ∀ c ∈ spaces, isJsonSpace c = true) :
    jsonLoads floats (spaces ++ text) = some value := by
  have hskip : skipSpace (spaces ++ text) = text := by
    rw [skipSpace, List.dropWhile_append_of_pos hspaces]
    exact h.starts.skipSpace
  have hfuel : text.length ≤ (spaces ++ text).length := by
    rw [List.length_append]
    omega
  have hread := h.scan (spaces ++ text).length [] hfuel fun _ _ => nofun
  rw [List.append_nil] at hread
  rw [jsonLoads, hskip, hread]
  rfl

theorem loads_dumps (hlawful : floats.Lawful) (h : IsJson floats value) :
    ∃ text, jsonDumps floats value = some text ∧ Plain text ∧
      jsonLoads floats text = some value := by
  obtain ⟨text, htext⟩ := exists_reads hlawful h
  exact ⟨text, htext.dumps, htext.plain, htext.loads (List.forall_mem_nil _)⟩

end Values

end AiAnalytics.Lib
