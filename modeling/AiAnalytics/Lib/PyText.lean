import Mathlib.Data.List.Basic

/-!
# Texts as Python sees them

The parts of `str` that the development uses, on lists of characters: white space as `str.isspace`
has it, `strip`, the number of words of `split()`, the search for a fixed text, the division into
lines, and the text that `json.dumps` writes of a text.
-/

namespace AiAnalytics.Lib

/-- Named, so that all modules decide alike whether a text is in a list. -/
instance lawfulBEqText : LawfulBEq (List Char) := inferInstance

instance decidableEqBytes : DecidableEq ByteArray := ByteArray.instDecidableEq

def isSpace (c : Char) : Bool :=
  let n := c.toNat
  (9 ≤ n ∧ n ≤ 13) ∨ (28 ≤ n ∧ n ≤ 32) ∨ n = 0x85 ∨ n = 0xa0 ∨ n = 0x1680 ∨
    (0x2000 ≤ n ∧ n ≤ 0x200a) ∨ n = 0x2028 ∨ n = 0x2029 ∨ n = 0x202f ∨ n = 0x205f ∨ n = 0x3000

/-- `text.strip()` -/
def strip (text : List Char) : List Char :=
  ((text.dropWhile isSpace).reverse.dropWhile isSpace).reverse

def wordCount (text : List Char) : Nat :=
  (text.foldl (fun (count, inWord) c =>
    if isSpace c then (count, false) else (if inWord then count else count + 1, true)) (0, false)).1

def splitAtTag (tag : List Char) : List Char → Option (List Char × List Char)
  | [] => if tag = [] then some ([], []) else none
  | c :: text =>
      if tag.isPrefixOf (c :: text) then some ([], (c :: text).drop tag.length)
      else (splitAtTag tag text).map fun (before, after) => (c :: before, after)

/-- `tag in text` -/
def contains (tag text : List Char) : Bool := (splitAtTag tag text).isSome

section Integers

def readDigits (digit : Char → Option Nat) : List Char → Option (List Nat)
  | [] => none
  | [c] => (digit c).map fun d => [d]
  | c :: '_' :: rest => do
      let d ← digit c
      let digits ← readDigits digit rest
      pure (d :: digits)
  | c :: rest => do
      let d ← digit c
      let digits ← readDigits digit rest
      pure (d :: digits)

def maxIntDigits : Nat := 4300

def readNat (digit : Char → Option Nat) (text : List Char) : Option Nat := do
  let digits ← readDigits digit text
  if digits.length ≤ maxIntDigits then some (digits.foldl (fun n d => 10 * n + d) 0) else none

def readInt (digit : Char → Option Nat) (text : List Char) : Option Int :=
  match strip text with
  | '-' :: rest => (readNat digit rest).map fun n => -(n : Int)
  | '+' :: rest => (readNat digit rest).map Int.ofNat
  | rest => (readNat digit rest).map Int.ofNat

end Integers

section Lines

def isLineBreak (c : Char) : Bool :=
  let n := c.toNat
  (10 ≤ n ∧ n ≤ 13) ∨ (28 ≤ n ∧ n ≤ 30) ∨ n = 0x85 ∨ n = 0x2028 ∨ n = 0x2029

/-- `text.splitlines()` -/
def splitLines : List Char → List (List Char)
  | [] => []
  | '\r' :: '\n' :: rest => [] :: splitLines rest
  | c :: rest =>
      if isLineBreak c then [] :: splitLines rest
      else match splitLines rest with
        | [] => [[c]]
        | line :: lines => (c :: line) :: lines

theorem splitLines_newline (rest : List Char) :
    splitLines ('\n' :: rest) = [] :: splitLines rest := by
  simp [splitLines, isLineBreak]

theorem splitLines_cons {c : Char} (h : isLineBreak c = false) (rest : List Char) :
    splitLines (c :: rest) = match splitLines rest with
      | [] => [[c]]
      | line :: lines => (c :: line) :: lines := by
  have hreturn : c ≠ '\r' := by
    rintro rfl
    exact absurd h (by decide)
  rw [splitLines.eq_3 c rest fun _ hc _ => hreturn hc, h]
  rfl

theorem splitLines_line {line : List Char} (h : ∀ c ∈ line, isLineBreak c = false)
    (rest : List Char) : splitLines (line ++ '\n' :: rest) = line :: splitLines rest := by
  induction line with
  | nil => exact splitLines_newline rest
  | cons c line ih =>
      obtain ⟨hc, hline⟩ := List.forall_mem_cons.1 h
      rw [List.cons_append, splitLines_cons hc, ih hline]

end Lines

section Literals

variable {text text' : String} {letters : List Char} {m n : Nat}

theorem literal_length_le (h : letters.length ≤ n) : (String.ofList letters).length ≤ n := by
  rwa [String.length_ofList]

theorem append_length_le (h : text.length ≤ m) (h' : text'.length ≤ n) :
    (text ++ text').length ≤ m + n := by
  rw [String.length_append]
  omega

theorem literal_ne_empty (h : letters ≠ []) : String.ofList letters ≠ "" := by
  intro hempty
  have hletters := congrArg String.toList hempty
  rw [String.toList_ofList] at hletters
  exact h hletters

theorem append_ne_empty (h : text ≠ "") : text ++ text' ≠ "" := by
  intro hempty
  have hletters := congrArg String.toList hempty
  rw [String.toList_append] at hletters
  exact h (String.toList_inj.mp (List.append_eq_nil_iff.mp hletters).1)

end Literals

section Json

def hexDigit (n : Nat) : Char := "0123456789abcdef".toList.getD n '0'

def unicodeEscape (n : Nat) : List Char :=
  ['\\', 'u', hexDigit (n / 4096 % 16), hexDigit (n / 256 % 16), hexDigit (n / 16 % 16),
    hexDigit (n % 16)]

/-- One character of a text as `json.dumps` writes it: printable ASCII stays, a character beyond the
basic plane becomes a surrogate pair. -/
def jsonChar (c : Char) : List Char :=
  let n := c.toNat
  if c = '"' ∨ c = '\\' then ['\\', c]
  else if c = '\n' then ['\\', 'n']
  else if c = '\r' then ['\\', 'r']
  else if c = '\t' then ['\\', 't']
  else if n = 8 then ['\\', 'b']
  else if n = 12 then ['\\', 'f']
  else if 32 ≤ n ∧ n ≤ 126 then [c]
  else if n < 0x10000 then unicodeEscape n
  else unicodeEscape (0xd800 + (n - 0x10000) / 1024) ++ unicodeEscape
    (0xdc00 + (n - 0x10000) % 1024)

def jsonText (text : String) : List Char := '"' :: (text.toList.flatMap jsonChar ++ ['"'])

theorem not_isLineBreak_hexDigit : ∀ n < 16, isLineBreak (hexDigit n) = false := by decide

theorem not_isLineBreak_unicodeEscape (n : Nat) : ∀ c ∈ unicodeEscape n, isLineBreak c = false := by
  have hdigit (m : Nat) : isLineBreak (hexDigit (m % 16)) = false :=
    not_isLineBreak_hexDigit _ (Nat.mod_lt _ (by decide))
  simp only [unicodeEscape, List.forall_mem_cons, hdigit, true_and]
  exact ⟨by decide, by decide, nofun⟩

theorem not_isLineBreak_escaped {c : Char} (hc : isLineBreak c = false) :
    ∀ d ∈ ['\\', c], isLineBreak d = false :=
  List.forall_mem_cons.2 ⟨by decide, List.forall_mem_singleton.2 hc⟩

theorem not_isLineBreak_jsonChar (char : Char) : ∀ c ∈ jsonChar char, isLineBreak c = false := by
  simp only [jsonChar]
  split_ifs with hquote _ _ _ _ _ hprintable
  · refine not_isLineBreak_escaped ?_
    rcases hquote with rfl | rfl <;> decide
  · exact not_isLineBreak_escaped (by decide)
  · exact not_isLineBreak_escaped (by decide)
  · exact not_isLineBreak_escaped (by decide)
  · exact not_isLineBreak_escaped (by decide)
  · exact not_isLineBreak_escaped (by decide)
  · refine List.forall_mem_singleton.2 ?_
    simp [isLineBreak]
    omega
  · exact not_isLineBreak_unicodeEscape _
  · exact List.forall_mem_append.2
      ⟨not_isLineBreak_unicodeEscape _, not_isLineBreak_unicodeEscape _⟩

theorem not_isLineBreak_jsonText (text : String) : ∀ c ∈ jsonText text, isLineBreak c = false := by
  intro c hc
  rw [jsonText, List.mem_cons, List.mem_append, List.mem_flatMap, List.mem_singleton] at hc
  rcases hc with rfl | ⟨char, -, hchar⟩ | rfl
  · decide
  · exact not_isLineBreak_jsonChar char c hchar
  · decide

end Json

end AiAnalytics.Lib
