import AiAnalytics.Lib.CanonicalJson
import AiAnalytics.Lib.PyValue

/-!
# The JSON that Python writes and reads

`json.dumps` and `json.loads` without arguments. The texts of floats are a parameter. A text that
names half of a surrogate pair is not read here: no text of the development holds one.
-/

namespace AiAnalytics.Lib

structure JsonFloats (Float : Type) where
  write : Float → List Char
  read : List Char → Float
  isFinite : Float → Bool

variable {Float : Type} (floats : JsonFloats Float)

section Writing

def Printable (n : Int) : Prop := (Nat.toDigits 10 n.natAbs).length ≤ maxIntDigits

instance (n : Int) : Decidable (Printable n) := inferInstanceAs (Decidable (_ ≤ _))

/-- `str(n)` -/
def intText (n : Int) : Option (List Char) := if Printable n then some (canonicalInt n) else none

mutual

def jsonDumps : PyValue Float → Option (List Char)
  | .none => some "null".toList
  | .bool b => some (if b then "true".toList else "false".toList)
  | .int n => intText n
  | .float x => some (floats.write x)
  | .decimal _ => none
  | .str s => some (jsonText s)
  | .list items =>
    (dumpItems items).map fun texts => '[' :: (List.intercalate ", ".toList texts ++ [']'])
  | .dict entries =>
      (dumpEntries entries).map fun texts =>
        '\x7b' :: (List.intercalate ", ".toList texts ++ ['\x7d'])

def dumpItems : List (PyValue Float) → Option (List (List Char))
  | [] => some []
  | item :: items => do pure ((← jsonDumps item) :: (← dumpItems items))

def dumpEntries : List (String × PyValue Float) → Option (List (List Char))
  | [] => some []
  | (key, value) :: entries => do
      pure ((jsonText key ++ ": ".toList ++ (← jsonDumps value)) :: (← dumpEntries entries))

end

end Writing

section Texts

def hexValue (c : Char) : Option Nat :=
  if '0' ≤ c ∧ c ≤ '9' then some (c.toNat - '0'.toNat)
  else if 'a' ≤ c ∧ c ≤ 'f' then some (c.toNat - 'a'.toNat + 10)
  else if 'A' ≤ c ∧ c ≤ 'F' then some (c.toNat - 'A'.toNat + 10)
  else none

/-- `_decode_uXXXX` -/
def readHex : List Char → Option (Nat × List Char)
  | a :: b :: c :: d :: rest => do
      some (((← hexValue a) * 4096 + (← hexValue b) * 256 + (← hexValue c) * 16 + (← hexValue d)),
        rest)
  | _ => none

def isHighSurrogate (n : Nat) : Bool := 0xd800 ≤ n ∧ n ≤ 0xdbff

def isLowSurrogate (n : Nat) : Bool := 0xdc00 ≤ n ∧ n ≤ 0xdfff

/-- What stands after `\u`: a character, or the first half of a pair with the second one behind
it. -/
def readUnicode (text : List Char) : Option (Char × List Char) :=
  match readHex text with
  | none => none
  | some (high, rest) =>
      if isHighSurrogate high then
        match rest with
        | '\\' :: 'u' :: second =>
            match readHex second with
            | some (low, rest) =>
                if isLowSurrogate low then
                  some (Char.ofNat (0x10000 + (high - 0xd800) * 1024 + (low - 0xdc00)), rest)
                else none
            | none => none
        | _ => none
      else if isLowSurrogate high then none
      else some (Char.ofNat high, rest)

/-- `BACKSLASH` -/
def escapeLetter : Char → Option Char
  | '"' => some '"'
  | '\\' => some '\\'
  | '/' => some '/'
  | 'b' => some (Char.ofNat 8)
  | 'f' => some (Char.ofNat 12)
  | 'n' => some '\n'
  | 'r' => some '\r'
  | 't' => some '\t'
  | _ => none

def readChar : List Char → Option (Char × List Char)
  | '\\' :: 'u' :: rest => readUnicode rest
  | '\\' :: letter :: rest => (escapeLetter letter).map fun c => (c, rest)
  | '\\' :: [] => none
  | c :: rest => if c.toNat < 32 then none else some (c, rest)
  | [] => none

def scanText : Nat → List Char → Option (List Char × List Char)
  | _, '"' :: rest => some ([], rest)
  | 0, _ => none
  | fuel + 1, text => do
      let (c, rest) ← readChar text
      let (letters, rest) ← scanText fuel rest
      some (c :: letters, rest)

end Texts

section Numbers

def takeInt : List Char → Option (List Char × List Char)
  | '0' :: rest => some (['0'], rest)
  | text => if text.takeWhile Char.isDigit = [] then none else some (text.span Char.isDigit)

def takeFraction : List Char → List Char × List Char
  | '.' :: rest =>
      if rest.takeWhile Char.isDigit = [] then ([], '.' :: rest)
      else ('.' :: rest.takeWhile Char.isDigit, rest.dropWhile Char.isDigit)
  | text => ([], text)

def takeSign : List Char → List Char × List Char
  | '+' :: rest => (['+'], rest)
  | '-' :: rest => (['-'], rest)
  | text => ([], text)

def takeExponent : List Char → List Char × List Char
  | c :: rest =>
      let (sign, digits) := takeSign rest
      if (c = 'e' ∨ c = 'E') ∧ digits.takeWhile Char.isDigit ≠ [] then
        (c :: (sign ++ digits.takeWhile Char.isDigit), digits.dropWhile Char.isDigit)
      else ([], c :: rest)
  | [] => ([], [])

def takeMinus : List Char → List Char × List Char
  | '-' :: rest => (['-'], rest)
  | text => ([], text)

def digitsValue (digits : List Char) : Option Nat :=
  if digits.length ≤ maxIntDigits then some (Nat.ofDigitChars 10 digits 0) else none

/-- `_match_number` -/
def scanNumber (text : List Char) : Option (PyValue Float × List Char) := do
  let (minus, text) := takeMinus text
  let (digits, text) ← takeInt text
  let (fraction, text) := takeFraction text
  let (exponent, text) := takeExponent text
  if fraction = [] ∧ exponent = [] then
    let value ← digitsValue digits
    some (.int (if minus = [] then (value : Int) else -value), text)
  else some (.float (floats.read (minus ++ digits ++ fraction ++ exponent)), text)

end Numbers

section Values

def isJsonSpace (c : Char) : Bool := c = ' ' ∨ c = '\t' ∨ c = '\n' ∨ c = '\r'

def skipSpace (text : List Char) : List Char := text.dropWhile isJsonSpace

def dictOfPairs (pairs : List (String × PyValue Float)) : List (String × PyValue Float) :=
  pairs.foldl (fun entries pair =>
    if pair.1 ∈ entries.map Prod.fst then
      entries.map fun entry => if entry.1 = pair.1 then pair else entry
    else entries ++ [pair]) []

def scanInfinity (sign text : List Char) : Option (PyValue Float × List Char) :=
  if "Infinity".toList.isPrefixOf text then
    some (.float (floats.read (sign ++ "Infinity".toList)), text.drop "Infinity".length)
  else none

mutual

/-- `scan_once` -/
def scanValue : Nat → List Char → Option (PyValue Float × List Char)
  | 0, _ => none
  | fuel + 1, text =>
      match text with
      | '"' :: rest => do
          let (letters, rest) ← scanText rest.length rest
          some (.str (String.ofList letters), rest)
      | '\x7b' :: rest =>
          match skipSpace rest with
          | '\x7d' :: rest => some (.dict [], rest)
          | rest => do
              let (pairs, rest) ← scanEntries fuel rest
              some (.dict (dictOfPairs pairs), rest)
      | '[' :: rest =>
          match skipSpace rest with
          | ']' :: rest => some (.list [], rest)
          | rest => do
              let (items, rest) ← scanItems fuel rest
              some (.list items, rest)
      | 'n' :: 'u' :: 'l' :: 'l' :: rest => some (.none, rest)
      | 't' :: 'r' :: 'u' :: 'e' :: rest => some (.bool true, rest)
      | 'f' :: 'a' :: 'l' :: 's' :: 'e' :: rest => some (.bool false, rest)
      | 'N' :: 'a' :: 'N' :: rest => some (.float (floats.read "NaN".toList), rest)
      | 'I' :: rest => scanInfinity floats [] ('I' :: rest)
      | '-' :: 'I' :: rest => scanInfinity floats ['-'] ('I' :: rest)
      | _ => scanNumber floats text

def scanItems : Nat → List Char → Option (List (PyValue Float) × List Char)
  | 0, _ => none
  | fuel + 1, text => do
      let (item, rest) ← scanValue fuel text
      match skipSpace rest with
      | ']' :: rest => some ([item], rest)
      | ',' :: rest =>
          let (items, rest) ← scanItems fuel (skipSpace rest)
          some (item :: items, rest)
      | _ => none

def scanEntries : Nat → List Char → Option (List (String × PyValue Float) × List Char)
  | 0, _ => none
  | fuel + 1, text =>
      match text with
      | '"' :: rest => do
          let (letters, rest) ← scanText rest.length rest
          match skipSpace rest with
          | ':' :: rest =>
              let (value, rest) ← scanValue fuel (skipSpace rest)
              match skipSpace rest with
              | '\x7d' :: rest => some ([(String.ofList letters, value)], rest)
              | ',' :: rest =>
                  let (pairs, rest) ← scanEntries fuel (skipSpace rest)
                  some ((String.ofList letters, value) :: pairs, rest)
              | _ => none
          | _ => none
      | _ => none

end

def jsonLoads (text : List Char) : Option (PyValue Float) := do
  let (value, rest) ← scanValue floats text.length (skipSpace text)
  if skipSpace rest = [] then some value else none

end Values

end AiAnalytics.Lib
