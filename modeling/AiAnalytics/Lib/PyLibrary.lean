import AiAnalytics.Lib.PyOps
import AiAnalytics.Lib.PyText
import Mathlib.Data.List.Sort

/-!
# The parts of Python's library that stay parameters

`str` of a value that is no text, `datetime.fromisoformat`, decimal digits beyond ASCII,
`str.casefold` and the texts and the rounding of floats are taken as they come. A `datetime` has no
time zone here: the programs drop it.
-/

namespace AiAnalytics.Lib

structure DateTime where
  year : Nat
  month : Nat
  day : Nat
  hour : Nat := 0
  minute : Nat := 0
  second : Nat := 0
  microsecond : Nat := 0
deriving DecidableEq, Repr

def DateTime.fields (t : DateTime) : List Nat :=
  [t.year, t.month, t.day, t.hour, t.minute, t.second, t.microsecond]

/-- `t > u` -/
def DateTime.gt (t u : DateTime) : Bool := decide (u.fields < t.fields)

structure PyLibrary (Float : Type) where
  num : NumOps Float
  str : PyValue Float → String
  /-- `none` where `fromisoformat` raises `ValueError`. -/
  fromisoformat : String → Option DateTime
  /-- `format(t, "%Y-%m")` -/
  yearMonth : DateTime → String
  /-- The value of a character that `\d` matches. -/
  digit : Char → Option Nat
  casefold : List Char → List Char
  isFinite : Float → Bool
  /-- The length of the text that `json.dumps` writes of a float. -/
  jsonFloat : Float → Nat
  /-- `round(x, 4)` -/
  round4 : Float → Float
  /-- `m / n` of integers; `none` where the result is too large for a float. -/
  trueDiv : Int → Int → Option Float

def PyValue.elements {Float : Type} : PyValue Float → List (PyValue Float)
  | .list items => items
  | _ => []

def PyLibrary.strList {Float : Type} (lib : PyLibrary Float) (texts : List String) : String :=
  lib.str (.list (texts.map .str))

def unknownKeys {Float : Type} (entries : List (String × PyValue Float)) (allowed : List String) :
    List String :=
  (entries.map Prod.fst).filter (· ∉ allowed)

section Json

variable {Float : Type} (lib : PyLibrary Float) (allowNan : Bool)

def jsonFrame (parts : Nat) : Nat := 2 + (parts - 1)

mutual

def jsonSize : PyValue Float → Option Nat
  | .none => some 4
  | .bool b => some (if b then 4 else 5)
  | .int n => some (toString n).length
  | .float x => if allowNan || lib.isFinite x then some (lib.jsonFloat x) else none
  | .decimal _ => none
  | .str s => some (jsonText s).length
  | .list items => (jsonFrame items.length + ·) <$> itemsSize items
  | .dict entries => (jsonFrame entries.length + ·) <$> entriesSize entries

def itemsSize : List (PyValue Float) → Option Nat
  | [] => some 0
  | item :: items => do pure ((← jsonSize item) + (← itemsSize items))

def entriesSize : List (String × PyValue Float) → Option Nat
  | [] => some 0
  | (key, value) :: entries =>
      do pure ((jsonText key).length + 1 + (← jsonSize value) + (← entriesSize entries))

end

end Json

/-- `sorted(texts)` -/
def sortedTexts (texts : List String) : List String := texts.insertionSort (· ≤ ·)

end AiAnalytics.Lib
