import AiAnalytics.Lib.FirstFit
import AiAnalytics.Lib.PyEq
import Mathlib.Data.List.Dedup
import Mathlib.Data.List.Sort
import Mathlib.Data.Rat.Defs

/-!
# Grading tool calls

The expected tools of a turn are compared with the calls that were made: `tool_score` is the share
of those that found a call, and `_grade_tools` the outcome with its reason.
-/

namespace AiAnalytics.Evals

open Lib

variable {Float : Type}

structure GraderLibrary (Float : Type) where
  num : NumOps Float
  /-- Python's `==` of numbers. -/
  numEq : Int ⊕ Float → Int ⊕ Float → Bool
  str : PyValue Float → String
  repr : PyValue Float → String

abbrev Arguments (Float : Type) := List (String × PyValue Float)

inductive MatchMode where
  | subset
  | exact
deriving DecidableEq, Repr

structure ExpectedTool (Float : Type) where
  name : String
  arguments : Arguments Float := []
  mode : MatchMode := .subset
  requiredArgs : List String := []
  forbiddenArgs : List String := []

structure ToolUse (Float : Type) where
  name : String
  arguments : Arguments Float

/-- `arguments.get(key)` -/
def argument (arguments : Arguments Float) (key : String) : PyValue Float :=
  (arguments.lookup key).getD .none

section Equality

variable (lib : GraderLibrary Float)

/-- `sorted(map(str, items))` -/
def sortedTexts (items : List (PyValue Float)) : List String :=
  (items.map lib.str).insertionSort (· ≤ ·)

/-- `a.keys() == b.keys()` -/
def sameKeys (a b : Arguments Float) : Bool :=
  (a.all fun entry => (b.lookup entry.1).isSome) && b.all fun entry => (a.lookup entry.1).isSome

variable (mode : MatchMode)

mutual

def argsEq : PyValue Float → PyValue Float → Bool
  | .list xs, .list ys => decide (sortedTexts lib xs = sortedTexts lib ys)
  | .dict xs, .dict ys => !(decide (mode = .exact) && !sameKeys xs ys) && argsEqEntries xs ys
  | a, b => pyEq lib.numEq a b

def argsEqEntries : Arguments Float → Arguments Float → Bool
  | [], _ => true
  | (k, x) :: xs, ys => (match ys.lookup k with
      | some y => argsEq x y
      | none => false) && argsEqEntries xs ys

end

def argsMatch (exp : ExpectedTool Float) (actual : Arguments Float) : Bool :=
  argsEq lib exp.mode (.dict exp.arguments) (.dict actual)

def fitsCall (exp : ExpectedTool Float) (use : ToolUse Float) : Bool :=
  decide (use.name = exp.name) && argsMatch lib exp use.arguments

end Equality

section Scoring

variable (lib : GraderLibrary Float)

def countHits : List (ExpectedTool Float) → List (ToolUse Float) → Nat
  | [], _ => 0
  | exp :: expected, remaining => match remaining.find? (fitsCall lib exp) with
    | some _ => countHits expected (remaining.eraseP (fitsCall lib exp)) + 1
    | none => countHits expected remaining

def toolScore (expected : List (ExpectedTool Float)) (actual : List (ToolUse Float)) : ℚ :=
  if expected = [] then (if actual = [] then 1 else 0) else (countHits lib expected actual : ℚ) /
    expected.length

end Scoring

section Equivalence

variable (lib : GraderLibrary Float)

abbrev GraderResult (α : Type) := Except (PyError Empty) α

def unsupportedDims : List String :=
  ["airport_trip", "payment_type", "rate_code", "trip_distance_bucket", "pickup_hour",
    "pickup_week_part"]

def textsOf (value : PyValue Float) : GraderResult (List String) :=
  if !value.truthy lib.num then .ok []
  else match value with
    | .list items => items.foldlM (fun texts item => match item with
        | .str s => .ok (texts ++ [s])
        | .list _ | .dict _ => .error .typeError
        | _ => .ok texts) []
    | .str s => .ok (s.toList.map fun c => String.ofList [c])
    | .dict entries => .ok (entries.map Prod.fst)
    | _ => .error .typeError

def filtersOf (args : Arguments Float) : Option (Arguments Float) :=
  match argument args "filters" with
  | .dict filters => some filters
  | _ => none

def listOf (args : Arguments Float) (key : String) : Option (List String) :=
  match argument args key with
  | .list items => some (items.map lib.str)
  | _ => none

def isPair (expected actual a b : String) : Bool :=
  decide (expected = a ∧ actual = b) || decide (expected = b ∧ actual = a)

def isLegacyEquivalent (expArgs actArgs : Arguments Float) : GraderResult Bool := do
  let expDims ← textsOf lib (argument expArgs "dimensions")
  let expFilters := (filtersOf expArgs).getD []
  let expBorough := argument expFilters "pickup_borough"
  let actRegion := argument actArgs "region_name"
  if expDims.any fun dim => decide (dim ∈ unsupportedDims) then return false
  else if expFilters.any fun entry => decide (entry.1 ∈ unsupportedDims) then return false
  else if expBorough.truthy lib.num && !pyEq lib.numEq actRegion expBorough then return false
  else return !((argument expArgs "dimensions").truthy lib.num && !expBorough.truthy lib.num &&
    actRegion.truthy lib.num)

def isToolProvenEquivalent (expected : ExpectedTool Float) (actual : ToolUse Float) :
    GraderResult Bool :=
  let expArgs := expected.arguments
  let actArgs := actual.arguments
  if isPair expected.name actual.name "aggregate_taxi_data" "average_trip_metrics" then
    isLegacyEquivalent lib expArgs actArgs
  else if !isPair expected.name actual.name "aggregate_taxi_data" "query_taxi_data" then .ok false
  else
    let measures := match listOf lib expArgs "measures", listOf lib actArgs "measures" with
      | some expMeasures, some actMeasures =>
        expMeasures.all fun name => decide (name ∈ actMeasures)
      | some _, none => false
      | none, _ => true
    let dimensions := match listOf lib expArgs "dimensions", listOf lib actArgs "dimensions" with
      | some expDims, some actDims => decide (expDims ⊆ actDims ∧ actDims ⊆ expDims)
      | some _, none => false
      | none, _ => true
    let filters := match filtersOf expArgs, filtersOf actArgs with
      | some expFilters, some actFilters =>
        expFilters.all fun entry => match actFilters.lookup entry.1 with
        | some value => pyEq lib.numEq value entry.2
        | none => false
      | some _, none => false
      | none, _ => true
    let compared := ["baseline_filters", "comparison_filters"].all fun key =>
      match expArgs.lookup key with
      | some value => pyEq lib.numEq (argument actArgs key) value
      | none => true
    .ok (measures && dimensions && filters && compared)

end Equivalence

section Grading

variable (lib : GraderLibrary Float)

inductive Outcome where
  | correct
  | incorrect
  | needsReview
deriving DecidableEq, Repr

structure GradedTools where
  outcome : Outcome
  reason : Option String
deriving DecidableEq

structure Turn (Float : Type) where
  expectedTools : List (ExpectedTool Float)
  factValues : List (PyValue Float)

/-- `", ".join(sorted({use.name for use in uses}))` -/
def sortedNames (uses : List (ToolUse Float)) : String :=
  String.intercalate ", " ((uses.map ToolUse.name).dedup.insertionSort (· ≤ ·))

def expectedNames (expected : List (ExpectedTool Float)) : String :=
  String.intercalate ", " (expected.map ExpectedTool.name)

def badArgument (exp : ExpectedTool Float) (use : ToolUse Float) : Option String :=
  match exp.requiredArgs.find? fun key => (argument use.arguments key).isNone with
  | some key => some ("tool: required arg " ++ key ++ " missing on " ++ use.name)
  | none => (exp.forbiddenArgs.find? fun key => !(argument use.arguments key).isNone).map fun key =>
      "tool: " ++ key ++ "=" ++ lib.repr (argument use.arguments key) ++ " set on " ++ use.name ++
        " but not asked for"

def consume : List (ExpectedTool Float) → List (ToolUse Float) →
    Except String (List (ExpectedTool Float) × List (ToolUse Float))
  | [], remaining => .ok ([], remaining)
  | exp :: expected, remaining => match remaining.find? (fitsCall lib exp) with
    | none => do
        let (unmet, rest) ← consume expected remaining
        return (exp :: unmet, rest)
    | some use => match badArgument lib exp use with
      | some reason => .error reason
      | none => consume expected (remaining.eraseP (fitsCall lib exp))

def firstEquivalent (exp : ExpectedTool Float) :
    List (ToolUse Float) → GraderResult (Option (ToolUse Float))
  | [] => .ok none
  | act :: actual => do
      if ← isToolProvenEquivalent lib exp act then return some act
      else firstEquivalent exp actual

def equivalents (actual : List (ToolUse Float)) :
    List (ExpectedTool Float) → GraderResult (Option (List (ToolUse Float)))
  | [] => .ok (some [])
  | exp :: unmet => do
      let hit ← firstEquivalent lib exp actual
      let others ← equivalents actual unmet
      return match hit, others with
        | some act, some acts => some (act :: acts)
        | _, _ => none

def gradeUnmet (turn : Turn Float) (actual : List (ToolUse Float)) (factsVerified : Bool)
    (unmet : List (ExpectedTool Float)) : GraderResult GradedTools := do
  let matched ← equivalents lib actual unmet
  let facts := turn.factValues.filter fun value => !value.isNone
  match matched with
  | some (act :: acts) =>
      if facts.isEmpty || factsVerified then
        return {
          outcome := .needsReview,
          reason := some ("tool: equivalence: " ++ sortedNames (act :: acts) ++ " instead of " ++
            expectedNames unmet ++ "; proven semantic equivalence of dimensions and filters") }
      else return {
          outcome := .incorrect,
          reason := some ("tool: expected " ++ expectedNames unmet ++ " not matched") }
  | _ =>
    return {
      outcome := .incorrect,
      reason := some ("tool: expected " ++ expectedNames unmet ++ " not matched") }

def gradeTools (turn : Turn Float) (actual : List (ToolUse Float)) (factsVerified : Bool) :
    GraderResult GradedTools :=
  if turn.expectedTools = [] then
    if actual = [] then .ok { outcome := .correct, reason := none }
    else
      .ok
        { outcome := .incorrect, reason := some ("tool: unneeded call(s) " ++ sortedNames actual) }
  else match consume lib turn.expectedTools actual with
    | .error reason => .ok { outcome := .incorrect, reason := some reason }
    | .ok ([], []) => .ok { outcome := .correct, reason := none }
    | .ok ([], remaining) =>
        .ok
          { outcome := .incorrect,
            reason := some ("tool: unexpected extra call(s) " ++ sortedNames remaining) }
    | .ok (unmet, _) => gradeUnmet lib turn actual factsVerified unmet

end Grading

end AiAnalytics.Evals
