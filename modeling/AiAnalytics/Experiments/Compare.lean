import AiAnalytics.Lib.PyEq
import AiAnalytics.Lib.PyText

/-!
# Like for like

`check_manifests` decides from the manifests of two runs whether their numbers may be compared: the
inputs must be the same, and of the execution controls only the varied ones may differ.
-/

namespace AiAnalytics.Experiments

open Lib

variable {Float : Type}

structure CompareLibrary (Float : Type) where
  num : NumOps Float
  /-- Python's `==` of numbers. -/
  numEq : Int ⊕ Float → Int ⊕ Float → Bool
  str : PyValue Float → String
  repr : PyValue Float → String
  lower : String → String

structure Manifest (Float : Type) where
  entries : List (String × PyValue Float)
  distinct : DistinctKeys (.dict entries)

section Fields

def mustMatch : List (List String) :=
  [["scenario", "sha256"], ["system_prefix", "prefix_chars"], ["system_prefix", "exact_tokens"],
    ["slos"],
    ["topology"], ["model_revision"], ["tokenizer_revision"], ["chat_template_revision"],
    ["engine_flags"],
    ["vllm_version"], ["kv_block_size"], ["max_tokens"], ["offered_concurrency_levels"]]

def executionFields : List String :=
  ["policy_override", "admission_mode", "router_label", "gateway_stream", "strategy",
    "target_endpoint_type"]

def controls : List String := ["policy_override", "admission_mode"]

def requestable : List String := controls ++ ["force_worker"]

def unknownMarkers : List String := ["", "unknown", "none", "null", "tbd", "?", "n/a"]

variable (lib : CompareLibrary Float)

def child (value : PyValue Float) (key : String) : PyValue Float :=
  match value with
  | .dict entries => (entries.lookup key).getD .none
  | _ => .none

def dig (value : PyValue Float) (path : List String) : PyValue Float := path.foldl child value

def unprovable : PyValue Float → Bool
  | .none => true
  | .str s => decide (lib.lower (String.ofList (strip s.toList)) ∈ unknownMarkers)
  | .list items => items.isEmpty
  | .dict entries => entries.isEmpty
  | _ => false

def Manifest.get (m : Manifest Float) (key : String) : PyValue Float := child (.dict m.entries) key

def Manifest.execution (m : Manifest Float) (f : String) : PyValue Float :=
  match dig (.dict m.entries) ["execution", f] with
  | .none => if f ∈ controls then m.get (f ++ "_requested") else .none
  | value => value

end Fields

section Verification

variable (lib : CompareLibrary Float) (m : Manifest Float)

abbrev CompareResult (α : Type) := Except (PyError Empty) α

/-- `(value or {}).get(key)` -/
def getOrEmpty (value : PyValue Float) (key : String) : CompareResult (PyValue Float) :=
  (value.orElse lib.num (.dict [])).get key .none

def mismatched (c : String) : CompareResult (PyValue Float) := do
  let observed ← getOrEmpty lib (m.get "control_observations") c
  getOrEmpty lib observed "mismatched"

def Manifest.requested (c : String) : Bool := (m.get (c ++ "_requested")).truthy lib.num

/-- `value is True` -/
def isTrue : PyValue Float → Bool
  | .bool b => b
  | _ => false

def controlProblem (c : String) : CompareResult (Option (String × String)) := do
  let bad ← mismatched lib m c
  if !isTrue (m.get (c ++ "_verified")) then
    return some (c, c ++ "_verified=" ++ lib.repr (m.get (c ++ "_verified")))
  else if bad.truthy lib.num then return some (c, lib.str bad ++ " mismatched echoes")
  else return none

/-- `_unverified(m)` -/
def unverified : CompareResult (List (String × String)) := do
  let requested := requestable.filter (m.requested lib)
  let problems ← requested.mapM (controlProblem lib m)
  let turns := m.get "control_unverified_turns"
  match requested with
  | first :: _ =>
      if turns.truthy lib.num then
        return problems.filterMap id ++ [(first, lib.str turns ++ " control_unverified turns")]
      else return problems.filterMap id
  | [] => return []

end Verification

section Checks

variable (lib : CompareLibrary Float) (ma mb : Manifest Float) (varied : List String)

structure Mismatch (Float : Type) where
  field : String
  a : PyValue Float
  b : PyValue Float

inductive TreatmentProblem (Float : Type) where
  | value (field reason : String) (a b : PyValue Float)
  | unverified (field run detail : String)
  | manifest

def TreatmentProblem.field : TreatmentProblem Float → String
  | .value field .. => field
  | .unverified field .. => field
  | .manifest => "manifest"

def TreatmentProblem.reason : TreatmentProblem Float → String
  | .value _ reason .. => reason
  | .unverified .. => "unverified"
  | .manifest => "unprovable"

inductive FieldVerdict (Float : Type) where
  | fine
  | unprovable (field : String)
  | mismatch (item : Mismatch Float)
  | treatment (problem : TreatmentProblem Float)

def inputVerdict (path : List String) : FieldVerdict Float :=
  let field := String.intercalate "." path
  let a := dig (.dict ma.entries) path
  let b := dig (.dict mb.entries) path
  if unprovable lib a || unprovable lib b then .unprovable field
  else if !pyEq lib.numEq a b then .mismatch { field, a, b }
  else .fine

def executionVerdict (f : String) : FieldVerdict Float :=
  let field := "execution." ++ f
  let a := ma.execution f
  let b := mb.execution f
  if f ∈ varied then
    if unprovable lib a || unprovable lib b then .treatment (.value field "unprovable" a b)
    else if pyEq lib.numEq a b then .treatment (.value field "same value in both runs" a b)
    else .fine
  else if f ∉ controls ∧ (a.isNone || b.isNone) = true then .unprovable field
  else if !pyEq lib.numEq a b then .mismatch { field, a, b }
  else .fine

def verificationVerdict (run : String) : String × String → FieldVerdict Float
  | (c, detail) =>
      if c ∈ varied then .treatment (.unverified c run detail)
      else .unprovable (c ++ " verification (run " ++ run ++ ": " ++ detail ++ ")")

structure ManifestCheck (Float : Type) where
  matching : Bool
  proven : Bool
  treatmentVaried : Bool
  treatmentProblems : List (TreatmentProblem Float)
  comparable : Bool
  mismatches : List (Mismatch Float)
  unprovableFields : List String
  warnings : List String

def FieldVerdict.unprovable? : FieldVerdict Float → Option String
  | .unprovable field => some field
  | _ => none

def FieldVerdict.mismatch? : FieldVerdict Float → Option (Mismatch Float)
  | .mismatch item => some item
  | _ => none

def FieldVerdict.treatment? : FieldVerdict Float → Option (TreatmentProblem Float)
  | .treatment problem => some problem
  | _ => none

def verificationWarning (run : String) : String × String → String
  | (c, detail) => "run " ++ run ++ ": " ++ c ++ " requested but NOT verified (" ++ detail ++ ")"

def checkOf (verdicts : List (FieldVerdict Float)) (warnings : List String) (missing : Bool) :
    ManifestCheck Float :=
  let unprovableFields := verdicts.filterMap FieldVerdict.unprovable?
  let mismatches := verdicts.filterMap FieldVerdict.mismatch?
  let found := verdicts.filterMap FieldVerdict.treatment?
  let treatmentProblems := if !varied.isEmpty && missing then found ++ [.manifest] else found
  { matching := mismatches.isEmpty
    proven := unprovableFields.isEmpty
    treatmentVaried := !varied.isEmpty && treatmentProblems.isEmpty
    treatmentProblems
    comparable := mismatches.isEmpty && unprovableFields.isEmpty && treatmentProblems.isEmpty
    mismatches
    unprovableFields
    warnings := warnings ++
      (if unprovableFields.isEmpty then []
        else ["NOT PROVEN like-for-like; missing/unknown: " ++ String.intercalate ", "
          unprovableFields]) ++
      found.map fun problem => "TREATMENT NOT VARIED/PROVEN: " ++ problem.field ++ " " ++
        problem.reason }

def checkManifests : CompareResult (ManifestCheck Float) :=
  if ma.entries.isEmpty || mb.entries.isEmpty then
    .ok (checkOf varied [.unprovable "manifest (missing in at least one run)"] [] true)
  else do
    let problemsA ← unverified lib ma
    let problemsB ← unverified lib mb
    let verdicts := mustMatch.map (inputVerdict lib ma mb) ++ executionFields.map
      (executionVerdict lib ma mb varied) ++
      problemsA.map (verificationVerdict varied "a") ++ problemsB.map
        (verificationVerdict varied "b")
    let warnings :=
      problemsA.map (verificationWarning "a") ++ problemsB.map (verificationWarning "b")
    return checkOf varied verdicts warnings false

end Checks

end AiAnalytics.Experiments
