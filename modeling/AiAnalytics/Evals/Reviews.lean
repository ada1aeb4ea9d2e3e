import AiAnalytics.Lib.Grouping
import AiAnalytics.Lib.OrderedDict
import AiAnalytics.Lib.PyOps
import AiAnalytics.Lib.PyText
import Mathlib.Data.List.Sort

/-!
# Human reviews of a frozen run

`reviews.jsonl` is a file of JSON lines that is only appended to. `append_reviews` writes records to
it, and `load_reviews` reads it: each line is malformed, a duplicate, stale, orphaned or applied,
and of the applied records for one dimension of a turn the latest one is the verdict. A file that
does not exist is an empty one. -/

namespace AiAnalytics.Evals

open Lib

variable {Float : Type}

/-- What `json.loads` raises: not only for a text that is no JSON, but also for one that is nested
too deeply, or that has an integer of too many digits. -/
inductive LoadsError where
  | jsonDecodeError
  | recursionError
  | valueError
deriving DecidableEq, Repr

structure ReviewLibrary (Float : Type) where
  num : NumOps Float
  loads : List Char → Except LoadsError (PyValue Float)
  /-- `json.dumps(value, sort_keys=True)`; `none` where it raises. -/
  dumps : PyValue Float → Option (List Char)
  isprintable : List Char → Bool
  /-- `repr(text)` -/
  repr : String → String
  /-- The instant of `datetime.fromisoformat(text)` in microseconds; `none` where it raises or knows
  no time zone. -/
  fromisoformat : String → Option Int

abbrev ReviewRecord (Float : Type) := List (String × PyValue Float)

def fieldOf (entries : ReviewRecord Float) (k : String) : PyValue Float :=
  (entries.lookup k).getD .none

def textOf (entries : ReviewRecord Float) (k : String) : String :=
  match fieldOf entries k with
  | .str s => s
  | _ => ""

def turnOf (entries : ReviewRecord Float) : Int :=
  match fieldOf entries "turn_index" with
  | .int n => n
  | _ => 0

section Validation

def humanDims : List String := ["tool", "answer", "resolution"]

def verdicts : List String := ["correct", "incorrect", "needs_review"]

def required : List String :=
  ["review_id", "eval_run_id", "case_id", "turn_index", "snapshot_sha256", "dimension", "verdict",
    "reviewer", "reviewed_at"]

variable (lib : ReviewLibrary Float)

def equalsInt (n : Int) : PyValue Float → Bool
  | .bool b => decide ((if b then 1 else 0) = n)
  | .int m => decide (m = n)
  | .float x => match lib.num.ofInt n with
    | some y => lib.num.isZero (lib.num.sub x y)
    | none => false
  | _ => false

/-- `value in (None, "")` -/
def isMissing : PyValue Float → Bool
  | .none => true
  | .str s => decide (s = "")
  | _ => false

def isLowerHex (c : Char) : Bool := ('0' ≤ c && c ≤ '9') || ('a' ≤ c && c ≤ 'f')

/-- `re.match(r"^[0-9a-f]{n}$", value)`; a line feed may follow. -/
def matchesHex (n : Nat) : PyValue Float → Bool
  | .str s =>
      let digits := if s.toList.getLast? = some '\n' then s.toList.dropLast else s.toList
      decide (digits.length = n) && digits.all isLowerHex
  | _ => false

def textMax : Nat := 256

/-- `_text(value)` -/
def isText : PyValue Float → Bool
  | .str s =>
    decide (strip s.toList ≠ []) && decide (s.length ≤ textMax) && lib.isprintable s.toList
  | _ => false

def isTurnIndex : PyValue Float → Bool
  | .int n => decide (0 ≤ n)
  | _ => false

/-- `value in names` -/
def isOneOf (names : List String) : PyValue Float → Bool
  | .str s => decide (s ∈ names)
  | _ => false

/-- `_parse_ts(value)` -/
def parseTs : PyValue Float → Option Int
  | .str s => lib.fromisoformat s
  | _ => none

def validate : PyValue Float → Option String
  | .dict entries =>
      let get := fieldOf entries
      if !equalsInt lib 1 (get "schema_version") then some "schema_version must be 1"
      else match required.find? fun k => isMissing (get k) with
        | some k => some ("missing " ++ k)
        | none =>
            if !matchesHex 32 (get "review_id") then
              some "review_id must be 32 lowercase hex characters"
            else if !matchesHex 64 (get "snapshot_sha256") then
              some "snapshot_sha256 must be 64 lowercase hex characters"
            else match ["eval_run_id", "case_id", "reviewer"].find? fun k =>
              !isText lib (get k) with
              | some k => some (k ++ " must be a non-blank single-line string up to 256 chars")
              | none =>
                  if !isTurnIndex (get "turn_index") then
                    some "turn_index must be a non-negative integer"
                  else if !isOneOf humanDims (get "dimension") then
                    some "dimension must be one of tool, answer, resolution"
                  else if !isOneOf verdicts (get "verdict") then
                    some "verdict must be one of correct, incorrect, needs_review"
                  else if (parseTs lib (get "reviewed_at")).isNone then
                    some "reviewed_at must be a timezone-aware ISO-8601 timestamp"
                  else none
  | _ => some "not a JSON object"

end Validation

structure FrozenRun where
  name : String
  digest : String
  isTurn : String × Int → Bool

section Loading

variable (lib : ReviewLibrary Float) (run : FrozenRun)

abbrev ReviewKey := String × Int × String

def keyOf (entries : ReviewRecord Float) : ReviewKey :=
  (textOf entries "case_id", turnOf entries, textOf entries "dimension")

inductive LineClass (Float : Type) where
  | malformed (reason : String)
  | duplicate (reviewId : String)
  | stale (reviewId : String)
  | orphaned (reviewId : String)
  | applied (entries : ReviewRecord Float)

def entriesOf : PyValue Float → ReviewRecord Float
  | .dict entries => entries
  | _ => []

def classifyRecord (seen : List String) (value : PyValue Float) : LineClass Float :=
  match validate lib value with
  | some err => .malformed err
  | none =>
      let entries := entriesOf value
      let reviewId := textOf entries "review_id"
      if reviewId ∈ seen then .duplicate reviewId
      else if textOf entries "snapshot_sha256" ≠ run.digest ∨ textOf entries "eval_run_id" ≠
        run.name then
        .stale reviewId
      else if !run.isTurn (textOf entries "case_id", turnOf entries) then .orphaned reviewId
      else .applied entries

def classify (seen : List String) (line : List Char) : Except LoadsError (LineClass Float) :=
  match lib.loads line with
  | .error .jsonDecodeError => .ok (.malformed "invalid JSON")
  | .error error => .error error
  | .ok value => .ok (classifyRecord lib run seen value)

structure AppliedReview (Float : Type) where
  reviewedAt : Int
  line : Nat
  entries : ReviewRecord Float

def AppliedReview.reviewId (review : AppliedReview Float) : String :=
  textOf review.entries "review_id"

def AppliedReview.key (review : AppliedReview Float) : ReviewKey := keyOf review.entries

def AppliedReview.Le (a b : AppliedReview Float) : Prop :=
  a.reviewedAt < b.reviewedAt ∨ a.reviewedAt = b.reviewedAt ∧ a.line ≤ b.line

instance (a b : AppliedReview Float) : Decidable (a.Le b) := inferInstanceAs (Decidable (_ ∨ _ ∧ _))

structure ResolvedReview (Float : Type) where
  entries : ReviewRecord Float
  superseded : List String

structure Reviews (Float : Type) where
  resolved : List (ReviewKey × ResolvedReview Float) := []
  malformed : List (Nat × String) := []
  stale : List String := []
  duplicates : List String := []
  orphaned : List String := []
  history : List (ReviewKey × List (ReviewRecord Float)) := []

structure LoadState (Float : Type) where
  out : Reviews Float := {}
  seen : List String := []
  groups : List (ReviewKey × List (AppliedReview Float)) := []

def LoadState.absorb (state : LoadState Float) (n : Nat) : LineClass Float → LoadState Float
  | .malformed reason => { state with out.malformed := state.out.malformed ++ [(n, reason)] }
  | .duplicate reviewId => { state with out.duplicates := state.out.duplicates ++ [reviewId] }
  | .stale reviewId =>
      { state with seen := reviewId :: state.seen, out.stale := state.out.stale ++ [reviewId] }
  | .orphaned reviewId =>
      { state with
        seen := reviewId :: state.seen,
        out.orphaned := state.out.orphaned ++ [reviewId] }
  | .applied entries =>
      let reviewedAt := (parseTs lib (fieldOf entries "reviewed_at")).getD 0
      { state with
        seen := textOf entries "review_id" :: state.seen
        groups := addTo (keyOf entries) { reviewedAt, line := n, entries } state.groups }

def readReviewLines (state : LoadState Float) (n : Nat) :
    List (List Char) → Except LoadsError (LoadState Float)
  | [] => .ok state
  | line :: lines => do
      if strip line = [] then readReviewLines state (n + 1) lines
      else
        let cls ← classify lib run state.seen line
        readReviewLines (state.absorb lib n cls) (n + 1) lines

def LoadState.resolve (state : LoadState Float) : Reviews Float :=
  let sorted := state.groups.map fun (key, items) => (key, items.insertionSort AppliedReview.Le)
  { state.out with
    history := sorted.map fun (key, items) => (key, items.map AppliedReview.entries)
    resolved := sorted.filterMap fun (key, items) =>
      items.getLast?.map fun last =>
        (key,
          { entries := last.entries, superseded := items.dropLast.map AppliedReview.reviewId }) }

def loadReviews (text : List Char) : Except LoadsError (Reviews Float) := do
  let state ← readReviewLines lib run {} 1 (splitLines text)
  return state.resolve

end Loading

section Appending

variable (lib : ReviewLibrary Float) (run : FrozenRun)

inductive AppendError where
  | runError (text : String)
  /-- `json.dumps` raises. -/
  | unwritable
deriving DecidableEq

def refusalOf (entries : ReviewRecord Float) : Option String :=
  match validate lib (.dict entries) with
  | some err => some ("invalid review: " ++ err)
  | none =>
      if textOf entries "eval_run_id" ≠ run.name then
        some ("review is for run " ++ lib.repr (textOf entries "eval_run_id") ++ ", not " ++
          lib.repr run.name)
      else if textOf entries "snapshot_sha256" ≠ run.digest then
        some "review is bound to a different snapshot digest"
      else if !run.isTurn (textOf entries "case_id", turnOf entries) then
        some (textOf entries "case_id" ++ "#" ++ toString (turnOf entries) ++
          " is not a turn of " ++ run.name)
      else none

def dumpLines : List (OrderedDict String (PyValue Float)) → Option (List Char)
  | [] => some []
  | rec :: recs => do
      let text ← lib.dumps (.dict rec.entries)
      let rest ← dumpLines recs
      return text ++ '\n' :: rest

def appendReviews (text : List Char) (recs : List (OrderedDict String (PyValue Float))) :
    Except AppendError (List Char) :=
  match recs.findSome? fun rec => refusalOf lib run rec.entries with
  | some err => .error (.runError err)
  | none => match dumpLines lib recs with
    | some lines => .ok (text ++ lines)
    | none => .error .unwritable

end Appending

end AiAnalytics.Evals
