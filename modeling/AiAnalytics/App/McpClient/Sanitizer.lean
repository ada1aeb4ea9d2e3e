import AiAnalytics.App.Validation.Proposal

/-!
# The sanitizer of query results

Of what a governed query tool returns, only an object of a known shape and a bounded size goes on. A
result that is refused counts as a failure of the tool.
-/

namespace AiAnalytics.App.McpClient

open Lib
open Loop (Dict MCPToolError)

def maxQueryResultBytes : Nat := 8192

def maxQueryResultRows : Int := Validation.maxRows

abbrev Sanitized (α : Type) := Except MCPToolError α

def refuse {α : Type} (reason : String) : Sanitized α := .error { retryable := false, reason }

section Checks

variable {Float : Type} (lib : PyLibrary Float)

def isBoundedText (most : Nat) : PyValue Float → Bool
  | .str text => text ≠ "" ∧ text.length ≤ most
  | _ => false

def tooManyRows : PyValue Float → Bool
  | .list rows => maxQueryResultRows < rows.length
  | _ => false

def checkColumns : PyValue Float → Bool
  | .list columns => 1 ≤ columns.length ∧ columns.length ≤ 16 ∧ columns.all (isBoundedText 128)
  | _ => false

def countsRows : PyValue Float → PyValue Float → Bool
  | .int rowCount, .list rows => rowCount = rows.length
  | _, _ => false

def isDuration : PyValue Float → Bool
  | .int duration => 0 ≤ duration
  | _ => false

def isBool : PyValue Float → Bool
  | .bool _ => true
  | _ => false

def sanitizeCell : PyValue Float → Sanitized (PyValue Float)
  | .none => pure .none
  | .str text => if text.length > 128 then refuse "invalid_cell_value" else pure (.str text)
  | .int n => pure (.int n)
  | .float x => if lib.isFinite x then pure (.float x) else refuse "invalid_cell_value"
  | _ => refuse "invalid_cell_value"

def sanitizeRow (width : Nat) : PyValue Float → Sanitized (PyValue Float)
  | .list cells =>
      if cells.length ≠ width then refuse "invalid_result_shape"
      else .list <$> cells.mapM (sanitizeCell lib)
  | _ => refuse "invalid_result_shape"

def checkSize (result : Dict Float) : Sanitized (Dict Float) :=
  match jsonSize lib false (.dict result) with
  | none => refuse "invalid_result_shape"
  | some size =>
      if size > maxQueryResultBytes then refuse "byte_limit_exceeded" else pure result

end Checks

section Sanitizers

variable {Float : Type} (lib : PyLibrary Float)

def baseFields : List String :=
  ["columns", "rows", "row_count", "execution_duration_ms", "query_id", "truncated"]

def stringExtras : List String :=
  ["query_class", "dimension", "segment_dimension", "comparison_mode", "baseline_label",
    "comparison_label", "tip_rate_semantics", "airport_trip_rule"]

def listExtras : List String := ["dimensions", "measures", "no_data_sides"]

def missingKeys (payload : Dict Float) (required : List String) : List String :=
  required.filter fun key => (payload.lookup key).isNone

def sanitizeQueryResult (payload : Dict Float) : Sanitized (Dict Float) :=
  if missingKeys payload baseFields ≠ [] ∨ unknownKeys payload baseFields ≠ [] then
    refuse "invalid_result_shape"
  else
    let value := fun key => (PyValue.dict payload).entry key .none
    if tooManyRows (value "rows") then refuse "row_limit_exceeded"
    else if ¬ (checkColumns (value "columns") ∧ countsRows (value "row_count") (value "rows") ∧
        isDuration (value "execution_duration_ms") ∧ isBoundedText 128 (value "query_id") ∧
        isBool (value "truncated")) then refuse "invalid_result_shape"
    else do
      let rows ← (value "rows").elements.mapM (sanitizeRow lib (value "columns").elements.length)
      checkSize lib
        [("columns", value "columns"), ("rows", .list rows), ("row_count", value "row_count"),
          ("execution_duration_ms", value "execution_duration_ms"), ("query_id", value "query_id"),
          ("truncated", value "truncated")]

def isTextList : PyValue Float → Bool
  | .list values => values.length ≤ 16 ∧ values.all (isBoundedText 64)
  | _ => false

def addExtra (check : PyValue Float → Bool) (payload sanitized : Dict Float) (key : String) :
    Sanitized (Dict Float) :=
  match payload.lookup key with
  | none => pure sanitized
  | some value =>
      if check value then pure (sanitized ++ [(key, value)]) else refuse "invalid_result_shape"

def sanitizeGovernedQueryResult (payload : Dict Float) : Sanitized (Dict Float) :=
  if missingKeys payload baseFields ≠ [] ∨
      unknownKeys payload (baseFields ++ stringExtras ++ listExtras) ≠ [] then
    refuse "invalid_result_shape"
  else do
    let sanitized ← sanitizeQueryResult lib
      (baseFields.map fun key => (key, (PyValue.dict payload).entry key .none))
    let sanitized ← stringExtras.foldlM (addExtra (isBoundedText 512) payload) sanitized
    let sanitized ← listExtras.foldlM (addExtra isTextList payload) sanitized
    checkSize lib sanitized

def schemaFields : List String := ["columns", "dataset", "month"]

def checkSchemaColumns : PyValue Float → Bool
  | .list columns => 1 ≤ columns.length ∧ columns.length ≤ 64 ∧ columns.all (isBoundedText 128)
  | _ => false

def sanitizeDatasetSchema (payload : Dict Float) : Sanitized (Dict Float) :=
  if missingKeys payload schemaFields ≠ [] ∨ unknownKeys payload schemaFields ≠ [] then
    refuse "invalid_result_shape"
  else
    let value := fun key => (PyValue.dict payload).entry key .none
    if ¬ (isBoundedText 128 (value "dataset") ∧ isBoundedText 16 (value "month") ∧
        checkSchemaColumns (value "columns")) then refuse "invalid_result_shape"
    else pure [("columns", value "columns"), ("dataset", value "dataset"), ("month", value "month")]

inductive Sanitizer where
  | queryResult
  | governedQueryResult
  | datasetSchema

def Sanitizer.sanitize : Sanitizer → Dict Float → Sanitized (Dict Float)
  | .queryResult => sanitizeQueryResult lib
  | .governedQueryResult => sanitizeGovernedQueryResult lib
  | .datasetSchema => sanitizeDatasetSchema

def Sanitizer.accepted (sanitizer : Sanitizer) : PyValue Float → Option (PyValue Float)
  | .dict payload => match sanitizer.sanitize lib payload with
      | .ok result => some (.dict result)
      | .error _ => none
  | _ => none

end Sanitizers

end AiAnalytics.App.McpClient
