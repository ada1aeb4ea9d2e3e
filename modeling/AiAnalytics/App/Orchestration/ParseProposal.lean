import AiAnalytics.App.Validation.Proposal

/-!
# Parsing a proposal

`parse_query_proposal`: from a proposal to the tool it calls and the arguments of the call, with
their defaults, or nothing. It is run on what the validation has passed, and checks again what it
needs. -/

namespace AiAnalytics.App.Loop

open Lib
open Validation (textsOf maxRows)

variable {Float : Type}

/-- `isinstance(limit, int) and 1 <= limit <= most`, of no boolean. -/
def limitOf (most : Int) : PyValue Float → Option Int
  | .int limit => if 1 ≤ limit ∧ limit ≤ most then some limit else none
  | _ => none

def onlyKeys (allowed : List String) : PyValue Float → Option (Dict Float)
  | .dict args => if unknownKeys args allowed = [] then some args else none
  | _ => none

def nonemptyText : PyValue Float → Option String
  | .str text => if text = "" then none else some text
  | _ => none

def nonemptyTexts : PyValue Float → Option (List (PyValue Float))
  | .list values => if values = [] ∨ textsOf values = none then none else some values
  | _ => none

def orNull (read : PyValue Float → Option (PyValue Float)) : PyValue Float → Option (PyValue Float)
  | .none => some .none
  | value => read value

def anyText : PyValue Float → Option (PyValue Float)
  | .str text => some (.str text)
  | _ => none

def mapping : PyValue Float → Option (PyValue Float)
  | .dict entries => some (.dict entries)
  | _ => none

def parseDescribeTaxiDataset (arguments : PyValue Float) : Option (Dict Float) := do
  let args ← onlyKeys ["include_column_stats"]
    (match arguments with | .none => .dict [] | given => given)
  match (PyValue.dict args).entry "include_column_stats" (.bool false) with
  | .bool includeColumnStats => some [("include_column_stats", .bool includeColumnStats)]
  | _ => none

def parseListTaxiDimensionValues (arguments : PyValue Float) : Option (Dict Float) := do
  let args ← onlyKeys ["dimension", "search", "limit"] arguments
  let dimension ← nonemptyText ((PyValue.dict args).entry "dimension" .none)
  let search ← orNull anyText ((PyValue.dict args).entry "search" .none)
  let limit ← limitOf maxRows ((PyValue.dict args).entry "limit" (.int 20))
  pure [("dimension", .str dimension), ("search", search), ("limit", .int limit)]

def parseAggregateTaxiData (arguments : PyValue Float) : Option (Dict Float) := do
  let args ← onlyKeys ["dimensions", "measures", "filters", "order_by", "limit"] arguments
  let dimensions ← nonemptyTexts ((PyValue.dict args).entry "dimensions" .none)
  let measures ← nonemptyTexts ((PyValue.dict args).entry "measures" .none)
  let filters ← orNull mapping ((PyValue.dict args).entry "filters" .none)
  let orderBy ← orNull mapping ((PyValue.dict args).entry "order_by" .none)
  let limit ← limitOf maxRows ((PyValue.dict args).entry "limit" (.int 20))
  pure [("dimensions", .list dimensions), ("measures", .list measures), ("filters", filters),
    ("order_by", orderBy), ("limit", .int limit)]

def givenText (key : String) : PyValue Float → Dict Float
  | .none => []
  | value => [(key, value)]

def parseCompareTaxiSegments (arguments : PyValue Float) : Option (Dict Float) := do
  let args ← onlyKeys ["segment_dimension", "comparison_mode", "measures", "baseline_filters",
    "comparison_filters", "limit"] arguments
  let segment ← orNull (fun value => .str <$> nonemptyText value)
    ((PyValue.dict args).entry "segment_dimension" .none)
  let mode ← orNull (fun value => .str <$> nonemptyText value)
    ((PyValue.dict args).entry "comparison_mode" .none)
  let measures ← nonemptyTexts ((PyValue.dict args).entry "measures" .none)
  let baseline ← mapping ((PyValue.dict args).entry "baseline_filters" .none)
  let comparison ← mapping ((PyValue.dict args).entry "comparison_filters" .none)
  let limit ← limitOf maxRows ((PyValue.dict args).entry "limit" (.int 20))
  pure ([("measures", .list measures), ("baseline_filters", baseline),
      ("comparison_filters", comparison), ("limit", .int limit)] ++
    givenText "segment_dimension" segment ++ givenText "comparison_mode" mode)

def parseAverageTripMetrics (arguments : PyValue Float) : Option (Dict Float) := do
  let args ← onlyKeys ["region_name"] (match arguments with | .none => .dict [] | given => given)
  match (PyValue.dict args).entry "region_name" .none with
  | .none => some []
  | .str region =>
      if strip region.toList = [] ∨ region.length > 128 then none
      else some [("region_name", .str region)]
  | _ => none

def parseQueryTaxiData (arguments : PyValue Float) : Option (Dict Float) := do
  let args ← onlyKeys ["analysis", "limit"] arguments
  let analysis ← nonemptyText ((PyValue.dict args).entry "analysis" .none)
  let limit ← limitOf 20 ((PyValue.dict args).entry "limit" .none)
  if analysis ∈ Validation.analyses then
    pure [("analysis", .str analysis), ("limit", .int limit)]
  else none

def parseArguments (name : String) (arguments : PyValue Float) : Option (Dict Float) :=
  if name = "describe_taxi_dataset" then parseDescribeTaxiDataset arguments
  else if name = "list_taxi_dimension_values" then parseListTaxiDimensionValues arguments
  else if name = "aggregate_taxi_data" then parseAggregateTaxiData arguments
  else if name = "compare_taxi_segments" then parseCompareTaxiSegments arguments
  else if name = averageMetricsToolName then parseAverageTripMetrics arguments
  else if name = expectedToolName then parseQueryTaxiData arguments
  else none

def parseQueryProposal (proposal : ToolProposalResult Float) : Option (String × Dict Float) :=
  if proposal.outcome ≠ .toolCall ∨ proposal.name = "" then none
  else (parseArguments proposal.name proposal.arguments).map fun parsed => (proposal.name, parsed)

end AiAnalytics.App.Loop
