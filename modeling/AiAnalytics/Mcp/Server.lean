import AiAnalytics.Dataset.Analytics

/-!
# The tools of the MCP server

Each tool takes its arguments from the decoded object of a call, with the defaults of its signature,
and hands them to the dataset service.
-/

namespace AiAnalytics.Mcp

open Lib Dataset

variable {Float : Type} (lib : PyLibrary Float) (db : Database Float)

def checkQueryLimit : PyValue Float → Governed Int
  | .int limit => if 1 ≤ limit ∧ limit ≤ 20 then .ok limit else .error (.py .valueError)
  | .bool _ | .float _ => .error (.py .valueError)
  | _ => .error (.py .typeError)

def allowedAnalyses : List String :=
  ["top_pickup_zones", "trip_volume_by_hour", "average_distance_by_weekday"]

def checkAnalysis : PyValue Float → Governed String
  | .str analysis => if analysis ∈ allowedAnalyses then .ok analysis else .error (.py .valueError)
  | _ => .error (.py .valueError)

def queryTaxiDataArguments (arguments : PyValue Float) :
    Governed (String × CompiledQuery Float) := do
  let limit ← checkQueryLimit (arguments.entry "limit" (.int 5))
  let analysis ← checkAnalysis (arguments.entry "analysis" .none)
  let query ← datasetQuery analysis limit
  pure (analysis, query)

def averageTripMetricsArguments (zones : List (Option String)) (arguments : PyValue Float) :
    Governed (Option String) :=
  canonicalRegion lib zones (arguments.entry "region_name" .none)

def describeArguments (arguments : PyValue Float) : Governed Bool :=
  match arguments.entry "include_column_stats" (.bool false) with
  | .bool includeColumnStats => .ok includeColumnStats
  | _ => .error (.py .valueError)

def listArguments (arguments : PyValue Float) : Governed (DimensionName × Option String × Int) :=
  checked (dimensionValuesArguments lib (arguments.entry "dimension" .none)
    (arguments.entry "search" .none) (arguments.entry "limit" (.int 20)))

def listTaxiDimensionValues (arguments : PyValue Float) : Governed (Envelope Float) :=
  Dataset.listTaxiDimensionValues lib db (arguments.entry "dimension" .none)
    (arguments.entry "search" .none) (arguments.entry "limit" (.int 20))

def aggregateSpec (arguments : PyValue Float) : Checked (AggregateQuerySpec Float) :=
  buildAggregateSpec lib (arguments.entry "dimensions" .none) (arguments.entry "measures" .none)
    (arguments.entry "filters" .none) (arguments.entry "order_by" .none)
    (arguments.entry "limit" (.int 20))

def aggregateTaxiData (arguments : PyValue Float) : Governed (Envelope Float) :=
  Dataset.aggregateTaxiData lib db (arguments.entry "dimensions" .none)
    (arguments.entry "measures" .none) (arguments.entry "filters" .none)
    (arguments.entry "order_by" .none) (arguments.entry "limit" (.int 20))

def forwardedMode (arguments : PyValue Float) : PyValue Float :=
  match arguments.entry "comparison_mode" .none with
  | .none => .str "by_dimension"
  | mode => mode

def compareTaxiSegments (arguments : PyValue Float) : Governed (Envelope Float) :=
  Dataset.compareTaxiSegments lib db (arguments.entry "segment_dimension" .none)
    (arguments.entry "measures" .none) (arguments.entry "baseline_filters" .none)
    (arguments.entry "comparison_filters" .none) (forwardedMode arguments)
    (arguments.entry "limit" (.int 20))

end AiAnalytics.Mcp
