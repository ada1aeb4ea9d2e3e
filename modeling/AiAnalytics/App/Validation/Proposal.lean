import AiAnalytics.App.Orchestration.LoopState
import AiAnalytics.Lib.PyLibrary

/-!
# Validation of a tool proposal

The check of a planner's proposal before any governed tool runs. Each check returns the violations
it adds, in order. Only the month of the dataset's schema can make the check itself raise.
-/

namespace AiAnalytics.App.Validation

open Lib
open Loop (Dict PyFault)

section Allowlists

def maxRows : Int := 64

def maxListLength : Nat := 16

def maxStringLength : Nat := 128

def analyses : List String :=
  ["top_pickup_zones", "trip_volume_by_hour", "average_distance_by_weekday"]

def boroughs : List String := ["Manhattan", "Brooklyn", "Queens", "Bronx", "Staten Island"]

def weekdays : List String :=
  ["Monday", "Tuesday", "Wednesday", "Thursday", "Friday", "Saturday", "Sunday"]

def weekParts : List String := ["weekday", "weekend"]

def dimensions : List String :=
  ["pickup_date", "pickup_hour", "pickup_weekday", "pickup_week_part", "pickup_zone",
    "pickup_borough", "dropoff_zone", "dropoff_borough", "payment_type", "rate_code", "vendor",
    "passenger_count_bucket", "trip_distance_bucket", "trip_duration_bucket", "fare_amount_bucket",
    "airport_trip"]

def measures : List String :=
  ["trip_count", "trip_share", "average_fare", "median_fare", "average_tip", "median_tip",
    "total_tips", "tip_rate", "average_total_amount", "average_distance", "median_distance",
    "average_duration_minutes", "median_duration_minutes", "p95_duration_minutes",
    "average_passenger_count"]

def paymentTypeCodes : List Int := [0, 1, 2, 3, 4, 5, 6]

def rateCodeCodes : List Int := [1, 2, 3, 4, 5, 6, 99]

def vendorCodes : List Int := [1, 2, 6]

inductive FilterKind where
  | timestamp
  | hour
  | weekday
  | weekPart
  | text
  | borough
  | paymentCode
  | rateCode
  | vendorCode
  | int
  | number
  | bool
deriving DecidableEq, Repr

def filterKinds : List (String × FilterKind) :=
  [("start_timestamp", .timestamp), ("end_timestamp", .timestamp), ("pickup_hour_min", .hour),
    ("pickup_hour_max", .hour), ("pickup_weekday", .weekday), ("pickup_week_part", .weekPart),
    ("pickup_zone", .text), ("dropoff_zone", .text), ("pickup_borough", .borough),
    ("dropoff_borough", .borough), ("payment_type", .paymentCode), ("rate_code", .rateCode),
    ("vendor", .vendorCode), ("passenger_count_min", .int), ("passenger_count_max", .int),
    ("trip_distance_min", .number), ("trip_distance_max", .number), ("trip_duration_min", .number),
    ("trip_duration_max", .number), ("fare_amount_min", .number), ("fare_amount_max", .number),
    ("airport_trip", .bool), ("valid_records_only", .bool)]

def governedTools : List String :=
  ["query_taxi_data", "average_trip_metrics", "describe_taxi_dataset", "list_taxi_dimension_values",
    "aggregate_taxi_data", "compare_taxi_segments"]

def nonToolOutcomes : List String :=
  ["no_tool", "unsupported", "clarification_required", "no_visible_output"]

def comparisonModes : List String := ["by_dimension", "whole_segment"]

end Allowlists

def isControl (c : Char) : Bool := c.toNat ≤ 0x1f || c.toNat = 0x7f

section Checks

variable {Float : Type} (lib : PyLibrary Float)

def violation (code message : String) : List Violation := [{ code, message }]

def checkKeys (args : Dict Float) (allowed required : List String) : List Violation :=
  (if unknownKeys args allowed ≠ [] then
    violation "unexpected_argument"
      ("only these arguments are allowed: " ++ lib.strList (sortedTexts allowed))
  else []) ++
  (sortedTexts (required.filter (· ∉ args.map Prod.fst))).flatMap fun key =>
    violation "missing_argument" ("required argument '" ++ key ++ "' is missing")

def checkLimit (args : Dict Float) : List Violation :=
  match args.lookup "limit" with
  | none => []
  | some (.int limit) =>
      if 1 ≤ limit ∧ limit ≤ maxRows then []
      else violation "invalid_value" ("limit must be between 1 and " ++ toString maxRows)
  | some _ => violation "invalid_type" "limit must be an integer"

def textsOf (values : List (PyValue Float)) : Option (List String) :=
  values.mapM fun
    | .str text => some text
    | _ => none

def checkNameList (allowed : List String) (label code : String) : PyValue Float → List Violation
  | .list values =>
      if values = [] then violation "invalid_type" (label ++ " must be a non-empty list")
      else if values.length > maxListLength then
        violation "invalid_value" (label ++ " allows at most " ++ toString maxListLength ++
          " items")
      else match textsOf values with
        | none => violation "invalid_type" (label ++ " must contain strings")
        | some texts =>
            (if texts.Nodup then [] else violation "invalid_value" (label ++ " must not repeat")) ++
            (if texts.any (· ∉ allowed) then
              violation code (label ++ " must be drawn from the allowlisted names")
            else [])
  | _ => violation "invalid_type" (label ++ " must be a non-empty list")

def parseTs : PyValue Float → Option DateTime
  | .str value => if value = "" ∨ value.length > 32 then none else lib.fromisoformat value
  | _ => none

section TimeScope

/-- `int(digits)` -/
def decimal (digits : List Char) : Option Nat :=
  digits.foldlM (fun value c => (10 * value + ·) <$> lib.digit c) 0

def yearAndMonth (month : String) : Option (Nat × Nat) :=
  match month.toList with
  | [a, b, c, d, '-', e, f] => do pure (← decimal lib [a, b, c, d], ← decimal lib [e, f])
  | _ => none

def firstOfMonth (year month : Nat) : Except PyFault DateTime :=
  if 1 ≤ year ∧ year ≤ 9999 then .ok { year, month, day := 1 }
  else .error
    { exception := "ValueError", message := "year " ++ toString year ++ " is out of range" }

def monthBounds (schema : PyValue Float) : Except PyFault (Option (DateTime × DateTime)) :=
  match schema.entry "month" .none with
  | .str month => match yearAndMonth lib month with
      | some (year, mon) =>
          if 1 ≤ mon ∧ mon ≤ 12 then do
            let start ← firstOfMonth year mon
            let stop ← firstOfMonth (if mon = 12 then year + 1 else year) (mon % 12 + 1)
            pure (some (start, stop))
          else pure none
      | none => pure none
  | _ => pure none

def checkTimeScope (timestamps : List (String × DateTime)) (schema : PyValue Float) :
    Except PyFault (List Violation) := do
  let range := match timestamps.lookup "start_timestamp", timestamps.lookup "end_timestamp" with
    | some start, some stop =>
        if start.gt stop then
          violation "invalid_range" "start_timestamp must not be after end_timestamp"
        else []
    | _, _ => []
  match ← monthBounds lib schema with
  | none => pure range
  | some (lo, hi) =>
      if timestamps.any fun (_, ts) => lo.gt ts || ts.gt hi then
        pure (range ++ [{
          code := "out_of_scope_time"
          message := "the dataset only covers " ++ lib.yearMonth lo ++
            "; other periods are unsupported"
          recoverable := false }])
      else pure range

end TimeScope

section Filters

def checkTextFilter (key : String) (texts : Option (List String)) (message : String) :
    PyValue Float → List Violation
  | .str value =>
      if strip value.toList = [] ∨ value.length > maxStringLength ∨ value.toList.any isControl then
        violation "invalid_value" (key ++ " must be a short single-line string")
      else match texts with
        | none => []
        | some texts => if value ∈ texts then [] else violation "invalid_value" (key ++ message)
  | _ => violation "invalid_type" (key ++ " must be a string")

def checkHour (key : String) : PyValue Float → List Violation
  | .int value =>
      if 0 ≤ value ∧ value ≤ 23 then []
      else violation "invalid_value" (key ++ " must be between 0 and 23")
  | _ => violation "invalid_type" (key ++ " must be an integer")

def checkCode (key : String) (codes : List Int) : PyValue Float → List Violation
  | .int value =>
      if value ∈ codes then [] else violation "invalid_value" (key ++ " must be a documented code")
  | _ => violation "invalid_type" (key ++ " must be an integer code")

def checkFilterKind (key : String) : FilterKind → PyValue Float → List Violation
  | .timestamp, value =>
      if (parseTs lib value).isSome then []
      else violation "invalid_value" (key ++ " must be an ISO-8601 timestamp")
  | .hour, value => checkHour key value
  | .text, value => checkTextFilter key none "" value
  | .borough, value =>
      checkTextFilter key (some boroughs) (" must be one of " ++ lib.strList boroughs) value
  | .weekday, value =>
      checkTextFilter key (some weekdays) " must be a full English weekday name" value
  | .weekPart, value =>
      checkTextFilter key (some weekParts) " must be 'weekday' or 'weekend'" value
  | .paymentCode, value => checkCode key paymentTypeCodes value
  | .rateCode, value => checkCode key rateCodeCodes value
  | .vendorCode, value => checkCode key vendorCodes value
  | .int, .int _ => []
  | .int, _ => violation "invalid_type" (key ++ " must be an integer")
  | .number, .int _ => []
  | .number, .float _ => []
  | .number, _ => violation "invalid_type" (key ++ " must be a number")
  | .bool, .bool _ => []
  | .bool, _ => violation "invalid_type" (key ++ " must be a boolean")

def checkFilter : String × PyValue Float → List Violation
  | (_, .none) => []
  | (key, value) => match filterKinds.lookup key with
      | none => []
      | some kind => checkFilterKind lib key kind value

def parsedTimestamp : String × PyValue Float → Option (String × DateTime)
  | (key, value) =>
      if filterKinds.lookup key = some .timestamp then (parseTs lib value).map fun ts => (key, ts)
      else none

def parsedHour : String × PyValue Float → Option (String × Int)
  | (key, .int value) =>
      if filterKinds.lookup key = some .hour ∧ 0 ≤ value ∧ value ≤ 23 then some (key, value)
      else none
  | _ => none

def checkHourRange (hours : List (String × Int)) : List Violation :=
  match hours.lookup "pickup_hour_min", hours.lookup "pickup_hour_max" with
  | some least, some most =>
      if least > most then
        violation "invalid_range" "pickup_hour_min must not exceed pickup_hour_max"
      else []
  | _, _ => []

def checkFilters (schema : PyValue Float) (label : String) :
    PyValue Float → Except PyFault (List Violation)
  | .none => pure []
  | .dict filters => do
      let scope ← checkTimeScope lib (filters.filterMap (parsedTimestamp lib)) schema
      pure ((if unknownKeys filters (filterKinds.map Prod.fst) ≠ [] then
          violation "unknown_filter" (label ++ " may only use allowlisted filter fields")
        else []) ++
        filters.flatMap (checkFilter lib) ++ scope ++
        checkHourRange (filters.filterMap parsedHour))
  | _ => pure (violation "invalid_type" (label ++ " must be an object"))

end Filters

section Tools

def checkName (args : Dict Float) (key : String) (allowed : List String) (code message : String) :
    List Violation :=
  match args.lookup key with
  | none => []
  | some (.str name) => if name ∈ allowed then [] else violation code (key ++ message)
  | some _ => violation "invalid_type" (key ++ " must be a string")

def validateQueryTaxiData (args : Dict Float) : List Violation :=
  checkKeys lib args ["analysis", "limit"] ["analysis", "limit"] ++
    checkName args "analysis" analyses "invalid_value"
      (" must be one of " ++ lib.strList analyses) ++
    checkLimit args

def validateAverageTripMetrics (args : Dict Float) : List Violation :=
  checkKeys lib args ["region_name"] [] ++
    match (PyValue.dict args).entry "region_name" .none with
    | .none => []
    | .str region =>
        if region ∈ boroughs then []
        else violation "invalid_value" ("region_name must be exactly one of " ++
          lib.strList boroughs ++
          " or omitted; for a zone or other filter use aggregate_taxi_data with filters")
    | _ => violation "invalid_type" "region_name must be a string"

def validateDescribe (args : Dict Float) : List Violation :=
  checkKeys lib args ["include_column_stats"] [] ++
    match (PyValue.dict args).entry "include_column_stats" (.bool false) with
    | .bool _ => []
    | _ => violation "invalid_type" "include_column_stats must be a boolean"

def checkSearch : PyValue Float → List Violation
  | .none => []
  | .str search =>
      if search.toList.any isControl ∨ search.length > 128 then
        violation "invalid_value" "search must be a short single-line string"
      else []
  | _ => violation "invalid_value" "search must be a short single-line string"

def validateListValues (args : Dict Float) : List Violation :=
  checkKeys lib args ["dimension", "search", "limit"] ["dimension"] ++
    checkName args "dimension" dimensions "unknown_dimension"
      " must be an allowlisted dimension" ++
    checkSearch ((PyValue.dict args).entry "search" .none) ++
    checkLimit args

def checkNames (args : Dict Float) (key : String) (allowed : List String) (code : String) :
    List Violation :=
  match args.lookup key with
  | none => []
  | some values => checkNameList allowed key code values

def checkOrderBy : PyValue Float → List Violation
  | .none => []
  | .dict orderBy =>
      (if unknownKeys orderBy ["key", "direction"] ≠ [] then
        violation "unexpected_argument" "order_by allows only key and direction"
      else []) ++
      (let direction := (PyValue.dict orderBy).entry "direction" (.str "desc")
      if direction.eqStr "asc" || direction.eqStr "desc" then []
      else violation "invalid_value" "order_by.direction must be 'asc' or 'desc'") ++
      (match (PyValue.dict orderBy).entry "key" .none with
      | .str key =>
          if key ∈ dimensions ++ measures then []
          else violation "invalid_value" "order_by.key must be an allowlisted dimension or measure"
      | _ => violation "invalid_value" "order_by.key must be an allowlisted dimension or measure")
  | _ => violation "invalid_type" "order_by must be an object"

def validateAggregate (args : Dict Float) (schema : PyValue Float) :
    Except PyFault (List Violation) := do
  let filters ← checkFilters lib schema "filters" ((PyValue.dict args).entry "filters" .none)
  pure (checkKeys lib args ["dimensions", "measures", "filters", "order_by", "limit"]
      ["dimensions", "measures"] ++
    checkNames args "dimensions" dimensions "unknown_dimension" ++
    checkNames args "measures" measures "unknown_measure" ++
    filters ++
    checkOrderBy ((PyValue.dict args).entry "order_by" .none) ++
    checkLimit args)

def checkSegment : PyValue Float → List Violation
  | .none => []
  | .str segment =>
      if segment ∈ dimensions then []
      else violation "unknown_dimension" "segment_dimension must be an allowlisted dimension"
  | _ => violation "invalid_type" "segment_dimension must be a string"

def comparisonMode (args : Dict Float) : PyValue Float :=
  match (PyValue.dict args).entry "comparison_mode" .none with
  | .none => .str "by_dimension"
  | mode => mode

def checkMode (mode : PyValue Float) (segmentGiven : Bool) : List Violation :=
  if mode.eqStr "whole_segment" then
    if segmentGiven then
      violation "invalid_combination"
        "segment_dimension must be omitted when comparison_mode is whole_segment"
    else []
  else if mode.eqStr "by_dimension" then
    if segmentGiven then []
    else violation "missing_argument"
      "segment_dimension is required when comparison_mode is by_dimension"
  else violation "invalid_value"
    ("comparison_mode must be one of " ++ lib.strList comparisonModes)

def checkShare (mode : PyValue Float) (measures : PyValue Float) : List Violation :=
  match measures with
  | .list values =>
      if mode.eqStr "whole_segment" && values.any (·.eqStr "trip_share") then
        violation "invalid_value" "trip_share is not meaningful for whole_segment comparison"
      else []
  | _ => []

def checkSide (args : Dict Float) (schema : PyValue Float) (side : String) :
    Except PyFault (List Violation) :=
  match args.lookup side with
  | none => pure []
  | some (.dict filters) => checkFilters lib schema side (.dict filters)
  | some _ => pure (violation "invalid_type" (side ++ " must be an object"))

def validateCompare (args : Dict Float) (schema : PyValue Float) :
    Except PyFault (List Violation) := do
  let required := ["measures", "baseline_filters", "comparison_filters"]
  let segment := (PyValue.dict args).entry "segment_dimension" .none
  let mode := comparisonMode args
  let baseline ← checkSide lib args schema "baseline_filters"
  let comparison ← checkSide lib args schema "comparison_filters"
  pure (checkKeys lib args (required ++ ["segment_dimension", "comparison_mode", "limit"])
    required ++ checkSegment segment ++
    checkMode lib mode (!segment.isNone) ++
    checkShare mode ((PyValue.dict args).entry "measures" .none) ++
    checkNames args "measures" measures "unknown_measure" ++
    baseline ++ comparison ++
    checkLimit args)

end Tools

def givenArguments (name : String) : PyValue Float → PyValue Float
  | .none =>
      if name = "average_trip_metrics" ∨ name = "describe_taxi_dataset" then .dict [] else .none
  | arguments => arguments

def validateArguments (name : String) (args : Dict Float) (schema : PyValue Float) :
    Except PyFault (List Violation) :=
  if name = "query_taxi_data" then pure (validateQueryTaxiData lib args)
  else if name = "average_trip_metrics" then pure (validateAverageTripMetrics lib args)
  else if name = "describe_taxi_dataset" then pure (validateDescribe lib args)
  else if name = "list_taxi_dimension_values" then pure (validateListValues lib args)
  else if name = "aggregate_taxi_data" then validateAggregate lib args schema
  else validateCompare lib args schema

def validateProposal (name : String) (arguments schema : PyValue Float)
    (governedCallsExecuted maxGovernedAnalyses : Nat) : Except PyFault ProposalValidation :=
  if name ∈ nonToolOutcomes ∨ name = "" then pure {}
  else if name ∉ governedTools then
    pure ⟨violation "unknown_tool"
      ("tool must be one of " ++ lib.strList (sortedTexts governedTools))⟩
  else if governedCallsExecuted ≥ maxGovernedAnalyses then
    pure { violations := [{
      code := "max_governed_analyses_exceeded"
      message := "at most " ++ toString maxGovernedAnalyses ++ " governed analysis per run"
      recoverable := false }] }
  else match givenArguments name arguments with
    | .dict args => do pure { violations := ← validateArguments lib name args schema }
    | _ => pure ⟨violation "arguments_not_object" "tool arguments must be a JSON object"⟩

end Checks

end AiAnalytics.App.Validation
