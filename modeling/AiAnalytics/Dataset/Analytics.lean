import AiAnalytics.Dataset.QueryCompiler

/-!
# Governed analytics

The tools of the dataset service. Each checks its arguments, compiles a query, has the database
execute it and puts the rows into an envelope of bounded size. What the database returns is a
parameter. -/

namespace AiAnalytics.Dataset

open Lib

def maxQueryRows : Int := 20

def maxResultBytes : Nat := 8192

inductive ToolError where
  | py (error : PyError QueryValidationError)
  | regionValidation
  | timeout
  | runtime (message : String)

abbrev Governed (α : Type) := Except ToolError α

def checked {α : Type} (x : Checked α) : Governed α := x.mapError .py

section Database

variable {Float : Type}

/-- `uuid4().hex` -/
structure UuidHex where
  digits : List Char
  length_eq : digits.length = 32

def UuidHex.zeros : UuidHex := ⟨List.replicate 32 '0', rfl⟩

def queryId (uuid : UuidHex) : String := "query_" ++ String.ofList uuid.digits

structure Fetched (Float : Type) where
  columns : List String
  rows : List (List (PyValue Float))

inductive WorkerOutcome (Float : Type) where
  | ok (fetched : Fetched Float)
  | error
  | late
  | silent

structure Database (Float : Type) where
  execute : CompiledQuery Float → WorkerOutcome Float
  durationMs : CompiledQuery Float → Nat
  uuid : CompiledQuery Float → UuidHex
  envelopeUuid : UuidHex

end Database

section Envelopes

variable {Float : Type} (lib : PyLibrary Float)

structure Envelope (Float : Type) where
  columns : List String
  rows : List (List (PyValue Float))
  rowCount : Nat
  executionDurationMs : Nat
  queryId : String
  truncated : Bool
  extra : List (String × PyValue Float) := []

def Envelope.base (envelope : Envelope Float) : List (String × PyValue Float) :=
  [("columns", .list (envelope.columns.map .str)), ("rows", .list (envelope.rows.map .list)),
    ("row_count", .int envelope.rowCount),
    ("execution_duration_ms", .int envelope.executionDurationMs),
    ("query_id", .str envelope.queryId), ("truncated", .bool envelope.truncated)]

def Envelope.payload (envelope : Envelope Float) : List (String × PyValue Float) :=
  envelope.base ++ envelope.extra

def Envelope.popRow (envelope : Envelope Float) : Envelope Float :=
  { envelope with
    rows := envelope.rows.dropLast
    rowCount := envelope.rows.dropLast.length
    truncated := true }

def fitLoop (maxBytes : Nat) : Nat → Envelope Float → Governed (Envelope Float)
  | rows, envelope =>
      match jsonSize lib true (.dict envelope.payload) with
      | none => .error (.py .typeError)
      | some size =>
          if size ≤ maxBytes then .ok envelope
          else match rows with
            | 0 => .error (.py .valueError)
            | rows + 1 => fitLoop maxBytes rows envelope.popRow

def fitRows (maxBytes : Nat) (envelope : Envelope Float) : Governed (Envelope Float) :=
  fitLoop lib maxBytes envelope.rows.length envelope

def augmentEnvelope (envelope : Envelope Float) (maxBytes : Nat)
    (extra : List (String × PyValue Float)) : Governed (Envelope Float) :=
  fitRows lib maxBytes { envelope with extra := envelope.extra ++ extra }

def runGovernedQuery (db : Database Float) (query : CompiledQuery Float) (resultLimit : Int)
    (maxBytes : Nat) : Governed (Envelope Float) :=
  if maxBytes < 128 then .error (.py .valueError)
  else match db.execute query with
    | .late => .error .timeout
    | .silent => .error (.runtime "governed query worker returned no result")
    | .error => .error (.runtime "governed query execution failed")
    | .ok fetched =>
        let rows := fetched.rows.take resultLimit.toNat
        fitRows lib maxBytes
          { columns := fetched.columns, rows, rowCount := rows.length
            executionDurationMs := db.durationMs query, queryId := queryId (db.uuid query)
            truncated := fetched.rows.length > resultLimit }

/-- `items[:count]` -/
def slicePrefix {α : Type} (items : List α) (count : Int) : List α :=
  if 0 ≤ count then items.take count.toNat else items.take (items.length - count.natAbs)

def runIdentifiedQuery (db : Database Float) (query : CompiledQuery Float) (resultLimit : Int)
    (maxBytes : Nat) (queryIdFactory : Option String) : Governed (Envelope Float) :=
  if maxBytes < 128 then .error (.py .valueError)
  else match db.execute query with
    | .late => .error .timeout
    | .silent => .error (.runtime "governed query worker returned no result")
    | .error => .error (.runtime "governed query execution failed")
    | .ok fetched =>
        let rows := slicePrefix fetched.rows resultLimit
        fitRows lib maxBytes
          { columns := fetched.columns, rows, rowCount := rows.length
            executionDurationMs := db.durationMs query
            queryId := queryIdFactory.getD (queryId (db.uuid query))
            truncated := fetched.rows.length > resultLimit }

end Envelopes

section Extras

variable {Float : Type}

def isTipMeasure : MeasureName → Bool
  | .tipRate | .averageTip | .medianTip | .totalTips => true
  | _ => false

def tipRateSemantics : String :=
  "tip_rate, average_tip, median_tip and total_tips are computed over card payments " ++
    "(payment_type = 1) only; TLC does not record cash tips, so cash trips are excluded rather " ++
    "than treated as zero"

def airportTripRule : String :=
  "airport_trip is true when the pickup or dropoff zone is JFK Airport, LaGuardia Airport or Newark "
    ++
    "Airport, or when RatecodeID is 2 (JFK) or 3 (Newark)"

def strings (texts : List String) : PyValue Float := .list (texts.map .str)

def tipExtra (measures : List MeasureName) : List (String × PyValue Float) :=
  if measures.any isTipMeasure then [("tip_rate_semantics", .str tipRateSemantics)] else []

def airportExtra (applies : Bool) : List (String × PyValue Float) :=
  if applies then [("airport_trip_rule", .str airportTripRule)] else []

end Extras

section FixedQueries

variable {Float : Type} (lib : PyLibrary Float) (db : Database Float)

def topPickupZonesQuery : String :=
  "
        SELECT z.Zone AS pickup_zone, count(*)::BIGINT AS trip_count
        FROM trips AS t
        JOIN taxi_zones AS z ON t.PULocationID = z.LocationID
        GROUP BY 1
        ORDER BY trip_count DESC, pickup_zone ASC
        LIMIT ?
    "

def tripVolumeByHourQuery : String :=
  "
        SELECT extract(hour FROM tpep_pickup_datetime)::INTEGER AS pickup_hour,
               count(*)::BIGINT AS trip_count
        FROM trips
        GROUP BY 1
        ORDER BY trip_count DESC, pickup_hour ASC
        LIMIT ?
    "

def averageDistanceByWeekdayQuery : String :=
  "
        SELECT dayname(tpep_pickup_datetime) AS pickup_weekday,
               round(avg(trip_distance), 2) AS average_trip_distance
        FROM trips
        WHERE trip_distance >= 0
        GROUP BY 1
        ORDER BY min(extract(isodow FROM tpep_pickup_datetime)), pickup_weekday ASC
        LIMIT ?
    "

def allowedAnalyses : List (String × CompiledQuery Float) :=
  [("top_pickup_zones", ⟨topPickupZonesQuery, [], ["pickup_zone", "trip_count"]⟩),
    ("trip_volume_by_hour", ⟨tripVolumeByHourQuery, [], ["pickup_hour", "trip_count"]⟩),
    ("average_distance_by_weekday",
      ⟨averageDistanceByWeekdayQuery, [], ["pickup_weekday", "average_trip_distance"]⟩)]

def datasetQuery (analysis : String) (limit : Int) : Governed (CompiledQuery Float) :=
  let found : Option (CompiledQuery Float) := allowedAnalyses.lookup analysis
  match found with
  | none => .error (.py .valueError)
  | some query =>
      if 1 ≤ limit ∧ limit ≤ maxQueryRows then
        .ok { query with parameters := [.int (limit + 1)] }
      else .error (.py .valueError)

def queryDataset (analysis : String) (limit : Int) : Governed (Envelope Float) := do
  let query ← datasetQuery analysis limit
  runGovernedQuery lib db query limit maxResultBytes

def averageTripMetricsQuery (region : Option String) : CompiledQuery Float :=
  { sql := "
    SELECT z.Borough AS region_name,
           count(*)::BIGINT AS trip_count,
           round(avg(t.trip_distance), 2) AS average_trip_distance,
           round(avg(t.fare_amount), 2) AS average_fare_amount
    FROM trips AS t
    JOIN taxi_zones AS z ON t.PULocationID = z.LocationID
    WHERE z.Borough NOT IN ('Unknown', 'N/A', 'EWR')
      AND t.trip_distance >= 0
      AND t.fare_amount >= 0" ++ (if region.isSome then "
      AND z.Borough = ?" else "") ++ "
    GROUP BY 1
    ORDER BY trip_count DESC, region_name ASC
    LIMIT ?
"
    parameters := match region with
      | none => [.int 6]
      | some region => [.text region, .int 2]
    outputColumns := ["region_name", "trip_count", "average_trip_distance", "average_fare_amount"] }

def nonBoroughRegions : List String := ["unknown", "n/a", "ewr"]

def zoneBoroughs (zones : List (Option String)) : List (List Char × String) :=
  zones.filterMap fun zone => zone.bind fun borough =>
    let name := strip borough.toList
    if borough = "" ∨ lib.casefold name ∈ nonBoroughRegions.map String.toList then none
    else some (lib.casefold name, String.ofList name)

def resolveRegionName (zones : List (Option String)) : PyValue Float → Governed String
  | .str regionName =>
      if strip regionName.toList = [] then .error .regionValidation
      else match (zoneBoroughs lib zones).reverse.lookup
          (lib.casefold (strip regionName.toList)) with
        | some borough => .ok borough
        | none => .error .regionValidation
  | _ => .error .regionValidation

def canonicalRegion (zones : List (Option String)) : PyValue Float → Governed (Option String)
  | .none => .ok none
  | regionName => some <$> resolveRegionName lib zones regionName

def queryAverageTripMetrics (zones : List (Option String)) (regionName : PyValue Float) :
    Governed (Envelope Float) := do
  let region ← canonicalRegion lib zones regionName
  runGovernedQuery lib db (averageTripMetricsQuery region) (if region.isNone then 5 else 1)
    maxResultBytes

end FixedQueries

section Tools

variable {Float : Type} (lib : PyLibrary Float) (db : Database Float)

def dimensionValuesArguments (dimension search limit : PyValue Float) :
    Checked (DimensionName × Option String × Int) := do
  let dimension ← validateDimension lib dimension
  let search ← validateSearch search
  let limit ← validateLimit limit
  pure (dimension, search, limit)

def listTaxiDimensionValues (dimension search limit : PyValue Float) :
    Governed (Envelope Float) := do
  let (dimension, search, limit) ← checked (dimensionValuesArguments lib dimension search limit)
  let result ← runGovernedQuery lib db (compileDimensionValuesQuery dimension search limit) limit
    maxResultBytes
  augmentEnvelope lib result maxResultBytes
    [("query_class", .str "dimension_values"), ("dimension", .str dimension.value)]

def aggregateTaxiData (dimensions measures filters orderBy limit : PyValue Float) :
    Governed (Envelope Float) := do
  let spec ← checked (buildAggregateSpec lib dimensions measures filters orderBy limit)
  let result ← runGovernedQuery lib db (compileAggregateQuery spec) spec.limit maxResultBytes
  augmentEnvelope lib result maxResultBytes
    ([("query_class", .str "aggregate"),
        ("dimensions", strings (spec.dimensions.map DimensionName.value)),
        ("measures", strings (spec.measures.map MeasureName.value))] ++
      tipExtra spec.measures ++
      airportExtra (spec.dimensions.contains .airportTrip || spec.filters.airportTrip.isSome))

section Compare

def comparisonModes : List String := ["by_dimension", "whole_segment"]

def labelPart (name : String) (rendered : Option String) : List String :=
  (rendered.map fun text => name ++ "=" ++ text).toList

def renderBool (b : Bool) : String := if b then "true" else "false"

def labelParts (filters : TaxiFilters Float) : List String :=
  labelPart "start_timestamp" filters.startTimestamp ++
  labelPart "end_timestamp" filters.endTimestamp ++
  labelPart "pickup_hour_min" (filters.pickupHourMin.map toString) ++
  labelPart "pickup_hour_max" (filters.pickupHourMax.map toString) ++
  labelPart "pickup_weekday" filters.pickupWeekday ++
  labelPart "pickup_week_part" filters.pickupWeekPart ++
  labelPart "pickup_zone" filters.pickupZone ++
  labelPart "pickup_borough" filters.pickupBorough ++
  labelPart "dropoff_zone" filters.dropoffZone ++
  labelPart "dropoff_borough" filters.dropoffBorough ++
  labelPart "payment_type" (filters.paymentType.map toString) ++
  labelPart "rate_code" (filters.rateCode.map toString) ++
  labelPart "vendor" (filters.vendor.map toString) ++
  labelPart "passenger_count_min" (filters.passengerCountMin.map toString) ++
  labelPart "passenger_count_max" (filters.passengerCountMax.map toString) ++
  labelPart "trip_distance_min" (filters.tripDistanceMin.map fun x => lib.str (.float x)) ++
  labelPart "trip_distance_max" (filters.tripDistanceMax.map fun x => lib.str (.float x)) ++
  labelPart "trip_duration_min" (filters.tripDurationMin.map fun x => lib.str (.float x)) ++
  labelPart "trip_duration_max" (filters.tripDurationMax.map fun x => lib.str (.float x)) ++
  labelPart "fare_amount_min" (filters.fareAmountMin.map fun x => lib.str (.float x)) ++
  labelPart "fare_amount_max" (filters.fareAmountMax.map fun x => lib.str (.float x)) ++
  labelPart "airport_trip" (filters.airportTrip.map renderBool) ++
  (if filters.validRecordsOnly then [] else ["valid_records_only=false"])

def filtersLabel (filters : TaxiFilters Float) : String :=
  if labelParts lib filters = [] then "all_valid_records"
  else ", ".intercalate (labelParts lib filters)

def validateComparisonMode (comparisonMode segmentDimension : PyValue Float) : Checked String :=
  if comparisonMode.eqStr "whole_segment" then
    if segmentDimension.isNone then pure "whole_segment"
    else fail "invalid_comparison_combination"
      "segment_dimension must be omitted when comparison_mode is whole_segment"
  else if comparisonMode.eqStr "by_dimension" then
    if segmentDimension.isNone then
      fail "invalid_comparison_combination"
        "segment_dimension is required when comparison_mode is by_dimension"
    else pure "by_dimension"
  else fail "invalid_comparison_mode"
    ("comparison_mode must be one of " ++ lib.strList comparisonModes)

def round4 : PyValue Float → PyValue Float
  | .float x => .float (lib.round4 x)
  | v => v

def isNumber : PyValue Float → Bool
  | .int _ | .float _ => true
  | _ => false

def delta (baseline comparison : PyValue Float) : Checked (PyValue Float) :=
  if isNumber baseline && isNumber comparison then
    round4 lib <$> PyValue.sub lib.num comparison baseline
  else pure .none

def quotient : PyValue Float → PyValue Float → Checked (PyValue Float)
  | .int m, .int n => match lib.trueDiv m n with
      | some x => .ok (.float x)
      | none => .error .overflowError
  | x, y => PyValue.arith lib.num (fun m _ => m) lib.num.div x y

def deltaPct (baseline comparison : PyValue Float) : Checked (PyValue Float) :=
  if isNumber baseline && isNumber comparison && !baseline.eqZero lib.num then do
    let difference ← PyValue.sub lib.num comparison baseline
    let ratio ← quotient lib difference baseline
    round4 lib <$> PyValue.arith lib.num (· * ·) lib.num.mul ratio (.int 100)
  else pure .none

/-- `cells[i]` -/
def cellAt (cells : List (PyValue Float)) (i : Nat) : Checked (PyValue Float) :=
  match cells[i]? with
  | some cell => .ok cell
  | none => .error .indexError

def sideCell (cells : List (PyValue Float)) (given : Bool) (i : Nat) : Checked (PyValue Float) :=
  if given then cellAt cells i else pure .none

def wholeRow (cells : List (PyValue Float)) (baselineGiven comparisonGiven : Bool) (index : Nat)
    (measure : MeasureName) : Checked (List (PyValue Float)) := do
  let baseline ← sideCell cells baselineGiven (2 + 2 * index)
  let comparison ← sideCell cells comparisonGiven (3 + 2 * index)
  let change ← delta lib baseline comparison
  let changePct ← deltaPct lib baseline comparison
  pure [.str measure.value, baseline, comparison, change, changePct]

def wholeColumns : List String := ["measure", "baseline", "comparison", "delta", "delta_pct"]

def wholeRows (cells : List (PyValue Float)) (baselineGiven comparisonGiven : Bool)
    (measures : List MeasureName) : Checked (List (List (PyValue Float))) :=
  measures.zipIdx.mapM fun (measure, index) =>
    wholeRow lib cells baselineGiven comparisonGiven index measure

def noDataSides (baselineGiven comparisonGiven : Bool) : List String :=
  (if baselineGiven then [] else ["baseline"]) ++ (if comparisonGiven then [] else ["comparison"])

def wholeExtra (measures : List MeasureName) (baseline comparison : TaxiFilters Float)
    (noData : List String) : List (String × PyValue Float) :=
  [("query_class", .str "compare_segments"), ("comparison_mode", .str "whole_segment"),
    ("baseline_label", .str (filtersLabel lib baseline)),
    ("comparison_label", .str (filtersLabel lib comparison)),
    ("measures", strings (measures.map MeasureName.value))] ++
  (if noData = [] then [] else [("no_data_sides", strings noData)]) ++
  tipExtra measures ++
  airportExtra (baseline.airportTrip.isSome || comparison.airportTrip.isSome)

def compareWholeSegments (measures baselineFilters comparisonFilters limit : PyValue Float) :
    Governed (Envelope Float) := do
  let measures ← checked (validateMeasures lib measures)
  if measures.contains .tripShare then
    checked (fail "invalid_measures"
      ("trip_share is not meaningful for whole_segment comparison " ++
      "(each population is 100% of itself)"))
  else do
    let limit ← checked (validateLimit limit)
    let baseline ← checked (validateFilters lib baselineFilters)
    let comparison ← checked (validateFilters lib comparisonFilters)
    let raw ← runGovernedQuery lib db
      (compileCompareWholeSegmentsQuery measures baseline comparison) 1 65536
    match raw.rows with
    | [cells] => do
        let baselinePopulation ← checked (cellAt cells 0)
        let comparisonPopulation ← checked (cellAt cells 1)
        let baselineGiven := baselinePopulation.truthy lib.num
        let comparisonGiven := comparisonPopulation.truthy lib.num
        let rows ← checked (wholeRows lib cells baselineGiven comparisonGiven measures)
        let kept := rows.take limit.toNat
        augmentEnvelope lib
          { columns := wholeColumns, rows := kept, rowCount := kept.length
            executionDurationMs := raw.executionDurationMs, queryId := raw.queryId
            truncated := rows.length > limit
            extra := wholeExtra lib measures baseline comparison
              (noDataSides baselineGiven comparisonGiven) }
          maxResultBytes []
    | _ => .error (.runtime "whole-segment comparison returned no aggregate row")

def segmentCells (joined : List (PyValue Float)) (index : Nat) :
    Checked (List (PyValue Float)) := do
  let baseline ← cellAt joined (1 + 2 * index)
  let comparison ← cellAt joined (2 + 2 * index)
  let change ← delta lib baseline comparison
  pure [baseline, comparison, change]

def segmentRow (count : Nat) (joined : List (PyValue Float)) : Checked (List (PyValue Float)) := do
  let dimension ← cellAt joined 0
  let cells ← (List.range count).mapM (segmentCells lib joined)
  pure (dimension :: cells.flatten)

def segmentColumns (measure : MeasureName) : List String :=
  ["baseline_" ++ measure.value, "comparison_" ++ measure.value, "delta_" ++ measure.value]

def compareByDimension (segmentDimension measures baselineFilters comparisonFilters limit :
    PyValue Float) : Governed (Envelope Float) := do
  let dimension ← checked (validateDimension lib segmentDimension)
  let measures ← checked (validateMeasures lib measures)
  let limit ← checked (validateLimit limit)
  let baseline ← checked (validateFilters lib baselineFilters)
  let comparison ← checked (validateFilters lib comparisonFilters)
  if 1 + 3 * measures.length > maxColumns then
    checked (fail "invalid_column_budget" ("comparison output must not exceed " ++
      toString maxColumns ++ " columns (1 dimension + baseline/comparison/delta per measure)"))
  else do
    let query ← checked (compileCompareSegmentsQuery dimension measures baseline comparison limit)
    let joined ← runGovernedQuery lib db query limit maxResultBytes
    let rows ← checked (joined.rows.mapM (segmentRow lib measures.length))
    augmentEnvelope lib
      { columns := dimension.value :: measures.flatMap segmentColumns, rows
        rowCount := rows.length, executionDurationMs := joined.executionDurationMs
        queryId := queryId db.envelopeUuid, truncated := joined.truncated
        extra := [("query_class", .str "compare_segments"),
            ("segment_dimension", .str dimension.value),
            ("measures", strings (measures.map MeasureName.value))] ++ tipExtra measures }
      maxResultBytes []

def compareTaxiSegments (segmentDimension measures baselineFilters comparisonFilters comparisonMode
    limit : PyValue Float) : Governed (Envelope Float) := do
  let mode ← checked (validateComparisonMode lib comparisonMode segmentDimension)
  if mode = "whole_segment" then
    compareWholeSegments lib db measures baselineFilters comparisonFilters limit
  else
    compareByDimension lib db segmentDimension measures baselineFilters comparisonFilters limit

end Compare

end Tools

end AiAnalytics.Dataset
