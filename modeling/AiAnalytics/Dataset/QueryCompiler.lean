import AiAnalytics.Dataset.QuerySpec

/-!
# The query compiler

From a validated specification to the text of a query and its parameters. Every part of the text is
fixed by the names in the specification; values are bound to placeholders.
-/

namespace AiAnalytics.Dataset

open Lib

section Expressions

def bucketBranches (column : String) : Option Nat → List Nat → List String
  | none, [] => ["ELSE 'None+'"]
  | some previous, [] => ["ELSE '" ++ toString previous ++ "+'"]
  | none, edge :: edges =>
      ("WHEN " ++ column ++ " < " ++ toString edge ++ " THEN '<" ++ toString edge ++ "'") ::
        bucketBranches column (some edge) edges
  | some previous, edge :: edges =>
      ("WHEN " ++ column ++ " < " ++ toString edge ++ " THEN '[" ++ toString previous ++ "," ++
        toString edge ++ ")'") :: bucketBranches column (some edge) edges

def bucketCase (column : String) (edges : List Nat) : String :=
  "CASE " ++ " ".intercalate
    (("WHEN " ++ column ++ " IS NULL THEN 'unknown'") :: bucketBranches column none edges) ++ " END"

def passengerCountBucketEdges : List Nat := [1, 2, 3, 4, 5, 6]

def tripDistanceBucketEdges : List Nat := [1, 2, 5, 10, 20]

def tripDurationBucketEdges : List Nat := [5, 10, 20, 30, 60]

def fareAmountBucketEdges : List Nat := [10, 20, 40, 75, 150]

def airportTripBoolExpr : String :=
  "coalesce(pz.Zone IN ('JFK Airport', 'LaGuardia Airport', 'Newark Airport') " ++
    "OR dz.Zone IN ('JFK Airport', 'LaGuardia Airport', 'Newark Airport') " ++
    "OR t.RatecodeID IN (2, 3), false)"

def durationMinutesExpr : String :=
  "date_diff('minute', t.tpep_pickup_datetime, t.tpep_dropoff_datetime)"

def dimensionExpression : DimensionName → String
  | .pickupDate => "CAST(t.tpep_pickup_datetime AS DATE)::VARCHAR"
  | .pickupHour => "extract(hour FROM t.tpep_pickup_datetime)::INTEGER"
  | .pickupWeekday => "dayname(t.tpep_pickup_datetime)"
  | .pickupWeekPart =>
      "CASE WHEN extract(isodow FROM t.tpep_pickup_datetime) IN (6, 7) " ++
        "THEN 'weekend' ELSE 'weekday' END"
  | .pickupZone => "pz.Zone"
  | .pickupBorough => "pz.Borough"
  | .dropoffZone => "dz.Zone"
  | .dropoffBorough => "dz.Borough"
  | .paymentType => "t.payment_type::INTEGER"
  | .rateCode => "t.RatecodeID::INTEGER"
  | .vendor => "t.VendorID::INTEGER"
  | .passengerCountBucket => bucketCase "t.passenger_count" passengerCountBucketEdges
  | .tripDistanceBucket => bucketCase "t.trip_distance" tripDistanceBucketEdges
  | .tripDurationBucket => bucketCase durationMinutesExpr tripDurationBucketEdges
  | .fareAmountBucket => bucketCase "t.fare_amount" fareAmountBucketEdges
  | .airportTrip => "CASE WHEN " ++ airportTripBoolExpr ++ " THEN 'airport' ELSE 'non_airport' END"

def measureExpression : MeasureName → String
  | .tripCount => "count(*)::BIGINT"
  | .tripShare => "round(count(*)::DOUBLE / sum(count(*)::DOUBLE) OVER (), 4)"
  | .averageFare => "round(avg(t.fare_amount), 2)"
  | .medianFare => "round(median(t.fare_amount), 2)"
  | .averageTip => "round(avg(CASE WHEN t.payment_type = 1 THEN t.tip_amount END), 2)"
  | .medianTip => "round(median(CASE WHEN t.payment_type = 1 THEN t.tip_amount END), 2)"
  | .totalTips => "round(sum(CASE WHEN t.payment_type = 1 THEN t.tip_amount ELSE 0 END), 2)"
  | .tipRate =>
      "round(sum(CASE WHEN t.payment_type = 1 THEN t.tip_amount ELSE 0 END) / " ++
        "NULLIF(sum(CASE WHEN t.payment_type = 1 THEN t.fare_amount ELSE 0 END), 0), 4)"
  | .averageTotalAmount => "round(avg(t.total_amount), 2)"
  | .averageDistance => "round(avg(t.trip_distance), 2)"
  | .medianDistance => "round(median(t.trip_distance), 2)"
  | .averageDurationMinutes => "round(avg(" ++ durationMinutesExpr ++ "), 2)"
  | .medianDurationMinutes => "round(median(" ++ durationMinutesExpr ++ "), 2)"
  | .p95DurationMinutes => "round(quantile_cont(" ++ durationMinutesExpr ++ ", 0.95), 2)"
  | .averagePassengerCount => "round(avg(t.passenger_count), 2)"

end Expressions

section Clauses

inductive SqlValue (Float : Type) where
  | text (value : String)
  | int (value : Int)
  | float (value : Float)
  | bool (value : Bool)
deriving DecidableEq, Repr

structure CompiledQuery (Float : Type) where
  sql : String
  parameters : List (SqlValue Float)
  outputColumns : List String

def joinsZone : DimensionName → Bool
  | .pickupZone | .pickupBorough | .dropoffZone | .dropoffBorough | .airportTrip => true
  | _ => false

variable {Float α : Type}

def requiresZoneJoin (dimensions : List DimensionName) (filters : TaxiFilters Float) : Bool :=
  dimensions.any joinsZone || filters.usesZoneJoin

def fromClause (zoneJoin : Bool) : String :=
  if zoneJoin then
    "FROM trips AS t LEFT JOIN taxi_zones AS pz ON t.PULocationID = pz.LocationID " ++
      "LEFT JOIN taxi_zones AS dz ON t.DOLocationID = dz.LocationID"
  else "FROM trips AS t"

structure FilterSql (Float : Type) where
  clauses : List String := []
  parameters : List (SqlValue Float) := []

namespace FilterSql

def clause (sql : FilterSql Float) (text : String) : FilterSql Float :=
  { sql with clauses := sql.clauses ++ [text] }

def when (sql : FilterSql Float) (value : Option α) (text : String)
    (parameter : α → SqlValue Float) : FilterSql Float :=
  match value with
  | none => sql
  | some value =>
      { clauses := sql.clauses ++ [text], parameters := sql.parameters ++ [parameter value] }

def validRecords (sql : FilterSql Float) (only : Bool) : FilterSql Float :=
  if only then
    (((sql.clause ("t.tpep_pickup_datetime >= TIMESTAMP '2024-01-01' " ++
        "AND t.tpep_pickup_datetime < TIMESTAMP '2024-02-01'")).clause
      "t.fare_amount >= 0").clause
      "t.total_amount >= 0").clause
      "t.tpep_dropoff_datetime >= t.tpep_pickup_datetime"
  else sql

def weekPart (sql : FilterSql Float) : Option String → FilterSql Float
  | none => sql
  | some part =>
      if part = "weekend" then
        sql.clause "extract(isodow FROM t.tpep_pickup_datetime) IN (6, 7)"
      else sql.clause "extract(isodow FROM t.tpep_pickup_datetime) NOT IN (6, 7)"

end FilterSql

def compileFilters (filters : TaxiFilters Float) : FilterSql Float :=
  let sql : FilterSql Float := FilterSql.validRecords {} filters.validRecordsOnly
  let sql := sql.when filters.startTimestamp "t.tpep_pickup_datetime >= ?" .text
  let sql := sql.when filters.endTimestamp "t.tpep_pickup_datetime < ?" .text
  let sql := sql.when filters.pickupHourMin "extract(hour FROM t.tpep_pickup_datetime) >= ?" .int
  let sql := sql.when filters.pickupHourMax "extract(hour FROM t.tpep_pickup_datetime) <= ?" .int
  let sql := sql.when filters.pickupWeekday "dayname(t.tpep_pickup_datetime) = ?" .text
  let sql := sql.weekPart filters.pickupWeekPart
  let sql := sql.when filters.pickupZone "lower(pz.Zone) = lower(?)" .text
  let sql := sql.when filters.pickupBorough "lower(pz.Borough) = lower(?)" .text
  let sql := sql.when filters.dropoffZone "lower(dz.Zone) = lower(?)" .text
  let sql := sql.when filters.dropoffBorough "lower(dz.Borough) = lower(?)" .text
  let sql := sql.when filters.paymentType "t.payment_type = ?" .int
  let sql := sql.when filters.rateCode "t.RatecodeID = ?" .int
  let sql := sql.when filters.vendor "t.VendorID = ?" .int
  let sql := sql.when filters.passengerCountMin "t.passenger_count >= ?" .int
  let sql := sql.when filters.passengerCountMax "t.passenger_count <= ?" .int
  let sql := sql.when filters.tripDistanceMin "t.trip_distance >= ?" .float
  let sql := sql.when filters.tripDistanceMax "t.trip_distance <= ?" .float
  let sql := sql.when filters.tripDurationMin (durationMinutesExpr ++ " >= ?") .float
  let sql := sql.when filters.tripDurationMax (durationMinutesExpr ++ " <= ?") .float
  let sql := sql.when filters.fareAmountMin "t.fare_amount >= ?" .float
  let sql := sql.when filters.fareAmountMax "t.fare_amount <= ?" .float
  sql.when filters.airportTrip (airportTripBoolExpr ++ " = ?") .bool

def whereSql (clauses : List String) : String :=
  if clauses = [] then "" else "WHERE " ++ " AND ".intercalate clauses

def quoted (name : String) : String := "\"" ++ name ++ "\""

def orderClause (orderBy : Option OrderSpec) (outputKeys : List String) : String :=
  let parts := match orderBy with
    | some order =>
        (quoted order.key ++ (if order.direction = "desc" then " DESC" else " ASC")) ::
          (outputKeys.filter (· ≠ order.key)).map fun key => quoted key ++ " ASC"
    | none => outputKeys.map fun key => quoted key ++ " ASC"
  if parts = [] then "" else "ORDER BY " ++ ", ".intercalate parts

def selectMeasure (measure : MeasureName) : String :=
  measureExpression measure ++ " AS " ++ quoted measure.value

def selectDimension (dimension : DimensionName) : String :=
  dimensionExpression dimension ++ " AS " ++ quoted dimension.value

end Clauses

section Queries

variable {Float : Type}

def aggregateColumns (spec : AggregateQuerySpec Float) : List String :=
  spec.dimensions.map DimensionName.value ++ spec.measures.map MeasureName.value

def groupSql (count : Nat) : String :=
  if count = 0 then ""
  else "GROUP BY " ++ ", ".intercalate ((List.range count).map fun i => toString (i + 1))

def compileAggregateQuery (spec : AggregateQuerySpec Float) : CompiledQuery Float :=
  let zoneJoin := requiresZoneJoin spec.dimensions spec.filters
  let filters := compileFilters spec.filters
  let parts :=
    ["SELECT " ++ ", ".intercalate
        (spec.dimensions.map selectDimension ++ spec.measures.map selectMeasure),
      fromClause zoneJoin, whereSql filters.clauses, groupSql spec.dimensions.length,
      orderClause spec.orderBy (aggregateColumns spec), "LIMIT ?"]
  { sql := " ".intercalate (parts.filter (· ≠ ""))
    parameters := filters.parameters ++ [.int (spec.limit + 1)]
    outputColumns := aggregateColumns spec }

def searchSql (dimension : DimensionName) (search : Option String) : FilterSql Float :=
  let sql : FilterSql Float :=
    { clauses := ["t.tpep_pickup_datetime >= TIMESTAMP '2024-01-01'",
        "t.tpep_pickup_datetime < TIMESTAMP '2024-02-01'"] }
  sql.when search ("lower(CAST(" ++ dimensionExpression dimension ++ " AS VARCHAR)) LIKE lower(?)")
    fun search => .text ("%" ++ search ++ "%")

def compileDimensionValuesQuery (dimension : DimensionName) (search : Option String) (limit : Int) :
    CompiledQuery Float :=
  let filters : FilterSql Float := searchSql dimension search
  { sql := " ".intercalate
      ["SELECT " ++ dimensionExpression dimension ++
          " AS \"value\", count(*)::BIGINT AS \"trip_count\"",
        fromClause (joinsZone dimension), "WHERE " ++ " AND ".intercalate filters.clauses,
        "GROUP BY 1", "ORDER BY \"trip_count\" DESC, \"value\" ASC", "LIMIT ?"]
    parameters := filters.parameters ++ [.int (limit + 1)]
    outputColumns := ["value", "trip_count"] }

def comparedColumns (measure : MeasureName) : List String :=
  ["b." ++ quoted measure.value ++ " AS " ++ quoted ("baseline_" ++ measure.value),
    "c." ++ quoted measure.value ++ " AS " ++ quoted ("comparison_" ++ measure.value)]

def comparedNames (measure : MeasureName) : List String :=
  ["baseline_" ++ measure.value, "comparison_" ++ measure.value]

def segmentCte (dimension : DimensionName) (measures : List MeasureName) (zoneJoin : Bool)
    (clauses : List String) : String :=
  "SELECT " ++ dimensionExpression dimension ++ " AS \"dim\", " ++
    ", ".intercalate (measures.map selectMeasure) ++ " " ++ fromClause zoneJoin ++ " " ++
    whereSql clauses ++ " GROUP BY 1"

def segmentsZoneJoin (dimensions : List DimensionName) (baseline comparison : TaxiFilters Float) :
    Bool :=
  requiresZoneJoin dimensions baseline || requiresZoneJoin dimensions comparison

def compileCompareSegmentsQuery (dimension : DimensionName) (measures : List MeasureName)
    (baselineFilters comparisonFilters : TaxiFilters Float) (limit : Int) :
    Checked (CompiledQuery Float) :=
  match measures with
  | [] => .error .indexError
  | orderMeasure :: _ =>
      let zoneJoin := segmentsZoneJoin [dimension] baselineFilters comparisonFilters
      let baseline := compileFilters baselineFilters
      let comparison := compileFilters comparisonFilters
      pure
        { sql := "WITH baseline AS (" ++ segmentCte dimension measures zoneJoin baseline.clauses ++
            "), comparison AS (" ++ segmentCte dimension measures zoneJoin comparison.clauses ++
            ") SELECT " ++ ", ".intercalate
              ("coalesce(b.\"dim\", c.\"dim\") AS \"dim\"" :: measures.flatMap comparedColumns) ++
            " FROM baseline AS b FULL OUTER JOIN comparison AS c " ++
            "ON b.\"dim\" IS NOT DISTINCT FROM c.\"dim\" " ++
            "ORDER BY (coalesce(b." ++ quoted orderMeasure.value ++ ", 0) + coalesce(c." ++
            quoted orderMeasure.value ++ ", 0)) DESC, \"dim\" ASC LIMIT ?"
          parameters := baseline.parameters ++ comparison.parameters ++ [.int (limit + 1)]
          outputColumns := "dim" :: measures.flatMap comparedNames }

def wholeCte (measures : List MeasureName) (zoneJoin : Bool) (clauses : List String) : String :=
  "SELECT count(*)::BIGINT AS \"population\", " ++ ", ".intercalate (measures.map selectMeasure) ++
    " " ++ fromClause zoneJoin ++ " " ++ whereSql clauses

def compileCompareWholeSegmentsQuery (measures : List MeasureName)
    (baselineFilters comparisonFilters : TaxiFilters Float) : CompiledQuery Float :=
  let zoneJoin := segmentsZoneJoin [] baselineFilters comparisonFilters
  let baseline := compileFilters baselineFilters
  let comparison := compileFilters comparisonFilters
  { sql := "WITH baseline AS (" ++ wholeCte measures zoneJoin baseline.clauses ++
      "), comparison AS (" ++ wholeCte measures zoneJoin comparison.clauses ++
      ") SELECT " ++ ", ".intercalate
        ("b.\"population\" AS \"baseline_population\"" ::
          "c.\"population\" AS \"comparison_population\"" :: measures.flatMap comparedColumns) ++
      " FROM baseline AS b CROSS JOIN comparison AS c"
    parameters := baseline.parameters ++ comparison.parameters
    outputColumns :=
      "baseline_population" :: "comparison_population" :: measures.flatMap comparedNames }

end Queries

end AiAnalytics.Dataset
