import AiAnalytics.Lib.PyLibrary

/-!
# Query specifications

The dimensions, measures and filters that a query may name, and the validators that turn a decoded
payload into a specification. Every failed check raises a `QueryValidationError`; a number too large
for a float raises `OverflowError`.
-/

namespace AiAnalytics.Dataset

open Lib

def maxRows : Int := 64

def maxColumns : Nat := 16

def maxListLength : Nat := 16

def maxStringLength : Nat := 128

structure QueryValidationError where
  code : String
  message : String
deriving DecidableEq, Repr

abbrev Checked (α : Type) := Except (PyError QueryValidationError) α

section Names

inductive DimensionName where
  | pickupDate
  | pickupHour
  | pickupWeekday
  | pickupWeekPart
  | pickupZone
  | pickupBorough
  | dropoffZone
  | dropoffBorough
  | paymentType
  | rateCode
  | vendor
  | passengerCountBucket
  | tripDistanceBucket
  | tripDurationBucket
  | fareAmountBucket
  | airportTrip
deriving DecidableEq, Repr

def DimensionName.value : DimensionName → String
  | pickupDate => "pickup_date"
  | pickupHour => "pickup_hour"
  | pickupWeekday => "pickup_weekday"
  | pickupWeekPart => "pickup_week_part"
  | pickupZone => "pickup_zone"
  | pickupBorough => "pickup_borough"
  | dropoffZone => "dropoff_zone"
  | dropoffBorough => "dropoff_borough"
  | paymentType => "payment_type"
  | rateCode => "rate_code"
  | vendor => "vendor"
  | passengerCountBucket => "passenger_count_bucket"
  | tripDistanceBucket => "trip_distance_bucket"
  | tripDurationBucket => "trip_duration_bucket"
  | fareAmountBucket => "fare_amount_bucket"
  | airportTrip => "airport_trip"

def DimensionName.all : List DimensionName :=
  [pickupDate, pickupHour, pickupWeekday, pickupWeekPart, pickupZone, pickupBorough, dropoffZone,
    dropoffBorough, paymentType, rateCode, vendor, passengerCountBucket, tripDistanceBucket,
    tripDurationBucket, fareAmountBucket, airportTrip]

inductive MeasureName where
  | tripCount
  | tripShare
  | averageFare
  | medianFare
  | averageTip
  | medianTip
  | totalTips
  | tipRate
  | averageTotalAmount
  | averageDistance
  | medianDistance
  | averageDurationMinutes
  | medianDurationMinutes
  | p95DurationMinutes
  | averagePassengerCount
deriving DecidableEq, Repr

def MeasureName.value : MeasureName → String
  | tripCount => "trip_count"
  | tripShare => "trip_share"
  | averageFare => "average_fare"
  | medianFare => "median_fare"
  | averageTip => "average_tip"
  | medianTip => "median_tip"
  | totalTips => "total_tips"
  | tipRate => "tip_rate"
  | averageTotalAmount => "average_total_amount"
  | averageDistance => "average_distance"
  | medianDistance => "median_distance"
  | averageDurationMinutes => "average_duration_minutes"
  | medianDurationMinutes => "median_duration_minutes"
  | p95DurationMinutes => "p95_duration_minutes"
  | averagePassengerCount => "average_passenger_count"

def MeasureName.all : List MeasureName :=
  [tripCount, tripShare, averageFare, medianFare, averageTip, medianTip, totalTips, tipRate,
    averageTotalAmount, averageDistance, medianDistance, averageDurationMinutes,
    medianDurationMinutes, p95DurationMinutes, averagePassengerCount]

inductive FilterField where
  | startTimestamp
  | endTimestamp
  | pickupHourMin
  | pickupHourMax
  | pickupWeekday
  | pickupWeekPart
  | pickupZone
  | pickupBorough
  | dropoffZone
  | dropoffBorough
  | paymentType
  | rateCode
  | vendor
  | passengerCountMin
  | passengerCountMax
  | tripDistanceMin
  | tripDistanceMax
  | tripDurationMin
  | tripDurationMax
  | fareAmountMin
  | fareAmountMax
  | airportTrip
  | validRecordsOnly
deriving DecidableEq, Repr

def FilterField.value : FilterField → String
  | startTimestamp => "start_timestamp"
  | endTimestamp => "end_timestamp"
  | pickupHourMin => "pickup_hour_min"
  | pickupHourMax => "pickup_hour_max"
  | pickupWeekday => "pickup_weekday"
  | pickupWeekPart => "pickup_week_part"
  | pickupZone => "pickup_zone"
  | pickupBorough => "pickup_borough"
  | dropoffZone => "dropoff_zone"
  | dropoffBorough => "dropoff_borough"
  | paymentType => "payment_type"
  | rateCode => "rate_code"
  | vendor => "vendor"
  | passengerCountMin => "passenger_count_min"
  | passengerCountMax => "passenger_count_max"
  | tripDistanceMin => "trip_distance_min"
  | tripDistanceMax => "trip_distance_max"
  | tripDurationMin => "trip_duration_min"
  | tripDurationMax => "trip_duration_max"
  | fareAmountMin => "fare_amount_min"
  | fareAmountMax => "fare_amount_max"
  | airportTrip => "airport_trip"
  | validRecordsOnly => "valid_records_only"

def FilterField.optionals : List FilterField :=
  [startTimestamp, endTimestamp, pickupHourMin, pickupHourMax, pickupWeekday, pickupWeekPart,
    pickupZone, pickupBorough, dropoffZone, dropoffBorough, paymentType, rateCode, vendor,
    passengerCountMin, passengerCountMax, tripDistanceMin, tripDistanceMax, tripDurationMin,
    tripDurationMax, fareAmountMin, fareAmountMax, airportTrip]

def FilterField.all : List FilterField := FilterField.optionals ++ [validRecordsOnly]

end Names

section Dictionaries

def weekdayNames : List String :=
  ["Monday", "Tuesday", "Wednesday", "Thursday", "Friday", "Saturday", "Sunday"]

def weekParts : List String := ["weekday", "weekend"]

def paymentTypeCodes : List (Int × String) :=
  [(0, "unknown_or_flex_fare"), (1, "credit_card"), (2, "cash"), (3, "no_charge"), (4, "dispute"),
    (5, "unknown_reserved"), (6, "voided_trip")]

def rateCodeCodes : List (Int × String) :=
  [(1, "standard"), (2, "jfk"), (3, "newark"), (4, "nassau_or_westchester"), (5, "negotiated"),
    (6, "group_ride"), (99, "unknown")]

def vendorCodes : List (Int × String) :=
  [(1, "creative_mobile_technologies"), (2, "curb_mobility"), (6, "myle_technologies")]

end Dictionaries

section Specs

structure TaxiFilters (Float : Type) where
  startTimestamp : Option String := none
  endTimestamp : Option String := none
  pickupHourMin : Option Int := none
  pickupHourMax : Option Int := none
  pickupWeekday : Option String := none
  pickupWeekPart : Option String := none
  pickupZone : Option String := none
  pickupBorough : Option String := none
  dropoffZone : Option String := none
  dropoffBorough : Option String := none
  paymentType : Option Int := none
  rateCode : Option Int := none
  vendor : Option Int := none
  passengerCountMin : Option Int := none
  passengerCountMax : Option Int := none
  tripDistanceMin : Option Float := none
  tripDistanceMax : Option Float := none
  tripDurationMin : Option Float := none
  tripDurationMax : Option Float := none
  fareAmountMin : Option Float := none
  fareAmountMax : Option Float := none
  airportTrip : Option Bool := none
  validRecordsOnly : Bool := true

variable {Float : Type}

def TaxiFilters.usesZoneJoin (filters : TaxiFilters Float) : Bool :=
  filters.pickupZone.isSome || filters.pickupBorough.isSome || filters.dropoffZone.isSome ||
    filters.dropoffBorough.isSome || filters.airportTrip.isSome

structure OrderSpec where
  key : String
  direction : String
deriving DecidableEq, Repr

structure AggregateQuerySpec (Float : Type) where
  dimensions : List DimensionName
  measures : List MeasureName
  filters : TaxiFilters Float
  orderBy : Option OrderSpec
  limit : Int

end Specs

section Validators

variable {Float α : Type} (lib : PyLibrary Float)

def fail (code message : String) : Checked α := .error (.raised { code, message })

def validateLimit : PyValue Float → Checked Int
  | .int limit =>
      if 1 ≤ limit ∧ limit ≤ maxRows then pure limit
      else fail "invalid_limit" ("limit must be an integer between 1 and " ++ toString maxRows)
  | _ => fail "invalid_limit" ("limit must be an integer between 1 and " ++ toString maxRows)

def validateName (all : List α) (valueOf : α → String) (code kind : String)
    (value : PyValue Float) : Checked α :=
  match all.find? fun name => value.eqStr (valueOf name) with
  | some name => pure name
  | none => fail code ("'" ++ lib.str value ++ "' is not an allowlisted " ++ kind)

def validateDimension : PyValue Float → Checked DimensionName :=
  validateName lib DimensionName.all DimensionName.value "unknown_dimension" "dimension"

def validateMeasure : PyValue Float → Checked MeasureName :=
  validateName lib MeasureName.all MeasureName.value "unknown_measure" "measure"

def validateNames [DecidableEq α] (validate : PyValue Float → Checked α) (code kind : String) :
    PyValue Float → Checked (List α)
  | .list values =>
      if values = [] then fail code (kind ++ " must be a non-empty list")
      else if values.length > maxListLength then
        fail code ("at most " ++ toString maxListLength ++ " " ++ kind ++ " are allowed")
      else do
        let names ← values.mapM validate
        if names.Nodup then pure names else fail code (kind ++ " must not repeat")
  | _ => fail code (kind ++ " must be a non-empty list")

def validateDimensions : PyValue Float → Checked (List DimensionName) :=
  validateNames (validateDimension lib) "invalid_dimensions" "dimensions"

def validateMeasures : PyValue Float → Checked (List MeasureName) :=
  validateNames (validateMeasure lib) "invalid_measures" "measures"

def validateColumnBudget (dimensions : List DimensionName) (measures : List MeasureName) :
    Checked Unit :=
  if dimensions.length + measures.length > maxColumns then
    fail "invalid_column_budget"
      ("dimensions plus measures must not exceed " ++ toString maxColumns ++ " columns")
  else pure ()

def invalidFilter (message : String) : Checked α := fail "invalid_filter_value" message

def validateIsoTimestamp (fieldName : String) : PyValue Float → Checked String
  | .str value =>
      if value = "" ∨ value.length > 32 then
        invalidFilter (fieldName ++ " must be an ISO-8601 timestamp string")
      else if (lib.fromisoformat value).isSome then pure value
      else invalidFilter (fieldName ++ " is not a valid ISO-8601 timestamp")
  | _ => invalidFilter (fieldName ++ " must be an ISO-8601 timestamp string")

def validateString (fieldName : String) : PyValue Float → Checked String
  | .str value =>
      if strip value.toList = [] ∨ value.length > maxStringLength then
        invalidFilter (fieldName ++ " must be a non-empty bounded string")
      else pure (String.ofList (strip value.toList))
  | _ => invalidFilter (fieldName ++ " must be a non-empty bounded string")

def validateInt (fieldName : String) : PyValue Float → Checked Int
  | .int value => pure value
  | _ => invalidFilter (fieldName ++ " must be an integer")

def validateNumber (fieldName : String) (value : PyValue Float) : Checked Float :=
  match value with
  | .int _ | .float _ => value.toFloat lib.num
  | _ => invalidFilter (fieldName ++ " must be a number")

def validateBool (fieldName : String) : PyValue Float → Checked Bool
  | .bool value => pure value
  | _ => invalidFilter (fieldName ++ " must be a boolean")

def validateHour (fieldName : String) (value : PyValue Float) : Checked Int := do
  let hour ← validateInt fieldName value
  if 0 ≤ hour ∧ hour ≤ 23 then pure hour
  else invalidFilter (fieldName ++ " must be between 0 and 23")

def validateText (texts : List String) (message : String) (fieldName : String)
    (value : PyValue Float) : Checked String := do
  let text ← validateString fieldName value
  if text ∈ texts then pure text else invalidFilter message

def validateCode (codes : List (Int × String)) (fieldName : String) (value : PyValue Float) :
    Checked Int := do
  let code ← validateInt fieldName value
  if code ∈ codes.map Prod.fst then pure code
  else invalidFilter (fieldName ++ " is not a known code")

def optionalField (payload : PyValue Float) (field : FilterField)
    (validate : String → PyValue Float → Checked α) : Checked (Option α) :=
  match payload.entry field.value .none with
  | .none => pure none
  | value => some <$> validate field.value value

def readFilter (payload : PyValue Float) (filters : TaxiFilters Float) :
    FilterField → Checked (TaxiFilters Float)
  | .startTimestamp => do
      let value ← optionalField payload .startTimestamp (validateIsoTimestamp lib)
      pure { filters with startTimestamp := value }
  | .endTimestamp => do
      let value ← optionalField payload .endTimestamp (validateIsoTimestamp lib)
      pure { filters with endTimestamp := value }
  | .pickupHourMin => do
      let value ← optionalField payload .pickupHourMin validateHour
      pure { filters with pickupHourMin := value }
  | .pickupHourMax => do
      let value ← optionalField payload .pickupHourMax validateHour
      pure { filters with pickupHourMax := value }
  | .pickupWeekday => do
      let value ← optionalField payload .pickupWeekday
        (validateText weekdayNames "pickup_weekday must be a full weekday name")
      pure { filters with pickupWeekday := value }
  | .pickupWeekPart => do
      let value ← optionalField payload .pickupWeekPart
        (validateText weekParts "pickup_week_part must be weekday or weekend")
      pure { filters with pickupWeekPart := value }
  | .pickupZone => do
      let value ← optionalField payload .pickupZone validateString
      pure { filters with pickupZone := value }
  | .pickupBorough => do
      let value ← optionalField payload .pickupBorough validateString
      pure { filters with pickupBorough := value }
  | .dropoffZone => do
      let value ← optionalField payload .dropoffZone validateString
      pure { filters with dropoffZone := value }
  | .dropoffBorough => do
      let value ← optionalField payload .dropoffBorough validateString
      pure { filters with dropoffBorough := value }
  | .paymentType => do
      let value ← optionalField payload .paymentType (validateCode paymentTypeCodes)
      pure { filters with paymentType := value }
  | .rateCode => do
      let value ← optionalField payload .rateCode (validateCode rateCodeCodes)
      pure { filters with rateCode := value }
  | .vendor => do
      let value ← optionalField payload .vendor (validateCode vendorCodes)
      pure { filters with vendor := value }
  | .passengerCountMin => do
      let value ← optionalField payload .passengerCountMin validateInt
      pure { filters with passengerCountMin := value }
  | .passengerCountMax => do
      let value ← optionalField payload .passengerCountMax validateInt
      pure { filters with passengerCountMax := value }
  | .tripDistanceMin => do
      let value ← optionalField payload .tripDistanceMin (validateNumber lib)
      pure { filters with tripDistanceMin := value }
  | .tripDistanceMax => do
      let value ← optionalField payload .tripDistanceMax (validateNumber lib)
      pure { filters with tripDistanceMax := value }
  | .tripDurationMin => do
      let value ← optionalField payload .tripDurationMin (validateNumber lib)
      pure { filters with tripDurationMin := value }
  | .tripDurationMax => do
      let value ← optionalField payload .tripDurationMax (validateNumber lib)
      pure { filters with tripDurationMax := value }
  | .fareAmountMin => do
      let value ← optionalField payload .fareAmountMin (validateNumber lib)
      pure { filters with fareAmountMin := value }
  | .fareAmountMax => do
      let value ← optionalField payload .fareAmountMax (validateNumber lib)
      pure { filters with fareAmountMax := value }
  | .airportTrip => do
      let value ← optionalField payload .airportTrip validateBool
      pure { filters with airportTrip := value }
  | .validRecordsOnly => do
      -- null is not absent here: the default stands only for a missing key
      let value ← validateBool FilterField.validRecordsOnly.value
        (payload.entry FilterField.validRecordsOnly.value (.bool true))
      pure { filters with validRecordsOnly := value }

def validateFilters : PyValue Float → Checked (TaxiFilters Float)
  | .none => pure {}
  | .dict entries =>
      if unknownKeys entries (FilterField.all.map FilterField.value) ≠ [] then
        fail "unknown_filter" ("unknown filter field(s): " ++
          lib.strList
            (sortedTexts (unknownKeys entries (FilterField.all.map FilterField.value))))
      else FilterField.all.foldlM (readFilter lib (.dict entries)) {}
  | _ => fail "invalid_filters" "filters must be an object"

def validateOrderBy (allowedKeys : List String) : PyValue Float → Checked (Option OrderSpec)
  | .none => pure none
  | .dict entries =>
      if unknownKeys entries ["key", "direction"] ≠ [] then
        fail "invalid_order_by" ("unknown order_by field(s): " ++
          lib.strList (sortedTexts (unknownKeys entries ["key", "direction"])))
      else
        match (PyValue.dict entries).entry "key" .none with
        | .str key =>
            if key ∉ allowedKeys then
              fail "invalid_order_by" "order_by.key must be one of the requested output columns"
            else match (PyValue.dict entries).entry "direction" (.str "desc") with
              | .str direction =>
                  if direction ∈ ["asc", "desc"] then pure (some { key, direction })
                  else fail "invalid_order_by" "order_by.direction must be 'asc' or 'desc'"
              | _ => fail "invalid_order_by" "order_by.direction must be 'asc' or 'desc'"
        | _ => fail "invalid_order_by" "order_by.key must be one of the requested output columns"
  | _ => fail "invalid_order_by" "order_by must be an object"

def validateSearch : PyValue Float → Checked (Option String)
  | .none => pure none
  | .str value =>
      if value = "" ∨ value.length > maxStringLength then
        fail "invalid_search" "search must be a non-empty bounded string"
      else pure (some value)
  | _ => fail "invalid_search" "search must be a non-empty bounded string"

def buildAggregateSpec (dimensions measures filters orderBy limit : PyValue Float) :
    Checked (AggregateQuerySpec Float) := do
  let dimensions ← validateDimensions lib dimensions
  let measures ← validateMeasures lib measures
  validateColumnBudget dimensions measures
  let filters ← validateFilters lib filters
  let orderBy ← validateOrderBy lib
    (dimensions.map DimensionName.value ++ measures.map MeasureName.value) orderBy
  let limit ← validateLimit limit
  pure { dimensions, measures, filters, orderBy, limit }

end Validators

end AiAnalytics.Dataset
