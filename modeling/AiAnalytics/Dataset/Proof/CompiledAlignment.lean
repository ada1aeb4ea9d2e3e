import AiAnalytics.App.Validation.Proof.FieldChecks
import AiAnalytics.Dataset.Analytics
import AiAnalytics.Dataset.Proof.AcceptedSpecs
import AiAnalytics.Lib.Placeholders

/-!
# The text of a query and its parameters

The placeholders of a compiled query and its parameters belong together one by one, tables of zones
are joined where their columns are named, and the values of a specification do not reach the text.
-/

namespace AiAnalytics.Dataset

open Lib

variable {Float α : Type} {mark : Char}

section Filters

def bound (value : Option α) (text : String) (parameter : α → SqlValue Float) :
    List (String × SqlValue Float) :=
  (value.map fun value => (text, parameter value)).toList

def boundClauses (filters : TaxiFilters Float) : List (String × SqlValue Float) :=
  bound filters.startTimestamp "t.tpep_pickup_datetime >= ?" .text ++
  bound filters.endTimestamp "t.tpep_pickup_datetime < ?" .text ++
  bound filters.pickupHourMin "extract(hour FROM t.tpep_pickup_datetime) >= ?" .int ++
  bound filters.pickupHourMax "extract(hour FROM t.tpep_pickup_datetime) <= ?" .int ++
  bound filters.pickupWeekday "dayname(t.tpep_pickup_datetime) = ?" .text ++
  bound filters.pickupZone "lower(pz.Zone) = lower(?)" .text ++
  bound filters.pickupBorough "lower(pz.Borough) = lower(?)" .text ++
  bound filters.dropoffZone "lower(dz.Zone) = lower(?)" .text ++
  bound filters.dropoffBorough "lower(dz.Borough) = lower(?)" .text ++
  bound filters.paymentType "t.payment_type = ?" .int ++
  bound filters.rateCode "t.RatecodeID = ?" .int ++
  bound filters.vendor "t.VendorID = ?" .int ++
  bound filters.passengerCountMin "t.passenger_count >= ?" .int ++
  bound filters.passengerCountMax "t.passenger_count <= ?" .int ++
  bound filters.tripDistanceMin "t.trip_distance >= ?" .float ++
  bound filters.tripDistanceMax "t.trip_distance <= ?" .float ++
  bound filters.tripDurationMin (durationMinutesExpr ++ " >= ?") .float ++
  bound filters.tripDurationMax (durationMinutesExpr ++ " <= ?") .float ++
  bound filters.fareAmountMin "t.fare_amount >= ?" .float ++
  bound filters.fareAmountMax "t.fare_amount <= ?" .float ++
  bound filters.airportTrip (airportTripBoolExpr ++ " = ?") .bool

namespace FilterSql

variable {sql sql' : FilterSql Float} {pairs : List (String × SqlValue Float)} {text : String}
  {value value' : Option α} {parameter : α → SqlValue Float}

@[simp]
theorem when_parameters : (sql.when value text parameter).parameters =
    sql.parameters ++ (bound value text parameter).map Prod.snd := by
  cases value with
  | none => simp [FilterSql.when, bound]
  | some value => rfl

@[simp]
theorem validRecords_parameters (only : Bool) :
    (sql.validRecords only).parameters = sql.parameters := by
  cases only <;> rfl

@[simp]
theorem weekPart_parameters (part : Option String) :
    (sql.weekPart part).parameters = sql.parameters := by
  cases part with
  | none => rfl
  | some part =>
      by_cases hpart : part = "weekend"
      · rw [weekPart, if_pos hpart, clause]
      · rw [weekPart, if_neg hpart, clause]

def Binds (mark : Char) (sql : FilterSql Float) (pairs : List (String × SqlValue Float)) : Prop :=
  ∃ groups, List.Forall₂ (Lib.Binds mark) sql.clauses groups ∧ groups.flatten = pairs

theorem Binds.empty {parameters : List (SqlValue Float)} :
    Binds mark { clauses := [], parameters } [] := ⟨[], .nil, rfl⟩

theorem Binds.clause (h : sql.Binds mark pairs) (htext : occurrences mark text = 0) :
    (sql.clause text).Binds mark pairs := by
  obtain ⟨groups, hgroups, hflatten⟩ := h
  refine ⟨groups ++ [[]], ?_, by simpa using hflatten⟩
  exact List.rel_append hgroups (.cons (.plain htext) .nil)

theorem Binds.when (h : sql.Binds mark pairs) (htext : occurrences mark text = 1) :
    (sql.when value text parameter).Binds mark (pairs ++ bound value text parameter) := by
  obtain ⟨groups, hgroups, rfl⟩ := h
  cases value with
  | none =>
      refine ⟨groups, hgroups, ?_⟩
      rw [bound, Option.map_none, Option.toList_none, List.append_nil]
  | some value =>
      refine ⟨groups ++ [[(text, parameter value)]], ?_, by simp [bound]⟩
      exact List.rel_append hgroups (.cons (.clause _ htext) .nil)

theorem Binds.when_plain (h : sql.Binds mark pairs) (htext : occurrences mark text = 0) :
    (sql.when value text parameter).Binds mark pairs := by
  cases value with
  | none => exact h
  | some value => exact h.clause htext

theorem Binds.when_absent (h : sql.Binds mark pairs) (hvalue : value.isSome = false) :
    (sql.when value text parameter).Binds mark pairs := by
  cases value with
  | none => exact h
  | some value => cases hvalue

theorem Binds.validRecords (h : sql.Binds mark pairs) (hmark : mark ∈ ['?', 'z']) (only : Bool) :
    (sql.validRecords only).Binds mark pairs := by
  have hrange : occurrences mark ("t.tpep_pickup_datetime >= TIMESTAMP '2024-01-01' " ++
      "AND t.tpep_pickup_datetime < TIMESTAMP '2024-02-01'") = 0 :=
    append_plain (literal_plain hmark (by decide)) (literal_plain hmark (by decide))
  have hfare : occurrences mark "t.fare_amount >= 0" = 0 := literal_plain hmark (by decide)
  have htotal : occurrences mark "t.total_amount >= 0" = 0 := literal_plain hmark (by decide)
  have hdropoff : occurrences mark "t.tpep_dropoff_datetime >= t.tpep_pickup_datetime" = 0 :=
    literal_plain hmark (by decide)
  cases only with
  | false => exact h
  | true => exact (((h.clause hrange).clause hfare).clause htotal).clause hdropoff

theorem Binds.weekPart (h : sql.Binds mark pairs) (hmark : mark ∈ ['?', 'z'])
    (part : Option String) : (sql.weekPart part).Binds mark pairs := by
  have hin : occurrences mark "extract(isodow FROM t.tpep_pickup_datetime) IN (6, 7)" = 0 :=
    literal_plain hmark (by decide)
  have hnot : occurrences mark "extract(isodow FROM t.tpep_pickup_datetime) NOT IN (6, 7)" = 0 :=
    literal_plain hmark (by decide)
  cases part with
  | none => exact h
  | some part =>
      rw [FilterSql.weekPart]
      by_cases hpart : part = "weekend"
      · rw [if_pos hpart]
        exact h.clause hin
      · rw [if_neg hpart]
        exact h.clause hnot

theorem when_clauses_congr (h : sql.clauses = sql'.clauses)
    (hvalue : value.isSome = value'.isSome) :
    (sql.when value text parameter).clauses = (sql'.when value' text parameter).clauses := by
  cases value with
  | none =>
      cases value' with
      | none => exact h
      | some _ => cases hvalue
  | some _ =>
      cases value' with
      | none => cases hvalue
      | some _ => exact congrArg (· ++ [text]) h

theorem weekPart_clauses_congr (h : sql.clauses = sql'.clauses) (part : Option String) :
    (sql.weekPart part).clauses = (sql'.weekPart part).clauses := by
  cases part with
  | none => exact h
  | some part =>
      rw [FilterSql.weekPart, FilterSql.weekPart]
      by_cases hpart : part = "weekend"
      · rw [if_pos hpart, if_pos hpart, FilterSql.clause, FilterSql.clause, h]
      · rw [if_neg hpart, if_neg hpart, FilterSql.clause, FilterSql.clause, h]

end FilterSql

variable {filters filters' : TaxiFilters Float}

theorem compileFilters_parameters :
    (compileFilters filters).parameters = (boundClauses filters).map Prod.snd := by
  unfold compileFilters
  simp only [FilterSql.when_parameters, FilterSql.weekPart_parameters,
    FilterSql.validRecords_parameters, List.nil_append]
  unfold boundClauses
  simp only [List.map_append]

theorem duration_plain (hmark : mark ∈ ['?', 'z']) : occurrences mark durationMinutesExpr = 0 :=
  literal_plain hmark (by decide)

theorem airport_plain : occurrences '?' airportTripBoolExpr = 0 :=
  append_plain (append_plain (occurrences_literal rfl) (occurrences_literal rfl))
    (occurrences_literal rfl)

theorem compileFilters_binds : (compileFilters filters).Binds '?' (boundClauses filters) := by
  have hmark : '?' ∈ ['?', 'z'] := by decide
  have hvalid : FilterSql.Binds '?' (FilterSql.validRecords {} filters.validRecordsOnly)
      ([] : List (String × SqlValue Float)) := .validRecords .empty hmark _
  have hlonger : occurrences '?' (durationMinutesExpr ++ " >= ?") = 1 := by
    rw [occurrences_append, duration_plain hmark, Nat.zero_add]
    exact occurrences_literal rfl
  have hshorter : occurrences '?' (durationMinutesExpr ++ " <= ?") = 1 := by
    rw [occurrences_append, duration_plain hmark, Nat.zero_add]
    exact occurrences_literal rfl
  have hairport : occurrences '?' (airportTripBoolExpr ++ " = ?") = 1 := by
    rw [occurrences_append, airport_plain, Nat.zero_add]
    exact occurrences_literal rfl
  unfold compileFilters boundClauses
  dsimp only
  refine FilterSql.Binds.when ?_ hairport
  iterate 2 refine FilterSql.Binds.when ?_ (occurrences_literal rfl)
  refine FilterSql.Binds.when ?_ hshorter
  refine FilterSql.Binds.when ?_ hlonger
  iterate 11 refine FilterSql.Binds.when ?_ (occurrences_literal rfl)
  refine FilterSql.Binds.weekPart ?_ hmark _
  iterate 4 refine FilterSql.Binds.when ?_ (occurrences_literal rfl)
  exact hvalid.when (occurrences_literal rfl)

theorem compileFilters_plain (hzone : filters.usesZoneJoin = false) :
    (compileFilters filters).Binds 'z' [] := by
  have hmark : 'z' ∈ ['?', 'z'] := by decide
  simp only [TaxiFilters.usesZoneJoin, Bool.or_eq_false_iff] at hzone
  have hduration : occurrences 'z' durationMinutesExpr = 0 := duration_plain hmark
  obtain ⟨⟨⟨⟨hpickupZone, hpickupBorough⟩, hdropoffZone⟩, hdropoffBorough⟩, hairport⟩ := hzone
  unfold compileFilters
  dsimp only
  refine FilterSql.Binds.when_absent ?_ hairport
  iterate 2 refine FilterSql.Binds.when_plain ?_ (occurrences_literal rfl)
  refine FilterSql.Binds.when_plain ?_ (append_plain hduration (occurrences_literal rfl))
  refine FilterSql.Binds.when_plain ?_ (append_plain hduration (occurrences_literal rfl))
  iterate 7 refine FilterSql.Binds.when_plain ?_ (occurrences_literal rfl)
  refine FilterSql.Binds.when_absent ?_ hdropoffBorough
  refine FilterSql.Binds.when_absent ?_ hdropoffZone
  refine FilterSql.Binds.when_absent ?_ hpickupBorough
  refine FilterSql.Binds.when_absent ?_ hpickupZone
  refine FilterSql.Binds.weekPart ?_ hmark _
  iterate 5 refine FilterSql.Binds.when_plain ?_ (occurrences_literal rfl)
  exact .validRecords .empty hmark _

def TaxiFilters.given (filters : TaxiFilters Float) : FilterField → Bool
  | .startTimestamp => filters.startTimestamp.isSome
  | .endTimestamp => filters.endTimestamp.isSome
  | .pickupHourMin => filters.pickupHourMin.isSome
  | .pickupHourMax => filters.pickupHourMax.isSome
  | .pickupWeekday => filters.pickupWeekday.isSome
  | .pickupWeekPart => filters.pickupWeekPart.isSome
  | .pickupZone => filters.pickupZone.isSome
  | .pickupBorough => filters.pickupBorough.isSome
  | .dropoffZone => filters.dropoffZone.isSome
  | .dropoffBorough => filters.dropoffBorough.isSome
  | .paymentType => filters.paymentType.isSome
  | .rateCode => filters.rateCode.isSome
  | .vendor => filters.vendor.isSome
  | .passengerCountMin => filters.passengerCountMin.isSome
  | .passengerCountMax => filters.passengerCountMax.isSome
  | .tripDistanceMin => filters.tripDistanceMin.isSome
  | .tripDistanceMax => filters.tripDistanceMax.isSome
  | .tripDurationMin => filters.tripDurationMin.isSome
  | .tripDurationMax => filters.tripDurationMax.isSome
  | .fareAmountMin => filters.fareAmountMin.isSome
  | .fareAmountMax => filters.fareAmountMax.isSome
  | .airportTrip => filters.airportTrip.isSome
  | .validRecordsOnly => true

structure SameFields (filters filters' : TaxiFilters Float) : Prop where
  given : ∀ field, filters.given field = filters'.given field
  pickupWeekPart : filters.pickupWeekPart = filters'.pickupWeekPart
  validRecordsOnly : filters.validRecordsOnly = filters'.validRecordsOnly

theorem SameFields.usesZoneJoin (h : SameFields filters filters') :
    filters.usesZoneJoin = filters'.usesZoneJoin := by
  have hpickupZone : filters.pickupZone.isSome = filters'.pickupZone.isSome := h.given .pickupZone
  have hpickupBorough : filters.pickupBorough.isSome = filters'.pickupBorough.isSome :=
    h.given .pickupBorough
  have hdropoffZone : filters.dropoffZone.isSome = filters'.dropoffZone.isSome :=
    h.given .dropoffZone
  have hdropoffBorough : filters.dropoffBorough.isSome = filters'.dropoffBorough.isSome :=
    h.given .dropoffBorough
  have hairport : filters.airportTrip.isSome = filters'.airportTrip.isSome := h.given .airportTrip
  rw [TaxiFilters.usesZoneJoin, TaxiFilters.usesZoneJoin, hpickupZone, hpickupBorough, hdropoffZone,
    hdropoffBorough, hairport]

theorem SameFields.clauses (h : SameFields filters filters') :
    (compileFilters filters).clauses = (compileFilters filters').clauses := by
  have hvalid : (FilterSql.validRecords {} filters.validRecordsOnly : FilterSql Float).clauses =
      (FilterSql.validRecords {} filters'.validRecordsOnly : FilterSql Float).clauses := by
    rw [h.validRecordsOnly]
  have hpart := h.pickupWeekPart
  unfold compileFilters
  dsimp only
  refine FilterSql.when_clauses_congr ?_ (h.given .airportTrip)
  refine FilterSql.when_clauses_congr ?_ (h.given .fareAmountMax)
  refine FilterSql.when_clauses_congr ?_ (h.given .fareAmountMin)
  refine FilterSql.when_clauses_congr ?_ (h.given .tripDurationMax)
  refine FilterSql.when_clauses_congr ?_ (h.given .tripDurationMin)
  refine FilterSql.when_clauses_congr ?_ (h.given .tripDistanceMax)
  refine FilterSql.when_clauses_congr ?_ (h.given .tripDistanceMin)
  refine FilterSql.when_clauses_congr ?_ (h.given .passengerCountMax)
  refine FilterSql.when_clauses_congr ?_ (h.given .passengerCountMin)
  refine FilterSql.when_clauses_congr ?_ (h.given .vendor)
  refine FilterSql.when_clauses_congr ?_ (h.given .rateCode)
  refine FilterSql.when_clauses_congr ?_ (h.given .paymentType)
  refine FilterSql.when_clauses_congr ?_ (h.given .dropoffBorough)
  refine FilterSql.when_clauses_congr ?_ (h.given .dropoffZone)
  refine FilterSql.when_clauses_congr ?_ (h.given .pickupBorough)
  refine FilterSql.when_clauses_congr ?_ (h.given .pickupZone)
  rw [hpart]
  refine FilterSql.weekPart_clauses_congr ?_ _
  refine FilterSql.when_clauses_congr ?_ (h.given .pickupWeekday)
  refine FilterSql.when_clauses_congr ?_ (h.given .pickupHourMax)
  refine FilterSql.when_clauses_congr ?_ (h.given .pickupHourMin)
  refine FilterSql.when_clauses_congr ?_ (h.given .endTimestamp)
  exact FilterSql.when_clauses_congr hvalid (h.given .startTimestamp)

end Filters

section Parts

variable {dimension : DimensionName} {measures : List MeasureName} {keys : List String}
  {orderBy : Option OrderSpec} {zoneJoin : Bool} {sql : FilterSql Float} {text : String}
  {pairs : List (String × SqlValue Float)}

theorem quoted_plain (hmark : mark ∈ ['?', 'z']) (htext : occurrences mark text = 0) :
    occurrences mark (quoted text) = 0 := by
  have hquote : occurrences mark "\"" = 0 := literal_plain hmark (by decide)
  exact append_plain (append_plain hquote htext) hquote

theorem alias_plain (hmark : mark ∈ ['?', 'z']) {name : String} (htext : occurrences mark text = 0)
    (hname : occurrences mark name = 0) : occurrences mark (text ++ " AS " ++ quoted name) = 0 :=
  append_plain (append_plain htext (literal_plain hmark (by decide))) (quoted_plain hmark hname)

theorem measureValue_plain (hmark : mark ∈ ['?', 'z']) (measure : MeasureName) :
    occurrences mark measure.value = 0 := by
  cases measure <;> exact literal_plain hmark (by decide)

theorem measureExpression_plain (hmark : mark ∈ ['?', 'z']) (measure : MeasureName) :
    occurrences mark (measureExpression measure) = 0 := by
  have hduration := duration_plain hmark
  cases measure with
  | tipRate =>
      exact append_plain (literal_plain hmark (by decide)) (literal_plain hmark (by decide))
  | averageDurationMinutes | medianDurationMinutes | p95DurationMinutes =>
      exact append_plain (append_plain (literal_plain hmark (by decide)) hduration)
        (literal_plain hmark (by decide))
  | _ => exact literal_plain hmark (by decide)

theorem mark_eq (hmark : mark ∈ ['?', 'z']) (hne : mark ≠ 'z') : mark = '?' := by
  simpa [hne] using hmark

theorem mark_not_digit : ∀ mark ∈ ['?', 'z'], mark.isDigit = false :=
  List.forall_mem_cons.mpr ⟨rfl, List.forall_mem_singleton.mpr rfl⟩

theorem dimensionValue_plain (hmark : mark ∈ ['?', 'z'])
    (hzone : mark = 'z' → joinsZone dimension = false) : occurrences mark dimension.value = 0 := by
  cases dimension with
  | pickupZone | dropoffZone =>
      rw [mark_eq hmark fun heq => nomatch hzone heq]
      exact occurrences_literal rfl
  | _ => exact literal_plain hmark (by decide)

theorem bucketCase_plain (hmark : mark ∈ ['?', 'z']) {column : String}
    (hcolumn : occurrences mark column = 0) (edges : List Nat) :
    occurrences mark (bucketCase column edges) = 0 := by
  have hdigit := mark_not_digit mark hmark
  have hwhen : occurrences mark "WHEN " = 0 := literal_plain hmark (by decide)
  have hbelow : occurrences mark " < " = 0 := literal_plain hmark (by decide)
  have hbranches : ∀ previous, ∀ part ∈ bucketBranches column previous edges,
      occurrences mark part = 0 := by
    induction edges with
    | nil =>
        intro previous part hpart
        cases previous with
        | none =>
            rw [List.mem_singleton.mp hpart]
            exact literal_plain hmark (by decide)
        | some previous =>
            rw [List.mem_singleton.mp hpart]
            exact append_plain
              (append_plain (literal_plain hmark (by decide)) (toString_plain hdigit previous))
              (literal_plain hmark (by decide))
    | cons edge edges ih =>
        have hedge : occurrences mark (toString edge) = 0 := toString_plain hdigit edge
        have hcondition : occurrences mark ("WHEN " ++ column ++ " < " ++ toString edge) = 0 :=
          append_plain (append_plain (append_plain hwhen hcolumn) hbelow) hedge
        have hclose : occurrences mark "'" = 0 := literal_plain hmark (by decide)
        intro previous part hpart
        cases previous with
        | none =>
            rcases List.mem_cons.mp hpart with rfl | hpart
            · have hthen : occurrences mark " THEN '<" = 0 := literal_plain hmark (by decide)
              exact append_plain (append_plain (append_plain hcondition hthen) hedge) hclose
            · exact ih _ part hpart
        | some previous =>
            rcases List.mem_cons.mp hpart with rfl | hpart
            · have hthen : occurrences mark " THEN '[" = 0 := literal_plain hmark (by decide)
              have hrange := append_plain (append_plain hcondition hthen)
                (toString_plain hdigit previous)
              exact append_plain
                (append_plain (append_plain hrange (literal_plain hmark (by decide))) hedge)
                (literal_plain hmark (by decide))
            · exact ih _ part hpart
  have hnull : occurrences mark ("WHEN " ++ column ++ " IS NULL THEN 'unknown'") = 0 :=
    append_plain (append_plain hwhen hcolumn) (literal_plain hmark (by decide))
  refine append_plain (append_plain (literal_plain hmark (by decide)) ?_)
    (literal_plain hmark (by decide))
  exact intercalate_plain (literal_plain hmark (by decide))
    (List.forall_mem_cons.mpr ⟨hnull, hbranches none⟩)

theorem dimensionExpression_plain (hmark : mark ∈ ['?', 'z'])
    (hzone : mark = 'z' → joinsZone dimension = false) :
    occurrences mark (dimensionExpression dimension) = 0 := by
  cases dimension with
  | pickupWeekPart =>
      exact append_plain (literal_plain hmark (by decide)) (literal_plain hmark (by decide))
  | pickupZone | pickupBorough | dropoffZone | dropoffBorough =>
      rw [mark_eq hmark fun heq => nomatch hzone heq]
      exact occurrences_literal rfl
  | airportTrip =>
      rw [mark_eq hmark fun heq => nomatch hzone heq]
      exact append_plain (append_plain (occurrences_literal rfl) airport_plain)
        (occurrences_literal rfl)
  | tripDurationBucket => exact bucketCase_plain hmark (duration_plain hmark) _
  | passengerCountBucket | tripDistanceBucket | fareAmountBucket =>
      exact bucketCase_plain hmark (literal_plain hmark (by decide)) _
  | _ => exact literal_plain hmark (by decide)

theorem fromClause_plain (hmark : mark ∈ ['?', 'z']) (hzone : mark = 'z' → zoneJoin = false) :
    occurrences mark (fromClause zoneJoin) = 0 := by
  cases zoneJoin with
  | false => exact literal_plain hmark (by decide)
  | true =>
      rw [mark_eq hmark fun heq => nomatch hzone heq]
      exact append_plain (occurrences_literal rfl) (occurrences_literal rfl)

theorem groupSql_plain (hmark : mark ∈ ['?', 'z']) (count : Nat) :
    occurrences mark (groupSql count) = 0 := by
  have hdigit := mark_not_digit mark hmark
  rw [groupSql]
  by_cases hcount : count = 0
  · rw [if_pos hcount, occurrences_empty]
  · rw [if_neg hcount]
    apply append_plain (literal_plain hmark (by decide))
    apply intercalate_plain (literal_plain hmark (by decide))
    intro part hpart
    obtain ⟨i, _, rfl⟩ := List.mem_map.mp hpart
    exact toString_plain hdigit (i + 1)

theorem orderClause_plain (hmark : mark ∈ ['?', 'z'])
    (hkeys : ∀ key ∈ keys, occurrences mark key = 0)
    (horder : ∀ order, orderBy = some order → order.key ∈ keys) :
    occurrences mark (orderClause orderBy keys) = 0 := by
  have hascending : ∀ keys' : List String, (∀ key ∈ keys', key ∈ keys) →
      ∀ part ∈ keys'.map fun key => quoted key ++ " ASC", occurrences mark part = 0 := by
    intro keys' hsub part hpart
    obtain ⟨key, hkey, rfl⟩ := List.mem_map.mp hpart
    exact append_plain (quoted_plain hmark (hkeys key (hsub key hkey)))
      (literal_plain hmark (by decide))
  have hclause : ∀ parts : List String, (∀ part ∈ parts, occurrences mark part = 0) →
      occurrences mark (if parts = [] then "" else "ORDER BY " ++ ", ".intercalate parts) = 0 := by
    intro parts hparts
    by_cases hempty : parts = []
    · rw [if_pos hempty, occurrences_empty]
    · rw [if_neg hempty]
      exact append_plain (literal_plain hmark (by decide))
        (intercalate_plain (literal_plain hmark (by decide)) hparts)
  cases orderBy with
  | none => exact hclause _ (hascending keys fun _ hkey => hkey)
  | some order =>
      have hkey := quoted_plain hmark (hkeys order.key (horder order rfl))
      refine hclause _ (List.forall_mem_cons.mpr ⟨append_plain hkey ?_, ?_⟩)
      · by_cases hdirection : order.direction = "desc"
        · rw [if_pos hdirection]
          exact literal_plain hmark (by decide)
        · rw [if_neg hdirection]
          exact literal_plain hmark (by decide)
      · exact hascending _ fun _ hkey => List.mem_of_mem_filter hkey

theorem selectMeasures_plain (hmark : mark ∈ ['?', 'z']) (measures : List MeasureName) :
    ∀ part ∈ measures.map selectMeasure, occurrences mark part = 0 := by
  intro part hpart
  obtain ⟨measure, _, rfl⟩ := List.mem_map.mp hpart
  exact alias_plain hmark (measureExpression_plain hmark measure) (measureValue_plain hmark measure)

theorem comparedColumns_plain (hmark : mark ∈ ['?', 'z']) (measures : List MeasureName) :
    ∀ part ∈ measures.flatMap comparedColumns, occurrences mark part = 0 := by
  intro part hpart
  obtain ⟨measure, _, hpart⟩ := List.mem_flatMap.mp hpart
  have hvalue := measureValue_plain hmark measure
  have hquoted := quoted_plain hmark hvalue
  rcases List.mem_cons.mp hpart with rfl | hpart
  · exact alias_plain hmark (append_plain (literal_plain hmark (by decide)) hquoted)
      (append_plain (literal_plain hmark (by decide)) hvalue)
  · rw [List.mem_singleton.mp hpart]
    exact alias_plain hmark (append_plain (literal_plain hmark (by decide)) hquoted)
      (append_plain (literal_plain hmark (by decide)) hvalue)

theorem whereSql_binds (hmark : mark ∈ ['?', 'z']) (h : sql.Binds mark pairs) :
    Lib.Binds mark (whereSql sql.clauses) pairs := by
  obtain ⟨groups, hgroups, rfl⟩ := h
  rw [whereSql]
  by_cases hempty : sql.clauses = []
  · rw [hempty] at hgroups
    cases hgroups
    rw [if_pos hempty]
    exact .plain occurrences_empty
  · rw [if_neg hempty]
    exact .plain_append (literal_plain hmark (by decide))
      (.intercalate (literal_plain hmark (by decide)) hgroups)

theorem limit_binds (limit : Int) :
    Lib.Binds '?' "LIMIT ?" [("LIMIT ?", (.int (limit + 1) : SqlValue Float))] :=
  .clause _ (occurrences_literal rfl)

theorem limit_plain : occurrences 'z' "LIMIT ?" = 0 := occurrences_literal rfl

end Parts

section Selects

variable {dimension : DimensionName} {measures : List MeasureName} {zoneJoin : Bool}
  {sql : FilterSql Float} {pairs last : List (String × SqlValue Float)}
  {spec : AggregateQuerySpec Float}

theorem joinsZone_of_requires (h : requiresZoneJoin spec.dimensions spec.filters = false) :
    (∀ dimension ∈ spec.dimensions, joinsZone dimension = false) ∧
      spec.filters.usesZoneJoin = false := by
  rw [requiresZoneJoin, Bool.or_eq_false_iff, List.any_eq_false] at h
  exact ⟨fun dimension hmem => Bool.not_eq_true _ |>.mp (h.1 dimension hmem), h.2⟩

theorem aggregate_binds (hmark : mark ∈ ['?', 'z'])
    (hzone : mark = 'z' → requiresZoneJoin spec.dimensions spec.filters = false)
    (horder : ∀ order, spec.orderBy = some order → order.key ∈ aggregateColumns spec)
    (hfilters : (compileFilters spec.filters).Binds mark pairs)
    (hlimit : Lib.Binds mark "LIMIT ?" last) :
    Lib.Binds mark (compileAggregateQuery spec).sql (pairs ++ last) := by
  have hdimension : ∀ dimension ∈ spec.dimensions, mark = 'z' → joinsZone dimension = false :=
    fun dimension hmem heq => (joinsZone_of_requires (hzone heq)).1 dimension hmem
  have hcolumns : ∀ key ∈ aggregateColumns spec, occurrences mark key = 0 := by
    intro key hkey
    rcases List.mem_append.mp hkey with hkey | hkey
    · obtain ⟨dimension, hmem, rfl⟩ := List.mem_map.mp hkey
      exact dimensionValue_plain hmark (hdimension dimension hmem)
    · obtain ⟨measure, _, rfl⟩ := List.mem_map.mp hkey
      exact measureValue_plain hmark measure
  have hselected : ∀ part ∈ spec.dimensions.map selectDimension ++ spec.measures.map selectMeasure,
      occurrences mark part = 0 := by
    intro part hpart
    rcases List.mem_append.mp hpart with hpart | hpart
    · obtain ⟨dimension, hmem, rfl⟩ := List.mem_map.mp hpart
      have hzone := hdimension dimension hmem
      exact alias_plain hmark (dimensionExpression_plain hmark hzone)
        (dimensionValue_plain hmark hzone)
    · exact selectMeasures_plain hmark spec.measures part hpart
  have hselect : occurrences mark ("SELECT " ++ ", ".intercalate
      (spec.dimensions.map selectDimension ++ spec.measures.map selectMeasure)) = 0 :=
    append_plain (literal_plain hmark (by decide))
      (intercalate_plain (literal_plain hmark (by decide)) hselected)
  have hgroup := groupSql_plain hmark spec.dimensions.length
  have hsep : occurrences mark " " = 0 := literal_plain hmark (by decide)
  have hall := Lib.Binds.intercalate_nonempty hsep
    (.cons (.plain hselect) (.cons (.plain (fromClause_plain hmark hzone))
      (.cons (whereSql_binds hmark hfilters) (.cons (.plain hgroup)
        (.cons (.plain (orderClause_plain hmark hcolumns horder)) (.cons hlimit .nil))))))
  have hflatten : [[], [], pairs, [], [], last].flatten = pairs ++ last := by simp
  rwa [hflatten] at hall

theorem dimensionValues_binds {search : Option String} {limit : Int} (hmark : mark ∈ ['?', 'z'])
    (hzone : mark = 'z' → joinsZone dimension = false)
    (hsearch : (searchSql dimension search : FilterSql Float).Binds mark pairs)
    (hlimit : Lib.Binds mark "LIMIT ?" last) :
    Lib.Binds mark (compileDimensionValuesQuery dimension search limit : CompiledQuery Float).sql
      (pairs ++ last) := by
  have hsep : occurrences mark " " = 0 := literal_plain hmark (by decide)
  have hselect : occurrences mark ("SELECT " ++ dimensionExpression dimension ++
      " AS \"value\", count(*)::BIGINT AS \"trip_count\"") = 0 :=
    append_plain
      (append_plain (literal_plain hmark (by decide)) (dimensionExpression_plain hmark hzone))
      (literal_plain hmark (by decide))
  have hgroup : occurrences mark "GROUP BY 1" = 0 := literal_plain hmark (by decide)
  have horder : occurrences mark "ORDER BY \"trip_count\" DESC, \"value\" ASC" = 0 :=
    literal_plain hmark (by decide)
  obtain ⟨groups, hgroups, rfl⟩ := hsearch
  have hsyntax : occurrences mark "WHERE " = 0 := literal_plain hmark (by decide)
  have hand : occurrences mark " AND " = 0 := literal_plain hmark (by decide)
  have hwhere := Lib.Binds.plain_append hsyntax (Lib.Binds.intercalate hand hgroups)
  have hall := Lib.Binds.intercalate hsep
    (.cons (.plain hselect) (.cons (.plain (fromClause_plain hmark hzone)) (.cons hwhere
      (.cons (.plain hgroup) (.cons (.plain horder) (.cons hlimit .nil))))))
  have hflatten : [[], [], groups.flatten, [], [], last].flatten = groups.flatten ++ last := by simp
  rwa [hflatten] at hall

theorem segmentCte_binds (hmark : mark ∈ ['?', 'z']) (hzone : mark = 'z' → zoneJoin = false)
    (hdimension : mark = 'z' → joinsZone dimension = false) (hfilters : sql.Binds mark pairs) :
    Lib.Binds mark (segmentCte dimension measures zoneJoin sql.clauses) pairs := by
  have hspace : occurrences mark " " = 0 := literal_plain hmark (by decide)
  have hexpression : occurrences mark ("SELECT " ++ dimensionExpression dimension ++
      " AS \"dim\", ") = 0 :=
    append_plain
      (append_plain (literal_plain hmark (by decide)) (dimensionExpression_plain hmark hdimension))
      (literal_plain hmark (by decide))
  have hmeasures : occurrences mark (", ".intercalate (measures.map selectMeasure)) = 0 :=
    intercalate_plain (literal_plain hmark (by decide)) (selectMeasures_plain hmark measures)
  have hselect := append_plain (append_plain (append_plain (append_plain hexpression hmeasures)
    hspace) (fromClause_plain hmark hzone)) hspace
  exact (Lib.Binds.plain_append hselect (whereSql_binds hmark hfilters)).append_plain
    (literal_plain hmark (by decide))

theorem wholeCte_binds (hmark : mark ∈ ['?', 'z']) (hzone : mark = 'z' → zoneJoin = false)
    (hfilters : sql.Binds mark pairs) :
    Lib.Binds mark (wholeCte measures zoneJoin sql.clauses) pairs := by
  have hspace : occurrences mark " " = 0 := literal_plain hmark (by decide)
  have hpopulation : occurrences mark "SELECT count(*)::BIGINT AS \"population\", " = 0 :=
    literal_plain hmark (by decide)
  have hmeasures : occurrences mark (", ".intercalate (measures.map selectMeasure)) = 0 :=
    intercalate_plain (literal_plain hmark (by decide)) (selectMeasures_plain hmark measures)
  have hselect := append_plain (append_plain (append_plain (append_plain hpopulation hmeasures)
    hspace) (fromClause_plain hmark hzone)) hspace
  exact Lib.Binds.plain_append hselect (whereSql_binds hmark hfilters)

def segmentsOuter (measures : List MeasureName) (orderMeasure : MeasureName) : String :=
  ") SELECT " ++ ", ".intercalate
    ("coalesce(b.\"dim\", c.\"dim\") AS \"dim\"" :: measures.flatMap comparedColumns) ++
  " FROM baseline AS b FULL OUTER JOIN comparison AS c " ++
  "ON b.\"dim\" IS NOT DISTINCT FROM c.\"dim\" " ++
  "ORDER BY (coalesce(b." ++ quoted orderMeasure.value ++ ", 0) + coalesce(c." ++
  quoted orderMeasure.value ++ ", 0)) DESC, \"dim\" ASC "

def wholeOuter (measures : List MeasureName) : String :=
  ") SELECT " ++ ", ".intercalate
    ("b.\"population\" AS \"baseline_population\"" ::
      "c.\"population\" AS \"comparison_population\"" :: measures.flatMap comparedColumns) ++
  " FROM baseline AS b CROSS JOIN comparison AS c"

theorem segmentsOuter_plain (hmark : mark ∈ ['?', 'z']) (orderMeasure : MeasureName) :
    occurrences mark (segmentsOuter measures orderMeasure) = 0 := by
  have hcolumns : occurrences mark (", ".intercalate
      ("coalesce(b.\"dim\", c.\"dim\") AS \"dim\"" :: measures.flatMap comparedColumns)) = 0 :=
    intercalate_plain (literal_plain hmark (by decide)) (List.forall_mem_cons.mpr
      ⟨literal_plain hmark (by decide), comparedColumns_plain hmark measures⟩)
  have hmeasure := quoted_plain hmark (measureValue_plain hmark orderMeasure)
  have hselect : occurrences mark ") SELECT " = 0 := literal_plain hmark (by decide)
  have hfrom : occurrences mark " FROM baseline AS b FULL OUTER JOIN comparison AS c " = 0 :=
    literal_plain hmark (by decide)
  have hon : occurrences mark "ON b.\"dim\" IS NOT DISTINCT FROM c.\"dim\" " = 0 :=
    literal_plain hmark (by decide)
  have horder : occurrences mark "ORDER BY (coalesce(b." = 0 := literal_plain hmark (by decide)
  have hplus : occurrences mark ", 0) + coalesce(c." = 0 := literal_plain hmark (by decide)
  have hascending : occurrences mark ", 0)) DESC, \"dim\" ASC " = 0 :=
    literal_plain hmark (by decide)
  have hjoin := append_plain (append_plain (append_plain hselect hcolumns) hfrom) hon
  exact append_plain (append_plain (append_plain (append_plain (append_plain hjoin horder) hmeasure)
    hplus) hmeasure) hascending

theorem wholeOuter_plain (hmark : mark ∈ ['?', 'z']) :
    occurrences mark (wholeOuter measures) = 0 := by
  have hcolumns : occurrences mark (", ".intercalate
      ("b.\"population\" AS \"baseline_population\"" ::
        "c.\"population\" AS \"comparison_population\"" :: measures.flatMap comparedColumns)) = 0 :=
    intercalate_plain (literal_plain hmark (by decide)) (List.forall_mem_cons.mpr
      ⟨literal_plain hmark (by decide), List.forall_mem_cons.mpr
        ⟨literal_plain hmark (by decide), comparedColumns_plain hmark measures⟩⟩)
  exact append_plain (append_plain (literal_plain hmark (by decide)) hcolumns)
    (literal_plain hmark (by decide))

end Selects

section Requests

inductive Request (Float : Type) where
  | aggregate (spec : AggregateQuerySpec Float)
  | dimensionValues (dimension : DimensionName) (search : Option String) (limit : Int)
  | bySegment (dimension : DimensionName) (measures : List MeasureName)
      (baseline comparison : TaxiFilters Float) (limit : Int)
  | wholeSegment (measures : List MeasureName) (baseline comparison : TaxiFilters Float)

namespace Request

inductive Accepted (lib : PyLibrary Float) : Request Float → Prop
  | aggregate {dimensions measures filters orderBy limit : PyValue Float}
      {spec : AggregateQuerySpec Float}
      (h : buildAggregateSpec lib dimensions measures filters orderBy limit = .ok spec) :
      Accepted lib (.aggregate spec)
  | dimensionValues {dimensionValue searchValue limitValue : PyValue Float}
      {dimension : DimensionName} {search : Option String} {limit : Int}
      (h : dimensionValuesArguments lib dimensionValue searchValue limitValue =
        .ok (dimension, search, limit)) :
      Accepted lib (.dimensionValues dimension search limit)
  | bySegment
      {dimensionValue measuresValue baselineValue comparisonValue limitValue : PyValue Float}
      {dimension : DimensionName} {measures : List MeasureName}
      {baseline comparison : TaxiFilters Float} {limit : Int}
      (hdimension : validateDimension lib dimensionValue = .ok dimension)
      (hmeasures : validateMeasures lib measuresValue = .ok measures)
      (hlimit : validateLimit limitValue = .ok limit)
      (hbaseline : validateFilters lib baselineValue = .ok baseline)
      (hcomparison : validateFilters lib comparisonValue = .ok comparison) :
      Accepted lib (.bySegment dimension measures baseline comparison limit)
  | wholeSegment {measuresValue baselineValue comparisonValue : PyValue Float}
      {measures : List MeasureName} {baseline comparison : TaxiFilters Float}
      (hmeasures : validateMeasures lib measuresValue = .ok measures)
      (hbaseline : validateFilters lib baselineValue = .ok baseline)
      (hcomparison : validateFilters lib comparisonValue = .ok comparison) :
      Accepted lib (.wholeSegment measures baseline comparison)

def compile : Request Float → Checked (CompiledQuery Float)
  | aggregate spec => pure (compileAggregateQuery spec)
  | dimensionValues dimension search limit =>
    pure (compileDimensionValuesQuery dimension search limit)
  | bySegment dimension measures baseline comparison limit =>
      compileCompareSegmentsQuery dimension measures baseline comparison limit
  | wholeSegment measures baseline comparison =>
      pure (compileCompareWholeSegmentsQuery measures baseline comparison)

def limitClause (limit : Int) : List (String × SqlValue Float) := [("LIMIT ?", .int (limit + 1))]

def searchClause (dimension : DimensionName) (search : Option String) :
    List (String × SqlValue Float) :=
  bound search ("lower(CAST(" ++ dimensionExpression dimension ++ " AS VARCHAR)) LIKE lower(?)")
    fun search => .text ("%" ++ search ++ "%")

def clauses : Request Float → List (String × SqlValue Float)
  | aggregate spec => boundClauses spec.filters ++ limitClause spec.limit
  | dimensionValues dimension search limit => searchClause dimension search ++ limitClause limit
  | bySegment _ _ baseline comparison limit =>
      boundClauses baseline ++ boundClauses comparison ++ limitClause limit
  | wholeSegment _ baseline comparison => boundClauses baseline ++ boundClauses comparison

/-- The requests differ in nothing but the values of their filters and their limits. -/
inductive SameShape : Request Float → Request Float → Prop
  | aggregate {spec spec' : AggregateQuerySpec Float}
      (hdimensions : spec.dimensions = spec'.dimensions)
      (hmeasures : spec.measures = spec'.measures) (horder : spec.orderBy = spec'.orderBy)
      (hfilters : SameFields spec.filters spec'.filters) :
      SameShape (.aggregate spec) (.aggregate spec')
  | dimensionValues {search search' : Option String} (dimension : DimensionName)
      (limit limit' : Int) (hsearch : search.isSome = search'.isSome) :
      SameShape (.dimensionValues dimension search limit)
        (.dimensionValues dimension search' limit')
  | bySegment {baseline baseline' comparison comparison' : TaxiFilters Float}
      (dimension : DimensionName) (measures : List MeasureName) (limit limit' : Int)
      (hbaseline : SameFields baseline baseline')
        (hcomparison : SameFields comparison comparison') :
      SameShape (.bySegment dimension measures baseline comparison limit)
        (.bySegment dimension measures baseline' comparison' limit')
  | wholeSegment {baseline baseline' comparison comparison' : TaxiFilters Float}
      (measures : List MeasureName) (hbaseline : SameFields baseline baseline')
      (hcomparison : SameFields comparison comparison') :
      SameShape (.wholeSegment measures baseline comparison)
        (.wholeSegment measures baseline' comparison')

end Request

def ZonesJoined (text : String) : Prop :=
  (Mentions text "pz." →
    Mentions text "LEFT JOIN taxi_zones AS pz ON t.PULocationID = pz.LocationID") ∧
  (Mentions text "dz." →
    Mentions text "LEFT JOIN taxi_zones AS dz ON t.DOLocationID = dz.LocationID")

/-- The text has the placeholders of these clauses in their order, and joins the zones it names. -/
structure WellFormed (text : String) (clauses : List (String × SqlValue Float)) : Prop where
  holdsInOrder : HoldsInOrder '?' text clauses
  zonesJoined : ZonesJoined text

def ComparesWellFormed (text : String) (baseline comparison last : List (String × SqlValue Float)) :
    Prop :=
  ∃ first second outer,
    text = "WITH baseline AS (" ++ first ++ "), comparison AS (" ++ second ++ outer ∧
      WellFormed first baseline ∧ WellFormed second comparison ∧ WellFormed outer last

def Request.WellFormed (text : String) : Request Float → Prop
  | aggregate spec => Dataset.WellFormed text (Request.aggregate spec).clauses
  | dimensionValues dimension search limit =>
      Dataset.WellFormed text (Request.dimensionValues dimension search limit :
        Request Float).clauses
  | bySegment _ _ baseline comparison limit =>
      ComparesWellFormed text (boundClauses baseline) (boundClauses comparison) (limitClause limit)
  | wholeSegment _ baseline comparison =>
      ComparesWellFormed text (boundClauses baseline) (boundClauses comparison) []

theorem zonesJoined_of_plain {text : String} (hplain : occurrences 'z' text = 0) :
    ZonesJoined text := by
  have hpickup : occurrences 'z' "pz." ≠ 0 := by decide
  have hdropoff : occurrences 'z' "dz." ≠ 0 := by decide
  exact ⟨fun h => absurd h (not_mentions hpickup hplain),
    fun h => absurd h (not_mentions hdropoff hplain)⟩

theorem letters_fromClause : (fromClause true).toList =
    "FROM trips AS t LEFT JOIN taxi_zones AS pz ON t.PULocationID = pz.LocationID ".toList ++
      "LEFT JOIN taxi_zones AS dz ON t.DOLocationID = dz.LocationID".toList := by
  rw [fromClause, if_pos rfl, String.toList_append]

theorem zonesJoined_of {text : String} {zoneJoin : Bool}
    (hplain : zoneJoin = false → occurrences 'z' text = 0)
    (hjoin : Mentions text (fromClause zoneJoin)) : ZonesJoined text := by
  cases zoneJoin with
  | false => exact zonesJoined_of_plain (hplain rfl)
  | true =>
      have hletters := letters_fromClause
      have hpickupJoin : Mentions (fromClause true)
          "LEFT JOIN taxi_zones AS pz ON t.PULocationID = pz.LocationID" := by
        refine ⟨"FROM trips AS t ", " LEFT JOIN taxi_zones AS dz ON t.DOLocationID = dz.LocationID",
          ?_⟩
        refine String.toList_inj.mp ?_
        rw [hletters, String.toList_append, String.toList_append]
        iterate 5 rw [String.toList_ofList]
        rfl
      have hdropoffJoin : Mentions (fromClause true)
          "LEFT JOIN taxi_zones AS dz ON t.DOLocationID = dz.LocationID" := by
        refine ⟨"FROM trips AS t LEFT JOIN taxi_zones AS pz ON t.PULocationID = pz.LocationID ", "",
          ?_⟩
        refine String.toList_inj.mp ?_
        rw [hletters, String.toList_append, String.toList_append, String.toList_empty,
          List.append_nil]
      exact ⟨fun _ => hjoin.trans hpickupJoin, fun _ => hjoin.trans hdropoffJoin⟩

section WellFormedQueries

variable {spec : AggregateQuerySpec Float} {dimension : DimensionName} {measures : List MeasureName}
  {zoneJoin : Bool}

theorem placeholder_ne {p : Prop} (h : '?' = 'z') : p := absurd h (by decide)

theorem aggregate_wellFormed
    (horder : ∀ order, spec.orderBy = some order → order.key ∈ aggregateColumns spec) :
    WellFormed (compileAggregateQuery spec).sql (Request.aggregate spec).clauses := by
  have hbinds := aggregate_binds (by decide) placeholder_ne horder compileFilters_binds
    (limit_binds spec.limit)
  have hplain : requiresZoneJoin spec.dimensions spec.filters = false →
      occurrences 'z' (compileAggregateQuery spec).sql = 0 := by
    intro h
    have hfilters := compileFilters_plain (joinsZone_of_requires h).2
    exact (aggregate_binds (by decide) (fun _ => h) horder hfilters
      (.plain limit_plain)).occurrences_eq
  have hne : fromClause (requiresZoneJoin spec.dimensions spec.filters) ≠ "" := by
    cases requiresZoneJoin spec.dimensions spec.filters <;> decide
  have hjoin : Mentions (compileAggregateQuery spec).sql
      (fromClause (requiresZoneJoin spec.dimensions spec.filters)) := by
    rw [compileAggregateQuery]
    dsimp only
    apply mentions_intercalate
    simp [hne]
  exact ⟨hbinds.holdsInOrder, zonesJoined_of hplain hjoin⟩

theorem searchRange_binds (hmark : mark ∈ ['?', 'z']) :
    FilterSql.Binds mark ({ clauses := ["t.tpep_pickup_datetime >= TIMESTAMP '2024-01-01'",
      "t.tpep_pickup_datetime < TIMESTAMP '2024-02-01'"] } : FilterSql Float) [] :=
  ⟨[[], []], .cons (.plain (literal_plain hmark (by decide)))
    (.cons (.plain (literal_plain hmark (by decide))) .nil), rfl⟩

theorem searchSql_binds (search : Option String) :
    (searchSql dimension search : FilterSql Float).Binds '?'
      (Request.searchClause dimension search) := by
  have hlike : occurrences '?'
      ("lower(CAST(" ++ dimensionExpression dimension ++ " AS VARCHAR)) LIKE lower(?)") = 1 := by
    have hexpression : occurrences '?' ("lower(CAST(" ++ dimensionExpression dimension) = 0 :=
      append_plain (occurrences_literal rfl) (dimensionExpression_plain (by decide) placeholder_ne)
    rw [occurrences_append, hexpression, Nat.zero_add]
    exact occurrences_literal rfl
  exact (searchRange_binds (by decide)).when hlike

theorem searchSql_plain (hzone : joinsZone dimension = false) (search : Option String) :
    (searchSql dimension search : FilterSql Float).Binds 'z' [] := by
  have hexpression : occurrences 'z' ("lower(CAST(" ++ dimensionExpression dimension) = 0 :=
    append_plain (occurrences_literal rfl) (dimensionExpression_plain (by decide) fun _ => hzone)
  exact (searchRange_binds (by decide)).when_plain
    (append_plain hexpression (occurrences_literal rfl))

theorem dimensionValues_wellFormed (search : Option String) (limit : Int) :
    WellFormed (compileDimensionValuesQuery dimension search limit : CompiledQuery Float).sql
      (Request.dimensionValues dimension search limit : Request Float).clauses := by
  have hbinds : Lib.Binds '?'
      (compileDimensionValuesQuery dimension search limit : CompiledQuery Float).sql
      (Request.searchClause dimension search ++ Request.limitClause limit :
        List (String × SqlValue Float)) :=
    dimensionValues_binds (by decide) placeholder_ne (searchSql_binds search) (limit_binds limit)
  have hplain : joinsZone dimension = false → occurrences 'z'
      (compileDimensionValuesQuery dimension search limit : CompiledQuery Float).sql = 0 := by
    intro h
    have hbinds : Lib.Binds 'z'
        (compileDimensionValuesQuery dimension search limit : CompiledQuery Float).sql
        ([] ++ [] : List (String × SqlValue Float)) :=
      dimensionValues_binds (by decide) (fun _ => h) (searchSql_plain h search) (.plain limit_plain)
    exact hbinds.occurrences_eq
  have hjoin : Mentions (compileDimensionValuesQuery dimension search limit :
    CompiledQuery Float).sql
      (fromClause (joinsZone dimension)) := by
    rw [compileDimensionValuesQuery]
    dsimp only
    apply mentions_intercalate
    simp
  exact ⟨hbinds.holdsInOrder, zonesJoined_of hplain hjoin⟩

theorem segmentCte_wellFormed {filters : TaxiFilters Float}
    (hdimension : zoneJoin = false → joinsZone dimension = false)
    (hfilters : zoneJoin = false → filters.usesZoneJoin = false) :
    WellFormed (segmentCte dimension measures zoneJoin (compileFilters filters).clauses)
      (boundClauses filters) := by
  have hbinds : Lib.Binds '?'
      (segmentCte dimension measures zoneJoin (compileFilters filters).clauses)
      (boundClauses filters) :=
    segmentCte_binds (by decide) placeholder_ne placeholder_ne compileFilters_binds
  have hplain : zoneJoin = false → occurrences 'z'
      (segmentCte dimension measures zoneJoin (compileFilters filters).clauses) = 0 := by
    intro h
    exact (segmentCte_binds (by decide) (fun _ => h) (fun _ => hdimension h)
      (compileFilters_plain (hfilters h))).occurrences_eq
  have hjoin : Mentions (segmentCte dimension measures zoneJoin (compileFilters filters).clauses)
      (fromClause zoneJoin) :=
    ((((Mentions.refl _).append_left _).append_right " ").append_right _).append_right _
  exact ⟨hbinds.holdsInOrder, zonesJoined_of hplain hjoin⟩

theorem wholeCte_wellFormed {filters : TaxiFilters Float}
    (hfilters : zoneJoin = false → filters.usesZoneJoin = false) :
    WellFormed (wholeCte measures zoneJoin (compileFilters filters).clauses)
      (boundClauses filters) := by
  have hbinds : Lib.Binds '?' (wholeCte measures zoneJoin (compileFilters filters).clauses)
      (boundClauses filters) :=
    wholeCte_binds (by decide) placeholder_ne compileFilters_binds
  have hplain : zoneJoin = false → occurrences 'z'
      (wholeCte measures zoneJoin (compileFilters filters).clauses) = 0 := by
    intro h
    exact (wholeCte_binds (by decide) (fun _ =>
      h) (compileFilters_plain (hfilters h))).occurrences_eq
  have hjoin : Mentions (wholeCte measures zoneJoin (compileFilters filters).clauses)
      (fromClause zoneJoin) :=
    (((Mentions.refl _).append_left _).append_right " ").append_right _
  exact ⟨hbinds.holdsInOrder, zonesJoined_of hplain hjoin⟩

theorem zoneJoin_of_segments {dimensions : List DimensionName}
    {baseline comparison : TaxiFilters Float}
    (h : segmentsZoneJoin dimensions baseline comparison = false) :
    dimensions.any joinsZone = false ∧ baseline.usesZoneJoin = false ∧
      comparison.usesZoneJoin = false := by
  simp only [segmentsZoneJoin, requiresZoneJoin, Bool.or_eq_false_iff] at h
  exact ⟨h.1.1, h.1.2, h.2.2⟩

theorem segments_sql (dimension : DimensionName) (orderMeasure : MeasureName)
    (measures : List MeasureName) (baseline comparison : TaxiFilters Float) (limit : Int) :
    ∃ query, compileCompareSegmentsQuery dimension (orderMeasure :: measures) baseline comparison
        limit = .ok query ∧
      query.parameters = (boundClauses baseline ++ boundClauses comparison ++
        Request.limitClause limit).map Prod.snd ∧
      query.sql = "WITH baseline AS (" ++
        segmentCte dimension (orderMeasure :: measures)
          (segmentsZoneJoin [dimension] baseline comparison) (compileFilters baseline).clauses ++
        "), comparison AS (" ++
        segmentCte dimension (orderMeasure :: measures)
          (segmentsZoneJoin [dimension] baseline comparison) (compileFilters comparison).clauses ++
        (segmentsOuter (orderMeasure :: measures) orderMeasure ++ "LIMIT ?") := by
  refine ⟨_, rfl, ?_, ?_⟩
  · rw [List.map_append, List.map_append, ← compileFilters_parameters, ← compileFilters_parameters]
    rfl
  · have hlimit : ", 0)) DESC, \"dim\" ASC LIMIT ?" = ", 0)) DESC, \"dim\" ASC " ++ "LIMIT ?" := rfl
    unfold segmentsOuter
    simp only [hlimit, String.append_assoc]

theorem segmentTables_wellFormed (dimension : DimensionName) (measures : List MeasureName)
    (baseline comparison : TaxiFilters Float) :
    WellFormed (segmentCte dimension measures (segmentsZoneJoin [dimension] baseline comparison)
        (compileFilters baseline).clauses) (boundClauses baseline) ∧
      WellFormed (segmentCte dimension measures (segmentsZoneJoin [dimension] baseline comparison)
        (compileFilters comparison).clauses) (boundClauses comparison) := by
  have hdimension : segmentsZoneJoin [dimension] baseline comparison = false →
      joinsZone dimension = false := by
    intro h
    simpa using (zoneJoin_of_segments h).1
  exact ⟨segmentCte_wellFormed hdimension fun h => (zoneJoin_of_segments h).2.1,
    segmentCte_wellFormed hdimension fun h => (zoneJoin_of_segments h).2.2⟩

theorem compared_binds {first second outer : String}
    {baseline comparison last : List (String × SqlValue Float)}
    (hfirst : Lib.Binds '?' first baseline)
    (hsecond : Lib.Binds '?' second comparison) (houter : Lib.Binds '?' outer last) :
    Lib.Binds '?' ("WITH baseline AS (" ++ first ++ "), comparison AS (" ++ second ++ outer)
      (baseline ++ comparison ++ last) := by
  have hwith : occurrences '?' "WITH baseline AS (" = 0 := occurrences_literal rfl
  have hnext : occurrences '?' "), comparison AS (" = 0 := occurrences_literal rfl
  exact (((Lib.Binds.plain_append hwith hfirst).append_plain hnext).append hsecond).append houter

theorem bySegment_wellFormed (dimension : DimensionName) {measures : List MeasureName}
    (hmeasures : measures ≠ []) (baseline comparison : TaxiFilters Float) (limit : Int) :
    ∃ query, compileCompareSegmentsQuery dimension measures baseline comparison limit = .ok query ∧
      query.parameters = (Request.bySegment dimension measures baseline comparison
      limit).clauses.map
        Prod.snd ∧
      HoldsInOrder '?' query.sql
        (Request.bySegment dimension measures baseline comparison limit).clauses ∧
      ComparesWellFormed query.sql (boundClauses baseline) (boundClauses comparison)
        (Request.limitClause limit) := by
  obtain ⟨orderMeasure, measures, rfl⟩ := List.exists_cons_of_ne_nil hmeasures
  obtain ⟨query, hquery, hparameters, hsql⟩ :=
    segments_sql dimension orderMeasure measures baseline comparison limit
  obtain ⟨hfirst, hsecond⟩ :=
    segmentTables_wellFormed dimension (orderMeasure :: measures) baseline comparison
  have houterPlain : occurrences '?' (segmentsOuter (orderMeasure :: measures) orderMeasure) = 0 :=
    segmentsOuter_plain (by decide) orderMeasure
  have houter : Lib.Binds '?' (segmentsOuter (orderMeasure :: measures) orderMeasure ++ "LIMIT ?")
      (Request.limitClause limit : List (String × SqlValue Float)) :=
    .plain_append houterPlain (limit_binds limit)
  have houterZones : occurrences 'z'
      (segmentsOuter (orderMeasure :: measures) orderMeasure ++ "LIMIT ?") = 0 :=
    append_plain (segmentsOuter_plain (by decide) orderMeasure) limit_plain
  refine ⟨query, hquery, hparameters, ?_, _, _, _, hsql, hfirst, hsecond, houter.holdsInOrder,
    zonesJoined_of_plain houterZones⟩
  rw [hsql]
  exact (compared_binds (segmentCte_binds (by decide) placeholder_ne placeholder_ne
    compileFilters_binds) (segmentCte_binds (by decide) placeholder_ne placeholder_ne
    compileFilters_binds) houter).holdsInOrder

theorem whole_sql (measures : List MeasureName) (baseline comparison : TaxiFilters Float) :
    (compileCompareWholeSegmentsQuery measures baseline comparison).sql = "WITH baseline AS (" ++
      wholeCte measures (segmentsZoneJoin [] baseline comparison)
      (compileFilters baseline).clauses ++
      "), comparison AS (" ++
      wholeCte measures (segmentsZoneJoin [] baseline comparison)
      (compileFilters comparison).clauses ++
      wholeOuter measures := by
  unfold compileCompareWholeSegmentsQuery wholeOuter
  simp only [String.append_assoc]

theorem wholeSegment_wellFormed (measures : List MeasureName)
    (baseline comparison : TaxiFilters Float) :
    (compileCompareWholeSegmentsQuery measures baseline comparison).parameters =
        (Request.wholeSegment measures baseline comparison).clauses.map Prod.snd ∧
      HoldsInOrder '?' (compileCompareWholeSegmentsQuery measures baseline comparison).sql
        (Request.wholeSegment measures baseline comparison).clauses ∧
      ComparesWellFormed (compileCompareWholeSegmentsQuery measures baseline comparison).sql
        (boundClauses baseline) (boundClauses comparison) [] := by
  have hparameters : (compileCompareWholeSegmentsQuery measures baseline comparison).parameters =
      (boundClauses baseline ++ boundClauses comparison).map Prod.snd := by
    rw [List.map_append, ← compileFilters_parameters, ← compileFilters_parameters]
    rfl
  have hfirst : WellFormed (wholeCte measures (segmentsZoneJoin [] baseline comparison)
      (compileFilters baseline).clauses) (boundClauses baseline) :=
    wholeCte_wellFormed fun h => (zoneJoin_of_segments h).2.1
  have hsecond : WellFormed (wholeCte measures (segmentsZoneJoin [] baseline comparison)
      (compileFilters comparison).clauses) (boundClauses comparison) :=
    wholeCte_wellFormed fun h => (zoneJoin_of_segments h).2.2
  have houterPlain : occurrences '?' (wholeOuter measures) = 0 := wholeOuter_plain (by decide)
  have houterZones : occurrences 'z' (wholeOuter measures) = 0 := wholeOuter_plain (by decide)
  have houter : Lib.Binds '?' (wholeOuter measures) ([] : List (String × SqlValue Float)) :=
    .plain houterPlain
  refine ⟨hparameters, ?_, _, _, _, whole_sql measures baseline comparison, hfirst, hsecond,
    houter.holdsInOrder, zonesJoined_of_plain houterZones⟩
  have hfirstBinds : Lib.Binds '?' (wholeCte measures (segmentsZoneJoin [] baseline comparison)
      (compileFilters baseline).clauses) (boundClauses baseline) :=
    wholeCte_binds (by decide) placeholder_ne compileFilters_binds
  have hsecondBinds : Lib.Binds '?' (wholeCte measures (segmentsZoneJoin [] baseline comparison)
      (compileFilters comparison).clauses) (boundClauses comparison) :=
    wholeCte_binds (by decide) placeholder_ne compileFilters_binds
  have hall := compared_binds hfirstBinds hsecondBinds houter
  rw [List.append_nil, ← whole_sql] at hall
  exact hall.holdsInOrder

end WellFormedQueries

section Shapes

theorem SameFields.requiresZoneJoin {filters filters' : TaxiFilters Float}
    (h : SameFields filters filters') (dimensions : List DimensionName) :
    requiresZoneJoin dimensions filters = requiresZoneJoin dimensions filters' := by
  rw [Dataset.requiresZoneJoin, Dataset.requiresZoneJoin, h.usesZoneJoin]

theorem SameFields.segmentsZoneJoin {baseline baseline' comparison comparison' : TaxiFilters Float}
    (hbaseline : SameFields baseline baseline') (hcomparison : SameFields comparison comparison')
    (dimensions : List DimensionName) :
    segmentsZoneJoin dimensions baseline comparison =
      segmentsZoneJoin dimensions baseline' comparison' := by
  rw [Dataset.segmentsZoneJoin, Dataset.segmentsZoneJoin, hbaseline.requiresZoneJoin,
    hcomparison.requiresZoneJoin]

theorem Request.SameShape.sql_eq {request request' : Request Float}
    {query query' : CompiledQuery Float} (h : request.SameShape request')
    (hquery : request.compile = .ok query)
    (hquery' : request'.compile = .ok query') : query'.sql = query.sql := by
  cases h with
  | @aggregate spec spec' hdimensions hmeasures horder hfilters =>
      cases hquery
      cases hquery'
      have hclauses := hfilters.clauses
      have hzone := hfilters.requiresZoneJoin spec.dimensions
      simp only [compileAggregateQuery, aggregateColumns, ← hdimensions, ← hmeasures, ← horder,
        hzone, hclauses]
  | @dimensionValues search search' dimension limit limit' hsearch =>
      cases hquery
      cases hquery'
      have hclauses : (searchSql dimension search : FilterSql Float).clauses =
          (searchSql dimension search' : FilterSql Float).clauses :=
        FilterSql.when_clauses_congr rfl hsearch
      simp only [compileDimensionValuesQuery, hclauses]
  | bySegment dimension measures limit limit' hbaseline hcomparison =>
      cases measures with
      | nil => cases hquery
      | cons orderMeasure measures =>
          cases hquery
          cases hquery'
          simp only [hbaseline.clauses, hcomparison.clauses,
            hbaseline.segmentsZoneJoin hcomparison [dimension]]
  | wholeSegment measures hbaseline hcomparison =>
      cases hquery
      cases hquery'
      rw [whole_sql, whole_sql, hbaseline.clauses, hcomparison.clauses,
        hbaseline.segmentsZoneJoin hcomparison []]

end Shapes

section AcceptedPayloads

variable {lib : PyLibrary Float}

/-- An accepted request compiles. Its parameters are the values of its clauses, its placeholders
stand in these clauses in order, and requests of its shape have its text. -/
theorem compiled_query_aligned {request : Request Float} (h : request.Accepted lib) :
    ∃ query, request.compile = .ok query ∧
      query.parameters = request.clauses.map Prod.snd ∧
      occurrences '?' query.sql = query.parameters.length ∧
      HoldsInOrder '?' query.sql request.clauses ∧ request.WellFormed query.sql ∧
      ∀ request' query', request'.Accepted lib → request.SameShape request' →
        request'.compile = .ok query' → query'.sql = query.sql := by
  obtain ⟨query, hquery, hparameters, horder, hwell⟩ : ∃ query, request.compile = .ok query ∧
      query.parameters = request.clauses.map Prod.snd ∧
      HoldsInOrder '?' query.sql request.clauses ∧ request.WellFormed query.sql := by
    cases h with
    | @aggregate _ _ _ _ _ spec hspec =>
        have hwell := aggregate_wellFormed (order_of_buildAggregateSpec hspec)
        refine ⟨_, rfl, ?_, hwell.holdsInOrder, hwell⟩
        rw [Request.clauses, List.map_append, ← compileFilters_parameters]
        rfl
    | @dimensionValues _ _ _ dimension search limit _ =>
        have hwell : WellFormed
            (compileDimensionValuesQuery dimension search limit : CompiledQuery Float).sql
            (Request.dimensionValues dimension search limit : Request Float).clauses :=
          dimensionValues_wellFormed search limit
        refine ⟨_, rfl, ?_, hwell.holdsInOrder, hwell⟩
        rw [Request.clauses, List.map_append,
          Request.searchClause, ← List.nil_append (List.map _ _),
          compileDimensionValuesQuery, searchSql, FilterSql.when_parameters]
        rfl
    | bySegment _ hmeasures _ _ _ =>
        exact bySegment_wellFormed _ (names_of_validateNames hmeasures).1 _ _ _
    | wholeSegment _ _ _ =>
        obtain ⟨hparameters, horder, hwell⟩ := wholeSegment_wellFormed _ _ _
        exact ⟨_, rfl, hparameters, horder, hwell⟩
  refine ⟨query, hquery, hparameters, ?_, horder, hwell, ?_⟩
  · rw [horder.count, hparameters, List.length_map]
  · intro request' query' _ hshape hquery'
    exact hshape.sql_eq hquery hquery'

def vendorTrips (validRecordsOnly : Bool) : AggregateQuerySpec Int :=
  { dimensions := [.pickupZone], measures := [.tripCount]
    filters := { vendor := some 1, validRecordsOnly }, orderBy := none, limit := 5 }

theorem vendorTrips_accepted (validRecordsOnly : Bool) :
    Request.Accepted App.Validation.sampleLibrary (.aggregate (vendorTrips validRecordsOnly)) := by
  have hspec : buildAggregateSpec App.Validation.sampleLibrary (.list [.str "pickup_zone"])
      (.list [.str "trip_count"])
      (.dict [("vendor", .int 1), ("valid_records_only", .bool validRecordsOnly)]) .none (.int 5) =
        .ok (vendorTrips validRecordsOnly) := by cases validRecordsOnly <;> rfl
  exact .aggregate hspec

theorem compiled_query_aligned_vendor :
    ∃ query, (Request.aggregate (vendorTrips true)).compile = .ok query ∧
      query.parameters = [.int 1, .int 6] ∧ occurrences '?' query.sql = 2 := by
  obtain ⟨query, hquery, hparameters, hcount, -⟩ :=
    compiled_query_aligned (vendorTrips_accepted true)
  have hvalues : query.parameters = [.int 1, .int 6] := hparameters
  exact ⟨query, hquery, hvalues, by rw [hcount, hvalues]; rfl⟩

/-- The demand for valid records is a filter whose value is written into the text. -/
theorem validity_changes_text :
    Request.Accepted App.Validation.sampleLibrary (.aggregate (vendorTrips true)) ∧
      Request.Accepted App.Validation.sampleLibrary (.aggregate (vendorTrips false)) ∧
      (∀ field, (vendorTrips true).filters.given field = (vendorTrips false).filters.given field) ∧
      (vendorTrips true).filters.pickupWeekPart = (vendorTrips false).filters.pickupWeekPart ∧
      (compileAggregateQuery (vendorTrips true)).sql ≠
        (compileAggregateQuery (vendorTrips false)).sql := by
  refine ⟨vendorTrips_accepted true, vendorTrips_accepted false, ?_, rfl, ?_⟩
  · intro field
    cases field <;> rfl
  · decide +kernel

end AcceptedPayloads

end Requests

end AiAnalytics.Dataset
