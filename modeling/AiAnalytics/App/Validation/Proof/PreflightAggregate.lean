import AiAnalytics.App.Validation.Proof.FieldChecks
import AiAnalytics.Mcp.Server

/-!
# The preflight of an aggregation

An aggregation that the preflight passes is one whose specification the server builds, except where
the two validators differ: the number of columns together, a sort key that is not among the columns
asked for, a null for `valid_records_only` and a number too large for a float.
-/

namespace AiAnalytics.App.Validation

open Lib Dataset
open Loop (Dict PyFault)

variable {Float : Type} {lib : PyLibrary Float} {arguments schema : PyValue Float}
  {args : Dict Float} {key name : String}

section Arguments

theorem not_noTool : ∀ name ∈ governedTools, ¬ (name ∈ nonToolOutcomes ∨ name = "") := by decide

theorem arguments_of_validateProposal {executed most : Nat} (hname : name ∈ governedTools)
    (h : validateProposal lib name arguments schema executed most = .ok {}) :
    ∃ args, givenArguments name arguments = .dict args ∧
      validateArguments lib name args schema = .ok [] := by
  rw [validateProposal, if_neg (not_noTool name hname), if_neg (not_not.mpr hname)] at h
  split_ifs at h with hmost
  · cases h
  · split at h
    · next args hargs =>
        refine ⟨args, hargs, ?_⟩
        obtain ⟨violations, hviolations, hresult⟩ := bind_eq_ok_iff.mp h
        cases hresult
        exact hviolations
    · cases h

theorem givenArguments_eq_dict
    (hname : ¬ (name = "average_trip_metrics" ∨ name = "describe_taxi_dataset"))
    (h : givenArguments name arguments = .dict args) : arguments = .dict args := by
  cases arguments with
  | none => simp [givenArguments, hname] at h
  | _ => exact h

theorem given_of_checkKeys {allowed required : List String}
    (h : checkKeys lib args allowed required = []) (hkey : key ∈ required) :
    ∃ value, args.lookup key = some value := by
  rw [← Option.isSome_iff_exists, List.lookup_isSome_iff]
  obtain ⟨-, hmissing⟩ := List.append_eq_nil_iff.mp h
  by_contra hnot
  have hmem : key ∈ sortedTexts (required.filter (· ∉ args.map Prod.fst)) := by
    rw [sortedTexts, List.mem_insertionSort, List.mem_filter]
    refine ⟨hkey, ?_⟩
    rw [decide_eq_true_iff, List.mem_map]
    rintro ⟨entry, hentry, rfl⟩
    exact hnot ⟨entry, hentry, beq_self_eq_true _⟩
  exact violation_ne_nil _ _ (List.flatMap_eq_nil_iff.mp hmissing key hmem)

theorem entry_of_lookup {value default : PyValue Float} (h : args.lookup key = some value) :
    (PyValue.dict args).entry key default = value := by
  rw [PyValue.entry, h]
  rfl

theorem validateLimit_of_checkLimit (h : checkLimit args = []) :
    ∃ limit, validateLimit ((PyValue.dict args).entry "limit" (.int 20)) = .ok limit := by
  cases hlimit : args.lookup "limit" with
  | none => exact ⟨20, by rw [PyValue.entry, hlimit]; rfl⟩
  | some value =>
      rw [checkLimit, hlimit] at h
      rw [entry_of_lookup hlimit]
      cases value with
      | int limit =>
          have hbounds : 1 ≤ limit ∧ limit ≤ 64 := by
            by_contra hnot
            exact violation_ne_nil _ _ ((if_neg hnot).symm.trans h)
          exact ⟨limit, if_pos hbounds⟩
      | _ => exact absurd h (violation_ne_nil _ _)

theorem dimensions_of_checkNames (lib : PyLibrary Float)
    (hgiven : ∃ value, args.lookup "dimensions" = some value)
    (h : checkNames args "dimensions" dimensions "unknown_dimension" = []) :
    ∃ names : List DimensionName,
      (PyValue.dict args).entry "dimensions" .none = .list (names.map fun name => .str name.value) ∧
      validateDimensions lib ((PyValue.dict args).entry "dimensions" .none) = .ok names := by
  obtain ⟨value, hvalue⟩ := hgiven
  rw [checkNames, hvalue] at h
  have hpassed : checkNameList (DimensionName.all.map DimensionName.value) "dimensions"
    "unknown_dimension" value = [] := h
  obtain ⟨names, rfl, hne, hlength, hnodup⟩ := names_of_checkNameList hpassed
  rw [entry_of_lookup hvalue]
  refine ⟨names, rfl, ?_⟩
  exact validateNames_eq_ok (validateName_value find_dimension) hne hlength hnodup

theorem measures_of_checkNames (lib : PyLibrary Float)
    (hgiven : ∃ value, args.lookup "measures" = some value)
    (h : checkNames args "measures" measures "unknown_measure" = []) :
    ∃ names : List MeasureName,
      (PyValue.dict args).entry "measures" .none = .list (names.map fun name => .str name.value) ∧
      names ≠ [] ∧ validateMeasures lib ((PyValue.dict args).entry "measures" .none) = .ok
      names := by
  obtain ⟨value, hvalue⟩ := hgiven
  rw [checkNames, hvalue] at h
  have hpassed : checkNameList (MeasureName.all.map MeasureName.value) "measures" "unknown_measure"
    value = [] := h
  obtain ⟨names, rfl, hne, hlength, hnodup⟩ := names_of_checkNameList hpassed
  rw [entry_of_lookup hvalue]
  refine ⟨names, rfl, hne, ?_⟩
  exact validateNames_eq_ok (validateName_value find_measure) hne hlength hnodup

end Arguments

section OrderBy

theorem accepts_orderBy_iff (lib : PyLibrary Float) {orderBy : PyValue Float}
    (allowed : List String) (h : checkOrderBy orderBy = []) :
    Accepts (validateOrderBy lib allowed orderBy) ↔
      orderBy = .none ∨ ∃ key ∈ allowed, orderBy.entry "key" .none = .str key := by
  cases orderBy with
  | none => exact iff_of_true (accepts_ok _) (.inl rfl)
  | dict entries =>
      rw [checkOrderBy, List.append_eq_nil_iff, List.append_eq_nil_iff] at h
      obtain ⟨⟨hnames, hdirection⟩, hkey⟩ := h
      have hknown : ¬ unknownKeys entries ["key", "direction"] ≠ [] := by
        intro hunknown
        rw [if_pos hunknown] at hnames
        exact violation_ne_nil _ _ hnames
      rw [validateOrderBy, if_neg hknown]
      cases hentry : (PyValue.dict entries).entry "key" .none with
      | str key =>
          have hright : (PyValue.dict entries = .none ∨
              ∃ key' ∈ allowed, (PyValue.str key : PyValue Float) = .str key') ↔ key ∈ allowed := by
            simp
          rw [hright]
          by_cases hallowed : key ∈ allowed
          · refine iff_of_true ?_ hallowed
            have hasked : ∃ direction ∈ ["asc", "desc"],
                (PyValue.dict entries).entry "direction" (.str "desc") = .str direction := by
              by_contra hnone
              have hbad : ¬ (((PyValue.dict entries).entry "direction" (.str "desc")).eqStr "asc" ||
                  ((PyValue.dict entries).entry "direction" (.str "desc")).eqStr "desc") =
                    true := by
                intro hgood
                cases hvalue : (PyValue.dict entries).entry "direction" (.str "desc") with
                | str direction =>
                    rw [hvalue] at hgood hnone
                    simp only [PyValue.eqStr, Bool.or_eq_true, decide_eq_true_iff] at hgood
                    exact hnone ⟨direction, by simpa using hgood, rfl⟩
                | _ => rw [hvalue] at hgood; cases hgood
              simp only [if_neg hbad] at hdirection
              exact violation_ne_nil _ _ hdirection
            obtain ⟨direction, hdirections, hvalue⟩ := hasked
            simp only [not_not.mpr hallowed, if_false, hvalue, hdirections, if_true]
            exact accepts_pure _
          · refine iff_of_false ?_ hallowed
            simp only [hallowed, not_false_eq_true, if_true]
            exact not_accepts_error _
      | _ =>
          rw [hentry] at hkey
          exact absurd hkey (violation_ne_nil _ _)
  | _ => exact absurd h (violation_ne_nil _ _)

end OrderBy

section Aggregate

/-- What the server asks of an aggregation beyond the preflight. -/
structure AggregateFits (lib : PyLibrary Float) (arguments : PyValue Float) : Prop where
  columns : (arguments.entry "dimensions" .none).elements.length +
    (arguments.entry "measures" .none).elements.length ≤ 16
  sorted : arguments.entry "order_by" .none = .none ∨
    (arguments.entry "order_by" .none).entry "key" .none ∈
      (arguments.entry "dimensions" .none).elements ++ (arguments.entry "measures" .none).elements
  numbers : NumbersFit lib (arguments.entry "filters" .none)
  validity : SaysValidity (arguments.entry "filters" .none)

theorem aggregateFits_iff : AggregateFits lib arguments ↔
    ((arguments.entry "dimensions" .none).elements.length +
      (arguments.entry "measures" .none).elements.length ≤ 16) ∧
    (NumbersFit lib (arguments.entry "filters" .none) ∧
      SaysValidity (arguments.entry "filters" .none)) ∧
    (arguments.entry "order_by" .none = .none ∨
      (arguments.entry "order_by" .none).entry "key" .none ∈
        (arguments.entry "dimensions" .none).elements ++
          (arguments.entry "measures" .none).elements) :=
  ⟨fun h => ⟨h.columns, ⟨h.numbers, h.validity⟩, h.sorted⟩, fun h => ⟨h.1, h.2.2, h.2.1.1, h.2.1.2⟩⟩

theorem accepts_columnBudget_iff (dims : List DimensionName) (meas : List MeasureName) :
    Accepts (validateColumnBudget dims meas) ↔ dims.length + meas.length ≤ 16 := by
  rw [validateColumnBudget]
  split_ifs with hmany
  · exact iff_of_false (not_accepts_error _) (not_le.mpr hmany)
  · exact iff_of_true (accepts_pure _) (not_lt.mp hmany)

/-- **Preflight of aggregations.** The server builds the specification of a call that the preflight
passes if and only if its columns are at most sixteen, its sort key is one of them, its numbers fit
into floats and `valid_records_only` is not null. -/
theorem preflight_aggregate_sound_iff {executed most : Nat}
    (h : validateProposal lib "aggregate_taxi_data" arguments schema executed most = .ok {}) :
    Accepts (Mcp.aggregateSpec lib arguments) ↔ AggregateFits lib arguments := by
  obtain ⟨args, hargs, hvalid⟩ := arguments_of_validateProposal (by decide) h
  obtain rfl := givenArguments_eq_dict (by decide) hargs
  have haggregate : validateAggregate lib args schema = .ok [] := hvalid
  rw [validateAggregate, bind_eq_ok_iff] at haggregate
  obtain ⟨filters, hfilters, hresult⟩ := haggregate
  have hall := Except.ok.inj hresult
  simp only [List.append_eq_nil_iff] at hall
  obtain ⟨⟨⟨⟨⟨hkeys, hdimensions⟩, hmeasures⟩, rfl⟩, horderBy⟩, hlimit⟩ := hall
  obtain ⟨dims, hdims, hdims'⟩ :=
    dimensions_of_checkNames lib (given_of_checkKeys hkeys (by decide)) hdimensions
  obtain ⟨meas, hmeas, -, hmeas'⟩ :=
    measures_of_checkNames lib (given_of_checkKeys hkeys (by decide)) hmeasures
  obtain ⟨limit, hlimit'⟩ := validateLimit_of_checkLimit hlimit
  have hfilters' := (validateFilters_spec (filtersPass_of_checkFilters hfilters)).1
  have hsort := accepts_orderBy_iff lib
    (dims.map DimensionName.value ++ meas.map MeasureName.value) horderBy
  have hkey (value : PyValue Float) : (∃ key ∈ dims.map DimensionName.value ++
      meas.map MeasureName.value, value = .str key) ↔
      value ∈ dims.map (fun name => .str name.value) ++ meas.map fun name => .str name.value := by
    constructor
    · rintro ⟨key, hmem, rfl⟩
      simpa using hmem
    · intro hmem
      simp only [List.mem_append, List.mem_map] at hmem
      rcases hmem with ⟨name, hname, rfl⟩ | ⟨name, hname, rfl⟩
      · exact ⟨name.value, List.mem_append_left _ (List.mem_map_of_mem hname), rfl⟩
      · exact ⟨name.value, List.mem_append_right _ (List.mem_map_of_mem hname), rfl⟩
  have hlast (filters : TaxiFilters Float) (orderBy : Option OrderSpec) :
      Accepts (do
        let limit ← validateLimit ((PyValue.dict args).entry "limit" (.int 20))
        pure ({ dimensions := dims, measures := meas, filters, orderBy, limit } :
          AggregateQuerySpec Float)) :=
    accepts_bind_pure.mpr ⟨limit, hlimit'⟩
  -- after the two lists, each check accepts or not whatever the earlier ones return
  rw [Mcp.aggregateSpec, buildAggregateSpec, accepts_bind_of_ok hdims', accepts_bind_of_ok hmeas']
  refine (accepts_bind fun _ _ => accepts_bind fun filters _ => accepts_bind fun orderBy _ =>
    iff_true_intro (hlast filters orderBy)).trans ?_
  rw [accepts_columnBudget_iff, hfilters', hsort, and_true, aggregateFits_iff, hkey, hdims, hmeas]
  simp only [PyValue.elements, List.length_map]

def hourlyTrips (sortKey : String) : PyValue Int :=
  .dict [("dimensions", .list [.str "pickup_hour"]), ("measures", .list [.str "trip_count"]),
    ("order_by", .dict [("key", .str sortKey)])]

theorem preflight_aggregate_sound_iff_hourly :
    Accepts (Mcp.aggregateSpec sampleLibrary (hourlyTrips "trip_count")) ↔
      AggregateFits sampleLibrary (hourlyTrips "trip_count") := by
  have hpassed : validateProposal sampleLibrary "aggregate_taxi_data" (hourlyTrips "trip_count")
      .none 0 1 = .ok {} := rfl
  exact preflight_aggregate_sound_iff hpassed

/-- The preflight passes a sort key that is a measure but not one of those asked for. -/
theorem unrequested_sort_key_refused :
    validateProposal sampleLibrary "aggregate_taxi_data" (hourlyTrips "trip_share") .none 0 1 = .ok
      {} ∧ Mcp.aggregateSpec sampleLibrary (hourlyTrips "trip_share") =
        fail "invalid_order_by" "order_by.key must be one of the requested output columns" :=
  ⟨rfl, rfl⟩

end Aggregate

end AiAnalytics.App.Validation
