import AiAnalytics.App.McpClient.Proof.Sanitizing
import AiAnalytics.App.Validation.Proof.FieldChecks
import AiAnalytics.Dataset.Proof.AcceptedSpecs
import AiAnalytics.Mcp.Server

/-!
# Which envelopes survive the sanitizer

The envelopes of dimension values and of aggregates always do. A comparison does as long as the
labels of its sides are short enough and no difference in the rows that fit is an infinite number.
-/

namespace AiAnalytics.App.McpClient

open Lib Dataset

variable {Float : Type} {lib : PyLibrary Float} {db : Dataset.Database Float}
  {envelope full : Envelope Float}

section Cutting

theorem WellShaped.firstRows (h : WellShaped full) {count : Nat}
    (hcount : count ≤ full.rows.length) : WellShaped (full.firstRows count) where
  columns_pos := by simpa using h.columns_pos
  columns_le := by simpa using h.columns_le
  column := by simpa using h.column
  rows_le := by
    have hrows := h.rows_le
    rw [Envelope.firstRows_rows, List.length_take]
    omega
  rowCount := Envelope.firstRows_rowCount h.rowCount hcount
  width := by
    intro row hrow
    rw [Envelope.firstRows_rows] at hrow
    rw [Envelope.firstRows_columns]
    exact h.width row (List.mem_of_mem_take hrow)
  cell := by
    intro row hrow
    rw [Envelope.firstRows_rows] at hrow
    exact h.cell row (List.mem_of_mem_take hrow)
  queryId := by simpa using h.queryId
  keys := by simpa using h.keys
  extras := by simpa using h.extras

theorem survives_fitRows_iff (hshape : WellShaped full)
    (h : fitRows lib maxQueryResultBytes full = .ok envelope) :
    Survives lib envelope ↔
      (∀ i row, full.rows[i]? = some row → KeepsRow lib maxQueryResultBytes full i →
        ∀ cell ∈ row, FiniteCell lib cell) ∧
      ∀ key text, (key, .str text) ∈ full.extra → text.length ≤ 512 := by
  obtain ⟨kept, hkept, rfl, hfits, hkeeps⟩ := fitRows_spec h
  rw [survives_iff (hshape.firstRows hkept) hfits]
  constructor
  · rintro ⟨hfinite, hshort⟩
    rw [Envelope.firstRows_extra] at hshort
    refine ⟨?_, hshort⟩
    intro i row hrow hstays
    have hmem : row ∈ (full.firstRows kept).rows := by
      rw [Envelope.firstRows_rows]
      apply List.mem_of_getElem?
      rw [List.getElem?_take_of_lt ((hkeeps i).mp hstays), hrow]
    exact hfinite row hmem
  · rintro ⟨hfinite, hshort⟩
    refine ⟨?_, by rwa [Envelope.firstRows_extra]⟩
    intro row hmem
    rw [Envelope.firstRows_rows] at hmem
    obtain ⟨i, hi⟩ := List.mem_iff_getElem?.mp hmem
    have hlt : i < kept := by
      have hlength := (List.getElem?_eq_some_iff.mp hi).1
      rw [List.length_take] at hlength
      omega
    rw [List.getElem?_take_of_lt hlt] at hi
    exact hfinite i row hi ((hkeeps i).mpr hlt)

def GoodExtra (entry : String × PyValue Float) : Prop :=
  KnownExtra entry ∧ ∀ key text, entry = (key, .str text) → text.length ≤ 512

theorem survives_of_ran {query : CompiledQuery Float} {limit : Int} {joined : Envelope Float}
    {extra : List (String × PyValue Float)} (hran : Ran lib query limit joined)
    (hlimit : limit ≤ maxRows)
    (hcolumns : 1 ≤ query.outputColumns.length ∧ query.outputColumns.length ≤ 16)
    (hcolumn : ∀ column ∈ query.outputColumns, column ≠ "" ∧ column.length ≤ 128)
    (hkeys : (extra.map Prod.fst).Nodup) (hextras : ∀ entry ∈ extra, GoodExtra entry)
    (h : augmentEnvelope lib joined maxResultBytes extra = .ok envelope) :
    Survives lib envelope := by
  have hshape : WellShaped { joined with extra := joined.extra ++ extra } := by
    have hrows := hran.rows_le
    have hmost : maxRows = 64 := rfl
    refine ⟨?_, ?_, ?_, ?_, hran.rowCount, ?_, ?_, hran.queryId, ?_, ?_⟩
    · rw [hran.columns]
      exact hcolumns.1
    · rw [hran.columns]
      exact hcolumns.2
    · rw [hran.columns]
      exact hcolumn
    · show joined.rows.length ≤ 64
      omega
    · intro row hrow
      rw [hran.width row hrow, hran.columns]
    · exact fun row hrow cell hcell => (hran.cell row hrow cell hcell).1
    · rw [hran.extra]
      exact hkeys
    · rw [hran.extra]
      exact fun entry hentry => (hextras entry hentry).1
  refine (survives_fitRows_iff hshape h).mpr ⟨?_, ?_⟩
  · intro i row hrow _ cell hcell
    exact (hran.cell row (List.mem_of_getElem? hrow) cell hcell).2
  · rw [hran.extra]
    exact fun key text hentry => (hextras _ hentry).2 key text rfl

end Cutting

section Simple

theorem checked_eq_ok_iff {α : Type} {x : Checked α} {a : α} : checked x = .ok a ↔ x = .ok a := by
  cases x with
  | error error => exact ⟨nofun, nofun⟩
  | ok value => exact ⟨fun h => by cases h; rfl, fun h => by cases h; rfl⟩

variable {dimensions : List DimensionName} {measures : List MeasureName}

theorem goodExtra_text {key text : String} (hkey : key ∈ stringExtras) (hne : text ≠ "")
    (hlength : text.length ≤ 512) : GoodExtra ((key, .str text) : String × PyValue Float) := by
  refine ⟨.text hkey hne, ?_⟩
  rintro _ _ ⟨⟩
  exact hlength

theorem goodExtra_texts {key : String} {texts : List String} (hkey : key ∈ listExtras)
    (hlength : texts.length ≤ 16) (htexts : ∀ text ∈ texts, text ≠ "" ∧ text.length ≤ 64) :
    GoodExtra ((key, strings texts) : String × PyValue Float) :=
  ⟨.texts hkey hlength htexts, nofun⟩

theorem goodExtra_dimensions (hlength : dimensions.length ≤ maxListLength) :
    GoodExtra (("dimensions", strings (dimensions.map DimensionName.value)) :
      String × PyValue Float) := by
  refine goodExtra_texts (by decide) (by rwa [List.length_map]) ?_
  intro text hmem
  obtain ⟨dimension, _, rfl⟩ := List.mem_map.mp hmem
  exact dimensionValue_bounded dimension

theorem goodExtra_measures (hlength : measures.length ≤ maxListLength) :
    GoodExtra (("measures", strings (measures.map MeasureName.value)) :
      String × PyValue Float) := by
  refine goodExtra_texts (by decide) (by rwa [List.length_map]) ?_
  intro text hmem
  obtain ⟨measure, _, rfl⟩ := List.mem_map.mp hmem
  exact measureValue_bounded measure

theorem tipRateSemantics_bounded : tipRateSemantics ≠ "" ∧ tipRateSemantics.length ≤ 512 := by
  have hlength : tipRateSemantics.length ≤ 100 + 100 + 100 :=
    append_length_le (append_length_le (literal_length_le (by decide))
      (literal_length_le (by decide))) (literal_length_le (by decide))
  exact ⟨append_ne_empty (append_ne_empty (literal_ne_empty (by decide))),
    hlength.trans (by decide)⟩

theorem airportTripRule_bounded : airportTripRule ≠ "" ∧ airportTripRule.length ≤ 512 := by
  have hlength : airportTripRule.length ≤ 100 + 100 :=
    append_length_le (literal_length_le (by decide)) (literal_length_le (by decide))
  exact ⟨append_ne_empty (literal_ne_empty (by decide)), hlength.trans (by decide)⟩

theorem goodExtra_tip {entry : String × PyValue Float} (h : entry ∈ tipExtra measures) :
    GoodExtra entry := by
  rw [tipExtra] at h
  split_ifs at h
  · rw [List.mem_singleton.mp h]
    exact goodExtra_text (by decide) tipRateSemantics_bounded.1 tipRateSemantics_bounded.2
  · cases h

theorem goodExtra_airport {applies : Bool} {entry : String × PyValue Float}
    (h : entry ∈ airportExtra applies) : GoodExtra entry := by
  rw [airportExtra] at h
  split_ifs at h
  · rw [List.mem_singleton.mp h]
    exact goodExtra_text (by decide) airportTripRule_bounded.1 airportTripRule_bounded.2
  · cases h

theorem tipExtra_keys : (tipExtra measures : List (String × PyValue Float)).map Prod.fst =
    if measures.any isTipMeasure then ["tip_rate_semantics"] else [] := by
  rw [tipExtra]
  split_ifs <;> rfl

theorem airportExtra_keys (applies : Bool) :
    (airportExtra applies : List (String × PyValue Float)).map Prod.fst =
      if applies then ["airport_trip_rule"] else [] := by
  rw [airportExtra]
  split_ifs <;> rfl

theorem listTaxiDimensionValues_survives (hdb : ReturnsPlain lib db)
    {dimension search limit : PyValue Float}
    (h : listTaxiDimensionValues lib db dimension search limit = .ok envelope) :
    Survives lib envelope := by
  obtain ⟨⟨dimension, search, limit⟩, harguments, h⟩ := bind_eq_ok_iff.mp h
  obtain ⟨joined, hjoined, h⟩ := bind_eq_ok_iff.mp h
  have hlimit : limit ≤ maxRows := by
    have hparts := checked_eq_ok_iff.mp harguments
    simp only [dimensionValuesArguments, bind_eq_ok_iff] at hparts
    obtain ⟨_, _, _, _, _, hlimit, hpure⟩ := hparts
    cases hpure
    exact (limit_of_validateLimit hlimit).2
  have hran := ran_of_runGovernedQuery hdb hjoined
  have hextras : ∀ entry ∈ ([("query_class", .str "dimension_values"),
      ("dimension", .str dimension.value)] : List (String × PyValue Float)), GoodExtra entry := by
    obtain ⟨hne, hlength⟩ := dimensionValue_bounded dimension
    simp only [List.forall_mem_cons]
    exact ⟨goodExtra_text (by decide) (by decide) (by decide),
      goodExtra_text (by decide) hne (hlength.trans (by decide)), nofun⟩
  have hcolumns : 1 ≤ ["value", "trip_count"].length ∧ ["value", "trip_count"].length ≤ 16 := by
    decide
  have hcolumn : ∀ column ∈ ["value", "trip_count"], column ≠ "" ∧ column.length ≤ 128 := by decide
  have hkeys : ["query_class", "dimension"].Nodup := by decide
  refine survives_of_ran hran hlimit hcolumns hcolumn ?_ hextras h
  exact hkeys

theorem aggregateColumn_bounded {spec : AggregateQuerySpec Float} :
    ∀ column ∈ aggregateColumns spec, column ≠ "" ∧ column.length ≤ 128 := by
  intro column hmem
  rcases List.mem_append.mp hmem with hmem | hmem
  · obtain ⟨dimension, _, rfl⟩ := List.mem_map.mp hmem
    obtain ⟨hne, hlength⟩ := dimensionValue_bounded dimension
    exact ⟨hne, hlength.trans (by decide)⟩
  · obtain ⟨measure, _, rfl⟩ := List.mem_map.mp hmem
    obtain ⟨hne, hlength⟩ := measureValue_bounded measure
    exact ⟨hne, hlength.trans (by decide)⟩

theorem aggregateTaxiData_survives (hdb : ReturnsPlain lib db)
    {dimensions measures filters orderBy limit : PyValue Float}
    (h : aggregateTaxiData lib db dimensions measures filters orderBy limit = .ok envelope) :
    Survives lib envelope := by
  obtain ⟨spec, hspec, h⟩ := bind_eq_ok_iff.mp h
  obtain ⟨joined, hjoined, h⟩ := bind_eq_ok_iff.mp h
  obtain ⟨hne, hdimensions, hmeasures, hwide, -, hlimit⟩ :=
    columns_of_buildAggregateSpec (checked_eq_ok_iff.mp hspec)
  have hran := ran_of_runGovernedQuery hdb hjoined
  have hcolumns : (compileAggregateQuery spec).outputColumns.length =
      spec.dimensions.length + spec.measures.length := by
    show (aggregateColumns spec).length = _
    rw [aggregateColumns, List.length_append, List.length_map, List.length_map]
  have hpos : 0 < spec.measures.length := List.length_pos_of_ne_nil hne
  have hmost : maxColumns = 16 := rfl
  have hkeys : ∀ tip airport : Bool, (["query_class", "dimensions", "measures"] ++
      (if tip then ["tip_rate_semantics"] else []) ++
      (if airport then ["airport_trip_rule"] else [])).Nodup := by decide
  have hfixed : ∀ entry ∈ ([("query_class", .str "aggregate"),
      ("dimensions", strings (spec.dimensions.map DimensionName.value)),
      ("measures", strings (spec.measures.map MeasureName.value))] :
        List (String × PyValue Float)), GoodExtra entry := by
    simp only [List.forall_mem_cons]
    exact ⟨goodExtra_text (by decide) (by decide) (by decide), goodExtra_dimensions hdimensions,
      goodExtra_measures hmeasures, nofun⟩
  refine survives_of_ran hran hlimit (by omega) aggregateColumn_bounded ?_ ?_ h
  · rw [List.map_append, List.map_append, tipExtra_keys, airportExtra_keys]
    exact hkeys _ _
  · intro entry hentry
    rcases List.mem_append.mp hentry with hentry | hairport
    · rcases List.mem_append.mp hentry with hentry | htip
      · exact hfixed entry hentry
      · exact goodExtra_tip htip
    · exact goodExtra_airport hairport

end Simple

section Whole

variable {measures : List MeasureName} {baseline comparison : TaxiFilters Float} {limit : Int}
  {raw : Envelope Float} {cells : List (PyValue Float)} {rows : List (List (PyValue Float))}
  {baselineGiven comparisonGiven : Bool}

def wholeEnvelope (lib : PyLibrary Float) (measures : List MeasureName)
    (baseline comparison : TaxiFilters Float) (limit : Int) (raw : Envelope Float)
    (baselineGiven comparisonGiven : Bool) (rows : List (List (PyValue Float))) : Envelope Float :=
  { columns := wholeColumns, rows := rows.take limit.toNat
    rowCount := (rows.take limit.toNat).length, executionDurationMs := raw.executionDurationMs
    queryId := raw.queryId, truncated := rows.length > limit
    extra := wholeExtra lib measures baseline comparison
      (noDataSides baselineGiven comparisonGiven) }

/-- The labels of the sides are short enough, and in the rows that stay no difference of the sides
is an infinite number. -/
structure WholeFits (lib : PyLibrary Float) (db : Dataset.Database Float)
    (measures : List MeasureName) (baseline comparison : TaxiFilters Float) (limit : Int) :
    Prop where
  baselineLabel : LabelFits lib baseline
  comparisonLabel : LabelFits lib comparison
  changes : ∀ raw cells baselinePopulation comparisonPopulation rows,
    runGovernedQuery lib db (compileCompareWholeSegmentsQuery measures baseline comparison) 1
      65536 = .ok raw → raw.rows = [cells] → cells[0]? = some baselinePopulation →
    cells[1]? = some comparisonPopulation →
    wholeRows lib cells (baselinePopulation.truthy lib.num) (comparisonPopulation.truthy lib.num)
      measures = .ok rows →
    ∀ i, KeepsRow lib maxResultBytes (wholeEnvelope lib measures baseline comparison limit raw
        (baselinePopulation.truthy lib.num) (comparisonPopulation.truthy lib.num) rows) i →
      ∀ b c, sideCell cells (baselinePopulation.truthy lib.num) (2 + 2 * i) = .ok b →
        sideCell cells (comparisonPopulation.truthy lib.num) (3 + 2 * i) = .ok c → BothFit lib b c

theorem wholeExtra_keys (noData : List String) :
    ((wholeExtra lib measures baseline comparison noData).map Prod.fst).Nodup := by
  have hkeys : ∀ sides tip airport : Bool,
      (["query_class", "comparison_mode", "baseline_label", "comparison_label", "measures"] ++
        (if sides then [] else ["no_data_sides"]) ++ (if tip then ["tip_rate_semantics"] else []) ++
        (if airport then ["airport_trip_rule"] else [])).Nodup := by decide
  have hsides : ((if noData = [] then [] else [("no_data_sides", strings noData)] :
      List (String × PyValue Float)).map Prod.fst) =
        if decide (noData = []) then [] else ["no_data_sides"] := by
    by_cases hnone : noData = [] <;> simp [hnone]
  rw [wholeExtra, List.map_append, List.map_append, List.map_append, hsides, tipExtra_keys,
    airportExtra_keys]
  exact hkeys _ _ _

theorem noDataSides_bounded : (noDataSides baselineGiven comparisonGiven).length ≤ 16 ∧
    ∀ side ∈ noDataSides baselineGiven comparisonGiven, side ≠ "" ∧ side.length ≤ 64 := by
  cases baselineGiven <;> cases comparisonGiven <;> decide

theorem wholeExtra_known (hmeasures : measures.length ≤ maxListLength) :
    ∀ entry ∈ wholeExtra lib measures baseline comparison (noDataSides baselineGiven
      comparisonGiven),
      GoodExtra entry ∨ entry = ("baseline_label", .str (filtersLabel lib baseline)) ∨
        entry = ("comparison_label", .str (filtersLabel lib comparison)) := by
  intro entry hentry
  rcases List.mem_append.mp hentry with hentry | hairport
  · rcases List.mem_append.mp hentry with hentry | htip
    · rcases List.mem_append.mp hentry with hentry | hsides
      · simp only [List.mem_cons, List.not_mem_nil, or_false] at hentry
        rcases hentry with rfl | rfl | hlabel | hlabel | rfl
        · exact .inl (goodExtra_text (by decide) (by decide) (by decide))
        · exact .inl (goodExtra_text (by decide) (by decide) (by decide))
        · exact .inr (.inl hlabel)
        · exact .inr (.inr hlabel)
        · exact .inl (goodExtra_measures hmeasures)
      · split_ifs at hsides
        · cases hsides
        · rw [List.mem_singleton.mp hsides]
          obtain ⟨hlength, hbounded⟩ := noDataSides_bounded
          exact .inl (goodExtra_texts (by decide) hlength hbounded)
    · exact .inl (goodExtra_tip htip)
  · exact .inl (goodExtra_airport hairport)

theorem wholeEnvelope_shape (hqueryId : raw.queryId ≠ "" ∧ raw.queryId.length ≤ 128)
    (hplain : ∀ cell ∈ cells, BoundedCell cell ∧ FiniteCell lib cell)
    (hmeasures : measures.length ≤ maxListLength) (hlimit : limit ≤ maxRows)
    (hrows : wholeRows lib cells baselineGiven comparisonGiven measures = .ok rows) :
    WellShaped (wholeEnvelope lib measures baseline comparison limit raw baselineGiven
      comparisonGiven rows) := by
  have hrow : ∀ row ∈ rows.take limit.toNat, row.length = 5 ∧ ∀ cell ∈ row, BoundedCell cell := by
    intro row hmem
    obtain ⟨i, hi⟩ := List.mem_iff_getElem?.mp (List.mem_of_mem_take hmem)
    obtain ⟨_, measure, hread⟩ := wholeRow_of_wholeRows hrows hi
    obtain ⟨hlength, hbounded, -⟩ := wholeRow_spec hplain hread
    exact ⟨hlength, hbounded⟩
  have hcolumns : ∀ column ∈ wholeColumns, column ≠ "" ∧ column.length ≤ 128 := by decide
  refine ⟨?_, ?_, hcolumns, ?_, rfl, fun row hmem => (hrow row hmem).1,
    fun row hmem => (hrow row hmem).2, hqueryId, wholeExtra_keys _, ?_⟩
  · show 1 ≤ wholeColumns.length
    decide
  · show wholeColumns.length ≤ 16
    decide
  · show (rows.take limit.toNat).length ≤ 64
    have hmost : maxRows = 64 := rfl
    rw [List.length_take]
    omega
  · intro entry hentry
    rcases wholeExtra_known hmeasures entry hentry with hgood | rfl | rfl
    · exact hgood.1
    · exact .text (by decide) filtersLabel_ne_empty
    · exact .text (by decide) filtersLabel_ne_empty

theorem wholeExtra_short_iff (hmeasures : measures.length ≤ maxListLength) :
    (∀ key text, (key, .str text) ∈ wholeExtra lib measures baseline comparison
      (noDataSides baselineGiven comparisonGiven) → text.length ≤ 512) ↔
      LabelFits lib baseline ∧ LabelFits lib comparison := by
  rw [← filtersLabel_le_iff, ← filtersLabel_le_iff]
  constructor
  · intro hshort
    have hbaseline : (("baseline_label", .str (filtersLabel lib baseline)) :
      String × PyValue Float) ∈
        wholeExtra lib measures baseline comparison
          (noDataSides baselineGiven comparisonGiven) := by simp [wholeExtra]
    have hcomparison :
        (("comparison_label", .str (filtersLabel lib comparison)) : String × PyValue Float) ∈
        wholeExtra lib measures baseline comparison
          (noDataSides baselineGiven comparisonGiven) := by simp [wholeExtra]
    exact ⟨hshort _ _ hbaseline, hshort _ _ hcomparison⟩
  · rintro ⟨hbaseline, hcomparison⟩ key text hentry
    rcases wholeExtra_known hmeasures _ hentry with hgood | hlabel | hlabel
    · exact hgood.2 key text rfl
    · rw [PyValue.str.inj (congrArg Prod.snd hlabel)]
      exact hbaseline
    · rw [PyValue.str.inj (congrArg Prod.snd hlabel)]
      exact hcomparison

theorem wholeEnvelope_finite_iff (hplain : ∀ cell ∈ cells, BoundedCell cell ∧ FiniteCell lib cell)
    (hrows : wholeRows lib cells baselineGiven comparisonGiven measures = .ok rows) :
    (∀ i row, (wholeEnvelope lib measures baseline comparison limit raw baselineGiven
      comparisonGiven
        rows).rows[i]? = some row →
      KeepsRow lib maxQueryResultBytes (wholeEnvelope lib measures baseline comparison limit raw
        baselineGiven comparisonGiven rows) i → ∀ cell ∈ row, FiniteCell lib cell) ↔
    ∀ i, KeepsRow lib maxQueryResultBytes (wholeEnvelope lib measures baseline comparison limit raw
        baselineGiven comparisonGiven rows) i →
      ∀ b c, sideCell cells baselineGiven (2 + 2 * i) = .ok b →
        sideCell cells comparisonGiven (3 + 2 * i) = .ok c → BothFit lib b c := by
  have hread {i : Nat} {row : List (PyValue Float)}
      (hrow : (rows.take limit.toNat)[i]? = some row) :
      ∃ measure, wholeRow lib cells baselineGiven comparisonGiven i measure = .ok row := by
    have hlt := (List.getElem?_eq_some_iff.mp hrow).1
    rw [List.length_take] at hlt
    rw [List.getElem?_take_of_lt (by omega)] at hrow
    exact (wholeRow_of_wholeRows hrows hrow).2
  constructor
  · intro hfinite i hstays
    obtain ⟨count, hcount, hlt, -⟩ := id hstays
    have hrow := List.getElem?_eq_getElem (Nat.lt_of_lt_of_le hlt hcount)
    obtain ⟨measure, hmeasure⟩ := hread hrow
    exact (wholeRow_spec hplain hmeasure).2.2.mp (hfinite i _ hrow hstays)
  · intro hfits i row hrow hstays
    obtain ⟨measure, hmeasure⟩ := hread hrow
    exact (wholeRow_spec hplain hmeasure).2.2.mpr (hfits i hstays)

theorem augmentEnvelope_nil {maxBytes : Nat} :
    augmentEnvelope lib envelope maxBytes [] = fitRows lib maxBytes envelope := by
  rw [augmentEnvelope, List.append_nil]

theorem compareWholeSegments_survives_iff (hdb : ReturnsPlain lib db)
    {measuresValue baselineValue comparisonValue limitValue : PyValue Float}
    (h : compareWholeSegments lib db measuresValue baselineValue comparisonValue limitValue =
      .ok envelope) :
    ∃ measures baseline comparison limit, validateMeasures lib measuresValue = .ok measures ∧
      validateFilters lib baselineValue = .ok baseline ∧
      validateFilters lib comparisonValue = .ok comparison ∧ validateLimit limitValue = .ok limit ∧
      (Survives lib envelope ↔ WholeFits lib db measures baseline comparison limit) := by
  rw [compareWholeSegments] at h
  obtain ⟨measures, hmeasures, h⟩ := bind_eq_ok_iff.mp h
  split_ifs at h with hshare
  · cases h
  obtain ⟨limit, hlimit, h⟩ := bind_eq_ok_iff.mp h
  obtain ⟨baseline, hbaseline, h⟩ := bind_eq_ok_iff.mp h
  obtain ⟨comparison, hcomparison, h⟩ := bind_eq_ok_iff.mp h
  obtain ⟨raw, hraw, h⟩ := bind_eq_ok_iff.mp h
  rw [checked_eq_ok_iff] at hmeasures hlimit hbaseline hcomparison
  refine ⟨measures, baseline, comparison, limit, hmeasures, hbaseline, hcomparison, hlimit, ?_⟩
  split at h
  case h_2 => cases h
  case h_1 cells hcells =>
    obtain ⟨baselinePopulation, hfirst, h⟩ := bind_eq_ok_iff.mp h
    obtain ⟨comparisonPopulation, hsecond, h⟩ := bind_eq_ok_iff.mp h
    obtain ⟨rows, hrows, h⟩ := bind_eq_ok_iff.mp h
    rw [checked_eq_ok_iff] at hfirst hsecond hrows
    rw [cellAt_eq_ok_iff] at hfirst hsecond
    rw [augmentEnvelope_nil] at h
    have hran := ran_of_runGovernedQuery hdb hraw
    have hplain : ∀ cell ∈ cells, BoundedCell cell ∧ FiniteCell lib cell :=
      hran.cell cells (by rw [hcells]; exact List.mem_singleton_self cells)
    have hmost := (names_of_validateNames hmeasures).2.1
    have hshape : WellShaped (wholeEnvelope lib measures baseline comparison limit raw
        (baselinePopulation.truthy lib.num) (comparisonPopulation.truthy lib.num) rows) :=
      wholeEnvelope_shape hran.queryId hplain hmost (limit_of_validateLimit hlimit).2 hrows
    rw [survives_fitRows_iff hshape h, wholeEnvelope_finite_iff hplain hrows]
    constructor
    · rintro ⟨hfits, hshort⟩
      obtain ⟨hbaselineLabel, hcomparisonLabel⟩ := (wholeExtra_short_iff hmost).mp hshort
      refine ⟨hbaselineLabel, hcomparisonLabel, ?_⟩
      intro raw' cells' baselinePopulation' comparisonPopulation' rows' hraw' hcells' hfirst'
        hsecond' hrows'
      rw [hraw] at hraw'
      cases hraw'
      rw [hcells] at hcells'
      cases hcells'
      rw [hfirst] at hfirst'
      cases hfirst'
      rw [hsecond] at hsecond'
      cases hsecond'
      rw [hrows] at hrows'
      cases hrows'
      exact hfits
    · rintro ⟨hbaselineLabel, hcomparisonLabel, hchanges⟩
      refine ⟨?_, (wholeExtra_short_iff hmost).mpr ⟨hbaselineLabel, hcomparisonLabel⟩⟩
      exact hchanges raw cells _ _ rows hraw hcells hfirst hsecond hrows

end Whole

section Segments

variable {dimension : DimensionName} {measures : List MeasureName}
  {baseline comparison : TaxiFilters Float} {limit : Int} {joined : Envelope Float}
  {rows : List (List (PyValue Float))} {query : CompiledQuery Float}

def segmentsEnvelope (db : Dataset.Database Float) (dimension : DimensionName)
    (measures : List MeasureName) (joined : Envelope Float) (rows : List (List (PyValue Float))) :
    Envelope Float :=
  { columns := dimension.value :: measures.flatMap segmentColumns, rows, rowCount := rows.length
    executionDurationMs := joined.executionDurationMs, queryId := queryId db.envelopeUuid
    truncated := joined.truncated
    extra := [("query_class", .str "compare_segments"), ("segment_dimension", .str dimension.value),
      ("measures", strings (measures.map MeasureName.value))] ++ tipExtra measures }

def SegmentsFit (lib : PyLibrary Float) (db : Dataset.Database Float) (dimension : DimensionName)
    (measures : List MeasureName) (baseline comparison : TaxiFilters Float) (limit : Int) : Prop :=
  ∀ query joined rows,
    compileCompareSegmentsQuery dimension measures baseline comparison limit = .ok query →
    runGovernedQuery lib db query limit maxResultBytes = .ok joined →
    joined.rows.mapM (segmentRow lib measures.length) = .ok rows →
    ∀ i cells, joined.rows[i]? = some cells →
      KeepsRow lib maxResultBytes (segmentsEnvelope db dimension measures joined rows) i →
      ∀ index < measures.length, ∀ b c, cells[1 + 2 * index]? = some b →
        cells[2 + 2 * index]? = some c → ChangeFits lib b c

theorem segmentColumn_bounded (dimension : DimensionName) (measures : List MeasureName) :
    ∀ column ∈ dimension.value :: measures.flatMap segmentColumns,
      column ≠ "" ∧ column.length ≤ 128 := by
  have hdimension := dimensionValue_bounded dimension
  refine List.forall_mem_cons.mpr ⟨⟨hdimension.1, hdimension.2.trans (by decide)⟩, ?_⟩
  intro column hcolumn
  obtain ⟨measure, _, hcolumn⟩ := List.mem_flatMap.mp hcolumn
  have hmeasure := (measureValue_bounded measure).2
  have hname {text : String} (hne : text ≠ "") (hlength : text.length ≤ 16) :
      text ++ measure.value ≠ "" ∧ (text ++ measure.value).length ≤ 128 :=
    ⟨append_ne_empty hne, (append_length_le hlength hmeasure).trans (by decide)⟩
  simp only [segmentColumns, List.mem_cons, List.not_mem_nil, or_false] at hcolumn
  rcases hcolumn with rfl | rfl | rfl
  · exact hname (by decide) (by decide)
  · exact hname (by decide) (by decide)
  · exact hname (by decide) (by decide)

theorem length_segmentColumns (measures : List MeasureName) :
    (measures.flatMap segmentColumns).length = 3 * measures.length := by
  have hthree : ∀ columns ∈ measures.map segmentColumns, columns.length = 3 := by
    intro columns hmem
    obtain ⟨measure, _, rfl⟩ := List.mem_map.mp hmem
    rfl
  rw [List.flatMap_def, length_flatten_of_forall hthree, List.length_map]

theorem segmentsExtra_good (dimension : DimensionName)
    (hmeasures : measures.length ≤ maxListLength) :
    ∀ entry ∈ ([("query_class", .str "compare_segments"),
      ("segment_dimension", .str dimension.value),
      ("measures", strings (measures.map MeasureName.value))] ++ tipExtra measures :
        List (String × PyValue Float)), GoodExtra entry := by
  have hfixed : ∀ entry ∈ ([("query_class", .str "compare_segments"),
      ("segment_dimension", .str dimension.value),
      ("measures", strings (measures.map MeasureName.value))] :
        List (String × PyValue Float)), GoodExtra entry := by
    obtain ⟨hne, hlength⟩ := dimensionValue_bounded dimension
    simp only [List.forall_mem_cons]
    exact ⟨goodExtra_text (by decide) (by decide) (by decide),
      goodExtra_text (by decide) hne (hlength.trans (by decide)), goodExtra_measures hmeasures,
      nofun⟩
  intro entry hentry
  rcases List.mem_append.mp hentry with hentry | htip
  · exact hfixed entry hentry
  · exact goodExtra_tip htip

theorem segmentsEnvelope_shape (hran : Ran lib query limit joined)
    (hwide : 1 + 3 * measures.length ≤ maxColumns) (hmeasures : measures.length ≤ maxListLength)
    (hlimit : limit ≤ maxRows)
    (hrows : joined.rows.mapM (segmentRow lib measures.length) = .ok rows) :
    WellShaped (segmentsEnvelope db dimension measures joined rows) := by
  have hrow : ∀ row ∈ rows, row.length = 1 + 3 * measures.length ∧ ∀ cell ∈ row,
      BoundedCell cell := by
    intro row hmem
    obtain ⟨i, hi⟩ := List.mem_iff_getElem?.mp hmem
    obtain ⟨cells, hcells, hread⟩ := item_of_mapM_eq_ok hrows hi
    obtain ⟨hlength, hbounded, -⟩ :=
      segmentRow_spec (hran.cell cells (List.mem_of_getElem? hcells)) hread
    exact ⟨hlength, hbounded⟩
  have hcolumns : (dimension.value :: measures.flatMap segmentColumns).length =
      1 + 3 * measures.length := by
    rw [List.length_cons, length_segmentColumns, Nat.add_comm]
  have hmost : maxColumns = 16 := rfl
  refine ⟨?_, ?_, segmentColumn_bounded dimension measures, ?_, rfl, ?_,
    fun row hmem => (hrow row hmem).2, queryId_bounded _, ?_,
    fun entry hentry => (segmentsExtra_good dimension hmeasures entry hentry).1⟩
  · show 1 ≤ (dimension.value :: measures.flatMap segmentColumns).length
    omega
  · show (dimension.value :: measures.flatMap segmentColumns).length ≤ 16
    omega
  · show rows.length ≤ 64
    have hlength := (forall₂_of_mapM_eq_ok hrows).length_eq
    have hle := hran.rows_le
    have hmost : maxRows = 64 := rfl
    omega
  · intro row hmem
    exact (hrow row hmem).1.trans hcolumns.symm
  · have hkeys : ∀ tip : Bool, (["query_class", "segment_dimension", "measures"] ++
        (if tip then ["tip_rate_semantics"] else [])).Nodup := by decide
    show (List.map Prod.fst _).Nodup
    rw [segmentsEnvelope, List.map_append, tipExtra_keys]
    exact hkeys _

theorem compareByDimension_survives_iff (hdb : ReturnsPlain lib db)
    {dimensionValue measuresValue baselineValue comparisonValue limitValue : PyValue Float}
    (h : compareByDimension lib db dimensionValue measuresValue baselineValue comparisonValue
      limitValue = .ok envelope) :
    ∃ dimension measures baseline comparison limit,
      validateDimension lib dimensionValue = .ok dimension ∧
      validateMeasures lib measuresValue = .ok measures ∧
      validateFilters lib baselineValue = .ok baseline ∧
      validateFilters lib comparisonValue = .ok comparison ∧ validateLimit limitValue = .ok limit ∧
      (Survives lib envelope ↔
        SegmentsFit lib db dimension measures baseline comparison limit) := by
  rw [compareByDimension] at h
  obtain ⟨dimension, hdimension, h⟩ := bind_eq_ok_iff.mp h
  obtain ⟨measures, hmeasures, h⟩ := bind_eq_ok_iff.mp h
  obtain ⟨limit, hlimit, h⟩ := bind_eq_ok_iff.mp h
  obtain ⟨baseline, hbaseline, h⟩ := bind_eq_ok_iff.mp h
  obtain ⟨comparison, hcomparison, h⟩ := bind_eq_ok_iff.mp h
  split_ifs at h with hwide
  · cases h
  obtain ⟨query, hquery, h⟩ := bind_eq_ok_iff.mp h
  obtain ⟨joined, hjoined, h⟩ := bind_eq_ok_iff.mp h
  obtain ⟨rows, hrows, h⟩ := bind_eq_ok_iff.mp h
  rw [checked_eq_ok_iff] at hdimension hmeasures hlimit hbaseline hcomparison hquery hrows
  refine ⟨dimension, measures, baseline, comparison, limit, hdimension, hmeasures, hbaseline,
    hcomparison, hlimit, ?_⟩
  rw [augmentEnvelope_nil] at h
  have hran := ran_of_runGovernedQuery hdb hjoined
  have hmost := (names_of_validateNames hmeasures).2.1
  have hshape : WellShaped (segmentsEnvelope db dimension measures joined rows) :=
    segmentsEnvelope_shape hran (Nat.not_lt.mp hwide) hmost (limit_of_validateLimit hlimit).2 hrows
  have hspec {i : Nat} {cells row : List (PyValue Float)} (hcells : joined.rows[i]? = some cells)
      (hread : segmentRow lib measures.length cells = .ok row) :=
    (segmentRow_spec (hran.cell cells (List.mem_of_getElem? hcells)) hread).2.2
  rw [survives_fitRows_iff hshape h]
  constructor
  · rintro ⟨hfinite, -⟩ query' joined' rows' hquery' hjoined' hrows' i cells hcells hstays
    rw [hquery] at hquery'
    cases hquery'
    rw [hjoined] at hjoined'
    cases hjoined'
    rw [hrows] at hrows'
    cases hrows'
    obtain ⟨row, hrow, hread⟩ := result_of_mapM_eq_ok hrows hcells
    exact (hspec hcells hread).mp (hfinite i row hrow hstays)
  · intro hfits
    refine ⟨?_, fun key text hentry => (segmentsExtra_good dimension hmost _ hentry).2 key text rfl⟩
    intro i row hrow hstays
    obtain ⟨cells, hcells, hread⟩ := item_of_mapM_eq_ok hrows hrow
    exact (hspec hcells hread).mpr
      (hfits query joined rows hquery hjoined hrows i cells hcells hstays)

end Segments

section Governed

inductive GovernedTool where
  | listTaxiDimensionValues
  | aggregateTaxiData
  | compareTaxiSegments
deriving DecidableEq, Repr

def GovernedTool.serve (lib : PyLibrary Float) (db : Dataset.Database Float) :
    GovernedTool → PyValue Float → Governed (Envelope Float)
  | listTaxiDimensionValues => Mcp.listTaxiDimensionValues lib db
  | aggregateTaxiData => Mcp.aggregateTaxiData lib db
  | compareTaxiSegments => Mcp.compareTaxiSegments lib db

def ComparisonFits (lib : PyLibrary Float) (db : Dataset.Database Float)
    (arguments : PyValue Float) : Prop :=
  ∀ measures baseline comparison limit,
    validateMeasures lib (arguments.entry "measures" .none) = .ok measures →
    validateFilters lib (arguments.entry "baseline_filters" .none) = .ok baseline →
    validateFilters lib (arguments.entry "comparison_filters" .none) = .ok comparison →
    validateLimit (arguments.entry "limit" (.int 20)) = .ok limit →
    ((arguments.entry "segment_dimension" .none).isNone = true →
      WholeFits lib db measures baseline comparison limit) ∧
    ∀ dimension, validateDimension lib (arguments.entry "segment_dimension" .none) = .ok dimension →
      SegmentsFit lib db dimension measures baseline comparison limit

def GovernedTool.Fits (lib : PyLibrary Float) (db : Dataset.Database Float) :
    GovernedTool → PyValue Float → Prop
  | listTaxiDimensionValues, _ | aggregateTaxiData, _ => True
  | compareTaxiSegments, arguments => ComparisonFits lib db arguments

theorem mode_of_validateComparisonMode {mode segment : PyValue Float} {chosen : String}
    (h : validateComparisonMode lib mode segment = .ok chosen) :
    (chosen = "whole_segment" ∧ segment.isNone = true) ∨
      (chosen = "by_dimension" ∧ segment.isNone = false) := by
  rw [validateComparisonMode] at h
  split_ifs at h with hwhole hnone hby hnone
  · cases h
    exact .inl ⟨rfl, hnone⟩
  · cases h
  · cases h
  · cases h
    exact .inr ⟨rfl, by simpa using hnone⟩
  · cases h

theorem validateDimension_ne_ok {dimension : DimensionName} :
    validateDimension lib (.none : PyValue Float) ≠ .ok dimension := by
  rw [validateDimension, validateName]
  have hnone : DimensionName.all.find? (fun name => (.none : PyValue Float).eqStr name.value) =
      none :=
    rfl
  intro h
  rw [hnone] at h
  cases h

theorem compareTaxiSegments_survives_iff (hdb : ReturnsPlain lib db) {arguments : PyValue Float}
    (h : Mcp.compareTaxiSegments lib db arguments = .ok envelope) :
    Survives lib envelope ↔ ComparisonFits lib db arguments := by
  obtain ⟨mode, hmode, h⟩ := bind_eq_ok_iff.mp h
  rcases mode_of_validateComparisonMode (checked_eq_ok_iff.mp hmode) with
    ⟨rfl, hnone⟩ | ⟨rfl, hgiven⟩
  · rw [if_pos rfl] at h
    obtain ⟨measures, baseline, comparison, limit, hmeasures, hbaseline, hcomparison, hlimit,
        hiff⟩ :=
      compareWholeSegments_survives_iff hdb h
    rw [hiff]
    constructor
    · intro hfits measures' baseline' comparison' limit' hmeasures' hbaseline' hcomparison' hlimit'
      rw [hmeasures] at hmeasures'
      cases hmeasures'
      rw [hbaseline] at hbaseline'
      cases hbaseline'
      rw [hcomparison] at hcomparison'
      cases hcomparison'
      rw [hlimit] at hlimit'
      cases hlimit'
      refine ⟨fun _ => hfits, ?_⟩
      intro dimension hdimension
      cases hsegment : arguments.entry "segment_dimension" .none with
      | none =>
          rw [hsegment] at hdimension
          exact absurd hdimension validateDimension_ne_ok
      | _ =>
          rw [hsegment] at hnone
          cases hnone
    · intro hfits
      exact (hfits measures baseline comparison limit hmeasures hbaseline hcomparison hlimit).1
        hnone
  · rw [if_neg (by decide)] at h
    obtain ⟨dimension, measures, baseline, comparison, limit, hdimension, hmeasures, hbaseline,
      hcomparison, hlimit, hiff⟩ := compareByDimension_survives_iff hdb h
    rw [hiff]
    constructor
    · intro hfits measures' baseline' comparison' limit' hmeasures' hbaseline' hcomparison' hlimit'
      rw [hmeasures] at hmeasures'
      cases hmeasures'
      rw [hbaseline] at hbaseline'
      cases hbaseline'
      rw [hcomparison] at hcomparison'
      cases hcomparison'
      rw [hlimit] at hlimit'
      cases hlimit'
      constructor
      · intro hnone
        rw [hnone] at hgiven
        cases hgiven
      · intro dimension' hdimension'
        rw [hdimension] at hdimension'
        cases hdimension'
        exact hfits
    · intro hfits
      exact (hfits measures baseline comparison limit hmeasures hbaseline hcomparison hlimit).2
        dimension hdimension

/-- **Envelopes survive.** The sanitizer passes an envelope of the server and keeps its fields if
and only if, in a comparison, the labels are short enough and no reported difference is infinite. -/
theorem governed_envelope_survives_iff (hdb : ReturnsPlain lib db) {tool : GovernedTool}
    {arguments : PyValue Float} (h : tool.serve lib db arguments = .ok envelope) :
    Survives lib envelope ↔ tool.Fits lib db arguments := by
  cases tool with
  | listTaxiDimensionValues => exact iff_of_true (listTaxiDimensionValues_survives hdb h) trivial
  | aggregateTaxiData => exact iff_of_true (aggregateTaxiData_survives hdb h) trivial
  | compareTaxiSegments => exact compareTaxiSegments_survives_iff hdb h

section Samples

open Validation (sampleLibrary validateProposal)

def onesDatabase : Dataset.Database Int where
  execute query := .ok ⟨query.outputColumns, [query.outputColumns.map fun _ => .int 1]⟩
  durationMs _ := 0
  uuid _ := .zeros
  envelopeUuid := .zeros

theorem onesDatabase_plain : ReturnsPlain sampleLibrary onesDatabase where
  columns := by
    rintro query _ ⟨⟩
    rfl
  width := by
    rintro query _ ⟨⟩ row hrow
    rw [List.mem_singleton.mp hrow, List.length_map]
  cell := by
    rintro query _ ⟨⟩ row hrow cell hcell
    rw [List.mem_singleton.mp hrow] at hcell
    obtain ⟨_, _, rfl⟩ := List.mem_map.mp hcell
    exact ⟨trivial, trivial⟩

def islandZone : String := "Governor's Island/Ellis Island/Liberty Island"

def islandFilters : TaxiFilters Int :=
  { pickupHourMin := some 10, pickupHourMax := some 20, pickupWeekday := some "Wednesday"
    pickupWeekPart := some "weekday", pickupZone := some islandZone
    pickupBorough := some "Staten Island", dropoffZone := some islandZone
    dropoffBorough := some "Staten Island", paymentType := some 1, rateCode := some 1
    vendor := some 1, passengerCountMin := some 1, passengerCountMax := some 6
    tripDistanceMin := some 1, tripDistanceMax := some 9, tripDurationMin := some 5
    tripDurationMax := some 60, fareAmountMin := some 10, fareAmountMax := some 80
    airportTrip := some true, validRecordsOnly := false }

def islandFiltersValue : PyValue Int :=
  .dict [("pickup_hour_min", .int 10), ("pickup_hour_max", .int 20),
    ("pickup_weekday", .str "Wednesday"), ("pickup_week_part", .str "weekday"),
    ("pickup_zone", .str islandZone), ("pickup_borough", .str "Staten Island"),
    ("dropoff_zone", .str islandZone), ("dropoff_borough", .str "Staten Island"),
    ("payment_type", .int 1), ("rate_code", .int 1), ("vendor", .int 1),
    ("passenger_count_min", .int 1), ("passenger_count_max", .int 6), ("trip_distance_min", .int 1),
    ("trip_distance_max", .int 9), ("trip_duration_min", .int 5), ("trip_duration_max", .int 60),
    ("fare_amount_min", .int 10), ("fare_amount_max", .int 80), ("airport_trip", .bool true),
    ("valid_records_only", .bool false)]

def islandComparison : PyValue Int :=
  .dict [("measures", .list [.str "trip_count"]), ("baseline_filters", islandFiltersValue),
    ("comparison_filters", .dict []), ("comparison_mode", .str "whole_segment")]

theorem lengths_labelPart (name text : String) :
    (labelPart name (some text)).map String.length = [name.length + 1 + text.length] := by
  have hequals : "=".length = 1 := rfl
  simp only [labelPart, Option.map_some, Option.toList_some, List.map_cons, List.map_nil,
    String.length_append, hequals]

theorem islandNames_length :
    ∀ part ∈ [("pickup_hour_min", 15), ("pickup_hour_max", 15), ("pickup_weekday", 14),
    ("pickup_week_part", 16), ("pickup_zone", 11), ("pickup_borough", 14), ("dropoff_zone", 12),
    ("dropoff_borough", 15), ("payment_type", 12), ("rate_code", 9), ("vendor", 6),
      ("passenger_count_min", 19),
    ("passenger_count_max", 19), ("trip_distance_min", 17), ("trip_distance_max", 17),
      ("trip_duration_min", 17),
    ("trip_duration_max", 17), ("fare_amount_min", 15), ("fare_amount_max", 15),
      ("airport_trip", 12),
    ("valid_records_only=false", 24), (islandZone, 45), ("Wednesday", 9), ("weekday", 7),
      ("Staten Island", 13)],
    part.1.length = part.2 := by
  simp only [List.forall_mem_cons]
  iterate 25 refine ⟨String.length_ofList, ?_⟩
  exact List.forall_mem_nil _

theorem islandLabel_lengths : (labelParts sampleLibrary islandFilters).map String.length =
    [18, 18, 24, 24, 57, 28, 58, 29, 14, 11, 8, 21, 21, 21, 21, 21, 22, 20, 20, 17, 24] := by
  have hnames := islandNames_length
  simp only [List.forall_mem_cons] at hnames
  unfold labelParts islandFilters
  simp only [Option.map_some, Bool.false_eq_true, if_false, List.map_append, lengths_labelPart,
    List.map_cons, List.map_nil, hnames]
  decide

theorem islandLabel_length : labelLength (labelParts sampleLibrary islandFilters) = 537 := by
  rw [labelLength, ← List.length_map String.length, islandLabel_lengths]
  decide

deriving instance DecidableEq for TaxiFilters

theorem islandFilters_read :
    validateFilters sampleLibrary islandFiltersValue = .ok islandFilters := by
  decide +kernel

def islandRaw : Envelope Int :=
  { columns := ["baseline_population", "comparison_population", "baseline_trip_count",
      "comparison_trip_count"]
    rows := [[.int 1, .int 1, .int 1, .int 1]], rowCount := 1, executionDurationMs := 0
    queryId := queryId .zeros, truncated := false }

theorem islandRaw_fits : Fits sampleLibrary 65536 islandRaw := by
  have hsize : (jsonSize sampleLibrary true (.dict islandRaw.payload)).any (· ≤ 65536) = true := by
    decide
  obtain ⟨size, hsize, hle⟩ := (Option.any_eq_true _ _).mp hsize
  exact ⟨size, hsize, of_decide_eq_true hle⟩

theorem islandRaw_returned : runGovernedQuery sampleLibrary onesDatabase
    (compileCompareWholeSegmentsQuery [.tripCount] islandFilters {}) 1 65536 = .ok islandRaw := by
  have hfits := fitRows_of_fits islandRaw_fits
  unfold runGovernedQuery
  rw [if_neg (by decide)]
  exact hfits

def islandEnvelope : Envelope Int :=
  wholeEnvelope sampleLibrary [.tripCount] islandFilters {} 20 islandRaw true true
    [[.str "trip_count", .int 1, .int 1, .int 0, .float 0]]

theorem length_jsonText_airportTripRule : (jsonText airportTripRule).length = 151 := by
  have htext : airportTripRule.toList = _ ++ _ := String.toList_append
  rw [String.toList_ofList, String.toList_ofList] at htext
  rw [jsonText, htext]
  rfl

theorem islandRest_size : ∃ rest,
    entriesSize sampleLibrary true (islandEnvelope.payload.eraseIdx 8) = some rest ∧
      rest ≤ 503 := by
  have hshort :
      (entriesSize sampleLibrary true ((islandEnvelope.payload.eraseIdx 8).eraseIdx 10)).any
        (· ≤ 332) =
      true := by decide +kernel
  obtain ⟨short, hshort, hle⟩ := (Option.any_eq_true _ _).mp hshort
  have hle : short ≤ 332 := of_decide_eq_true hle
  have hkey : (jsonText "airport_trip_rule").length = 19 := by decide
  have hrest :=
    entriesSize_of_eraseIdx (by decide : 10 < (islandEnvelope.payload.eraseIdx 8).length) rfl hshort
  rw [hkey, length_jsonText_airportTripRule] at hrest
  exact ⟨_, hrest, by omega⟩

theorem islandEnvelope_fits : Fits sampleLibrary maxResultBytes islandEnvelope := by
  obtain ⟨rest, hrest, hle⟩ := islandRest_size
  have hlabel : (filtersLabel sampleLibrary islandFilters).length = 537 := by
    rw [filtersLabel, if_neg, length_intercalate, islandLabel_length]
    intro hnone
    have hlength := islandLabel_length
    rw [hnone] at hlength
    exact absurd hlength (by decide)
  have hbound := length_jsonText_le (filtersLabel sampleLibrary islandFilters)
  have hkey : (jsonText "baseline_label").length = 16 := by decide
  have hframe : jsonFrame islandEnvelope.payload.length = 13 := rfl
  have hsize := jsonSize_dict_of_eraseIdx (by decide : 8 < islandEnvelope.payload.length) rfl hrest
  rw [hframe, hkey] at hsize
  have hmost : maxResultBytes = 8192 := rfl
  exact ⟨_, hsize, by omega⟩

theorem arith_float_int {num : NumOps Float} {n : Int} {x y : Float} {onInt : Int → Int → Int}
    {onFloat : Float → Float → Float} (h : num.ofInt n = some y) :
    (PyValue.arith num onInt onFloat (.float x) (.int n) : Checked (PyValue Float)) =
      .ok (.float (onFloat x y)) := by
  simp only [PyValue.arith, PyValue.asNumber, h]

theorem ofInt_wholeFloats {n : Int} (h : n.natAbs < 2 ^ 7) :
    Validation.wholeFloats.ofInt n = some n := by
  have hbound : n.natAbs < 2 ^ 1024 := h.trans_le (pow_le_pow_right₀ one_le_two (by omega))
  simp only [Validation.wholeFloats]
  rw [if_pos hbound]

theorem islandRows_read :
    wholeRows sampleLibrary [.int 1, .int 1, .int 1, .int 1] true true [.tripCount] =
    .ok [[.str "trip_count", .int 1, .int 1, .int 0, .float 0]] := by
  have hhundred : sampleLibrary.num.ofInt 100 = some 100 := ofInt_wholeFloats (by decide)
  have hproduct : (PyValue.arith sampleLibrary.num (· * ·) sampleLibrary.num.mul (.float 0)
    (.int 100) :
      Checked (PyValue Int)) = .ok (.float 0) := arith_float_int hhundred
  have hpercent : deltaPct sampleLibrary (.int 1) (.int 1) = .ok (.float 0) := by
    have hgiven : (isNumber (.int 1 : PyValue Int) && isNumber (.int 1 : PyValue Int) &&
        !PyValue.eqZero sampleLibrary.num (.int 1)) = true := rfl
    rw [deltaPct, if_pos hgiven]
    refine bind_eq_ok_iff.mpr ⟨.int 0, rfl, bind_eq_ok_iff.mpr ⟨.float 0, rfl, ?_⟩⟩
    rw [hproduct]
    rfl
  have hrow : wholeRow sampleLibrary [.int 1, .int 1, .int 1, .int 1] true true 0 .tripCount =
      .ok [.str "trip_count", .int 1, .int 1, .int 0, .float 0] :=
    bind_eq_ok_iff.mpr ⟨_, rfl, bind_eq_ok_iff.mpr ⟨_, rfl, bind_eq_ok_iff.mpr ⟨_, rfl,
      bind_eq_ok_iff.mpr ⟨_, hpercent, rfl⟩⟩⟩⟩
  simp only [wholeRows, List.zipIdx_cons, List.zipIdx_nil, List.mapM_cons, List.mapM_nil, hrow]
  rfl

theorem island_served :
    Mcp.compareTaxiSegments sampleLibrary onesDatabase islandComparison = .ok islandEnvelope := by
  have hlimit : validateLimit (islandComparison.entry "limit" (.int 20)) = .ok 20 := by decide
  have hmeasures : validateMeasures sampleLibrary (islandComparison.entry "measures" .none) =
      .ok [.tripCount] := by decide
  have hcomparison : validateFilters sampleLibrary
      (islandComparison.entry "comparison_filters" .none) = .ok {} := by decide
  refine bind_eq_ok_iff.mpr ⟨"whole_segment", rfl, ?_⟩
  rw [if_pos rfl]
  refine bind_eq_ok_iff.mpr ⟨_, checked_eq_ok_iff.mpr hmeasures, ?_⟩
  rw [if_neg (by decide)]
  refine bind_eq_ok_iff.mpr ⟨_, checked_eq_ok_iff.mpr hlimit, ?_⟩
  refine bind_eq_ok_iff.mpr ⟨_, checked_eq_ok_iff.mpr islandFilters_read, ?_⟩
  refine bind_eq_ok_iff.mpr ⟨_, checked_eq_ok_iff.mpr hcomparison, ?_⟩
  refine bind_eq_ok_iff.mpr ⟨_, islandRaw_returned, ?_⟩
  refine bind_eq_ok_iff.mpr ⟨_, rfl,
    bind_eq_ok_iff.mpr ⟨_, rfl, bind_eq_ok_iff.mpr ⟨_, checked_eq_ok_iff.mpr islandRows_read, ?_⟩⟩⟩
  rw [augmentEnvelope_nil]
  exact fitRows_of_fits islandEnvelope_fits

theorem islandEnvelope_refused : ¬ Survives sampleLibrary islandEnvelope := by
  intro hsurvives
  have hfits := (compareTaxiSegments_survives_iff onesDatabase_plain island_served).mp hsurvives
  have hlabel : LabelFits sampleLibrary islandFilters := by
    refine ((hfits [.tripCount] islandFilters {} 20 ?_ islandFilters_read ?_ ?_).1
      rfl).baselineLabel
    · decide
    · decide
    · decide
  rw [LabelFits, islandLabel_length] at hlabel
  exact absurd hlabel (by decide)

/-- The validator accepts the call and the server answers it, but the answer does not survive. -/
theorem island_comparison_lost :
    (validateProposal sampleLibrary "compare_taxi_segments" islandComparison .none 0 1).toOption.map
        ProposalValidation.ok = some true ∧
      ReturnsPlain sampleLibrary onesDatabase ∧
      ∃ envelope, Mcp.compareTaxiSegments sampleLibrary onesDatabase islandComparison =
          .ok envelope ∧ ¬ Survives sampleLibrary envelope :=
  ⟨by decide +kernel, onesDatabase_plain, islandEnvelope, island_served, islandEnvelope_refused⟩

theorem governed_envelope_survives_iff_island :
    Survives sampleLibrary islandEnvelope ↔
      GovernedTool.compareTaxiSegments.Fits sampleLibrary onesDatabase islandComparison :=
  governed_envelope_survives_iff onesDatabase_plain island_served

end Samples

end Governed

end AiAnalytics.App.McpClient
