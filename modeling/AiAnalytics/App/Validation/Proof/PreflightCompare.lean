import AiAnalytics.App.Validation.Proof.PreflightAggregate
import AiAnalytics.Dataset.Proof.QueryErrors

/-!
# The preflight of a comparison

The preflight knows the fields of a comparison but not its width: by dimension, each measure takes
three columns of sixteen. The order of the server's checks matters too, since a number too large for
a float raises `OverflowError` before anything that comes later can raise a validation error.
-/

namespace AiAnalytics.App.Validation

open Lib Dataset
open Loop (Dict PyFault)

variable {Float : Type} {lib : PyLibrary Float} {db : Dataset.Database Float}
  {arguments schema : PyValue Float} {args : Dict Float}

section Arguments

theorem segment_of_checkSegment {segment : PyValue Float} (h : checkSegment segment = []) :
    segment = .none ∨ ∃ dimension : DimensionName, segment = .str dimension.value := by
  cases segment with
  | none => exact .inl rfl
  | str name =>
      have hmem : name ∈ DimensionName.all.map DimensionName.value := by
        by_contra hnot
        exact violation_ne_nil _ _ ((if_neg hnot).symm.trans h)
      obtain ⟨dimension, -, rfl⟩ := List.mem_map.mp hmem
      exact .inr ⟨dimension, rfl⟩
  | _ => exact absurd h (violation_ne_nil _ _)

theorem mode_of_checkMode {mode segment : PyValue Float}
    (h : checkMode lib mode (!segment.isNone) = []) :
    (mode.eqStr "whole_segment" = true ∧ segment.isNone = true ∧
        validateComparisonMode lib mode segment = .ok "whole_segment") ∨
      (segment.isNone = false ∧ validateComparisonMode lib mode segment = .ok "by_dimension") := by
  rw [checkMode] at h
  rw [validateComparisonMode]
  by_cases hwhole : mode.eqStr "whole_segment" = true
  · simp only [hwhole, if_true] at h ⊢
    cases hnone : segment.isNone with
    | true => exact .inl ⟨trivial, rfl, rfl⟩
    | false =>
        rw [hnone] at h
        exact absurd h (violation_ne_nil _ _)
  · rw [if_neg hwhole] at h ⊢
    by_cases hby : mode.eqStr "by_dimension" = true
    · rw [if_pos hby] at h ⊢
      cases hnone : segment.isNone with
      | true =>
          rw [hnone] at h
          exact absurd h (violation_ne_nil _ _)
      | false => exact .inr ⟨rfl, rfl⟩
    · rw [if_neg hby] at h
      exact absurd h (violation_ne_nil _ _)

theorem side_of_checkSide {side : String} (hgiven : ∃ value, args.lookup side = some value)
    (h : checkSide lib args schema side = .ok []) :
    FiltersPass lib ((PyValue.dict args).entry side .none) := by
  obtain ⟨value, hvalue⟩ := hgiven
  rw [checkSide, hvalue] at h
  rw [entry_of_lookup hvalue]
  cases value with
  | dict filters => exact filtersPass_of_checkFilters h
  | _ => exact absurd (Except.ok.inj h) (violation_ne_nil _ _)

theorem noShare_of_checkShare {mode : PyValue Float} (hwhole : mode.eqStr "whole_segment" = true)
    {names : List MeasureName}
    (h : checkShare mode (.list (names.map fun name => .str name.value)) = []) :
    names.contains .tripShare = false := by
  by_contra hshare
  rw [Bool.not_eq_false, List.contains_iff_mem] at hshare
  have hany : (mode.eqStr "whole_segment" &&
      (names.map fun name => (.str name.value : PyValue Float)).any (·.eqStr "trip_share")) =
        true := by
    rw [hwhole, Bool.true_and, List.any_map, List.any_eq_true]
    exact ⟨.tripShare, hshare, rfl⟩
  rw [checkShare, if_pos hany] at h
  exact violation_ne_nil _ _ h

structure ComparePasses (lib : PyLibrary Float) (args : Dict Float) where
  meas : List MeasureName
  limit : Int
  segment : (PyValue.dict args).entry "segment_dimension" .none = .none ∨
    ∃ dimension : DimensionName, (PyValue.dict args).entry "segment_dimension" .none =
      .str dimension.value
  mode : checkMode lib (comparisonMode args)
    (!((PyValue.dict args).entry "segment_dimension" .none).isNone) = []
  measures : (PyValue.dict args).entry "measures" .none =
    .list (meas.map fun name => .str name.value)
  measuresRead : validateMeasures lib ((PyValue.dict args).entry "measures" .none) = .ok meas
  some_measure : meas ≠ []
  share : checkShare (comparisonMode args) ((PyValue.dict args).entry "measures" .none) = []
  baseline : FiltersPass lib ((PyValue.dict args).entry "baseline_filters" .none)
  comparison : FiltersPass lib ((PyValue.dict args).entry "comparison_filters" .none)
  limitRead : validateLimit ((PyValue.dict args).entry "limit" (.int 20)) = .ok limit

theorem passes_of_validateProposal {executed most : Nat}
    (h : validateProposal lib "compare_taxi_segments" arguments schema executed most = .ok {}) :
    ∃ args, arguments = .dict args ∧ Nonempty (ComparePasses lib args) := by
  obtain ⟨args, hargs, hvalid⟩ := arguments_of_validateProposal (by decide) h
  refine ⟨args, givenArguments_eq_dict (by decide) hargs, ?_⟩
  have hcompare : validateCompare lib args schema = .ok [] := hvalid
  simp only [validateCompare, bind_eq_ok_iff] at hcompare
  obtain ⟨baseline, hbaseline, comparison, hcomparison, hresult⟩ := hcompare
  have hall := Except.ok.inj hresult
  simp only [List.append_eq_nil_iff] at hall
  obtain ⟨⟨⟨⟨⟨⟨⟨hkeys, hsegment⟩, hmode⟩, hshare⟩, hmeasures⟩, rfl⟩, rfl⟩, hlimit⟩ := hall
  obtain ⟨meas, hmeas, hne, hread⟩ :=
    measures_of_checkNames lib (given_of_checkKeys hkeys (by decide)) hmeasures
  obtain ⟨limit, hlimit'⟩ := validateLimit_of_checkLimit hlimit
  exact ⟨{
    meas, limit
    segment := segment_of_checkSegment hsegment
    mode := hmode
    measures := hmeas
    measuresRead := hread
    some_measure := hne
    share := hshare
    baseline := side_of_checkSide (given_of_checkKeys hkeys (by decide)) hbaseline
    comparison := side_of_checkSide (given_of_checkKeys hkeys (by decide)) hcomparison
    limitRead := hlimit' }⟩

end Arguments

section Compare

/-- What the server asks of a comparison beyond the preflight, in the order in which it asks. A
number that does not fit ends the call with another error. -/
def CompareFits (lib : PyLibrary Float) (arguments : PyValue Float) : Prop :=
  NumbersFit lib (arguments.entry "baseline_filters" .none) →
    SaysValidity (arguments.entry "baseline_filters" .none) ∧
    (NumbersFit lib (arguments.entry "comparison_filters" .none) →
      SaysValidity (arguments.entry "comparison_filters" .none) ∧
      ((arguments.entry "segment_dimension" .none).isNone = false →
        1 + 3 * (arguments.entry "measures" .none).elements.length ≤ 16))

theorem guarded_iff {a b p : Prop} : ((a → b) ∧ (a ∧ b → p)) ↔ (a → b ∧ p) :=
  ⟨fun h ha => ⟨h.1 ha, h.2 ⟨ha, h.1 ha⟩⟩, fun h => ⟨fun ha => (h ha).1, fun hab => (h hab.1).2⟩⟩

theorem raisesNone_sides_iff {α : Type} {baseline comparison : PyValue Float}
    {rest : TaxiFilters Float → TaxiFilters Float → Governed α} {p : Prop}
    (hbaseline : FiltersPass lib baseline) (hcomparison : FiltersPass lib comparison)
    (hrest : ∀ b c, RaisesNoQueryError (rest b c) ↔ p) :
    RaisesNoQueryError (do
        let b ← checked (validateFilters lib baseline)
        let c ← checked (validateFilters lib comparison)
        rest b c) ↔
      (NumbersFit lib baseline → SaysValidity baseline ∧
        (NumbersFit lib comparison → SaysValidity comparison ∧ p)) := by
  obtain ⟨haccepts, hforeign⟩ := validateFilters_spec hbaseline
  obtain ⟨haccepts', hforeign'⟩ := validateFilters_spec hcomparison
  have hsecond (b : TaxiFilters Float) : RaisesNoQueryError (do
      let c ← checked (validateFilters lib comparison)
      rest b c) ↔ (NumbersFit lib comparison → SaysValidity comparison ∧ p) := by
    rw [raisesNone_checked_bind_iff fun c _ => hrest b c, haccepts', hforeign', guarded_iff]
  rw [raisesNone_checked_bind_iff fun b _ => hsecond b, haccepts, hforeign, guarded_iff]

theorem raisesNone_whole_iff (hpasses : ComparePasses lib args)
    (hwhole : (comparisonMode args).eqStr "whole_segment" = true) :
    RaisesNoQueryError (compareWholeSegments lib db ((PyValue.dict args).entry "measures" .none)
        ((PyValue.dict args).entry "baseline_filters" .none)
        ((PyValue.dict args).entry "comparison_filters" .none)
        ((PyValue.dict args).entry "limit" (.int 20))) ↔
      (NumbersFit lib ((PyValue.dict args).entry "baseline_filters" .none) →
        SaysValidity ((PyValue.dict args).entry "baseline_filters" .none) ∧
        (NumbersFit lib ((PyValue.dict args).entry "comparison_filters" .none) →
          SaysValidity ((PyValue.dict args).entry "comparison_filters" .none) ∧ True)) := by
  have hshare : hpasses.meas.contains .tripShare = false := by
    apply noShare_of_checkShare hwhole
    rw [← hpasses.measures]
    exact hpasses.share
  rw [compareWholeSegments, raisesNone_checked_bind_of_ok hpasses.measuresRead, hshare]
  simp only [Bool.false_eq_true, if_false]
  rw [raisesNone_checked_bind_of_ok hpasses.limitRead]
  apply raisesNone_sides_iff hpasses.baseline hpasses.comparison
  intro b c
  refine iff_true_intro (raisesNone_bind raisesNone_runGovernedQuery fun raw => ?_)
  split
  · apply raisesNone_checked_bind (foreign_cellAt 0)
    intro baselinePopulation
    apply raisesNone_checked_bind (foreign_cellAt 1)
    intro comparisonPopulation
    refine raisesNone_checked_bind (foreign_mapM (fun entry => foreign_wholeRow _ _ _ _) _) ?_
    intro rows
    exact raisesNone_augmentEnvelope
  · exact nofun

theorem raisesNone_byDimension_iff (hpasses : ComparePasses lib args)
    (hgiven : ((PyValue.dict args).entry "segment_dimension" .none).isNone = false) :
    RaisesNoQueryError (compareByDimension lib db
        ((PyValue.dict args).entry "segment_dimension" .none)
        ((PyValue.dict args).entry "measures" .none)
        ((PyValue.dict args).entry "baseline_filters" .none)
        ((PyValue.dict args).entry "comparison_filters" .none)
        ((PyValue.dict args).entry "limit" (.int 20))) ↔
      (NumbersFit lib ((PyValue.dict args).entry "baseline_filters" .none) →
        SaysValidity ((PyValue.dict args).entry "baseline_filters" .none) ∧
        (NumbersFit lib ((PyValue.dict args).entry "comparison_filters" .none) →
          SaysValidity ((PyValue.dict args).entry "comparison_filters" .none) ∧
          1 + 3 * hpasses.meas.length ≤ 16)) := by
  obtain ⟨dimension, hdimension⟩ := hpasses.segment.resolve_left (by
    intro hnone
    rw [hnone] at hgiven
    cases hgiven)
  have hread : validateDimension lib ((PyValue.dict args).entry "segment_dimension" .none) =
      .ok dimension := by
    rw [hdimension]
    exact validateName_value find_dimension dimension
  rw [compareByDimension, raisesNone_checked_bind_of_ok hread,
    raisesNone_checked_bind_of_ok hpasses.measuresRead,
    raisesNone_checked_bind_of_ok hpasses.limitRead]
  apply raisesNone_sides_iff hpasses.baseline hpasses.comparison
  intro b c
  split_ifs with hwide
  · refine iff_of_false ?_ (not_le.mpr hwide)
    intro hnone
    exact hnone _ rfl
  · refine iff_of_true ?_ (not_lt.mp hwide)
    have hquery : Foreign (compileCompareSegmentsQuery dimension hpasses.meas b c
        hpasses.limit) := by
      obtain ⟨first, rest, hmeas⟩ := List.exists_cons_of_ne_nil hpasses.some_measure
      rw [hmeas]
      exact foreign_ok _
    apply raisesNone_checked_bind hquery
    intro query
    apply raisesNone_bind raisesNone_runGovernedQuery
    intro joined
    apply raisesNone_checked_bind (foreign_mapM (fun row => foreign_segmentRow _) _)
    intro rows
    exact raisesNone_augmentEnvelope

/-- **Preflight of comparisons.** Of a call that the preflight passes, the server raises no
validation error if and only if, as far as its numbers fit into floats, `valid_records_only` is
nowhere null and a comparison by dimension has at most five measures. -/
theorem preflight_compare_sound_iff {executed most : Nat}
    (h : validateProposal lib "compare_taxi_segments" arguments schema executed most = .ok {}) :
    RaisesNoQueryError (Mcp.compareTaxiSegments lib db arguments) ↔ CompareFits lib arguments := by
  obtain ⟨args, rfl, ⟨hpasses⟩⟩ := passes_of_validateProposal h
  have hforwarded : Mcp.forwardedMode (.dict args) = comparisonMode args := rfl
  have hlength : ((PyValue.dict args).entry "measures" .none).elements.length =
      hpasses.meas.length := by
    rw [hpasses.measures, PyValue.elements, List.length_map]
  rw [Mcp.compareTaxiSegments, compareTaxiSegments, hforwarded, CompareFits, hlength]
  rcases mode_of_checkMode hpasses.mode with ⟨hwhole, hnone, hmode⟩ | ⟨hgiven, hmode⟩
  · rw [raisesNone_checked_bind_of_ok hmode, if_pos rfl, raisesNone_whole_iff hpasses hwhole, hnone]
    simp
  · rw [raisesNone_checked_bind_of_ok hmode, if_neg (by decide),
      raisesNone_byDimension_iff hpasses hgiven, hgiven]
    simp

def comparedHours (names : List MeasureName) : PyValue Int :=
  .dict [("measures", .list (names.map fun name => .str name.value)),
    ("baseline_filters", .dict [("pickup_week_part", .str "weekday")]),
    ("comparison_filters", .dict [("pickup_week_part", .str "weekend")]),
    ("segment_dimension", .str "pickup_hour")]

def brokenDatabase : Dataset.Database Int where
  execute _ := .error
  durationMs _ := 0
  uuid _ := .zeros
  envelopeUuid := .zeros

theorem preflight_compare_sound_iff_counts :
    RaisesNoQueryError
        (Mcp.compareTaxiSegments sampleLibrary brokenDatabase (comparedHours [.tripCount])) ↔
      CompareFits sampleLibrary (comparedHours [.tripCount]) := by
  have hpassed : validateProposal sampleLibrary "compare_taxi_segments" (comparedHours [.tripCount])
      .none 0 1 = .ok {} := rfl
  exact preflight_compare_sound_iff hpassed

def sixMeasures : List MeasureName :=
  [.tripCount, .averageFare, .averageTip, .totalTips, .tipRate, .averageDistance]

/-- Six measures take nineteen columns. -/
theorem six_measures_refused :
    validateProposal sampleLibrary "compare_taxi_segments" (comparedHours sixMeasures) .none 0 1 =
        .ok {} ∧
      Mcp.compareTaxiSegments sampleLibrary brokenDatabase (comparedHours sixMeasures) =
        checked (fail "invalid_column_budget" ("comparison output must not exceed 16 columns " ++
          "(1 dimension + baseline/comparison/delta per measure)")) :=
  ⟨rfl, rfl⟩

end Compare

end AiAnalytics.App.Validation
