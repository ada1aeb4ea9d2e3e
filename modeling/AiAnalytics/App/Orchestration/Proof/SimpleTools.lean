import AiAnalytics.App.Orchestration.ParseProposal
import AiAnalytics.App.Validation.Proof.PreflightAggregate
import AiAnalytics.Dataset.Proof.QueryErrors

/-!
# Three readings of a simple call

The arguments of the four simple tools are read by the preflight, by the parser and by the server.
They agree on every call but two kinds: an analysis with a limit above twenty, which the preflight
passes and the parser refuses, and a search for the empty text, which only the server refuses.
-/

namespace AiAnalytics.App.Loop

open Lib Validation
open Dataset (validateName validateDimension validateSearch validateLimit)

variable {Float : Type} {lib : PyLibrary Float} {arguments schema : PyValue Float}
  {args : Dict Float} {name key : String} {executed most : Nat}

section Preflight

theorem calls_left_of_validateProposal (hname : name ∈ governedTools)
    (h : validateProposal lib name arguments schema executed most = .ok {}) : executed < most := by
  rw [validateProposal, if_neg (not_noTool name hname), if_neg (not_not.mpr hname)] at h
  by_contra hnot
  rw [if_pos (not_lt.mp hnot)] at h
  cases h

theorem validateProposal_of_arguments (hname : name ∈ governedTools) (hleft : executed < most)
    (h : validateArguments lib name args schema = .ok []) :
    validateProposal lib name (.dict args) schema executed most = .ok {} := by
  rw [validateProposal, if_neg (not_noTool name hname), if_neg (not_not.mpr hname),
    if_neg (not_le.mpr hleft)]
  simp only [givenArguments, h]
  rfl

theorem unknownKeys_of_checkKeys {allowed required : List String}
    (h : checkKeys lib args allowed required = []) : unknownKeys args allowed = [] := by
  by_contra hunknown
  have hnone := (List.append_eq_nil_iff.mp h).1
  rw [if_pos hunknown] at hnone
  exact violation_ne_nil _ _ hnone

theorem name_of_checkName {allowed : List String} {code message : String}
    (hgiven : ∃ value, args.lookup key = some value)
    (h : checkName args key allowed code message = []) :
    ∃ name ∈ allowed, (PyValue.dict args).entry key .none = .str name := by
  obtain ⟨value, hvalue⟩ := hgiven
  rw [checkName, hvalue] at h
  rw [entry_of_lookup hvalue]
  cases value with
  | str name =>
      refine ⟨name, ?_, rfl⟩
      by_contra hnot
      exact violation_ne_nil _ _ ((if_neg hnot).symm.trans h)
  | _ => exact absurd h (violation_ne_nil _ _)

theorem limit_of_checkLimit (default : Int) (hdefault : 1 ≤ default ∧ default ≤ 64)
    (h : checkLimit args = []) :
    ∃ limit, (PyValue.dict args).entry "limit" (.int default) = .int limit ∧ 1 ≤ limit ∧
      limit ≤ 64 := by
  cases hlimit : args.lookup "limit" with
  | none => exact ⟨default, by rw [PyValue.entry, hlimit]; rfl, hdefault⟩
  | some value =>
      rw [checkLimit, hlimit] at h
      rw [entry_of_lookup hlimit]
      cases value with
      | int limit =>
          refine ⟨limit, rfl, ?_⟩
          by_contra hnot
          exact violation_ne_nil _ _ ((if_neg hnot).symm.trans h)
      | _ => exact absurd h (violation_ne_nil _ _)

end Preflight

section Agreement

def simpleTools : List String :=
  ["query_taxi_data", "average_trip_metrics", "describe_taxi_dataset", "list_taxi_dimension_values"]

def ServerAccepts (lib : PyLibrary Float) (zones : List (Option String)) (name : String)
    (arguments : PyValue Float) : Prop :=
  if name = "query_taxi_data" then Accepts (Mcp.queryTaxiDataArguments arguments)
  else if name = "average_trip_metrics" then
    Accepts (Mcp.averageTripMetricsArguments lib zones arguments)
  else if name = "describe_taxi_dataset" then Accepts (Mcp.describeArguments arguments)
  else Accepts (Mcp.listArguments lib arguments)

def AllAgree (lib : PyLibrary Float) (zones : List (Option String))
    (proposal : ToolProposalResult Float) (schema : PyValue Float) (executed most : Nat) : Prop :=
  ∃ parsed, parseQueryProposal proposal = some (proposal.name, parsed) ∧
    validateProposal lib proposal.name (.dict parsed) schema executed most = .ok {} ∧
    ServerAccepts lib zones proposal.name (.dict parsed)

structure SimpleFits (name : String) (arguments : PyValue Float) : Prop where
  limit : name = "query_taxi_data" → ∀ limit, arguments.entry "limit" .none = .int limit →
    limit ≤ 20
  search : name = "list_taxi_dimension_values" → arguments.entry "search" .none ≠ .str ""

theorem accepts_datasetQuery {analysis : String} {limit : Int} (hanalysis : analysis ∈ analyses)
    (hlimit : 1 ≤ limit ∧ limit ≤ 20) :
    Accepts (Dataset.datasetQuery analysis limit :
      Dataset.Governed (Dataset.CompiledQuery Float)) := by
  have hfound : ∃ query : Dataset.CompiledQuery Float,
      Dataset.allowedAnalyses.lookup analysis = some query := by
    rw [← Option.isSome_iff_exists, List.lookup_isSome_iff]
    have hnames : analysis ∈ (Dataset.allowedAnalyses :
        List (String × Dataset.CompiledQuery Float)).map Prod.fst := hanalysis
    obtain ⟨entry, hentry, rfl⟩ := List.mem_map.mp hnames
    exact ⟨entry, hentry, beq_self_eq_true _⟩
  obtain ⟨query, hquery⟩ := hfound
  rw [Dataset.datasetQuery]
  simp only [hquery]
  exact ⟨_, if_pos hlimit⟩

theorem query_agree_iff (hleft : executed < most) {zones : List (Option String)}
    (h : validateQueryTaxiData lib args = []) :
    (∃ parsed, parseQueryTaxiData (.dict args) = some parsed ∧
      validateProposal lib "query_taxi_data" (.dict parsed) schema executed most = .ok {} ∧
      ServerAccepts lib zones "query_taxi_data" (.dict parsed)) ↔
    ∀ limit, (PyValue.dict args).entry "limit" .none = .int limit → limit ≤ 20 := by
  rw [validateQueryTaxiData, List.append_eq_nil_iff, List.append_eq_nil_iff] at h
  obtain ⟨⟨hkeys, hname⟩, hlimit⟩ := h
  have hknown := unknownKeys_of_checkKeys hkeys
  obtain ⟨analysis, hanalysis, hentry⟩ :=
    name_of_checkName (given_of_checkKeys hkeys (by decide)) hname
  have hgiven : ∃ value, args.lookup "limit" = some value := given_of_checkKeys hkeys (by decide)
  obtain ⟨value, hvalue⟩ := hgiven
  obtain ⟨limit, hlimit', hone, hmost⟩ := limit_of_checkLimit 5 (by decide) hlimit
  have hentry' : (PyValue.dict args).entry "limit" .none = .int limit := by
    rw [entry_of_lookup hvalue, ← hlimit', entry_of_lookup hvalue]
  have hne : analysis ≠ "" := by
    rintro rfl
    exact absurd hanalysis (by decide)
  let parsed : Dict Float := [("analysis", .str analysis), ("limit", .int limit)]
  have hparse : parseQueryTaxiData (.dict args) = if limit ≤ 20 then some parsed else none := by
    simp only [parseQueryTaxiData, onlyKeys, hknown, if_true, hentry, hentry', nonemptyText, hne,
      if_false, limitOf, hone, true_and, hanalysis, Option.bind_eq_bind, Option.bind_some]
    split_ifs <;> rfl
  rw [hparse, hentry']
  by_cases hsmall : limit ≤ 20
  · rw [if_pos hsmall]
    refine iff_of_true ⟨parsed, rfl, ?_, ?_⟩ ?_
    · apply validateProposal_of_arguments (by decide) hleft
      have hkeys' : checkKeys lib parsed ["analysis", "limit"] ["analysis", "limit"] = [] := rfl
      have hname' (message : String) :
          checkName parsed "analysis" analyses "invalid_value" message = [] := if_pos hanalysis
      have hlimit'' : checkLimit parsed = [] := if_pos ⟨hone, hmost⟩
      have hall : validateQueryTaxiData lib parsed = [] := by
        rw [validateQueryTaxiData, hkeys', hname', hlimit'']
        rfl
      exact congrArg Except.ok hall
    · have hread : Mcp.checkQueryLimit ((PyValue.dict parsed).entry "limit" (.int 5)) = .ok limit :=
        if_pos ⟨hone, hsmall⟩
      have hread' : Mcp.checkAnalysis ((PyValue.dict parsed).entry "analysis" .none) =
          .ok analysis :=
        if_pos hanalysis
      have haccepts : Accepts (Mcp.queryTaxiDataArguments (.dict parsed)) := by
        rw [Mcp.queryTaxiDataArguments, accepts_bind_of_ok hread, accepts_bind_of_ok hread',
          accepts_bind_pure]
        exact accepts_datasetQuery hanalysis ⟨hone, hsmall⟩
      exact haccepts
    · rintro _ ⟨⟩
      exact hsmall
  · rw [if_neg hsmall]
    refine iff_of_false ?_ fun hall => hsmall (hall limit rfl)
    rintro ⟨_, hnone, _⟩
    cases hnone

theorem describe_agree (hleft : executed < most) {zones : List (Option String)}
    (h : validateDescribe lib args = []) :
    ∃ parsed, parseDescribeTaxiDataset (.dict args) = some parsed ∧
      validateProposal lib "describe_taxi_dataset" (.dict parsed) schema executed most = .ok {} ∧
      ServerAccepts lib zones "describe_taxi_dataset" (.dict parsed) := by
  rw [validateDescribe, List.append_eq_nil_iff] at h
  obtain ⟨hkeys, hflag⟩ := h
  have hknown := unknownKeys_of_checkKeys hkeys
  cases hentry : (PyValue.dict args).entry "include_column_stats" (.bool false) with
  | bool includeColumnStats =>
      let parsed : Dict Float := [("include_column_stats", .bool includeColumnStats)]
      have hparse : parseDescribeTaxiDataset (.dict args) = some parsed := by
        simp only [parseDescribeTaxiDataset, onlyKeys, hknown, if_true, hentry, Option.bind_eq_bind,
          Option.bind_some]
        rfl
      have hall : validateDescribe lib parsed = [] := rfl
      refine ⟨parsed, hparse, ?_, ?_⟩
      · apply validateProposal_of_arguments (by decide) hleft
        exact congrArg Except.ok hall
      · have haccepts : Accepts (Mcp.describeArguments (.dict parsed)) := ⟨_, rfl⟩
        exact haccepts
  | _ =>
      rw [hentry] at hflag
      exact absurd hflag (violation_ne_nil _ _)

section Regions

def ListsBoroughs (zones : List (Option String)) : Prop :=
  ∀ borough ∈ boroughs, ∃ zone, some zone ∈ zones ∧ strip zone.toList = borough.toList

def FoldsAscii (lib : PyLibrary Float) : Prop :=
  ∀ text : List Char, (∀ c ∈ text, c.toNat < 128) → lib.casefold text = text.map Char.toLower

theorem stripped_boroughs : ∀ borough ∈ boroughs, strip borough.toList = borough.toList := by decide

theorem ascii_boroughs : ∀ borough ∈ boroughs, ∀ c ∈ borough.toList, c.toNat < 128 := by
  have hall : (boroughs.all fun borough => borough.toList.all fun c => c.toNat < 128) = true := by
    decide
  simpa only [List.all_eq_true, decide_eq_true_eq] using hall

theorem governed_boroughs : ∀ borough ∈ boroughs,
    borough.toList.map Char.toLower ∉ Dataset.nonBoroughRegions.map String.toList := by decide

theorem short_boroughs :
    ∀ borough ∈ boroughs, strip borough.toList ≠ [] ∧ borough.length ≤ 128 := by
  decide

theorem accepts_resolveRegionName (hfolds : FoldsAscii lib) {zones : List (Option String)}
    (hzones : ListsBoroughs zones) {borough : String} (hborough : borough ∈ boroughs) :
    Accepts (Dataset.resolveRegionName lib zones (.str borough)) := by
  obtain ⟨zone, hzone, hname⟩ := hzones borough hborough
  have hfold := hfolds borough.toList (ascii_boroughs borough hborough)
  have hshort := (short_boroughs borough hborough).1
  have hnonempty : zone ≠ "" := by
    rintro rfl
    rw [stripped_boroughs borough hborough, ← hname] at hshort
    exact hshort rfl
  have hlisted : (lib.casefold borough.toList, String.ofList borough.toList) ∈
      Dataset.zoneBoroughs lib zones := by
    rw [Dataset.zoneBoroughs, List.mem_filterMap]
    refine ⟨some zone, hzone, ?_⟩
    have hgoverned : lib.casefold borough.toList ∉ Dataset.nonBoroughRegions.map String.toList := by
      rw [hfold]
      exact governed_boroughs borough hborough
    simp only [Option.bind_some, hname, hnonempty, hgoverned, or_self, if_false]
  have hfound : ∃ canonical, (Dataset.zoneBoroughs lib zones).reverse.lookup
      (lib.casefold borough.toList) = some canonical := by
    rw [← Option.isSome_iff_exists, List.lookup_isSome_iff]
    exact ⟨_, List.mem_reverse.mpr hlisted, beq_self_eq_true _⟩
  obtain ⟨canonical, hcanonical⟩ := hfound
  rw [Dataset.resolveRegionName, if_neg hshort, stripped_boroughs borough hborough, hcanonical]
  exact accepts_ok canonical

theorem average_agree (hleft : executed < most) (hfolds : FoldsAscii lib)
    {zones : List (Option String)} (hzones : ListsBoroughs zones)
    (h : validateAverageTripMetrics lib args = []) :
    ∃ parsed, parseAverageTripMetrics (.dict args) = some parsed ∧
      validateProposal lib "average_trip_metrics" (.dict parsed) schema executed most = .ok {} ∧
      ServerAccepts lib zones "average_trip_metrics" (.dict parsed) := by
  rw [validateAverageTripMetrics, List.append_eq_nil_iff] at h
  obtain ⟨hkeys, hregion⟩ := h
  have hknown := unknownKeys_of_checkKeys hkeys
  cases hentry : (PyValue.dict args).entry "region_name" .none with
  | none =>
      have hparse : parseAverageTripMetrics (.dict args) = some [] := by
        simp only [parseAverageTripMetrics, onlyKeys, hknown, if_true, hentry, Option.bind_eq_bind,
          Option.bind_some]
      have hall : validateAverageTripMetrics lib [] = [] := rfl
      refine ⟨[], hparse, ?_, ?_⟩
      · apply validateProposal_of_arguments (by decide) hleft
        exact congrArg Except.ok hall
      · have haccepts : Accepts (Mcp.averageTripMetricsArguments lib zones (.dict [])) :=
          ⟨none, rfl⟩
        exact haccepts
  | str region =>
      rw [hentry] at hregion
      have hborough : region ∈ boroughs := by
        by_contra hnot
        exact violation_ne_nil _ _ ((if_neg hnot).symm.trans hregion)
      have hshort : ¬ (strip region.toList = [] ∨ region.length > 128) := by
        obtain ⟨hblank, hlength⟩ := short_boroughs region hborough
        rintro (hempty | hlong)
        · exact hblank hempty
        · omega
      let parsed : Dict Float := [("region_name", .str region)]
      have hparse : parseAverageTripMetrics (.dict args) = some parsed := by
        simp only [parseAverageTripMetrics, onlyKeys, hknown, if_true, hentry, Option.bind_eq_bind,
          Option.bind_some, hshort, if_false]
        rfl
      refine ⟨parsed, hparse, ?_, ?_⟩
      · apply validateProposal_of_arguments (by decide) hleft
        have hkeys' : checkKeys lib parsed ["region_name"] [] = [] := rfl
        have hall : validateAverageTripMetrics lib parsed = [] := by
          rw [validateAverageTripMetrics, hkeys']
          exact if_pos hborough
        exact congrArg Except.ok hall
      · have haccepts : Accepts (Mcp.averageTripMetricsArguments lib zones (.dict parsed)) :=
          accepts_map.mpr (accepts_resolveRegionName hfolds hzones hborough)
        exact haccepts
  | _ =>
      rw [hentry] at hregion
      exact absurd hregion (violation_ne_nil _ _)

end Regions

section Listing

theorem search_of_checkSearch {search : PyValue Float} (h : checkSearch search = []) :
    search = .none ∨ ∃ text : String, search = .str text ∧ text.length ≤ 128 := by
  cases search with
  | none => exact .inl rfl
  | str text =>
      rw [checkSearch] at h
      split_ifs at h with hbad
      · exact absurd h (violation_ne_nil _ _)
      · exact .inr ⟨text, rfl, not_lt.mp fun hlong => hbad (.inr hlong)⟩
  | _ => exact absurd h (violation_ne_nil _ _)

theorem accepts_validateSearch_iff {search : PyValue Float} (h : checkSearch search = []) :
    Accepts (validateSearch search) ↔ search ≠ .str "" := by
  rcases search_of_checkSearch h with rfl | ⟨text, rfl, hlength⟩
  · exact iff_of_true (accepts_ok _) nofun
  · rw [validateSearch]
    by_cases hempty : text = ""
    · subst hempty
      exact iff_of_false (not_accepts_error _) (not_not.mpr rfl)
    · have hshort : ¬ (text = "" ∨ text.length > Dataset.maxStringLength) := by
        rintro (heq | hlong)
        · exact hempty heq
        · exact absurd hlength (not_le.mpr hlong)
      rw [if_neg hshort]
      refine iff_of_true (accepts_pure _) ?_
      rintro ⟨⟩
      exact hempty rfl

theorem list_agree_iff (hleft : executed < most) {zones : List (Option String)}
    (h : validateListValues lib args = []) :
    (∃ parsed, parseListTaxiDimensionValues (.dict args) = some parsed ∧
      validateProposal lib "list_taxi_dimension_values" (.dict parsed) schema executed most = .ok
      {} ∧
      ServerAccepts lib zones "list_taxi_dimension_values" (.dict parsed)) ↔
    (PyValue.dict args).entry "search" .none ≠ .str "" := by
  rw [validateListValues, List.append_eq_nil_iff, List.append_eq_nil_iff,
    List.append_eq_nil_iff] at h
  obtain ⟨⟨⟨hkeys, hname⟩, hsearch⟩, hlimit⟩ := h
  have hknown := unknownKeys_of_checkKeys hkeys
  obtain ⟨dimension, hdimension, hentry⟩ :=
    name_of_checkName (given_of_checkKeys hkeys (by decide)) hname
  obtain ⟨limit, hlimit', hone, hmost⟩ := limit_of_checkLimit 20 (by decide) hlimit
  have hne : dimension ≠ "" := by
    rintro rfl
    exact absurd hdimension (by decide)
  have hread : orNull anyText ((PyValue.dict args).entry "search" .none) =
      some ((PyValue.dict args).entry "search" .none) := by
    rcases search_of_checkSearch hsearch with hnone | ⟨text, htext, -⟩
    · rw [hnone]
      rfl
    · rw [htext]
      rfl
  let parsed : Dict Float := [("dimension", .str dimension),
    ("search", (PyValue.dict args).entry "search" .none), ("limit", .int limit)]
  have hparse : parseListTaxiDimensionValues (.dict args) = some parsed := by
    simp only [parseListTaxiDimensionValues, onlyKeys, hknown, if_true, hentry, nonemptyText, hne,
      if_false, hread, limitOf, hlimit', hone, Validation.maxRows, hmost, and_self,
      Option.bind_eq_bind, Option.bind_some]
    rfl
  have hagain : validateProposal lib "list_taxi_dimension_values" (.dict parsed) schema executed
      most = .ok {} := by
    apply validateProposal_of_arguments (by decide) hleft
    have hkeys' : checkKeys lib parsed ["dimension", "search", "limit"] ["dimension"] = [] := rfl
    have hname' (message : String) :
        checkName parsed "dimension" dimensions "unknown_dimension" message = [] :=
          if_pos hdimension
    have hlimit'' : checkLimit parsed = [] := if_pos ⟨hone, hmost⟩
    have hsearch' : checkSearch ((PyValue.dict parsed).entry "search" .none) = [] := hsearch
    have hall : validateListValues lib parsed = [] := by
      rw [validateListValues, hkeys', hname', hsearch', hlimit'']
      rfl
    exact congrArg Except.ok hall
  obtain ⟨dim, -, hdim⟩ := List.mem_map.mp (dimensions_eq ▸ hdimension)
  have hserver : ServerAccepts lib zones "list_taxi_dimension_values" (.dict parsed) ↔
      Accepts (validateSearch ((PyValue.dict args).entry "search" .none)) := by
    have hdim' : validateDimension lib ((PyValue.dict parsed).entry "dimension" .none) =
        .ok dim := by
      have hvalue : (PyValue.dict parsed).entry "dimension" .none = .str dim.value := by
        rw [hdim]
        rfl
      rw [hvalue]
      exact validateName_value find_dimension dim
    have hlimitRead : validateLimit ((PyValue.dict parsed).entry "limit" (.int 20)) = .ok limit :=
      if_pos ⟨hone, hmost⟩
    have hlist : ServerAccepts lib zones "list_taxi_dimension_values" (.dict parsed) ↔
        Accepts (Mcp.listArguments lib (.dict parsed)) := Iff.rfl
    rw [hlist, Mcp.listArguments, Dataset.accepts_checked_iff, Dataset.dimensionValuesArguments,
      accepts_bind_of_ok hdim']
    refine (accepts_bind fun found _ => iff_true_intro ?_).trans (iff_of_eq (and_true _))
    exact accepts_bind_pure.mpr ⟨limit, hlimitRead⟩
  rw [← accepts_validateSearch_iff hsearch, ← hserver]
  constructor
  · rintro ⟨_, hsome, -, haccepts⟩
    rw [hparse, Option.some.injEq] at hsome
    rw [hsome]
    exact haccepts
  · exact fun haccepts => ⟨parsed, hparse, hagain, haccepts⟩

end Listing

theorem allAgree_iff {zones : List (Option String)} {proposal : ToolProposalResult Float}
    (houtcome : proposal.outcome = .toolCall) (hne : proposal.name ≠ "") :
    AllAgree lib zones proposal schema executed most ↔
      ∃ parsed, parseArguments proposal.name proposal.arguments = some parsed ∧
        validateProposal lib proposal.name (.dict parsed) schema executed most = .ok {} ∧
        ServerAccepts lib zones proposal.name (.dict parsed) := by
  have hcalls : ¬ (proposal.outcome ≠ .toolCall ∨ proposal.name = "") := by
    rintro (hother | hempty)
    · exact hother houtcome
    · exact hne hempty
  have hparse (parsed : Dict Float) : parseQueryProposal proposal = some (proposal.name, parsed) ↔
      parseArguments proposal.name proposal.arguments = some parsed := by
    rw [parseQueryProposal, if_neg hcalls]
    simp
  simp only [AllAgree, hparse]

theorem simpleFits_query_iff : SimpleFits "query_taxi_data" arguments ↔
    ∀ limit, arguments.entry "limit" .none = .int limit → limit ≤ 20 :=
  ⟨fun h => h.limit rfl, fun h => ⟨fun _ => h, fun hname => absurd hname (by decide)⟩⟩

theorem simpleFits_list_iff : SimpleFits "list_taxi_dimension_values" arguments ↔
    arguments.entry "search" .none ≠ .str "" :=
  ⟨fun h => h.search rfl, fun h => ⟨fun hname => absurd hname (by decide), fun _ => h⟩⟩

theorem simpleFits_other (hquery : name ≠ "query_taxi_data")
    (hlist : name ≠ "list_taxi_dimension_values") : SimpleFits name arguments :=
  ⟨fun hname => absurd hname hquery, fun hname => absurd hname hlist⟩

/-- **Agreement on the simple tools.** A proposal of a simple tool that the preflight passes is
parsed, passes again and is taken by the server if and only if it is no analysis with a limit above
twenty and no search for the empty text. -/
theorem simple_tools_agree_iff (hfolds : FoldsAscii lib) {zones : List (Option String)}
    (hzones : ListsBoroughs zones) {proposal : ToolProposalResult Float}
    (houtcome : proposal.outcome = .toolCall) (hname : proposal.name ∈ simpleTools)
    (h : validateProposal lib proposal.name proposal.arguments schema executed most = .ok {}) :
    AllAgree lib zones proposal schema executed most ↔
      SimpleFits proposal.name proposal.arguments := by
  have hgoverned : ∀ name ∈ simpleTools, name ∈ governedTools ∧ name ≠ "" := by decide
  obtain ⟨htool, hne⟩ := hgoverned _ hname
  have hleft := calls_left_of_validateProposal htool h
  obtain ⟨args, hargs, hvalid⟩ := arguments_of_validateProposal htool h
  rw [allAgree_iff houtcome hne]
  generalize proposal.name = name at *
  generalize proposal.arguments = arguments at *
  simp only [simpleTools, List.mem_cons, List.not_mem_nil, or_false] at hname
  rcases hname with rfl | rfl | rfl | rfl
  · obtain rfl := givenArguments_eq_dict (by decide) hargs
    rw [simpleFits_query_iff]
    exact query_agree_iff hleft (Except.ok.inj hvalid)
  · have hparse : parseArguments "average_trip_metrics" arguments =
        parseAverageTripMetrics (.dict args) := by
      rw [← hargs]
      cases arguments <;> rfl
    rw [hparse]
    exact iff_of_true (average_agree hleft hfolds hzones (Except.ok.inj hvalid))
      (simpleFits_other (by decide) (by decide))
  · have hparse : parseArguments "describe_taxi_dataset" arguments =
        parseDescribeTaxiDataset (.dict args) := by
      rw [← hargs]
      cases arguments <;> rfl
    rw [hparse]
    exact iff_of_true (describe_agree hleft (Except.ok.inj hvalid))
      (simpleFits_other (by decide) (by decide))
  · obtain rfl := givenArguments_eq_dict (by decide) hargs
    rw [simpleFits_list_iff]
    exact list_agree_iff hleft (Except.ok.inj hvalid)

def proposalOf (name : String) (arguments : PyValue Int) : ToolProposalResult Int where
  modelId := "model"
  inputTokens := 100
  outputTokens := 10
  latencyMs := 5
  name := name
  arguments := arguments

theorem simple_tools_agree_iff_region :
    AllAgree sampleLibrary (boroughs.map some)
        (proposalOf "average_trip_metrics" (.dict [("region_name", .str "Queens")])) .none 0 1 ↔
      SimpleFits "average_trip_metrics" (.dict [("region_name", .str "Queens")] : PyValue Int) := by
  have hzones : ListsBoroughs (boroughs.map some) := fun borough hborough =>
    ⟨borough, List.mem_map_of_mem hborough, stripped_boroughs borough hborough⟩
  have hfolds : FoldsAscii sampleLibrary := fun _ _ => rfl
  have hpassed : validateProposal sampleLibrary "average_trip_metrics"
      (.dict [("region_name", .str "Queens")]) .none 0 1 = .ok {} := rfl
  have htool : (proposalOf "average_trip_metrics" (.dict [("region_name", .str "Queens")])).name ∈
      simpleTools := by decide
  exact simple_tools_agree_iff hfolds hzones rfl htool hpassed

/-- The preflight passes an analysis of fifty rows, which the parser refuses, and a search for
nothing, which the server refuses. -/
theorem passed_calls_refused :
    validateProposal sampleLibrary "query_taxi_data"
        (.dict [("analysis", .str "top_pickup_zones"), ("limit", .int 50)]) .none 0 1 = .ok {} ∧
      parseQueryProposal (proposalOf "query_taxi_data"
        (.dict [("analysis", .str "top_pickup_zones"), ("limit", .int 50)])) = none ∧
    validateProposal sampleLibrary "list_taxi_dimension_values"
        (.dict [("dimension", .str "pickup_zone"), ("search", .str "")]) .none 0 1 = .ok {} ∧
      Mcp.listArguments sampleLibrary
        (.dict [("dimension", .str "pickup_zone"), ("search", .str "")]) =
          Dataset.checked (Dataset.fail "invalid_search"
          "search must be a non-empty bounded string") :=
  ⟨rfl, rfl, rfl, rfl⟩

end Agreement

end AiAnalytics.App.Loop
