import AiAnalytics.App.Validation.Proposal
import AiAnalytics.Dataset.QuerySpec
import AiAnalytics.Lib.Accepts
import Mathlib.Data.Set.List

/-!
# The two validators, field by field

A value that the preflight passes is one that the server's check of the same field accepts. Two gaps
remain: an integer too large for a float in a number filter, and a null for `valid_records_only`.
-/

namespace AiAnalytics.App.Validation

open Lib Dataset
open Loop (Dict PyFault)

variable {Float α : Type} {lib : PyLibrary Float} {key : String} {value : PyValue Float}

@[simp]
theorem violation_ne_nil (code message : String) : violation code message ≠ [] := nofun

section Names

variable {all : List α} {valueOf : α → String} {code kind label : String}

theorem validateName_value
    (hfind : ∀ name, all.find? (fun other => decide (valueOf name = valueOf other)) = some name)
    (name : α) :
    validateName lib all valueOf code kind (.str (valueOf name)) = .ok name := by
  simp only [validateName, PyValue.eqStr, hfind]
  rfl

theorem find_dimension (name : DimensionName) :
    DimensionName.all.find? (fun other => decide (name.value = other.value)) = some name := by
  cases name <;> rfl

theorem find_measure (name : MeasureName) :
    MeasureName.all.find? (fun other => decide (name.value = other.value)) = some name := by
  cases name <;> rfl

theorem dimensions_eq : dimensions = DimensionName.all.map DimensionName.value := rfl

theorem textsOf_eq_some_iff {values : List (PyValue Float)} {texts : List String} :
    textsOf values = some texts ↔ values = texts.map .str := by
  induction values generalizing texts with
  | nil =>
      cases texts with
      | nil => exact iff_of_true rfl rfl
      | cons text texts => exact ⟨nofun, nofun⟩
  | cons value values ih =>
      have hcons (text : String) : textsOf (.str text :: values) =
          (textsOf values).map (text :: ·) := by
        rw [textsOf, List.mapM_cons, textsOf]
        generalize List.mapM (m := Option) _ values = rest
        cases rest <;> rfl
      have hother (h : ∀ text, value ≠ .str text) : textsOf (value :: values) = none := by
        cases value with
        | str text => exact absurd rfl (h text)
        | _ => rfl
      cases value with
      | str text =>
          rw [hcons, Option.map_eq_some_iff]
          constructor
          · rintro ⟨rest, hrest, rfl⟩
            rw [ih.mp hrest]
            rfl
          · intro h
            cases texts with
            | nil => cases h
            | cons text' texts =>
                rw [List.map_cons, List.cons.injEq] at h
                obtain ⟨⟨rfl⟩, hrest⟩ := h
                exact ⟨texts, ih.mpr hrest, rfl⟩
      | _ =>
          rw [hother nofun]
          refine ⟨nofun, fun h => ?_⟩
          cases texts with
          | nil => cases h
          | cons text texts => cases h

theorem names_of_checkNameList (h : checkNameList (all.map valueOf) label code value = []) :
    ∃ names : List α, value = .list (names.map fun name => .str (valueOf name)) ∧ names ≠ [] ∧
      names.length ≤ 16 ∧ names.Nodup := by
  cases value with
  | list values =>
      simp only [checkNameList] at h
      split_ifs at h with hempty hlong
      · exact absurd h (violation_ne_nil _ _)
      · exact absurd h (violation_ne_nil _ _)
      · split at h
        · exact absurd h (violation_ne_nil _ _)
        · next texts htexts =>
            obtain rfl := textsOf_eq_some_iff.mp htexts
            obtain ⟨hrepeat, hallowed⟩ := List.append_eq_nil_iff.mp h
            have hnodup : texts.Nodup := by
              by_contra hnot
              rw [if_neg hnot] at hrepeat
              exact violation_ne_nil _ _ hrepeat
            have hmem : ∀ text ∈ texts, text ∈ all.map valueOf := by
              intro text htext
              by_contra hnot
              rw [if_pos (List.any_eq_true.mpr ⟨text, htext, by simpa using hnot⟩)] at hallowed
              exact violation_ne_nil _ _ hallowed
            have hnames : texts ∈ Set.range (List.map valueOf) := by
              rw [Set.range_list_map]
              intro text htext
              obtain ⟨name, -, hname⟩ := List.mem_map.mp (hmem text htext)
              exact ⟨name, hname⟩
            obtain ⟨names, rfl⟩ := hnames
            refine ⟨names, by simp, by simpa using hempty, ?_, hnodup.of_map valueOf⟩
            simpa [maxListLength] using hlong
  | _ => exact absurd h (violation_ne_nil _ _)

variable [DecidableEq α]

theorem validateNames_eq_ok {validate : PyValue Float → Checked α} {names : List α}
    (hvalidate : ∀ name, validate (.str (valueOf name)) = .ok name) (hne : names ≠ [])
    (hlength : names.length ≤ 16) (hnodup : names.Nodup) :
    validateNames validate code kind (.list (names.map fun name => .str (valueOf name))) =
      .ok names := by
  have hempty : names.map (fun name => (.str (valueOf name) : PyValue Float)) ≠ [] := by
    simpa using hne
  have hlong : ¬ (names.map fun name => (.str (valueOf name) : PyValue Float)).length >
      Dataset.maxListLength := by
    rw [List.length_map]
    exact not_lt.mpr hlength
  simp only [validateNames]
  rw [if_neg hempty, if_neg hlong, mapM_map_eq_ok hvalidate]
  exact if_pos hnodup

end Names

section Values

theorem accepts_timestamp (h : checkFilterKind lib key .timestamp value = []) :
    Accepts (validateIsoTimestamp lib key value) := by
  simp only [checkFilterKind, ite_eq_left_iff] at h
  have hparsed : (parseTs lib value).isSome := by
    by_contra hnot
    exact violation_ne_nil _ _ (h hnot)
  cases value with
  | str text =>
      rw [parseTs] at hparsed
      split_ifs at hparsed with hlong
      · cases hparsed
      · rw [validateIsoTimestamp, if_neg hlong, if_pos hparsed]
        exact accepts_pure text
  | _ => cases hparsed

theorem accepts_hour (h : checkHour key value = []) : Accepts (validateHour key value) := by
  cases value with
  | int hour =>
      simp only [checkHour, ite_eq_left_iff, violation_ne_nil, imp_false, not_not] at h
      simp [validateHour, validateInt, h]
  | _ => exact absurd h (violation_ne_nil _ _)

theorem text_of_checkTextFilter {texts : Option (List String)} {message : String}
    (h : checkTextFilter key texts message value = []) :
    ∃ text, value = .str text ∧
      ¬ (strip text.toList = [] ∨ text.length > Dataset.maxStringLength) ∧
      ∀ allowed ∈ texts, text ∈ allowed := by
  cases value with
  | str text =>
      simp only [checkTextFilter] at h
      split_ifs at h with hshort
      · exact absurd h (violation_ne_nil _ _)
      · refine ⟨text, rfl, fun hbad => hshort (hbad.imp_right Or.inl), ?_⟩
        rintro allowed rfl
        simpa using h
  | _ => exact absurd h (violation_ne_nil _ _)

theorem accepts_string {texts : Option (List String)} {message : String}
    (h : checkTextFilter key texts message value = []) : Accepts (validateString key value) := by
  obtain ⟨text, rfl, hshort, -⟩ := text_of_checkTextFilter h
  rw [validateString, if_neg hshort]
  exact accepts_pure _

theorem accepts_zone (h : checkFilterKind lib key .text value = []) :
    Accepts (validateString key value) := by
  have hread : checkTextFilter key none "" value = [] := h
  exact accepts_string hread

theorem accepts_borough (h : checkFilterKind lib key .borough value = []) :
    Accepts (validateString key value) := by
  have hread : checkTextFilter key (some boroughs) (" must be one of " ++ lib.strList boroughs)
      value = [] := h
  exact accepts_string hread

theorem accepts_text {texts : List String} {message message' : String}
    (hstripped : ∀ text ∈ texts, String.ofList (strip text.toList) = text)
    (h : checkTextFilter key (some texts) message value = []) :
    Accepts (validateText texts message' key value) := by
  obtain ⟨text, rfl, hshort, hallowed⟩ := text_of_checkTextFilter h
  have hmem : text ∈ texts := hallowed texts rfl
  have hread : validateString key (.str text : PyValue Float) = .ok text := by
    rw [validateString, if_neg hshort, hstripped text hmem]
    rfl
  rw [validateText, accepts_bind_of_ok hread, if_pos hmem]
  exact accepts_pure text

theorem stripped_weekdays : ∀ text ∈ weekdays, String.ofList (strip text.toList) = text := by decide

theorem stripped_weekParts : ∀ text ∈ weekParts, String.ofList (strip text.toList) = text := by
    decide

theorem accepts_code (codes : List (Int × String))
    (h : checkCode key (codes.map Prod.fst) value = []) :
    Accepts (validateCode codes key value) := by
  cases value with
  | int code =>
      simp only [checkCode, ite_eq_left_iff, violation_ne_nil, imp_false, not_not] at h
      simp only [validateCode, validateInt, pure_bind]
      rw [if_pos h]
      exact accepts_pure code
  | _ => exact absurd h (violation_ne_nil _ _)

theorem accepts_int (h : checkFilterKind lib key .int value = []) :
    Accepts (validateInt key value) := by
  cases value with
  | int n => exact accepts_pure n
  | _ => exact absurd h (violation_ne_nil _ _)

theorem accepts_bool (h : checkFilterKind lib key .bool value = []) :
    Accepts (validateBool key value) := by
  cases value with
  | bool b => exact accepts_pure b
  | _ => exact absurd h (violation_ne_nil _ _)

theorem accepts_number_iff (h : checkFilterKind lib key .number value = []) :
    Accepts (validateNumber lib key value) ↔ ∀ n, value = .int n → (lib.num.ofInt n).isSome := by
  cases value with
  | int n =>
      have hread : validateNumber lib key (.int n : PyValue Float) =
          PyValue.toFloat lib.num (.int n) := rfl
      rw [hread, PyValue.toFloat, PyValue.asNumber]
      cases hn : lib.num.ofInt n with
      | none => simp [hn]
      | some x => simp [hn]
  | float x => exact iff_of_true (accepts_ok x) nofun
  | _ => exact absurd h (violation_ne_nil _ _)

theorem foreign_number (h : checkFilterKind lib key .number value = []) :
    Foreign (validateNumber lib key value) := by
  cases value with
  | int n => exact (foreign_toFloat : Foreign (PyValue.toFloat lib.num (.int n)))
  | float x => exact foreign_ok x
  | _ => exact absurd h (violation_ne_nil _ _)

end Values

section Filters

variable {payload : PyValue Float} {field : FilterField}

structure FieldsPass (lib : PyLibrary Float) (payload : PyValue Float) : Prop where
  passed : ∀ key kind, filterKinds.lookup key = some kind →
    payload.entry key .none = .none ∨
      checkFilterKind lib key kind (payload.entry key .none) = []

def NumbersFit (lib : PyLibrary Float) (payload : PyValue Float) : Prop :=
  ∀ key, filterKinds.lookup key = some .number →
    ∀ n, payload.entry key .none = .int n → (lib.num.ofInt n).isSome

def SaysValidity (payload : PyValue Float) : Prop :=
  payload.entry "valid_records_only" (.bool true) ≠ .none

theorem optional_of_none {validate : String → PyValue Float → Checked α}
    (h : payload.entry field.value .none = .none) : optionalField payload field validate =
      .ok none := by
  rw [optionalField, h]
  rfl

theorem optional_of_ne_none {validate : String → PyValue Float → Checked α}
    (h : payload.entry field.value .none ≠ .none) :
    optionalField payload field validate =
      some <$> validate field.value (payload.entry field.value .none) := by
  rw [optionalField]
  split
  · next hnone => exact absurd hnone h
  · rfl

theorem accepts_optional (hpass : FieldsPass lib payload) (kind : FilterKind)
    (hkind : filterKinds.lookup field.value = some kind)
    {validate : String → PyValue Float → Checked α}
    (hsound : ∀ value, checkFilterKind lib field.value kind value = [] →
      Accepts (validate field.value value)) : Accepts (optionalField payload field validate) := by
  by_cases hnone : payload.entry field.value .none = .none
  · rw [optional_of_none hnone]
    exact accepts_ok _
  · rw [optional_of_ne_none hnone, accepts_map]
    exact hsound _ ((hpass.passed _ _ hkind).resolve_left hnone)

theorem accepts_optional_number_iff (hpass : FieldsPass lib payload)
    (hkind : filterKinds.lookup field.value = some .number) :
    Accepts (optionalField payload field (validateNumber lib)) ↔
      ∀ n, payload.entry field.value .none = .int n → (lib.num.ofInt n).isSome := by
  by_cases hnone : payload.entry field.value .none = .none
  · rw [optional_of_none hnone, hnone]
    exact iff_of_true (accepts_ok _) nofun
  · rw [optional_of_ne_none hnone, accepts_map]
    exact accepts_number_iff ((hpass.passed _ _ hkind).resolve_left hnone)

theorem foreign_optional_number (hpass : FieldsPass lib payload)
    (hkind : filterKinds.lookup field.value = some .number) :
    Foreign (optionalField payload field (validateNumber lib)) := by
  by_cases hnone : payload.entry field.value .none = .none
  · rw [optional_of_none hnone]
    exact foreign_ok _
  · rw [optional_of_ne_none hnone]
    have hread := foreign_number ((hpass.passed _ _ hkind).resolve_left hnone)
    exact foreign_bind hread fun a => foreign_ok _

theorem readFilter_spec (hpass : FieldsPass lib payload) (filters : TaxiFilters Float) :
    ∀ field ∈ FilterField.optionals,
      (Accepts (readFilter lib payload filters field) ↔
        (filterKinds.lookup field.value = some .number →
          ∀ n, payload.entry field.value .none = .int n → (lib.num.ofInt n).isSome)) ∧
      Foreign (readFilter lib payload filters field) := by
  have haccepts {field : FilterField} {α : Type} {x : Checked α} {g : α → TaxiFilters Float}
      {p : Prop} (hx : Accepts x) (hnumber : filterKinds.lookup field.value ≠ some .number) :
      (Accepts (x >>= fun a => pure (g a)) ↔ (filterKinds.lookup field.value = some .number → p)) ∧
        Foreign (x >>= fun a => pure (g a)) := by
    have hall : Accepts (x >>= fun a => pure (g a)) := accepts_bind_pure.mpr hx
    exact ⟨iff_of_true hall fun h => absurd h hnumber, foreign_of_accepts hall⟩
  have hnumber {field : FilterField} {g : Option Float → TaxiFilters Float}
      (hkind : filterKinds.lookup field.value = some .number) :
      (Accepts (optionalField payload field (validateNumber lib) >>= fun a => pure (g a)) ↔
        (filterKinds.lookup field.value = some .number →
          ∀ n, payload.entry field.value .none = .int n → (lib.num.ofInt n).isSome)) ∧
        Foreign (optionalField payload field (validateNumber lib) >>= fun a => pure (g a)) := by
    rw [accepts_bind_pure, accepts_optional_number_iff hpass hkind]
    exact ⟨⟨fun h _ => h, fun h => h hkind⟩,
      foreign_bind (foreign_optional_number hpass hkind) fun a => foreign_ok _⟩
  intro field hfield
  cases field with
  | startTimestamp =>
      exact haccepts (accepts_optional hpass .timestamp rfl fun _ => accepts_timestamp) (by decide)
  | endTimestamp =>
      exact haccepts (accepts_optional hpass .timestamp rfl fun _ => accepts_timestamp) (by decide)
  | pickupHourMin =>
    exact haccepts (accepts_optional hpass .hour rfl fun _ => accepts_hour) (by decide)
  | pickupHourMax =>
    exact haccepts (accepts_optional hpass .hour rfl fun _ => accepts_hour) (by decide)
  | pickupWeekday =>
      exact haccepts (accepts_optional hpass .weekday rfl fun _ => accepts_text stripped_weekdays)
        (by decide)
  | pickupWeekPart =>
      exact haccepts (accepts_optional hpass .weekPart rfl fun _ => accepts_text stripped_weekParts)
        (by decide)
  | pickupZone =>
    exact haccepts (accepts_optional hpass .text rfl fun _ => accepts_zone) (by decide)
  | pickupBorough =>
    exact haccepts (accepts_optional hpass .borough rfl fun _ => accepts_borough) (by decide)
  | dropoffZone =>
    exact haccepts (accepts_optional hpass .text rfl fun _ => accepts_zone) (by decide)
  | dropoffBorough =>
    exact haccepts (accepts_optional hpass .borough rfl fun _ => accepts_borough) (by decide)
  | paymentType =>
      exact haccepts (accepts_optional hpass .paymentCode rfl fun _ =>
        accepts_code Dataset.paymentTypeCodes) (by decide)
  | rateCode =>
      exact haccepts (accepts_optional hpass .rateCode rfl fun _ =>
        accepts_code Dataset.rateCodeCodes) (by decide)
  | vendor =>
      exact haccepts (accepts_optional hpass .vendorCode rfl fun _ =>
        accepts_code Dataset.vendorCodes) (by decide)
  | passengerCountMin =>
    exact haccepts (accepts_optional hpass .int rfl fun _ => accepts_int) (by decide)
  | passengerCountMax =>
    exact haccepts (accepts_optional hpass .int rfl fun _ => accepts_int) (by decide)
  | tripDistanceMin => exact hnumber rfl
  | tripDistanceMax => exact hnumber rfl
  | tripDurationMin => exact hnumber rfl
  | tripDurationMax => exact hnumber rfl
  | fareAmountMin => exact hnumber rfl
  | fareAmountMax => exact hnumber rfl
  | airportTrip =>
    exact haccepts (accepts_optional hpass .bool rfl fun _ => accepts_bool) (by decide)
  | validRecordsOnly => exact absurd hfield (by decide)

theorem mem_of_lookup {entries : List (String × α)} {value : α}
    (h : entries.lookup key = some value) : (key, value) ∈ entries := by
  obtain ⟨before, after, rfl, -⟩ := List.lookup_eq_some_iff.mp h
  simp

theorem fieldsPass_of_checkFilter {filters : Dict Float}
    (h : filters.flatMap (checkFilter lib) = []) : FieldsPass lib (.dict filters) := by
  constructor
  intro key kind hkind
  cases hvalue : filters.lookup key with
  | none => exact .inl (by simp [PyValue.entry, hvalue])
  | some value =>
      have hentry : (PyValue.dict filters).entry key .none = value := by
        simp [PyValue.entry, hvalue]
      have hpassed : checkFilter lib (key, value) = [] :=
        List.flatMap_eq_nil_iff.mp h _ (mem_of_lookup hvalue)
      rw [hentry]
      cases value with
      | none => exact .inl rfl
      | _ => exact .inr (by simpa only [checkFilter, hkind] using hpassed)

inductive FiltersPass (lib : PyLibrary Float) : PyValue Float → Prop
  | none : FiltersPass lib .none
  | dict {filters : Dict Float} (hnames : unknownKeys filters (filterKinds.map Prod.fst) = [])
      (hfields : FieldsPass lib (.dict filters)) : FiltersPass lib (.dict filters)

theorem filtersPass_of_checkFilters {schema : PyValue Float} {label : String}
    (h : checkFilters lib schema label payload = .ok []) : FiltersPass lib payload := by
  cases payload with
  | none => exact .none
  | dict filters =>
      simp only [checkFilters, bind_eq_ok_iff] at h
      obtain ⟨scope, -, h⟩ := h
      have hall := Except.ok.inj h
      simp only [List.append_eq_nil_iff] at hall
      obtain ⟨⟨⟨hnames, hfields⟩, -⟩, -⟩ := hall
      refine .dict ?_ (fieldsPass_of_checkFilter hfields)
      by_contra hunknown
      rw [if_pos hunknown] at hnames
      exact violation_ne_nil _ _ hnames
  | _ => exact absurd (Except.ok.inj h) (violation_ne_nil _ _)

theorem mem_filterKinds_iff (key : String) :
    key ∈ filterKinds.map Prod.fst ↔ key ∈ FilterField.all.map FilterField.value := by
  have hsubset : ∀ name ∈ filterKinds.map Prod.fst, name ∈ FilterField.all.map
      FilterField.value := by
    decide
  have hsuperset : ∀ name ∈ FilterField.all.map FilterField.value,
      name ∈ filterKinds.map Prod.fst := by
    decide
  exact ⟨hsubset key, hsuperset key⟩

theorem unknownKeys_filterKinds (filters : Dict Float) :
    unknownKeys filters (FilterField.all.map FilterField.value) =
      unknownKeys filters (filterKinds.map Prod.fst) := by
  apply List.filter_congr
  intro key _
  simp only [mem_filterKinds_iff]

theorem readValidity_spec {entries : Dict Float} (hpass : FieldsPass lib (.dict entries))
    (filters : TaxiFilters Float) :
    (SaysValidity (.dict entries) →
      Accepts (readFilter lib (.dict entries) filters .validRecordsOnly)) ∧
      (¬ SaysValidity (.dict entries) →
        ¬ Foreign (readFilter lib (.dict entries) filters .validRecordsOnly)) := by
  have hread : readFilter lib (.dict entries) filters .validRecordsOnly =
      validateBool "valid_records_only"
        ((PyValue.dict entries).entry "valid_records_only" (.bool true))
        >>= fun value => pure { filters with validRecordsOnly := value } := rfl
  rw [hread]
  constructor
  · intro hsays
    rw [accepts_bind_pure]
    cases hvalue : entries.lookup "valid_records_only" with
    | none =>
        have hentry : (PyValue.dict entries).entry "valid_records_only" (.bool true) =
            .bool true := by
          simp [PyValue.entry, hvalue]
        rw [hentry]
        exact accepts_pure true
    | some value =>
        have hentry (default : PyValue Float) :
            (PyValue.dict entries).entry "valid_records_only" default = value := by
          simp [PyValue.entry, hvalue]
        have hne : value ≠ .none := by
          rw [← hentry (.bool true)]
          exact hsays
        have hpassed := hpass.passed "valid_records_only" .bool rfl
        rw [hentry] at hpassed ⊢
        exact accepts_bool (hpassed.resolve_left hne)
  · intro hnull hforeign
    have hentry : (PyValue.dict entries).entry "valid_records_only" (.bool true) = .none :=
      not_not.mp hnull
    rw [hentry] at hforeign
    exact hforeign _ rfl trivial

theorem validateFilters_spec (hpass : FiltersPass lib payload) :
    (Accepts (validateFilters lib payload) ↔ NumbersFit lib payload ∧ SaysValidity payload) ∧
      (Foreign (validateFilters lib payload) ↔
      (NumbersFit lib payload → SaysValidity payload)) := by
  cases hpass with
  | none =>
      have hfit : NumbersFit lib (.none : PyValue Float) := nofun
      have hsays : SaysValidity (.none : PyValue Float) := nofun
      exact ⟨iff_of_true (accepts_ok _) ⟨hfit, hsays⟩, iff_of_true (foreign_ok _) fun _ => hsays⟩
  | @dict entries hnames hfields =>
      have hknown : ¬ unknownKeys entries (FilterField.all.map FilterField.value) ≠ [] := by
        rw [unknownKeys_filterKinds, hnames]
        exact not_not.mpr rfl
      rw [validateFilters, if_neg hknown, FilterField.all, List.foldlM_append]
      have hfit : NumbersFit lib (.dict entries) ↔ ∀ field ∈ FilterField.optionals,
          filterKinds.lookup field.value = some .number →
            ∀ n, (PyValue.dict entries).entry field.value .none = .int n →
              (lib.num.ofInt n).isSome := by
        constructor
        · intro hall field _
          exact hall field.value
        · intro hall key hkind
          have hname : ∃ field ∈ FilterField.optionals, key = FilterField.value field := by
            have hkinds : ∀ entry ∈ filterKinds, entry.2 = .number →
                ∃ field ∈ FilterField.optionals, entry.1 = field.value := by decide
            exact hkinds (key, .number) (mem_of_lookup hkind) rfl
          obtain ⟨field, hfield, rfl⟩ := hname
          exact hall field hfield hkind
      have hsteps (filters : TaxiFilters Float) := readFilter_spec hfields filters
      have hfront := accepts_foldlM (s := ({} : TaxiFilters Float)) fun filters field hfield =>
        (hsteps filters field hfield).1
      have hforeign := foreign_foldlM (s := ({} : TaxiFilters Float)) fun filters field hfield =>
        (hsteps filters field hfield).2
      have hlast (filters : TaxiFilters Float) := readValidity_spec hfields filters
      constructor
      · rw [accepts_bind (p := SaysValidity (.dict entries)), hfront, hfit]
        intro filters _
        simp only [List.foldlM_cons, List.foldlM_nil, bind_pure]
        refine ⟨fun haccepts => ?_, (hlast filters).1⟩
        by_contra hnull
        exact (hlast filters).2 hnull (foreign_of_accepts haccepts)
      · rw [foreign_bind_iff (p := SaysValidity (.dict entries)) hforeign, hfront, hfit]
        intro filters _
        simp only [List.foldlM_cons, List.foldlM_nil, bind_pure]
        refine ⟨fun hlast' => ?_, fun hsays => foreign_of_accepts ((hlast filters).1 hsays)⟩
        by_contra hnull
        exact (hlast filters).2 hnull hlast'

end Filters

section Sample

def wholeFloats : NumOps Int where
  ofInt n := if n.natAbs < 2 ^ 1024 then some n else none
  zero := 0
  isZero x := x = 0
  isPositive x := 0 < x
  add := (· + ·)
  sub := (· - ·)
  mul := (· * ·)
  div := (· / ·)

def sampleLibrary : PyLibrary Int where
  num := wholeFloats
  str
    | .str text => text
    | .int n => toString n
    | .float n => toString n ++ ".0"
    | _ => ""
  fromisoformat _ := none
  yearMonth _ := ""
  digit c := if c.isDigit then some (c.toNat - '0'.toNat) else none
  casefold := List.map Char.toLower
  isFinite x := x.natAbs < 2 ^ 1024
  jsonFloat x := (toString x).length + 2
  round4 x := x
  trueDiv m n := some (m / n)

end Sample

end AiAnalytics.App.Validation
