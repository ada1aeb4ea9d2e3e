import AiAnalytics.App.McpClient.Proof.Sanitizing
import AiAnalytics.App.Validation.Proof.FieldChecks

/-!
# What a sanitizer accepts

Every accepted result is the text of an envelope, or of a schema, that keeps the sanitizer's bounds;
from such a text the sanitizer reads the same envelope or schema again.
-/

namespace AiAnalytics.App.McpClient

open Lib Dataset
open Loop (Dict)

variable {Float : Type} {lib : PyLibrary Float} {payload result : Dict Float}

section Texts

variable {most : Nat} {value : PyValue Float} {items : List (PyValue Float)}

theorem isBoundedText_iff :
    isBoundedText most value = true ↔ ∃ text, value = .str text ∧ text ≠ "" ∧
      text.length ≤ most := by
  cases value with
  | str text => simp [isBoundedText]
  | _ => simp [isBoundedText]

theorem exists_map_of_forall {α β : Type} {write : α → β} {p : α → Prop} {items : List β}
    (h : ∀ item ∈ items, ∃ a, item = write a ∧ p a) : ∃ as : List α, items = as.map write ∧
      ∀ a ∈ as, p a := by
  induction items with
  | nil => exact ⟨[], rfl, nofun⟩
  | cons item items ih =>
      obtain ⟨⟨a, rfl, ha⟩, hitems⟩ := List.forall_mem_cons.mp h
      obtain ⟨as, rfl, has⟩ := ih hitems
      exact ⟨a :: as, rfl, List.forall_mem_cons.mpr ⟨ha, has⟩⟩

theorem all_isBoundedText_iff : items.all (isBoundedText most) = true ↔
    ∃ texts : List String, items = texts.map .str ∧ ∀ text ∈ texts, text ≠ "" ∧
      text.length ≤ most := by
  rw [List.all_eq_true]
  constructor
  · intro h
    exact exists_map_of_forall fun item hmem => isBoundedText_iff.mp (h item hmem)
  · rintro ⟨texts, rfl, htexts⟩ item hmem
    obtain ⟨text, htext, rfl⟩ := List.mem_map.mp hmem
    exact isBoundedText_iff.mpr ⟨text, rfl, htexts text htext⟩

theorem list_isBoundedText_iff (p : Nat → Prop) :
    (∃ items, value = .list items ∧ p items.length ∧ items.all (isBoundedText most) = true) ↔
      ∃ texts : List String, value = strings texts ∧ p texts.length ∧
        ∀ text ∈ texts, text ≠ "" ∧ text.length ≤ most := by
  constructor
  · rintro ⟨items, rfl, hlength, hall⟩
    obtain ⟨texts, rfl, htexts⟩ := all_isBoundedText_iff.mp hall
    rw [List.length_map] at hlength
    exact ⟨texts, rfl, hlength, htexts⟩
  · rintro ⟨texts, rfl, hlength, htexts⟩
    refine ⟨texts.map .str, rfl, ?_, all_isBoundedText_iff.mpr ⟨texts, rfl, htexts⟩⟩
    rwa [List.length_map]

theorem checkColumns_iff : checkColumns value = true ↔
    ∃ columns : List String, value = strings columns ∧ (1 ≤ columns.length ∧ columns.length ≤ 16) ∧
      ∀ column ∈ columns, column ≠ "" ∧ column.length ≤ 128 := by
  refine Iff.trans ?_ (list_isBoundedText_iff fun n => 1 ≤ n ∧ n ≤ 16)
  cases value <;> simp [checkColumns, and_assoc]

theorem checkSchemaColumns_iff : checkSchemaColumns value = true ↔
    ∃ columns : List String, value = strings columns ∧ (1 ≤ columns.length ∧ columns.length ≤ 64) ∧
      ∀ column ∈ columns, column ≠ "" ∧ column.length ≤ 128 := by
  refine Iff.trans ?_ (list_isBoundedText_iff fun n => 1 ≤ n ∧ n ≤ 64)
  cases value <;> simp [checkSchemaColumns, and_assoc]

theorem isTextList_iff : isTextList value = true ↔
    ∃ texts : List String, value = strings texts ∧ texts.length ≤ 16 ∧
      ∀ text ∈ texts, text ≠ "" ∧ text.length ≤ 64 := by
  refine Iff.trans ?_ (list_isBoundedText_iff (· ≤ 16))
  cases value <;> simp [isTextList]

end Texts

section Rows

variable {cell cell' row row' : PyValue Float} {width : Nat} {rows rows' : List (PyValue Float)}

theorem sanitizeCell_spec (h : sanitizeCell lib cell = .ok cell') :
    cell' = cell ∧ BoundedCell cell ∧ FiniteCell lib cell := by
  have hfinite := accepts_sanitizeCell ⟨cell', h⟩
  cases cell with
  | none | int _ =>
      cases h
      exact ⟨rfl, trivial, hfinite⟩
  | str text =>
      rw [sanitizeCell] at h
      split_ifs at h with hlong
      · cases h
      · cases h
        exact ⟨rfl, Nat.not_lt.mp hlong, hfinite⟩
  | float x =>
      have hx : lib.isFinite x = true := hfinite
      rw [sanitizeCell, if_pos hx] at h
      cases h
      exact ⟨rfl, trivial, hfinite⟩
  | _ => cases h

theorem sanitizeRow_spec (h : sanitizeRow lib width row = .ok row') :
    row' = row ∧ ∃ cells, row = .list cells ∧ cells.length = width ∧
      ∀ cell ∈ cells, BoundedCell cell ∧ FiniteCell lib cell := by
  cases row with
  | list cells =>
      rw [sanitizeRow] at h
      split_ifs at h with hwidth
      · cases h
      · rw [map_eq_pure_bind, bind_eq_ok_iff] at h
        obtain ⟨cells', hcells, hrow⟩ := h
        cases hrow
        obtain ⟨rfl, hplain⟩ := self_of_mapM_eq_ok (fun cell cell' => sanitizeCell_spec) hcells
        exact ⟨rfl, _, rfl, not_not.mp hwidth, hplain⟩
  | _ => cases h

end Rows

section Results

theorem checkSize_spec (h : checkSize lib payload = .ok result) :
    result = payload ∧ ∃ size ≤ maxQueryResultBytes, jsonSize lib false (.dict payload) = some
      size := by
  rw [checkSize] at h
  split at h
  · cases h
  · next size hsize =>
      split_ifs at h with hlarge
      · cases h
      · cases h
        exact ⟨rfl, size, Nat.not_lt.mp hlarge, hsize⟩

structure ResultBounds (lib : PyLibrary Float) (envelope : Envelope Float) (result : Dict Float) :
    Prop where
  payload : result = envelope.payload
  shape : WellShaped envelope
  finite : Passable lib envelope
  size : ∃ size ≤ maxQueryResultBytes, jsonSize lib false (.dict result) = some size

theorem countsRows_iff {rowCount rows : PyValue Float} : countsRows rowCount rows = true ↔
    ∃ items, rows = .list items ∧ rowCount = .int items.length := by
  cases rowCount <;> cases rows <;> simp [countsRows]

theorem isDuration_iff {value : PyValue Float} :
    isDuration value = true ↔ ∃ duration : Nat, value = .int duration := by
  cases value with
  | int n =>
      rw [isDuration, decide_eq_true_iff]
      constructor
      · intro h
        exact ⟨n.toNat, by rw [Int.toNat_of_nonneg h]⟩
      · rintro ⟨duration, hn⟩
        cases hn
        exact Int.natCast_nonneg _
  | _ => simp [isDuration]

theorem isBool_iff {value : PyValue Float} : isBool value = true ↔ ∃ b, value = .bool b := by
  cases value <;> simp [isBool]

theorem envelope_of_sanitizeQueryResult (h : sanitizeQueryResult lib payload = .ok result) :
    ∃ envelope, envelope.extra = [] ∧ ResultBounds lib envelope result := by
  rw [sanitizeQueryResult] at h
  by_cases hfields : missingKeys payload baseFields ≠ [] ∨ unknownKeys payload baseFields ≠ []
  · rw [if_pos hfields] at h
    cases h
  rw [if_neg hfields] at h
  dsimp only at h
  by_cases hmany : tooManyRows ((PyValue.dict payload).entry "rows" .none) = true
  · rw [if_pos hmany] at h
    cases h
  rw [if_neg hmany] at h
  by_cases hchecks : checkColumns ((PyValue.dict payload).entry "columns" .none) = true ∧
      countsRows ((PyValue.dict payload).entry "row_count" .none)
        ((PyValue.dict payload).entry "rows" .none) = true ∧
      isDuration ((PyValue.dict payload).entry "execution_duration_ms" .none) = true ∧
      isBoundedText 128 ((PyValue.dict payload).entry "query_id" .none) = true ∧
      isBool ((PyValue.dict payload).entry "truncated" .none) = true
  · rw [if_neg (not_not.mpr hchecks)] at h
    obtain ⟨hcolumns, hcount, hduration, hqueryId, htruncated⟩ := hchecks
    obtain ⟨columns, hcolumns, ⟨hpos, hle⟩, htexts⟩ := checkColumns_iff.mp hcolumns
    obtain ⟨items, hitems, hcount⟩ := countsRows_iff.mp hcount
    obtain ⟨duration, hduration⟩ := isDuration_iff.mp hduration
    obtain ⟨queryId, hqueryId, hid⟩ := isBoundedText_iff.mp hqueryId
    obtain ⟨truncated, htruncated⟩ := isBool_iff.mp htruncated
    rw [hcolumns, hitems, hcount, hduration, hqueryId, htruncated] at h
    rw [hitems] at hmany
    obtain ⟨rows', hrows, h⟩ := bind_eq_ok_iff.mp h
    obtain ⟨rfl, hread⟩ := self_of_mapM_eq_ok (fun row row' => sanitizeRow_spec) hrows
    obtain ⟨rows, rfl, hcells⟩ := exists_map_of_forall hread
    obtain ⟨rfl, hsize⟩ := checkSize_spec h
    have hwidth : (strings columns : PyValue Float).elements.length = columns.length :=
      List.length_map _
    have hrows : rows.length ≤ 64 := by
      simp only [tooManyRows, maxQueryResultRows, Validation.maxRows, List.length_map,
        decide_eq_true_iff] at hmany
      omega
    refine ⟨⟨columns, rows, rows.length, duration, queryId, truncated, []⟩, rfl, ?_, ?_, ?_, hsize⟩
    · rw [Envelope.payload, Envelope.base, List.append_nil, List.length_map]
      rfl
    · exact ⟨hpos, hle, htexts, hrows, rfl, fun row hrow => (hcells row hrow).1.trans hwidth,
        fun row hrow cell hcell => ((hcells row hrow).2 cell hcell).1, hid, List.nodup_nil,
        List.forall_mem_nil _⟩
    · exact ⟨fun row hrow cell hcell => ((hcells row hrow).2 cell hcell).2,
        fun key text hmem => absurd hmem List.not_mem_nil⟩
  · rw [if_pos hchecks] at h
    cases h

theorem knownExtra_of_mem
    (hstrings : ∀ key ∈ stringExtras, ∀ value, payload.lookup key = some value →
      isBoundedText 512 value = true)
    (hlists : ∀ key ∈ listExtras, ∀ value, payload.lookup key = some value →
      isTextList value = true)
    (entry : String × PyValue Float)
    (h : entry ∈ pick stringExtras payload ++ pick listExtras payload) :
    KnownExtra entry ∧ ∀ key text, entry = (key, .str text) → text.length ≤ 512 := by
  obtain ⟨key, value⟩ := entry
  rcases List.mem_append.mp h with h | h
  · obtain ⟨hkey, hlookup⟩ := mem_pick.mp h
    obtain ⟨text, rfl, hne, hle⟩ := isBoundedText_iff.mp (hstrings key hkey value hlookup)
    refine ⟨.text hkey hne, ?_⟩
    rintro _ _ ⟨⟩
    exact hle
  · obtain ⟨hkey, hlookup⟩ := mem_pick.mp h
    obtain ⟨texts, rfl, hlength, htexts⟩ := isTextList_iff.mp (hlists key hkey value hlookup)
    exact ⟨.texts hkey hlength htexts, nofun⟩

theorem pick_extras_sublist :
    ((pick stringExtras payload ++ pick listExtras payload).map Prod.fst).Sublist
      (stringExtras ++ listExtras) := by
  rw [List.map_append, keys_pick, keys_pick]
  exact List.filter_sublist.append List.filter_sublist

theorem envelope_of_sanitizeGovernedQueryResult
    (h : sanitizeGovernedQueryResult lib payload = .ok result) :
    ∃ envelope, ((envelope.extra.map Prod.fst).Sublist (stringExtras ++ listExtras)) ∧
      ResultBounds lib envelope result := by
  rw [sanitizeGovernedQueryResult] at h
  by_cases hfields : missingKeys payload baseFields ≠ [] ∨
      unknownKeys payload (baseFields ++ stringExtras ++ listExtras) ≠ []
  · rw [if_pos hfields] at h
    cases h
  rw [if_neg hfields] at h
  obtain ⟨base, hbase, h⟩ := bind_eq_ok_iff.mp h
  obtain ⟨named, hnamed, h⟩ := bind_eq_ok_iff.mp h
  obtain ⟨full, hfull, h⟩ := bind_eq_ok_iff.mp h
  obtain ⟨envelope, hplain, hbounds⟩ := envelope_of_sanitizeQueryResult hbase
  have hstrings := accepts_addExtras ⟨named, hnamed⟩
  have hlists := accepts_addExtras ⟨full, hfull⟩
  rw [foldlM_addExtra hstrings] at hnamed
  cases hnamed
  rw [foldlM_addExtra hlists] at hfull
  cases hfull
  obtain ⟨rfl, hsize⟩ := checkSize_spec h
  have hknown := knownExtra_of_mem hstrings hlists
  obtain ⟨rfl, hshape, hpass, _⟩ := hbounds
  refine ⟨{ envelope with extra := pick stringExtras payload ++ pick listExtras payload },
    pick_extras_sublist, ?_, ?_, ?_, hsize⟩
  · rw [Envelope.payload, hplain, List.append_nil, List.append_assoc]
    rfl
  · exact ⟨hshape.columns_pos, hshape.columns_le, hshape.column, hshape.rows_le, hshape.rowCount,
      hshape.width, hshape.cell, hshape.queryId, pick_extras_sublist.nodup (by decide),
      fun entry hentry => (hknown entry hentry).1⟩
  · exact ⟨hpass.finite, fun key text hentry => (hknown _ hentry).2 key text rfl⟩

end Results

section Fixpoints

theorem sanitizeQueryResult_again (h : sanitizeQueryResult lib payload = .ok result) :
    sanitizeQueryResult lib result = .ok result := by
  obtain ⟨envelope, hplain, rfl, hshape, hpass, size, hle, hsize⟩ :=
    envelope_of_sanitizeQueryResult h
  have hbase : envelope.payload = envelope.base := by
    rw [Envelope.payload, hplain, List.append_nil]
  rw [hbase]
  exact hpass.sanitizeQueryResult hshape hsize hle

theorem sanitizeGovernedQueryResult_again
    (h : sanitizeGovernedQueryResult lib payload = .ok result) :
    sanitizeGovernedQueryResult lib result = .ok result := by
  obtain ⟨envelope, hkeys, rfl, hshape, hpass, size, hle, hsize⟩ :=
    envelope_of_sanitizeGovernedQueryResult h
  have hordered : (envelope.payload.map Prod.fst).Sublist allFields := by
    rw [Envelope.payload, List.map_append, base_keys, allFields, List.append_assoc]
    exact (List.Sublist.refl _).append hkeys
  rw [hpass.sanitizeGovernedQueryResult hshape hsize hle, pick_self nodup_allFields hordered]

structure SchemaBounds (result : Dict Float) (columns : List String) (dataset month : String) :
    Prop where
  payload : result = [("columns", strings columns), ("dataset", .str dataset),
    ("month", .str month)]
  columns_pos : 1 ≤ columns.length
  columns_le : columns.length ≤ 64
  column : ∀ column ∈ columns, column ≠ "" ∧ column.length ≤ 128
  dataset : dataset ≠ "" ∧ dataset.length ≤ 128
  month : month ≠ "" ∧ month.length ≤ 16

theorem schema_of_sanitizeDatasetSchema (h : sanitizeDatasetSchema payload = .ok result) :
    ∃ columns dataset month, SchemaBounds result columns dataset month := by
  rw [sanitizeDatasetSchema] at h
  by_cases hfields : missingKeys payload schemaFields ≠ [] ∨ unknownKeys payload schemaFields ≠ []
  · rw [if_pos hfields] at h
    cases h
  rw [if_neg hfields] at h
  dsimp only at h
  by_cases hchecks : isBoundedText 128 ((PyValue.dict payload).entry "dataset" .none) = true ∧
      isBoundedText 16 ((PyValue.dict payload).entry "month" .none) = true ∧
      checkSchemaColumns ((PyValue.dict payload).entry "columns" .none) = true
  · rw [if_neg (not_not.mpr hchecks)] at h
    obtain ⟨hdataset, hmonth, hcolumns⟩ := hchecks
    obtain ⟨dataset, hdataset, hdatasetBounds⟩ := isBoundedText_iff.mp hdataset
    obtain ⟨month, hmonth, hmonthBounds⟩ := isBoundedText_iff.mp hmonth
    obtain ⟨columns, hcolumns, ⟨hpos, hle⟩, htexts⟩ := checkSchemaColumns_iff.mp hcolumns
    rw [hdataset, hmonth, hcolumns] at h
    cases h
    exact ⟨columns, dataset, month, rfl, hpos, hle, htexts, hdatasetBounds, hmonthBounds⟩
  · rw [if_pos hchecks] at h
    cases h

theorem sanitizeDatasetSchema_again (h : sanitizeDatasetSchema payload = .ok result) :
    sanitizeDatasetSchema result = .ok result := by
  obtain ⟨columns, dataset, month, rfl, hpos, hle, htexts, hdataset, hmonth⟩ :=
    schema_of_sanitizeDatasetSchema h
  have hchecks : isBoundedText 128 (.str dataset : PyValue Float) = true ∧
      isBoundedText 16 (.str month : PyValue Float) = true ∧
      checkSchemaColumns (strings columns : PyValue Float) = true :=
    ⟨isBoundedText_iff.mpr ⟨dataset, rfl, hdataset⟩, isBoundedText_iff.mpr ⟨month, rfl, hmonth⟩,
      checkSchemaColumns_iff.mpr ⟨columns, rfl, ⟨hpos, hle⟩, htexts⟩⟩
  have hfields : ¬ (missingKeys [("columns", strings columns), ("dataset", .str dataset),
        ("month", (.str month : PyValue Float))] schemaFields ≠ [] ∨
      unknownKeys [("columns", strings columns), ("dataset", .str dataset),
        ("month", (.str month : PyValue Float))] schemaFields ≠ []) := by
    exact not_or.mpr ⟨not_not.mpr rfl, not_not.mpr rfl⟩
  rw [sanitizeDatasetSchema, if_neg hfields]
  exact if_neg (not_not.mpr hchecks)

end Fixpoints

section Sanitizers

def Sanitizer.Bounded (lib : PyLibrary Float) (sanitizer : Sanitizer) (value : PyValue Float) :
    Prop :=
  ∃ result, value = .dict result ∧ match sanitizer with
    | .queryResult => ∃ envelope, envelope.extra = [] ∧ ResultBounds lib envelope result
    | .governedQueryResult => ∃ envelope, ResultBounds lib envelope result
    | .datasetSchema => ∃ columns dataset month, SchemaBounds result columns dataset month

theorem Sanitizer.accepted_eq_some_iff {sanitizer : Sanitizer} {value accepted : PyValue Float} :
    sanitizer.accepted lib value = some accepted ↔ ∃ payload result, value = .dict payload ∧
      accepted = .dict result ∧ sanitizer.sanitize lib payload = .ok result := by
  cases value with
  | dict payload =>
      rw [Sanitizer.accepted]
      cases hresult : sanitizer.sanitize lib payload with
      | ok result => simp [eq_comm, hresult]
      | error error => simp [hresult]
  | _ => simp [Sanitizer.accepted]

/-- What a sanitizer accepts is within its bounds, and the sanitizer leaves it as it is. -/
theorem sanitizer_sound_idempotent {sanitizer : Sanitizer} {value accepted : PyValue Float}
    (h : sanitizer.accepted lib value = some accepted) :
    sanitizer.Bounded lib accepted ∧ sanitizer.accepted lib accepted = some accepted := by
  obtain ⟨payload, result, rfl, rfl, hresult⟩ := Sanitizer.accepted_eq_some_iff.mp h
  rw [Sanitizer.accepted_eq_some_iff]
  cases sanitizer with
  | queryResult =>
      exact ⟨⟨result, rfl, envelope_of_sanitizeQueryResult hresult⟩, result, result, rfl, rfl,
        sanitizeQueryResult_again hresult⟩
  | governedQueryResult =>
      obtain ⟨envelope, -, hbounds⟩ := envelope_of_sanitizeGovernedQueryResult hresult
      exact ⟨⟨result, rfl, envelope, hbounds⟩, result, result, rfl, rfl,
        sanitizeGovernedQueryResult_again hresult⟩
  | datasetSchema =>
      exact ⟨⟨result, rfl, schema_of_sanitizeDatasetSchema hresult⟩, result, result, rfl, rfl,
        sanitizeDatasetSchema_again hresult⟩

def shuffledZones : PyValue Int :=
  .dict [("query_class", .str "dimension_values"), ("truncated", .bool false),
    ("row_count", .int 1),
    ("rows", .list [.list [.str "Astoria", .int 7]]), ("query_id", .str "query_1"),
    ("columns", strings ["pickup_zone", "trip_count"]), ("execution_duration_ms", .int 12)]

def orderedZones : PyValue Int :=
  .dict [("columns", strings ["pickup_zone", "trip_count"]),
    ("rows", .list [.list [.str "Astoria", .int 7]]), ("row_count", .int 1),
    ("execution_duration_ms", .int 12), ("query_id", .str "query_1"), ("truncated", .bool false),
    ("query_class", .str "dimension_values")]

theorem sanitizer_sound_idempotent_zones :
    Sanitizer.governedQueryResult.accepted Validation.sampleLibrary shuffledZones = some
      orderedZones ∧ Sanitizer.governedQueryResult.Bounded Validation.sampleLibrary orderedZones ∧
      Sanitizer.governedQueryResult.accepted Validation.sampleLibrary orderedZones =
      some orderedZones := by
  have haccepted : Sanitizer.governedQueryResult.accepted Validation.sampleLibrary shuffledZones =
      some orderedZones := by rfl
  exact ⟨haccepted, sanitizer_sound_idempotent haccepted⟩

end Sanitizers

end AiAnalytics.App.McpClient
