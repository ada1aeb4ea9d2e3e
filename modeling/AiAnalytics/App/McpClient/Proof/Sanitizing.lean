import AiAnalytics.App.McpClient.Sanitizer
import AiAnalytics.Dataset.Proof.Envelopes
import AiAnalytics.Lib.JsonSize

/-!
# What the sanitizer makes of an envelope

An envelope of the shape that the sanitizer knows and that fits into its size goes through
unchanged, as long as no cell is an infinite number and no text of its extra fields is too long.
-/

namespace AiAnalytics.App.McpClient

open Lib Dataset
open Loop (Dict MCPToolError)

variable {Float : Type} {lib : PyLibrary Float}

section Shapes

inductive KnownExtra : String × PyValue Float → Prop
  | text {key text : String} (hkey : key ∈ stringExtras) (hne : text ≠ "") :
    KnownExtra (key, .str text)
  | texts {key : String} {texts : List String} (hkey : key ∈ listExtras)
      (hlength : texts.length ≤ 16)
      (htexts : ∀ text ∈ texts, text ≠ "" ∧ text.length ≤ 64) : KnownExtra (key, strings texts)

structure WellShaped (envelope : Envelope Float) : Prop where
  columns_pos : 1 ≤ envelope.columns.length
  columns_le : envelope.columns.length ≤ 16
  column : ∀ column ∈ envelope.columns, column ≠ "" ∧ column.length ≤ 128
  rows_le : envelope.rows.length ≤ 64
  rowCount : envelope.rowCount = envelope.rows.length
  width : ∀ row ∈ envelope.rows, row.length = envelope.columns.length
  cell : ∀ row ∈ envelope.rows, ∀ cell ∈ row, BoundedCell cell
  queryId : envelope.queryId ≠ "" ∧ envelope.queryId.length ≤ 128
  keys : (envelope.extra.map Prod.fst).Nodup
  extras : ∀ entry ∈ envelope.extra, KnownExtra entry

/-- The sanitizer passes the envelope and keeps its fields. -/
def Survives (lib : PyLibrary Float) (envelope : Envelope Float) : Prop :=
  ∃ result, sanitizeGovernedQueryResult lib envelope.payload = .ok result ∧
    ∀ key, result.lookup key = envelope.payload.lookup key

/-- No cell of the envelope is an infinite number and no text of its extra fields is too long. -/
structure Passable (lib : PyLibrary Float) (envelope : Envelope Float) : Prop where
  finite : ∀ row ∈ envelope.rows, ∀ cell ∈ row, FiniteCell lib cell
  short : ∀ key text, (key, .str text) ∈ envelope.extra → text.length ≤ 512

end Shapes

section Rows

variable {cell : PyValue Float} {cells : List (PyValue Float)} {width : Nat}

theorem sanitizeCell_of_finite (hbounded : BoundedCell cell) (hfinite : FiniteCell lib cell) :
    sanitizeCell lib cell = .ok cell := by
  cases cell with
  | none | int _ => rfl
  | str text =>
      rw [sanitizeCell, if_neg (Nat.not_lt.mpr hbounded)]
      rfl
  | float x =>
      have hx : lib.isFinite x = true := hfinite
      rw [sanitizeCell, if_pos hx]
      rfl
  | _ => exact hbounded.elim

theorem accepts_sanitizeCell (h : Accepts (sanitizeCell lib cell)) : FiniteCell lib cell := by
  cases cell with
  | float x =>
      by_cases hx : lib.isFinite x = true
      · exact hx
      · obtain ⟨a, ha⟩ := h
        rw [sanitizeCell, if_neg hx] at ha
        cases ha
  | _ => trivial

theorem sanitizeRow_of_finite (hwidth : cells.length = width)
    (hbounded : ∀ cell ∈ cells, BoundedCell cell) (hfinite : ∀ cell ∈ cells, FiniteCell lib cell) :
    sanitizeRow lib width (.list cells) = .ok (.list cells) := by
  have hcells : cells.mapM (sanitizeCell lib) = .ok cells :=
    mapM_eq_ok_self fun cell hmem => sanitizeCell_of_finite (hbounded cell hmem) (hfinite cell hmem)
  rw [sanitizeRow, if_neg (by simpa using hwidth), hcells]
  rfl

theorem accepts_sanitizeRow (h : Accepts (sanitizeRow lib width (.list cells))) :
    ∀ cell ∈ cells, FiniteCell lib cell := by
  rw [sanitizeRow] at h
  split_ifs at h with hwidth
  · obtain ⟨a, ha⟩ := h
    cases ha
  · intro cell hmem
    exact accepts_sanitizeCell (accepts_mapM_iff.mp (accepts_map.mp h) cell hmem)

end Rows

section Extras

variable {check : PyValue Float → Bool} {payload sanitized : Dict Float} {keys : List String}

theorem foldlM_addExtra
    (h : ∀ key ∈ keys, ∀ value, payload.lookup key = some value → check value = true) :
    keys.foldlM (addExtra check payload) sanitized = .ok (sanitized ++ pick keys payload) := by
  induction keys generalizing sanitized with
  | nil =>
      rw [pick, List.filterMap_nil, List.append_nil]
      rfl
  | cons key keys ih =>
      obtain ⟨hkey, hrest⟩ := List.forall_mem_cons.mp h
      rw [List.foldlM_cons]
      cases hlookup : payload.lookup key with
      | none =>
          have hstep : addExtra check payload sanitized key = .ok sanitized := by
            rw [addExtra, hlookup]
            rfl
          rw [hstep, pick, List.filterMap_cons_none (by rw [hlookup]; rfl)]
          exact ih hrest
      | some value =>
          have hstep : addExtra check payload sanitized key =
              .ok (sanitized ++ [(key, value)]) := by
            rw [addExtra, hlookup]
            exact if_pos (hkey value hlookup)
          rw [hstep, pick, List.filterMap_cons_some (by rw [hlookup]; rfl)]
          refine (ih hrest).trans ?_
          rw [List.append_assoc]
          rfl

theorem accepts_addExtras (h : Accepts (keys.foldlM (addExtra check payload) sanitized)) :
    ∀ key ∈ keys, ∀ value, payload.lookup key = some value → check value = true := by
  refine (accepts_foldlM fun sanitized key _ => ?_).mp h
  constructor
  · rintro ⟨result, hresult⟩ value hlookup
    by_contra hcheck
    rw [addExtra, hlookup] at hresult
    cases (if_neg hcheck).symm.trans hresult
  · intro hall
    rw [addExtra]
    split
    · exact accepts_pure _
    · next value hlookup => rw [if_pos (hall value hlookup)]; exact accepts_pure _

end Extras

section Payload

variable {envelope : Envelope Float}

def allFields : List String := baseFields ++ stringExtras ++ listExtras

theorem nodup_allFields : allFields.Nodup := by decide

theorem base_keys (envelope : Envelope Float) : envelope.base.map Prod.fst = baseFields := rfl

theorem KnownExtra.key_mem {entry : String × PyValue Float} (h : KnownExtra entry) :
    entry.1 ∈ stringExtras ++ listExtras := by
  cases h with
  | text hkey _ => exact List.mem_append_left _ hkey
  | texts hkey _ _ => exact List.mem_append_right _ hkey

theorem WellShaped.payload_keys (hshape : WellShaped envelope) :
    (envelope.payload.map Prod.fst).Nodup := by
  rw [Envelope.payload, List.map_append, base_keys]
  refine List.Nodup.append (by decide) hshape.keys ?_
  intro key hbase hextra
  obtain ⟨entry, hentry, rfl⟩ := List.mem_map.mp hextra
  have hknown := (hshape.extras entry hentry).key_mem
  have hdisjoint : ∀ key ∈ baseFields, key ∉ stringExtras ++ listExtras := by decide
  exact hdisjoint entry.1 hbase hknown

theorem WellShaped.payload_covered (hshape : WellShaped envelope) :
    ∀ entry ∈ envelope.payload, entry.1 ∈ allFields := by
  intro entry hentry
  rw [allFields, List.append_assoc]
  rcases List.mem_append.mp hentry with hbase | hextra
  · refine List.mem_append_left _ ?_
    rw [← base_keys envelope]
    exact List.mem_map.mpr ⟨entry, hbase, rfl⟩
  · exact List.mem_append_right _ (hshape.extras entry hextra).key_mem

theorem WellShaped.fields_known (hshape : WellShaped envelope) :
    ¬ (missingKeys envelope.payload baseFields ≠ [] ∨
      unknownKeys envelope.payload (baseFields ++ stringExtras ++ listExtras) ≠ []) := by
  have hmissing : missingKeys envelope.payload baseFields = [] := rfl
  have hunknown : unknownKeys envelope.payload (baseFields ++ stringExtras ++ listExtras) = [] := by
    rw [unknownKeys, List.filter_eq_nil_iff]
    intro key hkey
    obtain ⟨entry, hentry, rfl⟩ := List.mem_map.mp hkey
    have hcovered : entry.1 ∈ baseFields ++ stringExtras ++ listExtras :=
      hshape.payload_covered entry hentry
    rw [decide_eq_true_iff, not_not]
    exact hcovered
  exact not_or.mpr ⟨not_not.mpr hmissing, not_not.mpr hunknown⟩

theorem WellShaped.sanitizeQueryResult_base (hshape : WellShaped envelope) :
    sanitizeQueryResult lib envelope.base = (do
      let rows ← (envelope.rows.map .list).mapM
        (sanitizeRow lib (envelope.columns.map (.str : String → PyValue Float)).length)
      checkSize lib
        [("columns", .list (envelope.columns.map .str)), ("rows", .list rows),
          ("row_count", .int envelope.rowCount),
          ("execution_duration_ms", .int envelope.executionDurationMs),
          ("query_id", .str envelope.queryId), ("truncated", .bool envelope.truncated)]) := by
  have hfields : ¬ (missingKeys envelope.base baseFields ≠ [] ∨
      unknownKeys envelope.base baseFields ≠ []) := by
    have hmissing : missingKeys envelope.base baseFields = [] := rfl
    have hunknown : unknownKeys envelope.base baseFields = [] := rfl
    exact not_or.mpr ⟨not_not.mpr hmissing, not_not.mpr hunknown⟩
  have hmany : tooManyRows (.list (envelope.rows.map .list) : PyValue Float) = false := by
    have hrows := hshape.rows_le
    simp only [tooManyRows, maxQueryResultRows, Validation.maxRows, List.length_map,
      decide_eq_false_iff_not]
    omega
  have hcolumns : checkColumns (.list (envelope.columns.map .str) : PyValue Float) = true := by
    have hall : ∀ column ∈ envelope.columns, isBoundedText 128 (.str column : PyValue Float) =
        true := by
      intro column hmem
      simpa [isBoundedText] using hshape.column column hmem
    simpa [checkColumns, hshape.columns_le, hshape.columns_pos] using hall
  have hcount : countsRows (.int envelope.rowCount) (.list (envelope.rows.map .list) :
    PyValue Float) =
      true := by
    simp [countsRows, hshape.rowCount]
  have hduration : isDuration (.int envelope.executionDurationMs : PyValue Float) = true := by
    simp [isDuration]
  have hquery : isBoundedText 128 (.str envelope.queryId : PyValue Float) = true := by
    simpa [isBoundedText] using hshape.queryId
  have hrowsValue : (PyValue.dict envelope.base).entry "rows" .none =
      .list (envelope.rows.map .list) := rfl
  have hcolumnsValue : (PyValue.dict envelope.base).entry "columns" .none =
      .list (envelope.columns.map .str) := rfl
  have hcountValue : (PyValue.dict envelope.base).entry "row_count" .none =
      .int envelope.rowCount := rfl
  have hdurationValue : (PyValue.dict envelope.base).entry "execution_duration_ms" .none =
      .int envelope.executionDurationMs := rfl
  have hqueryValue : (PyValue.dict envelope.base).entry "query_id" .none =
      .str envelope.queryId := rfl
  have htruncatedValue : (PyValue.dict envelope.base).entry "truncated" .none =
      .bool envelope.truncated := rfl
  have hbool : isBool (.bool envelope.truncated : PyValue Float) = true := rfl
  rw [sanitizeQueryResult, if_neg hfields]
  simp only [hrowsValue, hcolumnsValue, hcountValue, hdurationValue, hqueryValue, htruncatedValue,
    hmany, hcolumns, hcount, hduration, hquery, hbool, Bool.false_eq_true, if_false, and_self,
    not_true_eq_false, PyValue.elements]

theorem checkSize_eq_ok {fields : Dict Float} {size : Nat}
    (hsize : jsonSize lib false (.dict fields) = some size) (hle : size ≤ maxQueryResultBytes) :
    checkSize lib fields = .ok fields := by
  rw [checkSize, hsize]
  exact if_neg (Nat.not_lt.mpr hle)

theorem WellShaped.extra_of_lookup (hshape : WellShaped envelope) {key : String}
    {value : PyValue Float} (hkey : key ∈ stringExtras ++ listExtras)
    (hlookup : envelope.payload.lookup key = some value) : (key, value) ∈ envelope.extra := by
  have hmem := (lookup_eq_some_iff_mem hshape.payload_keys).mp hlookup
  rcases List.mem_append.mp hmem with hbase | hextra
  · have hbaseKey : key ∈ baseFields := by
      rw [← base_keys envelope]
      exact List.mem_map.mpr ⟨(key, value), hbase, rfl⟩
    have hdisjoint : ∀ key ∈ baseFields, key ∉ stringExtras ++ listExtras := by decide
    exact absurd hkey (hdisjoint key hbaseKey)
  · exact hextra

theorem Passable.sizeAgrees (hpass : Passable lib envelope) (hshape : WellShaped envelope) :
    ∀ entry ∈ envelope.payload, SizeAgrees lib entry.2 := by
  have htexts (texts : List String) : SizeAgrees lib (.list (texts.map .str)) := by
    apply sizeAgrees_list
    intro item hitem
    obtain ⟨text, _, rfl⟩ := List.mem_map.mp hitem
    exact sizeAgrees_str text
  have hrows : SizeAgrees lib (.list (envelope.rows.map .list)) := by
    apply sizeAgrees_list
    intro item hitem
    obtain ⟨row, hrow, rfl⟩ := List.mem_map.mp hitem
    apply sizeAgrees_list
    intro cell hcell
    have hbounded := hshape.cell row hrow cell hcell
    have hfinite := hpass.finite row hrow cell hcell
    cases cell with
    | none => exact sizeAgrees_none
    | int n => exact sizeAgrees_int n
    | float x => exact sizeAgrees_float hfinite
    | str text => exact sizeAgrees_str text
    | _ => exact hbounded.elim
  have hbase : ∀ entry ∈ envelope.base, SizeAgrees lib entry.2 := by
    simp only [Envelope.base, List.forall_mem_cons]
    exact ⟨htexts _, hrows, sizeAgrees_int _, sizeAgrees_int _, sizeAgrees_str _, sizeAgrees_bool _,
      nofun⟩
  intro entry hentry
  rcases List.mem_append.mp hentry with hentry | hentry
  · exact hbase entry hentry
  · cases hshape.extras entry hentry with
    | text _ _ => exact sizeAgrees_str _
    | texts _ _ _ => exact htexts _

theorem Passable.sanitizeQueryResult (hpass : Passable lib envelope) (hshape : WellShaped envelope)
    {size : Nat} (hsize : jsonSize lib false (.dict envelope.payload) = some size)
    (hle : size ≤ maxQueryResultBytes) :
    sanitizeQueryResult lib envelope.base = .ok envelope.base := by
  obtain ⟨baseSize, hbaseSize, hbaseLe⟩ := jsonSize_dict_prefix hsize
  have hrows : (envelope.rows.map .list).mapM
      (sanitizeRow lib (envelope.columns.map (.str : String → PyValue Float)).length) =
        .ok (envelope.rows.map .list) := by
    apply mapM_eq_ok_self
    intro item hitem
    obtain ⟨row, hrow, rfl⟩ := List.mem_map.mp hitem
    rw [List.length_map]
    exact sanitizeRow_of_finite (hshape.width row hrow) (hshape.cell row hrow)
      (hpass.finite row hrow)
  rw [hshape.sanitizeQueryResult_base, hrows]
  exact checkSize_eq_ok hbaseSize (hbaseLe.trans hle)

theorem Passable.sanitizeGovernedQueryResult (hpass : Passable lib envelope)
    (hshape : WellShaped envelope) {size : Nat}
    (hsize : jsonSize lib false (.dict envelope.payload) = some size)
    (hle : size ≤ maxQueryResultBytes) :
    sanitizeGovernedQueryResult lib envelope.payload = .ok (pick allFields envelope.payload) := by
  have hperm : (pick allFields envelope.payload).Perm envelope.payload :=
    pick_perm nodup_allFields hshape.payload_keys hshape.payload_covered
  have hstrings : ∀ key ∈ stringExtras, ∀ value, envelope.payload.lookup key = some value →
      isBoundedText 512 value = true := by
    intro key hkey value hlookup
    have hextra := hshape.extra_of_lookup (List.mem_append_left _ hkey) hlookup
    cases hshape.extras _ hextra with
    | text _ hne => simpa [isBoundedText, hne] using hpass.short _ _ hextra
    | texts hlist _ _ =>
        have hdisjoint : ∀ key ∈ stringExtras, key ∉ listExtras := by decide
        exact absurd hlist (hdisjoint key hkey)
  have hlists : ∀ key ∈ listExtras, ∀ value, envelope.payload.lookup key = some value →
      isTextList value = true := by
    intro key hkey value hlookup
    have hextra := hshape.extra_of_lookup (List.mem_append_right _ hkey) hlookup
    cases hshape.extras _ hextra with
    | text hstring _ =>
        have hdisjoint : ∀ key ∈ stringExtras, key ∉ listExtras := by decide
        exact absurd hkey (hdisjoint key hstring)
    | texts _ hlength htexts => simpa [isTextList, strings, isBoundedText, hlength] using htexts
  have hall : envelope.base ++ pick stringExtras envelope.payload ++
      pick listExtras envelope.payload = pick allFields envelope.payload := by
    rw [allFields, pick_append, pick_append]
    rfl
  have hbase : (baseFields.map fun key => (key, (PyValue.dict envelope.payload).entry key .none)) =
      envelope.base := rfl
  rw [McpClient.sanitizeGovernedQueryResult, if_neg hshape.fields_known, hbase,
    hpass.sanitizeQueryResult hshape hsize hle]
  refine bind_eq_ok_iff.mpr ⟨_, rfl, ?_⟩
  refine bind_eq_ok_iff.mpr ⟨_, foldlM_addExtra hstrings, ?_⟩
  refine bind_eq_ok_iff.mpr ⟨_, foldlM_addExtra hlists, ?_⟩
  rw [hall]
  exact checkSize_eq_ok ((jsonSize_dict_perm hperm).trans hsize) hle

theorem survives_of_passable (hshape : WellShaped envelope)
    (hfits : Fits lib maxQueryResultBytes envelope) (hpass : Passable lib envelope) :
    Survives lib envelope := by
  obtain ⟨size, hsize, hle⟩ := hfits
  have hsame : jsonSize lib false (.dict envelope.payload) = some size := by
    rw [← hsize]
    exact sizeAgrees_dict (hpass.sizeAgrees hshape)
  have hperm : (pick allFields envelope.payload).Perm envelope.payload :=
    pick_perm nodup_allFields hshape.payload_keys hshape.payload_covered
  refine ⟨_, hpass.sanitizeGovernedQueryResult hshape hsame hle, ?_⟩
  intro key
  exact (lookup_eq_of_perm hperm.symm hshape.payload_keys key).symm

theorem passable_of_survives (hshape : WellShaped envelope) (h : Survives lib envelope) :
    Passable lib envelope := by
  obtain ⟨result, hresult, -⟩ := h
  have hbase : (baseFields.map fun key => (key, (PyValue.dict envelope.payload).entry key .none)) =
      envelope.base := rfl
  rw [sanitizeGovernedQueryResult, if_neg hshape.fields_known, hbase,
    hshape.sanitizeQueryResult_base] at hresult
  obtain ⟨sanitized, hsanitized, hresult⟩ := bind_eq_ok_iff.mp hresult
  obtain ⟨rows, hrows, -⟩ := bind_eq_ok_iff.mp hsanitized
  obtain ⟨extended, hextended, -⟩ := bind_eq_ok_iff.mp hresult
  constructor
  · intro row hrow
    have hall := accepts_mapM_iff.mp ⟨rows, hrows⟩
    exact accepts_sanitizeRow (hall (.list row) (List.mem_map_of_mem hrow))
  · intro key text hextra
    have hstrings := accepts_addExtras ⟨extended, hextended⟩
    cases hshape.extras _ hextra with
    | text hkey _ =>
        have hlookup : envelope.payload.lookup key = some (.str text) :=
          (lookup_eq_some_iff_mem hshape.payload_keys).mpr (List.mem_append_right _ hextra)
        have hcheck := hstrings key hkey _ hlookup
        simp only [isBoundedText, decide_eq_true_iff] at hcheck
        exact hcheck.2

theorem survives_iff (hshape : WellShaped envelope)
    (hfits : Fits lib maxQueryResultBytes envelope) :
    Survives lib envelope ↔ Passable lib envelope :=
  ⟨passable_of_survives hshape, survives_of_passable hshape hfits⟩

end Payload

end AiAnalytics.App.McpClient
