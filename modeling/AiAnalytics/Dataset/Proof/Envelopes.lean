import AiAnalytics.Dataset.Analytics
import AiAnalytics.Lib.Accepts

/-!
# The envelopes of governed queries

An envelope keeps as many of its first rows as fit into its size. From what the database returns
follows the shape of the rows that each tool puts into its envelope.
-/

namespace AiAnalytics.Dataset

open Lib

variable {Float : Type} {lib : PyLibrary Float} {db : Database Float}
  {envelope result : Envelope Float} {maxBytes : Nat}

section Trimming

def Fits (lib : PyLibrary Float) (maxBytes : Nat) (envelope : Envelope Float) : Prop :=
  ∃ size, jsonSize lib true (.dict envelope.payload) = some size ∧ size ≤ maxBytes

def Envelope.firstRows (envelope : Envelope Float) (count : Nat) : Envelope Float :=
  if count = envelope.rows.length then envelope
  else { envelope with rows := envelope.rows.take count, rowCount := count, truncated := true }

def KeepsRow (lib : PyLibrary Float) (maxBytes : Nat) (envelope : Envelope Float) (i : Nat) :
    Prop :=
  ∃ count ≤ envelope.rows.length, i < count ∧ Fits lib maxBytes (envelope.firstRows count)

@[simp]
theorem Envelope.firstRows_length : envelope.firstRows envelope.rows.length = envelope := if_pos rfl

@[simp]
theorem Envelope.firstRows_rows (count : Nat) :
    (envelope.firstRows count).rows = envelope.rows.take count := by
  rw [Envelope.firstRows]
  by_cases hall : count = envelope.rows.length
  · rw [if_pos hall, hall, List.take_length]
  · rw [if_neg hall]

@[simp]
theorem Envelope.firstRows_columns (count : Nat) :
    (envelope.firstRows count).columns = envelope.columns := by
  rw [Envelope.firstRows]
  split_ifs <;> rfl

@[simp]
theorem Envelope.firstRows_queryId (count : Nat) :
    (envelope.firstRows count).queryId = envelope.queryId := by
  rw [Envelope.firstRows]
  split_ifs <;> rfl

@[simp]
theorem Envelope.firstRows_extra (count : Nat) :
    (envelope.firstRows count).extra = envelope.extra := by
  rw [Envelope.firstRows]
  split_ifs <;> rfl

theorem Envelope.firstRows_rowCount {count : Nat}
    (hcount : envelope.rowCount = envelope.rows.length) (h : count ≤ envelope.rows.length) :
    (envelope.firstRows count).rowCount = (envelope.firstRows count).rows.length := by
  rw [Envelope.firstRows]
  by_cases hall : count = envelope.rows.length
  · rw [if_pos hall, hcount]
  · rw [if_neg hall, List.length_take, min_eq_left h]

theorem Envelope.popRow_firstRows {count : Nat} (h : count + 1 ≤ envelope.rows.length) :
    (envelope.firstRows (count + 1)).popRow = envelope.firstRows count := by
  have hne : count ≠ envelope.rows.length := by omega
  have hlength : (envelope.rows.take count).length = count := by
    rw [List.length_take]
    omega
  rw [Envelope.firstRows, Envelope.firstRows, if_neg hne]
  by_cases hall : count + 1 = envelope.rows.length
  · have hrows : envelope.rows.dropLast = envelope.rows.take count := by
      rw [List.dropLast_eq_take, ← hall, Nat.add_sub_cancel]
    rw [if_pos hall, Envelope.popRow, hrows, hlength]
  · have hrows : (envelope.rows.take (count + 1)).dropLast = envelope.rows.take count := by
      rw [List.dropLast_take (by omega), Nat.add_sub_cancel]
    rw [if_neg hall, Envelope.popRow, hrows, hlength]

theorem fitLoop_spec {count : Nat} (hcount : count ≤ envelope.rows.length)
    (h : fitLoop lib maxBytes count (envelope.firstRows count) = .ok result) :
    ∃ kept ≤ count, result = envelope.firstRows kept ∧ Fits lib maxBytes result ∧
      ∀ more, kept < more → more ≤ count → ¬ Fits lib maxBytes (envelope.firstRows more) := by
  induction count with
  | zero =>
      rw [fitLoop] at h
      split at h
      · cases h
      · next size hsize =>
          split_ifs at h with hfits
          cases h
          exact ⟨0, le_rfl, rfl, ⟨size, hsize, hfits⟩, by omega⟩
  | succ count ih =>
      rw [fitLoop] at h
      split at h
      · cases h
      · next size hsize =>
          split_ifs at h with hfits
          · cases h
            exact ⟨count + 1, le_rfl, rfl, ⟨size, hsize, hfits⟩, by omega⟩
          · rw [Envelope.popRow_firstRows hcount] at h
            obtain ⟨kept, hkept, hresult, hfits', hmore⟩ := ih (by omega) h
            refine ⟨kept, by omega, hresult, hfits', ?_⟩
            intro more hless hle
            rcases Nat.lt_or_eq_of_le hle with hlt | rfl
            · exact hmore more hless (by omega)
            · rintro ⟨size', hsize', hfits''⟩
              rw [hsize] at hsize'
              cases hsize'
              exact hfits hfits''

theorem fitRows_spec (h : fitRows lib maxBytes envelope = .ok result) :
    ∃ kept ≤ envelope.rows.length, result = envelope.firstRows kept ∧ Fits lib maxBytes result ∧
      ∀ i, KeepsRow lib maxBytes envelope i ↔ i < kept := by
  rw [fitRows] at h
  have hstart : envelope.firstRows envelope.rows.length = envelope := Envelope.firstRows_length
  rw [← hstart] at h
  simp only [Envelope.firstRows_length] at h
  obtain ⟨kept, hkept, rfl, hfits, hmore⟩ :=
    fitLoop_spec le_rfl (by rw [hstart]; exact h)
  refine ⟨kept, hkept, rfl, hfits, ?_⟩
  intro i
  constructor
  · rintro ⟨count, hcount, hi, hfits'⟩
    by_contra hnot
    exact hmore count (by omega) hcount hfits'
  · intro hi
    exact ⟨kept, hkept, hi, hfits⟩

theorem fitRows_of_fits (h : Fits lib maxBytes envelope) :
    fitRows lib maxBytes envelope = .ok envelope := by
  obtain ⟨size, hsize, hle⟩ := h
  rw [fitRows]
  cases envelope.rows.length <;> rw [fitLoop, hsize] <;> exact if_pos hle

end Trimming

section Cells

def BoundedCell : PyValue Float → Prop
  | .none | .int _ | .float _ => True
  | .str text => text.length ≤ 128
  | _ => False

def FiniteCell (lib : PyLibrary Float) : PyValue Float → Prop
  | .float x => lib.isFinite x = true
  | _ => True

structure ReturnsPlain (lib : PyLibrary Float) (db : Database Float) : Prop where
  columns : ∀ query fetched, db.execute query = .ok fetched → fetched.columns = query.outputColumns
  width : ∀ query fetched, db.execute query = .ok fetched →
    ∀ row ∈ fetched.rows, row.length = query.outputColumns.length
  cell : ∀ query fetched, db.execute query = .ok fetched →
    ∀ row ∈ fetched.rows, ∀ cell ∈ row, BoundedCell cell ∧ FiniteCell lib cell

structure Ran (lib : PyLibrary Float) (query : CompiledQuery Float) (limit : Int)
    (envelope : Envelope Float) : Prop where
  columns : envelope.columns = query.outputColumns
  rows_le : envelope.rows.length ≤ limit.toNat
  rowCount : envelope.rowCount = envelope.rows.length
  width : ∀ row ∈ envelope.rows, row.length = query.outputColumns.length
  cell : ∀ row ∈ envelope.rows, ∀ cell ∈ row, BoundedCell cell ∧ FiniteCell lib cell
  queryId : envelope.queryId ≠ "" ∧ envelope.queryId.length ≤ 128
  extra : envelope.extra = []

theorem length_queryId (uuid : UuidHex) : (queryId uuid).length = 38 := by
  have hprefix : "query_".length = 6 := rfl
  rw [queryId, String.length_append, hprefix, String.length_ofList, uuid.length_eq]

theorem queryId_bounded (uuid : UuidHex) : queryId uuid ≠ "" ∧ (queryId uuid).length ≤ 128 := by
  have hlength := length_queryId uuid
  refine ⟨?_, by omega⟩
  intro hempty
  rw [hempty] at hlength
  cases hlength

theorem ran_of_runGovernedQuery (hdb : ReturnsPlain lib db) {query : CompiledQuery Float}
    {limit : Int} (h : runGovernedQuery lib db query limit maxBytes = .ok result) :
    Ran lib query limit result := by
  rw [runGovernedQuery] at h
  split_ifs at h with hsmall
  split at h
  · cases h
  · cases h
  · cases h
  · next fetched hfetched =>
      obtain ⟨kept, hkept, rfl, -, -⟩ := fitRows_spec h
      have hmem : ∀ row ∈ (fetched.rows.take limit.toNat).take kept, row ∈ fetched.rows :=
        fun row hrow => List.mem_of_mem_take (List.mem_of_mem_take hrow)
      have hrowCount := Envelope.firstRows_rowCount rfl hkept
      refine ⟨?_, ?_, hrowCount, ?_, ?_, ?_, ?_⟩
      · rw [Envelope.firstRows_columns]
        exact hdb.columns query fetched hfetched
      · rw [Envelope.firstRows_rows, List.length_take, List.length_take]
        omega
      · rw [Envelope.firstRows_rows]
        exact fun row hrow => hdb.width query fetched hfetched row (hmem row hrow)
      · rw [Envelope.firstRows_rows]
        exact fun row hrow => hdb.cell query fetched hfetched row (hmem row hrow)
      · rw [Envelope.firstRows_queryId]
        exact queryId_bounded _
      · rw [Envelope.firstRows_extra]

end Cells

section Changes

variable {baseline comparison change : PyValue Float} {cells row : List (PyValue Float)}

def ChangeFits (lib : PyLibrary Float) (baseline comparison : PyValue Float) : Prop :=
  isNumber baseline = true → isNumber comparison = true →
    ∀ difference : PyValue Float,
      (PyValue.sub lib.num comparison baseline : Checked (PyValue Float)) = .ok difference →
      FiniteCell lib (round4 lib difference)

def PercentFits (lib : PyLibrary Float) (baseline comparison : PyValue Float) : Prop :=
  isNumber baseline = true → isNumber comparison = true → baseline.eqZero lib.num = false →
    ∀ difference ratio percent : PyValue Float,
      (PyValue.sub lib.num comparison baseline : Checked (PyValue Float)) = .ok difference →
      quotient lib difference baseline = .ok ratio →
      (PyValue.arith lib.num (· * ·) lib.num.mul ratio (.int 100) : Checked (PyValue Float)) =
        .ok percent →
      FiniteCell lib (round4 lib percent)

theorem boundedCell_round4 {onInt : Int → Int → Int} {onFloat : Float → Float → Float}
    {a b result : PyValue Float}
    (h : (PyValue.arith lib.num onInt onFloat a b : Checked (PyValue Float)) = .ok result) :
    BoundedCell (round4 lib result) := by
  unfold PyValue.arith at h
  repeat' split at h
  all_goals cases h <;> exact trivial

theorem delta_spec (h : delta lib baseline comparison = .ok change) :
    BoundedCell change ∧ (FiniteCell lib change ↔ ChangeFits lib baseline comparison) := by
  rw [delta] at h
  by_cases hnumbers : (isNumber baseline && isNumber comparison) = true
  · rw [if_pos hnumbers] at h
    obtain ⟨hbaseline, hcomparison⟩ := (Bool.and_eq_true _ _).mp hnumbers
    cases hsub : (PyValue.sub lib.num comparison baseline : Checked (PyValue Float)) with
    | error error =>
        rw [hsub] at h
        cases h
    | ok difference =>
        rw [hsub] at h
        cases h
        refine ⟨boundedCell_round4 hsub, ?_⟩
        constructor
        · intro hfinite _ _ difference' hdifference'
          rw [hsub] at hdifference'
          cases hdifference'
          exact hfinite
        · intro hfits
          exact hfits hbaseline hcomparison difference hsub
  · rw [if_neg hnumbers] at h
    cases h
    refine ⟨trivial, iff_of_true trivial ?_⟩
    intro hbaseline hcomparison
    exact absurd ((Bool.and_eq_true _ _).mpr ⟨hbaseline, hcomparison⟩) hnumbers

theorem deltaPct_spec (h : deltaPct lib baseline comparison = .ok change) :
    BoundedCell change ∧ (FiniteCell lib change ↔ PercentFits lib baseline comparison) := by
  rw [deltaPct] at h
  by_cases hnumbers :
      (isNumber baseline && isNumber comparison && !baseline.eqZero lib.num) = true
  · rw [if_pos hnumbers] at h
    obtain ⟨difference, hsub, h⟩ := bind_eq_ok_iff.mp h
    obtain ⟨ratio, hratio, h⟩ := bind_eq_ok_iff.mp h
    simp only [Bool.and_eq_true, Bool.not_eq_true'] at hnumbers
    obtain ⟨⟨hbaseline, hcomparison⟩, hzero⟩ := hnumbers
    cases hpercent : (PyValue.arith lib.num (· * ·) lib.num.mul ratio (.int 100) :
        Checked (PyValue Float)) with
    | error error =>
        rw [hpercent] at h
        cases h
    | ok percent =>
        rw [hpercent] at h
        cases h
        refine ⟨boundedCell_round4 hpercent, ?_⟩
        constructor
        · intro hfinite _ _ _ difference' ratio' percent' hsub' hratio' hpercent'
          rw [hsub] at hsub'
          cases hsub'
          rw [hratio] at hratio'
          cases hratio'
          rw [hpercent] at hpercent'
          cases hpercent'
          exact hfinite
        · intro hfits
          exact hfits hbaseline hcomparison hzero difference ratio percent hsub hratio hpercent
  · rw [if_neg hnumbers] at h
    cases h
    refine ⟨trivial, iff_of_true trivial ?_⟩
    intro hbaseline hcomparison hzero
    exact absurd (by simp [hbaseline, hcomparison, hzero]) hnumbers

end Changes

section ComparedRows

variable {cells row : List (PyValue Float)} {count index : Nat}
  {given baselineGiven comparisonGiven : Bool} {measure : MeasureName} {cell : PyValue Float}

theorem cellAt_eq_ok_iff {i : Nat} : cellAt cells i = .ok cell ↔ cells[i]? = some cell := by
  rw [cellAt]
  cases cells[i]? with
  | none => exact ⟨nofun, nofun⟩
  | some value => exact ⟨fun h => by cases h; rfl, fun h => by cases h; rfl⟩

theorem sideCell_plain (hplain : ∀ cell ∈ cells, BoundedCell cell ∧ FiniteCell lib cell)
    (h : sideCell cells given index = .ok cell) : BoundedCell cell ∧ FiniteCell lib cell := by
  cases given with
  | false =>
      cases h
      exact ⟨trivial, trivial⟩
  | true => exact hplain cell (List.mem_of_getElem? (cellAt_eq_ok_iff.mp h))

def BothFit (lib : PyLibrary Float) (baseline comparison : PyValue Float) : Prop :=
  ChangeFits lib baseline comparison ∧ PercentFits lib baseline comparison

theorem measureValue_bounded (measure : MeasureName) :
    measure.value ≠ "" ∧ measure.value.length ≤ 64 := by
  cases measure <;> decide

theorem dimensionValue_bounded (dimension : DimensionName) :
    dimension.value ≠ "" ∧ dimension.value.length ≤ 64 := by
  cases dimension <;> decide

theorem wholeRow_spec (hplain : ∀ cell ∈ cells, BoundedCell cell ∧ FiniteCell lib cell)
    (h : wholeRow lib cells baselineGiven comparisonGiven index measure = .ok row) :
    row.length = 5 ∧ (∀ cell ∈ row, BoundedCell cell) ∧
      ((∀ cell ∈ row, FiniteCell lib cell) ↔
        ∀ baseline comparison, sideCell cells baselineGiven (2 + 2 * index) = .ok baseline →
          sideCell cells comparisonGiven (3 + 2 * index) = .ok comparison →
          BothFit lib baseline comparison) := by
  simp only [wholeRow, bind_eq_ok_iff] at h
  obtain ⟨baseline, hbaseline, comparison, hcomparison, change, hchange, percent, hpercent, hrow⟩ :=
    h
  cases hrow
  have hname : BoundedCell (.str measure.value : PyValue Float) :=
    (measureValue_bounded measure).2.trans (by decide)
  obtain ⟨hbaselineBounded, hbaselineFinite⟩ := sideCell_plain hplain hbaseline
  obtain ⟨hcomparisonBounded, hcomparisonFinite⟩ := sideCell_plain hplain hcomparison
  obtain ⟨hchangeBounded, hchangeFinite⟩ := delta_spec hchange
  obtain ⟨hpercentBounded, hpercentFinite⟩ := deltaPct_spec hpercent
  refine ⟨rfl, ?_, ?_⟩
  · simp only [List.forall_mem_cons]
    exact ⟨hname, hbaselineBounded, hcomparisonBounded, hchangeBounded, hpercentBounded, nofun⟩
  · simp only [List.forall_mem_cons, hchangeFinite, hpercentFinite]
    constructor
    · rintro ⟨-, -, -, hfits, hpercentFits, -⟩ baseline' comparison' hbaseline' hcomparison'
      rw [hbaseline] at hbaseline'
      rw [hcomparison] at hcomparison'
      cases hbaseline'
      cases hcomparison'
      exact ⟨hfits, hpercentFits⟩
    · intro hfits
      obtain ⟨hchangeFits, hpercentFits⟩ := hfits baseline comparison hbaseline hcomparison
      exact ⟨trivial, hbaselineFinite, hcomparisonFinite, hchangeFits, hpercentFits, nofun⟩

theorem segmentCells_spec (hplain : ∀ cell ∈ cells, BoundedCell cell ∧ FiniteCell lib cell)
    (h : segmentCells lib cells index = .ok row) :
    row.length = 3 ∧ (∀ cell ∈ row, BoundedCell cell) ∧
      ((∀ cell ∈ row, FiniteCell lib cell) ↔
        ∀ baseline comparison, cells[1 + 2 * index]? = some baseline →
          cells[2 + 2 * index]? = some comparison → ChangeFits lib baseline comparison) := by
  simp only [segmentCells, bind_eq_ok_iff, cellAt_eq_ok_iff] at h
  obtain ⟨baseline, hbaseline, comparison, hcomparison, change, hchange, hrow⟩ := h
  cases hrow
  obtain ⟨hbaselineBounded, hbaselineFinite⟩ := hplain baseline (List.mem_of_getElem? hbaseline)
  obtain ⟨hcomparisonBounded, hcomparisonFinite⟩ :=
    hplain comparison (List.mem_of_getElem? hcomparison)
  obtain ⟨hchangeBounded, hchangeFinite⟩ := delta_spec hchange
  refine ⟨rfl, ?_, ?_⟩
  · simp only [List.forall_mem_cons]
    exact ⟨hbaselineBounded, hcomparisonBounded, hchangeBounded, nofun⟩
  · simp only [List.forall_mem_cons, hchangeFinite]
    constructor
    · rintro ⟨-, -, hfits, -⟩ baseline' comparison' hbaseline' hcomparison'
      rw [hbaseline] at hbaseline'
      rw [hcomparison] at hcomparison'
      cases hbaseline'
      cases hcomparison'
      exact hfits
    · intro hfits
      exact ⟨hbaselineFinite, hcomparisonFinite, hfits baseline comparison hbaseline hcomparison,
        nofun⟩

theorem length_flatten_of_forall {α : Type} {lists : List (List α)} {n : Nat}
    (h : ∀ list ∈ lists, list.length = n) : lists.flatten.length = n * lists.length := by
  induction lists with
  | nil => rfl
  | cons list lists ih =>
      obtain ⟨hlist, hrest⟩ := List.forall_mem_cons.mp h
      rw [List.flatten_cons, List.length_append, hlist, ih hrest, List.length_cons, Nat.mul_succ,
        Nat.add_comm]

theorem segmentRow_spec (hplain : ∀ cell ∈ cells, BoundedCell cell ∧ FiniteCell lib cell)
    (h : segmentRow lib count cells = .ok row) :
    row.length = 1 + 3 * count ∧ (∀ cell ∈ row, BoundedCell cell) ∧
      ((∀ cell ∈ row, FiniteCell lib cell) ↔
        ∀ index < count, ∀ baseline comparison, cells[1 + 2 * index]? = some baseline →
          cells[2 + 2 * index]? = some comparison → ChangeFits lib baseline comparison) := by
  simp only [segmentRow, bind_eq_ok_iff, cellAt_eq_ok_iff] at h
  obtain ⟨dimension, hdimension, triples, htriples, hrow⟩ := h
  cases hrow
  obtain ⟨hbounded, hfinite⟩ := hplain dimension (List.mem_of_getElem? hdimension)
  have hlength : triples.length = count := by
    rw [← (forall₂_of_mapM_eq_ok htriples).length_eq, List.length_range]
  -- each triple comes from its index, and each index has a triple
  have hread : ∀ triple ∈ triples, ∃ index < count, segmentCells lib cells index = .ok triple := by
    intro triple hmem
    obtain ⟨i, hi⟩ := List.mem_iff_getElem?.mp hmem
    obtain ⟨index, hindex, htriple⟩ := item_of_mapM_eq_ok htriples hi
    exact ⟨index, List.mem_range.mp (List.mem_of_getElem? hindex), htriple⟩
  have hgiven : ∀ index < count, ∃ triple ∈ triples, segmentCells lib cells index = .ok triple := by
    intro index hindex
    obtain ⟨triple, hmem, htriple⟩ := result_of_mapM_eq_ok htriples (List.getElem?_range hindex)
    exact ⟨triple, List.mem_of_getElem? hmem, htriple⟩
  have hthree : ∀ triple ∈ triples, triple.length = 3 := by
    intro triple hmem
    obtain ⟨index, _, htriple⟩ := hread triple hmem
    exact (segmentCells_spec hplain htriple).1
  refine ⟨?_, ?_, ?_⟩
  · rw [List.length_cons, length_flatten_of_forall hthree, hlength, Nat.add_comm]
  · refine List.forall_mem_cons.mpr ⟨hbounded, ?_⟩
    intro cell hcell
    obtain ⟨triple, hmem, hcell⟩ := List.mem_flatten.mp hcell
    obtain ⟨index, _, htriple⟩ := hread triple hmem
    exact (segmentCells_spec hplain htriple).2.1 cell hcell
  · constructor
    · intro hall index hindex
      obtain ⟨triple, hmem, htriple⟩ := hgiven index hindex
      refine (segmentCells_spec hplain htriple).2.2.mp fun cell hcell => ?_
      exact hall cell (List.mem_cons_of_mem _ (List.mem_flatten.mpr ⟨triple, hmem, hcell⟩))
    · intro hall
      refine List.forall_mem_cons.mpr ⟨hfinite, ?_⟩
      intro cell hcell
      obtain ⟨triple, hmem, hcell⟩ := List.mem_flatten.mp hcell
      obtain ⟨index, hindex, htriple⟩ := hread triple hmem
      exact (segmentCells_spec hplain htriple).2.2.mpr (hall index hindex) cell hcell

theorem wholeRow_of_wholeRows {measures : List MeasureName} {rows : List (List (PyValue Float))}
    (h : wholeRows lib cells baselineGiven comparisonGiven measures = .ok rows)
    (hrow : rows[index]? = some row) :
    index < measures.length ∧ ∃ measure,
      wholeRow lib cells baselineGiven comparisonGiven index measure = .ok row := by
  obtain ⟨item, hitem, hread⟩ := item_of_mapM_eq_ok h hrow
  rw [List.getElem?_zipIdx, Option.map_eq_some_iff] at hitem
  obtain ⟨measure, hmeasure, rfl⟩ := hitem
  rw [Nat.zero_add] at hread
  exact ⟨(List.getElem?_eq_some_iff.mp hmeasure).1, measure, hread⟩

end ComparedRows

section Labels

variable {filters : TaxiFilters Float}

def labelLength (parts : List String) : Nat :=
  (parts.map String.length).sum + 2 * (parts.length - 1)

def LabelFits (lib : PyLibrary Float) (filters : TaxiFilters Float) : Prop :=
  labelLength (labelParts lib filters) ≤ 512

theorem length_intercalate (parts : List String) :
    (", ".intercalate parts).length = labelLength parts := by
  induction parts with
  | nil => rfl
  | cons part parts ih =>
      cases parts with
      | nil => simp [labelLength]
      | cons next rest =>
          have hsep : ", ".length = 2 := rfl
          rw [String.intercalate_cons_cons, String.length_append, String.length_append, ih, hsep]
          simp only [labelLength, List.map_cons, List.sum_cons, List.length_cons]
          omega

theorem filtersLabel_le_iff : (filtersLabel lib filters).length ≤ 512 ↔ LabelFits lib filters := by
  rw [filtersLabel, LabelFits]
  by_cases hnone : labelParts lib filters = []
  · rw [if_pos hnone, hnone]
    decide
  · rw [if_neg hnone, length_intercalate]

theorem filtersLabel_ne_empty : filtersLabel lib filters ≠ "" := by
  have hpart (name : String) (rendered : Option String) :
      ∀ part ∈ labelPart name rendered, 1 ≤ part.length := by
    intro part hmem
    rw [labelPart, Option.mem_toList] at hmem
    obtain ⟨text, -, rfl⟩ := Option.map_eq_some_iff.mp hmem
    have hequals : "=".length = 1 := rfl
    rw [String.length_append, String.length_append, hequals]
    omega
  have hvalid : ∀ part ∈ (if filters.validRecordsOnly then [] else ["valid_records_only=false"]),
      1 ≤ part.length := by
    split_ifs
    · nofun
    · decide
  have happend {left right : List String} (hleft : ∀ part ∈ left, 1 ≤ part.length)
      (hright : ∀ part ∈ right, 1 ≤ part.length) : ∀ part ∈ left ++ right, 1 ≤ part.length :=
    List.forall_mem_append.mpr ⟨hleft, hright⟩
  have hparts : ∀ part ∈ labelParts lib filters, 1 ≤ part.length := by
    unfold labelParts
    refine happend ?_ hvalid
    iterate 21 refine happend ?_ (hpart _ _)
    exact hpart _ _
  intro hempty
  rw [filtersLabel] at hempty
  by_cases hnone : labelParts lib filters = []
  · rw [if_pos hnone] at hempty
    exact absurd hempty (by decide)
  · rw [if_neg hnone] at hempty
    obtain ⟨part, parts, hcons⟩ := List.exists_cons_of_ne_nil hnone
    have hlength := length_intercalate (labelParts lib filters)
    have hfirst := hparts part (by rw [hcons]; exact List.mem_cons_self)
    rw [hempty, hcons, labelLength, List.map_cons, List.sum_cons] at hlength
    have hzero : "".length = 0 := rfl
    omega

end Labels

end AiAnalytics.Dataset
