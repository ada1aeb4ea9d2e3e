import AiAnalytics.App.State.Proof.CodecLossless
import AiAnalytics.App.State.RunRecords
import AiAnalytics.Lib.PyOps

/-!
# What a failed creation of a run leaves

`create_run` has no transaction around its two puts. A call that fails before its record is written
leaves the table as it was. One that fails after it leaves half of a run: it can be read, but no
list has it and it cannot be created again.
-/

namespace AiAnalytics.App.RunRecords

open Lib

variable {Float : Type} (ops : FloatOps Float) (db : RunDatabase Float)

section Conditions

def PutOutcome.Writes : PutOutcome → Prop
  | .carriedOut => True
  | .failed _ applied => applied = true

structure RecordWritten (outcomes : CreateOutcomes) (table : RunTable Float) (run : Run Float) :
    Prop where
  read : outcomes.conversation = none
  conversation : run.conversationId ∈ table.conversations
  free : table.recordFree run = true
  writes : outcomes.record.Writes

structure PutsReturn (outcomes : CreateOutcomes) (table : RunTable Float) (run : Run Float) :
    Prop where
  record : outcomes.record = .carriedOut
  index : outcomes.index = .carriedOut
  free : table.indexFree run = true

/-- Nobody sees from a run's reads, from the lists and from another try whether the call was
made. -/
structure Unnoticed (run : Run Float) (before after : RunTable Float) : Prop where
  getRun : ∀ fault, after.getRun ops db fault run.runId = before.getRun ops db fault run.runId
  listRuns : ∀ fault faults conversationId,
    after.listRuns ops db fault faults conversationId =
      before.listRuns ops db fault faults conversationId
  createRun : ∀ outcomes, (createRun ops outcomes after run).1 =
    (createRun ops outcomes before run).1

end Conditions

section Calls

variable {ops} {outcomes : CreateOutcomes} {table : RunTable Float} {run : Run Float}

theorem createRun_of_read (hread : outcomes.conversation = none)
    (hconversation : run.conversationId ∈ table.conversations) :
    createRun ops outcomes table run = createRecord ops outcomes table run := by
  simp only [createRun, access, hread, decide_eq_true hconversation]

variable (ops) in
theorem createRun_of_not_read
    (hread : ¬ (outcomes.conversation = none ∧ run.conversationId ∈ table.conversations)) :
    ∃ error, createRun ops outcomes table run = (.error error, table) := by
  cases hfault : outcomes.conversation with
  | some fault => exact ⟨_, by simp only [createRun, access, hfault]; rfl⟩
  | none =>
      have hconversation : run.conversationId ∉ table.conversations := fun h => hread ⟨hfault, h⟩
      exact ⟨_, by simp only [createRun, access, hfault, decide_eq_false hconversation]; rfl⟩

variable (ops outcomes) in
theorem createRecord_of_taken (htaken : table.recordFree run = false) :
    ∃ error, createRecord ops outcomes table run = (.error error, table) := by
  unfold createRecord
  rw [htaken]
  cases outcomes.record with
  | carriedOut => exact ⟨_, rfl⟩
  | failed fault applied =>
      refine ⟨recordError run fault, ?_⟩
      simp only [conditionalPut, Bool.and_false, Bool.false_eq_true, if_false]

theorem createRun_of_not_written (hwritten : ¬ RecordWritten outcomes table run) :
    (createRun ops outcomes table run).2 = table := by
  by_cases hread : outcomes.conversation = none ∧ run.conversationId ∈ table.conversations
  · rw [createRun_of_read hread.1 hread.2]
    cases hfree : table.recordFree run with
    | false =>
        obtain ⟨error, hcreate⟩ := createRecord_of_taken ops outcomes hfree
        rw [hcreate]
    | true =>
        have hwrites : ¬ outcomes.record.Writes :=
          fun hwrites => hwritten ⟨hread.1, hread.2, hfree, hwrites⟩
        unfold createRecord
        cases hrecord : outcomes.record with
        | carriedOut =>
            rw [hrecord] at hwrites
            exact absurd trivial hwrites
        | failed fault applied =>
            rw [hrecord] at hwrites
            simp only [conditionalPut, Bool.eq_false_of_not_eq_true hwrites, Bool.false_and,
              Bool.false_eq_true, if_false]
  · obtain ⟨error, hcreate⟩ := createRun_of_not_read ops hread
    rw [hcreate]

theorem createRun_of_puts (hwritten : RecordWritten outcomes table run)
    (hputs : PutsReturn outcomes table run) : (createRun ops outcomes table run).1 = .ok run := by
  have hindex : (table.putRecord ops run).indexFree run = true := hputs.free
  rw [createRun_of_read hwritten.read hwritten.conversation]
  simp only [createRecord, conditionalPut, createIndex, hputs.record, hputs.index, hwritten.free,
    hindex, if_true]

theorem createIndex_records :
    (createIndex outcomes table run).2.records = table.records := by
  unfold createIndex
  cases outcomes.index with
  | carriedOut => cases hfree : table.indexFree run <;> rfl
  | failed fault applied =>
      show (if applied && table.indexFree run then table.putIndex run else table).records = _
      split
      · rfl
      · rfl

variable (ops) in
theorem createRun_of_half (hwritten : RecordWritten outcomes table run)
    (hputs : ¬ PutsReturn outcomes table run) :
    (∃ error, (createRun ops outcomes table run).1 = .error error) ∧
      (createRun ops outcomes table run).2.records = table.records ++ [runRecord ops run] := by
  rw [createRun_of_read hwritten.read hwritten.conversation]
  have hfree := hwritten.free
  have hwrites := hwritten.writes
  unfold createRecord
  rw [hfree]
  cases hrecord : outcomes.record with
  | failed fault applied =>
      rw [hrecord] at hwrites
      have happlied : applied = true := hwrites
      subst happlied
      exact ⟨⟨_, rfl⟩, rfl⟩
  | carriedOut =>
      refine ⟨?_, createIndex_records⟩
      show ∃ error, (createIndex outcomes (table.putRecord ops run) run).1 = .error error
      unfold createIndex
      cases hindex : outcomes.index with
      | failed fault applied => exact ⟨_, rfl⟩
      | carriedOut =>
          have htaken : (table.putRecord ops run).indexFree run = false :=
            Bool.eq_false_of_not_eq_true fun hfree => hputs ⟨hrecord, hindex, hfree⟩
          rw [htaken]
          exact ⟨_, rfl⟩

end Calls

section Atomicity

variable {ops db} {outcomes : CreateOutcomes} {table after : RunTable Float} {run : Run Float}

theorem find?_of_recordFree (hfree : table.recordFree run = true) :
    table.records.find? (fun record => record.runId = run.runId) = none := by
  rw [List.find?_eq_none]
  intro record hrecord hid
  simp only [RunTable.recordFree, Bool.not_eq_true', List.any_eq_false] at hfree
  exact hfree record hrecord hid

theorem recordFree_of_records (hrecords : after.records = table.records ++ [runRecord ops run]) :
    after.recordFree run = false := by
  simp only [RunTable.recordFree, hrecords, List.any_append, List.any_cons, List.any_nil, runRecord,
    decide_true, Bool.or_false, Bool.or_true, Bool.not_true]

theorem noticed_of_record (hfree : table.recordFree run = true)
    (hrecords : after.records = table.records ++ [runRecord ops run]) :
    ¬ Unnoticed ops db run table after := by
  intro hunnoticed
  have hread := hunnoticed.getRun none
  simp only [RunTable.getRun, access, hrecords, List.find?_append, find?_of_recordFree hfree,
    Option.none_or] at hread
  simp [runRecord] at hread

/-- **Which failures are atomic.** A failed call goes unnoticed unless it writes the record and one
of its puts does not return: the first one, having been applied even so, or the put of the index. -/
theorem failed_creation_unnoticed_iff :
    (∀ error, (createRun ops outcomes table run).1 = .error error →
        Unnoticed ops db run table (createRun ops outcomes table run).2) ↔
      (RecordWritten outcomes table run → PutsReturn outcomes table run) := by
  constructor
  · intro hatomic hwritten
    by_contra hputs
    obtain ⟨⟨error, herror⟩, hrecords⟩ := createRun_of_half ops hwritten hputs
    exact noticed_of_record hwritten.free hrecords (hatomic error herror)
  · intro hcondition error herror
    by_cases hwritten : RecordWritten outcomes table run
    · rw [createRun_of_puts hwritten (hcondition hwritten)] at herror
      cases herror
    · rw [createRun_of_not_written hwritten]
      exact ⟨fun _ => rfl, fun _ _ _ => rfl, fun _ => rfl⟩

theorem half_run_not_created (hrecords : after.records = table.records ++ [runRecord ops run])
    (later : CreateOutcomes) : ∃ error, (createRun ops later after run).1 = .error error := by
  by_cases hread : later.conversation = none ∧ run.conversationId ∈ after.conversations
  · rw [createRun_of_read hread.1 hread.2]
    obtain ⟨error, hcreate⟩ := createRecord_of_taken ops later (recordFree_of_records hrecords)
    exact ⟨error, congrArg Prod.fst hcreate⟩
  · obtain ⟨error, hcreate⟩ := createRun_of_not_read ops hread
    exact ⟨error, congrArg Prod.fst hcreate⟩

theorem mem_of_mem_takeRunPage {budget : Nat} {items : List RunIndexItem} {item : RunIndexItem}
    (hitem : item ∈ RunTable.queryRuns.takeRunPage db budget items) : item ∈ items := by
  induction items generalizing budget with
  | nil => exact absurd hitem (List.not_mem_nil)
  | cons head tail ih =>
      rw [RunTable.queryRuns.takeRunPage] at hitem
      split at hitem
      · rcases List.mem_cons.mp hitem with rfl | htail
        · exact List.mem_cons_self
        · exact List.mem_cons_of_mem _ (ih htail)
      · exact absurd hitem (List.not_mem_nil)

theorem mem_index_of_mem_queryRuns {conversationId : String} {item : RunIndexItem}
    (hitem : item ∈ table.queryRuns db conversationId) : item ∈ table.index := by
  have hsorted := mem_of_mem_takeRunPage hitem
  rw [List.mem_insertionSort] at hsorted
  exact List.mem_of_mem_filter hsorted

theorem runId_of_getRun {fault : Option TableFault} {runId : String} {found : Run Float}
    (hfound : table.getRun ops db fault runId = .ok (some found)) : found.runId = runId := by
  cases fault with
  | some fault => cases hfound
  | none =>
      obtain ⟨record, hrecord, rfl⟩ := Option.map_eq_some_iff.mp (Except.ok.inj hfound)
      have hid := List.find?_some hrecord
      exact of_decide_eq_true hid

theorem exists_item_of_readRuns {faults : List (Option TableFault)} {items : List RunIndexItem}
    {runs : List (Run Float)} (hruns : table.readRuns ops db faults items = .ok runs)
    {listed : Run Float} (hlisted : listed ∈ runs) : ∃ item ∈ items, item.runId = listed.runId := by
  induction items generalizing faults runs with
  | nil =>
      rw [RunTable.readRuns] at hruns
      cases hruns
      exact absurd hlisted (List.not_mem_nil)
  | cons item items ih =>
      rw [RunTable.readRuns] at hruns
      obtain ⟨found, hfound, hafter⟩ := bind_eq_ok_iff.mp hruns
      obtain ⟨rest, hrest, hend⟩ := bind_eq_ok_iff.mp hafter
      cases hend
      rcases List.mem_append.mp hlisted with hhead | htail
      · rw [Option.mem_toList] at hhead
        subst hhead
        exact ⟨item, List.mem_cons_self, (runId_of_getRun hfound).symm⟩
      · obtain ⟨listing, hlisting, hid⟩ := ih hrest htail
        exact ⟨listing, List.mem_cons_of_mem _ hlisting, hid⟩

theorem half_run_not_listed (hindex : ∀ item ∈ after.index, item.runId ≠ run.runId)
    {fault : Option TableFault} {faults : List (Option TableFault)} {conversationId : String}
    {runs : List (Run Float)}
    (hruns : after.listRuns ops db fault faults conversationId = .ok runs) :
    ∀ listed ∈ runs, listed.runId ≠ run.runId := by
  intro listed hlisted hid
  obtain ⟨items, hitems, hread⟩ := bind_eq_ok_iff.mp hruns
  obtain ⟨item, hitem, hlists⟩ := exists_item_of_readRuns hread hlisted
  have hquery : items = after.queryRuns db conversationId := by
    cases fault with
    | some fault => cases hitems
    | none => exact (Except.ok.inj hitems).symm
  rw [hquery] at hitem
  exact hindex item (mem_index_of_mem_queryRuns hitem) (hlists.trans hid)

end Atomicity

section Samples

def sampleRun : Run Decimal :=
  { runId := "run_1", conversationId := "conv_1", startedAt := "2026-01-01T00:00:00+00:00"
    estimatedCostUsd := { negative := false, coefficient := 0, exponent := 0 } }

def sampleDatabase : RunDatabase Decimal :=
  { number := fun n => { negative := n < 0, coefficient := n.natAbs, exponent := 0 }
    decimal := fun d => d
    returned := fun v => v
    size := fun item => 50 + item.pk.length + item.sk.length + item.runId.utf8ByteSize +
      item.conversationId.utf8ByteSize }

def sampleTable : RunTable Decimal := { conversations := ["conv_1"] }

def throttledIndex : CreateOutcomes :=
  { index := .failed (.client "ProvisionedThroughputExceededException" "throttled") false }

def halfTable : RunTable Decimal := (createRun reprFloats throttledIndex sampleTable sampleRun).2

/-- The call raises. Its run can be read afterwards, which it could not be before, the conversation
does not list it, and another try says that it exists. -/
theorem throttled_index_noticed :
    (createRun reprFloats throttledIndex sampleTable sampleRun).1 =
        .error (.stateError "Failed to index conversation run: throttled") ∧
      (sampleTable.getRun reprFloats sampleDatabase none "run_1").toOption = some none ∧
      ((halfTable.getRun reprFloats sampleDatabase none "run_1").toOption.bind id).map (·.runId) =
        some "run_1" ∧
      (halfTable.listRuns reprFloats sampleDatabase none [] "conv_1").toOption.map List.length =
        some 0 ∧
      (createRun reprFloats {} halfTable sampleRun).1 = .error (.runExists "run_1") ∧
      ¬ Unnoticed reprFloats sampleDatabase sampleRun sampleTable halfTable :=
  ⟨rfl, rfl, rfl, rfl, rfl, noticed_of_record rfl rfl⟩

end Samples

end AiAnalytics.App.RunRecords
