import AiAnalytics.Lib.PyText

/-!
# The gateway's stream generators

What the gateway writes to its client of a streamed answer: the lines of the worker, or of the
overflow provider, one record each. A failure of the upstream is written as a record too, since the
status has long been sent.
-/

namespace AiAnalytics.Gateway

open Lib

structure Upstream where
  lines : List String
  failure : Option String
  lines_unbroken : ∀ line ∈ lines, ∀ c ∈ line.toList, isLineBreak c = false

inductive StreamRelay where
  | worker (upstream : Upstream)
  | overflow (upstream : Upstream)

def StreamRelay.upstream : StreamRelay → Upstream
  | .worker upstream => upstream
  | .overflow upstream => upstream

def StreamRelay.errorText : StreamRelay → String → String
  | .worker _, text => text
  | .overflow _, _ => "overflow_stream_error"

def errorOpening : List Char := "data: \x7b\"error\": ".toList

/-- `data: {json.dumps({'error': text})}` -/
def errorRecord (text : String) : String :=
  String.ofList (errorOpening ++ jsonText text ++ ['\x7d'])

def StreamRelay.records (relay : StreamRelay) : List String :=
  relay.upstream.lines.filter (· ≠ "") ++
    (relay.upstream.failure.map fun text => errorRecord (relay.errorText text)).toList

def StreamRelay.wire (relay : StreamRelay) : List Char :=
  relay.records.flatMap fun record => record.toList ++ ['\n', '\n']

theorem not_isLineBreak_errorRecord (text : String) :
    ∀ c ∈ (errorRecord text).toList, isLineBreak c = false := by
  have hopening : errorOpening.all (fun c => isLineBreak c = false) = true := by decide
  rw [errorRecord, String.toList_ofList]
  refine List.forall_mem_append.2 ⟨List.forall_mem_append.2
    ⟨?_, not_isLineBreak_jsonText text⟩, List.forall_mem_singleton.2 (by decide)⟩
  exact fun c hc => of_decide_eq_true (List.all_eq_true.1 hopening c hc)

theorem not_isLineBreak_records (relay : StreamRelay) :
    ∀ record ∈ relay.records, ∀ c ∈ record.toList, isLineBreak c = false := by
  intro record hrecord
  rw [StreamRelay.records, List.mem_append, Option.mem_toList] at hrecord
  rcases hrecord with hline | herror
  · exact relay.upstream.lines_unbroken record (List.mem_of_mem_filter hline)
  · obtain ⟨text, -, rfl⟩ := Option.map_eq_some_iff.1 herror
    exact not_isLineBreak_errorRecord _

theorem splitLines_wire (relay : StreamRelay) :
    (splitLines relay.wire).map String.ofList = relay.records.flatMap fun record =>
      [record, ""] := by
  have hunbroken := not_isLineBreak_records relay
  rw [StreamRelay.wire]
  generalize relay.records = records at hunbroken
  induction records with
  | nil => rfl
  | cons record records ih =>
      obtain ⟨hrecord, hrecords⟩ := List.forall_mem_cons.1 hunbroken
      rw [List.flatMap_cons, List.append_assoc, List.cons_append, splitLines_line hrecord,
        List.cons_append, List.nil_append, splitLines_newline, List.map_cons, List.map_cons,
        ih hrecords, String.ofList_toList]
      rfl

end AiAnalytics.Gateway
