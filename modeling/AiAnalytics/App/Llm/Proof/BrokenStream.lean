import AiAnalytics.App.Llm.Proof.ClientTotality
import AiAnalytics.Gateway.StreamRelay

/-!
# Broken answer streams

The gateway reports a failed upstream inside the stream, and ends the stream normally. The client
reads the report like any other record, and does not look for `[DONE]` at the end. So it raises only
if its own connection to the gateway breaks off.
-/

namespace AiAnalytics.App

open Lib Gateway

variable {Float : Type}

/-- The upstream failed, or ended without `[DONE]`. -/
def Broken (relay : StreamRelay) : Prop :=
  relay.upstream.failure.isSome ∨ isDone relay.records = false

/-- Where the connection between client and gateway breaks off, if it does: after how many lines,
and how. -/
structure Cut where
  lines : Nat
  failure : HttpFailure
deriving DecidableEq, Repr

def untilCut (lines : List String) : Option Cut → List String
  | none => lines
  | some cut => lines.take cut.lines

def delivered (relay : StreamRelay) (cut : Option Cut) : OkResponse where
  contentType := "text/event-stream; charset=utf-8"
  costHeader := none
  body := (String.ofList relay.wire).toUTF8
  lines := untilCut ((splitLines relay.wire).map String.ofList) cut
  failure := cut.map fun cut => cut.failure

def deliveredRecords (relay : StreamRelay) (cut : Option Cut) : List String :=
  untilCut (relay.records.flatMap fun record => [record, ""]) cut

theorem delivered_lines (relay : StreamRelay) (cut : Option Cut) :
    (delivered relay cut).lines = deliveredRecords relay cut := by
  rw [deliveredRecords, ← splitLines_wire]
  rfl

theorem delivered_failure_eq_none (relay : StreamRelay) (cut : Option Cut) :
    (delivered relay cut).failure = none ↔ cut = none := by
  cases cut with
  | none => exact iff_of_true rfl rfl
  | some cut => exact iff_of_false nofun nofun

theorem isDocument_delivered (relay : StreamRelay) (cut : Option Cut) :
    isDocument (delivered relay cut) = false := by
  have hplain : contains "application/json".toList "text/event-stream; charset=utf-8".toList =
      false := by
    decide
  exact hplain

section Reading

variable {rt : PyRuntime Float} {client : Client Float} {payload : Payload} {response : OkResponse}

theorem foreign_streamCompletion (hcosts : ForeignCosts client) (hbody : BodyShape rt response)
    (hend : ReadToEnd response) :
    Foreign (streamCompletion rt client payload (.ok response)) := by
  obtain ⟨state, hstate, hreads⟩ := readStream_reads hbody hend
  rw [streamCompletion, hstate]
  exact foreign_finishStream hcosts hreads

theorem raises_provider_iff (hcosts : ForeignCosts client) :
    (∃ error, streamCompletion rt client payload (.ok response) = raiseProvider error) ↔
      BodyShape rt response ∧ ¬ ReadToEnd response := by
  constructor
  · rintro ⟨error, herror⟩
    have hbody : BodyShape rt response := by
      apply bodyShape_of_raisesOnly
      rw [herror]
      trivial
    refine ⟨hbody, fun hend => ?_⟩
    exact foreign_streamCompletion hcosts hbody hend _ herror trivial
  · rintro ⟨hbody, hend⟩
    obtain ⟨failure, -, hraise⟩ := readStream_breaks hbody hend
    exact ⟨_, by rw [streamCompletion, hraise]; rfl⟩

end Reading

/-- **Broken streams.** On a broken stream the client raises `LLMProviderError` exactly if its own
connection breaks off before `[DONE]`, after well-shaped records only. -/
theorem broken_stream_raises_iff (rt : PyRuntime Float) (modelId : String) (payload : Payload)
    (relay : StreamRelay) (cut : Option Cut) :
    (Broken relay → ∃ error, streamCompletion rt (serveClient modelId) payload
        (.ok (delivered relay cut)) = raiseProvider error) ↔
      (Broken relay → cut.isSome ∧ isDone (deliveredRecords relay cut) = false ∧
        ∀ text ∈ records (deliveredRecords relay cut), RecordShape rt text) := by
  refine imp_congr_right fun _ => ?_
  have hcosts : ForeignCosts (serveClient modelId : Client Float) := fun _ _ _ _ _ => foreign_ok _
  have hbody : BodyShape rt (delivered relay cut) ↔
      ∀ text ∈ records (deliveredRecords relay cut), RecordShape rt text := by
    rw [BodyShape, isDocument_delivered, if_neg Bool.false_ne_true, delivered_lines]
  have hend : ReadToEnd (delivered relay cut) ↔
      cut = none ∨ isDone (deliveredRecords relay cut) := by
    rw [ReadToEnd, isDocument_delivered, delivered_lines, delivered_failure_eq_none]
    simp
  rw [raises_provider_iff hcosts, hbody, hend, not_or, ← ne_eq, ← Option.isSome_iff_ne_none,
    Bool.not_eq_true]
  exact and_comm.trans and_assoc

def partialRelay : StreamRelay :=
  .worker
    { lines := ["data: \x7b\"choices\": [\x7b\"delta\": \x7b\"content\": \"half\"\x7d\x7d]\x7d"]
      failure := some "peer closed"
      lines_unbroken := by
        have hall :
            (["data: \x7b\"choices\": [\x7b\"delta\": \x7b\"content\": \"half\"\x7d\x7d]\x7d"].all
            fun line => line.toList.all fun c => !isLineBreak c) = true := by decide
        simpa only [List.all_eq_true, Bool.not_eq_true'] using hall }

def partialRuntime : PyRuntime ℚ :=
  { emptyChoicesRuntime with
    loadsText := fun text =>
      if text = "\x7b\"choices\": [\x7b\"delta\": \x7b\"content\": \"half\"\x7d\x7d]\x7d" then
        .ok (.dict [("choices", .list [.dict [("delta", .dict [("content", .str "half")])]])])
      else if text = "\x7b\"error\": \"peer closed\"\x7d" then
        .ok (.dict [("error", .str "peer closed")])
      else .error .jsonDecodeError }

section Lines

variable {rt : PyRuntime Float} {line text : String} {lines : List String} {chunk : PyValue Float}
  {state next : StreamState Float}

theorem streamLines_data (hline : sseLine line = .data text)
    (hloads : rt.loadsText text = .ok chunk) (hchunk : state.addChunk rt chunk = .ok next) :
    streamLines rt (line :: lines) state = streamLines rt lines next := by
  rw [streamLines, hline]
  simp only [hloads, hchunk]
  rfl

theorem streamLines_skipped (hline : sseLine line = .skipped) :
    streamLines rt (line :: lines) state = streamLines rt lines state := by
  rw [streamLines, hline]

theorem streamLines_done (hline : sseLine line = .done) :
    streamLines rt (line :: lines) state = .ok (state, true) := by
  rw [streamLines, hline]
  rfl

theorem sseLine_empty : sseLine "" = .skipped := by decide

end Lines

def halfText : String := "\x7b\"choices\": [\x7b\"delta\": \x7b\"content\": \"half\"\x7d\x7d]\x7d"

def halfLine : String :=
  "data: \x7b\"choices\": [\x7b\"delta\": \x7b\"content\": \"half\"\x7d\x7d]\x7d"

def closedText : String := "\x7b\"error\": \"peer closed\"\x7d"

def closedLine : String := "data: \x7b\"error\": \"peer closed\"\x7d"

theorem lines_partialRelay : (delivered partialRelay none).lines = [halfLine, "", closedLine, ""] :=
  (delivered_lines partialRelay none).trans rfl

theorem sseLine_halfLine : sseLine halfLine = .data halfText := by
  have hletters : halfLine.toList = _ := String.toList_ofList
  rw [sseLine, hletters]
  rfl

theorem sseLine_closedLine : sseLine closedLine = .data closedText := by
  have hletters : closedLine.toList = _ := String.toList_ofList
  rw [sseLine, hletters]
  rfl

theorem loadsText_halfText : partialRuntime.loadsText halfText =
    .ok (.dict [("choices", .list [.dict [("delta", .dict [("content", .str "half")])]])]) := by
  simp [partialRuntime, halfText]

theorem loadsText_closedText :
    partialRuntime.loadsText closedText = .ok (.dict [("error", .str "peer closed")]) := by
  simp [partialRuntime, closedText]

/-- Half an answer is reported as the answer. -/
theorem partial_answer_returned :
    Broken partialRelay ∧ ∃ result,
      streamCompletion partialRuntime (serveClient "model") plainPayload
          (.ok (delivered partialRelay none)) = .ok result ∧ result.text = .str "half" := by
  have hread : streamLines partialRuntime (delivered partialRelay none).lines
      { modelId := .str "model" } = _ :=
    congrArg (streamLines partialRuntime · _) lines_partialRelay
  rw [streamLines_data sseLine_halfLine loadsText_halfText rfl, streamLines_skipped sseLine_empty,
    streamLines_data sseLine_closedLine loadsText_closedText rfl,
    streamLines_skipped sseLine_empty] at hread
  obtain ⟨state, hstate, result, hresult, htext⟩ : ∃ state : StreamState ℚ,
      readStream partialRuntime (serveClient "model") (delivered partialRelay none) = .ok state ∧
        ∃ result,
        finishStream partialRuntime (serveClient "model") plainPayload (delivered partialRelay none)
          state = .ok result ∧ result.text = .str "half" := by
    have hplain := isDocument_delivered partialRelay none
    rw [isDocument] at hplain
    rw [readStream, if_neg (Bool.eq_false_iff.mp hplain)]
    exact ⟨_, bind_eq_ok_iff.mpr ⟨_, hread, rfl⟩, _, rfl, rfl⟩
  exact ⟨.inl rfl, result, bind_eq_ok_iff.mpr ⟨state, hstate, hresult⟩, htext⟩

end AiAnalytics.App
