import AiAnalytics.App.Orchestration.Proof.CallPrices
import AiAnalytics.App.Orchestration.RunBooks
import AiAnalytics.Lib.Frames

/-!
# The stages that leave the books alone

Most of the loop publishes events, stores steps, reads clocks and identifiers. `bookFrame` allows
all of it: no counter, no listed call, no message, no client and no terminal record changes, no
request is issued and no usage is reported.
-/

namespace AiAnalytics.App.Loop

open Lib Lib.Prog

variable {Float : Type} (cfg : LoopConfig Float)

structure SameBooks (state next : LoopState Float) : Prop where
  tracker : next.tracker = state.tracker
  llmCalls : next.llmCalls = state.llmCalls
  messages : next.messages = state.messages
  nextSeq : next.nextSeq = state.nextSeq
  stored : next.stored = state.stored
  clients : next.clients = state.clients

structure LoopCall.Free (call : LoopCall Float) : Prop where
  llmRequest : call.llmRequest = none
  isToolCall : call.isToolCall = false
  reportsUsage : call.reportsUsage = false

def bookFrame : Frame (LoopCall Float) (LoopState Float) where
  change := SameBooks
  call := LoopCall.Free

section Writes

theorem calm_request {call : LoopCall Float} (hfree : call.Free) :
    Calm bookFrame (request call : LoopM Float (LoopReply call)) :=
  calm_ask hfree

theorem framed_request {call : LoopCall Float} (hfree : call.Free) :
    Framed bookFrame (request call : LoopM Float (LoopReply call)) :=
  framed_ask hfree

theorem framed_local {f : LoopState Float → LoopState Float}
    (hsame : ∀ state, SameBooks state (f state)) :
    Framed bookFrame (modify f : LoopM Float PUnit) :=
  framed_modify hsame

theorem calm_emit (eventType : RunEventType) (payload : Dict Float) (refs : EventRefs) :
    Calm bookFrame (emit cfg eventType payload refs) :=
  calm_modify fun _ => ⟨rfl, rfl, rfl, rfl, rfl, rfl⟩

theorem calm_appendStep (step : String → Int → RunStep Float) :
    Calm bookFrame (appendStep step) := by
  apply calm_bind (calm_request ⟨rfl, rfl, rfl⟩)
  intro stepId
  exact calm_modify fun _ => ⟨rfl, rfl, rfl, rfl, rfl, rfl⟩

theorem calm_addStep (step : String → Int → RunStep Float) : Calm bookFrame (addStep step) := by
  apply calm_bind (calm_appendStep step)
  intro _
  exact calm_modify fun _ => ⟨rfl, rfl, rfl, rfl, rfl, rfl⟩

theorem calm_millisSince (start : Float) : Calm bookFrame (millisSince cfg start) := by
  apply calm_bind (calm_request ⟨rfl, rfl, rfl⟩)
  intro now
  exact calm_pure

theorem framed_emit (eventType : RunEventType) (payload : Dict Float) (refs : EventRefs) :
    Framed bookFrame (emit cfg eventType payload refs) :=
  (calm_emit cfg _ _ _).framed

theorem framed_addStep (step : String → Int → RunStep Float) : Framed bookFrame (addStep step) :=
  (calm_addStep step).framed

theorem framed_millisSince (start : Float) : Framed bookFrame (millisSince cfg start) :=
  (calm_millisSince cfg start).framed

theorem framed_checkCancellation (partialText : String) :
    Framed bookFrame (checkCancellation partialText : LoopM Float Unit) := by
  apply framed_bind (framed_request ⟨rfl, rfl, rfl⟩)
  intro (cancelled : Bool)
  exact framed_raiseIf

theorem framed_pollWorker (polls : Nat) :
    Framed bookFrame (pollWorker polls : LoopM Float Unit) := by
  induction polls with
  | zero => exact framed_pure
  | succ polls ih =>
      apply framed_bind (framed_checkCancellation "")
      intro _
      exact ih

theorem framed_runWithCancellation {call : LoopCall Float}
    (hsubmitted : (LoopCall.submitted call).Free) (hfree : call.Free) :
    Framed bookFrame (runWithCancellation call) := by
  apply framed_bind (framed_request hsubmitted)
  intro polls
  apply framed_bind (framed_pollWorker polls)
  intro _
  exact framed_request hfree

theorem framed_raiseBudget (outcome : Except (BudgetExceededError Float) Unit) :
    Framed bookFrame (raiseBudget outcome) := by
  cases outcome with
  | ok _ => exact framed_pure
  | error error => exact framed_throw

theorem framed_ensureCostDeterminate :
    Framed bookFrame (ensureCostDeterminate : LoopM Float Unit) := by
  apply framed_bind framed_get
  intro state
  exact framed_raiseBudget _

theorem framed_orFault {frame : Frame (LoopCall Float) (LoopState Float)} {α : Type}
    (reply : Except PyFault α) : Framed frame (orFault reply : LoopM Float α) := by
  cases reply with
  | ok a => exact framed_pure
  | error fault => exact framed_throw

end Writes

section Cost

variable {phase : CallPhase} {frame : Frame (LoopCall Float) (LoopState Float)}

def AsksTables (frame : Frame (LoopCall Float) (LoopState Float)) (phase : CallPhase) : Prop :=
  ∀ table key inputTokens outputTokens,
    frame.call (.estimate phase table key inputTokens outputTokens)

theorem asksTables_bookFrame : AsksTables (@bookFrame Float) phase := fun _ _ _ _ => ⟨rfl, rfl, rfl⟩

variable (hestimate : AsksTables frame phase)
include hestimate

theorem framed_estimate (table : PricingTable Float) (key : String)
    (inputTokens outputTokens : Int) :
    Framed frame (estimate cfg phase table key inputTokens outputTokens) := by
  apply framed_bind (framed_ask (hestimate _ _ _ _))
  intro reply
  apply framed_bind (framed_orFault reply)
  intro cost
  exact framed_pure

theorem framed_tableCost (inputTokens outputTokens : Int) (result : Option (ModelResult Float))
    (table : PricingTable Float) (key : String) :
    Framed frame (tableCost cfg phase inputTokens outputTokens result table key) := by
  apply framed_bind (framed_estimate cfg hestimate _ _ _ _)
  intro cost
  apply framed_ite
  · apply framed_bind (framed_estimate cfg hestimate _ _ _ _)
    intro bound
    exact framed_pure
  · exact framed_pure

theorem framed_callCost (inputTokens outputTokens : Int) (result : Option (ModelResult Float))
    (modelId : Option String) :
    Framed frame (callCost cfg phase inputTokens outputTokens result modelId) := by
  apply framed_bind framed_get
  intro state
  apply framed_ite framed_pure
  cases authoritativeCost result with
  | some cost => exact framed_pure
  | none =>
      cases pricedKey cfg state.clients result modelId with
      | none => exact framed_pure
      | some priced => exact framed_tableCost cfg hestimate _ _ _ _ _

end Cost

section Proposals

theorem framed_validate (name : String) (arguments schema : PyValue Float) :
    Framed bookFrame (validate name arguments schema) := by
  apply framed_bind framed_get
  intro state
  apply framed_bind (framed_request ⟨rfl, rfl, rfl⟩)
  intro reply
  exact framed_orFault reply

theorem framed_candidateOf (schema : PyValue Float) (proposal : ToolProposalResult Float)
    (llmCallId : String) : Framed bookFrame (candidateOf schema proposal llmCallId) := by
  apply framed_bind (framed_validate _ _ _)
  intro validation
  apply framed_ite
  · apply framed_bind (framed_request ⟨rfl, rfl, rfl⟩)
    intro parsed
    exact framed_pure
  · exact framed_pure

theorem framed_reviewProposal (candidate : Candidate Float) (retries : Nat) :
    Framed bookFrame (reviewProposal cfg candidate retries) := by
  apply framed_bind (framed_request ⟨rfl, rfl, rfl⟩)
  intro summary
  apply framed_bind (framed_addStep _)
  intro _
  apply framed_bind (framed_request ⟨rfl, rfl, rfl⟩)
  intro elapsed
  apply framed_bind framed_get
  intro state
  exact framed_pure

theorem framed_loadSchema (proposalCallId : String) :
    Framed bookFrame (loadSchema cfg proposalCallId) := by
  apply framed_bind (framed_checkCancellation "")
  intro _
  apply framed_bind (framed_emit cfg _ _ _)
  intro _
  apply framed_bind (framed_runWithCancellation ⟨rfl, rfl, rfl⟩ ⟨rfl, rfl, rfl⟩)
  intro raw
  have hread : Framed bookFrame (readSchema raw) := by
    cases raw with
    | ok payload => exact framed_request ⟨rfl, rfl, rfl⟩
    | error error => exact framed_pure
  apply framed_bind hread
  intro schema
  cases schema with
  | error error => exact framed_throw
  | ok schema => exact framed_pure

end Proposals

section Tools

theorem framed_sanitized (raw : Except MCPToolError (PyValue Float)) :
    Framed bookFrame (sanitized raw) := by
  cases raw with
  | ok payload => exact framed_request ⟨rfl, rfl, rfl⟩
  | error error => exact framed_pure

theorem framed_requestTool (schema : PyValue Float) (proposalCallId : String)
    (llmCallId : Option String) (name : String) (arguments : Dict Float) :
    Framed bookFrame (requestTool cfg schema proposalCallId llmCallId name arguments) := by
  apply framed_bind (framed_validate _ _ _)
  intro preExec
  apply framed_bind framed_raiseIf
  intro _
  apply framed_bind (framed_emit cfg _ _ _)
  intro _
  apply framed_bind framed_get
  intro state
  apply framed_bind framed_raiseIf
  intro _
  exact framed_local fun _ => ⟨rfl, rfl, rfl, rfl, rfl, rfl⟩

theorem framed_recordToolFailure (error : MCPToolError) (name toolCallId : String)
    (arguments : Dict Float) (durationMs : Int) :
    Framed bookFrame (recordToolFailure cfg error name toolCallId arguments durationMs) := by
  apply framed_bind (framed_emit cfg _ _ _)
  intro _
  exact framed_addStep _

theorem framed_recordFindings (queryId : String) (findings : List (PyValue Float)) :
    Framed bookFrame (recordFindings cfg queryId findings) :=
  framed_ite framed_pure (framed_addStep _)

theorem framed_reduceContext (schema result : PyValue Float) :
    Framed bookFrame (reduceContext cfg schema result) := by
  apply framed_bind (framed_checkCancellation "")
  intro _
  apply framed_bind framed_get
  intro state
  apply framed_bind (framed_request ⟨rfl, rfl, rfl⟩)
  intro context
  apply framed_bind (framed_emit cfg _ _ _)
  intro _
  exact framed_addStep _

end Tools

section Answers

theorem framed_applyGrounding (text : String) (result : PyValue Float) :
    Framed bookFrame (applyGrounding cfg text result) := by
  apply framed_bind (framed_request ⟨rfl, rfl, rfl⟩)
  intro reply
  apply framed_bind (framed_orFault reply)
  intro report
  cases report.caveat with
  | none => exact framed_pure
  | some caveat =>
      apply framed_bind (framed_addStep _)
      intro _
      exact framed_pure

theorem framed_speak (text llmCallId : String) : Framed bookFrame (speak cfg text llmCallId) := by
  unfold speak
  cases cfg.voice with
  | none => exact framed_pure
  | some voiceName =>
      apply framed_bind (framed_request ⟨rfl, rfl, rfl⟩)
      intro audio
      match audio with
      | none => exact framed_pure
      | some data => exact framed_emit cfg _ _ _

theorem framed_letThrough (call : CrewCall) (error : LoopError Float) :
    Framed bookFrame (letThrough call error) := by
  unfold letThrough
  cases call.wrapped with
  | none => exact framed_throw
  | some fault => exact framed_throw

theorem framed_noteFirstDelta (ansStart : Float) :
    Framed bookFrame (noteFirstDelta cfg ansStart) := by
  apply framed_bind framed_get
  intro state
  cases state.ttftMs with
  | some latency => exact framed_pure
  | none =>
      apply framed_bind (framed_millisSince cfg _)
      intro latencyMs
      exact framed_local fun _ => ⟨rfl, rfl, rfl, rfl, rfl, rfl⟩

theorem framed_publishDeltas (ansStart : Float) (llmCallId : String) (deltas : List String)
    (chunks : String) : Framed bookFrame (publishDeltas cfg ansStart llmCallId deltas chunks) := by
  induction deltas generalizing chunks with
  | nil => exact framed_pure
  | cons delta deltas ih =>
      apply framed_bind (framed_noteFirstDelta cfg _)
      intro _
      apply framed_bind (framed_emit cfg _ _ _)
      intro _
      apply framed_bind (framed_checkCancellation _)
      intro _
      exact ih _

end Answers

end AiAnalytics.App.Loop
