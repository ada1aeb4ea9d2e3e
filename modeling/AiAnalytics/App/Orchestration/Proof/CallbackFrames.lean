import AiAnalytics.App.Orchestration.DeepAgents
import AiAnalytics.Lib.Frames

/-!
# The callbacks end no run

The events that a callback publishes are about calls and tools. None of them is a terminal event,
whatever the callback is handed.
-/

namespace AiAnalytics.App.DeepAgents

open Lib Lib.Prog Loop

variable {Float : Type} (cfg : DeepConfig Float)

def RunRecord.Terminal : RunRecord Float → Prop
  | .event told => told.eventType.endsWith.isSome = true
  | _ => False

def DeepCall.Plain (call : DeepCall Float) : Prop :=
  ∀ reply evtSequence record, recorded evtSequence ⟨call, reply⟩ = some record → ¬ record.Terminal

def plainFrame : Frame (DeepCall Float) (Recorder Float) where
  change _ _ := True
  call := DeepCall.Plain

section Calls

theorem plain_of_charges {call : DeepCall Float}
    (h : ∀ reply evtSequence, recorded evtSequence ⟨call, reply⟩ = none ∨
      ∃ charge, recorded evtSequence ⟨call, reply⟩ = some (.charge charge)) : call.Plain := by
  intro reply evtSequence record hrecord
  rcases h reply evtSequence with hnone | ⟨charge, hcharge⟩
  · rw [hnone] at hrecord
    cases hrecord
  · obtain rfl := Option.some.inj (hcharge.symm.trans hrecord)
    exact id

theorem plain_of_silent {call : DeepCall Float}
    (h : ∀ reply evtSequence, recorded evtSequence ⟨call, reply⟩ = none) : call.Plain :=
  plain_of_charges fun reply evtSequence => .inl (h reply evtSequence)

theorem plain_reserveBudget : (DeepCall.reserveBudget : DeepCall Float).Plain := by
  refine plain_of_charges fun reply evtSequence => ?_
  match reply with
  | .ok () => exact .inr ⟨_, rfl⟩
  | .error _ => exact .inl rfl

theorem plain_beginAgentCall (messagesText toolsText : String) :
    (DeepCall.beginAgentCall messagesText toolsText : DeepCall Float).Plain := by
  refine plain_of_charges fun reply evtSequence => ?_
  match reply with
  | .ok _ => exact .inr ⟨_, rfl⟩
  | .error _ => exact .inl rfl

theorem plain_endAgentCall (hold : Nat) (inputTokens outputTokens : Int) (usageKnown : Bool)
    (costUsd : Option Float) :
    (DeepCall.endAgentCall hold inputTokens outputTokens usageKnown costUsd).Plain :=
  plain_of_charges fun _ _ => .inr ⟨_, rfl⟩

theorem plain_recordLlmCall (inputTokens outputTokens : Int) (cost : CallCost Float) :
    (DeepCall.recordLlmCall inputTokens outputTokens cost).Plain :=
  plain_of_charges fun _ _ => .inr ⟨_, rfl⟩

theorem plain_recordToolCall (resultBytes : Int) :
    (DeepCall.recordToolCall resultBytes : DeepCall Float).Plain :=
  plain_of_charges fun _ _ => .inr ⟨_, rfl⟩

theorem plain_write {record : Write Float}
    (h : ∀ event, record = .publish event →
      ∀ sequence, (event sequence).eventType.endsWith = none) :
    (DeepCall.write record).Plain := by
  rintro reply evtSequence stored hstored hterminal
  simp only [recorded] at hstored
  split_ifs at hstored
  obtain rfl := Option.some.inj hstored
  cases record with
  | publish event =>
      simp only [RunRecord.Terminal, h event rfl evtSequence, Option.isSome_none] at hterminal
      cases hterminal
  | addRunStep step => exact hterminal
  | addMessage message => exact hterminal
  | updateRun ending => exact hterminal

theorem framed_request {call : DeepCall Float} (hplain : call.Plain) :
    Framed plainFrame (request call : RecorderM Float (DeepReply call)) :=
  framed_ask hplain

theorem framed_silent {call : DeepCall Float}
    (h : ∀ reply evtSequence, recorded evtSequence ⟨call, reply⟩ = none) :
    Framed plainFrame (request call : RecorderM Float (DeepReply call)) :=
  framed_ask (plain_of_silent h)

theorem framed_update {f : Recorder Float → Recorder Float} :
    Framed plainFrame (modify f : RecorderM Float PUnit) :=
  framed_modify fun _ => trivial

end Calls

section Helpers

theorem framed_raiseFault (fault : Option PyFault) :
    Framed plainFrame (raiseFault fault : RecorderM Float Unit) := by
  cases fault with
  | none => exact framed_pure
  | some fault => exact framed_throw

theorem framed_orFault {α : Type} (reply : Except PyFault α) :
    Framed plainFrame (orFault reply : RecorderM Float α) := by
  cases reply with
  | ok a => exact framed_pure
  | error fault => exact framed_throw

theorem framed_orProvider {α : Type} (reply : Except Loop.LLMProviderError α) :
    Framed plainFrame (orProvider reply : RecorderM Float α) := by
  cases reply with
  | ok a => exact framed_pure
  | error error => exact framed_throw

theorem framed_raiseBudget (outcome : Except (BudgetExceededError Float) Unit) :
    Framed plainFrame (raiseBudget outcome) := by
  cases outcome with
  | ok _ => exact framed_pure
  | error error => exact framed_throw

theorem framed_write {record : Write Float} (hplain : (DeepCall.write record).Plain) :
    Framed plainFrame (write record) := by
  apply framed_bind (framed_request hplain)
  intro (reply : WriteReply)
  exact framed_raiseFault reply.fault

theorem framed_emit {eventType : RunEventType} (htype : eventType.endsWith = none)
    (payload : Dict Float) (refs : EventRefs) :
    Framed plainFrame (emit cfg eventType payload refs) := by
  apply framed_ite
  · apply framed_write
    apply plain_write
    intro event hevent sequence
    obtain rfl := Write.publish.inj hevent
    exact htype
  · exact framed_pure

theorem framed_addStep (step : String → Int → RunStep Float) :
    Framed plainFrame (addStep step) := by
  apply framed_bind (framed_silent fun _ _ => rfl)
  intro stepId
  apply framed_bind framed_get
  intro recorder
  apply framed_bind (framed_write (plain_write (by simp)))
  intro _
  exact framed_update

theorem framed_addMessage (role content : String) (metadata : Dict Float) :
    Framed plainFrame (addMessage cfg role content metadata) := by
  apply framed_bind (framed_silent fun _ _ => rfl)
  intro messageId
  apply framed_bind (framed_silent fun _ _ => rfl)
  intro createdAt
  apply framed_bind framed_get
  intro recorder
  exact framed_write (plain_write (by simp))

theorem framed_checkDeadline : Framed plainFrame (checkDeadline cfg) := by
  apply framed_bind (framed_silent fun _ _ => rfl)
  intro elapsed
  apply framed_bind framed_get
  intro recorder
  exact framed_raiseBudget _

theorem framed_guard : Framed plainFrame (guard cfg) := by
  apply framed_bind
  · apply framed_bind (framed_silent fun _ _ => rfl)
    intro (aborted : Bool)
    exact framed_raiseIf
  · intro _
    apply framed_bind (framed_silent fun _ _ => rfl)
    intro (cancelled : Bool)
    apply framed_bind framed_raiseIf
    intro _
    exact framed_checkDeadline cfg

theorem framed_millisSince (started : Float) : Framed plainFrame (millisSince cfg started) := by
  apply framed_bind (framed_silent fun _ _ => rfl)
  intro now
  exact framed_pure

theorem framed_estimate (table : PricingTable Float) (key : String)
    (inputTokens outputTokens : Int) :
    Framed plainFrame (estimate cfg table key inputTokens outputTokens) := by
  apply framed_bind (framed_silent fun _ _ => rfl)
  intro reply
  apply framed_bind (framed_orFault reply)
  intro cost
  exact framed_pure

theorem framed_callCost (inputTokens outputTokens : Int) (result : CallResult Float) :
    Framed plainFrame (callCost cfg inputTokens outputTokens result) := by
  unfold callCost
  split
  · exact framed_pure
  · exact framed_pure
  · apply framed_bind (framed_estimate cfg _ _ _ _)
    intro cost
    apply framed_ite
    · apply framed_bind (framed_estimate cfg _ _ _ _)
      intro bound
      exact framed_pure
    · exact framed_pure

theorem framed_recordCost (inputTokens outputTokens : Int) (cost : CallCost Float) :
    Framed plainFrame (recordCost cfg inputTokens outputTokens cost) := by
  apply framed_bind (framed_request (plain_recordLlmCall _ _ _))
  intro elapsed
  apply framed_bind framed_get
  intro recorder
  apply framed_bind framed_update
  intro _
  exact framed_raiseBudget _

theorem framed_recordToolCall (resultBytes : Int) :
    Framed plainFrame (recordToolCall cfg resultBytes) := by
  apply framed_bind (framed_request (plain_recordToolCall _))
  intro elapsed
  apply framed_bind framed_get
  intro recorder
  apply framed_bind framed_update
  intro _
  exact framed_raiseBudget _

end Helpers

section Callbacks

theorem framed_onChatModelStart (runId : String) (messages : PyValue Float)
    (tools : List (PyValue Float)) :
    Framed plainFrame (onChatModelStart cfg runId messages tools) := by
  apply framed_bind (framed_guard cfg)
  intro _
  apply framed_bind framed_get
  intro recorder
  apply framed_bind framed_raiseIf
  intro _
  apply framed_bind (framed_raiseBudget _)
  intro _
  apply framed_bind (framed_request plain_reserveBudget)
  intro allowance
  apply framed_bind (framed_orProvider allowance)
  intro _
  apply framed_bind (framed_request (plain_beginAgentCall _ _))
  intro reserved
  apply framed_bind (framed_orProvider reserved)
  intro hold
  apply framed_bind framed_update
  intro _
  apply framed_bind (framed_silent fun _ _ => rfl)
  intro callId
  apply framed_bind (framed_silent fun _ _ => rfl)
  intro started
  apply framed_bind framed_update
  intro _
  apply framed_bind (framed_silent fun _ _ => rfl)
  intro _
  exact framed_emit cfg rfl _ _

theorem framed_modelStep (call : LLMCall Float) (message : ModelMessage) (latencyMs : Int) :
    Framed plainFrame (modelStep cfg call message latencyMs) := by
  apply framed_ite
  all_goals
    apply framed_bind framed_update
    intro _
    exact framed_addStep _

theorem framed_endAgentCall (hold : Option Nat) (inputTokens outputTokens : Int) (usageKnown : Bool)
    (costUsd : Option Float) :
    Framed plainFrame (endAgentCall hold inputTokens outputTokens usageKnown costUsd) := by
  cases hold with
  | none => exact framed_pure
  | some hold => exact framed_request (plain_endAgentCall _ _ _ _ _)

theorem framed_releaseAgentCall (hold : Option Nat) :
    Framed plainFrame (releaseAgentCall hold : RecorderM Float Unit) := by
  cases hold with
  | none => exact framed_pure
  | some hold => exact framed_silent fun _ _ => rfl

theorem framed_onLlmEnd (runId : String) (message : Option ModelMessage) :
    Framed plainFrame (onLlmEnd cfg runId message) := by
  apply framed_bind (framed_guard cfg)
  intro _
  apply framed_bind framed_get
  intro recorder
  dsimp only
  split
  · exact framed_throw
  · apply framed_bind framed_update
    intro _
    apply framed_bind (framed_millisSince cfg _)
    intro latencyMs
    cases message with
    | none => exact framed_throw
    | some message =>
        apply framed_bind (framed_silent fun _ _ => rfl)
        intro billed
        apply framed_bind (framed_endAgentCall _ _ _ _ _)
        intro _
        apply framed_bind (framed_callCost cfg _ _ _)
        intro cost
        apply framed_bind (framed_recordCost cfg _ _ _)
        intro _
        apply framed_bind framed_update
        intro _
        apply framed_bind (framed_emit cfg rfl _ _)
        intro _
        exact framed_modelStep cfg _ _ _

theorem framed_recordFailedCall (callId : String) (started : Float) (error : CallError) :
    Framed plainFrame (recordFailedCall cfg callId started error) := by
  cases error with
  | other => exact framed_pure
  | provider code status =>
      apply framed_bind (framed_callCost cfg _ _ _)
      intro cost
      apply framed_bind (framed_millisSince cfg _)
      intro latencyMs
      apply framed_bind framed_update
      intro _
      apply framed_tryCatch (framed_recordCost cfg _ _ _)
      intro error
      unfold swallowBudget
      split
      · exact framed_pure
      · exact framed_throw

theorem framed_onLlmError (runId : String) (error : CallError) :
    Framed plainFrame (onLlmError cfg runId error) := by
  apply framed_bind framed_get
  intro recorder
  apply framed_bind framed_update
  intro _
  apply framed_bind (framed_releaseAgentCall _)
  intro _
  apply framed_bind (framed_silent fun _ _ => rfl)
  intro _
  split
  · exact framed_pure
  · apply framed_bind (framed_silent fun _ _ => rfl)
    intro (aborted : Bool)
    apply framed_ite framed_pure
    apply framed_bind framed_update
    intro _
    exact framed_recordFailedCall cfg _ _ _

theorem framed_onToolStart (runId name inputText : String) (inputs : Option (PyValue Float)) :
    Framed plainFrame (onToolStart cfg runId name inputText inputs) := by
  apply framed_ite framed_pure
  apply framed_bind (framed_guard cfg)
  intro _
  apply framed_bind (framed_emit cfg rfl _ _)
  intro _
  apply framed_bind framed_get
  intro recorder
  apply framed_bind framed_raiseIf
  intro _
  apply framed_bind (framed_silent fun _ _ => rfl)
  intro toolCallId
  apply framed_bind (framed_silent fun _ _ => rfl)
  intro started
  apply framed_bind framed_update
  intro _
  exact framed_emit cfg rfl _ _

theorem framed_toolFailed (info : ToolInfo Float) (result : PyValue Float) (text : String)
    (durationMs : Int) : Framed plainFrame (toolFailed cfg info result text durationMs) := by
  apply framed_bind (framed_emit cfg rfl _ _)
  intro _
  apply framed_bind (framed_addStep _)
  intro _
  exact framed_recordToolCall cfg 0

theorem framed_recordFindings (queryId : String) (findings : List (PyValue Float)) :
    Framed plainFrame (recordFindings cfg queryId findings) :=
  framed_ite framed_pure (framed_addStep _)

theorem framed_recordToolResult (info : ToolInfo Float) (queryResult : PyValue Float)
    (text : String) (durationMs : Int) :
    Framed plainFrame (recordToolResult cfg info queryResult text durationMs) := by
  apply framed_bind framed_update
  intro _
  apply framed_bind (framed_recordToolCall cfg _)
  intro _
  apply framed_bind framed_update
  intro _
  apply framed_bind (framed_emit cfg rfl _ _)
  intro _
  apply framed_bind (framed_addStep _)
  intro _
  apply framed_bind (framed_silent fun _ _ => rfl)
  intro findings
  apply framed_bind (framed_recordFindings cfg _ _)
  intro _
  apply framed_bind (framed_addMessage cfg _ _ _)
  intro _
  exact framed_update

theorem framed_popTool (runId : String) :
    Framed plainFrame (popTool runId : RecorderM Float (Option (ToolInfo Float))) := by
  apply framed_bind framed_get
  intro recorder
  apply framed_bind framed_update
  intro _
  exact framed_pure

theorem framed_onToolEnd (runId text : String) : Framed plainFrame (onToolEnd cfg runId text) := by
  apply framed_bind (framed_popTool runId)
  intro popped
  cases popped with
  | none => exact framed_pure
  | some info =>
      apply framed_bind (framed_guard cfg)
      intro _
      apply framed_bind (framed_millisSince cfg _)
      intro durationMs
      apply framed_bind framed_update
      intro _
      dsimp only
      split
      · exact framed_toolFailed cfg _ _ _ _
      · exact framed_recordToolResult cfg _ _ _ _

theorem framed_onToolError (runId reason : String) :
    Framed plainFrame (onToolError cfg runId reason) := by
  apply framed_bind (framed_popTool runId)
  intro popped
  cases popped with
  | none => exact framed_pure
  | some info =>
      apply framed_bind (framed_silent fun _ _ => rfl)
      intro (aborted : Bool)
      apply framed_ite framed_pure
      apply framed_bind (framed_millisSince cfg _)
      intro durationMs
      exact framed_toolFailed cfg _ _ _ _

theorem framed_callback (event : Callback Float) : Framed plainFrame (callback cfg event) := by
  cases event with
  | chatModelStart runId messages tools => exact framed_onChatModelStart cfg runId messages tools
  | llmEnd runId message => exact framed_onLlmEnd cfg runId message
  | llmError runId error => exact framed_onLlmError cfg runId error
  | toolStart runId name inputText inputs =>
    exact framed_onToolStart cfg runId name inputText inputs
  | toolEnd runId text => exact framed_onToolEnd cfg runId text
  | toolError runId reason => exact framed_onToolError cfg runId reason

end Callbacks

end AiAnalytics.App.DeepAgents
