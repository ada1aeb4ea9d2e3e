import AiAnalytics.App.Orchestration.Proof.LoopFrames

/-!
# The stages that neither call the tool nor add to the conversation

`asideFrame` allows what the loop does besides: it asks the model, prices and counts its calls,
validates proposals, publishes and stores steps. What `bookFrame` allows is allowed here.
-/

namespace AiAnalytics.App.Loop

open Lib Lib.Prog

variable {Float : Type} (cfg : LoopConfig Float)

section Frame

structure SameTalk (state next : LoopState Float) : Prop where
  messages : next.messages = state.messages
  stored : next.stored = state.stored

def asideFrame : Frame (LoopCall Float) (LoopState Float) where
  change := SameTalk
  call call := call.isToolCall = false

abbrev Aside {α : Type} (m : LoopM Float α) : Prop := Framed asideFrame m

theorem stable_books_of_aside {inv : History Float → LoopState Float → Prop}
    (hinv : asideFrame.Stable inv) : bookFrame.Stable inv where
  change state next history hsame hstate :=
    hinv.change state next history ⟨hsame.messages, hsame.stored⟩ hstate
  call x history state hfree hstate := hinv.call x history state hfree.isToolCall hstate

theorem aside_of_books {α : Type} {m : LoopM Float α} (hm : Framed bookFrame m) : Aside m :=
  fun _ _ hstable herr => hm.keeps (stable_books_of_aside hstable) herr

theorem aside_request {call : LoopCall Float} (hcall : call.isToolCall = false) :
    Aside (request call : LoopM Float (LoopReply call)) :=
  framed_ask hcall

theorem aside_local {f : LoopState Float → LoopState Float}
    (hmessages : ∀ state, (f state).messages = state.messages)
    (hstored : ∀ state, (f state).stored = state.stored) : Aside (modify f : LoopM Float PUnit) :=
  framed_modify fun state => ⟨hmessages state, hstored state⟩

end Frame

section Records

theorem aside_runWithCancellation {call : LoopCall Float}
    (hsubmitted : (LoopCall.submitted call).isToolCall = false) (hcall : call.isToolCall = false) :
    Aside (runWithCancellation call) := by
  apply framed_bind (aside_request hsubmitted)
  intro polls
  apply framed_bind (aside_of_books (framed_pollWorker polls))
  intro _
  exact aside_request hcall

theorem aside_track (record : BudgetTracker Float → Float × Float →
    Except (BudgetExceededError Float) Unit × BudgetTracker Float) : Aside (track record) := by
  apply framed_bind (aside_request rfl)
  intro elapsed
  apply framed_bind framed_get
  intro state
  apply framed_bind
  · exact aside_local (fun _ => rfl) fun _ => rfl
  intro _
  exact aside_of_books (framed_raiseBudget _)

theorem aside_recordCall (inputTokens outputTokens : Int) (cost : CallCost Float) :
    Aside (recordCall cfg inputTokens outputTokens cost) :=
  aside_track _

theorem aside_appendCall (call : LLMCall Float) : Aside (appendCall call) :=
  aside_local (fun _ => rfl) fun _ => rfl

theorem aside_callCost (phase : CallPhase) (inputTokens outputTokens : Int)
    (result : Option (ModelResult Float)) (modelId : Option String) :
    Aside (callCost cfg phase inputTokens outputTokens result modelId) :=
  framed_callCost cfg (fun _ _ _ _ => rfl) _ _ _ _

theorem aside_recordUnknownUsageFailure (phase : CallPhase) (error : LLMProviderError)
    (modelId failedCallId : String) (latencyMs : Int) :
    Aside (recordUnknownUsageFailure cfg phase error modelId failedCallId latencyMs) := by
  apply framed_bind (aside_callCost cfg _ _ _ _ _)
  intro cost
  apply framed_bind (aside_appendCall _)
  intro _
  apply framed_tryCatch (aside_recordCall cfg _ _ _)
  intro error
  cases error with
  | budgetExceeded error => exact framed_pure
  | _ => exact framed_throw

end Records

section Proposals

theorem aside_recordProposalFailure (error : LLMProviderError) (llmCallId : String)
    (callStart : Float) : Aside (recordProposalFailure cfg error llmCallId callStart) := by
  unfold recordProposalFailure
  split
  · apply framed_bind (aside_of_books (framed_millisSince cfg _))
    intro latencyMs
    exact aside_recordUnknownUsageFailure cfg _ _ _ _ _
  · apply framed_bind (aside_callCost cfg _ _ _ _ _)
    intro cost
    exact aside_appendCall _
  · exact framed_pure

theorem aside_recordRetryFailure (error : LLMProviderError) (llmCallId : String)
    (callStart : Float) : Aside (recordRetryFailure cfg error llmCallId callStart) := by
  unfold recordRetryFailure
  split
  · apply framed_bind (aside_of_books (framed_millisSince cfg _))
    intro latencyMs
    exact aside_recordUnknownUsageFailure cfg _ _ _ _ _
  · exact framed_pure

theorem aside_recordProposal (proposal : ToolProposalResult Float) (llmCallId : String)
    (callStart : Float) : Aside (recordProposal cfg proposal llmCallId callStart) := by
  apply framed_bind (aside_of_books (framed_millisSince cfg _))
  intro latencyMs
  apply framed_bind
  · exact aside_local (fun _ => rfl) fun _ => rfl
  intro _
  apply framed_bind (aside_callCost cfg _ _ _ _ _)
  intro cost
  apply framed_bind (aside_recordCall cfg _ _ _)
  intro _
  apply framed_bind (aside_appendCall _)
  intro _
  apply framed_bind (aside_of_books (framed_emit cfg _ _ _))
  intro _
  apply framed_bind (aside_of_books (framed_addStep _))
  intro _
  exact aside_local (fun _ => rfl) fun _ => rfl

theorem aside_recordRetry (proposal : ToolProposalResult Float) (llmCallId : String)
    (callStart : Float) : Aside (recordRetry cfg proposal llmCallId callStart) := by
  apply framed_bind (aside_of_books (framed_millisSince cfg _))
  intro latencyMs
  apply framed_bind
  · exact aside_local (fun _ => rfl) fun _ => rfl
  intro _
  apply framed_bind (aside_callCost cfg _ _ _ _ _)
  intro cost
  apply framed_bind (aside_recordCall cfg _ _ _)
  intro _
  apply framed_bind (aside_appendCall _)
  intro _
  apply framed_bind (aside_of_books (framed_emit cfg _ _ _))
  intro _
  exact aside_of_books (framed_addStep _)

theorem aside_retryProposal (schema : PyValue Float) (candidate : Candidate Float) :
    Aside (retryProposal cfg schema candidate) := by
  apply framed_bind (aside_request rfl)
  intro llmCallId
  apply framed_bind (aside_of_books (framed_emit cfg _ _ _))
  intro _
  apply framed_bind (aside_of_books framed_ensureCostDeterminate)
  intro _
  apply framed_bind (aside_request rfl)
  intro callStart
  apply framed_bind (aside_runWithCancellation rfl rfl)
  intro reply
  match reply with
  | .error (.configuration message) => exact framed_throw
  | .error (.provider error) =>
      apply framed_bind (aside_recordRetryFailure cfg _ _ _)
      intro _
      exact framed_throw
  | .ok proposal =>
      apply framed_bind (aside_recordRetry cfg _ _ _)
      intro _
      exact aside_of_books (framed_candidateOf _ _ _)

theorem aside_repairProposal (schema : PyValue Float) (left : Nat) (candidate : Candidate Float) :
    Aside (repairProposal cfg schema left candidate) := by
  induction left generalizing candidate with
  | zero =>
      unfold repairProposal
      split
      · exact framed_pure
      · apply framed_bind (aside_of_books (framed_reviewProposal cfg _ _))
        intro review
        exact framed_throw
  | succ left ih =>
      unfold repairProposal
      split
      · exact framed_pure
      · apply framed_bind (aside_of_books (framed_reviewProposal cfg _ _))
        intro review
        apply framed_ite
        · apply framed_bind (aside_retryProposal cfg _ _)
          intro next
          exact ih next
        · exact framed_throw

theorem aside_obtainClients (proposalCallId : String) :
    Aside (obtainClients proposalCallId : LoopM Float PUnit) := by
  apply framed_bind (aside_request rfl)
  intro reply
  match reply with
  | .error (.configuration message) => exact framed_throw
  | .error (.mcp error) => exact framed_throw
  | .ok clients => exact aside_local (fun _ => rfl) fun _ => rfl

end Proposals

section Answers

theorem aside_recordCrewCall (role : CrewRole) (agentStep : Nat) (callId : String)
    (callStart : Float) (result : LLMResult Float) :
    Aside (recordCrewCall cfg role agentStep callId callStart result) := by
  apply framed_bind (aside_of_books (framed_millisSince cfg _))
  intro latencyMs
  apply framed_bind (aside_callCost cfg _ _ _ _ _)
  intro cost
  apply framed_bind (aside_appendCall _)
  intro _
  apply framed_bind (aside_of_books (framed_emit cfg _ _ _))
  intro _
  apply framed_bind (aside_of_books (framed_addStep _))
  intro _
  apply framed_bind (aside_recordCall cfg _ _ _)
  intro _
  exact aside_of_books (framed_checkCancellation _)

theorem aside_crewInvokeModel (role : CrewRole) : Aside (crewInvokeModel cfg role) := by
  apply framed_bind
  · exact aside_local (fun _ => rfl) fun _ => rfl
  intro _
  apply framed_bind (aside_of_books (framed_checkCancellation _))
  intro _
  apply framed_bind framed_get
  intro state
  apply framed_bind framed_raiseIf
  intro _
  apply framed_bind (aside_request rfl)
  intro callId
  apply framed_bind (aside_of_books (framed_emit cfg _ _ _))
  intro _
  apply framed_bind (aside_of_books framed_ensureCostDeterminate)
  intro _
  apply framed_bind (aside_request rfl)
  intro callStart
  apply framed_bind (aside_runWithCancellation rfl rfl)
  intro reply
  match reply with
  | .error (.configuration message) => exact framed_throw
  | .error (.provider error) => exact framed_throw
  | .ok result => exact aside_recordCrewCall cfg _ _ _ _ _

theorem aside_crewCalls (calls : List CrewCall) : Aside (crewCalls cfg calls) := by
  induction calls with
  | nil => exact framed_pure
  | cons call calls ih =>
      apply framed_bind
      · apply framed_tryCatch (aside_crewInvokeModel cfg _)
        intro error
        exact aside_of_books (framed_letThrough _ _)
      intro _
      exact ih

end Answers

end AiAnalytics.App.Loop
