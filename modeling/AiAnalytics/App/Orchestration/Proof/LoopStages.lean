import AiAnalytics.App.Orchestration.Loop

/-!
# What every stage of the run loop keeps

An invariant of the loop is judged at its writes. `Sustained` lists these, and the lemmas below
carry such an invariant through every stage before the terminal record. The step of the answer is
the last one, and `Concludes` says what holds after it. A stage is left by an exception either with
one that the loop has a clause for, or through an exchange that `Escapes`.
-/

namespace AiAnalytics.App.Loop

open Lib Lib.Prog

variable {Float : Type}

section Conditions

/-- Exchanges whose reply is an exception that no clause of the loop names. In the agent strategy
every exception is caught. -/
def Escapes : Exchange (@LoopReply Float) → Prop
  | ⟨.proposeTaxiQuery .proposalRetry _ _ _, .error (.configuration _)⟩ => True
  | ⟨.validateProposal _ _ _ _, .error _⟩ => True
  | ⟨.estimate (.crewai _) _ _ _ _, _⟩ => False
  | ⟨.estimate _ _ _ _ _, .error _⟩ => True
  | ⟨.checkAnswerGrounding _ _ _, .error _⟩ => True
  | _ => False

def Notable : Exchange (@LoopReply Float) → Prop
  | ⟨.proposeTaxiQuery .proposal _ _ _, _⟩ => True
  | x => Escapes x

def Handled : LoopError Float → Prop
  | .runCancelled _ => True
  | .budgetExceeded _ => True
  | .orchestration _ => True
  | _ => False

structure SameRecords (state next : LoopState Float) : Prop where
  stored : next.stored = state.stored
  messages : next.messages = state.messages
  steps : next.steps = state.steps
  stepSeq : next.stepSeq = state.stepSeq
  events : next.events = state.events
  evtSequence : next.evtSequence = state.evtSequence

structure Logged (inv : History Float → LoopState Float → Prop) : Prop where
  exchange : ∀ x history state, ¬ Notable x → inv history state → inv (history ++ [x]) state
  message : ∀ message history state, inv history state → inv history (state.storeMessage message)

def AdmitsProposal (inv : History Float → LoopState Float → Prop) : Prop :=
  ∀ llmCallId prompt schema reply history state, inv history state →
    inv (history ++ [⟨.proposeTaxiQuery .proposal llmCallId prompt schema, reply⟩]) state

structure Sustained (inv : History Float → LoopState Float → Prop) : Prop extends Logged inv where
  locals : ∀ history state next, SameRecords state next → inv history state → inv history next
  publish : ∀ event history state, (event state.evtSequence).eventType.endsWith = none →
    (event state.evtSequence).sequence = state.evtSequence →
    inv history state → inv history (state.publish event)
  step : ∀ step history state, (step state.stepSeq).sequence = state.stepSeq →
    inv history state → inv history (state.storeStep step).advanceStep

structure Concludes (inv answered : History Float → LoopState Float → Prop) : Prop
    extends Logged answered where
  skipped : ∀ history state, inv history state → answered history state
  lastStep : ∀ step history state, (step state.stepSeq).sequence = state.stepSeq →
    inv history state → answered history (state.storeStep step)

structure Closes (inv : History Float → LoopState Float → Prop) : Prop extends Logged inv where
  record : ∀ run history state, inv history state → inv history { state with stored := run }
  publish : ∀ event history state, (event state.evtSequence).sequence = state.evtSequence →
    inv history state → inv history (state.publish event)

structure Carried (inv : History Float → LoopState Float → Prop) : Prop extends Sustained inv where
  lastStep : ∀ step history state, inv history state → inv history (state.storeStep step)

theorem notable_of_escapes {x : Exchange (@LoopReply Float)} (hx : Escapes x) : Notable x := by
  unfold Notable
  split
  · trivial
  · exact hx

theorem Carried.concludes {inv : History Float → LoopState Float → Prop} (hinv : Carried inv) :
    Concludes inv inv where
  toLogged := hinv.toLogged
  skipped _ _ hstate := hstate
  lastStep step history state _ hstate := hinv.lastStep step history state hstate

end Conditions

variable (cfg : LoopConfig Float) {inv : History Float → LoopState Float → Prop}
  {err : LoopError Float → History Float → LoopState Float → Prop}

section Writes

section Logged

variable (hlog : Logged inv)
include hlog

theorem keeps_request {call : LoopCall Float} (hquiet : ∀ reply, ¬ Notable ⟨call, reply⟩) :
    Keeps inv err (request call) := by
  apply keeps_ask
  intro reply history state hstate
  exact hlog.exchange _ _ _ (hquiet reply) hstate

theorem keeps_addMessage (role content : String) (metadata : Dict Float) :
    Keeps inv err (addMessage cfg role content metadata) := by
  apply keeps_bind (keeps_request hlog fun _ => id)
  intro messageId
  apply keeps_bind (keeps_request hlog fun _ => id)
  intro createdAt
  apply keeps_modify
  intro history state hstate
  exact hlog.message _ _ _ hstate

theorem keeps_millisSince (start : Float) : Keeps inv err (millisSince cfg start) := by
  apply keeps_bind (keeps_request hlog fun _ => id)
  intro now
  exact keeps_pure

end Logged

variable (hinv : Sustained inv)
include hinv

theorem keeps_locals {f : LoopState Float → LoopState Float}
    (hsame : ∀ state, SameRecords state (f state)) : Keeps inv err (modify f) := by
  apply keeps_modify
  intro history state hstate
  exact hinv.locals _ _ _ (hsame state) hstate

theorem keeps_emit {eventType : RunEventType} (hquiet : eventType.endsWith = none)
    (payload : Dict Float) (refs : EventRefs) :
    Keeps inv err (emit cfg eventType payload refs) := by
  apply keeps_modify
  intro history state hstate
  exact hinv.publish _ _ _ hquiet rfl hstate

theorem keeps_addStep {step : String → Int → RunStep Float}
    (hnumber : ∀ stepId sequence, (step stepId sequence).sequence = sequence) :
    Keeps inv err (addStep step) := by
  have hstore : Ensures inv (appendStep step) (fun _ history state =>
      ∃ stepId before, inv history before ∧ state = before.storeStep (step stepId)) err := by
    apply ensures_bind (keeps_request hinv.toLogged fun _ => id)
    intro stepId
    apply ensures_modify
    intro history state hstate
    exact ⟨_, state, hstate, rfl⟩
  apply ensures_bind hstore
  intro _
  apply ensures_modify
  rintro history state ⟨stepId, before, hbefore, rfl⟩
  exact hinv.step _ _ _ (hnumber stepId before.stepSeq) hbefore

theorem ensures_appendStep {answered : History Float → LoopState Float → Prop}
    (hend : Concludes inv answered) {step : String → Int → RunStep Float}
    (hnumber : ∀ stepId sequence, (step stepId sequence).sequence = sequence) :
    Ensures inv (appendStep step) (fun _ => answered) err := by
  apply ensures_bind (keeps_request hinv.toLogged fun _ => id)
  intro stepId
  apply ensures_modify
  intro history state hstate
  exact hend.lastStep _ _ _ (hnumber stepId state.stepSeq) hstate

theorem keeps_appendCall (call : LLMCall Float) : Keeps inv err (appendCall call) :=
  keeps_locals hinv fun _ => ⟨rfl, rfl, rfl, rfl, rfl, rfl⟩

end Writes

section Checks

variable (hinv : Sustained inv)
  (hstop : ∀ error history state, Handled error → inv history state → err error history state)
include hinv hstop

theorem keeps_checkCancellation (partialText : String) :
    Keeps inv err (checkCancellation partialText) := by
  apply keeps_bind (keeps_request hinv.toLogged fun _ => id)
  intro (cancelled : Bool)
  apply keeps_raiseIf
  intro history state hstate
  exact hstop _ _ _ trivial hstate

theorem keeps_pollWorker (polls : Nat) : Keeps inv err (pollWorker polls) := by
  induction polls with
  | zero => exact keeps_pure
  | succ polls ih =>
      apply keeps_bind (keeps_checkCancellation hinv hstop "")
      intro _
      exact ih

theorem ensures_runWithCancellation {call : LoopCall Float}
    {post : LoopReply call → History Float → LoopState Float → Prop}
    (hpost : ∀ reply history state, inv history state →
      post reply (history ++ [⟨call, reply⟩]) state) :
    Ensures inv (runWithCancellation call) post err := by
  apply ensures_bind (keeps_request hinv.toLogged fun _ => id)
  intro polls
  apply ensures_bind (keeps_pollWorker hinv hstop polls)
  intro _
  exact ensures_ask hpost

theorem keeps_runWithCancellation {call : LoopCall Float}
    (hquiet : ∀ reply, ¬ Notable ⟨call, reply⟩) : Keeps inv err (runWithCancellation call) := by
  apply ensures_runWithCancellation hinv hstop
  intro reply history state hstate
  exact hinv.exchange _ _ _ (hquiet reply) hstate

omit hinv in
theorem keeps_raiseBudget (outcome : Except (BudgetExceededError Float) Unit) :
    Keeps inv err (raiseBudget outcome) := by
  cases outcome with
  | ok _ => exact keeps_pure
  | error error =>
      apply keeps_throw
      intro history state hstate
      exact hstop _ _ _ trivial hstate

theorem keeps_track (record : BudgetTracker Float → Float × Float →
    Except (BudgetExceededError Float) Unit × BudgetTracker Float) :
    Keeps inv err (track record) := by
  apply keeps_bind (keeps_request hinv.toLogged fun _ => id)
  intro elapsed
  apply keeps_bind keeps_get
  intro state
  apply keeps_bind
  · exact keeps_locals hinv fun _ => ⟨rfl, rfl, rfl, rfl, rfl, rfl⟩
  · intro _
    exact keeps_raiseBudget hstop _

omit hinv in
theorem keeps_ensureCostDeterminate : Keeps inv err ensureCostDeterminate := by
  apply keeps_bind keeps_get
  intro state
  exact keeps_raiseBudget hstop _

theorem keeps_recordCall (inputTokens outputTokens : Int) (cost : CallCost Float) :
    Keeps inv err (recordCall cfg inputTokens outputTokens cost) :=
  keeps_track hinv hstop _

end Checks

section Cost

def AfterReply {α : Type} (inv : History Float → LoopState Float → Prop)
    (err : LoopError Float → History Float → LoopState Float → Prop) :
    Except PyFault α → History Float → LoopState Float → Prop
  | .ok _ => inv
  | .error fault => err (.fault fault)

theorem ensures_orFault {α : Type} {reply : Except PyFault α} :
    Ensures (AfterReply inv err reply) (orFault reply) (fun _ => inv) err := by
  cases reply with
  | ok a => exact ensures_pure fun _ _ hstate => hstate
  | error fault => exact ensures_throw fun _ _ hstate => hstate

def EstimateFails (inv : History Float → LoopState Float → Prop)
    (err : LoopError Float → History Float → LoopState Float → Prop) (phase : CallPhase) : Prop :=
  ∀ table key inputTokens outputTokens fault history state, inv history state →
    err (.fault fault)
      (history ++ [⟨.estimate phase table key inputTokens outputTokens, .error fault⟩]) state

variable {phase : CallPhase} (hinv : Sustained inv) (hfail : EstimateFails inv err phase)
include hinv hfail

theorem keeps_estimate (table : PricingTable Float) (key : String)
    (inputTokens outputTokens : Int) :
    Keeps inv err (estimate cfg phase table key inputTokens outputTokens) := by
  have hask : Ensures inv (request (.estimate phase table key inputTokens outputTokens))
      (fun reply : Except PyFault (Option Float) => AfterReply inv err reply) err := by
    apply ensures_ask
    intro reply history state hstate
    cases reply with
    | ok cost =>
        apply hinv.exchange _ _ _ _ hstate
        cases phase <;> exact id
    | error fault => exact hfail _ _ _ _ _ _ _ hstate
  apply ensures_bind hask
  intro reply
  apply ensures_bind ensures_orFault
  intro cost
  exact keeps_pure

theorem keeps_tableCost (inputTokens outputTokens : Int) (result : Option (ModelResult Float))
    (table : PricingTable Float) (key : String) :
    Keeps inv err (tableCost cfg phase inputTokens outputTokens result table key) := by
  apply keeps_bind (keeps_estimate cfg hinv hfail _ _ _ _)
  intro cost
  apply keeps_ite
  · apply keeps_bind (keeps_estimate cfg hinv hfail _ _ _ _)
    intro bound
    exact keeps_pure
  · exact keeps_pure

theorem keeps_callCost (inputTokens outputTokens : Int) (result : Option (ModelResult Float))
    (modelId : Option String) :
    Keeps inv err (callCost cfg phase inputTokens outputTokens result modelId) := by
  apply keeps_bind keeps_get
  intro state
  apply keeps_ite
  · exact keeps_pure
  · cases authoritativeCost result with
    | some cost => exact keeps_pure
    | none =>
        cases pricedKey cfg state.clients result modelId with
        | none => exact keeps_pure
        | some priced => exact keeps_tableCost cfg hinv hfail _ _ _ _ _

end Cost

section Stages

variable (hinv : Sustained inv)
  (hstop : ∀ error history state, Handled error → inv history state → err error history state)
  (hescape : ∀ x error history state, Escapes x → ¬ Handled error → inv history state →
    err error (history ++ [x]) state)

section Proposals

include hstop in
theorem keeps_stop {α : Type} {error : LoopError Float} (hhandled : Handled error) :
    Keeps inv err (throw error : LoopM Float α) := by
  apply keeps_throw
  intro history state hstate
  exact hstop _ _ _ hhandled hstate

include hescape in
theorem estimateFails_of_escape (phase : CallPhase) (hphase : ∀ role, phase ≠ .crewai role) :
    EstimateFails inv err phase := by
  intro table key inputTokens outputTokens fault history state hstate
  apply hescape _ _ _ _ _ id hstate
  cases phase with
  | crewai role => exact absurd rfl (hphase role)
  | _ => trivial

include hinv hstop hescape

theorem keeps_recordUnknownUsageFailure (phase : CallPhase) (hphase : ∀ role, phase ≠ .crewai role)
    (error : LLMProviderError) (modelId failedCallId : String) (latencyMs : Int) :
    Keeps inv err (recordUnknownUsageFailure cfg phase error modelId failedCallId latencyMs) := by
  apply keeps_bind (keeps_callCost cfg hinv (estimateFails_of_escape hescape phase hphase) _ _ _ _)
  intro cost
  apply keeps_bind (keeps_appendCall hinv _)
  intro _
  have hcharge : Keeps inv (fun raised history state => Handled raised ∧ inv history state)
      (recordCall cfg 0 0 cost) :=
    keeps_recordCall cfg hinv (fun _ _ _ hhandled hstate => ⟨hhandled, hstate⟩) 0 0 cost
  apply keeps_tryCatch hcharge
  intro raised
  cases raised with
  | budgetExceeded _ => exact ensures_pure fun _ _ hstate => hstate.2
  | _ => exact ensures_throw fun _ _ hstate => hstop _ _ _ hstate.1 hstate.2

theorem keeps_recordProposalFailure (error : LLMProviderError) (llmCallId : String)
    (callStart : Float) : Keeps inv err (recordProposalFailure cfg error llmCallId callStart) := by
  unfold recordProposalFailure
  cases error.modelId with
  | none => exact keeps_pure
  | some modelId =>
      cases error.inputTokens with
      | none =>
          apply keeps_bind (keeps_millisSince cfg hinv.toLogged callStart)
          intro latencyMs
          exact keeps_recordUnknownUsageFailure cfg hinv hstop hescape .proposal nofun _ _ _ _
      | some inputTokens =>
          apply keeps_bind
          · exact keeps_callCost cfg hinv (estimateFails_of_escape hescape .proposal nofun) _ _ _ _
          intro cost
          exact keeps_appendCall hinv _

theorem keeps_recordRetryFailure (error : LLMProviderError) (llmCallId : String)
    (callStart : Float) : Keeps inv err (recordRetryFailure cfg error llmCallId callStart) := by
  unfold recordRetryFailure
  cases error.modelId with
  | none => exact keeps_pure
  | some modelId =>
      cases error.inputTokens with
      | none =>
          apply keeps_bind (keeps_millisSince cfg hinv.toLogged callStart)
          intro latencyMs
          exact keeps_recordUnknownUsageFailure cfg hinv hstop hescape .proposalRetry nofun _ _ _ _
      | some inputTokens => exact keeps_pure

theorem keeps_recordProposal (proposal : ToolProposalResult Float) (llmCallId : String)
    (callStart : Float) : Keeps inv err (recordProposal cfg proposal llmCallId callStart) := by
  apply keeps_bind (keeps_millisSince cfg hinv.toLogged callStart)
  intro latencyMs
  apply keeps_bind
  · exact keeps_locals hinv fun _ => ⟨rfl, rfl, rfl, rfl, rfl, rfl⟩
  intro _
  apply keeps_bind (keeps_callCost cfg hinv (estimateFails_of_escape hescape .proposal nofun)
    _ _ _ _)
  intro cost
  apply keeps_bind (keeps_recordCall cfg hinv hstop _ _ _)
  intro _
  apply keeps_bind (keeps_appendCall hinv _)
  intro _
  apply keeps_bind (keeps_emit cfg hinv rfl _ _)
  intro _
  apply keeps_bind (keeps_addStep hinv fun _ _ => rfl)
  intro _
  exact keeps_locals hinv fun _ => ⟨rfl, rfl, rfl, rfl, rfl, rfl⟩

theorem keeps_proposeTaxiQuery (hadmits : AdmitsProposal inv) (schema : PyValue Float)
    (llmCallId : String) : Keeps inv err (proposeTaxiQuery cfg schema llmCallId) := by
  apply keeps_bind (keeps_emit cfg hinv rfl _ _)
  intro _
  apply keeps_bind (keeps_ensureCostDeterminate hstop)
  intro _
  apply keeps_bind (keeps_request hinv.toLogged fun _ => id)
  intro callStart
  apply keeps_bind (ensures_runWithCancellation hinv hstop (hadmits _ _ _))
  intro reply
  match reply with
  | .error (.configuration message) => exact keeps_stop hstop trivial
  | .error (.provider error) =>
      apply keeps_bind (keeps_recordProposalFailure cfg hinv hstop hescape error llmCallId
        callStart)
      intro _
      exact keeps_stop hstop trivial
  | .ok proposal =>
      apply keeps_bind (keeps_recordProposal cfg hinv hstop hescape proposal llmCallId callStart)
      intro _
      exact keeps_pure

omit hstop in
theorem keeps_validate (name : String) (arguments schema : PyValue Float) :
    Keeps inv err (validate name arguments schema) := by
  apply keeps_bind keeps_get
  intro state
  have hask : Ensures inv
      (request (.validateProposal name arguments schema state.executedToolSignatures.length))
      (fun reply : Except PyFault ProposalValidation => AfterReply inv err reply) err := by
    apply ensures_ask
    intro reply history state hstate
    cases reply with
    | ok validation => exact hinv.exchange _ _ _ id hstate
    | error fault => exact hescape _ _ _ _ trivial id hstate
  apply ensures_bind hask
  intro reply
  exact ensures_orFault

omit hstop in
theorem keeps_candidateOf (schema : PyValue Float) (proposal : ToolProposalResult Float)
    (llmCallId : String) : Keeps inv err (candidateOf schema proposal llmCallId) := by
  apply keeps_bind (keeps_validate hinv hescape _ _ _)
  intro validation
  apply keeps_ite
  · apply keeps_bind (keeps_request hinv.toLogged fun _ => id)
    intro parsed
    exact keeps_pure
  · exact keeps_pure

theorem keeps_recordRetry (proposal : ToolProposalResult Float) (llmCallId : String)
    (callStart : Float) : Keeps inv err (recordRetry cfg proposal llmCallId callStart) := by
  apply keeps_bind (keeps_millisSince cfg hinv.toLogged callStart)
  intro latencyMs
  apply keeps_bind
  · exact keeps_locals hinv fun _ => ⟨rfl, rfl, rfl, rfl, rfl, rfl⟩
  intro _
  apply keeps_bind (keeps_callCost cfg hinv (estimateFails_of_escape hescape .proposalRetry nofun)
    _ _ _ _)
  intro cost
  apply keeps_bind (keeps_recordCall cfg hinv hstop _ _ _)
  intro _
  apply keeps_bind (keeps_appendCall hinv _)
  intro _
  apply keeps_bind (keeps_emit cfg hinv rfl _ _)
  intro _
  exact keeps_addStep hinv fun _ _ => rfl

def AfterRetry (inv : History Float → LoopState Float → Prop)
    (err : LoopError Float → History Float → LoopState Float → Prop) :
    Except LLMError (ToolProposalResult Float) → History Float → LoopState Float → Prop
  | .error (.configuration message) => err (.llmConfiguration message)
  | _ => inv

theorem keeps_retryProposal (schema : PyValue Float) (candidate : Candidate Float) :
    Keeps inv err (retryProposal cfg schema candidate) := by
  apply keeps_bind (keeps_request hinv.toLogged fun _ => id)
  intro llmCallId
  apply keeps_bind (keeps_emit cfg hinv rfl _ _)
  intro _
  apply keeps_bind (keeps_ensureCostDeterminate hstop)
  intro _
  apply keeps_bind (keeps_request hinv.toLogged fun _ => id)
  intro callStart
  have hask : Ensures inv
      (runWithCancellation
        (.proposeTaxiQuery .proposalRetry llmCallId (retryPrompt cfg candidate.validation) schema))
      (fun reply : Except LLMError (ToolProposalResult Float) => AfterRetry inv err reply) err := by
    apply ensures_runWithCancellation hinv hstop
    intro reply history state hstate
    match reply with
    | .error (.configuration message) => exact hescape _ _ _ _ trivial id hstate
    | .error (.provider error) => exact hinv.exchange _ _ _ id hstate
    | .ok proposal => exact hinv.exchange _ _ _ id hstate
  apply ensures_bind hask
  intro reply
  match reply with
  | .error (.configuration message) => exact ensures_throw fun _ _ hstate => hstate
  | .error (.provider error) =>
      apply keeps_bind (keeps_recordRetryFailure cfg hinv hstop hescape error llmCallId callStart)
      intro _
      exact keeps_stop hstop trivial
  | .ok proposal =>
      apply keeps_bind (keeps_recordRetry cfg hinv hstop hescape proposal llmCallId callStart)
      intro _
      exact keeps_candidateOf hinv hescape _ _ _

omit hstop hescape in
theorem keeps_reviewProposal (candidate : Candidate Float) (retries : Nat) :
    Keeps inv err (reviewProposal cfg candidate retries) := by
  apply keeps_bind (keeps_request hinv.toLogged fun _ => id)
  intro summary
  apply keeps_bind (keeps_addStep hinv fun _ _ => rfl)
  intro _
  apply keeps_bind (keeps_request hinv.toLogged fun _ => id)
  intro elapsed
  apply keeps_bind keeps_get
  intro state
  exact keeps_pure

theorem keeps_repairProposal (schema : PyValue Float) (left : Nat) (candidate : Candidate Float) :
    Keeps inv err (repairProposal cfg schema left candidate) := by
  induction left generalizing candidate with
  | zero =>
      rw [repairProposal]
      cases candidate.request with
      | some parsed => exact keeps_pure
      | none =>
          apply keeps_bind (keeps_reviewProposal cfg hinv _ _)
          intro review
          exact keeps_stop hstop trivial
  | succ left ih =>
      rw [repairProposal]
      cases candidate.request with
      | some parsed => exact keeps_pure
      | none =>
          apply keeps_bind (keeps_reviewProposal cfg hinv _ _)
          intro review
          apply keeps_ite
          · apply keeps_bind (keeps_retryProposal cfg hinv hstop hescape _ _)
            intro next
            exact ih next
          · exact keeps_stop hstop trivial

end Proposals

section Tools

include hinv

theorem keeps_sanitized (raw : Except MCPToolError (PyValue Float)) :
    Keeps inv err (sanitized raw) := by
  cases raw with
  | ok payload => exact keeps_request hinv.toLogged fun _ => id
  | error error => exact keeps_pure

include hstop

theorem keeps_executeTool (name : String) (arguments : Dict Float) :
    Keeps inv err (executeTool name arguments) := by
  apply keeps_ite
  · apply keeps_bind (keeps_runWithCancellation hinv hstop fun _ => id)
    intro raw
    exact keeps_sanitized hinv _
  apply keeps_ite
  · apply keeps_bind (keeps_runWithCancellation hinv hstop fun _ => id)
    intro raw
    exact keeps_sanitized hinv _
  apply keeps_ite
  · exact keeps_runWithCancellation hinv hstop fun _ => id
  · exact keeps_pure

include hescape in
theorem keeps_requestTool (schema : PyValue Float) (proposalCallId : String)
    (llmCallId : Option String) (name : String) (arguments : Dict Float) :
    Keeps inv err (requestTool cfg schema proposalCallId llmCallId name arguments) := by
  apply keeps_bind (keeps_validate hinv hescape _ _ _)
  intro preExec
  apply keeps_bind
  · exact keeps_raiseIf fun _ _ hstate => hstop _ _ _ trivial hstate
  intro _
  apply keeps_bind (keeps_emit cfg hinv rfl _ _)
  intro _
  apply keeps_bind keeps_get
  intro state
  apply keeps_bind
  · exact keeps_raiseIf fun _ _ hstate => hstop _ _ _ trivial hstate
  intro _
  exact keeps_locals hinv fun _ => ⟨rfl, rfl, rfl, rfl, rfl, rfl⟩

omit hstop in
theorem keeps_recordToolFailure (error : MCPToolError) (name toolCallId : String)
    (arguments : Dict Float) (durationMs : Int) :
    Keeps inv err (recordToolFailure cfg error name toolCallId arguments durationMs) := by
  apply keeps_bind (keeps_emit cfg hinv rfl _ _)
  intro _
  exact keeps_addStep hinv fun _ _ => rfl

omit hstop in
theorem keeps_recordFindings (queryId : String) (findings : List (PyValue Float)) :
    Keeps inv err (recordFindings cfg queryId findings) :=
  keeps_ite keeps_pure (keeps_addStep hinv fun _ _ => rfl)

theorem keeps_recordToolResult (result : PyValue Float) (name toolCallId : String)
    (arguments : Dict Float) (durationMs : Int) :
    Keeps inv err (recordToolResult cfg result name toolCallId arguments durationMs) := by
  apply keeps_bind
  · exact keeps_locals hinv fun _ => ⟨rfl, rfl, rfl, rfl, rfl, rfl⟩
  intro _
  apply keeps_bind (keeps_track hinv hstop _)
  intro _
  apply keeps_bind (keeps_emit cfg hinv rfl _ _)
  intro _
  apply keeps_bind (keeps_addStep hinv fun _ _ => rfl)
  intro _
  apply keeps_bind (keeps_request hinv.toLogged fun _ => id)
  intro findings
  apply keeps_bind (keeps_recordFindings cfg hinv _ _)
  intro _
  apply keeps_bind (keeps_addMessage cfg hinv.toLogged _ _ _)
  intro _
  exact keeps_locals hinv fun _ => ⟨rfl, rfl, rfl, rfl, rfl, rfl⟩

theorem keeps_runTool (llmCallId : Option String) (name : String) (arguments : Dict Float) :
    Keeps inv err (runTool cfg llmCallId name arguments) := by
  apply keeps_bind (keeps_checkCancellation hinv hstop _)
  intro _
  apply keeps_bind (keeps_request hinv.toLogged fun _ => id)
  intro toolCallId
  apply keeps_bind
  · exact keeps_locals hinv fun _ => ⟨rfl, rfl, rfl, rfl, rfl, rfl⟩
  intro _
  apply keeps_bind (keeps_emit cfg hinv rfl _ _)
  intro _
  apply keeps_bind (keeps_request hinv.toLogged fun _ => id)
  intro toolStart
  apply keeps_bind (keeps_executeTool hinv hstop _ _)
  intro outcome
  apply keeps_bind (keeps_millisSince cfg hinv.toLogged _)
  intro durationMs
  cases outcome with
  | error error =>
      apply keeps_bind (keeps_recordToolFailure cfg hinv _ _ _ _ _)
      intro _
      exact keeps_stop hstop trivial
  | ok result =>
      apply keeps_bind (keeps_recordToolResult cfg hinv hstop _ _ _ _ _)
      intro _
      exact keeps_pure

theorem keeps_reduceContext (schema result : PyValue Float) :
    Keeps inv err (reduceContext cfg schema result) := by
  apply keeps_bind (keeps_checkCancellation hinv hstop _)
  intro _
  apply keeps_bind keeps_get
  intro state
  apply keeps_bind (keeps_request hinv.toLogged fun _ => id)
  intro context
  apply keeps_bind (keeps_emit cfg hinv rfl _ _)
  intro _
  exact keeps_addStep hinv fun _ _ => rfl

end Tools

section Answers

include hinv

include hescape in
theorem keeps_applyGrounding (text : String) (result : PyValue Float) :
    Keeps inv err (applyGrounding cfg text result) := by
  have hask : Ensures inv (request (.checkAnswerGrounding text result cfg.prompt))
      (fun reply : Except PyFault (GroundingReport Float) => AfterReply inv err reply) err := by
    apply ensures_ask
    intro reply history state hstate
    cases reply with
    | ok report => exact hinv.exchange _ _ _ id hstate
    | error fault => exact hescape _ _ _ _ trivial id hstate
  apply ensures_bind hask
  intro reply
  apply ensures_bind ensures_orFault
  intro report
  cases report.caveat with
  | none => exact keeps_pure
  | some caveat =>
      apply keeps_bind (keeps_addStep hinv fun _ _ => rfl)
      intro _
      exact keeps_pure

theorem keeps_speak (text llmCallId : String) : Keeps inv err (speak cfg text llmCallId) := by
  unfold speak
  cases cfg.voice with
  | none => exact keeps_pure
  | some voiceName =>
      apply keeps_bind (keeps_request hinv.toLogged fun _ => id)
      intro audio
      match audio with
      | none => exact keeps_pure
      | some data => exact keeps_emit cfg hinv rfl _ _

theorem keeps_recordCrewCall (role : CrewRole) (agentStep : Nat) (callId : String)
    (callStart : Float) (result : LLMResult Float) :
    Keeps inv (fun _ => inv) (recordCrewCall cfg role agentStep callId callStart result) := by
  have hfail : EstimateFails inv (fun _ => inv) (.crewai role) :=
    fun _ _ _ _ _ _ _ hstate => hinv.exchange _ _ _ id hstate
  apply keeps_bind (keeps_millisSince cfg hinv.toLogged _)
  intro latencyMs
  apply keeps_bind (keeps_callCost cfg hinv hfail _ _ _ _)
  intro cost
  apply keeps_bind (keeps_appendCall hinv _)
  intro _
  apply keeps_bind (keeps_emit cfg hinv rfl _ _)
  intro _
  apply keeps_bind (keeps_addStep hinv fun _ _ => rfl)
  intro _
  apply keeps_bind (keeps_recordCall cfg hinv (fun _ _ _ _ hstate => hstate) _ _ _)
  intro _
  exact keeps_checkCancellation hinv (fun _ _ _ _ hstate => hstate) _

theorem keeps_crewInvokeModel (role : CrewRole) :
    Keeps inv (fun _ => inv) (crewInvokeModel cfg role) := by
  apply keeps_bind
  · exact keeps_locals hinv fun _ => ⟨rfl, rfl, rfl, rfl, rfl, rfl⟩
  intro _
  apply keeps_bind (keeps_checkCancellation hinv (fun _ _ _ _ hstate => hstate) _)
  intro _
  apply keeps_bind keeps_get
  intro state
  apply keeps_bind
  · exact keeps_raiseIf fun _ _ hstate => hstate
  intro _
  apply keeps_bind (keeps_request hinv.toLogged fun _ => id)
  intro callId
  apply keeps_bind (keeps_emit cfg hinv rfl _ _)
  intro _
  apply keeps_bind (keeps_ensureCostDeterminate fun _ _ _ _ hstate => hstate)
  intro _
  apply keeps_bind (keeps_request hinv.toLogged fun _ => id)
  intro callStart
  apply keeps_bind (keeps_runWithCancellation hinv (fun _ _ _ _ hstate => hstate) fun _ => id)
  intro reply
  match reply with
  | .error (.configuration message) => exact keeps_throw fun _ _ hstate => hstate
  | .error (.provider error) => exact keeps_throw fun _ _ hstate => hstate
  | .ok result => exact keeps_recordCrewCall cfg hinv _ _ _ _ _

omit hinv in
theorem keeps_letThrough (call : CrewCall) (error : LoopError Float) :
    Keeps inv (fun _ => inv) (letThrough call error) := by
  unfold letThrough
  cases call.wrapped with
  | none => exact keeps_throw fun _ _ hstate => hstate
  | some fault => exact keeps_throw fun _ _ hstate => hstate

theorem keeps_crewCalls (calls : List CrewCall) :
    Keeps inv (fun _ => inv) (crewCalls cfg calls) := by
  induction calls with
  | nil => exact keeps_pure
  | cons call calls ih =>
      apply keeps_bind
      · exact keeps_tryCatch (keeps_crewInvokeModel cfg hinv call.role) (keeps_letThrough call)
      · intro _
        exact ih

theorem keeps_runTwoAgentAnswer (result : PyValue Float) :
    Keeps inv (fun _ => inv) (runTwoAgentAnswer cfg result) := by
  apply keeps_bind (keeps_request hinv.toLogged fun _ => id)
  intro plan
  apply keeps_bind (keeps_crewCalls cfg hinv _)
  intro _
  apply keeps_bind
  · cases Kickoff.output plan with
    | ok output => exact keeps_pure
    | error fault => exact keeps_throw fun _ _ hstate => hstate
  intro output
  apply keeps_bind
  · exact keeps_raiseIf fun _ _ hstate => hstate
  intro _
  exact keeps_pure

omit hinv in
include hstop in
theorem keeps_strategyError (answerCallId : String) (error : LoopError Float) :
    Keeps inv err (strategyError answerCallId error) := by
  cases error with
  | llmConfiguration message =>
      apply keeps_bind keeps_get
      intro state
      exact keeps_stop hstop trivial
  | fault fault =>
      apply keeps_bind keeps_get
      intro state
      exact keeps_stop hstop trivial
  | _ => exact keeps_stop hstop trivial

include hstop hescape in
theorem keeps_crewAnswer (result : PyValue Float) (answerCallId : String) (ansStart : Float) :
    Keeps inv err (crewAnswer cfg result answerCallId ansStart) := by
  apply keeps_bind
  · exact keeps_tryCatch (keeps_runTwoAgentAnswer cfg hinv result)
      (keeps_strategyError hstop answerCallId)
  intro text
  apply keeps_bind (keeps_millisSince cfg hinv.toLogged _)
  intro latencyMs
  apply keeps_bind
  · exact keeps_locals hinv fun _ => ⟨rfl, rfl, rfl, rfl, rfl, rfl⟩
  intro _
  apply keeps_bind (keeps_applyGrounding cfg hinv hescape _ _)
  intro answer
  apply keeps_bind keeps_get
  intro state
  apply keeps_bind (keeps_emit cfg hinv rfl _ _)
  intro _
  apply keeps_bind (keeps_speak cfg hinv _ _)
  intro _
  apply keeps_bind (keeps_addMessage cfg hinv.toLogged _ _ _)
  intro _
  exact keeps_pure

theorem keeps_noteFirstDelta (ansStart : Float) : Keeps inv err (noteFirstDelta cfg ansStart) := by
  apply keeps_bind keeps_get
  intro state
  cases state.ttftMs with
  | some latency => exact keeps_pure
  | none =>
      apply keeps_bind (keeps_millisSince cfg hinv.toLogged _)
      intro latencyMs
      exact keeps_locals hinv fun _ => ⟨rfl, rfl, rfl, rfl, rfl, rfl⟩

include hstop

theorem keeps_publishDeltas (ansStart : Float) (llmCallId : String) (deltas : List String)
    (chunks : String) : Keeps inv err (publishDeltas cfg ansStart llmCallId deltas chunks) := by
  induction deltas generalizing chunks with
  | nil => exact keeps_pure
  | cons delta deltas ih =>
      apply keeps_bind (keeps_noteFirstDelta cfg hinv _)
      intro _
      apply keeps_bind (keeps_emit cfg hinv rfl _ _)
      intro _
      apply keeps_bind (keeps_checkCancellation hinv hstop _)
      intro _
      exact ih _

theorem keeps_askForAnswer (result : PyValue Float) (answerCallId : String) (ansStart : Float) :
    Keeps inv err (askForAnswer cfg result answerCallId ansStart) := by
  apply keeps_bind keeps_get
  intro state
  apply keeps_ite
  · apply keeps_bind
    · exact keeps_locals hinv fun _ => ⟨rfl, rfl, rfl, rfl, rfl, rfl⟩
    intro _
    apply keeps_bind (keeps_request hinv.toLogged fun _ => id)
    intro reply
    apply keeps_bind (keeps_publishDeltas cfg hinv hstop _ _ _ _)
    intro _
    exact keeps_pure
  · apply keeps_bind
    · exact keeps_locals hinv fun _ => ⟨rfl, rfl, rfl, rfl, rfl, rfl⟩
    intro _
    exact keeps_request hinv.toLogged fun _ => id

include hescape

variable {answered : History Float → LoopState Float → Prop} (hend : Concludes inv answered)
include hend

theorem concludes_recordAnswer (answer : String) (reply : LLMResult Float) (result : PyValue Float)
    (answerCallId : String) (latencyMs : Int) :
    Ensures inv (recordAnswer cfg answer reply result answerCallId latencyMs)
      (fun _ => answered) err := by
  apply ensures_bind (keeps_callCost cfg hinv
    (estimateFails_of_escape hescape .finalAnswer nofun) _ _ _ _)
  intro cost
  apply ensures_bind (keeps_recordCall cfg hinv hstop _ _ _)
  intro _
  apply ensures_bind (keeps_appendCall hinv _)
  intro _
  apply ensures_bind (keeps_emit cfg hinv rfl _ _)
  intro _
  apply ensures_bind (ensures_appendStep hinv hend fun _ _ => rfl)
  intro _
  exact keeps_addMessage cfg hend.toLogged _ _ _

theorem concludes_manualAnswer (result : PyValue Float) (answerCallId : String) (ansStart : Float) :
    Ensures inv (manualAnswer cfg result answerCallId ansStart) (fun _ => answered) err := by
  apply ensures_bind (keeps_emit cfg hinv rfl _ _)
  intro _
  apply ensures_bind (keeps_ensureCostDeterminate hstop)
  intro _
  apply ensures_bind (keeps_askForAnswer cfg hinv hstop _ _ _)
  intro outcome
  match outcome with
  | .error (.configuration message) =>
      exact ensures_throw fun _ _ hstate => hstop _ _ _ trivial hstate
  | .error (.provider error) =>
      exact ensures_throw fun _ _ hstate => hstop _ _ _ trivial hstate
  | .ok reply =>
      apply ensures_bind (keeps_millisSince cfg hinv.toLogged _)
      intro latencyMs
      apply ensures_bind
      · exact keeps_locals hinv fun _ => ⟨rfl, rfl, rfl, rfl, rfl, rfl⟩
      intro _
      apply ensures_bind (keeps_applyGrounding cfg hinv hescape _ _)
      intro answer
      apply ensures_bind (keeps_emit cfg hinv rfl _ _)
      intro _
      apply ensures_bind (keeps_speak cfg hinv _ _)
      intro _
      apply ensures_bind (concludes_recordAnswer cfg hinv hstop hescape hend _ _ _ _ _)
      intro _
      exact ensures_pure fun _ _ hstate => hstate

theorem concludes_answerQuestion (result : PyValue Float) :
    Ensures inv (answerQuestion cfg result) (fun _ => answered) err := by
  apply ensures_bind (keeps_request hinv.toLogged fun _ => id)
  intro answerCallId
  apply ensures_bind
  · exact keeps_locals hinv fun _ => ⟨rfl, rfl, rfl, rfl, rfl, rfl⟩
  intro _
  apply ensures_bind (keeps_checkCancellation hinv hstop _)
  intro _
  apply ensures_bind (keeps_request hinv.toLogged fun _ => id)
  intro ansStart
  cases cfg.strategy with
  | crewai =>
      apply (keeps_crewAnswer cfg hinv hstop hescape _ _ _).weaken
      · exact fun _ _ hstate => hstate
      · exact fun _ _ _ hstate => hend.skipped _ _ hstate
      · exact fun _ _ _ hraised => hraised
  | manual => exact concludes_manualAnswer cfg hinv hstop hescape hend _ _ _

end Answers

section Body

include hinv hstop

theorem keeps_obtainClients (proposalCallId : String) :
    Keeps inv err (obtainClients proposalCallId) := by
  apply keeps_bind (keeps_request hinv.toLogged fun _ => id)
  intro reply
  match reply with
  | .error (.configuration message) => exact keeps_stop hstop trivial
  | .error (.mcp error) => exact keeps_stop hstop trivial
  | .ok clients => exact keeps_locals hinv fun _ => ⟨rfl, rfl, rfl, rfl, rfl, rfl⟩

omit hstop in
theorem keeps_readSchema (raw : Except MCPToolError (PyValue Float)) :
    Keeps inv err (readSchema raw) := by
  cases raw with
  | ok payload => exact keeps_request hinv.toLogged fun _ => id
  | error error => exact keeps_pure

theorem keeps_loadSchema (proposalCallId : String) :
    Keeps inv err (loadSchema cfg proposalCallId) := by
  apply keeps_bind (keeps_checkCancellation hinv hstop _)
  intro _
  apply keeps_bind (keeps_emit cfg hinv rfl _ _)
  intro _
  apply keeps_bind (keeps_runWithCancellation hinv hstop fun _ => id)
  intro raw
  apply keeps_bind (keeps_readSchema hinv _)
  intro schema
  cases schema with
  | error error => exact keeps_stop hstop trivial
  | ok schema => exact keeps_pure

def AfterSelection (inv ended : History Float → LoopState Float → Prop) :
    Selection Float → History Float → LoopState Float → Prop
  | .declined _ => ended
  | .tool _ _ _ => inv

variable {answered ended : History Float → LoopState Float → Prop} (hend : Concludes inv answered)
  (hfinish : ∀ answer latency,
    Ensures answered (finishRun cfg answer { status := .completed } latency) (fun _ => ended) err)

include hend hfinish in
omit hstop in
theorem ensures_declineRun (proposal : ToolProposalResult Float) :
    Ensures inv (declineRun cfg proposal) (fun _ => ended) err := by
  apply ensures_bind
  · exact keeps_locals hinv fun _ => ⟨rfl, rfl, rfl, rfl, rfl, rfl⟩
  intro _
  apply ensures_bind (keeps_emit cfg hinv rfl _ _)
  intro _
  apply ensures_bind (keeps_addStep hinv fun _ _ => rfl)
  intro _
  apply ensures_bind (keeps_addMessage cfg hinv.toLogged _ _ _)
  intro _
  exact (hfinish _ _).weaken hend.skipped (fun _ _ _ hended => hended) fun _ _ _ hraised => hraised

omit hstop in
theorem ensures_fromCatalogue (name : String) (arguments : Dict Float) :
    Ensures inv (fromCatalogue cfg name arguments) (AfterSelection inv ended) err := by
  apply ensures_bind
  · exact keeps_locals hinv fun _ => ⟨rfl, rfl, rfl, rfl, rfl, rfl⟩
  intro _
  apply ensures_bind (keeps_addStep hinv fun _ _ => rfl)
  intro _
  exact ensures_pure fun _ _ hstate => hstate

include hescape hend hfinish

theorem ensures_fromModel (hadmits : AdmitsProposal inv) (schema : PyValue Float)
    (proposalCallId : String) :
    Ensures inv (fromModel cfg schema proposalCallId) (AfterSelection inv ended) err := by
  apply ensures_bind (keeps_proposeTaxiQuery cfg hinv hstop hescape hadmits _ _)
  intro proposal
  apply ensures_ite
  · intro _
    apply ensures_bind (keeps_candidateOf hinv hescape _ _ _)
    intro candidate
    apply ensures_bind (keeps_repairProposal cfg hinv hstop hescape _ _ _)
    intro selected
    exact ensures_pure fun _ _ hstate => hstate
  · intro _
    apply ensures_bind (ensures_declineRun cfg hinv hend hfinish _)
    intro result
    exact ensures_pure fun _ _ hstate => hstate

theorem ensures_selectTool (hadmits : AdmitsProposal inv) (schema : PyValue Float)
    (proposalCallId : String) :
    Ensures inv (selectTool cfg schema proposalCallId) (AfterSelection inv ended) err := by
  apply ensures_bind (keeps_checkCancellation hinv hstop _)
  intro _
  apply ensures_bind
  · exact keeps_locals hinv fun _ => ⟨rfl, rfl, rfl, rfl, rfl, rfl⟩
  intro _
  apply ensures_bind (keeps_request hinv.toLogged fun _ => id)
  intro entry
  match entry with
  | some (name, arguments) => exact ensures_fromCatalogue cfg hinv _ _
  | none => exact ensures_fromModel cfg hinv hstop hescape hend hfinish hadmits _ _

theorem ensures_answerWithTool (schema : PyValue Float) (proposalCallId : String)
    (llmCallId : Option String) (name : String) (arguments : Dict Float) :
    Ensures inv (answerWithTool cfg schema proposalCallId llmCallId name arguments)
      (fun _ => ended) err := by
  apply ensures_bind (keeps_requestTool cfg hinv hstop hescape _ _ _ _ _)
  intro _
  apply ensures_bind (keeps_runTool cfg hinv hstop _ _ _)
  intro result
  apply ensures_bind (keeps_reduceContext cfg hinv hstop _ _)
  intro _
  apply ensures_bind (concludes_answerQuestion cfg hinv hstop hescape hend _)
  intro answer
  exact hfinish _ _

/-- **The stages of a run.** An invariant carried by the writes holds wherever the `try` block is
left by an exception, up to the exception's own condition, and the block returns only from the end
of a completed run. -/
theorem ensures_loopBody (hadmits : AdmitsProposal inv) :
    Ensures inv (loopBody cfg) (fun _ => ended) err := by
  apply ensures_bind (keeps_checkCancellation hinv hstop _)
  intro _
  apply ensures_bind (keeps_request hinv.toLogged fun _ => id)
  intro proposalCallId
  apply ensures_bind (keeps_obtainClients hinv hstop _)
  intro _
  apply ensures_bind (keeps_track hinv hstop _)
  intro _
  apply ensures_bind (keeps_loadSchema cfg hinv hstop _)
  intro schema
  apply ensures_bind (ensures_selectTool cfg hinv hstop hescape hend hfinish hadmits _ _)
  intro selection
  cases selection with
  | declined result => exact ensures_pure fun _ _ hstate => hstate
  | tool llmCallId name arguments =>
      exact ensures_answerWithTool cfg hinv hstop hescape hend hfinish _ _ _ _ _

end Body

end Stages

section Ends

variable (hclose : Closes inv) {ending : Ending Float}
include hclose

theorem keeps_recordTerminal (runTelemetry : Dict Float) :
    Keeps inv err (recordTerminal cfg ending runTelemetry) := by
  apply keeps_bind (keeps_request hclose.toLogged fun _ => id)
  intro completedAt
  apply keeps_bind keeps_get
  intro start
  apply keeps_bind
  · apply keeps_modify
    exact fun _ _ hstate => hclose.record _ _ _ hstate
  intro _
  apply keeps_modify
  intro history state hstate
  exact hclose.publish _ _ _ rfl hstate

theorem keeps_finishRun (answer : String) (latency : LoopState Float → Int → Int) :
    Keeps inv err (finishRun cfg answer ending latency) := by
  apply keeps_bind keeps_get
  intro start
  apply keeps_bind (keeps_millisSince cfg hclose.toLogged _)
  intro latencyMs
  apply keeps_bind
  · exact keeps_ite keeps_pure (keeps_addMessage cfg hclose.toLogged _ _ _)
  intro _
  apply keeps_bind (keeps_recordTerminal cfg hclose _)
  intro _
  apply keeps_bind keeps_get
  intro state
  exact keeps_pure

theorem keeps_recordError (error : LoopError Float) :
    Keeps inv (fun _ => inv) (recordError cfg error) := by
  cases error with
  | runCancelled partialText => exact keeps_finishRun cfg hclose _ _
  | budgetExceeded error => exact keeps_finishRun cfg hclose _ _
  | orchestration error =>
      apply keeps_bind (keeps_finishRun cfg hclose _ _)
      intro _
      exact keeps_throw fun _ _ hstate => hstate
  | llmConfiguration message => exact keeps_throw fun _ _ hstate => hstate
  | fault fault => exact keeps_throw fun _ _ hstate => hstate

omit hclose in
/-- **What a whole run keeps.** However the run ends, what holds before the answer's step or after
it holds then. An exchange that escapes may not break it. -/
theorem ensures_executeLoop_of_closes {answered : History Float → LoopState Float → Prop}
    (hinv : Sustained inv) (hadmits : AdmitsProposal inv) (hend : Concludes inv answered)
    (hclose : Closes answered)
    (hescape : ∀ x history state, Escapes x → inv history state → inv (history ++ [x]) state) :
    Ensures inv (executeLoop cfg) (fun _ => answered) (fun _ => answered) := by
  apply ensures_bind (keeps_request hinv.toLogged fun _ => id)
  intro startMono
  apply ensures_bind
  · exact keeps_locals hinv fun _ => ⟨rfl, rfl, rfl, rfl, rfl, rfl⟩
  intro _
  apply ensures_tryCatch
  · exact ensures_loopBody cfg hinv (fun _ _ _ _ hstate => hend.skipped _ _ hstate)
      (fun _ _ _ _ hx _ hstate => hend.skipped _ _ (hescape _ _ _ hx hstate)) hend
      (fun answer latency => keeps_finishRun cfg hclose answer latency) hadmits
  · exact keeps_recordError cfg hclose

end Ends

end AiAnalytics.App.Loop
