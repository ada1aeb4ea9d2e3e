import AiAnalytics.App.Orchestration.Proof.BookRules

/-!
# The loop keeps its books

Every run of `_execute_loop` writes its books in an order that the machine of the books accepts: one
lemma for each stage that counts, lists, asks or stores, from the first proposal to the terminal
record. -/

namespace AiAnalytics.App.Loop

open Lib Lib.Prog

variable {Float : Type} {cfg : LoopConfig Float} {start : List Int} {nextSeq : Int}
  {R : List LlmRequest → Nat → Prop}

section Proposals

theorem careful_count (usage : Usage Float) (cost : CallCost Float)
    (clients : Option (Clients Float)) (books : Books Float) (elapsed : Float × Float)
    (hpriced : PricedDue cfg clients (some { usage, cost := some cost })) :
    Careful cfg clients books
      ⟨.count usage.inputTokens usage.outputTokens cost.charge elapsed, some usage⟩ :=
  ⟨⟨usage, cost, rfl, rfl, rfl, hpriced _ _ rfl rfl, rfl⟩, nofun⟩

theorem careful_listFailed (usage : Usage Float) (cost : CallCost Float)
    (clients : Option (Clients Float)) (books : Books Float)
    (hpriced : PricedDue cfg clients (some { usage, cost := some cost })) :
    Careful cfg clients books ⟨.listFailed usage.inputTokens usage.outputTokens, some usage⟩ :=
  ⟨⟨usage, cost, rfl, rfl, rfl, hpriced _ _ rfl rfl⟩, nofun⟩

theorem ensures_recordCall_counted {request : LlmRequest} (hcrew : request ≠ .crew)
    (usage : Usage Float) (cost : CallCost Float) :
    BooksLead cfg start nextSeq
      (Holding cfg (some { usage, cost := some cost }) (.awaiting request) R)
      (recordCall cfg usage.inputTokens usage.outputTokens cost)
      fun _ => At cfg (.counted usage.inputTokens usage.outputTokens) R := by
  refine ensures_track (.count usage.inputTokens usage.outputTokens cost.charge ·) ?_
    (careful_count usage cost)
  intro books elapsed hphase
  cases request with
  | crew => exact absurd rfl hcrew
  | _ => simp [bookStep, hphase, CallCost.charge]

theorem ensures_appendCall_counted {inputTokens outputTokens : Int} {call : LLMCall Float}
    {err : LoopError Float → History Float → LoopState Float → Prop}
    (htokens : call.tokens = (some inputTokens, some outputTokens)) :
    Ensures (Booked cfg start nextSeq (At cfg (.counted inputTokens outputTokens) R))
      (appendCall call) (fun _ => Booked cfg start nextSeq (At cfg .idle R)) err := by
  obtain ⟨hinput, houtput⟩ := Prod.mk.inj htokens
  refine ensures_appendCall ⟨.list inputTokens outputTokens, none⟩ ?_
    fun _ _ => hands_of_careful ⟨rfl, nofun⟩
  intro books hphase
  simp [bookStep, hphase, hinput, houtput]

theorem ensures_recordUnknownUsageFailure {request : LlmRequest}
    (hrequest : request = .proposal ∨ request = .retry) (phase : CallPhase)
    (error : LLMProviderError) (modelId failedCallId : String) (latencyMs : Int) :
    BooksLead cfg start nextSeq
      (Holding cfg (some { usage := .unknown modelId }) (.awaiting request) R)
      (recordUnknownUsageFailure cfg phase error modelId failedCallId latencyMs)
      fun _ => MayLeave cfg := by
  apply ensures_bind
  · exact ensures_callCost phase (.unknown modelId) trivial
  intro cost
  have hlist : BooksLead cfg start nextSeq
      (Holding cfg (some { usage := .unknown modelId, cost := some cost }) (.awaiting request) R)
      (appendCall
        { llmCallId := failedCallId, modelId, inputTokens := none, outputTokens := none, latencyMs
          costUsd := none, costSource := cost.source, budgetCostUsd := cost.budgetCostUsd
          budgetCostBasis := cost.budgetBasis, costIndeterminate := cost.indeterminate
          errorCode := some error.code, modelAlias := some modelId, role := some "planner"
          usageKnown := false, providerStatus := error.providerStatus
          promptAttribution := error.promptAttribution })
      fun _ =>
        Holding cfg (some { usage := .unknown modelId, cost := some cost }) .unknownListed R := by
    refine ensures_appendCall ⟨.listUnknown, none⟩ ?_ fun _ _ => hands_of_careful ⟨rfl, nofun⟩
    intro books hphase
    rcases hrequest with rfl | rfl <;> simp [bookStep, hphase]
  apply ensures_bind hlist
  intro _
  have hcharge : BooksLead cfg start nextSeq
      (Holding cfg (some { usage := .unknown modelId, cost := some cost }) .unknownListed R)
      (recordCall cfg 0 0 cost) fun _ => At cfg .ended R := by
    refine ensures_track (.count 0 0 cost.charge ·) ?_ (careful_count (.unknown modelId) cost)
    intro books elapsed hphase
    simp [bookStep, hphase, CallCost.charge]
  apply ensures_tryCatch
  · apply hcharge.weaken
    · exact fun _ _ hbooked => hbooked
    · exact fun _ _ _ hbooked => hbooked.mono (left_of_holding trivial)
    · exact fun _ _ _ hbooked => hbooked
  · intro raised
    cases raised with
    | budgetExceeded _ => exact ensures_pure fun _ _ hbooked => hbooked
    | _ => exact ensures_throw fun _ _ hbooked => hbooked

theorem ensures_recordProposalFailure (error : LLMProviderError) (llmCallId : String)
    (callStart : Float) :
    BooksLead cfg start nextSeq
      (Holding cfg ((Usage.ofFailure .proposal error).map fun usage => { usage })
        (.awaiting .proposal) R)
      (recordProposalFailure cfg error llmCallId callStart) fun _ => MayLeave cfg := by
  unfold recordProposalFailure Usage.ofFailure
  cases error.modelId with
  | none => exact ensures_pure fun _ _ hbooked => hbooked.mono (left_of_holding trivial)
  | some modelId =>
      cases error.inputTokens with
      | none =>
          apply ensures_bind (ensures_calm (calm_millisSince cfg callStart))
          intro latencyMs
          exact ensures_recordUnknownUsageFailure (.inl rfl) _ _ _ _ _
      | some inputTokens =>
          apply ensures_bind
          · exact ensures_callCost .proposal ⟨inputTokens, error.outputTokens.getD 0, none,
              some modelId⟩ trivial
          intro cost
          have hlist : BooksLead cfg start nextSeq
              (Holding cfg
                (some ⟨⟨inputTokens, error.outputTokens.getD 0, none, some modelId⟩, some cost⟩)
                (.awaiting .proposal) R)
              (appendCall
                { llmCallId, modelId, inputTokens := some inputTokens
                  outputTokens := some (error.outputTokens.getD 0)
                  latencyMs := error.latencyMs.getD 0, finishReason := error.finishReason
                  costUsd := some cost.costUsd, costSource := cost.source
                  budgetCostUsd := cost.budgetCostUsd, budgetCostBasis := cost.budgetBasis
                  costIndeterminate := cost.indeterminate, errorCode := some error.code
                  promptAttribution := error.promptAttribution })
              fun _ => At cfg .ended R := by
            refine ensures_appendCall
              ⟨.listFailed inputTokens (error.outputTokens.getD 0),
                some ⟨inputTokens, error.outputTokens.getD 0, none, some modelId⟩⟩ ?_
              fun clients books => ⟨rfl, careful_listFailed _ cost clients books, fun _ =>
                pricedDue_none⟩
            intro books hphase
            simp [bookStep, hphase]
          apply hlist.weaken
          · exact fun _ _ hbooked => hbooked
          · exact fun _ _ _ hbooked => hbooked.mono (left_of_holding trivial)
          · exact fun _ _ _ hbooked => hbooked

theorem ensures_recordRetryFailure (error : LLMProviderError) (llmCallId : String)
    (callStart : Float) :
    BooksLead cfg start nextSeq
      (Holding cfg ((Usage.ofFailure .proposalRetry error).map fun usage => { usage })
        (.awaiting .retry) R)
      (recordRetryFailure cfg error llmCallId callStart) fun _ => MayLeave cfg := by
  unfold recordRetryFailure Usage.ofFailure
  cases error.modelId with
  | none => exact ensures_pure fun _ _ hbooked => hbooked.mono (left_of_holding trivial)
  | some modelId =>
      cases error.inputTokens with
      | none =>
          apply ensures_bind (ensures_calm (calm_millisSince cfg callStart))
          intro latencyMs
          exact ensures_recordUnknownUsageFailure (.inr rfl) _ _ _ _ _
      | some inputTokens =>
        exact ensures_pure fun _ _ hbooked => hbooked.mono (left_of_holding trivial)

theorem ensures_recordProposal (proposal : ToolProposalResult Float) (llmCallId : String)
    (callStart : Float) :
    BooksLead cfg start nextSeq
      (Holding cfg (some { usage := .ofResult proposal.toModelResult }) (.awaiting .proposal) R)
      (recordProposal cfg proposal llmCallId callStart) fun _ => At cfg .idle R := by
  apply ensures_bind (ensures_calm (calm_millisSince cfg callStart))
  intro latencyMs
  apply ensures_bind
  · exact ensures_framed_at (framed_local fun _ => ⟨rfl, rfl, rfl, rfl, rfl, rfl⟩) trivial
  intro _
  apply ensures_bind
  · exact ensures_callCost _ (.ofResult proposal.toModelResult) trivial
  intro cost
  apply ensures_bind
  · exact ensures_recordCall_counted (by decide) (.ofResult proposal.toModelResult) cost
  intro _
  apply ensures_bind
  · exact ensures_appendCall_counted rfl
  intro _
  apply ensures_bind (ensures_calm (calm_emit cfg _ _ _))
  intro _
  apply ensures_bind (ensures_calm (calm_addStep _))
  intro _
  exact ensures_framed_at (framed_local fun _ => ⟨rfl, rfl, rfl, rfl, rfl, rfl⟩) trivial

def Fresh (asked : List LlmRequest) (toolCalls : Nat) : Prop := asked = [] ∧ toolCalls = 0

def Proposed (asked : List LlmRequest) (toolCalls : Nat) : Prop :=
  asked = [.proposal] ∧ toolCalls = 0

def Selected (asked : List LlmRequest) (toolCalls : Nat) : Prop :=
  (asked = [] ∨ asked = [.proposal] ∨ asked = [.proposal, .retry]) ∧ toolCalls = 0

theorem ensures_proposeTaxiQuery (schema : PyValue Float) (llmCallId : String) :
    BooksLead cfg start nextSeq (At cfg .idle Fresh) (proposeTaxiQuery cfg schema llmCallId)
      fun _ => At cfg .idle Proposed := by
  apply ensures_bind (ensures_calm (calm_emit cfg _ _ _))
  intro _
  apply ensures_bind
  · exact ensures_ensureCostDeterminate_at trivial
  intro _
  apply ensures_bind (ensures_calm (calm_request ⟨rfl, rfl, rfl⟩))
  intro callStart
  have hask : BooksLead cfg start nextSeq
      (fun ledger stored =>
        At cfg .idle Fresh ledger stored ∧ ledger.tracker.costUnresolvable = false)
      (runWithCancellation (.proposeTaxiQuery .proposal llmCallId cfg.prompt schema))
      fun reply =>
        Holding cfg (dueAfter ⟨.proposeTaxiQuery .proposal llmCallId cfg.prompt schema, reply⟩)
          (.awaiting .proposal) Proposed := by
    apply ensures_askWorker rfl rfl rfl rfl
    · rintro ledger stored ⟨⟨hphase, hfresh, hstored, hdue⟩, hresolved⟩
      exact ⟨hphase, hfresh.1, hresolved, hdue, hstored⟩
    · rintro ledger stored ⟨⟨-, ⟨hasked, htools⟩, -⟩, -⟩
      exact ⟨by rw [hasked]; rfl, htools⟩
  apply ensures_bind hask
  intro reply
  match reply with
  | .error (.configuration message) => exact ensures_leave_at trivial
  | .error (.provider error) =>
      apply ensures_bind (ensures_recordProposalFailure error llmCallId callStart)
      intro _
      exact ensures_leave fun _ _ hleft => hleft
  | .ok proposal =>
      apply ensures_bind (ensures_recordProposal _ _ _)
      intro _
      exact ensures_pure fun _ _ hbooked => hbooked

theorem ensures_recordRetry (proposal : ToolProposalResult Float) (llmCallId : String)
    (callStart : Float) :
    BooksLead cfg start nextSeq
      (Holding cfg (some { usage := .ofResult proposal.toModelResult }) (.awaiting .retry) R)
      (recordRetry cfg proposal llmCallId callStart) fun _ => At cfg .idle R := by
  apply ensures_bind (ensures_calm (calm_millisSince cfg callStart))
  intro latencyMs
  apply ensures_bind
  · exact ensures_framed_at (framed_local fun _ => ⟨rfl, rfl, rfl, rfl, rfl, rfl⟩) trivial
  intro _
  apply ensures_bind
  · exact ensures_callCost _ (.ofResult proposal.toModelResult) trivial
  intro cost
  apply ensures_bind
  · exact ensures_recordCall_counted (by decide) (.ofResult proposal.toModelResult) cost
  intro _
  apply ensures_bind
  · exact ensures_appendCall_counted rfl
  intro _
  apply ensures_bind (ensures_calm (calm_emit cfg _ _ _))
  intro _
  exact ensures_calm (calm_addStep _)

def Repairable (cfg : LoopConfig Float) (ledger : Ledger Float) (stored : Run Float) : Prop :=
  At cfg .idle Proposed ledger stored ∧
    ledger.tracker.llmCallCount + 2 ≤ ledger.tracker.budgets.maxLlmCalls

theorem left_of_repairable (ledger : Ledger Float) (stored : Run Float)
    (hrepairable : Repairable cfg ledger stored) : MayLeave cfg ledger stored := by
  obtain ⟨⟨hphase, -, hstored, -⟩, -⟩ := hrepairable
  exact ⟨hphase ▸ trivial, hstored⟩

theorem llmCallCount_le_of_retryAllowed {num : NumOps Float} {validation : ProposalValidation}
    {tracker : BudgetTracker Float} {lastInputTokens lastOutputTokens : Int} {retriesUsed : Nat}
    {elapsed maxElapsed : Float}
    (hallowed : retryAllowed num validation tracker lastInputTokens lastOutputTokens retriesUsed
      elapsed maxElapsed = true) : tracker.llmCallCount + 2 ≤ tracker.budgets.maxLlmCalls := by
  unfold retryAllowed at hallowed
  split at hallowed
  · cases hallowed
  · split at hallowed
    · cases hallowed
    · omega

theorem ensures_reviewProposal (candidate : Candidate Float) (retries : Nat) :
    Ensures (Booked cfg start nextSeq (At cfg .idle Proposed))
      (reviewProposal cfg candidate retries)
      (fun review history state => Booked cfg start nextSeq (At cfg .idle Proposed) history state ∧
        (review.1 = true → Booked cfg start nextSeq (Repairable cfg) history state))
      fun _ => Booked cfg start nextSeq (MayLeave cfg) := by
  apply ensures_bind (ensures_calm (calm_request ⟨rfl, rfl, rfl⟩))
  intro summary
  apply ensures_bind (ensures_calm (calm_addStep _))
  intro _
  apply ensures_bind (ensures_calm (calm_request ⟨rfl, rfl, rfl⟩))
  intro elapsed
  have hget : Ensures (Booked cfg start nextSeq (At cfg .idle Proposed))
      (get : LoopM Float (LoopState Float))
      (fun now history state =>
        now = state ∧ Booked cfg start nextSeq (At cfg .idle Proposed) history state)
      fun _ => Booked cfg start nextSeq (MayLeave cfg) :=
    ensures_get fun _ _ hbooked => ⟨rfl, hbooked⟩
  apply ensures_bind hget
  intro now
  apply ensures_pure
  rintro history state ⟨rfl, hbooked⟩
  refine ⟨hbooked, fun hallowed => ?_⟩
  obtain ⟨entries, ledger, hrun, hmatches, haccounts, hat⟩ := hbooked
  have hcount := llmCallCount_le_of_retryAllowed hallowed
  rw [hmatches.tracker] at hcount
  exact ⟨entries, ledger, hrun, hmatches, haccounts, hat, hcount⟩

theorem ensures_retryProposal (schema : PyValue Float) (candidate : Candidate Float) :
    BooksLead cfg start nextSeq (Repairable cfg) (retryProposal cfg schema candidate)
      fun _ => At cfg .idle Selected := by
  apply ensures_bind (ensures_calm (calm_request ⟨rfl, rfl, rfl⟩))
  intro llmCallId
  apply ensures_bind (ensures_calm (calm_emit cfg _ _ _))
  intro _
  apply ensures_bind (ensures_ensureCostDeterminate left_of_repairable)
  intro _
  apply ensures_bind (ensures_calm (calm_request ⟨rfl, rfl, rfl⟩))
  intro callStart
  let call : LoopCall Float :=
    .proposeTaxiQuery .proposalRetry llmCallId (retryPrompt cfg candidate.validation) schema
  have hask : BooksLead cfg start nextSeq
      (fun ledger stored => Repairable cfg ledger stored ∧ ledger.tracker.costUnresolvable = false)
      (runWithCancellation call)
      fun reply => Holding cfg (dueAfter ⟨call, reply⟩) (.awaiting .retry) Selected := by
    apply ensures_askWorker rfl rfl rfl rfl
    · rintro ledger stored ⟨⟨⟨hphase, hproposed, hstored, hdue⟩, hcount⟩, hresolved⟩
      exact ⟨hphase, ⟨hproposed.1, hcount⟩, hresolved, hdue, hstored⟩
    · rintro ledger stored ⟨⟨⟨-, ⟨hasked, htools⟩, -⟩, -⟩, -⟩
      exact ⟨.inr (.inr (by rw [hasked]; rfl)), htools⟩
  apply ensures_bind hask
  intro reply
  match reply with
  | .error (.configuration message) => exact ensures_leave_at trivial
  | .error (.provider error) =>
      apply ensures_bind (ensures_recordRetryFailure error llmCallId callStart)
      intro _
      exact ensures_leave fun _ _ hleft => hleft
  | .ok proposal =>
      apply ensures_bind (ensures_recordRetry _ _ _)
      intro _
      exact ensures_framed_at (framed_candidateOf _ _ _) trivial

theorem framed_repairProposal_zero (schema : PyValue Float) (candidate : Candidate Float) :
    Framed bookFrame (repairProposal cfg schema 0 candidate) := by
  rw [repairProposal]
  cases candidate.request with
  | some parsed => exact framed_pure
  | none =>
      apply framed_bind (framed_reviewProposal cfg _ _)
      intro review
      exact framed_throw

theorem ensures_repairProposal (schema : PyValue Float) (candidate : Candidate Float) :
    BooksLead cfg start nextSeq (At cfg .idle Proposed)
      (repairProposal cfg schema maxValidationRetries candidate)
      fun _ => At cfg .idle Selected := by
  rw [maxValidationRetries, repairProposal]
  cases candidate.request with
  | some parsed =>
      apply ensures_pure
      intro history state hbooked
      apply hbooked.mono
      rintro ledger stored ⟨hphase, ⟨hasked, htools⟩, hend⟩
      exact ⟨hphase, ⟨.inr (.inl hasked), htools⟩, hend⟩
  | none =>
      apply ensures_bind (ensures_reviewProposal _ _)
      intro review
      apply ensures_ite
      · intro hallowed
        apply ensures_bind
        · apply (ensures_retryProposal schema candidate).mono_pre
          exact fun _ _ hbooked => hbooked.2 hallowed
        · intro next
          exact ensures_framed_at (framed_repairProposal_zero _ _) trivial
      · intro _
        exact ensures_throw fun _ _ hbooked => hbooked.1.mono (left_of_holding trivial)

end Proposals

section Tools

def Answering (asked : List LlmRequest) (toolCalls : Nat) : Prop :=
  (asked = [] ∨ asked = [.proposal] ∨ asked = [.proposal, .retry]) ∧ toolCalls ≤ 1

theorem ensures_governedTool (name : String) (arguments : Dict Float) :
    BooksLead cfg start nextSeq (At cfg .idle Selected)
      (runWithCancellation (.governedTool name arguments)) fun _ => At cfg .idle Answering := by
  have hask : BooksLead cfg start nextSeq
      (At cfg .idle fun asked toolCalls => Answering asked 1 ∧ toolCalls = 0)
      (runWithCancellation (.governedTool name arguments)) fun _ => At cfg .idle Answering :=
    ensures_askTool rfl rfl ⟨rfl, rfl, rfl⟩
  apply hask.mono_pre
  intro history state hbooked
  apply hbooked.mono
  rintro ledger stored ⟨hphase, ⟨hasked, htools⟩, hend⟩
  exact ⟨hphase, ⟨⟨hasked, le_refl 1⟩, htools⟩, hend⟩

theorem ensures_executeTool (name : String) (arguments : Dict Float) :
    BooksLead cfg start nextSeq (At cfg .idle Selected) (executeTool name arguments)
      fun _ => At cfg .idle Answering := by
  apply ensures_ite
  · intro _
    apply ensures_bind (ensures_governedTool _ _)
    intro raw
    exact ensures_framed_at (framed_sanitized _) trivial
  intro _
  apply ensures_ite
  · intro _
    apply ensures_bind (ensures_governedTool _ _)
    intro raw
    exact ensures_framed_at (framed_sanitized _) trivial
  intro _
  apply ensures_ite
  · intro _
    exact ensures_governedTool _ _
  intro _
  apply ensures_pure
  intro history state hbooked
  apply hbooked.mono
  rintro ledger stored ⟨hphase, ⟨hasked, htools⟩, hend⟩
  exact ⟨hphase, ⟨hasked, by omega⟩, hend⟩

theorem ensures_recordToolResult (result : PyValue Float) (name toolCallId : String)
    (arguments : Dict Float) (durationMs : Int) :
    BooksLead cfg start nextSeq (At cfg .idle R)
      (recordToolResult cfg result name toolCallId arguments durationMs)
      fun _ => At cfg .idle R := by
  apply ensures_bind
  · exact ensures_framed_at (framed_local fun _ => ⟨rfl, rfl, rfl, rfl, rfl, rfl⟩) trivial
  intro _
  have hcount : BooksLead cfg start nextSeq (At cfg .idle R)
      (track fun tracker elapsed =>
        tracker.recordToolCall cfg.num cfg.fmt (serializedBytes cfg result) elapsed)
      fun _ => At cfg .idle R :=
    ensures_track (.countTool (serializedBytes cfg result) ·) (fun _ _ hphase => if_pos hphase)
      fun _ _ _ _ => ⟨rfl, nofun⟩
  apply ensures_bind hcount
  intro _
  apply ensures_bind (ensures_calm (calm_emit cfg _ _ _))
  intro _
  apply ensures_bind (ensures_calm (calm_addStep _))
  intro _
  apply ensures_bind (ensures_calm (calm_request ⟨rfl, rfl, rfl⟩))
  intro findings
  apply ensures_bind
  · exact ensures_framed_at (framed_recordFindings cfg _ _) trivial
  intro _
  apply ensures_bind
  · exact ensures_storeMessage _ _ _ fun _ _ _ hat => hat
  intro _
  exact ensures_advance

theorem ensures_runTool (llmCallId : Option String) (name : String) (arguments : Dict Float) :
    BooksLead cfg start nextSeq (At cfg .idle Selected) (runTool cfg llmCallId name arguments)
      fun _ => At cfg .idle Answering := by
  apply ensures_bind
  · exact ensures_framed_at (framed_checkCancellation _) trivial
  intro _
  apply ensures_bind (ensures_calm (calm_request ⟨rfl, rfl, rfl⟩))
  intro toolCallId
  apply ensures_bind
  · exact ensures_framed_at (framed_local fun _ => ⟨rfl, rfl, rfl, rfl, rfl, rfl⟩) trivial
  intro _
  apply ensures_bind (ensures_calm (calm_emit cfg _ _ _))
  intro _
  apply ensures_bind (ensures_calm (calm_request ⟨rfl, rfl, rfl⟩))
  intro toolStart
  apply ensures_bind (ensures_executeTool _ _)
  intro outcome
  apply ensures_bind (ensures_calm (calm_millisSince cfg _))
  intro durationMs
  cases outcome with
  | error error =>
      apply ensures_bind
      · exact ensures_framed_at (framed_recordToolFailure cfg _ _ _ _ _) trivial
      intro _
      exact ensures_leave_at trivial
  | ok result =>
      apply ensures_bind (ensures_recordToolResult _ _ _ _ _)
      intro _
      exact ensures_pure fun _ _ hbooked => hbooked

end Tools

section Crew

def Crewing (asked : List LlmRequest) (_ : Nat) : Prop := .answer ∉ asked

theorem ensures_recordCrewCall (role : CrewRole) (agentStep : Nat) (callId : String)
    (callStart : Float) (result : LLMResult Float) :
    BooksLead cfg start nextSeq
      (Holding cfg (some { usage := .ofResult result.toModelResult }) (.awaiting .crew) R)
      (recordCrewCall cfg role agentStep callId callStart result) fun _ => At cfg .idle R := by
  apply ensures_bind (ensures_calm (calm_millisSince cfg _))
  intro latencyMs
  apply ensures_bind
  · exact ensures_callCost _ (.ofResult result.toModelResult) trivial
  intro cost
  have hlist (call : LLMCall Float)
      (htokens : call.tokens = (some result.inputTokens, some result.outputTokens)) :
      BooksLead cfg start nextSeq
        (Holding cfg (some { usage := .ofResult result.toModelResult, cost := some cost })
          (.awaiting .crew) R)
        (appendCall call)
        fun _ =>
          Holding cfg (some { usage := .ofResult result.toModelResult, cost := some cost })
            (.listed result.inputTokens result.outputTokens) R := by
    obtain ⟨hinput, houtput⟩ := Prod.mk.inj htokens
    refine ensures_appendCall ⟨.list result.inputTokens result.outputTokens, none⟩ ?_
      fun _ _ => hands_of_careful ⟨rfl, nofun⟩
    intro books hphase
    simp [bookStep, hphase, hinput, houtput]
  apply ensures_bind
  · exact hlist _ rfl
  intro _
  apply ensures_bind (ensures_calm (calm_emit cfg _ _ _))
  intro _
  apply ensures_bind (ensures_calm (calm_addStep _))
  intro _
  have hcount : BooksLead cfg start nextSeq
      (Holding cfg (some { usage := .ofResult result.toModelResult, cost := some cost })
        (.listed result.inputTokens result.outputTokens) R)
      (recordCall cfg result.inputTokens result.outputTokens cost) fun _ => At cfg .idle R := by
    refine ensures_track (.count result.inputTokens result.outputTokens cost.charge ·) ?_
      (careful_count (.ofResult result.toModelResult) cost)
    intro books elapsed hphase
    simp only [bookStep, hphase, and_self, ↓reduceIte]
    rfl
  apply ensures_bind hcount
  intro _
  exact ensures_framed_at (framed_checkCancellation _) trivial

theorem ensures_crewInvokeModel (role : CrewRole) :
    BooksLead cfg start nextSeq (At cfg .idle Crewing) (crewInvokeModel cfg role)
      fun _ => At cfg .idle Crewing := by
  apply ensures_bind
  · exact ensures_framed_at (framed_local fun _ => ⟨rfl, rfl, rfl, rfl, rfl, rfl⟩) trivial
  intro _
  apply ensures_bind
  · exact ensures_framed_at (framed_checkCancellation _) trivial
  intro _
  have hget : Ensures (Booked cfg start nextSeq (At cfg .idle Crewing))
      (get : LoopM Float (LoopState Float))
      (fun now history state =>
        now = state ∧ Booked cfg start nextSeq (At cfg .idle Crewing) history state)
      fun _ => Booked cfg start nextSeq (MayLeave cfg) :=
    ensures_get fun _ _ hbooked => ⟨rfl, hbooked⟩
  apply ensures_bind hget
  intro now
  have hcheck : Ensures
      (fun history state =>
        now = state ∧ Booked cfg start nextSeq (At cfg .idle Crewing) history state)
      (raiseIf (now.tracker.llmCallCount ≥ now.tracker.budgets.maxLlmCalls)
        (crewBudgetError now.tracker) : LoopM Float Unit)
      (fun _ => Booked cfg start nextSeq fun ledger stored => At cfg .idle Crewing ledger stored ∧
        ledger.tracker.llmCallCount < ledger.tracker.budgets.maxLlmCalls)
      fun _ => Booked cfg start nextSeq (MayLeave cfg) := by
    apply ensures_raiseIf
    · rintro hbelow history state ⟨rfl, entries, ledger, hrun, hmatches, haccounts, hat⟩
      refine ⟨entries, ledger, hrun, hmatches, haccounts, hat, ?_⟩
      rw [← hmatches.tracker]
      exact not_le.mp hbelow
    · rintro _ history state ⟨-, hbooked⟩
      exact hbooked.mono (left_of_holding trivial)
  apply ensures_bind hcheck
  intro _
  apply ensures_bind (ensures_calm (calm_request ⟨rfl, rfl, rfl⟩))
  intro callId
  apply ensures_bind (ensures_calm (calm_emit cfg _ _ _))
  intro _
  apply ensures_bind
  · apply ensures_ensureCostDeterminate
    rintro ledger stored ⟨⟨hphase, -, hstored, -⟩, -⟩
    exact ⟨hphase ▸ trivial, hstored⟩
  intro _
  apply ensures_bind (ensures_calm (calm_request ⟨rfl, rfl, rfl⟩))
  intro callStart
  let call : LoopCall Float := .invokeModel callId role (if role = .researcher then 2 else 3)
  have hask : BooksLead cfg start nextSeq
      (fun ledger stored => (At cfg .idle Crewing ledger stored ∧
        ledger.tracker.llmCallCount < ledger.tracker.budgets.maxLlmCalls) ∧
        ledger.tracker.costUnresolvable = false)
      (runWithCancellation call)
      fun reply => Holding cfg (dueAfter ⟨call, reply⟩) (.awaiting .crew) Crewing := by
    apply ensures_askWorker rfl rfl rfl rfl
    · rintro ledger stored ⟨⟨⟨hphase, hcrewing, hstored, hdue⟩, hcount⟩, hresolved⟩
      exact ⟨hphase, ⟨hcrewing, hcount⟩, hresolved, hdue, hstored⟩
    · rintro ledger stored ⟨⟨⟨-, hcrewing, -⟩, -⟩, -⟩
      simpa [Crewing] using hcrewing
  apply ensures_bind hask
  intro reply
  match reply with
  | .error (.configuration message) => exact ensures_leave_at trivial
  | .error (.provider error) => exact ensures_leave_at trivial
  | .ok result => exact ensures_recordCrewCall _ _ _ _ _

theorem ensures_letThrough {post : PUnit → History Float → LoopState Float → Prop} (call : CrewCall)
    (error : LoopError Float) :
    Ensures (Booked cfg start nextSeq (MayLeave cfg)) (letThrough call error) post
      fun _ => Booked cfg start nextSeq (MayLeave cfg) := by
  unfold letThrough
  cases call.wrapped with
  | none => exact ensures_throw fun _ _ hbooked => hbooked
  | some fault => exact ensures_throw fun _ _ hbooked => hbooked

theorem ensures_crewCalls (calls : List CrewCall) :
    BooksLead cfg start nextSeq (At cfg .idle Crewing) (crewCalls cfg calls)
      fun _ => At cfg .idle Crewing := by
  induction calls with
  | nil => exact ensures_pure fun _ _ hbooked => hbooked
  | cons call calls ih =>
      apply ensures_bind
      · exact ensures_tryCatch (ensures_crewInvokeModel call.role) (ensures_letThrough call)
      intro _
      exact ih

theorem ensures_runTwoAgentAnswer (result : PyValue Float) :
    BooksLead cfg start nextSeq (At cfg .idle Crewing) (runTwoAgentAnswer cfg result)
      fun _ => At cfg .idle Crewing := by
  apply ensures_bind (ensures_calm (calm_request ⟨rfl, rfl, rfl⟩))
  intro plan
  apply ensures_bind (ensures_crewCalls _)
  intro _
  apply ensures_bind
  · exact ensures_framed_at (framed_orFault _) trivial
  intro output
  apply ensures_bind
  · exact ensures_framed_at framed_raiseIf trivial
  intro _
  exact ensures_pure fun _ _ hbooked => hbooked

theorem ensures_strategyError {post : String → History Float → LoopState Float → Prop}
    (answerCallId : String) (error : LoopError Float) :
    Ensures (Booked cfg start nextSeq (MayLeave cfg)) (strategyError answerCallId error) post
      fun _ => Booked cfg start nextSeq (MayLeave cfg) := by
  cases error with
  | llmConfiguration message =>
      apply ensures_bind (ensures_calm calm_get)
      intro state
      exact ensures_throw fun _ _ hbooked => hbooked
  | fault fault =>
      apply ensures_bind (ensures_calm calm_get)
      intro state
      exact ensures_throw fun _ _ hbooked => hbooked
  | _ => exact ensures_throw fun _ _ hbooked => hbooked

theorem ensures_crewAnswer (result : PyValue Float) (answerCallId : String) (ansStart : Float) :
    BooksLead cfg start nextSeq (At cfg .idle Crewing) (crewAnswer cfg result answerCallId ansStart)
      fun _ => At cfg .idle Crewing := by
  apply ensures_bind
  · exact ensures_tryCatch (ensures_runTwoAgentAnswer result) (ensures_strategyError answerCallId)
  intro text
  apply ensures_bind (ensures_calm (calm_millisSince cfg _))
  intro latencyMs
  apply ensures_bind
  · exact ensures_framed_at (framed_local fun _ => ⟨rfl, rfl, rfl, rfl, rfl, rfl⟩) trivial
  intro _
  apply ensures_bind
  · exact ensures_framed_at (framed_applyGrounding cfg _ _) trivial
  intro answer
  apply ensures_bind (ensures_calm calm_get)
  intro state
  apply ensures_bind (ensures_calm (calm_emit cfg _ _ _))
  intro _
  apply ensures_bind
  · exact ensures_framed_at (framed_speak cfg _ _) trivial
  intro _
  apply ensures_bind
  · exact ensures_addMessage _ _ _ fun _ _ _ hat => hat
  intro _
  exact ensures_pure fun _ _ hbooked => hbooked

end Crew

section Answers

def Anything (_ : List LlmRequest) (_ : Nat) : Prop := True

def Answerable (cfg : LoopConfig Float) (ledger : Ledger Float) (stored : Run Float) : Prop :=
  At cfg .idle Answering ledger stored ∧ ledger.tracker.costUnresolvable = false

theorem Booked.askAnswer {history : History Float} {state : LoopState Float}
    {x : Exchange (@LoopReply Float)}
    (hbooked : Booked cfg start nextSeq (Answerable cfg) history state)
    (hllm : x.call.llmRequest = some .answer) (htool : x.call.isToolCall = false) :
    Booked cfg start nextSeq (Holding cfg (dueAfter x) (.awaiting .answer) Anything)
      (history ++ [x]) state := by
  apply hbooked.ask hllm htool
  · rintro ledger stored ⟨⟨hphase, ⟨hasked, -⟩, hstored, hdue⟩, hresolved⟩
    refine ⟨hphase, ?_, hresolved, hdue, hstored⟩
    rcases hasked with hasked | hasked | hasked <;> simp [Books.MayAsk, hasked]
  · exact fun _ _ _ => trivial

def dueAnswer : Except LLMError (LLMResult Float) → Option (DueCall Float)
  | .ok reply => some { usage := .ofResult reply.toModelResult }
  | .error _ => none

theorem ensures_askForAnswer (result : PyValue Float) (answerCallId : String) (ansStart : Float) :
    BooksLead cfg start nextSeq (Answerable cfg) (askForAnswer cfg result answerCallId ansStart)
      fun outcome => Holding cfg (dueAnswer outcome) (.awaiting .answer) Anything := by
  apply ensures_bind (ensures_calm calm_get)
  intro state
  apply ensures_ite
  · intro _
    apply ensures_bind
    · exact ensures_calm (calm_modify fun _ => ⟨rfl, rfl, rfl, rfl, rfl, rfl⟩)
    intro _
    have hask : Ensures (Booked cfg start nextSeq (Answerable cfg))
        (request (.streamAnswer answerCallId cfg.prompt result))
        (fun reply : List String × Except LLMError (LLMResult Float) =>
          Booked cfg start nextSeq (Holding cfg (dueAnswer reply.2) (.awaiting .answer) Anything))
        fun _ => Booked cfg start nextSeq (MayLeave cfg) := by
      apply ensures_ask
      intro reply history state hbooked
      match reply with
      | (deltas, .ok answer) => exact hbooked.askAnswer rfl rfl
      | (deltas, .error error) => exact hbooked.askAnswer rfl rfl
    apply ensures_bind hask
    intro reply
    apply ensures_bind
    · exact ensures_framed_at (framed_publishDeltas cfg _ _ _ _) trivial
    intro _
    exact ensures_pure fun _ _ hbooked => hbooked
  · intro _
    apply ensures_bind
    · exact ensures_calm (calm_modify fun _ => ⟨rfl, rfl, rfl, rfl, rfl, rfl⟩)
    intro _
    apply ensures_ask
    intro reply history state hbooked
    match reply with
    | .ok answer => exact hbooked.askAnswer rfl rfl
    | .error error => exact hbooked.askAnswer rfl rfl

theorem ensures_recordAnswer (answer : String) (reply : LLMResult Float) (result : PyValue Float)
    (answerCallId : String) (latencyMs : Int) :
    BooksLead cfg start nextSeq
      (Holding cfg (some { usage := .ofResult reply.toModelResult }) (.awaiting .answer) R)
      (recordAnswer cfg answer reply result answerCallId latencyMs) fun _ => At cfg .idle R := by
  apply ensures_bind
  · exact ensures_callCost _ (.ofResult reply.toModelResult) trivial
  intro cost
  apply ensures_bind
  · exact ensures_recordCall_counted (by decide) (.ofResult reply.toModelResult) cost
  intro _
  apply ensures_bind
  · exact ensures_appendCall_counted rfl
  intro _
  apply ensures_bind (ensures_calm (calm_emit cfg _ _ _))
  intro _
  apply ensures_bind (ensures_calm (calm_appendStep _))
  intro _
  exact ensures_addMessage _ _ _ fun _ _ _ hat => hat

theorem ensures_manualAnswer (result : PyValue Float) (answerCallId : String) (ansStart : Float) :
    BooksLead cfg start nextSeq (At cfg .idle Answering)
      (manualAnswer cfg result answerCallId ansStart) fun _ => At cfg .idle Anything := by
  apply ensures_bind (ensures_calm (calm_emit cfg _ _ _))
  intro _
  apply ensures_bind
  · exact ensures_ensureCostDeterminate_at trivial
  intro _
  apply ensures_bind (ensures_askForAnswer _ _ _)
  intro outcome
  match outcome with
  | .error (.configuration message) => exact ensures_leave_at trivial
  | .error (.provider error) => exact ensures_leave_at trivial
  | .ok reply =>
      apply ensures_bind (ensures_calm (calm_millisSince cfg _))
      intro latencyMs
      apply ensures_bind
      · exact ensures_framed_at (framed_local fun _ => ⟨rfl, rfl, rfl, rfl, rfl, rfl⟩) trivial
      intro _
      apply ensures_bind
      · exact ensures_framed_at (framed_applyGrounding cfg _ _) trivial
      intro answer
      apply ensures_bind (ensures_calm (calm_emit cfg _ _ _))
      intro _
      apply ensures_bind
      · exact ensures_framed_at (framed_speak cfg _ _) trivial
      intro _
      apply ensures_bind (ensures_recordAnswer _ _ _ _ _)
      intro _
      exact ensures_pure fun _ _ hbooked => hbooked

theorem ensures_answerQuestion (result : PyValue Float) :
    BooksLead cfg start nextSeq (At cfg .idle Answering) (answerQuestion cfg result)
      fun _ => At cfg .idle Anything := by
  apply ensures_bind (ensures_calm (calm_request ⟨rfl, rfl, rfl⟩))
  intro answerCallId
  apply ensures_bind
  · exact ensures_framed_at (framed_local fun _ => ⟨rfl, rfl, rfl, rfl, rfl, rfl⟩) trivial
  intro _
  apply ensures_bind
  · exact ensures_framed_at (framed_checkCancellation _) trivial
  intro _
  apply ensures_bind (ensures_calm (calm_request ⟨rfl, rfl, rfl⟩))
  intro ansStart
  cases cfg.strategy with
  | crewai =>
      apply (ensures_crewAnswer result answerCallId ansStart).weaken
      · intro history state hbooked
        apply hbooked.mono
        rintro ledger stored ⟨hphase, ⟨hasked, -⟩, hend⟩
        refine ⟨hphase, ?_, hend⟩
        rcases hasked with hasked | hasked | hasked <;> simp [Crewing, hasked]
      · exact fun _ _ _ hbooked => hbooked.mono fun _ _ hat => ⟨hat.1, trivial, hat.2.2⟩
      · exact fun _ _ _ hbooked => hbooked
  | manual => exact ensures_manualAnswer _ _ _

end Answers

section Endings

def Filed (ledger : Ledger Float) (stored : Run Float) : Prop :=
  ledger.phase.Quiescent ∧ stored.inputTokens = ledger.tracker.inputTokens ∧
    stored.outputTokens = ledger.tracker.outputTokens ∧
    listedTokens "input_tokens" stored = (ledger.listed.map fun call => call.1.getD 0).sum ∧
    listedTokens "output_tokens" stored = (ledger.listed.map fun call => call.2.getD 0).sum

def Ending.Plain (ending : Ending Float) : Prop :=
  ending.facts.lookup "llm_calls" = none ∧ ending.errorFacts.lookup "llm_calls" = none

theorem lookup_llmCalls_terminalRun {ending : Ending Float} (hplain : ending.Plain)
    (state : LoopState Float) (completedAt : String) (runTelemetry : Dict Float) :
    (terminalRun cfg state ending completedAt runTelemetry).metadata.lookup "llm_calls" =
      some (.list (state.llmCalls.map fun call => .dict call.toMetadata)) := by
  have heval : (evalMeta cfg).lookup "llm_calls" = none := by
    unfold evalMeta
    cases evalRunId cfg with
    | none => rfl
    | some id =>
        dsimp only
        split <;> rfl
  simp only [terminalRun, List.lookup_append, hplain.1, hplain.2, heval, Option.none_or]
  rfl

theorem tokenCount_of_lookup {key : String} {entries : Dict Float} {count : Option Int}
    (hlookup : entries.lookup key = some (orNone .int count)) :
    tokenCount key (.dict entries) = count.getD 0 := by
  rw [tokenCount, PyValue.entry, hlookup]
  cases count <;> rfl

theorem listedTokens_of_lookup {key : String} {run : Run Float} {calls : List (PyValue Float)}
    (hlookup : run.metadata.lookup "llm_calls" = some (.list calls)) :
    listedTokens key run = (calls.map (tokenCount key)).sum := by
  rw [listedTokens, hlookup]

theorem filed_terminalRun {ending : Ending Float} (hplain : ending.Plain) {state : LoopState Float}
    {history : History Float} {ledger : Ledger Float}
    (hmatches : ledger.Matches start history state)
    (hphase : ledger.phase.Quiescent) (completedAt : String) (runTelemetry : Dict Float) :
    Filed ledger (terminalRun cfg state ending completedAt runTelemetry) := by
  have hlookup : (terminalRun cfg state ending completedAt runTelemetry).metadata.lookup
      "llm_calls" = _ := lookup_llmCalls_terminalRun hplain state completedAt runTelemetry
  refine ⟨hphase, ?_, ?_, ?_, ?_⟩
  · rw [← hmatches.tracker]
    rfl
  · rw [← hmatches.tracker]
    rfl
  · rw [listedTokens_of_lookup hlookup, ← hmatches.listed, List.map_map, List.map_map]
    refine congrArg List.sum (List.map_congr_left fun call _ => ?_)
    exact tokenCount_of_lookup rfl
  · rw [listedTokens_of_lookup hlookup, ← hmatches.listed, List.map_map, List.map_map]
    refine congrArg List.sum (List.map_congr_left fun call _ => ?_)
    exact tokenCount_of_lookup rfl

variable {err : LoopError Float → History Float → LoopState Float → Prop}

theorem ensures_recordTerminal_filed {ending : Ending Float} (hplain : ending.Plain)
    (runTelemetry : Dict Float) :
    Ensures (Booked cfg start nextSeq (MayLeave cfg)) (recordTerminal cfg ending runTelemetry)
      (fun _ => Booked cfg start nextSeq Filed) err := by
  apply ensures_bind (ensures_calm (calm_request ⟨rfl, rfl, rfl⟩))
  intro completedAt
  have hget : Ensures (Booked cfg start nextSeq (MayLeave cfg))
      (get : LoopM Float (LoopState Float)) (fun now history state =>
        now = state ∧ Booked cfg start nextSeq (MayLeave cfg) history state) err :=
    ensures_get fun _ _ hbooked => ⟨rfl, hbooked⟩
  apply ensures_bind hget
  intro now
  have hupdate : Ensures
      (fun history state => now = state ∧ Booked cfg start nextSeq (MayLeave cfg) history state)
      (updateRun (terminalRun cfg now ending completedAt runTelemetry))
      (fun _ => Booked cfg start nextSeq Filed) err := by
    apply ensures_modify
    rintro history state ⟨rfl, entries, ledger, hrun, hmatches, haccounts, hphase, -⟩
    exact ⟨entries, ledger, hrun, ⟨hmatches.tracker, hmatches.listed, hmatches.asked,
      hmatches.toolCalls, hmatches.numbers, hmatches.nextSeq⟩, haccounts,
      filed_terminalRun hplain hmatches hphase _ _⟩
  apply ensures_bind hupdate
  intro _
  exact ensures_calm (calm_emit cfg _ _ _)

theorem ensures_finishRun_filed (ending : Ending Float) (hplain : ending.Plain) (answer : String)
    (latency : LoopState Float → Int → Int) :
    Ensures (Booked cfg start nextSeq (MayLeave cfg)) (finishRun cfg answer ending latency)
      (fun _ => Booked cfg start nextSeq Filed) err := by
  apply ensures_bind (ensures_calm calm_get)
  intro first
  apply ensures_bind (ensures_calm (calm_millisSince cfg _))
  intro latencyMs
  have hkeep : Ensures (Booked cfg start nextSeq (MayLeave cfg))
      (keepPartialText cfg ending.partialText)
      (fun _ => Booked cfg start nextSeq (MayLeave cfg)) err := by
    apply ensures_ite
    · intro _
      exact ensures_pure fun _ _ hbooked => hbooked
    · intro _
      exact ensures_addMessage _ _ _ fun _ _ _ hleave => hleave
  apply ensures_bind hkeep
  intro _
  apply ensures_bind (ensures_recordTerminal_filed hplain _)
  intro _
  apply ensures_bind (ensures_calm calm_get)
  intro last
  exact ensures_pure fun _ _ hbooked => hbooked

theorem ensures_declineRun_filed (proposal : ToolProposalResult Float) :
    Ensures (Booked cfg start nextSeq (At cfg .idle R)) (declineRun cfg proposal)
      (fun _ => Booked cfg start nextSeq Filed) fun _ =>
      Booked cfg start nextSeq (MayLeave cfg) := by
  apply ensures_bind
  · exact ensures_framed_at (framed_local fun _ => ⟨rfl, rfl, rfl, rfl, rfl, rfl⟩) trivial
  intro _
  apply ensures_bind (ensures_calm (calm_emit cfg _ _ _))
  intro _
  apply ensures_bind (ensures_calm (calm_addStep _))
  intro _
  apply ensures_bind
  · exact ensures_addMessage _ _ _ fun _ _ _ hat => hat
  intro _
  apply (ensures_finishRun_filed { status := .completed } ⟨rfl, rfl⟩ _ _).mono_pre
  exact fun _ _ hbooked => hbooked.mono (left_of_holding trivial)

end Endings

section Body

def Chosen (cfg : LoopConfig Float) (start : List Int) (nextSeq : Int) :
    Selection Float → History Float → LoopState Float → Prop
  | .declined _ => Booked cfg start nextSeq Filed
  | .tool _ _ _ => Booked cfg start nextSeq (At cfg .idle Selected)

theorem ensures_fromModel_chosen (schema : PyValue Float) (proposalCallId : String) :
    Ensures (Booked cfg start nextSeq (At cfg .idle Fresh)) (fromModel cfg schema proposalCallId)
      (Chosen cfg start nextSeq) fun _ => Booked cfg start nextSeq (MayLeave cfg) := by
  apply ensures_bind (ensures_proposeTaxiQuery _ _)
  intro proposal
  apply ensures_ite
  · intro _
    apply ensures_bind
    · exact ensures_framed_at (framed_candidateOf _ _ _) trivial
    intro candidate
    apply ensures_bind (ensures_repairProposal _ _)
    intro selected
    exact ensures_pure fun _ _ hbooked => hbooked
  · intro _
    apply ensures_bind (ensures_declineRun_filed _)
    intro result
    exact ensures_pure fun _ _ hbooked => hbooked

theorem ensures_selectTool_chosen (schema : PyValue Float) (proposalCallId : String) :
    Ensures (Booked cfg start nextSeq (At cfg .idle Fresh)) (selectTool cfg schema proposalCallId)
      (Chosen cfg start nextSeq) fun _ => Booked cfg start nextSeq (MayLeave cfg) := by
  apply ensures_bind
  · exact ensures_framed_at (framed_checkCancellation _) trivial
  intro _
  apply ensures_bind
  · exact ensures_framed_at (framed_local fun _ => ⟨rfl, rfl, rfl, rfl, rfl, rfl⟩) trivial
  intro _
  apply ensures_bind (ensures_calm (calm_request ⟨rfl, rfl, rfl⟩))
  intro entry
  match entry with
  | none => exact ensures_fromModel_chosen _ _
  | some (name, arguments) =>
      have hcatalogue : Ensures (Booked cfg start nextSeq (At cfg .idle Fresh))
          (fromCatalogue cfg name arguments) (Chosen cfg start nextSeq)
          fun _ => Booked cfg start nextSeq (MayLeave cfg) := by
        apply ensures_bind
        · exact ensures_framed_at (framed_local fun _ => ⟨rfl, rfl, rfl, rfl, rfl, rfl⟩) trivial
        intro _
        apply ensures_bind (ensures_calm (calm_addStep _))
        intro _
        apply ensures_pure
        intro history state hbooked
        apply hbooked.mono
        rintro ledger stored ⟨hphase, ⟨hasked, htools⟩, hend⟩
        exact ⟨hphase, ⟨.inl hasked, htools⟩, hend⟩
      exact hcatalogue

theorem ensures_answerWithTool_filed (schema : PyValue Float) (proposalCallId : String)
    (llmCallId : Option String) (name : String) (arguments : Dict Float) :
    Ensures (Booked cfg start nextSeq (At cfg .idle Selected))
      (answerWithTool cfg schema proposalCallId llmCallId name arguments)
      (fun _ => Booked cfg start nextSeq Filed) fun _ =>
      Booked cfg start nextSeq (MayLeave cfg) := by
  apply ensures_bind
  · exact ensures_framed_at (framed_requestTool cfg _ _ _ _ _) trivial
  intro _
  apply ensures_bind (ensures_runTool _ _ _)
  intro result
  apply ensures_bind
  · exact ensures_framed_at (framed_reduceContext cfg _ _) trivial
  intro _
  apply ensures_bind (ensures_answerQuestion _)
  intro answer
  apply (ensures_finishRun_filed { status := .completed } ⟨rfl, rfl⟩ _ _).mono_pre
  exact fun _ _ hbooked => hbooked.mono (left_of_holding trivial)

structure Unopened (cfg : LoopConfig Float) (start : List Int) (nextSeq : Int)
    (history : History Float) (state : LoopState Float) : Prop where
  books : (Books.opened cfg.num cfg.budgets nextSeq).Matches start history state
  usages : usagesOf history = []
  stored : state.stored = cfg.run

theorem booked_of_unopened {history : History Float} {state : LoopState Float}
    (hunopened : Unopened cfg start nextSeq history state) :
    Booked cfg start nextSeq (At cfg .idle Fresh) history state :=
  ⟨[], ⟨Books.opened cfg.num cfg.budgets nextSeq, none⟩, rfl, hunopened.books,
    ⟨hunopened.usages, fun _ => Machine.meets_nil, fun _ => pricedDue_none⟩, rfl, ⟨rfl, rfl⟩,
    hunopened.stored, rfl⟩

theorem stable_unopened : bookFrame.Stable (Unopened cfg start nextSeq) where
  change := by
    rintro history state next hsame ⟨hbooks, husages, hstored⟩
    refine ⟨⟨?_, ?_, hbooks.asked, hbooks.toolCalls, ?_, ?_⟩, husages, ?_⟩
    · rw [hsame.tracker, hbooks.tracker]
    · rw [hsame.llmCalls, hbooks.listed]
    · rw [hsame.messages, hbooks.numbers]
    · rw [hsame.nextSeq, hbooks.nextSeq]
    · rw [hsame.stored, hstored]
  call := by
    rintro x history state hfree ⟨hbooks, husages, hstored⟩
    refine ⟨⟨hbooks.tracker, hbooks.listed, ?_, ?_, hbooks.numbers, hbooks.nextSeq⟩, ?_, hstored⟩
    · rw [← hbooks.asked]
      simp [askedOf, hfree.llmRequest]
    · rw [← hbooks.toolCalls]
      simp [toolCallsOf, hfree.isToolCall]
    · rw [usagesOf_append, usageOf_eq_none hfree.reportsUsage, husages]
      rfl

theorem ensures_obtainClients (proposalCallId : String) :
    Ensures (Unopened cfg start nextSeq) (obtainClients proposalCallId)
      (fun _ => Booked cfg start nextSeq (At cfg .idle Fresh))
      fun _ => Booked cfg start nextSeq (MayLeave cfg) := by
  apply ensures_bind ((calm_request ⟨rfl, rfl, rfl⟩).keeps stable_unopened)
  intro reply
  have hleave (error : LoopError Float) :
      Ensures (Unopened cfg start nextSeq) (throw error : LoopM Float PUnit)
        (fun _ => Booked cfg start nextSeq (At cfg .idle Fresh))
        fun _ => Booked cfg start nextSeq (MayLeave cfg) :=
    ensures_throw fun _ _ hunopened =>
      (booked_of_unopened hunopened).mono (left_of_holding trivial)
  match reply with
  | .error (.configuration message) => exact hleave _
  | .error (.mcp error) => exact hleave _
  | .ok clients =>
      apply ensures_modify
      rintro history state ⟨hbooks, husages, hstored⟩
      exact booked_of_unopened ⟨⟨hbooks.tracker, hbooks.listed, hbooks.asked, hbooks.toolCalls,
        hbooks.numbers, hbooks.nextSeq⟩, husages, hstored⟩

theorem ensures_loopBody_filed :
    Ensures (Unopened cfg start nextSeq) (loopBody cfg)
      (fun _ => Booked cfg start nextSeq Filed) fun _ =>
      Booked cfg start nextSeq (MayLeave cfg) := by
  apply ensures_bind
  · exact (framed_checkCancellation _).keeps stable_unopened fun _ _ _ hunopened =>
      (booked_of_unopened hunopened).mono (left_of_holding trivial)
  intro _
  apply ensures_bind ((calm_request ⟨rfl, rfl, rfl⟩).keeps stable_unopened)
  intro proposalCallId
  apply ensures_bind (ensures_obtainClients _)
  intro _
  have hiterate : BooksLead cfg start nextSeq (At cfg .idle Fresh)
      (track fun tracker elapsed => tracker.recordIteration cfg.num cfg.fmt elapsed)
      fun _ => At cfg .idle Fresh :=
    ensures_track .iterate (fun _ _ hphase => if_pos hphase) fun _ _ _ _ => ⟨rfl, nofun⟩
  apply ensures_bind hiterate
  intro _
  apply ensures_bind
  · exact ensures_framed_at (framed_loadSchema cfg _) trivial
  intro schema
  apply ensures_bind (ensures_selectTool_chosen _ _)
  intro selection
  cases selection with
  | declined result => exact ensures_pure fun _ _ hbooked => hbooked
  | tool llmCallId name arguments => exact ensures_answerWithTool_filed _ _ _ _ _

theorem plain_failedEnding (error : OrchestrationError Float) : (failedEnding error).Plain := by
  have hoptional (key : String) (hkey : "llm_calls" ≠ key) (facts : Option (Dict Float)) :
      (optionalFact key facts).lookup "llm_calls" = none := by
    unfold optionalFact
    cases facts with
    | none => rfl
    | some facts =>
        by_cases hempty : facts.isEmpty = true
        · simp [hempty]
        · simp [hempty, List.lookup_cons, beq_eq_false_iff_ne.mpr hkey]
  refine ⟨rfl, ?_⟩
  rw [failedEnding, List.lookup_append, hoptional _ (by decide), hoptional _ (by decide)]
  rfl

theorem ensures_recordError_filed (error : LoopError Float) :
    Ensures (Booked cfg start nextSeq (MayLeave cfg)) (recordError cfg error)
      (fun _ => Booked cfg start nextSeq Filed)
      fun _ => Booked cfg start nextSeq fun ledger stored =>
        MayLeave cfg ledger stored ∨ Filed ledger stored := by
  cases error with
  | runCancelled partialText => exact ensures_finishRun_filed _ ⟨rfl, rfl⟩ _ _
  | budgetExceeded error => exact ensures_finishRun_filed _ ⟨rfl, rfl⟩ _ _
  | orchestration error =>
      apply ensures_bind (ensures_finishRun_filed _ (plain_failedEnding error) _ _)
      intro _
      exact ensures_throw fun _ _ hbooked => hbooked.mono fun _ _ => .inr
  | llmConfiguration message =>
      exact ensures_throw fun _ _ hbooked => hbooked.mono fun _ _ => .inl
  | fault fault => exact ensures_throw fun _ _ hbooked => hbooked.mono fun _ _ => .inl

/-- **The loop keeps its books.** However a prepared run ends, the machine of the books has come to
books that agree with what the loop has counted, listed, requested and stored. -/
theorem ensures_executeLoop_booked :
    Ensures (Unopened cfg start nextSeq) (executeLoop cfg)
      (fun _ => Booked cfg start nextSeq Filed)
      fun _ => Booked cfg start nextSeq fun ledger stored =>
        MayLeave cfg ledger stored ∨ Filed ledger stored := by
  apply ensures_bind ((calm_request ⟨rfl, rfl, rfl⟩).keeps stable_unopened)
  intro startMono
  have hstart : Calm bookFrame
      (modify fun state : LoopState Float => { state with startMono } : LoopM Float PUnit) :=
    calm_modify fun _ => ⟨rfl, rfl, rfl, rfl, rfl, rfl⟩
  apply ensures_bind (hstart.keeps stable_unopened)
  intro _
  exact ensures_tryCatch ensures_loopBody_filed ensures_recordError_filed

end Body

section Runs

variable {messages : List (Message Float)} {log : History Float}
  {result : Except (LoopError Float) (LoopResult Float)} {final : LoopState Float}

structure BooksOf (cfg : LoopConfig Float) (messages : List (Message Float)) (nextSeq : Int)
    (log : History Float) (final : LoopState Float) (steps : List (BookStep Float))
    (books : Books Float) : Prop where
  run : (bookMachine cfg.num cfg.fmt).run (Books.opened cfg.num cfg.budgets nextSeq) steps =
    some books
  agrees : books.Matches (messages.map (·.sequence)) log final
  quiescent : books.phase.Quiescent

structure RecordsOf (cfg : LoopConfig Float) (messages : List (Message Float)) (nextSeq : Int)
    (log : History Float) (final : LoopState Float) (entries : List (Entry Float))
    (books : Books Float) :
    Prop where
  books : BooksOf cfg messages nextSeq log final (entries.map Entry.step) books
  usages : ∃ rest, usagesOf log = entries.filterMap Entry.usage ++ rest ∧ rest.length ≤ 1
  careful : Quoted cfg.num log → (entryMachine cfg).Meets (Careful cfg final.clients)
    (Books.opened cfg.num cfg.budgets nextSeq) entries

theorem run_map_step {books : Books Float} {entries : List (Entry Float)} :
    (bookMachine cfg.num cfg.fmt).run books (entries.map Entry.step) =
      (entryMachine cfg).run books entries := by
  induction entries generalizing books with
  | nil => rfl
  | cons entry entries ih =>
      rw [List.map_cons, Machine.run, Machine.run]
      exact congrArg _ (funext fun next => ih)

theorem exists_records_of_run
    (hrun : (executeLoop cfg).Runs (initialState cfg messages nextSeq) log result final) :
    ∃ entries ledger, RecordsOf cfg messages nextSeq log final entries ledger.toBooks ∧
      (final.stored = cfg.run ∨ Filed ledger final.stored) := by
  have hunopened : Unopened cfg (messages.map (·.sequence)) nextSeq []
      (initialState cfg messages nextSeq) :=
    ⟨⟨rfl, rfl, rfl, rfl, by simp [initialState, Books.opened], rfl⟩, rfl, rfl⟩
  have hend := ensures_executeLoop_booked [] _ hunopened log result final hrun
  rw [List.nil_append] at hend
  have hbooked : Booked cfg (messages.map (·.sequence)) nextSeq
      (fun ledger stored => MayLeave cfg ledger stored ∨ Filed ledger stored) log final := by
    cases result with
    | ok value => exact hend.mono fun _ _ => .inr
    | error error => exact hend
  obtain ⟨entries, ledger, hentries, hmatches, haccounts, hquiet⟩ := hbooked
  have hphase : ledger.phase.Quiescent := hquiet.elim And.left And.left
  refine ⟨entries, ledger, ⟨⟨run_map_step.trans hentries, hmatches, hphase⟩,
    ⟨_, haccounts.usages, ?_⟩, haccounts.careful⟩, hquiet.imp_left And.right⟩
  cases ledger.due <;> simp

theorem exists_books_of_run
    (hrun : (executeLoop cfg).Runs (initialState cfg messages nextSeq) log result final) :
    ∃ steps ledger, BooksOf cfg messages nextSeq log final steps ledger.toBooks ∧
      (final.stored = cfg.run ∨ Filed ledger final.stored) := by
  obtain ⟨entries, ledger, hrecords, hstored⟩ := exists_records_of_run hrun
  exact ⟨_, ledger, hrecords.books, hstored⟩

end Runs

end AiAnalytics.App.Loop
