import AiAnalytics.App.Orchestration.LoopState
import AiAnalytics.Lib.PyText

/-!
# The run loop

`_execute_loop`: one prepared run from its first check to its terminal record. The body of the loop
returns or raises before it comes round again, so it is a sequence of stages. A reply that is an
exception is matched on where the source has the `except` clause for it; what no clause names goes
on as an exception of the loop.
-/

namespace AiAnalytics.App.Loop

open Lib Lib.Prog

variable {Float : Type} (cfg : LoopConfig Float)

section Writes

def evalRunId : Option (PyValue Float) := cfg.run.metadata.lookup "eval_run_id"

def evalMeta : Dict Float :=
  match evalRunId cfg with
  | none => []
  | some id => if id.truthy cfg.num then [("eval_run_id", id)] else []

structure EventRefs where
  llmCallId : Option String := none
  toolCallId : Option String := none
  queryId : Option String := none

def emit (eventType : RunEventType) (payload : Dict Float) (refs : EventRefs) : LoopM Float PUnit :=
  modify fun state => state.publish fun sequence =>
    { eventType, runId := cfg.run.runId, conversationId := cfg.conversationId, sequence, payload
      llmCallId := refs.llmCallId, toolCallId := refs.toolCallId, queryId := refs.queryId
      evalRunId := evalRunId cfg }

def appendStep (step : String → Int → RunStep Float) : LoopM Float PUnit := do
  let stepId : String ← request .newStepId
  modify fun state => state.storeStep (step stepId)

def addStep (step : String → Int → RunStep Float) : LoopM Float PUnit := do
  appendStep step
  modify LoopState.advanceStep

def addMessage (role content : String) (metadata : Dict Float) : LoopM Float PUnit := do
  let messageId : String ← request .newMessageId
  let createdAt : String ← request .utcnow
  modify fun state => state.storeMessage fun sequence =>
    { messageId, conversationId := cfg.conversationId, sequence, role, content, createdAt
      metadata := .dict metadata }

def appendCall (call : LLMCall Float) : LoopM Float PUnit :=
  modify fun state => { state with llmCalls := state.llmCalls ++ [call] }

end Writes

section Checks

def checkCancellation (partialText : String) : LoopM Float Unit := do
  let cancelled : Bool ← request .isCancelled
  raiseIf (cancelled = true) (.runCancelled partialText)

def pollWorker : Nat → LoopM Float Unit
  | 0 => pure ()
  | polls + 1 => do
      checkCancellation ""
      pollWorker polls

def runWithCancellation (call : LoopCall Float) : LoopM Float (LoopReply call) := do
  let polls : Nat ← request (.submitted call)
  pollWorker polls
  request call

def raiseBudget : Except (BudgetExceededError Float) Unit → LoopM Float Unit
  | .ok () => pure ()
  | .error error => throw (.budgetExceeded error)

def track (record : BudgetTracker Float → Float × Float →
    Except (BudgetExceededError Float) Unit × BudgetTracker Float) : LoopM Float Unit := do
  let elapsed : Float × Float ← request .elapsed
  let state ← get
  modify fun state => { state with tracker := (record state.tracker elapsed).2 }
  raiseBudget (record state.tracker elapsed).1

def ensureCostDeterminate : LoopM Float Unit := do
  let state ← get
  raiseBudget state.tracker.ensureCostDeterminate

def orFault {α : Type} : Except PyFault α → LoopM Float α
  | .ok a => pure a
  | .error fault => throw (.fault fault)

/-- `int((self._monotonic() - start) * 1000)` -/
def millisSince (start : Float) : LoopM Float Int := do
  let now : Float ← request .monotonic
  pure (cfg.millis (cfg.num.sub now start))

end Checks

section Cost

def nonempty (text : Option String) : Option String := text.filter (· ≠ "")

def pricedKey (clients : Option (Clients Float)) (result : Option (ModelResult Float))
    (modelId : Option String) : Option (PricingTable Float × String) :=
  let keys := [nonempty (result.bind (·.modelAlias)),
    nonempty ((nonempty (result.map (·.modelId))).or modelId)].filterMap id
  let tables := [clients.bind (·.pricing), some cfg.defaultPricing].filterMap id
  tables.findSome? fun table =>
    (keys.find? fun key => (table.rates.lookup key).isSome).map fun key => (table, key)

def authoritativeCost (result : Option (ModelResult Float)) : Option (Float × CostSource) :=
  result.bind fun result => result.costUsd.bind fun cost =>
    if result.costKind = some "billed" then some (cost, .providerBilled)
    else if result.usageKnown then some (cost, .policyEstimate)
    else none

def estimate (phase : CallPhase) (table : PricingTable Float) (key : String)
    (inputTokens outputTokens : Int) : LoopM Float Float := do
  let reply : Except PyFault (Option Float) ←
    request (.estimate phase table key inputTokens outputTokens)
  let cost ← orFault reply
  pure (cost.getD cfg.num.zero)

def conservativeBound (phase : CallPhase) (table : PricingTable Float) (key : String)
    (result : Option (ModelResult Float)) : LoopM Float Float :=
  estimate cfg phase table key cfg.budgets.maxInputTokens
    (((result.bind (·.configuredMaxTokens)).filter (· ≠ 0)).getD cfg.budgets.maxOutputTokens)

def incompleteUsage (inputTokens outputTokens : Int) (result : Option (ModelResult Float)) : Bool :=
  inputTokens ≤ 0 || outputTokens ≤ 0 || (result.map (·.usageKnown)) = some false

def tableCost (phase : CallPhase) (inputTokens outputTokens : Int)
    (result : Option (ModelResult Float)) (table : PricingTable Float) (key : String) :
    LoopM Float (CallCost Float) := do
  let cost ← estimate cfg phase table key inputTokens outputTokens
  if incompleteUsage inputTokens outputTokens result then do
    let bound ← conservativeBound cfg phase table key result
    pure
      { costUsd := cost, source := .incomplete
        budgetCostUsd := some (if cfg.num.gt bound cost then bound else cost)
        budgetBasis := .conservative }
  else
    pure
      { costUsd := cost, source := .fallback, budgetCostUsd := some cost, budgetBasis := .reported }

def callCost (phase : CallPhase) (inputTokens outputTokens : Int)
    (result : Option (ModelResult Float)) (modelId : Option String) :
    LoopM Float (CallCost Float) := do
  let state ← get
  if (state.clients.map Clients.selfHosted).getD false then
    pure
      { costUsd := cfg.num.zero, source := .selfHosted, budgetCostUsd := some cfg.num.zero
        budgetBasis := .selfHosted }
  else
    match authoritativeCost result with
    | some (cost, source) =>
        pure { costUsd := cost, source, budgetCostUsd := some cost, budgetBasis := .reported }
    | none =>
        match pricedKey cfg state.clients result modelId with
        | none =>
            pure
              { costUsd := cfg.num.zero, source := .unpriced, budgetCostUsd := none
                budgetBasis := .unresolvable }
        | some (table, key) => tableCost cfg phase inputTokens outputTokens result table key

def recordCall (inputTokens outputTokens : Int) (cost : CallCost Float) : LoopM Float Unit :=
  track fun tracker elapsed =>
    tracker.recordLlmCall cfg.num cfg.fmt inputTokens outputTokens
      { estimatedCostUsd := cost.costUsd, budgetCostUsd := cost.budgetCostUsd
        costIndeterminate := cost.indeterminate, costUnresolvable := cost.budgetCostUsd.isNone }
      elapsed

def LLMCall.ofResult (llmCallId : String) (result : ModelResult Float) (cost : CallCost Float) :
    LLMCall Float :=
  { llmCallId, modelId := result.modelId, inputTokens := some result.inputTokens
    outputTokens := some result.outputTokens, latencyMs := result.latencyMs
    finishReason := result.finishReason, configuredMaxTokens := result.configuredMaxTokens
    costUsd := some cost.costUsd, costSource := cost.source, budgetCostUsd := cost.budgetCostUsd
    budgetCostBasis := cost.budgetBasis, costIndeterminate := cost.indeterminate
    modelAlias := result.modelAlias, role := result.role, pricingVersion := result.pricingVersion
    resultCostUsd := result.costUsd, costKind := result.costKind, usageKnown := result.usageKnown
    fallbackUsed := result.fallbackUsed, promptAttribution := result.promptAttribution }

def swallowBudget : LoopError Float → LoopM Float Unit
  | .budgetExceeded _ => pure ()
  | error => throw error

def recordUnknownUsageFailure (phase : CallPhase) (error : LLMProviderError)
    (modelId failedCallId : String) (latencyMs : Int) : LoopM Float Unit := do
  let cost ← callCost cfg phase 0 0 none (some modelId)
  appendCall
    { llmCallId := failedCallId, modelId, inputTokens := none, outputTokens := none, latencyMs
      costUsd := none, costSource := cost.source, budgetCostUsd := cost.budgetCostUsd
      budgetCostBasis := cost.budgetBasis, costIndeterminate := cost.indeterminate
      errorCode := some error.code, modelAlias := some modelId, role := some "planner"
      usageKnown := false, providerStatus := error.providerStatus
      promptAttribution := error.promptAttribution }
  tryCatch (recordCall cfg 0 0 cost) swallowBudget

def LLMCall.tokensPayload (result : ModelResult Float) : PyValue Float :=
  .dict [("input", .int result.inputTokens), ("output", .int result.outputTokens)]

def emitStarted (phase : CallPhase) (llmCallId : String) (refs : EventRefs) : LoopM Float PUnit :=
  emit cfg .llmStarted [("llm_call_id", .str llmCallId), ("phase", .str phase.text)] refs

def emitCompleted (phase : CallPhase) (llmCallId : String) (latencyMs : Int)
    (result : ModelResult Float) : LoopM Float PUnit :=
  emit cfg .llmCompleted
    [("llm_call_id", .str llmCallId), ("phase", .str phase.text), ("latency_ms", .int latencyMs),
      ("tokens", LLMCall.tokensPayload result)]
    { llmCallId := some llmCallId }

end Cost

section Terminal

def defaultModelId : String := "amazon.nova-micro-v1:0"

def currentModelId (state : LoopState Float) : String :=
  match state.llmCalls.getLast? with
  | some call => call.modelId
  | none => (state.clients.map (·.modelId)).getD defaultModelId

def currentCostSource (state : LoopState Float) : CostSource :=
  match state.llmCalls.getLast? with
  | some call => call.costSource
  | none => if (state.clients.map Clients.selfHosted).getD false then .selfHosted else .fallback

def offeredTools : List String :=
  ["query_taxi_data", "average_trip_metrics", "describe_taxi_dataset",
    "list_taxi_dimension_values", "aggregate_taxi_data", "compare_taxi_segments"]

def ttftFacts (state : LoopState Float) : Dict Float :=
  match state.ttftMs with
  | some latency =>
      [("available", .bool true), ("latency_ms", .int latency), ("source", .str "provider_stream")]
  | none =>
      [("available", .bool false), ("reason", .str
        (if state.finalAnswerStreamStarted then "provider_stream_returned_no_text_delta"
         else if state.finalAnswerPhaseReached then "non_streaming_blocking"
         else "final_answer_not_started"))]

def telemetry (state : LoopState Float) (endToEndLatencyMs : Int) : Dict Float :=
  [("end_to_end_latency_ms", .int endToEndLatencyMs),
    ("proposal_llm_latency_ms", orNone .int state.proposalLatencyMs),
    ("tool_latency_ms", orNone .int state.toolLatencyMs),
    ("final_answer_llm_latency_ms", orNone .int state.finalAnswerLatencyMs),
    ("ttft", .dict (ttftFacts state)), ("tool_source", .str state.activeToolSource.text),
    ("planner_outcome", .str (outcomeText state.activePlannerOutcome)),
    ("selected_tool", orNone .str state.activeSelectedTool),
    ("rejected_outcome",
      orNone (fun outcome => .str (outcomeText outcome)) state.activeRejectedOutcome),
    ("offered_tools", .list (offeredTools.map .str))]

def terminalRunPayload (status : RunStatus) (tracker : BudgetTracker Float)
    (failureCode : Option String) (runTelemetry : Dict Float) (extras : Dict Float) : Dict Float :=
  [("status", .str (statusText status)), ("input_tokens", .int tracker.inputTokens),
    ("output_tokens", .int tracker.outputTokens), ("total_tokens", .int tracker.totalTokens),
    ("estimated_cost_usd", .float tracker.estimatedCostUsd),
    ("failure_code", orNone .str failureCode),
    ("latency_ms", (runTelemetry.lookup "end_to_end_latency_ms").getD .none),
    ("telemetry", .dict runTelemetry)] ++ runTelemetry ++ extras

structure Ending (Float : Type) where
  status : RunStatus
  partialText : String := ""
  failureCode : Option String := none
  facts : Dict Float := []
  errorFacts : Dict Float := []
  payload : Dict Float := []
  llmCallId : Option String := none

def terminalRun (state : LoopState Float) (ending : Ending Float) (completedAt : String)
    (runTelemetry : Dict Float) : Run Float :=
  { runId := cfg.run.runId
    conversationId := cfg.conversationId
    messageId := some cfg.userMessageId
    status := ending.status
    model := some (currentModelId state)
    promptVersion := some "m9.v1"
    startedAt := cfg.run.startedAt
    completedAt := some completedAt
    inputTokens := state.tracker.inputTokens
    outputTokens := state.tracker.outputTokens
    estimatedCostUsd := state.tracker.estimatedCostUsd
    failureCode := ending.failureCode
    metadata := ending.facts ++ [("telemetry", .dict runTelemetry)] ++ ending.errorFacts ++
      evalMeta cfg ++
      [("cost_source", .str (currentCostSource state).text),
        ("llm_calls", .list (state.llmCalls.map fun call => .dict call.toMetadata))] }

def updateRun (run : Run Float) : LoopM Float PUnit :=
  modify fun state => { state with stored := run }

def terminalEvent : RunStatus → RunEventType
  | .completed => .runCompleted
  | .budgetExceeded => .runBudgetExceeded
  | .cancelled => .runCancelled
  | _ => .runFailed

def recordTerminal (ending : Ending Float) (runTelemetry : Dict Float) : LoopM Float PUnit := do
  let completedAt : String ← request .utcnow
  let state ← get
  updateRun (terminalRun cfg state ending completedAt runTelemetry)
  emit cfg (terminalEvent ending.status)
    (terminalRunPayload ending.status state.tracker ending.failureCode runTelemetry ending.payload)
    { llmCallId := ending.llmCallId }

def loopResult (state : LoopState Float) (answer : String) (ending : Ending Float) (latencyMs : Int)
    (runTelemetry : Dict Float) : LoopResult Float :=
  { answer, status := ending.status, toolCallId := state.lastToolCallId
    queryId := state.lastQueryId, inputTokens := state.tracker.inputTokens
    outputTokens := state.tracker.outputTokens, totalTokens := state.tracker.totalTokens
    estimatedCostUsd := state.tracker.estimatedCostUsd, latencyMs
    failureCode := ending.failureCode, steps := state.steps, llmCalls := state.llmCalls
    telemetry := runTelemetry }

def keepPartialText (partialText : String) : LoopM Float PUnit :=
  if partialText = "" then pure ()
  else addMessage cfg "assistant" (partialText ++ " [interrupted]") [("interrupted", .bool true)]

def finishRun (answer : String) (ending : Ending Float) (latency : LoopState Float → Int → Int) :
    LoopM Float (LoopResult Float) := do
  let start ← get
  let latencyMs ← millisSince cfg start.startMono
  keepPartialText cfg ending.partialText
  recordTerminal cfg ending (telemetry start latencyMs)
  let state ← get
  pure (loopResult state answer ending (latency state latencyMs) (telemetry start latencyMs))

end Terminal

section Proposals

def promptSummary : String := "prompt: " ++ clip 80 cfg.prompt

def configurationFailure (llmCallId message : String) : LoopError Float :=
  .orchestration
    { code := "llm_configuration_error", retryable := false, llmCallId := some llmCallId, message }

def providerFailure (error : LLMProviderError) (llmCallId : String)
    (details : Option (Dict Float)) : LoopError Float :=
  .orchestration
    { code := error.code, retryable := error.retryable, llmCallId := some llmCallId, message := ""
      details }

def recordProposalFailure (error : LLMProviderError) (llmCallId : String) (callStart : Float) :
    LoopM Float Unit :=
  match error.modelId, error.inputTokens with
  | some modelId, none => do
      let latencyMs ← millisSince cfg callStart
      recordUnknownUsageFailure cfg .proposal error modelId llmCallId latencyMs
  | some modelId, some inputTokens => do
      let outputTokens := error.outputTokens.getD 0
      let cost ← callCost cfg .proposal inputTokens outputTokens none (some modelId)
      appendCall
        { llmCallId, modelId, inputTokens := some inputTokens, outputTokens := some outputTokens
          latencyMs := error.latencyMs.getD 0, finishReason := error.finishReason
          costUsd := some cost.costUsd, costSource := cost.source
          budgetCostUsd := cost.budgetCostUsd, budgetCostBasis := cost.budgetBasis
          costIndeterminate := cost.indeterminate, errorCode := some error.code
          promptAttribution := error.promptAttribution }
  | none, _ => pure ()

def recordRetryFailure (error : LLMProviderError) (llmCallId : String) (callStart : Float) :
    LoopM Float Unit :=
  match error.modelId, error.inputTokens with
  | some modelId, none => do
      let latencyMs ← millisSince cfg callStart
      recordUnknownUsageFailure cfg .proposalRetry error modelId llmCallId latencyMs
  | _, _ => pure ()

def recordProposal (proposal : ToolProposalResult Float) (llmCallId : String) (callStart : Float) :
    LoopM Float PUnit := do
  let latencyMs ← millisSince cfg callStart
  modify fun state => { state with proposalLatencyMs := some latencyMs }
  let result := proposal.toModelResult
  let cost ← callCost cfg .proposal proposal.inputTokens proposal.outputTokens (some result) none
  recordCall cfg proposal.inputTokens proposal.outputTokens cost
  let call : LLMCall Float :=
    { LLMCall.ofResult llmCallId result cost with
      reasoningTokens := proposal.reasoningTokens, reasoningPresent := proposal.reasoningPresent
      reasoningChars := proposal.reasoningChars, outputBasis := proposal.outputBasis
      plannerOutcome := some proposal.outcome }
  appendCall call
  emitCompleted cfg .proposal llmCallId latencyMs result
  addStep fun stepId sequence =>
    { stepId, runId := cfg.run.runId, sequence, stepType := .llmProposal,
      llmCallId := some llmCallId
      inputSummary := some (promptSummary cfg)
      outputSummary := some (if proposal.name = "" then "outcome: " ++ outcomeText proposal.outcome
        else "tool: " ++ proposal.name)
      durationMs := some latencyMs
      metadata :=
        [("outcome", .str (outcomeText proposal.outcome)), ("tool_source", .str "model")] ++
        call.toMetadata }
  modify fun state =>
    { state with
      activePlannerOutcome := proposal.outcome
      activeSelectedTool := nonempty (some proposal.name) }

def proposeTaxiQuery (schema : PyValue Float) (llmCallId : String) :
    LoopM Float (ToolProposalResult Float) := do
  emitStarted cfg .proposal llmCallId {}
  ensureCostDeterminate
  let callStart : Float ← request .monotonic
  let reply : Except LLMError (ToolProposalResult Float) ←
    runWithCancellation (.proposeTaxiQuery .proposal llmCallId cfg.prompt schema)
  match reply with
  | .error (.configuration message) => throw (configurationFailure llmCallId message)
  | .error (.provider error) => do
      recordProposalFailure cfg error llmCallId callStart
      throw (providerFailure error llmCallId (providerErrorDetails error))
  | .ok proposal => do
      recordProposal cfg proposal llmCallId callStart
      pure proposal

def declineAnswer (proposal : ToolProposalResult Float) : String :=
  match proposal.outcome with
  | .noTool => "I could not determine which analysis answers that question. " ++
      "Please rephrase it in terms of the taxi dataset."
  | .noVisibleOutput => "The model did not return a usable response for that question. " ++
      "Please try again or rephrase it."
  | _ => (nonempty proposal.declineReason).getD
      "I cannot determine that: the dataset does not contain this information."

/-- The telemetry is not touched: the update of the source writes what the state already says. -/
def declineRun (proposal : ToolProposalResult Float) : LoopM Float (LoopResult Float) := do
  let facts : Dict Float :=
    [("outcome", .str (outcomeText proposal.outcome)),
      ("reason", orNone .str proposal.declineReason), ("tool_source", .str "model")]
  modify fun state => { state with activeRejectedOutcome := some proposal.outcome }
  emit cfg .runDeclined facts {}
  addStep fun stepId sequence =>
    { stepId, runId := cfg.run.runId, sequence, stepType := .answer
      inputSummary := some ("question: " ++ clip 80 cfg.prompt)
      outputSummary := some ("answer: " ++ clip 80 (declineAnswer proposal)), durationMs := some 0
      metadata := facts }
  addMessage cfg "assistant" (declineAnswer proposal) []
  finishRun cfg (declineAnswer proposal) { status := .completed } fun _ latencyMs => latencyMs

structure Candidate (Float : Type) where
  proposal : ToolProposalResult Float
  llmCallId : String
  validation : ProposalValidation
  request : Option (String × Dict Float)

def validate (name : String) (arguments schema : PyValue Float) :
    LoopM Float ProposalValidation := do
  let state ← get
  let reply : Except PyFault ProposalValidation ←
    request (.validateProposal name arguments schema state.executedToolSignatures.length)
  orFault reply

def candidateOf (schema : PyValue Float) (proposal : ToolProposalResult Float)
    (llmCallId : String) : LoopM Float (Candidate Float) := do
  let validation ← validate proposal.name proposal.arguments schema
  if validation.ok then do
    let parsed : Option (String × Dict Float) ← request (.parseQueryProposal proposal)
    pure { proposal, llmCallId, validation, request := parsed }
  else pure { proposal, llmCallId, validation, request := none }

def retryPrompt (validation : ProposalValidation) : String :=
  cfg.prompt ++ "\n\nThe previous tool proposal failed deterministic validation:\n" ++
    validation.feedback

def recordRetry (proposal : ToolProposalResult Float) (llmCallId : String) (callStart : Float) :
    LoopM Float PUnit := do
  let latencyMs ← millisSince cfg callStart
  modify fun state =>
    { state with proposalLatencyMs := some (state.proposalLatencyMs.getD 0 + latencyMs) }
  let result := proposal.toModelResult
  let cost ← callCost cfg .proposalRetry proposal.inputTokens proposal.outputTokens (some result)
    none
  recordCall cfg proposal.inputTokens proposal.outputTokens cost
  appendCall (LLMCall.ofResult llmCallId result cost)
  emitCompleted cfg .proposalRetry llmCallId proposal.latencyMs result
  addStep fun stepId sequence =>
    { stepId, runId := cfg.run.runId, sequence, stepType := .llmProposal,
      llmCallId := some llmCallId
      inputSummary := some (promptSummary cfg ++ " (validation retry)")
      outputSummary := some ("tool: " ++ proposal.name), durationMs := some proposal.latencyMs
      metadata := (LLMCall.ofResult llmCallId result cost).toMetadata }

/-- The `try` of the retry has a clause for `LLMProviderError` and none for
`LLMConfigurationError`. -/
def retryProposal (schema : PyValue Float) (candidate : Candidate Float) :
    LoopM Float (Candidate Float) := do
  let llmCallId : String ← request .newLlmCallId
  emitStarted cfg .proposalRetry llmCallId {}
  ensureCostDeterminate
  let callStart : Float ← request .monotonic
  let reply : Except LLMError (ToolProposalResult Float) ←
    runWithCancellation
      (.proposeTaxiQuery .proposalRetry llmCallId (retryPrompt cfg candidate.validation) schema)
  match reply with
  | .error (.configuration message) => throw (.llmConfiguration message)
  | .error (.provider error) => do
      recordRetryFailure cfg error llmCallId callStart
      throw (providerFailure error llmCallId (providerErrorDetails error))
  | .ok proposal => do
      recordRetry cfg proposal llmCallId callStart
      candidateOf schema proposal llmCallId

def ArgumentSummary.toDict (summary : ArgumentSummary Float) : Dict Float :=
  [("argument_keys", .list (summary.argumentKeys.map .str)),
    ("arguments_sha256", .str summary.argumentsSha256)] ++
  (match summary.arguments with
    | none => []
    | some text => [("arguments", .str text)])

def recordInvalid (candidate : Candidate Float) (summary : ArgumentSummary Float) (retries : Nat) :
    LoopM Float PUnit :=
  addStep fun stepId sequence =>
    { stepId, runId := cfg.run.runId, sequence, stepType := .validationError, status := .failed
      inputSummary := some ("arguments keys=" ++
        cfg.fmt.repr (.list (summary.argumentKeys.map .str)) ++ " sha256=" ++
        clip 16 summary.argumentsSha256)
      outputSummary := some "invalid tool arguments"
      metadata := [("violations", .list (candidate.validation.violations.map fun v => .str v.code)),
        ("retries_used", .int retries)] ++ summary.toDict }

def reviewProposal (candidate : Candidate Float) (retries : Nat) :
    LoopM Float (Bool × ArgumentSummary Float) := do
  let summary : ArgumentSummary Float ← request (.summarizeArguments candidate.proposal.arguments)
  recordInvalid cfg candidate summary retries
  let elapsed : Float × Float ← request .elapsed
  let state ← get
  pure (retryAllowed cfg.num candidate.validation state.tracker candidate.proposal.inputTokens
    candidate.proposal.outputTokens retries elapsed.1 cfg.halfTimeout, summary)

def validationFailure (candidate : Candidate Float) (summary : ArgumentSummary Float) :
    LoopError Float :=
  .orchestration
    { code := "tool_validation_error", retryable := false, llmCallId := some candidate.llmCallId
      message := "Invalid tool proposal (" ++ candidate.validation.codes ++ ") sha256=" ++
        clip 16 summary.argumentsSha256 }

def repairProposal (schema : PyValue Float) :
    Nat → Candidate Float → LoopM Float (String × String × Dict Float)
  | 0, candidate =>
      match candidate.request with
      | some (name, arguments) => pure (candidate.llmCallId, name, arguments)
      | none => do
          let review ← reviewProposal cfg candidate maxValidationRetries
          throw (validationFailure candidate review.2)
  | left + 1, candidate =>
      match candidate.request with
      | some (name, arguments) => pure (candidate.llmCallId, name, arguments)
      | none => do
          let review ← reviewProposal cfg candidate (maxValidationRetries - (left + 1))
          if review.1 then do
            let next ← retryProposal cfg schema candidate
            repairProposal schema left next
          else throw (validationFailure candidate review.2)

inductive Selection (Float : Type) where
  | declined (result : LoopResult Float)
  | tool (llmCallId : Option String) (name : String) (arguments : Dict Float)

def fromCatalogue (name : String) (arguments : Dict Float) : LoopM Float (Selection Float) := do
  modify fun state =>
    { state with activeToolSource := .catalogue, activeSelectedTool := some name }
  addStep fun stepId sequence =>
    { stepId, runId := cfg.run.runId, sequence, stepType := .llmProposal
      inputSummary := some (promptSummary cfg), outputSummary := some ("tool: " ++ name)
      durationMs := some 0
      metadata := [("tool_source", .str "catalogue"), ("tool_name", .str name)] }
  pure (.tool none name arguments)

def fromModel (schema : PyValue Float) (proposalCallId : String) :
    LoopM Float (Selection Float) := do
  let proposal ← proposeTaxiQuery cfg schema proposalCallId
  if proposal.outcome = .toolCall then do
    let candidate ← candidateOf schema proposal proposalCallId
    let (llmCallId, name, arguments) ← repairProposal cfg schema maxValidationRetries candidate
    pure (.tool (some llmCallId) name arguments)
  else do
    let result ← declineRun cfg proposal
    pure (.declined result)

def selectTool (schema : PyValue Float) (proposalCallId : String) :
    LoopM Float (Selection Float) := do
  checkCancellation ""
  modify fun state =>
    { state with
      activeToolSource := .model, activePlannerOutcome := .toolCall, activeSelectedTool := none
      activeRejectedOutcome := none }
  let entry : Option (String × Dict Float) ← request (.catalogueLookup cfg.prompt)
  match entry with
  | some (name, arguments) => fromCatalogue cfg name arguments
  | none => fromModel cfg schema proposalCallId

end Proposals

section Tools

def extendedGovernedToolNames : List String :=
  ["describe_taxi_dataset", "list_taxi_dimension_values", "aggregate_taxi_data",
    "compare_taxi_segments"]

/-- `str(v)` -/
def pyStr : PyValue Float → String
  | .str text => text
  | v => cfg.fmt.repr v

def sanitized (raw : Except MCPToolError (PyValue Float)) :
    LoopM Float (Except MCPToolError (PyValue Float)) :=
  match raw with
  | .ok payload => request (.sanitizeQueryResult payload)
  | .error error => pure (.error error)

def executeTool (name : String) (arguments : Dict Float) :
    LoopM Float (Except MCPToolError (PyValue Float)) :=
  let argument key := (key, (arguments.lookup key).getD .none)
  if name = averageMetricsToolName then do
    let raw : Except MCPToolError (PyValue Float) ←
      runWithCancellation (.governedTool name [argument "region_name"])
    sanitized raw
  else if name = expectedToolName then do
    let raw : Except MCPToolError (PyValue Float) ←
      runWithCancellation (.governedTool name [argument "analysis", argument "limit"])
    sanitized raw
  else if name ∈ extendedGovernedToolNames then runWithCancellation (.governedTool name arguments)
  else pure (.error
    { retryable := false, message := "Unknown governed tool '" ++ name ++ "'"
      reason := "unknown_tool" })

def mcpFailure (error : MCPToolError) (llmCallId toolName : Option String) : LoopError Float :=
  .orchestration
    { code := "mcp_tool_error", retryable := error.retryable, llmCallId, message := error.message
      toolError := some (toolErrorFacts error toolName) }

def signature (name : String) (arguments : Dict Float) : String :=
  name ++ ":" ++ cfg.fmt.dumps true false (.dict arguments)

def requestTool (schema : PyValue Float) (proposalCallId : String) (llmCallId : Option String)
    (name : String) (arguments : Dict Float) : LoopM Float PUnit := do
  let preExec ← validate name (.dict arguments) schema
  raiseIf (preExec.ok = false) (.orchestration
    { code := "tool_validation_error", retryable := false
      llmCallId := some ((nonempty llmCallId).getD proposalCallId)
      message := "Invalid tool proposal (" ++ preExec.codes ++ ")" })
  emit cfg .toolRequested (("tool_name", .str name) :: arguments) {}
  let state ← get
  raiseIf (signature cfg name arguments ∈ state.executedToolSignatures) (.budgetExceeded
    { reason := "Repeated equivalent tool call detected: " ++ signature cfg name arguments
      details := [("limit", .str "repeated_tool_call"),
        ("signature", .str (signature cfg name arguments))] })
  modify fun state =>
    { state with
      executedToolSignatures := state.executedToolSignatures ++ [signature cfg name arguments] }

def recordToolFailure (error : MCPToolError) (name toolCallId : String) (arguments : Dict Float)
    (durationMs : Int) : LoopM Float PUnit := do
  emit cfg .toolFailed
    [("tool_call_id", .str toolCallId), ("tool_name", .str name), ("error", .str error.message),
      ("reason", .str error.reason), ("duration_ms", .int durationMs)]
    { toolCallId := some toolCallId }
  addStep fun stepId sequence =>
    { stepId, runId := cfg.run.runId, sequence, stepType := .toolCall, status := .failed
      toolName := some name, toolCallId := some toolCallId
      inputSummary := some (cfg.fmt.dumps true false (.dict arguments))
      outputSummary := some ("error: " ++ error.message), durationMs := some durationMs
      metadata := [("reason", .str error.reason)] }

def queryIdOf (result : PyValue Float) : String := pyStr cfg (result.entry "query_id" (.str ""))

def rowCount (result : PyValue Float) : PyValue Float := result.entry "row_count" (.int 0)

def serializedBytes (result : PyValue Float) : Int :=
  ((cfg.fmt.dumps false true result).utf8ByteSize : Nat)

def recordFindings (queryId : String) (findings : List (PyValue Float)) : LoopM Float PUnit :=
  if findings.isEmpty then pure ()
  else
    addStep fun stepId sequence =>
      { stepId, runId := cfg.run.runId, sequence, stepType := .observationScan
        queryId := some queryId
        outputSummary := some "instruction-like text in tool observation"
        metadata := [("findings", .list findings)] }

def recordToolResult (result : PyValue Float) (name toolCallId : String) (arguments : Dict Float)
    (durationMs : Int) : LoopM Float PUnit := do
  let queryId := queryIdOf cfg result
  modify fun state =>
    { state with toolLatencyMs := some durationMs, lastQueryId := some queryId }
  track fun tracker elapsed =>
    tracker.recordToolCall cfg.num cfg.fmt (serializedBytes cfg result) elapsed
  emit cfg .toolCompleted
    [("tool_call_id", .str toolCallId), ("query_id", .str queryId), ("row_count", rowCount result),
      ("duration_ms", .int durationMs)]
    { toolCallId := some toolCallId, queryId := some queryId }
  addStep fun stepId sequence =>
    { stepId, runId := cfg.run.runId, sequence, stepType := .toolCall, toolName := some name
      toolCallId := some toolCallId, queryId := some queryId
      inputSummary := some (cfg.fmt.dumps true false (.dict arguments))
      outputSummary := some ("rows=" ++ pyStr cfg (rowCount result) ++ ", bytes=" ++
        toString (serializedBytes cfg result))
      durationMs := some durationMs }
  let findings : List (PyValue Float) ← request (.scanObservation result)
  recordFindings cfg queryId findings
  addMessage cfg "tool" (cfg.fmt.dumps true true result)
    [("tool_name", .str name), ("query_id", .str queryId)]
  modify fun state => { state with nextSeq := state.nextSeq + 1 }

def runTool (llmCallId : Option String) (name : String) (arguments : Dict Float) :
    LoopM Float (PyValue Float) := do
  checkCancellation ""
  let toolCallId : String ← request .newToolCallId
  modify fun state => { state with lastToolCallId := some toolCallId }
  emit cfg .toolStarted [("tool_call_id", .str toolCallId), ("tool_name", .str name)] {}
  let toolStart : Float ← request .monotonic
  let outcome ← executeTool name arguments
  let durationMs ← millisSince cfg toolStart
  match outcome with
  | .error error => do
      recordToolFailure cfg error name toolCallId arguments durationMs
      throw (mcpFailure error llmCallId (some name))
  | .ok result => do
      recordToolResult cfg result name toolCallId arguments durationMs
      pure result

def reduceContext (schema result : PyValue Float) : LoopM Float PUnit := do
  checkCancellation ""
  let state ← get
  let context : PyValue Float ← request (.reduce state.messages schema result state.tracker)
  let queryId := queryIdOf cfg result
  emit cfg .contextReduced
    [("query_id", .str queryId), ("row_count", rowCount result), ("working_context", context)] {}
  addStep fun stepId sequence =>
    { stepId, runId := cfg.run.runId, sequence, stepType := .contextReduced, queryId := some queryId
      outputSummary := some "persisted working context"
      metadata := [("row_count", rowCount result), ("working_context", context)] }

end Tools

section Answers

def applyGrounding (text : String) (result : PyValue Float) : LoopM Float String := do
  let reply : Except PyFault (GroundingReport Float) ←
    request (.checkAnswerGrounding text result cfg.prompt)
  let report ← orFault reply
  match report.caveat with
  | none => pure text
  | some caveat => do
      addStep fun stepId sequence =>
        { stepId, runId := cfg.run.runId, sequence, stepType := .groundingCheck
          status := if report.ok then .completed else .failed
          queryId := some (queryIdOf cfg result), outputSummary := some (clip 200 caveat)
          metadata := report.metadata }
      pure (text ++ "\n\n" ++ caveat)

def speak (text llmCallId : String) : LoopM Float PUnit :=
  match cfg.voice with
  | none => pure ()
  | some voiceName => do
      let audio : Option String ← request (.synthesizeSpeech text)
      match audio with
      | none => pure ()
      | some data =>
          emit cfg .answerAudio
            [("data", .str data), ("voice_name", .str voiceName), ("format", .str "mp3")]
            { llmCallId := some llmCallId }

def lastCallId (state : LoopState Float) (answerCallId : String) : String :=
  (state.llmCalls.getLast?.map (·.llmCallId)).getD answerCallId

def crewBudgetError (tracker : BudgetTracker Float) : LoopError Float :=
  .budgetExceeded
    { reason := "max_llm_calls"
      details :=
        [("limit", .int tracker.budgets.maxLlmCalls), ("current", .int tracker.llmCallCount)] }

def recordCrewCall (role : CrewRole) (agentStep : Nat) (callId : String) (callStart : Float)
    (result : LLMResult Float) : LoopM Float PUnit := do
  let latencyMs ← millisSince cfg callStart
  let cost ← callCost cfg (.crewai role) result.inputTokens result.outputTokens
    (some result.toModelResult) none
  let call : LLMCall Float :=
    { LLMCall.ofResult callId result.toModelResult cost with
      latencyMs := if result.latencyMs = 0 then latencyMs else result.latencyMs
      ttftMs := result.ttftMs, firstVisibleAnswerMs := result.firstVisibleAnswerMs
      reasoningTokens := result.reasoningTokens
      reasoningTokensUnavailableReason := result.reasoningTokensUnavailableReason
      visibleAnswerTokens := result.visibleAnswerTokens
      visibleAnswerTokensUnavailableReason := result.visibleAnswerTokensUnavailableReason }
  appendCall call
  emitCompleted cfg (.crewai role) callId latencyMs result.toModelResult
  addStep fun stepId sequence =>
    { stepId, runId := cfg.run.runId, sequence, stepType := .crewai role, llmCallId := some callId
      inputSummary := some ("role=" ++ role.text ++ ", agent_step=" ++ toString agentStep)
      outputSummary := some ("output: " ++ clip 80 result.text), durationMs := some latencyMs
      metadata := call.toMetadata }
  recordCall cfg result.inputTokens result.outputTokens cost
  checkCancellation (if role = .writer then result.text else "")

def crewInvokeModel (role : CrewRole) : LoopM Float PUnit := do
  let agentStep := if role = .researcher then 2 else 3
  modify fun state => { state with finalAnswerPhaseReached := true }
  checkCancellation ""
  let state ← get
  raiseIf (state.tracker.llmCallCount ≥ state.tracker.budgets.maxLlmCalls)
    (crewBudgetError state.tracker)
  let callId : String ← request .newLlmCallId
  emitStarted cfg (.crewai role) callId { llmCallId := some callId }
  ensureCostDeterminate
  let callStart : Float ← request .monotonic
  let reply : Except LLMError (LLMResult Float) ←
    runWithCancellation (.invokeModel callId role agentStep)
  match reply with
  | .error (.configuration message) => throw (configurationFailure callId message)
  | .error (.provider error) => throw (providerFailure error callId none)
  | .ok result => recordCrewCall cfg role agentStep callId callStart result

def letThrough (call : CrewCall) (error : LoopError Float) : LoopM Float PUnit :=
  match call.wrapped with
  | none => throw error
  | some fault => throw (.fault fault)

def crewCalls : List CrewCall → LoopM Float Unit
  | [] => pure ()
  | call :: calls => do
      tryCatch (crewInvokeModel cfg call.role) (letThrough call)
      crewCalls calls

def runTwoAgentAnswer (result : PyValue Float) : LoopM Float String := do
  let plan : Kickoff ← request (.kickoff cfg.prompt result)
  crewCalls cfg plan.calls
  let output ← orFault plan.output
  raiseIf (plan.calls.length ≠ 2) (.fault
    { exception := "RuntimeError"
      message := "expected exactly 2 CrewAI model calls, got " ++ toString plan.calls.length })
  pure (String.ofList (strip output.toList))

def strategyFailure (answerCallId message : String) (state : LoopState Float) : LoopError Float :=
  .orchestration
    { code := "strategy_execution_error", retryable := false
      llmCallId := some (lastCallId state answerCallId), message }

def strategyError (answerCallId : String) : LoopError Float → LoopM Float String
  | .llmConfiguration message => do
      let state ← get
      throw (strategyFailure answerCallId message state)
  | .fault fault => do
      let state ← get
      throw (strategyFailure answerCallId fault.message state)
  | error => throw error

def crewAnswer (result : PyValue Float) (answerCallId : String) (ansStart : Float) :
    LoopM Float String := do
  let text ← tryCatch (runTwoAgentAnswer cfg result) (strategyError answerCallId)
  let latencyMs ← millisSince cfg ansStart
  modify fun state => { state with finalAnswerLatencyMs := some latencyMs }
  let answer ← applyGrounding cfg text result
  let state ← get
  emit cfg .answerCompleted [("answer", .str answer)]
    { llmCallId := some (lastCallId state answerCallId) }
  speak cfg answer (lastCallId state answerCallId)
  addMessage cfg "assistant" answer []
  pure answer

def noteFirstDelta (ansStart : Float) : LoopM Float PUnit := do
  let state ← get
  match state.ttftMs with
  | some _ => pure ()
  | none => do
      let latencyMs ← millisSince cfg ansStart
      modify fun state => { state with ttftMs := some latencyMs }

def publishDeltas (ansStart : Float) (llmCallId : String) :
    List String → String → LoopM Float Unit
  | [], _ => pure ()
  | delta :: deltas, chunks => do
      noteFirstDelta cfg ansStart
      emit cfg .answerDelta [("delta", .str delta)] { llmCallId := some llmCallId }
      checkCancellation (chunks ++ delta)
      publishDeltas ansStart llmCallId deltas (chunks ++ delta)

def askForAnswer (result : PyValue Float) (answerCallId : String) (ansStart : Float) :
    LoopM Float (Except LLMError (LLMResult Float)) := do
  let state ← get
  if (state.clients.map (·.streams)).getD false then do
    modify fun state => { state with finalAnswerStreamStarted := true }
    let reply : List String × Except LLMError (LLMResult Float) ←
      request (.streamAnswer answerCallId cfg.prompt result)
    publishDeltas cfg ansStart answerCallId reply.1 ""
    pure reply.2
  else do
    modify fun state => { state with finalAnswerStreamStarted := false }
    request (.answerWithQueryResult answerCallId cfg.prompt result)

def recordAnswer (answer : String) (reply : LLMResult Float) (result : PyValue Float)
    (answerCallId : String) (latencyMs : Int) : LoopM Float PUnit := do
  let cost ← callCost cfg .finalAnswer reply.inputTokens reply.outputTokens
    (some reply.toModelResult) none
  recordCall cfg reply.inputTokens reply.outputTokens cost
  let call : LLMCall Float :=
    { LLMCall.ofResult answerCallId reply.toModelResult cost with
      ttftMs := reply.ttftMs, firstVisibleAnswerMs := reply.firstVisibleAnswerMs
      reasoningTokens := reply.reasoningTokens
      reasoningTokensUnavailableReason := reply.reasoningTokensUnavailableReason
      visibleAnswerTokens := reply.visibleAnswerTokens
      visibleAnswerTokensUnavailableReason := reply.visibleAnswerTokensUnavailableReason }
  appendCall call
  emitCompleted cfg .finalAnswer answerCallId latencyMs reply.toModelResult
  -- the one step after which the number is not advanced
  appendStep fun stepId sequence =>
    { stepId, runId := cfg.run.runId, sequence, stepType := .llmFinalAnswer
      llmCallId := some answerCallId
      inputSummary := some ("query_id=" ++ queryIdOf cfg result)
      outputSummary := some ("answer: " ++ clip 80 answer), durationMs := some latencyMs
      metadata := call.toMetadata }
  addMessage cfg "assistant" answer []

def manualAnswer (result : PyValue Float) (answerCallId : String) (ansStart : Float) :
    LoopM Float String := do
  emitStarted cfg .finalAnswer answerCallId {}
  ensureCostDeterminate
  let outcome ← askForAnswer cfg result answerCallId ansStart
  match outcome with
  | .error (.configuration message) => throw (configurationFailure answerCallId message)
  | .error (.provider error) => throw (providerFailure error answerCallId none)
  | .ok reply => do
      let latencyMs ← millisSince cfg ansStart
      modify fun state => { state with finalAnswerLatencyMs := some latencyMs }
      let answer ← applyGrounding cfg reply.text result
      emit cfg .answerCompleted [("answer", .str answer)] { llmCallId := some answerCallId }
      speak cfg answer answerCallId
      recordAnswer cfg answer reply result answerCallId latencyMs
      pure answer

def answerQuestion (result : PyValue Float) : LoopM Float String := do
  let answerCallId : String ← request .newLlmCallId
  modify fun state => { state with finalAnswerPhaseReached := true }
  checkCancellation ""
  let ansStart : Float ← request .monotonic
  match cfg.strategy with
  | .crewai => crewAnswer cfg result answerCallId ansStart
  | .manual => manualAnswer cfg result answerCallId ansStart

end Answers

section Execution

def obtainClients (proposalCallId : String) : LoopM Float PUnit := do
  let reply : Except ClientsError (Clients Float) ← request .getClients
  match reply with
  | .error (.configuration message) => throw (configurationFailure proposalCallId message)
  | .error (.mcp error) => throw (mcpFailure error (some proposalCallId) none)
  | .ok clients => modify fun state => { state with clients := some clients }

def readSchema (raw : Except MCPToolError (PyValue Float)) :
    LoopM Float (Except MCPToolError (PyValue Float)) :=
  match raw with
  | .ok payload => request (.sanitizeDatasetSchema payload)
  | .error error => pure (.error error)

def loadSchema (proposalCallId : String) : LoopM Float (PyValue Float) := do
  checkCancellation ""
  emit cfg .contextLoading [("resource", .str "dataset://nyc-taxi/schema")] {}
  let raw : Except MCPToolError (PyValue Float) ← runWithCancellation .getDatasetSchema
  let schema ← readSchema raw
  match schema with
  | .error error => throw (mcpFailure error (some proposalCallId) (some "get_dataset_schema"))
  | .ok schema => pure schema

def answerWithTool (schema : PyValue Float) (proposalCallId : String) (llmCallId : Option String)
    (name : String) (arguments : Dict Float) : LoopM Float (LoopResult Float) := do
  requestTool cfg schema proposalCallId llmCallId name arguments
  let result ← runTool cfg llmCallId name arguments
  reduceContext cfg schema result
  let answer ← answerQuestion cfg result
  finishRun cfg answer { status := .completed } fun state _ =>
    (state.llmCalls.map (·.latencyMs)).sum

/-- The `try` block of `_execute_loop`. -/
def loopBody : LoopM Float (LoopResult Float) := do
  checkCancellation ""
  let proposalCallId : String ← request .newLlmCallId
  obtainClients proposalCallId
  track fun tracker elapsed => tracker.recordIteration cfg.num cfg.fmt elapsed
  let schema ← loadSchema cfg proposalCallId
  let selection ← selectTool cfg schema proposalCallId
  match selection with
  | .declined result => pure result
  | .tool llmCallId name arguments =>
      answerWithTool cfg schema proposalCallId llmCallId name arguments

def cancelledEnding (partialText : String) : Ending Float :=
  { status := .cancelled, partialText, failureCode := some "cancelled"
    facts := [("reason", .str cancelReason), ("partial_text", .str partialText)]
    payload := [("reason", .str cancelReason)] }

def exceededEnding (error : BudgetExceededError Float) : Ending Float :=
  { status := .budgetExceeded, failureCode := some "budget_exceeded"
    facts := [("reason", .str error.reason), ("details", .dict error.details)]
    payload := [("reason", .str error.reason)] }

def optionalFact (key : String) : Option (Dict Float) → Dict Float
  | none => []
  | some facts => if facts.isEmpty then [] else [(key, .dict facts)]

def failedEnding (error : OrchestrationError Float) : Ending Float :=
  let errorFacts :=
    optionalFact "provider_error" error.details ++ optionalFact "tool_error" error.toolError
  { status := .failed, failureCode := some error.code
    facts := [("error", .str error.text), ("retryable", .bool error.retryable)], errorFacts
    payload := [("retryable", .bool error.retryable), ("error", .str error.text)] ++ errorFacts
    llmCallId := nonempty error.llmCallId }

def recordError : LoopError Float → LoopM Float (LoopResult Float)
  | .runCancelled partialText =>
      finishRun cfg partialText (cancelledEnding partialText) fun _ latencyMs => latencyMs
  | .budgetExceeded error =>
      finishRun cfg "" (exceededEnding error) fun _ latencyMs => latencyMs
  | .orchestration error => do
      let _ ← finishRun cfg "" (failedEnding error) fun _ latencyMs => latencyMs
      throw (.orchestration error)
  | error => throw error

def executeLoop : LoopM Float (LoopResult Float) := do
  let startMono : Float ← request .monotonic
  modify fun state => { state with startMono }
  tryCatch (loopBody cfg) (recordError cfg)

/-- What `prepare_run` has left: the record of the run, and the messages of its conversation. -/
def initialState (messages : List (Message Float)) (nextSeq : Int) : LoopState Float :=
  { stored := cfg.run
    messages
    nextSeq
    startMono := cfg.num.zero
    tracker := { budgets := cfg.budgets, estimatedCostUsd := cfg.num.zero,
                 budgetCostUsd := cfg.num.zero } }

end Execution

end AiAnalytics.App.Loop
