import AiAnalytics.App.Orchestration.Loop
import AiAnalytics.Lib.Machine

/-!
# A run of the Deep Agents strategy

`execute_deep_agent_run` waits in the main thread while a worker thread runs the agent framework,
which calls back into a recorder. Each thread is a program; a step of the machine carries out one
call of one of them. The callbacks hold the recorder's lock; the main thread does not take it.

The metadata of the stored run and what `execute_deep_agent_run` returns are left out.
-/

namespace AiAnalytics.App.DeepAgents

open Lib Lib.Prog Loop

variable {Float : Type}

section Data

structure DeepConfig (Float : Type) where
  num : NumOps Float
  fmt : PyFormat Float
  /-- `json.loads` -/
  loads : String → Option (PyValue Float)
  millis : Float → Int
  prompt : String
  runId : String
  conversationId : String
  evalRunId : Option (PyValue Float) := none
  nextSeq : Int
  initialEvtSequence : Int := 1
  budgets : ExecutionBudgets Float
  pricing : PricingTable Float
  defaultPricing : PricingTable Float
  agentAlias : String
  agentMaxTokens : Option Int := none
  /-- Whether the loop has a publisher. -/
  publishes : Bool := true

structure ToolInfo (Float : Type) where
  name : String
  arguments : Dict Float
  toolCallId : String
  started : Float

structure Recorder (Float : Type) where
  tracker : BudgetTracker Float
  nextSeq : Int
  stepSeq : Int := 1
  llmCalls : List (LLMCall Float) := []
  executedSignatures : List String := []
  lastToolCallId : Option String := none
  lastQueryId : Option String := none
  lastToolName : Option String := none
  proposalLatencyMs : Int := 0
  toolLatencyMs : Option Int := none
  finalLatencyMs : Option Int := none
  lastFailedCallId : Option String := none
  calls : List (String × String × Float) := []
  holds : List (String × Nat) := []
  tools : List (String × ToolInfo Float) := []
  evidence : List (PyValue Float) := []

inductive BudgetCharge (Float : Type) where
  | allowance
  | reserved (hold : Nat)
  | committed (hold : Nat) (inputTokens outputTokens : Int) (costUsd : Option Float)
  | llmCall (inputTokens outputTokens : Int) (cost : CallCost Float)
  | toolCall (resultBytes : Int)

inductive RunRecord (Float : Type) where
  | event (event : RunEvent Float)
  | step (step : RunStep Float)
  | message (message : Message Float)
  | charge (charge : BudgetCharge Float)
  | run (ending : Ending Float)

structure AgentMessage where
  type : String
  text : String

inductive WorkerOutcome (Float : Type) where
  | returned (messages : List AgentMessage)
  | aborted
  | cancelled (partialText : String)
  | exceeded (error : BudgetExceededError Float)
  | orchestration (error : OrchestrationError Float)
  | provider (error : Loop.LLMProviderError)
  | recursion
  /-- An error of the SDK, as `_provider_failure` maps it. -/
  | sdk (code : String) (retryable : Bool) (details : Option (Dict Float)) (message : String)
  | other (fault : PyFault)

inductive WaitEnd (Float : Type) where
  | done (outcome : WorkerOutcome Float)
  | cancelled
  | exceeded (error : BudgetExceededError Float)

inductive Write (Float : Type) where
  | publish (event : Int → RunEvent Float)
  | addRunStep (step : RunStep Float)
  | addMessage (message : Message Float)
  | updateRun (ending : Ending Float)

/-- A write that raises may have been carried out. -/
structure WriteReply where
  stored : Bool
  fault : Option PyFault := none

inductive DeepError (Float : Type) where
  /-- `_Aborted` -/
  | aborted
  | provider (error : Loop.LLMProviderError)
  | loop (error : LoopError Float)

end Data

section Calls

inductive DeepCall (Float : Type) where
  | abortIsSet
  | setAbort
  | isCancelled
  | elapsed
  | monotonic
  | utcnow
  | newLlmCallId
  | newToolCallId
  | newStepId
  | newMessageId
  | write (write : Write Float)
  | reserveBudget
  | beginAgentCall (messagesText toolsText : String)
  | endAgentCall (hold : Nat) (inputTokens outputTokens : Int) (usageKnown : Bool)
    (costUsd : Option Float)
  | releaseAgentCall (hold : Nat)
  | recordLlmCall (inputTokens outputTokens : Int) (cost : CallCost Float)
  | recordToolCall (resultBytes : Int)
  | register (runId llmCallId : String)
  | release (runId : String)
  | estimate (table : PricingTable Float) (key : String) (inputTokens outputTokens : Int)
  | scanObservation (result : PyValue Float)
  | checkAnswerGrounding (answer : String) (evidence : List (PyValue Float)) (question : String)
  | setUp
  | submit
  | awaitWorker
  /-- The main thread reads the recorder, without its lock. -/
  | observe
  /-- The main thread takes the recorder's lock, and the holds. -/
  | takeHolds
  | emitRunMetrics

def DeepReply : DeepCall Float → Type
  | .abortIsSet | .isCancelled => Bool
  | .setAbort | .endAgentCall _ _ _ _ _ | .releaseAgentCall _ | .register _ _ | .submit
    | .emitRunMetrics => Unit
  | .elapsed | .recordLlmCall _ _ _ | .recordToolCall _ => Float × Float
  | .monotonic => Float
  | .utcnow | .newLlmCallId | .newToolCallId | .newStepId | .newMessageId => String
  | .write _ => WriteReply
  | .reserveBudget => Except Loop.LLMProviderError Unit
  | .beginAgentCall _ _ => Except Loop.LLMProviderError Nat
  | .release _ => Option Float
  | .estimate _ _ _ _ => Except PyFault (Option Float)
  | .scanObservation _ => List (PyValue Float)
  | .checkAnswerGrounding _ _ _ => Except PyFault (GroundingReport Float)
  | .setUp => Except (LoopError Float) Unit
  | .awaitWorker => WaitEnd Float
  | .observe => Option (Recorder Float)
  | .takeHolds => List Nat

abbrev RecorderM (Float α : Type) :=
  Prog (DeepCall Float) DeepReply (Recorder Float) (DeepError Float) α

def request (call : DeepCall Float) : RecorderM Float (DeepReply call) := Prog.ask call

end Calls

section Helpers

variable (cfg : DeepConfig Float)

def raiseFault : Option PyFault → RecorderM Float Unit
  | none => pure ()
  | some fault => throw (.loop (.fault fault))

def orFault {α : Type} : Except PyFault α → RecorderM Float α
  | .ok a => pure a
  | .error fault => throw (.loop (.fault fault))

def orProvider {α : Type} : Except Loop.LLMProviderError α → RecorderM Float α
  | .ok a => pure a
  | .error error => throw (.provider error)

def raiseBudget : Except (BudgetExceededError Float) Unit → RecorderM Float Unit
  | .ok () => pure ()
  | .error error => throw (.loop (.budgetExceeded error))

def write (record : Write Float) : RecorderM Float Unit := do
  let reply : WriteReply ← request (.write record)
  raiseFault reply.fault

/-- `_Emitter` -/
def emit (eventType : RunEventType) (payload : Dict Float) (refs : EventRefs) :
    RecorderM Float Unit :=
  if cfg.publishes then
    write (.publish fun sequence =>
      { eventType, runId := cfg.runId, conversationId := cfg.conversationId, sequence, payload
        llmCallId := refs.llmCallId, toolCallId := refs.toolCallId, queryId := refs.queryId
        evalRunId := cfg.evalRunId })
  else pure ()

def addStep (step : String → Int → RunStep Float) : RecorderM Float PUnit := do
  let stepId : String ← request .newStepId
  let recorder ← get
  write (.addRunStep (step stepId recorder.stepSeq))
  modify fun recorder => { recorder with stepSeq := recorder.stepSeq + 1 }

def addMessage (role content : String) (metadata : Dict Float) : RecorderM Float Unit := do
  let messageId : String ← request .newMessageId
  let createdAt : String ← request .utcnow
  let recorder ← get
  write (.addMessage
    { messageId, conversationId := cfg.conversationId, sequence := recorder.nextSeq, role, content,
      createdAt
      metadata := .dict metadata })

def checkAbort : RecorderM Float Unit := do
  let aborted : Bool ← request .abortIsSet
  raiseIf (aborted = true) .aborted

def checkDeadline : RecorderM Float Unit := do
  let elapsed : Float × Float ← request .elapsed
  let recorder ← get
  raiseBudget (recorder.tracker.checkDeadline cfg.num cfg.fmt elapsed)

def guard : RecorderM Float Unit := do
  checkAbort
  let cancelled : Bool ← request .isCancelled
  raiseIf (cancelled = true) (.loop (.runCancelled ""))
  checkDeadline cfg

/-- `int((self.loop._monotonic() - started) * 1000)` -/
def millisSince (started : Float) : RecorderM Float Int := do
  let now : Float ← request .monotonic
  pure (cfg.millis (cfg.num.sub now started))

structure CallResult (Float : Type) where
  modelAlias : String
  modelId : String
  usageKnown : Bool
  costUsd : Option Float := none
  costKind : Option String := none

def pricedKey (result : CallResult Float) : Option (PricingTable Float × String) :=
  let keys := [result.modelAlias, result.modelId].filter (· ≠ "")
  [cfg.pricing, cfg.defaultPricing].findSome? fun table =>
    (keys.find? fun key => (table.rates.lookup key).isSome).map fun key => (table, key)

def authoritativeCost (result : CallResult Float) : Option (Float × CostSource) :=
  result.costUsd.bind fun cost =>
    if result.costKind = some "billed" then some (cost, .providerBilled)
    else if result.usageKnown then some (cost, .policyEstimate)
    else none

def estimate (table : PricingTable Float) (key : String) (inputTokens outputTokens : Int) :
    RecorderM Float Float := do
  let reply : Except PyFault (Option Float) ← request (.estimate table key inputTokens outputTokens)
  let cost ← orFault reply
  pure (cost.getD cfg.num.zero)

def callCost (inputTokens outputTokens : Int) (result : CallResult Float) :
    RecorderM Float (CallCost Float) := do
  match authoritativeCost result, pricedKey cfg result with
  | some (cost, source), _ =>
      pure { costUsd := cost, source, budgetCostUsd := some cost, budgetBasis := .reported }
  | none, none =>
      pure
        { costUsd := cfg.num.zero, source := .unpriced, budgetCostUsd := none,
          budgetBasis := .unresolvable }
  | none, some (table, key) =>
      let cost ← estimate cfg table key inputTokens outputTokens
      if inputTokens ≤ 0 ∨ outputTokens ≤ 0 ∨ ¬ result.usageKnown then do
        let bound ← estimate cfg table key cfg.budgets.maxInputTokens cfg.budgets.maxOutputTokens
        pure
          { costUsd := cost, source := .incomplete
            budgetCostUsd := some (if cfg.num.gt bound cost then bound else cost)
            budgetBasis := .conservative }
      else
        pure
          { costUsd := cost, source := .fallback, budgetCostUsd := some cost,
            budgetBasis := .reported }

def recordCost (inputTokens outputTokens : Int) (cost : CallCost Float) : RecorderM Float Unit := do
  let elapsed : Float × Float ← request (.recordLlmCall inputTokens outputTokens cost)
  let recorder ← get
  let recorded := recorder.tracker.recordLlmCall cfg.num cfg.fmt inputTokens outputTokens
    { estimatedCostUsd := cost.costUsd, budgetCostUsd := cost.budgetCostUsd
      costIndeterminate := cost.indeterminate, costUnresolvable := cost.budgetCostUsd.isNone }
        elapsed
  modify fun recorder => { recorder with tracker := recorded.2 }
  raiseBudget recorded.1

def recordToolCall (resultBytes : Int) : RecorderM Float Unit := do
  let elapsed : Float × Float ← request (.recordToolCall resultBytes)
  let recorder ← get
  let recorded := recorder.tracker.recordToolCall cfg.num cfg.fmt resultBytes elapsed
  modify fun recorder => { recorder with tracker := recorded.2 }
  raiseBudget recorded.1

end Helpers

section Callbacks

variable (cfg : DeepConfig Float)

def planningToolName : String := "write_todos"

structure ModelMessage where
  usage : Option (Int × Int) := none
  modelName : Option String := none
  finishReason : Option String := none
  toolCalls : List String := []
  text : String

inductive CallError where
  | provider (code : String) (status : Option Int)
  | other

inductive Callback (Float : Type) where
  | chatModelStart (runId : String) (messages : PyValue Float) (tools : List (PyValue Float))
  | llmEnd (runId : String) (message : Option ModelMessage)
  | llmError (runId : String) (error : CallError)
  | toolStart (runId name inputText : String) (inputs : Option (PyValue Float))
  | toolEnd (runId text : String)
  | toolError (runId reason : String)

def put {α : Type} (key : String) (value : α) (entries : List (String × α)) : List (String × α) :=
  (key, value) :: entries.filter (·.1 ≠ key)

def drop {α : Type} (key : String) (entries : List (String × α)) : List (String × α) :=
  entries.filter (·.1 ≠ key)

def toolsJson (tools : List (PyValue Float)) : String :=
  if tools = [] then "" else cfg.fmt.dumps false false (.list tools)

def onChatModelStart (runId : String) (messages : PyValue Float) (tools : List (PyValue Float)) :
    RecorderM Float Unit := do
  guard cfg
  let recorder ← get
  let tracker := recorder.tracker
  raiseIf (tracker.budgets.maxLlmCalls ≤ tracker.llmCallCount) (.loop (.budgetExceeded
    { reason := "max_llm_calls"
      details :=
        [("limit", .int tracker.budgets.maxLlmCalls), ("current", .int tracker.llmCallCount)] }))
  raiseBudget tracker.ensureCostDeterminate
  let allowance : Except Loop.LLMProviderError Unit ← request .reserveBudget
  orProvider allowance
  let reserved : Except Loop.LLMProviderError Nat ←
    request (.beginAgentCall (cfg.fmt.dumps false false messages) (toolsJson cfg tools))
  let hold ← orProvider reserved
  modify fun recorder => { recorder with holds := put runId hold recorder.holds }
  let callId : String ← request .newLlmCallId
  let started : Float ← request .monotonic
  modify fun recorder => { recorder with calls := put runId (callId, started) recorder.calls }
  let _ : Unit ← request (.register runId callId)
  emit cfg .llmStarted [("llm_call_id", .str callId), ("phase", .str "agent_step")]
    { llmCallId := some callId }

def modelStep (call : LLMCall Float) (message : ModelMessage) (latencyMs : Int) :
    RecorderM Float PUnit :=
  if message.toolCalls = [] then do
    modify fun recorder => { recorder with finalLatencyMs := some latencyMs }
    addStep fun stepId sequence =>
      { stepId, runId := cfg.runId, sequence, stepType := .llmFinalAnswer,
        llmCallId := some call.llmCallId
        inputSummary := some ("question: " ++ clip 80 cfg.prompt)
        outputSummary := some ("answer: " ++ clip 80 message.text)
        durationMs := some latencyMs, metadata := call.toMetadata }
  else do
    modify fun recorder =>
      { recorder with proposalLatencyMs := recorder.proposalLatencyMs + latencyMs }
    addStep fun stepId sequence =>
      { stepId, runId := cfg.runId, sequence, stepType := .llmProposal,
        llmCallId := some call.llmCallId
        inputSummary := some ("prompt: " ++ clip 80 cfg.prompt)
        outputSummary := some ("tool: " ++ String.intercalate "," message.toolCalls)
        durationMs := some latencyMs, metadata :=
          ("tool_source", .str "model") :: drop "tool_source" call.toMetadata }

def missing (what : String) : DeepError Float := .loop (.fault ⟨what, ""⟩)

def endAgentCall (hold : Option Nat) (inputTokens outputTokens : Int) (usageKnown : Bool)
    (costUsd : Option Float) : RecorderM Float Unit :=
  match hold with
  | none => pure ()
  | some hold => request (.endAgentCall hold inputTokens outputTokens usageKnown costUsd)

def releaseAgentCall : Option Nat → RecorderM Float Unit
  | none => pure ()
  | some hold => request (.releaseAgentCall hold)

def onLlmEnd (runId : String) (message : Option ModelMessage) : RecorderM Float Unit := do
  guard cfg
  let recorder ← get
  match recorder.calls.lookup runId with
  | none => throw (missing "KeyError")
  | some (callId, started) =>
      modify fun recorder =>
        { recorder with calls := drop runId recorder.calls, holds := drop runId recorder.holds }
      let latencyMs ← millisSince cfg started
      match message with
      | none => throw (missing "IndexError")
      | some message =>
          let inputTokens := (message.usage.map Prod.fst).getD 0
          let outputTokens := (message.usage.map Prod.snd).getD 0
          let usageKnown := message.usage.isSome
          let modelId := (nonempty message.modelName).getD cfg.agentAlias
          let billed : Option Float ← request (.release runId)
          let result : CallResult Float :=
            { modelAlias := cfg.agentAlias, modelId, usageKnown, costUsd := billed
              costKind := billed.map fun _ => "billed" }
          endAgentCall (recorder.holds.lookup runId) inputTokens outputTokens usageKnown billed
          let cost ← callCost cfg inputTokens outputTokens result
          recordCost cfg inputTokens outputTokens cost
          let call : LLMCall Float :=
            { llmCallId := callId, modelId, inputTokens := some inputTokens,
              outputTokens := some outputTokens
              latencyMs, finishReason := message.finishReason, costUsd := some cost.costUsd
              costSource := cost.source, budgetCostUsd := cost.budgetCostUsd, budgetCostBasis :=
                cost.budgetBasis
              costIndeterminate := cost.indeterminate, modelAlias := some cfg.agentAlias, role :=
                some "planner"
              pricingVersion := some cfg.pricing.version, resultCostUsd := billed, costKind :=
                result.costKind
              usageKnown, configuredMaxTokens := cfg.agentMaxTokens }
          modify fun recorder => { recorder with llmCalls := recorder.llmCalls ++ [call] }
          emit cfg .llmCompleted
            [("llm_call_id", .str callId), ("phase", .str "agent_step"),
              ("latency_ms", .int latencyMs),
              ("tokens", .dict [("input", .int inputTokens), ("output", .int outputTokens)])]
            { llmCallId := some callId }
          modelStep cfg call message latencyMs

def swallowBudget : DeepError Float → RecorderM Float Unit
  | .loop (.budgetExceeded _) => pure ()
  | error => throw error

def recordFailedCall (callId : String) (started : Float) : CallError → RecorderM Float Unit
  | .other => pure ()
  | .provider code status => do
      let cost ← callCost cfg 0 0
        { modelAlias := cfg.agentAlias, modelId := cfg.agentAlias, usageKnown := false }
      let latencyMs ← millisSince cfg started
      modify fun recorder => { recorder with llmCalls := recorder.llmCalls ++
        [{ llmCallId := callId, modelId := cfg.agentAlias,
           inputTokens := none, outputTokens := none, latencyMs
           costUsd := none, costSource := cost.source, budgetCostUsd := cost.budgetCostUsd
           budgetCostBasis := cost.budgetBasis, costIndeterminate := cost.indeterminate
           errorCode := some code, modelAlias := some cfg.agentAlias, role := some "planner"
           usageKnown := false, configuredMaxTokens := cfg.agentMaxTokens, providerStatus :=
             status }] }
      tryCatch (recordCost cfg 0 0 cost) swallowBudget

def onLlmError (runId : String) (error : CallError) : RecorderM Float Unit := do
  let recorder ← get
  modify fun recorder =>
    { recorder with calls := drop runId recorder.calls, holds := drop runId recorder.holds }
  releaseAgentCall (recorder.holds.lookup runId)
  let _ : Option Float ← request (.release runId)
  match recorder.calls.lookup runId with
  | none => pure ()
  | some (callId, started) =>
      let aborted : Bool ← request .abortIsSet
      if aborted = true then pure ()
      else do
        modify fun recorder => { recorder with lastFailedCallId := some callId }
        recordFailedCall cfg callId started error

def toolArguments (inputText : String) (inputs : Option (PyValue Float)) : Dict Float :=
  match inputs.or (cfg.loads inputText) with
  | some (.dict entries) => entries
  | _ => []

/-- `{"tool_name": name, **arguments}` -/
def requestedPayload (name : String) (arguments : Dict Float) : Dict Float :=
  if (arguments.lookup "tool_name").isSome then arguments else ("tool_name", .str name) :: arguments

def onToolStart (runId name inputText : String) (inputs : Option (PyValue Float)) :
    RecorderM Float Unit :=
  if name = planningToolName then pure ()
  else do
    guard cfg
    let arguments := toolArguments cfg inputText inputs
    emit cfg .toolRequested (requestedPayload name arguments) {}
    let signature := name ++ ":" ++ cfg.fmt.dumps true false (.dict arguments)
    let recorder ← get
    raiseIf (signature ∈ recorder.executedSignatures) (.loop (.budgetExceeded
      { reason := "Repeated equivalent tool call detected: " ++ signature
        details := [("limit", .str "repeated_tool_call"), ("signature", .str signature)] }))
    let toolCallId : String ← request .newToolCallId
    let started : Float ← request .monotonic
    modify fun recorder =>
      { recorder with
        executedSignatures := signature :: recorder.executedSignatures
        lastToolCallId := some toolCallId
        lastToolName := some name
        tools := put runId { name, arguments, toolCallId, started } recorder.tools }
    emit cfg .toolStarted [("tool_call_id", .str toolCallId), ("tool_name", .str name)]
      { toolCallId := some toolCallId }

def pyStr : PyValue Float → String
  | .str text => text
  | value => cfg.fmt.repr value

def toolFailed (info : ToolInfo Float) (result : PyValue Float) (text : String) (durationMs : Int) :
    RecorderM Float Unit := do
  let error := result.entry "error" .none
  let reason := pyStr cfg ((result.entry "reason" .none).orElse cfg.num error)
  let message := clip 200
    (pyStr cfg (((result.entry "message" .none).orElse cfg.num error).orElse cfg.num (.str text)))
  emit cfg .toolFailed
    [("tool_call_id", .str info.toolCallId), ("tool_name", .str info.name), ("error", .str message),
      ("reason", .str reason), ("duration_ms", .int durationMs)]
    { toolCallId := some info.toolCallId }
  addStep fun stepId sequence =>
    { stepId, runId := cfg.runId, sequence, stepType := .toolCall, status := .failed
      toolName := some info.name, toolCallId := some info.toolCallId
      inputSummary := some (cfg.fmt.dumps true false (.dict info.arguments))
      outputSummary := some ("error: " ++ message), durationMs := some durationMs
      metadata := [("reason", .str reason)] }
  recordToolCall cfg 0

def recordFindings (queryId : String) (findings : List (PyValue Float)) : RecorderM Float PUnit :=
  if findings = [] then pure ()
  else addStep fun stepId sequence =>
    { stepId, runId := cfg.runId, sequence, stepType := .observationScan, queryId := some queryId
      outputSummary := some "instruction-like text in tool observation"
      metadata := [("findings", .list findings)] }

def recordToolResult (info : ToolInfo Float) (queryResult : PyValue Float) (text : String)
    (durationMs : Int) : RecorderM Float PUnit := do
  let queryId := pyStr cfg (queryResult.entry "query_id" (.str ""))
  modify fun recorder => { recorder with lastQueryId := some queryId }
  let resultBytes : Int := text.utf8ByteSize
  recordToolCall cfg resultBytes
  modify fun recorder => { recorder with evidence := recorder.evidence ++ [queryResult] }
  let rowCount := queryResult.entry "row_count" (.int 0)
  emit cfg .toolCompleted
    [("tool_call_id", .str info.toolCallId), ("query_id", .str queryId), ("row_count", rowCount),
      ("duration_ms", .int durationMs)]
    { toolCallId := some info.toolCallId, queryId := some queryId }
  addStep fun stepId sequence =>
    { stepId, runId := cfg.runId, sequence, stepType := .toolCall, toolName := some info.name
      toolCallId := some info.toolCallId, queryId := some queryId
      inputSummary := some (cfg.fmt.dumps true false (.dict info.arguments))
      outputSummary := some ("rows=" ++ pyStr cfg rowCount ++ ", bytes=" ++ toString resultBytes)
      durationMs := some durationMs }
  let findings : List (PyValue Float) ← request (.scanObservation queryResult)
  recordFindings cfg queryId findings
  addMessage cfg "tool" (cfg.fmt.dumps true true queryResult)
    [("tool_name", .str info.name), ("query_id", .str queryId), ("arguments", .dict info.arguments)]
  modify fun recorder => { recorder with nextSeq := recorder.nextSeq + 1 }

def popTool (runId : String) : RecorderM Float (Option (ToolInfo Float)) := do
  let recorder ← get
  modify fun recorder => { recorder with tools := drop runId recorder.tools }
  pure (recorder.tools.lookup runId)

/-- `isinstance(result, dict) and "error" in result` -/
def failedResult : Option (PyValue Float) → Option (PyValue Float)
  | some (.dict entries) => if (entries.lookup "error").isSome then some (.dict entries) else none
  | _ => none

/-- `result if isinstance(result, dict) else {"value": result}` -/
def asQueryResult : Option (PyValue Float) → PyValue Float
  | some (.dict entries) => .dict entries
  | result => .dict [("value", result.getD .none)]

def onToolEnd (runId text : String) : RecorderM Float PUnit := do
  let popped ← popTool runId
  match popped with
  | none => pure ()
  | some info =>
      guard cfg
      let durationMs ← millisSince cfg info.started
      modify fun recorder =>
        { recorder with toolLatencyMs := some (recorder.toolLatencyMs.getD 0 + durationMs) }
      let result := cfg.loads text
      match failedResult result with
      | some result => toolFailed cfg info result text durationMs
      | none => recordToolResult cfg info (asQueryResult result) text durationMs

def onToolError (runId reason : String) : RecorderM Float Unit := do
  let popped ← popTool runId
  match popped with
  | none => pure ()
  | some info =>
      let aborted : Bool ← request .abortIsSet
      if aborted = true then pure ()
      else do
        let durationMs ← millisSince cfg info.started
        toolFailed cfg info (.dict [("error", .str "tool_failed"), ("reason", .str reason)]) reason
          durationMs

def callback : Callback Float → RecorderM Float Unit
  | .chatModelStart runId messages tools => onChatModelStart cfg runId messages tools
  | .llmEnd runId message => onLlmEnd cfg runId message
  | .llmError runId error => onLlmError cfg runId error
  | .toolStart runId name inputText inputs => onToolStart cfg runId name inputText inputs
  | .toolEnd runId text => onToolEnd cfg runId text
  | .toolError runId reason => onToolError cfg runId reason

end Callbacks

section Main

variable (cfg : DeepConfig Float)

def noAnswerText : String :=
  "The model did not return a usable response for that question. Please try again or rephrase it."

def strategyName : String := "deep_agents"

def offeredTools : List String :=
  ["describe_taxi_dataset", "list_taxi_dimension_values", "aggregate_taxi_data",
    "compare_taxi_segments", planningToolName]

def telemetry (recorder : Option (Recorder Float)) (endToEndLatencyMs : Int) : Dict Float :=
  let lastToolName := recorder.bind (·.lastToolName)
  [("end_to_end_latency_ms", .int endToEndLatencyMs),
    ("proposal_llm_latency_ms", orNone .int (recorder.map (·.proposalLatencyMs))),
    ("tool_latency_ms", orNone .int (recorder.bind (·.toolLatencyMs))),
    ("final_answer_llm_latency_ms", orNone .int (recorder.bind (·.finalLatencyMs))),
    ("ttft", .dict [("available", .bool false), ("reason", .str "non_streaming_blocking")]),
    ("tool_source", .str "model"),
    ("planner_outcome", .str (if lastToolName.isSome then "tool_call" else "answer")),
    ("selected_tool", orNone .str lastToolName), ("rejected_outcome", .none),
    ("offered_tools", .list (offeredTools.map .str)), ("agent_strategy", .str strategyName)]

def emptyTracker : BudgetTracker Float :=
  { budgets := cfg.budgets, estimatedCostUsd := cfg.num.zero, budgetCostUsd := cfg.num.zero }

def finish (ending : Ending Float) (runTelemetry : Dict Float) : RecorderM Float Unit := do
  write (.updateRun ending)
  let observed : Option (Recorder Float) ← request .observe
  let tracker := (observed.map (·.tracker)).getD (emptyTracker cfg)
  emit cfg (terminalEvent ending.status)
    (terminalRunPayload ending.status tracker ending.failureCode runTelemetry ending.payload)
    { llmCallId := ending.llmCallId }
  request .emitRunMetrics

def finishNow (startMono : Float) (ending : Ending Float) : RecorderM Float Unit := do
  let latencyMs ← millisSince cfg startMono
  let observed : Option (Recorder Float) ← request .observe
  finish cfg ending (telemetry observed latencyMs)

def answerText (messages : List AgentMessage) : String :=
  match messages.reverse.find? (·.type = "ai") with
  | none => noAnswerText
  | some message =>
      let text := String.ofList (strip message.text.toList)
      if text = "" then noAnswerText else text

def recordCaveat (lastQueryId : Option String) (answer : String) (report : GroundingReport Float) :
    RecorderM Float String :=
  match report.caveat with
  | none => pure answer
  | some caveat => do
      addStep fun stepId sequence =>
        { stepId, runId := cfg.runId, sequence, stepType := .groundingCheck
          status := if report.ok then .completed else .failed, queryId := lastQueryId
          outputSummary := some (clip 200 caveat), metadata := report.metadata }
      pure (answer ++ "\n\n" ++ caveat)

def completeRun (startMono : Float) (messages : List AgentMessage) : RecorderM Float Unit := do
  let observed : Option (Recorder Float) ← request .observe
  modify fun recorder => observed.getD recorder
  let recorder ← get
  let answer := answerText messages
  let checked : Except PyFault (GroundingReport Float) ←
    request (.checkAnswerGrounding answer recorder.evidence cfg.prompt)
  let report ← orFault checked
  let answer ← recordCaveat cfg recorder.lastQueryId answer report
  emit cfg .answerCompleted [("answer", .str answer)]
    { llmCallId := nonempty (recorder.llmCalls.getLast?.map (·.llmCallId)) }
  addMessage cfg "assistant" answer []
  finishNow cfg startMono { status := .completed }

/-- `_map_exception`, and the clauses before it -/
def workerError (lastFailedCallId : String) : WorkerOutcome Float → LoopError Float
  | .returned _ | .aborted => .runCancelled ""
  | .cancelled partialText => .runCancelled partialText
  | .exceeded error => .budgetExceeded error
  | .orchestration error => .orchestration error
  | .provider error =>
      .orchestration
        { code := error.code, retryable := error.retryable, llmCallId := some lastFailedCallId,
          message := "" }
  | .recursion =>
      .budgetExceeded
        { reason := "max_iterations"
          details :=
            [("limit", .str "max_iterations"), ("current", .int cfg.budgets.maxIterations)] }
  | .sdk code retryable details message =>
      .orchestration { code, retryable, llmCallId := some lastFailedCallId, message, details }
  | .other fault =>
      .orchestration
        { code := "strategy_execution_error", retryable := false, llmCallId := some lastFailedCallId
          message := fault.exception ++ ": " ++ fault.message }

def afterWorker (startMono : Float) : WaitEnd Float → RecorderM Float Unit
  | .cancelled => throw (.loop (.runCancelled ""))
  | .exceeded error => throw (.loop (.budgetExceeded error))
  | .done (.returned messages) => completeRun cfg startMono messages
  | .done outcome => do
      let observed : Option (Recorder Float) ← request .observe
      throw (.loop (workerError cfg ((observed.bind (·.lastFailedCallId)).getD "") outcome))

/-- The `try` block of `execute_deep_agent_run`. -/
def runBody (startMono : Float) : RecorderM Float Unit := do
  let cancelled : Bool ← request .isCancelled
  raiseIf (cancelled = true) (.loop (.runCancelled ""))
  let _ : String ← request .newLlmCallId
  let ready : Except (LoopError Float) Unit ← request .setUp
  match ready with
  | .error error => throw (.loop error)
  | .ok () => do
      let _ : Unit ← request .submit
      let waited : WaitEnd Float ← request .awaitWorker
      afterWorker cfg startMono waited

def deepFailedEnding (error : OrchestrationError Float) : Ending Float :=
  { failedEnding error with
    payload :=
      [("retryable", .bool error.retryable), ("error", .str error.text),
        ("provider_error", orNone .dict (error.details.filter (¬ ·.isEmpty))),
        ("tool_error", orNone .dict (error.toolError.filter (¬ ·.isEmpty)))] }

def recordError (startMono : Float) : DeepError Float → RecorderM Float Unit
  | .loop (.runCancelled partialText) => do
      let _ : Unit ← request .setAbort
      finishNow cfg startMono (cancelledEnding partialText)
  | .loop (.budgetExceeded error) => do
      let _ : Unit ← request .setAbort
      finishNow cfg startMono (exceededEnding error)
  | .loop (.orchestration error) => do
      let _ : Unit ← request .setAbort
      finishNow cfg startMono (deepFailedEnding error)
      throw (.loop (.orchestration error))
  | error => throw error

def releaseHolds : List Nat → RecorderM Float Unit
  | [] => pure ()
  | hold :: holds => do
      let _ : Unit ← request (.releaseAgentCall hold)
      releaseHolds holds

def cleanUp : RecorderM Float Unit := do
  let _ : Unit ← request .setAbort
  let holds : List Nat ← request .takeHolds
  releaseHolds holds

def executeDeepAgentRun : RecorderM Float Unit := do
  let startMono : Float ← request .monotonic
  let ended ← attempt (tryCatch (runBody cfg startMono) (recordError cfg startMono))
  cleanUp
  match ended with
  | .ok () => pure ()
  | .error error => throw error

end Main

section Threads

abbrev Thread (Float : Type) :=
  Interaction (DeepCall Float) DeepReply (Except (DeepError Float) Unit × Recorder Float)

inductive WorkerThread (Float : Type) where
  | notStarted
  | between
  | inCallback (rest : Thread Float)
  | finished (outcome : WorkerOutcome Float)

structure DeepRun (Float : Type) where
  abort : Bool := false
  evtSequence : Int
  /-- `None` until the run is set up. -/
  recorder : Option (Recorder Float) := none
  worker : WorkerThread Float := .notStarted
  main : Thread Float
  log : List (RunRecord Float) := []

variable (cfg : DeepConfig Float)

def newRecorder : Recorder Float := { tracker := emptyTracker cfg, nextSeq := cfg.nextSeq }

def DeepRun.start : DeepRun Float :=
  { evtSequence := cfg.initialEvtSequence,
    main := (executeDeepAgentRun cfg).run.run (newRecorder cfg) }

/-- The reply to a call: the shared state answers for itself, the rest is up to `answer`. A wait for
the worker ends with its outcome only once it has one, and the lock is free only between
callbacks. -/
def DeepRun.reply (state : DeepRun Float) (answer : (c : DeepCall Float) → DeepReply c) :
    (c : DeepCall Float) → Option (DeepReply c)
  | .abortIsSet => some state.abort
  | .observe => match state.worker with
    | .inCallback _ => some (answer .observe)
    | _ => some state.recorder
  | .takeHolds => match state.worker with
    | .inCallback _ => none
    | _ => some ((state.recorder.map fun recorder => recorder.holds.map Prod.snd).getD [])
  | .awaitWorker => match answer .awaitWorker, state.worker with
    | .done _, .finished outcome => some (WaitEnd.done outcome)
    | .done _, _ => none
    | waited, _ => some waited
  | call => some (answer call)

def recorded (evtSequence : Int) : Exchange (@DeepReply Float) → Option (RunRecord Float)
  | ⟨.write record, reply⟩ =>
      if WriteReply.stored reply then
        some (match record with
          | .publish event => .event (event evtSequence)
          | .addRunStep step => .step step
          | .addMessage message => .message message
          | .updateRun ending => .run ending)
      else none
  | ⟨.reserveBudget, .ok ()⟩ => some (.charge .allowance)
  | ⟨.beginAgentCall _ _, .ok hold⟩ => some (.charge (.reserved hold))
  | ⟨.endAgentCall hold inputTokens outputTokens _ costUsd, _⟩ =>
      some (.charge (.committed hold inputTokens outputTokens costUsd))
  | ⟨.recordLlmCall inputTokens outputTokens cost, _⟩ =>
    some (.charge (.llmCall inputTokens outputTokens cost))
  | ⟨.recordToolCall resultBytes, _⟩ => some (.charge (.toolCall resultBytes))
  | _ => none

def nextSequence (evtSequence : Int) : Exchange (@DeepReply Float) → Int
  | ⟨.write (.publish _), reply⟩ =>
    if (WriteReply.fault reply).isNone then evtSequence + 1 else evtSequence
  | _ => evtSequence

def DeepRun.perform (state : DeepRun Float) (x : Exchange (@DeepReply Float)) : DeepRun Float :=
  { state with
    abort := state.abort || match x with
      | ⟨.setAbort, _⟩ => true
      | _ => false
    evtSequence := nextSequence state.evtSequence x
    recorder := match x with
      | ⟨.setUp, .ok ()⟩ => some (newRecorder cfg)
      | ⟨.takeHolds, _⟩ => state.recorder.map fun recorder => { recorder with holds := [] }
      | _ => state.recorder
    worker := match x, state.worker with
      | ⟨.submit, _⟩, .notStarted => .between
      | _, worker => worker
    log := state.log ++ (recorded state.evtSequence x).toList }

inductive DeepLabel (Float : Type) where
  | main (answer : (c : DeepCall Float) → DeepReply c)
  | callbackBegins (callback : Callback Float)
  | worker (answer : (c : DeepCall Float) → DeepReply c)
  | workerEnds (outcome : WorkerOutcome Float)

def deepMachine : Machine (DeepRun Float) (DeepLabel Float) where
  step state
    | .main answer => match state.main with
      | .done _ => none
      | .call c next => (state.reply answer c).map fun reply =>
          { state.perform cfg ⟨c, reply⟩ with main := next reply }
    | .callbackBegins event => match state.worker, state.recorder with
      | .between, some recorder =>
        some { state with worker := .inCallback ((callback cfg event).run.run recorder) }
      | _, _ => none
    | .worker answer => match state.worker with
      | .inCallback (.call c next) => (state.reply answer c).map fun reply =>
          { state.perform cfg ⟨c, reply⟩ with worker := .inCallback (next reply) }
      | .inCallback (.done (_, recorder)) =>
        some { state with worker := .between, recorder := some recorder }
      | _ => none
    | .workerEnds outcome => match state.worker with
      | .between => some { state with worker := .finished outcome }
      | _ => none

end Threads

end AiAnalytics.App.DeepAgents
