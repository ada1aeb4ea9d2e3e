import AiAnalytics.App.Llm.Governed
import AiAnalytics.App.Orchestration.Budgets
import AiAnalytics.App.State.Models
import AiAnalytics.Lib.Interaction

/-!
# What the run loop works on

The results and errors that reach the run loop, the records it writes, its local variables, and the
calls it makes to code outside of `loop.py` and `budgets.py`. Results are as their types declare
them. Identifiers of events and time stamps of events and steps are left out: nothing of the loop
reads them. -/

namespace AiAnalytics.App.Loop

open Lib

variable {Float : Type}

abbrev Dict (Float : Type) := List (String × PyValue Float)

def orNone {α : Type} (f : α → PyValue Float) : Option α → PyValue Float
  | none => .none
  | some a => f a

/-- `text[:n]` -/
def clip (n : Nat) (text : String) : String := String.ofList (text.toList.take n)

section Results

structure PromptAttribution where
  templateId : String
  version : String
  sha256 : String

structure ModelResult (Float : Type) where
  modelId : String
  inputTokens : Int
  outputTokens : Int
  latencyMs : Int
  finishReason : Option String := none
  configuredMaxTokens : Option Int := none
  reasoningTokens : Option Int := none
  role : Option String := none
  modelAlias : Option String := none
  pricingVersion : Option String := none
  costUsd : Option Float := none
  costKind : Option String := none
  usageKnown : Bool := true
  fallbackUsed : Bool := false
  promptAttribution : Option PromptAttribution := none

structure ToolProposalResult (Float : Type) extends ModelResult Float where
  name : String
  arguments : PyValue Float
  outcome : ProposalOutcome := .toolCall
  declineReason : Option String := none
  reasoningPresent : Option Bool := none
  reasoningChars : Option Int := none
  outputBasis : Option String := none

structure LLMResult (Float : Type) extends ModelResult Float where
  text : String
  ttftMs : Option Int := none
  firstVisibleAnswerMs : Option Int := none
  reasoningTokensUnavailableReason : Option String := none
  visibleAnswerTokens : Option Int := none
  visibleAnswerTokensUnavailableReason : Option String := none

structure LLMProviderError where
  retryable : Bool
  code : String := "llm_provider_error"
  modelId : Option String := none
  inputTokens : Option Int := none
  outputTokens : Option Int := none
  latencyMs : Option Int := none
  finishReason : Option String := none
  promptAttribution : Option PromptAttribution := none
  providerStatus : Option Int := none
  providerCallId : Option String := none
  attempts : Option Int := none

inductive LLMError where
  | configuration (message : String)
  | provider (error : LLMProviderError)

def expectedToolName : String := "query_taxi_data"

def averageMetricsToolName : String := "average_trip_metrics"

structure MCPToolError where
  retryable : Bool
  message : String := "MCP tool execution failed"
  reason : String := "unspecified"

inductive ClientsError where
  | configuration (message : String)
  | mcp (error : MCPToolError)

structure Clients (Float : Type) where
  serves : Bool
  liteLLM : Bool
  modelId : String
  pricing : Option (PricingTable Float) := none
  streams : Bool

def Clients.selfHosted (clients : Clients Float) : Bool := clients.serves && !clients.liteLLM

structure ArgumentSummary (Float : Type) where
  argumentKeys : List String
  argumentsSha256 : String
  arguments : Option String := none

structure GroundingReport (Float : Type) where
  caveat : Option String
  ok : Bool
  metadata : Dict Float

structure PyFault where
  exception : String
  message : String
deriving DecidableEq, Repr

inductive CrewRole where
  | researcher
  | writer
deriving DecidableEq, Repr

/-- `role.lower()` -/
def CrewRole.lower : CrewRole → String
  | .researcher => "researcher"
  | .writer => "writer"

def CrewRole.text : CrewRole → String
  | .researcher => "Researcher"
  | .writer => "Writer"

structure CrewCall where
  role : CrewRole
  wrapped : Option PyFault := none

structure Kickoff where
  calls : List CrewCall
  output : Except PyFault String

end Results

section Errors

structure OrchestrationError (Float : Type) where
  code : String
  retryable : Bool
  llmCallId : Option String
  message : String
  details : Option (Dict Float) := none
  toolError : Option (Dict Float) := none

/-- `str(err)` -/
def OrchestrationError.text (error : OrchestrationError Float) : String :=
  if error.message = "" then error.code else error.message

inductive LoopError (Float : Type) where
  | runCancelled (partialText : String)
  | budgetExceeded (error : BudgetExceededError Float)
  | orchestration (error : OrchestrationError Float)
  | llmConfiguration (message : String)
  | fault (error : PyFault)

def cancelReason : String := "cancelled_by_user"

def toolErrorFacts (error : MCPToolError) (toolName : Option String) : Dict Float :=
  ("reason", .str error.reason) ::
    match toolName with
    | none => []
    | some name => if name = "" then [] else [("tool_name", .str name)]

def providerErrorDetails (error : LLMProviderError) : Option (Dict Float) :=
  error.providerStatus.map fun status =>
    [("category", .str error.code), ("provider_status", .int status),
      ("provider_call_id", orNone .str error.providerCallId),
      ("attempts", orNone .int error.attempts)]

end Errors

section Records

inductive CostSource where
  | providerBilled
  | policyEstimate
  | fallback
  | incomplete
  | unpriced
  | selfHosted
deriving DecidableEq, Repr

def CostSource.text : CostSource → String
  | .providerBilled => "provider_billed"
  | .policyEstimate => "policy_estimate"
  | .fallback => "fallback_estimate"
  | .incomplete => "estimate_incomplete_usage"
  | .unpriced => "unpriced_model"
  | .selfHosted => "self_hosted"

inductive BudgetBasis where
  | reported
  | conservative
  | unresolvable
  | selfHosted
deriving DecidableEq, Repr

def BudgetBasis.text : BudgetBasis → String
  | .reported => "reported"
  | .conservative => "conservative_bound"
  | .unresolvable => "unresolvable"
  | .selfHosted => "self_hosted"

structure CallCost (Float : Type) where
  costUsd : Float
  source : CostSource
  budgetCostUsd : Option Float
  budgetBasis : BudgetBasis

def CallCost.indeterminate (cost : CallCost Float) : Bool :=
  cost.budgetBasis = .conservative || cost.budgetBasis = .unresolvable

inductive ToolSource where
  | model
  | catalogue
deriving DecidableEq, Repr

def ToolSource.text : ToolSource → String
  | .model => "model"
  | .catalogue => "catalogue"

def outcomeText : ProposalOutcome → String
  | .toolCall => "tool_call"
  | .unsupported => "unsupported"
  | .clarificationRequired => "clarification_required"
  | .noTool => "no_tool"
  | .noVisibleOutput => "no_visible_output"

/-- The counts are `none` only for a failed attempt whose usage was never reported. -/
structure LLMCall (Float : Type) where
  llmCallId : String
  modelId : String
  inputTokens : Option Int
  outputTokens : Option Int
  latencyMs : Int
  finishReason : Option String := none
  configuredMaxTokens : Option Int := none
  ttftMs : Option Int := none
  firstVisibleAnswerMs : Option Int := none
  reasoningTokens : Option Int := none
  reasoningTokensUnavailableReason : Option String := none
  visibleAnswerTokens : Option Int := none
  visibleAnswerTokensUnavailableReason : Option String := none
  costUsd : Option Float
  costSource : CostSource
  budgetCostUsd : Option Float
  budgetCostBasis : BudgetBasis
  costIndeterminate : Bool
  errorCode : Option String := none
  toolSource : ToolSource := .model
  modelAlias : Option String := none
  role : Option String := none
  pricingVersion : Option String := none
  resultCostUsd : Option Float := none
  costKind : Option String := none
  usageKnown : Bool := true
  fallbackUsed : Bool := false
  promptAttribution : Option PromptAttribution := none
  providerStatus : Option Int := none
  reasoningPresent : Option Bool := none
  reasoningChars : Option Int := none
  outputBasis : Option String := none
  plannerOutcome : Option ProposalOutcome := none

def LLMCall.toMetadata (call : LLMCall Float) : Dict Float :=
  [("llm_call_id", .str call.llmCallId), ("model_id", .str call.modelId),
    ("input_tokens", orNone .int call.inputTokens),
    ("output_tokens", orNone .int call.outputTokens),
    ("latency_ms", .int call.latencyMs), ("finish_reason", orNone .str call.finishReason),
    ("configured_max_tokens", orNone .int call.configuredMaxTokens),
    ("ttft_ms", orNone .int call.ttftMs),
    ("first_visible_answer_ms", orNone .int call.firstVisibleAnswerMs),
    ("reasoning_tokens", orNone .int call.reasoningTokens),
    ("reasoning_tokens_unavailable_reason", orNone .str call.reasoningTokensUnavailableReason),
    ("visible_answer_tokens", orNone .int call.visibleAnswerTokens),
    ("visible_answer_tokens_unavailable_reason",
      orNone .str call.visibleAnswerTokensUnavailableReason),
    ("cost_usd", orNone .float call.costUsd), ("cost_source", .str call.costSource.text),
    ("budget_cost_usd", orNone .float call.budgetCostUsd),
    ("budget_cost_basis", .str call.budgetCostBasis.text),
    ("cost_indeterminate", .bool call.costIndeterminate),
    ("error_code", orNone .str call.errorCode), ("tool_source", .str call.toolSource.text),
    ("model_alias", orNone .str call.modelAlias), ("role", orNone .str call.role),
    ("pricing_version", orNone .str call.pricingVersion),
    ("result_cost_usd", orNone .float call.resultCostUsd), ("cost_kind", orNone .str call.costKind),
    ("usage_known", .bool call.usageKnown), ("fallback_used", .bool call.fallbackUsed),
    ("prompt_template_id", orNone .str (call.promptAttribution.map (·.templateId))),
    ("prompt_template_version", orNone .str (call.promptAttribution.map (·.version))),
    ("prompt_sha256", orNone .str (call.promptAttribution.map (·.sha256)))] ++
  (match call.providerStatus with
    | none => []
    | some status => [("provider_status", .int status)]) ++
  (match call.outputBasis with
    | none => []
    | some basis =>
        [("reasoning_present", orNone .bool call.reasoningPresent),
          ("reasoning_chars", orNone .int call.reasoningChars), ("output_basis", .str basis),
          ("outcome", orNone (fun outcome => .str (outcomeText outcome)) call.plannerOutcome)])

inductive StepType where
  | llmProposal
  | answer
  | validationError
  | toolCall
  | observationScan
  | contextReduced
  | groundingCheck
  | crewai (role : CrewRole)
  | llmFinalAnswer
deriving DecidableEq, Repr

inductive StepStatus where
  | completed
  | failed
deriving DecidableEq, Repr

structure RunStep (Float : Type) where
  stepId : String
  runId : String
  sequence : Int
  stepType : StepType
  status : StepStatus := .completed
  toolName : Option String := none
  llmCallId : Option String := none
  toolCallId : Option String := none
  queryId : Option String := none
  inputSummary : Option String := none
  outputSummary : Option String := none
  durationMs : Option Int := none
  metadata : Dict Float := []

inductive RunEventType where
  | contextLoading
  | llmStarted
  | llmCompleted
  | runDeclined
  | toolRequested
  | toolStarted
  | toolFailed
  | toolCompleted
  | contextReduced
  | answerDelta
  | answerCompleted
  | answerAudio
  | runCompleted
  | runFailed
  | runBudgetExceeded
  | runCancelled
deriving DecidableEq, Repr

def RunEventType.endsWith : RunEventType → Option RunStatus
  | .runCompleted => some .completed
  | .runFailed => some .failed
  | .runBudgetExceeded => some .budgetExceeded
  | .runCancelled => some .cancelled
  | _ => none

structure RunEvent (Float : Type) where
  eventType : RunEventType
  runId : String
  conversationId : String
  sequence : Int
  payload : Dict Float := []
  llmCallId : Option String := none
  toolCallId : Option String := none
  queryId : Option String := none
  evalRunId : Option (PyValue Float) := none

def statusText : RunStatus → String
  | .inProgress => "in_progress"
  | .cancelRequested => "cancel_requested"
  | .completed => "completed"
  | .failed => "failed"
  | .budgetExceeded => "budget_exceeded"
  | .cancelled => "cancelled"

end Records

section State

inductive AgentStrategy where
  | manual
  | crewai
deriving DecidableEq, Repr

/-- The arguments of `_execute_loop` and what it uses of its object. `halfTimeout` is the share of
the timeout after which no retry starts, `millis` is `int(x * 1000)`. -/
structure LoopConfig (Float : Type) where
  num : NumOps Float
  fmt : PyFormat Float
  millis : Float → Int
  prompt : String
  conversationId : String
  userMessageId : String
  run : Run Float
  budgets : ExecutionBudgets Float
  halfTimeout : Float
  defaultPricing : PricingTable Float
  strategy : AgentStrategy := .manual
  voice : Option String := none

structure LoopState (Float : Type) where
  stored : Run Float
  messages : List (Message Float) := []
  nextSeq : Int
  steps : List (RunStep Float) := []
  stepSeq : Int := 1
  events : List (RunEvent Float) := []
  evtSequence : Int := 1
  startMono : Float
  tracker : BudgetTracker Float
  llmCalls : List (LLMCall Float) := []
  executedToolSignatures : List String := []
  lastToolCallId : Option String := none
  lastQueryId : Option String := none
  proposalLatencyMs : Option Int := none
  toolLatencyMs : Option Int := none
  finalAnswerLatencyMs : Option Int := none
  finalAnswerPhaseReached : Bool := false
  finalAnswerStreamStarted : Bool := false
  ttftMs : Option Int := none
  activeToolSource : ToolSource := .model
  activePlannerOutcome : ProposalOutcome := .toolCall
  activeSelectedTool : Option String := none
  activeRejectedOutcome : Option ProposalOutcome := none
  clients : Option (Clients Float) := none

namespace LoopState

variable (state : LoopState Float)

def publish (event : Int → RunEvent Float) : LoopState Float :=
  { state with
    events := state.events ++ [event state.evtSequence]
    evtSequence := state.evtSequence + 1 }

def storeStep (step : Int → RunStep Float) : LoopState Float :=
  { state with steps := state.steps ++ [step state.stepSeq] }

def advanceStep : LoopState Float := { state with stepSeq := state.stepSeq + 1 }

def storeMessage (message : Int → Message Float) : LoopState Float :=
  { state with messages := state.messages ++ [message state.nextSeq] }

end LoopState

structure LoopResult (Float : Type) where
  answer : String
  status : RunStatus
  toolCallId : Option String := none
  queryId : Option String := none
  inputTokens : Int
  outputTokens : Int
  totalTokens : Int
  estimatedCostUsd : Float
  latencyMs : Int
  failureCode : Option String := none
  steps : List (RunStep Float)
  llmCalls : List (LLMCall Float)
  telemetry : Dict Float

end State

section Calls

inductive CallPhase where
  | proposal
  | proposalRetry
  | crewai (role : CrewRole)
  | finalAnswer
deriving DecidableEq, Repr

def CallPhase.text : CallPhase → String
  | .proposal => "proposal"
  | .proposalRetry => "proposal_retry"
  | .crewai role => "crewai_" ++ role.lower
  | .finalAnswer => "final_answer"

inductive LoopCall (Float : Type) where
  | isCancelled
  | submitted (call : LoopCall Float)
  | newLlmCallId
  | newToolCallId
  | newStepId
  | newMessageId
  | utcnow
  | monotonic
  | elapsed
  | getClients
  | getDatasetSchema
  | sanitizeDatasetSchema (payload : PyValue Float)
  | catalogueLookup (prompt : String)
  | proposeTaxiQuery (phase : CallPhase) (llmCallId prompt : String) (schema : PyValue Float)
  | estimate (phase : CallPhase) (table : PricingTable Float) (key : String)
      (inputTokens outputTokens : Int)
  | validateProposal (name : String) (arguments schema : PyValue Float) (executed : Nat)
  | parseQueryProposal (proposal : ToolProposalResult Float)
  | summarizeArguments (arguments : PyValue Float)
  | governedTool (name : String) (arguments : Dict Float)
  | sanitizeQueryResult (payload : PyValue Float)
  | scanObservation (result : PyValue Float)
  | reduce (messages : List (Message Float)) (schema result : PyValue Float)
      (tracker : BudgetTracker Float)
  | checkAnswerGrounding (text : String) (evidence : PyValue Float) (question : String)
  | kickoff (question : String) (result : PyValue Float)
  | invokeModel (llmCallId : String) (role : CrewRole) (agentStep : Nat)
  | streamAnswer (llmCallId prompt : String) (result : PyValue Float)
  | answerWithQueryResult (llmCallId prompt : String) (result : PyValue Float)
  | synthesizeSpeech (text : String)

/-- What a call may come back with. A submitted call is polled as often as the reply says before it
is done. The tracker's clock is read for the check of the deadline and for the report about it. A
streamed answer is the deltas handed to the callback and then the outcome. -/
def LoopReply : LoopCall Float → Type
  | .isCancelled => Bool
  | .submitted _ => Nat
  | .newLlmCallId | .newToolCallId | .newStepId | .newMessageId | .utcnow => String
  | .monotonic => Float
  | .elapsed => Float × Float
  | .getClients => Except ClientsError (Clients Float)
  | .getDatasetSchema | .sanitizeDatasetSchema _ => Except MCPToolError (PyValue Float)
  | .catalogueLookup _ => Option (String × Dict Float)
  | .proposeTaxiQuery _ _ _ _ => Except LLMError (ToolProposalResult Float)
  | .estimate _ _ _ _ _ => Except PyFault (Option Float)
  | .validateProposal _ _ _ _ => Except PyFault ProposalValidation
  | .parseQueryProposal _ => Option (String × Dict Float)
  | .summarizeArguments _ => ArgumentSummary Float
  | .governedTool _ _ | .sanitizeQueryResult _ => Except MCPToolError (PyValue Float)
  | .scanObservation _ => List (PyValue Float)
  | .reduce _ _ _ _ => PyValue Float
  | .checkAnswerGrounding _ _ _ => Except PyFault (GroundingReport Float)
  | .kickoff _ _ => Kickoff
  | .invokeModel _ _ _ => Except LLMError (LLMResult Float)
  | .streamAnswer _ _ _ => List String × Except LLMError (LLMResult Float)
  | .answerWithQueryResult _ _ _ => Except LLMError (LLMResult Float)
  | .synthesizeSpeech _ => Option String

abbrev LoopM (Float α : Type) :=
  Prog (LoopCall Float) LoopReply (LoopState Float) (LoopError Float) α

abbrev History (Float : Type) := List (Exchange (@LoopReply Float))

def request (call : LoopCall Float) : LoopM Float (LoopReply call) := Prog.ask call

end Calls

end AiAnalytics.App.Loop
