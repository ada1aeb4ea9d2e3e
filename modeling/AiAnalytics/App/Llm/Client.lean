import AiAnalytics.App.Llm.Thinking
import AiAnalytics.Lib.PyOps

/-!
# The model client

What `ServeLLMClient` makes of the gateway's answers: the plain completion, the tool proposal and
the stream. Decoded responses are walked as they come, so every step of the parsers may raise. Clock
readings (latency, time to first token) are left out.

`PyRuntime` is what the client uses of Python's runtime: floats, `json.loads`, `str.lower` and
`float(text)`.
-/

namespace AiAnalytics.App

open Lib

variable {Float : Type}

section Errors

structure LLMProviderError (Float : Type) where
  retryable : Bool
  code : String
  modelId : PyValue Float := .none
  inputTokens : PyValue Float := .none
  outputTokens : PyValue Float := .none
  finishReason : PyValue Float := .none
  providerStatus : Option Nat := none
  providerCallId : Option String := none
  attempts : Option Nat := none

inductive LLMError (Float : Type) where
  | provider (error : LLMProviderError Float)
  | configuration (message : String)

abbrev Raising (Float α : Type) := Except (PyError (LLMError Float)) α

def raiseProvider {α : Type} (error : LLMProviderError Float) : Raising Float α :=
  .error (.raised (.provider error))

/-- How `json.loads` can fail. Only the first is a `JSONDecodeError`; the others are undecodable
bytes, a number with too many digits, and nesting beyond the recursion limit. -/
inductive DecodeError where
  | jsonDecodeError
  | unicodeDecodeError
  | valueError
  | recursionError
deriving DecidableEq, Repr

def DecodeError.toPyError : DecodeError → PyError (LLMError Float)
  | .jsonDecodeError => .valueError
  | .unicodeDecodeError => .unicodeDecodeError
  | .valueError => .valueError
  | .recursionError => .recursionError

structure PyRuntime (Float : Type) where
  num : NumOps Float
  loads : ByteArray → Except DecodeError (PyValue Float)
  loadsText : String → Except DecodeError (PyValue Float)
  lower : String → String
  parseFloat : String → Option Float

def orRaise {α : Type} : Except DecodeError α → Raising Float α
  | .ok a => .ok a
  | .error error => .error error.toPyError

end Errors

section Requests

structure Payload where
  model : String
  maxTokens : Option Int
  hasTools : Bool
deriving DecidableEq

inductive HttpFailure where
  | unavailable
  | requestError
deriving DecidableEq, Repr

/-- A response with status 200. The lines are what `iter_lines` yields of the body, up to the
failure that breaks it off, if there is one. -/
structure OkResponse where
  contentType : String
  costHeader : Option String
  body : ByteArray
  lines : List String
  failure : Option HttpFailure := none

inductive HttpOutcome where
  | budgetExhausted
  | budgetUnavailable
  | failed (failure : HttpFailure)
  | status (code : Nat) (text : String) (callId : Option String)
  | ok (response : OkResponse)

structure CostFields (Float : Type) where
  role : Option String := none
  modelAlias : Option String := none
  pricingVersion : Option String := none
  costUsd : Option Float := none
  costKind : Option String := none

structure Client (Float : Type) where
  modelId : String
  errorStart : String
  costFields : Option String → Payload → PyValue Float → PyValue Float → Bool →
    Raising Float (CostFields Float)

def serveClient (modelId : String) : Client Float :=
  { modelId
    errorStart := "vllm_gateway"
    costFields := fun _ _ _ _ _ => .ok {} }

def HttpFailure.error (errorStart : String) : HttpFailure → LLMProviderError Float
  | .unavailable => { retryable := true, code := errorStart ++ "_unavailable" }
  | .requestError => { retryable := false, code := errorStart ++ "_request_error" }

def statusError (errorStart : String) (code : Nat) : LLMProviderError Float :=
  { retryable := code = 503 ∨ code = 504 ∨ code = 529
    code := errorStart ++ "_http_" ++ toString code }

def malformedToolUseMarker : List Char :=
  "Model produced invalid sequence as part of ToolUse".toList

def proposalStatusError (client : Client Float) (payload : Payload) (code : Nat) (text : String)
    (callId : Option String) : LLMProviderError Float :=
  if payload.hasTools ∧ 400 ≤ code ∧ code < 500 ∧
      contains malformedToolUseMarker (text.toList.take 2048) then
    { retryable := false
      code := "malformed_tool_use"
      modelId := .str (if payload.model = "" then client.modelId else payload.model)
      providerStatus := some code, providerCallId := callId, attempts := some 1 }
  else statusError client.errorStart code

def budgetExhaustedError : LLMProviderError Float :=
  { retryable := false, code := "bedrock_budget_exhausted" }

def budgetUnavailableError : LLMProviderError Float :=
  { retryable := true, code := "bedrock_budget_unavailable" }

end Requests

section Parsing

variable (rt : PyRuntime Float)

def usageKnown (usage : PyValue Float) : Raising Float Bool := do
  let promptTokens ← usage.get "prompt_tokens" .none
  if promptTokens matches .none then pure false
  else
    let completionTokens ← usage.get "completion_tokens" .none
    pure !(completionTokens matches .none)

def extractReasoningTokens (usage : PyValue Float) : Raising Float (Option Int) := do
  let details ← usage.get "completion_tokens_details" .none
  match details with
  | .dict _ =>
      let value ← details.get "reasoning_tokens" .none
      match value with
      | .int n => pure (some n)
      | _ => pure none
  | _ => pure none

def splitUnavailable : String := "provider_did_not_report_token_split"

/-- `data.get("choices", [{}])[0]` -/
def takeChoice (data : PyValue Float) : Raising Float (PyValue Float) := do
  let choices ← data.get "choices" (.list [.dict []])
  choices.first

/-- `message.get("content") or choice.get("text", "")` -/
def contentOrText (message choice : PyValue Float) : Raising Float (PyValue Float) := do
  let content ← message.get "content" .none
  if content.truthy rt.num then pure content else choice.get "text" (.str "")

def visibleTokens (outputTokens : PyValue Float) : Option Int →
    Raising Float (Option (PyValue Float))
  | none => pure none
  | some reasoningTokens => do
      let difference ← outputTokens.sub rt.num (.int reasoningTokens)
      pure (some (difference.maxZero rt.num))

structure LLMResult (Float : Type) where
  text : PyValue Float
  modelId : PyValue Float
  inputTokens : PyValue Float
  outputTokens : PyValue Float
  finishReason : PyValue Float
  configuredMaxTokens : Option Int
  ttftUnavailableReason : Option String := none
  reasoningTokens : Option Int
  reasoningTokensUnavailableReason : Option String
  visibleAnswerTokens : Option (PyValue Float)
  visibleAnswerTokensUnavailableReason : Option String
  usageKnown : Bool
  cost : CostFields Float
  fallbackUsed : Bool := false

def visibleText : PyValue Float → Raising Float (PyValue Float)
  | .str s => .ok (.str (String.ofList (splitThinking s.toList).2))
  | _ => .error .attributeError

def answerText (message rawText : PyValue Float) : Raising Float (PyValue Float) := do
  let separateReasoning ← message.get "reasoning_content" .none
  if separateReasoning.isNonemptyStr then pure rawText else visibleText rawText

def parseCompletion (client : Client Float) (payload : Payload) (response : OkResponse) :
    Raising Float (LLMResult Float) := do
  let data ← orRaise (rt.loads response.body)
  let choice ← takeChoice data
  let message ← choice.get "message" (.dict [])
  let rawText ← contentOrText rt message choice
  let finishReason ← choice.get "finish_reason" .none
  let usage ← data.get "usage" (.dict [])
  let inputTokens ← usage.get "prompt_tokens" (.int 0)
  let outputTokens ← usage.get "completion_tokens" (.int 0)
  let known ← usageKnown usage
  let text ← answerText message rawText
  let reasoningTokens ← extractReasoningTokens usage
  let visible ← visibleTokens rt outputTokens reasoningTokens
  let modelId ← data.get "model" (.str client.modelId)
  let cost ← client.costFields response.costHeader payload inputTokens outputTokens known
  pure
    { text, modelId, inputTokens, outputTokens, finishReason
      configuredMaxTokens := payload.maxTokens
      reasoningTokens
      reasoningTokensUnavailableReason := if reasoningTokens.isSome then none else splitUnavailable
      visibleAnswerTokens := visible
      visibleAnswerTokensUnavailableReason :=
        if reasoningTokens.isSome then none else splitUnavailable
      usageKnown := known
      cost }

def postCompletion (client : Client Float) (payload : Payload) :
    HttpOutcome → Raising Float (LLMResult Float)
  | .budgetExhausted => raiseProvider budgetExhaustedError
  | .budgetUnavailable => raiseProvider budgetUnavailableError
  | .failed failure => raiseProvider (failure.error client.errorStart)
  | .status code _ _ => raiseProvider (statusError client.errorStart code)
  | .ok response => parseCompletion rt client payload response

end Parsing

section Proposals

variable (rt : PyRuntime Float)

inductive ProposalOutcome where
  | toolCall
  | unsupported
  | clarificationRequired
  | noTool
  | noVisibleOutput
deriving DecidableEq, Repr

def clarificationPhrases : List String :=
  ["please clarify", "could you clarify", "which borough did you mean", "did you mean",
    "please specify", "clarification required", "need more details"]

def unsupportedPhrases : List String :=
  ["cannot", "can't", "not available", "does not contain", "no data", "outside", "unable",
    "not possible", "unsupported", "read-only", "no driver", "no weather", "predict", "forecast"]

def classifyNonToolOutcome (text : String) : ProposalOutcome :=
  let combined := (rt.lower text).toList
  if clarificationPhrases.any fun phrase => contains phrase.toList combined then
    .clarificationRequired
  else if unsupportedPhrases.any fun phrase => contains phrase.toList combined then .unsupported
  else .noTool

structure ReasoningFacts (Float : Type) where
  present : Bool
  tokens : Option (PyValue Float)
  chars : Nat

def factsOf (reasoning blocks reported : PyValue Float) : ReasoningFacts Float :=
  let chars := match reasoning with
    | .str s => s.length
    | _ => 0
  let hasBlocks := match blocks with
    | .list items => !items.isEmpty
    | _ => false
  let tokens := match reported with
    | .int _ => some reported
    | .bool _ => some reported
    | _ => none
  let positive := match reported with
    | .int n => 0 < n
    | .bool b => b
    | _ => false
  { present := 0 < chars || hasBlocks || positive, tokens, chars }

def reasoningFacts (message usage : PyValue Float) : Raising Float (ReasoningFacts Float) := do
  let reasoning ← message.get "reasoning_content" .none
  let blocks ← message.get "thinking_blocks" .none
  let details ← usage.get "completion_tokens_details" .none
  pure (factsOf reasoning blocks (details.entry "reasoning_tokens" .none))

structure ToolProposalResult (Float : Type) where
  name : String
  arguments : PyValue Float
  outcome : ProposalOutcome
  declineReason : Option String := none
  reasoningTokens : Option (PyValue Float) := none
  reasoningPresent : Option Bool := none
  reasoningChars : Option Nat := none
  outputBasis : Option String := none
  modelId : PyValue Float
  inputTokens : PyValue Float
  outputTokens : PyValue Float
  finishReason : PyValue Float
  configuredMaxTokens : Option Int
  usageKnown : Bool
  cost : CostFields Float
  fallbackUsed : Bool := false

/-- `(content or "").strip()` -/
def strippedContent (content : PyValue Float) : Raising Float String :=
  match content.orElse rt.num (.str "") with
  | .str s => .ok (String.ofList (strip s.toList))
  | _ => .error .attributeError

def parseNonTool (client : Client Float) (payload : Payload) (response : OkResponse)
    (message usage modelId inputTokens outputTokens finishReason : PyValue Float) (known : Bool) :
    Raising Float (ToolProposalResult Float) := do
  let content ← message.get "content" (.str "")
  let contentText ← strippedContent rt content
  let outcome := classifyNonToolOutcome rt contentText
  let reasoning ← reasoningFacts message usage
  if outcome = .noTool ∧ contentText = "" ∧ reasoning.present then
    let cost ← client.costFields response.costHeader payload inputTokens outputTokens known
    pure
      { name := "", arguments := .none, outcome := .noVisibleOutput
        reasoningTokens := reasoning.tokens
        reasoningPresent := some true
        reasoningChars := some reasoning.chars
        outputBasis :=
          some (if finishReason.eqStr "length" then "reasoning_length" else "reasoning_only")
        modelId, inputTokens, outputTokens, finishReason
        configuredMaxTokens := payload.maxTokens
        usageKnown := known
        cost }
  else if outcome = .noTool then
    raiseProvider { retryable := false, code := "no_tool_call", modelId, inputTokens, outputTokens,
                    finishReason }
  else
    let cost ← client.costFields response.costHeader payload inputTokens outputTokens known
    pure
      { name := "", arguments := .none, outcome
        declineReason := some contentText
        outputBasis := some "content"
        modelId, inputTokens, outputTokens, finishReason
        configuredMaxTokens := payload.maxTokens
        usageKnown := known
        cost }

def toolArguments (invalid : LLMProviderError Float) (rawArgs : PyValue Float) :
    Raising Float (PyValue Float) :=
  match rawArgs with
  | .str s => match rt.loadsText s with
      | .ok arguments => .ok arguments
      | .error .jsonDecodeError => raiseProvider invalid
      | .error error => .error error.toPyError
  | _ => .ok rawArgs

def parseCall (client : Client Float) (payload : Payload) (response : OkResponse)
    (call modelId inputTokens outputTokens finishReason : PyValue Float) (known : Bool) :
    Raising Float (ToolProposalResult Float) := do
  let invalid : LLMProviderError Float :=
    { retryable := false, code := "invalid_tool_call", modelId, inputTokens, outputTokens,
      finishReason }
  let func ← call.get "function" (.dict [])
  let name ← func.get "name" (.str "")
  let rawArgs ← func.get "arguments" (.dict [])
  let arguments ← toolArguments rt invalid rawArgs
  match name with
  | .str toolName =>
      if toolName = "" then raiseProvider invalid
      else
        let cost ← client.costFields response.costHeader payload inputTokens outputTokens known
        pure
          { name := toolName, arguments, outcome := .toolCall
            modelId, inputTokens, outputTokens, finishReason
            configuredMaxTokens := payload.maxTokens
            usageKnown := known
            cost }
  | _ => raiseProvider invalid

def parseProposal (client : Client Float) (payload : Payload) (response : OkResponse) :
    Raising Float (ToolProposalResult Float) := do
  let data ← orRaise (rt.loads response.body)
  let choice ← takeChoice data
  let message ← choice.get "message" (.dict [])
  let finishReason ← choice.get "finish_reason" .none
  let usage ← data.get "usage" (.dict [])
  let inputTokens ← usage.get "prompt_tokens" (.int 0)
  let outputTokens ← usage.get "completion_tokens" (.int 0)
  let known ← usageKnown usage
  let modelId ← data.get "model" (.str client.modelId)
  let toolCalls ← message.get "tool_calls" (.list [])
  match toolCalls with
  | .list [call] =>
      parseCall rt client payload response call modelId inputTokens outputTokens finishReason known
  | .list (_ :: _ :: _) =>
      raiseProvider { retryable := false, code := "multiple_tool_calls", modelId, inputTokens,
                      outputTokens, finishReason }
  | _ =>
      parseNonTool rt client payload response message usage modelId inputTokens outputTokens
        finishReason known

def postToolProposal (client : Client Float) (payload : Payload) :
    HttpOutcome → Raising Float (ToolProposalResult Float)
  | .budgetExhausted => raiseProvider budgetExhaustedError
  | .budgetUnavailable => raiseProvider budgetUnavailableError
  | .failed failure => raiseProvider (failure.error client.errorStart)
  | .status code text callId => raiseProvider (proposalStatusError client payload code text callId)
  | .ok response => parseProposal rt client payload response

end Proposals

section Streams

variable (rt : PyRuntime Float)

structure StreamState (Float : Type) where
  accumulated : List (PyValue Float) := []
  modelId : PyValue Float
  inputTokens : PyValue Float := .int 0
  outputTokens : PyValue Float := .int 0
  usageSeen : Bool := false
  finishReason : PyValue Float := .none
  reasoningTokens : Option Int := none
  splitter : ThinkingSplitter := {}
  ttftUnavailableReason : Option String := none

def StreamState.emitVisible (state : StreamState Float) (text : PyValue Float) :
    StreamState Float :=
  if text.truthy rt.num then { state with accumulated := state.accumulated ++ [text] } else state

/-- `emit_visible(splitter.feed(content))` -/
def StreamState.feed (state : StreamState Float) (content : PyValue Float) :
    Raising Float (StreamState Float) :=
  match content with
  | .str s =>
      let (visible, splitter) := state.splitter.feed s.toList
      .ok ({ state with splitter }.emitVisible rt (.str (String.ofList visible)))
  | _ => .error .typeError

/-- `emit_visible(splitter.flush())` -/
def StreamState.flush (state : StreamState Float) : StreamState Float :=
  let (visible, splitter) := state.splitter.flush
  { state with splitter }.emitVisible rt (.str (String.ofList visible))

def StreamState.addReasoning (state : StreamState Float) : PyValue Float → StreamState Float
  | .str s => { state with
      splitter := { state.splitter with
        reasoningText := state.splitter.reasoningText ++ s.toList } }
  | _ => state

/-- `usage_seen or _usage_known(usage)` -/
def seenOrKnown (seen : Bool) (usage : PyValue Float) : Raising Float Bool :=
  if seen then pure true else usageKnown usage

def StreamState.addUsage (state : StreamState Float) (usage : PyValue Float) :
    Raising Float (StreamState Float) := do
  let known ← seenOrKnown state.usageSeen usage
  let inputTokens ← usage.get "prompt_tokens" state.inputTokens
  let outputTokens ← usage.get "completion_tokens" state.outputTokens
  let reasoningTokens ← extractReasoningTokens usage
  pure { state with
    usageSeen := known, inputTokens, outputTokens
    reasoningTokens := reasoningTokens <|> state.reasoningTokens }

def StreamState.addChoice (state : StreamState Float) (choices : PyValue Float) :
    Raising Float (StreamState Float) := do
  let choice ← choices.first
  let delta ← choice.get "delta" (.dict [])
  let choiceFinish ← choice.get "finish_reason" .none
  let reasoningDelta ← delta.get "reasoning_content" .none
  let content ← delta.get "content" (.str "")
  let noted := { (state.addReasoning reasoningDelta) with
    finishReason := choiceFinish.orElse rt.num state.finishReason }
  if content.truthy rt.num then noted.feed rt content else pure noted

def StreamState.addChoices (state : StreamState Float) (choices : PyValue Float) :
    Raising Float (StreamState Float) :=
  if choices.truthy rt.num then state.addChoice rt choices else pure state

def StreamState.addChunk (state : StreamState Float) (chunk : PyValue Float) :
    Raising Float (StreamState Float) := do
  let modelId ← chunk.get "model" state.modelId
  let choices ← chunk.get "choices" (.list [])
  let chosen ← { state with modelId }.addChoices rt choices
  let usage := chunk.entry "usage" .none
  if usage.truthy rt.num then chosen.addUsage usage else pure chosen

inductive SseLine where
  | skipped
  | done
  | data (text : String)
deriving DecidableEq, Repr

def sseLine (line : String) : SseLine :=
  if "data: ".toList.isPrefixOf line.toList then
    let text := strip (line.toList.drop 6)
    if text = "[DONE]".toList then .done else .data (String.ofList text)
  else .skipped

def streamLines : List String → StreamState Float → Raising Float (StreamState Float × Bool)
  | [], state => pure (state, false)
  | line :: lines, state =>
      match sseLine line with
      | .skipped => streamLines lines state
      | .done => pure (state, true)
      | .data text => match rt.loadsText text with
          | .error .jsonDecodeError => streamLines lines state
          | .error error => .error error.toPyError
          | .ok chunk => do
              let next ← state.addChunk rt chunk
              streamLines lines next

def StreamState.emitWhole (state : StreamState Float) (separateReasoning rawText : PyValue Float) :
    Raising Float (StreamState Float) :=
  if separateReasoning.isNonemptyStr then pure (state.emitVisible rt rawText)
  else if rawText.truthy rt.num then state.feed rt rawText
  else pure state

def streamDocument (response : OkResponse) (state : StreamState Float) :
    Raising Float (StreamState Float) :=
  match rt.loads response.body with
  | .error .jsonDecodeError => pure state
  | .error error => .error error.toPyError
  | .ok data => do
      let choice ← takeChoice data
      let message ← choice.get "message" (.dict [])
      let finishReason ← choice.get "finish_reason" .none
      let rawText ← contentOrText rt message choice
      let separateReasoning ← message.get "reasoning_content" .none
      let usage ← data.get "usage" (.dict [])
      let known ← seenOrKnown state.usageSeen usage
      let inputTokens ← usage.get "prompt_tokens" state.inputTokens
      let outputTokens ← usage.get "completion_tokens" state.outputTokens
      let reasoningTokens ← extractReasoningTokens usage
      let read : StreamState Float := { state with
        finishReason, inputTokens, outputTokens, reasoningTokens
        usageSeen := known
        ttftUnavailableReason := some "non_streaming_json_response" }
      let shown ← read.emitWhole rt separateReasoning rawText
      pure (shown.flush rt)

/-- `"".join(accumulated)` -/
def joinTexts : List (PyValue Float) → Raising Float (List Char)
  | [] => pure []
  | .str s :: texts => do
      let rest ← joinTexts texts
      pure (s.toList ++ rest)
  | _ :: _ => .error .typeError

def finishStream (client : Client Float) (payload : Payload) (response : OkResponse)
    (state : StreamState Float) : Raising Float (LLMResult Float) := do
  let fullText ← joinTexts state.accumulated
  let outputTokens := if state.outputTokens.eqZero rt.num then
      .int (max 1 (wordCount fullText))
    else state.outputTokens
  let visible ← visibleTokens rt outputTokens state.reasoningTokens
  let cost ← client.costFields response.costHeader payload state.inputTokens outputTokens
    state.usageSeen
  pure
    { text := .str (String.ofList fullText)
      modelId := state.modelId
      inputTokens := state.inputTokens
      outputTokens
      finishReason := state.finishReason
      configuredMaxTokens := payload.maxTokens
      ttftUnavailableReason := state.ttftUnavailableReason
      reasoningTokens := state.reasoningTokens
      reasoningTokensUnavailableReason :=
        if state.reasoningTokens.isSome then none else splitUnavailable
      visibleAnswerTokens := visible
      visibleAnswerTokensUnavailableReason :=
        if state.reasoningTokens.isSome then none else splitUnavailable
      usageKnown := state.usageSeen
      cost }

def readStream (client : Client Float) (response : OkResponse) :
    Raising Float (StreamState Float) :=
  let start : StreamState Float := { modelId := .str client.modelId }
  if contains "application/json".toList response.contentType.toList then
    match response.failure with
    | some failure => raiseProvider (failure.error client.errorStart)
    | none => streamDocument rt response start
  else do
    let (state, done) ← streamLines rt response.lines start
    match response.failure, done with
    | some failure, false => raiseProvider (failure.error client.errorStart)
    | _, _ => pure (state.flush rt)

def streamCompletion (client : Client Float) (payload : Payload) :
    HttpOutcome → Raising Float (LLMResult Float)
  | .budgetExhausted => raiseProvider budgetExhaustedError
  | .budgetUnavailable => raiseProvider budgetUnavailableError
  | .failed failure => raiseProvider (failure.error client.errorStart)
  | .status code _ _ => raiseProvider (statusError client.errorStart code)
  | .ok response => do
      let state ← readStream rt client response
      finishStream rt client payload response state

end Streams

end AiAnalytics.App
