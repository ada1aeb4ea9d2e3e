import AiAnalytics.App.Llm.Client

/-!
# Which responses the parsers survive

Each parser walks the decoded response without checking it. Walking backwards from the steps that
can raise gives the shape a response must have for the parser to return or to raise an exception
that the run loop records.
-/

namespace AiAnalytics.App

open Lib

variable {Float : Type}

section Fields

variable (num : NumOps Float)

def headOf : PyValue Float → PyValue Float
  | .list (item :: _) => item
  | _ => .none

def firstChoice (data : PyValue Float) : PyValue Float :=
  headOf (data.entry "choices" (.list [.dict []]))

def choiceMessage (data : PyValue Float) : PyValue Float :=
  (firstChoice data).entry "message" (.dict [])

def usageOf (data : PyValue Float) : PyValue Float := data.entry "usage" (.dict [])

def rawText (data : PyValue Float) : PyValue Float :=
  ((choiceMessage data).entry "content" .none).orElse num
    ((firstChoice data).entry "text" (.str ""))

def hasSeparateReasoning (data : PyValue Float) : Bool :=
  ((choiceMessage data).entry "reasoning_content" .none).isNonemptyStr

def isKnown (usage : PyValue Float) : Bool :=
  !(usage.entry "prompt_tokens" .none matches .none) &&
    !(usage.entry "completion_tokens" .none matches .none)

def reasoningCount (usage : PyValue Float) : Option Int :=
  match (usage.entry "completion_tokens_details" .none).entry "reasoning_tokens" .none with
  | .int n => some n
  | _ => none

structure ObjectShape (data : PyValue Float) : Prop where
  response : data.IsDict
  choice : (firstChoice data).IsDict
  message : (choiceMessage data).IsDict
  usage : (usageOf data).IsDict

def SplitFits (reasoning : Option Int) (total : PyValue Float) : Prop :=
  ∀ n, reasoning = some n → PyValue.Compatible num total (.int n)

end Fields

section Walking

variable {Exn β : Type} {v usage : PyValue Float} {rt : PyRuntime Float}

theorem raisesOnly_first_bind {f : PyValue Float → Except (PyError Exn) β}
    (hneeds : ∀ a, RaisesOnly PyError.Own (f a) → a.IsDict) :
    RaisesOnly PyError.Own (v.first >>= f) ↔
      (headOf v).IsDict ∧ RaisesOnly PyError.Own (f (headOf v)) := by
  have hstr : ∀ s, ¬ RaisesOnly PyError.Own (f (.str s)) := fun s h => hneeds _ h
  cases v with
  | list items =>
      cases items with
      | nil => exact ⟨fun h => h.elim, fun h => h.1.elim⟩
      | cons item items => exact ⟨fun h => ⟨hneeds item h, h⟩, fun h => h.2⟩
  | str s =>
      refine ⟨fun h => ?_, fun h => h.1.elim⟩
      simp only [PyValue.first] at h
      split at h
      · exact h.elim
      · exact absurd h (hstr _)
  | _ => exact ⟨fun h => h.elim, fun h => h.1.elim⟩

theorem usageKnown_eq_ok (hdict : usage.IsDict) : usageKnown usage = .ok (isKnown usage) := by
  rw [usageKnown, get_eq_ok_of_isDict hdict, isKnown]
  simp only [get_eq_ok_of_isDict hdict]
  cases usage.entry "prompt_tokens" .none <;> rfl

theorem extractReasoningTokens_eq_ok (hdict : usage.IsDict) :
    extractReasoningTokens usage = .ok (reasoningCount usage) := by
  rw [extractReasoningTokens, get_eq_ok_of_isDict hdict, reasoningCount]
  simp only [bind, Except.bind]
  cases hdetails : usage.entry "completion_tokens_details" .none with
  | dict entries =>
      simp only [get_eq_ok_of_isDict (v := .dict entries) trivial]
      cases (PyValue.dict entries).entry "reasoning_tokens" .none <;> rfl
  | _ => rfl

theorem contentOrText_eq_ok {message choice : PyValue Float} (hmessage : message.IsDict)
    (hchoice : choice.IsDict) :
    contentOrText rt message choice =
      .ok ((message.entry "content" .none).orElse rt.num (choice.entry "text" (.str ""))) := by
  rw [contentOrText, get_eq_ok_of_isDict hmessage, PyValue.orElse]
  simp only [bind, Except.bind]
  split
  · rfl
  · exact get_eq_ok_of_isDict hchoice

theorem raisesOnly_contentOrText_bind {message choice : PyValue Float}
    {f : PyValue Float → Raising Float β} (hchoice : choice.IsDict) :
    RaisesOnly PyError.Own (contentOrText rt message choice >>= f) ↔
      message.IsDict ∧ RaisesOnly PyError.Own
        (f ((message.entry "content" .none).orElse rt.num (choice.entry "text" (.str "")))) := by
  by_cases hmessage : message.IsDict
  · rw [raisesOnly_bind_of_ok (contentOrText_eq_ok hmessage hchoice), and_iff_right hmessage]
  · refine iff_of_false (fun h => hmessage ?_) fun h => hmessage h.1
    exact (raisesOnly_get_bind.1 (raisesOnly_bind.1 h).1).1

theorem raisesOnly_visibleText :
    RaisesOnly PyError.Own (visibleText v) ↔ v.IsStr := by
  cases v <;> exact Iff.rfl

theorem foreign_visibleText : Foreign (visibleText v) := by
  cases v with
  | str s => exact foreign_ok _
  | _ => exact foreign_error id

theorem foreign_visibleTokens {total : PyValue Float} {reasoning : Option Int} :
    Foreign (visibleTokens rt total reasoning) := by
  cases reasoning with
  | none => exact foreign_ok _
  | some n => exact foreign_bind foreign_arith fun _ => foreign_ok _

theorem raisesOnly_visibleTokens {total : PyValue Float} {reasoning : Option Int} :
    RaisesOnly PyError.Own (visibleTokens rt total reasoning) ↔
      SplitFits rt.num reasoning total := by
  cases reasoning with
  | none => exact ⟨fun _ _ => nofun, fun _ => trivial⟩
  | some n =>
      rw [visibleTokens, PyValue.sub, raisesOnly_bind, raisesOnly_arith, SplitFits]
      simp

theorem foreign_answerText {message rawText : PyValue Float} :
    Foreign (answerText message rawText) := by
  refine foreign_bind foreign_get fun _ => ?_
  split
  · exact foreign_ok _
  · exact foreign_visibleText

theorem raisesOnly_answerText {message rawText : PyValue Float} (hmessage : message.IsDict) :
    RaisesOnly PyError.Own (answerText message rawText) ↔
      (message.entry "reasoning_content" .none).isNonemptyStr ∨ rawText.IsStr := by
  rw [answerText, raisesOnly_get_bind, and_iff_right hmessage]
  split
  · rename_i hseparate
    exact iff_of_true trivial (.inl hseparate)
  · rename_i hseparate
    rw [raisesOnly_visibleText, or_iff_right hseparate]

theorem foreign_orRaise {x : Except DecodeError β} : Foreign (orRaise x : Raising Float β) := by
  cases x with
  | ok a => exact foreign_ok _
  | error error => cases error <;> exact foreign_error id

theorem orRaise_eq_ok_iff {x : Except DecodeError β} {b : β} :
    (orRaise x : Raising Float β) = .ok b ↔ x = .ok b := by
  cases x <;> simp [orRaise]

end Walking

section Completions

variable {rt : PyRuntime Float} {client : Client Float} {payload : Payload} {response : OkResponse}
  {data : PyValue Float}

theorem raisesOnly_takeChoice_bind {β : Type} {f : PyValue Float → Raising Float β}
    (hneeds : ∀ a, RaisesOnly PyError.Own (f a) → a.IsDict) :
    RaisesOnly PyError.Own (takeChoice data >>= f) ↔
      data.IsDict ∧ (firstChoice data).IsDict ∧ RaisesOnly PyError.Own (f (firstChoice data)) := by
  rw [takeChoice, bind_assoc, raisesOnly_get_bind, raisesOnly_first_bind hneeds, firstChoice]

structure CompletionShape (num : NumOps Float) (data : PyValue Float) : Prop
    extends ObjectShape data where
  text : hasSeparateReasoning data ∨ (rawText num data).IsStr
  tokens : SplitFits num (reasoningCount (usageOf data))
    ((usageOf data).entry "completion_tokens" (.int 0))

theorem raisesOnly_usage_bind {β : Type}
    {f : PyValue Float → PyValue Float → PyValue Float → Bool → Raising Float β} :
    RaisesOnly PyError.Own (do
      let usage ← data.get "usage" (.dict [])
      let inputTokens ← usage.get "prompt_tokens" (.int 0)
      let outputTokens ← usage.get "completion_tokens" (.int 0)
      let known ← usageKnown usage
      f usage inputTokens outputTokens known) ↔
      data.IsDict ∧ (usageOf data).IsDict ∧
        RaisesOnly PyError.Own (f (usageOf data) ((usageOf data).entry "prompt_tokens" (.int 0))
          ((usageOf data).entry "completion_tokens" (.int 0)) (isKnown (usageOf data))) := by
  rw [raisesOnly_get_bind, ← usageOf, raisesOnly_get_bind]
  refine and_congr_right fun _ => and_congr_right fun husage => ?_
  rw [raisesOnly_get_bind, and_iff_right husage, raisesOnly_bind_of_ok (usageKnown_eq_ok husage)]

def costOf (client : Client Float) (payload : Payload) (response : OkResponse)
    (data : PyValue Float) : Raising Float (CostFields Float) :=
  client.costFields response.costHeader payload ((usageOf data).entry "prompt_tokens" (.int 0))
    ((usageOf data).entry "completion_tokens" (.int 0)) (isKnown (usageOf data))

theorem raisesOnly_parseCompletion :
    RaisesOnly PyError.Own (parseCompletion rt client payload response) ↔
      ∃ data, rt.loads response.body = .ok data ∧ CompletionShape rt.num data ∧
        RaisesOnly PyError.Own (costOf client payload response data) := by
  rw [parseCompletion, raisesOnly_bind_of_foreign foreign_orRaise]
  simp only [orRaise_eq_ok_iff]
  refine exists_congr fun data => and_congr_right fun _ => ?_
  rw [raisesOnly_takeChoice_bind fun _ h => (raisesOnly_get_bind.1 h).1, raisesOnly_get_bind,
    ← choiceMessage]
  by_cases hobjects : ObjectShape data
  · rw [and_iff_right hobjects.response, and_iff_right hobjects.choice,
      and_iff_right hobjects.choice, raisesOnly_contentOrText_bind hobjects.choice,
      and_iff_right hobjects.message, raisesOnly_get_bind, and_iff_right hobjects.choice,
      raisesOnly_usage_bind, and_iff_right hobjects.response, and_iff_right hobjects.usage]
    rw [raisesOnly_bind_of_const (p := SplitFits rt.num (reasoningCount (usageOf data))
        ((usageOf data).entry "completion_tokens" (.int 0)) ∧
        RaisesOnly PyError.Own (costOf client payload response data)) foreign_answerText,
      raisesOnly_answerText hobjects.message]
    · exact ⟨fun ⟨htext, htokens, hcost⟩ => ⟨⟨hobjects, htext, htokens⟩, hcost⟩,
        fun ⟨h, hcost⟩ => ⟨h.text, h.tokens, hcost⟩⟩
    · intro text
      rw [raisesOnly_bind_of_ok (extractReasoningTokens_eq_ok hobjects.usage),
        raisesOnly_bind_of_const (p := RaisesOnly PyError.Own (costOf client payload response data))
          foreign_visibleTokens, raisesOnly_visibleTokens]
      intro visible
      rw [raisesOnly_get_bind, and_iff_right hobjects.response, raisesOnly_bind_pure, costOf]
  · refine iff_of_false (fun h => hobjects ?_) fun h => hobjects h.1.toObjectShape
    obtain ⟨hdata, hchoice, -, h⟩ := h
    rw [raisesOnly_contentOrText_bind hchoice, raisesOnly_get_bind, raisesOnly_usage_bind] at h
    obtain ⟨hmessage, -, -, husage, -⟩ := h
    exact ⟨hdata, hchoice, hmessage, husage⟩

end Completions

section Proposals

variable (rt : PyRuntime Float)

def toolCallsOf (data : PyValue Float) : PyValue Float :=
  (choiceMessage data).entry "tool_calls" (.list [])

def functionOf (call : PyValue Float) : PyValue Float := call.entry "function" (.dict [])

def argumentsOf (call : PyValue Float) : PyValue Float :=
  (functionOf call).entry "arguments" (.dict [])

def ArgumentsReadable : PyValue Float → Prop
  | .str s => ∀ error, rt.loadsText s = .error error → error = .jsonDecodeError
  | _ => True

def ArgumentsDecode : PyValue Float → Prop
  | .str s => ∃ arguments, rt.loadsText s = .ok arguments
  | _ => True

structure CallShape (call : PyValue Float) : Prop where
  object : call.IsDict
  function : (functionOf call).IsDict
  arguments : ArgumentsReadable rt (argumentsOf call)

def CallCharged (call : PyValue Float) : Prop :=
  ArgumentsDecode rt (argumentsOf call) ∧ ((functionOf call).entry "name" (.str "")).isNonemptyStr

def messageContent (num : NumOps Float) (data : PyValue Float) : PyValue Float :=
  ((choiceMessage data).entry "content" (.str "")).orElse num (.str "")

def contentText (num : NumOps Float) (data : PyValue Float) : String :=
  match messageContent num data with
  | .str s => String.ofList (strip s.toList)
  | _ => ""

def hasReasoned (data : PyValue Float) : Bool :=
  (factsOf ((choiceMessage data).entry "reasoning_content" .none)
    ((choiceMessage data).entry "thinking_blocks" .none)
    (((usageOf data).entry "completion_tokens_details" .none).entry "reasoning_tokens"
      .none)).present

def ProposalShape (data : PyValue Float) : Prop :=
  match toolCallsOf data with
  | .list [call] => CallShape rt call
  | .list (_ :: _ :: _) => True
  | _ => (messageContent rt.num data).IsStr

def ProposalCharged (data : PyValue Float) : Prop :=
  match toolCallsOf data with
  | .list [call] => CallCharged rt call
  | .list (_ :: _ :: _) => False
  | _ => classifyNonToolOutcome rt (contentText rt.num data) = .noTool →
      contentText rt.num data = "" ∧ hasReasoned data

variable {rt} {client : Client Float} {payload : Payload} {response : OkResponse}
  {data : PyValue Float}

theorem raisesOnly_toolArguments_bind {β : Type} {p : Prop} {invalid : LLMProviderError Float}
    {rawArgs : PyValue Float} {f : PyValue Float → Raising Float β}
    (hf : ∀ a, RaisesOnly PyError.Own (f a) ↔ p) :
    RaisesOnly PyError.Own (toolArguments rt invalid rawArgs >>= f) ↔
      ArgumentsReadable rt rawArgs ∧ (ArgumentsDecode rt rawArgs → p) := by
  cases rawArgs with
  | str s =>
      simp only [ArgumentsReadable, ArgumentsDecode, toolArguments]
      cases rt.loadsText s with
      | ok arguments => simpa [bind, Except.bind] using hf arguments
      | error error => cases error <;>
          simp [bind, Except.bind, raiseProvider, DecodeError.toPyError, PyError.Own]
  | _ => simpa [ArgumentsReadable, ArgumentsDecode, toolArguments, bind, Except.bind] using hf _

theorem raisesOnly_parseCall {call modelId inputTokens outputTokens finishReason : PyValue Float}
    {known : Bool} :
    RaisesOnly PyError.Own (parseCall rt client payload response call modelId inputTokens
        outputTokens finishReason known) ↔
      CallShape rt call ∧ (CallCharged rt call → RaisesOnly PyError.Own
        (client.costFields response.costHeader payload inputTokens outputTokens known)) := by
  rw [parseCall, raisesOnly_get_bind, raisesOnly_get_bind, raisesOnly_get_bind, ← functionOf,
    ← argumentsOf]
  rw [raisesOnly_toolArguments_bind
    (p := ((functionOf call).entry "name" (.str "")).isNonemptyStr → RaisesOnly PyError.Own
      (client.costFields response.costHeader payload inputTokens outputTokens known))]
  · constructor
    · rintro ⟨hcall, hfunction, -, hreadable, hcost⟩
      exact ⟨⟨hcall, hfunction, hreadable⟩, fun ⟨hdecode, hname⟩ => hcost hdecode hname⟩
    · rintro ⟨hshape, hcost⟩
      exact ⟨hshape.object, hshape.function, hshape.function, hshape.arguments,
        fun hdecode hname => hcost ⟨hdecode, hname⟩⟩
  · intro arguments
    cases (functionOf call).entry "name" (.str "") with
    | str toolName =>
        by_cases hempty : toolName = ""
        · simp [hempty, PyValue.isNonemptyStr, raiseProvider, PyError.Own]
        · simp [hempty, PyValue.isNonemptyStr]
    | _ => exact iff_of_true trivial fun h => Bool.noConfusion h

theorem raisesOnly_strippedContent_bind {β : Type} {f : String → Raising Float β} :
    RaisesOnly PyError.Own
        (strippedContent rt ((choiceMessage data).entry "content" (.str "")) >>= f) ↔
      (messageContent rt.num data).IsStr ∧
      RaisesOnly PyError.Own (f (contentText rt.num data)) := by
  rw [strippedContent, ← messageContent, contentText]
  cases messageContent rt.num data with
  | str s => exact (and_iff_right trivial).symm
  | _ => exact iff_of_false id fun h => h.1

theorem reasoningFacts_eq_ok {message usage : PyValue Float} (hmessage : message.IsDict)
    (husage : usage.IsDict) :
    reasoningFacts message usage =
      .ok (factsOf (message.entry "reasoning_content" .none) (message.entry "thinking_blocks" .none)
        ((usage.entry "completion_tokens_details" .none).entry "reasoning_tokens" .none)) := by
  simp only [reasoningFacts, get_eq_ok_of_isDict hmessage, get_eq_ok_of_isDict husage, bind,
    Except.bind, pure, Except.pure]

theorem raisesOnly_parseNonTool {modelId inputTokens outputTokens finishReason : PyValue Float}
    {known : Bool} (hobjects : ObjectShape data) :
    RaisesOnly PyError.Own (parseNonTool rt client payload response (choiceMessage data)
        (usageOf data) modelId inputTokens outputTokens finishReason known) ↔
      (messageContent rt.num data).IsStr ∧
        ((classifyNonToolOutcome rt (contentText rt.num data) = .noTool →
          contentText rt.num data = "" ∧ hasReasoned data) → RaisesOnly PyError.Own
        (client.costFields response.costHeader payload inputTokens outputTokens known)) := by
  rw [parseNonTool, raisesOnly_get_bind, and_iff_right hobjects.message,
    raisesOnly_strippedContent_bind]
  refine and_congr_right fun _ => ?_
  rw [raisesOnly_bind_of_ok (reasoningFacts_eq_ok hobjects.message hobjects.usage), hasReasoned]
  generalize classifyNonToolOutcome rt (contentText rt.num data) = outcome
  generalize factsOf _ _ _ = facts
  by_cases hblank : outcome = .noTool ∧ contentText rt.num data = "" ∧ facts.present
  · rw [if_pos hblank, raisesOnly_bind_pure]
    exact ⟨fun h _ => h, fun h => h fun _ => hblank.2⟩
  · rw [if_neg hblank]
    by_cases hnoTool : outcome = .noTool
    · rw [if_pos hnoTool]
      exact iff_of_true trivial fun h => absurd ⟨hnoTool, h hnoTool⟩ hblank
    · rw [if_neg hnoTool, raisesOnly_bind_pure]
      exact ⟨fun h _ => h, fun h => h fun hoff => absurd hoff hnoTool⟩

theorem raisesOnly_parseProposal :
    RaisesOnly PyError.Own (parseProposal rt client payload response) ↔
      ∃ data, rt.loads response.body = .ok data ∧ (ObjectShape data ∧ ProposalShape rt data) ∧
        (ProposalCharged rt data → RaisesOnly PyError.Own
        (costOf client payload response data)) := by
  rw [parseProposal, raisesOnly_bind_of_foreign foreign_orRaise]
  simp only [orRaise_eq_ok_iff]
  refine exists_congr fun data => and_congr_right fun _ => ?_
  rw [raisesOnly_takeChoice_bind fun _ h => (raisesOnly_get_bind.1 h).1, raisesOnly_get_bind,
    ← choiceMessage, raisesOnly_get_bind, raisesOnly_usage_bind, raisesOnly_get_bind,
    raisesOnly_get_bind, ← toolCallsOf]
  by_cases hobjects : ObjectShape data
  · rw [and_iff_right hobjects.response, and_iff_right hobjects.choice,
      and_iff_right hobjects.choice, and_iff_right hobjects.choice,
      and_iff_right hobjects.response, and_iff_right hobjects.usage,
      and_iff_right hobjects.response, and_iff_right hobjects.message,
      and_iff_right hobjects, ProposalShape, ProposalCharged]
    cases toolCallsOf data with
    | list calls =>
        match calls with
        | [] => exact raisesOnly_parseNonTool hobjects
        | [call] => exact raisesOnly_parseCall
        | _ :: _ :: _ => exact iff_of_true trivial ⟨trivial, nofun⟩
    | _ => exact raisesOnly_parseNonTool hobjects
  · refine iff_of_false (fun h => hobjects ?_) fun h => hobjects h.1.1
    obtain ⟨hdata, hchoice, -, -, -, husage, -, hmessage, -⟩ := h
    exact ⟨hdata, hchoice, hmessage, husage⟩

end Proposals

end AiAnalytics.App
