import AiAnalytics.App.Llm.Proof.GovernedCalls
import AiAnalytics.App.Llm.Proof.StreamShapes

/-!
# When the client keeps to its own exceptions

The run loop records a failed call only if it ends in `LLMProviderError` or `LLMConfigurationError`.
Every call of the two clients does so exactly if each response with status 200 that it receives has
the shape its parser needs; the governed client also needs the reported counts to be numbers
wherever it prices or commits them.
-/

namespace AiAnalytics.App

open Lib

variable {Float : Type}

section Completions

variable {rt : PyRuntime Float} {client : Client Float} {payload : Payload} {response : OkResponse}
  {data : PyValue Float}

def usageCounts (data : PyValue Float) : Counts Float where
  input := (usageOf data).entry "prompt_tokens" (.int 0)
  output := (usageOf data).entry "completion_tokens" (.int 0)
  known := isKnown (usageOf data)

def decoded (rt : PyRuntime Float) (response : OkResponse) : PyValue Float :=
  match rt.loads response.body with
  | .ok data => data
  | .error _ => .none

def ForeignCosts (client : Client Float) : Prop :=
  ∀ costHeader payload input output known,
    Foreign (client.costFields costHeader payload input output known)

theorem foreign_contentOrText {message choice : PyValue Float} :
    Foreign (contentOrText rt message choice) := by
  refine foreign_bind foreign_get fun _ => ?_
  split
  · exact foreign_ok _
  · exact foreign_get

theorem foreign_takeChoice : Foreign (takeChoice data) :=
  foreign_bind foreign_get fun _ => foreign_first

theorem foreign_parseCompletion (hcosts : ForeignCosts client) :
    Foreign (parseCompletion rt client payload response) :=
  foreign_bind foreign_orRaise fun _ => foreign_bind foreign_takeChoice fun _ =>
    foreign_bind foreign_get fun _ => foreign_bind foreign_contentOrText fun _ =>
    foreign_bind foreign_get fun _ => foreign_bind foreign_get fun _ =>
    foreign_bind foreign_get fun _ => foreign_bind foreign_get fun _ =>
    foreign_bind foreign_usageKnown fun _ => foreign_bind foreign_answerText fun _ =>
    foreign_bind foreign_extractReasoningTokens fun _ =>
    foreign_bind foreign_visibleTokens fun _ => foreign_bind foreign_get fun _ =>
    foreign_bind (hcosts _ _ _ _ _) fun _ => foreign_ok _

theorem counts_of_parseCompletion {result : LLMResult Float}
    (h : parseCompletion rt client payload response = .ok result) :
    result.usageKnown = (usageCounts (decoded rt response)).known ∧
      result.inputTokens = (usageCounts (decoded rt response)).input ∧
      result.outputTokens = (usageCounts (decoded rt response)).output := by
  simp only [parseCompletion, bind_eq_ok_iff, get_eq_ok_iff, orRaise_eq_ok_iff] at h
  obtain ⟨data, hdata, choice, -, message, -, _, -, _, -, usage, ⟨-, rfl⟩, _, ⟨husage, rfl⟩, _,
    ⟨-, rfl⟩, known, hknown, _, -, _, -, _, -, _, -, _, -, h⟩ := h
  cases h
  rw [← usageOf] at husage hknown
  rw [usageKnown_eq_ok husage] at hknown
  cases hknown
  rw [decoded, hdata]
  exact ⟨rfl, rfl, rfl⟩

end Completions

section CompletionReader

variable (rt : PyRuntime Float) (pricing : PricingTable Float) (answerAlias : String)

def Priced (payload : Payload) (response : OkResponse) (counts : Counts Float) : Prop :=
  CostFits rt pricing response.costHeader payload counts.input counts.output counts.known

def completionReader : Reader Float where
  Shape := fun payload response => ∃ data, rt.loads response.body = .ok data ∧
    CompletionShape rt.num data ∧ Priced rt pricing payload response (usageCounts data)
  Returned := fun _ => True
  counts := fun response => usageCounts (decoded rt response)
  broken := fun _ => false

variable {rt pricing answerAlias}

theorem foreignCosts_liteLLM : ForeignCosts (liteLLMClient rt pricing answerAlias) :=
  fun _ _ _ _ _ => foreign_liteLLMCostFields

theorem liteLLM_code_no_guard (text : String) :
    "bedrock_budget".toList.isPrefixOf ("litellm_proxy" ++ text).toList = false := by
  rw [String.toList_append]
  rfl

theorem mayFallBack_statusError (code : Nat) (text : String) (callId : Option String) :
    mayFallBack (.raised (.provider (statusError "litellm_proxy" code) : LLMError Float)) =
      passesOver (.status code text callId) := by
  have hcode : (statusError "litellm_proxy" code : LLMProviderError Float).code =
      "litellm_proxy" ++ ("_http_" ++ toString code) := String.append_assoc ..
  rw [mayFallBack, hcode, liteLLM_code_no_guard, passesOver, statusError]
  simp

theorem mayFallBack_budgetUnavailable :
    mayFallBack (.raised (.provider budgetUnavailableError) : PyError (LLMError Float)) =
      false := by
  have hguard : "bedrock_budget".toList.isPrefixOf "bedrock_budget_unavailable".toList = true := by
    decide
  rw [mayFallBack, budgetUnavailableError, hguard]
  rfl

theorem mayFallBack_failure (failure : HttpFailure) :
    mayFallBack (.raised (.provider (failure.error "litellm_proxy")) : PyError (LLMError Float)) =
      passesOver (.failed failure) := by
  cases failure with
  | unavailable =>
      rw [mayFallBack, HttpFailure.error, liteLLM_code_no_guard]
      rfl
  | requestError => rfl

theorem fails_completion (payload : Payload) (outcome : HttpOutcome)
    (hok : ∀ response, outcome ≠ .ok response) :
    ∃ error, postCompletion rt (liteLLMClient rt pricing answerAlias) payload outcome =
      .error error ∧ error.Own ∧ mayFallBack error = passesOver outcome := by
  cases outcome with
  | budgetExhausted => exact ⟨_, rfl, trivial, rfl⟩
  | budgetUnavailable => exact ⟨_, rfl, trivial, mayFallBack_budgetUnavailable⟩
  | failed failure => exact ⟨_, rfl, trivial, mayFallBack_failure failure⟩
  | status code text callId => exact ⟨_, rfl, trivial, mayFallBack_statusError code text callId⟩
  | ok response => exact absurd rfl (hok response)

theorem completionReader_describes :
    (completionReader rt pricing).Describes completionFields
      (postCompletion rt (liteLLMClient rt pricing answerAlias)) where
  fails := fails_completion
  raises := by
    intro payload response
    rw [postCompletion, raisesOnly_parseCompletion]
    simp only [completionReader, Priced]
    exact exists_congr fun data => and_congr_right fun _ => and_congr_right fun _ =>
      raisesOnly_liteLLMCostFields
  returns := by
    rintro payload response ⟨data, hdata, hshape, hpriced⟩ -
    have hraises : RaisesOnly PyError.Own
        (parseCompletion rt (liteLLMClient rt pricing answerAlias) payload response) :=
      raisesOnly_parseCompletion.2
        ⟨data, hdata, hshape, raisesOnly_liteLLMCostFields.2 hpriced⟩
    obtain ⟨result, hresult⟩ :=
      (raisesOnly_iff_of_foreign (foreign_parseCompletion foreignCosts_liteLLM)).1 hraises
    exact ⟨result, hresult, counts_of_parseCompletion hresult⟩
  breaks := fun _ _ _ h => absurd trivial h
  broken_not_returned := fun _ => nofun

end CompletionReader

section Proposals

variable {rt : PyRuntime Float} {client : Client Float} {payload : Payload} {response : OkResponse}
  {call data message usage modelId inputTokens outputTokens finishReason : PyValue Float}
  {known : Bool}

def Final {α : Type} (x : Raising Float α) : Prop :=
  ∀ error, x = .error error → mayFallBack error = false

theorem final_of_foreign {α : Type} {x : Raising Float α} (h : Foreign x) : Final x := by
  intro error herror
  cases hfall : mayFallBack error with
  | false => rfl
  | true => exact absurd (mayFallBack_own hfall) (h error herror)

theorem final_bind {α β : Type} {x : Raising Float α} {f : α → Raising Float β} (hx : Final x)
    (hf : ∀ a, Final (f a)) : Final (x >>= f) := by
  cases x with
  | ok a => exact hf a
  | error error => exact fun _ h => by cases h; exact hx error rfl

theorem final_raiseProvider {α : Type} {error : LLMProviderError Float}
    (h : error.retryable = false) : Final (raiseProvider error : Raising Float α) := by
  rintro _ ⟨⟩
  rw [mayFallBack, h]
  rfl

theorem final_toolArguments {invalid : LLMProviderError Float} {rawArgs : PyValue Float}
    (h : invalid.retryable = false) : Final (toolArguments rt invalid rawArgs) := by
  cases rawArgs with
  | str s =>
      simp only [toolArguments]
      cases rt.loadsText s with
      | ok arguments => exact final_of_foreign (foreign_ok _)
      | error error => cases error with
          | jsonDecodeError => exact final_raiseProvider h
          | _ => exact final_of_foreign (foreign_error id)
  | _ => exact final_of_foreign (foreign_ok _)

theorem final_parseCall (hcosts : ForeignCosts client) :
    Final (parseCall rt client payload response call modelId inputTokens outputTokens finishReason
      known) := by
  refine final_bind (final_of_foreign foreign_get) fun _ =>
    final_bind (final_of_foreign foreign_get) fun name =>
    final_bind (final_of_foreign foreign_get) fun _ => final_bind (final_toolArguments rfl) fun _ =>
      ?_
  cases name with
  | str toolName =>
      dsimp only
      split
      · exact final_raiseProvider rfl
      · exact final_of_foreign (foreign_bind (hcosts _ _ _ _ _) fun _ => foreign_ok _)
  | _ => exact final_raiseProvider rfl

theorem foreign_strippedContent {content : PyValue Float} :
    Foreign (strippedContent rt content) := by
  rw [strippedContent]
  split
  · exact foreign_ok _
  · exact foreign_error id

theorem foreign_reasoningFacts : Foreign (reasoningFacts message usage) :=
  foreign_bind foreign_get fun _ => foreign_bind foreign_get fun _ =>
    foreign_bind foreign_get fun _ => foreign_ok _

theorem final_parseNonTool (hcosts : ForeignCosts client) :
    Final (parseNonTool rt client payload response message usage modelId inputTokens outputTokens
      finishReason known) := by
  refine final_bind (final_of_foreign foreign_get) fun _ =>
    final_bind (final_of_foreign foreign_strippedContent) fun _ =>
    final_bind (final_of_foreign foreign_reasoningFacts) fun _ => ?_
  split
  · exact final_of_foreign (foreign_bind (hcosts _ _ _ _ _) fun _ => foreign_ok _)
  · split
    · exact final_raiseProvider rfl
    · exact final_of_foreign (foreign_bind (hcosts _ _ _ _ _) fun _ => foreign_ok _)

theorem final_parseProposal (hcosts : ForeignCosts client) :
    Final (parseProposal rt client payload response) := by
  refine final_bind (final_of_foreign foreign_orRaise) fun _ =>
    final_bind (final_of_foreign foreign_takeChoice) fun _ =>
    final_bind (final_of_foreign foreign_get) fun _ =>
    final_bind (final_of_foreign foreign_get) fun _ =>
    final_bind (final_of_foreign foreign_get) fun _ =>
    final_bind (final_of_foreign foreign_get) fun _ =>
    final_bind (final_of_foreign foreign_get) fun _ =>
    final_bind (final_of_foreign foreign_usageKnown) fun _ =>
    final_bind (final_of_foreign foreign_get) fun _ =>
    final_bind (final_of_foreign foreign_get) fun toolCalls => ?_
  split
  · exact final_parseCall hcosts
  · exact final_raiseProvider rfl
  · exact final_parseNonTool hcosts

theorem foreign_toolArguments {invalid : LLMProviderError Float} {rawArgs : PyValue Float}
    (h : ArgumentsDecode rt rawArgs) : Foreign (toolArguments rt invalid rawArgs) := by
  cases rawArgs with
  | str s =>
      obtain ⟨arguments, harguments⟩ := h
      simp only [toolArguments, harguments]
      exact foreign_ok _
  | _ => exact foreign_ok _

theorem decode_of_toolArguments {invalid : LLMProviderError Float}
    {rawArgs arguments : PyValue Float} (h : toolArguments rt invalid rawArgs = .ok arguments) :
    ArgumentsDecode rt rawArgs := by
  cases rawArgs with
  | str s =>
      simp only [toolArguments] at h
      cases hloads : rt.loadsText s with
      | ok arguments => exact ⟨arguments, hloads⟩
      | error error =>
          rw [hloads] at h
          cases error <;> cases h
  | _ => trivial

theorem foreign_parseCall (hcosts : ForeignCosts client) (hcharged : CallCharged rt call) :
    Foreign (parseCall rt client payload response call modelId inputTokens outputTokens finishReason
      known) := by
  obtain ⟨hdecode, hname⟩ := hcharged
  refine foreign_bind_of_ok foreign_get fun func hfunc => foreign_bind_of_ok foreign_get
    fun name hnameEq => foreign_bind_of_ok foreign_get fun rawArgs hrawArgs => ?_
  obtain ⟨-, rfl⟩ := get_eq_ok_iff.1 hfunc
  obtain ⟨-, rfl⟩ := get_eq_ok_iff.1 hnameEq
  obtain ⟨-, rfl⟩ := get_eq_ok_iff.1 hrawArgs
  refine foreign_bind (foreign_toolArguments hdecode) fun _ => ?_
  rw [← functionOf]
  cases hs : (functionOf call).entry "name" (.str "") with
  | str toolName =>
      have hnonempty : toolName ≠ "" := by simpa [hs, PyValue.isNonemptyStr] using hname
      dsimp only
      rw [if_neg hnonempty]
      exact foreign_bind (hcosts _ _ _ _ _) fun _ => foreign_ok _
  | _ => rw [hs] at hname; cases hname

theorem charged_of_parseCall {result : ToolProposalResult Float}
    (h : parseCall rt client payload response call modelId inputTokens outputTokens finishReason
      known = .ok result) :
    CallCharged rt call ∧ result.usageKnown = known ∧ result.inputTokens = inputTokens ∧
      result.outputTokens = outputTokens := by
  simp only [parseCall, bind_eq_ok_iff, get_eq_ok_iff] at h
  obtain ⟨func, ⟨-, rfl⟩, name, ⟨-, hname⟩, rawArgs, ⟨-, hrawArgs⟩, arguments, harguments, h⟩ := h
  rw [← functionOf] at hname hrawArgs
  rw [← argumentsOf] at hrawArgs
  subst hrawArgs
  have hdecode := decode_of_toolArguments harguments
  cases name with
  | str toolName =>
      dsimp only at h
      split at h
      · cases h
      · rename_i hnonempty
        simp only [bind_eq_ok_iff] at h
        obtain ⟨cost, -, h⟩ := h
        cases h
        refine ⟨⟨hdecode, ?_⟩, rfl, rfl, rfl⟩
        rw [← hname]
        simpa [PyValue.isNonemptyStr] using hnonempty
  | _ => cases h

theorem contentText_of_stripped {stripped : String}
    (h : strippedContent rt ((choiceMessage data).entry "content" (.str "")) = .ok stripped) :
    stripped = contentText rt.num data := by
  rw [strippedContent, ← messageContent] at h
  rw [contentText]
  cases hcontent : messageContent rt.num data with
  | str s =>
      rw [hcontent] at h
      cases h
      rfl
  | _ => rw [hcontent] at h; cases h

theorem hasReasoned_of_facts {facts : ReasoningFacts Float}
    (h : reasoningFacts (choiceMessage data) (usageOf data) = .ok facts) :
    facts.present = hasReasoned data := by
  simp only [reasoningFacts, bind_eq_ok_iff, get_eq_ok_iff] at h
  obtain ⟨_, ⟨-, rfl⟩, _, ⟨-, rfl⟩, _, ⟨-, rfl⟩, h⟩ := h
  cases h
  rfl

theorem foreign_parseNonTool (hcosts : ForeignCosts client)
    (hcharged : classifyNonToolOutcome rt (contentText rt.num data) = .noTool →
      contentText rt.num data = "" ∧ hasReasoned data) :
    Foreign (parseNonTool rt client payload response (choiceMessage data) (usageOf data) modelId
      inputTokens outputTokens finishReason known) := by
  refine foreign_bind_of_ok foreign_get fun content hcontent => ?_
  obtain ⟨-, rfl⟩ := get_eq_ok_iff.1 hcontent
  refine foreign_bind_of_ok foreign_strippedContent fun stripped hstripped => ?_
  refine foreign_bind_of_ok foreign_reasoningFacts fun facts hfacts => ?_
  obtain rfl := contentText_of_stripped hstripped
  rw [← hasReasoned_of_facts hfacts] at hcharged
  split
  · exact foreign_bind (hcosts _ _ _ _ _) fun _ => foreign_ok _
  · rename_i hblank
    split
    · rename_i hnoTool
      exact absurd ⟨hnoTool, hcharged hnoTool⟩ hblank
    · exact foreign_bind (hcosts _ _ _ _ _) fun _ => foreign_ok _

theorem charged_of_parseNonTool {result : ToolProposalResult Float}
    (h : parseNonTool rt client payload response (choiceMessage data) (usageOf data) modelId
      inputTokens outputTokens finishReason known = .ok result) :
    (classifyNonToolOutcome rt (contentText rt.num data) = .noTool →
      contentText rt.num data = "" ∧ hasReasoned data) ∧
      result.usageKnown = known ∧ result.inputTokens = inputTokens ∧
      result.outputTokens = outputTokens := by
  simp only [parseNonTool, bind_eq_ok_iff, get_eq_ok_iff] at h
  obtain ⟨content, ⟨-, rfl⟩, stripped, hstripped, facts, hfacts, h⟩ := h
  obtain rfl := contentText_of_stripped hstripped
  rw [← hasReasoned_of_facts hfacts]
  split at h
  · rename_i hblank
    simp only [bind_eq_ok_iff] at h
    obtain ⟨cost, -, h⟩ := h
    cases h
    exact ⟨fun _ => hblank.2, rfl, rfl, rfl⟩
  · split at h
    · cases h
    · rename_i hnoTool
      simp only [bind_eq_ok_iff] at h
      obtain ⟨cost, -, h⟩ := h
      cases h
      exact ⟨fun hoff => absurd hoff hnoTool, rfl, rfl, rfl⟩

theorem firstChoice_of_takeChoice {choice : PyValue Float} (h : takeChoice data = .ok choice)
    (hdict : choice.IsDict) : choice = firstChoice data := by
  simp only [takeChoice, bind_eq_ok_iff, get_eq_ok_iff] at h
  obtain ⟨choices, ⟨-, hchoices⟩, hfirst⟩ := h
  rw [firstChoice, ← hchoices]
  cases choices with
  | list items => cases items with
      | nil => cases hfirst
      | cons item items => cases hfirst; rfl
  | str s =>
      simp only [PyValue.first] at hfirst
      split at hfirst
      · cases hfirst
      · cases hfirst
        exact hdict.elim
  | _ => cases hfirst

theorem charged_of_parseProposal {result : ToolProposalResult Float}
    (h : parseProposal rt client payload response = .ok result) :
    ProposalCharged rt (decoded rt response) ∧
      result.usageKnown = (usageCounts (decoded rt response)).known ∧
      result.inputTokens = (usageCounts (decoded rt response)).input ∧
      result.outputTokens = (usageCounts (decoded rt response)).output := by
  simp only [parseProposal, bind_eq_ok_iff, get_eq_ok_iff, orRaise_eq_ok_iff] at h
  obtain ⟨data, hdata, choice, hchoice, message, ⟨hdict, rfl⟩, _, -, usage, ⟨-, rfl⟩, _,
    ⟨husage, rfl⟩, _, ⟨-, rfl⟩, known, hknown, _, -, toolCalls, ⟨-, rfl⟩, h⟩ := h
  obtain rfl := firstChoice_of_takeChoice hchoice hdict
  rw [← usageOf] at husage hknown h
  rw [usageKnown_eq_ok husage] at hknown
  cases hknown
  rw [← choiceMessage, ← toolCallsOf] at h
  rw [decoded, hdata, ProposalCharged]
  cases hcalls : toolCallsOf data with
  | list calls =>
      rw [hcalls] at h
      cases calls with
      | nil => exact charged_of_parseNonTool h
      | cons call rest =>
          cases rest with
          | nil => exact charged_of_parseCall h
          | cons => cases h
  | _ => rw [hcalls] at h; exact charged_of_parseNonTool h

theorem foreign_parseProposal (hcosts : ForeignCosts client)
    (hcharged : ProposalCharged rt (decoded rt response)) :
    Foreign (parseProposal rt client payload response) := by
  refine foreign_bind_of_ok foreign_orRaise fun data hdata => foreign_bind_of_ok foreign_takeChoice
    fun choice hchoice => foreign_bind_of_ok foreign_get fun message hmessage =>
    foreign_bind foreign_get fun _ => foreign_bind_of_ok foreign_get fun usage husage =>
    foreign_bind foreign_get fun _ => foreign_bind foreign_get fun _ =>
    foreign_bind foreign_usageKnown fun _ => foreign_bind foreign_get fun _ =>
    foreign_bind_of_ok foreign_get fun toolCalls hcalls => ?_
  obtain ⟨hdict, rfl⟩ := get_eq_ok_iff.1 hmessage
  obtain ⟨-, rfl⟩ := get_eq_ok_iff.1 husage
  obtain ⟨-, rfl⟩ := get_eq_ok_iff.1 hcalls
  obtain rfl := firstChoice_of_takeChoice hchoice hdict
  rw [decoded, orRaise_eq_ok_iff.1 hdata, ProposalCharged] at hcharged
  rw [← usageOf, ← choiceMessage, ← toolCallsOf]
  cases hcallsEq : toolCallsOf data with
  | list calls =>
      rw [hcallsEq] at hcharged
      cases calls with
      | nil => exact foreign_parseNonTool hcosts hcharged
      | cons call rest =>
          cases rest with
          | nil => exact foreign_parseCall hcosts hcharged
          | cons => exact hcharged.elim
  | _ => rw [hcallsEq] at hcharged; exact foreign_parseNonTool hcosts hcharged

end Proposals

section ProposalReader

variable (rt : PyRuntime Float) (pricing : PricingTable Float) (answerAlias : String)

def proposalReader : Reader Float where
  Shape := fun payload response => ∃ data, rt.loads response.body = .ok data ∧
    (ObjectShape data ∧ ProposalShape rt data) ∧
      (ProposalCharged rt data → Priced rt pricing payload response (usageCounts data))
  Returned := fun response => ProposalCharged rt (decoded rt response)
  counts := fun response => usageCounts (decoded rt response)
  broken := fun _ => false

variable {rt pricing answerAlias}

theorem mayFallBack_proposalStatusError (payload : Payload) (code : Nat) (text : String)
    (callId : Option String) :
    mayFallBack (.raised (.provider (proposalStatusError (liteLLMClient rt pricing answerAlias)
        payload code text callId))) = passesOver (.status code text callId) := by
  rw [proposalStatusError]
  split
  · rename_i hmalformed
    rw [mayFallBack, passesOver, Bool.false_and]
    simp
    omega
  · exact mayFallBack_statusError code text callId

theorem fails_proposal (payload : Payload) (outcome : HttpOutcome)
    (hok : ∀ response, outcome ≠ .ok response) :
    ∃ error, postToolProposal rt (liteLLMClient rt pricing answerAlias) payload outcome =
      .error error ∧ error.Own ∧ mayFallBack error = passesOver outcome := by
  cases outcome with
  | budgetExhausted => exact ⟨_, rfl, trivial, rfl⟩
  | budgetUnavailable => exact ⟨_, rfl, trivial, mayFallBack_budgetUnavailable⟩
  | failed failure => exact ⟨_, rfl, trivial, mayFallBack_failure failure⟩
  | status code text callId =>
      exact ⟨_, rfl, trivial, mayFallBack_proposalStatusError payload code text callId⟩
  | ok response => exact absurd rfl (hok response)

theorem raisesOnly_liteLLMProposal (payload : Payload) (response : OkResponse) :
    RaisesOnly PyError.Own
        (postToolProposal rt (liteLLMClient rt pricing answerAlias) payload (.ok response)) ↔
      (proposalReader rt pricing).Shape payload response := by
  rw [postToolProposal, raisesOnly_parseProposal]
  exact exists_congr fun data => and_congr_right fun _ => and_congr_right fun _ =>
    imp_congr_right fun _ => raisesOnly_liteLLMCostFields

theorem proposalReader_describes :
    (proposalReader rt pricing).Describes proposalFields
      (postToolProposal rt (liteLLMClient rt pricing answerAlias)) where
  fails := fails_proposal
  raises := raisesOnly_liteLLMProposal
  returns := by
    intro payload response hshape hcharged
    obtain ⟨result, hresult⟩ :=
      (raisesOnly_iff_of_foreign (foreign_parseProposal foreignCosts_liteLLM hcharged)).1
        ((raisesOnly_liteLLMProposal payload response).2 hshape)
    exact ⟨result, hresult, (charged_of_parseProposal hresult).2⟩
  breaks := by
    intro payload response hshape hcharged
    cases hended : postToolProposal rt (liteLLMClient rt pricing answerAlias) payload
        (.ok response) with
    | ok result => exact absurd (charged_of_parseProposal hended).1 hcharged
    | error error =>
        exact ⟨error, rfl, final_parseProposal foreignCosts_liteLLM error hended⟩
  broken_not_returned := fun _ => nofun

end ProposalReader

section StreamReader

variable (rt : PyRuntime Float) (pricing : PricingTable Float) (answerAlias : String)

def readingCounts (reading : Reading Float) : Counts Float where
  input := reading.input
  output := reading.total rt.num
  known := reading.known

def CountsFit (payload : Payload) (response : OkResponse) (reading : Reading Float) : Prop :=
  SplitFits rt.num reading.reasoning (reading.total rt.num) ∧
    Priced rt pricing payload response (readingCounts rt reading)

def streamReader : Reader Float where
  Shape := fun payload response => BodyShape rt response ∧
    (ReadToEnd response → CountsFit rt pricing payload response (streamReading rt response))
  Returned := ReadToEnd
  counts := fun response => readingCounts rt (streamReading rt response)
  broken := fun response => response.failure = some .unavailable ∧
    (isDocument response = true ∨ isDone response.lines = false)

variable {rt pricing answerAlias}

theorem fails_stream (payload : Payload) (outcome : HttpOutcome)
    (hok : ∀ response, outcome ≠ .ok response) :
    ∃ error, streamCompletion rt (liteLLMClient rt pricing answerAlias) payload outcome =
      .error error ∧ error.Own ∧ mayFallBack error = passesOver outcome := by
  have hsame : streamCompletion rt (liteLLMClient rt pricing answerAlias) payload outcome =
      postCompletion rt (liteLLMClient rt pricing answerAlias) payload outcome := by
    cases outcome with
    | ok response => exact absurd rfl (hok response)
    | _ => rfl
  rw [hsame]
  exact fails_completion payload outcome hok

theorem raisesOnly_liteLLMStream (payload : Payload) (response : OkResponse) :
    RaisesOnly PyError.Own
        (streamCompletion rt (liteLLMClient rt pricing answerAlias) payload (.ok response)) ↔
      (streamReader rt pricing).Shape payload response := by
  rw [raisesOnly_streamCompletion]
  exact and_congr_right fun _ => imp_congr_right fun _ => and_congr_right fun _ =>
    raisesOnly_liteLLMCostFields

theorem foreign_finishStream {client : Client Float} {payload : Payload} {response : OkResponse}
    {state : StreamState Float} {reading : Reading Float} (hcosts : ForeignCosts client)
    (hreads : state.Reads reading) : Foreign (finishStream rt client payload response state) := by
  rw [finishStream, hreads.text]
  exact foreign_bind (foreign_ok _) fun _ => foreign_bind foreign_visibleTokens fun _ =>
    foreign_bind (hcosts _ _ _ _ _) fun _ => foreign_ok _

theorem counts_of_finishStream {client : Client Float} {payload : Payload} {response : OkResponse}
    {state : StreamState Float} {reading : Reading Float} {result : LLMResult Float}
    (hreads : state.Reads reading)
    (h : finishStream rt client payload response state = .ok result) :
    result.usageKnown = (readingCounts rt reading).known ∧
      result.inputTokens = (readingCounts rt reading).input ∧
      result.outputTokens = (readingCounts rt reading).output := by
  simp only [finishStream, bind_eq_ok_iff, hreads.text] at h
  obtain ⟨_, ⟨⟩, _, -, _, -, h⟩ := h
  cases h
  refine ⟨hreads.known, hreads.input, ?_⟩
  rw [readingCounts, Reading.total, hreads.output]

theorem streamReader_describes :
    (streamReader rt pricing).Describes completionFields
      (streamCompletion rt (liteLLMClient rt pricing answerAlias)) where
  fails := fails_stream
  raises := raisesOnly_liteLLMStream
  returns := by
    intro payload response hshape hend
    obtain ⟨state, hstate, hreads⟩ := readStream_reads hshape.1 hend
    have hraises : RaisesOnly PyError.Own
        (streamCompletion rt (liteLLMClient rt pricing answerAlias) payload (.ok response)) :=
      (raisesOnly_liteLLMStream payload response).2 hshape
    rw [streamCompletion, raisesOnly_bind_of_ok hstate] at hraises
    obtain ⟨result, hresult⟩ :=
      (raisesOnly_iff_of_foreign (foreign_finishStream foreignCosts_liteLLM hreads)).1 hraises
    refine ⟨result, ?_, counts_of_finishStream hreads hresult⟩
    rw [streamCompletion, hstate]
    exact hresult
  breaks := by
    intro payload response hshape hend
    obtain ⟨failure, hfailure, hraise⟩ := readStream_breaks hshape.1 hend
    refine ⟨_, by rw [streamCompletion, hraise]; rfl, ?_⟩
    change ¬ ReadToEnd response at hend
    rw [ReadToEnd, not_or, not_and] at hend
    have hcut : isDocument response = true ∨ isDone response.lines = false := by
      cases hdocument : isDocument response with
      | true => exact .inl rfl
      | false => exact .inr (by simpa using hend.2 hdocument)
    refine (mayFallBack_failure failure).trans ?_
    cases failure <;> simp [streamReader, hfailure, hcut, passesOver]
  broken_not_returned := by
    intro response hbroken hend
    simp only [streamReader, decide_eq_true_eq] at hbroken hend
    obtain ⟨hfailure, hcut⟩ := hbroken
    rcases hend with hnone | ⟨hlines, hdone⟩
    · rw [hfailure] at hnone
      cases hnone
    · rcases hcut with hdocument | hopen
      · exact Bool.false_ne_true (hlines.symm.trans hdocument)
      · exact Bool.false_ne_true (hopen.symm.trans hdone)

end StreamReader

section Serve

variable {rt : PyRuntime Float} {modelId : String} {payload : Payload} {response : OkResponse}

theorem raisesOnly_serveCompletion :
    RaisesOnly PyError.Own (postCompletion rt (serveClient modelId) payload (.ok response)) ↔
      ∃ data, rt.loads response.body = .ok data ∧ CompletionShape rt.num data := by
  rw [postCompletion, raisesOnly_parseCompletion]
  exact exists_congr fun data => and_congr_right fun _ => and_iff_left trivial

theorem raisesOnly_serveProposal :
    RaisesOnly PyError.Own (postToolProposal rt (serveClient modelId) payload (.ok response)) ↔
      ∃ data, rt.loads response.body = .ok data ∧ ObjectShape data ∧ ProposalShape rt data := by
  rw [postToolProposal, raisesOnly_parseProposal]
  exact exists_congr fun data => and_congr_right fun _ => and_iff_left fun _ => trivial

theorem raisesOnly_serveStream :
    RaisesOnly PyError.Own (streamCompletion rt (serveClient modelId) payload (.ok response)) ↔
      BodyShape rt response ∧ (ReadToEnd response →
        SplitFits rt.num (streamReading rt response).reasoning
          ((streamReading rt response).total rt.num)) := by
  rw [raisesOnly_streamCompletion]
  exact and_congr_right fun _ => imp_congr_right fun _ => and_iff_left trivial

end Serve

section Totality

def GovernedTotal {α : Type} (rt : PyRuntime Float) (reader : Reader Float)
    (fields : ResultFields Float α) (call : Payload → HttpOutcome → Raising Float α) : Prop :=
  ∀ policy tenantId attempts payload,
    RaisesOnly PyError.Own (governed rt.num fields policy tenantId call attempts payload).2 ↔
      ∀ made ∈ governedAttempts reader policy tenantId attempts payload,
        AttemptFits rt.num reader made.1 made.2

/-- **Totality of the client.** A response with status 200 ends in a result or in one of the
client's own exceptions exactly if it has the shape its parser walks. -/
theorem client_total_iff_shaped (rt : PyRuntime Float) (pricing : PricingTable Float)
    (modelId answerAlias : String) :
    ((∀ payload response,
        (RaisesOnly PyError.Own (postCompletion rt (serveClient modelId) payload (.ok response)) ↔
          ∃ data, rt.loads response.body = .ok data ∧ CompletionShape rt.num data) ∧
        (RaisesOnly PyError.Own (postToolProposal rt (serveClient modelId) payload (.ok response)) ↔
          ∃ data, rt.loads response.body = .ok data ∧ ObjectShape data ∧ ProposalShape rt data) ∧
        (RaisesOnly PyError.Own (streamCompletion rt (serveClient modelId) payload (.ok response)) ↔
          BodyShape rt response ∧ (ReadToEnd response →
            SplitFits rt.num (streamReading rt response).reasoning
              ((streamReading rt response).total rt.num)))) ∧
      GovernedTotal rt (completionReader rt pricing) completionFields
        (postCompletion rt (liteLLMClient rt pricing answerAlias)) ∧
      GovernedTotal rt (proposalReader rt pricing) proposalFields
        (postToolProposal rt (liteLLMClient rt pricing answerAlias)) ∧
      GovernedTotal rt (streamReader rt pricing) completionFields
        (streamCompletion rt (liteLLMClient rt pricing answerAlias))) := by
  refine ⟨fun payload response => ⟨raisesOnly_serveCompletion, raisesOnly_serveProposal,
    raisesOnly_serveStream⟩, ?_, ?_, ?_⟩
  · exact fun policy tenantId _ payload =>
      raisesOnly_governed completionReader_describes policy tenantId payload
  · exact fun policy tenantId _ payload =>
      raisesOnly_governed proposalReader_describes policy tenantId payload
  · exact fun policy tenantId _ payload =>
      raisesOnly_governed streamReader_describes policy tenantId payload

def emptyChoicesBody : ByteArray := "\x7b\"choices\": []\x7d".toUTF8

def emptyChoicesResponse : OkResponse where
  contentType := "application/json"
  costHeader := none
  body := emptyChoicesBody
  lines := ["\x7b\"choices\": []\x7d"]

def emptyChoicesRuntime : PyRuntime ℚ where
  num :=
    { ofInt := fun n => some n
      zero := 0
      isZero := fun x => x = 0
      isPositive := fun x => 0 < x
      add := (· + ·)
      sub := (· - ·)
      mul := (· * ·)
      div := (· / ·) }
  loads := fun body =>
    if body = emptyChoicesBody then .ok (.dict [("choices", .list [])]) else .error .jsonDecodeError
  loadsText := fun _ => .error .jsonDecodeError
  lower := id
  parseFloat := fun _ => none

def plainPayload : Payload where
  model := "model"
  maxTokens := none
  hasTools := false

/-- The index error of an empty list of choices escapes from all three calls. -/
theorem empty_choices_escape :
    ¬ RaisesOnly PyError.Own (postCompletion emptyChoicesRuntime (serveClient "model") plainPayload
        (.ok emptyChoicesResponse)) ∧
      ¬ RaisesOnly PyError.Own (postToolProposal emptyChoicesRuntime (serveClient "model")
        plainPayload (.ok emptyChoicesResponse)) ∧
      ¬ RaisesOnly PyError.Own (streamCompletion emptyChoicesRuntime (serveClient "model")
        plainPayload (.ok emptyChoicesResponse)) := by
  have hloads : emptyChoicesRuntime.loads emptyChoicesResponse.body =
      .ok (.dict [("choices", .list [])]) := by
    simp [emptyChoicesRuntime, emptyChoicesResponse]
  have hnone : ¬ ObjectShape (.dict [("choices", .list [])] : PyValue ℚ) := fun h => h.choice
  refine ⟨fun h => ?_, fun h => ?_, fun h => ?_⟩
  · obtain ⟨data, hdata, hshape⟩ := raisesOnly_serveCompletion.1 h
    rw [hloads] at hdata
    cases hdata
    exact hnone hshape.toObjectShape
  · obtain ⟨data, hdata, hshape, -⟩ := raisesOnly_serveProposal.1 h
    rw [hloads] at hdata
    cases hdata
    exact hnone hshape
  · have hbody := (raisesOnly_serveStream.1 h).1
    have hdocument : isDocument emptyChoicesResponse = true := by decide
    rw [BodyShape, if_pos hdocument, hloads] at hbody
    exact hnone (hbody rfl).toObjectShape

end Totality

end AiAnalytics.App
