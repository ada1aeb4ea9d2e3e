import AiAnalytics.App.Orchestration.Proof.ToolGate
import AiAnalytics.App.Validation.Grounding
import AiAnalytics.App.Validation.Proof.PreflightAggregate

/-!
# What a run answers from, and what it leaves in the conversation

A run that completes has either declined the question or checked its answer against the result of
its one tool call. The conversation goes on with that result and with that answer; a run that ends
otherwise adds no answer.
-/

namespace AiAnalytics.App.Loop.Talk

open Lib Lib.Prog

variable {Float : Type}

section Answers

variable (cfg : LoopConfig Float) (result : PyValue Float)

inductive Drafted (history : History Float) : String → Prop where
  | streamed (llmCallId : String) (deltas : List String) (reply : LLMResult Float)
      (hreply : ⟨.streamAnswer llmCallId cfg.prompt result, (deltas, .ok reply)⟩ ∈ history) :
      Drafted history reply.text
  | whole (llmCallId : String) (reply : LLMResult Float)
      (hreply : ⟨.answerWithQueryResult llmCallId cfg.prompt result, .ok reply⟩ ∈ history) :
      Drafted history reply.text
  | crew (plan : Kickoff) (output : String) (hplan : ⟨.kickoff cfg.prompt result, plan⟩ ∈ history)
      (houtput : plan.output = .ok output) : Drafted history (String.ofList (strip output.toList))

def withCaveat (text : String) : Option String → String
  | none => text
  | some caveat => text ++ "\n\n" ++ caveat

def Grounded (answer : String) (history : History Float) : Prop :=
  ∃ text, ∃ report : GroundingReport Float, Drafted cfg result history text ∧
    ⟨.checkAnswerGrounding text result cfg.prompt, .ok report⟩ ∈ history ∧
    answer = withCaveat text report.caveat

theorem lasting_drafted (text : String) :
    Lasting fun history => Drafted cfg result history text := by
  intro x history _ hdrafted
  cases hdrafted with
  | streamed llmCallId deltas reply hreply =>
      exact .streamed llmCallId deltas reply (List.mem_append_left _ hreply)
  | whole llmCallId reply hreply => exact .whole llmCallId reply (List.mem_append_left _ hreply)
  | crew plan output hplan houtput => exact .crew plan output (List.mem_append_left _ hplan) houtput

theorem lasting_grounded (answer : String) : Lasting (Grounded cfg result answer) := by
  rintro x history hx ⟨text, report, hdrafted, hreport, hanswer⟩
  exact ⟨text, report, lasting_drafted cfg result text x history hx hdrafted,
    List.mem_append_left _ hreport, hanswer⟩

variable {cfg result} {messages added : List (Message Float)} {P : History Float → Prop}

theorem ensures_orFault_known {α : Type} (hleaves : Leaves cfg P added) (reply : Except PyFault α) :
    Leads cfg messages (During cfg messages added P) (orFault reply)
      fun a => During cfg messages added fun history => P history ∧ reply = .ok a := by
  cases reply with
  | ok a => exact ensures_pure fun _ _ hstate => ⟨⟨hstate.1, rfl⟩, hstate.2⟩
  | error fault =>
      exact ensures_throw fun history _ hstate =>
        ⟨added, hleaves.evidence history hstate.1, hstate.2⟩

theorem ensures_applyGrounding {text : String}
    (hleaves : Leaves cfg (fun history => P history ∧ Drafted cfg result history text) added) :
    Leads cfg messages
      (During cfg messages added fun history => P history ∧ Drafted cfg result history text)
      (applyGrounding cfg text result)
      fun answer => During cfg messages added fun history => P history ∧
      Grounded cfg result answer history := by
  apply ensures_bind (ensures_request hleaves rfl)
  intro reply
  apply ensures_bind (ensures_orFault_known (hleaves.and (lasting_mem _)) reply)
  intro report
  have hgrounded (history : History Float) (state : LoopState Float)
      (hstate : (((P history ∧ Drafted cfg result history text) ∧
        ⟨.checkAnswerGrounding text result cfg.prompt, reply⟩ ∈ history) ∧ reply = .ok report) ∧
        Stands cfg (messages ++ added) state) :
      (P history ∧ Grounded cfg result (withCaveat text report.caveat) history) ∧
        Stands cfg (messages ++ added) state := by
    obtain ⟨⟨⟨⟨hP, hdrafted⟩, hmem⟩, rfl⟩, hstands⟩ := hstate
    exact ⟨⟨hP, text, report, hdrafted, hmem, rfl⟩, hstands⟩
  have hleaves' :=
    (hleaves.and (lasting_mem ⟨.checkAnswerGrounding text result cfg.prompt, reply⟩)).and
    (show Lasting fun _ => reply = .ok report from fun _ _ _ hreply => hreply)
  cases hcaveat : report.caveat with
  | none =>
      rw [hcaveat] at hgrounded
      exact ensures_pure hgrounded
  | some caveat =>
      rw [hcaveat] at hgrounded
      apply hleaves'.books (framed_addStep _)
      exact ensures_pure hgrounded

theorem ensures_runTwoAgentAnswer (hleaves : Leaves cfg P added) :
    Leads cfg messages (During cfg messages added P) (runTwoAgentAnswer cfg result)
      fun text => During cfg messages added fun history => P history ∧
      Drafted cfg result history text := by
  apply ensures_bind (ensures_request hleaves rfl)
  intro plan
  have hplan := hleaves.and (@lasting_mem Float ⟨.kickoff cfg.prompt result, plan⟩)
  apply hplan.aside (aside_crewCalls cfg _)
  intro _
  apply ensures_bind (ensures_orFault_known hplan _)
  intro output
  have hknown := hplan.and (show Lasting fun (_ : History Float) => plan.output = .ok output from
    fun _ _ _ houtput => houtput)
  apply hknown.aside framed_raiseIf
  intro _
  refine ensures_pure fun history state hstate => ?_
  obtain ⟨⟨⟨hP, hmem⟩, houtput⟩, hstands⟩ := hstate
  exact ⟨⟨hP, .crew plan output hmem houtput⟩, hstands⟩

def Replied (cfg : LoopConfig Float) (talk : List (Message Float)) (answer : String)
    (state : LoopState Float) : Prop :=
  ∃ message : Message Float, message.role = "assistant" ∧ message.content = answer ∧
    message.metadata = .dict [] ∧ Stands cfg (talk ++ [message]) state

theorem ensures_strategyError (answerCallId : String) (error : LoopError Float)
    {post : String → History Float → LoopState Float → Prop} :
    Leads cfg messages (Unended cfg messages) (strategyError answerCallId error) post := by
  have hraised {failure : LoopState Float → LoopError Float} :
      Leads cfg messages (Unended cfg messages)
        (do let state ← get; throw (failure state) : LoopM Float String) post := by
    apply ensures_bind (ensures_get fun _ _ hstate => hstate)
    intro state
    exact ensures_throw fun _ _ hstate => hstate
  cases error with
  | llmConfiguration message => exact hraised
  | fault fault => exact hraised
  | _ => exact ensures_throw fun _ _ hstate => hstate

theorem ensures_crewAnswer (hleaves : Leaves cfg P added) (answerCallId : String)
    (ansStart : Float) : Leads cfg messages (During cfg messages added P)
      (crewAnswer cfg result answerCallId ansStart)
      fun answer history state =>
        (P history ∧ Grounded cfg result answer history) ∧ Replied cfg (messages ++ added) answer
          state := by
  have hdraft : Leads cfg messages (During cfg messages added P)
      (tryCatch (runTwoAgentAnswer cfg result) (strategyError answerCallId))
      fun text => During cfg messages added fun history => P history ∧
        Drafted cfg result history text := by
    apply ensures_tryCatch (ensures_runTwoAgentAnswer hleaves)
    intro error
    exact ensures_strategyError answerCallId error
  apply ensures_bind hdraft
  intro text
  have hdrafted := hleaves.and (lasting_drafted cfg result text)
  apply hdrafted.aside (aside_of_books (framed_millisSince cfg _))
  intro latencyMs
  refine hdrafted.local (fun _ => ⟨rfl, rfl⟩) ?_
  apply ensures_bind (ensures_applyGrounding hdrafted)
  intro answer
  have hgrounded := hleaves.and (lasting_grounded cfg result answer)
  apply hgrounded.aside framed_get
  intro state
  apply hgrounded.books (framed_emit cfg _ _ _)
  apply hgrounded.books (framed_speak cfg _ _)
  apply ensures_bind (ensures_addMessage_known hgrounded.lasting _ _ _)
  intro _
  exact ensures_pure fun _ _ hreplied => hreplied

theorem ensures_askForAnswer (hleaves : Leaves cfg P added) (answerCallId : String)
    (ansStart : Float) : Leads cfg messages (During cfg messages added P)
      (askForAnswer cfg result answerCallId ansStart)
      fun outcome => During cfg messages added fun history => P history ∧
        ∀ reply : LLMResult Float, outcome = .ok reply → Drafted cfg result history reply.text := by
  apply hleaves.aside framed_get
  intro state
  apply ensures_ite
  · intro _
    refine hleaves.local (fun _ => ⟨rfl, rfl⟩) ?_
    apply ensures_bind (ensures_request hleaves rfl)
    rintro ⟨deltas, outcome⟩
    apply (hleaves.and (lasting_mem _)).books (framed_publishDeltas cfg _ _ _ _)
    refine ensures_pure fun history state hstate => ⟨⟨hstate.1.1, ?_⟩, hstate.2⟩
    rintro reply rfl
    exact .streamed answerCallId deltas reply hstate.1.2
  · intro _
    refine hleaves.local (fun _ => ⟨rfl, rfl⟩) ?_
    apply (ensures_request hleaves rfl).weaken
    · exact fun _ _ hstate => hstate
    · rintro outcome history state ⟨⟨hP, hmem⟩, hstands⟩
      refine ⟨⟨hP, ?_⟩, hstands⟩
      rintro reply rfl
      exact .whole answerCallId reply hmem
    · exact fun _ _ _ hunended => hunended

theorem ensures_recordAnswer (hleaves : Leaves cfg P added) (answer : String)
    (reply : LLMResult Float) (answerCallId : String) (latencyMs : Int) :
    Leads cfg messages (During cfg messages added P)
      (recordAnswer cfg answer reply result answerCallId latencyMs)
      fun _ history state => P history ∧ Replied cfg (messages ++ added) answer state := by
  apply hleaves.aside (aside_callCost cfg _ _ _ _ _)
  intro cost
  apply hleaves.aside (aside_recordCall cfg _ _ _)
  intro _
  apply hleaves.aside (aside_appendCall _)
  intro _
  apply hleaves.books (framed_emit cfg _ _ _)
  apply hleaves.books (calm_appendStep _).framed
  exact ensures_addMessage_known hleaves.lasting _ _ _

theorem ensures_manualAnswer (hleaves : Leaves cfg P added) (answerCallId : String)
    (ansStart : Float) : Leads cfg messages (During cfg messages added P)
      (manualAnswer cfg result answerCallId ansStart)
      fun answer history state =>
        (P history ∧ Grounded cfg result answer history) ∧ Replied cfg (messages ++ added) answer
          state := by
  apply hleaves.books (framed_emit cfg _ _ _)
  apply hleaves.books framed_ensureCostDeterminate
  apply ensures_bind (ensures_askForAnswer hleaves answerCallId ansStart)
  intro outcome
  have hraised (error : LoopError Float) {post : String → History Float → LoopState Float → Prop} :
      Leads cfg messages
        (During cfg messages added fun history => P history ∧
          ∀ reply : LLMResult Float, outcome = .ok reply → Drafted cfg result history reply.text)
        (throw error) post :=
    ensures_throw fun history _ hstate => ⟨added, hleaves.evidence history hstate.1.1, hstate.2⟩
  cases outcome with
  | error error => cases error <;> exact hraised _
  | ok reply =>
      have hdrafted := hleaves.and (lasting_drafted cfg result reply.text)
      have hlatency : Leads cfg messages
          (During cfg messages added fun history => P history ∧ ∀ other : LLMResult Float,
            (Except.ok reply : Except LLMError (LLMResult Float)) = .ok other →
              Drafted cfg result history other.text)
          (millisSince cfg ansStart)
          fun _ => During cfg messages added fun history => P history ∧
            Drafted cfg result history reply.text :=
        (ensures_aside hdrafted (aside_of_books (framed_millisSince cfg _))).mono_pre
          fun _ _ hstate => ⟨⟨hstate.1.1, hstate.1.2 reply rfl⟩, hstate.2⟩
      apply ensures_bind hlatency
      intro latencyMs
      refine hdrafted.local (fun _ => ⟨rfl, rfl⟩) ?_
      apply ensures_bind (ensures_applyGrounding hdrafted)
      intro answer
      have hgrounded := hleaves.and (lasting_grounded cfg result answer)
      apply hgrounded.books (framed_emit cfg _ _ _)
      apply hgrounded.books (framed_speak cfg _ _)
      apply ensures_bind (ensures_recordAnswer hgrounded answer reply answerCallId latencyMs)
      intro _
      exact ensures_pure fun _ _ hreplied => hreplied

theorem ensures_answerQuestion (hleaves : Leaves cfg P added) :
    Leads cfg messages (During cfg messages added P) (answerQuestion cfg result)
      fun answer history state =>
        (P history ∧ Grounded cfg result answer history) ∧ Replied cfg (messages ++ added) answer
          state := by
  apply hleaves.aside (aside_request rfl)
  intro answerCallId
  refine hleaves.local (fun _ => ⟨rfl, rfl⟩) ?_
  apply hleaves.books (framed_checkCancellation _)
  apply hleaves.aside (aside_request rfl)
  intro ansStart
  cases cfg.strategy with
  | crewai => exact ensures_crewAnswer hleaves answerCallId ansStart
  | manual => exact ensures_manualAnswer hleaves answerCallId ansStart

end Answers

section Ends

variable {cfg : LoopConfig Float} {messages talk : List (Message Float)} {P : History Float → Prop}
  {err : LoopError Float → History Float → LoopState Float → Prop}

def Kept (partialText : String) (tail : List (Message Float)) : Prop :=
  if partialText = "" then tail = []
  else ∃ message : Message Float, tail = [message] ∧ message.role = "assistant" ∧
    message.content = partialText ++ " [interrupted]" ∧
    message.metadata = .dict [("interrupted", .bool true)]

theorem nil_of_kept {tail : List (Message Float)} (hkept : Kept "" tail) : tail = [] := by
  rwa [Kept, if_pos rfl] at hkept

def Keeping (P : History Float → Prop) (talk : List (Message Float)) (partialText : String)
    (history : History Float) (state : LoopState Float) : Prop :=
  P history ∧ ∃ tail, Kept partialText tail ∧ state.messages = talk ++ tail

structure Recorded (talk : List (Message Float)) (answer : String) (ending : Ending Float)
    (value : LoopResult Float) (state : LoopState Float) : Prop where
  answer : value.answer = answer
  status : value.status = ending.status
  stored : state.stored.status = ending.status
  messages : ∃ tail, Kept ending.partialText tail ∧ state.messages = talk ++ tail

theorem ensures_keepPartialText (hP : Lasting P) (partialText : String) :
    Ensures (fun history state => P history ∧ Stands cfg talk state)
      (keepPartialText cfg partialText) (fun _ => Keeping P talk partialText) err := by
  apply ensures_ite
  · intro hempty
    refine ensures_pure fun history state hstate => ⟨hstate.1, [], ?_, ?_⟩
    · rw [Kept, if_pos hempty]
    · rw [hstate.2.1, List.append_nil]
  · intro hpartial
    apply (ensures_addMessage_known hP _ _ _).weaken
    · exact fun _ _ hstate => hstate
    · rintro _ history state ⟨hP, message, hrole, hcontent, hmetadata, hmessages, -⟩
      refine ⟨hP, [message], ?_, hmessages⟩
      rw [Kept, if_neg hpartial]
      exact ⟨message, rfl, hrole, hcontent, hmetadata⟩
    · exact fun _ _ _ hraised => hraised

theorem ensures_finishRun_known (hP : Lasting P) (answer : String) (ending : Ending Float)
    (latency : LoopState Float → Int → Int) :
    Ensures (fun history state => P history ∧ Stands cfg talk state)
      (finishRun cfg answer ending latency)
      (fun value history state => P history ∧ Recorded talk answer ending value state) err := by
  apply ensures_bind (ensures_get fun _ _ hstate => hstate)
  intro start
  apply ensures_bind
    ((calm_millisSince cfg _).keeps (stable_books_of_aside (stable_stands hP)))
  intro latencyMs
  apply ensures_bind (ensures_keepPartialText hP ending.partialText)
  intro _
  have hutcnow : Ensures (Keeping P talk ending.partialText) (request .utcnow)
      (fun _ => Keeping P talk ending.partialText) err := by
    apply ensures_ask
    intro reply history state hstate
    exact ⟨hP _ _ rfl hstate.1, hstate.2⟩
  have hupdate (run : Run Float) (hrun : run.status = ending.status) :
      Ensures (Keeping P talk ending.partialText) (updateRun run)
        (fun _ history state => Keeping P talk ending.partialText history state ∧
          state.stored.status = ending.status) err :=
    ensures_modify fun _ _ hstate => ⟨hstate, hrun⟩
  have hrecord : Ensures (Keeping P talk ending.partialText)
      (recordTerminal cfg ending (telemetry start latencyMs))
      (fun _ history state => Keeping P talk ending.partialText history state ∧
        state.stored.status = ending.status) err := by
    apply ensures_bind hutcnow
    intro completedAt
    apply ensures_bind (ensures_get fun _ _ hstate => hstate)
    intro before
    apply ensures_bind (hupdate _ rfl)
    intro _
    exact ensures_modify fun _ _ hstate => hstate
  apply ensures_bind hrecord
  intro _
  apply ensures_bind (ensures_get fun _ _ hstate => hstate)
  intro state
  exact ensures_pure fun _ _ hstate => ⟨hstate.1.1, rfl, rfl, hstate.2, hstate.1.2⟩

end Ends

section Runs

variable {cfg : LoopConfig Float} {messages : List (Message Float)}

def DeclinedBy (cfg : LoopConfig Float) (answer : String) (history : History Float) : Prop :=
  ∃ llmCallId schema, ∃ proposal : ToolProposalResult Float,
    ⟨.proposeTaxiQuery .proposal llmCallId cfg.prompt schema, .ok proposal⟩ ∈ history ∧
      proposal.outcome ≠ .toolCall ∧ answer = declineAnswer proposal

inductive Supported (cfg : LoopConfig Float) (answer : String) (history : History Float) :
    List (Message Float) → Prop where
  | declined (huntouched : Untouched history) (hdeclined : DeclinedBy cfg answer history) :
      Supported cfg answer history []
  | grounded (message : Message Float) (result : PyValue Float)
      (hheard : Heard cfg result message history) (hgrounded : Grounded cfg result answer history) :
      Supported cfg answer history [message]

structure Completes (cfg : LoopConfig Float) (messages : List (Message Float))
    (value : LoopResult Float) (history : History Float) (state : LoopState Float) : Prop where
  status : value.status = .completed
  stored : state.stored.status = .completed
  talk : ∃ added, ∃ message : Message Float, Supported cfg value.answer history added ∧
    message.role = "assistant" ∧ message.content = value.answer ∧ message.metadata = .dict [] ∧
    state.messages = messages ++ added ++ [message]

theorem ensures_finishRun_completed {P : History Float → Prop} {added : List (Message Float)}
    {answer : String} {err : LoopError Float → History Float → LoopState Float → Prop}
    (hP : Lasting P) (hsupported : ∀ history, P history → Supported cfg answer history added)
    (latency : LoopState Float → Int → Int) :
    Ensures (fun history state => P history ∧ Replied cfg (messages ++ added) answer state)
      (finishRun cfg answer { status := .completed } latency) (Completes cfg messages) err := by
  rintro history state ⟨hhistory, message, hrole, hcontent, hmetadata, hstands⟩
  have hfinish : Ensures
      (fun history state => P history ∧ Stands cfg (messages ++ added ++ [message]) state)
      (finishRun cfg answer { status := .completed } latency) (Completes cfg messages) err := by
    apply (ensures_finishRun_known hP answer _ latency).weaken
    · exact fun _ _ hstate => hstate
    · rintro value history state ⟨hhistory, hanswer, hstatus, hstored, tail, hkept, htalk⟩
      refine ⟨hstatus, hstored, added, message, ?_, hrole, hcontent.trans hanswer.symm, hmetadata,
        ?_⟩
      · rw [hanswer]
        exact hsupported history hhistory
      · rw [htalk, nil_of_kept hkept, List.append_nil]
    · exact fun _ _ _ hraised => hraised
  exact hfinish history state ⟨hhistory, hstands⟩

theorem ensures_proposeTaxiQuery_known (schema : PyValue Float) (llmCallId : String) :
    Leads cfg messages (Idle cfg messages (Choosing schema)) (proposeTaxiQuery cfg schema llmCallId)
      fun proposal => Idle cfg messages fun history => Choosing schema history ∧
        ⟨.proposeTaxiQuery .proposal llmCallId cfg.prompt schema, .ok proposal⟩ ∈ history := by
  have hleaves : Leaves cfg (Choosing schema) [] := leaves_choosing schema
  apply hleaves.books (framed_emit cfg _ _ _)
  apply hleaves.books framed_ensureCostDeterminate
  apply hleaves.aside (aside_request rfl)
  intro callStart
  apply ensures_bind (ensures_runWithCancellation_known hleaves rfl rfl)
  intro reply
  have hknown := hleaves.and (lasting_mem
    ⟨.proposeTaxiQuery .proposal llmCallId cfg.prompt schema, reply⟩)
  have hraised (error : LoopError Float)
      {post : ToolProposalResult Float → History Float → LoopState Float → Prop} :
      Leads cfg messages
        (During cfg messages [] fun history => Choosing schema history ∧
          ⟨.proposeTaxiQuery .proposal llmCallId cfg.prompt schema, reply⟩ ∈ history)
        (throw error) post :=
    ensures_throw fun history _ hstate => ⟨[], hknown.evidence history hstate.1, hstate.2⟩
  cases reply with
  | error error =>
      cases error with
      | configuration message => exact hraised _
      | provider error =>
          apply hknown.aside (aside_recordProposalFailure cfg _ _ _)
          intro _
          exact hraised _
  | ok proposal =>
      apply hknown.aside (aside_recordProposal cfg _ _ _)
      intro _
      exact ensures_pure fun _ _ hstate => hstate

theorem ensures_declineRun_completes (schema : PyValue Float) (llmCallId : String)
    (proposal : ToolProposalResult Float) (hdeclines : proposal.outcome ≠ .toolCall) :
    Leads cfg messages
      (Idle cfg messages fun history => Choosing schema history ∧
        ⟨.proposeTaxiQuery .proposal llmCallId cfg.prompt schema, .ok proposal⟩ ∈ history)
      (declineRun cfg proposal) (Completes cfg messages) := by
  have hleaves : Leaves cfg (Choosing schema) [] := leaves_choosing schema
  have hknown := hleaves.and (lasting_mem
    ⟨.proposeTaxiQuery .proposal llmCallId cfg.prompt schema, .ok proposal⟩)
  refine hknown.local (fun _ => ⟨rfl, rfl⟩) ?_
  apply hknown.books (framed_emit cfg _ _ _)
  apply hknown.books (framed_addStep _)
  apply ensures_bind (ensures_addMessage_known hknown.lasting _ _ _)
  intro _
  apply ensures_finishRun_completed hknown.lasting
  rintro history ⟨⟨huntouched, -⟩, hmem⟩
  exact .declined huntouched ⟨llmCallId, schema, proposal, hmem, hdeclines, rfl⟩

def AfterSelecting (cfg : LoopConfig Float) (messages : List (Message Float))
    (schema : PyValue Float) : Selection Float → History Float → LoopState Float → Prop
  | .declined value => Completes cfg messages value
  | .tool _ _ _ => Idle cfg messages (Choosing schema)

theorem ensures_selectTool_known (schema : PyValue Float) (proposalCallId : String) :
    Leads cfg messages (Idle cfg messages (Choosing schema)) (selectTool cfg schema proposalCallId)
      (AfterSelecting cfg messages schema) := by
  have hleaves : Leaves cfg (Choosing schema) [] := leaves_choosing schema
  apply hleaves.books (framed_checkCancellation _)
  refine hleaves.local (fun _ => ⟨rfl, rfl⟩) ?_
  apply hleaves.aside (aside_request rfl)
  intro entry
  match entry with
  | some (name, arguments) =>
      refine hleaves.local (fun _ => ⟨rfl, rfl⟩) ?_
      apply hleaves.books (framed_addStep _)
      exact ensures_pure fun _ _ hidle => hidle
  | none =>
      apply ensures_bind (ensures_proposeTaxiQuery_known schema proposalCallId)
      intro proposal
      apply ensures_ite
      · intro _
        have hknown := hleaves.and (lasting_mem
          ⟨.proposeTaxiQuery .proposal proposalCallId cfg.prompt schema, .ok proposal⟩)
        apply hknown.aside (aside_of_books (framed_candidateOf _ _ _))
        intro candidate
        apply hknown.aside (aside_repairProposal cfg _ _ _)
        intro selected
        exact ensures_pure fun _ _ hidle => ⟨hidle.1.1, hidle.2⟩
      · intro hdeclines
        apply ensures_bind (ensures_declineRun_completes schema proposalCallId proposal hdeclines)
        intro value
        exact ensures_pure fun _ _ hcompletes => hcompletes

theorem ensures_answerWithTool_completes (schema : PyValue Float) (proposalCallId : String)
    (llmCallId : Option String) (name : String) (arguments : Dict Float) :
    Leads cfg messages (Idle cfg messages (Choosing schema))
      (answerWithTool cfg schema proposalCallId llmCallId name arguments)
      (Completes cfg messages) := by
  apply ensures_bind (ensures_requestTool schema proposalCallId llmCallId name arguments)
  intro _
  apply ensures_bind (ensures_runTool llmCallId)
  intro result
  refine ensures_exists fun message => ?_
  have hleaves : Leaves cfg (Heard cfg result message) [message] := leaves_heard result message
  apply hleaves.books (framed_reduceContext cfg _ _)
  apply ensures_bind (ensures_answerQuestion hleaves)
  intro answer
  apply ensures_finishRun_completed (hleaves.lasting.and (lasting_grounded cfg result answer))
  rintro history ⟨hheard, hgrounded⟩
  exact .grounded message result hheard hgrounded

theorem ensures_loopBody_completes :
    Leads cfg messages (Idle cfg messages Untouched) (loopBody cfg) (Completes cfg messages) := by
  apply leaves_untouched.books (framed_checkCancellation _)
  apply leaves_untouched.aside (aside_request rfl)
  intro proposalCallId
  apply leaves_untouched.aside (aside_obtainClients _)
  intro _
  apply leaves_untouched.aside (aside_track _)
  intro _
  apply ensures_bind (ensures_loadSchema proposalCallId)
  intro schema
  apply ensures_bind (ensures_selectTool_known schema proposalCallId)
  intro selection
  cases selection with
  | declined value => exact ensures_pure fun _ _ hcompletes => hcompletes
  | tool llmCallId name arguments =>
      exact ensures_answerWithTool_completes schema proposalCallId llmCallId name arguments

inductive Closing (cfg : LoopConfig Float) (messages : List (Message Float))
    (history : History Float) (state : LoopState Float) :
    Except (LoopError Float) (LoopResult Float) → Prop where
  | completed (value : LoopResult Float) (hcompletes : Completes cfg messages value history state) :
      Closing cfg messages history state (.ok value)
  | cancelled (value : LoopResult Float) (added tail : List (Message Float))
      (hgathered : Gathered cfg history added) (hstatus : value.status = .cancelled)
      (hstored : state.stored.status = .cancelled) (hkept : Kept value.answer tail)
      (htalk : state.messages = messages ++ added ++ tail) :
      Closing cfg messages history state (.ok value)
  | exceeded (value : LoopResult Float) (added : List (Message Float))
      (hgathered : Gathered cfg history added) (hstatus : value.status = .budgetExceeded)
      (hstored : state.stored.status = .budgetExceeded) (hanswer : value.answer = "")
      (htalk : state.messages = messages ++ added) : Closing cfg messages history state (.ok value)
  | failed (error : LoopError Float) (added : List (Message Float))
      (hgathered : Gathered cfg history added) (hstored : state.stored.status = .failed)
      (htalk : state.messages = messages ++ added) :
      Closing cfg messages history state (.error error)
  | unrecorded (error : LoopError Float) (added : List (Message Float))
      (hgathered : Gathered cfg history added) (hstands : Stands cfg (messages ++ added) state) :
      Closing cfg messages history state (.error error)

theorem ensures_recordError_closing (error : LoopError Float) :
    Ensures (Unended cfg messages) (recordError cfg error)
      (fun value history state => Closing cfg messages history state (.ok value))
      fun error history state => Closing cfg messages history state (.error error) := by
  refine ensures_exists fun added => ?_
  cases error with
  | runCancelled partialText =>
      apply (ensures_finishRun_known (lasting_gathered cfg added) partialText
        (cancelledEnding partialText) _).weaken
      · exact fun _ _ hstate => hstate
      · rintro value history state ⟨hgathered, hanswer, hstatus, hstored, tail, hkept, htalk⟩
        rw [← show value.answer = partialText from hanswer] at hkept
        exact .cancelled value added tail hgathered hstatus hstored hkept htalk
      · exact fun _ _ _ hraised => hraised
  | budgetExceeded error =>
      apply (ensures_finishRun_known (lasting_gathered cfg added) "" (exceededEnding error)
        _).weaken
      · exact fun _ _ hstate => hstate
      · rintro value history state ⟨hgathered, hanswer, hstatus, hstored, tail, hkept, htalk⟩
        rw [nil_of_kept hkept, List.append_nil] at htalk
        exact .exceeded value added hgathered hstatus hstored hanswer htalk
      · exact fun _ _ _ hraised => hraised
  | orchestration error =>
      apply ensures_bind (ensures_finishRun_known (lasting_gathered cfg added) ""
        (failedEnding error) _)
      intro value
      refine ensures_throw fun history state hrecorded => ?_
      obtain ⟨hgathered, -, -, hstored, tail, hkept, htalk⟩ := hrecorded
      rw [nil_of_kept hkept, List.append_nil] at htalk
      exact .failed _ added hgathered hstored htalk
  | llmConfiguration message =>
      exact ensures_throw fun _ _ hstate => .unrecorded _ added hstate.1 hstate.2
  | fault fault => exact ensures_throw fun _ _ hstate => .unrecorded _ added hstate.1 hstate.2

theorem ensures_executeLoop_closing :
    Ensures (Idle cfg messages Untouched) (executeLoop cfg)
      (fun value history state => Closing cfg messages history state (.ok value))
      fun error history state => Closing cfg messages history state (.error error) := by
  have hstable : asideFrame.Stable (Idle cfg messages Untouched) := stable_stands lasting_untouched
  apply ensures_bind ((calm_ask (by rfl)).keeps hstable)
  intro startMono
  apply ensures_bind
  · exact (calm_modify fun _ => by exact ⟨rfl, rfl⟩).keeps hstable
  intro _
  apply ensures_tryCatch
  · apply ensures_loopBody_completes.weaken
    · exact fun _ _ hidle => hidle
    · exact fun value _ _ hcompletes => .completed value hcompletes
    · exact fun _ _ _ hunended => hunended
  · exact ensures_recordError_closing

variable {nextSeq : Int} {log : History Float}
  {result : Except (LoopError Float) (LoopResult Float)} {value : LoopResult Float}
  {final : LoopState Float}

theorem idle_initialState :
    Idle cfg messages Untouched [] (initialState cfg messages nextSeq) :=
  ⟨fun _ hmem => (nomatch hmem), (List.append_nil messages).symm, rfl⟩

theorem closing_of_run
    (hrun : (executeLoop cfg).Runs (initialState cfg messages nextSeq) log result final) :
    Closing cfg messages log final result := by
  have hend := ensures_executeLoop_closing [] _ idle_initialState log result final hrun
  rw [List.nil_append] at hend
  cases result with
  | ok value => exact hend
  | error error => exact hend

def IsMarked (message : Message Float) : Prop :=
  ∃ entries, message.metadata = .dict entries ∧ ("interrupted", .bool true) ∈ entries

/-- The message is an answer, and not the marked part of one. -/
def IsAnswer (message : Message Float) : Prop := message.role = "assistant" ∧ ¬ IsMarked message

theorem not_isMarked {message : Message Float} (hmetadata : message.metadata = .dict []) :
    ¬ IsMarked message := by
  rintro ⟨entries, hentries, hmark⟩
  obtain rfl : [] = entries := PyValue.dict.inj (hmetadata.symm.trans hentries)
  cases hmark

theorem Gathered.not_isAnswer {history : History Float} {added : List (Message Float)}
    (hgathered : Gathered cfg history added) : ∀ message ∈ added, ¬ IsAnswer message := by
  cases hgathered with
  | nothing hcalls => exact fun _ hmem => (nomatch hmem)
  | result message result hserved hrole =>
      intro other hmem hanswer
      rw [List.mem_singleton.mp hmem, IsAnswer, hrole] at hanswer
      exact absurd hanswer.1 (by decide)

theorem Kept.not_isAnswer {partialText : String} {tail : List (Message Float)}
    (hkept : Kept partialText tail) : ∀ message ∈ tail, ¬ IsAnswer message := by
  intro message hmem hanswer
  unfold Kept at hkept
  split at hkept
  · rw [hkept] at hmem
    cases hmem
  · obtain ⟨other, rfl, -, -, hmetadata⟩ := hkept
    rw [List.mem_singleton.mp hmem] at hanswer
    exact hanswer.2 ⟨_, hmetadata, List.mem_singleton_self _⟩

theorem no_answer_iff {state : LoopState Float} {new : List (Message Float)}
    (htalk : state.messages = messages ++ new) (hnew : ∀ message ∈ new, ¬ IsAnswer message)
    (hstored : state.stored.status ≠ .completed) :
    (∃ message ∈ state.messages.drop messages.length, IsAnswer message) ↔
      state.stored.status = .completed := by
  rw [htalk, List.drop_left]
  refine iff_of_false ?_ hstored
  rintro ⟨message, hmem, hanswer⟩
  exact hnew message hmem hanswer

/-- **The conversation after a run.** The run only adds to the conversation, it adds an answer if
and only if it is recorded as completed, and the answer is then the one that it returns. -/
theorem run_conversation (hprepared : cfg.run.status ≠ .completed)
    (hrun : (executeLoop cfg).Runs (initialState cfg messages nextSeq) log result final) :
    messages <+: final.messages ∧
      ((∃ message ∈ final.messages.drop messages.length, IsAnswer message) ↔
        final.stored.status = .completed) ∧
      (final.stored.status = .completed → ∃ value, result = .ok value ∧
        final.messages.getLast?.map (·.content) = some value.answer) := by
  cases closing_of_run hrun with
  | completed value hcompletes =>
      obtain ⟨added, message, hsupported, hrole, hcontent, hmetadata, htalk⟩ := hcompletes.talk
      refine ⟨?_, iff_of_true ⟨message, ?_, hrole, not_isMarked hmetadata⟩ hcompletes.stored,
        fun _ => ⟨value, rfl, ?_⟩⟩
      · rw [htalk, List.append_assoc]
        exact List.prefix_append _ _
      · rw [htalk, List.append_assoc, List.drop_left]
        exact List.mem_append_right _ (List.mem_singleton_self message)
      · rw [htalk, List.getLast?_concat, Option.map_some, hcontent]
  | cancelled value added tail hgathered hstatus hstored hkept htalk =>
      have hopen : final.stored.status ≠ .completed := by simp [hstored]
      rw [List.append_assoc] at htalk
      refine ⟨htalk ▸ List.prefix_append _ _, no_answer_iff htalk ?_ hopen, fun hdone =>
        absurd hdone hopen⟩
      intro message hmem
      rcases List.mem_append.mp hmem with hmem | hmem
      · exact hgathered.not_isAnswer message hmem
      · exact hkept.not_isAnswer message hmem
  | exceeded value added hgathered hstatus hstored hanswer htalk =>
      have hopen : final.stored.status ≠ .completed := by simp [hstored]
      exact ⟨htalk ▸ List.prefix_append _ _, no_answer_iff htalk hgathered.not_isAnswer hopen,
        fun hdone => absurd hdone hopen⟩
  | failed error added hgathered hstored htalk =>
      have hopen : final.stored.status ≠ .completed := by simp [hstored]
      exact ⟨htalk ▸ List.prefix_append _ _, no_answer_iff htalk hgathered.not_isAnswer hopen,
        fun hdone => absurd hdone hopen⟩
  | unrecorded error added hgathered hstands =>
      have hopen : final.stored.status ≠ .completed := by rwa [hstands.2]
      exact ⟨hstands.1 ▸ List.prefix_append _ _,
        no_answer_iff hstands.1 hgathered.not_isAnswer hopen,
        fun hdone => absurd hdone hopen⟩

theorem Supported.callsOnce {answer : String} {history : History Float}
    {added : List (Message Float)} (hsupported : Supported cfg answer history added) :
    CallsOnce history := by
  cases hsupported with
  | declined huntouched hdeclined => exact .inl huntouched
  | grounded message result hheard hgrounded => exact hheard.1.callsOnce

theorem Closing.callsOnce {history : History Float} {state : LoopState Float}
    (hclosing : Closing cfg messages history state result) : CallsOnce history := by
  cases hclosing with
  | completed value hcompletes =>
      obtain ⟨added, message, hsupported, -⟩ := hcompletes.talk
      exact hsupported.callsOnce
  | cancelled value added tail hgathered => exact hgathered.callsOnce
  | exceeded value added hgathered => exact hgathered.callsOnce
  | failed error added hgathered => exact hgathered.callsOnce
  | unrecorded error added hgathered => exact hgathered.callsOnce

/-- **The tool call of a run.** Whichever way a run ends, it has handed at most one call of an
offered tool to a worker, and the validation had passed the arguments of that call before. -/
theorem run_calls_validated_tool
    (hrun : (executeLoop cfg).Runs (initialState cfg messages nextSeq) log result final) :
    CallsOnce log :=
  (closing_of_run hrun).callsOnce

def Validates (lib : PyLibrary Float) (most : Nat) (history : History Float) : Prop :=
  ∀ name arguments schema executed reply,
    ⟨.validateProposal name arguments schema executed, reply⟩ ∈ history →
      reply = Validation.validateProposal lib name arguments schema executed most

theorem Passed.checked {lib : PyLibrary Float} {most : Nat} {history : History Float}
    {name : String} {arguments : Dict Float} (hpassed : Passed name arguments history)
    (hvalidates : Validates lib most history) (hname : name ∈ offeredTools) :
    ∃ schema, Validation.validateArguments lib name arguments schema = .ok [] := by
  obtain ⟨payload, schema, executed, validation, -, hmem, hok⟩ := hpassed
  have hnone : validation = {} := by
    cases validation with
    | mk violations =>
        have hempty : violations = [] := List.isEmpty_iff.mp hok
        rw [hempty]
  have hreply := hvalidates _ _ _ _ _ hmem
  rw [hnone] at hreply
  obtain ⟨args, hgiven, hchecked⟩ :=
    Validation.arguments_of_validateProposal hname hreply.symm
  obtain rfl : arguments = args := PyValue.dict.inj hgiven
  exact ⟨schema, hchecked⟩

/-- **No unchecked arguments reach a tool.** With the validation of `proposal.py`, every tool call
that a run hands to a worker is for an offered tool, with arguments in which that tool's checks find
no violation. -/
theorem run_tool_arguments_checked {lib : PyLibrary Float} {most : Nat}
    (hrun : (executeLoop cfg).Runs (initialState cfg messages nextSeq) log result final)
    (hvalidates : Validates lib most log) {name : String} {handed : Dict Float} {polls : Nat}
    (hcall : ⟨.submitted (.governedTool name handed), polls⟩ ∈ log) :
    name ∈ offeredTools ∧ ∃ arguments schema, handed = handedArguments name arguments ∧
      Validation.validateArguments lib name arguments schema = .ok [] := by
  rcases (closing_of_run hrun).callsOnce with huntouched | ⟨other, arguments, hname, hcalled⟩
  · cases huntouched _ hcall
  · obtain ⟨before, otherPolls, after, hlog, huntouched, hpassed⟩ := hcalled
    have hvalidated : Validates lib most before := fun name arguments schema executed reply hmem =>
      hvalidates name arguments schema executed reply (hlog ▸ List.mem_append_left _ hmem)
    obtain ⟨schema, hchecked⟩ := hpassed.checked hvalidated hname
    rw [hlog, List.mem_append, List.mem_cons] at hcall
    rcases hcall with hbefore | hsame | hafter
    · cases huntouched _ (List.mem_append_left _ hbefore)
    · obtain ⟨rfl, rfl⟩ : name = other ∧ handed = handedArguments other arguments := by
        have hcalls := congrArg Exchange.call hsame
        simpa using hcalls
      exact ⟨hname, arguments, schema, rfl, hchecked⟩
    · cases huntouched _ (List.mem_append_right _ hafter)

theorem Closing.completes {history : History Float} {state : LoopState Float}
    (hclosing : Closing cfg messages history state (.ok value))
    (hcompleted : value.status = .completed) :
    Completes cfg messages value history state := by
  cases hclosing with
  | completed _ hcompletes => exact hcompletes
  | cancelled _ added tail hgathered hstatus =>
      rw [hstatus] at hcompleted
      cases hcompleted
  | exceeded _ added hgathered hstatus =>
      rw [hstatus] at hcompleted
      cases hcompleted

/-- **Completed answers are supported.** A run that completes has declined the question without a
tool call, or its answer is a draft that was checked against the result of its tool call. It stores
the dump of that result, if there is one, and then the answer. -/
theorem run_answer_supported
    (hrun : (executeLoop cfg).Runs (initialState cfg messages nextSeq) log (.ok value) final)
    (hcompleted : value.status = .completed) :
    ∃ added, ∃ message : Message Float, Supported cfg value.answer log added ∧
      message.role = "assistant" ∧ message.content = value.answer ∧
      final.messages = messages ++ added ++ [message] := by
  obtain ⟨added, message, hsupported, hrole, hcontent, -, htalk⟩ :=
    ((closing_of_run hrun).completes hcompleted).talk
  exact ⟨added, message, hsupported, hrole, hcontent, htalk⟩

end Runs

section Grounding

variable {cfg : LoopConfig ℚ} {messages : List (Message ℚ)} {nextSeq : Int} {log : History ℚ}
  {value : LoopResult ℚ} {final : LoopState ℚ}

def groundingReport (checked : Validation.GroundingReport) : GroundingReport ℚ where
  caveat := checked.caveat
  ok := checked.ok
  metadata := checked.toMetadata

def Grounds (classes : CharClasses) (num : NumOps ℚ) (history : History ℚ) : Prop :=
  ∀ text result question report,
    ⟨.checkAnswerGrounding text result question, .ok report⟩ ∈ history → ∃ checked,
      Validation.checkAnswerGrounding classes question.toList text.toList num result = some
        checked ∧ report = groundingReport checked

theorem run_answer_grounded {classes : CharClasses} {num : NumOps ℚ}
    (hrun : (executeLoop cfg).Runs (initialState cfg messages nextSeq) log (.ok value) final)
    (hcompleted : value.status = .completed) (hgrounds : Grounds classes num log) :
    DeclinedBy cfg value.answer log ∨ ∃ result text checked, Drafted cfg result log text ∧
      Validation.checkAnswerGrounding classes cfg.prompt.toList text.toList num result =
        some checked ∧
      value.answer = withCaveat text checked.caveat := by
  obtain ⟨added, message, hsupported, -⟩ :=
    ((closing_of_run hrun).completes hcompleted).talk
  cases hsupported with
  | declined huntouched hdeclined => exact .inl hdeclined
  | grounded tool result hheard hgrounded =>
      obtain ⟨text, report, hdrafted, hreport, hanswer⟩ := hgrounded
      obtain ⟨checked, hchecked, rfl⟩ := hgrounds text result cfg.prompt report hreport
      exact .inr ⟨result, text, checked, hdrafted, hchecked, hanswer⟩

end Grounding

section Samples

def answeredReply : (call : LoopCall Int) → LoopReply call
  | .streamAnswer _ _ _ =>
      (["Midtown"], .ok
        { modelId := "model", inputTokens := 100, outputTokens := 10, latencyMs := 5,
          text := "Midtown" })
  | call => validReply call

def answeredPlay : History Int × Except (LoopError Int) (LoopResult Int) × LoopState Int :=
  (executeLoop sampleConfig).play (fun _ => answeredReply) (initialState sampleConfig [] 2)

theorem runs_answeredPlay :
    (executeLoop sampleConfig).Runs (initialState sampleConfig [] 2) answeredPlay.1 answeredPlay.2.1
      answeredPlay.2.2 :=
  runs_play (executeLoop sampleConfig) (fun _ => answeredReply) (initialState sampleConfig [] 2)

theorem answeredPlay_completed :
    ∃ value, answeredPlay.2.1 = .ok value ∧ value.status = .completed ∧ value.answer = "Midtown" :=
  ⟨_, rfl, rfl, rfl⟩

theorem run_calls_validated_tool_answered : CallsOnce answeredPlay.1 :=
  run_calls_validated_tool runs_answeredPlay

theorem run_answer_supported_answered :
    ∃ added, ∃ message : Message Int, Supported sampleConfig "Midtown" answeredPlay.1 added ∧
      message.role = "assistant" ∧ message.content = "Midtown" ∧
      answeredPlay.2.2.messages = [] ++ added ++ [message] := by
  obtain ⟨value, hvalue, hstatus, hanswer⟩ := answeredPlay_completed
  have hrun := runs_answeredPlay
  rw [hvalue] at hrun
  rw [← hanswer]
  exact run_answer_supported hrun hstatus

def topFive : Dict Int := [("analysis", .str "top_pickup_zones"), ("limit", .int 5)]

def checkedReply : (call : LoopCall Int) → LoopReply call
  | .validateProposal name arguments schema executed =>
      Validation.validateProposal Validation.sampleLibrary name arguments schema executed 3
  | .proposeTaxiQuery _ _ _ _ => .ok { sampleProposal with arguments := .dict topFive }
  | .parseQueryProposal _ => some ("query_taxi_data", topFive)
  | call => answeredReply call

def checkedPlay : History Int × Except (LoopError Int) (LoopResult Int) × LoopState Int :=
  (executeLoop sampleConfig).play (fun _ => checkedReply) (initialState sampleConfig [] 2)

theorem run_tool_arguments_checked_topFive :
    "query_taxi_data" ∈ offeredTools ∧ ∃ arguments schema,
      topFive = handedArguments "query_taxi_data" arguments ∧
      Validation.validateArguments Validation.sampleLibrary "query_taxi_data" arguments schema =
      .ok [] := by
  have hrun : (executeLoop sampleConfig).Runs (initialState sampleConfig [] 2) checkedPlay.1
      checkedPlay.2.1 checkedPlay.2.2 :=
    runs_play (executeLoop sampleConfig) (fun _ => checkedReply) (initialState sampleConfig [] 2)
  have hvalidates : Validates Validation.sampleLibrary 3 checkedPlay.1 := by
    intro name arguments schema executed reply hmem
    obtain ⟨_, call, hcall⟩ := exists_answer_of_mem_play hmem
    cases hcall
    rfl
  have hcall : ⟨.submitted (.governedTool "query_taxi_data" topFive), (0 : Nat)⟩ ∈ checkedPlay.1 :=
    List.mem_of_getElem? (show checkedPlay.1[23]? = some _ from rfl)
  exact run_tool_arguments_checked hrun hvalidates hcall

theorem run_conversation_answered :
    [] <+: answeredPlay.2.2.messages ∧
      ((∃ message ∈ answeredPlay.2.2.messages.drop 0, IsAnswer message) ↔
        answeredPlay.2.2.stored.status = .completed) ∧
      (answeredPlay.2.2.stored.status = .completed → ∃ value, answeredPlay.2.1 = .ok value ∧
        answeredPlay.2.2.messages.getLast?.map (·.content) = some value.answer) :=
  run_conversation (by decide) runs_answeredPlay

end Samples

end AiAnalytics.App.Loop.Talk
