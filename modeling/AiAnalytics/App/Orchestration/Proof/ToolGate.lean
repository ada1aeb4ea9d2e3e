import AiAnalytics.App.Orchestration.Proof.AsideFrames
import AiAnalytics.App.Orchestration.Proof.CallLimits

/-!
# The one tool call of a run

Whatever the model proposes and however it is repaired, a run hands at most one governed tool call
to a worker, and before that the validation has passed these very arguments. The result that comes
back is the only evidence that the run answers from.
-/

namespace AiAnalytics.App.Loop.Talk

open Lib Lib.Prog

variable {Float : Type}

section Calls

def handedArguments (name : String) (arguments : Dict Float) : Dict Float :=
  let argument key := (key, (arguments.lookup key).getD .none)
  if name = averageMetricsToolName then [argument "region_name"]
  else if name = expectedToolName then [argument "analysis", argument "limit"]
  else arguments

def Passed (name : String) (arguments : Dict Float) (history : History Float) : Prop :=
  ∃ payload schema executed, ∃ validation : ProposalValidation,
    ⟨.sanitizeDatasetSchema payload, .ok schema⟩ ∈ history ∧
      ⟨.validateProposal name (.dict arguments) schema executed, .ok validation⟩ ∈ history ∧
      validation.ok = true

def Untouched (history : History Float) : Prop := ∀ x ∈ history, x.call.isToolCall = false

def Called (name : String) (arguments : Dict Float) (history : History Float) : Prop :=
  name ∈ offeredTools ∧ ∃ before, ∃ polls : Nat, ∃ after,
    history = before ++
      ⟨.submitted (.governedTool name (handedArguments name arguments)), polls⟩ :: after ∧
    Untouched (before ++ after) ∧ Passed name arguments before

def CallsOnce (history : History Float) : Prop :=
  Untouched history ∨ ∃ name arguments, Called name arguments history

def Served (result : PyValue Float) (history : History Float) : Prop :=
  ∃ name arguments payload, Called name arguments history ∧
    ⟨.governedTool name (handedArguments name arguments), .ok payload⟩ ∈ history ∧
    (name ∈ extendedGovernedToolNames ∧ result = payload ∨
      ⟨.sanitizeQueryResult payload, .ok result⟩ ∈ history)

variable {history : History Float} {x : Exchange (@LoopReply Float)} {name : String}
  {arguments : Dict Float} {result : PyValue Float}

def Lasting (P : History Float → Prop) : Prop :=
  ∀ x history, x.call.isToolCall = false → P history → P (history ++ [x])

theorem lasting_mem (y : Exchange (@LoopReply Float)) : Lasting fun history => y ∈ history :=
  fun _ _ _ hmem => List.mem_append_left _ hmem

theorem Lasting.and {P Q : History Float → Prop} (hP : Lasting P) (hQ : Lasting Q) :
    Lasting fun history => P history ∧ Q history :=
  fun x history hx hboth => ⟨hP x history hx hboth.1, hQ x history hx hboth.2⟩

theorem Lasting.exists {α : Sort*} {P : α → History Float → Prop} (hP : ∀ a, Lasting (P a)) :
    Lasting fun history => ∃ a, P a history :=
  fun x history hx ⟨a, ha⟩ => ⟨a, hP a x history hx ha⟩

theorem lasting_untouched : Lasting (@Untouched Float) := by
  intro x history hx huntouched y hy
  rcases List.mem_append.mp hy with hy | hy
  · exact huntouched y hy
  · rw [List.mem_singleton.mp hy]
    exact hx

theorem lasting_passed : Lasting (@Passed Float name arguments) := by
  rintro x history - ⟨payload, schema, executed, validation, hschema, hpassed, hok⟩
  exact ⟨payload, schema, executed, validation, List.mem_append_left _ hschema,
    List.mem_append_left _ hpassed, hok⟩

theorem lasting_called : Lasting (@Called Float name arguments) := by
  rintro x history hx ⟨hname, before, polls, after, rfl, huntouched, hpassed⟩
  refine ⟨hname, before, polls, after ++ [x], by simp, ?_, hpassed⟩
  rw [← List.append_assoc]
  exact lasting_untouched x _ hx huntouched

theorem lasting_callsOnce : Lasting (@CallsOnce Float) := by
  rintro x history hx (huntouched | ⟨name, arguments, hcalled⟩)
  · exact .inl (lasting_untouched x history hx huntouched)
  · exact .inr ⟨name, arguments, lasting_called x history hx hcalled⟩

theorem lasting_served : Lasting (Served result) := by
  rintro x history hx ⟨name, arguments, payload, hcalled, hreply, hresult⟩
  refine ⟨name, arguments, payload, lasting_called x history hx hcalled,
    List.mem_append_left _ hreply, ?_⟩
  rcases hresult with hresult | hresult
  · exact .inl hresult
  · exact .inr (List.mem_append_left _ hresult)

theorem Served.callsOnce (hserved : Served result history) : CallsOnce history := by
  obtain ⟨name, arguments, _, hcalled, -⟩ := hserved
  exact .inr ⟨name, arguments, hcalled⟩

theorem called_of_submitted {polls : Nat} (hname : name ∈ offeredTools)
    (huntouched : Untouched history) (hpassed : Passed name arguments history) :
    Called name arguments
      (history ++ [⟨.submitted (.governedTool name (handedArguments name arguments)), polls⟩]) :=
  ⟨hname, history, polls, [], rfl, by rwa [List.append_nil], hpassed⟩

end Calls

section Stages

variable (cfg : LoopConfig Float)

def Stands (talk : List (Message Float)) (state : LoopState Float) : Prop :=
  state.messages = talk ∧ state.stored = cfg.run

inductive Gathered (history : History Float) : List (Message Float) → Prop where
  | nothing (huse : CallsOnce history) : Gathered history []
  | result (message : Message Float) (result : PyValue Float) (hserved : Served result history)
      (hrole : message.role = "tool")
        (hcontent : message.content = cfg.fmt.dumps true true result) :
      Gathered history [message]

theorem lasting_gathered (added : List (Message Float)) :
    Lasting fun history => Gathered cfg history added := by
  intro x history hx hevidence
  cases hevidence with
  | nothing huse => exact .nothing (lasting_callsOnce x history hx huse)
  | result message result hserved hrole hcontent =>
      exact .result message result (lasting_served x history hx hserved) hrole hcontent

theorem Gathered.callsOnce {history : History Float} {added : List (Message Float)}
    (hevidence : Gathered cfg history added) : CallsOnce history := by
  cases hevidence with
  | nothing huse => exact huse
  | result message result hserved hrole hcontent => exact hserved.callsOnce

variable (messages : List (Message Float))

def Unended (history : History Float) (state : LoopState Float) : Prop :=
  ∃ added, Gathered cfg history added ∧ Stands cfg (messages ++ added) state

def During (added : List (Message Float)) (P : History Float → Prop) (history : History Float)
    (state : LoopState Float) : Prop :=
  P history ∧ Stands cfg (messages ++ added) state

abbrev Leads {α : Type} (pre : History Float → LoopState Float → Prop) (m : LoopM Float α)
    (post : α → History Float → LoopState Float → Prop) : Prop :=
  Ensures pre m post fun _ => Unended cfg messages

variable {cfg messages} {P Q : History Float → Prop} {talk added : List (Message Float)}

theorem stable_stands (hP : Lasting P) :
    asideFrame.Stable fun history state => P history ∧ Stands cfg talk state where
  change _ _ _ hsame hstate :=
    ⟨hstate.1, hsame.messages.trans hstate.2.1, hsame.stored.trans hstate.2.2⟩
  call x history _ hx hstate := ⟨hP x history hx hstate.1, hstate.2⟩

structure Leaves (cfg : LoopConfig Float) (P : History Float → Prop)
    (added : List (Message Float)) : Prop where
  lasting : Lasting P
  evidence : ∀ history, P history → Gathered cfg history added

theorem Leaves.and (hleaves : Leaves cfg P added) (hQ : Lasting Q) :
    Leaves cfg (fun history => P history ∧ Q history) added :=
  ⟨hleaves.lasting.and hQ, fun history hboth => hleaves.evidence history hboth.1⟩

theorem ensures_aside {α : Type} {m : LoopM Float α} (hleaves : Leaves cfg P added) (hm : Aside m) :
    Leads cfg messages (During cfg messages added P) m fun _ => During cfg messages added P :=
  hm.keeps (stable_stands hleaves.lasting) fun _ history _ hstate =>
    ⟨added, hleaves.evidence history hstate.1, hstate.2⟩

theorem Leaves.aside {α β : Type} {m : LoopM Float α} {next : α → LoopM Float β}
    {post : β → History Float → LoopState Float → Prop} (hleaves : Leaves cfg P added)
    (hm : Aside m)
    (hnext : ∀ a, Leads cfg messages (During cfg messages added P) (next a) post) :
    Leads cfg messages (During cfg messages added P) (m >>= next) post :=
  ensures_bind (ensures_aside hleaves hm) hnext

theorem Leaves.books {α β : Type} {m : LoopM Float α} {next : LoopM Float β}
    {post : β → History Float → LoopState Float → Prop} (hleaves : Leaves cfg P added)
    (hm : Framed bookFrame m) (hnext : Leads cfg messages (During cfg messages added P) next post) :
    Leads cfg messages (During cfg messages added P) (m >>= fun _ => next) post :=
  hleaves.aside (aside_of_books hm) fun _ => hnext

theorem Leaves.local {β : Type} {f : LoopState Float → LoopState Float} {next : LoopM Float β}
    {post : β → History Float → LoopState Float → Prop} (hleaves : Leaves cfg P added)
    (hf : ∀ state, SameTalk state (f state))
    (hnext : Leads cfg messages (During cfg messages added P) next post) :
    Leads cfg messages (During cfg messages added P) (modify f >>= fun _ => next) post :=
  hleaves.aside (framed_modify hf) fun _ => hnext

theorem ensures_request (hleaves : Leaves cfg P added) {call : LoopCall Float}
    (hcall : call.isToolCall = false)
    {err : LoopError Float → History Float → LoopState Float → Prop} :
    Ensures (During cfg messages added P) (request call)
      (fun reply => During cfg messages added fun history => P history ∧ ⟨call, reply⟩ ∈ history)
      err := by
  apply ensures_ask
  intro reply history state hstate
  exact ⟨⟨hleaves.lasting _ _ hcall hstate.1, by simp⟩, hstate.2⟩

theorem ensures_runWithCancellation_known (hleaves : Leaves cfg P added) {call : LoopCall Float}
    (hsubmitted : (LoopCall.submitted call).isToolCall = false) (hcall : call.isToolCall = false) :
    Leads cfg messages (During cfg messages added P) (runWithCancellation call)
      fun reply => During cfg messages added fun history => P history ∧
      ⟨call, reply⟩ ∈ history := by
  apply hleaves.aside (aside_request hsubmitted)
  intro polls
  apply hleaves.books (framed_pollWorker polls)
  exact ensures_request hleaves hcall

theorem ensures_addMessage_known (hP : Lasting P) (role content : String) (metadata : Dict Float)
    {err : LoopError Float → History Float → LoopState Float → Prop} :
    Ensures (fun history state => P history ∧ Stands cfg talk state)
      (addMessage cfg role content metadata)
      (fun _ history state => P history ∧ ∃ message : Message Float,
        message.role = role ∧ message.content = content ∧ message.metadata = .dict metadata ∧
          Stands cfg (talk ++ [message]) state) err := by
  apply ensures_bind ((calm_ask (by rfl)).keeps (stable_stands hP))
  intro messageId
  apply ensures_bind ((calm_ask (by rfl)).keeps (stable_stands hP))
  intro createdAt
  apply ensures_modify
  rintro history state ⟨hP, hmessages, hstored⟩
  exact ⟨hP, _, rfl, rfl, rfl, by rw [LoopState.storeMessage, hmessages], hstored⟩

end Stages

section Selection

variable {cfg : LoopConfig Float} {messages : List (Message Float)}

def SchemaRead (schema : PyValue Float) (history : History Float) : Prop :=
  ∃ payload, ⟨.sanitizeDatasetSchema payload, .ok schema⟩ ∈ history

def Choosing (schema : PyValue Float) (history : History Float) : Prop :=
  Untouched history ∧ SchemaRead schema history

theorem leaves_untouched : Leaves cfg (@Untouched Float) [] :=
  ⟨lasting_untouched, fun _ huntouched => .nothing (.inl huntouched)⟩

theorem leaves_choosing (schema : PyValue Float) : Leaves cfg (Choosing schema) [] :=
  leaves_untouched.and (Lasting.exists fun _ => lasting_mem _)

abbrev Idle (cfg : LoopConfig Float) (messages : List (Message Float)) (P : History Float → Prop) :
    History Float → LoopState Float → Prop :=
  During cfg messages [] P

theorem ensures_loadSchema (proposalCallId : String) :
    Leads cfg messages (Idle cfg messages Untouched) (loadSchema cfg proposalCallId)
      fun schema => Idle cfg messages (Choosing schema) := by
  apply leaves_untouched.books (framed_checkCancellation _)
  apply leaves_untouched.books (framed_emit cfg _ _ _)
  apply leaves_untouched.aside (aside_runWithCancellation rfl rfl)
  intro raw
  have hread : Leads cfg messages (Idle cfg messages Untouched) (readSchema raw)
      fun reply => Idle cfg messages fun history =>
        Untouched history ∧ ∀ schema, reply = .ok schema → SchemaRead schema history := by
    cases raw with
    | error error =>
        refine ensures_pure fun history state hidle => ⟨⟨hidle.1, ?_⟩, hidle.2⟩
        rintro schema ⟨⟩
    | ok payload =>
        apply (ensures_request leaves_untouched rfl).weaken
        · exact fun _ _ hidle => hidle
        · rintro reply history state ⟨⟨huntouched, hmem⟩, hstands⟩
          refine ⟨⟨huntouched, ?_⟩, hstands⟩
          rintro schema rfl
          exact ⟨payload, hmem⟩
        · exact fun _ _ _ hopen => hopen
  apply ensures_bind hread
  intro schema
  cases schema with
  | error error =>
      refine ensures_throw fun history state hidle => ?_
      exact ⟨[], .nothing (.inl hidle.1.1), hidle.2⟩
  | ok schema =>
      exact ensures_pure fun history state hidle => ⟨⟨hidle.1.1, hidle.1.2 schema rfl⟩, hidle.2⟩

theorem ensures_requestTool (schema : PyValue Float) (proposalCallId : String)
    (llmCallId : Option String) (name : String) (arguments : Dict Float) :
    Leads cfg messages (Idle cfg messages (Choosing schema))
      (requestTool cfg schema proposalCallId llmCallId name arguments)
      fun _ => Idle cfg messages fun history => Untouched history ∧
      Passed name arguments history := by
  have hvalidate : Leads cfg messages (Idle cfg messages (Choosing schema))
      (validate name (.dict arguments) schema)
      fun validation => Idle cfg messages fun history => Choosing schema history ∧
        ∃ executed, ⟨.validateProposal name (.dict arguments) schema executed, .ok validation⟩ ∈
          history := by
    apply (leaves_choosing schema).aside framed_get
    intro state
    apply ensures_bind (ensures_request (leaves_choosing schema) rfl)
    intro reply
    cases reply with
    | error fault =>
        refine ensures_throw fun history state hidle => ?_
        exact ⟨[], .nothing (.inl hidle.1.1.1), hidle.2⟩
    | ok validation =>
        exact ensures_pure fun history state hidle => ⟨⟨hidle.1.1, _, hidle.1.2⟩, hidle.2⟩
  apply ensures_bind hvalidate
  intro validation
  have hpassed (error : LoopError Float) : Leads cfg messages
      (Idle cfg messages fun history => Choosing schema history ∧
        ∃ executed, ⟨.validateProposal name (.dict arguments) schema executed, .ok validation⟩ ∈
          history)
      (raiseIf (validation.ok = false) error)
      fun _ => Idle cfg messages fun history => Untouched history ∧
        Passed name arguments history := by
    apply ensures_raiseIf
    · rintro hok history state ⟨⟨⟨huntouched, payload, hschema⟩, executed, hmem⟩, hstands⟩
      exact ⟨⟨huntouched, payload, schema, executed, validation, hschema, hmem,
        Bool.not_eq_false _ ▸ hok⟩, hstands⟩
    · intro _ history state hidle
      exact ⟨[], .nothing (.inl hidle.1.1.1), hidle.2⟩
  apply ensures_bind (hpassed _)
  intro _
  have hleaves : Leaves cfg
      (fun history => Untouched history ∧ @Passed Float name arguments history) [] :=
    leaves_untouched.and lasting_passed
  apply hleaves.books (framed_emit cfg _ _ _)
  apply hleaves.aside framed_get
  intro state
  apply hleaves.aside framed_raiseIf
  intro _
  exact ensures_aside hleaves (aside_local (fun _ => rfl) fun _ => rfl)

end Selection

section Tool

variable {cfg : LoopConfig Float} {messages : List (Message Float)} {name : String}
  {arguments : Dict Float}

theorem ensures_exists {α : Type} {ι : Sort*} {pre : ι → History Float → LoopState Float → Prop}
    {m : LoopM Float α} {post : α → History Float → LoopState Float → Prop}
    {err : LoopError Float → History Float → LoopState Float → Prop}
    (hm : ∀ i, Ensures (pre i) m post err) :
    Ensures (fun history state => ∃ i, pre i history state) m post err := by
  rintro history state ⟨i, hstate⟩
  exact hm i history state hstate

def Ready (name : String) (arguments : Dict Float) (history : History Float) : Prop :=
  Untouched history ∧ Passed name arguments history

def Returned (outcome : Except MCPToolError (PyValue Float)) (history : History Float) : Prop :=
  CallsOnce history ∧ ∀ result, outcome = .ok result → Served result history

theorem offered_of_extended : ∀ name ∈ extendedGovernedToolNames, name ∈ offeredTools := by decide

theorem leaves_called : Leaves cfg (@Called Float name arguments) [] :=
  ⟨lasting_called, fun _ hcalled => .nothing (.inr ⟨name, arguments, hcalled⟩)⟩

theorem leaves_returned (outcome : Except MCPToolError (PyValue Float)) :
    Leaves cfg (Returned outcome) [] where
  lasting x history hx hreturned :=
    ⟨lasting_callsOnce x history hx hreturned.1, fun result hresult =>
      lasting_served x history hx (hreturned.2 result hresult)⟩
  evidence _ hreturned := .nothing hreturned.1

theorem leaves_served (result : PyValue Float) : Leaves cfg (Served result) [] :=
  ⟨lasting_served, fun _ hserved => .nothing hserved.callsOnce⟩

theorem returned_error {error : MCPToolError} {history : History Float}
    (hcalls : CallsOnce history) :
    @Returned Float (.error error) history :=
  ⟨hcalls, fun _ hresult => nomatch hresult⟩

theorem returned_ok {result : PyValue Float} {history : History Float}
    (hserved : Served result history) : Returned (.ok result) history := by
  refine ⟨hserved.callsOnce, ?_⟩
  rintro _ ⟨⟩
  exact hserved

theorem ensures_callTool (hname : name ∈ offeredTools) :
    Leads cfg messages (Idle cfg messages (Ready name arguments))
      (runWithCancellation (.governedTool name (handedArguments name arguments)))
      fun reply => Idle cfg messages fun history => Called name arguments history ∧
        ⟨.governedTool name (handedArguments name arguments), reply⟩ ∈ history := by
  have hsubmit : Leads cfg messages (Idle cfg messages (Ready name arguments))
      (request (.submitted (.governedTool name (handedArguments name arguments))))
      fun _ => Idle cfg messages (Called name arguments) := by
    apply ensures_ask
    rintro polls history state ⟨⟨huntouched, hpassed⟩, hstands⟩
    exact ⟨called_of_submitted hname huntouched hpassed, hstands⟩
  apply ensures_bind hsubmit
  intro polls
  apply leaves_called.books (framed_pollWorker polls)
  exact ensures_request leaves_called rfl

theorem ensures_executeTool :
    Leads cfg messages (Idle cfg messages (Ready name arguments)) (executeTool name arguments)
      fun outcome => Idle cfg messages (Returned outcome) := by
  have hsimple (hname : name ∈ offeredTools) (handed : Dict Float)
      (hhanded : handed = handedArguments name arguments) :
      Leads cfg messages (Idle cfg messages (Ready name arguments))
        (do
          let raw : Except MCPToolError (PyValue Float) ←
            runWithCancellation (.governedTool name handed)
          sanitized raw)
        fun outcome => Idle cfg messages (Returned outcome) := by
    subst hhanded
    apply ensures_bind (ensures_callTool hname)
    intro raw
    cases raw with
    | error error =>
        refine ensures_pure fun history state hidle => ⟨?_, hidle.2⟩
        exact returned_error (.inr ⟨name, arguments, hidle.1.1⟩)
    | ok payload =>
        apply (ensures_request (leaves_called.and (lasting_mem _)) rfl).weaken
        · exact fun _ _ hidle => hidle
        · rintro reply history state ⟨⟨⟨hcalled, hreply⟩, hmem⟩, hstands⟩
          refine ⟨?_, hstands⟩
          cases reply with
          | error error => exact returned_error (.inr ⟨name, arguments, hcalled⟩)
          | ok result => exact returned_ok ⟨name, arguments, payload, hcalled, hreply, .inr hmem⟩
        · exact fun _ _ _ hunended => hunended
  have hextended (hname : name ∈ extendedGovernedToolNames) (handed : Dict Float)
      (hhanded : handed = handedArguments name arguments) :
      Leads cfg messages (Idle cfg messages (Ready name arguments))
        (runWithCancellation (.governedTool name handed))
        fun outcome => Idle cfg messages (Returned outcome) := by
    subst hhanded
    apply (ensures_callTool (offered_of_extended name hname)).weaken
    · exact fun _ _ hidle => hidle
    · rintro reply history state ⟨⟨hcalled, hreply⟩, hstands⟩
      refine ⟨?_, hstands⟩
      cases reply with
      | error error => exact returned_error (.inr ⟨name, arguments, hcalled⟩)
      | ok result =>
          exact returned_ok ⟨name, arguments, result, hcalled, hreply, .inl ⟨hname, rfl⟩⟩
    · exact fun _ _ _ hunended => hunended
  unfold executeTool
  apply ensures_ite
  · intro haverage
    exact hsimple (by rw [haverage]; decide) _ (if_pos haverage).symm
  intro haverage
  apply ensures_ite
  · intro hquery
    exact hsimple (by rw [hquery]; decide) _ ((if_neg haverage).trans (if_pos hquery)).symm
  intro hquery
  apply ensures_ite
  · intro hname
    exact hextended hname _ ((if_neg haverage).trans (if_neg hquery)).symm
  · intro _
    refine ensures_pure fun history state hidle => ⟨?_, hidle.2⟩
    exact returned_error (.inl hidle.1.1)

def Heard (cfg : LoopConfig Float) (result : PyValue Float) (message : Message Float)
    (history : History Float) : Prop :=
  Served result history ∧ message.role = "tool" ∧
    message.content = cfg.fmt.dumps true true result

theorem leaves_heard (result : PyValue Float) (message : Message Float) :
    Leaves cfg (Heard cfg result message) [message] where
  lasting x history hx hheard := ⟨lasting_served x history hx hheard.1, hheard.2⟩
  evidence _ hheard := .result message result hheard.1 hheard.2.1 hheard.2.2

theorem ensures_recordToolResult (result : PyValue Float) (name toolCallId : String)
    (arguments : Dict Float) (durationMs : Int) :
    Leads cfg messages (Idle cfg messages (Served result))
      (recordToolResult cfg result name toolCallId arguments durationMs)
      fun _ history state => ∃ message, Heard cfg result message history ∧
        Stands cfg (messages ++ [message]) state := by
  have hleaves : Leaves cfg (Served result) [] := leaves_served result
  refine hleaves.local (fun _ => ⟨rfl, rfl⟩) ?_
  apply hleaves.aside (aside_track _)
  intro _
  apply hleaves.books (framed_emit cfg _ _ _)
  apply hleaves.books (framed_addStep _)
  apply hleaves.aside (aside_request rfl)
  intro findings
  apply hleaves.books (framed_recordFindings cfg _ _)
  apply ensures_bind (ensures_addMessage_known lasting_served _ _ _)
  intro _
  apply ensures_modify
  rintro history state ⟨hserved, message, hrole, hcontent, -, hmessages, hstored⟩
  exact ⟨message, ⟨hserved, hrole, hcontent⟩, hmessages.trans (by rw [List.append_nil]), hstored⟩

theorem ensures_runTool (llmCallId : Option String) :
    Leads cfg messages (Idle cfg messages (Ready name arguments))
      (runTool cfg llmCallId name arguments)
      fun result history state => ∃ message, Heard cfg result message history ∧
        Stands cfg (messages ++ [message]) state := by
  have hleaves : Leaves cfg (@Ready Float name arguments) [] := leaves_untouched.and lasting_passed
  apply hleaves.books (framed_checkCancellation _)
  apply hleaves.aside (aside_request rfl)
  intro toolCallId
  refine hleaves.local (fun _ => ⟨rfl, rfl⟩) ?_
  apply hleaves.books (framed_emit cfg _ _ _)
  apply hleaves.aside (aside_request rfl)
  intro toolStart
  apply ensures_bind ensures_executeTool
  intro outcome
  apply (leaves_returned outcome).aside (aside_of_books (framed_millisSince cfg _))
  intro durationMs
  cases outcome with
  | error error =>
      apply (leaves_returned _).books (framed_recordToolFailure cfg _ _ _ _ _)
      refine ensures_throw fun history state hidle => ?_
      exact ⟨[], .nothing hidle.1.1, hidle.2⟩
  | ok result =>
      have hserved : Leads cfg messages (Idle cfg messages (Returned (.ok result)))
          (recordToolResult cfg result name toolCallId arguments durationMs)
          fun _ history state => ∃ message, Heard cfg result message history ∧
            Stands cfg (messages ++ [message]) state :=
        (ensures_recordToolResult result name toolCallId arguments durationMs).mono_pre
          fun _ _ hidle => ⟨hidle.1.2 result rfl, hidle.2⟩
      apply ensures_bind hserved
      intro _
      exact ensures_pure fun _ _ hheard => hheard

end Tool

end AiAnalytics.App.Loop.Talk
