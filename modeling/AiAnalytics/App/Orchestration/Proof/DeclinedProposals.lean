import AiAnalytics.App.Orchestration.Proof.BookRules
import AiAnalytics.App.Orchestration.Proof.TerminalLoop
import AiAnalytics.App.Orchestration.Proof.TrackerRecords

/-!
# A first proposal that selects no tool

Such a proposal ends the run, if its call can be priced and recorded: nothing is validated and no
tool is called. What the record needs is known in advance, since the proposal is the first call that
is counted. -/

namespace AiAnalytics.App.Loop

open Lib Lib.Prog

variable {Float : Type}

section Replies

def DeclinesFirst : Exchange (@LoopReply Float) → Prop
  | ⟨.proposeTaxiQuery .proposal _ _ _, .ok proposal⟩ => proposal.outcome ≠ .toolCall
  | _ => False

def NoneDeclined (history : History Float) (_ : LoopState Float) : Prop :=
  ∀ x ∈ history, ¬ DeclinesFirst x

structure LoopCall.Plain (call : LoopCall Float) : Prop where
  isToolCall : call.isToolCall = false
  reportsUsage : call.reportsUsage = false

def reading : Exchange (@LoopReply Float) → Option (Float × Float)
  | ⟨.elapsed, elapsed⟩ => some elapsed
  | _ => none

def firstReading (history : History Float) : Option (Float × Float) := history.findSome? reading

def Told (proposal : ToolProposalResult Float) (elapsed : Option (Float × Float))
    (history : History Float) : Prop :=
  ∃ llmCallId prompt schema before after,
    history = before ++ ⟨.proposeTaxiQuery .proposal llmCallId prompt schema, .ok proposal⟩ ::
      after ∧
    (∀ x ∈ before, x.call.Plain) ∧ (∀ x ∈ after, x.call.Plain) ∧ firstReading after = elapsed

variable {x : Exchange (@LoopReply Float)} {history before after : History Float}
  {proposal other : ToolProposalResult Float} {elapsed : Option (Float × Float)}
  {llmCallId prompt : String} {schema : PyValue Float}

theorem reportsUsage_of_declinesFirst (hx : DeclinesFirst x) : x.call.reportsUsage = true := by
  unfold DeclinesFirst at hx
  split at hx
  · rfl
  · exact hx.elim

theorem noneDeclined_of_plain {state : LoopState Float} (hplain : ∀ x ∈ history, x.call.Plain) :
    NoneDeclined history state := by
  intro x hx hdeclines
  have hreports := reportsUsage_of_declinesFirst hdeclines
  rw [(hplain x hx).reportsUsage] at hreports
  cases hreports

theorem forall_mem_concat {P : Exchange (@LoopReply Float) → Prop} (hhistory : ∀ y ∈ history, P y)
    (hx : P x) : ∀ y ∈ history ++ [x], P y := by
  intro y hy
  rcases List.mem_append.mp hy with hy | hy
  · exact hhistory y hy
  · rw [List.mem_singleton.mp hy]
    exact hx

theorem firstReading_concat :
    firstReading (history ++ [x]) = (firstReading history).or (reading x) := by
  unfold firstReading
  rw [List.findSome?_append, List.findSome?_singleton]

theorem told_proposal (hplain : ∀ x ∈ before, x.call.Plain) :
    Told proposal none
      (before ++ [⟨.proposeTaxiQuery .proposal llmCallId prompt schema, .ok proposal⟩]) :=
  ⟨llmCallId, prompt, schema, before, [], rfl, hplain, List.forall_mem_nil _, rfl⟩

theorem Told.concat (htold : Told proposal elapsed history) (hx : x.call.Plain) :
    Told proposal (elapsed.or (reading x)) (history ++ [x]) := by
  obtain ⟨llmCallId, prompt, schema, before, after, rfl, hbefore, hafter, rfl⟩ := htold
  refine ⟨llmCallId, prompt, schema, before, after ++ [x], ?_, hbefore, forall_mem_concat hafter hx,
    firstReading_concat⟩
  rw [List.append_assoc, List.cons_append]

theorem Told.eq_of_split
    (htold : Told proposal elapsed
      (before ++ ⟨.proposeTaxiQuery .proposal llmCallId prompt schema, .ok other⟩ :: after)) :
    other = proposal ∧ firstReading after = elapsed := by
  obtain ⟨_, _, _, front, rest, hsplit, hfront, hrest, rfl⟩ := htold
  have hnotPlain : ¬ (LoopCall.proposeTaxiQuery .proposal llmCallId prompt schema).Plain := by
    rintro ⟨-, ⟨⟩⟩
  rcases List.append_eq_append_iff.mp hsplit with ⟨between, rfl, heq⟩ | ⟨between, rfl, heq⟩
  · cases between with
    | nil =>
        obtain ⟨hhead, rfl⟩ := List.cons.inj heq
        cases hhead
        exact ⟨rfl, rfl⟩
    | cons y between =>
        obtain ⟨rfl, -⟩ := List.cons.inj heq
        exact absurd (hfront _ (List.mem_append_right _ List.mem_cons_self)) hnotPlain
  · cases between with
    | nil =>
        obtain ⟨hhead, rfl⟩ := List.cons.inj heq
        cases hhead
        exact ⟨rfl, rfl⟩
    | cons y between =>
        obtain ⟨-, rfl⟩ := List.cons.inj heq
        exact absurd (hrest _ (List.mem_append_right between List.mem_cons_self)) hnotPlain

theorem toolCallsOf_of_plain (hplain : ∀ x ∈ history, x.call.Plain) : toolCallsOf history = 0 := by
  rw [toolCallsOf, List.countP_eq_zero]
  intro x hx
  rw [(hplain x hx).isToolCall]
  exact Bool.false_ne_true

theorem Told.toolCallsOf_eq (htold : Told proposal elapsed history) : toolCallsOf history = 0 := by
  obtain ⟨_, _, _, before, after, rfl, hbefore, hafter, rfl⟩ := htold
  have hbefore := toolCallsOf_of_plain hbefore
  have hafter := toolCallsOf_of_plain hafter
  unfold toolCallsOf at *
  rw [List.countP_append, List.countP_cons, hbefore, hafter]
  rfl

end Replies

section Verdicts

variable (cfg : LoopConfig Float) (clients : Option (Clients Float))
  (proposal : ToolProposalResult Float)

def unspent : BudgetTracker Float :=
  { budgets := cfg.budgets, estimatedCostUsd := cfg.num.zero, budgetCostUsd := cfg.num.zero }

/-- The call of a first proposal has a price and breaks no limit, with the clock as it is read
next. -/
def Affordable (elapsed : Option (Float × Float)) : Prop :=
  ∃ cost now, priceOf cfg clients (.ofResult proposal.toModelResult) = .ok cost ∧
    elapsed = some now ∧
    (unspent cfg).Fits cfg.num proposal.inputTokens proposal.outputTokens cost.charge.amount now.1

def Drafting (history : History Float) (state : LoopState Float) : Prop :=
  state.tracker = { unspent cfg with iterationCount := 1 } ∧ ∀ x ∈ history, x.call.Plain

def Judged (verdict : Prop) (history : History Float) (state : LoopState Float) : Prop :=
  ∃ now, Told proposal (some now) history ∧
    (Quoted cfg.num history → (Affordable cfg state.clients proposal (some now) ↔ verdict))

def Refused : LoopError Float → History Float → LoopState Float → Prop
  | .fault _ => fun history _ => Told proposal none history
  | .budgetExceeded _ => Judged cfg proposal False
  | _ => fun _ _ => False

def LeftEarly (error : LoopError Float) (history : History Float) (state : LoopState Float) :
    Prop :=
  NoneDeclined history state ∨
    ∃ proposal : ToolProposalResult Float, proposal.outcome ≠ .toolCall ∧
      Refused cfg proposal error history state

structure Declined (value : LoopResult Float) (history : History Float) (state : LoopState Float) :
    Prop where
  judged : Judged cfg proposal True history state
  status : value.status = .completed
  answer : value.answer = declineAnswer proposal
  stored : state.stored.status = .completed

end Verdicts

section Rules

def plainFrame : Frame (LoopCall Float) (LoopState Float) where
  change state next := next.clients = state.clients
  call := LoopCall.Plain

def pricingFrame : Frame (LoopCall Float) (LoopState Float) where
  change := SameBooks
  call call := call.Plain ∧ call ≠ .elapsed

variable {cfg : LoopConfig Float} {proposal : ToolProposalResult Float} {verdict : Prop}

theorem stable_judged : plainFrame.Stable (Judged cfg proposal verdict) where
  change := by
    rintro history state next hclients ⟨now, htold, hverdict⟩
    rw [← hclients] at hverdict
    exact ⟨now, htold, hverdict⟩
  call := by
    rintro x history state hplain ⟨now, htold, hverdict⟩
    exact ⟨now, htold.concat hplain, fun hquoted => hverdict (quoted_append.mp hquoted).1⟩

theorem stable_bookFrame {inv : History Float → LoopState Float → Prop}
    (hinv : plainFrame.Stable inv) : bookFrame.Stable inv where
  change _ _ _ hsame := hinv.change _ _ _ hsame.clients
  call _ _ _ hfree := hinv.call _ _ _ ⟨hfree.isToolCall, hfree.reportsUsage⟩

theorem stable_drafting : bookFrame.Stable (Drafting cfg) where
  change _ _ _ hsame hdrafting := ⟨hsame.tracker.trans hdrafting.1, hdrafting.2⟩
  call _ _ _ hfree hdrafting :=
    ⟨hdrafting.1, forall_mem_concat hdrafting.2 ⟨hfree.isToolCall, hfree.reportsUsage⟩⟩

def Received (cfg : LoopConfig Float) (proposal : ToolProposalResult Float)
    (history : History Float) (state : LoopState Float) : Prop :=
  Told proposal none history ∧ state.tracker = { unspent cfg with iterationCount := 1 }

theorem reading_eq_none {x : Exchange (@LoopReply Float)} (hx : x.call ≠ .elapsed) :
    reading x = none := by
  obtain ⟨call, reply⟩ := x
  cases call with
  | elapsed => exact absurd rfl hx
  | _ => rfl

theorem stable_received : pricingFrame.Stable (Received cfg proposal) where
  change _ _ _ hsame hreceived := ⟨hreceived.1, hsame.tracker.trans hreceived.2⟩
  call := by
    rintro x history state ⟨hplain, hclock⟩ ⟨htold, htracker⟩
    have hnext := htold.concat hplain
    rw [reading_eq_none hclock] at hnext
    exact ⟨hnext, htracker⟩

theorem asksTables_pricingFrame {phase : CallPhase} : AsksTables (@pricingFrame Float) phase :=
  fun _ _ _ _ => ⟨⟨rfl, rfl⟩, nofun⟩

theorem fault_of_callCost {inputTokens outputTokens : Int} {result : Option (ModelResult Float)}
    {modelId : Option String} {phase : CallPhase} {state final : LoopState Float}
    {log : History Float}
    {error : LoopError Float}
    (hrun :
      (callCost cfg phase inputTokens outputTokens result modelId).Runs state log (.error error)
      final) : ∃ fault, error = .fault fault := by
  have hsustained : Sustained fun (_ : History Float) (_ : LoopState Float) => True :=
    { exchange := fun _ _ _ _ => id, message := fun _ _ _ => id, locals := fun _ _ _ _ => id
      publish := fun _ _ _ _ _ => id, step := fun _ _ _ _ => id }
  have hraises : Keeps (fun _ _ => True) (fun error _ _ => ∃ fault, error = .fault fault)
      (callCost cfg phase inputTokens outputTokens result modelId) :=
    keeps_callCost cfg hsustained (fun _ _ _ _ fault _ _ _ => ⟨fault, rfl⟩) _ _ _ _
  exact hraises [] state trivial log (.error error) final hrun

theorem ensures_callCost_received :
    Ensures (Received cfg proposal)
      (callCost cfg .proposal proposal.inputTokens proposal.outputTokens
        (some proposal.toModelResult) none)
      (fun cost history state => Received cfg proposal history state ∧ (Quoted cfg.num history →
        priceOf cfg state.clients (.ofResult proposal.toModelResult) = .ok cost))
      (Refused cfg proposal) := by
  have hframed : Framed pricingFrame (callCost cfg .proposal proposal.inputTokens
      proposal.outputTokens (some proposal.toModelResult) none) :=
    framed_callCost cfg asksTables_pricingFrame _ _ _ _
  intro history state hreceived log outcome final hrun
  have hkept := hframed.keeps stable_received (fun _ _ _ hreceived => hreceived) history state
    hreceived log outcome final hrun
  cases outcome with
  | error error =>
      obtain ⟨fault, rfl⟩ := fault_of_callCost hrun
      exact hkept.1
  | ok cost =>
      refine ⟨hkept, fun hquoted => ?_⟩
      obtain ⟨hprice, rfl⟩ := callCost_of_runs hrun (quoted_append.mp hquoted).2
      cases hcost : priceOf cfg final.clients (.ofResult proposal.toModelResult) with
      | ok price =>
          rw [Usage.ofResult] at hcost
          rw [hcost] at hprice
          rw [Except.ok.inj hprice]
      | error fault =>
          rw [Usage.ofResult] at hcost
          rw [hcost] at hprice
          cases hprice

theorem fits_iterating {inputTokens outputTokens iterations : Int} {amount elapsed : Float} :
    ({ unspent cfg with iterationCount := iterations } : BudgetTracker Float).Fits cfg.num
      inputTokens
        outputTokens amount elapsed ↔
      (unspent cfg).Fits cfg.num inputTokens outputTokens amount elapsed :=
  ⟨fun h => ⟨h.calls, h.input, h.output, h.cost, h.deadline⟩,
    fun h => ⟨h.calls, h.input, h.output, h.cost, h.deadline⟩⟩

theorem affordable_iff {clients : Option (Clients Float)} {cost : CallCost Float}
    {now : Float × Float}
    (hprice : priceOf cfg clients (.ofResult proposal.toModelResult) = .ok cost) :
    Affordable cfg clients proposal (some now) ↔
      (unspent cfg).Fits cfg.num proposal.inputTokens proposal.outputTokens cost.charge.amount
      now.1 := by
  constructor
  · rintro ⟨other, _, hother, ⟨⟩, hfits⟩
    rw [Except.ok.inj (hprice.symm.trans hother)]
    exact hfits
  · exact fun hfits => ⟨cost, now, hprice, rfl, hfits⟩

theorem ensures_recordProposal_judged (llmCallId : String) (callStart : Float) :
    Ensures (Received cfg proposal) (recordProposal cfg proposal llmCallId callStart)
      (fun _ => Judged cfg proposal True) (Refused cfg proposal) := by
  have hclock : Calm pricingFrame (millisSince cfg callStart) := by
    apply calm_bind
    · exact calm_ask ⟨⟨rfl, rfl⟩, nofun⟩
    intro now
    exact calm_pure
  apply ensures_bind (hclock.keeps stable_received)
  intro latencyMs
  have hlocal : Calm pricingFrame
      (modify fun state : LoopState Float => { state with proposalLatencyMs := some latencyMs } :
        LoopM Float PUnit) :=
    calm_modify fun _ => ⟨rfl, rfl, rfl, rfl, rfl, rfl⟩
  apply ensures_bind (hlocal.keeps stable_received)
  intro _
  apply ensures_bind ensures_callCost_received
  intro cost
  have hcount : Ensures
      (fun history state => Received cfg proposal history state ∧ (Quoted cfg.num history →
        priceOf cfg state.clients (.ofResult proposal.toModelResult) = .ok cost))
      (recordCall cfg proposal.inputTokens proposal.outputTokens cost)
      (fun _ => Judged cfg proposal True) (Refused cfg proposal) := by
    apply ensures_track_of
    rintro elapsed history state ⟨⟨htold, htracker⟩, hprice⟩
    have hread : Told proposal (some elapsed) (history ++ [⟨.elapsed, elapsed⟩]) :=
      htold.concat ⟨rfl, rfl⟩
    have hfits : (state.tracker.recordLlmCall cfg.num cfg.fmt proposal.inputTokens
      proposal.outputTokens
        cost.charge elapsed).1 = .ok () ↔
        (unspent cfg).Fits cfg.num proposal.inputTokens proposal.outputTokens cost.charge.amount
          elapsed.1 := by
      rw [htracker, recordLlmCall_ok_iff]
      exact fits_iterating
    have hverdict (hquoted : Quoted cfg.num (history ++ [⟨.elapsed, elapsed⟩])) :
        Affordable cfg state.clients proposal (some elapsed) ↔ (unspent cfg).Fits cfg.num
          proposal.inputTokens proposal.outputTokens cost.charge.amount elapsed.1 :=
      affordable_iff (hprice (quoted_append.mp hquoted).1)
    unfold AfterRecord
    split
    case h_1 hok =>
      exact ⟨elapsed, hread, fun hquoted =>
        (hverdict hquoted).trans (iff_true_intro (hfits.mp hok))⟩
    case h_2 error hraised =>
      refine ⟨elapsed, hread, fun hquoted => (hverdict hquoted).trans (iff_false_intro fun hfit =>
        ?_)⟩
      cases hraised.symm.trans (hfits.mpr hfit)
  apply ensures_bind hcount
  intro _
  have hlist (call : LLMCall Float) : Calm plainFrame (appendCall call) := calm_modify fun _ => rfl
  apply ensures_bind ((hlist _).keeps stable_judged)
  intro _
  apply ensures_bind ((calm_emit cfg _ _ _).keeps (stable_bookFrame stable_judged))
  intro _
  apply ensures_bind ((calm_addStep _).keeps (stable_bookFrame stable_judged))
  intro _
  have hchosen : Calm plainFrame
      (modify fun state : LoopState Float =>
        { state with
          activePlannerOutcome := proposal.outcome
          activeSelectedTool := nonempty (some proposal.name) } : LoopM Float PUnit) :=
    calm_modify fun _ => rfl
  exact hchosen.keeps stable_judged

end Rules

section Stages

variable {cfg : LoopConfig Float} {proposal : ToolProposalResult Float}

theorem not_declinesFirst_of_escapes {x : Exchange (@LoopReply Float)} (hx : Escapes x) :
    ¬ DeclinesFirst x := by
  unfold Escapes at hx
  split at hx
  all_goals first | exact id | exact hx.elim

theorem notable_of_declinesFirst {x : Exchange (@LoopReply Float)} (hx : DeclinesFirst x) :
    Notable x := by
  unfold DeclinesFirst at hx
  split at hx
  · trivial
  · exact hx.elim

theorem noneDeclined_concat {x : Exchange (@LoopReply Float)} {history : History Float}
    {state : LoopState Float} (hx : ¬ DeclinesFirst x) (hnone : NoneDeclined history state) :
    NoneDeclined (history ++ [x]) state :=
  forall_mem_concat hnone hx

theorem carried_noneDeclined : Carried (@NoneDeclined Float) where
  exchange _ _ _ hx := noneDeclined_concat fun hdeclines => hx (notable_of_declinesFirst hdeclines)
  locals _ _ _ _ hnone := hnone
  publish _ _ _ _ _ hnone := hnone
  step _ _ _ _ hnone := hnone
  lastStep _ _ _ hnone := hnone
  message _ _ _ hnone := hnone

theorem closes_noneDeclined : Closes (@NoneDeclined Float) where
  toLogged := carried_noneDeclined.toLogged
  record _ _ _ hnone := hnone
  publish _ _ _ _ hnone := hnone

theorem leftEarly_of_handled (error : LoopError Float) (history : History Float)
    (state : LoopState Float) (_ : Handled error) (hnone : NoneDeclined history state) :
    LeftEarly cfg error history state :=
  .inl hnone

theorem leftEarly_of_escape (x : Exchange (@LoopReply Float)) (error : LoopError Float)
    (history : History Float) (state : LoopState Float) (hx : Escapes x) (_ : ¬ Handled error)
    (hnone : NoneDeclined history state) : LeftEarly cfg error (history ++ [x]) state :=
  .inl (noneDeclined_concat (not_declinesFirst_of_escapes hx) hnone)

theorem ensures_drafting {α : Type} {m : LoopM Float α} (hm : Framed bookFrame m) :
    Ensures (Drafting cfg) m (fun _ => Drafting cfg) (LeftEarly cfg) :=
  hm.keeps stable_drafting fun _ _ _ hdrafting => .inl (noneDeclined_of_plain hdrafting.2)

def AfterFirst (cfg : LoopConfig Float) (proposal : ToolProposalResult Float)
    (history : History Float) (state : LoopState Float) : Prop :=
  if proposal.outcome = .toolCall then NoneDeclined history state
  else Judged cfg proposal True history state

theorem ensures_proposeTaxiQuery_judged (schema : PyValue Float) (llmCallId : String) :
    Ensures (Drafting cfg) (proposeTaxiQuery cfg schema llmCallId) (AfterFirst cfg)
      (LeftEarly cfg) := by
  apply ensures_bind (ensures_drafting (framed_emit cfg _ _ _))
  intro _
  apply ensures_bind (ensures_drafting framed_ensureCostDeterminate)
  intro _
  apply ensures_bind (ensures_drafting (framed_request ⟨rfl, rfl, rfl⟩))
  intro callStart
  let call : LoopCall Float := .proposeTaxiQuery .proposal llmCallId cfg.prompt schema
  have hask : Ensures (Drafting cfg) (runWithCancellation call)
      (fun reply history state =>
        ∃ before, history = before ++ [⟨call, reply⟩] ∧ Drafting cfg before state)
      (LeftEarly cfg) := by
    have hsubmit : Ensures (Drafting cfg) (request (.submitted call) : LoopM Float Nat)
        (fun _ => Drafting cfg) (LeftEarly cfg) := by
      apply ensures_ask
      intro polls history state hdrafting
      exact ⟨hdrafting.1, forall_mem_concat hdrafting.2 ⟨rfl, rfl⟩⟩
    apply ensures_bind hsubmit
    intro polls
    apply ensures_bind (ensures_drafting (framed_pollWorker polls))
    intro _
    exact ensures_ask fun reply history state hdrafting => ⟨history, rfl, hdrafting⟩
  apply ensures_bind hask
  intro reply
  match reply with
  | .error (.configuration message) =>
      apply ensures_throw
      rintro _ state ⟨before, rfl, hdrafting⟩
      have hnone : NoneDeclined before state := noneDeclined_of_plain hdrafting.2
      exact .inl (noneDeclined_concat id hnone)
  | .error (.provider error) =>
      have hfailed : Ensures
          (fun history state =>
            ∃ before, history = before ++ [⟨call, .error (.provider error)⟩] ∧
              Drafting cfg before state)
          (recordProposalFailure cfg error llmCallId callStart) (fun _ => NoneDeclined)
          (LeftEarly cfg) := by
        apply (keeps_recordProposalFailure cfg carried_noneDeclined.toSustained leftEarly_of_handled
          leftEarly_of_escape error llmCallId callStart).mono_pre
        rintro _ state ⟨before, rfl, hdrafting⟩
        have hnone : NoneDeclined before state := noneDeclined_of_plain hdrafting.2
        exact noneDeclined_concat id hnone
      apply ensures_bind hfailed
      intro _
      exact ensures_throw fun _ _ hnone => .inl hnone
  | .ok proposal =>
      have hrecord : Ensures
          (fun history state =>
            ∃ before, history = before ++ [⟨call, .ok proposal⟩] ∧ Drafting cfg before state)
          (recordProposal cfg proposal llmCallId callStart) (fun _ => AfterFirst cfg proposal)
          (LeftEarly cfg) := by
        unfold AfterFirst
        split
        case isTrue hselects =>
          apply (keeps_recordProposal cfg carried_noneDeclined.toSustained leftEarly_of_handled
            leftEarly_of_escape proposal llmCallId callStart).mono_pre
          rintro _ state ⟨before, rfl, hdrafting⟩
          have hnone : NoneDeclined before state := noneDeclined_of_plain hdrafting.2
          exact noneDeclined_concat (fun hdeclines => hdeclines hselects) hnone
        case isFalse hdeclines =>
          apply (ensures_recordProposal_judged llmCallId callStart).weaken
          · rintro _ state ⟨before, rfl, htracker, hplain⟩
            exact ⟨told_proposal hplain, htracker⟩
          · exact fun _ _ _ hjudged => hjudged
          · exact fun _ _ _ hrefused => .inr ⟨proposal, hdeclines, hrefused⟩
      apply ensures_bind hrecord
      intro _
      exact ensures_pure fun _ _ hafter => hafter

theorem calm_request_plain {call : LoopCall Float} (hplain : call.Plain) :
    Calm plainFrame (request call : LoopM Float (LoopReply call)) := calm_ask hplain

theorem calm_addMessage_plain {role content : String} {metadata : Dict Float} :
    Calm plainFrame (addMessage cfg role content metadata) := by
  apply calm_bind (calm_request_plain ⟨rfl, rfl⟩)
  intro messageId
  apply calm_bind (calm_request_plain ⟨rfl, rfl⟩)
  intro createdAt
  exact calm_modify fun _ => rfl

theorem ensures_finishRun_plain {inv : History Float → LoopState Float → Prop}
    {err : LoopError Float → History Float → LoopState Float → Prop} (hinv : plainFrame.Stable inv)
    (answer : String) (ending : Ending Float) (latency : LoopState Float → Int → Int) :
    Ensures inv (finishRun cfg answer ending latency)
      (fun value history state => inv history state ∧ value.status = ending.status ∧
        value.answer = answer ∧ state.stored.status = ending.status) err := by
  apply ensures_bind (ensures_get fun _ _ hstate => hstate)
  intro start
  apply ensures_bind ((calm_millisSince cfg _).keeps (stable_bookFrame hinv))
  intro latencyMs
  have hkeep : Ensures inv (keepPartialText cfg ending.partialText) (fun _ => inv) err := by
    apply ensures_ite
    · exact fun _ => ensures_pure fun _ _ hstate => hstate
    · exact fun _ => calm_addMessage_plain.keeps hinv
  apply ensures_bind hkeep
  intro _
  have hrecord : Ensures inv (recordTerminal cfg ending (telemetry start latencyMs))
      (fun _ history state => inv history state ∧ state.stored.status = ending.status) err := by
    apply ensures_bind ((calm_request_plain ⟨rfl, rfl⟩).keeps hinv)
    intro completedAt
    apply ensures_bind (ensures_get fun _ _ hstate => hstate)
    intro before
    have hupdate : Ensures inv (updateRun (terminalRun cfg before ending completedAt
          (telemetry start latencyMs)))
        (fun _ history state => inv history state ∧ state.stored.status = ending.status) err :=
      ensures_modify fun history state hstate => ⟨hinv.change history state _ rfl hstate, rfl⟩
    apply ensures_bind hupdate
    intro _
    exact ensures_modify fun history state hend => ⟨hinv.change history state _ rfl hend.1, hend.2⟩
  apply ensures_bind hrecord
  intro _
  apply ensures_bind (ensures_get fun _ _ hstate => hstate)
  intro last
  exact ensures_pure fun _ _ hend => ⟨hend.1, rfl, rfl, hend.2⟩

theorem ensures_declineRun_declined :
    Ensures (Judged cfg proposal True) (declineRun cfg proposal) (Declined cfg proposal)
      (LeftEarly cfg) := by
  have hlocal : Calm plainFrame
      (modify fun state : LoopState Float =>
        { state with activeRejectedOutcome := some proposal.outcome } : LoopM Float PUnit) :=
    calm_modify fun _ => rfl
  apply ensures_bind (hlocal.keeps stable_judged)
  intro _
  apply ensures_bind ((calm_emit cfg _ _ _).keeps (stable_bookFrame stable_judged))
  intro _
  apply ensures_bind ((calm_addStep _).keeps (stable_bookFrame stable_judged))
  intro _
  apply ensures_bind (calm_addMessage_plain.keeps stable_judged)
  intro _
  apply (ensures_finishRun_plain stable_judged _ _ _).weaken
  · exact fun _ _ hjudged => hjudged
  · exact fun _ _ _ hend => ⟨hend.1, hend.2.1, hend.2.2.1, hend.2.2.2⟩
  · exact fun _ _ _ hraised => hraised

def AfterChoice (cfg : LoopConfig Float) : Selection Float → History Float → LoopState Float → Prop
  | .declined value => fun history state => NoneDeclined history state ∨
      ∃ proposal : ToolProposalResult Float, proposal.outcome ≠ .toolCall ∧
        Declined cfg proposal value history state
  | .tool _ _ _ => NoneDeclined

theorem ensures_fromModel_judged (schema : PyValue Float) (proposalCallId : String) :
    Ensures (Drafting cfg) (fromModel cfg schema proposalCallId) (AfterChoice cfg)
      (LeftEarly cfg) := by
  apply ensures_bind (ensures_proposeTaxiQuery_judged schema proposalCallId)
  intro proposal
  unfold AfterFirst
  apply ensures_ite
  · intro hselects
    simp only [if_pos hselects]
    apply ensures_bind (keeps_candidateOf carried_noneDeclined.toSustained leftEarly_of_escape
      _ _ _)
    intro candidate
    apply ensures_bind (keeps_repairProposal cfg carried_noneDeclined.toSustained
      leftEarly_of_handled leftEarly_of_escape _ _ _)
    intro selected
    exact ensures_pure fun _ _ hnone => hnone
  · intro hdeclines
    simp only [if_neg hdeclines]
    apply ensures_bind ensures_declineRun_declined
    intro value
    exact ensures_pure fun _ _ hdeclined => .inr ⟨proposal, hdeclines, hdeclined⟩

theorem ensures_selectTool_judged (schema : PyValue Float) (proposalCallId : String) :
    Ensures (Drafting cfg) (selectTool cfg schema proposalCallId) (AfterChoice cfg)
      (LeftEarly cfg) := by
  apply ensures_bind (ensures_drafting (framed_checkCancellation _))
  intro _
  apply ensures_bind
  · exact ensures_drafting (framed_local fun _ => ⟨rfl, rfl, rfl, rfl, rfl, rfl⟩)
  intro _
  apply ensures_bind (ensures_drafting (framed_request ⟨rfl, rfl, rfl⟩))
  intro entry
  match entry with
  | none => exact ensures_fromModel_judged _ _
  | some (name, arguments) =>
      apply (ensures_fromCatalogue cfg carried_noneDeclined.toSustained name arguments).weaken
      · exact fun _ _ hdrafting => noneDeclined_of_plain hdrafting.2
      · intro selection history state hafter
        cases selection with
        | declined value => exact .inl hafter
        | tool llmCallId name arguments => exact hafter
      · exact fun _ _ _ hraised => hraised

def Unspent (cfg : LoopConfig Float) (history : History Float) (state : LoopState Float) : Prop :=
  state.tracker = unspent cfg ∧ ∀ x ∈ history, x.call.Plain

theorem stable_unspent : bookFrame.Stable (Unspent cfg) where
  change _ _ _ hsame hunspent := ⟨hsame.tracker.trans hunspent.1, hunspent.2⟩
  call _ _ _ hfree hunspent :=
    ⟨hunspent.1, forall_mem_concat hunspent.2 ⟨hfree.isToolCall, hfree.reportsUsage⟩⟩

theorem ensures_unspent {α : Type} {m : LoopM Float α} (hm : Framed bookFrame m) :
    Ensures (Unspent cfg) m (fun _ => Unspent cfg) (LeftEarly cfg) :=
  hm.keeps stable_unspent fun _ _ _ hunspent => .inl (noneDeclined_of_plain hunspent.2)

theorem ensures_loopBody_judged :
    Ensures (Unspent cfg) (loopBody cfg)
      (fun value history state => AfterChoice cfg (.declined value) history state)
      (LeftEarly cfg) := by
  apply ensures_bind (ensures_unspent (framed_checkCancellation _))
  intro _
  apply ensures_bind (ensures_unspent (framed_request ⟨rfl, rfl, rfl⟩))
  intro proposalCallId
  have hclients : Ensures (Unspent cfg) (obtainClients proposalCallId) (fun _ => Unspent cfg)
      (LeftEarly cfg) := by
    apply ensures_bind (ensures_unspent (framed_request ⟨rfl, rfl, rfl⟩))
    intro reply
    match reply with
    | .error (.configuration message) => exact ensures_unspent framed_throw
    | .error (.mcp error) => exact ensures_unspent framed_throw
    | .ok clients => exact ensures_modify fun _ _ hunspent => hunspent
  apply ensures_bind hclients
  intro _
  have hiterate : Ensures (Unspent cfg)
      (track fun tracker elapsed => tracker.recordIteration cfg.num cfg.fmt elapsed)
      (fun _ => Drafting cfg) (LeftEarly cfg) := by
    apply ensures_track_of
    rintro elapsed history state ⟨htracker, hplain⟩
    have hread : ∀ x ∈ history ++ [⟨.elapsed, elapsed⟩], x.call.Plain :=
      forall_mem_concat hplain ⟨rfl, rfl⟩
    unfold AfterRecord
    split
    · refine ⟨?_, hread⟩
      rw [htracker]
      exact recordIteration_tracker
    · exact .inl (noneDeclined_of_plain hread)
  apply ensures_bind hiterate
  intro _
  apply ensures_bind (ensures_drafting (framed_loadSchema cfg _))
  intro schema
  apply ensures_bind (ensures_selectTool_judged _ _)
  intro selection
  cases selection with
  | declined value => exact ensures_pure fun _ _ hafter => hafter
  | tool llmCallId name arguments =>
      apply (ensures_answerWithTool cfg carried_noneDeclined.toSustained leftEarly_of_handled
        leftEarly_of_escape carried_noneDeclined.concludes
        (fun answer latency => keeps_finishRun cfg closes_noneDeclined answer latency)
          _ _ _ _ _).weaken
      · exact fun _ _ hnone => hnone
      · exact fun _ _ _ hnone => .inl hnone
      · exact fun _ _ _ hraised => hraised

def Concluded (cfg : LoopConfig Float) (proposal : ToolProposalResult Float) :
    Except (LoopError Float) (LoopResult Float) → History Float → LoopState Float → Prop
  | .ok value => fun history state => Declined cfg proposal value history state ∨
      (Judged cfg proposal False history state ∧ value.status = .budgetExceeded)
  | .error (.fault _) => fun history _ => Told proposal none history
  | .error _ => fun _ _ => False

def RunEnds (cfg : LoopConfig Float) (result : Except (LoopError Float) (LoopResult Float))
    (history : History Float) (state : LoopState Float) : Prop :=
  NoneDeclined history state ∨ ∃ proposal : ToolProposalResult Float, proposal.outcome ≠ .toolCall ∧
    Concluded cfg proposal result history state

theorem ensures_recordError_judged (error : LoopError Float) :
    Ensures (LeftEarly cfg error) (recordError cfg error) (fun value => RunEnds cfg (.ok value))
      (fun error => RunEnds cfg (.error error)) := by
  rintro history state (hnone | ⟨proposal, hdeclines, hrefused⟩) log result final hrun
  · have hkept := keeps_recordError cfg closes_noneDeclined error history state hnone log result
      final hrun
    cases result with
    | ok value => exact .inl hkept
    | error raised => exact .inl hkept
  · cases error with
    | budgetExceeded exceeded =>
        have hexceeded : Ensures (Judged cfg proposal False)
            (recordError cfg (.budgetExceeded exceeded))
            (fun value => RunEnds cfg (.ok value)) (fun error => RunEnds cfg (.error error)) := by
          apply (ensures_finishRun_plain stable_judged _ _ _).weaken
          · exact fun _ _ hjudged => hjudged
          · exact fun _ _ _ hend => .inr ⟨proposal, hdeclines, .inr ⟨hend.1, hend.2.1⟩⟩
          · exact fun _ _ _ hraised => hraised
        exact hexceeded history state hrefused log result final hrun
    | fault fault =>
        have hraised : Ensures (fun history _ => Told proposal none history)
            (throw (.fault fault) : LoopM Float (LoopResult Float))
              (fun value => RunEnds cfg (.ok value))
            (fun error => RunEnds cfg (.error error)) :=
          ensures_throw fun _ _ htold => .inr ⟨proposal, hdeclines, htold⟩
        exact hraised history state hrefused log result final hrun
    | _ => exact hrefused.elim

theorem ensures_executeLoop_judged :
    Ensures (Unspent cfg) (executeLoop cfg) (fun value => RunEnds cfg (.ok value))
      (fun error => RunEnds cfg (.error error)) := by
  apply ensures_bind
  · exact (calm_request ⟨rfl, rfl, rfl⟩).keeps stable_unspent
  intro startMono
  have hstart : Ensures (Unspent cfg)
      (modify fun state : LoopState Float => { state with startMono } : LoopM Float PUnit)
      (fun _ => Unspent cfg) (fun error => RunEnds cfg (.error error)) :=
    ensures_modify fun _ _ hunspent => hunspent
  apply ensures_bind hstart
  intro _
  apply ensures_tryCatch
  · apply ensures_loopBody_judged.weaken
    · exact fun _ _ hunspent => hunspent
    · rintro value history state (hnone | ⟨proposal, hdeclines, hdeclined⟩)
      · exact .inl hnone
      · exact .inr ⟨proposal, hdeclines, .inl hdeclined⟩
    · exact fun _ _ _ hleft => hleft
  · exact ensures_recordError_judged

end Stages

section Runs

variable {cfg : LoopConfig Float} {messages : List (Message Float)} {nextSeq : Int}
  {log before after : History Float} {result : Except (LoopError Float) (LoopResult Float)}
  {final : LoopState Float} {proposal : ToolProposalResult Float} {llmCallId prompt : String}
  {schema : PyValue Float}

structure EndsDeclined (proposal : ToolProposalResult Float)
    (result : Except (LoopError Float) (LoopResult Float)) (final : LoopState Float) : Prop where
  answered : ∃ value, result = .ok value ∧ value.status = .completed ∧
    value.answer = declineAnswer proposal
  stored : final.stored.status = .completed

/-- **A first proposal that selects no tool.** The run calls no tool, and no failure of a proposal
ends it. It ends completed with the answer that declines the question if and only if the proposal's
call has a price and fits the limits of the run; otherwise it ends on the limit, or in the fault of
the price. -/
theorem first_proposal_declines
    (hrun : (executeLoop cfg).Runs (initialState cfg messages nextSeq) log result final)
    (hlog : log =
      before ++ ⟨.proposeTaxiQuery .proposal llmCallId prompt schema, .ok proposal⟩ :: after)
    (hdeclines : proposal.outcome ≠ .toolCall) (hquoted : Quoted cfg.num log) :
    toolCallsOf log = 0 ∧ (∀ error, result ≠ .error (.orchestration error)) ∧
      (EndsDeclined proposal result final ↔
        Affordable cfg final.clients proposal (firstReading after)) ∧
      (¬ Affordable cfg final.clients proposal (firstReading after) →
        (∃ value, result = .ok value ∧ value.status = .budgetExceeded) ∨
          ∃ fault, result = .error (.fault fault)) := by
  have hunspent : Unspent cfg [] (initialState cfg messages nextSeq) := ⟨rfl, List.forall_mem_nil _⟩
  have hend := ensures_executeLoop_judged [] _ hunspent log result final hrun
  rw [List.nil_append] at hend
  have hends : RunEnds cfg result log final := by
    cases result with
    | ok value => exact hend
    | error error => exact hend
  rcases hends with hnone | ⟨other, -, hconcluded⟩
  · have hmem : ⟨.proposeTaxiQuery .proposal llmCallId prompt schema, .ok proposal⟩ ∈ log := by
      rw [hlog]
      exact List.mem_append_right _ List.mem_cons_self
    exact absurd hdeclines (hnone _ hmem)
  · match result, hconcluded with
    | .ok value, .inl ⟨⟨now, htold, hverdict⟩, hstatus, hanswer, hstored⟩ =>
        have hcalls := htold.toolCallsOf_eq
        rw [hlog] at htold
        obtain ⟨rfl, hreading⟩ := htold.eq_of_split
        have haffordable := (hverdict hquoted).mpr trivial
        rw [← hreading] at haffordable
        exact ⟨hcalls, nofun, iff_of_true ⟨⟨value, rfl, hstatus, hanswer⟩, hstored⟩ haffordable,
          fun hnot => absurd haffordable hnot⟩
    | .ok value, .inr ⟨⟨now, htold, hverdict⟩, hstatus⟩ =>
        have hcalls := htold.toolCallsOf_eq
        rw [hlog] at htold
        obtain ⟨rfl, hreading⟩ := htold.eq_of_split
        have hrefused := (hverdict hquoted).mp
        rw [← hreading] at hrefused
        refine ⟨hcalls, nofun, iff_of_false ?_ hrefused, fun _ => .inl ⟨value, rfl, hstatus⟩⟩
        rintro ⟨⟨_, ⟨⟩, hcompleted, -⟩, -⟩
        cases hstatus.symm.trans hcompleted
    | .error (.fault fault), htold =>
        have hcalls := Told.toolCallsOf_eq htold
        rw [hlog] at htold
        obtain ⟨rfl, hreading⟩ := Told.eq_of_split htold
        rw [hreading]
        refine ⟨hcalls, nofun, iff_of_false ?_ ?_, fun _ => .inr ⟨fault, rfl⟩⟩
        · rintro ⟨⟨_, ⟨⟩, -⟩, -⟩
        · rintro ⟨_, _, -, ⟨⟩, -⟩

def unsupportedProposal (inputTokens : Int) : ToolProposalResult Int :=
  { sampleProposal with inputTokens, outcome := .unsupported }

def unsupportedReply (inputTokens : Int) : (call : LoopCall Int) → LoopReply call
  | .estimate _ table key input output => table.quote sampleConfig.num key input output
  | .proposeTaxiQuery _ _ _ _ => .ok (unsupportedProposal inputTokens)
  | call => sampleReply (.ok sampleProposal) call

def unsupportedPlay (inputTokens : Int) :
    History Int × Except (LoopError Int) (LoopResult Int) × LoopState Int :=
  (executeLoop sampleConfig).play (fun _ => unsupportedReply inputTokens)
    (initialState sampleConfig [] 2)

theorem runs_unsupportedPlay (inputTokens : Int) :
    (executeLoop sampleConfig).Runs (initialState sampleConfig [] 2) (unsupportedPlay inputTokens).1
      (unsupportedPlay inputTokens).2.1 (unsupportedPlay inputTokens).2.2 :=
  runs_play (executeLoop sampleConfig) (fun _ => unsupportedReply inputTokens)
    (initialState sampleConfig [] 2)

theorem unsupported_proposal_declines :
    EndsDeclined (unsupportedProposal 100) (unsupportedPlay 100).2.1 (unsupportedPlay 100).2.2 := by
  have hsplit : (unsupportedPlay 100).1 = (unsupportedPlay 100).1.take 13 ++
      ⟨.proposeTaxiQuery .proposal "llm_1" "Which zones are busiest?" (.dict []),
        .ok (unsupportedProposal 100)⟩ :: (unsupportedPlay 100).1.drop 14 := rfl
  obtain ⟨-, -, hends, -⟩ := first_proposal_declines (runs_unsupportedPlay 100) hsplit nofun
    (quoted_play fun _ _ _ _ _ => rfl)
  exact hends.mpr ⟨_, (0, 0), rfl, rfl, ⟨by decide, by decide, by decide, rfl, rfl⟩⟩

/-- A retry that finds no tool is validated as if it had selected one, and fails the run. A first
proposal with more input tokens than the run may use ends it on the limit. -/
theorem unsupported_proposal_fails_run :
    ((∃ llmCallId prompt schema,
        ⟨.proposeTaxiQuery .proposalRetry llmCallId prompt schema, .ok (unsupportedProposal 100)⟩ ∈
          (samplePlay (.ok (unsupportedProposal 100))).1) ∧
      (∃ error, (executeLoop sampleConfig).Runs (initialState sampleConfig [] 2)
        (samplePlay (.ok (unsupportedProposal 100))).1 (.error (.orchestration error))
        (samplePlay (.ok (unsupportedProposal 100))).2.2 ∧ error.code = "tool_validation_error") ∧
      ¬ EndsDeclined (unsupportedProposal 100) (samplePlay (.ok (unsupportedProposal 100))).2.1
        (samplePlay (.ok (unsupportedProposal 100))).2.2) ∧
    (∃ llmCallId prompt schema,
        ⟨.proposeTaxiQuery .proposal llmCallId prompt schema, .ok (unsupportedProposal 20001)⟩ ∈
          (unsupportedPlay 20001).1) ∧
      (unsupportedPlay 20001).2.2.stored.status = .budgetExceeded ∧
      ¬ EndsDeclined (unsupportedProposal 20001) (unsupportedPlay 20001).2.1
        (unsupportedPlay 20001).2.2 := by
  refine ⟨⟨⟨_, _, _, List.mem_iff_getElem?.mpr ⟨24, rfl⟩⟩, ⟨_, runs_samplePlay _, rfl⟩, ?_⟩,
    ⟨_, _, _, List.mem_iff_getElem?.mpr ⟨13, rfl⟩⟩, rfl, ?_⟩
  · rintro ⟨-, ⟨⟩⟩
  · rintro ⟨-, ⟨⟩⟩

end Runs

end AiAnalytics.App.Loop
