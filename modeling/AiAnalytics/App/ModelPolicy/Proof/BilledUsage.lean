import AiAnalytics.App.ModelPolicy.Billing
import AiAnalytics.App.ModelPolicy.Proof.BudgetBounds
import AiAnalytics.App.Llm.Proof.ClientTotality

/-!
# What the budgets keep of reported usage

A run's budget is ahead of the provider's reports by what was committed for its calls beyond what
they reported. A commit of known counts leaves that margin as it is; a release gives up whatever was
reported.
-/

namespace AiAnalytics.App.Budget

open Lib

variable {budgets after : RunBudgets} {reservation : Reservation} {runId : String}
  {bill next : Bill} {event : CallEvent}

section Spending

def Reservation.charge (reservation : Reservation) (runId : String) (amount : Int) : Int :=
  if reservation.runId = runId then amount else 0

theorem usedTokens_reserve (tokens : Int) (usd : Option ℚ) (owner : String) :
    ((budgets.reserve owner tokens usd).2.state runId).usedTokens =
      (budgets.state runId).usedTokens := by
  have hput (state : RunState) (hused : state.usedTokens = (budgets.state owner).usedTokens) :
      ((budgets.put owner (some state)).state runId).usedTokens =
        (budgets.state runId).usedTokens := by
    by_cases hrun : runId = owner
    · rw [hrun, state_put_same]
      exact hused
    · rw [state_put_of_ne _ hrun]
  unfold RunBudgets.reserve
  simp only
  split
  · exact hput _ rfl
  · split
    · exact hput _ rfl
    · exact hput _ rfl

theorem usedTokens_put_settled {state : RunState} {amount : Int}
    (hsome : budgets.runs reservation.runId = some state) {settled : RunState}
    (hused : settled.usedTokens = state.usedTokens + amount) :
    ((budgets.put reservation.runId (some settled)).state runId).usedTokens =
      (budgets.state runId).usedTokens + reservation.charge runId amount := by
  by_cases hrun : runId = reservation.runId
  · have hstate : budgets.state runId = state := by rw [hrun, RunBudgets.state, hsome]; rfl
    rw [Reservation.charge, if_pos hrun.symm, hstate, hrun, state_put_same]
    exact hused
  · rw [Reservation.charge, if_neg (Ne.symm hrun), state_put_of_ne _ hrun, add_zero]

theorem usedTokens_commit {inputTokens outputTokens : Option Int} {usd : Option ℚ}
    (h : budgets.commit reservation inputTokens outputTokens usd = some after) :
    (after.state runId).usedTokens =
      (budgets.state runId).usedTokens +
        reservation.charge runId (reservation.spentTokens inputTokens outputTokens) := by
  obtain ⟨state, hsome, rfl⟩ := Option.map_eq_some_iff.mp h
  exact usedTokens_put_settled hsome (congrArg Account.used tokenAccount_commit)

theorem usedTokens_release (h : budgets.release reservation = some after) :
    (after.state runId).usedTokens = (budgets.state runId).usedTokens + reservation.charge runId
      0 := by
  obtain ⟨state, hsome, rfl⟩ := Option.map_eq_some_iff.mp h
  exact usedTokens_put_settled hsome (add_zero _).symm

def AttemptEnd.spent (reservation : Reservation) : AttemptEnd → Int
  | .returned usage _ =>
      reservation.spentTokens (if usage.usageKnown then usage.inputTokens else none)
        (if usage.usageKnown then usage.outputTokens else none)
  | .raised _ => 0

theorem usedTokens_settleAttempt {outcome : AttemptEnd}
    (h : budgets.settleAttempt reservation outcome = some after) :
    (after.state runId).usedTokens =
      (budgets.state runId).usedTokens + reservation.charge runId (outcome.spent reservation) := by
  cases outcome with
  | returned usage costUsd => exact usedTokens_commit h
  | raised usage => exact usedTokens_release h

variable {call settled : AgentCallReservation}

theorem usedTokens_endAgentCall {inputTokens outputTokens : Int} {usageKnown : Bool}
    {costUsd : Option ℚ} (hreservation : call.reservation = some reservation)
    (h : endAgentCall budgets call inputTokens outputTokens usageKnown costUsd =
      some (after, settled)) :
    (after.state runId).usedTokens =
      (budgets.state runId).usedTokens + reservation.charge runId
        (if call.isOpen then
          reservation.spentTokens (if usageKnown then some inputTokens else none)
            (if usageKnown then some outputTokens else none)
        else 0) := by
  rw [endAgentCall, AgentCallReservation.settle, hreservation] at h
  cases hopen : call.isOpen with
  | true =>
      simp only [hopen, if_true, Option.map_eq_some_iff, Prod.mk.injEq] at h
      obtain ⟨committed, hcommit, rfl, -⟩ := h
      rw [if_pos rfl]
      exact usedTokens_commit hcommit
  | false =>
      simp only [hopen, Bool.false_eq_true, if_false, Option.some.injEq, Prod.mk.injEq] at h
      rw [← h.1, if_neg (by decide), Reservation.charge, ite_self, add_zero]

theorem usedTokens_releaseAgentCall (hreservation : call.reservation = some reservation)
    (h : releaseAgentCall budgets call = some (after, settled)) :
    (after.state runId).usedTokens =
      (budgets.state runId).usedTokens + reservation.charge runId 0 := by
  rw [releaseAgentCall, AgentCallReservation.settle, hreservation] at h
  cases hopen : call.isOpen with
  | true =>
      simp only [hopen, if_true, Option.map_eq_some_iff, Prod.mk.injEq] at h
      obtain ⟨released, hrelease, rfl, -⟩ := h
      exact usedTokens_release hrelease
  | false =>
      simp only [hopen, Bool.false_eq_true, if_false, Option.some.injEq, Prod.mk.injEq] at h
      rw [← h.1, Reservation.charge, ite_self, add_zero]

end Spending

section Margin

def Bill.margin (bill : Bill) (runId : String) : Int :=
  (bill.budgets.state runId).usedTokens - bill.reported runId

theorem reported_report (owner : String) (usage : Usage) :
    (bill.report owner usage).reported runId =
      bill.reported runId + if owner = runId then usage.total else 0 := by
  by_cases howner : owner = runId
  · rw [if_pos howner, ← howner]
    exact Function.update_self owner _ bill.reported
  · rw [if_neg howner, add_zero]
    exact Function.update_of_ne (Ne.symm howner) _ bill.reported

theorem margin_report {usage : Usage} {amount : Int} {settled : Bill}
    (hreported : settled.reported = bill.reported)
    (hused : (settled.budgets.state runId).usedTokens =
      (bill.budgets.state runId).usedTokens + reservation.charge runId amount) :
    (settled.report reservation.runId usage).margin runId =
      bill.margin runId + reservation.charge runId (amount - usage.total) := by
  rw [Bill.margin, reported_report, hreported, Bill.margin]
  show (settled.budgets.state runId).usedTokens - _ = _
  rw [hused, Reservation.charge, Reservation.charge]
  split_ifs with howner <;> omega

def agentSpent (call : AgentCallReservation) (reservation : Reservation) (guardPasses : Bool)
    (usage : Option (Int × Int)) : Int :=
  if guardPasses && call.isOpen then
    reservation.spentTokens (usage.map (·.1)) (usage.map (·.2))
  else 0

theorem usedTokens_onLlmEnd {call settled : AgentCallReservation} {guardPasses : Bool}
    {usage : Option (Int × Int)} {costUsd : Option ℚ}
    (hreservation : call.reservation = some reservation)
    (h : onLlmEnd budgets call guardPasses usage costUsd = some (after, settled)) :
    (after.state runId).usedTokens =
      (budgets.state runId).usedTokens +
        reservation.charge runId (agentSpent call reservation guardPasses usage) := by
  rw [onLlmEnd] at h
  cases guardPasses with
  | false =>
      simp only [Bool.false_eq_true, if_false, Option.some.injEq, Prod.mk.injEq] at h
      rw [← h.1, agentSpent, Bool.false_and, if_neg (by decide), Reservation.charge, ite_self,
        add_zero]
  | true =>
      rw [if_pos rfl] at h
      rw [usedTokens_endAgentCall hreservation h, agentSpent, Bool.true_and]
      cases usage with
      | none => rfl
      | some counts => rfl

def CallEvent.gain (bill : Bill) (runId : String) : CallEvent → Int
  | .attempt .. | .onChatModelStart .. | .releaseOpenHold _ => 0
  | .attemptEnd id outcome =>
      ((bill.attempts[id]?).map fun entry =>
        entry.reservation.charge runId (outcome.spent entry.reservation - outcome.usage.total)).getD
          0
  | .onLlmEnd id guardPasses usage _ =>
      ((bill.agentCalls[id]?).bind fun call => call.reservation.map fun reservation =>
        reservation.charge runId
          (agentSpent call reservation guardPasses usage - (agentUsage usage).total)).getD 0
  | .onLlmError id usage =>
      ((bill.agentCalls[id]?).bind fun call => call.reservation.map fun reservation =>
        reservation.charge runId (0 - usage.total)).getD 0

theorem margin_of_reserve {owner : String} {tokens : Int} {usd : Option ℚ}
    (hbudgets : next.budgets = (bill.budgets.reserve owner tokens usd).2)
    (hreported : next.reported = bill.reported) : next.margin runId = bill.margin runId := by
  rw [Bill.margin, Bill.margin, hbudgets, hreported, usedTokens_reserve]

theorem margin_settleCall {id : Nat} {usage : Usage}
    (spent : AgentCallReservation → Reservation → Int)
    {settle : AgentCallReservation → Option (RunBudgets × AgentCallReservation)}
    (hspent : ∀ call reservation after settled, bill.agentCalls[id]? = some call →
      call.reservation = some reservation → settle call = some (after, settled) →
      (after.state runId).usedTokens = (bill.budgets.state runId).usedTokens +
        reservation.charge runId (spent call reservation))
    (h : bill.settleCall id usage settle = some next) :
    next.margin runId = bill.margin runId +
      ((bill.agentCalls[id]?).bind fun call => call.reservation.map fun reservation =>
        reservation.charge runId (spent call reservation - usage.total)).getD 0 := by
  rw [Bill.settleCall, Option.bind_eq_bind, Option.bind_eq_some_iff] at h
  obtain ⟨call, hcall, h⟩ := h
  rw [Option.bind_eq_bind, Option.bind_eq_some_iff] at h
  obtain ⟨owner, howner, h⟩ := h
  rw [Option.bind_eq_bind, Option.bind_eq_some_iff] at h
  obtain ⟨⟨after, settled⟩, hsettle, h⟩ := h
  obtain ⟨reservation, hreservation, rfl⟩ := Option.map_eq_some_iff.mp howner
  obtain rfl := Option.some.inj h
  rw [hcall, Option.bind_some, hreservation, Option.map_some, Option.getD_some]
  exact margin_report rfl (hspent call reservation after settled hcall hreservation hsettle)

theorem margin_step (h : billStep bill event = some next) :
    next.margin runId = bill.margin runId + event.gain bill runId := by
  cases event with
  | attempt owner tokens usd =>
      rw [CallEvent.gain, add_zero]
      rw [billStep] at h
      split at h <;> rename_i hreserve <;> obtain rfl := Option.some.inj h
      · exact margin_of_reserve (congrArg Prod.snd hreserve).symm rfl
      · exact margin_of_reserve (congrArg Prod.snd hreserve).symm rfl
  | onChatModelStart modelAlias maxTokens owner tokens usd =>
      rw [CallEvent.gain, add_zero]
      rw [billStep] at h
      split at h <;> rename_i hreserve <;> obtain rfl := Option.some.inj h
      · exact margin_of_reserve (congrArg Prod.snd hreserve).symm rfl
      · exact margin_of_reserve (congrArg Prod.snd hreserve).symm rfl
  | attemptEnd id outcome =>
      rw [billStep, Option.bind_eq_bind, Option.bind_eq_some_iff] at h
      obtain ⟨entry, hentry, h⟩ := h
      split_ifs at h
      rw [Option.bind_eq_bind, Option.bind_eq_some_iff] at h
      obtain ⟨after, hsettle, h⟩ := h
      obtain rfl := Option.some.inj h
      rw [CallEvent.gain, hentry, Option.map_some, Option.getD_some]
      exact margin_report rfl (usedTokens_settleAttempt hsettle)
  | onLlmEnd id guardPasses usage costUsd =>
      rw [billStep] at h
      exact margin_settleCall
        (fun call reservation => agentSpent call reservation guardPasses usage)
        (fun _ _ _ _ _ => usedTokens_onLlmEnd) h
  | onLlmError id usage =>
      rw [billStep] at h
      exact margin_settleCall (fun _ _ => 0) (fun _ _ _ _ _ => usedTokens_releaseAgentCall) h
  | releaseOpenHold id =>
      rw [billStep] at h
      rw [margin_settleCall (fun _ _ => 0) (fun _ _ _ _ _ => usedTokens_releaseAgentCall) h]
      congr 1
      cases bill.agentCalls[id]? with
      | none => rfl
      | some call =>
          cases hreservation : call.reservation with
          | none => simp [hreservation, CallEvent.gain]
          | some reservation => simp [hreservation, CallEvent.gain, Usage.total, Reservation.charge]

end Margin

section Billed

def AttemptEnd.Kept (reservation : Reservation) : AttemptEnd → Prop
  | .returned usage _ => usage.Counted ∨ usage.total ≤ reservation.tokens
  | .raised usage => usage.total ≤ 0

def AgentCallReservation.Keeps (call : AgentCallReservation) (reservation : Reservation)
    (guardPasses : Bool) (usage : Option (Int × Int)) : Prop :=
  if guardPasses && call.isOpen then usage.isSome ∨ 0 ≤ reservation.tokens
  else (agentUsage usage).total ≤ 0

/-- A call that reported usage is not released: it ends in a result, and unless both counts are
known the report is no more than what the call had reserved. -/
def Keeps (bill : Bill) : CallEvent → Prop
  | .attempt .. | .onChatModelStart .. | .releaseOpenHold _ => True
  | .attemptEnd id outcome => ∀ entry ∈ bill.attempts[id]?, outcome.Kept entry.reservation
  | .onLlmEnd id guardPasses usage _ =>
      ∀ call ∈ bill.agentCalls[id]?, ∀ reservation ∈ call.reservation,
        call.Keeps reservation guardPasses usage
  | .onLlmError id usage =>
      ∀ call ∈ bill.agentCalls[id]?, ∀ reservation ∈ call.reservation, usage.total ≤ 0

theorem spentTokens_of_counted {usage : Usage} (hcounted : usage.Counted) :
    reservation.spentTokens (if usage.usageKnown then usage.inputTokens else none)
        (if usage.usageKnown then usage.outputTokens else none) = usage.total := by
  obtain ⟨hknown, hinput, houtput⟩ := hcounted
  obtain ⟨input, hinput⟩ := Option.isSome_iff_exists.mp hinput
  obtain ⟨output, houtput⟩ := Option.isSome_iff_exists.mp houtput
  rw [if_pos hknown, if_pos hknown, Usage.total, hinput, houtput]
  rfl

theorem spentTokens_of_not_counted {usage : Usage} (hcounted : ¬ usage.Counted) :
    reservation.spentTokens (if usage.usageKnown then usage.inputTokens else none)
        (if usage.usageKnown then usage.outputTokens else none) = reservation.tokens := by
  obtain ⟨known, input, output⟩ := usage
  cases known <;> cases input <;> cases output <;> first
    | rfl
    | exact absurd ⟨rfl, rfl, rfl⟩ hcounted

theorem kept_iff {outcome : AttemptEnd} :
    outcome.Kept reservation ↔ outcome.usage.total ≤ outcome.spent reservation := by
  cases outcome with
  | raised usage => exact Iff.rfl
  | returned usage costUsd =>
      show usage.Counted ∨ usage.total ≤ reservation.tokens ↔ usage.total ≤ AttemptEnd.spent _ _
      rw [AttemptEnd.spent]
      by_cases hcounted : usage.Counted
      · rw [spentTokens_of_counted hcounted]
        exact iff_of_true (.inl hcounted) (le_refl _)
      · rw [spentTokens_of_not_counted hcounted]
        exact or_iff_right hcounted

theorem agentCall_keeps_iff {call : AgentCallReservation} {guardPasses : Bool}
    {usage : Option (Int × Int)} :
    call.Keeps reservation guardPasses usage ↔
      (agentUsage usage).total ≤ agentSpent call reservation guardPasses usage := by
  rw [AgentCallReservation.Keeps, agentSpent]
  split_ifs with hpasses
  · cases usage with
    | none => exact or_iff_right (by decide)
    | some counts => exact iff_of_true (.inl rfl) (le_refl _)
  · exact Iff.rfl

theorem charge_nonneg_iff {amount : Int} :
    (∀ runId, 0 ≤ reservation.charge runId amount) ↔ 0 ≤ amount := by
  constructor
  · intro hall
    have hown := hall reservation.runId
    rwa [Reservation.charge, if_pos rfl] at hown
  · intro hamount runId
    rw [Reservation.charge]
    split_ifs
    · exact hamount
    · exact le_refl 0

theorem attempt_gain_nonneg_iff {entry : Option Granted} {amount : Granted → Int} :
    (∀ runId, 0 ≤ (entry.map fun entry =>
        entry.reservation.charge runId (amount entry)).getD 0) ↔
      ∀ granted ∈ entry, 0 ≤ amount granted := by
  cases entry with
  | none => simp
  | some granted => simpa using charge_nonneg_iff

theorem agentCall_gain_nonneg_iff {call : Option AgentCallReservation}
    {amount : AgentCallReservation → Reservation → Int} :
    (∀ runId, 0 ≤ (call.bind fun call => call.reservation.map fun reservation =>
        reservation.charge runId (amount call reservation)).getD 0) ↔
      ∀ begun ∈ call, ∀ reservation ∈ begun.reservation, 0 ≤ amount begun reservation := by
  cases call with
  | none => simp
  | some begun =>
      cases hreservation : begun.reservation with
      | none => simp [hreservation]
      | some reservation => simpa [hreservation] using charge_nonneg_iff

theorem gain_nonneg_iff : (∀ runId, 0 ≤ event.gain bill runId) ↔ Keeps bill event := by
  cases event with
  | attempt | onChatModelStart | releaseOpenHold => exact iff_of_true (fun _ => le_refl 0) trivial
  | attemptEnd id outcome =>
      refine attempt_gain_nonneg_iff.trans (forall₂_congr fun entry _ => ?_)
      rw [sub_nonneg, kept_iff]
  | onLlmEnd id guardPasses usage costUsd =>
      refine agentCall_gain_nonneg_iff.trans (forall₂_congr fun call _ => forall₂_congr fun _ _ =>
        ?_)
      rw [sub_nonneg, agentCall_keeps_iff]
  | onLlmError id usage =>
      refine agentCall_gain_nonneg_iff.trans (forall₂_congr fun call _ => forall₂_congr fun _ _ =>
        ?_)
      rw [sub_nonneg]

def Bill.Covered (bill : Bill) : Prop := ∀ runId, 0 ≤ bill.margin runId

theorem covered_step (hcovered : bill.Covered) (hkeeps : Keeps bill event)
    (hstep : billStep bill event = some next) : next.Covered := by
  intro runId
  have hgain : 0 ≤ event.gain bill runId := gain_nonneg_iff.mpr hkeeps runId
  rw [margin_step hstep]
  exact add_nonneg (hcovered runId) hgain

theorem not_covered_of_not_keeps (hexact : ∀ runId, bill.margin runId = 0)
    (hkeeps : ¬ Keeps bill event) (hstep : billStep bill event = some next) : ¬ next.Covered := by
  intro hcovered
  refine hkeeps (gain_nonneg_iff.mp fun runId => ?_)
  have hmargin := hcovered runId
  rwa [margin_step hstep, hexact, zero_add] at hmargin

/-- **Reported usage stays spent.** In every run of model calls that keep what the provider reports,
a run's spent tokens cover everything reported for its calls. -/
theorem reported_le_usedTokens (maxTokens : Option Int) (maxUsd : Option ℚ)
    (events : List CallEvent)
    (hkeeps : billMachine.Meets Keeps { budgets := { maxTokens, maxUsd } } events)
    (hrun : billMachine.run { budgets := { maxTokens, maxUsd } } events = some bill)
    (runId : String) : bill.reported runId ≤ (bill.budgets.state runId).usedTokens := by
  have hfresh : Bill.Covered { budgets := { maxTokens, maxUsd } } := fun _ => le_refl 0
  have hcovered : bill.Covered :=
    Machine.run_invariant_of_meets (fun _ _ _ => covered_step) hfresh hkeeps hrun
  exact sub_nonneg.mp (hcovered runId)

def answeredCalls : List CallEvent :=
  [.attempt "r" 100 none,
    .attemptEnd 0
      (.returned { usageKnown := true, inputTokens := some 50, outputTokens := some 30 } none),
    .onChatModelStart "planner" none "r" 200 none, .onLlmEnd 0 true (some (70, 40)) none]

theorem reported_le_usedTokens_answers : ∃ bill,
    billMachine.run { budgets := {} } answeredCalls = some bill ∧
      bill.reported "r" = 190 ∧ bill.reported "r" ≤ (bill.budgets.state "r").usedTokens := by
  have hmeets : billMachine.Meets Keeps { budgets := {} } answeredCalls := by
    refine (Machine.meets_cons_of_step rfl).mpr ⟨trivial, ?_⟩
    refine (Machine.meets_cons_of_step rfl).mpr ⟨fun _ _ => .inl ⟨rfl, rfl, rfl⟩, ?_⟩
    refine (Machine.meets_cons_of_step rfl).mpr ⟨trivial, ?_⟩
    refine (Machine.meets_cons_of_step rfl).mpr ⟨?_, Machine.meets_nil⟩
    rintro call hcall reservation -
    cases hcall
    exact .inl rfl
  exact ⟨_, rfl, rfl, reported_le_usedTokens none none answeredCalls hmeets rfl "r"⟩

end Billed

section GovernedClient

variable {num : NumOps ℚ} {α : Type} {fields : ResultFields ℚ α} {reader : Reader ℚ}
  {call : Payload → HttpOutcome → Raising ℚ α} {state : RunState} {payload : Payload}
  {response : OkResponse} {usage : Usage} {fallbackUsed : Bool}

theorem attemptAlias_commits (hzero : num.zero = 0) (hadd : num.add = (· + ·))
    (hsub : num.sub = (· - ·)) (hreader : reader.Describes fields call)
    (hshape : reader.Shape payload response) (hreturned : reader.Returned response)
    (hknown : (reader.counts response).known = usage.usageKnown)
    (hinput : (reader.counts response).input = ofCount usage.inputTokens)
    (houtput : (reader.counts response).output = ofCount usage.outputTokens) :
    ∃ costUsd, (attemptAlias num fields call
        { reservation := .granted { tokens := reservation.tokens, usd := reservation.usd }
            state.asLedger, outcome := .ok response } payload fallbackUsed).1 =
      [.committed (state.commit reservation (if usage.usageKnown then usage.inputTokens else none)
        (if usage.usageKnown then usage.outputTokens else none) costUsd).asLedger] := by
  obtain ⟨result, hresult, hflag, hin, hout⟩ := hreader.returns payload response hshape hreturned
  refine ⟨fields.costUsd result, ?_⟩
  have hcommit := asLedger_commit hzero hadd hsub state reservation
    (if usage.usageKnown then usage.inputTokens else none)
    (if usage.usageKnown then usage.outputTokens else none) (fields.costUsd result)
  have hcounts (count : Option Int) :
      (if usage.usageKnown then ofCount count else PyValue.none) =
        ofCount (if usage.usageKnown then count else none) := by
    cases usage.usageKnown <;> rfl
  simp only [attemptAlias, hresult, settle, hflag, hin, hout, hknown, hinput, houtput, hcounts,
    hcommit]

theorem attemptAlias_releases {ledger : RunBudgetState ℚ} (hreader : reader.Describes fields call)
    (hshape : reader.Shape payload response) (hreturned : ¬ reader.Returned response) :
    (attemptAlias num fields call
        { reservation := .granted { tokens := reservation.tokens, usd := reservation.usd } ledger,
          outcome := .ok response } payload fallbackUsed).1 =
      [.released { tokens := reservation.tokens, usd := reservation.usd }] := by
  obtain ⟨error, herror, -⟩ := hreader.breaks payload response hshape hreturned
  simp only [attemptAlias, herror, release]

def twoCallsBody : String :=
  "\x7b\"choices\": [\x7b\"message\": \x7b\"tool_calls\": [\x7b\x7d, \x7b\x7d]\x7d\x7d], " ++
    "\"usage\": \x7b\"prompt_tokens\": 50, \"completion_tokens\": 30\x7d\x7d"

def twoCallsResponse : OkResponse where
  contentType := "application/json"
  costHeader := none
  body := twoCallsBody.toUTF8
  lines := [twoCallsBody]

def twoCallsData : PyValue ℚ :=
  .dict
    [("choices", .list [.dict [("message", .dict [("tool_calls", .list [.dict [], .dict []])])]]),
      ("usage", .dict [("prompt_tokens", .int 50), ("completion_tokens", .int 30)])]

def twoCallsRuntime : PyRuntime ℚ :=
  { emptyChoicesRuntime with loads := fun _ => .ok twoCallsData }

def twoCallsClient : Client ℚ :=
  liteLLMClient twoCallsRuntime { version := "1", rates := [], million := 1000000 } "taxi-answer"

def twoCallsUsage : Usage := { usageKnown := true, inputTokens := some 50, outputTokens := some 30 }

/-- The attempt raises with the counts in its error and is released, which leaves the run with 80
reported tokens and none spent. -/
theorem two_calls_released :
    (attemptAlias twoCallsRuntime.num proposalFields
      (postToolProposal twoCallsRuntime twoCallsClient)
        { reservation := .granted { tokens := 100, usd := none } ({} : RunState).asLedger,
          outcome := .ok twoCallsResponse } plainPayload false =
      ([.released { tokens := 100, usd := none }],
        raiseProvider
          { retryable := false, code := "multiple_tool_calls", modelId := .str "taxi-answer",
            inputTokens := .int 50, outputTokens := .int 30, finishReason := .none })) ∧
    ∃ bill, billMachine.run { budgets := {} }
        [.attempt "r" 100 none, .attemptEnd 0 (.raised twoCallsUsage)] = some bill ∧
      ¬ bill.reported "r" ≤ (bill.budgets.state "r").usedTokens :=
  ⟨rfl, _, rfl, by decide⟩

end GovernedClient

end AiAnalytics.App.Budget
