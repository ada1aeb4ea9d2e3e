import AiAnalytics.App.ModelPolicy.Budget

/-!
# Billing a run's model calls

How the governed client and the callbacks of an agent run settle the reservation of each call they
make. A call may succeed at the provider and fail here: what the provider reported for it is kept
beside the budgets, whatever the call ends in. Calls outside a run reserve nothing and are left out.
-/

namespace AiAnalytics.App.Budget

open Lib

section Usage

structure Usage where
  usageKnown : Bool
  inputTokens : Option Int
  outputTokens : Option Int
deriving DecidableEq

def Usage.total (usage : Usage) : Int := usage.inputTokens.getD 0 + usage.outputTokens.getD 0

def Usage.Counted (usage : Usage) : Prop :=
  usage.usageKnown = true ∧ usage.inputTokens.isSome ∧ usage.outputTokens.isSome

instance (usage : Usage) : Decidable usage.Counted :=
  inferInstanceAs (Decidable (_ ∧ _ ∧ _))

def agentUsage : Option (Int × Int) → Usage
  | none => { usageKnown := false, inputTokens := some 0, outputTokens := some 0 }
  | some (input, output) =>
      { usageKnown := true, inputTokens := some input, outputTokens := some output }

end Usage

section Governed

inductive AttemptEnd where
  | returned (usage : Usage) (costUsd : Option ℚ)
  | raised (usage : Usage)

def AttemptEnd.usage : AttemptEnd → Usage
  | .returned usage _ => usage
  | .raised usage => usage

def RunBudgets.settleAttempt (budgets : RunBudgets) (reservation : Reservation) :
    AttemptEnd → Option RunBudgets
  | .returned usage costUsd =>
      budgets.commit reservation (if usage.usageKnown then usage.inputTokens else none)
        (if usage.usageKnown then usage.outputTokens else none) costUsd
  | .raised _ => budgets.release reservation

end Governed

section Runs

structure Bill where
  budgets : RunBudgets
  attempts : List Granted := []
  agentCalls : List AgentCallReservation := []
  reported : String → Int := fun _ => 0

def Bill.report (bill : Bill) (runId : String) (usage : Usage) : Bill :=
  { bill with reported :=
      Function.update bill.reported runId (bill.reported runId + usage.total) }

def AgentCallReservation.runId (call : AgentCallReservation) : Option String :=
  call.reservation.map (·.runId)

/-- An attempt or agent call is named by the number of its grant. `guardPasses` says whether the run
is neither aborted nor cancelled nor past its deadline when its callback begins. -/
inductive CallEvent where
  | attempt (runId : String) (tokens : Int) (usd : Option ℚ)
  | attemptEnd (id : Nat) (outcome : AttemptEnd)
  | onChatModelStart (modelAlias : String) (maxTokens : Option Int) (runId : String) (tokens : Int)
      (usd : Option ℚ)
  | onLlmEnd (id : Nat) (guardPasses : Bool) (usage : Option (Int × Int)) (costUsd : Option ℚ)
  | onLlmError (id : Nat) (usage : Usage)
  | releaseOpenHold (id : Nat)

def onLlmEnd (budgets : RunBudgets) (call : AgentCallReservation) (guardPasses : Bool)
    (usage : Option (Int × Int)) (costUsd : Option ℚ) :
    Option (RunBudgets × AgentCallReservation) :=
  if guardPasses then
    endAgentCall budgets call ((agentUsage usage).inputTokens.getD 0)
      ((agentUsage usage).outputTokens.getD 0) (agentUsage usage).usageKnown costUsd
  else some (budgets, call)

def Bill.settleCall (bill : Bill) (id : Nat) (usage : Usage)
    (settle : AgentCallReservation → Option (RunBudgets × AgentCallReservation)) : Option Bill := do
  let call ← bill.agentCalls[id]?
  let runId ← call.runId
  let (budgets, after) ← settle call
  some ({ bill with budgets, agentCalls := bill.agentCalls.set id after }.report runId usage)

def billStep (bill : Bill) : CallEvent → Option Bill
  | .attempt runId tokens usd =>
      match bill.budgets.reserve runId tokens usd with
      | (.ok reservation, budgets) =>
          some { bill with budgets, attempts := bill.attempts ++ [{ reservation }] }
      | (.error _, budgets) => some { bill with budgets }
  | .attemptEnd id outcome => do
      let entry ← bill.attempts[id]?
      if entry.settled then none
      else
        let budgets ← bill.budgets.settleAttempt entry.reservation outcome
        some ({ bill with budgets, attempts := bill.attempts.modify id Granted.settle }.report
          entry.reservation.runId outcome.usage)
  | .onChatModelStart modelAlias maxTokens runId tokens usd =>
      match bill.budgets.reserve runId tokens usd with
      | (.ok reservation, budgets) =>
          some { bill with
            budgets
            agentCalls := bill.agentCalls ++
              [{ modelAlias, maxTokens, reservation := some reservation }] }
      | (.error _, budgets) => some { bill with budgets }
  | .onLlmEnd id guardPasses usage costUsd =>
      bill.settleCall id (agentUsage usage) fun call =>
        onLlmEnd bill.budgets call guardPasses usage costUsd
  | .onLlmError id usage =>
      bill.settleCall id usage fun call => releaseAgentCall bill.budgets call
  | .releaseOpenHold id =>
      bill.settleCall id { usageKnown := false, inputTokens := none, outputTokens := none }
        fun call =>
        releaseAgentCall bill.budgets call

def billMachine : Machine Bill CallEvent := { step := billStep }

end Runs

end AiAnalytics.App.Budget
