import AiAnalytics.Lib.Machine
import Mathlib.Data.Rat.Defs

/-!
# Run budgets

`RunBudgets`: per run what is spent and what is held for calls under way. Each method works under
one lock, so a run of any number of threads is a list of calls. The machine keeps every reservation
ever granted, in the order of the grants, and whether it has been settled. Dollars are exact
rationals. -/

namespace AiAnalytics.App.Budget

open Lib

structure RunBudgetExceededError where
  message : String
deriving DecidableEq, Repr

structure Reservation where
  runId : String
  tokens : Int
  usd : Option ℚ
deriving DecidableEq

/-- `reservation.usd or 0.0` -/
def Reservation.usdOrZero (reservation : Reservation) : ℚ := reservation.usd.getD 0

structure RunState where
  usedTokens : Int := 0
  usedUsd : ℚ := 0
  heldTokens : Int := 0
  heldUsd : ℚ := 0
  calls : Nat := 0
  inputTokens : Int := 0
  outputTokens : Int := 0
  incomplete : Bool := false
deriving DecidableEq

structure RunBudgets where
  maxTokens : Option Int := none
  maxUsd : Option ℚ := none
  runs : String → Option RunState := fun _ => none

def RunBudgets.state (budgets : RunBudgets) (runId : String) : RunState :=
  (budgets.runs runId).getD {}

def RunBudgets.put (budgets : RunBudgets) (runId : String) (state : Option RunState) : RunBudgets :=
  { budgets with runs := Function.update budgets.runs runId state }

section Reserve

def RunState.hold (state : RunState) (tokens : Int) (usd : Option ℚ) : RunState :=
  { state with
    heldTokens := state.heldTokens + tokens
    heldUsd := state.heldUsd + usd.getD 0 }

def RunState.fitsTokens (state : RunState) (maxTokens : Option Int) (tokens : Int) :
    Except RunBudgetExceededError Unit :=
  match maxTokens with
  | none => .ok ()
  | some limit =>
      if state.usedTokens + state.heldTokens + tokens > limit then
        .error { message := "run token budget exhausted" }
      else .ok ()

def RunState.fitsUsd (state : RunState) (maxUsd : Option ℚ) (usd : Option ℚ) :
    Except RunBudgetExceededError Unit :=
  match maxUsd, usd with
  | none, _ => .ok ()
  | some _, none => .error { message := "cost unknown; run USD budget cannot hold" }
  | some limit, some usd =>
      if state.usedUsd + state.heldUsd + usd > limit then
        .error { message := "run USD budget exhausted" }
      else .ok ()

def RunBudgets.reserve (budgets : RunBudgets) (runId : String) (tokens : Int) (usd : Option ℚ) :
    Except RunBudgetExceededError Reservation × RunBudgets :=
  let state := budgets.state runId
  match state.fitsTokens budgets.maxTokens tokens with
  | .error error => (.error error, budgets.put runId (some state))
  | .ok () =>
      match state.fitsUsd budgets.maxUsd usd with
      | .error error => (.error error, budgets.put runId (some state))
      | .ok () =>
          (.ok { runId, tokens, usd }, budgets.put runId (some (state.hold tokens usd)))

end Reserve

section Settle

def RunState.free (state : RunState) (reservation : Reservation) : RunState :=
  { state with
    heldTokens := state.heldTokens - reservation.tokens
    heldUsd := state.heldUsd - reservation.usdOrZero }

/-- The hold becomes what was spent. Unknown usage, or an unknown cost, keeps the hold as spent. -/
def RunState.commit (state : RunState) (reservation : Reservation)
    (inputTokens outputTokens : Option Int) (usd : Option ℚ) : RunState :=
  let freed := { state.free reservation with calls := state.calls + 1 }
  match inputTokens, outputTokens with
  | some input, some output =>
      { freed with
        inputTokens := freed.inputTokens + input
        outputTokens := freed.outputTokens + output
        usedTokens := freed.usedTokens + (input + output)
        usedUsd := freed.usedUsd + usd.getD reservation.usdOrZero
        incomplete := freed.incomplete || usd.isNone }
  | _, _ =>
      { freed with
        usedTokens := freed.usedTokens + reservation.tokens
        usedUsd := freed.usedUsd + reservation.usdOrZero
        incomplete := true }

def RunBudgets.release (budgets : RunBudgets) (reservation : Reservation) : Option RunBudgets :=
  (budgets.runs reservation.runId).map fun state =>
    budgets.put reservation.runId (some (state.free reservation))

def RunBudgets.commit (budgets : RunBudgets) (reservation : Reservation)
    (inputTokens outputTokens : Option Int) (usd : Option ℚ) : Option RunBudgets :=
  (budgets.runs reservation.runId).map fun state =>
    budgets.put reservation.runId (some (state.commit reservation inputTokens outputTokens usd))

def RunBudgets.forget (budgets : RunBudgets) (runId : String) : RunBudgets :=
  budgets.put runId none

end Settle

section AgentCalls

structure AgentCallReservation where
  modelAlias : String
  maxTokens : Option Int
  reservation : Option Reservation
  isOpen : Bool := true

def AgentCallReservation.settle (call : AgentCallReservation) :
    Option Reservation × AgentCallReservation :=
  match call.reservation with
  | none => (none, call)
  | some reservation =>
    (if call.isOpen then some reservation else none, { call with isOpen := false })

def endAgentCall (budgets : RunBudgets) (call : AgentCallReservation)
    (inputTokens outputTokens : Int) (usageKnown : Bool) (costUsd : Option ℚ) :
    Option (RunBudgets × AgentCallReservation) :=
  match call.settle with
  | (none, call) => some (budgets, call)
  | (some reservation, call) =>
      (budgets.commit reservation (if usageKnown then some inputTokens else none)
        (if usageKnown then some outputTokens else none) costUsd).map fun budgets => (budgets, call)

def releaseAgentCall (budgets : RunBudgets) (call : AgentCallReservation) :
    Option (RunBudgets × AgentCallReservation) :=
  match call.settle with
  | (none, call) => some (budgets, call)
  | (some reservation, call) =>
      (budgets.release reservation).map fun budgets => (budgets, call)

end AgentCalls

section Runs

structure Granted where
  reservation : Reservation
  settled : Bool := false

structure BudgetLedger where
  budgets : RunBudgets
  granted : List Granted := []

def Granted.settle (granted : Granted) : Granted := { granted with settled := true }

inductive BudgetCall where
  | reserve (runId : String) (tokens : Int) (usd : Option ℚ)
  | release (id : Nat)
  | commit (id : Nat) (inputTokens outputTokens : Option Int) (usd : Option ℚ)
  | forget (runId : String)

def BudgetLedger.settle (ledger : BudgetLedger) (id : Nat)
    (budgets : Reservation → Option RunBudgets) : Option BudgetLedger := do
  let entry ← ledger.granted[id]?
  let budgets ← budgets entry.reservation
  some { budgets, granted := ledger.granted.modify id Granted.settle }

def budgetStep (ledger : BudgetLedger) : BudgetCall → Option BudgetLedger
  | .reserve runId tokens usd =>
      match ledger.budgets.reserve runId tokens usd with
      | (.ok reservation, budgets) =>
          some { budgets, granted := ledger.granted ++ [{ reservation }] }
      | (.error _, budgets) => some { ledger with budgets }
  | .release id => ledger.settle id ledger.budgets.release
  | .commit id inputTokens outputTokens usd =>
      ledger.settle id fun reservation =>
        ledger.budgets.commit reservation inputTokens outputTokens usd
  | .forget runId => some { ledger with budgets := ledger.budgets.forget runId }

def budgetMachine : Machine BudgetLedger BudgetCall := { step := budgetStep }

end Runs

end AiAnalytics.App.Budget
