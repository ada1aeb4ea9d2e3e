import AiAnalytics.App.Orchestration.Loop
import AiAnalytics.Lib.NumOrder

/-!
# The price of a call

`call_cost` as a function. The loop asks a pricing table up to two questions for a call, the second
one for the largest call that the run could have made. Where the tables answer by their rates, the
cost of a call depends on its usage and on the clients of the run alone.
-/

namespace AiAnalytics.App

open Lib Lib.Prog Loop

variable {Float : Type}

section Prices

variable (num : NumOps Float) (table : PricingTable Float) (key : String)

def PricingTable.quote (inputTokens outputTokens : Int) : Except PyFault (Option Float) :=
  match table.estimate num key (.int inputTokens) (.int outputTokens) with
  | .ok usd => .ok usd
  | .error _ => .error ⟨"OverflowError", "int too large to convert to float"⟩

/-- `table.estimate(...) or 0.0` -/
def PricingTable.price (inputTokens outputTokens : Int) : Except PyFault Float :=
  (table.quote num key inputTokens outputTokens).map (·.getD num.zero)

def PricingTable.boundedPrice (inputTokens outputTokens maxInput ceiling : Int) :
    Except PyFault Float :=
  (table.price num key inputTokens outputTokens).bind fun estimate =>
    (table.price num key maxInput ceiling).map (num.larger estimate)

def PricingTable.callCost (inputTokens outputTokens maxInput ceiling : Int) (incomplete : Bool) :
    Except PyFault (CallCost Float) :=
  (table.price num key inputTokens outputTokens).bind fun estimate =>
    if incomplete then
      (table.price num key maxInput ceiling).map fun bound =>
        { costUsd := estimate, source := .incomplete,
          budgetCostUsd := some (num.larger estimate bound)
          budgetBasis := .conservative }
    else
      .ok
        { costUsd := estimate, source := .fallback, budgetCostUsd := some estimate
          budgetBasis := .reported }

end Prices

def sharedCost (num : NumOps Float) (authoritative : Option (Float × CostSource))
    (priced : Option (PricingTable Float × String))
    (inputTokens outputTokens maxInput ceiling : Int) (incomplete : Bool) :
    Except PyFault (CallCost Float) :=
  match authoritative, priced with
  | some (cost, source), _ =>
      .ok { costUsd := cost, source, budgetCostUsd := some cost, budgetBasis := .reported }
  | none, none =>
      .ok
        { costUsd := num.zero, source := .unpriced, budgetCostUsd := none,
          budgetBasis := .unresolvable }
  | none, some (table, key) =>
      table.callCost num key inputTokens outputTokens maxInput ceiling incomplete

namespace Loop

structure Usage (Float : Type) where
  inputTokens : Int
  outputTokens : Int
  result : Option (ModelResult Float) := none
  modelId : Option String := none

def Usage.incomplete (usage : Usage Float) : Bool :=
  incompleteUsage usage.inputTokens usage.outputTokens usage.result

def Usage.ceiling (usage : Usage Float) (budgets : ExecutionBudgets Float) : Int :=
  ((usage.result.bind (·.configuredMaxTokens)).filter (· ≠ 0)).getD budgets.maxOutputTokens

def Usage.ofResult (result : ModelResult Float) : Usage Float :=
  { inputTokens := result.inputTokens, outputTokens := result.outputTokens, result := some result }

def Usage.unknown (modelId : String) : Usage Float :=
  { inputTokens := 0, outputTokens := 0, modelId := some modelId }

def Usage.ofFailure (phase : CallPhase) (error : LLMProviderError) : Option (Usage Float) :=
  match phase, error.modelId, error.inputTokens with
  | _, some modelId, none => some (.unknown modelId)
  | .proposal, some modelId, some inputTokens =>
      some { inputTokens, outputTokens := error.outputTokens.getD 0, modelId := some modelId }
  | _, _, _ => none

def usageOf : Exchange (@LoopReply Float) → Option (Usage Float)
  | ⟨.proposeTaxiQuery _ _ _ _, .ok proposal⟩ => some (.ofResult proposal.toModelResult)
  | ⟨.proposeTaxiQuery phase _ _ _, .error (.provider error)⟩ => Usage.ofFailure phase error
  | ⟨.invokeModel _ _ _, .ok result⟩ => some (.ofResult result.toModelResult)
  | ⟨.streamAnswer _ _ _, (_, .ok result)⟩ => some (.ofResult result.toModelResult)
  | ⟨.answerWithQueryResult _ _ _, .ok result⟩ => some (.ofResult result.toModelResult)
  | _ => none

def usagesOf (history : History Float) : List (Usage Float) := history.filterMap usageOf

def LoopCall.reportsUsage : LoopCall Float → Bool
  | .proposeTaxiQuery _ _ _ _ => true
  | .invokeModel _ _ _ => true
  | .streamAnswer _ _ _ => true
  | .answerWithQueryResult _ _ _ => true
  | _ => false

theorem usageOf_eq_none {x : Exchange (@LoopReply Float)} (hx : x.call.reportsUsage = false) :
    usageOf x = none := by
  obtain ⟨call, reply⟩ := x
  cases call with
  | proposeTaxiQuery => cases hx
  | invokeModel => cases hx
  | streamAnswer => cases hx
  | answerWithQueryResult => cases hx
  | _ => rfl

variable (cfg : LoopConfig Float)

def priceOf (clients : Option (Clients Float)) (usage : Usage Float) :
    Except PyFault (CallCost Float) :=
  if (clients.map Clients.selfHosted).getD false then
    .ok
      { costUsd := cfg.num.zero, source := .selfHosted, budgetCostUsd := some cfg.num.zero
        budgetBasis := .selfHosted }
  else
    sharedCost cfg.num (authoritativeCost usage.result)
      (pricedKey cfg clients usage.result usage.modelId) usage.inputTokens usage.outputTokens
      cfg.budgets.maxInputTokens (usage.ceiling cfg.budgets) usage.incomplete

def Quoted (num : NumOps Float) (log : History Float) : Prop :=
  ∀ phase table key inputTokens outputTokens
    (reply : LoopReply (.estimate phase table key inputTokens outputTokens)),
    ⟨.estimate phase table key inputTokens outputTokens, reply⟩ ∈ log →
      reply = PricingTable.quote num table key inputTokens outputTokens

def Quotes (num : NumOps Float) (answer : (call : LoopCall Float) → LoopReply call) : Prop :=
  ∀ phase table key inputTokens outputTokens,
    answer (.estimate phase table key inputTokens outputTokens) =
      PricingTable.quote num table key inputTokens outputTokens

section Runs

variable {cfg} {num : NumOps Float} {before after log : History Float}
  {state final : LoopState Float} {phase : CallPhase} {table : PricingTable Float} {key : String}
  {inputTokens outputTokens : Int} {result : Option (ModelResult Float)} {modelId : Option String}

theorem quoted_append :
    Quoted num (before ++ after) ↔ Quoted num before ∧ Quoted num after := by
  constructor
  · intro hquoted
    exact ⟨fun _ _ _ _ _ _ hx => hquoted _ _ _ _ _ _ (List.mem_append_left _ hx),
      fun _ _ _ _ _ _ hx => hquoted _ _ _ _ _ _ (List.mem_append_right _ hx)⟩
  · rintro ⟨hbefore, hafter⟩ phase table key inputTokens outputTokens reply hx
    rcases List.mem_append.mp hx with hx | hx
    · exact hbefore _ _ _ _ _ _ hx
    · exact hafter _ _ _ _ _ _ hx

theorem quoted_play {answer : (call : LoopCall Float) → LoopReply call}
    (hquotes : Quotes num answer) {α : Type} {m : LoopM Float α} :
    Quoted num (m.play (fun _ => answer) state).1 := by
  intro phase table key inputTokens outputTokens reply hasked
  obtain ⟨k, call, hanswered⟩ := exists_answer_of_mem_play hasked
  cases hanswered
  exact hquotes phase table key inputTokens outputTokens

def Yields {α : Type} (num : NumOps Float) (m : LoopM Float α) (value : Except PyFault α) : Prop :=
  ∀ state log outcome final, m.Runs state log outcome final → Quoted num log →
    outcome = value.mapError .fault ∧ final = state

section Rules

variable {α β : Type} {m : LoopM Float α} {value : Except PyFault α}

theorem yields_pure {a : α} : Yields num (pure a) (.ok a) := by
  intro state log outcome final hrun _
  obtain ⟨-, rfl, rfl⟩ := runs_pure_iff.mp hrun
  exact ⟨rfl, rfl⟩

theorem yields_orFault : Yields num (orFault value) value := by
  intro state log outcome final hrun _
  cases value with
  | ok a =>
      obtain ⟨-, rfl, rfl⟩ := runs_pure_iff.mp hrun
      exact ⟨rfl, rfl⟩
  | error fault =>
      obtain ⟨-, rfl, rfl⟩ := runs_throw_iff.mp hrun
      exact ⟨rfl, rfl⟩

theorem Yields.bind {f : α → LoopM Float β} {rest : α → Except PyFault β}
    (hm : Yields num m value) (hf : ∀ a, Yields num (f a) (rest a)) :
    Yields num (m >>= f) (value.bind rest) := by
  intro state log outcome final hrun hquoted
  rcases runs_bind_iff.mp hrun with ⟨first, a, mid, last, rfl, hfirst, hlast⟩ | ⟨error, hfirst, rfl⟩
  · obtain ⟨hquotedFirst, hquotedLast⟩ := quoted_append.mp hquoted
    obtain ⟨hvalue, rfl⟩ := hm _ _ _ _ hfirst hquotedFirst
    cases value with
    | ok b =>
        obtain rfl : a = b := Except.ok.inj hvalue
        exact hf a _ _ _ _ hlast hquotedLast
    | error fault => cases hvalue
  · obtain ⟨hvalue, rfl⟩ := hm _ _ _ _ hfirst hquoted
    cases value with
    | ok b => cases hvalue
    | error fault =>
        obtain rfl := Except.error.inj hvalue
        exact ⟨rfl, rfl⟩

theorem Yields.map (hm : Yields num m value) (f : α → β) :
    Yields num (m >>= fun a => pure (f a)) (value.map f) := by
  have hbind : value.map f = value.bind fun a => .ok (f a) := by
    cases value <;> rfl
  rw [hbind]
  exact hm.bind fun a => yields_pure

end Rules

theorem yields_estimate :
    Yields cfg.num (estimate cfg phase table key inputTokens outputTokens)
      (table.price cfg.num key inputTokens outputTokens) := by
  intro state log outcome final hrun hquoted
  rcases runs_bind_iff.mp hrun with ⟨asked, reply, mid, rest, rfl, hask, hrest⟩ | ⟨error, hask, -⟩
  · obtain ⟨answer, rfl, hreply, rfl⟩ := runs_ask_iff.mp hask
    obtain rfl := Except.ok.inj hreply
    obtain ⟨hfirst, hrestQuoted⟩ := quoted_append.mp hquoted
    have hquote := hfirst _ _ _ _ _ _ List.mem_cons_self
    have hrate : Yields cfg.num
        (orFault (table.quote cfg.num key inputTokens outputTokens) >>= fun cost =>
          pure (cost.getD cfg.num.zero) : LoopM Float Float)
        (table.price cfg.num key inputTokens outputTokens) := yields_orFault.map _
    rw [← hquote] at hrate
    exact hrate _ _ _ _ hrest hrestQuoted
  · obtain ⟨answer, -, hreply, -⟩ := runs_ask_iff.mp hask
    cases hreply

theorem yields_tableCost :
    Yields cfg.num (tableCost cfg phase inputTokens outputTokens result table key)
      (table.callCost cfg.num key inputTokens outputTokens cfg.budgets.maxInputTokens
        (Usage.ceiling ⟨inputTokens, outputTokens, result, modelId⟩ cfg.budgets)
        (incompleteUsage inputTokens outputTokens result)) := by
  apply yields_estimate.bind
  intro cost
  split
  · exact yields_estimate.map _
  · exact yields_pure

theorem callCost_of_runs {outcome : Except (LoopError Float) (CallCost Float)}
    (hrun :
      (callCost cfg phase inputTokens outputTokens result modelId).Runs state log outcome final)
    (hquoted : Quoted cfg.num log) :
    outcome = (priceOf cfg state.clients ⟨inputTokens, outputTokens, result, modelId⟩).mapError
      .fault ∧ final = state := by
  refine (?_ : Yields cfg.num _ _) _ _ _ _ (runs_get_bind_iff.mp hrun) hquoted
  unfold priceOf
  split
  · exact yields_pure
  unfold sharedCost
  cases authoritativeCost result with
  | some cost => exact yields_pure
  | none =>
      cases pricedKey cfg state.clients result modelId with
      | none => exact yields_pure
      | some priced => exact yields_tableCost

end Runs

end Loop

end AiAnalytics.App
