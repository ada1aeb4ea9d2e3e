import AiAnalytics.App.Bedrock.Allowance
import Mathlib.Algebra.Order.Ring.Rat
import Mathlib.Tactic.Linarith
import Mathlib.Tactic.NormNum
import Mathlib.Tactic.Ring

/-!
# What the allowance bounds

Every update takes the same amount, so a month's item bounds the cost of the month's calls as long
as no call can cost more than that amount. Nothing ties a call of the proxy's client to it: the call
may go to a dearer model or ask for more tokens.
-/

namespace AiAnalytics.App.Bedrock

open Lib

variable {budget : DynamoDBBedrockBudget} {pricing : PricingTable ℚ} {allowance next : Allowance}
  {attempt : CallAttempt} {table table' : AllowanceTable} {month modelId : String}
  {fate : UpdateFate}

section Updates

def reserved (table : AllowanceTable) (month : String) : Int := (table month).getD 0

theorem update_eq_some (h : budget.update table month = some table') :
    table' = Function.update table month
        (some (reserved table month + novaMicroMaxCallReservationMicroUsd)) ∧
      reserved table month + novaMicroMaxCallReservationMicroUsd ≤ budget.monthlyLimit := by
  rw [DynamoDBBedrockBudget.update] at h
  cases hitem : table month with
  | none =>
      have hfunds := budget.funds_one
      rw [hitem] at h
      rw [reserved, hitem, Option.getD_none, zero_add]
      exact ⟨(Option.some.inj h).symm, hfunds⟩
  | some amount =>
      rw [hitem] at h
      simp only at h
      rw [reserved, hitem, Option.getD_some]
      split_ifs at h with hfits
      exact ⟨(Option.some.inj h).symm, by omega⟩

theorem reserve_cases (budget : DynamoDBBedrockBudget) (table : AllowanceTable)
    (modelId month : String) (fate : UpdateFate) :
    ((budget.reserve table modelId month fate).2 = table ∧
      ∃ error, (budget.reserve table modelId month fate).1 = .error error) ∨
    budget.update table month = some (budget.reserve table modelId month fate).2 := by
  rw [DynamoDBBedrockBudget.reserve]
  by_cases hmodel : modelId ≠ defaultModelId
  · rw [if_pos hmodel]
    exact .inl ⟨rfl, _, rfl⟩
  · rw [if_neg hmodel]
    cases fate with
    | failed => exact .inl ⟨rfl, _, rfl⟩
    | answered =>
        rw [DynamoDBBedrockBudget.reserveNovaMicroCall]
        cases budget.update table month with
        | none => exact .inl ⟨rfl, _, rfl⟩
        | some table' => exact .inr rfl
    | lost =>
        rw [DynamoDBBedrockBudget.reserveNovaMicroCall]
        cases budget.update table month with
        | none => exact .inl ⟨rfl, _, rfl⟩
        | some table' => exact .inr rfl

theorem attemptCall_cases (budget : DynamoDBBedrockBudget) (allowance : Allowance)
    (attempt : CallAttempt) :
    (attemptCall budget allowance attempt).2 = allowance ∨
    ∃ table, budget.update allowance.table attempt.month = some table ∧
      ((attemptCall budget allowance attempt).2 = { allowance with table } ∨
        (attemptCall budget allowance attempt).2 =
          { table,
            authorised := allowance.authorised ++ [(attempt.month, attempt.caller.call)] }) := by
  rw [attemptCall]
  have hreserve := reserve_cases budget allowance.table attempt.caller.reservedModel attempt.month
    attempt.fate
  rcases hanswer : budget.reserve allowance.table attempt.caller.reservedModel attempt.month
    attempt.fate with ⟨_ | _, table⟩
  · rw [hanswer] at hreserve
    rcases hreserve with ⟨hsame, -⟩ | hupdate
    · exact .inl (by rw [show table = allowance.table from hsame])
    · exact .inr ⟨table, hupdate, .inl rfl⟩
  · rw [hanswer] at hreserve
    rcases hreserve with ⟨-, _, herror⟩ | hupdate
    · cases herror
    · exact .inr ⟨table, hupdate, .inr rfl⟩

end Updates

section Bound

/-- It is known what the call can cost, and that is no more than what is reserved for it. -/
def Affordable (pricing : PricingTable ℚ) (attempt : CallAttempt) : Prop :=
  ∃ cost, attempt.caller.call.worstCost pricing = some cost ∧
    cost ≤ novaMicroMaxCallReservationMicroUsd

def Covered (budget : DynamoDBBedrockBudget) (pricing : PricingTable ℚ) (allowance : Allowance) :
    Prop :=
  ∀ month, allowance.totalCost pricing month ≤ (reserved allowance.table month : Int) ∧
    reserved allowance.table month ≤ budget.monthlyLimit

theorem covered_fresh : Covered budget pricing {} := by
  intro month
  have hfunds := budget.funds_one
  rw [reservation_eq] at hfunds
  refine ⟨le_of_eq rfl, ?_⟩
  show (0 : Int) ≤ budget.monthlyLimit
  omega

theorem totalCost_append (call : PaidCall) (month' : String) (table : AllowanceTable) :
    ({ table, authorised := allowance.authorised ++ [(month, call)] } : Allowance).totalCost pricing
        month' =
      allowance.totalCost pricing month' +
        if month = month' then (call.worstCost pricing).getD 0 else 0 := by
  rw [Allowance.totalCost, Allowance.totalCost, List.filter_append, List.map_append,
    List.sum_append]
  by_cases hmonth : month = month'
  · simp [hmonth]
  · simp [hmonth]

theorem reserved_update (table : AllowanceTable) (month : String) (amount : Int) (month' : String) :
    reserved (Function.update table month (some amount)) month' =
      if month = month' then amount else reserved table month' := by
  by_cases hmonth : month = month'
  · rw [if_pos hmonth, ← hmonth, reserved, Function.update_self, Option.getD_some]
  · rw [if_neg hmonth, reserved, Function.update_of_ne (Ne.symm hmonth), reserved]

theorem Covered.step (h : Covered budget pricing allowance) (hcost : Affordable pricing attempt) :
    Covered budget pricing (attemptCall budget allowance attempt).2 := by
  rcases attemptCall_cases budget allowance attempt with hsame | ⟨table, hupdate, hnext⟩
  · rw [hsame]
    exact h
  · obtain ⟨htable, hlimit⟩ := update_eq_some hupdate
    have hamount : (0 : ℚ) ≤ (novaMicroMaxCallReservationMicroUsd : Int) := by
      rw [reservation_eq]
      norm_num
    intro month
    obtain ⟨hcovers, hwithin⟩ := h month
    have hreserved := reserved_update allowance.table attempt.month
      (reserved allowance.table attempt.month + novaMicroMaxCallReservationMicroUsd) month
    rw [← htable] at hreserved
    obtain ⟨cost, hworst, hcost⟩ := hcost
    rcases hnext with hnext | hnext
    · rw [hnext]
      show allowance.totalCost pricing month ≤ _ ∧ _
      rw [hreserved]
      by_cases hmonth : attempt.month = month
      · rw [if_pos hmonth, hmonth]
        rw [hmonth] at hlimit
        refine ⟨?_, hlimit⟩
        push_cast
        linarith
      · rw [if_neg hmonth]
        exact ⟨hcovers, hwithin⟩
    · rw [hnext, totalCost_append, hworst, Option.getD_some]
      show _ ≤ ((reserved table month : Int) : ℚ) ∧ reserved table month ≤ _
      rw [hreserved]
      by_cases hmonth : attempt.month = month
      · rw [if_pos hmonth, if_pos hmonth, hmonth]
        rw [hmonth] at hlimit
        refine ⟨?_, hlimit⟩
        push_cast
        linarith
      · rw [if_neg hmonth, if_neg hmonth, add_zero]
        exact ⟨hcovers, hwithin⟩

/-- **The allowance bounds the cost.** In every run of any processes in which no call can cost more
than is reserved for it, the calls of a month cost no more than the limit. -/
theorem monthly_cost_le_limit {attempts : List CallAttempt}
    (hmeets :
      (allowanceMachine budget).Meets (fun _ attempt => Affordable pricing attempt) {} attempts)
    (hrun : (allowanceMachine budget).run {} attempts = some allowance) (month : String) :
    allowance.totalCost pricing month ≤ budget.monthlyLimit := by
  have hcovered : Covered budget pricing allowance := by
    refine Machine.run_invariant_of_meets ?_ covered_fresh hmeets hrun
    intro state attempt next hinv hcost hstep
    obtain rfl := Option.some.inj hstep
    exact hinv.step hcost
  obtain ⟨hcovers, hwithin⟩ := hcovered month
  exact hcovers.trans (by exact_mod_cast hwithin)

end Bound

section Samples

def deployedPricing : PricingTable ℚ :=
  defaultPricing ["taxi-classifier", "taxi-planner", "taxi-answer", defaultModelId]

def fiveDollars : DynamoDBBedrockBudget :=
  { monthlyLimit := 5000000, funds_one := by rw [reservation_eq]; decide }

theorem worstCost_defaultModel (maxTokens : Int) :
    (⟨defaultModelId, some maxTokens⟩ : PaidCall).worstCost deployedPricing =
      some (4480 + (maxTokens : ℚ) * (140 / 1000)) := by
  have hrate : deployedPricing.rates.lookup defaultModelId = some (35 / 1000, 140 / 1000) := by
    decide +kernel
  have hestimate : deployedPricing.estimate exactNum defaultModelId (.int novaMicroMaxInputTokens)
      (.int maxTokens) =
        .ok (some ((128000 * (35 / 1000) + maxTokens * (140 / 1000)) / 1000000)) := by
    rw [PricingTable.estimate, hrate]
    rfl
  simp only [PaidCall.worstCost, hestimate, microUsdPerUsd, Option.some.injEq]
  ring

theorem affordable_bedrock_iff (maxTokens : Int) (month : String) (fate : UpdateFate) :
    Affordable deployedPricing ⟨.bedrock defaultModelId maxTokens, month, fate⟩ ↔
      maxTokens ≤ 128 := by
  show (∃ cost, (⟨defaultModelId, some maxTokens⟩ : PaidCall).worstCost deployedPricing =
    some cost ∧ cost ≤ _) ↔ _
  simp only [worstCost_defaultModel, Option.some.injEq, exists_eq_left', reservation_eq]
  push_cast
  constructor
  · intro h
    by_contra hmore
    have hmore : (129 : ℚ) ≤ maxTokens := by exact_mod_cast (by omega : (129 : Int) ≤ maxTokens)
    linarith
  · intro h
    have h : (maxTokens : ℚ) ≤ 128 := by exact_mod_cast h
    linarith

def answerCall : CallAttempt := ⟨.bedrock defaultModelId 128, "2026-10", .answered⟩

theorem monthly_cost_le_limit_answers : ∃ allowance,
    (allowanceMachine fiveDollars).run {} [answerCall, answerCall] = some allowance ∧
      allowance.totalCost deployedPricing "2026-10" ≤ fiveDollars.monthlyLimit := by
  have haffordable : Affordable deployedPricing answerCall :=
    (affordable_bedrock_iff _ _ _).mpr le_rfl
  have hmeets : (allowanceMachine fiveDollars).Meets
      (fun _ attempt => Affordable deployedPricing attempt) {} [answerCall, answerCall] :=
    ⟨haffordable, fun _ _ => ⟨haffordable, fun _ _ => trivial⟩⟩
  exact ⟨_, rfl, monthly_cost_le_limit hmeets rfl "2026-10"⟩

def plannerCall : CallAttempt :=
  let payload : Payload := { model := "taxi-planner", maxTokens := some 512, hasTools := true }
  ⟨.ofAttempt defaultModelId
    (attemptPayload payload { modelAlias := "taxi-planner", maxTokens := some 512 } "taxi-planner"),
    "2026-10", .answered⟩

/-- Forty-nine proposals are let out and can cost more than the month's five dollars. -/
theorem planner_calls_exceed_limit : ∃ allowance,
    (allowanceMachine fiveDollars).run {} (List.replicate 49 plannerCall) = some allowance ∧
      ¬ allowance.totalCost deployedPricing "2026-10" ≤ fiveDollars.monthlyLimit := by
  have hexceeds : ((allowanceMachine fiveDollars).run {} (List.replicate 49 plannerCall)).any
      (fun allowance : Allowance =>
        ¬ allowance.totalCost deployedPricing "2026-10" ≤ (fiveDollars.monthlyLimit : ℚ)) =
        true := by decide +kernel
  obtain ⟨allowance, hrun, htotal⟩ := (Option.any_eq_true _ _).mp hexceeds
  exact ⟨allowance, hrun, of_decide_eq_true htotal⟩

end Samples

end AiAnalytics.App.Bedrock
