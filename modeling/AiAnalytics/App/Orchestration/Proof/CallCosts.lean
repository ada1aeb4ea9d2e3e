import AiAnalytics.App.Orchestration.Proof.CallPrices
import AiAnalytics.App.Orchestration.Proof.LateCallbacks
import AiAnalytics.App.Orchestration.Proof.TerminalLoop
import AiAnalytics.Lib.Evaluation
import AiAnalytics.Lib.NumOrder
import Mathlib.Algebra.Order.Field.Basic

/-!
# Two functions that price a call

The handler of the deep agents prices a call with a copy of the loop's function. Both see the same
result, prices and budgets here, and the tables answer both of them. The copy leaves out the output
ceiling that a call was configured with, so a call of incomplete usage may be charged differently.
-/

namespace AiAnalytics.App

open Lib Loop DeepAgents

variable {Float : Type}

def outputCeiling (result : ModelResult Float) (budgets : ExecutionBudgets Float) : Int :=
  (result.configuredMaxTokens.filter (· ≠ 0)).getD budgets.maxOutputTokens

def DeepAgents.CallResult.ofResult (result : ModelResult Float) : CallResult Float :=
  { modelAlias := result.modelAlias.getD "", modelId := result.modelId,
    usageKnown := result.usageKnown
    costUsd := result.costUsd, costKind := result.costKind }

section Evaluation

variable {num : NumOps Float} {cfg : LoopConfig Float} {deepCfg : DeepConfig Float}
  {answer : (call : LoopCall Float) → LoopReply call}
  {deepAnswer : (call : DeepCall Float) → DeepReply call} {state : LoopState Float}
  {recorder : Recorder Float} {phase : CallPhase} {table : PricingTable Float} {key : String}
  {inputTokens outputTokens : Int} {result : ModelResult Float}

def DeepAgents.Quotes (num : NumOps Float) (answer : (call : DeepCall Float) → DeepReply call) :
    Prop :=
  ∀ table key inputTokens outputTokens,
    answer (.estimate table key inputTokens outputTokens) =
      PricingTable.quote num table key inputTokens outputTokens

theorem Loop.evaluate_callCost (hquotes : Loop.Quotes cfg.num answer) {clients : Clients Float}
    (hclients : state.clients = some clients) (hbilled : clients.selfHosted = false) :
    ((Loop.callCost cfg phase inputTokens outputTokens (some result) none).evaluate answer state).1
      = (sharedCost cfg.num (Loop.authoritativeCost (some result))
        (Loop.pricedKey cfg (some clients) (some result) none) inputTokens outputTokens
        cfg.budgets.maxInputTokens (outputCeiling result cfg.budgets)
        (incompleteUsage inputTokens outputTokens (some result))).mapError .fault := by
  have hpriced : ((some clients).map Clients.selfHosted).getD false ≠ true :=
    Bool.eq_false_iff.mp hbilled
  obtain ⟨hcost, -⟩ := Loop.callCost_of_runs
    (Prog.runs_play (Loop.callCost cfg phase inputTokens outputTokens (some result) none)
      (fun _ => answer) state) (Loop.quoted_play hquotes)
  rw [← Prog.play_eq_evaluate, hcost, hclients, Loop.priceOf, if_neg hpriced]
  rfl

theorem DeepAgents.evaluate_estimate (hquotes : DeepAgents.Quotes deepCfg.num deepAnswer) :
    (DeepAgents.estimate deepCfg table key inputTokens outputTokens).evaluate deepAnswer recorder =
      ((table.price deepCfg.num key inputTokens outputTokens).mapError (.loop ∘ .fault),
      recorder) := by
  refine Prog.evaluate_bind.trans ?_
  change ((DeepAgents.orFault (deepAnswer (.estimate table key inputTokens outputTokens)) >>=
    fun cost =>
    pure (cost.getD deepCfg.num.zero)) : RecorderM Float Float).evaluate deepAnswer recorder = _
  rw [hquotes table key inputTokens outputTokens]
  unfold PricingTable.price
  cases PricingTable.quote deepCfg.num table key inputTokens outputTokens <;> rfl

theorem DeepAgents.evaluate_tableCost (hquotes : DeepAgents.Quotes deepCfg.num deepAnswer) :
    ((do
      let cost ← DeepAgents.estimate deepCfg table key inputTokens outputTokens
      if inputTokens ≤ 0 ∨ outputTokens ≤ 0 ∨ ¬ result.usageKnown then do
        let bound ← DeepAgents.estimate deepCfg table key deepCfg.budgets.maxInputTokens
          deepCfg.budgets.maxOutputTokens
        pure
          { costUsd := cost, source := .incomplete
            budgetCostUsd := some (if deepCfg.num.gt bound cost then bound else cost)
            budgetBasis := .conservative }
      else
        pure
          { costUsd := cost, source := .fallback, budgetCostUsd := some cost,
            budgetBasis := .reported } :
      RecorderM Float (CallCost Float)).evaluate deepAnswer recorder) =
      ((table.callCost deepCfg.num key inputTokens outputTokens deepCfg.budgets.maxInputTokens
        deepCfg.budgets.maxOutputTokens
        (incompleteUsage inputTokens outputTokens (some result))).mapError (.loop ∘ .fault),
          recorder) := by
  have hincomplete : (inputTokens ≤ 0 ∨ outputTokens ≤ 0 ∨ ¬ result.usageKnown) ↔
      incompleteUsage inputTokens outputTokens (some result) = true := by
    simp [incompleteUsage, or_assoc]
  refine Prog.evaluate_bind.trans ?_
  rw [DeepAgents.evaluate_estimate hquotes]
  unfold PricingTable.callCost
  cases table.price deepCfg.num key inputTokens outputTokens with
  | error fault => rfl
  | ok estimate =>
      simp only [hincomplete]
      change (if incompleteUsage inputTokens outputTokens (some result) then _ else _ :
        RecorderM Float (CallCost Float)).evaluate deepAnswer recorder = _
      split
      case isTrue hincomplete =>
        refine Prog.evaluate_bind.trans ?_
        rw [DeepAgents.evaluate_estimate hquotes]
        cases table.price deepCfg.num key deepCfg.budgets.maxInputTokens
          deepCfg.budgets.maxOutputTokens <;> rfl
      case isFalse hcomplete => rfl

theorem DeepAgents.evaluate_callCost (hquotes : DeepAgents.Quotes deepCfg.num deepAnswer) :
    ((DeepAgents.callCost deepCfg inputTokens outputTokens (CallResult.ofResult result)).evaluate
        deepAnswer recorder).1 =
      (sharedCost deepCfg.num (Loop.authoritativeCost (some result))
        (DeepAgents.pricedKey deepCfg (CallResult.ofResult result)) inputTokens outputTokens
        deepCfg.budgets.maxInputTokens deepCfg.budgets.maxOutputTokens
        (incompleteUsage inputTokens outputTokens (some result))).mapError (.loop ∘ .fault) := by
  have hauthoritative : DeepAgents.authoritativeCost (CallResult.ofResult result) =
    Loop.authoritativeCost (some result) := rfl
  unfold DeepAgents.callCost sharedCost
  rw [hauthoritative]
  cases Loop.authoritativeCost (some result) with
  | some cost => rfl
  | none =>
      cases DeepAgents.pricedKey deepCfg (CallResult.ofResult result) with
      | none => rfl
      | some priced => exact congrArg Prod.fst (DeepAgents.evaluate_tableCost hquotes)

end Evaluation

section Agreement

variable {num : NumOps Float} {table : PricingTable Float} {key : String}
  {inputTokens outputTokens maxInput : Int} {authoritative : Option (Float × CostSource)}
  {priced : Option (PricingTable Float × String)}

theorem PricingTable.callCost_eq_iff {ceiling other : Int} {incomplete : Bool} :
    table.callCost num key inputTokens outputTokens maxInput ceiling incomplete =
        table.callCost num key inputTokens outputTokens maxInput other incomplete ↔
      incomplete = false ∨ table.boundedPrice num key inputTokens outputTokens maxInput ceiling =
        table.boundedPrice num key inputTokens outputTokens maxInput other := by
  unfold PricingTable.callCost PricingTable.boundedPrice
  cases table.price num key inputTokens outputTokens with
  | error fault => simp [Except.bind]
  | ok estimate =>
      cases incomplete with
      | false => simp [Except.bind]
      | true =>
          cases table.price num key maxInput ceiling <;> cases table.price num key maxInput other
            <;> simp [Except.bind, Except.map]

theorem sharedCost_eq_iff {ceiling other : Int} {incomplete : Bool} :
    sharedCost num authoritative priced inputTokens outputTokens maxInput ceiling incomplete =
        sharedCost num authoritative priced inputTokens outputTokens maxInput other incomplete ↔
      authoritative.isSome ∨ incomplete = false ∨ ∀ table key, priced = some (table, key) →
        PricingTable.boundedPrice num table key inputTokens outputTokens maxInput ceiling =
          PricingTable.boundedPrice num table key inputTokens outputTokens maxInput other := by
  unfold sharedCost
  cases authoritative with
  | some cost => simp
  | none =>
      cases priced with
      | none => simp
      | some priced =>
          rw [PricingTable.callCost_eq_iff]
          constructor
          · rintro (hcomplete | hsame)
            · exact .inr (.inl hcomplete)
            · refine .inr (.inr ?_)
              rintro table key ⟨⟩
              exact hsame
          · rintro (hauthoritative | hcomplete | hsame)
            · cases hauthoritative
            · exact .inl hcomplete
            · exact .inr (hsame _ _ rfl)

variable {cfg : LoopConfig Float} {deepCfg : DeepConfig Float} {clients : Clients Float}
  {result : ModelResult Float}

structure SharesPrices (cfg : LoopConfig Float) (clients : Clients Float)
    (deepCfg : DeepConfig Float) : Prop where
  num : cfg.num = deepCfg.num
  budgets : cfg.budgets = deepCfg.budgets
  pricing : clients.pricing = some deepCfg.pricing
  defaultPricing : cfg.defaultPricing = deepCfg.defaultPricing
  billed : clients.selfHosted = false

theorem nonempty_eq (text : Option String) :
    nonempty text = if text.getD "" = "" then none else some (text.getD "") := by
  cases text with
  | none => rfl
  | some text => by_cases hempty : text = "" <;> simp [nonempty, hempty]

theorem filterMap_nonempty (texts : List (Option String)) :
    (texts.map nonempty).filterMap id = (texts.map (·.getD "")).filter (· ≠ "") := by
  induction texts with
  | nil => rfl
  | cons text texts ih =>
      rw [List.map_cons, List.map_cons, nonempty_eq, List.filterMap_cons, List.filter_cons, ih]
      by_cases hempty : text.getD "" = "" <;> simp [hempty]

theorem pricedKey_eq (hshares : SharesPrices cfg clients deepCfg) :
    Loop.pricedKey cfg (some clients) (some result) none =
      DeepAgents.pricedKey deepCfg (CallResult.ofResult result) := by
  have hmodel : nonempty ((nonempty (some result.modelId)).or none) =
      nonempty (some result.modelId) := by
    rw [Option.or_none]
    by_cases hempty : result.modelId = "" <;> simp [nonempty, hempty]
  have hkeys : [nonempty result.modelAlias, nonempty (some result.modelId)].filterMap id =
      [result.modelAlias.getD "", result.modelId].filter (· ≠ "") :=
    filterMap_nonempty [result.modelAlias, some result.modelId]
  unfold Loop.pricedKey
  rw [Option.bind_some, Option.map_some, hmodel, hkeys, hshares.defaultPricing, Option.bind_some,
    hshares.pricing]
  rfl

section MapError

variable {ε ε' ε'' α : Type} {f : ε → ε'}

theorem mapError_comp (g : ε' → ε'') (x : Except ε α) :
    (x.mapError f).mapError g = x.mapError (g ∘ f) := by
  cases x <;> rfl

theorem mapError_inj (hf : Function.Injective f) {x y : Except ε α} :
    x.mapError f = y.mapError f ↔ x = y := by
  cases x <;> cases y <;> simp [Except.mapError, hf.eq_iff]

end MapError

/-- Where the output ceiling that the call was configured with makes no difference to its charge. -/
def ChargedAlike (deepCfg : DeepConfig Float) (inputTokens outputTokens : Int)
    (result : ModelResult Float) : Prop :=
  (Loop.authoritativeCost (some result)).isSome ∨
  incompleteUsage inputTokens outputTokens (some result) = false ∨
  ∀ table key, DeepAgents.pricedKey deepCfg (CallResult.ofResult result) = some (table, key) →
    PricingTable.boundedPrice deepCfg.num table key inputTokens outputTokens
        deepCfg.budgets.maxInputTokens (outputCeiling result deepCfg.budgets) =
      PricingTable.boundedPrice deepCfg.num table key inputTokens outputTokens
        deepCfg.budgets.maxInputTokens deepCfg.budgets.maxOutputTokens

/-- **The copies agree where the call's own ceiling does not matter.** -/
theorem callCosts_agree_iff (hshares : SharesPrices cfg clients deepCfg) {state : LoopState Float}
    (hclients : state.clients = some clients) {answer : (call : LoopCall Float) → LoopReply call}
    (hloop : Loop.Quotes cfg.num answer) {deepAnswer : (call : DeepCall Float) → DeepReply call}
    (hdeep : DeepAgents.Quotes deepCfg.num deepAnswer) (phase : CallPhase)
    (recorder : Recorder Float)
    (inputTokens outputTokens : Int) (result : ModelResult Float) :
    ((DeepAgents.callCost deepCfg inputTokens outputTokens (CallResult.ofResult result)).evaluate
        deepAnswer recorder).1 =
      ((Loop.callCost cfg phase inputTokens outputTokens (some result) none).evaluate answer
        state).1.mapError .loop ↔
    ChargedAlike deepCfg inputTokens outputTokens result := by
  have hinjective : Function.Injective (DeepError.loop ∘ LoopError.fault : PyFault →
      DeepError Float) := by
    intro fault other hsame
    exact LoopError.fault.inj (DeepError.loop.inj hsame)
  rw [DeepAgents.evaluate_callCost hdeep, Loop.evaluate_callCost hloop hclients hshares.billed,
    mapError_comp, mapError_inj hinjective, pricedKey_eq hshares, hshares.num, hshares.budgets,
    eq_comm, sharedCost_eq_iff]
  rfl

theorem max_eq_max_iff_left {K : Type} [LinearOrder K] {estimate bound other : K} :
    max estimate bound = max estimate other ↔ bound = other ∨ bound ≤ estimate ∧
      other ≤ estimate := by
  constructor
  · intro hmax
    rcases le_total bound estimate with hbound | hbound <;>
      rcases le_total other estimate with hother | hother
    · exact .inr ⟨hbound, hother⟩
    · rw [max_eq_left hbound, max_eq_right hother] at hmax
      exact .inr ⟨hbound, hmax.ge⟩
    · rw [max_eq_right hbound, max_eq_left hother] at hmax
      exact .inr ⟨hmax.le, hother⟩
    · rw [max_eq_right hbound, max_eq_right hother] at hmax
      exact .inl hmax
  · rintro (rfl | ⟨hbound, hother⟩)
    · rfl
    · rw [max_eq_left hbound, max_eq_left hother]

theorem boundedPrice_exact_iff {K : Type} [Field K] [LinearOrder K] [IsStrictOrderedRing K]
    {prices : PricingTable K} {input output : K}
    (hrate : prices.rates.lookup key = some (input, output))
    (hmillion : 0 < prices.million) (ceiling other : Int) :
    prices.boundedPrice (.exact K) key inputTokens outputTokens maxInput ceiling =
        prices.boundedPrice (.exact K) key inputTokens outputTokens maxInput other ↔
      output = 0 ∨ ceiling = other ∨
        maxInput * input + ceiling * output ≤ inputTokens * input + outputTokens * output ∧
        maxInput * input + other * output ≤ inputTokens * input + outputTokens * output := by
  have hprice (i o : Int) : prices.price (.exact K) key i o =
      .ok ((i * input + o * output) / prices.million) := by
    rw [PricingTable.price, PricingTable.quote, PricingTable.estimate, hrate]
    rfl
  unfold PricingTable.boundedPrice
  rw [hprice, hprice, hprice]
  change Except.ok ((NumOps.exact K).larger _ _) = Except.ok ((NumOps.exact K).larger _ _) ↔ _
  rw [Except.ok.injEq, NumOps.exact_larger, NumOps.exact_larger, max_eq_max_iff_left,
    div_left_inj' hmillion.ne', div_le_div_iff_of_pos_right hmillion,
    div_le_div_iff_of_pos_right hmillion, add_right_inj, mul_eq_mul_right_iff, Int.cast_inj,
    or_assoc,
    or_left_comm]

end Agreement

section Examples

def plannerPrices : PricingTable Int := ⟨"v2", [("taxi-planner", (8, 32))], 10⟩

def plannerAgent : DeepConfig Int :=
  { sampleRun with
    pricing := plannerPrices
    defaultPricing := sampleConfig.defaultPricing
    agentAlias := "taxi-planner" }

def plannerClients : Clients Int where
  serves := true
  liteLLM := true
  modelId := "taxi-planner"
  pricing := some plannerPrices
  streams := true

def plannerState : LoopState Int :=
  { initialState sampleConfig [] 2 with clients := some plannerClients }

def plannerRecorder : Recorder Int := { tracker := emptyTracker plannerAgent, nextSeq := 2 }

def loopReplies : (call : LoopCall Int) → LoopReply call
  | .estimate _ table key inputTokens outputTokens =>
      table.quote wholeNumbers key inputTokens outputTokens
  | call => sampleReply (.ok sampleProposal) call

def agentReplies : (call : DeepCall Int) → DeepReply call
  | .estimate table key inputTokens outputTokens =>
    table.quote wholeNumbers key inputTokens outputTokens
  | call => anyReply wholeNumbers call

def unmeasured (configuredMaxTokens : Option Int) : ModelResult Int where
  modelId := "amazon.nova-pro-v1:0"
  inputTokens := 0
  outputTokens := 0
  latencyMs := 900
  modelAlias := some "taxi-planner"
  usageKnown := false
  configuredMaxTokens := configuredMaxTokens

theorem sharesPrices_planner : SharesPrices sampleConfig plannerClients plannerAgent :=
  ⟨rfl, rfl, rfl, rfl, rfl⟩

theorem quotes_loopReplies : Loop.Quotes sampleConfig.num loopReplies := fun _ _ _ _ _ => rfl

theorem quotes_agentReplies : DeepAgents.Quotes plannerAgent.num agentReplies := fun _ _ _ _ => rfl

theorem callCosts_agree_unconfigured :
    ((DeepAgents.callCost plannerAgent 0 0 (CallResult.ofResult (unmeasured none))).evaluate
      agentReplies
        plannerRecorder).1 =
      ((Loop.callCost sampleConfig .proposal 0 0 (some (unmeasured none)) none).evaluate loopReplies
        plannerState).1.mapError .loop :=
  (callCosts_agree_iff sharesPrices_planner rfl quotes_loopReplies quotes_agentReplies .proposal
    plannerRecorder 0 0 (unmeasured none)).mpr (.inr (.inr fun _ _ _ => rfl))

/-- A call that may write 8000 tokens in a run that may write 4000: the copy charges for 4000. -/
theorem configured_ceiling_lost :
    ((Loop.callCost sampleConfig .proposal 0 0 (some (unmeasured (some 8000))) none).evaluate
      loopReplies
        plannerState).1.map (·.budgetCostUsd) = .ok (some 41600) ∧
      ((DeepAgents.callCost plannerAgent 0 0
      (CallResult.ofResult (unmeasured (some 8000)))).evaluate
        agentReplies plannerRecorder).1.map (·.budgetCostUsd) = .ok (some 28800) ∧
      ((DeepAgents.callCost plannerAgent 0 0
      (CallResult.ofResult (unmeasured (some 8000)))).evaluate
        agentReplies plannerRecorder).1 ≠
      ((Loop.callCost sampleConfig .proposal 0 0 (some (unmeasured (some 8000))) none).evaluate
      loopReplies
        plannerState).1.mapError .loop := by
  refine ⟨rfl, rfl, fun hsame => ?_⟩
  have hcharge := congrArg (Except.map (·.budgetCostUsd)) hsame
  cases hcharge

end Examples

end AiAnalytics.App
