import AiAnalytics.App.Orchestration.Budgets
import AiAnalytics.Lib.NumOrder

/-!
# What the tracker records

A record of a completed call checks three limits between its additions and two after them. So what
has been added when an exception leaves it depends on the limit, and a call is recorded without an
exception if and only if it fits all five. The forecast for a retry looks at three of them.
-/

namespace AiAnalytics.App

open Lib

variable {Float : Type} {num : NumOps Float} {fmt : PyFormat Float}

section Inclusion

def BudgetTracker.including (num : NumOps Float) (tracker : BudgetTracker Float)
    (inputTokens outputTokens : Int) (charge : CallCharge Float) : BudgetTracker Float :=
  { tracker.addCost num charge with
    llmCallCount := tracker.llmCallCount + 1
    inputTokens := tracker.inputTokens + inputTokens
    outputTokens := tracker.outputTokens + outputTokens }

variable (num) in
/-- Whatever stands behind a limit that the call exceeds adds nothing. -/
structure BudgetTracker.LeavesNothingOut (tracker : BudgetTracker Float)
    (inputTokens outputTokens : Int) (charge : CallCharge Float) : Prop where
  input : tracker.llmCallCount + 1 ≤ tracker.budgets.maxLlmCalls ∨ inputTokens = 0
  output : tracker.llmCallCount + 1 ≤ tracker.budgets.maxLlmCalls ∧
    tracker.inputTokens + inputTokens ≤ tracker.budgets.maxInputTokens ∨ outputTokens = 0
  cost : tracker.llmCallCount + 1 ≤ tracker.budgets.maxLlmCalls ∧
    tracker.inputTokens + inputTokens ≤ tracker.budgets.maxInputTokens ∧
    tracker.outputTokens + outputTokens ≤ tracker.budgets.maxOutputTokens ∨
    tracker.addCost num charge = tracker

variable {tracker : BudgetTracker Float} {inputTokens outputTokens : Int}
  {charge : CallCharge Float} {elapsed : Float × Float}

theorem recordLlmCall_tracker :
    (tracker.recordLlmCall num fmt inputTokens outputTokens charge elapsed).2 =
      if tracker.llmCallCount + 1 > tracker.budgets.maxLlmCalls then
        { tracker with llmCallCount := tracker.llmCallCount + 1 }
      else if tracker.inputTokens + inputTokens > tracker.budgets.maxInputTokens then
        { tracker with
          llmCallCount := tracker.llmCallCount + 1, inputTokens :=
            tracker.inputTokens + inputTokens }
      else if tracker.outputTokens + outputTokens > tracker.budgets.maxOutputTokens then
        { tracker with
          llmCallCount := tracker.llmCallCount + 1, inputTokens := tracker.inputTokens + inputTokens
          outputTokens := tracker.outputTokens + outputTokens }
      else tracker.including num inputTokens outputTokens charge := by
  unfold BudgetTracker.recordLlmCall
  dsimp only
  split
  · rfl
  split
  · rfl
  split
  · rfl
  split <;> rfl

theorem including_eq_iff {calls input output : Int} :
    { tracker with llmCallCount := calls, inputTokens := input, outputTokens := output } =
        tracker.including num inputTokens outputTokens charge ↔
      calls = tracker.llmCallCount + 1 ∧ input = tracker.inputTokens + inputTokens ∧
        output = tracker.outputTokens + outputTokens ∧ tracker.addCost num charge = tracker := by
  cases tracker
  simp only [BudgetTracker.including, BudgetTracker.addCost, BudgetTracker.mk.injEq]
  grind

/-- **Recording a completed call.** Whether the record returns or raises, the tracker has all of the
call in it if and only if none of the limits that are checked before the last addition cuts anything
off. -/
theorem recordLlmCall_includes_iff :
    (tracker.recordLlmCall num fmt inputTokens outputTokens charge elapsed).2 =
        tracker.including num inputTokens outputTokens charge ↔
      tracker.LeavesNothingOut num inputTokens outputTokens charge := by
  rw [recordLlmCall_tracker]
  split
  case isTrue hcalls =>
    have hover : ¬ tracker.llmCallCount + 1 ≤ tracker.budgets.maxLlmCalls := not_le.mpr hcalls
    have hstop :=
      @including_eq_iff _ num tracker inputTokens outputTokens charge (tracker.llmCallCount + 1)
      tracker.inputTokens tracker.outputTokens
    rw [hstop]
    constructor
    · rintro ⟨-, hinput, houtput, hcost⟩
      exact ⟨.inr (by omega), .inr (by omega), .inr hcost⟩
    · rintro ⟨hinput, houtput, hcost⟩
      have hinput := hinput.resolve_left hover
      have houtput := houtput.resolve_left fun h => hover h.1
      exact ⟨rfl, by omega, by omega, hcost.resolve_left fun h => hover h.1⟩
  split
  case isTrue hcalls hinput =>
    have hover : ¬ tracker.inputTokens + inputTokens ≤ tracker.budgets.maxInputTokens :=
      not_le.mpr hinput
    have hstop :=
      @including_eq_iff _ num tracker inputTokens outputTokens charge (tracker.llmCallCount + 1)
      (tracker.inputTokens + inputTokens) tracker.outputTokens
    rw [hstop]
    constructor
    · rintro ⟨-, -, houtput, hcost⟩
      exact ⟨.inl (not_lt.mp hcalls), .inr (by omega), .inr hcost⟩
    · rintro ⟨-, houtput, hcost⟩
      have houtput := houtput.resolve_left fun h => hover h.2
      exact ⟨rfl, rfl, by omega, hcost.resolve_left fun h => hover h.2.1⟩
  split
  case isTrue hcalls hinput houtput =>
    have hover : ¬ tracker.outputTokens + outputTokens ≤ tracker.budgets.maxOutputTokens :=
      not_le.mpr houtput
    rw [including_eq_iff]
    constructor
    · rintro ⟨-, -, -, hcost⟩
      exact ⟨.inl (not_lt.mp hcalls), .inl ⟨not_lt.mp hcalls, not_lt.mp hinput⟩, .inr hcost⟩
    · rintro ⟨-, -, hcost⟩
      exact ⟨rfl, rfl, rfl, hcost.resolve_left fun h => hover h.2.2⟩
  case isFalse hcalls hinput houtput =>
    have hwithin := And.intro (not_lt.mp hcalls) (And.intro (not_lt.mp hinput) (not_lt.mp houtput))
    exact iff_of_true rfl ⟨.inl hwithin.1, .inl ⟨hwithin.1, hwithin.2.1⟩, .inl hwithin⟩

theorem recordLlmCall_within (hcalls : tracker.llmCallCount + 1 ≤ tracker.budgets.maxLlmCalls)
    (hinput : tracker.inputTokens + inputTokens ≤ tracker.budgets.maxInputTokens)
    (houtput : tracker.outputTokens + outputTokens ≤ tracker.budgets.maxOutputTokens) :
    (tracker.recordLlmCall num fmt inputTokens outputTokens charge elapsed).2 =
      tracker.including num inputTokens outputTokens charge :=
  recordLlmCall_includes_iff.mpr
    ⟨.inl hcalls, .inl ⟨hcalls, hinput⟩, .inl ⟨hcalls, hinput, houtput⟩⟩

def plainFormat : PyFormat Float :=
  { repr := fun _ => "", fixed4 := fun _ => "", dumps := fun _ _ _ => "" }

def centBudgets : ExecutionBudgets ℤ := { timeoutSeconds := 60, maxEstimatedCostUsd := 50 }

def centTracker : BudgetTracker ℤ :=
  { budgets := centBudgets, estimatedCostUsd := 0, budgetCostUsd := 0 }

def centCharge (cents : ℤ) : CallCharge ℤ :=
  { estimatedCostUsd := cents, budgetCostUsd := some cents, costIndeterminate := false,
    costUnresolvable := false }

/-- The first call of a run has more input tokens than the run may use: its output tokens and its
cost are lost. -/
theorem long_call_half_recorded :
    (centTracker.recordLlmCall (NumOps.exact ℤ) plainFormat 20001 100 (centCharge 2) (1, 1)).2 =
        { centTracker with llmCallCount := 1, inputTokens := 20001 } ∧
      (centTracker.recordLlmCall (NumOps.exact ℤ) plainFormat 20001 100 (centCharge 2) (1, 1)).2 ≠
        centTracker.including (NumOps.exact ℤ) 20001 100 (centCharge 2) := by
  refine ⟨rfl, fun heq => ?_⟩
  have houtput : (0 : ℤ) = 100 := congrArg BudgetTracker.outputTokens heq
  omega

end Inclusion

section Records

variable {tracker : BudgetTracker Float} {inputTokens outputTokens : Int}
  {charge : CallCharge Float} {elapsed : Float × Float}

theorem checkDeadline_eq_ok_iff :
    tracker.checkDeadline num fmt elapsed = .ok () ↔
      num.le elapsed.1 tracker.budgets.timeoutSeconds := by
  unfold BudgetTracker.checkDeadline NumOps.le
  cases num.gt elapsed.1 tracker.budgets.timeoutSeconds <;> simp

def CallCharge.amount (charge : CallCharge Float) : Float :=
  charge.budgetCostUsd.getD charge.estimatedCostUsd

structure BudgetTracker.Reaches (tracker : BudgetTracker Float) (inputTokens outputTokens : Int) :
    Prop where
  calls : tracker.llmCallCount + 1 ≤ tracker.budgets.maxLlmCalls
  input : tracker.inputTokens + inputTokens ≤ tracker.budgets.maxInputTokens
  output : tracker.outputTokens + outputTokens ≤ tracker.budgets.maxOutputTokens

structure BudgetTracker.SameCosts (tracker other : BudgetTracker Float) : Prop where
  estimated : tracker.estimatedCostUsd = other.estimatedCostUsd
  budget : tracker.budgetCostUsd = other.budgetCostUsd
  unresolvable : tracker.costUnresolvable = other.costUnresolvable

theorem recordLlmCall_stops (hstops : ¬ tracker.Reaches inputTokens outputTokens) :
    (tracker.recordLlmCall num fmt inputTokens outputTokens charge elapsed).2.SameCosts
      tracker := by
  rw [recordLlmCall_tracker]
  split
  case isTrue => exact ⟨rfl, rfl, rfl⟩
  split
  case isTrue => exact ⟨rfl, rfl, rfl⟩
  split
  case isTrue => exact ⟨rfl, rfl, rfl⟩
  case isFalse hcalls hinput houtput =>
    exact absurd ⟨not_lt.mp hcalls, not_lt.mp hinput, not_lt.mp houtput⟩ hstops

structure BudgetTracker.Fits (num : NumOps Float) (tracker : BudgetTracker Float)
    (inputTokens outputTokens : Int) (amount elapsed : Float) : Prop where
  calls : tracker.llmCallCount + 1 ≤ tracker.budgets.maxLlmCalls
  input : tracker.inputTokens + inputTokens ≤ tracker.budgets.maxInputTokens
  output : tracker.outputTokens + outputTokens ≤ tracker.budgets.maxOutputTokens
  cost : num.le (num.add tracker.budgetCostUsd amount) tracker.budgets.maxEstimatedCostUsd
  deadline : num.le elapsed tracker.budgets.timeoutSeconds

theorem recordLlmCall_ok_iff :
    (tracker.recordLlmCall num fmt inputTokens outputTokens charge elapsed).1 = .ok () ↔
      tracker.Fits num inputTokens outputTokens charge.amount elapsed.1 := by
  unfold BudgetTracker.recordLlmCall
  dsimp only
  split
  case isTrue hcalls => exact iff_of_false nofun fun h => absurd h.calls (not_le.mpr hcalls)
  split
  case isTrue hinput => exact iff_of_false nofun fun h => absurd h.input (not_le.mpr hinput)
  split
  case isTrue houtput => exact iff_of_false nofun fun h => absurd h.output (not_le.mpr houtput)
  split
  case isTrue hcost => exact iff_of_false nofun fun h => Bool.noConfusion (hcost.symm.trans h.cost)
  case isFalse hcalls hinput houtput hcost =>
    rw [checkDeadline_eq_ok_iff]
    exact ⟨fun h => ⟨not_lt.mp hcalls, not_lt.mp hinput, not_lt.mp houtput,
      Bool.eq_false_iff.mpr hcost, h⟩,
      fun h => h.deadline⟩

theorem recordIteration_tracker :
    (tracker.recordIteration num fmt elapsed).2 =
      { tracker with iterationCount := tracker.iterationCount + 1 } := by
  unfold BudgetTracker.recordIteration
  dsimp only
  split <;> rfl

theorem recordToolCall_tracker {resultBytes : Int} :
    (tracker.recordToolCall num fmt resultBytes elapsed).2 =
      { tracker with toolCallCount := tracker.toolCallCount + 1 } := by
  unfold BudgetTracker.recordToolCall
  dsimp only
  split
  · rfl
  split <;> rfl

theorem recordToolCall_ok_iff {resultBytes : Int} :
    (tracker.recordToolCall num fmt resultBytes elapsed).1 = .ok () ↔
      tracker.toolCallCount + 1 ≤ tracker.budgets.maxToolCalls ∧
        resultBytes ≤ tracker.budgets.maxToolResultBytes ∧
        num.le elapsed.1 tracker.budgets.timeoutSeconds := by
  unfold BudgetTracker.recordToolCall
  dsimp only
  split
  case isTrue hcalls => exact iff_of_false nofun fun h => absurd h.1 (not_le.mpr hcalls)
  split
  case isTrue hbytes => exact iff_of_false nofun fun h => absurd h.2.1 (not_le.mpr hbytes)
  case isFalse hcalls hbytes =>
    rw [checkDeadline_eq_ok_iff]
    exact ⟨fun h => ⟨not_lt.mp hcalls, not_lt.mp hbytes, h⟩, fun h => h.2.2⟩

end Records

section Remaining

structure UsedCall (Float : Type) where
  inputTokens : Int
  outputTokens : Int
  charge : CallCharge Float
  elapsed : Float × Float

def BudgetTracker.recordRemaining (num : NumOps Float) (fmt : PyFormat Float)
    (tracker : BudgetTracker Float) (retry answer : UsedCall Float) (resultBytes : Int)
    (toolElapsed : Float × Float) :
    Except (BudgetExceededError Float) Unit := do
  let retried := tracker.recordLlmCall num fmt retry.inputTokens retry.outputTokens retry.charge
    retry.elapsed
  retried.1
  let called := retried.2.recordToolCall num fmt resultBytes toolElapsed
  called.1
  (called.2.recordLlmCall num fmt answer.inputTokens answer.outputTokens answer.charge
    answer.elapsed).1

structure UsedCall.Within (num : NumOps Float) (call : UsedCall Float)
    (lastInputTokens lastOutputTokens : Int) (lastCost timeout : Float) : Prop where
  input : call.inputTokens ≤ lastInputTokens
  output : call.outputTokens ≤ lastOutputTokens
  cost : num.le call.charge.amount lastCost
  deadline : num.le call.elapsed.1 timeout

/-- What is left of the limits on the cost, on tool calls and on the size of a result suffices. The
bounds of the first call alone say something only where the last proposal counts less than
nothing. -/
structure BudgetTracker.Affords (num : NumOps Float) (tracker : BudgetTracker Float)
    (lastInputTokens lastOutputTokens : Int) (lastCost : Float) (resultBytes : Int) : Prop where
  input : tracker.inputTokens + lastInputTokens ≤ tracker.budgets.maxInputTokens
  output : tracker.outputTokens + lastOutputTokens ≤ tracker.budgets.maxOutputTokens
  firstCost : num.le (num.add tracker.budgetCostUsd lastCost) tracker.budgets.maxEstimatedCostUsd
  bothCosts : num.le (num.add (num.add tracker.budgetCostUsd lastCost) lastCost)
    tracker.budgets.maxEstimatedCostUsd
  tools : tracker.toolCallCount + 1 ≤ tracker.budgets.maxToolCalls
  bytes : resultBytes ≤ tracker.budgets.maxToolResultBytes

variable {tracker : BudgetTracker Float} {retry answer : UsedCall Float} {resultBytes : Int}
  {toolElapsed : Float × Float}

theorem recordRemaining_ok_iff :
    tracker.recordRemaining num fmt retry answer resultBytes toolElapsed = .ok () ↔
      tracker.Fits num retry.inputTokens retry.outputTokens retry.charge.amount retry.elapsed.1 ∧
      (tracker.toolCallCount + 1 ≤ tracker.budgets.maxToolCalls ∧
        resultBytes ≤ tracker.budgets.maxToolResultBytes ∧
        num.le toolElapsed.1 tracker.budgets.timeoutSeconds) ∧
      (tracker.including num retry.inputTokens retry.outputTokens retry.charge).Fits num
      answer.inputTokens
        answer.outputTokens answer.charge.amount answer.elapsed.1 := by
  rw [BudgetTracker.recordRemaining, bind_eq_ok_iff, ← recordLlmCall_ok_iff]
  refine ⟨?_, ?_⟩
  · rintro ⟨⟨⟩, hretry, hrest⟩
    obtain ⟨⟨⟩, htool, hanswer⟩ := bind_eq_ok_iff.mp hrest
    have hfits := recordLlmCall_ok_iff.mp hretry
    rw [recordLlmCall_within hfits.calls hfits.input hfits.output] at htool hanswer
    rw [recordToolCall_tracker] at hanswer
    have hcalled := recordToolCall_ok_iff.mp htool
    have hanswered := recordLlmCall_ok_iff.mp hanswer
    exact ⟨hretry, hcalled, ⟨hanswered.calls, hanswered.input, hanswered.output,
      hanswered.cost, hanswered.deadline⟩⟩
  · rintro ⟨hretry, htool, hanswered⟩
    have hfits := recordLlmCall_ok_iff.mp hretry
    refine ⟨(), hretry, bind_eq_ok_iff.mpr ⟨(), ?_, ?_⟩⟩
    · rw [recordLlmCall_within hfits.calls hfits.input hfits.output]
      exact recordToolCall_ok_iff.mpr htool
    · rw [recordLlmCall_within hfits.calls hfits.input hfits.output, recordToolCall_tracker]
      exact recordLlmCall_ok_iff.mpr ⟨hanswered.calls, hanswered.input, hanswered.output,
        hanswered.cost, hanswered.deadline⟩

end Remaining

section Retry

variable {tracker : BudgetTracker Float} {validation : ProposalValidation}
  {lastInputTokens lastOutputTokens resultBytes : Int} {lastCost elapsed maxElapsed : Float}
  {retriesUsed : Nat}

theorem retryAllowed_iff :
    retryAllowed num validation tracker lastInputTokens lastOutputTokens retriesUsed elapsed
      maxElapsed = true ↔ (retriesUsed < maxValidationRetries ∧ validation.recoverable = true) ∧
      tracker.llmCallCount + 2 ≤ tracker.budgets.maxLlmCalls ∧ num.le elapsed maxElapsed ∧
      tracker.inputTokens + 2 * lastInputTokens ≤ tracker.budgets.maxInputTokens ∧
      tracker.outputTokens + 2 * lastOutputTokens ≤ tracker.budgets.maxOutputTokens := by
  unfold retryAllowed NumOps.le
  grind

/-- **The forecast for a retry.** Where a retry is allowed, it can be recorded together with the
tool call and the final answer, whatever they use up to the size of the last proposal, if and only
if the limits that the forecast does not look at leave room as well. -/
theorem retry_affordable_iff (hnum : num.Ordered)
    (hallowed :
      retryAllowed num validation tracker lastInputTokens lastOutputTokens retriesUsed elapsed
      maxElapsed = true) :
    (∀ retry answer toolElapsed,
      retry.Within num lastInputTokens lastOutputTokens lastCost tracker.budgets.timeoutSeconds →
      answer.Within num lastInputTokens lastOutputTokens lastCost tracker.budgets.timeoutSeconds →
      num.le toolElapsed.1 tracker.budgets.timeoutSeconds →
      tracker.recordRemaining num fmt retry answer resultBytes toolElapsed = .ok ()) ↔
    tracker.Affords num lastInputTokens lastOutputTokens lastCost resultBytes := by
  obtain ⟨-, hcalls, -, hinput, houtput⟩ := retryAllowed_iff.mp hallowed
  constructor
  · intro hall
    let timeout := tracker.budgets.timeoutSeconds
    let last : UsedCall Float :=
      { inputTokens := lastInputTokens, outputTokens := lastOutputTokens
        charge :=
          { estimatedCostUsd := lastCost, budgetCostUsd := none, costIndeterminate := false
            costUnresolvable := false }
        elapsed := (timeout, timeout) }
    have hlast : last.Within num lastInputTokens lastOutputTokens lastCost timeout :=
      ⟨le_rfl, le_rfl, hnum.refl _, hnum.refl _⟩
    obtain ⟨hretry, htool, hanswer⟩ :=
      recordRemaining_ok_iff.mp (hall last last (timeout, timeout) hlast hlast (hnum.refl _))
    exact ⟨hretry.input, hretry.output, hretry.cost, hanswer.cost, htool.1, htool.2.1⟩
  · intro hroom retry answer toolElapsed hretry hanswer htool
    have hfirst := hretry.input
    have hsecond := hanswer.input
    have hfirstOut := hretry.output
    have hsecondOut := hanswer.output
    have hfirstRoom := hroom.input
    have hfirstOutRoom := hroom.output
    have hcost := hnum.add (hnum.refl tracker.budgetCostUsd) hretry.cost
    refine recordRemaining_ok_iff.mpr ⟨⟨?_, ?_, ?_, ?_, hretry.deadline⟩,
      ⟨hroom.tools, hroom.bytes, htool⟩, ⟨?_, ?_, ?_, ?_, hanswer.deadline⟩⟩
    · omega
    · omega
    · omega
    · exact hnum.trans hcost hroom.firstCost
    · simp only [BudgetTracker.including, BudgetTracker.addCost]
      omega
    · simp only [BudgetTracker.including, BudgetTracker.addCost]
      omega
    · simp only [BudgetTracker.including, BudgetTracker.addCost]
      omega
    · exact hnum.trans (hnum.add hcost hanswer.cost) hroom.bothCosts

def proposedTracker (cents : ℤ) : BudgetTracker ℤ :=
  { centTracker with
    llmCallCount := 1, inputTokens := 1000, outputTokens := 100, estimatedCostUsd := cents
    budgetCostUsd := cents }

def missingLimit : ProposalValidation := ⟨[⟨"missing_argument", "limit is required", true⟩]⟩

theorem retry_affordable_iff_cheap :
    (∀ retry answer toolElapsed, retry.Within (NumOps.exact ℤ) 1000 100 10 60 →
      answer.Within (NumOps.exact ℤ) 1000 100 10 60 → (NumOps.exact ℤ).le toolElapsed.1 60 →
      (proposedTracker 10).recordRemaining (NumOps.exact ℤ) plainFormat retry answer 512
      toolElapsed = .ok ()) ↔
    (proposedTracker 10).Affords (NumOps.exact ℤ) 1000 100 10 512 := by
  have hallowed : retryAllowed (NumOps.exact ℤ) missingLimit (proposedTracker 10) 1000 100 0 5 30 =
      true := by
    decide
  exact retry_affordable_iff (NumOps.exact_ordered ℤ) hallowed

/-- The proposal has used 20 of 50 cents, and a retry is allowed. The retry and the answer cost as
much each. -/
theorem allowed_retry_exceeds_cost :
    let last : UsedCall ℤ := ⟨1000, 100, centCharge 20, (20, 20)⟩
    retryAllowed (NumOps.exact ℤ) missingLimit (proposedTracker 20) 1000 100 0 5 30 = true ∧
      last.Within (NumOps.exact ℤ) 1000 100 20 60 ∧
      (proposedTracker 20).recordRemaining (NumOps.exact ℤ) plainFormat last last 512 (20, 20) ≠
        .ok () := by
  refine ⟨by decide, ⟨le_rfl, le_rfl, rfl, rfl⟩, fun hok => ?_⟩
  obtain ⟨-, -, hanswer⟩ := recordRemaining_ok_iff.mp hok
  exact Bool.noConfusion (hanswer.cost : true = false)

end Retry

end AiAnalytics.App
