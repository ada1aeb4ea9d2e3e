import AiAnalytics.Lib.PyOps

/-!
# Execution budgets

The limits of a run, the tracker that counts against them and the rule for the one validation retry.
A record that breaks a limit raises after part of the tracker has been updated, so every operation
returns the tracker together with its outcome. The clock is outside: an operation that checks the
deadline is given the elapsed seconds of the check and those of the report about it.
-/

namespace AiAnalytics.App

open Lib

variable {Float : Type}

structure PyFormat (Float : Type) where
  repr : PyValue Float → String
  fixed4 : Float → String
  dumps : Bool → Bool → PyValue Float → String

section Tracker

structure BudgetExceededError (Float : Type) where
  reason : String
  details : List (String × PyValue Float)

structure ExecutionBudgets (Float : Type) where
  maxIterations : Int := 5
  maxLlmCalls : Int := 6
  maxToolCalls : Int := 5
  timeoutSeconds : Float
  maxInputTokens : Int := 20000
  maxOutputTokens : Int := 4000
  maxEstimatedCostUsd : Float
  maxToolResultBytes : Int := 32768

/-- `estimatedCostUsd` is what events show; `budgetCostUsd` is what the limit is enforced
against. -/
structure BudgetTracker (Float : Type) where
  budgets : ExecutionBudgets Float
  iterationCount : Int := 0
  llmCallCount : Int := 0
  toolCallCount : Int := 0
  inputTokens : Int := 0
  outputTokens : Int := 0
  estimatedCostUsd : Float
  budgetCostUsd : Float
  costIndeterminate : Bool := false
  costUnresolvable : Bool := false

def BudgetTracker.totalTokens (tracker : BudgetTracker Float) : Int :=
  tracker.inputTokens + tracker.outputTokens

variable (num : NumOps Float) (fmt : PyFormat Float)

def limitError (before after limitName : String) (limit current : Int) :
    BudgetExceededError Float :=
  { reason := before ++ toString limit ++ after
    details := [("limit", .str limitName), ("current", .int current)] }

def BudgetTracker.checkDeadline (tracker : BudgetTracker Float) (elapsed : Float × Float) :
    Except (BudgetExceededError Float) Unit :=
  if num.gt elapsed.1 tracker.budgets.timeoutSeconds then
    .error
      { reason := "Exceeded execution timeout limit of " ++
          fmt.repr (.float tracker.budgets.timeoutSeconds) ++ "s"
        details := [("limit", .str "timeout_seconds"), ("elapsed", .float elapsed.2)] }
  else .ok ()

def BudgetTracker.recordIteration (tracker : BudgetTracker Float) (elapsed : Float × Float) :
    Except (BudgetExceededError Float) Unit × BudgetTracker Float :=
  let tracker := { tracker with iterationCount := tracker.iterationCount + 1 }
  if tracker.iterationCount > tracker.budgets.maxIterations then
    (.error (limitError "Exceeded max iterations limit of " "" "max_iterations"
      tracker.budgets.maxIterations tracker.iterationCount), tracker)
  else (tracker.checkDeadline num fmt elapsed, tracker)

structure CallCharge (Float : Type) where
  estimatedCostUsd : Float
  budgetCostUsd : Option Float
  costIndeterminate : Bool
  costUnresolvable : Bool

def BudgetTracker.addCost (tracker : BudgetTracker Float) (charge : CallCharge Float) :
    BudgetTracker Float :=
  { tracker with
    estimatedCostUsd := num.add tracker.estimatedCostUsd charge.estimatedCostUsd
    budgetCostUsd :=
      num.add tracker.budgetCostUsd (charge.budgetCostUsd.getD charge.estimatedCostUsd)
    costIndeterminate :=
      tracker.costIndeterminate || charge.costIndeterminate || charge.costUnresolvable
    costUnresolvable := tracker.costUnresolvable || charge.costUnresolvable }

def BudgetTracker.recordLlmCall (tracker : BudgetTracker Float) (inputTokens outputTokens : Int)
    (charge : CallCharge Float) (elapsed : Float × Float) :
    Except (BudgetExceededError Float) Unit × BudgetTracker Float :=
  let tracker := { tracker with llmCallCount := tracker.llmCallCount + 1 }
  if tracker.llmCallCount > tracker.budgets.maxLlmCalls then
    (.error (limitError "Exceeded max LLM calls limit of " "" "max_llm_calls"
      tracker.budgets.maxLlmCalls tracker.llmCallCount), tracker)
  else
    let tracker := { tracker with inputTokens := tracker.inputTokens + inputTokens }
    if tracker.inputTokens > tracker.budgets.maxInputTokens then
      (.error (limitError "Exceeded max input tokens limit of " "" "max_input_tokens"
        tracker.budgets.maxInputTokens tracker.inputTokens), tracker)
    else
      let tracker := { tracker with outputTokens := tracker.outputTokens + outputTokens }
      if tracker.outputTokens > tracker.budgets.maxOutputTokens then
        (.error (limitError "Exceeded max output tokens limit of " "" "max_output_tokens"
          tracker.budgets.maxOutputTokens tracker.outputTokens), tracker)
      else
        let tracker := tracker.addCost num charge
        if num.gt tracker.budgetCostUsd tracker.budgets.maxEstimatedCostUsd then
          (.error
            { reason := "Exceeded max estimated cost limit of $" ++
                fmt.fixed4 tracker.budgets.maxEstimatedCostUsd
              details :=
                [("limit", .str "max_estimated_cost_usd"),
                  ("current", .float tracker.budgetCostUsd),
                  ("cost_indeterminate", .bool tracker.costIndeterminate)] }, tracker)
        else (tracker.checkDeadline num fmt elapsed, tracker)

def BudgetTracker.ensureCostDeterminate (tracker : BudgetTracker Float) :
    Except (BudgetExceededError Float) Unit :=
  if tracker.costUnresolvable then
    .error
      { reason := "Run cost is indeterminate: a prior LLM call had no resolvable price"
        details :=
          [("limit", .str "cost_indeterminate"), ("current", .float tracker.budgetCostUsd)] }
  else .ok ()

def BudgetTracker.recordToolCall (tracker : BudgetTracker Float) (resultBytes : Int)
    (elapsed : Float × Float) :
    Except (BudgetExceededError Float) Unit × BudgetTracker Float :=
  let tracker := { tracker with toolCallCount := tracker.toolCallCount + 1 }
  if tracker.toolCallCount > tracker.budgets.maxToolCalls then
    (.error (limitError "Exceeded max tool calls limit of " "" "max_tool_calls"
      tracker.budgets.maxToolCalls tracker.toolCallCount), tracker)
  else if resultBytes > tracker.budgets.maxToolResultBytes then
    (.error (limitError "Exceeded max tool result bytes limit (" ")" "max_tool_result_bytes"
      tracker.budgets.maxToolResultBytes resultBytes), tracker)
  else (tracker.checkDeadline num fmt elapsed, tracker)

end Tracker

section Retry

structure Violation where
  code : String
  message : String
  recoverable : Bool := true
deriving DecidableEq, Repr

structure ProposalValidation where
  violations : List Violation := []
deriving DecidableEq, Repr

def ProposalValidation.ok (validation : ProposalValidation) : Bool := validation.violations.isEmpty

def ProposalValidation.recoverable (validation : ProposalValidation) : Bool :=
  !validation.violations.isEmpty && validation.violations.all Violation.recoverable

def ProposalValidation.feedback (validation : ProposalValidation) : String :=
  "\n".intercalate
    ((validation.violations.take 5).map fun v => "- " ++ v.code ++ ": " ++ v.message)

def ProposalValidation.codes (validation : ProposalValidation) : String :=
  ",".intercalate (validation.violations.map Violation.code)

def maxValidationRetries : Nat := 1

/-- `maxElapsed` is `MAX_ELAPSED_FRACTION` of the timeout. The retry and the final answer are both
reserved for at the size of the last proposal. -/
def retryAllowed (num : NumOps Float) (validation : ProposalValidation)
    (tracker : BudgetTracker Float) (lastInputTokens lastOutputTokens : Int) (retriesUsed : Nat)
    (elapsed maxElapsed : Float) : Bool :=
  if retriesUsed ≥ maxValidationRetries || !validation.recoverable then false
  else if tracker.llmCallCount + 2 > tracker.budgets.maxLlmCalls then false
  else if num.gt elapsed maxElapsed then false
  else if tracker.inputTokens + 2 * lastInputTokens > tracker.budgets.maxInputTokens then false
  else if tracker.outputTokens + 2 * lastOutputTokens > tracker.budgets.maxOutputTokens then false
  else true

end Retry

end AiAnalytics.App
