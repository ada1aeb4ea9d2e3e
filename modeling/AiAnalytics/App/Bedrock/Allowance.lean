import AiAnalytics.App.Llm.Governed
import AiAnalytics.Lib.Machine
import Mathlib.Data.Rat.Floor

/-!
# The monthly Bedrock allowance

Every paid call first takes a fixed amount from an item that all processes share, one for each
month. The update is conditional and atomic, so what the processes do together is a list of such
updates. Amounts are in millionths of a dollar, prices exact rationals.
-/

namespace AiAnalytics.App.Bedrock

open Lib

section Reservation

def defaultModelId : String := "amazon.nova-micro-v1:0"

def microUsdPerUsd : ℚ := 1000000

def novaMicroMaxInputTokens : Int := 128000

def novaMicroMaxOutputTokens : Int := 128

def novaMicroInputUsdPerMillionTokens : ℚ := 35 / 1000

def novaMicroOutputUsdPerMillionTokens : ℚ := 140 / 1000

def novaMicroMaxCallReservationMicroUsd : Int :=
  ⌈(novaMicroMaxInputTokens * novaMicroInputUsdPerMillionTokens +
    novaMicroMaxOutputTokens * novaMicroOutputUsdPerMillionTokens) * microUsdPerUsd / 1000000⌉

theorem reservation_eq : novaMicroMaxCallReservationMicroUsd = 4498 := by decide +kernel

structure DynamoDBBedrockBudget where
  monthlyLimit : Int
  funds_one : novaMicroMaxCallReservationMicroUsd ≤ monthlyLimit

abbrev AllowanceTable := String → Option Int

inductive BedrockBudgetError where
  | exceeded
  | unavailable
deriving DecidableEq, Repr

inductive UpdateFate where
  | answered
  | failed
  | lost
deriving DecidableEq, Repr

def DynamoDBBedrockBudget.update (budget : DynamoDBBedrockBudget) (table : AllowanceTable)
    (month : String) : Option AllowanceTable :=
  match table month with
  | none => some (Function.update table month (some novaMicroMaxCallReservationMicroUsd))
  | some reserved =>
      if reserved ≤ budget.monthlyLimit - novaMicroMaxCallReservationMicroUsd then
        some (Function.update table month (some (reserved + novaMicroMaxCallReservationMicroUsd)))
      else none

def DynamoDBBedrockBudget.reserveNovaMicroCall (budget : DynamoDBBedrockBudget)
    (table : AllowanceTable) (month : String) :
    UpdateFate → Except BedrockBudgetError Unit × AllowanceTable
  | .answered =>
      match budget.update table month with
      | some table => (.ok (), table)
      | none => (.error .exceeded, table)
  | .failed => (.error .unavailable, table)
  | .lost => (.error .unavailable, (budget.update table month).getD table)

/-- Only the model that the amount is priced for has an allowance. -/
def DynamoDBBedrockBudget.reserve (budget : DynamoDBBedrockBudget) (table : AllowanceTable)
    (modelId month : String) (fate : UpdateFate) :
    Except BedrockBudgetError Unit × AllowanceTable :=
  if modelId ≠ defaultModelId then (.error .unavailable, table)
  else budget.reserveNovaMicroCall table month fate

end Reservation

section Pricing

def modelRates : List (String × (ℚ × ℚ)) :=
  [("amazon.nova-micro-v1:0", (35 / 1000, 140 / 1000)),
    ("amazon.nova-pro-v1:0", (80 / 100, 320 / 100))]

def aliasModels : List (String × String) :=
  [("taxi-classifier", "amazon.nova-micro-v1:0"), ("taxi-planner", "amazon.nova-pro-v1:0"),
    ("taxi-answer", "amazon.nova-micro-v1:0")]

def rate (modelAlias : String) : Option (ℚ × ℚ) :=
  modelRates.lookup ((aliasModels.lookup modelAlias).getD modelAlias)

def defaultPricing (aliases : List String) : PricingTable ℚ :=
  { version := "2026-10-bedrock-nova-v2"
    rates := aliases.filterMap fun modelAlias => (rate modelAlias).map fun r => (modelAlias, r)
    million := 1000000 }

def exactNum : NumOps ℚ where
  ofInt n := some n
  zero := 0
  isZero x := x = 0
  isPositive x := 0 < x
  add := (· + ·)
  sub := (· - ·)
  mul := (· * ·)
  div := (· / ·)

structure PaidCall where
  modelAlias : String
  maxTokens : Option Int
deriving DecidableEq

def PaidCall.worstCost (call : PaidCall) (pricing : PricingTable ℚ) : Option ℚ :=
  match call.maxTokens with
  | none => none
  | some maxTokens =>
      match pricing.estimate exactNum call.modelAlias (.int novaMicroMaxInputTokens)
          (.int maxTokens) with
      | .ok (some usd) => some (usd * microUsdPerUsd)
      | _ => none

end Pricing

section Calls

/-- Who makes a paid call: the client of Bedrock itself, or the client of the proxy, which reserves
for one fixed model whatever model the call goes to. -/
inductive Caller where
  | bedrock (modelId : String) (maxTokens : Int)
  | litellm (budgetModelId modelAlias : String) (maxTokens : Option Int)
deriving DecidableEq

/-- The model that `_reserve_budget` reserves for. -/
def Caller.reservedModel : Caller → String
  | bedrock modelId _ => modelId
  | litellm budgetModelId _ _ => budgetModelId

def Caller.call : Caller → PaidCall
  | bedrock modelId maxTokens => ⟨modelId, some maxTokens⟩
  | litellm _ modelAlias maxTokens => ⟨modelAlias, maxTokens⟩

def Caller.ofAttempt (budgetModelId : String) (payload : Payload) : Caller :=
  .litellm budgetModelId payload.model payload.maxTokens

/-- `_reserve_budget` -/
def providerError : BedrockBudgetError → LLMProviderError ℚ
  | .exceeded => budgetExhaustedError
  | .unavailable => budgetUnavailableError

structure Allowance where
  table : AllowanceTable := fun _ => none
  authorised : List (String × PaidCall) := []

structure CallAttempt where
  caller : Caller
  month : String
  fate : UpdateFate

def attemptCall (budget : DynamoDBBedrockBudget) (allowance : Allowance) (attempt : CallAttempt) :
    Except (LLMProviderError ℚ) PaidCall × Allowance :=
  match budget.reserve allowance.table attempt.caller.reservedModel attempt.month attempt.fate with
  | (.error error, table) => (.error (providerError error), { allowance with table })
  | (.ok (), table) =>
      (.ok attempt.caller.call,
        { table, authorised := allowance.authorised ++ [(attempt.month, attempt.caller.call)] })

def allowanceMachine (budget : DynamoDBBedrockBudget) : Machine Allowance CallAttempt :=
  { step := fun allowance attempt => some (attemptCall budget allowance attempt).2 }

def Allowance.totalCost (allowance : Allowance) (pricing : PricingTable ℚ) (month : String) : ℚ :=
  ((allowance.authorised.filter fun entry => entry.1 = month).map
    fun entry => (entry.2.worstCost pricing).getD 0).sum

end Calls

end AiAnalytics.App.Bedrock
