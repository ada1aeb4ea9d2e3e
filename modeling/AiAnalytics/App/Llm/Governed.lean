import AiAnalytics.App.Llm.Client

/-!
# The governed client

`LiteLLMClient` puts the model policy around every call of `ServeLLMClient`. What
`RunBudgets.reserve` answers, and the run's ledger at the time of a commit, depend on the other
calls of the run, so each attempt is given them together with the outcome of its request.
-/

namespace AiAnalytics.App

open Lib

variable {Float : Type}

section Policy

inductive Role where
  | classifier
  | planner
  | answer
deriving DecidableEq, Repr

def Role.text : Role → String
  | .classifier => "classifier"
  | .planner => "planner"
  | .answer => "answer"

structure RolePolicy where
  modelAlias : String
  maxTokens : Option Int := none
  fallbacks : List String := []

structure ModelPolicy where
  roles : Role → Option RolePolicy
  tenantAllowlists : List (String × List String) := []

def allTenants : String := "*"

def ModelPolicy.entitled (policy : ModelPolicy) (tenantId modelAlias : String) : Bool :=
  if policy.tenantAllowlists.isEmpty then true
  else
    match policy.tenantAllowlists.lookup tenantId <|> policy.tenantAllowlists.lookup allTenants with
    | none => false
    | some allowed => allowed.contains modelAlias

def ModelPolicy.resolve (policy : ModelPolicy) (role : Role) (tenantId : String) :
    Option RolePolicy := do
  let rp ← policy.roles role
  if policy.entitled tenantId rp.modelAlias then some rp else none

def ModelPolicy.allowedFallbacks (policy : ModelPolicy) (rp : RolePolicy) (tenantId : String) :
    List String :=
  rp.fallbacks.filter fun modelAlias => policy.entitled tenantId modelAlias

end Policy

section Pricing

variable (num : NumOps Float)

structure PricingTable (Float : Type) where
  version : String
  rates : List (String × (Float × Float))
  million : Float

def PricingTable.estimate (pricing : PricingTable Float) (modelAlias : String)
    (inputTokens outputTokens : PyValue Float) : Raising Float (Option Float) :=
  match pricing.rates.lookup modelAlias with
  | none => pure none
  | some rate => do
      let input ← inputTokens.toFloat num
      let output ← outputTokens.toFloat num
      pure (some (num.div (num.add (num.mul input rate.1) (num.mul output rate.2)) pricing.million))

end Pricing

section Ledger

variable (num : NumOps Float)

structure Reservation (Float : Type) where
  tokens : Int
  usd : Option Float

/-- A run's totals. A provider may report its counts as floats, so token totals may be either. -/
structure RunBudgetState (Float : Type) where
  usedTokens : Int ⊕ Float := .inl 0
  usedUsd : Float
  heldTokens : Int := 0
  heldUsd : Float
  calls : Nat := 0
  inputTokens : Int ⊕ Float := .inl 0
  outputTokens : Int ⊕ Float := .inl 0
  incomplete : Bool := false

def addTo (total : Int ⊕ Float) (v : PyValue Float) : Raising Float (Int ⊕ Float) := do
  let sum ← (PyValue.ofNumber total).add num v
  match sum.asNumber with
  | some number => pure number
  | none => .error .typeError

def Reservation.usdOrZero (reservation : Reservation Float) : Float :=
  reservation.usd.getD num.zero

def RunBudgetState.commit (state : RunBudgetState Float) (reservation : Reservation Float)
    (inputTokens outputTokens : PyValue Float) (usd : Option Float) :
    Raising Float (RunBudgetState Float) :=
  let freed := { state with
    heldTokens := state.heldTokens - reservation.tokens
    heldUsd := num.sub state.heldUsd (reservation.usdOrZero num)
    calls := state.calls + 1 }
  if inputTokens.isNone || outputTokens.isNone then do
    let usedTokens ← addTo num freed.usedTokens (.int reservation.tokens)
    pure { freed with
      usedTokens
      usedUsd := num.add freed.usedUsd (reservation.usdOrZero num)
      incomplete := true }
  else do
    let input ← addTo num freed.inputTokens inputTokens
    let output ← addTo num freed.outputTokens outputTokens
    let sum ← inputTokens.add num outputTokens
    let usedTokens ← addTo num freed.usedTokens sum
    pure { freed with
      inputTokens := input
      outputTokens := output
      usedTokens
      usedUsd := num.add freed.usedUsd (usd.getD (reservation.usdOrZero num))
      incomplete := freed.incomplete || usd.isNone }

end Ledger

section Client

variable (rt : PyRuntime Float) (pricing : PricingTable Float)

def Payload.role (payload : Payload) : Role := if payload.hasTools then .planner else .answer

def liteLLMCostFields (costHeader : Option String) (payload : Payload)
    (inputTokens outputTokens : PyValue Float) (known : Bool) :
    Raising Float (CostFields Float) := do
  let fields : CostFields Float :=
    { role := some payload.role.text
      modelAlias := some payload.model
      pricingVersion := some pricing.version
      costKind := some "unknown" }
  match costHeader.bind rt.parseFloat with
  | some billed => pure { fields with costUsd := some billed, costKind := some "billed" }
  | none =>
      if known then
        let estimate ← pricing.estimate rt.num payload.model inputTokens outputTokens
        match estimate with
        | some usd => pure { fields with costUsd := some usd, costKind := some "estimated" }
        | none => pure fields
      else pure fields

def liteLLMClient (answerAlias : String) : Client Float :=
  { modelId := answerAlias
    errorStart := "litellm_proxy"
    costFields := liteLLMCostFields rt pricing }

end Client

section Governed

/-- The answer to a reservation. Calls outside a run reserve nothing; the ledger of a granted one is
that at the time of its commit. -/
inductive ReservationAnswer (Float : Type) where
  | unbound
  | refused
  | granted (reservation : Reservation Float) (ledger : RunBudgetState Float)

structure Attempt (Float : Type) where
  reservation : ReservationAnswer Float
  outcome : HttpOutcome

structure ResultFields (Float α : Type) where
  usageKnown : α → Bool
  inputTokens : α → PyValue Float
  outputTokens : α → PyValue Float
  costUsd : α → Option Float
  withFallback : α → Bool → α

def completionFields : ResultFields Float (LLMResult Float) where
  usageKnown := fun result => result.usageKnown
  inputTokens := fun result => result.inputTokens
  outputTokens := fun result => result.outputTokens
  costUsd := fun result => result.cost.costUsd
  withFallback := fun result used => { result with fallbackUsed := used }

def proposalFields : ResultFields Float (ToolProposalResult Float) where
  usageKnown := fun result => result.usageKnown
  inputTokens := fun result => result.inputTokens
  outputTokens := fun result => result.outputTokens
  costUsd := fun result => result.cost.costUsd
  withFallback := fun result used => { result with fallbackUsed := used }

inductive Settlement (Float : Type) where
  | released (reservation : Reservation Float)
  | committed (ledger : RunBudgetState Float)

variable {α : Type} (num : NumOps Float) (fields : ResultFields Float α)

def settle (result : α) (fallbackUsed : Bool) :
    ReservationAnswer Float → List (Settlement Float) × Raising Float α
  | .granted reservation ledger =>
      let known := fields.usageKnown result
      match ledger.commit num reservation
          (if known then fields.inputTokens result else .none)
          (if known then fields.outputTokens result else .none) (fields.costUsd result) with
      | .ok after => ([.committed after], .ok (fields.withFallback result fallbackUsed))
      | .error error => ([], .error error)
  | _ => ([], .ok (fields.withFallback result fallbackUsed))

def release : ReservationAnswer Float → List (Settlement Float)
  | .granted reservation _ => [.released reservation]
  | _ => []

def runBudgetExhaustedError : LLMProviderError Float :=
  { retryable := false, code := "run_budget_exhausted" }

def modelNotEntitledError : LLMProviderError Float :=
  { retryable := false, code := "model_not_entitled" }

def attemptAlias (call : Payload → HttpOutcome → Raising Float α) (attempt : Attempt Float)
    (payload : Payload) (fallbackUsed : Bool) : List (Settlement Float) × Raising Float α :=
  match attempt.reservation with
  | .refused => ([], raiseProvider runBudgetExhaustedError)
  | answer =>
      match call payload attempt.outcome with
      | .ok result => settle num fields result fallbackUsed answer
      | .error error => (release answer, .error error)

def mayFallBack : PyError (LLMError Float) → Bool
  | .raised (.provider error) =>
      error.retryable && !"bedrock_budget".toList.isPrefixOf error.code.toList
  | _ => false

def governedLoop (call : Payload → HttpOutcome → Raising Float α) (attempts : Nat → Attempt Float)
    (payloadFor : String → Payload) :
    Nat → String → List String → List (Settlement Float) × Raising Float α
  | index, modelAlias, [] =>
      attemptAlias num fields call (attempts index) (payloadFor modelAlias) (0 < index)
  | index, modelAlias, next :: rest =>
      match attemptAlias num fields call (attempts index) (payloadFor modelAlias) (0 < index) with
      | (log, .ok result) => (log, .ok result)
      | (log, .error error) =>
          if mayFallBack error then
            let later := governedLoop call attempts payloadFor (index + 1) next rest
            (log ++ later.1, later.2)
          else (log, .error error)

/-- `payload.get("max_tokens") or rp.max_tokens`, capped by the policy. -/
def cappedTokens (requested cap : Option Int) : Option Int :=
  let chosen := match requested with
    | some n => if n = 0 then cap else some n
    | none => cap
  match chosen, cap with
  | some n, some limit => some (min n limit)
  | _, _ => chosen

def attemptPayload (payload : Payload) (rp : RolePolicy) (modelAlias : String) : Payload :=
  { payload with
    model := modelAlias
    maxTokens := match cappedTokens payload.maxTokens rp.maxTokens with
      | some n => some n
      | none => payload.maxTokens }

def governed (policy : ModelPolicy) (tenantId : String)
    (call : Payload → HttpOutcome → Raising Float α) (attempts : Nat → Attempt Float)
    (payload : Payload) : List (Settlement Float) × Raising Float α :=
  match policy.resolve payload.role tenantId with
  | none => ([], raiseProvider modelNotEntitledError)
  | some rp =>
      governedLoop num fields call attempts (attemptPayload payload rp) 0 rp.modelAlias
        (policy.allowedFallbacks rp tenantId)

end Governed

end AiAnalytics.App
