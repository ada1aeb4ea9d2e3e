import AiAnalytics.App.Llm.Governed
import AiAnalytics.App.ModelPolicy.Budget
import AiAnalytics.Lib.Account
import AiAnalytics.Lib.Counting
import Mathlib.Algebra.Order.Ring.Rat

/-!
# Run budgets do not overshoot

A run's state is two accounts with holds, one of tokens and one of dollars. Over every run of the
budgets' calls each account stays sound for the holds of the run's outstanding reservations, so the
bounds of an account carry over. The amounts must not be negative: the code checks none of them.
-/

namespace AiAnalytics.App.Budget

open Lib

section Accounts

def RunState.tokenAccount (state : RunState) : Account Int :=
  { used := state.usedTokens, held := state.heldTokens }

def RunState.usdAccount (state : RunState) : Account ℚ :=
  { used := state.usedUsd, held := state.heldUsd }

variable {state : RunState} {reservation : Reservation} {inputTokens outputTokens : Option Int}
  {usd : Option ℚ}

def Reservation.spentTokens (reservation : Reservation) :
    Option Int → Option Int → Int
  | some input, some output => input + output
  | _, _ => reservation.tokens

def Reservation.spentUsd (reservation : Reservation) (usd : Option ℚ) :
    Option Int → Option Int → ℚ
  | some _, some _ => usd.getD reservation.usdOrZero
  | _, _ => reservation.usdOrZero

@[simp]
theorem tokenAccount_hold (tokens : Int) :
    (state.hold tokens usd).tokenAccount = state.tokenAccount.hold tokens := rfl

@[simp]
theorem usdAccount_hold (tokens : Int) :
    (state.hold tokens usd).usdAccount = state.usdAccount.hold (usd.getD 0) := rfl

theorem tokenAccount_free :
    (state.free reservation).tokenAccount = state.tokenAccount.free reservation.tokens := rfl

theorem usdAccount_free :
    (state.free reservation).usdAccount = state.usdAccount.free reservation.usdOrZero := rfl

theorem tokenAccount_commit :
    (state.commit reservation inputTokens outputTokens usd).tokenAccount =
      state.tokenAccount.spend reservation.tokens
        (reservation.spentTokens inputTokens outputTokens) := by
  cases inputTokens <;> cases outputTokens <;> rfl

theorem usdAccount_commit :
    (state.commit reservation inputTokens outputTokens usd).usdAccount =
      state.usdAccount.spend reservation.usdOrZero
        (reservation.spentUsd usd inputTokens outputTokens) := by
  cases inputTokens <;> cases outputTokens <;> rfl

theorem spentTokens_bounds (hhold : 0 ≤ reservation.tokens)
    (hcount : ∀ input ∈ inputTokens, ∀ output ∈ outputTokens,
      0 ≤ input + output ∧ input + output ≤ reservation.tokens) :
    0 ≤ reservation.spentTokens inputTokens outputTokens ∧
      reservation.spentTokens inputTokens outputTokens ≤ reservation.tokens := by
  cases inputTokens with
  | none => exact ⟨hhold, le_refl _⟩
  | some input =>
      cases outputTokens with
      | none => exact ⟨hhold, le_refl _⟩
      | some output => exact hcount input rfl output rfl

theorem spentUsd_nonneg (hhold : 0 ≤ reservation.usdOrZero)
    (hcost : ∀ input ∈ inputTokens, ∀ output ∈ outputTokens, ∀ cost ∈ usd, 0 ≤ cost) :
    0 ≤ reservation.spentUsd usd inputTokens outputTokens := by
  cases inputTokens with
  | none => exact hhold
  | some input =>
      cases outputTokens with
      | none => exact hhold
      | some output =>
          cases usd with
          | none => exact hhold
          | some cost => exact hcost input rfl output rfl cost rfl

theorem spentUsd_le (hpriced : reservation.usd.isSome)
    (hcost : ∀ input ∈ inputTokens, ∀ output ∈ outputTokens, ∀ cost ∈ usd,
      ∀ reserved ∈ reservation.usd, cost ≤ reserved) :
    reservation.spentUsd usd inputTokens outputTokens ≤ reservation.usdOrZero := by
  obtain ⟨reserved, hreserved⟩ := Option.isSome_iff_exists.mp hpriced
  have hhold : reservation.usdOrZero = reserved := by rw [Reservation.usdOrZero, hreserved]; rfl
  cases inputTokens with
  | none => exact le_refl _
  | some input =>
      cases outputTokens with
      | none => exact le_refl _
      | some output =>
          cases usd with
          | none => exact le_refl _
          | some cost => exact hhold ▸ hcost input rfl output rfl cost rfl reserved hreserved

variable {maxTokens : Option Int} {maxUsd : Option ℚ} {tokens : Int}

theorem fitsTokens_eq_ok_iff :
    state.fitsTokens maxTokens tokens = .ok () ↔
      ∀ bound ∈ maxTokens, state.usedTokens + state.heldTokens + tokens ≤ bound := by
  cases maxTokens with
  | none => simp [RunState.fitsTokens]
  | some limit => simp [RunState.fitsTokens]

theorem fitsUsd_eq_ok_iff :
    state.fitsUsd maxUsd usd = .ok () ↔
      (maxUsd.isSome → usd.isSome) ∧
        ∀ bound ∈ maxUsd, state.usedUsd + state.heldUsd + usd.getD 0 ≤ bound := by
  cases maxUsd with
  | none => simp [RunState.fitsUsd]
  | some limit =>
      cases usd with
      | none => simp [RunState.fitsUsd]
      | some usd => simp [RunState.fitsUsd]

end Accounts

section Updates

variable {budgets : RunBudgets} {runId other : String} {state : RunState}

@[simp]
theorem state_put_same (runState : Option RunState) :
    (budgets.put runId runState).state runId = runState.getD {} := by
  simp [RunBudgets.put, RunBudgets.state]

theorem state_put_of_ne (runState : Option RunState) (hother : other ≠ runId) :
    (budgets.put runId runState).state other = budgets.state other := by
  simp [RunBudgets.put, RunBudgets.state, hother]

theorem runs_put_isSome (hruns : (budgets.runs other).isSome) :
    ((budgets.put runId (some state)).runs other).isSome := by
  by_cases hother : other = runId
  · simp [RunBudgets.put, hother]
  · simpa [RunBudgets.put, hother] using hruns

theorem state_put_self :
    (budgets.put runId (some (budgets.state runId))).state = budgets.state := by
  funext name
  by_cases hname : name = runId
  · rw [hname, state_put_same]
    rfl
  · exact state_put_of_ne _ hname

end Updates

section GovernedClient

def RunState.asLedger (state : RunState) : RunBudgetState ℚ where
  usedTokens := .inl state.usedTokens
  usedUsd := state.usedUsd
  heldTokens := state.heldTokens
  heldUsd := state.heldUsd
  calls := state.calls
  inputTokens := .inl state.inputTokens
  outputTokens := .inl state.outputTokens
  incomplete := state.incomplete

def ofCount : Option Int → PyValue ℚ
  | none => .none
  | some count => .int count

theorem asLedger_commit {num : NumOps ℚ} (hzero : num.zero = 0) (hadd : num.add = (· + ·))
    (hsub : num.sub = (· - ·)) (state : RunState) (reservation : Reservation)
    (inputTokens outputTokens : Option Int) (usd : Option ℚ) :
    state.asLedger.commit num { tokens := reservation.tokens, usd := reservation.usd }
        (ofCount inputTokens) (ofCount outputTokens) usd =
      .ok (state.commit reservation inputTokens outputTokens usd).asLedger := by
  have hfree : num.sub state.heldUsd (reservation.usd.getD 0) =
      state.heldUsd - reservation.usdOrZero := by
    rw [hsub]
    rfl
  have hspend (amount : ℚ) : num.add state.usedUsd amount = state.usedUsd + amount := by rw [hadd]
  cases inputTokens with
  | none =>
      simp only [RunBudgetState.commit, App.Reservation.usdOrZero, RunState.asLedger, ofCount,
        hfree, hspend, hzero]
      rfl
  | some input =>
      cases outputTokens <;>
        simp only [RunBudgetState.commit, App.Reservation.usdOrZero, RunState.asLedger, ofCount,
          hfree, hspend, hzero] <;>
        rfl

end GovernedClient

section Outstanding

def Granted.tokensHeld (runId : String) (granted : Granted) : Int :=
  if granted.reservation.runId = runId ∧ granted.settled = false then granted.reservation.tokens
  else 0

def Granted.usdHeld (runId : String) (granted : Granted) : ℚ :=
  if granted.reservation.runId = runId ∧ granted.settled = false then
    granted.reservation.usdOrZero
  else 0

def BudgetLedger.outstandingTokens (ledger : BudgetLedger) (runId : String) : Int :=
  (ledger.granted.map (·.tokensHeld runId)).sum

def BudgetLedger.outstandingUsd (ledger : BudgetLedger) (runId : String) : ℚ :=
  (ledger.granted.map (·.usdHeld runId)).sum

@[simp]
theorem Granted.tokensHeld_settle (runId : String) (granted : Granted) :
    granted.settle.tokensHeld runId = 0 := by
  simp [Granted.tokensHeld, Granted.settle]

@[simp]
theorem Granted.usdHeld_settle (runId : String) (granted : Granted) :
    granted.settle.usdHeld runId = 0 := by
  simp [Granted.usdHeld, Granted.settle]

end Outstanding

section Conditions

/-- A reservation is settled once, for no more than it holds, and a run is not forgotten before. -/
def WithinReservation (ledger : BudgetLedger) : BudgetCall → Prop
  | .reserve _ _ _ => True
  | .release id => ∀ entry ∈ ledger.granted[id]?, entry.settled = false
  | .commit id inputTokens outputTokens usd =>
      ∀ entry ∈ ledger.granted[id]?, entry.settled = false ∧
        ∀ input ∈ inputTokens, ∀ output ∈ outputTokens,
          input + output ≤ entry.reservation.tokens ∧
            ∀ cost ∈ usd, ∀ reserved ∈ entry.reservation.usd, cost ≤ reserved
  | .forget runId =>
    ∀ entry ∈ ledger.granted, entry.reservation.runId = runId → entry.settled = true

def BudgetCall.NonNegative : BudgetCall → Prop
  | .reserve _ tokens usd => 0 ≤ tokens ∧ ∀ amount ∈ usd, 0 ≤ amount
  | .commit _ inputTokens outputTokens usd =>
      ∀ input ∈ inputTokens, ∀ output ∈ outputTokens, 0 ≤ input + output ∧ ∀ cost ∈ usd, 0 ≤ cost
  | .release _ | .forget _ => True

structure RunWithin (maxTokens : Option Int) (maxUsd : Option ℚ) (ledger : BudgetLedger)
    (runId : String) : Prop where
  heldTokens : (ledger.budgets.state runId).heldTokens = ledger.outstandingTokens runId
  heldUsd : (ledger.budgets.state runId).heldUsd = ledger.outstandingUsd runId
  tokens_nonneg : 0 ≤ (ledger.budgets.state runId).usedTokens ∧
    0 ≤ (ledger.budgets.state runId).heldTokens
  usd_nonneg : 0 ≤ (ledger.budgets.state runId).usedUsd ∧ 0 ≤ (ledger.budgets.state runId).heldUsd
  tokens_le : ∀ limit ∈ maxTokens,
    (ledger.budgets.state runId).usedTokens + (ledger.budgets.state runId).heldTokens ≤ limit
  usd_le : ∀ limit ∈ maxUsd,
    (ledger.budgets.state runId).usedUsd + (ledger.budgets.state runId).heldUsd ≤ limit

end Conditions

structure Granted.Open (budgets : RunBudgets) (granted : Granted) : Prop where
  entry : (budgets.runs granted.reservation.runId).isSome
  tokens : 0 ≤ granted.reservation.tokens
  usd : 0 ≤ granted.reservation.usdOrZero
  priced : budgets.maxUsd.isSome → granted.reservation.usd.isSome

structure BudgetInv (maxTokens : Option Int) (maxUsd : Option ℚ) (ledger : BudgetLedger) :
    Prop where
  tokenLimit : ledger.budgets.maxTokens = maxTokens
  usdLimit : ledger.budgets.maxUsd = maxUsd
  tokens : ∀ runId, (ledger.budgets.state runId).tokenAccount.Sound maxTokens
    (ledger.outstandingTokens runId)
  usd : ∀ runId, (ledger.budgets.state runId).usdAccount.Sound maxUsd (ledger.outstandingUsd runId)
  granted : ∀ granted ∈ ledger.granted, granted.settled = false → granted.Open ledger.budgets

section Steps

variable {maxTokens : Option Int} {maxUsd : Option ℚ} {ledger next : BudgetLedger}

theorem BudgetInv.nonneg (hinv : BudgetInv maxTokens maxUsd ledger) (runId : String) :
    ∀ granted ∈ ledger.granted, 0 ≤ granted.tokensHeld runId ∧ 0 ≤ granted.usdHeld runId := by
  intro granted hmem
  rw [Granted.tokensHeld, Granted.usdHeld]
  by_cases hopen : granted.reservation.runId = runId ∧ granted.settled = false
  · have hholds := hinv.granted granted hmem hopen.2
    rw [if_pos hopen, if_pos hopen]
    exact ⟨hholds.tokens, hholds.usd⟩
  · rw [if_neg hopen, if_neg hopen]
    exact ⟨le_refl 0, le_refl 0⟩

theorem BudgetInv.budgets_congr (hinv : BudgetInv maxTokens maxUsd ledger) {budgets : RunBudgets}
    (hstate : budgets.state = ledger.budgets.state)
    (hmaxTokens : budgets.maxTokens = ledger.budgets.maxTokens)
    (hmaxUsd : budgets.maxUsd = ledger.budgets.maxUsd)
    (hruns : ∀ runId, (ledger.budgets.runs runId).isSome → (budgets.runs runId).isSome) :
    BudgetInv maxTokens maxUsd { ledger with budgets } := by
  refine ⟨hmaxTokens.trans hinv.tokenLimit, hmaxUsd.trans hinv.usdLimit, fun runId => ?_,
    fun runId => ?_, fun granted hmem hopen => ?_⟩
  · exact hstate ▸ hinv.tokens runId
  · exact hstate ▸ hinv.usd runId
  · have hholds := hinv.granted granted hmem hopen
    exact ⟨hruns _ hholds.entry, hholds.tokens, hholds.usd, fun hlimit =>
      hholds.priced (hmaxUsd ▸ hlimit)⟩

theorem BudgetInv.grant (hinv : BudgetInv maxTokens maxUsd ledger) {runId : String} {tokens : Int}
    {usd : Option ℚ} (htokens : 0 ≤ tokens) (husd : 0 ≤ usd.getD 0)
    (hfitsTokens : ∀ bound ∈ maxTokens, (ledger.budgets.state runId).usedTokens +
      (ledger.budgets.state runId).heldTokens + tokens ≤ bound)
    (hfitsUsd : ∀ bound ∈ maxUsd, (ledger.budgets.state runId).usedUsd +
      (ledger.budgets.state runId).heldUsd + usd.getD 0 ≤ bound)
    (hpriced : maxUsd.isSome → usd.isSome) :
    BudgetInv maxTokens maxUsd
      { budgets := ledger.budgets.put runId (some ((ledger.budgets.state runId).hold tokens usd))
        granted := ledger.granted ++ [{ reservation := { runId, tokens, usd } }] } := by
  refine ⟨hinv.tokenLimit, hinv.usdLimit, fun name => ?_, fun name => ?_, fun granted hmem hopen =>
    ?_⟩
  · by_cases hname : name = runId
    · subst hname
      have hsum := (hinv.tokens name).hold htokens hfitsTokens
      simpa [BudgetLedger.outstandingTokens, Granted.tokensHeld] using hsum
    · have hsame := hinv.tokens name
      rw [← state_put_of_ne (some ((ledger.budgets.state runId).hold tokens usd)) hname] at hsame
      simpa [BudgetLedger.outstandingTokens, Granted.tokensHeld, Ne.symm hname] using hsame
  · by_cases hname : name = runId
    · subst hname
      have hsum := (hinv.usd name).hold husd hfitsUsd
      simpa [BudgetLedger.outstandingUsd, Granted.usdHeld, Reservation.usdOrZero] using hsum
    · have hsame := hinv.usd name
      rw [← state_put_of_ne (some ((ledger.budgets.state runId).hold tokens usd)) hname] at hsame
      simpa [BudgetLedger.outstandingUsd, Granted.usdHeld, Ne.symm hname] using hsame
  · rcases List.mem_append.mp hmem with hold | hnew
    · have hholds := hinv.granted granted hold hopen
      exact ⟨runs_put_isSome hholds.entry, hholds.tokens, hholds.usd, hholds.priced⟩
    · obtain rfl := List.mem_singleton.mp hnew
      refine ⟨by simp [RunBudgets.put], htokens, husd, fun hlimit => ?_⟩
      exact hpriced (hinv.usdLimit ▸ hlimit)

theorem BudgetInv.refuse (hinv : BudgetInv maxTokens maxUsd ledger) (runId : String) :
    BudgetInv maxTokens maxUsd
      { ledger with budgets := ledger.budgets.put runId (some (ledger.budgets.state runId)) } := by
  apply hinv.budgets_congr state_put_self rfl rfl
  intro name hruns
  exact runs_put_isSome hruns

theorem BudgetInv.reserve (hinv : BudgetInv maxTokens maxUsd ledger) {runId : String} {tokens : Int}
    {usd : Option ℚ} (hcall : (BudgetCall.reserve runId tokens usd).NonNegative)
    (hstep : budgetStep ledger (.reserve runId tokens usd) = some next) :
    BudgetInv maxTokens maxUsd next := by
  simp only [budgetStep, RunBudgets.reserve] at hstep
  cases hfitsTokens : (ledger.budgets.state runId).fitsTokens ledger.budgets.maxTokens tokens with
  | error message =>
      simp only [hfitsTokens, Option.some.injEq] at hstep
      exact hstep ▸ hinv.refuse runId
  | ok =>
      cases hfitsUsd : (ledger.budgets.state runId).fitsUsd ledger.budgets.maxUsd usd with
      | error message =>
          simp only [hfitsTokens, hfitsUsd, Option.some.injEq] at hstep
          exact hstep ▸ hinv.refuse runId
      | ok =>
          simp only [hfitsTokens, hfitsUsd, Option.some.injEq] at hstep
          rw [hinv.tokenLimit, fitsTokens_eq_ok_iff] at hfitsTokens
          rw [hinv.usdLimit, fitsUsd_eq_ok_iff] at hfitsUsd
          have husd : 0 ≤ usd.getD 0 := by
            cases usd with
            | none => exact le_refl 0
            | some amount => exact hcall.2 amount rfl
          exact hstep ▸ hinv.grant hcall.1 husd hfitsTokens hfitsUsd.2 hfitsUsd.1

theorem BudgetInv.settle (hinv : BudgetInv maxTokens maxUsd ledger) {id : Nat} {entry : Granted}
    (hget : ledger.granted[id]? = some entry) (hopen : entry.settled = false) {state : RunState}
    (htokens : state.tokenAccount.Sound maxTokens
      (ledger.outstandingTokens entry.reservation.runId - entry.reservation.tokens))
    (husd : state.usdAccount.Sound maxUsd
      (ledger.outstandingUsd entry.reservation.runId - entry.reservation.usdOrZero)) :
    BudgetInv maxTokens maxUsd
      { budgets := ledger.budgets.put entry.reservation.runId (some state)
        granted := ledger.granted.modify id Granted.settle } := by
  have hheldTokens (name : String) :
      BudgetLedger.outstandingTokens
        { budgets := ledger.budgets.put entry.reservation.runId (some state)
          granted := ledger.granted.modify id Granted.settle } name =
      ledger.outstandingTokens name - entry.tokensHeld name := by
    rw [BudgetLedger.outstandingTokens, sum_map_modify_of_getElem? hget, Granted.tokensHeld_settle,
      add_zero, BudgetLedger.outstandingTokens]
  have hheldUsd (name : String) :
      BudgetLedger.outstandingUsd
        { budgets := ledger.budgets.put entry.reservation.runId (some state)
          granted := ledger.granted.modify id Granted.settle } name =
      ledger.outstandingUsd name - entry.usdHeld name := by
    rw [BudgetLedger.outstandingUsd, sum_map_modify_of_getElem? hget, Granted.usdHeld_settle,
      add_zero, BudgetLedger.outstandingUsd]
  refine ⟨hinv.tokenLimit, hinv.usdLimit, fun name => ?_, fun name => ?_,
    fun granted hmem hunsettled => ?_⟩
  · rw [hheldTokens name]
    by_cases hname : name = entry.reservation.runId
    · subst hname
      simpa [Granted.tokensHeld, hopen] using htokens
    · rw [state_put_of_ne _ hname, Granted.tokensHeld, if_neg fun hand => hname hand.1.symm,
        sub_zero]
      exact hinv.tokens name
  · rw [hheldUsd name]
    by_cases hname : name = entry.reservation.runId
    · subst hname
      simpa [Granted.usdHeld, hopen] using husd
    · rw [state_put_of_ne _ hname, Granted.usdHeld, if_neg fun hand => hname hand.1.symm, sub_zero]
      exact hinv.usd name
  · obtain ⟨old, hold, hsame | hsettled⟩ := exists_mem_of_mem_modify hmem
    · subst hsame
      have hholds := hinv.granted granted hold hunsettled
      exact ⟨runs_put_isSome hholds.entry, hholds.tokens, hholds.usd, hholds.priced⟩
    · rw [hsettled] at hunsettled
      cases hunsettled

theorem BudgetInv.le_outstanding (hinv : BudgetInv maxTokens maxUsd ledger) {id : Nat}
    {entry : Granted} (hget : ledger.granted[id]? = some entry) (hopen : entry.settled = false) :
    entry.reservation.tokens ≤ ledger.outstandingTokens entry.reservation.runId ∧
      entry.reservation.usdOrZero ≤ ledger.outstandingUsd entry.reservation.runId := by
  have htokens := le_sum_map_of_getElem? hget fun granted hmem =>
    (hinv.nonneg entry.reservation.runId granted hmem).1
  have husd := le_sum_map_of_getElem? hget fun granted hmem =>
    (hinv.nonneg entry.reservation.runId granted hmem).2
  rw [Granted.tokensHeld, if_pos ⟨rfl, hopen⟩] at htokens
  rw [Granted.usdHeld, if_pos ⟨rfl, hopen⟩] at husd
  exact ⟨htokens, husd⟩

theorem settle_eq_some_iff {id : Nat} {budgets : Reservation → Option RunBudgets}
    (change : Reservation → RunState → RunState)
    (hbudgets : ∀ reservation, budgets reservation = (ledger.budgets.runs reservation.runId).map
      fun state => ledger.budgets.put reservation.runId (some (change reservation state))) :
    ledger.settle id budgets = some next ↔
      ∃ entry, ledger.granted[id]? = some entry ∧
        (ledger.budgets.runs entry.reservation.runId).isSome ∧
          next = { budgets := ledger.budgets.put entry.reservation.runId
                    (some (change entry.reservation (ledger.budgets.state entry.reservation.runId)))
                   granted := ledger.granted.modify id Granted.settle } := by
  simp only [BudgetLedger.settle, hbudgets, Option.bind_eq_bind, Option.bind_eq_some_iff,
    Option.map_eq_some_iff, Option.isSome_iff_exists]
  constructor
  · rintro ⟨entry, hget, budgets, ⟨state, hruns, rfl⟩, hnext⟩
    have hstate : ledger.budgets.state entry.reservation.runId = state := by
      rw [RunBudgets.state, hruns]; rfl
    exact ⟨entry, hget, ⟨state, hruns⟩, hstate ▸ (Option.some.inj hnext).symm⟩
  · rintro ⟨entry, hget, ⟨state, hruns⟩, rfl⟩
    have hstate : ledger.budgets.state entry.reservation.runId = state := by
      rw [RunBudgets.state, hruns]; rfl
    exact ⟨entry, hget, _, ⟨state, hruns, rfl⟩, by rw [hstate]⟩

theorem BudgetInv.release (hinv : BudgetInv maxTokens maxUsd ledger) {id : Nat}
    (hcall : WithinReservation ledger (.release id))
    (hstep : budgetStep ledger (.release id) = some next) : BudgetInv maxTokens maxUsd next := by
  obtain ⟨entry, hget, -, rfl⟩ :=
    (settle_eq_some_iff (fun reservation state => state.free reservation) fun _ => rfl).mp hstep
  have hopen := hcall entry hget
  have hholds := hinv.granted entry (List.mem_of_getElem? hget) hopen
  obtain ⟨htokens, husd⟩ := hinv.le_outstanding hget hopen
  apply hinv.settle hget hopen
  · rw [tokenAccount_free]
    exact (hinv.tokens _).free hholds.tokens htokens
  · rw [usdAccount_free]
    exact (hinv.usd _).free hholds.usd husd

theorem BudgetInv.commit (hinv : BudgetInv maxTokens maxUsd ledger) {id : Nat}
    {inputTokens outputTokens : Option Int} {usd : Option ℚ}
    (hwithin : WithinReservation ledger (.commit id inputTokens outputTokens usd))
    (hnonneg : (BudgetCall.commit id inputTokens outputTokens usd).NonNegative)
    (hstep : budgetStep ledger (.commit id inputTokens outputTokens usd) = some next) :
    BudgetInv maxTokens maxUsd next := by
  obtain ⟨entry, hget, -, rfl⟩ :=
    (settle_eq_some_iff
      (fun reservation state => state.commit reservation inputTokens outputTokens usd)
      fun _ => rfl).mp hstep
  obtain ⟨hopen, hless⟩ := hwithin entry hget
  have hholds := hinv.granted entry (List.mem_of_getElem? hget) hopen
  obtain ⟨htokens, husd⟩ := hinv.le_outstanding hget hopen
  have hspent := spentTokens_bounds hholds.tokens fun input hinput output houtput =>
    ⟨(hnonneg input hinput output houtput).1, (hless input hinput output houtput).1⟩
  apply hinv.settle hget hopen
  · rw [tokenAccount_commit]
    exact (hinv.tokens _).spend hspent.1 htokens fun _ => hspent.2
  · rw [usdAccount_commit]
    refine (hinv.usd _).spend (spentUsd_nonneg hholds.usd ?_) husd fun hlimit => ?_
    · intro input hinput output houtput
      exact (hnonneg input hinput output houtput).2
    · apply spentUsd_le (hholds.priced (hinv.usdLimit ▸ hlimit))
      intro input hinput output houtput
      exact (hless input hinput output houtput).2

theorem BudgetInv.forget (hinv : BudgetInv maxTokens maxUsd ledger) {runId : String}
    (hcall : WithinReservation ledger (.forget runId))
    (hstep : budgetStep ledger (.forget runId) = some next) : BudgetInv maxTokens maxUsd next := by
  obtain rfl := Option.some.inj hstep
  have hnothing : ledger.outstandingTokens runId = 0 ∧ ledger.outstandingUsd runId = 0 := by
    refine ⟨List.sum_eq_zero fun amount hmem => ?_, List.sum_eq_zero fun amount hmem => ?_⟩
    all_goals
      obtain ⟨granted, hgranted, rfl⟩ := List.mem_map.mp hmem
      have hsettled := hcall granted hgranted
    · exact if_neg fun hand => by simp [hsettled hand.1] at hand
    · exact if_neg fun hand => by simp [hsettled hand.1] at hand
  refine ⟨hinv.tokenLimit, hinv.usdLimit, fun name => ?_, fun name => ?_,
    fun granted hmem hopen => ?_⟩
  · by_cases hname : name = runId
    · subst hname
      rw [RunBudgets.forget, state_put_same]
      change Account.Sound maxTokens (ledger.outstandingTokens name) _
      rw [hnothing.1]
      exact Account.sound_empty
    · rw [RunBudgets.forget, state_put_of_ne _ hname]
      exact hinv.tokens name
  · by_cases hname : name = runId
    · subst hname
      rw [RunBudgets.forget, state_put_same]
      change Account.Sound maxUsd (ledger.outstandingUsd name) _
      rw [hnothing.2]
      exact Account.sound_empty
    · rw [RunBudgets.forget, state_put_of_ne _ hname]
      exact hinv.usd name
  · have hholds := hinv.granted granted hmem hopen
    have hname : granted.reservation.runId ≠ runId := fun hname => by
      rw [hcall granted hmem hname] at hopen
      cases hopen
    refine ⟨?_, hholds.tokens, hholds.usd, hholds.priced⟩
    simpa [RunBudgets.forget, RunBudgets.put, hname] using hholds.entry

end Steps

section Runs

variable {maxTokens : Option Int} {maxUsd : Option ℚ} {ledger next final : BudgetLedger}
  {call : BudgetCall} {calls : List BudgetCall}

def BudgetLedger.fresh (maxTokens : Option Int) (maxUsd : Option ℚ) : BudgetLedger :=
  { budgets := { maxTokens, maxUsd } }

theorem budgetInv_fresh : BudgetInv maxTokens maxUsd (.fresh maxTokens maxUsd) where
  tokenLimit := rfl
  usdLimit := rfl
  tokens _ := Account.sound_empty
  usd _ := Account.sound_empty
  granted _ hmem := absurd hmem List.not_mem_nil

theorem BudgetInv.step (hinv : BudgetInv maxTokens maxUsd ledger)
    (hcall : WithinReservation ledger call ∧ call.NonNegative)
    (hstep : budgetStep ledger call = some next) : BudgetInv maxTokens maxUsd next := by
  cases call with
  | reserve => exact hinv.reserve hcall.2 hstep
  | release => exact hinv.release hcall.1 hstep
  | commit => exact hinv.commit hcall.1 hcall.2 hstep
  | forget => exact hinv.forget hcall.1 hstep

theorem BudgetInv.run
    (hmeets :
      budgetMachine.Meets (fun ledger call => WithinReservation ledger call ∧ call.NonNegative)
      ledger calls)
    (hinv : BudgetInv maxTokens maxUsd ledger)
    (hrun : budgetMachine.run ledger calls = some final) : BudgetInv maxTokens maxUsd final :=
  Machine.run_invariant_of_meets (fun _ _ _ hinv hcall hstep => hinv.step hcall hstep) hinv hmeets
    hrun

theorem BudgetInv.runWithin (hinv : BudgetInv maxTokens maxUsd ledger) (runId : String) :
    RunWithin (maxTokens.map (max 0)) (maxUsd.map (max 0)) ledger runId := by
  have htokens := hinv.tokens runId
  have husd := hinv.usd runId
  refine ⟨htokens.held, husd.held, ⟨htokens.used_nonneg, htokens.held_nonneg⟩,
    ⟨husd.used_nonneg, husd.held_nonneg⟩, fun limit hlimit => ?_, fun limit hlimit => ?_⟩
  · obtain ⟨bound, hbound, rfl⟩ := Option.map_eq_some_iff.mp hlimit
    exact htokens.within bound hbound
  · obtain ⟨bound, hbound, rfl⟩ := Option.map_eq_some_iff.mp hlimit
    exact husd.within bound hbound

/-- Whatever calls any number of runs make, in any order: if no amount is negative, nothing is
settled twice, forgotten early or committed beyond its reservation, then every run's holds are those
of its outstanding reservations and every run stays within the limits. -/
theorem run_budgets_never_overshoot
    (hmeets :
      budgetMachine.Meets (fun ledger call => WithinReservation ledger call ∧ call.NonNegative)
      (.fresh maxTokens maxUsd) calls)
    (hrun : budgetMachine.run (.fresh maxTokens maxUsd) calls = some ledger) (runId : String) :
    RunWithin (maxTokens.map (max 0)) (maxUsd.map (max 0)) ledger runId :=
  (BudgetInv.run hmeets budgetInv_fresh hrun).runWithin runId

def overlappingCalls : List BudgetCall :=
  [.reserve "r" 6 (some 2), .reserve "r" 4 (some 3), .commit 0 (some 1) (some 2) (some 1),
    .commit 1 none none none]

theorem run_budgets_never_overshoot_overlapping :
    ∃ ledger, budgetMachine.run (.fresh (some 10) (some 5)) overlappingCalls = some ledger ∧
      RunWithin ((some 10).map (max 0)) ((some 5).map (max 0)) ledger "r" := by
  have hrun : ∃ ledger,
      budgetMachine.run (.fresh (some 10) (some 5)) overlappingCalls = some ledger := by
    norm_num [overlappingCalls, Machine.run, budgetMachine, budgetStep, BudgetLedger.fresh,
      RunBudgets.reserve, RunBudgets.state, RunBudgets.put, RunState.fitsTokens, RunState.fitsUsd,
      RunState.hold, BudgetLedger.settle, RunBudgets.commit]
  have hmeets : budgetMachine.Meets
      (fun ledger call => WithinReservation ledger call ∧ call.NonNegative)
      (.fresh (some 10) (some 5)) overlappingCalls := by
    norm_num [overlappingCalls, Machine.Meets, budgetMachine, budgetStep, BudgetLedger.fresh,
      RunBudgets.reserve, RunBudgets.state, RunBudgets.put, RunState.fitsTokens, RunState.fitsUsd,
      RunState.hold, BudgetLedger.settle, RunBudgets.commit, WithinReservation,
      BudgetCall.NonNegative]
    simp
  obtain ⟨ledger, hrun⟩ := hrun
  exact ⟨ledger, hrun, run_budgets_never_overshoot hmeets hrun "r"⟩

/-- Without a condition on the sign of the amounts a hold may be negative, as may what is spent, and
a negative limit is overshot by a run that was refused. -/
theorem negative_amounts_overshoot :
    (∃ ledger, budgetMachine.Meets WithinReservation (.fresh (some 10) none)
      [.reserve "r" (-5) none] ∧
      budgetMachine.run (.fresh (some 10) none) [.reserve "r" (-5) none] = some ledger ∧
      ¬RunWithin (some 10) none ledger "r") ∧
    (∃ ledger, budgetMachine.Meets WithinReservation (.fresh (some 10) none)
        [.reserve "r" 5 none, .commit 0 (some (-3)) (some 1) none] ∧
      budgetMachine.run (.fresh (some 10) none)
        [.reserve "r" 5 none, .commit 0 (some (-3)) (some 1) none] = some ledger ∧
      ¬RunWithin (some 10) none ledger "r") ∧
    ∃ ledger, budgetMachine.Meets WithinReservation (.fresh (some (-1)) none)
      [.reserve "r" 1 none] ∧
      budgetMachine.run (.fresh (some (-1)) none) [.reserve "r" 1 none] = some ledger ∧
      ¬RunWithin (some (-1)) none ledger "r" := by
  refine ⟨⟨_, ⟨trivial, fun _ _ => trivial⟩, rfl, fun hwithin => ?_⟩,
    ⟨_, ?_, rfl, fun hwithin => ?_⟩, ⟨_, ⟨trivial, fun _ _ => trivial⟩, rfl, fun hwithin => ?_⟩⟩
  · exact absurd hwithin.tokens_nonneg.2 (by decide)
  · refine ⟨trivial, fun ledger hfirst => ?_⟩
    obtain rfl := Option.some.inj hfirst
    refine ⟨fun entry hentry => ?_, fun _ _ => trivial⟩
    obtain rfl := Option.some.inj hentry
    simp
  · exact absurd hwithin.tokens_nonneg.1 (by decide)
  · exact absurd (hwithin.tokens_le (-1) rfl) (by decide)

end Runs

end AiAnalytics.App.Budget
