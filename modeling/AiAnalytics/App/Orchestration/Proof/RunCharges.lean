import AiAnalytics.App.Orchestration.Proof.BookedLoop
import AiAnalytics.App.Orchestration.Proof.TerminalLoop
import AiAnalytics.App.Orchestration.Proof.TrackerRecords

/-!
# What a run is charged

The tracker sums two costs, the one that is shown and the one that the limit is enforced against. A
call of incomplete usage is charged the price of the largest call the run could have made, and
nothing is asked after a call that has no price. A charge is lost with the rest of a record that
breaks a limit of calls or of tokens, and a first proposal that fails with a known usage is not
charged at all. -/

namespace AiAnalytics.App.Loop

open Lib

variable {Float : Type}

section Prices

variable (cfg : LoopConfig Float)

/-- The price of the largest call the run could have made, if the loop computes it: the usage is
incomplete, no cost was reported, and a table has the model. -/
def boundOf (clients : Option (Clients Float)) (usage : Usage Float) : Option Float :=
  if (clients.map Clients.selfHosted).getD false then none
  else
    match authoritativeCost usage.result, pricedKey cfg clients usage.result usage.modelId with
    | none, some (table, key) =>
        if usage.incomplete then
          (table.price cfg.num key cfg.budgets.maxInputTokens (usage.ceiling cfg.budgets)).toOption
        else none
    | _, _ => none

variable {cfg} {clients : Option (Clients Float)} {usage : Usage Float} {cost : CallCost Float}

theorem callCost_amount {num : NumOps Float} (hnum : num.Ordered) {table : PricingTable Float}
    {key : String} {inputTokens outputTokens maxInput ceiling : Int} {incomplete : Bool}
    (hcost : table.callCost num key inputTokens outputTokens maxInput ceiling incomplete =
      .ok cost) :
    num.le cost.costUsd cost.charge.amount ∧
      (incomplete = true → ∀ bound, table.price num key maxInput ceiling = .ok bound →
        num.le bound cost.charge.amount) := by
  unfold PricingTable.callCost at hcost
  cases hestimate : table.price num key inputTokens outputTokens with
  | error fault =>
      rw [hestimate] at hcost
      cases hcost
  | ok estimate =>
      rw [hestimate] at hcost
      cases incomplete with
      | false =>
          obtain rfl := Except.ok.inj hcost
          exact ⟨hnum.refl _, nofun⟩
      | true =>
          cases hbound : table.price num key maxInput ceiling with
          | error fault =>
              rw [hbound] at hcost
              cases hcost
          | ok bound =>
              rw [hbound] at hcost
              obtain rfl := Except.ok.inj hcost
              refine ⟨hnum.le_larger_left, fun _ _ hsame => ?_⟩
              obtain rfl := Except.ok.inj hsame
              exact hnum.le_larger_right

theorem priceOf_amount (hnum : cfg.num.Ordered) (hprice : priceOf cfg clients usage = .ok cost) :
    cfg.num.le cost.costUsd cost.charge.amount ∧
      ∀ bound, boundOf cfg clients usage = some bound → cfg.num.le bound cost.charge.amount := by
  unfold priceOf at hprice
  unfold boundOf
  split
  case isTrue hself =>
    rw [if_pos hself] at hprice
    obtain rfl := Except.ok.inj hprice
    exact ⟨hnum.refl _, nofun⟩
  case isFalse hbilled =>
    rw [if_neg hbilled] at hprice
    unfold sharedCost at hprice
    cases hreported : authoritativeCost usage.result with
    | some reported =>
        rw [hreported] at hprice
        obtain rfl := Except.ok.inj hprice
        exact ⟨hnum.refl _, nofun⟩
    | none =>
        cases hkey : pricedKey cfg clients usage.result usage.modelId with
        | none =>
            rw [hreported, hkey] at hprice
            obtain rfl := Except.ok.inj hprice
            exact ⟨hnum.refl _, nofun⟩
        | some priced =>
            rw [hreported, hkey] at hprice
            obtain ⟨hshown, hbound⟩ := callCost_amount hnum hprice
            refine ⟨hshown, fun bound hsome => ?_⟩
            simp only [Option.ite_none_right_eq_some] at hsome
            obtain ⟨hincomplete, hsome⟩ := hsome
            cases hlargest : priced.1.price cfg.num priced.2 cfg.budgets.maxInputTokens
              (usage.ceiling cfg.budgets) with
            | error fault =>
                rw [hlargest] at hsome
                cases hsome
            | ok largest =>
                rw [hlargest] at hsome
                obtain rfl := Option.some.inj hsome
                exact hbound hincomplete _ hlargest

end Prices

section Steps

variable {cfg : LoopConfig Float} {books next : Books Float} {entry : Entry Float}

theorem books_of_count {num : NumOps Float} {fmt : PyFormat Float} {inputTokens outputTokens : Int}
    {charge : CallCharge Float} {elapsed : Float × Float}
    (hstep : bookStep num fmt books (.count inputTokens outputTokens charge elapsed) = some next) :
    ∃ phase, next =
      books.record phase (books.tracker.recordLlmCall num fmt inputTokens outputTokens charge
      elapsed) := by
  simp only [bookStep] at hstep
  split at hstep
  · cases hstep
  · exact ⟨_, (Option.some.inj hstep).symm⟩
  · obtain ⟨-, hnext⟩ := Option.ite_none_right_eq_some.mp hstep
    exact ⟨_, (Option.some.inj hnext).symm⟩
  · obtain ⟨-, hnext⟩ := Option.ite_none_right_eq_some.mp hstep
    exact ⟨_, (Option.some.inj hnext).symm⟩
  · cases hstep

theorem sameCosts_of_step {num : NumOps Float} {fmt : PyFormat Float} {step : BookStep Float}
    (hcount : ∀ inputTokens outputTokens charge elapsed,
      step ≠ .count inputTokens outputTokens charge elapsed)
    (hstep : bookStep num fmt books step = some next) : next.tracker.SameCosts books.tracker := by
  cases step with
  | count => exact absurd rfl (hcount _ _ _ _)
  | iterate elapsed =>
      obtain ⟨-, hnext⟩ := Option.ite_none_right_eq_some.mp hstep
      obtain rfl := Option.some.inj hnext
      refine ⟨?_, ?_, ?_⟩ <;> rw [Books.record, recordIteration_tracker]
  | countTool resultBytes elapsed =>
      obtain ⟨-, hnext⟩ := Option.ite_none_right_eq_some.mp hstep
      obtain rfl := Option.some.inj hnext
      refine ⟨?_, ?_, ?_⟩ <;> rw [Books.record, recordToolCall_tracker]
  | list inputTokens outputTokens =>
      simp only [bookStep] at hstep
      split at hstep
      · obtain rfl := Option.some.inj hstep
        exact ⟨rfl, rfl, rfl⟩
      · obtain ⟨-, hnext⟩ := Option.ite_none_right_eq_some.mp hstep
        obtain rfl := Option.some.inj hnext
        exact ⟨rfl, rfl, rfl⟩
      · cases hstep
  | store =>
      obtain rfl := Option.some.inj hstep
      exact ⟨rfl, rfl, rfl⟩
  | _ =>
      obtain ⟨-, hnext⟩ := Option.ite_none_right_eq_some.mp hstep
      obtain rfl := Option.some.inj hnext
      exact ⟨rfl, rfl, rfl⟩

end Steps

section Charges

variable (cfg : LoopConfig Float) (clients : Option (Clients Float))

def Books.Covers (num : NumOps Float) (books : Books Float) : Prop :=
  num.le books.tracker.estimatedCostUsd books.tracker.budgetCostUsd

def ChargesBound (books : Books Float) (entry : Entry Float) : Prop :=
  ∀ usage bound next, entry.usage = some usage → boundOf cfg clients usage = some bound →
    bookStep cfg.num cfg.fmt books entry.step = some next →
    cfg.num.le (cfg.num.add books.tracker.budgetCostUsd bound) next.tracker.budgetCostUsd

def Books.Reaches (books : Books Float) : BookStep Float → Prop
  | .count inputTokens outputTokens _ _ => books.tracker.Reaches inputTokens outputTokens
  | _ => False

/-- A call with a bound is counted within the limits of calls and of tokens, or its bound adds
nothing. -/
def ReachesCost (books : Books Float) (entry : Entry Float) : Prop :=
  ∀ usage bound, entry.usage = some usage → boundOf cfg clients usage = some bound →
    books.Reaches entry.step ∨
      cfg.num.le (cfg.num.add books.tracker.budgetCostUsd bound) books.tracker.budgetCostUsd

def Entry.Unresolvable (entry : Entry Float) : Prop :=
  ∃ usage cost, entry.usage = some usage ∧ priceOf cfg clients usage = .ok cost ∧
    cost.budgetCostUsd = none

/-- In every state of the tracker the sum that the limit is for covers the one that is shown, every
call is charged its bound, and nothing is asked after a call that has no price. -/
structure NeverUnderstates (nextSeq : Int) (entries : List (Entry Float)) : Prop where
  covers : ∀ before after books, entries = before ++ after →
    (entryMachine cfg).run (Books.opened cfg.num cfg.budgets nextSeq) before = some books →
    books.Covers cfg.num
  charges : (entryMachine cfg).Meets (ChargesBound cfg clients)
    (Books.opened cfg.num cfg.budgets nextSeq) entries
  stops : ∀ before entry after, entries = before ++ entry :: after →
    entry.Unresolvable cfg clients → ∀ later ∈ after, ∀ request, later.step ≠ .ask request

variable {cfg} {clients} {books next : Books Float} {entry : Entry Float}

theorem reaches_or_sameCosts {num : NumOps Float} {fmt : PyFormat Float} {step : BookStep Float}
    (hstep : bookStep num fmt books step = some next) :
    (∃ inputTokens outputTokens charge elapsed,
      step = .count inputTokens outputTokens charge elapsed ∧
      books.tracker.Reaches inputTokens outputTokens ∧
      next.tracker = books.tracker.including num inputTokens outputTokens charge) ∨
    ¬ books.Reaches step ∧ next.tracker.SameCosts books.tracker := by
  cases step with
  | count inputTokens outputTokens charge elapsed =>
      obtain ⟨phase, rfl⟩ := books_of_count hstep
      by_cases hreaches : books.tracker.Reaches inputTokens outputTokens
      · left
        refine ⟨inputTokens, outputTokens, charge, elapsed, rfl, hreaches, ?_⟩
        exact recordLlmCall_within hreaches.calls hreaches.input hreaches.output
      · exact .inr ⟨hreaches, recordLlmCall_stops hreaches⟩
  | _ =>
      refine .inr ⟨id, sameCosts_of_step ?_ hstep⟩
      rintro _ _ _ _ ⟨⟩

theorem covers_step (hnum : cfg.num.Ordered) (hcareful : Careful cfg clients books entry)
    (hcovers : books.Covers cfg.num)
    (hstep : bookStep cfg.num cfg.fmt books entry.step = some next) : next.Covers cfg.num := by
  rcases reaches_or_sameCosts hstep with ⟨_, _, charge, _, hcount, -, hnext⟩ | ⟨-, hsame⟩
  · have hpriced := hcareful.priced
    rw [Entry.Priced, hcount] at hpriced
    obtain ⟨usage, cost, -, -, -, hprice, rfl⟩ := hpriced
    rw [Books.Covers, hnext]
    exact hnum.add hcovers (priceOf_amount hnum hprice).1
  · rw [Books.Covers, hsame.estimated, hsame.budget]
    exact hcovers

theorem chargesBound_iff (hnum : cfg.num.Ordered) (hcareful : Careful cfg clients books entry)
    (hstep : bookStep cfg.num cfg.fmt books entry.step = some next) :
    ChargesBound cfg clients books entry ↔ ReachesCost cfg clients books entry := by
  rcases reaches_or_sameCosts hstep with ⟨_, _, charge, _, hcount, hreaches, hnext⟩
    | ⟨hstops, hkept⟩
  · refine iff_of_true ?_ fun _ _ _ _ => .inl (by rw [hcount]; exact hreaches)
    intro usage bound other husage hbound hother
    obtain rfl := Option.some.inj (hstep.symm.trans hother)
    have hpriced := hcareful.priced
    rw [Entry.Priced, hcount] at hpriced
    obtain ⟨_, cost, hentered, -, -, hprice, rfl⟩ := hpriced
    obtain rfl := Option.some.inj (hentered.symm.trans husage)
    rw [hnext]
    exact hnum.add (hnum.refl _) ((priceOf_amount hnum hprice).2 bound hbound)
  · constructor
    · intro hcharges usage bound husage hbound
      have hraised := hcharges usage bound next husage hbound hstep
      rw [hkept.budget] at hraised
      exact .inr hraised
    · intro hreaches usage bound other husage hbound hother
      obtain rfl := Option.some.inj (hstep.symm.trans hother)
      rw [hkept.budget]
      exact (hreaches usage bound husage hbound).resolve_left hstops

theorem reachesCost_of_step (step : BookStep Float) :
    ReachesCost cfg clients books ⟨step, none⟩ := by
  intro usage bound husage
  cases husage

def Books.Stopped (books : Books Float) : Prop :=
  books.phase = .ended ∨ books.tracker.costUnresolvable = true

theorem ended_of_step {num : NumOps Float} {fmt : PyFormat Float} {step : BookStep Float}
    (hended : books.phase = .ended) (hstep : bookStep num fmt books step = some next) :
    next.phase = .ended := by
  cases step with
  | store =>
      obtain rfl := Option.some.inj hstep
      exact hended
  | advance =>
      obtain ⟨-, hnext⟩ := Option.ite_none_right_eq_some.mp hstep
      obtain rfl := Option.some.inj hnext
      exact hended
  | _ =>
      simp only [bookStep, hended] at hstep
      simp at hstep

theorem stopped_step {num : NumOps Float} {fmt : PyFormat Float} {step : BookStep Float}
    (hstopped : books.Stopped) (hstep : bookStep num fmt books step = some next) :
    next.Stopped := by
  rcases hstopped with hended | hunresolvable
  · exact .inl (ended_of_step hended hstep)
  · right
    rcases reaches_or_sameCosts hstep with ⟨_, _, charge, _, -, -, hnext⟩ | ⟨-, hsame⟩
    · rw [hnext, BudgetTracker.including, BudgetTracker.addCost, hunresolvable]
      rfl
    · exact hsame.unresolvable.trans hunresolvable

theorem asks_nothing {entries : List (Entry Float)} {final : Books Float} (hstopped : books.Stopped)
    (hcareful : (entryMachine cfg).Meets (Careful cfg clients) books entries)
    (hrun : (entryMachine cfg).run books entries = some final) :
    ∀ later ∈ entries, ∀ request, later.step ≠ .ask request := by
  induction entries generalizing books with
  | nil =>
      intro later hlater
      cases hlater
  | cons entry entries ih =>
      obtain ⟨next, hstep, hrest⟩ := Machine.run_cons_eq_some_iff.mp hrun
      obtain ⟨hhead, htail⟩ := (Machine.meets_cons_of_step hstep).mp hcareful
      intro later hlater request hask
      rcases List.mem_cons.mp hlater with rfl | hlater
      · rcases hstopped with hended | hunresolvable
        · have hasked : bookStep cfg.num cfg.fmt books later.step = some next := hstep
          rw [hask, bookStep, hended] at hasked
          simp at hasked
        · have hresolved := hhead.resolved request hask
          rw [hunresolvable] at hresolved
          cases hresolved
      · exact ih (stopped_step hstopped hstep) htail hrest later hlater request hask

theorem stopped_of_unresolvable (hcareful : Careful cfg clients books entry)
    (hunresolvable : entry.Unresolvable cfg clients)
    (hstep : bookStep cfg.num cfg.fmt books entry.step = some next) : next.Stopped := by
  obtain ⟨usage, cost, husage, hprice, hnone⟩ := hunresolvable
  have hpriced := hcareful.priced
  unfold Entry.Priced at hpriced
  match hentry : entry.step with
  | .count inputTokens outputTokens charge elapsed =>
      rw [hentry] at hpriced hstep
      obtain ⟨_, _, hentered, -, -, hsame, rfl⟩ := hpriced
      obtain rfl := Option.some.inj (hentered.symm.trans husage)
      obtain rfl := Except.ok.inj (hsame.symm.trans hprice)
      obtain ⟨phase, rfl⟩ := books_of_count hstep
      by_cases hreaches : books.tracker.Reaches inputTokens outputTokens
      · right
        rw [Books.record, recordLlmCall_within hreaches.calls hreaches.input hreaches.output,
          BudgetTracker.including, BudgetTracker.addCost, CallCost.charge, hnone]
        exact Bool.or_true _
      · left
        cases hrecorded : (books.tracker.recordLlmCall cfg.num cfg.fmt inputTokens outputTokens _
          elapsed).1 with
        | ok value =>
            have hfits := recordLlmCall_ok_iff.mp hrecorded
            exact absurd ⟨hfits.calls, hfits.input, hfits.output⟩ hreaches
        | error error =>
            rw [Books.record, hrecorded]
            rfl
  | .listFailed inputTokens outputTokens =>
      rw [hentry] at hstep
      obtain ⟨-, hnext⟩ := Option.ite_none_right_eq_some.mp hstep
      obtain rfl := Option.some.inj hnext
      exact .inl rfl
  | .iterate _ | .ask _ | .list _ _ | .listUnknown | .callTool | .countTool _ _ | .store
    | .advance =>
      rw [hentry] at hpriced
      cases hpriced.symm.trans husage

theorem neverUnderstates_iff (hnum : cfg.num.Ordered) {nextSeq : Int} {entries : List (Entry Float)}
    {final : Books Float}
    (hcareful : (entryMachine cfg).Meets (Careful cfg clients)
      (Books.opened cfg.num cfg.budgets nextSeq) entries)
    (hrun : (entryMachine cfg).run (Books.opened cfg.num cfg.budgets nextSeq) entries =
      some final) :
    NeverUnderstates cfg clients nextSeq entries ↔
      (entryMachine cfg).Meets (ReachesCost cfg clients) (Books.opened cfg.num cfg.budgets nextSeq)
        entries := by
  have hcharges : (entryMachine cfg).Meets (ChargesBound cfg clients) _ entries ↔
      (entryMachine cfg).Meets (ReachesCost cfg clients) _ entries :=
    Machine.meets_congr_of_run (fun _ _ _ hgiven hstep => chargesBound_iff hnum hgiven hstep)
      hcareful hrun
  refine ⟨fun hnever => hcharges.mp hnever.charges, fun hreaches => ⟨?_, hcharges.mpr hreaches, ?_⟩⟩
  · rintro before after books rfl hbefore
    have hmet := ((Machine.meets_append_of_run hbefore).mp hcareful).1
    have hopened : (Books.opened cfg.num cfg.budgets nextSeq).Covers cfg.num := hnum.refl _
    refine Machine.run_invariant_of_meets ?_ hopened hmet hbefore
    exact fun _ _ _ hcovers hgiven hstep => covers_step hnum hgiven hcovers hstep
  · rintro before entry after rfl hunresolvable
    obtain ⟨books, hbefore, hrest⟩ := Machine.run_append_eq_some_iff.mp hrun
    obtain ⟨next, hstep, hafter⟩ := Machine.run_cons_eq_some_iff.mp hrest
    have hmet := ((Machine.meets_append_of_run hbefore).mp hcareful).2
    obtain ⟨hhead, htail⟩ := (Machine.meets_cons_of_step hstep).mp hmet
    exact asks_nothing (stopped_of_unresolvable hhead hunresolvable hstep) htail hafter

end Charges

section Runs

variable {cfg : LoopConfig Float} {messages : List (Message Float)} {nextSeq : Int}
  {log : History Float} {result : Except (LoopError Float) (LoopResult Float)}
  {final : LoopState Float}

/-- **The charges of a run.** Whatever its calls come back with, the records of a run never
understate what it has spent if and only if each call with a bound is counted and reaches its cost,
or its bound adds nothing. -/
theorem run_never_understates_iff (hnum : cfg.num.Ordered)
    (hrun : (executeLoop cfg).Runs (initialState cfg messages nextSeq) log result final)
    (hquoted : Quoted cfg.num log) :
    (∃ entries books, RecordsOf cfg messages nextSeq log final entries books) ∧
      ∀ entries books, RecordsOf cfg messages nextSeq log final entries books →
        (NeverUnderstates cfg final.clients nextSeq entries ↔
          (entryMachine cfg).Meets (ReachesCost cfg final.clients)
            (Books.opened cfg.num cfg.budgets nextSeq) entries) := by
  obtain ⟨entries, ledger, hrecords, -⟩ := exists_records_of_run hrun
  refine ⟨⟨entries, ledger.toBooks, hrecords⟩, fun entries books hrecords => ?_⟩
  exact neverUnderstates_iff hnum (hrecords.careful hquoted)
    (run_map_step.symm.trans hrecords.books.run)

def pricedConfig : LoopConfig ℤ :=
  { sampleConfig with
    num := NumOps.exact ℤ
    budgets := { timeoutSeconds := 60, maxEstimatedCostUsd := 1000000 } }

def pricedClients : Clients ℤ where
  serves := true
  liteLLM := true
  modelId := "taxi-planner"
  pricing := some ⟨"v2", [("taxi-planner", (8, 32))], 1⟩
  streams := true

def unmeasuredProposal (inputTokens : Int) : ToolProposalResult ℤ :=
  { sampleProposal with
    inputTokens, usageKnown := false, modelAlias := some "taxi-planner", outcome := .unsupported }

def pricedReply (inputTokens : Int) : (call : LoopCall ℤ) → LoopReply call
  | .getClients => .ok pricedClients
  | .estimate _ table key input output => table.quote (NumOps.exact ℤ) key input output
  | .proposeTaxiQuery _ _ _ _ => .ok (unmeasuredProposal inputTokens)
  | call => sampleReply (.ok sampleProposal) call

def pricedPlay (inputTokens : Int) :
    History ℤ × Except (LoopError ℤ) (LoopResult ℤ) × LoopState ℤ :=
  (executeLoop pricedConfig).play (fun _ => pricedReply inputTokens)
    (initialState pricedConfig [] 2)

theorem runs_pricedPlay (inputTokens : Int) :
    (executeLoop pricedConfig).Runs (initialState pricedConfig [] 2) (pricedPlay inputTokens).1
      (pricedPlay inputTokens).2.1 (pricedPlay inputTokens).2.2 :=
  Prog.runs_play (executeLoop pricedConfig) (fun _ => pricedReply inputTokens)
    (initialState pricedConfig [] 2)

theorem quoted_pricedPlay (inputTokens : Int) :
    Quoted pricedConfig.num (pricedPlay inputTokens).1 :=
  quoted_play fun _ _ _ _ _ => rfl

def pricedUsage (inputTokens : Int) : Usage ℤ :=
  .ofResult (unmeasuredProposal inputTokens).toModelResult

def pricedCost (inputTokens : Int) : CallCost ℤ where
  costUsd := inputTokens * 8 + 320
  source := .incomplete
  budgetCostUsd := some 288000
  budgetBasis := .conservative

def pricedEntries (inputTokens : Int) : List (Entry ℤ) :=
  [⟨.iterate (0, 0), none⟩, ⟨.ask .proposal, none⟩,
    ⟨.count inputTokens 10 (pricedCost inputTokens).charge (0, 0), some (pricedUsage inputTokens)⟩]

theorem careful_pricedEntries {inputTokens : Int} (after : List (Entry ℤ))
    (hprice : priceOf pricedConfig (some pricedClients) (pricedUsage inputTokens) =
      .ok (pricedCost inputTokens))
    (hafter : ∀ entry ∈ after, ∀ books, Careful pricedConfig (some pricedClients) books entry) :
    (entryMachine pricedConfig).Meets (Careful pricedConfig (some pricedClients))
      (Books.opened pricedConfig.num pricedConfig.budgets 2)
      (pricedEntries inputTokens ++ after) := by
  refine ⟨⟨rfl, nofun⟩, fun begun hbegun => ?_⟩
  obtain rfl := Option.some.inj hbegun
  refine ⟨⟨rfl, fun _ _ => rfl⟩, fun asked hasked => ?_⟩
  refine ⟨⟨⟨_, _, rfl, rfl, rfl, hprice, rfl⟩, nofun⟩, fun counted hcounted => ?_⟩
  exact Machine.meets_of_forall_mem hafter

def declinedEntries : List (Entry ℤ) := [⟨.list 200 10, none⟩, ⟨.store, none⟩]

theorem short_call_charged :
    NeverUnderstates pricedConfig (some pricedClients) 2
      (pricedEntries 200 ++ declinedEntries) := by
  have hcareful : ∀ entry ∈ declinedEntries, ∀ books,
      Careful pricedConfig (some pricedClients) books entry := by
    intro entry hentry books
    rcases List.mem_cons.mp hentry with rfl | hentry
    · exact ⟨rfl, nofun⟩
    · rw [List.mem_singleton.mp hentry]
      exact ⟨rfl, nofun⟩
  have hrecords : RecordsOf pricedConfig [] 2 (pricedPlay 200).1 (pricedPlay 200).2.2
      (pricedEntries 200 ++ declinedEntries) _ :=
    ⟨⟨rfl, ⟨rfl, rfl, rfl, rfl, rfl, rfl⟩, trivial⟩, ⟨[], rfl, Nat.zero_le 1⟩,
      fun _ => careful_pricedEntries declinedEntries rfl hcareful⟩
  obtain ⟨-, hall⟩ :=
    run_never_understates_iff (NumOps.exact_ordered ℤ) (runs_pricedPlay 200) (quoted_pricedPlay 200)
  refine (hall _ _ hrecords).mpr ?_
  refine ⟨reachesCost_of_step _, fun begun hbegun => ?_⟩
  obtain rfl := Option.some.inj hbegun
  refine ⟨reachesCost_of_step _, fun asked hasked => ?_⟩
  obtain rfl := Option.some.inj hasked
  refine ⟨fun _ _ _ _ => .inl ⟨by decide, by decide, by decide⟩, fun counted hcounted => ?_⟩
  refine ⟨reachesCost_of_step _, fun listed hlisted => ⟨reachesCost_of_step _, fun _ _ => ?_⟩⟩
  exact Machine.meets_nil

/-- A call of unknown usage with more input tokens than the run may use: 288000 are due, and nothing
is charged. -/
theorem long_call_uncharged :
    (executeLoop pricedConfig).Runs (initialState pricedConfig [] 2) (pricedPlay 20001).1
        (pricedPlay 20001).2.1 (pricedPlay 20001).2.2 ∧
      boundOf pricedConfig (some pricedClients) (pricedUsage 20001) = some 288000 ∧
      (pricedPlay 20001).2.2.tracker.budgetCostUsd = 0 ∧
      (∃ books, RecordsOf pricedConfig [] 2 (pricedPlay 20001).1 (pricedPlay 20001).2.2
        (pricedEntries 20001) books) ∧
      ¬ NeverUnderstates pricedConfig (some pricedClients) 2 (pricedEntries 20001) := by
  have hrecords : RecordsOf pricedConfig [] 2 (pricedPlay 20001).1 (pricedPlay 20001).2.2
      (pricedEntries 20001) _ :=
    ⟨⟨rfl, ⟨rfl, rfl, rfl, rfl, rfl, rfl⟩, trivial⟩, ⟨[], rfl, Nat.zero_le 1⟩,
      fun _ => careful_pricedEntries [] rfl (List.forall_mem_nil _)⟩
  refine ⟨runs_pricedPlay 20001, rfl, rfl, ⟨_, hrecords⟩, fun hnever => ?_⟩
  have hcharges := hnever.charges
  obtain ⟨-, hcharges⟩ := (Machine.meets_cons_of_step rfl).mp hcharges
  obtain ⟨-, hcharges⟩ := (Machine.meets_cons_of_step rfl).mp hcharges
  have hcharged := hcharges.1 (pricedUsage 20001) 288000 _ rfl rfl rfl
  exact Bool.noConfusion (hcharged : true = false)

end Runs

end AiAnalytics.App.Loop
