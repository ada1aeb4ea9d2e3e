import AiAnalytics.App.Orchestration.Proof.BookedLoop
import AiAnalytics.App.Orchestration.Proof.TrackerRecords
import AiAnalytics.App.Orchestration.Proof.TerminalLoop

/-!
# The token totals and the list of calls

The tracker's totals and the list of calls agree while every call is both counted and listed. A call
is in one ledger only if a limit breaks between the two writes, or if a failed proposal is listed
without being counted. `Settles` says of a step, from the totals before it, that neither happens to
any tokens. -/

namespace AiAnalytics.App.Loop

open Lib

variable {Float : Type} {num : NumOps Float} {fmt : PyFormat Float}

section Records

variable {tracker : BudgetTracker Float} {inputTokens outputTokens : Int}
  {charge : CallCharge Float} {elapsed : Float × Float}

def Admits (num : NumOps Float) (tracker : BudgetTracker Float) (inputTokens outputTokens : Int)
    (charge : CallCharge Float) (elapsed : Float × Float) : Prop :=
  tracker.llmCallCount + 1 ≤ tracker.budgets.maxLlmCalls ∧
    tracker.inputTokens + inputTokens ≤ tracker.budgets.maxInputTokens ∧
    tracker.outputTokens + outputTokens ≤ tracker.budgets.maxOutputTokens ∧
    num.gt (num.add tracker.budgetCostUsd (charge.budgetCostUsd.getD charge.estimatedCostUsd))
      tracker.budgets.maxEstimatedCostUsd = false ∧
    num.gt elapsed.1 tracker.budgets.timeoutSeconds = false

theorem recordLlmCall_cases (num : NumOps Float) (fmt : PyFormat Float)
    (tracker : BudgetTracker Float) (inputTokens outputTokens : Int) (charge : CallCharge Float)
    (elapsed : Float × Float) :
    let recorded := tracker.recordLlmCall num fmt inputTokens outputTokens charge elapsed
    (tracker.budgets.maxLlmCalls < tracker.llmCallCount + 1 ∧ (∃ error, recorded.1 = .error error) ∧
      recorded.2.inputTokens = tracker.inputTokens ∧
      recorded.2.outputTokens = tracker.outputTokens) ∨
    (tracker.llmCallCount + 1 ≤ tracker.budgets.maxLlmCalls ∧
      tracker.budgets.maxInputTokens < tracker.inputTokens + inputTokens ∧
      (∃ error, recorded.1 = .error error) ∧
      recorded.2.inputTokens = tracker.inputTokens + inputTokens ∧
      recorded.2.outputTokens = tracker.outputTokens) ∨
    (tracker.llmCallCount + 1 ≤ tracker.budgets.maxLlmCalls ∧
      tracker.inputTokens + inputTokens ≤ tracker.budgets.maxInputTokens ∧
      ((∃ error, recorded.1 = .error error) ∧
          ¬ Admits num tracker inputTokens outputTokens charge elapsed ∨
        recorded.1 = .ok () ∧ Admits num tracker inputTokens outputTokens charge elapsed) ∧
      recorded.2.inputTokens = tracker.inputTokens + inputTokens ∧
      recorded.2.outputTokens = tracker.outputTokens + outputTokens) := by
  by_cases hcalls : tracker.llmCallCount + 1 ≤ tracker.budgets.maxLlmCalls
  · by_cases hinput : tracker.inputTokens + inputTokens ≤ tracker.budgets.maxInputTokens
    · right; right
      refine ⟨hcalls, hinput, ?_⟩
      by_cases houtput : tracker.outputTokens + outputTokens ≤ tracker.budgets.maxOutputTokens
      · by_cases hcost : num.gt
            (num.add tracker.budgetCostUsd (charge.budgetCostUsd.getD charge.estimatedCostUsd))
            tracker.budgets.maxEstimatedCostUsd = true
        · simp [BudgetTracker.recordLlmCall, Admits, BudgetTracker.addCost, not_lt.mpr hcalls,
            not_lt.mpr hinput, not_lt.mpr houtput, hcost]
        · by_cases htime : num.gt elapsed.1 tracker.budgets.timeoutSeconds = true
          · simp [BudgetTracker.recordLlmCall, Admits, BudgetTracker.addCost,
              BudgetTracker.checkDeadline, not_lt.mpr hcalls, not_lt.mpr hinput, not_lt.mpr houtput,
              hcost, htime]
          · simp [BudgetTracker.recordLlmCall, Admits, BudgetTracker.addCost,
              BudgetTracker.checkDeadline, not_lt.mpr hcalls, not_lt.mpr hinput, not_lt.mpr houtput,
              hcalls, hinput, houtput, hcost, htime]
      · simp [BudgetTracker.recordLlmCall, Admits, not_lt.mpr hcalls, not_lt.mpr hinput,
          not_le.mp houtput, houtput]
    · right; left
      simp [BudgetTracker.recordLlmCall, not_lt.mpr hcalls, not_le.mp hinput, hcalls]
  · left
    simp [BudgetTracker.recordLlmCall, not_le.mp hcalls]

end Records

section Ledgers

def Books.listedInput (books : Books Float) : Int :=
  (books.listed.map fun call => call.1.getD 0).sum

def Books.listedOutput (books : Books Float) : Int :=
  (books.listed.map fun call => call.2.getD 0).sum

@[simp]
theorem listedInput_list (books : Books Float) (input output : Option Int) (next : BookPhase) :
    (books.list input output next).listedInput = books.listedInput + input.getD 0 := by
  simp [Books.listedInput, Books.list]

@[simp]
theorem listedOutput_list (books : Books Float) (input output : Option Int) (next : BookPhase) :
    (books.list input output next).listedOutput = books.listedOutput + output.getD 0 := by
  simp [Books.listedOutput, Books.list]

@[simp]
theorem record_tracker (books : Books Float) (next : BookPhase)
    (outcome : Except (BudgetExceededError Float) Unit × BudgetTracker Float) :
    (books.record next outcome).tracker = outcome.2 := rfl

@[simp]
theorem record_phase (books : Books Float) (next : BookPhase)
    (outcome : Except (BudgetExceededError Float) Unit × BudgetTracker Float) :
    (books.record next outcome).phase = phaseAfter next outcome.1 := rfl

@[simp]
theorem list_tracker (books : Books Float) (input output : Option Int) (next : BookPhase) :
    (books.list input output next).tracker = books.tracker := rfl

@[simp]
theorem list_phase (books : Books Float) (input output : Option Int) (next : BookPhase) :
    (books.list input output next).phase = next := rfl

@[simp]
theorem listedInput_record (books : Books Float) (next : BookPhase)
    (outcome : Except (BudgetExceededError Float) Unit × BudgetTracker Float) :
    (books.record next outcome).listedInput = books.listedInput := rfl

@[simp]
theorem listedOutput_record (books : Books Float) (next : BookPhase)
    (outcome : Except (BudgetExceededError Float) Unit × BudgetTracker Float) :
    (books.record next outcome).listedOutput = books.listedOutput := rfl

def BookPhase.ahead : BookPhase → Int × Int
  | .counted input output => (input, output)
  | .listed input output => (-input, -output)
  | _ => (0, 0)

def Books.Balanced (books : Books Float) : Prop :=
  books.tracker.inputTokens = books.listedInput + books.phase.ahead.1 ∧
    books.tracker.outputTokens = books.listedOutput + books.phase.ahead.2

def Books.Checked (books : Books Float) : Prop :=
  match books.phase with
  | .awaiting .crew | .listed _ _ =>
      books.tracker.llmCallCount + 1 ≤ books.tracker.budgets.maxLlmCalls
  | _ => True

/-- The step leaves no tokens in one ledger only. A counted call is listed next if it breaks no
limit; if it breaks one, what of it was added depends on which. A listed call of the agent strategy
is not added as a whole if it breaks the limit of input tokens. A failed proposal is listed without
being counted. -/
def Settles (num : NumOps Float) (books : Books Float) : BookStep Float → Prop
  | .count inputTokens outputTokens charge elapsed =>
      match books.phase with
      | .awaiting _ =>
          Admits num books.tracker inputTokens outputTokens charge elapsed ∨
            books.tracker.budgets.maxLlmCalls < books.tracker.llmCallCount + 1 ∨
            inputTokens = 0 ∧ (outputTokens = 0 ∨
              books.tracker.budgets.maxInputTokens < books.tracker.inputTokens + inputTokens)
      | .listed _ _ =>
          books.tracker.inputTokens + inputTokens ≤ books.tracker.budgets.maxInputTokens ∨
            outputTokens = 0
      | _ => True
  | .listFailed inputTokens outputTokens => inputTokens = 0 ∧ outputTokens = 0
  | _ => True

def Books.Agree (books : Books Float) : Prop :=
  books.tracker.inputTokens = books.listedInput ∧ books.tracker.outputTokens = books.listedOutput

def LedgerInv (met : Prop) (books : Books Float) : Prop :=
  if books.phase = .ended then met ↔ books.Agree else met ∧ books.Balanced ∧ books.Checked

theorem ledgerInv_of_ended {met : Prop} {books : Books Float} (hphase : books.phase = .ended)
    (hmet : met ↔ books.Agree) : LedgerInv met books := by
  rw [LedgerInv, if_pos hphase]
  exact hmet

theorem ledgerInv_of_open {met : Prop} {books : Books Float} (hphase : books.phase ≠ .ended)
    (hmet : met) (hbalanced : books.Balanced) (hchecked : books.Checked) : LedgerInv met books := by
  rw [LedgerInv, if_neg hphase]
  exact ⟨hmet, hbalanced, hchecked⟩

theorem LedgerInv.of_open {met : Prop} {books : Books Float} (hinv : LedgerInv met books)
    (hphase : books.phase ≠ .ended) : met ∧ books.Balanced ∧ books.Checked := by
  rw [LedgerInv, if_neg hphase] at hinv
  exact hinv

variable {met : Prop} {books next : Books Float}

theorem ledgerInv_record {outcome : Except (BudgetExceededError Float) Unit × BudgetTracker Float}
    (hphase : books.phase = .idle) (hinv : LedgerInv met books)
    (hinput : outcome.2.inputTokens = books.tracker.inputTokens)
    (houtput : outcome.2.outputTokens = books.tracker.outputTokens) :
    LedgerInv (met ∧ True) (books.record .idle outcome) := by
  obtain ⟨hmet, ⟨hin, hout⟩, -⟩ := hinv.of_open (by simp [hphase])
  simp only [hphase, BookPhase.ahead, add_zero] at hin hout
  cases hresult : outcome.1 with
  | ok _ =>
      apply ledgerInv_of_open
      · simp [hresult, phaseAfter]
      · exact ⟨hmet, trivial⟩
      · simp [Books.Balanced, hresult, phaseAfter, BookPhase.ahead, hinput, houtput, hin, hout]
      · simp [Books.Checked, hresult, phaseAfter]
  | error error =>
      apply ledgerInv_of_ended
      · simp [hresult, phaseAfter]
      · apply iff_of_true ⟨hmet, trivial⟩
        simp [Books.Agree, hinput, houtput, hin, hout]

theorem ledgerInv_count {request : LlmRequest} {inputTokens outputTokens : Int}
    {charge : CallCharge Float} {elapsed : Float × Float}
    (hphase : books.phase = .awaiting request) (hinv : LedgerInv met books) :
    LedgerInv (met ∧ Settles num books (.count inputTokens outputTokens charge elapsed))
      (books.record (.counted inputTokens outputTokens)
        (books.tracker.recordLlmCall num fmt inputTokens outputTokens charge elapsed)) := by
  obtain ⟨hmet, ⟨hinput, houtput⟩, -⟩ := hinv.of_open (by simp [hphase])
  simp only [hphase, BookPhase.ahead, add_zero] at hinput houtput
  simp only [Settles, hphase]
  rcases recordLlmCall_cases num fmt books.tracker inputTokens outputTokens charge elapsed with
    ⟨hcalls, ⟨error, herror⟩, hin, hout⟩ | ⟨hcalls, hlimit, ⟨error, herror⟩, hin, hout⟩ |
    ⟨hcalls, hlimit, ⟨⟨error, herror⟩, hbroken⟩ | ⟨hok, hadmits⟩, hin, hout⟩
  · apply ledgerInv_of_ended
    · simp [herror, phaseAfter]
    · apply iff_of_true ⟨hmet, .inr (.inl hcalls)⟩
      simp [Books.Agree, hin, hout, hinput, houtput]
  · apply ledgerInv_of_ended
    · simp [herror, phaseAfter]
    · have hbroken : ¬ Admits num books.tracker inputTokens outputTokens charge elapsed :=
        fun hadmits => absurd hadmits.2.1 (not_le.mpr hlimit)
      simp only [hmet, hbroken, not_lt.mpr hcalls, Books.Agree, record_tracker,
        listedInput_record, listedOutput_record, hin, hout, hinput, houtput]
      grind
  · apply ledgerInv_of_ended
    · simp [herror, phaseAfter]
    · simp only [hmet, hbroken, not_lt.mpr hcalls, Books.Agree, record_tracker, listedInput_record,
        listedOutput_record, hin, hout, hinput, houtput]
      grind
  · apply ledgerInv_of_open
    · simp [hok, phaseAfter]
    · exact ⟨hmet, .inl hadmits⟩
    · simp [Books.Balanced, hok, phaseAfter, BookPhase.ahead, hin, hout, hinput, houtput]
    · simp [Books.Checked, hok, phaseAfter]

theorem ledgerInv_countListed {inputTokens outputTokens : Int} {charge : CallCharge Float}
    {elapsed : Float × Float} (hphase : books.phase = .listed inputTokens outputTokens)
    (hinv : LedgerInv met books) :
    LedgerInv (met ∧ Settles num books (.count inputTokens outputTokens charge elapsed))
      (books.record .idle
        (books.tracker.recordLlmCall num fmt inputTokens outputTokens charge elapsed)) := by
  obtain ⟨hmet, ⟨hinput, houtput⟩, hchecked⟩ := hinv.of_open (by simp [hphase])
  simp only [hphase, BookPhase.ahead] at hinput houtput
  simp only [Books.Checked, hphase] at hchecked
  simp only [Settles, hphase]
  rcases recordLlmCall_cases num fmt books.tracker inputTokens outputTokens charge elapsed with
    ⟨hcalls, -⟩ | ⟨-, hlimit, ⟨error, herror⟩, hin, hout⟩ |
    ⟨-, hlimit, ⟨⟨error, herror⟩, -⟩ | ⟨hok, -⟩, hin, hout⟩
  · omega
  · apply ledgerInv_of_ended
    · simp [herror, phaseAfter]
    · simp only [hmet, Books.Agree, record_tracker, listedInput_record,
        listedOutput_record, hin, hout, hinput, houtput]
      grind
  · apply ledgerInv_of_ended
    · simp [herror, phaseAfter]
    · apply iff_of_true ⟨hmet, .inl hlimit⟩
      simp [Books.Agree, hin, hout, hinput, houtput]
  · apply ledgerInv_of_open
    · simp [hok, phaseAfter]
    · exact ⟨hmet, .inl hlimit⟩
    · simp [Books.Balanced, hok, phaseAfter, BookPhase.ahead, hin, hout, hinput, houtput]
    · simp [Books.Checked, hok, phaseAfter]

theorem ledgerInv_countUnknown {charge : CallCharge Float} {elapsed : Float × Float}
    (hphase : books.phase = .unknownListed) (hinv : LedgerInv met books) :
    LedgerInv (met ∧ True)
      (books.record .ended (books.tracker.recordLlmCall num fmt 0 0 charge elapsed)) := by
  obtain ⟨hmet, ⟨hinput, houtput⟩, -⟩ := hinv.of_open (by simp [hphase])
  simp only [hphase, BookPhase.ahead, add_zero] at hinput houtput
  apply ledgerInv_of_ended
  · rw [record_phase]
    cases (books.tracker.recordLlmCall num fmt 0 0 charge elapsed).1 <;> rfl
  · apply iff_of_true ⟨hmet, trivial⟩
    rcases recordLlmCall_cases num fmt books.tracker 0 0 charge elapsed with
      ⟨-, -, hin, hout⟩ | ⟨-, -, -, hin, hout⟩ | ⟨-, -, -, hin, hout⟩ <;>
      simp [Books.Agree, hin, hout, hinput, houtput]

theorem LedgerInv.step {label : BookStep Float} (hinv : LedgerInv met books)
    (hstep : bookStep num fmt books label = some next) :
    LedgerInv (met ∧ Settles num books label) next := by
  cases label with
  | iterate elapsed =>
      simp only [bookStep, Option.ite_none_right_eq_some, Option.some.injEq] at hstep
      obtain ⟨hphase, rfl⟩ := hstep
      exact ledgerInv_record hphase hinv (by rw [recordIteration_tracker])
        (by rw [recordIteration_tracker])
  | countTool resultBytes elapsed =>
      simp only [bookStep, Option.ite_none_right_eq_some, Option.some.injEq] at hstep
      obtain ⟨hphase, rfl⟩ := hstep
      exact ledgerInv_record hphase hinv (by rw [recordToolCall_tracker])
        (by rw [recordToolCall_tracker])
  | ask request =>
      simp only [bookStep, Option.ite_none_right_eq_some, Option.some.injEq] at hstep
      obtain ⟨⟨hphase, hmay⟩, rfl⟩ := hstep
      obtain ⟨hmet, hbalanced, -⟩ := hinv.of_open (by simp [hphase])
      simp only [Books.Balanced, hphase] at hbalanced
      apply ledgerInv_of_open
      · simp
      · exact ⟨hmet, trivial⟩
      · exact hbalanced
      · cases request with
        | crew => exact hmay.2
        | _ => trivial
  | callTool =>
      simp only [bookStep, Option.ite_none_right_eq_some, Option.some.injEq] at hstep
      obtain ⟨⟨hphase, -⟩, rfl⟩ := hstep
      obtain ⟨hmet, hbalanced, hchecked⟩ := hinv.of_open (by simp [hphase])
      exact ledgerInv_of_open (by simp [hphase]) ⟨hmet, trivial⟩ hbalanced hchecked
  | store =>
      obtain rfl := Option.some.inj hstep
      simp only [Settles, and_true]
      exact hinv
  | advance =>
      simp only [bookStep, Option.ite_none_right_eq_some, Option.some.injEq] at hstep
      obtain ⟨-, rfl⟩ := hstep
      simp only [Settles, and_true]
      exact hinv
  | listFailed inputTokens outputTokens =>
      simp only [bookStep, Option.ite_none_right_eq_some, Option.some.injEq] at hstep
      obtain ⟨hphase, rfl⟩ := hstep
      obtain ⟨hmet, ⟨hinput, houtput⟩, -⟩ := hinv.of_open (by simp [hphase])
      simp only [hphase, BookPhase.ahead, add_zero] at hinput houtput
      apply ledgerInv_of_ended rfl
      simp only [hmet, Settles, Books.Agree, list_tracker, listedInput_list, listedOutput_list,
        hinput, houtput, Option.getD_some]
      grind
  | listUnknown =>
      simp only [bookStep, Option.ite_none_right_eq_some, Option.some.injEq] at hstep
      obtain ⟨hphase, rfl⟩ := hstep
      have hopen : books.phase ≠ .ended := by rcases hphase with h | h <;> simp [h]
      have hahead : books.phase.ahead = (0, 0) := by rcases hphase with h | h <;> rw [h] <;> rfl
      obtain ⟨hmet, ⟨hinput, houtput⟩, -⟩ := hinv.of_open hopen
      simp only [hahead, add_zero] at hinput houtput
      apply ledgerInv_of_open (by simp) ⟨hmet, trivial⟩
      · simp [Books.Balanced, BookPhase.ahead, hinput, houtput]
      · trivial
  | list inputTokens outputTokens =>
      cases hphase : books.phase with
      | awaiting request =>
          cases request with
          | crew =>
              simp only [bookStep, hphase, Option.some.injEq] at hstep
              obtain rfl := hstep
              obtain ⟨hmet, ⟨hinput, houtput⟩, hchecked⟩ := hinv.of_open (by simp [hphase])
              simp only [hphase, BookPhase.ahead, add_zero] at hinput houtput
              simp only [Books.Checked, hphase] at hchecked
              apply ledgerInv_of_open (by simp) ⟨hmet, trivial⟩
              · simp [Books.Balanced, BookPhase.ahead, hinput, houtput]
              · exact hchecked
          | _ => simp [bookStep, hphase] at hstep
      | counted input output =>
          simp only [bookStep, hphase, Option.ite_none_right_eq_some, Option.some.injEq] at hstep
          obtain ⟨⟨rfl, rfl⟩, rfl⟩ := hstep
          obtain ⟨hmet, ⟨hinput, houtput⟩, -⟩ := hinv.of_open (by simp [hphase])
          simp only [hphase, BookPhase.ahead] at hinput houtput
          apply ledgerInv_of_open (by simp) ⟨hmet, trivial⟩
          · simp [Books.Balanced, BookPhase.ahead, hinput, houtput]
          · trivial
      | _ => simp [bookStep, hphase] at hstep
  | count inputTokens outputTokens charge elapsed =>
      cases hphase : books.phase with
      | awaiting request =>
          cases request with
          | crew => simp [bookStep, hphase] at hstep
          | _ =>
              simp only [bookStep, hphase, Option.some.injEq] at hstep
              exact hstep ▸ ledgerInv_count hphase hinv
      | listed input output =>
          simp only [bookStep, hphase, Option.ite_none_right_eq_some, Option.some.injEq] at hstep
          obtain ⟨⟨rfl, rfl⟩, rfl⟩ := hstep
          exact ledgerInv_countListed hphase hinv
      | unknownListed =>
          simp only [bookStep, hphase, Option.ite_none_right_eq_some, Option.some.injEq] at hstep
          obtain ⟨⟨rfl, rfl⟩, rfl⟩ := hstep
          simpa only [Settles, hphase] using ledgerInv_countUnknown hphase hinv
      | _ => simp [bookStep, hphase] at hstep

theorem agree_iff_meets_settles {steps : List (BookStep Float)} {budgets : ExecutionBudgets Float}
    {nextSeq : Int}
    (hrun : (bookMachine num fmt).run (Books.opened num budgets nextSeq) steps = some books)
    (hquiet : books.phase.Quiescent) :
    books.Agree ↔
      (bookMachine num fmt).Meets (Settles num) (Books.opened num budgets nextSeq) steps := by
  have hopened : LedgerInv True (Books.opened num budgets nextSeq) :=
    ledgerInv_of_open (by simp [Books.opened]) trivial ⟨rfl, rfl⟩ trivial
  have hinv : LedgerInv
      ((bookMachine num fmt).Meets (Settles num) (Books.opened num budgets nextSeq) steps) books :=
    Machine.run_invariant_meets (fun _ _ _ _ hinv hstep => LedgerInv.step hinv hstep) hopened hrun
  by_cases hphase : books.phase = .ended
  · rw [LedgerInv, if_pos hphase] at hinv
    exact hinv.symm
  · obtain ⟨hmet, ⟨hinput, houtput⟩, -⟩ := hinv.of_open hphase
    have hahead : books.phase.ahead = (0, 0) := by
      cases hopen : books.phase <;> rw [hopen] at hquiet <;> first | rfl | exact hquiet.elim
    simp only [hahead, add_zero] at hinput houtput
    exact iff_of_true ⟨hinput, houtput⟩ hmet

end Ledgers

section Runs

variable {cfg : LoopConfig Float} {messages : List (Message Float)} {nextSeq : Int}
  {log : History Float} {result : Except (LoopError Float) (LoopResult Float)}
  {final : LoopState Float}

/-- The totals of a stored run are the sums over its list of calls. -/
def TokensAgree (run : Run Float) : Prop :=
  run.inputTokens = listedTokens "input_tokens" run ∧
    run.outputTokens = listedTokens "output_tokens" run

theorem agree_congr {steps steps' : List (BookStep Float)} {books books' : Books Float}
    (hbooks : BooksOf cfg messages nextSeq log final steps books)
    (hbooks' : BooksOf cfg messages nextSeq log final steps' books') :
    books.Agree ↔ books'.Agree := by
  have htracker : books.tracker = books'.tracker :=
    hbooks.agrees.tracker.symm.trans hbooks'.agrees.tracker
  have hlisted : books.listed = books'.listed :=
    hbooks.agrees.listed.symm.trans hbooks'.agrees.listed
  rw [Books.Agree, Books.Agree, Books.listedInput, Books.listedOutput, htracker, hlisted]
  rfl

/-- **The token ledgers of a run.** Every run of the loop has books. If it is stored as ended, its
totals are the sums over its list of calls if and only if every step of its books settles. -/
theorem run_tokens_agree_iff (hprepared : ¬ cfg.run.status.Terminal)
    (hrun : (executeLoop cfg).Runs (initialState cfg messages nextSeq) log result final) :
    (∃ steps books, BooksOf cfg messages nextSeq log final steps books) ∧
      ∀ steps books, BooksOf cfg messages nextSeq log final steps books →
        final.stored.status.Terminal →
          (TokensAgree final.stored ↔ (bookMachine cfg.num cfg.fmt).Meets (Settles cfg.num)
            (Books.opened cfg.num cfg.budgets nextSeq) steps) := by
  obtain ⟨steps, ledger, hbooks, hstored⟩ := exists_books_of_run hrun
  refine ⟨⟨steps, ledger.toBooks, hbooks⟩, fun steps' books' hbooks' hterminal => ?_⟩
  rcases hstored with hprior | ⟨-, hinput, houtput, hlistedInput, hlistedOutput⟩
  · exact absurd (hprior ▸ hterminal) hprepared
  · rw [← agree_iff_meets_settles hbooks'.run hbooks'.quiescent, agree_congr hbooks' hbooks,
      TokensAgree, hinput, houtput, hlistedInput, hlistedOutput]
    rfl

def noToolCall : LLMProviderError where
  retryable := false
  code := "no_tool_call"
  modelId := some "model"
  inputTokens := some 50
  outputTokens := some 10

def noToolCallReply : (call : LoopCall Int) → LoopReply call
  | .proposeTaxiQuery _ _ _ _ => .error (.provider noToolCall)
  | call => sampleReply (.ok sampleProposal) call

def noToolCallPlay : History Int × Except (LoopError Int) (LoopResult Int) × LoopState Int :=
  (executeLoop sampleConfig).play (fun _ => noToolCallReply) (initialState sampleConfig [] 2)

theorem runs_noToolCallPlay :
    (executeLoop sampleConfig).Runs (initialState sampleConfig [] 2) noToolCallPlay.1
      noToolCallPlay.2.1 noToolCallPlay.2.2 :=
  Prog.runs_play (executeLoop sampleConfig) (fun _ => noToolCallReply)
    (initialState sampleConfig [] 2)

theorem run_tokens_agree_iff_noToolCall :
    (∃ steps books, BooksOf sampleConfig [] 2 noToolCallPlay.1 noToolCallPlay.2.2 steps books) ∧
      ∀ steps books, BooksOf sampleConfig [] 2 noToolCallPlay.1 noToolCallPlay.2.2 steps books →
        noToolCallPlay.2.2.stored.status.Terminal →
          (TokensAgree noToolCallPlay.2.2.stored ↔
            (bookMachine sampleConfig.num sampleConfig.fmt).Meets (Settles sampleConfig.num)
              (Books.opened sampleConfig.num sampleConfig.budgets 2) steps) :=
  run_tokens_agree_iff (by decide) runs_noToolCallPlay

/-- The failed run is stored with no input tokens, and with a call of fifty. -/
theorem noToolCall_tokens_disagree :
    (executeLoop sampleConfig).Runs (initialState sampleConfig [] 2) noToolCallPlay.1
        noToolCallPlay.2.1 noToolCallPlay.2.2 ∧
      noToolCallPlay.2.2.stored.status = .failed ∧
      noToolCallPlay.2.2.stored.inputTokens = 0 ∧
      listedTokens "input_tokens" noToolCallPlay.2.2.stored = 50 ∧
      ¬ TokensAgree noToolCallPlay.2.2.stored := by
  have hstored : noToolCallPlay.2.2.stored.inputTokens = 0 := rfl
  have hlisted : listedTokens "input_tokens" noToolCallPlay.2.2.stored = 50 := rfl
  refine ⟨runs_noToolCallPlay, rfl, hstored, hlisted, fun hagree => ?_⟩
  have hinput := hagree.1
  rw [hstored, hlisted] at hinput
  exact absurd hinput (by decide)

end Runs

end AiAnalytics.App.Loop
