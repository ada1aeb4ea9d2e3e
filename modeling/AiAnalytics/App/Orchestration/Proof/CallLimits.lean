import AiAnalytics.App.Orchestration.Proof.BookedLoop
import AiAnalytics.App.Orchestration.Proof.TerminalLoop

/-!
# The limits of calls

A request is counted when its reply is recorded. Only the retry and the agent strategy look at the
limit before they ask, so the first proposal, the final answer and the tool call are issued whatever
the limit is. Along a run of the books these are the only requests that can go beyond it.
-/

namespace AiAnalytics.App.Loop

open Lib

variable {Float : Type} {num : NumOps Float} {fmt : PyFormat Float}

section Records

variable {tracker : BudgetTracker Float} {elapsed : Float × Float}

theorem recordLlmCall_counts (inputTokens outputTokens : Int) (charge : CallCharge Float) :
    (tracker.recordLlmCall num fmt inputTokens outputTokens charge elapsed).2.llmCallCount =
        tracker.llmCallCount + 1 ∧
      (tracker.recordLlmCall num fmt inputTokens outputTokens charge elapsed).2.budgets =
        tracker.budgets := by
  unfold BudgetTracker.recordLlmCall
  dsimp only
  split
  · exact ⟨rfl, rfl⟩
  split
  · exact ⟨rfl, rfl⟩
  split
  · exact ⟨rfl, rfl⟩
  split
  · exact ⟨rfl, rfl⟩
  · exact ⟨rfl, rfl⟩

theorem recordIteration_keeps :
    (tracker.recordIteration num fmt elapsed).2.llmCallCount = tracker.llmCallCount ∧
      (tracker.recordIteration num fmt elapsed).2.budgets = tracker.budgets := by
  unfold BudgetTracker.recordIteration
  dsimp only
  split <;> exact ⟨rfl, rfl⟩

theorem recordToolCall_keeps (resultBytes : Int) :
    (tracker.recordToolCall num fmt resultBytes elapsed).2.llmCallCount = tracker.llmCallCount ∧
      (tracker.recordToolCall num fmt resultBytes elapsed).2.budgets = tracker.budgets := by
  unfold BudgetTracker.recordToolCall
  dsimp only
  split
  · exact ⟨rfl, rfl⟩
  · split <;> exact ⟨rfl, rfl⟩

end Records

section Limits

def BookPhase.uncounted : BookPhase → Nat
  | .awaiting _ | .listed _ _ | .unknownListed => 1
  | _ => 0

structure LimitInv (budgets : ExecutionBudgets Float) (books : Books Float) : Prop where
  limits : books.tracker.budgets = budgets
  toolCalls : books.toolCalls ≤ 1
  counted : books.phase ≠ .ended →
    books.tracker.llmCallCount + books.phase.uncounted = books.asked.length
  selecting : .crew ∉ books.asked → .answer ∉ books.asked →
    books.asked = [] ∨ books.asked = [.proposal] ∨
      books.asked = [.proposal, .retry] ∧ 3 ≤ budgets.maxLlmCalls
  bounded : books.asked.length ≤ budgets.maxLlmCalls ∨ books.asked = [] ∨
    books.asked = [.proposal] ∨ books.asked = [.answer] ∨ books.asked = [.proposal, .answer]

variable {budgets : ExecutionBudgets Float} {books next : Books Float}

theorem LimitInv.record (hinv : LimitInv budgets books) {phase : BookPhase} {counts : Int}
    {outcome : Except (BudgetExceededError Float) Unit × BudgetTracker Float}
    (hopen : books.phase ≠ .ended)
    (hcount : outcome.2.llmCallCount = books.tracker.llmCallCount + counts)
    (hbudgets : outcome.2.budgets = books.tracker.budgets)
    (hphase : phase ≠ .ended → (books.phase.uncounted : Int) = counts + phase.uncounted) :
    LimitInv budgets (books.record phase outcome) := by
  refine ⟨hbudgets.trans hinv.limits, hinv.toolCalls, fun hnext => ?_, hinv.selecting,
    hinv.bounded⟩
  have hbefore := hinv.counted hopen
  cases hresult : outcome.1 with
  | ok _ =>
      simp only [Books.record, hresult, phaseAfter] at hnext ⊢
      have hafter := hphase hnext
      omega
  | error error => simp [Books.record, hresult, phaseAfter] at hnext

theorem LimitInv.list (hinv : LimitInv budgets books) {phase : BookPhase}
    {inputTokens outputTokens : Option Int} (hopen : books.phase ≠ .ended)
    (hphase : phase ≠ .ended → phase.uncounted = books.phase.uncounted) :
    LimitInv budgets (books.list inputTokens outputTokens phase) := by
  refine ⟨hinv.limits, hinv.toolCalls, fun hnext => ?_, hinv.selecting, hinv.bounded⟩
  have hbefore := hinv.counted hopen
  simp only [Books.list] at hnext ⊢
  rw [hphase hnext]
  exact hbefore

theorem LimitInv.ask (hinv : LimitInv budgets books) {request : LlmRequest}
    (hphase : books.phase = .idle) (hmay : books.MayAsk request) :
    LimitInv budgets
      { books with asked := books.asked ++ [request], phase := .awaiting request } := by
  have hcount : books.tracker.llmCallCount = books.asked.length := by
    simpa [hphase, BookPhase.uncounted] using hinv.counted (by simp [hphase])
  have hbudgets := hinv.limits
  refine ⟨hinv.limits, hinv.toolCalls, fun _ => ?_, ?_, ?_⟩
  · simp [BookPhase.uncounted, hcount]
  · intro hcrew hanswer
    cases request with
    | proposal =>
        right; left
        simp [show books.asked = [] from hmay]
    | retry =>
        obtain ⟨hasked, hlimit⟩ := hmay
        right; right
        refine ⟨by simp [hasked], ?_⟩
        rw [hbudgets] at hlimit
        rw [hasked] at hcount
        simp only [List.length_singleton] at hcount
        omega
    | crew => simp at hcrew
    | answer => simp at hanswer
  · cases request with
    | proposal =>
        right; right; left
        simp [show books.asked = [] from hmay]
    | retry =>
        obtain ⟨hasked, hlimit⟩ := hmay
        left
        rw [hbudgets] at hlimit
        simp only [hasked, List.length_append, List.length_singleton] at hcount ⊢
        omega
    | crew =>
        obtain ⟨-, hlimit⟩ := hmay
        left
        rw [hbudgets] at hlimit
        simp only [List.length_append, List.length_singleton]
        omega
    | answer =>
        rcases hinv.selecting hmay.1 hmay.2 with hasked | hasked | ⟨hasked, hlimit⟩
        · simp [hasked]
        · simp [hasked]
        · left
          simp only [hasked, List.length_append, List.length_cons, List.length_nil]
          omega

theorem LimitInv.step {label : BookStep Float} (hinv : LimitInv budgets books)
    (hstep : bookStep num fmt books label = some next) : LimitInv budgets next := by
  cases label with
  | iterate elapsed =>
      simp only [bookStep, Option.ite_none_right_eq_some, Option.some.injEq] at hstep
      obtain ⟨hphase, rfl⟩ := hstep
      have hcount : (books.tracker.recordIteration num fmt elapsed).2.llmCallCount =
          books.tracker.llmCallCount + 0 := by rw [recordIteration_keeps.1, add_zero]
      exact hinv.record (by simp [hphase]) hcount recordIteration_keeps.2 (by simp [hphase])
  | countTool resultBytes elapsed =>
      simp only [bookStep, Option.ite_none_right_eq_some, Option.some.injEq] at hstep
      obtain ⟨hphase, rfl⟩ := hstep
      have hcount : (books.tracker.recordToolCall num fmt resultBytes elapsed).2.llmCallCount =
          books.tracker.llmCallCount + 0 := by rw [(recordToolCall_keeps _).1, add_zero]
      exact hinv.record (by simp [hphase]) hcount (recordToolCall_keeps _).2 (by simp [hphase])
  | ask request =>
      simp only [bookStep, Option.ite_none_right_eq_some, Option.some.injEq] at hstep
      obtain ⟨⟨hphase, hmay⟩, rfl⟩ := hstep
      exact hinv.ask hphase hmay
  | callTool =>
      simp only [bookStep, Option.ite_none_right_eq_some, Option.some.injEq] at hstep
      obtain ⟨⟨-, hnone⟩, rfl⟩ := hstep
      exact ⟨hinv.limits, by simp [hnone], hinv.counted, hinv.selecting, hinv.bounded⟩
  | store =>
      obtain rfl := Option.some.inj hstep
      exact ⟨hinv.limits, hinv.toolCalls, hinv.counted, hinv.selecting, hinv.bounded⟩
  | advance =>
      simp only [bookStep, Option.ite_none_right_eq_some, Option.some.injEq] at hstep
      obtain ⟨-, rfl⟩ := hstep
      exact ⟨hinv.limits, hinv.toolCalls, hinv.counted, hinv.selecting, hinv.bounded⟩
  | listFailed inputTokens outputTokens =>
      simp only [bookStep, Option.ite_none_right_eq_some, Option.some.injEq] at hstep
      obtain ⟨hphase, rfl⟩ := hstep
      exact hinv.list (by simp [hphase]) (by simp)
  | listUnknown =>
      simp only [bookStep, Option.ite_none_right_eq_some, Option.some.injEq] at hstep
      obtain ⟨hphase | hphase, rfl⟩ := hstep <;>
        exact hinv.list (by simp [hphase]) (by simp [hphase, BookPhase.uncounted])
  | list inputTokens outputTokens =>
      cases hphase : books.phase with
      | awaiting request =>
          cases request with
          | crew =>
              simp only [bookStep, hphase, Option.some.injEq] at hstep
              exact hstep ▸ hinv.list (by simp [hphase]) (by simp [hphase, BookPhase.uncounted])
          | _ => simp [bookStep, hphase] at hstep
      | counted input output =>
          simp only [bookStep, hphase, Option.ite_none_right_eq_some, Option.some.injEq] at hstep
          exact hstep.2 ▸ hinv.list (by simp [hphase]) (by simp [hphase, BookPhase.uncounted])
      | _ => simp [bookStep, hphase] at hstep
  | count inputTokens outputTokens charge elapsed =>
      have hrecord (phase : BookPhase) (hone : books.phase.uncounted = 1)
          (hnone : phase.uncounted = 0) (hopen : books.phase ≠ .ended) :
          LimitInv budgets (books.record phase
            (books.tracker.recordLlmCall num fmt inputTokens outputTokens charge elapsed)) := by
        apply hinv.record hopen (recordLlmCall_counts _ _ _).1 (recordLlmCall_counts _ _ _).2
        intro _
        simp [hone, hnone]
      cases hphase : books.phase with
      | awaiting request =>
          cases request with
          | crew => simp [bookStep, hphase] at hstep
          | _ =>
              simp only [bookStep, hphase, Option.some.injEq] at hstep
              exact hstep ▸ hrecord _ (by rw [hphase]; rfl) rfl (by simp [hphase])
      | listed input output =>
          simp only [bookStep, hphase, Option.ite_none_right_eq_some, Option.some.injEq] at hstep
          exact hstep.2 ▸ hrecord _ (by rw [hphase]; rfl) rfl (by simp [hphase])
      | unknownListed =>
          simp only [bookStep, hphase, Option.ite_none_right_eq_some, Option.some.injEq] at hstep
          exact hstep.2 ▸ hrecord _ (by rw [hphase]; rfl) rfl (by simp [hphase])
      | _ => simp [bookStep, hphase] at hstep

/-- The limits cover the requests that nothing is checked before: the first proposal, the final
answer and the tool call. -/
structure LimitsCover (budgets : ExecutionBudgets Float) (asked : List LlmRequest)
    (toolCalls : Nat) : Prop where
  nonneg : 0 ≤ budgets.maxLlmCalls ∧ 0 ≤ budgets.maxToolCalls
  proposal : .proposal ∈ asked → 1 ≤ budgets.maxLlmCalls
  answer : .answer ∈ asked → 1 ≤ budgets.maxLlmCalls
  both : .proposal ∈ asked → .answer ∈ asked → 2 ≤ budgets.maxLlmCalls
  tool : 0 < toolCalls → 1 ≤ budgets.maxToolCalls

theorem two_le_length_of_mem {asked : List LlmRequest} (hproposal : .proposal ∈ asked)
    (hanswer : .answer ∈ asked) : 2 ≤ asked.length := by
  obtain ⟨before, after, rfl⟩ := List.append_of_mem hproposal
  have hrest : .answer ∈ before ∨ .answer ∈ after := by simpa using hanswer
  rw [List.length_append, List.length_cons]
  rcases hrest with hmem | hmem
  · have hpos := List.length_pos_of_mem hmem
    omega
  · have hpos := List.length_pos_of_mem hmem
    omega

theorem LimitInv.within_iff (hinv : LimitInv budgets books) :
    (books.asked.length ≤ budgets.maxLlmCalls ∧ books.toolCalls ≤ budgets.maxToolCalls) ↔
      LimitsCover budgets books.asked books.toolCalls := by
  constructor
  · rintro ⟨hasked, htools⟩
    refine ⟨⟨by omega, by omega⟩, fun hmem => ?_, fun hmem => ?_, fun hproposal hanswer => ?_,
      fun hpos => by omega⟩
    · have hpos := List.length_pos_of_mem hmem
      omega
    · have hpos := List.length_pos_of_mem hmem
      omega
    · have htwo := two_le_length_of_mem hproposal hanswer
      omega
  · intro hcover
    have htools := hinv.toolCalls
    refine ⟨?_, ?_⟩
    · rcases hinv.bounded with hbounded | hasked | hasked | hasked | hasked
      · exact hbounded
      · simpa [hasked] using hcover.nonneg.1
      · simpa [hasked] using hcover.proposal (by simp [hasked])
      · simpa [hasked] using hcover.answer (by simp [hasked])
      · simpa [hasked] using hcover.both (by simp [hasked]) (by simp [hasked])
    · by_cases hcalled : 0 < books.toolCalls
      · have hlimit := hcover.tool hcalled
        omega
      · have hlimit := hcover.nonneg.2
        omega

end Limits

section Runs

variable {cfg : LoopConfig Float} {messages : List (Message Float)} {nextSeq : Int}
  {log : History Float} {result : Except (LoopError Float) (LoopResult Float)}
  {final : LoopState Float}

theorem exists_limitInv_of_run
    (hrun : (executeLoop cfg).Runs (initialState cfg messages nextSeq) log result final) :
    ∃ books, LimitInv cfg.budgets books ∧ askedOf log = books.asked ∧
      toolCallsOf log = books.toolCalls := by
  obtain ⟨steps, ledger, hbooks, -⟩ := exists_books_of_run hrun
  have hopened : LimitInv cfg.budgets (Books.opened cfg.num cfg.budgets nextSeq) :=
    ⟨rfl, Nat.zero_le 1, fun _ => rfl, fun _ _ => .inl rfl, .inr (.inl rfl)⟩
  have hinv : LimitInv cfg.budgets ledger.toBooks :=
    Machine.run_invariant (fun _ _ _ hinv hstep => LimitInv.step hinv hstep) hopened hbooks.run
  exact ⟨ledger.toBooks, hinv, hbooks.agrees.asked, hbooks.agrees.toolCalls⟩

/-- **The limits of calls.** The requests of a run are within its limits if and only if these cover
the requests that the loop does not check. -/
theorem run_calls_within_limits_iff
    (hrun : (executeLoop cfg).Runs (initialState cfg messages nextSeq) log result final) :
    ((askedOf log).length ≤ cfg.budgets.maxLlmCalls ∧
        toolCallsOf log ≤ cfg.budgets.maxToolCalls) ↔
      LimitsCover cfg.budgets (askedOf log) (toolCallsOf log) := by
  obtain ⟨books, hinv, hasked, htools⟩ := exists_limitInv_of_run hrun
  rw [hasked, htools]
  exact hinv.within_iff

theorem run_calls_within_of_budgets (hllm : 2 ≤ cfg.budgets.maxLlmCalls)
    (htool : 1 ≤ cfg.budgets.maxToolCalls)
    (hrun : (executeLoop cfg).Runs (initialState cfg messages nextSeq) log result final) :
    (askedOf log).length ≤ cfg.budgets.maxLlmCalls ∧
      toolCallsOf log ≤ cfg.budgets.maxToolCalls := by
  obtain ⟨books, hinv, hasked, htools⟩ := exists_limitInv_of_run hrun
  rw [hasked, htools]
  exact hinv.within_iff.mpr ⟨⟨by omega, by omega⟩, fun _ => by omega, fun _ => by omega,
    fun _ _ => hllm, fun _ => htool⟩

def limitedConfig (maxLlmCalls maxToolCalls : Int) : LoopConfig Int :=
  { sampleConfig with budgets := { sampleConfig.budgets with maxLlmCalls, maxToolCalls } }

def validReply : (call : LoopCall Int) → LoopReply call
  | .validateProposal _ _ _ _ => .ok {}
  | .parseQueryProposal _ => some ("query_taxi_data", [])
  | call => sampleReply (.ok sampleProposal) call

def limitedPlay (maxLlmCalls maxToolCalls : Int) :
    History Int × Except (LoopError Int) (LoopResult Int) × LoopState Int :=
  (executeLoop (limitedConfig maxLlmCalls maxToolCalls)).play (fun _ => validReply)
    (initialState (limitedConfig maxLlmCalls maxToolCalls) [] 2)

theorem runs_limitedPlay (maxLlmCalls maxToolCalls : Int) :
    (executeLoop (limitedConfig maxLlmCalls maxToolCalls)).Runs
      (initialState (limitedConfig maxLlmCalls maxToolCalls) [] 2)
      (limitedPlay maxLlmCalls maxToolCalls).1 (limitedPlay maxLlmCalls maxToolCalls).2.1
      (limitedPlay maxLlmCalls maxToolCalls).2.2 :=
  Prog.runs_play (executeLoop (limitedConfig maxLlmCalls maxToolCalls)) (fun _ => validReply)
    (initialState (limitedConfig maxLlmCalls maxToolCalls) [] 2)

theorem run_calls_within_limits_iff_limited :
    ((askedOf (limitedPlay 2 1).1).length ≤ (2 : Int) ∧ toolCallsOf (limitedPlay 2 1).1 ≤
      (1 : Int)) ↔ LimitsCover (limitedConfig 2 1).budgets (askedOf (limitedPlay 2 1).1)
        (toolCallsOf (limitedPlay 2 1).1) :=
  run_calls_within_limits_iff (runs_limitedPlay 2 1)

/-- With one call to the model allowed, the final answer is the second; with no tool call allowed,
the tool is called. -/
theorem limits_exceeded :
    (executeLoop (limitedConfig 1 5)).Runs (initialState (limitedConfig 1 5) [] 2)
        (limitedPlay 1 5).1 (limitedPlay 1 5).2.1 (limitedPlay 1 5).2.2 ∧
      askedOf (limitedPlay 1 5).1 = [.proposal, .answer] ∧
      ¬ (askedOf (limitedPlay 1 5).1).length ≤ (limitedConfig 1 5).budgets.maxLlmCalls ∧
    (executeLoop (limitedConfig 6 0)).Runs (initialState (limitedConfig 6 0) [] 2)
        (limitedPlay 6 0).1 (limitedPlay 6 0).2.1 (limitedPlay 6 0).2.2 ∧
      ¬ toolCallsOf (limitedPlay 6 0).1 ≤ (limitedConfig 6 0).budgets.maxToolCalls := by
  have hasked : askedOf (limitedPlay 1 5).1 = [.proposal, .answer] := rfl
  have htools : toolCallsOf (limitedPlay 6 0).1 = 1 := rfl
  refine ⟨runs_limitedPlay 1 5, hasked, ?_, runs_limitedPlay 6 0, ?_⟩
  · rw [hasked]
    decide
  · rw [htools]
    decide

end Runs

end AiAnalytics.App.Loop
