import AiAnalytics.App.Orchestration.Cancellation

/-!
# When a terminal status is absorbing

The execution writes its terminal record once, over a record that is not terminal. The only other
writer is a cancellation that passed its check: it overwrites whatever is stored by then. So the
terminal record stays exactly as long as no such write finds it.
-/

namespace AiAnalytics.App

open Lib

variable {Float : Type}

/-- What a terminal run has settled. -/
def Run.outcome (run : Run Float) : RunStatus × Int × Int × Float × List (String × PyValue Float) :=
  (run.status, run.inputTokens, run.outputTokens, run.estimatedCostUsd, run.metadata)

/-- A cancellation that passed its check earlier now writes over a terminal run. -/
def RunState.LateCancellation (state : RunState Float) (label : RunLabel Float) : Prop :=
  ∃ id snapshot run, label = .cancelWrite id ∧ state.calls[id]? = some (.flagged snapshot) ∧
    state.stored = some run ∧ run.status.Terminal

inductive Writes (state : RunState Float) : RunLabel Float → RunState Float → Prop
  | prepare {next run} (hphase : state.phase = .notStarted) (hstatus : run.status = .inProgress)
      (hnext : next.stored = some run) (hexecuting : next.phase = .executing) :
      Writes state (.prepare run) next
  | finish {next run} (hphase : state.phase = .executing) (hterminal : run.status.Terminal)
      (hnext : next.stored = some run) (hfinished : next.phase = .finished) :
      Writes state (.finish run) next
  | cancelWrite {next id snapshot run} (hcall : state.calls[id]? = some (.flagged snapshot))
      (hstored : state.stored = some run) (hnext : next.stored = some snapshot.cancelRequested)
      (hphase : next.phase = state.phase) :
      Writes state (.cancelWrite id) next
  | nothing {next label} (hnext : next.stored = state.stored) (hphase : next.phase = state.phase) :
      Writes state label next

section Steps

variable {state next : RunState Float} {label : RunLabel Float}

theorem runStep_writes (hstep : runStep state label = some next) : Writes state label next := by
  cases label with
  | prepare run =>
      simp only [runStep] at hstep
      split at hstep
      case isFalse => cases hstep
      case isTrue hguard =>
        cases hstored : state.stored with
        | some old => simp [createRun, hstored] at hstep
        | none =>
            simp only [createRun, hstored, Option.some.injEq] at hstep
            subst hstep
            exact .prepare hguard.1 hguard.2 rfl rfl
  | finish run =>
      simp only [runStep] at hstep
      split at hstep
      case isFalse => cases hstep
      case isTrue hguard =>
        cases hstored : state.stored with
        | none => simp [updateRun, hstored] at hstep
        | some old =>
            simp only [updateRun, hstored, Option.some.injEq] at hstep
            subst hstep
            exact .finish hguard.1 hguard.2 rfl rfl
  | cancelRead =>
      cases hstep
      exact .nothing rfl rfl
  | cancelFlag id redis =>
      simp only [runStep] at hstep
      split at hstep
      · cases hstep
        exact .nothing rfl rfl
      · cases hstep
  | cancelWrite id =>
      simp only [runStep] at hstep
      split at hstep
      case h_1 snapshot hcall =>
        cases hstored : state.stored with
        | none =>
            simp only [updateRun, hstored, Option.some.injEq] at hstep
            subst hstep
            exact .nothing rfl rfl
        | some run =>
            simp only [updateRun, hstored, Option.some.injEq] at hstep
            subst hstep
            exact .cancelWrite hcall hstored rfl rfl
      case h_2 => cases hstep
  | cancelPublish id =>
      simp only [runStep] at hstep
      split at hstep
      · cases hstep
        exact .nothing rfl rfl
      · cases hstep

structure ExecutionInv (state : RunState Float) : Prop where
  notStarted : state.phase = .notStarted → state.stored = none
  executing : state.phase = .executing → ∃ run, state.stored = some run ∧ ¬ run.status.Terminal

theorem executionInv_init : ExecutionInv (.init : RunState Float) where
  notStarted := fun _ => rfl
  executing := nofun

theorem executionInv_step (hinv : ExecutionInv state) (hstep : runStep state label = some next) :
    ExecutionInv next := by
  cases runStep_writes hstep with
  | prepare hphase hstatus hnext hexecuting =>
      refine ⟨fun h => ?_, fun _ => ⟨_, hnext, ?_⟩⟩
      · rw [hexecuting] at h
        cases h
      · rw [hstatus]
        decide
  | finish hphase hterminal hnext hfinished =>
      refine ⟨fun h => ?_, fun h => ?_⟩
      · rw [hfinished] at h
        cases h
      · rw [hfinished] at h
        cases h
  | cancelWrite hcall hstored hnext hphase =>
      refine ⟨fun h => ?_, fun _ => ⟨_, hnext, ?_⟩⟩
      · rw [hphase] at h
        rw [hinv.notStarted h] at hstored
        cases hstored
      · change ¬ RunStatus.cancelRequested.Terminal
        decide
  | nothing hnext hphase =>
      refine ⟨fun h => ?_, fun h => ?_⟩
      · rw [hphase] at h
        rw [hnext, hinv.notStarted h]
      · rw [hphase] at h
        rw [hnext]
        exact hinv.executing h

theorem stored_step {run : Run Float} (hinv : ExecutionInv state)
    (hstored : state.stored = some run) (hterminal : run.status.Terminal)
    (hlate : ¬ state.LateCancellation label)
    (hstep : runStep state label = some next) : next.stored = some run := by
  cases runStep_writes hstep with
  | prepare hphase =>
      rw [hinv.notStarted hphase] at hstored
      cases hstored
  | finish hphase =>
      obtain ⟨old, hold, hactive⟩ := hinv.executing hphase
      rw [hstored] at hold
      cases hold
      exact absurd hterminal hactive
  | cancelWrite hcall =>
      exact absurd ⟨_, _, run, rfl, hcall, hstored, hterminal⟩ hlate
  | nothing hnext => rw [hnext, hstored]

theorem stored_lateCancellation (hlate : state.LateCancellation label)
    (hstep : runStep state label = some next) :
    ∃ run, next.stored = some run ∧ run.status = .cancelRequested := by
  obtain ⟨id, snapshot, run, rfl, hcall, hstored, -⟩ := hlate
  simp only [runStep, hcall, hstored, updateRun, Option.some.injEq] at hstep
  subst hstep
  exact ⟨_, rfl, rfl⟩

end Steps

/-- **When a terminal status is absorbing.** In a run of one execution with any number of
cancellations, no later step changes the status, the token counts, the cost or the metadata of a
terminal record, if and only if no cancellation that passed its check writes after the record became
terminal. -/
theorem terminal_absorbing_iff_no_late_cancellation (labels : List (RunLabel Float))
    (final : RunState Float) (hrun : runMachine.run .init labels = some final) :
    (∀ before between after mid later, labels = before ++ between ++ after →
      runMachine.run .init before = some mid → runMachine.run mid between = some later →
      ∀ run, mid.stored = some run → run.status.Terminal →
        ∃ run', later.stored = some run' ∧ run'.outcome = run.outcome) ↔
      runMachine.Meets (fun state label => ¬ state.LateCancellation label) .init labels := by
  constructor
  · intro habsorbing
    rw [Machine.meets_iff_forall_split]
    rintro before label after mid rfl hbefore hlate
    obtain ⟨mid', hmid, hrest⟩ := Machine.run_append_eq_some_iff.mp hrun
    rw [hbefore] at hmid
    cases hmid
    obtain ⟨next, hstep, -⟩ := Machine.run_cons_eq_some_iff.mp hrest
    obtain ⟨-, -, run, -, -, hstored, hterminal⟩ := id hlate
    obtain ⟨run', hlater, houtcome⟩ := habsorbing before [label] after mid next (by simp) hbefore
      (Machine.run_cons_eq_some_iff.mpr ⟨next, hstep, rfl⟩) run hstored hterminal
    obtain ⟨written, hwritten, hstatus⟩ := stored_lateCancellation hlate hstep
    rw [hwritten, Option.some_inj] at hlater
    have hsame : written.status = run.status := hlater ▸ congrArg Prod.fst houtcome
    rw [← hsame, hstatus] at hterminal
    exact absurd hterminal (by decide)
  · rintro hmeets before between after mid later rfl hbefore hbetween run hstored hterminal
    have hinv : ExecutionInv mid :=
      Machine.run_invariant (fun _ _ _ h hstep => executionInv_step h hstep) executionInv_init
        hbefore
    rw [List.append_assoc, Machine.meets_append_of_run hbefore,
      Machine.meets_append_of_run hbetween] at hmeets
    have hpreserve : ∀ state label next, (ExecutionInv state ∧ state.stored = some run) →
        ¬ state.LateCancellation label → runMachine.step state label = some next →
          ExecutionInv next ∧ next.stored = some run := fun _ _ _ h hlate hstep =>
      ⟨executionInv_step h.1 hstep, stored_step h.1 h.2 hterminal hlate hstep⟩
    have hkept := Machine.run_invariant_of_meets hpreserve ⟨hinv, hstored⟩ hmeets.2.1 hbetween
    exact ⟨run, hkept.2, rfl⟩

/-! A run that completes while a cancellation has read it but not yet written. -/

def startedRun : Run ℚ :=
  { runId := "r", conversationId := "c", startedAt := "t0", estimatedCostUsd := 0 }

def completedRun : Run ℚ :=
  { startedRun with
    status := .completed, completedAt := some "t1", inputTokens := 120, outputTokens := 30,
    estimatedCostUsd := 1 / 1000 }

theorem terminal_absorbing_completed :
    ∃ final, runMachine.run .init [.prepare startedRun, .finish completedRun, .cancelRead] =
        some final ∧
      (∀ before between after mid later,
        [RunLabel.prepare startedRun, .finish completedRun, .cancelRead] = before ++ between ++
        after →
        runMachine.run .init before = some mid → runMachine.run mid between = some later →
        ∀ run, mid.stored = some run → run.status.Terminal →
          ∃ run', later.stored = some run' ∧ run'.outcome = run.outcome) := by
  refine ⟨_, rfl, (terminal_absorbing_iff_no_late_cancellation _ _ rfl).mpr ?_⟩
  rw [Machine.meets_cons_of_step rfl, Machine.meets_cons_of_step rfl,
    Machine.meets_cons_of_step rfl]
  refine ⟨?_, ?_, ?_, Machine.meets_nil⟩ <;> rintro ⟨id, snapshot, run, hlabel, -⟩ <;> cases hlabel

/-- The completed run is `cancel_requested` again, and its tokens and cost are gone. -/
theorem late_cancellation_reopens_run :
    ∃ completed cancelled,
      runMachine.run .init [.prepare startedRun, .cancelRead, .cancelFlag 0 true,
        .finish completedRun] = some completed ∧
      completed.stored = some completedRun ∧ completedRun.status.Terminal ∧
      runMachine.run completed [.cancelWrite 0] = some cancelled ∧
      cancelled.stored = some startedRun.cancelRequested ∧
      startedRun.cancelRequested.outcome ≠ completedRun.outcome := by
  refine ⟨_, _, rfl, rfl, by decide, rfl, rfl, ?_⟩
  intro houtcome
  cases congrArg Prod.fst houtcome

end AiAnalytics.App
