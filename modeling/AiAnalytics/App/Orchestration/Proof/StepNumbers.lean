import AiAnalytics.App.Orchestration.Proof.TerminalLoop

/-!
# The numbers of a run's steps

The loop counts its steps by hand: each place stores a step under the current number and then takes
the next one. The step of the final answer is the only one that is stored without that, and no step
comes after it.
-/

namespace AiAnalytics.App.Loop

open Lib

variable {Float : Type}

section Invariant

/-- The stored steps have the numbers from one on, in the order they were stored. -/
def StepsNumbered (state : LoopState Float) : Prop :=
  state.steps.map (·.sequence) = (List.range' 1 state.steps.length).map Nat.cast

structure CountsSteps (state : LoopState Float) : Prop where
  numbered : StepsNumbered state
  next : state.stepSeq = 1 + state.steps.length

variable {state next : LoopState Float} {step : Int → RunStep Float}

theorem stepsNumbered_storeStep (hnumber : (step state.stepSeq).sequence = state.stepSeq)
    (hcounts : CountsSteps state) : StepsNumbered (state.storeStep step) := by
  have hlast : (step state.stepSeq).sequence = ((1 + state.steps.length : Nat) : Int) := by
    rw [hnumber, hcounts.next]
    push_cast
    rfl
  calc (state.storeStep step).steps.map (·.sequence)
      = state.steps.map (·.sequence) ++ [(step state.stepSeq).sequence] := by
        simp only [LoopState.storeStep, List.map_append, List.map_singleton]
    _ = (List.range' 1 state.steps.length ++ [1 + state.steps.length]).map Nat.cast := by
        rw [hcounts.numbered, hlast, List.map_append, List.map_singleton]
    _ = (List.range' 1 (state.storeStep step).steps.length).map Nat.cast := by
        rw [← List.range'_1_concat]
        simp only [LoopState.storeStep, List.length_append, List.length_singleton]

theorem countsSteps_advanceStep (hnumber : (step state.stepSeq).sequence = state.stepSeq)
    (hcounts : CountsSteps state) : CountsSteps (state.storeStep step).advanceStep where
  numbered := stepsNumbered_storeStep hnumber hcounts
  next := by
    simp only [LoopState.advanceStep, LoopState.storeStep, List.length_append,
      List.length_singleton]
    rw [hcounts.next]
    omega

theorem countsSteps_of_sameRecords (hsame : SameRecords state next) (hcounts : CountsSteps state) :
    CountsSteps next where
  numbered := by
    unfold StepsNumbered
    rw [hsame.steps]
    exact hcounts.numbered
  next := by
    rw [hsame.steps, hsame.stepSeq]
    exact hcounts.next

def CountingSteps (_ : History Float) (state : LoopState Float) : Prop := CountsSteps state

def AllNumbered (_ : History Float) (state : LoopState Float) : Prop := StepsNumbered state

theorem sustained_countingSteps : Sustained (@CountingSteps Float) where
  exchange _ _ _ _ hcounts := hcounts
  message _ _ _ hcounts := ⟨hcounts.numbered, hcounts.next⟩
  locals _ _ _ hsame hcounts := countsSteps_of_sameRecords hsame hcounts
  publish _ _ _ _ _ hcounts := ⟨hcounts.numbered, hcounts.next⟩
  step _ _ _ hnumber hcounts := countsSteps_advanceStep hnumber hcounts

theorem concludes_allNumbered : Concludes (@CountingSteps Float) AllNumbered where
  exchange _ _ _ _ hnumbered := hnumbered
  message _ _ _ hnumbered := hnumbered
  skipped _ _ hcounts := hcounts.numbered
  lastStep _ _ _ hnumber hcounts := stepsNumbered_storeStep hnumber hcounts

theorem closes_allNumbered : Closes (@AllNumbered Float) where
  toLogged := concludes_allNumbered.toLogged
  record _ _ _ hnumbered := hnumbered
  publish _ _ _ _ hnumbered := hnumbered

end Invariant

section Runs

variable {cfg : LoopConfig Float} {messages : List (Message Float)} {nextSeq : Int}
  {log : History Float} {result : Except (LoopError Float) (LoopResult Float)}
  {final : LoopState Float}

/-- **Steps without gap or repeat.** However the calls of a run come back and however it is left,
its stored steps are numbered from one on. -/
theorem steps_numbered_of_run
    (hrun : (executeLoop cfg).Runs (initialState cfg messages nextSeq) log result final) :
    StepsNumbered final := by
  have hstart : CountsSteps (initialState cfg messages nextSeq) := ⟨rfl, rfl⟩
  have hend := ensures_executeLoop_of_closes cfg sustained_countingSteps
    (fun _ _ _ _ _ _ hcounts => hcounts) concludes_allNumbered closes_allNumbered
    (fun _ _ _ _ hcounts => hcounts) [] _ hstart log result final hrun
  cases result with
  | ok value => exact hend
  | error error => exact hend

theorem invalid_retry_steps_numbered :
    (samplePlay (.ok sampleProposal)).2.2.steps.map (·.stepType) =
        [.llmProposal, .validationError, .llmProposal, .validationError] ∧
      StepsNumbered (samplePlay (.ok sampleProposal)).2.2 :=
  ⟨rfl, steps_numbered_of_run (runs_samplePlay _)⟩

end Runs

end AiAnalytics.App.Loop
