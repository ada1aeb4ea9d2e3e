import Mathlib.Data.List.Basic
import Mathlib.Tactic.Common

/-!
# Step machines and their runs

A machine is a partial step function: a label says which party acts and with which outcome, and the
step fails on a label that is not enabled. Concurrency is the choice of the next label, so "every
interleaving" is "every list of labels the machine accepts".

`run_invariant` is the usual induction over a run; `run_invariant_of_meets` is for runs whose steps
all meet a condition on the label and the state the step starts from; `run_invariant_meets` is for
an exact condition: its invariant speaks of whether it has been met so far.
-/

namespace AiAnalytics.Lib

/-- A deterministic labelled machine; the label carries all the nondeterminism. -/
structure Machine (State Label : Type*) where
  step : State → Label → Option State

namespace Machine

variable {State Label : Type*} (machine : Machine State Label)

def run : State → List Label → Option State
  | state, [] => some state
  | state, label :: labels => (machine.step state label).bind fun next => run next labels

def Meets (cond : State → Label → Prop) : State → List Label → Prop
  | _, [] => True
  | state, label :: labels =>
      cond state label ∧ ∀ next, machine.step state label = some next → Meets cond next labels

variable {machine} {cond : State → Label → Prop} {state next final : State} {label : Label}
  {labels : List Label}

@[simp]
theorem run_nil : machine.run state [] = some state := rfl

theorem run_cons_eq_some_iff :
    machine.run state (label :: labels) = some final ↔
      ∃ next, machine.step state label = some next ∧ machine.run next labels = some final :=
  Option.bind_eq_some_iff

theorem run_append (before after : List Label) :
    machine.run state (before ++ after) =
      (machine.run state before).bind fun mid => machine.run mid after := by
  induction before generalizing state with
  | nil => rfl
  | cons label before ih =>
      simp only [List.cons_append, run]
      cases machine.step state label with
      | none => rfl
      | some next => exact ih

theorem run_append_eq_some_iff {before after : List Label} :
    machine.run state (before ++ after) = some final ↔
      ∃ mid, machine.run state before = some mid ∧ machine.run mid after = some final := by
  rw [run_append, Option.bind_eq_some_iff]

@[simp]
theorem meets_nil : machine.Meets cond state [] := trivial

theorem meets_of_forall_mem (h : ∀ label ∈ labels, ∀ state, cond state label) :
    machine.Meets cond state labels := by
  induction labels generalizing state with
  | nil => exact meets_nil
  | cons label labels ih =>
      refine ⟨h label List.mem_cons_self state, fun next _ => ?_⟩
      exact ih fun other hother => h other (List.mem_cons_of_mem _ hother)

theorem meets_cons_of_step (hstep : machine.step state label = some next) :
    machine.Meets cond state (label :: labels) ↔
      cond state label ∧ machine.Meets cond next labels := by
  constructor
  · rintro ⟨hcond, hrest⟩
    exact ⟨hcond, hrest next hstep⟩
  · rintro ⟨hcond, hrest⟩
    refine ⟨hcond, fun other hother => ?_⟩
    rw [hstep] at hother
    exact Option.some.inj hother ▸ hrest

theorem meets_append_of_run {before after : List Label}
    (hrun : machine.run state before = some next) :
    machine.Meets cond state (before ++ after) ↔
      machine.Meets cond state before ∧ machine.Meets cond next after := by
  induction before generalizing state with
  | nil =>
      obtain rfl : state = next := Option.some.inj hrun
      simp
  | cons label before ih =>
      obtain ⟨mid, hstep, hrest⟩ := run_cons_eq_some_iff.mp hrun
      rw [List.cons_append, meets_cons_of_step hstep, meets_cons_of_step hstep, ih hrest, and_assoc]

theorem meets_iff_forall_split :
    machine.Meets cond state labels ↔
      ∀ before label after mid, labels = before ++ label :: after →
        machine.run state before = some mid → cond mid label := by
  constructor
  · rintro hmeets before label after mid rfl hrun
    exact ((meets_append_of_run hrun).mp hmeets).2.1
  · intro hall
    induction labels generalizing state with
    | nil => exact meets_nil
    | cons label labels ih =>
        refine ⟨hall [] label labels state rfl rfl, fun next hstep => ih ?_⟩
        intro before other after mid hsplit hrun
        refine hall (label :: before) other after mid (by rw [hsplit, List.cons_append]) ?_
        exact run_cons_eq_some_iff.mpr ⟨next, hstep, hrun⟩

theorem not_meets_of_not (hnot : ¬ cond state label) :
    ¬ machine.Meets cond state (label :: labels) :=
  fun hmeets => hnot hmeets.1

theorem not_meets_append {before after : List Label} (hrun : machine.run state before = some next)
    (hnot : ¬ machine.Meets cond next after) : ¬ machine.Meets cond state (before ++ after) :=
  fun hmeets => hnot ((meets_append_of_run hrun).mp hmeets).2

theorem not_meets_of_any {before after : List Label} {test : State → Bool}
    (htest : ∀ state, test state = true → ¬ cond state label)
    (hany : (machine.run state before).any test = true) :
    ¬ machine.Meets cond state (before ++ label :: after) := by
  obtain ⟨mid, hrun, hmid⟩ := (Option.any_eq_true _ _).mp hany
  exact not_meets_append hrun (not_meets_of_not (htest mid hmid))

def passes (machine : Machine State Label) (test : State → Label → Bool) : State → List Label → Bool
  | _, [] => true
  | state, label :: labels =>
      test state label &&
        match machine.step state label with
        | none => true
        | some next => passes machine test next labels

theorem meets_of_passes {test : State → Label → Bool}
    (htest : ∀ state label, test state label = true → cond state label)
    (hpasses : machine.passes test state labels = true) : machine.Meets cond state labels := by
  induction labels generalizing state with
  | nil => exact meets_nil
  | cons label labels ih =>
      rw [passes, Bool.and_eq_true] at hpasses
      refine ⟨htest state label hpasses.1, fun next hstep => ih ?_⟩
      have hrest := hpasses.2
      rw [hstep] at hrest
      exact hrest

theorem run_invariant_of_meets {Inv : State → Prop}
    (hpreserve : ∀ state label next, Inv state → cond state label →
      machine.step state label = some next → Inv next)
    (hinit : Inv state) (hmeets : machine.Meets cond state labels)
    (hrun : machine.run state labels = some final) : Inv final := by
  induction labels generalizing state with
  | nil => exact Option.some.inj hrun ▸ hinit
  | cons label labels ih =>
      obtain ⟨next, hstep, hrest⟩ := run_cons_eq_some_iff.mp hrun
      obtain ⟨hcond, hmeets⟩ := (meets_cons_of_step hstep).mp hmeets
      exact ih (hpreserve _ _ _ hinit hcond hstep) hmeets hrest

theorem run_invariant {Inv : State → Prop}
    (hpreserve : ∀ state label next, Inv state → machine.step state label = some next → Inv next)
    (hinit : Inv state) (hrun : machine.run state labels = some final) : Inv final := by
  induction labels generalizing state with
  | nil => exact Option.some.inj hrun ▸ hinit
  | cons label labels ih =>
      obtain ⟨next, hstep, hrest⟩ := run_cons_eq_some_iff.mp hrun
      exact ih (hpreserve _ _ _ hinit hstep) hrest

theorem run_invariant_meets {Inv : Prop → State → Prop}
    (hpreserve : ∀ met state label next, Inv met state → machine.step state label = some next →
      Inv (met ∧ cond state label) next)
    (hinit : Inv True state) (hrun : machine.run state labels = some final) :
    Inv (machine.Meets cond state labels) final := by
  have hsuffix (met : Prop) (hmet : Inv met state) :
      Inv (met ∧ machine.Meets cond state labels) final := by
    clear hinit
    induction labels generalizing state met with
    | nil =>
        obtain rfl : state = final := Option.some.inj hrun
        simpa using hmet
    | cons label labels ih =>
        obtain ⟨next, hstep, hrest⟩ := run_cons_eq_some_iff.mp hrun
        rw [meets_cons_of_step hstep, ← and_assoc]
        have hnext := hpreserve _ _ _ _ hmet hstep
        exact ih hrest _ hnext
  simpa using hsuffix True hinit

theorem meets_of_invariant {Inv : State → Prop} {other : State → Label → Prop}
    (himplies : ∀ state label, Inv state → cond state label → other state label)
    (hpreserve : ∀ state label next, Inv state → cond state label →
      machine.step state label = some next → Inv next)
    (hinit : Inv state) (hmeets : machine.Meets cond state labels) :
    machine.Meets other state labels := by
  induction labels generalizing state with
  | nil => exact meets_nil
  | cons label labels ih =>
      obtain ⟨hcond, hrest⟩ := hmeets
      refine ⟨himplies state label hinit hcond, fun next hstep => ?_⟩
      exact ih (hpreserve state label next hinit hcond hstep) (hrest next hstep)

theorem meets_congr {Inv : State → Prop} {other : State → Label → Prop}
    (hagree : ∀ state label, Inv state → (cond state label ↔ other state label))
    (hpreserve : ∀ state label next, Inv state → cond state label →
      machine.step state label = some next → Inv next)
    (hinit : Inv state) : machine.Meets cond state labels ↔ machine.Meets other state labels := by
  induction labels generalizing state with
  | nil => exact Iff.rfl
  | cons label labels ih =>
      have hhead := hagree state label hinit
      constructor
      · rintro ⟨hcond, hrest⟩
        refine ⟨hhead.mp hcond, fun next hstep => ?_⟩
        exact (ih (hpreserve state label next hinit hcond hstep)).mp (hrest next hstep)
      · rintro ⟨hother, hrest⟩
        have hcond := hhead.mpr hother
        refine ⟨hcond, fun next hstep => ?_⟩
        exact (ih (hpreserve state label next hinit hcond hstep)).mpr (hrest next hstep)

theorem meets_congr_of_run {other given : State → Label → Prop}
    (hagree : ∀ state label next, given state label → machine.step state label = some next →
      (cond state label ↔ other state label))
    (hgiven : machine.Meets given state labels) (hrun : machine.run state labels = some final) :
    machine.Meets cond state labels ↔ machine.Meets other state labels := by
  induction labels generalizing state with
  | nil => exact Iff.rfl
  | cons label labels ih =>
      obtain ⟨next, hstep, hrest⟩ := run_cons_eq_some_iff.mp hrun
      obtain ⟨hhead, htail⟩ := (meets_cons_of_step hstep).mp hgiven
      rw [meets_cons_of_step hstep, meets_cons_of_step hstep, hagree _ _ _ hhead hstep,
        ih htail hrest]

end Machine

end AiAnalytics.Lib
