import AiAnalytics.Dataset.Analytics
import AiAnalytics.Lib.Accepts

/-!
# Where a tool raises a validation error

Only the checks of the arguments raise a `QueryValidationError`. What follows them, from the query
to the envelope, raises others at most.
-/

namespace AiAnalytics.Dataset

open Lib

def RaisesNoQueryError {α : Type} (x : Governed α) : Prop :=
  ∀ error, x ≠ .error (.py (.raised error))

section Rules

variable {α β : Type} {x : Checked α} {y : Governed α} {f : α → Governed β}

theorem accepts_checked_iff : Accepts (checked x) ↔ Accepts x := by
  cases x with
  | error error => exact iff_of_false (not_accepts_error _) (not_accepts_error error)
  | ok a => exact iff_of_true (accepts_ok a) (accepts_ok a)

theorem raisesNone_ok (a : α) : RaisesNoQueryError (.ok a) := nofun

theorem raisesNone_bind (hy : RaisesNoQueryError y) (hf : ∀ a, RaisesNoQueryError (f a)) :
    RaisesNoQueryError (y >>= f) := by
  cases y with
  | error error =>
      intro raised heq
      exact hy raised (congrArg Except.error (Except.error.inj heq))
  | ok a => exact hf a

theorem raisesNone_checked_iff : RaisesNoQueryError (checked x) ↔ Foreign x := by
  cases x with
  | error error =>
      constructor
      · rintro hnone _ ⟨⟩ hown
        cases error with
        | raised error => exact hnone error rfl
        | _ => exact hown
      · rintro hforeign raised ⟨⟩
        exact hforeign _ rfl trivial
  | ok a => exact iff_of_true (raisesNone_ok a) (foreign_ok a)

theorem raisesNone_checked_bind (hx : Foreign x) (hf : ∀ a, RaisesNoQueryError (f a)) :
    RaisesNoQueryError (checked x >>= f) :=
  raisesNone_bind (raisesNone_checked_iff.mpr hx) hf

theorem raisesNone_checked_bind_of_ok {a : α} (hx : x = .ok a) :
    RaisesNoQueryError (checked x >>= f) ↔ RaisesNoQueryError (f a) := by
  subst hx
  exact Iff.rfl

theorem raisesNone_checked_bind_iff {p : Prop}
    (hf : ∀ a, x = .ok a → (RaisesNoQueryError (f a) ↔ p)) :
    RaisesNoQueryError (checked x >>= f) ↔ Foreign x ∧ (Accepts x → p) := by
  cases x with
  | error error =>
      have hbind : (checked (.error error : Checked α) >>= f) = .error (.py error) := rfl
      have hforeign : RaisesNoQueryError (.error (.py error) : Governed β) ↔
          Foreign (.error error : Checked α) :=
        (raisesNone_checked_iff (x := (.error error : Checked β))).trans
          ⟨fun h raised heq => h raised (congrArg Except.error (Except.error.inj heq)),
            fun h raised heq => h raised (congrArg Except.error (Except.error.inj heq))⟩
      rw [hbind, hforeign]
      exact ⟨fun h => ⟨h, fun hok => absurd hok (not_accepts_error error)⟩, And.left⟩
  | ok a =>
    exact (hf a rfl).trans ⟨fun h => ⟨foreign_ok a, fun _ => h⟩, fun h => h.2 (accepts_ok a)⟩

end Rules

section Tools

variable {Float : Type} {lib : PyLibrary Float} {db : Database Float} {envelope : Envelope Float}

theorem raisesNone_fitLoop {maxBytes rows : Nat} :
    RaisesNoQueryError (fitLoop lib maxBytes rows envelope) := by
  induction rows generalizing envelope with
  | zero =>
      rw [fitLoop]
      split
      · exact nofun
      · split_ifs
        · exact raisesNone_ok _
        · exact nofun
  | succ rows ih =>
      rw [fitLoop]
      split
      · exact nofun
      · split_ifs
        · exact raisesNone_ok _
        · exact ih

theorem raisesNone_augmentEnvelope {maxBytes : Nat} {extra : List (String × PyValue Float)} :
    RaisesNoQueryError (augmentEnvelope lib envelope maxBytes extra) := raisesNone_fitLoop

theorem raisesNone_runGovernedQuery {query : CompiledQuery Float} {limit : Int} {maxBytes : Nat} :
    RaisesNoQueryError (runGovernedQuery lib db query limit maxBytes) := by
  rw [runGovernedQuery]
  split_ifs
  · exact nofun
  · split
    · exact nofun
    · exact nofun
    · exact nofun
    · exact raisesNone_fitLoop

section Cells

variable {cells : List (PyValue Float)} {baseline comparison : PyValue Float}

theorem foreign_cellAt (i : Nat) : Foreign (cellAt cells i) := by
  rw [cellAt]
  split
  · exact foreign_ok _
  · exact foreign_error id

theorem foreign_delta : Foreign (delta lib baseline comparison) := by
  rw [delta]
  split_ifs
  · exact foreign_map foreign_arith
  · exact foreign_ok _

theorem foreign_quotient {x y : PyValue Float} : Foreign (quotient lib x y) := by
  unfold quotient
  split
  · split
    · exact foreign_ok _
    · exact foreign_error id
  · exact foreign_arith

theorem foreign_deltaPct : Foreign (deltaPct lib baseline comparison) := by
  rw [deltaPct]
  split_ifs
  · apply foreign_bind foreign_arith
    intro difference
    apply foreign_bind foreign_quotient
    intro ratio
    exact foreign_map foreign_arith
  · exact foreign_ok _

theorem foreign_sideCell (given : Bool) (i : Nat) : Foreign (sideCell cells given i) := by
  rw [sideCell]
  split_ifs
  · exact foreign_cellAt i
  · exact foreign_ok _

theorem foreign_wholeRow (baselineGiven comparisonGiven : Bool) (index : Nat)
    (measure : MeasureName) :
    Foreign (wholeRow lib cells baselineGiven comparisonGiven index measure) := by
  apply foreign_bind (foreign_sideCell baselineGiven _)
  intro baseline
  apply foreign_bind (foreign_sideCell comparisonGiven _)
  intro comparison
  apply foreign_bind foreign_delta
  intro change
  apply foreign_bind foreign_deltaPct
  intro changePct
  exact foreign_ok _

theorem foreign_segmentRow (count : Nat) : Foreign (segmentRow lib count cells) := by
  apply foreign_bind (foreign_cellAt 0)
  intro dimension
  refine foreign_bind (foreign_mapM (fun index => ?_) _) fun rows => foreign_ok _
  apply foreign_bind (foreign_cellAt _)
  intro baseline
  apply foreign_bind (foreign_cellAt _)
  intro comparison
  exact foreign_bind foreign_delta fun change => foreign_ok _

end Cells

end Tools

end AiAnalytics.Dataset
