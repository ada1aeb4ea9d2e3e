import Mathlib.Data.List.Pairwise
import Mathlib.Tactic.Common

/-!
# Sorted answers of a database

`ORDER BY` compares rows key by key, and rows that agree in every key may come in any order. An
answer is therefore a relation between the rows found and the rows returned; it is a function once
no two rows agree in every key.
-/

namespace AiAnalytics.Lib

/-- The order on cells, up and down. Cells of which each may come first are the same to the
database, whichever way it sorts. -/
structure CellOrder (Cell : Type*) where
  le : Bool → Cell → Cell → Prop
  total : ∀ descending a b, le descending a b ∨ le descending b a
  trans : ∀ descending a b c, le descending a b → le descending b c → le descending a c
  same_up_down : ∀ a b, (le true a b ∧ le true b a) ↔ (le false a b ∧ le false b a)

structure OrderTerm where
  key : String
  descending : Bool
deriving DecidableEq, Repr

section Rows

variable {Cell : Type*} (order : CellOrder Cell)

def CellOrder.Same (a b : Cell) : Prop := order.le false a b ∧ order.le false b a

theorem CellOrder.same_of_le {order : CellOrder Cell} {descending : Bool} {a b : Cell}
    (h : order.le descending a b) (h' : order.le descending b a) : order.Same a b := by
  cases descending with
  | false => exact ⟨h, h'⟩
  | true => exact (order.same_up_down a b).mp ⟨h, h'⟩

abbrev Row (Cell : Type*) := String → Cell

def RowLe : List OrderTerm → Row Cell → Row Cell → Prop
  | [], _, _ => True
  | term :: terms, a, b =>
      order.le term.descending (a term.key) (b term.key) ∧
        (order.le term.descending (b term.key) (a term.key) → RowLe terms a b)

variable {order} {terms : List OrderTerm} {a b c : Row Cell}

theorem rowLe_total (terms : List OrderTerm) (a b : Row Cell) :
    RowLe order terms a b ∨ RowLe order terms b a := by
  induction terms with
  | nil => exact .inl trivial
  | cons term terms ih =>
      rcases order.total term.descending (a term.key) (b term.key) with hfirst | hfirst
      · by_cases hback : order.le term.descending (b term.key) (a term.key)
        · exact ih.imp (fun h => ⟨hfirst, fun _ => h⟩) fun h => ⟨hback, fun _ => h⟩
        · exact .inl ⟨hfirst, fun h => absurd h hback⟩
      · by_cases hback : order.le term.descending (a term.key) (b term.key)
        · exact ih.imp (fun h => ⟨hback, fun _ => h⟩) fun h => ⟨hfirst, fun _ => h⟩
        · exact .inr ⟨hfirst, fun h => absurd h hback⟩

theorem RowLe.trans (h : RowLe order terms a b) (h' : RowLe order terms b c) :
    RowLe order terms a c := by
  induction terms with
  | nil => trivial
  | cons term terms ih =>
      refine ⟨order.trans _ _ _ _ h.1 h'.1, fun hback => ?_⟩
      have hcb := order.trans _ _ _ _ hback h.1
      have hba := order.trans _ _ _ _ h'.1 hback
      exact ih (h.2 hba) (h'.2 hcb)

theorem RowLe.same (h : RowLe order terms a b) (h' : RowLe order terms b a) :
    ∀ term ∈ terms, order.Same (a term.key) (b term.key) := by
  induction terms with
  | nil => simp
  | cons term terms ih =>
      rw [List.forall_mem_cons]
      exact ⟨CellOrder.same_of_le h.1 h'.1, ih (h.2 h'.1) (h'.2 h.1)⟩

def Answers (order : CellOrder Cell) (terms : List OrderTerm) (limit : Nat)
    (found answer : List (Row Cell)) : Prop :=
  ∃ sorted : List (Row Cell), sorted.Perm found ∧ sorted.Pairwise (RowLe order terms) ∧
    answer = sorted.take limit

theorem exists_sorted (order : CellOrder Cell) (terms : List OrderTerm) (found : List (Row Cell)) :
    ∃ sorted : List (Row Cell), sorted.Perm found ∧ sorted.Pairwise (RowLe order terms) := by
  classical
  set before : Row Cell → Row Cell → Bool := fun a b => decide (RowLe order terms a b)
  have htrans (a b c : Row Cell) (hab : before a b = true) (hbc : before b c = true) :
      before a c = true :=
    decide_eq_true ((of_decide_eq_true hab).trans (of_decide_eq_true hbc))
  have htotal (a b : Row Cell) : (before a b || before b a) = true := by
    simpa [before] using rowLe_total terms a b
  have hsorted : (found.mergeSort before).Pairwise fun a b => before a b = true :=
    List.pairwise_mergeSort htrans htotal found
  exact ⟨found.mergeSort before, List.mergeSort_perm .., hsorted.imp fun h => of_decide_eq_true h⟩

theorem answers_unique {found : List (Row Cell)} (hdistinct : found.Pairwise fun a b =>
      ∃ term ∈ terms, ¬ order.Same (a term.key) (b term.key)) (limit : Nat) :
    ∃ rows, ∀ found', found'.Perm found →
      ∀ answer, Answers order terms limit found' answer ↔ answer = rows := by
  obtain ⟨sorted, hperm, hsorted⟩ := exists_sorted order terms found
  have hapart : ∀ a ∈ found, ∀ b ∈ found, a ≠ b → ∃ term ∈ terms, ¬ order.Same (a term.key)
      (b term.key) := by
    have hsymm : Std.Symm fun a b : Row Cell => ∃ term ∈ terms, ¬ order.Same (a term.key)
        (b term.key) := by
      refine ⟨fun a b hab => ?_⟩
      obtain ⟨term, hterm, hsame⟩ := hab
      exact ⟨term, hterm, fun h => hsame ⟨h.2, h.1⟩⟩
    intro a ha b hb hne
    exact hdistinct.forall ha hb hne
  refine ⟨sorted.take limit, fun found' hfound answer => ⟨?_, ?_⟩⟩
  · rintro ⟨other, hother, hordered, rfl⟩
    have hequal : other = sorted := by
      refine List.Perm.eq_of_pairwise (fun a b ha hb hab hba => ?_) hordered hsorted
        (hother.trans (hfound.trans hperm.symm))
      by_contra hne
      obtain ⟨term, hterm, hsame⟩ :=
        hapart a (hfound.subset (hother.subset ha)) b (hperm.subset hb) hne
      exact hsame (hab.same hba term hterm)
    rw [hequal]
  · rintro rfl
    exact ⟨sorted, hperm.trans hfound.symm, hsorted, rfl⟩

end Rows

end AiAnalytics.Lib
