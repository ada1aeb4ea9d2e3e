import AiAnalytics.Lib.PyOps
import Mathlib.Data.List.Nodup
import Mathlib.Data.List.Perm.Subperm

/-!
# Equality of decoded values

Python's `==`: lists item by item, dictionaries by their entries in any order, and numbers of every
type by their value. How floats compare is a parameter.
-/

namespace AiAnalytics.Lib

variable {Float : Type}

section Definitions

variable (numEq : Int ⊕ Float → Int ⊕ Float → Bool)

mutual

/-- `a == b` -/
def pyEq : PyValue Float → PyValue Float → Bool
  | .none, .none => true
  | .str s, .str t => decide (s = t)
  | .list xs, .list ys => pyEqItems xs ys
  | .dict xs, .dict ys => decide (xs.length = ys.length) && pyEqEntries xs ys
  | a, b => match a.asNumber, b.asNumber with
    | some x, some y => numEq x y
    | _, _ => false

def pyEqItems : List (PyValue Float) → List (PyValue Float) → Bool
  | [], [] => true
  | x :: xs, y :: ys => pyEq x y && pyEqItems xs ys
  | _, _ => false

def pyEqEntries : List (String × PyValue Float) → List (String × PyValue Float) → Bool
  | [], _ => true
  | (k, x) :: xs, ys => (match ys.lookup k with
      | some y => pyEq x y
      | none => false) && pyEqEntries xs ys

end

end Definitions

inductive DistinctKeys : PyValue Float → Prop where
  | none : DistinctKeys .none
  | bool (b : Bool) : DistinctKeys (.bool b)
  | int (n : Int) : DistinctKeys (.int n)
  | float (x : Float) : DistinctKeys (.float x)
  | decimal (d : Decimal) : DistinctKeys (.decimal d)
  | str (s : String) : DistinctKeys (.str s)
  | list {items : List (PyValue Float)} (h : ∀ item ∈ items, DistinctKeys item) :
    DistinctKeys (.list items)
  | dict {entries : List (String × PyValue Float)} (hkeys : (entries.map Prod.fst).Nodup)
      (h : ∀ entry ∈ entries, DistinctKeys entry.2) : DistinctKeys (.dict entries)

section Symmetry

variable {numEq : Int ⊕ Float → Int ⊕ Float → Bool} {a b : PyValue Float}
  {xs ys : List (String × PyValue Float)}

theorem distinctKeys_dict_iff : DistinctKeys (.dict xs) ↔
    (xs.map Prod.fst).Nodup ∧ ∀ entry ∈ xs, DistinctKeys entry.2 := by
  constructor
  · intro h
    cases h with
    | dict hkeys hentries => exact ⟨hkeys, hentries⟩
  · rintro ⟨hkeys, hentries⟩
    exact .dict hkeys hentries

theorem pyEqEntries_iff : pyEqEntries numEq xs ys = true ↔
    ∀ entry ∈ xs, ∃ y, ys.lookup entry.1 = some y ∧ pyEq numEq entry.2 y = true := by
  induction xs with
  | nil => exact iff_of_true (by rw [pyEqEntries]) (List.forall_mem_nil _)
  | cons entry xs ih =>
      obtain ⟨k, x⟩ := entry
      rw [pyEqEntries, Bool.and_eq_true, ih, List.forall_mem_cons]
      refine and_congr_left fun _ => ?_
      cases ys.lookup k with
      | none => simp
      | some y => simp

theorem lookup_of_mem {entry : String × PyValue Float} (hkeys : (xs.map Prod.fst).Nodup)
    (h : entry ∈ xs) : xs.lookup entry.1 = some entry.2 := by
  induction xs with
  | nil => cases h
  | cons first xs ih =>
      obtain ⟨hfirst, hkeys⟩ := List.nodup_cons.mp hkeys
      rcases List.mem_cons.mp h with rfl | h
      · rw [List.lookup_cons, beq_self_eq_true]
      · have hne : (entry.1 == first.1) = false :=
          beq_eq_false_iff_ne.mpr fun hsame => hfirst (hsame ▸ List.mem_map_of_mem h)
        rw [List.lookup_cons, hne, ih hkeys h]

theorem mem_of_lookup {k : String} {x : PyValue Float} (h : xs.lookup k = some x) :
    (k, x) ∈ xs := by
  obtain ⟨before, after, hsplit, -⟩ := List.lookup_eq_some_iff.mp h
  rw [hsplit]
  exact List.mem_append_right _ List.mem_cons_self

theorem pyEqEntries_swap
    (hcomm : ∀ entry ∈ xs, ∀ other ∈ ys, pyEq numEq entry.2 other.2 = pyEq numEq other.2 entry.2)
    (hxs : (xs.map Prod.fst).Nodup) (hlength : xs.length = ys.length)
    (h : pyEqEntries numEq xs ys = true) :
    pyEqEntries numEq ys xs = true := by
  rw [pyEqEntries_iff] at h ⊢
  have hsubset : xs.map Prod.fst ⊆ ys.map Prod.fst := by
    intro k hk
    obtain ⟨entry, hentry, rfl⟩ := List.mem_map.mp hk
    obtain ⟨y, hy, -⟩ := h entry hentry
    exact List.mem_map.mpr ⟨_, mem_of_lookup hy, rfl⟩
  have hperm : (xs.map Prod.fst).Perm (ys.map Prod.fst) := by
    refine (List.subperm_of_subset hxs hsubset).perm_of_length_le ?_
    rw [List.length_map, List.length_map, hlength]
  have hys : (ys.map Prod.fst).Nodup := hperm.nodup_iff.mp hxs
  intro other hother
  obtain ⟨entry, hentry, hkey⟩ := List.mem_map.mp (hperm.symm.subset (List.mem_map_of_mem hother))
  obtain ⟨y, hy, heq⟩ := h entry hentry
  obtain rfl : other.2 = y := by
    have hlookup := lookup_of_mem hys hother
    rw [← hkey, hy] at hlookup
    exact (Option.some.inj hlookup).symm
  exact ⟨entry.2, by rw [← hkey]; exact lookup_of_mem hxs hentry,
    by rwa [← hcomm entry hentry other hother]⟩

theorem pyEqItems_comm {items : List (PyValue Float)}
    (hcomm : ∀ item ∈ items, ∀ other, DistinctKeys other →
      pyEq numEq item other = pyEq numEq other item)
    {others : List (PyValue Float)} (h : ∀ other ∈ others, DistinctKeys other) :
    pyEqItems numEq items others = pyEqItems numEq others items := by
  induction items generalizing others with
  | nil => cases others <;> simp only [pyEqItems]
  | cons item items ih =>
      cases others with
      | nil => simp only [pyEqItems]
      | cons other others =>
          obtain ⟨hitem, hitems⟩ := List.forall_mem_cons.mp hcomm
          obtain ⟨hother, hothers⟩ := List.forall_mem_cons.mp h
          rw [pyEqItems, pyEqItems, hitem other hother, ih hitems hothers]

theorem pyEq_comm (hnum : ∀ x y, numEq x y = numEq y x) (ha : DistinctKeys a)
    (hb : DistinctKeys b) : pyEq numEq a b = pyEq numEq b a := by
  induction ha generalizing b with
  | list _ ih =>
      cases hb with
      | list hothers =>
          rw [pyEq, pyEq]
          exact pyEqItems_comm (fun item hitem other hother => ih item hitem hother) hothers
      | _ => simp [pyEq, PyValue.asNumber]
  | @dict xs hkeys _ ih =>
      cases hb with
      | @dict ys hkeys' hothers =>
          have hcomm : ∀ entry ∈ xs, ∀ other ∈ ys, pyEq numEq entry.2 other.2 =
              pyEq numEq other.2 entry.2 :=
            fun entry hentry other hother => ih entry hentry (hothers other hother)
          rw [pyEq, pyEq, Bool.eq_iff_iff, Bool.and_eq_true, Bool.and_eq_true, decide_eq_true_iff,
            decide_eq_true_iff]
          constructor
          · rintro ⟨hlength, h⟩
            exact ⟨hlength.symm, pyEqEntries_swap hcomm hkeys hlength h⟩
          · rintro ⟨hlength, h⟩
            refine ⟨hlength.symm, pyEqEntries_swap (fun other hother entry hentry =>
              ?_) hkeys' hlength h⟩
            exact (hcomm entry hentry other hother).symm
      | _ => simp [pyEq, PyValue.asNumber]
  | str s => cases hb <;> simp [pyEq, PyValue.asNumber, eq_comm]
  | none => cases hb <;> simp [pyEq, PyValue.asNumber]
  | decimal d => cases hb <;> simp [pyEq, PyValue.asNumber]
  | bool b => cases hb <;> simp [pyEq, PyValue.asNumber, hnum]
  | int n => cases hb <;> simp [pyEq, PyValue.asNumber, hnum]
  | float x => cases hb <;> simp [pyEq, PyValue.asNumber, hnum]

end Symmetry

end AiAnalytics.Lib
