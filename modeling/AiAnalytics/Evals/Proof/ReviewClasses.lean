import AiAnalytics.Evals.Reviews

/-!
# The classes of the lines of a review file

The loop of `load_reviews` is a classification of the lines: which class a line falls into depends
on the ids seen before it and on nothing else, and what is returned is read off the classes.
-/

namespace AiAnalytics.Evals

open Lib

variable {Float : Type} {lib : ReviewLibrary Float} {run : FrozenRun}

section Classes

def LineClass.newId : LineClass Float → Option String
  | .malformed _ | .duplicate _ => none
  | .stale reviewId | .orphaned reviewId => some reviewId
  | .applied entries => some (textOf entries "review_id")

def LineClass.see (cls : LineClass Float) (seen : List String) : List String :=
  cls.newId.toList ++ seen

def seeAll (seen : List String) (classes : List (Nat × LineClass Float)) : List String :=
  classes.foldl (fun seen cls => cls.2.see seen) seen

variable (lib run) in
def lineClasses (seen : List String) (n : Nat) :
    List (List Char) → Except LoadsError (List (Nat × LineClass Float))
  | [] => .ok []
  | line :: lines => do
      if strip line = [] then lineClasses seen (n + 1) lines
      else
        let cls ← classify lib run seen line
        let classes ← lineClasses (cls.see seen) (n + 1) lines
        return (n, cls) :: classes

variable {seen : List String} {n : Nat} {line : List Char} {lines more : List (List Char)}
  {classes : List (Nat × LineClass Float)}

theorem lineClasses_blank (h : strip line = []) :
    lineClasses lib run seen n (line :: lines) = lineClasses lib run seen (n + 1) lines := by
  rw [lineClasses, if_pos h]

theorem lineClasses_cons (h : strip line ≠ []) :
    lineClasses lib run seen n (line :: lines) = (do
      let cls ← classify lib run seen line
      let classes ← lineClasses lib run (cls.see seen) (n + 1) lines
      return (n, cls) :: classes) := by
  rw [lineClasses, if_neg h]

theorem lineClasses_cons_eq_ok_iff (h : strip line ≠ []) :
    lineClasses lib run seen n (line :: lines) = .ok classes ↔
      ∃ cls rest, classify lib run seen line = .ok cls ∧
        lineClasses lib run (cls.see seen) (n + 1) lines = .ok rest ∧
        classes = (n, cls) :: rest := by
  rw [lineClasses_cons h]
  simp only [bind_eq_ok_iff, pure, Except.pure, Except.ok.injEq]
  constructor
  · rintro ⟨cls, hcls, rest, hrest, rfl⟩
    exact ⟨cls, rest, hcls, hrest, rfl⟩
  · rintro ⟨cls, rest, hcls, hrest, rfl⟩
    exact ⟨cls, hcls, rest, hrest, rfl⟩

theorem lineClasses_append : lineClasses lib run seen n (lines ++ more) = (do
      let classes ← lineClasses lib run seen n lines
      let later ← lineClasses lib run (seeAll seen classes) (n + lines.length) more
      return classes ++ later) := by
  induction lines generalizing seen n with
  | nil =>
      cases hmore : lineClasses lib run seen n more <;>
        simp [lineClasses, seeAll, hmore, bind, Except.bind, pure, Except.pure]
  | cons line lines ih =>
      have hlength : n + (line :: lines).length = n + 1 + lines.length := by
        rw [List.length_cons]
        omega
      rw [List.cons_append, hlength]
      by_cases hblank : strip line = []
      · rw [lineClasses_blank hblank, lineClasses_blank hblank, ih]
      · rw [lineClasses_cons hblank, lineClasses_cons hblank]
        cases classify lib run seen line with
        | error error => rfl
        | ok cls =>
            simp only [bind, Except.bind, ih, pure, Except.pure]
            cases lineClasses lib run (cls.see seen) (n + 1) lines with
            | error error => rfl
            | ok classes =>
                simp only [seeAll, List.foldl_cons]
                cases lineClasses lib run (classes.foldl (fun seen cls => cls.2.see seen)
                  (cls.see seen)) (n + 1 + lines.length) more <;> rfl

/-- The line does not make `json.loads` raise anything that the loop does not handle. -/
def Loadable (lib : ReviewLibrary Float) (line : List Char) : Prop :=
  ∀ error, lib.loads line = .error error → error = .jsonDecodeError

theorem exists_classify_iff : (∃ cls, classify lib run seen line = .ok cls) ↔
    Loadable lib line := by
  unfold classify Loadable
  cases hloads : lib.loads line with
  | ok value => simp
  | error error => cases error <;> simp

theorem exists_lineClasses_iff : (∃ classes, lineClasses lib run seen n lines = .ok classes) ↔
    ∀ line ∈ lines, strip line ≠ [] → Loadable lib line := by
  induction lines generalizing seen n with
  | nil => exact iff_of_true ⟨[], rfl⟩ (List.forall_mem_nil _)
  | cons line lines ih =>
      rw [List.forall_mem_cons]
      by_cases hblank : strip line = []
      · rw [lineClasses_blank hblank, ih]
        exact (and_iff_right fun h => absurd hblank h).symm
      · simp only [lineClasses_cons_eq_ok_iff hblank]
        constructor
        · rintro ⟨_, cls, rest, hcls, hrest, -⟩
          exact ⟨fun _ => exists_classify_iff.mp ⟨cls, hcls⟩, ih.mp ⟨rest, hrest⟩⟩
        · rintro ⟨hline, hlines⟩
          obtain ⟨cls, hcls⟩ := exists_classify_iff.mpr (hline hblank)
          obtain ⟨rest, hrest⟩ := ih.mpr hlines
          exact ⟨_, cls, rest, hcls, hrest, rfl⟩

def lineNumbers (n : Nat) : List (List Char) → List Nat
  | [] => []
  | line :: lines =>
    if strip line = [] then lineNumbers (n + 1) lines else n :: lineNumbers (n + 1) lines

theorem map_fst_lineClasses (h : lineClasses lib run seen n lines = .ok classes) :
    classes.map Prod.fst = lineNumbers n lines := by
  induction lines generalizing seen n classes with
  | nil =>
      obtain rfl := Except.ok.inj h
      rfl
  | cons line lines ih =>
      by_cases hblank : strip line = []
      · rw [lineClasses_blank hblank] at h
        rw [lineNumbers, if_pos hblank, ih h]
      · obtain ⟨cls, rest, -, hrest, rfl⟩ := (lineClasses_cons_eq_ok_iff hblank).mp h
        rw [lineNumbers, if_neg hblank, List.map_cons, ih hrest]

theorem le_of_mem_lineNumbers {m : Nat} (h : m ∈ lineNumbers n lines) :
    n ≤ m ∧ m < n + lines.length := by
  induction lines generalizing n with
  | nil => exact absurd h List.not_mem_nil
  | cons line lines ih =>
      rw [lineNumbers] at h
      rw [List.length_cons]
      split_ifs at h
      · have := ih h
        omega
      · rcases List.mem_cons.mp h with rfl | h
        · omega
        · have := ih h
          omega

theorem pairwise_lineNumbers : (lineNumbers n lines).Pairwise (· < ·) := by
  induction lines generalizing n with
  | nil => exact List.Pairwise.nil
  | cons line lines ih =>
      rw [lineNumbers]
      split_ifs
      · exact ih
      · exact List.pairwise_cons.mpr ⟨fun m hm => (le_of_mem_lineNumbers hm).1, ih⟩

end Classes

section Results

variable {state : LoadState Float} {n : Nat} {lines : List (List Char)}
  {classes : List (Nat × LineClass Float)}

variable (lib) in
def LoadState.absorbAll (state : LoadState Float) (classes : List (Nat × LineClass Float)) :
    LoadState Float :=
  classes.foldl (fun state cls => state.absorb lib cls.1 cls.2) state

theorem seen_absorb (state : LoadState Float) (n : Nat) (cls : LineClass Float) :
    (state.absorb lib n cls).seen = cls.see state.seen := by
  cases cls <;> rfl

theorem readReviewLines_eq : readReviewLines lib run state n lines =
    (lineClasses lib run state.seen n lines).map fun classes => state.absorbAll lib classes := by
  induction lines generalizing state n with
  | nil => rfl
  | cons line lines ih =>
      rw [readReviewLines]
      by_cases hblank : strip line = []
      · rw [if_pos hblank, lineClasses_blank hblank, ih]
      · rw [if_neg hblank, lineClasses_cons hblank]
        cases classify lib run state.seen line with
        | error error => rfl
        | ok cls =>
            simp only [bind, Except.bind, ih, seen_absorb]
            cases lineClasses lib run (cls.see state.seen) (n + 1) lines <;> rfl

def malformedOf (cls : Nat × LineClass Float) : Option (Nat × String) :=
  match cls with
  | (n, .malformed reason) => some (n, reason)
  | _ => none

def duplicateOf (cls : Nat × LineClass Float) : Option String :=
  match cls with
  | (_, .duplicate reviewId) => some reviewId
  | _ => none

def staleOf (cls : Nat × LineClass Float) : Option String :=
  match cls with
  | (_, .stale reviewId) => some reviewId
  | _ => none

def orphanedOf (cls : Nat × LineClass Float) : Option String :=
  match cls with
  | (_, .orphaned reviewId) => some reviewId
  | _ => none

variable (lib) in
def appliedOf (cls : Nat × LineClass Float) : Option (AppliedReview Float) :=
  match cls with
  | (n, .applied entries) =>
      some
        { reviewedAt := (parseTs lib (fieldOf entries "reviewed_at")).getD 0, line := n, entries }
  | _ => none

structure Collected (lib : ReviewLibrary Float) (classes : List (Nat × LineClass Float))
    (state : LoadState Float) : Prop where
  malformed : state.out.malformed = classes.filterMap malformedOf
  duplicates : state.out.duplicates = classes.filterMap duplicateOf
  stale : state.out.stale = classes.filterMap staleOf
  orphaned : state.out.orphaned = classes.filterMap orphanedOf
  groups : state.groups = groupBy AppliedReview.key (classes.filterMap (appliedOf lib))

theorem Collected.empty : Collected lib [] {} := ⟨rfl, rfl, rfl, rfl, rfl⟩

theorem Collected.absorb (h : Collected lib classes state) (n : Nat) (cls : LineClass Float) :
    Collected lib (classes ++ [(n, cls)]) (state.absorb lib n cls) := by
  constructor <;> cases cls <;>
    simp [LoadState.absorb, List.filterMap_cons, malformedOf, duplicateOf, staleOf, orphanedOf,
      appliedOf,
      h.malformed, h.duplicates, h.stale, h.orphaned, h.groups, groupBy_concat, AppliedReview.key]

theorem Collected.absorbAll (h : Collected lib classes state)
    (more : List (Nat × LineClass Float)) :
    Collected lib (classes ++ more) (state.absorbAll lib more) := by
  induction more generalizing classes state with
  | nil => simpa [LoadState.absorbAll] using h
  | cons cls more ih =>
      have hnext := ih (h.absorb cls.1 cls.2)
      rwa [List.append_assoc] at hnext

variable (lib) in
def reviewsOf (classes : List (Nat × LineClass Float)) : Reviews Float :=
  (({} : LoadState Float).absorbAll lib classes).resolve

theorem loadReviews_eq (text : List Char) : loadReviews lib run text =
    (lineClasses lib run [] 1 (splitLines text)).map (reviewsOf lib) := by
  rw [loadReviews, readReviewLines_eq]
  cases lineClasses lib run [] 1 (splitLines text) <;> rfl

end Results

end AiAnalytics.Evals
