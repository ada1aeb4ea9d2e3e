import AiAnalytics.Evals.ToolGrading
import Mathlib.Algebra.Order.Ring.Rat

/-!
# Tool grading as a matching

Both graders give the calls away by first fit. The result is that of a matching in every order
exactly if first fit cannot get stuck where all tools can be assigned, and no call that fits fails
for its arguments where the calls can be matched.
-/

namespace AiAnalytics.Evals

open Lib

variable {Float : Type} {lib : GraderLibrary Float} {expected : List (ExpectedTool Float)}
  {actual : List (ToolUse Float)} {exp : ExpectedTool Float} {use : ToolUse Float}

def HasArguments (exp : ExpectedTool Float) (use : ToolUse Float) : Prop :=
  (∀ key ∈ exp.requiredArgs, (argument use.arguments key).isNone = false) ∧
    ∀ key ∈ exp.forbiddenArgs, (argument use.arguments key).isNone = true

def Fits (lib : GraderLibrary Float) (exp : ExpectedTool Float) (use : ToolUse Float) : Prop :=
  fitsCall lib exp use = true

def CorrectCall (lib : GraderLibrary Float) (exp : ExpectedTool Float) (use : ToolUse Float) :
    Prop :=
  Fits lib exp use ∧ HasArguments exp use

theorem badArgument_eq_none_iff : badArgument lib exp use = none ↔ HasArguments exp use := by
  unfold badArgument HasArguments
  cases hrequired : exp.requiredArgs.find? fun key => (argument use.arguments key).isNone with
  | some key =>
      refine iff_of_false nofun fun h => ?_
      have hmissing := h.1 key (List.mem_of_find?_eq_some hrequired)
      rw [List.find?_some hrequired] at hmissing
      cases hmissing
  | none =>
      have hall := List.find?_eq_none.mp hrequired
      simp only [Option.map_eq_none_iff, List.find?_eq_none, Bool.not_eq_true', Bool.not_eq_false]
      exact (and_iff_right fun key hkey => Bool.eq_false_iff.mpr (hall key hkey)).symm

section Loops

variable (lib expected actual) in
def fitTools : FirstFit (ExpectedTool Float) (ToolUse Float) :=
  firstFit (fitsCall lib) expected actual

theorem countHits_eq :
    countHits lib expected actual = (fitTools lib expected actual).pairs.length := by
  unfold fitTools
  induction expected generalizing actual with
  | nil => rfl
  | cons exp expected ih =>
      rw [countHits, firstFit]
      cases actual.find? (fitsCall lib exp) with
      | some use => exact congrArg (· + 1) ih
      | none => exact ih

theorem consume_eq : consume lib expected actual =
    match (fitTools lib expected actual).pairs.findSome? fun pair =>
      badArgument lib pair.1 pair.2 with
    | some reason => .error reason
    | none =>
      .ok ((fitTools lib expected actual).unmet, (fitTools lib expected actual).remaining) := by
  unfold fitTools
  induction expected generalizing actual with
  | nil => rfl
  | cons exp expected ih =>
      rw [consume, firstFit]
      cases actual.find? (fitsCall lib exp) with
      | none =>
          simp only [ih]
          cases (firstFit (fitsCall lib) expected actual).pairs.findSome? fun pair =>
            badArgument lib pair.1 pair.2 <;> rfl
      | some use =>
          simp only [List.findSome?_cons]
          cases badArgument lib exp use with
          | some reason => rfl
          | none => exact ih

theorem toolScore_eq_one_iff (h : expected ≠ []) :
    toolScore lib expected actual = 1 ↔ (fitTools lib expected actual).unmet = [] := by
  have hlength := (firstFit_spec (fitsCall lib) expected actual).permRequests.length_eq
  rw [List.length_append, List.length_map] at hlength
  have hpos : (expected.length : ℚ) ≠ 0 := by
    rw [Nat.cast_ne_zero]
    exact fun hzero => h (List.length_eq_zero_iff.mp hzero)
  rw [toolScore, if_neg h, div_eq_one_iff_eq hpos, Nat.cast_inj,
    countHits_eq, ← List.length_eq_zero_iff]
  unfold fitTools
  omega

theorem gradeUnmet_ne_correct {turn : Turn Float} {factsVerified : Bool}
    {unmet : List (ExpectedTool Float)} {graded : GradedTools}
    (h : gradeUnmet lib turn actual factsVerified unmet = .ok graded) :
    graded.outcome ≠ .correct := by
  obtain ⟨matched, -, h⟩ := bind_eq_ok_iff.mp h
  simp only [pure, Except.pure] at h
  split at h
  · split_ifs at h <;> cases h <;> exact nofun
  · cases h
    exact nofun

theorem gradeTools_correct_iff (h : expected ≠ []) {factValues : List (PyValue Float)}
    {factsVerified : Bool} :
    (∃ reason, gradeTools lib { expectedTools := expected, factValues } actual factsVerified =
        .ok { outcome := .correct, reason }) ↔
      (fitTools lib expected actual).unmet = [] ∧ (fitTools lib expected actual).remaining = [] ∧
        ∀ pair ∈ (fitTools lib expected actual).pairs, HasArguments pair.1 pair.2 := by
  rw [gradeTools, if_neg h, consume_eq]
  cases hbad : (fitTools lib expected actual).pairs.findSome? fun pair =>
    badArgument lib pair.1 pair.2 with
  | some reason =>
      obtain ⟨pair, hpair, hreason⟩ := List.exists_of_findSome?_eq_some hbad
      refine iff_of_false (fun h => by obtain ⟨_, ⟨⟩⟩ := h) fun h => ?_
      rw [badArgument_eq_none_iff.mpr (h.2.2 pair hpair)] at hreason
      cases hreason
  | none =>
      have hall : ∀ pair ∈ (fitTools lib expected actual).pairs,
        HasArguments pair.1 pair.2 := fun pair hpair =>
        badArgument_eq_none_iff.mp (List.findSome?_eq_none_iff.mp hbad pair hpair)
      cases hunmet : (fitTools lib expected actual).unmet with
      | cons exp unmet =>
          refine iff_of_false ?_ fun h => by cases h.1
          rintro ⟨reason, hgraded⟩
          exact gradeUnmet_ne_correct hgraded rfl
      | nil =>
          cases hremaining : (fitTools lib expected actual).remaining with
          | cons use remaining =>
            exact iff_of_false (fun h => by obtain ⟨_, ⟨⟩⟩ := h) fun h => by cases h.2.1
          | nil => exact iff_of_true ⟨none, rfl⟩ ⟨rfl, rfl, hall⟩

end Loops

section Matching

/-- In every order of the tools and of the calls, a full score means that the tools can be assigned
to calls, and a correct outcome that they can be matched with them. -/
structure ToolMatching (lib : GraderLibrary Float) (expected : List (ExpectedTool Float))
    (actual : List (ToolUse Float)) : Prop where
  score : ∀ expected' actual', expected'.Perm expected → actual'.Perm actual →
    (toolScore lib expected' actual' = 1 ↔ Assignable (Fits lib) expected actual)
  grade : ∀ expected' actual', expected'.Perm expected → actual'.Perm actual →
    ∀ factValues factsVerified,
    ((∃ reason, gradeTools lib { expectedTools := expected', factValues } actual' factsVerified =
        .ok { outcome := .correct, reason }) ↔ Matchable (CorrectCall lib) expected actual)

variable {expected' : List (ExpectedTool Float)} {actual' : List (ToolUse Float)}

theorem ne_nil_of_perm (h : expected ≠ []) (hperm : expected'.Perm expected) : expected' ≠ [] := by
  rintro rfl
  exact h hperm.symm.eq_nil

theorem hasArguments_of_grade (h : expected ≠ []) (hmatching : ToolMatching lib expected actual)
    (hmatch : Matchable (CorrectCall lib) expected actual) (hexp : exp ∈ expected)
    (huse : use ∈ actual)
    (hfits : Fits lib exp use) : HasArguments exp use := by
  obtain ⟨before, after, rfl⟩ := List.append_of_mem hexp
  obtain ⟨earlier, later, rfl⟩ := List.append_of_mem huse
  have hcorrect :=
    (hmatching.grade (exp :: (before ++ after)) (use :: (earlier ++ later)) List.perm_middle.symm
    List.perm_middle.symm [] false).mpr hmatch
  obtain ⟨-, -, hall⟩ := (gradeTools_correct_iff (List.cons_ne_nil _ _)).mp hcorrect
  refine hall (exp, use) ?_
  rw [fitTools, firstFit_cons_of_fits hfits]
  exact List.mem_cons_self

theorem matchable_of_fitTools (hunmet : (fitTools lib expected actual).unmet = [])
    (hremaining : (fitTools lib expected actual).remaining = [])
    (hall : ∀ pair ∈ (fitTools lib expected actual).pairs, HasArguments pair.1 pair.2) :
    Matchable (CorrectCall lib) expected actual := by
  have hspec : (fitTools lib expected actual).Spec (fitsCall lib) expected actual :=
    firstFit_spec _ _ _
  have hrequests := hspec.permRequests
  have hoffers := hspec.permOffers
  rw [hunmet, List.append_nil] at hrequests
  rw [hremaining, List.append_nil] at hoffers
  have hcorrect : ∀ pair ∈ (fitTools lib expected actual).pairs,
    CorrectCall lib pair.1 pair.2 := fun pair hpair =>
    ⟨hspec.fitting pair hpair, hall pair hpair⟩
  exact Matchable.perm ⟨_, .refl _, FirstFit.Spec.forall₂ hcorrect⟩ hrequests hoffers

theorem fitTools_of_matchable (hfree : ¬ Stuck (Fits lib) expected actual)
    (hmatch : Matchable (CorrectCall lib) expected actual)
    (hgood : ∀ exp ∈ expected, ∀ use ∈ actual, Fits lib exp use → HasArguments exp use) :
    (fitTools lib expected actual).unmet = [] ∧ (fitTools lib expected actual).remaining = [] ∧
      ∀ pair ∈ (fitTools lib expected actual).pairs, HasArguments pair.1 pair.2 := by
  have hspec : (fitTools lib expected actual).Spec (fitsCall lib) expected actual :=
    firstFit_spec _ _ _
  have hunmet : (fitTools lib expected actual).unmet = [] := by
    by_contra hunmet
    exact hfree (hspec.stuck hunmet)
  refine ⟨hunmet, ?_, fun pair hpair => ?_⟩
  · have hexpected := hspec.permRequests.length_eq
    have hactual := hspec.permOffers.length_eq
    have hsame := hmatch.length_eq
    rw [hunmet, List.append_nil, List.length_map] at hexpected
    rw [List.length_append, List.length_map] at hactual
    exact List.length_eq_zero_iff.mp (by omega)
  · refine hgood pair.1 ?_ pair.2 ?_ (hspec.fitting pair hpair)
    · exact hspec.permRequests.symm.subset (List.mem_append_left _ (List.mem_map_of_mem hpair))
    · exact hspec.permOffers.symm.subset (List.mem_append_left _ (List.mem_map_of_mem hpair))

/-- **Tool grading is a matching** exactly if no order of the tools gets stuck where they can be
assigned, and no call that fits a tool lacks its arguments where the calls can be matched. -/
theorem toolMatching_iff (h : expected ≠ []) : ToolMatching lib expected actual ↔
    (Assignable (Fits lib) expected actual → ¬ Stuck (Fits lib) expected actual) ∧
      (Matchable (CorrectCall lib) expected actual →
        ∀ exp ∈ expected, ∀ use ∈ actual, Fits lib exp use → HasArguments exp use) := by
  have hscore : (∀ expected' actual', expected'.Perm expected → actual'.Perm actual →
      (toolScore lib expected' actual' = 1 ↔ Assignable (Fits lib) expected actual)) ↔
      (Assignable (Fits lib) expected actual → ¬ Stuck (Fits lib) expected actual) := by
    refine Iff.trans ?_ (@firstFit_complete_iff _ _ (fitsCall lib) expected actual)
    refine forall_congr' fun expected' => forall_congr' fun actual' =>
      forall_congr' fun hexpected =>
      forall_congr' fun _ => ?_
    rw [toolScore_eq_one_iff (ne_nil_of_perm h hexpected)]
    rfl
  constructor
  · intro hmatching
    exact ⟨hscore.mp hmatching.score, fun hmatch exp hexp use huse hfits =>
      hasArguments_of_grade h hmatching hmatch hexp huse hfits⟩
  · rintro ⟨hfree, hgood⟩
    refine ⟨hscore.mpr hfree, fun expected' actual' hexpected hactual factValues factsVerified =>
      ?_⟩
    rw [gradeTools_correct_iff (ne_nil_of_perm h hexpected)]
    constructor
    · rintro ⟨hunmet, hremaining, hall⟩
      exact (matchable_of_fitTools hunmet hremaining hall).perm hexpected.symm hactual.symm
    · intro hmatch
      have hassign := (hmatch.mono fun _ _ => And.left).assignable
      refine fitTools_of_matchable (fun hstuck =>
        hfree hassign (hstuck.perm hexpected.symm hactual.symm))
        (hmatch.perm hexpected hactual) fun exp hexp use huse => ?_
      exact hgood hmatch exp (hexpected.subset hexp) use (hactual.subset huse)

end Matching

section Samples

def sampleGraders : GraderLibrary Unit where
  num := unitNum
  numEq _ _ := false
  str
    | .str s => s
    | _ => ""
  repr
    | .str s => "'" ++ s ++ "'"
    | _ => ""

def anyQuery : ExpectedTool Unit where
  name := "query_taxi_data"

def queensQuery : ExpectedTool Unit where
  name := "query_taxi_data"
  arguments := [("borough", .str "Queens")]

def queryOf (borough : String) : ToolUse Unit where
  name := "query_taxi_data"
  arguments := [("borough", .str borough)]

def describeDataset : ExpectedTool Unit where
  name := "describe_taxi_dataset"

def distinctTools : List (ExpectedTool Unit) :=
  [{ name := "query_taxi_data", requiredArgs := ["borough"] }, describeDataset]

theorem toolMatching_iff_distinctTools : ToolMatching sampleGraders distinctTools
    [{ name := "describe_taxi_dataset", arguments := [] }, queryOf "Bronx"] := by
  have hnames : (distinctTools.map ExpectedTool.name).Nodup := by decide
  refine (toolMatching_iff (List.cons_ne_nil _ _)).mpr ⟨not_stuck_of_unique hnames.of_map ?_, ?_⟩
  · intro exp hexp exp' hexp' use hfits hfits'
    have hname : exp.name = exp'.name := by
      simp only [Fits, fitsCall, Bool.and_eq_true, decide_eq_true_iff] at hfits hfits'
      exact hfits.1.symm.trans hfits'.1
    exact List.inj_on_of_nodup_map hnames hexp hexp' hname
  · intro _
    unfold Fits HasArguments
    decide

/-- The loose expectation takes the only call that fits the strict one. -/
theorem loose_expectation_first :
    toolScore sampleGraders [anyQuery, queensQuery] [queryOf "Queens", queryOf "Bronx"] = 1 / 2 ∧
      toolScore sampleGraders [queensQuery, anyQuery] [queryOf "Queens", queryOf "Bronx"] = 1 ∧
      ¬ ToolMatching sampleGraders [anyQuery, queensQuery] [queryOf "Queens", queryOf "Bronx"] := by
  have hhalf : toolScore sampleGraders [anyQuery, queensQuery] [queryOf "Queens", queryOf "Bronx"] =
      1 / 2 := by
    decide +kernel
  have hone : toolScore sampleGraders [queensQuery, anyQuery] [queryOf "Queens", queryOf "Bronx"] =
      1 := by
    decide +kernel
  refine ⟨hhalf, hone, fun h => ?_⟩
  have hassign := (h.score _ _ (.swap _ _ _) (.refl _)).mp hone
  have hfull := (h.score _ _ (.refl _) (.refl _)).mpr hassign
  rw [hhalf] at hfull
  exact absurd hfull (by decide +kernel)

end Samples

end AiAnalytics.Evals
