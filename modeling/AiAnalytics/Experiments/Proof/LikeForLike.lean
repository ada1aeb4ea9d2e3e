import AiAnalytics.Experiments.Compare

/-!
# What a comparable pair proves

The verdict is the same for both orders of the runs. That a pair is comparable proves equal inputs,
but of the execution less than its name says: unknown markers pass, a control is only verified where
it is requested, and the forced workers are not compared.
-/

namespace AiAnalytics.Experiments

open Lib

variable {Float : Type} {lib : CompareLibrary Float} {m ma mb : Manifest Float}
  {varied : List String} {c : String}

section Specifications

def Concrete (lib : CompareLibrary Float) (value : PyValue Float) : Prop :=
  unprovable lib value = false

def Same (lib : CompareLibrary Float) (a b : PyValue Float) : Prop := pyEq lib.numEq a b = true

def Manifest.control (m : Manifest Float) (c : String) : PyValue Float :=
  if c = "force_worker" then m.get "force_worker_requested" else m.execution c

structure Verified (lib : CompareLibrary Float) (m : Manifest Float) (c : String) : Prop where
  verified : isTrue (m.get (c ++ "_verified")) = true
  echoes : ∃ bad, mismatched lib m c = .ok bad ∧ bad.truthy lib.num = false
  turns : (m.get "control_unverified_turns").truthy lib.num = false

def Requested (lib : CompareLibrary Float) (m : Manifest Float) (c : String) : Prop :=
  m.requested lib c = true

structure LikeForLike (lib : CompareLibrary Float) (ma mb : Manifest Float) (varied : List String) :
    Prop where
  inputs : ∀ path ∈ mustMatch, Concrete lib (dig (.dict ma.entries) path) ∧
    Concrete lib (dig (.dict mb.entries) path) ∧ Same lib (dig (.dict ma.entries) path)
      (dig (.dict mb.entries) path)
  execution : ∀ f ∈ executionFields, f ∉ varied → f ∉ controls →
    Concrete lib (ma.execution f) ∧ Concrete lib (mb.execution f) ∧ Same lib (ma.execution f)
      (mb.execution f)
  treatment : ∀ c ∈ varied, Concrete lib (ma.control c) ∧ Concrete lib (mb.control c) ∧
    ¬ Same lib (ma.control c) (mb.control c) ∧ Verified lib ma c ∧ Verified lib mb c
  requested : ∀ c ∈ requestable, c ∉ varied → Requested lib ma c ∨ Requested lib mb c →
    Same lib (ma.control c) (mb.control c) ∧ Verified lib ma c ∧ Verified lib mb c

def Covered (lib : CompareLibrary Float) (m : Manifest Float) (c : String) : Prop :=
  c ∈ requestable ∧ Requested lib m c ∨ Verified lib m c

structure Unchecked (lib : CompareLibrary Float) (ma mb : Manifest Float) (varied : List String) :
    Prop where
  markers : ∀ f ∈ executionFields, f ∉ varied → f ∉ controls →
    Concrete lib (ma.execution f) ∧ Concrete lib (mb.execution f)
  treatment : ∀ c ∈ varied, (c ∈ executionFields ∨ Concrete lib (ma.control c) ∧
    Concrete lib (mb.control c) ∧
    ¬ Same lib (ma.control c) (mb.control c)) ∧ Covered lib ma c ∧ Covered lib mb c
  requested : ∀ c ∈ requestable, c ∉ varied → Requested lib ma c ∨ Requested lib mb c →
    (c = "force_worker" → Same lib (ma.control c) (mb.control c)) ∧ Covered lib ma c ∧
      Covered lib mb c

def SameVerdict (lib : CompareLibrary Float) (ma mb : Manifest Float) (varied : List String) :
    Prop :=
  (checkManifests lib ma mb varied).map ManifestCheck.comparable =
    (checkManifests lib mb ma varied).map ManifestCheck.comparable

end Specifications

section Verification

theorem controlProblem_eq_none_iff : controlProblem lib m c = .ok none ↔
    isTrue (m.get (c ++ "_verified")) = true ∧ ∃ bad, mismatched lib m c = .ok bad ∧
      bad.truthy lib.num = false := by
  unfold controlProblem
  rw [bind_eq_ok_iff]
  cases hverified : isTrue (m.get (c ++ "_verified")) with
  | false =>
      refine iff_of_false ?_ (fun h => by cases h.1)
      rintro ⟨bad, -, h⟩
      cases h
  | true =>
      simp only [true_and, Bool.not_true, Bool.false_eq_true, if_false]
      refine exists_congr fun bad => and_congr_right fun _ => ?_
      cases bad.truthy lib.num with
      | false => exact iff_of_true rfl rfl
      | true => exact iff_of_false nofun nofun

theorem mapM_all_none_iff {α β ε : Type} {f : α → Except ε (Option β)} {items : List α} :
    (∃ results, items.mapM f = .ok results ∧ results.filterMap id = []) ↔
      ∀ item ∈ items, f item = .ok none := by
  simp only [mapM_eq_ok_iff]
  induction items with
  | nil => exact iff_of_true ⟨[], .nil, rfl⟩ (List.forall_mem_nil _)
  | cons item items ih =>
      rw [List.forall_mem_cons, ← ih]
      constructor
      · rintro ⟨_, hall, hnone⟩
        obtain ⟨result, results, hitem, hitems, rfl⟩ := List.forall₂_cons_left_iff.mp hall
        obtain ⟨rfl, hothers⟩ : result = none ∧ ∀ other ∈ results, other = none :=
          List.forall_mem_cons.mp (List.filterMap_eq_nil_iff.mp hnone)
        exact ⟨hitem, results, hitems, List.filterMap_eq_nil_iff.mpr hothers⟩
      · rintro ⟨hitem, results, hitems, hnone⟩
        exact ⟨none :: results, .cons hitem hitems, hnone⟩

theorem unverified_eq_nil_iff : unverified lib m = .ok [] ↔
    ∀ c ∈ requestable, Requested lib m c → Verified lib m c := by
  have hmem : (∀ c ∈ requestable.filter (m.requested lib), Verified lib m c) ↔
      ∀ c ∈ requestable, Requested lib m c → Verified lib m c := by
    simp only [List.mem_filter, and_imp, Requested]
  rw [← hmem]
  unfold unverified
  generalize requestable.filter (m.requested lib) = requested
  rw [bind_eq_ok_iff]
  cases requested with
  | nil => exact iff_of_true ⟨[], rfl, rfl⟩ (List.forall_mem_nil _)
  | cons first others =>
      cases hturns : (m.get "control_unverified_turns").truthy lib.num with
      | true =>
          refine iff_of_false ?_ fun h => ?_
          · rintro ⟨problems, -, h⟩
            simp only [hturns, if_true] at h
            exact absurd (Except.ok.inj h)
              (List.append_ne_nil_of_right_ne_nil _ (List.cons_ne_nil _ _))
          · have hfirst := (h first List.mem_cons_self).turns
            rw [hturns] at hfirst
            cases hfirst
      | false =>
          have hall : (∀ c ∈ first :: others, Verified lib m c) ↔
              ∀ c ∈ first :: others, controlProblem lib m c = .ok none := by
            refine forall_congr' fun c => forall_congr' fun _ => ?_
            rw [controlProblem_eq_none_iff]
            exact ⟨fun h => ⟨h.verified, h.echoes⟩, fun h => ⟨h.1, h.2, hturns⟩⟩
          rw [hall, ← mapM_all_none_iff]
          refine exists_congr fun problems => and_congr_right fun _ => ?_
          simp only [hturns, Bool.false_eq_true, if_false]
          exact ⟨fun h => Except.ok.inj h, fun h => congrArg Except.ok h⟩

theorem attributeError_of_getOrEmpty {value : PyValue Float} {key : String} {error : PyError Empty}
    (h : getOrEmpty lib value key = .error error) : error = .attributeError := by
  unfold getOrEmpty at h
  cases hvalue : value.orElse lib.num (.dict []) with
  | dict entries => rw [hvalue] at h; cases h
  | _ => rw [hvalue] at h; exact (Except.error.inj h).symm

theorem attributeError_of_unverified {error : PyError Empty} (h : unverified lib m = .error error) :
    error = .attributeError := by
  unfold unverified at h
  generalize requestable.filter (m.requested lib) = requested at h
  simp only at h
  cases hproblems : requested.mapM (controlProblem lib m) with
  | ok problems =>
      rw [hproblems] at h
      cases requested with
      | nil => cases h
      | cons first others =>
          simp only [bind, Except.bind] at h
          split_ifs at h <;> cases h
  | error raised =>
      rw [hproblems] at h
      obtain rfl : raised = error := Except.error.inj h
      obtain ⟨c, -, hc⟩ := exists_of_mapM_eq_error hproblems
      unfold controlProblem at hc
      cases hbad : mismatched lib m c with
      | ok bad =>
          rw [hbad] at hc
          simp only [bind, Except.bind] at hc
          split_ifs at hc <;> cases hc
      | error inner =>
          rw [hbad] at hc
          obtain rfl : inner = raised := Except.error.inj hc
          unfold mismatched at hbad
          cases hobserved : getOrEmpty lib (m.get "control_observations") c with
          | error first =>
              rw [hobserved] at hbad
              rw [← Except.error.inj hbad]
              exact attributeError_of_getOrEmpty hobserved
          | ok observed =>
              rw [hobserved] at hbad
              exact attributeError_of_getOrEmpty hbad

end Verification

section Verdicts

variable {check : ManifestCheck Float} {f : String} {path : List String}

theorem inputVerdict_eq_fine_iff : inputVerdict lib ma mb path = .fine ↔
    Concrete lib (dig (.dict ma.entries) path) ∧ Concrete lib (dig (.dict mb.entries) path) ∧
      Same lib (dig (.dict ma.entries) path) (dig (.dict mb.entries) path) := by
  unfold inputVerdict Concrete Same
  generalize dig (.dict ma.entries) path = a
  generalize dig (.dict mb.entries) path = b
  cases ha : unprovable lib a <;> cases hb : unprovable lib b <;> cases hab : pyEq lib.numEq a b <;>
    simp [ha, hb, hab]

def FineField (lib : CompareLibrary Float) (ma mb : Manifest Float) (varied : List String)
    (f : String) : Prop :=
  if f ∈ varied then Concrete lib (ma.execution f) ∧ Concrete lib (mb.execution f) ∧
    ¬ Same lib (ma.execution f) (mb.execution f)
  else (f ∈ controls ∨ (ma.execution f).isNone = false ∧ (mb.execution f).isNone = false) ∧
    Same lib (ma.execution f) (mb.execution f)

theorem executionVerdict_eq_fine_iff : executionVerdict lib ma mb varied f = .fine ↔
    FineField lib ma mb varied f := by
  unfold executionVerdict FineField Concrete Same
  generalize ma.execution f = a
  generalize mb.execution f = b
  by_cases hvaried : f ∈ varied
  · cases ha : unprovable lib a <;> cases hb : unprovable lib b <;> cases hab : pyEq lib.numEq a b
      <;> simp [hvaried, ha, hb, hab]
  · by_cases hcontrol : f ∈ controls
    · cases hab : pyEq lib.numEq a b <;> simp [hvaried, hcontrol, hab]
    · cases ha : a.isNone <;> cases hb : b.isNone <;> cases hab : pyEq lib.numEq a b <;>
        simp [hvaried, hcontrol, ha, hb, hab]

theorem comparable_checkOf_iff {verdicts : List (FieldVerdict Float)} {warnings : List String} :
    (checkOf varied verdicts warnings false).comparable = true ↔
      ∀ verdict ∈ verdicts, verdict = .fine := by
  have hfine (verdict : FieldVerdict Float) : verdict = .fine ↔
      (verdict.mismatch? = none ∧ verdict.unprovable? = none) ∧ verdict.treatment? = none := by
    cases verdict <;> simp [FieldVerdict.mismatch?, FieldVerdict.unprovable?,
      FieldVerdict.treatment?]
  simp only [checkOf, Bool.and_false, Bool.false_eq_true, if_false, Bool.and_eq_true,
    List.isEmpty_iff, List.filterMap_eq_nil_iff, hfine]
  grind

theorem verificationVerdict_ne_fine (run : String) (problem : String × String) :
    (verificationVerdict varied run problem : FieldVerdict Float) ≠ .fine := by
  obtain ⟨c, detail⟩ := problem
  rw [verificationVerdict]
  split_ifs <;> exact nofun

theorem comparable_iff (h : checkManifests lib ma mb varied = .ok check) : check.comparable = true ↔
    (ma.entries ≠ [] ∧ mb.entries ≠ []) ∧
      (∀ path ∈ mustMatch, inputVerdict lib ma mb path = .fine) ∧
      (∀ f ∈ executionFields, FineField lib ma mb varied f) ∧
      unverified lib ma = .ok [] ∧ unverified lib mb = .ok [] := by
  unfold checkManifests at h
  split_ifs at h with hmissing
  · obtain rfl := Except.ok.inj h
    refine iff_of_false nofun fun h => ?_
    simp only [Bool.or_eq_true, List.isEmpty_iff] at hmissing
    exact hmissing.elim h.1.1 h.1.2
  · obtain ⟨problemsA, hA, h⟩ := bind_eq_ok_iff.mp h
    obtain ⟨problemsB, hB, h⟩ := bind_eq_ok_iff.mp h
    obtain rfl := Except.ok.inj h
    have hempty {problems : List (String × String)} (run : String) :
        (∀ verdict ∈ (problems.map (verificationVerdict varied run) : List (FieldVerdict Float)),
          verdict = .fine) ↔ problems = [] := by
      cases problems with
      | nil => exact iff_of_true (List.forall_mem_nil _) rfl
      | cons problem problems =>
          refine iff_of_false (fun h => ?_) (List.cons_ne_nil _ _)
          exact verificationVerdict_ne_fine run problem (h _ List.mem_cons_self)
    simp only [Bool.or_eq_true, List.isEmpty_iff, not_or] at hmissing
    rw [comparable_checkOf_iff, List.forall_mem_append, List.forall_mem_append,
      List.forall_mem_append, hempty, hempty, hA, hB, and_iff_right hmissing]
    simp only [List.forall_mem_map, executionVerdict_eq_fine_iff, Except.ok.injEq, and_assoc]

end Verdicts

section Swapping

theorem distinctKeys_child {value : PyValue Float} (h : DistinctKeys value) (key : String) :
    DistinctKeys (child value key) := by
  cases h with
  | @dict entries hkeys hentries =>
      rw [child]
      cases hlookup : entries.lookup key with
      | none => exact .none
      | some found => exact hentries _ (mem_of_lookup hlookup)
  | _ => exact .none

theorem distinctKeys_dig {value : PyValue Float} (h : DistinctKeys value) (path : List String) :
    DistinctKeys (dig value path) := by
  induction path generalizing value with
  | nil => exact h
  | cons key path ih => exact ih (distinctKeys_child h key)

theorem distinctKeys_execution (m : Manifest Float) (f : String) :
    DistinctKeys (m.execution f) := by
  have hdig := distinctKeys_dig m.distinct ["execution", f]
  unfold Manifest.execution
  split
  · split_ifs
    · exact distinctKeys_child m.distinct _
    · exact .none
  · exact hdig

theorem same_comm (hnum : ∀ x y, lib.numEq x y = lib.numEq y x) {a b : PyValue Float}
    (ha : DistinctKeys a) (hb : DistinctKeys b) : Same lib a b ↔ Same lib b a := by
  rw [Same, Same, pyEq_comm hnum ha hb]

theorem inputVerdict_swap (hnum : ∀ x y, lib.numEq x y = lib.numEq y x) {path : List String}
    (h : inputVerdict lib ma mb path = .fine) : inputVerdict lib mb ma path = .fine := by
  rw [inputVerdict_eq_fine_iff] at h ⊢
  obtain ⟨ha, hb, hsame⟩ := h
  exact ⟨hb, ha, (same_comm hnum (distinctKeys_dig ma.distinct path)
    (distinctKeys_dig mb.distinct path)).mp hsame⟩

theorem fineField_swap (hnum : ∀ x y, lib.numEq x y = lib.numEq y x) {f : String}
    (h : FineField lib ma mb varied f) : FineField lib mb ma varied f := by
  have hcomm := same_comm hnum (distinctKeys_execution ma f) (distinctKeys_execution mb f)
  unfold FineField at h ⊢
  split_ifs at h ⊢
  · exact ⟨h.2.1, h.1, fun hsame => h.2.2 (hcomm.mpr hsame)⟩
  · exact ⟨h.1.imp_right And.symm, hcomm.mp h.2⟩

theorem comparable_swap (hnum : ∀ x y, lib.numEq x y = lib.numEq y x)
    {check check' : ManifestCheck Float} (h : checkManifests lib ma mb varied = .ok check)
    (h' : checkManifests lib mb ma varied = .ok check')
    (hcomparable : check.comparable = true) : check'.comparable = true := by
  obtain ⟨⟨ha, hb⟩, hinputs, hfields, hA, hB⟩ := (comparable_iff h).mp hcomparable
  exact (comparable_iff h').mpr ⟨⟨hb, ha⟩, fun path hpath =>
    inputVerdict_swap hnum (hinputs path hpath),
    fun f hf => fineField_swap hnum (hfields f hf), hB, hA⟩

theorem checkManifests_error_swap {error : PyError Empty}
    (h : checkManifests lib ma mb varied = .error error) :
    checkManifests lib mb ma varied = .error error := by
  have hattribute : error = .attributeError ∧ ¬ (ma.entries.isEmpty || mb.entries.isEmpty) = true ∧
      ((∃ raised, unverified lib ma = .error raised) ∨ ∃ raised,
        unverified lib mb = .error raised) := by
    unfold checkManifests at h
    split_ifs at h with hmissing
    cases hA : unverified lib ma with
    | error raised =>
        rw [hA] at h
        rw [← Except.error.inj h]
        exact ⟨attributeError_of_unverified hA, hmissing, .inl ⟨raised, rfl⟩⟩
    | ok problemsA =>
        cases hB : unverified lib mb with
        | error raised =>
            rw [hA, hB] at h
            rw [← Except.error.inj h]
            exact ⟨attributeError_of_unverified hB, hmissing, .inr ⟨raised, rfl⟩⟩
        | ok problemsB => rw [hA, hB] at h; cases h
  obtain ⟨rfl, hmissing, hraised⟩ := hattribute
  rw [checkManifests, if_neg (by rwa [Bool.or_comm])]
  cases hB : unverified lib mb with
  | error raised => rw [attributeError_of_unverified hB]; rfl
  | ok problemsB =>
      obtain ⟨raised, hA⟩ | ⟨raised, hB'⟩ := hraised
      · rw [hA, attributeError_of_unverified hA]
        rfl
      · rw [hB] at hB'
        cases hB'

theorem sameVerdict (hnum : ∀ x y, lib.numEq x y = lib.numEq y x) (ma mb : Manifest Float)
    (varied : List String) : SameVerdict lib ma mb varied := by
  unfold SameVerdict
  cases h : checkManifests lib ma mb varied with
  | error error => rw [checkManifests_error_swap h]
  | ok check =>
      cases h' : checkManifests lib mb ma varied with
      | error error => rw [checkManifests_error_swap h'] at h; cases h
      | ok check' =>
          have hiff : check.comparable = check'.comparable :=
            Bool.eq_iff_iff.mpr ⟨comparable_swap hnum h h', comparable_swap hnum h' h⟩
          exact congrArg Except.ok hiff

end Swapping

section Claims

variable {check : ManifestCheck Float}

theorem control_eq_execution {c : String} (h : c ≠ "force_worker") : m.control c = m.execution c :=
  if_neg h

theorem mem_executionFields_ne {c : String} (h : c ∈ executionFields) : c ≠ "force_worker" := by
  rintro rfl
  exact absurd h (by decide)

theorem mem_executionFields_of_mem_controls {c : String} (h : c ∈ controls) :
    c ∈ executionFields := by
  simp only [controls, List.mem_cons, List.not_mem_nil, or_false] at h
  rcases h with rfl | rfl <;> decide

theorem Verified.covered (h : Verified lib m c) : Covered lib m c := .inr h

theorem Covered.verified (hunverified : unverified lib m = .ok []) (h : Covered lib m c) :
    Verified lib m c := by
  obtain ⟨hc, hrequested⟩ | hverified := h
  · exact unverified_eq_nil_iff.mp hunverified c hc hrequested
  · exact hverified

theorem LikeForLike.unchecked (h : LikeForLike lib ma mb varied) : Unchecked lib ma mb varied where
  markers f hf hvaried hcontrol :=
    have hfine := h.execution f hf hvaried hcontrol
    ⟨hfine.1, hfine.2.1⟩
  treatment c hc :=
    have htreatment := h.treatment c hc
    ⟨.inr ⟨htreatment.1, htreatment.2.1, htreatment.2.2.1⟩, htreatment.2.2.2.1.covered,
      htreatment.2.2.2.2.covered⟩
  requested c hc hvaried hrequested :=
    have hother := h.requested c hc hvaried hrequested
    ⟨fun _ => hother.1, hother.2.1.covered, hother.2.2.covered⟩

theorem Unchecked.likeForLike (h : checkManifests lib ma mb varied = .ok check)
    (hcomparable : check.comparable = true) (hunchecked : Unchecked lib ma mb varied) :
    LikeForLike lib ma mb varied := by
  obtain ⟨-, hinputs, hfields, hA, hB⟩ := (comparable_iff h).mp hcomparable
  have hsame (f : String) (hf : f ∈ executionFields) (hvaried : f ∉ varied) :
      Same lib (ma.execution f) (mb.execution f) := by
    have hfine := hfields f hf
    rw [FineField, if_neg hvaried] at hfine
    exact hfine.2
  refine ⟨fun path hpath => inputVerdict_eq_fine_iff.mp (hinputs path hpath),
    fun f hf hvaried hcontrol => ?_,
    fun c hc => ?_, fun c hc hvaried hrequested => ?_⟩
  · obtain ⟨ha, hb⟩ := hunchecked.markers f hf hvaried hcontrol
    exact ⟨ha, hb, hsame f hf hvaried⟩
  · obtain ⟨hvalues, ha, hb⟩ := hunchecked.treatment c hc
    have hdiffer : Concrete lib (ma.control c) ∧ Concrete lib (mb.control c) ∧
        ¬ Same lib (ma.control c) (mb.control c) := by
      refine hvalues.elim (fun hfield => ?_) id
      have hfine := hfields c hfield
      rw [FineField, if_pos hc] at hfine
      rwa [control_eq_execution (mem_executionFields_ne hfield),
        control_eq_execution (mem_executionFields_ne hfield)]
    exact ⟨hdiffer.1, hdiffer.2.1, hdiffer.2.2, ha.verified hA, hb.verified hB⟩
  · obtain ⟨hforced, ha, hb⟩ := hunchecked.requested c hc hvaried hrequested
    refine ⟨?_, ha.verified hA, hb.verified hB⟩
    by_cases hworker : c = "force_worker"
    · exact hforced hworker
    · have hcontrol : c ∈ controls := by
        rw [requestable, List.mem_append, List.mem_singleton] at hc
        exact hc.resolve_right hworker
      rw [control_eq_execution hworker, control_eq_execution hworker]
      exact hsame c (mem_executionFields_of_mem_controls hcontrol) hvaried

/-- **Like for like.** The order of the runs does not matter, and a comparable pair is like for like
exactly if what is not checked holds too. -/
theorem checkManifests_comparable_iff (hnum : ∀ x y, lib.numEq x y = lib.numEq y x) :
    SameVerdict lib ma mb varied ∧ ∀ check, checkManifests lib ma mb varied = .ok check →
      check.comparable = true → (LikeForLike lib ma mb varied ↔ Unchecked lib ma mb varied) :=
  ⟨sameVerdict hnum ma mb varied, fun _ h hcomparable =>
    ⟨LikeForLike.unchecked, Unchecked.likeForLike h hcomparable⟩⟩

end Claims

section Samples

def sampleCompare : CompareLibrary Unit where
  num := unitNum
  numEq
    | .inl x, .inl y => decide (x = y)
    | _, _ => false
  str
    | .str s => s
    | _ => ""
  repr
    | .str s => "'" ++ s ++ "'"
    | _ => ""
  lower s := String.ofList (s.toList.map Char.toLower)

def sampleManifest (policy router : String) : Manifest Unit where
  entries := [("scenario", .dict [("sha256", .str "5f2a")]),
    ("system_prefix", .dict [("prefix_chars", .int 1024), ("exact_tokens", .int 256)]),
    ("slos", .int 1),
    ("topology", .str "two workers"), ("model_revision", .str "r1"),
    ("tokenizer_revision", .str "r1"),
    ("chat_template_revision", .str "r1"), ("engine_flags", .str "-O"),
    ("vllm_version", .str "0.9"),
    ("kv_block_size", .int 16), ("max_tokens", .int 64),
    ("offered_concurrency_levels", .list [.int 4]),
    ("execution", .dict [("policy_override", .str policy), ("router_label", .str router),
      ("gateway_stream", .bool true), ("strategy", .str "closed_loop"),
      ("target_endpoint_type", .str "gateway_chat")]),
    ("policy_override_requested", .str policy), ("policy_override_verified", .bool true)]
  distinct := by
    simp [distinctKeys_dict_iff, DistinctKeys.str, DistinctKeys.int, DistinctKeys.bool,
      DistinctKeys.list]

theorem numEq_sampleCompare (x y : Int ⊕ Unit) :
    sampleCompare.numEq x y = sampleCompare.numEq y x := by
  cases x <;> cases y <;> simp [sampleCompare, eq_comm]

instance (value : PyValue Float) : Decidable (Concrete lib value) :=
  inferInstanceAs (Decidable (_ = _))

instance (m : Manifest Float) (c : String) : Decidable (Requested lib m c) :=
  inferInstanceAs (Decidable (_ = _))

theorem unchecked_sampleManifest : Unchecked sampleCompare (sampleManifest "least_loaded" "gateway")
    (sampleManifest "prefix_then_load" "gateway") ["policy_override"] where
  markers := by decide +kernel
  treatment c hc := by
    obtain rfl := List.mem_singleton.mp hc
    exact ⟨.inl (by decide), .inl ⟨by decide, by decide +kernel⟩,
      .inl ⟨by decide, by decide +kernel⟩⟩
  requested c hc hvaried hrequested := by
    have hnone : ∀ c ∈ requestable, c ∉ ["policy_override"] →
        ¬ (Requested sampleCompare (sampleManifest "least_loaded" "gateway") c ∨
          Requested sampleCompare (sampleManifest "prefix_then_load" "gateway") c) := by
      decide +kernel
    exact absurd hrequested (hnone c hc hvaried)

theorem exists_check (policy policy' router : String)
    (h :
      ((checkManifests sampleCompare (sampleManifest policy router) (sampleManifest policy' router)
      ["policy_override"]).toOption.map ManifestCheck.comparable) = some true) :
    ∃ check, checkManifests sampleCompare (sampleManifest policy router)
      (sampleManifest policy' router) ["policy_override"] = .ok check ∧
      check.comparable = true := by
  cases hcheck : checkManifests sampleCompare (sampleManifest policy router)
      (sampleManifest policy' router) ["policy_override"] with
  | error error => rw [hcheck] at h; cases h
  | ok check =>
      rw [hcheck] at h
      exact ⟨check, rfl, Option.some.inj h⟩

theorem checkManifests_comparable_iff_sampleManifest :
    LikeForLike sampleCompare (sampleManifest "least_loaded" "gateway")
      (sampleManifest "prefix_then_load" "gateway") ["policy_override"] := by
  obtain ⟨check, hcheck, hcomparable⟩ :=
    exists_check "least_loaded" "prefix_then_load" "gateway" (by decide +kernel)
  exact ((checkManifests_comparable_iff numEq_sampleCompare).2 check hcheck hcomparable).mpr
    unchecked_sampleManifest

/-- Two runs whose router is not known are comparable. -/
theorem unknown_router_comparable :
    (∃ check, checkManifests sampleCompare (sampleManifest "least_loaded" "unknown")
      (sampleManifest "prefix_then_load" "unknown") ["policy_override"] = .ok check ∧
      check.comparable = true) ∧
    ¬ LikeForLike sampleCompare (sampleManifest "least_loaded" "unknown")
      (sampleManifest "prefix_then_load" "unknown") ["policy_override"] := by
  refine ⟨exists_check _ _ _ (by decide +kernel), fun h => ?_⟩
  have hrouter := (h.execution "router_label" (by decide) (by decide) (by decide)).1
  exact absurd hrouter (by decide +kernel)

end Samples

end AiAnalytics.Experiments
