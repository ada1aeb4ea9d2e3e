import AiAnalytics.Experiments.Limiters
import Mathlib.Data.List.Dedup
import Mathlib.Data.List.Perm.Basic

/-!
# Verdicts of a capacity sweep

Of two steps that wait at the same lowest concurrency the one that comes first decides, in a context
and over the sweep. And the two chains of tests differ: only the one over the sweep compares the
breaches with the queue, and only it falls back on eight running sequences. So its verdict need not
be that of any context. -/

namespace AiAnalytics.Experiments

open Lib

variable {sweep other steps steps' : List Step} {ctx : Int} {step s t : Step} {p : Step → Bool}

/-! ### The two chains -/

section Chains

theorem minConcurrency_isSome : (minConcurrency p steps).isSome = steps.any p := by
  unfold minConcurrency
  rw [Bool.eq_iff_iff, List.isSome_min?_iff, List.any_eq_true]
  simp [List.filter_eq_nil_iff]

theorem queueFirst_iff : queueFirst (minConcurrency p steps) step = true ↔
    ∀ t ∈ steps, p t = true → step.concurrency ≤ t.concurrency := by
  unfold queueFirst minConcurrency
  cases hmin : ((steps.filter p).map Step.concurrency).min? with
  | none =>
      have hempty : steps.filter p = [] := by simpa [List.min?_eq_none_iff] using hmin
      exact iff_of_true rfl fun t ht hp => absurd (List.mem_filter.mpr ⟨ht, hp⟩) (by simp [hempty])
  | some conc =>
      obtain ⟨hmem, hle⟩ := List.min?_eq_some_iff.mp hmin
      rw [decide_eq_true_iff]
      constructor
      · intro h t ht hp
        exact h.trans (hle _ (List.mem_map_of_mem (List.mem_filter.mpr ⟨ht, hp⟩)))
      · intro h
        obtain ⟨t, ht, rfl⟩ := List.mem_map.mp hmem
        exact h t (List.mem_filter.mp ht).1 (List.mem_filter.mp ht).2

theorem picks_queueStep : PicksEarliest Step.waits Step.concurrency queueStep :=
  picksEarliest_find?_insertionSort

theorem picks_earliestQueueStep : PicksEarliest Step.waits Step.concurrency earliestQueueStep :=
  picksEarliest_minBy

theorem saturated_eq_of_queueLimiter (h : queueLimiter s = queueLimiter t) :
    s.saturated = t.saturated := by
  cases hs : s.saturated <;> cases ht : t.saturated <;> simp [queueLimiter, hs, ht] at h ⊢

def SloFirst (sweep : List Step) : Prop :=
  ∃ s ∈ sweep, s.breaches = true ∧ ∀ t ∈ sweep, t.waits = true → s.concurrency < t.concurrency

instance (sweep : List Step) : Decidable (SloFirst sweep) :=
  inferInstanceAs (Decidable (∃ s ∈ sweep, _ ∧ _))

theorem SloFirst.perm (h : SloFirst sweep) (hperm : other.Perm sweep) : SloFirst other := by
  obtain ⟨s, hs, hbreaches, hlt⟩ := h
  exact ⟨s, hperm.symm.subset hs, hbreaches, fun t ht => hlt t (hperm.subset ht)⟩

theorem any_perm (hperm : other.Perm sweep) : other.any p = sweep.any p := by
  rw [Bool.eq_iff_iff, List.any_eq_true, List.any_eq_true]
  exact exists_congr fun s => and_congr_left fun _ => hperm.mem_iff

theorem contextLimiter_eq : contextLimiter steps =
    if steps.any Step.kvHigh then .kvCacheCapacity
    else ((queueStep steps).map queueLimiter).getD
      (if steps.any Step.breaches then .ttftSloBreachComputeContention else .noneObserved) := by
  simp only [contextLimiter, minConcurrency_isSome]
  cases queueStep steps <;> rfl

theorem foldl_maximum_mem (x : Reading) (readings : List Reading) :
    readings.foldl (fun best y => if y.gt best then y else best) x ∈ x :: readings := by
  induction readings generalizing x with
  | nil => exact List.mem_cons_self
  | cons y readings ih =>
      rw [List.foldl_cons]
      rcases List.mem_cons.mp (ih (if y.gt x then y else x)) with hbest | hbest
      · rw [hbest]
        split_ifs <;> simp
      · exact List.mem_cons_of_mem _ (List.mem_cons_of_mem _ hbest)

theorem maximum_mem :
    ∀ readings, Reading.maximum readings = .ofRat 0 ∨ Reading.maximum readings ∈ readings
  | [] => Or.inl rfl
  | x :: readings => Or.inr (foldl_maximum_mem x readings)

theorem not_maximum_gt (h : ∀ s ∈ sweep, s.waits = false) :
    (Reading.maximum (sweep.map fun s => orZero s.peakWaiting)).gt (.ofRat 0) = false := by
  rcases maximum_mem (sweep.map fun s => orZero s.peakWaiting) with hzero | hmem
  · rw [hzero]
    simp [Reading.gt, Reading.ofRat]
  · obtain ⟨s, hs, hreading⟩ := List.mem_map.mp hmem
    rw [← hreading]
    exact h s hs

def Step.atCeiling (step : Step) : Bool := decide (8 ≤ step.concurrency) && step.saturated

theorem observedLimiter_eq : observedLimiter sweep =
    if sweep.any Step.kvHigh then .kvCacheCapacity
    else if SloFirst sweep then .ttftSloBreachComputeContention
    else ((earliestQueueStep sweep).map queueLimiter).getD
      (if sweep.any Step.atCeiling then .maxNumSeqsConcurrencyLimit else .undetermined) := by
  simp only [observedLimiter, minConcurrency_isSome]
  by_cases hkv : sweep.any Step.kvHigh = true
  · simp [hkv]
  rw [if_neg hkv, if_neg hkv]
  by_cases hslo : SloFirst sweep
  · -- every waiting step comes after the breach
    have ⟨b, hb, hbreaches, hlt⟩ := hslo
    have hnone : (earliestQueueStep sweep).filter
        (queueFirst (minConcurrency Step.breaches sweep)) = none := by
      refine Option.filter_eq_none_iff.mpr fun s hs hfirst => ?_
      have hs := picks_earliestQueueStep.sound sweep s hs
      exact absurd (queueFirst_iff.mp hfirst b hb hbreaches) (not_le.mpr (hlt s hs.mem hs.holds))
    have hany : sweep.any Step.breaches = true := List.any_eq_true.mpr ⟨b, hb, hbreaches⟩
    rw [if_pos hslo, hnone, hany]
    rfl
  rw [if_neg hslo]
  cases hqueue : earliestQueueStep sweep with
  | some s =>
      have hs := picks_earliestQueueStep.sound sweep s hqueue
      have hfirst : queueFirst (minConcurrency Step.breaches sweep) s = true := by
        refine queueFirst_iff.mpr fun b hb hbreaches => ?_
        by_contra hlt
        refine hslo ⟨b, hb, hbreaches, fun t ht hwaits => ?_⟩
        exact (not_le.mp hlt).trans_le (hs.le t ht hwaits)
      rw [Option.filter_some_pos hfirst]
      rfl
  | none =>
      have hwaits := picks_earliestQueueStep.complete sweep hqueue
      have hbreaches : sweep.any Step.breaches = false := by
        refine List.any_eq_false.mpr fun b hb hbreaches => hslo ⟨b, hb, hbreaches, fun t ht h => ?_⟩
        exact absurd h (by simp [hwaits t ht])
      rw [Option.filter_none, hbreaches, not_maximum_gt hwaits]
      rfl

end Chains

/-! ### The groups of the contexts -/

section Groups

def contexts (sweep : List Step) : List Int := (sweep.map Step.context).dedup.insertionSort (· ≤ ·)

theorem mem_contexts_iff : ctx ∈ contexts sweep ↔ ∃ s ∈ sweep, s.context = ctx := by
  simp [contexts]

theorem insertionSort_eq_of_perm {keys keys' : List Int} (h : keys'.Perm keys) :
    keys'.insertionSort (· ≤ ·) = keys.insertionSort (· ≤ ·) := by
  have hperm :=
    (List.perm_insertionSort (· ≤ ·) keys').trans
      (h.trans (List.perm_insertionSort (· ≤ ·) keys).symm)
  exact hperm.eq_of_pairwise (fun a b _ _ => le_antisymm) (List.pairwise_insertionSort _ _)
    (List.pairwise_insertionSort _ _)

theorem contexts_perm (hperm : other.Perm sweep) : contexts other = contexts sweep :=
  insertionSort_eq_of_perm (hperm.map _).dedup

theorem limitersByContext_eq : limitersByContext sweep = (contexts sweep).map fun ctx =>
    (toString ctx, contextLimiter (sweep.filter fun s => s.context = ctx)) := by
  obtain ⟨keys, hnodup, hkeys, hgroups⟩ := groupBy_eq Step.context sweep
  have hperm : keys.Perm (sweep.map Step.context).dedup := by
    refine (List.perm_ext_iff_of_nodup hnodup (List.nodup_dedup _)).mpr fun ctx => ?_
    rw [hkeys ctx, List.mem_dedup, List.mem_map]
  have hsort : (keys.map (grouped Step.context sweep)).insertionSort (fun g h => g.1 ≤ h.1) =
      (keys.insertionSort (· ≤ ·)).map (grouped Step.context sweep) :=
    (List.map_insertionSort _ _ (grouped Step.context sweep) keys fun _ _ _ _ => Iff.rfl).symm
  rw [limitersByContext, contextGroups, hgroups, hsort, insertionSort_eq_of_perm hperm,
    List.map_map]
  rfl

end Groups

/-! ### When the verdicts agree -/

section Verdicts

def Consistent (sweep : List Step) : Prop :=
  (∀ other, other.Perm sweep → determinePracticalLimiters other = determinePracticalLimiters sweep)
    ∧ ((determinePracticalLimiters sweep).1 ≠ .undetermined →
      ∃ entry ∈ (determinePracticalLimiters sweep).2, entry.2 =
        (determinePracticalLimiters sweep).1)

def QueuesAlike (steps : List Step) : Prop :=
  ∀ s t, Earliest Step.waits Step.concurrency steps s → Earliest Step.waits Step.concurrency steps
    t → s.saturated = t.saturated

/-- What the two chains need of a sweep. The first two fields are about ties, each where the queue
is looked at; the others about the two tests that only the overall chain makes. -/
structure DecidedAlike (sweep : List Step) : Prop where
  contexts : ∀ ctx, (∀ s ∈ sweep, s.context = ctx → s.kvHigh = false) →
    QueuesAlike (sweep.filter fun s => s.context = ctx)
  overall : (∀ s ∈ sweep, s.kvHigh = false) → ¬ SloFirst sweep → QueuesAlike sweep
  breached : (∀ s ∈ sweep, s.kvHigh = false) → SloFirst sweep →
    ∃ s ∈ sweep, s.breaches = true ∧ ∀ t ∈ sweep, t.context = s.context → t.waits = false
  ceiling : (∀ s ∈ sweep, s.kvHigh = false ∧ s.waits = false ∧ s.breaches = false) →
    ∀ s ∈ sweep, s.atCeiling = false

theorem any_filter_eq_false_iff : (sweep.filter fun s => s.context = ctx).any p = false ↔
    ∀ s ∈ sweep, s.context = ctx → p s = false := by
  simp [List.any_eq_false]

theorem contextLimiter_perm (hties : steps.any Step.kvHigh = false → QueuesAlike steps)
    (hperm : steps'.Perm steps) : contextLimiter steps' = contextLimiter steps := by
  rw [contextLimiter_eq, contextLimiter_eq, any_perm hperm, any_perm hperm]
  cases hkv : steps.any Step.kvHigh with
  | true => rfl
  | false =>
      have hqueue : (queueStep steps').map queueLimiter = (queueStep steps).map queueLimiter := by
        refine picks_queueStep.map_eq_of_perm picks_queueStep (fun s t hs ht => ?_) hperm
        rw [queueLimiter, queueLimiter, hties hkv s t hs ht]
      rw [hqueue]

theorem sloFirst_perm_iff (hperm : other.Perm sweep) : SloFirst other ↔ SloFirst sweep :=
  ⟨fun h => h.perm hperm.symm, fun h => h.perm hperm⟩

theorem observedLimiter_perm
    (hties : sweep.any Step.kvHigh = false → ¬ SloFirst sweep → QueuesAlike sweep)
    (hperm : other.Perm sweep) :
    observedLimiter other = observedLimiter sweep := by
  rw [observedLimiter_eq, observedLimiter_eq, any_perm hperm, any_perm hperm]
  cases hkv : sweep.any Step.kvHigh with
  | true => rfl
  | false =>
      by_cases hslo : SloFirst sweep
      · simp [hslo, sloFirst_perm_iff hperm]
      · have hqueue : (earliestQueueStep other).map queueLimiter = (earliestQueueStep sweep).map
            queueLimiter := by
          refine picks_earliestQueueStep.map_eq_of_perm picks_earliestQueueStep
            (fun s t hs ht => ?_) hperm
          rw [queueLimiter, queueLimiter, hties hkv hslo s t hs ht]
        simp [hslo, sloFirst_perm_iff hperm, hqueue]

theorem contextLimiter_cons (hkv : (s :: steps).any Step.kvHigh = false)
    (hs : Earliest Step.waits Step.concurrency (s :: steps) s) :
    contextLimiter (s :: steps) = queueLimiter s := by
  rw [contextLimiter_eq, hkv, picks_queueStep.head s steps hs]
  rfl

theorem observedLimiter_cons (hkv : (s :: steps).any Step.kvHigh = false)
    (hslo : ¬ SloFirst (s :: steps)) (hs : Earliest Step.waits Step.concurrency (s :: steps) s) :
    observedLimiter (s :: steps) = queueLimiter s := by
  rw [observedLimiter_eq, hkv, if_neg Bool.false_ne_true, if_neg hslo,
    picks_earliestQueueStep.head s steps hs]
  rfl

theorem observedLimiter_of_earliest
    (horder : ∀ other, other.Perm sweep →
      determinePracticalLimiters other = determinePracticalLimiters sweep)
    (hkv : ∀ s ∈ sweep, s.kvHigh = false) (hslo : ¬ SloFirst sweep)
    (hs : Earliest Step.waits Step.concurrency sweep s) :
    observedLimiter sweep = queueLimiter s := by
  obtain ⟨rest, hperm⟩ := exists_perm_cons hs.mem
  have hkv' : (s :: rest).any Step.kvHigh = false := by
    rw [any_perm hperm]
    simpa [List.any_eq_false] using hkv
  calc observedLimiter sweep = observedLimiter (s :: rest) :=
    (congrArg Prod.fst (horder _ hperm)).symm
    _ = queueLimiter s := observedLimiter_cons hkv' (mt (sloFirst_perm_iff hperm).mp hslo)
      (hs.perm hperm)

theorem contextLimiter_of_earliest
    (horder : ∀ other, other.Perm sweep →
      determinePracticalLimiters other = determinePracticalLimiters sweep)
    (hkv : ∀ s ∈ sweep, s.context = ctx → s.kvHigh = false)
    (hs : Earliest Step.waits Step.concurrency (sweep.filter fun s => s.context = ctx) s) :
    contextLimiter (sweep.filter fun s => s.context = ctx) = queueLimiter s := by
  obtain ⟨hmem, hctx⟩ := List.mem_filter.mp hs.mem
  obtain ⟨rest, hperm⟩ := exists_perm_cons hmem
  have hgroup := hperm.filter fun s => decide (s.context = ctx)
  have hlimiters := congrArg Prod.snd (horder _ hperm)
  simp only [determinePracticalLimiters, limitersByContext_eq, contexts_perm hperm] at hlimiters
  have hin : ctx ∈ contexts sweep := mem_contexts_iff.mpr ⟨s, hmem, of_decide_eq_true hctx⟩
  have hlimiter := congrArg Prod.snd (List.map_inj_left.mp hlimiters ctx hin)
  have hkv' : ((s :: rest).filter fun s => s.context = ctx).any Step.kvHigh = false := by
    rw [any_perm hgroup]
    exact any_filter_eq_false_iff.mpr hkv
  have hcons : (s :: rest).filter (fun s => s.context = ctx) = s :: rest.filter fun s => s.context =
      ctx :=
    List.filter_cons_of_pos hctx
  rw [hcons] at hkv' hgroup hlimiter
  calc contextLimiter (sweep.filter fun s => s.context = ctx)
      = contextLimiter (s :: rest.filter fun s => s.context = ctx) := hlimiter.symm
    _ = queueLimiter s := contextLimiter_cons hkv' (hs.perm hgroup)

theorem order_iff :
    (∀ other, other.Perm sweep → determinePracticalLimiters other = determinePracticalLimiters
      sweep) ↔ (∀ ctx, (∀ s ∈ sweep, s.context = ctx → s.kvHigh = false) →
        QueuesAlike (sweep.filter fun s => s.context = ctx)) ∧
      ((∀ s ∈ sweep, s.kvHigh = false) → ¬ SloFirst sweep → QueuesAlike sweep) := by
  constructor
  · refine fun horder => ⟨fun ctx hkv s t hs ht => ?_, fun hkv hslo s t hs ht => ?_⟩
    · refine saturated_eq_of_queueLimiter ?_
      rw [← contextLimiter_of_earliest horder hkv hs, contextLimiter_of_earliest horder hkv ht]
    · refine saturated_eq_of_queueLimiter ?_
      rw [← observedLimiter_of_earliest horder hkv hslo hs,
        observedLimiter_of_earliest horder hkv hslo ht]
  · rintro ⟨hcontexts, hoverall⟩ other hperm
    have hlimiters : limitersByContext other = limitersByContext sweep := by
      rw [limitersByContext_eq, limitersByContext_eq, contexts_perm hperm]
      refine List.map_congr_left fun ctx _ => ?_
      rw [contextLimiter_perm (fun hkv => hcontexts ctx (any_filter_eq_false_iff.mp hkv))
        (hperm.filter _)]
    have hobserved : observedLimiter other = observedLimiter sweep := by
      refine observedLimiter_perm (fun hkv => hoverall ?_) hperm
      simpa [List.any_eq_false] using hkv
    exact Prod.ext hobserved hlimiters

theorem exists_entry_iff {limiter : Limiter} :
    (∃ entry ∈ (determinePracticalLimiters sweep).2, entry.2 = limiter) ↔
    ∃ s ∈ sweep, contextLimiter (sweep.filter fun t => t.context = s.context) = limiter := by
  rw [determinePracticalLimiters, limitersByContext_eq]
  constructor
  · rintro ⟨entry, hentry, rfl⟩
    obtain ⟨ctx, hctx, rfl⟩ := List.mem_map.mp hentry
    obtain ⟨s, hs, rfl⟩ := mem_contexts_iff.mp hctx
    exact ⟨s, hs, rfl⟩
  · rintro ⟨s, hs, hlimiter⟩
    exact ⟨_, List.mem_map_of_mem (mem_contexts_iff.mpr ⟨s, hs, rfl⟩), hlimiter⟩

theorem contextLimiter_eq_breach_iff (hkv : steps.any Step.kvHigh = false) :
    contextLimiter steps = .ttftSloBreachComputeContention ↔
      (∀ t ∈ steps, t.waits = false) ∧ ∃ s ∈ steps, s.breaches = true := by
  rw [contextLimiter_eq, hkv, if_neg Bool.false_ne_true, ← List.any_eq_true]
  cases hqueue : queueStep steps with
  | none =>
      rw [and_iff_right (picks_queueStep.complete steps hqueue), Option.map_none, Option.getD_none]
      cases steps.any Step.breaches <;> simp
  | some s =>
      have hs := picks_queueStep.sound steps s hqueue
      have hwaits : ¬ ∀ t ∈ steps, t.waits = false := fun h => by simpa [hs.holds] using h s hs.mem
      refine iff_of_false ?_ fun h => hwaits h.1
      rw [Option.map_some, Option.getD_some]
      unfold queueLimiter
      split_ifs <;> simp

theorem exists_context_of_kvHigh (hs : s ∈ sweep) (hkv : s.kvHigh = true) :
    contextLimiter (sweep.filter fun t => t.context = s.context) = .kvCacheCapacity := by
  have hany : (sweep.filter fun t => t.context = s.context).any Step.kvHigh = true :=
    List.any_eq_true.mpr ⟨s, List.mem_filter.mpr ⟨hs, decide_eq_true rfl⟩, hkv⟩
  rw [contextLimiter_eq, hany, if_pos rfl]

theorem exists_context_breach_iff (hkv : ∀ s ∈ sweep, s.kvHigh = false) :
    (∃ s ∈ sweep, contextLimiter (sweep.filter fun t => t.context = s.context) =
      .ttftSloBreachComputeContention) ↔
      ∃ s ∈ sweep, s.breaches = true ∧ ∀ t ∈ sweep, t.context = s.context → t.waits = false := by
  have hany (ctx : Int) : (sweep.filter fun t => t.context = ctx).any Step.kvHigh = false :=
    any_filter_eq_false_iff.mpr fun s hs _ => hkv s hs
  have hcontext (ctx : Int) := contextLimiter_eq_breach_iff (hany ctx)
  simp only [hcontext, List.mem_filter, decide_eq_true_eq, and_imp]
  constructor
  · rintro ⟨s, -, hwaits, b, ⟨hb, hctx⟩, hbreaches⟩
    exact ⟨b, hb, hbreaches, fun t ht h => hwaits t ht (h.trans hctx)⟩
  · rintro ⟨s, hs, hbreaches, hwaits⟩
    exact ⟨s, hs, hwaits, s, ⟨hs, rfl⟩, hbreaches⟩

theorem contextLimiter_of_queue (hkv : ∀ s ∈ sweep, s.kvHigh = false) (halike : QueuesAlike sweep)
    (hs : Earliest Step.waits Step.concurrency sweep s) :
    contextLimiter (sweep.filter fun t => t.context = s.context) = queueLimiter s := by
  have hany : (sweep.filter fun t => t.context = s.context).any Step.kvHigh = false :=
    any_filter_eq_false_iff.mpr fun t ht _ => hkv t ht
  rw [contextLimiter_eq, hany, if_neg Bool.false_ne_true]
  have hgroup : s ∈ sweep.filter fun t => t.context = s.context :=
    List.mem_filter.mpr ⟨hs.mem, decide_eq_true rfl⟩
  cases hqueue : queueStep (sweep.filter fun t => t.context = s.context) with
  | none => exact absurd hs.holds (by simp [picks_queueStep.complete _ hqueue s hgroup])
  | some t =>
      have ht := picks_queueStep.sound _ t hqueue
      have hoverall : Earliest Step.waits Step.concurrency sweep t :=
        ⟨List.mem_of_mem_filter ht.mem, ht.holds, fun u hu hwaits =>
          (ht.le s hgroup hs.holds).trans (hs.le u hu hwaits)⟩
      rw [Option.map_some, Option.getD_some, queueLimiter, queueLimiter, halike t s hoverall hs]

theorem contextLimiter_of_idle
    (h : ∀ s ∈ sweep, s.kvHigh = false ∧ s.waits = false ∧ s.breaches = false) :
    contextLimiter (sweep.filter fun t => t.context = ctx) = .noneObserved := by
  have hkv : (sweep.filter fun t => t.context = ctx).any Step.kvHigh = false :=
    any_filter_eq_false_iff.mpr fun s hs _ => (h s hs).1
  have hbreaches : (sweep.filter fun t => t.context = ctx).any Step.breaches = false :=
    any_filter_eq_false_iff.mpr fun s hs _ => (h s hs).2.2
  have hqueue : queueStep (sweep.filter fun t => t.context = ctx) = none :=
    picks_queueStep.eq_none_iff.mpr fun s hs => (h s (List.mem_of_mem_filter hs)).2.1
  rw [contextLimiter_eq, hkv, hbreaches, hqueue]
  rfl

theorem exists_context_observed_iff
    (hoverall : (∀ s ∈ sweep, s.kvHigh = false) → ¬ SloFirst sweep → QueuesAlike sweep) :
    (observedLimiter sweep ≠ .undetermined →
        ∃ s ∈ sweep, contextLimiter (sweep.filter fun t => t.context = s.context) =
        observedLimiter sweep) ↔
      ((∀ s ∈ sweep, s.kvHigh = false) → SloFirst sweep →
        ∃ s ∈ sweep, s.breaches = true ∧ ∀ t ∈ sweep, t.context = s.context → t.waits = false) ∧
      ((∀ s ∈ sweep, s.kvHigh = false ∧ s.waits = false ∧ s.breaches = false) →
        ∀ s ∈ sweep, s.atCeiling = false) := by
  by_cases hkv : ∀ s ∈ sweep, s.kvHigh = false
  swap
  · obtain ⟨s, hs, hhigh⟩ : ∃ s ∈ sweep, s.kvHigh = true := by simpa using hkv
    have hobserved : observedLimiter sweep = .kvCacheCapacity := by
      rw [observedLimiter_eq, if_pos (List.any_eq_true.mpr ⟨s, hs, hhigh⟩)]
    rw [hobserved]
    exact iff_of_true (fun _ => ⟨s, hs, exists_context_of_kvHigh hs hhigh⟩)
      ⟨fun h => absurd h hkv, fun h => absurd (fun s hs => (h s hs).1) hkv⟩
  have hany : sweep.any Step.kvHigh = false := by simpa [List.any_eq_false] using hkv
  by_cases hslo : SloFirst sweep
  · have hobserved : observedLimiter sweep = .ttftSloBreachComputeContention := by
      rw [observedLimiter_eq, hany, if_neg Bool.false_ne_true, if_pos hslo]
    obtain ⟨b, hb, hbreaches, -⟩ := id hslo
    rw [hobserved, exists_context_breach_iff hkv]
    constructor
    · refine fun h => ⟨fun _ _ => h (by simp), fun hidle => ?_⟩
      exact absurd hbreaches (by simp [(hidle b hb).2.2])
    · exact fun h _ => h.1 hkv hslo
  have hobserved : observedLimiter sweep = ((earliestQueueStep sweep).map queueLimiter).getD
      (if sweep.any Step.atCeiling then .maxNumSeqsConcurrencyLimit else .undetermined) := by
    rw [observedLimiter_eq, hany, if_neg Bool.false_ne_true, if_neg hslo]
  cases hqueue : earliestQueueStep sweep with
  | some s =>
      have hs := picks_earliestQueueStep.sound sweep s hqueue
      rw [hobserved, hqueue, Option.map_some, Option.getD_some]
      refine iff_of_true (fun _ => ⟨s, hs.mem, contextLimiter_of_queue hkv (hoverall hkv hslo) hs⟩)
        ⟨fun _ h => absurd h hslo, fun hidle => ?_⟩
      exact absurd hs.holds (by simp [(hidle s hs.mem).2.1])
  | none =>
      -- nothing is observed in any context
      have hwaits := picks_earliestQueueStep.complete sweep hqueue
      have hidle (s : Step) (hs : s ∈ sweep) : s.kvHigh = false ∧ s.waits = false ∧
          s.breaches = false := by
        refine ⟨hkv s hs, hwaits s hs, Bool.eq_false_iff.mpr fun hbreaches =>
          hslo ⟨s, hs, hbreaches, fun t ht h => ?_⟩⟩
        exact absurd h (by simp [hwaits t ht])
      rw [hobserved, hqueue, Option.map_none, Option.getD_none]
      simp only [contextLimiter_of_idle hidle]
      cases hceiling : sweep.any Step.atCeiling with
      | true =>
          obtain ⟨s, hs, hat⟩ := List.any_eq_true.mp hceiling
          refine iff_of_false (fun h => ?_) fun h => absurd hat (by simp [h.2 hidle s hs])
          obtain ⟨t, ht, hlimiter⟩ := h (by simp)
          cases hlimiter
      | false =>
          refine iff_of_true (fun h => absurd rfl h) ⟨fun _ h => absurd h hslo, fun _ => ?_⟩
          simpa [List.any_eq_false] using hceiling

/-- **Consistent verdicts.** -/
theorem determinePracticalLimiters_consistent_iff : Consistent sweep ↔ DecidedAlike sweep := by
  unfold Consistent
  rw [order_iff, exists_entry_iff]
  constructor
  · rintro ⟨⟨hcontexts, hoverall⟩, hentry⟩
    obtain ⟨hbreached, hceiling⟩ := (exists_context_observed_iff hoverall).mp hentry
    exact ⟨hcontexts, hoverall, hbreached, hceiling⟩
  · rintro ⟨hcontexts, hoverall, hbreached, hceiling⟩
    exact ⟨⟨hcontexts, hoverall⟩, (exists_context_observed_iff hoverall).mpr ⟨hbreached, hceiling⟩⟩

def fullStep : Step :=
  { contextLengthTarget := some 512, concurrency := 16, peakRunning := some (.ofRat 8),
    peakWaiting := some (.ofRat 6), errorCount := some 0 }

def partialStep : Step :=
  { contextLengthTarget := some 512, concurrency := 16, peakRunning := some (.ofRat 5),
    peakWaiting := some (.ofRat 6), errorCount := some 0 }

def unqueuedStep : Step :=
  { contextLengthTarget := some 512, concurrency := 8, peakRunning := some (.ofRat 8),
    peakWaiting := some (.ofRat 0), errorCount := some 0 }

/-- The order of two runs changes both verdicts, and an overall limiter is that of no context. -/
theorem verdicts_by_order_and_chain :
    determinePracticalLimiters [fullStep, partialStep] =
        (.maxNumSeqsConcurrencyLimit, [("512", .maxNumSeqsConcurrencyLimit)]) ∧
      determinePracticalLimiters [partialStep, fullStep] =
        (.schedulerLongContextBatchedTokensLimit,
        [("512", .schedulerLongContextBatchedTokensLimit)]) ∧
      determinePracticalLimiters [unqueuedStep] = (.maxNumSeqsConcurrencyLimit,
      [("512", .noneObserved)]) ∧
      ¬ Consistent [fullStep, partialStep] ∧ ¬ Consistent [unqueuedStep] := by
  have hfull : determinePracticalLimiters [fullStep, partialStep] =
      (.maxNumSeqsConcurrencyLimit, [("512", .maxNumSeqsConcurrencyLimit)]) := by decide +kernel
  have hpartial : determinePracticalLimiters [partialStep, fullStep] =
      (.schedulerLongContextBatchedTokensLimit,
        [("512", .schedulerLongContextBatchedTokensLimit)]) := by
    decide +kernel
  have hunqueued : determinePracticalLimiters [unqueuedStep] =
      (.maxNumSeqsConcurrencyLimit, [("512", .noneObserved)]) := by decide +kernel
  refine ⟨hfull, hpartial, hunqueued, fun h => ?_, fun h => ?_⟩
  · have hsame := h.1 [partialStep, fullStep] (List.Perm.swap ..)
    rw [hfull, hpartial] at hsame
    exact absurd hsame (by decide)
  · have hentry := h.2
    rw [hunqueued] at hentry
    exact absurd hentry (by decide)

end Verdicts

end AiAnalytics.Experiments
