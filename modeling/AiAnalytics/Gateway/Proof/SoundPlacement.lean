import AiAnalytics.Gateway.Proof.Placeability
import Mathlib.Data.Prod.Lex
import Mathlib.Data.String.Basic

/-!
# Where a request is placed

`pick` narrows the workers down: to the healthy ones, to those with a recent snapshot, to those with
room in their caches, to those below the limit of batch work. The first and the last may leave none;
the others give way where they would. Every policy chooses among what is left, whatever is drawn.
-/

namespace AiAnalytics.Gateway

open Lib

variable {Float : Type} {ops : FloatOps Float} {rng : Rng} {settings : PlacementSettings Float}
  {request : PlacementRequest} {workers : List (WorkerSnapshot Float)} {now : Float}

section Eligibility

def Recent (ops : FloatOps Float) (settings : PlacementSettings Float) (now : Float)
    (workers : List (WorkerSnapshot Float)) (worker : WorkerSnapshot Float) : Prop :=
  worker.healthy = true ∧ (worker.fresh ops now settings.staleAfter = true ∨
    ∀ other ∈ workers, other.fresh ops now settings.staleAfter = false)

def Roomy (ops : FloatOps Float) (settings : PlacementSettings Float) (now : Float)
    (workers : List (WorkerSnapshot Float)) (worker : WorkerSnapshot Float) : Prop :=
  Recent ops settings now workers worker ∧
    (ops.le settings.minKvFree worker.kvFreeRatio = true ∨
      ∀ other ∈ workers, Recent ops settings now workers other →
        ops.le settings.minKvFree other.kvFreeRatio = false)

def Eligible (ops : FloatOps Float) (settings : PlacementSettings Float)
    (request : PlacementRequest) (now : Float) (workers : List (WorkerSnapshot Float))
    (worker : WorkerSnapshot Float) : Prop :=
  Roomy ops settings now workers worker ∧ (request.workloadClass = .batch →
    ∀ limit, settings.batchSlotLimit = some limit → worker.occupied ops < limit)

def Holding (workers : List (WorkerSnapshot Float)) (p : WorkerSnapshot Float → Prop)
    (pool : Pool (Candidate Float)) : Prop :=
  ∀ candidate, candidate ∈ pool.toList ↔ candidate ∈ workers.zipIdx ∧ p candidate.1

variable {p : WorkerSnapshot Float → Prop} {pool : Pool (Candidate Float)}

theorem Holding.forall_iff (hpool : Holding workers p pool) (q : WorkerSnapshot Float → Prop) :
    (∀ candidate ∈ pool.toList, q candidate.1) ↔ ∀ worker ∈ workers, p worker → q worker := by
  constructor
  · intro hall worker hmem hworker
    obtain ⟨i, hi⟩ := List.mem_iff_getElem?.mp hmem
    exact hall (worker, i) ((hpool _).mpr ⟨List.mem_zipIdx_iff_getElem?.mpr hi, hworker⟩)
  · intro hall candidate hcandidate
    obtain ⟨hplace, hworker⟩ := (hpool candidate).mp hcandidate
    exact hall candidate.1 (List.fst_mem_of_mem_zipIdx hplace) hworker

theorem Holding.exists_worker (hpool : Holding workers p pool) : ∃ worker ∈ workers, p worker := by
  obtain ⟨hplace, hworker⟩ := (hpool pool.head).mp List.mem_cons_self
  exact ⟨pool.head.1, List.fst_mem_of_mem_zipIdx hplace, hworker⟩

theorem Holding.prefer (hpool : Holding workers p pool) (keep : WorkerSnapshot Float → Bool) :
    Holding workers (fun worker => p worker ∧ (keep worker = true ∨
        ∀ other ∈ workers, p other → keep other = false))
      (pool.prefer fun candidate => keep candidate.1) := by
  intro candidate
  rw [Pool.mem_prefer, hpool candidate, and_assoc]
  have hothers : (∀ other ∈ pool.toList, keep other.1 = false) ↔
      ∀ other ∈ workers, p other → keep other = false :=
    hpool.forall_iff fun worker => keep worker = false
  rw [hothers]

theorem Holding.congr (hpool : Holding workers p pool) {q : WorkerSnapshot Float → Prop}
    (hpq : ∀ worker, p worker ↔ q worker) : Holding workers q pool := by
  intro candidate
  rw [hpool candidate, hpq]

theorem freshOrHealthy_fst : (freshOrHealthy ops settings now pool).1 =
    pool.prefer fun candidate => !candidate.1.isStale ops settings.staleAfter now := by
  rw [freshOrHealthy, Pool.prefer]
  cases Pool.ofList (pool.toList.filter fun candidate =>
    !candidate.1.isStale ops settings.staleAfter now) <;> rfl

theorem holding_freshOrHealthy
    (hpool : Holding workers (fun worker => worker.healthy = true) pool) :
    Holding workers (Recent ops settings now workers) (freshOrHealthy ops settings now pool).1 := by
  rw [freshOrHealthy_fst]
  apply (hpool.prefer fun worker => !worker.isStale ops settings.staleAfter now).congr
  intro worker
  simp only [Recent, WorkerSnapshot.fresh, Bool.and_eq_true, Bool.and_eq_false_iff]
  constructor
  · rintro ⟨hhealthy, hfresh | hnone⟩
    · exact ⟨hhealthy, .inl ⟨hhealthy, hfresh⟩⟩
    · refine ⟨hhealthy, .inr fun other hother => ?_⟩
      cases hsick : other.healthy with
      | false => exact .inl rfl
      | true => exact .inr (hnone other hother hsick)
  · rintro ⟨hhealthy, hfresh | hnone⟩
    · exact ⟨hhealthy, .inl hfresh.2⟩
    · refine ⟨hhealthy, .inr fun other hother hwell => ?_⟩
      exact (hnone other hother).resolve_left fun hsick => Bool.noConfusion (hwell.symm.trans hsick)

theorem fallback_iff (hpool : Holding workers (fun worker => worker.healthy = true) pool) :
    (freshOrHealthy ops settings now pool).2 = some "stale_snapshot" ↔
      ¬ ∃ worker ∈ workers, worker.fresh ops now settings.staleAfter = true := by
  rw [freshOrHealthy]
  cases hfresh : Pool.ofList (pool.toList.filter fun candidate =>
      !candidate.1.isStale ops settings.staleAfter now) with
  | some fresh =>
      have hkept : (none : Option String) ≠ some "stale_snapshot" := by
        intro hsame
        cases hsame
      refine iff_of_false hkept (not_not.mpr ?_)
      have hmem : fresh.head ∈ pool.toList.filter fun candidate =>
          !candidate.1.isStale ops settings.staleAfter now := by
        rw [← Pool.toList_of_ofList hfresh]
        exact List.mem_cons_self
      obtain ⟨hcandidate, hrecent⟩ := List.mem_filter.mp hmem
      obtain ⟨hplace, hhealthy⟩ := (hpool fresh.head).mp hcandidate
      exact ⟨fresh.head.1, List.fst_mem_of_mem_zipIdx hplace,
        Bool.and_eq_true_iff.mpr ⟨hhealthy, hrecent⟩⟩
  | none =>
      refine iff_of_true rfl ?_
      rintro ⟨worker, hworker, hboth⟩
      obtain ⟨hhealthy, hrecent⟩ := Bool.and_eq_true_iff.mp hboth
      have hstale := List.filter_eq_nil_iff.mp (Pool.ofList_eq_none_iff.mp hfresh)
      have hall := (hpool.forall_iff fun worker =>
        ¬ (!worker.isStale ops settings.staleAfter now) = true).mp hstale
      exact hall worker hworker hhealthy hrecent

theorem holding_roomy (hpool : Holding workers (Recent ops settings now workers) pool) :
    Holding workers (Roomy ops settings now workers)
      (pool.prefer fun candidate => ops.le settings.minKvFree candidate.1.kvFreeRatio) :=
  hpool.prefer fun worker => ops.le settings.minKvFree worker.kvFreeRatio

theorem withBatchRoom_cases (hpool : Holding workers (Roomy ops settings now workers) pool) :
    (∃ eligible, withBatchRoom ops settings request pool = some eligible ∧
      Holding workers (Eligible ops settings request now workers) eligible) ∨
    (withBatchRoom ops settings request pool = none ∧ request.workloadClass = .batch ∧
      ∃ limit, settings.batchSlotLimit = some limit ∧
        ∀ worker ∈ workers, Roomy ops settings now workers worker →
        limit ≤ worker.occupied ops) := by
  by_cases hlimited : request.workloadClass = .batch ∧ settings.batchSlotLimit.isSome
  · obtain ⟨hbatch, hsome⟩ := hlimited
    obtain ⟨limit, hlimit⟩ := Option.isSome_iff_exists.mp hsome
    rw [withBatchRoom, hbatch, hlimit]
    cases hroom : Pool.ofList (pool.toList.filter fun candidate =>
        decide (candidate.1.occupied ops < limit)) with
    | some eligible =>
        refine .inl ⟨eligible, hroom, fun candidate => ?_⟩
        rw [Pool.toList_of_ofList hroom, List.mem_filter, hpool candidate, and_assoc,
          decide_eq_true_iff, Eligible, hbatch, hlimit]
        simp only [forall_const, Option.some_inj, forall_eq']
    | none =>
        refine .inr ⟨hroom, rfl, limit, rfl, ?_⟩
        have hfull := List.filter_eq_nil_iff.mp (Pool.ofList_eq_none_iff.mp hroom)
        have hall :=
          (hpool.forall_iff fun worker => ¬ decide (worker.occupied ops < limit) = true).mp hfull
        intro worker hworker hroomy
        exact not_lt.mp fun hlt => hall worker hworker hroomy (decide_eq_true hlt)
  · have hkeep : withBatchRoom ops settings request pool = some pool := by
      rw [withBatchRoom]
      split
      · rename_i limit hbatch hlimit
        exact absurd ⟨hbatch, Option.isSome_of_eq_some hlimit⟩ hlimited
      · rfl
    refine .inl ⟨pool, hkeep, hpool.congr fun worker => ?_⟩
    refine ⟨fun hroomy => ⟨hroomy, fun hbatch limit hlimit => ?_⟩, And.left⟩
    exact absurd ⟨hbatch, Option.isSome_of_eq_some hlimit⟩ hlimited

end Eligibility

section Policies

variable {p : WorkerSnapshot Float → Prop} {eligible : Pool (Candidate Float)}
  {owner : Candidate Float}

theorem leastLoaded_le (candidates : Pool (Candidate Float)) :
    ∀ candidate ∈ candidates.toList, load (leastLoaded candidates).1 ≤ load candidate.1 := by
  have hbetter : ∀ candidate front : Candidate Float,
      decide (load candidate.1 < load front.1) = true ↔ load candidate.1 < load front.1 :=
    fun _ _ => decide_eq_true_iff
  intro candidate hcandidate
  exact Pool.best_le hbetter candidates candidate hcandidate

theorem leastLoaded_mem (candidates : Pool (Candidate Float)) :
    leastLoaded candidates ∈ candidates.toList :=
  Pool.best_mem _ _

theorem anyLeastLoaded_le :
    ∀ candidate ∈ eligible.toList, load (anyLeastLoaded rng eligible).1 ≤ load candidate.1 := by
  intro candidate hcandidate
  obtain ⟨-, hties | hnone⟩ := Pool.mem_prefer.mp (Pool.get_mem (rng.choice _
    (eligible.prefer fun candidate => load candidate.1 = load (leastLoaded eligible).1).length_pos))
  · have hload : load (anyLeastLoaded rng eligible).1 = load (leastLoaded eligible).1 :=
      of_decide_eq_true hties
    rw [hload]
    exact leastLoaded_le eligible candidate hcandidate
  · exact absurd rfl (of_decide_eq_false (hnone _ (leastLoaded_mem eligible)))

theorem priorOwner_mem (howner : priorOwner ops request workers = some owner) :
    owner ∈ workers.zipIdx := by
  obtain ⟨id, -, hfind⟩ := Option.bind_eq_some_iff.mp howner
  exact List.mem_reverse.mp (List.mem_of_find?_eq_some hfind)

theorem heldBefore_iff [LinearOrder Float] (hlt : ∀ x y, ops.lt x y = true ↔ x < y)
    (heq : ∀ x y, ops.eq x y = true ↔ x = y) (x y : Float × String) :
    heldBefore ops x y = true ↔ toLex x < toLex y := by
  rw [Prod.Lex.toLex_lt_toLex, heldBefore]
  by_cases hsame : x.1 = y.1
  · rw [if_pos ((heq _ _).mpr hsame), decide_eq_true_iff]
    simp [hsame]
  · rw [if_neg (mt (heq _ _).mp hsame), hlt]
    simp [hsame]

/-- The owner of a prefix is a given worker that is believed to hold it, and nothing newer is known
of another holder. -/
theorem priorOwner_latest [LinearOrder Float] (hlt : ∀ x y, ops.lt x y = true ↔ x < y)
    (heq : ∀ x y, ops.eq x y = true ↔ x = y) (hids : (workers.map WorkerSnapshot.id).Nodup)
    (howner : priorOwner ops request workers = some owner) :
    owner.1 ∈ workers ∧ ∃ belief, request.belief owner.1 = some belief ∧
      ∀ other ∈ workers, ∀ held, request.belief other = some held →
        held.observedAt ≤ belief.observedAt := by
  have hmem : owner.1 ∈ workers := List.fst_mem_of_mem_zipIdx (priorOwner_mem howner)
  obtain ⟨id, hprior, hfind⟩ := Option.bind_eq_some_iff.mp howner
  have hid : owner.1.id = id := by
    rw [byId] at hfind
    simpa using List.find?_some hfind
  obtain ⟨pool, hpool, hbest⟩ := Option.map_eq_some_iff.mp (Option.filter_eq_some_iff.mp hprior).1
  set best := pool.best fun x front => heldBefore ops front x with hfront
  have hheld : best ∈ pool.toList := Pool.best_mem _ _
  have hkey : ∀ x front, heldBefore ops front x = true ↔
      OrderDual.toDual (toLex x) < OrderDual.toDual (toLex front) :=
    fun x front => (heldBefore_iff hlt heq front x).trans OrderDual.toDual_lt_toDual.symm
  have hlatest : ∀ item ∈ pool.toList, toLex item ≤ toLex best := by
    intro item hitem
    have hle := @Pool.best_le _ (Float ×ₗ String)ᵒᵈ _ (fun x => OrderDual.toDual (toLex x)) _ hkey
      pool item hitem
    exact OrderDual.toDual_le_toDual.mp hle
  rw [Pool.toList_of_ofList hpool] at hheld hlatest
  obtain ⟨worker, hworker, hbelief⟩ := List.mem_filterMap.mp hheld
  obtain ⟨belief, hbelief, hentry⟩ := Option.map_eq_some_iff.mp hbelief
  have hsame : worker.id = owner.1.id := by
    rw [hid, ← hbest, ← hentry]
  obtain rfl : worker = owner.1 := List.inj_on_of_nodup_map hids hworker hmem hsame
  refine ⟨hmem, belief, hbelief, fun other hother held hholds => ?_⟩
  have hle := hlatest (held.observedAt, other.id)
    (List.mem_filterMap.mpr ⟨other, hother, by rw [hholds]; rfl⟩)
  rw [← hentry, Prod.Lex.toLex_le_toLex] at hle
  exact hle.elim le_of_lt fun hsame => le_of_eq hsame.1

theorem eq_of_place {x y : Candidate Float} (hx : x ∈ workers.zipIdx) (hy : y ∈ workers.zipIdx)
    (hplace : x.2 = y.2) : x = y := by
  rw [List.mem_zipIdx_iff_getElem?] at hx hy
  rw [hplace, hy] at hx
  exact Prod.ext (Option.some.inj hx).symm hplace

theorem place_mem_iff (hpool : Holding workers p eligible) (howner : owner ∈ workers.zipIdx) :
    owner.2 ∈ eligible.toList.map Prod.snd ↔ owner ∈ eligible.toList := by
  constructor
  · intro hplace
    obtain ⟨candidate, hcandidate, hsame⟩ := List.mem_map.mp hplace
    rw [← eq_of_place ((hpool candidate).mp hcandidate).1 howner hsame]
    exact hcandidate
  · intro hmem
    exact List.mem_map_of_mem hmem

variable (ops rng settings request)

theorem prefixThenLoad_of_owner (hpool : Holding workers p eligible)
    (howner : priorOwner ops request workers = some owner) (hmem : owner ∈ eligible.toList) :
    let chosen := (prefixThenLoad ops rng settings request workers eligible).1
    chosen ∈ eligible.toList ∧
      (chosen = owner ∨ ∃ why, ownerSaturated ops settings owner.1 = some why ∧
        (why = "prefix_owner_saturated" → load chosen.1 < load owner.1)) := by
  have hplace := (place_mem_iff hpool (priorOwner_mem howner)).mpr hmem
  simp only [prefixThenLoad, howner, if_neg (not_not.mpr hplace)]
  split
  · rename_i others why hothers hwhy
    split_ifs with hleave
    · have htarget := leastLoaded_mem others
      rw [Pool.toList_of_ofList hothers] at htarget
      refine ⟨List.mem_of_mem_filter htarget, .inr ⟨why, hwhy, fun hqueue => ?_⟩⟩
      exact hleave.resolve_left (not_not.mpr hqueue)
    · exact ⟨hmem, .inl rfl⟩
  · exact ⟨hmem, .inl rfl⟩

theorem prefixThenLoad_mem_eligible (hpool : Holding workers p eligible) :
    (prefixThenLoad ops rng settings request workers eligible).1 ∈ eligible.toList := by
  cases howner : priorOwner ops request workers with
  | none =>
      simp only [prefixThenLoad, howner]
      exact p2c_mem
  | some owner =>
      by_cases hmem : owner ∈ eligible.toList
      · exact (prefixThenLoad_of_owner ops rng settings request hpool howner hmem).1
      · have hplace := (place_mem_iff hpool (priorOwner_mem howner)).not.mpr hmem
        simp only [prefixThenLoad, howner, if_pos hplace]
        exact p2c_mem

variable {ops rng settings request}

theorem choose_eq_none_iff {policy : String} :
    choose ops rng settings request workers eligible policy = none ↔ policy ∉ policies := by
  unfold choose policies
  split_ifs <;> simp_all

theorem choose_mem_eligible (hpool : Holding workers p eligible) {policy reason : String}
    {chosen : Candidate Float}
    (hchoose : choose ops rng settings request workers eligible policy = some (chosen, reason)) :
    chosen ∈ eligible.toList := by
  unfold choose at hchoose
  split_ifs at hchoose
  · cases hchoose
    exact Pool.get_mem _
  · cases hchoose
    exact anyLeastLoaded_mem
  · cases hchoose
    exact p2c_mem
  · have hmem := prefixThenLoad_mem_eligible ops rng settings request hpool
    rw [Option.some.inj hchoose] at hmem
    exact hmem

end Policies

section Placement

variable {policy : String}

/-- What is promised of the worker that a decision names. -/
structure Placed (ops : FloatOps Float) (settings : PlacementSettings Float)
    (request : PlacementRequest) (workers : List (WorkerSnapshot Float)) (now : Float)
    (policy : String) (decision : PlacementDecision Float) (chosen : WorkerSnapshot Float) :
    Prop where
  given : chosen ∈ workers
  named : decision.chosenWorker = chosen.id
  healthy : chosen.healthy = true
  fresh : (∃ worker ∈ workers, worker.fresh ops now settings.staleAfter = true) →
    chosen.fresh ops now settings.staleAfter = true
  fallback : decision.fallback = some "stale_snapshot" ↔
    ¬ ∃ worker ∈ workers, worker.fresh ops now settings.staleAfter = true
  roomy : (∃ worker ∈ workers, Recent ops settings now workers worker ∧
      ops.le settings.minKvFree worker.kvFreeRatio = true) →
    ops.le settings.minKvFree chosen.kvFreeRatio = true
  batch : request.workloadClass = .batch →
    ∀ limit, settings.batchSlotLimit = some limit → chosen.occupied ops < limit
  leastLoaded : policy = "least_loaded" →
    ∀ worker ∈ workers, Eligible ops settings request now workers worker → load chosen ≤ load worker
  sticky : policy = "prefix_then_load" → ∀ owner, priorOwner ops request workers = some owner →
    Eligible ops settings request now workers owner.1 →
      (ownerSaturated ops settings owner.1 = none → chosen = owner.1) ∧
      (ownerSaturated ops settings owner.1 = some "prefix_owner_saturated" →
        chosen = owner.1 ∨ load chosen < load owner.1)

theorem placed_of_choose {eligible : Pool (Candidate Float)} {fallback : Option String}
    {chosen : Candidate Float} {reason : String}
    (hpool : Holding workers (Eligible ops settings request now workers) eligible)
    (hfallback : fallback = some "stale_snapshot" ↔
      ¬ ∃ worker ∈ workers, worker.fresh ops now settings.staleAfter = true)
    (hchoose : choose ops rng settings request workers eligible policy = some (chosen, reason)) :
    Placed ops settings request workers now policy
      (decision ops request workers now fallback chosen.1 policy reason) chosen.1 := by
  have hmem := choose_mem_eligible hpool hchoose
  obtain ⟨hplace, ⟨⟨hhealthy, hrecent⟩, hroomy⟩, hbatch⟩ := (hpool chosen).mp hmem
  constructor
  · exact List.fst_mem_of_mem_zipIdx hplace
  · rfl
  · exact hhealthy
  · rintro ⟨worker, hworker, hfresh⟩
    refine hrecent.resolve_right fun hnone => ?_
    exact Bool.noConfusion (hfresh.symm.trans (hnone worker hworker))
  · exact hfallback
  · rintro ⟨worker, hworker, hwell, hkv⟩
    refine hroomy.resolve_right fun hnone => ?_
    exact Bool.noConfusion (hkv.symm.trans (hnone worker hworker hwell))
  · exact hbatch
  · rintro rfl
    cases hchoose
    exact (hpool.forall_iff fun worker => load _ ≤ load worker).mp anyLeastLoaded_le
  · rintro rfl owner howner heligible
    have hown := (hpool owner).mpr ⟨priorOwner_mem howner, heligible⟩
    have hsticky := (prefixThenLoad_of_owner ops rng settings request hpool howner hown).2
    rw [show (prefixThenLoad ops rng settings request workers eligible).1 = chosen from
      congrArg Prod.fst (Option.some.inj hchoose)] at hsticky
    rcases hsticky with rfl | ⟨why, hwhy, hless⟩
    · exact ⟨fun _ => rfl, fun _ => .inl rfl⟩
    · refine ⟨fun hcalm => ?_, fun hqueue => .inr (hless ?_)⟩
      · rw [hcalm] at hwhy
        cases hwhy
      · exact Option.some.inj (hwhy.symm.trans hqueue)

variable (rng policy)

theorem pick_of_unforced
    (hforced : given request.forcedWorker = none ∨ settings.allowForced = false) :
    pick ops rng settings request workers now policy =
      match Pool.ofList (workers.zipIdx.filter fun candidate => candidate.1.healthy) with
      | none => .error .noHealthyWorker
      | some healthy =>
          pickEligible ops rng settings request workers now policy
            (freshOrHealthy ops settings now healthy).2
            (withBatchRoom ops settings request
              ((freshOrHealthy ops settings now healthy).1.prefer fun candidate =>
                ops.le settings.minKvFree candidate.1.kvFreeRatio)) := by
  unfold pick
  split
  · rename_i forced hgiven hallowed
    rcases hforced with hnone | hdenied
    · rw [hnone] at hgiven
      cases hgiven
    · rw [hdenied] at hallowed
      cases hallowed
  · rfl

theorem pick_of_no_healthy
    (hforced : given request.forcedWorker = none ∨ settings.allowForced = false)
    (hnone : ∀ worker ∈ workers, worker.healthy = false) :
    pick ops rng settings request workers now policy = .error .noHealthyWorker := by
  have hnil : workers.zipIdx.filter (fun candidate => candidate.1.healthy) = [] := by
    apply List.filter_eq_nil_iff.mpr
    intro candidate hplace hhealthy
    exact Bool.noConfusion
      (hhealthy.symm.trans (hnone candidate.1 (List.fst_mem_of_mem_zipIdx hplace)))
  rw [pick_of_unforced rng policy hforced, hnil]
  rfl

theorem pick_of_healthy (hforced : given request.forcedWorker = none ∨ settings.allowForced = false)
    (hhealthy : ∃ worker ∈ workers, worker.healthy = true) :
    ∃ roomy fallback, Holding workers (Roomy ops settings now workers) roomy ∧
      (fallback = some "stale_snapshot" ↔
        ¬ ∃ worker ∈ workers, worker.fresh ops now settings.staleAfter = true) ∧
      pick ops rng settings request workers now policy =
        pickEligible ops rng settings request workers now policy fallback
          (withBatchRoom ops settings request roomy) := by
  have hne : workers.zipIdx.filter (fun candidate => candidate.1.healthy) ≠ [] := by
    obtain ⟨worker, hmem, hworker⟩ := hhealthy
    obtain ⟨i, hi⟩ := List.mem_iff_getElem?.mp hmem
    have hplace : (worker, i) ∈ workers.zipIdx := List.mem_zipIdx_iff_getElem?.mpr hi
    exact List.ne_nil_of_mem (List.mem_filter.mpr ⟨hplace, hworker⟩)
  obtain ⟨healthy, hpool, hlist⟩ := Pool.exists_ofList hne
  have hholding : Holding workers (fun worker => worker.healthy = true) healthy := by
    intro candidate
    rw [hlist, List.mem_filter]
  refine ⟨_, (freshOrHealthy ops settings now healthy).2,
    holding_roomy (holding_freshOrHealthy hholding), fallback_iff hholding, ?_⟩
  rw [pick_of_unforced rng policy hforced, hpool]

theorem pickEligible_cases {eligible : Pool (Candidate Float)} {fallback : Option String}
    (hpool : Holding workers (Eligible ops settings request now workers) eligible)
    (hfallback : fallback = some "stale_snapshot" ↔
      ¬ ∃ worker ∈ workers, worker.fresh ops now settings.staleAfter = true) :
    (policy ∉ policies ∧
      pickEligible ops rng settings request workers now policy fallback (some eligible) =
        .error .unknownPolicy) ∨
    (policy ∈ policies ∧ ∃ decision chosen,
      pickEligible ops rng settings request workers now policy fallback (some eligible) =
        .ok decision ∧
      Placed ops settings request workers now policy decision chosen) := by
  cases hchoose : choose ops rng settings request workers eligible policy with
  | none =>
      refine .inl ⟨choose_eq_none_iff.mp hchoose, ?_⟩
      rw [pickEligible, hchoose]
  | some choice =>
      have hknown : policy ∈ policies := by
        by_contra hunknown
        rw [choose_eq_none_iff.mpr hunknown] at hchoose
        cases hchoose
      refine .inr ⟨hknown, _, choice.1.1, ?_, placed_of_choose hpool hfallback hchoose⟩
      rw [pickEligible, hchoose]

theorem placed_of_pick (hforced : given request.forcedWorker = none ∨ settings.allowForced = false)
    {decision : PlacementDecision Float}
    (hpick : pick ops rng settings request workers now policy = .ok decision) :
    ∃ chosen, Placed ops settings request workers now policy decision chosen := by
  by_cases hhealthy : ∃ worker ∈ workers, worker.healthy = true
  · obtain ⟨roomy, fallback, hroomy, hfallback, heq⟩ := pick_of_healthy rng policy hforced hhealthy
    rw [heq] at hpick
    rcases withBatchRoom_cases hroomy with ⟨eligible, hkept, hpool⟩ | ⟨hkept, -⟩
    · rw [hkept] at hpick
      rcases pickEligible_cases rng policy hpool hfallback with ⟨-, herror⟩
        | ⟨-, placed, chosen, hok, hplaced⟩
      · rw [herror] at hpick
        cases hpick
      · rw [hok] at hpick
        obtain rfl := Except.ok.inj hpick
        exact ⟨chosen, hplaced⟩
    · rw [hkept] at hpick
      cases hpick
  · have hnone : ∀ worker ∈ workers, worker.healthy = false := fun worker hworker =>
      Bool.eq_false_of_not_eq_true fun hwell => hhealthy ⟨worker, hworker, hwell⟩
    rw [pick_of_no_healthy rng policy hforced hnone] at hpick
    cases hpick

theorem not_full_of_eligible
    (heligible : ∃ worker ∈ workers, Eligible ops settings request now workers worker) :
    ¬ (request.workloadClass = .batch ∧ ∃ limit, settings.batchSlotLimit = some limit ∧
      ∀ worker ∈ workers, Roomy ops settings now workers worker → limit ≤ worker.occupied ops) := by
  obtain ⟨worker, hworker, hroomy, hroom⟩ := heligible
  rintro ⟨hbatch, limit, hlimit, hfull⟩
  exact absurd (hroom hbatch limit hlimit) (not_lt.mpr (hfull worker hworker hroomy))

/-- **Placement is sound.** Without a forced worker, placement fails for want of a healthy worker,
for want of a worker below the limit of batch work, or for an unknown policy, and for nothing else;
what it decides otherwise keeps every promise, under each policy and whatever is drawn. -/
theorem pick_sound (hforced : given request.forcedWorker = none ∨ settings.allowForced = false) :
    (pick ops rng settings request workers now policy = .error .noHealthyWorker ↔
      ∀ worker ∈ workers, worker.healthy = false) ∧
    (pick ops rng settings request workers now policy = .error .batchSlotCap ↔
      (∃ worker ∈ workers, worker.healthy = true) ∧ request.workloadClass = .batch ∧
        ∃ limit, settings.batchSlotLimit = some limit ∧
          ∀ worker ∈ workers, Roomy ops settings now workers worker → limit ≤ worker.occupied ops) ∧
    (pick ops rng settings request workers now policy = .error .unknownPolicy ↔
      (∃ worker ∈ workers, Eligible ops settings request now workers worker) ∧ policy ∉ policies) ∧
    pick ops rng settings request workers now policy ≠ .error .unknownForcedWorker ∧
    ∀ decision, pick ops rng settings request workers now policy = .ok decision →
      ∃ chosen, Placed ops settings request workers now policy decision chosen := by
  by_cases hhealthy : ∃ worker ∈ workers, worker.healthy = true
  · have hsome : ¬ ∀ worker ∈ workers, worker.healthy = false := by
      obtain ⟨worker, hworker, hwell⟩ := hhealthy
      exact fun hall => Bool.noConfusion (hwell.symm.trans (hall worker hworker))
    obtain ⟨roomy, fallback, hroomy, hfallback, hpick⟩ :=
      pick_of_healthy rng policy hforced hhealthy
    rw [hpick]
    rcases withBatchRoom_cases hroomy with ⟨eligible, hkept, hpool⟩ | ⟨hkept, hbatch, hfull⟩
    · have heligible := hpool.exists_worker
      have hroom := not_full_of_eligible heligible
      rw [hkept]
      rcases pickEligible_cases rng policy hpool hfallback with
        ⟨hunknown, herror⟩ | ⟨hknown, decision, chosen, hok, hplaced⟩
      · rw [herror]
        exact ⟨iff_of_false nofun hsome, iff_of_false nofun fun h => hroom h.2,
          iff_of_true rfl ⟨heligible, hunknown⟩, nofun, nofun⟩
      · rw [hok]
        refine ⟨iff_of_false nofun hsome, iff_of_false nofun fun h => hroom h.2,
          iff_of_false nofun fun h => h.2 hknown, nofun, ?_⟩
        rintro _ ⟨⟩
        exact ⟨chosen, hplaced⟩
    · have hineligible : ¬ ∃ worker ∈ workers, Eligible ops settings request now workers worker :=
        fun heligible => not_full_of_eligible heligible ⟨hbatch, hfull⟩
      rw [hkept]
      exact ⟨iff_of_false nofun hsome, iff_of_true rfl ⟨hhealthy, hbatch, hfull⟩,
        iff_of_false nofun fun h => hineligible h.1, nofun, nofun⟩
  · have hnone : ∀ worker ∈ workers, worker.healthy = false := fun worker hworker =>
      Bool.eq_false_of_not_eq_true fun hwell => hhealthy ⟨worker, hworker, hwell⟩
    have hineligible : ¬ ∃ worker ∈ workers, Eligible ops settings request now workers worker := by
      rintro ⟨worker, hworker, ⟨⟨hwell, -⟩, -⟩, -⟩
      exact hhealthy ⟨worker, hworker, hwell⟩
    rw [pick_of_no_healthy rng policy hforced hnone]
    exact ⟨iff_of_true rfl hnone, iff_of_false nofun fun h => hhealthy h.1,
      iff_of_false nofun fun h => hineligible h.1, nofun, nofun⟩

theorem pick_sound_crowded :
    ∃ chosen, Placed exactFloats sampleSettings {} crowdedWorkers 11 "least_loaded"
      (decision exactFloats {} crowdedWorkers 11 none
        { id := "worker_a", observedAt := some 10, running := 24, kvFreeRatio := 1 / 2,
          healthy := true, dispatchGraceS := 2 } "least_loaded" "least_loaded") chosen := by
  apply (pick_sound firstOnly "least_loaded" (.inl rfl)).2.2.2.2
  decide +kernel

end Placement

end AiAnalytics.Gateway
