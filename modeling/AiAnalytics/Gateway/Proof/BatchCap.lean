import AiAnalytics.Gateway.Dispatching
import AiAnalytics.Gateway.Proof.QueueSlots
import AiAnalytics.Gateway.Proof.SoundPlacement

/-!
# The limit on batch work at dispatch

Placement checks the limit on the worker it picks. A request that waits in that worker's queue is
dispatched later, without another look: whether the worker is still below the limit then depends on
the scrapes and the dispatches in between.
-/

namespace AiAnalytics.Gateway

open Lib

variable {Float : Type}

section Placement

variable {ops : FloatOps Float} {rng : Rng} {settings : PlacementSettings Float}
  {request : PlacementRequest} {workers : List (WorkerSnapshot Float)} {now : Float}
  {policy : String} {limit : Int}

theorem below_of_pick {placed : PlacementDecision Float} (hbatch : request.workloadClass = .batch)
    (hforced : ((given request.forcedWorker).isSome && settings.allowForced) = false)
    (hlimit : settings.batchSlotLimit = some limit)
    (h : pick ops rng settings request workers now policy = .ok placed) :
    ∃ worker ∈ workers, worker.id = placed.chosenWorker ∧ worker.occupied ops < limit := by
  have hunforced : given request.forcedWorker = none ∨ settings.allowForced = false := by
    rwa [Bool.and_eq_false_iff, Option.isSome_eq_false_iff, Option.isNone_iff_eq_none] at hforced
  obtain ⟨chosen, hplaced⟩ := placed_of_pick rng policy hunforced h
  exact ⟨chosen, hplaced.given, hplaced.named.symm, hplaced.batch hbatch limit hlimit⟩

end Placement

/-! ### Who waits -/

section Waiting

variable {Worker : Type} [DecidableEq Worker] {cfg : QueueConfig}
  {queues next : WorkerQueues Worker} {worker : Worker} {id target : Nat}

def WorkerQueues.SuspendedAt (queues : WorkerQueues Worker) (id : Nat) (worker : Worker) : Prop :=
  ∃ call, queues.calls[id]? = some call ∧ call.worker = worker ∧ call.phase = .suspended

omit [DecidableEq Worker] in
structure NoNewWait (queues next : WorkerQueues Worker) : Prop where
  length : next.calls.length = queues.calls.length
  waits : ∀ {id worker}, next.SuspendedAt id worker → queues.SuspendedAt id worker

omit [DecidableEq Worker] in
theorem NoNewWait.trans {mid : WorkerQueues Worker} (h : NoNewWait queues mid)
    (h' : NoNewWait mid next) : NoNewWait queues next :=
  ⟨h'.length.trans h.length, fun hwaits => h.waits (h'.waits hwaits)⟩

omit [DecidableEq Worker] in
theorem noNewWait_modify {f : AcquireCall Worker → AcquireCall Worker}
    (hcalls : next.calls = queues.calls.modify target f)
    (hcall : ∀ call, queues.calls[target]? = some call →
      (f call).worker = call.worker ∧ ((f call).phase = .suspended → call.phase = .suspended)) :
    NoNewWait queues next := by
  refine ⟨by simp [hcalls], ?_⟩
  rintro id worker ⟨call, hget, hat, hsuspended⟩
  rw [hcalls, List.getElem?_modify] at hget
  obtain ⟨old, hold, rfl⟩ := Option.map_eq_some_iff.mp hget
  by_cases htarget : target = id
  · subst htarget
    rw [if_pos rfl] at hat hsuspended
    obtain ⟨hworker, hphase⟩ := hcall old hold
    exact ⟨old, hold, hworker.symm.trans hat, hphase hsuspended⟩
  · rw [if_neg htarget] at hat hsuspended
    exact ⟨old, hold, hat, hsuspended⟩

theorem noNewWait_grant {best : QueueItem} : NoNewWait queues (queues.grant worker best) := by
  have hcalls : (queues.grant worker best).calls =
    queues.calls.modify best.id fun call => { call with fut := some .granted } := rfl
  exact noNewWait_modify hcalls fun _ _ => ⟨rfl, fun hphase => hphase⟩

theorem noNewWait_pumpLoop {clock : Nat → ℚ} {fuel : Nat} :
    NoNewWait queues (WorkerQueues.pumpLoop cfg worker clock fuel queues) := by
  have hsame (queues : WorkerQueues Worker) : NoNewWait queues queues := ⟨rfl, fun hwaits => hwaits⟩
  induction fuel generalizing queues with
  | zero => exact hsame queues
  | succ fuel ih =>
      rw [WorkerQueues.pumpLoop]
      split
      · have hturn : NoNewWait queues (queues.pumpOnce cfg worker (clock fuel)) := by
          rw [WorkerQueues.pumpOnce]
          split
          · exact hsame queues
          · split
            · exact noNewWait_grant
            · exact ⟨rfl, fun hwaits => hwaits⟩
        exact hturn.trans ih
      · exact hsame queues

theorem noNewWait_free {clock : Nat → ℚ} : NoNewWait queues (queues.free cfg worker clock) := by
  have hdecrement : NoNewWait queues (queues.decrement worker) := ⟨rfl, fun hwaits => hwaits⟩
  exact hdecrement.trans noNewWait_pumpLoop

omit [DecidableEq Worker] in
theorem noNewWait_setPhase {phase : CallPhase} (hphase : phase ≠ .suspended) :
    NoNewWait queues (queues.setPhase target phase) := by
  have hcalls : (queues.setPhase target phase).calls =
    queues.calls.modify target fun call => { call with phase := phase } := rfl
  exact noNewWait_modify hcalls fun _ _ => ⟨rfl, fun hnew => absurd hnew hphase⟩

omit [DecidableEq Worker] in
theorem ne_of_setPhase {phase : CallPhase} (hphase : phase ≠ .suspended)
    (h : (queues.setPhase target phase).SuspendedAt id worker) : id ≠ target := by
  rintro rfl
  obtain ⟨call, hget, -, hsuspended⟩ := h
  rw [WorkerQueues.setPhase, List.getElem?_modify_eq] at hget
  obtain ⟨old, -, rfl⟩ := Option.map_eq_some_iff.mp hget
  exact hphase hsuspended

theorem noNewWait_interrupt {event : QueueEvent Worker}
    (hevent : event = .timerFires target ∨ event = .cancelTask target)
    (hstep : queueStep cfg queues event = some next) : NoNewWait queues next := by
  cases queueStep_cases hstep with
  | interrupt _ place call f _ hget hphase hworker =>
      have hcalls : ({ queues with calls := queues.calls.modify place f } :
        WorkerQueues Worker).calls = queues.calls.modify place f := rfl
      refine noNewWait_modify hcalls fun old hold => ?_
      obtain rfl : call = old := Option.some.inj (hget.symm.trans hold)
      exact ⟨hworker, fun _ => hphase⟩
  | acquire => rcases hevent with hevent | hevent <;> cases hevent
  | resume => rcases hevent with hevent | hevent <;> cases hevent
  | release => rcases hevent with hevent | hevent <;> cases hevent
  | releaseAgain => rcases hevent with hevent | hevent <;> cases hevent

theorem noNewWait_resume {outcome : WaitOutcome} {clock : Nat → ℚ}
    (hstep : queueStep cfg queues (.resume target outcome clock) = some next) :
    NoNewWait queues next ∧ ∀ worker, ¬ next.SuspendedAt target worker := by
  cases queueStep_cases hstep with
  | interrupt _ _ _ _ hevent => rcases hevent with hevent | hevent <;> cases hevent
  | resume _ call _ _ hget hphase =>
      cases outcome with
      | result =>
        exact ⟨noNewWait_setPhase (by simp), fun worker h => ne_of_setPhase (by simp) h rfl⟩
      | timeoutError =>
          have hended : NoNewWait queues (queues.setPhase target (.rejected .timeoutQueue)) :=
            noNewWait_setPhase (by simp)
          refine ⟨⟨hended.length, hended.waits⟩, fun worker h => ?_⟩
          have hwaits : (queues.setPhase target (.rejected .timeoutQueue)).SuspendedAt target
            worker := h
          exact ne_of_setPhase (by simp) hwaits rfl
      | cancelledError =>
          have hended : NoNewWait queues (queues.setPhase target .cancelled) :=
            noNewWait_setPhase (by simp)
          have hrest : NoNewWait (queues.setPhase target .cancelled)
              (queues.resume cfg target call .cancelledError clock) := by
            simp only [WorkerQueues.resume]
            split
            · exact ⟨noNewWait_free.length, noNewWait_free.waits⟩
            · exact ⟨rfl, fun hwaits => hwaits⟩
          exact ⟨hended.trans hrest, fun worker h => ne_of_setPhase (by simp) (hrest.waits h) rfl⟩

theorem suspended_of_resume {outcome : WaitOutcome} {clock : Nat → ℚ} {call : AcquireCall Worker}
    (hget : queues.calls[target]? = some call)
    (hstep : queueStep cfg queues (.resume target outcome clock) = some next) :
    call.phase = .suspended := by
  cases queueStep_cases hstep with
  | interrupt _ _ _ _ hevent => rcases hevent with hevent | hevent <;> cases hevent
  | resume _ waiter _ _ hwaiter hphase =>
      obtain rfl : call = waiter := Option.some.inj (hget.symm.trans hwaiter)
      exact hphase

theorem noNewWait_release {clock : Nat → ℚ}
    (hstep : queueStep cfg queues (.release target clock) = some next) : NoNewWait queues next := by
  cases queueStep_cases hstep with
  | interrupt _ _ _ _ hevent => rcases hevent with hevent | hevent <;> cases hevent
  | release => exact (noNewWait_setPhase (by simp)).trans noNewWait_free
  | releaseAgain => exact ⟨rfl, fun hwaits => hwaits⟩

theorem acquire_calls (cfg : QueueConfig) (queues : WorkerQueues Worker) (worker : Worker)
    (workloadClass : WorkloadClass) (estTokens : Int) (deadlineAt : Option ℚ) (now : ℚ) :
    ∃ call, (queues.acquire cfg worker workloadClass estTokens deadlineAt now).calls =
      queues.calls ++ [call] ∧ call.worker = worker ∧
      ∀ waitS, call.phase = .holding waitS →
        queues.waiting worker = [] ∧ queues.inflight worker < cfg.maxInflight := by
  unfold WorkerQueues.acquire
  split
  · rename_i hopen
    exact ⟨_, rfl, rfl, fun _ _ => hopen⟩
  · split
    · exact ⟨_, rfl, rfl, by simp⟩
    · exact ⟨_, rfl, rfl, by simp⟩

end Waiting

/-! ### Slots in use -/

section Occupied

variable {ops : FloatOps Float} {snap : WorkerSnapshot Float}

@[simp]
theorem recordPrefix_occupied (prefixId : Option String) (tokens : Int) (now : Float) :
    (snap.recordPrefix prefixId tokens now).occupied ops = snap.occupied ops := by
  rw [WorkerSnapshot.recordPrefix]
  split <;> rfl

@[simp]
theorem recordPrefix_id (prefixId : Option String) (tokens : Int) (now : Float) :
    (snap.recordPrefix prefixId tokens now).id = snap.id := by
  rw [WorkerSnapshot.recordPrefix]
  split <;> rfl

theorem noteDispatch_recordPrefix (prefixId : Option String) (tokens token : Int)
    (now dispatchedAt : Float) :
    (snap.recordPrefix prefixId tokens now).noteDispatch token dispatchedAt =
      (snap.noteDispatch token dispatchedAt).recordPrefix prefixId tokens now := by
  rw [WorkerSnapshot.recordPrefix, WorkerSnapshot.recordPrefix]
  split <;> rfl

theorem noteFinish_occupied_le (token : Int) :
    (snap.noteFinish token).occupied ops ≤ snap.occupied ops := by
  have hsublist : List.Sublist
      ((snap.noteFinish token).recentDispatches.filter fun dispatch =>
        ops.lt (ops.sub (snap.observedAt.getD ops.negInfinity) snap.dispatchGraceS) dispatch.2)
      (snap.recentDispatches.filter fun dispatch =>
        ops.lt (ops.sub (snap.observedAt.getD ops.negInfinity) snap.dispatchGraceS) dispatch.2) :=
    List.filter_sublist.filter _
  have hlength := Int.ofNat_le.mpr hsublist.length_le
  simp only [WorkerSnapshot.occupied, WorkerSnapshot.noteFinish] at hlength ⊢
  omega

end Occupied

/-! ### The condition and the invariant -/

section Cap

variable {cfg : SlotConfig Float} {state next : SlotState Float}

def SlotConfig.Below (cfg : SlotConfig Float) (occupied : Int) : Prop :=
  ∃ limit, cfg.batchLimit = some limit ∧ occupied < limit

def SlotState.CapWaits (state : SlotState Float) (id : Nat) (worker : String) : Prop :=
  state.queues.SuspendedAt id worker ∧ ∃ request, state.placed[id]? = some request ∧
    request.capped = true

def SlotState.afterDispatch (state : SlotState Float) (worker : String) (now : Float) :
    WorkerSnapshot Float :=
  (state.snapshots worker).noteDispatch (state.dispatchIds worker + 1) now

def SlotState.Admits (cfg : SlotConfig Float) (state : SlotState Float) (arrival : Arrival Float)
    (worker : String) : Prop :=
  (∃ limit decision, cfg.batchLimit = some limit ∧ state.countQueued.pick cfg limit arrival =
    .ok decision ∧ decision.chosenWorker = worker) ∧
  state.queues.waiting worker = [] ∧ state.queues.inflight worker < cfg.queue.maxInflight ∧
  arrival.prepared = true

/-- While unforced batch work waits for a worker, no scrape of it and no other dispatch to it uses
up the slots that are left for batch work. -/
def CapKept (cfg : SlotConfig Float) (state : SlotState Float) : SlotLabel Float → Prop
  | .scraped worker gauges => (∃ id, state.CapWaits id worker) →
      cfg.Below (((state.snapshots worker).scraped cfg.ops gauges).occupied cfg.ops)
  | .arrive arrival =>
      ∀ worker, state.Admits cfg arrival worker → (∃ id, state.CapWaits id worker) →
      cfg.Below ((state.afterDispatch worker arrival.dispatchedAt).occupied cfg.ops)
  | .resume id .result _ dispatchedAt true => ∀ worker, state.queues.SuspendedAt id worker →
      (∃ other, other ≠ id ∧ state.CapWaits other worker) →
      cfg.Below ((state.afterDispatch worker dispatchedAt).occupied cfg.ops)
  | _ => True

structure SlotInv (cfg : SlotConfig Float) (state : SlotState Float) : Prop where
  ids : ∀ worker, (state.snapshots worker).id = worker
  lengths : state.placed.length = state.queues.calls.length
  waits : ∀ id worker, state.CapWaits id worker →
    cfg.Below ((state.snapshots worker).occupied cfg.ops)
  logged : ∀ entry ∈ state.log, entry.capped = true → cfg.Below entry.occupied

theorem slotInv_start (kvFreeRatio dispatchGraceS : Float) :
    SlotInv cfg (SlotState.start kvFreeRatio dispatchGraceS) where
  ids _ := rfl
  lengths := rfl
  waits := by
    rintro id worker ⟨⟨call, hget, -⟩, -⟩
    simp [SlotState.start, WorkerQueues.empty] at hget
  logged := by simp [SlotState.start]

theorem SlotConfig.Below.of_le {occupied other : Int} (h : cfg.Below occupied)
    (hle : other ≤ occupied) : cfg.Below other := by
  obtain ⟨limit, hlimit, hlt⟩ := h
  exact ⟨limit, hlimit, by omega⟩

theorem slotInv_setSnapshot {worker : String} (snap : WorkerSnapshot Float)
    (hinv : SlotInv cfg state) (hid : snap.id = worker)
    (hbelow : (∃ id, state.CapWaits id worker) → cfg.Below (snap.occupied cfg.ops)) :
    SlotInv cfg (state.setSnapshot worker snap) where
  ids other := by
    by_cases hother : other = worker
    · subst hother
      simpa [SlotState.setSnapshot] using hid
    · simpa [SlotState.setSnapshot, hother] using hinv.ids other
  lengths := hinv.lengths
  waits := by
    intro id other hwaits
    have hold : state.CapWaits id other := hwaits
    by_cases hother : other = worker
    · subst hother
      simpa [SlotState.setSnapshot] using hbelow ⟨id, hold⟩
    · simpa [SlotState.setSnapshot, hother] using hinv.waits id other hold
  logged := hinv.logged

theorem slotInv_setSnapshot_of_le {worker : String} (snap : WorkerSnapshot Float)
    (hinv : SlotInv cfg state) (hid : snap.id = (state.snapshots worker).id)
    (hle : snap.occupied cfg.ops ≤ (state.snapshots worker).occupied cfg.ops) :
    SlotInv cfg (state.setSnapshot worker snap) := by
  refine slotInv_setSnapshot snap hinv (hid.trans (hinv.ids worker)) ?_
  rintro ⟨id, hwaits⟩
  exact (hinv.waits id worker hwaits).of_le hle

theorem slotInv_queues {queues : WorkerQueues String} (hinv : SlotInv cfg state)
    (hqueues : NoNewWait state.queues queues) : SlotInv cfg { state with queues } where
  ids := hinv.ids
  lengths := hinv.lengths.trans hqueues.length.symm
  waits := by
    rintro id worker ⟨hwaits, hcapped⟩
    exact hinv.waits id worker ⟨hqueues.waits hwaits, hcapped⟩
  logged := hinv.logged

theorem slotInv_countQueued (hinv : SlotInv cfg state) : SlotInv cfg state.countQueued where
  ids := hinv.ids
  lengths := hinv.lengths
  waits := hinv.waits
  logged := hinv.logged

theorem capped_of_modify {placed : List PlacedRequest} {place id : Nat} {token : Option Int}
    (h :
      ∃ request, (placed.modify place fun request => { request with token })[id]? = some request ∧
      request.capped = true) :
    ∃ request, placed[id]? = some request ∧ request.capped = true := by
  obtain ⟨request, hget, hcapped⟩ := h
  rw [List.getElem?_modify] at hget
  obtain ⟨old, hold, rfl⟩ := Option.map_eq_some_iff.mp hget
  refine ⟨old, hold, ?_⟩
  split at hcapped
  · exact hcapped
  · exact hcapped

theorem slotInv_dispatch {id : Nat} {request : PlacedRequest} {worker : String} {now : Float}
    (hinv : SlotInv cfg state)
    (hcapped : request.capped = true → cfg.Below ((state.snapshots worker).occupied cfg.ops))
    (hothers : (∃ other, state.CapWaits other worker) →
      cfg.Below ((state.afterDispatch worker now).occupied cfg.ops)) :
    SlotInv cfg (state.dispatch cfg id request worker now) := by
  have hsnapshot := slotInv_setSnapshot
    (((state.snapshots worker).addInflight 1 request.estTokens).noteDispatch
      (state.dispatchIds worker + 1) now)
    hinv (hinv.ids worker) hothers
  refine ⟨hsnapshot.ids, ?_, ?_, ?_⟩
  · simpa [SlotState.dispatch] using hinv.lengths
  · rintro other place ⟨hsuspended, hrequest⟩
    exact hsnapshot.waits other place ⟨hsuspended, capped_of_modify hrequest⟩
  · intro entry hmem
    rcases List.mem_append.mp hmem with hmem | hmem
    · exact hinv.logged entry hmem
    · obtain rfl := List.mem_singleton.mp hmem
      exact hcapped

theorem slotInv_freed {id : Nat} {request : PlacedRequest} {token : Int} {worker : String}
    {queues : WorkerQueues String} (hinv : SlotInv cfg state)
    (hqueues : NoNewWait state.queues queues) :
    SlotInv cfg (state.freed id request token worker queues) := by
  have hsnapshot := slotInv_setSnapshot_of_le
    (((state.snapshots worker).addInflight (-1) (-request.estTokens)).noteFinish token) hinv rfl
    (noteFinish_occupied_le token)
  have hnext := slotInv_queues hsnapshot hqueues
  refine ⟨hnext.ids, ?_, ?_, hnext.logged⟩
  · simpa [SlotState.freed] using hinv.lengths.trans hqueues.length.symm
  · rintro other place ⟨hwaits, hrequest⟩
    exact hnext.waits other place ⟨hwaits, capped_of_modify hrequest⟩

theorem slotInv_resumed {id : Nat} {request : PlacedRequest} {worker : String}
    {queues : WorkerQueues String} {dispatches : Bool} {now : Float} (hinv : SlotInv cfg state)
    (hplaced : state.placed[id]? = some request)
    (hat : state.queues.SuspendedAt id worker) (hqueues : NoNewWait state.queues queues)
    (hended : ¬ queues.SuspendedAt id worker)
    (hothers : dispatches = true → (∃ other, other ≠ id ∧ state.CapWaits other worker) →
      cfg.Below ((state.afterDispatch worker now).occupied cfg.ops)) :
    SlotInv cfg (state.resumed cfg id request worker queues dispatches now) := by
  have hpending := slotInv_setSnapshot_of_le ((state.snapshots worker).addPending (-1))
    (slotInv_queues hinv hqueues) rfl le_rfl
  cases dispatches with
  | false => exact hpending
  | true =>
      refine slotInv_dispatch hpending ?_ ?_
      · intro hcapped
        have hbelow := hinv.waits id worker ⟨hat, request, hplaced, hcapped⟩
        simp only [SlotState.setSnapshot, Function.update_self]
        exact hbelow
      · rintro ⟨other, hwaits, hrequest⟩
        have hne : other ≠ id := fun heq => hended (heq ▸ hwaits)
        have hbelow := hothers rfl ⟨other, hne, hqueues.waits hwaits, hrequest⟩
        simp only [SlotState.setSnapshot, SlotState.afterDispatch, Function.update_self]
        exact hbelow

theorem capWaits_enter {call : AcquireCall String} {queues : WorkerQueues String}
    {request : PlacedRequest} {id : Nat} {worker : String}
    (hlengths : state.placed.length = state.queues.calls.length)
    (hcalls : queues.calls = state.queues.calls ++ [call])
    (h :
      ({ state with queues, placed := state.placed ++ [request] } : SlotState Float).CapWaits id
      worker) :
    state.CapWaits id worker ∨ (call.phase = .suspended ∧ call.worker = worker ∧
      request.capped = true) := by
  obtain ⟨⟨waiter, hwaiter, hat, hsuspended⟩, entry, hentry, hcapped⟩ := h
  by_cases hid : id < state.queues.calls.length
  · left
    rw [hcalls, List.getElem?_append_left hid] at hwaiter
    rw [List.getElem?_append_left (hlengths ▸ hid)] at hentry
    exact ⟨⟨waiter, hwaiter, hat, hsuspended⟩, entry, hentry, hcapped⟩
  · right
    have hlast : id = state.queues.calls.length := by
      have hlt := (List.getElem?_eq_some_iff.mp hwaiter).1
      rw [hcalls, List.length_append, List.length_singleton] at hlt
      omega
    subst hlast
    rw [hcalls, List.getElem?_concat_length] at hwaiter
    rw [← hlengths, List.getElem?_concat_length] at hentry
    obtain rfl := Option.some.inj hwaiter
    obtain rfl := Option.some.inj hentry
    exact ⟨hsuspended, hat, hcapped⟩

theorem slotInv_enter {call : AcquireCall String} {queues : WorkerQueues String}
    {request : PlacedRequest} (hinv : SlotInv cfg state)
    (hcalls : queues.calls = state.queues.calls ++ [call])
    (hpicked : request.capped = true → cfg.Below ((state.snapshots call.worker).occupied cfg.ops)) :
    SlotInv cfg { state with queues, placed := state.placed ++ [request] } where
  ids := hinv.ids
  lengths := by simp [hcalls, hinv.lengths]
  waits := by
    intro id worker hwaits
    rcases capWaits_enter hinv.lengths hcalls hwaits with hold | ⟨-, hat, hcapped⟩
    · exact hinv.waits id worker hold
    · exact hat ▸ hpicked hcapped
  logged := hinv.logged

theorem slotInv_enqueue {worker : String} {arrival : Arrival Float} (hinv : SlotInv cfg state)
    (hpicked : arrival.capped = true → cfg.Below ((state.snapshots worker).occupied cfg.ops))
    (hothers : state.queues.waiting worker = [] ∧
      state.queues.inflight worker < cfg.queue.maxInflight →
      arrival.prepared = true → (∃ other, state.CapWaits other worker) →
      cfg.Below ((state.afterDispatch worker arrival.dispatchedAt).occupied cfg.ops)) :
    SlotInv cfg (state.enqueue cfg worker arrival) := by
  obtain ⟨call, hcalls, hworker, hopen⟩ := acquire_calls cfg.queue state.queues worker
    arrival.request.workloadClass arrival.request.estTokens arrival.deadlineAt arrival.enqueuedAt
  unfold SlotState.enqueue
  generalize state.queues.acquire cfg.queue worker arrival.request.workloadClass
    arrival.request.estTokens arrival.deadlineAt arrival.enqueuedAt = queues at hcalls
  have hentered : SlotInv cfg { state with
      queues, placed := state.placed ++ [⟨arrival.capped, arrival.request.estTokens, none⟩] } :=
    slotInv_enter hinv hcalls (hworker ▸ hpicked)
  have hlast : queues.calls[state.queues.calls.length]? = some call := by
    rw [hcalls, List.getElem?_concat_length]
  simp only [hlast, Option.map_some]
  cases hphase : call.phase with
  | suspended => exact slotInv_setSnapshot_of_le _ hentered rfl le_rfl
  | holding waitS =>
      simp only
      split
      · rename_i hprepared
        refine slotInv_dispatch hentered hpicked ?_
        rintro ⟨other, hwaits⟩
        -- the new call holds its slot, so the one that waits was there before
        rcases capWaits_enter hinv.lengths hcalls hwaits with hold | ⟨hsuspended, -⟩
        · exact hothers (hopen waitS hphase) hprepared ⟨other, hold⟩
        · rw [hphase] at hsuspended
          cases hsuspended
      · exact hentered
  | released => exact hentered
  | rejected reason => exact hentered
  | cancelled => exact hentered

theorem below_of_capped_pick {arrival : Arrival Float} {limit : Int}
    {decision : PlacementDecision Float} (hids : ∀ worker, (state.snapshots worker).id = worker)
    (hlimit : cfg.batchLimit = some limit)
    (hcapped : arrival.capped = true) (h : state.pick cfg limit arrival = .ok decision) :
    cfg.Below ((state.snapshots decision.chosenWorker).occupied cfg.ops) := by
  rw [Arrival.capped, Bool.and_eq_true, decide_eq_true_eq, Bool.not_eq_true'] at hcapped
  obtain ⟨snap, hmem, hid, hbelow⟩ := below_of_pick hcapped.1 hcapped.2 rfl h
  obtain ⟨worker, -, rfl⟩ := List.mem_map.mp hmem
  rw [hids] at hid
  exact ⟨limit, hlimit, hid ▸ hbelow⟩

theorem slotInv_arrive {arrival : Arrival Float} (hinv : SlotInv cfg state)
    (hcond : CapKept cfg state (.arrive arrival)) : SlotInv cfg (state.arrive cfg arrival) := by
  have hcounted := slotInv_countQueued hinv
  unfold SlotState.arrive
  simp only
  split
  · exact hcounted
  · rename_i limit hlimit
    split
    · exact hcounted
    · rename_i decision hpick
      have hrecorded := slotInv_setSnapshot_of_le
        ((state.countQueued.snapshots decision.chosenWorker).recordPrefix arrival.request.prefixId
          (arrival.prefixTokens.getD arrival.request.estTokens) arrival.pickedAt) hcounted
        (recordPrefix_id ..) (recordPrefix_occupied ..).le
      refine slotInv_enqueue hrecorded ?_ ?_
      · intro hcapped
        have hbelow := below_of_capped_pick hcounted.ids hlimit hcapped hpick
        simp only [SlotState.setSnapshot, Function.update_self, recordPrefix_occupied]
        exact hbelow
      · intro hopen hprepared hwaits
        have hadmits : state.Admits cfg arrival decision.chosenWorker :=
          ⟨⟨limit, decision, hlimit, hpick, rfl⟩, hopen.1, hopen.2, hprepared⟩
        have hbelow := hcond decision.chosenWorker hadmits hwaits
        simp only [SlotState.afterDispatch, SlotState.setSnapshot, Function.update_self,
          noteDispatch_recordPrefix, recordPrefix_occupied]
        exact hbelow

theorem slotInv_step {label : SlotLabel Float} (hinv : SlotInv cfg state)
    (hcond : CapKept cfg state label) (hstep : (slotMachine cfg).step state label = some next) :
    SlotInv cfg next := by
  cases label with
  | arrive arrival => exact Option.some.inj hstep ▸ slotInv_arrive hinv hcond
  | timerFires id =>
      obtain ⟨queues, hqueues, rfl⟩ := Option.map_eq_some_iff.mp hstep
      exact slotInv_queues hinv (noNewWait_interrupt (Or.inl rfl) hqueues)
  | cancelTask id =>
      obtain ⟨queues, hqueues, rfl⟩ := Option.map_eq_some_iff.mp hstep
      exact slotInv_queues hinv (noNewWait_interrupt (Or.inr rfl) hqueues)
  | resume id outcome clock dispatchedAt prepared =>
      simp only [slotMachine] at hstep
      split at hstep
      · rename_i call request queues hcall hrequest hqueues
        obtain rfl := Option.some.inj hstep
        obtain ⟨hwait, hended⟩ := noNewWait_resume hqueues
        have hat : state.queues.SuspendedAt id call.worker :=
          ⟨call, hcall, rfl, suspended_of_resume hcall hqueues⟩
        refine slotInv_resumed hinv hrequest hat hwait (hended _) ?_
        intro hdispatches hothers
        cases outcome with
        | result =>
            cases prepared with
            | true => exact hcond call.worker hat hothers
            | false => simp at hdispatches
        | timeoutError => simp at hdispatches
        | cancelledError => simp at hdispatches
      · cases hstep
  | complete id clock =>
      simp only [slotMachine] at hstep
      split at hstep
      · rename_i call request queues hcall hrequest hqueues
        obtain ⟨token, -, rfl⟩ := Option.map_eq_some_iff.mp hstep
        exact slotInv_freed hinv (noNewWait_release hqueues)
      · cases hstep
  | scraped worker gauges =>
      obtain rfl := Option.some.inj hstep
      exact slotInv_setSnapshot _ hinv (hinv.ids worker) hcond
  | scrapeFailed worker =>
      obtain rfl := Option.some.inj hstep
      exact slotInv_setSnapshot_of_le _ hinv rfl le_rfl

/-- In every run that keeps the slots free for the batch work that waits, each dispatch of unforced
batch work finds its worker below the limit. -/
theorem batch_dispatched_below {kvFreeRatio dispatchGraceS : Float}
    {labels : List (SlotLabel Float)} {final : SlotState Float}
    (hkept :
      (slotMachine cfg).Meets (CapKept cfg) (SlotState.start kvFreeRatio dispatchGraceS) labels)
    (hrun : (slotMachine cfg).run (SlotState.start kvFreeRatio dispatchGraceS) labels =
      some final) :
    ∀ entry ∈ final.log, entry.capped = true →
      ∃ limit, cfg.batchLimit = some limit ∧ entry.occupied < limit := by
  have hpreserve : ∀ state label next, SlotInv cfg state → CapKept cfg state label →
      (slotMachine cfg).step state label = some next → SlotInv cfg next :=
    fun _ _ _ hinv hcond hstep => slotInv_step hinv hcond hstep
  have hfinal := Machine.run_invariant_of_meets hpreserve (slotInv_start kvFreeRatio dispatchGraceS)
    hkept hrun
  exact hfinal.logged

end Cap

section Sample

def slotSample : SlotConfig ℚ where
  ops := exactFloats
  admission := { sampleConfig with maxDecodeSlots := 2, batchReserve := 1 / 2 }
  settings := sampleSettings
  queue := { maxInflight := 2 }

def sampleArrival (workloadClass : WorkloadClass) (now : ℚ) : SlotLabel ℚ :=
  .arrive
    { request := { estTokens := 100, workloadClass }, serving := ["worker-a"],
      policy := "least_loaded"
      rng := firstOnly, pickedAt := now, enqueuedAt := now, dispatchedAt := now }

def sampleScrape (running waiting : Int) (now : ℚ) : SlotLabel ℚ :=
  .scraped "worker-a" ⟨running, waiting, 0, now⟩

def crowdedRun : List (SlotLabel ℚ) :=
  [sampleScrape 0 0 0, sampleArrival .interactive 1, sampleArrival .interactive 1,
    sampleScrape 0 2 10,
    sampleArrival .batch 10, sampleScrape 2 0 15, .complete 0 fun _ =>
      16, .resume 2 .result (fun _ => 16) 16 true]

theorem crowdedRun_log :
    ((slotMachine slotSample).run (SlotState.start 1 2) crowdedRun).map SlotState.log =
      some [⟨"worker-a", false, 0⟩, ⟨"worker-a", false, 1⟩, ⟨"worker-a", true, 2⟩] := by
  decide +kernel

theorem slotSample_batchLimit : slotSample.batchLimit = some 1 := by
  decide +kernel

/-- The scrape shows two running requests while the batch request waits; it is dispatched all the
same. -/
theorem batch_dispatched_above :
    ¬ ∀ labels final, (slotMachine slotSample).run (SlotState.start 1 2) labels = some final →
      ∀ entry ∈ final.log, entry.capped = true →
        ∃ limit, slotSample.batchLimit = some limit ∧ entry.occupied < limit := by
  intro hclaim
  obtain ⟨final, hrun, hlog⟩ := Option.map_eq_some_iff.mp crowdedRun_log
  have hmem : ⟨"worker-a", true, 2⟩ ∈ final.log := by simp [hlog]
  obtain ⟨limit, hlimit, hlt⟩ := hclaim crowdedRun final hrun _ hmem rfl
  rw [slotSample_batchLimit] at hlimit
  obtain rfl := Option.some.inj hlimit
  exact absurd hlt (by decide)

def nobodyElseWaits (state : SlotState ℚ) : SlotLabel ℚ → Bool
  | .resume id _ _ _ _ =>
    state.queues.calls.zipIdx.all fun call => call.2 = id ∨ call.1.phase ≠ .suspended
  | .arrive _ | .scraped _ _ => state.queues.calls.all fun call => call.phase ≠ .suspended
  | _ => true

theorem capKept_of_nobodyElseWaits {cfg : SlotConfig ℚ} (state : SlotState ℚ) (label : SlotLabel ℚ)
    (h : nobodyElseWaits state label = true) : CapKept cfg state label := by
  have hnobody (hall : (state.queues.calls.all fun call => call.phase ≠ .suspended) = true)
      (worker : String) : ¬ ∃ id, state.CapWaits id worker := by
    rintro ⟨id, ⟨call, hget, -, hphase⟩, -⟩
    have hcall := List.all_eq_true.mp hall call (List.mem_of_getElem? hget)
    exact absurd hphase (of_decide_eq_true hcall)
  cases label with
  | arrive arrival => exact fun worker _ hwaits => absurd hwaits (hnobody h worker)
  | scraped worker gauges => exact fun hwaits => absurd hwaits (hnobody h worker)
  | resume id outcome clock dispatchedAt prepared =>
      have hothers (worker : String) : ¬ ∃ other, other ≠ id ∧ state.CapWaits other worker := by
        rintro ⟨other, hne, ⟨call, hget, -, hphase⟩, -⟩
        have hcall := List.all_eq_true.mp h (call, other) (List.mem_zipIdx_iff_getElem?.mpr hget)
        exact (of_decide_eq_true hcall).elim hne fun hended => hended hphase
      cases outcome with
      | result =>
          cases prepared with
          | true => exact fun worker _ hwaits => absurd hwaits (hothers worker)
          | false => trivial
      | timeoutError => trivial
      | cancelledError => trivial
  | timerFires id => trivial
  | cancelTask id => trivial
  | complete id clock => trivial
  | scrapeFailed worker => trivial

def quietRun : List (SlotLabel ℚ) :=
  [sampleScrape 0 0 0, sampleArrival .interactive 1, sampleArrival .interactive 1,
    sampleScrape 0 2 10,
    sampleArrival .batch 10, .complete 0 fun _ => 16, .resume 2 .result (fun _ => 16) 16 true]

theorem quietRun_log :
    ((slotMachine slotSample).run (SlotState.start 1 2) quietRun).map SlotState.log =
      some [⟨"worker-a", false, 0⟩, ⟨"worker-a", false, 1⟩, ⟨"worker-a", true, 0⟩] := by
  decide +kernel

theorem batch_dispatched_below_quiet :
    ∃ final, (slotMachine slotSample).run (SlotState.start 1 2) quietRun = some final ∧
      (∃ entry ∈ final.log, entry.capped = true) ∧
      ∀ entry ∈ final.log, entry.capped = true →
        ∃ limit, slotSample.batchLimit = some limit ∧ entry.occupied < limit := by
  obtain ⟨final, hrun, hlog⟩ := Option.map_eq_some_iff.mp quietRun_log
  have hpasses : (slotMachine slotSample).passes nobodyElseWaits (SlotState.start 1 2) quietRun =
      true := by
    decide +kernel
  have hkept : (slotMachine slotSample).Meets (CapKept slotSample) (SlotState.start 1 2) quietRun :=
    Machine.meets_of_passes capKept_of_nobodyElseWaits hpasses
  have hmem : ⟨"worker-a", true, 0⟩ ∈ final.log := by simp [hlog]
  exact ⟨final, hrun, ⟨_, hmem, rfl⟩, batch_dispatched_below hkept hrun⟩

end Sample

end AiAnalytics.Gateway
