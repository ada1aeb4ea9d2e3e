import AiAnalytics.Gateway.LoadScore
import AiAnalytics.Gateway.Proof.BatchCap

/-!
# What the load score counts

`inflight` counts the requests that were dispatched and not freed, `pending` those that wait for
their queue's answer, and `queued` the items of the queue. A request whose item is in the queue
waits for the answer, so that it counts twice.
-/

namespace AiAnalytics.Gateway

open Lib

variable {Float : Type}

section Seats

variable {Worker : Type} [DecidableEq Worker] {cfg : QueueConfig}
  {queues next : WorkerQueues Worker} {worker : Worker} {id target : Nat}

def AcquireCall.seat (call : AcquireCall Worker) : Worker × Bool :=
  (call.worker, call.phase = .suspended)

def WorkerQueues.seat (queues : WorkerQueues Worker) (id : Nat) : Option (Worker × Bool) :=
  queues.calls[id]?.map AcquireCall.seat

omit [DecidableEq Worker] in
theorem seat_modify_of_ne {f : AcquireCall Worker → AcquireCall Worker}
    (hcalls : next.calls = queues.calls.modify target f) (hne : id ≠ target) :
    next.seat id = queues.seat id := by
  rw [WorkerQueues.seat, WorkerQueues.seat, hcalls, List.getElem?_modify_ne _ _ (Ne.symm hne)]

omit [DecidableEq Worker] in
theorem seat_modify {f : AcquireCall Worker → AcquireCall Worker}
    (hcalls : next.calls = queues.calls.modify target f)
    (hseat : ∀ call, queues.calls[target]? = some call → (f call).seat = call.seat) (id : Nat) :
    next.seat id = queues.seat id := by
  by_cases hid : id = target
  · subst hid
    rw [WorkerQueues.seat, WorkerQueues.seat, hcalls, List.getElem?_modify_eq]
    cases hget : queues.calls[id]? with
    | none => rfl
    | some call => simp [hseat call hget]
  · exact seat_modify_of_ne hcalls hid

theorem seat_grant {best : QueueItem} (id : Nat) :
    (queues.grant worker best).seat id = queues.seat id := by
  have hcalls : (queues.grant worker best).calls =
    queues.calls.modify best.id fun call => { call with fut := some .granted } := rfl
  exact seat_modify hcalls (fun _ _ => rfl) id

theorem seat_pumpLoop {clock : Nat → ℚ} {fuel : Nat} (id : Nat) :
    (WorkerQueues.pumpLoop cfg worker clock fuel queues).seat id = queues.seat id := by
  induction fuel generalizing queues with
  | zero => rfl
  | succ fuel ih =>
      rw [WorkerQueues.pumpLoop]
      split
      · rw [ih, WorkerQueues.pumpOnce]
        split
        · rfl
        · split
          · exact seat_grant id
          · rfl
      · rfl

theorem seat_free {clock : Nat → ℚ} (id : Nat) :
    (queues.free cfg worker clock).seat id = queues.seat id :=
  seat_pumpLoop id

omit [DecidableEq Worker] in
theorem seat_setPhase_of_ne {phase : CallPhase} (hne : id ≠ target) :
    (queues.setPhase target phase).seat id = queues.seat id := by
  have hcalls : (queues.setPhase target phase).calls =
    queues.calls.modify target fun call => { call with phase := phase } := rfl
  exact seat_modify_of_ne hcalls hne

omit [DecidableEq Worker] in
theorem seat_setPhase_self {phase : CallPhase} {call : AcquireCall Worker}
    (hget : queues.calls[id]? = some call) :
    (queues.setPhase id phase).seat id = some (call.worker, decide (phase = .suspended)) := by
  simp [WorkerQueues.seat, WorkerQueues.setPhase, hget, AcquireCall.seat]

theorem seat_interrupt {event : QueueEvent Worker}
    (hevent : event = .timerFires target ∨ event = .cancelTask target)
    (hstep : queueStep cfg queues event = some next) (id : Nat) :
    next.seat id = queues.seat id := by
  cases queueStep_cases hstep with
  | interrupt _ place call f _ hget hphase hworker hphase' =>
      have hcalls : ({ queues with calls := queues.calls.modify place f } :
        WorkerQueues Worker).calls = queues.calls.modify place f := rfl
      refine seat_modify hcalls (fun old hold => ?_) id
      obtain rfl : call = old := Option.some.inj (hget.symm.trans hold)
      simp only [AcquireCall.seat, hworker, hphase']
  | acquire => rcases hevent with hevent | hevent <;> cases hevent
  | resume => rcases hevent with hevent | hevent <;> cases hevent
  | release => rcases hevent with hevent | hevent <;> cases hevent
  | releaseAgain => rcases hevent with hevent | hevent <;> cases hevent

theorem seat_resume {outcome : WaitOutcome} {clock : Nat → ℚ} {call : AcquireCall Worker}
    (hget : queues.calls[target]? = some call)
    (hstep : queueStep cfg queues (.resume target outcome clock) = some next) :
    queues.seat target = some (call.worker, true) ∧ next.seat target = some (call.worker, false) ∧
      ∀ id, id ≠ target → next.seat id = queues.seat id := by
  cases queueStep_cases hstep with
  | interrupt _ _ _ _ hevent => rcases hevent with hevent | hevent <;> cases hevent
  | resume _ waiter _ _ hwaiter hphase =>
      obtain rfl : call = waiter := Option.some.inj (hget.symm.trans hwaiter)
      refine ⟨by simp [WorkerQueues.seat, hget, AcquireCall.seat, hphase], ?_⟩
      cases outcome with
      | result => exact ⟨seat_setPhase_self hget, fun id hid => seat_setPhase_of_ne hid⟩
      | timeoutError => exact ⟨seat_setPhase_self hget, fun id hid => seat_setPhase_of_ne hid⟩
      | cancelledError =>
          have hrest (id : Nat) : (queues.resume cfg target call .cancelledError clock).seat id =
              (queues.setPhase target .cancelled).seat id := by
            simp only [WorkerQueues.resume]
            split
            · exact seat_free id
            · rfl
          refine ⟨(hrest target).trans (seat_setPhase_self hget), fun id hid => ?_⟩
          exact (hrest id).trans (seat_setPhase_of_ne hid)

theorem seat_release {clock : Nat → ℚ} {call : AcquireCall Worker}
    (hget : queues.calls[target]? = some call)
    (hstep : queueStep cfg queues (.release target clock) = some next) :
    queues.seat target = some (call.worker, false) ∧ ∀ id, next.seat id = queues.seat id := by
  have hreleases : call.phase ≠ .suspended := by
    rintro hphase
    simp [queueStep, WorkerQueues.release, hget, hphase] at hstep
  refine ⟨by simp [WorkerQueues.seat, hget, AcquireCall.seat, hreleases], fun id => ?_⟩
  cases queueStep_cases hstep with
  | interrupt _ _ _ _ hevent => rcases hevent with hevent | hevent <;> cases hevent
  | release _ holder waitS _ hholder hphase =>
      rw [seat_free]
      have hcalls : (queues.setPhase target .released).calls =
        queues.calls.modify target fun call => { call with phase := .released } := rfl
      refine seat_modify hcalls (fun old hold => ?_) id
      obtain rfl : holder = old := Option.some.inj (hholder.symm.trans hold)
      simp [AcquireCall.seat, hphase]
  | releaseAgain => rfl

omit [DecidableEq Worker] in
theorem seat_concat {call : AcquireCall Worker} (hcalls : next.calls = queues.calls ++ [call])
    (hid : id < queues.calls.length) : next.seat id = queues.seat id := by
  rw [WorkerQueues.seat, WorkerQueues.seat, hcalls, List.getElem?_append_left hid]

end Seats

section Counts

variable {cfg : SlotConfig Float} {state next : LoadState Float} {id : Nat} {worker : String}
  {source target stage : RequestStage}

def RequestStage.inflight : RequestStage → Int
  | .dispatched | .abandoned => 1
  | _ => 0

def RequestStage.pending : RequestStage → Int
  | .waiting => 1
  | _ => 0

theorem stands_eq (state : LoadState Float) (id : Nat) :
    state.stands id = (state.slots.queues.seat id).bind fun seat =>
      state.slots.placed[id]?.map fun request =>
      (seat.1, requestStage seat.2 request.token.isSome (id ∈ state.abandoned)) := by
  rw [LoadState.stands, WorkerQueues.seat]
  cases state.slots.queues.calls[id]? with
  | none => rfl
  | some call => cases state.slots.placed[id]? <;> rfl

def Tallied (state : LoadState Float) : Prop :=
  ∀ worker, (state.slots.snapshots worker).inflight =
      state.count worker .dispatched + state.count worker .abandoned ∧
    (state.slots.snapshots worker).pending = state.count worker .waiting

structure Moves (state next : LoadState Float) (id : Nat) (worker : String)
    (source target : RequestStage) : Prop where
  length : next.slots.placed.length = state.slots.placed.length
  before : state.stands id = some (worker, source)
  after : next.stands id = some (worker, target)
  others : ∀ other, other ≠ id → next.stands other = state.stands other
  inflight : ∀ other, (next.slots.snapshots other).inflight =
    (state.slots.snapshots other).inflight +
    if other = worker then target.inflight - source.inflight else 0
  pending : ∀ other, (next.slots.snapshots other).pending = (state.slots.snapshots other).pending +
    if other = worker then target.pending - source.pending else 0

theorem lt_of_stands (h : state.stands id = some (worker, stage)) :
    id < state.slots.placed.length := by
  rw [stands_eq, Option.bind_eq_some_iff] at h
  obtain ⟨seat, -, hrequest⟩ := h
  obtain ⟨request, hget, -⟩ := Option.map_eq_some_iff.mp hrequest
  exact (List.getElem?_eq_some_iff.mp hget).1

theorem Moves.count (h : Moves state next id worker source target) (other : String)
    (stage : RequestStage) :
    next.count other stage + (if other = worker ∧ stage = source then 1 else 0) =
      state.count other stage + (if other = worker ∧ stage = target then 1 else 0) := by
  have hmove := census_move (lt_of_stands h.before) h.before h.after h.others (other, stage)
  simp only [Prod.mk.injEq] at hmove
  rw [LoadState.count, LoadState.count, h.length]
  exact hmove

theorem Moves.tallied (h : Moves state next id worker source target) (htallied : Tallied state) :
    Tallied next := by
  intro other
  obtain ⟨hinflight, hpending⟩ := htallied other
  have hwaiting := h.count other .waiting
  have hdispatched := h.count other .dispatched
  have habandoned := h.count other .abandoned
  rw [h.inflight other, h.pending other, hinflight, hpending]
  by_cases hother : other = worker
  · cases source <;> cases target <;>
      simp [hother, RequestStage.inflight, RequestStage.pending] at * <;> omega
  · simp only [hother, false_and, if_false, Nat.add_zero] at hwaiting hdispatched habandoned ⊢
    omega

structure Enters (state next : LoadState Float) (worker : String) (target : RequestStage) :
    Prop where
  length : next.slots.placed.length = state.slots.placed.length + 1
  after : next.stands state.slots.placed.length = some (worker, target)
  others : ∀ other < state.slots.placed.length, next.stands other = state.stands other
  inflight : ∀ other, (next.slots.snapshots other).inflight =
    (state.slots.snapshots other).inflight + if other = worker then target.inflight else 0
  pending : ∀ other, (next.slots.snapshots other).pending = (state.slots.snapshots other).pending +
    if other = worker then target.pending else 0

theorem Enters.count (h : Enters state next worker target) (other : String) (stage : RequestStage) :
    next.count other stage = state.count other stage + (if other = worker ∧ stage = target then 1
      else 0) := by
  have henter := census_enter h.others h.after (other, stage)
  simp only [Prod.mk.injEq] at henter
  rw [LoadState.count, LoadState.count, h.length]
  exact henter

theorem Enters.tallied (h : Enters state next worker target) (htallied : Tallied state) :
    Tallied next := by
  intro other
  obtain ⟨hinflight, hpending⟩ := htallied other
  rw [h.inflight other, h.pending other, hinflight, hpending, h.count, h.count, h.count]
  by_cases hother : other = worker
  · cases target <;> simp [hother, RequestStage.inflight, RequestStage.pending] <;> omega
  · simp [hother]

structure Stays (state next : LoadState Float) : Prop where
  length : next.slots.placed.length = state.slots.placed.length
  stands : ∀ id, next.stands id = state.stands id
  inflight : ∀ worker, (next.slots.snapshots worker).inflight =
    (state.slots.snapshots worker).inflight
  pending : ∀ worker, (next.slots.snapshots worker).pending = (state.slots.snapshots worker).pending

theorem Stays.tallied (h : Stays state next) (htallied : Tallied state) : Tallied next := by
  intro worker
  have hcount (stage : RequestStage) : next.count worker stage = state.count worker stage := by
    rw [LoadState.count, LoadState.count, h.length]
    exact census_congr (fun id _ => h.stands id) _
  rw [h.inflight, h.pending, hcount, hcount, hcount]
  exact htallied worker

end Counts

section Steps

variable {cfg : SlotConfig Float} {state next : LoadState Float} {slots : SlotState Float}
  {worker : String}

structure LoadInv (state : LoadState Float) : Prop where
  queue : QueueInv state.slots.queues
  lengths : state.slots.placed.length = state.slots.queues.calls.length
  /-- A request that waits has not been dispatched. -/
  unsent : ∀ id worker request, state.slots.queues.seat id = some (worker, true) →
    state.slots.placed[id]? = some request → request.token = none ∧ id ∉ state.abandoned
  left : ∀ id ∈ state.abandoned, id < state.slots.placed.length
  tallied : Tallied state

theorem LoadInv.start (kvFreeRatio dispatchGraceS : Float) :
    LoadInv (LoadState.start kvFreeRatio dispatchGraceS) where
  queue := queueInv_empty
  lengths := rfl
  unsent := by simp [LoadState.start, SlotState.start]
  left := by simp [LoadState.start]
  tallied _ := ⟨rfl, rfl⟩

theorem LoadInv.snapshots (h : LoadInv state) {snapshots : String → WorkerSnapshot Float}
    (hinflight : ∀ worker, (snapshots worker).inflight = (state.slots.snapshots worker).inflight)
    (hpending : ∀ worker, (snapshots worker).pending = (state.slots.snapshots worker).pending) :
    LoadInv { state with slots := { state.slots with snapshots } } := by
  have hstays : Stays state { state with slots := { state.slots with snapshots } } :=
    ⟨rfl, fun _ => rfl, hinflight, hpending⟩
  exact ⟨h.queue, h.lengths, h.unsent, h.left, hstays.tallied h.tallied⟩

theorem LoadInv.setSnapshot (h : LoadInv state) {snap : WorkerSnapshot Float}
    (hinflight : snap.inflight = (state.slots.snapshots worker).inflight)
    (hpending : snap.pending = (state.slots.snapshots worker).pending) :
    LoadInv { state with slots := state.slots.setSnapshot worker snap } := by
  refine h.snapshots (fun other => ?_) fun other => ?_
  · by_cases hother : other = worker
    · rw [hother, Function.update_self, hinflight]
    · rw [Function.update_of_ne hother]
  · by_cases hother : other = worker
    · rw [hother, Function.update_self, hpending]
    · rw [Function.update_of_ne hother]

theorem LoadInv.interrupt (h : LoadInv state) {event : QueueEvent String} {id : Nat}
    (hevent : event = .timerFires id ∨ event = .cancelTask id) {queues : WorkerQueues String}
    (hstep : queueStep cfg.queue state.slots.queues event = some queues) :
    LoadInv { state with slots := { state.slots with queues } } := by
  have hseat := seat_interrupt hevent hstep
  have hlength := (noNewWait_interrupt hevent hstep).length
  have hstays : Stays state { state with slots := { state.slots with queues } } := by
    refine ⟨rfl, fun other => ?_, fun _ => rfl, fun _ => rfl⟩
    rw [stands_eq, stands_eq]
    simp only [hseat]
  refine ⟨queueInv_step h.queue hstep, h.lengths.trans hlength.symm,
    fun other worker request hwaits hrequest => ?_, h.left, hstays.tallied h.tallied⟩
  exact h.unsent other worker request ((hseat other).symm.trans hwaits) hrequest

theorem LoadInv.moves (h : LoadInv state) {id : Nat} {source target : RequestStage}
    (hqueue : QueueInv next.slots.queues)
    (hcalls : next.slots.queues.calls.length = state.slots.queues.calls.length)
    (hseat : ∀ other, other ≠ id → next.slots.queues.seat other = state.slots.queues.seat other)
    (hplaced : ∀ other, other ≠ id → next.slots.placed[other]? = state.slots.placed[other]?)
    (habandoned : ∀ other, other ≠ id → (other ∈ next.abandoned ↔ other ∈ state.abandoned))
    (htarget : target ≠ .waiting) (hmoves : Moves state next id worker source target) :
    LoadInv next := by
  refine ⟨hqueue, hmoves.length.trans (h.lengths.trans hcalls.symm),
    fun other place request hwaits hrequest => ?_,
    fun other hother => ?_, hmoves.tallied h.tallied⟩
  · by_cases hid : other = id
    · have hafter := hmoves.after
      rw [← hid, stands_eq, hwaits, hrequest] at hafter
      simp only [Option.bind_some, Option.map_some, requestStage, if_true, Option.some_inj,
        Prod.mk.injEq] at hafter
      exact absurd hafter.2.symm htarget
    · rw [habandoned other hid]
      exact h.unsent other place request ((hseat other hid).symm.trans hwaits)
        ((hplaced other hid).symm.trans hrequest)
  · by_cases hid : other = id
    · rw [hid]
      exact lt_of_stands hmoves.after
    · rw [hmoves.length]
      exact h.left other ((habandoned other hid).mp hother)

theorem stands_of_ne {id : Nat} (hseat : next.slots.queues.seat id = state.slots.queues.seat id)
    (hplaced : next.slots.placed[id]? = state.slots.placed[id]?)
    (habandoned : id ∈ next.abandoned ↔ id ∈ state.abandoned) :
    next.stands id = state.stands id := by
  rw [stands_eq, stands_eq, hseat, hplaced]
  simp only [habandoned]

theorem inflight_dispatch (cfg : SlotConfig Float) (slots : SlotState Float) (id : Nat)
    (request : PlacedRequest) (worker : String) (now : Float) (other : String) :
    ((slots.dispatch cfg id request worker now).snapshots other).inflight =
        (slots.snapshots other).inflight + (if other = worker then 1 else 0) ∧
      ((slots.dispatch cfg id request worker now).snapshots other).pending =
      (slots.snapshots other).pending := by
  by_cases hother : other = worker
  · simp [SlotState.dispatch, hother, WorkerSnapshot.noteDispatch, WorkerSnapshot.addInflight]
  · simp [SlotState.dispatch, hother]

theorem pending_setSnapshot (slots : SlotState Float) (worker : String) (n : Int) (other : String) :
    ((slots.setSnapshot worker ((slots.snapshots worker).addPending n)).snapshots other).inflight =
        (slots.snapshots other).inflight ∧
      ((slots.setSnapshot worker ((slots.snapshots worker).addPending n)).snapshots other).pending =
        (slots.snapshots other).pending + (if other = worker then n else 0) := by
  by_cases hother : other = worker
  · simp [SlotState.setSnapshot, hother, WorkerSnapshot.addPending]
  · simp [SlotState.setSnapshot, hother]

theorem freed_counters (slots : SlotState Float) (id : Nat) (request : PlacedRequest) (token : Int)
    (worker : String) (queues : WorkerQueues String) (other : String) :
    ((slots.freed id request token worker queues).snapshots other).inflight =
        (slots.snapshots other).inflight + (if other = worker then -1 else 0) ∧
      ((slots.freed id request token worker queues).snapshots other).pending =
      (slots.snapshots other).pending := by
  by_cases hother : other = worker
  · simp [SlotState.freed, SlotState.setSnapshot, hother, WorkerSnapshot.noteFinish,
      WorkerSnapshot.addInflight]
  · simp [SlotState.freed, SlotState.setSnapshot, hother]

theorem LoadInv.resume (h : LoadInv state) {id : Nat} {outcome : WaitOutcome} {clock : Nat → ℚ}
    {call : AcquireCall String} {request : PlacedRequest} {queues : WorkerQueues String}
    {dispatches : Bool}
    {now : Float} (hget : state.slots.queues.calls[id]? = some call)
    (hrequest : state.slots.placed[id]? = some request)
    (hstep : queueStep cfg.queue state.slots.queues (.resume id outcome clock) = some queues) :
    LoadInv
      { state with
        slots := state.slots.resumed cfg id request call.worker queues dispatches now } := by
  obtain ⟨hwaits, hresumed, hothers⟩ := seat_resume hget hstep
  obtain ⟨htoken, hkept⟩ := h.unsent id call.worker request hwaits hrequest
  have hlength := (noNewWait_resume hstep).1.length
  have hqueue := queueInv_step h.queue hstep
  have hpending := pending_setSnapshot { state.slots with queues } call.worker (-1)
  have hbefore : state.stands id = some (call.worker, .waiting) := by
    rw [stands_eq, hwaits, hrequest]
    rfl
  cases dispatches with
  | false =>
      have hmoves : Moves state
          { state with slots := state.slots.resumed cfg id request call.worker queues false now } id
              call.worker
          .waiting .ended := by
        refine ⟨rfl, hbefore, ?_, fun other hother => ?_, fun other => ?_, fun other => ?_⟩
        · rw [stands_eq]
          simp only [SlotState.resumed, SlotState.setSnapshot, Bool.false_eq_true, if_false,
            hresumed, hrequest, Option.bind_some, Option.map_some, htoken]
          rfl
        · exact stands_of_ne (hothers other hother) rfl Iff.rfl
        · simpa [SlotState.resumed, RequestStage.inflight] using (hpending other).1
        · simpa [SlotState.resumed, RequestStage.pending] using (hpending other).2
      exact h.moves hqueue hlength hothers (fun _ _ => rfl) (fun _ _ => Iff.rfl) (by simp) hmoves
  | true =>
      have hdispatch := inflight_dispatch cfg
        ({ state.slots with queues }.setSnapshot call.worker
          ((state.slots.snapshots call.worker).addPending (-1))) id request call.worker now
      have hplaced (other : Nat) (hother : other ≠ id) :
          (state.slots.resumed cfg id request call.worker queues true now).placed[other]? =
            state.slots.placed[other]? := by
        simp only [SlotState.resumed, SlotState.dispatch, SlotState.setSnapshot, if_true,
          List.getElem?_modify_ne _ _ (Ne.symm hother)]
      have hmoves : Moves state
          { state with slots := state.slots.resumed cfg id request call.worker queues true now } id
              call.worker
          .waiting .dispatched := by
        refine ⟨?_, hbefore, ?_, fun other hother => ?_, fun other => ?_, fun other => ?_⟩
        · simp [SlotState.resumed, SlotState.dispatch, SlotState.setSnapshot]
        · rw [stands_eq]
          simp [SlotState.resumed, SlotState.dispatch, SlotState.setSnapshot, hresumed, hrequest,
            hkept, requestStage]
        · exact stands_of_ne (hothers other hother) (hplaced other hother) Iff.rfl
        · have hcount := (hdispatch other).1.trans (congrArg (· + _) (hpending other).1)
          simpa [SlotState.resumed, RequestStage.inflight] using hcount
        · have hcount := (hdispatch other).2.trans (hpending other).2
          simpa [SlotState.resumed, RequestStage.pending] using hcount
      exact h.moves hqueue hlength hothers hplaced (fun _ _ => Iff.rfl) (by simp) hmoves

theorem LoadInv.complete (h : LoadInv state) {id : Nat} {clock : Nat → ℚ}
    {call : AcquireCall String} {request : PlacedRequest} {token : Int}
    {queues : WorkerQueues String}
    (hget : state.slots.queues.calls[id]? = some call)
    (hrequest : state.slots.placed[id]? = some request)
    (htoken : request.token = some token) (hkept : id ∉ state.abandoned)
    (hstep : queueStep cfg.queue state.slots.queues (.release id clock) = some queues) :
    LoadInv { state with slots := state.slots.freed id request token call.worker queues } := by
  obtain ⟨hresumed, hseat⟩ := seat_release hget hstep
  have hcounters := freed_counters state.slots id request token call.worker queues
  have hplaced (other : Nat) (hother : other ≠ id) :
      (state.slots.freed id request token call.worker queues).placed[other]? =
        state.slots.placed[other]? := by
    simp only [SlotState.freed, List.getElem?_modify_ne _ _ (Ne.symm hother)]
  have hmoves :
      Moves state { state with slots := state.slots.freed id request token call.worker queues } id
        call.worker
      .dispatched .ended := by
    refine ⟨by simp [SlotState.freed], ?_, ?_, fun other hother => ?_, fun other => ?_, fun other =>
      ?_⟩
    · rw [stands_eq, hresumed, hrequest]
      simp [requestStage, htoken, hkept]
    · rw [stands_eq]
      simp [SlotState.freed, hseat, hresumed, hrequest, requestStage]
    · exact stands_of_ne (hseat other) (hplaced other hother) Iff.rfl
    · simpa [RequestStage.inflight] using (hcounters other).1
    · simpa [RequestStage.pending] using (hcounters other).2
  exact h.moves (queueInv_step h.queue hstep) (noNewWait_release hstep).length
    (fun other _ => hseat other) hplaced (fun _ _ => Iff.rfl) (by simp) hmoves

theorem LoadInv.abandon (h : LoadInv state) {id : Nat} {request : PlacedRequest}
    (hrequest : state.slots.placed[id]? = some request) (htoken : request.token.isSome = true)
    (hkept : id ∉ state.abandoned) : LoadInv { state with abandoned := id :: state.abandoned } := by
  obtain ⟨call, hget⟩ : ∃ call, state.slots.queues.calls[id]? = some call := by
    have hlt := (List.getElem?_eq_some_iff.mp hrequest).1
    exact ⟨_, List.getElem?_eq_getElem (h.lengths ▸ hlt)⟩
  have hseat : state.slots.queues.seat id = some (call.worker, false) := by
    rw [WorkerQueues.seat, hget, Option.map_some, AcquireCall.seat]
    by_cases hphase : call.phase = .suspended
    · have hwaits : state.slots.queues.seat id = some (call.worker, true) := by
        simp [WorkerQueues.seat, hget, AcquireCall.seat, hphase]
      rw [(h.unsent id call.worker request hwaits hrequest).1] at htoken
      cases htoken
    · rw [decide_eq_false hphase]
  have hsent : request.token ≠ none := Option.isSome_iff_ne_none.mp htoken
  have hmoves : Moves state { state with abandoned := id :: state.abandoned } id call.worker
      .dispatched .abandoned := by
    refine ⟨rfl, ?_, ?_, fun other hother => ?_, fun other => ?_, fun other => ?_⟩
    · rw [stands_eq, hseat, hrequest]
      simp [requestStage, hsent, hkept]
    · rw [stands_eq]
      simp only [hseat, hrequest, Option.bind_some, Option.map_some]
      simp [requestStage, htoken]
    · exact stands_of_ne rfl rfl (by simp [hother])
    · simp [RequestStage.inflight]
    · simp [RequestStage.pending]
  exact h.moves h.queue rfl (fun _ _ => rfl) (fun _ _ => rfl) (fun other hother => by simp [hother])
    (by simp) hmoves

theorem LoadInv.enters (h : LoadInv state) {target : RequestStage}
    (hqueue : QueueInv next.slots.queues)
    (hcalls : next.slots.queues.calls.length = state.slots.queues.calls.length + 1)
    (hseat : ∀ id < state.slots.placed.length, next.slots.queues.seat id =
      state.slots.queues.seat id)
    (hplaced : ∀ id < state.slots.placed.length, next.slots.placed[id]? = state.slots.placed[id]?)
    (habandoned : next.abandoned = state.abandoned)
    (hnew : target = .waiting →
      ∀ request, next.slots.placed[state.slots.placed.length]? = some request →
      request.token = none)
    (henters : Enters state next worker target) : LoadInv next := by
  have hlength := henters.length
  have hfresh (id : Nat) (hmem : id ∈ next.abandoned) : id < state.slots.placed.length :=
    h.left id (habandoned ▸ hmem)
  refine ⟨hqueue, ?_, fun id place request hwaits hrequest => ?_, fun id hmem => ?_,
    henters.tallied h.tallied⟩
  · rw [hlength, hcalls, h.lengths]
  · by_cases hid : id < state.slots.placed.length
    · rw [habandoned]
      exact h.unsent id place request ((hseat id hid).symm.trans hwaits)
        ((hplaced id hid).symm.trans hrequest)
    · have hlast : id = state.slots.placed.length := by
        have hlt := (List.getElem?_eq_some_iff.mp hrequest).1
        omega
      have hafter := henters.after
      rw [← hlast, stands_eq, hwaits, hrequest] at hafter
      simp only [Option.bind_some, Option.map_some, requestStage, if_true, Option.some_inj,
        Prod.mk.injEq] at hafter
      exact ⟨hnew hafter.2.symm request (hlast ▸ hrequest), fun hmem => hid (hfresh id hmem)⟩
  · rw [hlength]
    exact Nat.lt_succ_of_lt (hfresh id hmem)

theorem LoadInv.entersEnded (h : LoadInv state) {queues : WorkerQueues String}
    {call : AcquireCall String} {request : PlacedRequest} (hqueue : QueueInv queues)
    (hcalls : queues.calls = state.slots.queues.calls ++ [call])
    (htoken : request.token = none) (hphase : call.phase ≠ .suspended) :
    LoadInv
      { state with
        slots := { state.slots with queues, placed := state.slots.placed ++ [request] } } := by
  have hseat (id : Nat) (hid : id < state.slots.placed.length) :
      queues.seat id = state.slots.queues.seat id :=
    seat_concat hcalls (h.lengths ▸ hid)
  have hplaced (id : Nat) (hid : id < state.slots.placed.length) :
      (state.slots.placed ++ [request])[id]? = state.slots.placed[id]? :=
        List.getElem?_append_left hid
  have henters : Enters state
      { state with slots := { state.slots with queues, placed := state.slots.placed ++ [request] } }
          call.worker
      .ended := by
    refine ⟨by simp, ?_, fun id hid => ?_, fun other => ?_, fun other => ?_⟩
    · rw [stands_eq]
      simp [WorkerQueues.seat, hcalls, h.lengths, AcquireCall.seat, hphase, requestStage, htoken]
    · exact stands_of_ne (hseat id hid) (hplaced id hid) Iff.rfl
    · simp [RequestStage.inflight]
    · simp [RequestStage.pending]
  exact h.enters hqueue (by simp [hcalls]) hseat hplaced rfl (by simp) henters

theorem LoadInv.entersWaiting (h : LoadInv state) {queues : WorkerQueues String}
    {call : AcquireCall String} {request : PlacedRequest} (hqueue : QueueInv queues)
    (hcalls : queues.calls = state.slots.queues.calls ++ [call])
    (htoken : request.token = none) (hphase : call.phase = .suspended) :
    LoadInv { state with
      slots := ({ state.slots with queues, placed := state.slots.placed ++ [request] } :
      SlotState Float).setSnapshot
        call.worker ((state.slots.snapshots call.worker).addPending 1) } := by
  have hseat (id : Nat) (hid : id < state.slots.placed.length) :
      queues.seat id = state.slots.queues.seat id :=
    seat_concat hcalls (h.lengths ▸ hid)
  have hplaced (id : Nat) (hid : id < state.slots.placed.length) :
      (state.slots.placed ++ [request])[id]? = state.slots.placed[id]? :=
        List.getElem?_append_left hid
  have hpending := pending_setSnapshot
    ({ state.slots with queues, placed := state.slots.placed ++ [request] } : SlotState Float)
      call.worker 1
  have henters : Enters state
      { state with
        slots := ({ state.slots with queues, placed := state.slots.placed ++ [request] } :
          SlotState Float).setSnapshot
          call.worker ((state.slots.snapshots call.worker).addPending 1) } call.worker
            .waiting := by
    refine ⟨by simp [SlotState.setSnapshot], ?_, fun id hid => ?_, fun other => ?_, fun other => ?_⟩
    · rw [stands_eq]
      simp [SlotState.setSnapshot, WorkerQueues.seat, hcalls, h.lengths, AcquireCall.seat, hphase,
        requestStage]
    · exact stands_of_ne (hseat id hid) (hplaced id hid) Iff.rfl
    · simpa [RequestStage.inflight] using (hpending other).1
    · simpa [RequestStage.pending] using (hpending other).2
  refine h.enters hqueue (by simp [SlotState.setSnapshot, hcalls]) hseat hplaced rfl
    (fun _ placed hget => ?_) henters
  simp only [SlotState.setSnapshot, List.getElem?_concat_length, Option.some_inj] at hget
  rw [← hget, htoken]

theorem LoadInv.entersDispatched (h : LoadInv state) {queues : WorkerQueues String}
    {call : AcquireCall String} {request : PlacedRequest} {now : Float} (hqueue : QueueInv queues)
    (hcalls : queues.calls = state.slots.queues.calls ++ [call])
    (hphase : call.phase ≠ .suspended) :
    LoadInv { state with
      slots := ({ state.slots with queues, placed := state.slots.placed ++ [request] } :
      SlotState Float).dispatch
        cfg state.slots.queues.calls.length request call.worker now } := by
  have hseat (id : Nat) (hid : id < state.slots.placed.length) :
      queues.seat id = state.slots.queues.seat id :=
    seat_concat hcalls (h.lengths ▸ hid)
  have hdispatch := inflight_dispatch cfg
    ({ state.slots with queues, placed := state.slots.placed ++ [request] } : SlotState Float)
    state.slots.queues.calls.length request call.worker now
  have hplaced (id : Nat) (hid : id < state.slots.placed.length) :
      (({ state.slots with queues, placed := state.slots.placed ++ [request] } :
        SlotState Float).dispatch
        cfg state.slots.queues.calls.length request call.worker now).placed[id]? =
          state.slots.placed[id]? := by
    rw [SlotState.dispatch, List.getElem?_modify_ne _ _ (h.lengths ▸ Nat.ne_of_gt hid)]
    exact List.getElem?_append_left hid
  have hfresh : state.slots.queues.calls.length ∉ state.abandoned :=
    fun hmem => absurd (h.left _ hmem) (h.lengths ▸ Nat.lt_irrefl _)
  have henters : Enters state
      { state with
        slots := ({ state.slots with queues, placed := state.slots.placed ++ [request] } :
          SlotState Float).dispatch
          cfg state.slots.queues.calls.length request call.worker now } call.worker
            .dispatched := by
    refine ⟨by simp [SlotState.dispatch], ?_, fun id hid => ?_, fun other => ?_, fun other => ?_⟩
    · rw [stands_eq]
      simp [SlotState.dispatch, WorkerQueues.seat, hcalls, h.lengths, AcquireCall.seat, hphase,
        requestStage, hfresh]
    · exact stands_of_ne (hseat id hid) (hplaced id hid) Iff.rfl
    · simpa [RequestStage.inflight] using (hdispatch other).1
    · simpa [RequestStage.pending] using (hdispatch other).2
  exact h.enters hqueue (by simp [SlotState.dispatch, hcalls]) hseat hplaced rfl (by simp) henters

theorem LoadInv.enqueue (h : LoadInv state) (cfg : SlotConfig Float) (worker : String)
    (arrival : Arrival Float) :
    LoadInv { state with slots := state.slots.enqueue cfg worker arrival } := by
  obtain ⟨call, hcalls, rfl, -⟩ := acquire_calls cfg.queue state.slots.queues worker
    arrival.request.workloadClass arrival.request.estTokens arrival.deadlineAt arrival.enqueuedAt
  have hqueue :
      QueueInv (state.slots.queues.acquire cfg.queue call.worker arrival.request.workloadClass
      arrival.request.estTokens arrival.deadlineAt arrival.enqueuedAt) :=
        queueInv_acquire h.queue ..
  unfold SlotState.enqueue
  generalize state.slots.queues.acquire cfg.queue call.worker arrival.request.workloadClass
    arrival.request.estTokens arrival.deadlineAt arrival.enqueuedAt = queues at hcalls hqueue
  have hlast : queues.calls[state.slots.queues.calls.length]? = some call := by
    rw [hcalls, List.getElem?_concat_length]
  simp only [hlast, Option.map_some]
  cases hphase : call.phase with
  | suspended => exact h.entersWaiting hqueue hcalls rfl hphase
  | holding waitS =>
      simp only
      split
      · exact h.entersDispatched hqueue hcalls (by simp [hphase])
      · exact h.entersEnded hqueue hcalls rfl (by simp [hphase])
  | released => exact h.entersEnded hqueue hcalls rfl (by simp [hphase])
  | rejected reason => exact h.entersEnded hqueue hcalls rfl (by simp [hphase])
  | cancelled => exact h.entersEnded hqueue hcalls rfl (by simp [hphase])

theorem LoadInv.countQueued (h : LoadInv state) :
    LoadInv { state with slots := state.slots.countQueued } :=
  h.snapshots (fun _ => rfl) fun _ => rfl

theorem recordPrefix_counters (snap : WorkerSnapshot Float) (prefixId : Option String)
    (tokens : Int) (now : Float) :
    (snap.recordPrefix prefixId tokens now).inflight = snap.inflight ∧
      (snap.recordPrefix prefixId tokens now).pending = snap.pending := by
  rw [WorkerSnapshot.recordPrefix]
  split <;> exact ⟨rfl, rfl⟩

theorem LoadInv.arrive (h : LoadInv state) (cfg : SlotConfig Float) (arrival : Arrival Float) :
    LoadInv { state with slots := state.slots.arrive cfg arrival } := by
  have hcounted := h.countQueued
  unfold SlotState.arrive
  simp only
  split
  · exact hcounted
  · split
    · exact hcounted
    · rename_i limit hlimit decision hpick
      obtain ⟨hinflight, hpending⟩ :=
        recordPrefix_counters (state.slots.countQueued.snapshots decision.chosenWorker)
        arrival.request.prefixId (arrival.prefixTokens.getD arrival.request.estTokens)
          arrival.pickedAt
      exact (hcounted.setSnapshot hinflight hpending).enqueue cfg decision.chosenWorker arrival

theorem LoadInv.slotStep (h : LoadInv state) {label : SlotLabel Float}
    (hkept : label.completes.any (· ∈ state.abandoned) = false)
    (hstep : (slotMachine cfg).step state.slots label = some slots) :
    LoadInv { state with slots } := by
  cases label with
  | arrive arrival => exact Option.some.inj hstep ▸ h.arrive cfg arrival
  | timerFires id =>
      obtain ⟨queues, hqueues, rfl⟩ := Option.map_eq_some_iff.mp hstep
      exact h.interrupt (.inl rfl) hqueues
  | cancelTask id =>
      obtain ⟨queues, hqueues, rfl⟩ := Option.map_eq_some_iff.mp hstep
      exact h.interrupt (.inr rfl) hqueues
  | resume id outcome clock dispatchedAt prepared =>
      simp only [slotMachine] at hstep
      split at hstep
      · rename_i call request queues hcall hrequest hqueues
        obtain rfl := Option.some.inj hstep
        exact h.resume hcall hrequest hqueues
      · cases hstep
  | complete id clock =>
      have hfresh : id ∉ state.abandoned := by simpa [SlotLabel.completes] using hkept
      simp only [slotMachine] at hstep
      split at hstep
      · rename_i call request queues hcall hrequest hqueues
        obtain ⟨token, htoken, rfl⟩ := Option.map_eq_some_iff.mp hstep
        exact h.complete hcall hrequest htoken hfresh hqueues
      · cases hstep
  | scraped worker gauges =>
      obtain rfl := Option.some.inj hstep
      exact h.setSnapshot rfl rfl
  | scrapeFailed worker =>
      obtain rfl := Option.some.inj hstep
      exact h.setSnapshot rfl rfl

theorem LoadInv.step (h : LoadInv state) {label : LoadLabel Float}
    (hstep : (loadMachine cfg).step state label = some next) : LoadInv next := by
  cases label with
  | slot label =>
      simp only [loadMachine] at hstep
      split_ifs at hstep with hleft
      obtain ⟨slots, hslots, rfl⟩ := Option.map_eq_some_iff.mp hstep
      exact h.slotStep (Bool.eq_false_iff.mpr hleft) hslots
  | abandon id =>
      simp only [loadMachine] at hstep
      split_ifs at hstep with hdispatched
      obtain rfl := Option.some.inj hstep
      obtain ⟨request, hrequest, htoken⟩ := (Option.any_eq_true _ _).mp hdispatched.1
      exact h.abandon hrequest htoken hdispatched.2

end Steps

section Queued

variable {cfg : SlotConfig Float} {state : LoadState Float} {worker : String}

def LoadState.inTransit (state : LoadState Float) (worker : String) : Nat :=
  (List.range state.slots.placed.length).countP fun id =>
    state.stands id = some (worker, .waiting) ∧ id ∉ (state.slots.queues.waiting worker).map
      QueueItem.id

theorem LoadInv.stands_of_item (h : LoadInv state) {item : QueueItem}
    (hitem : item ∈ state.slots.queues.waiting worker) :
    state.stands item.id = some (worker, .waiting) := by
  obtain ⟨call, hget, rfl, hphase, -⟩ := h.queue.item worker item hitem
  have hlt : item.id < state.slots.placed.length := by
    rw [h.lengths]
    exact (List.getElem?_eq_some_iff.mp hget).1
  simp [LoadState.stands, hget, List.getElem?_eq_getElem hlt, hphase, requestStage]

theorem LoadInv.count_waiting (h : LoadInv state) (worker : String) :
    state.count worker .waiting = state.slots.queues.depth worker none + state.inTransit
      worker := by
  set ids := (state.slots.queues.waiting worker).map QueueItem.id with hids
  have hqueued : ((List.range state.slots.placed.length).filter fun id =>
      state.stands id = some (worker, .waiting) ∧ id ∈ ids).Perm ids := by
    refine (List.perm_ext_iff_of_nodup (List.nodup_range.filter _) (h.queue.nodup worker)).mpr
      fun id => ?_
    rw [List.mem_filter, decide_eq_true_eq, List.mem_range]
    refine ⟨fun hmem => hmem.2.2, fun hmem => ?_⟩
    obtain ⟨item, hitem, rfl⟩ := List.mem_map.mp hmem
    have hstands := h.stands_of_item hitem
    exact ⟨lt_of_stands hstands, hstands, hmem⟩
  have hdepth : state.slots.queues.depth worker none = ids.length := by
    simp [WorkerQueues.depth, hids]
  rw [LoadState.count, census, LoadState.inTransit,
    hdepth, ← hqueued.length_eq, ← List.countP_eq_length_filter]
  rw [List.countP_eq_countP_filter_add _ _ (fun id => decide (id ∈ ids)), List.countP_filter,
    List.countP_filter]
  congr 1
  · refine List.countP_congr fun id _ => ?_
    simp
  · refine List.countP_congr fun id _ => ?_
    simp [hids]

end Queued

section Runs

variable {cfg : SlotConfig Float} {kvFreeRatio dispatchGraceS : Float}
  {labels : List (LoadLabel Float)} {state : LoadState Float}

theorem loadInv_run
    (hrun : (loadMachine cfg).run (LoadState.start kvFreeRatio dispatchGraceS) labels =
      some state) :
    LoadInv state :=
  Machine.run_invariant (fun _ _ _ hinv hstep => hinv.step hstep)
    (LoadInv.start kvFreeRatio dispatchGraceS) hrun

def WorkerSnapshot.placedLoad (snap : WorkerSnapshot Float) : Int :=
  snap.inflight + snap.queued + snap.pending

theorem LoadInv.placedLoad (h : LoadInv state) (worker : String) :
    (state.slots.countQueued.snapshots worker).placedLoad =
      state.outstanding worker + state.slots.queues.depth worker none + state.count worker
      .abandoned := by
  obtain ⟨hinflight, hpending⟩ := h.tallied worker
  simp only [WorkerSnapshot.placedLoad, SlotState.countQueued, hinflight, hpending,
    LoadState.outstanding]
  push_cast
  omega

/-- At a placement the counters of a worker add up to its requests exactly if none of them is in the
queue and none was abandoned at the worker. -/
theorem placed_load_iff
    (hrun : (loadMachine cfg).run (LoadState.start kvFreeRatio dispatchGraceS) labels = some state)
    (worker : String) :
    (state.slots.countQueued.snapshots worker).placedLoad = state.outstanding worker ↔
      state.slots.queues.waiting worker = [] ∧ state.count worker .abandoned = 0 := by
  have hload := (loadInv_run hrun).placedLoad worker
  have hdepth : state.slots.queues.depth worker none =
      (state.slots.queues.waiting worker).length := by
    simp [WorkerQueues.depth]
  rw [hload, hdepth, ← List.length_eq_zero_iff]
  omega

def loadSample : SlotConfig ℚ := { slotSample with admission := sampleConfig }

def fullRun : List (LoadLabel ℚ) :=
  [.slot (sampleScrape 0 0 0), .slot (sampleArrival .interactive 1),
    .slot (sampleArrival .interactive 1), .slot (sampleArrival .interactive 1)]

theorem fullRun_load :
    ((loadMachine loadSample).run (LoadState.start 1 2) fullRun).map (fun state =>
      ((state.slots.countQueued.snapshots "worker-a").placedLoad, state.outstanding "worker-a")) =
        some (4, 3) := by
  decide +kernel

/-- The waiting request is counted in `queued` and in `pending`. -/
theorem placed_load_counts_twice :
    ¬ ∀ labels state, (loadMachine loadSample).run (LoadState.start 1 2) labels = some state →
      ∀ worker, (state.slots.countQueued.snapshots worker).placedLoad =
      state.outstanding worker := by
  intro hclaim
  obtain ⟨state, hrun, hload⟩ := Option.map_eq_some_iff.mp fullRun_load
  rw [Prod.mk.injEq] at hload
  have hequal := hclaim fullRun state hrun "worker-a"
  rw [hload.1, hload.2] at hequal
  exact absurd hequal (by decide)

theorem placed_load_iff_example :
    ∃ state, (loadMachine loadSample).run (LoadState.start 1 2) (fullRun.take 3) = some state ∧
      (state.slots.countQueued.snapshots "worker-a").placedLoad = state.outstanding "worker-a" ∧
      state.slots.queues.waiting "worker-a" = [] := by
  have hload : ((loadMachine loadSample).run (LoadState.start 1 2) (fullRun.take 3)).map
    (fun state =>
      ((state.slots.countQueued.snapshots "worker-a").placedLoad, state.outstanding "worker-a")) =
        some (2, 2) := by
    decide +kernel
  obtain ⟨state, hrun, hload⟩ := Option.map_eq_some_iff.mp hload
  rw [Prod.mk.injEq] at hload
  have hequal : (state.slots.countQueued.snapshots "worker-a").placedLoad =
      state.outstanding "worker-a" := by
    rw [hload.1, hload.2]
    rfl
  exact ⟨state, hrun, hequal, ((placed_load_iff hrun "worker-a").mp hequal).1⟩

end Runs

end AiAnalytics.Gateway
