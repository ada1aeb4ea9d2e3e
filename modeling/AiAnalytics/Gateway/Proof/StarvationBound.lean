import AiAnalytics.Gateway.Proof.QueueBounds
import AiAnalytics.Gateway.Proof.WaitingList

/-!
# How long a waiter can be jumped

What the gateway does to the waiting list of one worker is a run of the list's own machine: the
turns of the pump grant and drop, a waiter that is resumed with an exception drops its item, a call
that finds no slot enqueues. The bounds on the list then hold of every run of the queues.
-/

namespace AiAnalytics.Gateway

open Lib

variable {Worker : Type} [DecidableEq Worker] {cfg : QueueConfig}
  {queues next final : WorkerQueues Worker} {worker : Worker}

section Operations

def WorkerQueues.Waits (cfg : QueueConfig) (queues : WorkerQueues Worker) (worker : Worker) :
    Prop :=
  ¬ (queues.waiting worker = [] ∧ queues.inflight worker < cfg.maxInflight) ∧
    ¬ cfg.maxDepth ≤ (queues.waiting worker).length

instance : Decidable (queues.Waits cfg worker) := inferInstanceAs (Decidable (_ ∧ _))

def WorkerQueues.newItem (cfg : QueueConfig) (queues : WorkerQueues Worker)
    (workloadClass : WorkloadClass) (estTokens : Int) (deadlineAt : Option ℚ) (now : ℚ) :
    QueueItem :=
  { id := queues.calls.length, workloadClass, estTokens
    deadlineAt := deadlineAt.getD (now + cfg.timeoutS), enqueuedAt := now }

variable (cfg) (worker)

def turnOps (queues : WorkerQueues Worker) (now : ℚ) : List ListOp :=
  match (queues.waiting worker).argmin (cfg.key · now) with
  | none => []
  | some best =>
      if queues.futOf best.id = some .pending then [.grant best now] else [.drop best.id]

def pumpOps (clock : Nat → ℚ) : Nat → WorkerQueues Worker → List ListOp
  | 0, _ => []
  | fuel + 1, queues =>
      if queues.waiting worker ≠ [] ∧ queues.inflight worker < cfg.maxInflight then
        turnOps cfg worker queues (clock fuel) ++
          pumpOps clock fuel (queues.pumpOnce cfg worker (clock fuel))
      else []

def freeOps (queues : WorkerQueues Worker) (clock : Nat → ℚ) : List ListOp :=
  pumpOps cfg worker clock (queues.waiting worker).length (queues.decrement worker)

def resumeOps (queues : WorkerQueues Worker) (id : Nat) (call : AcquireCall Worker)
    (clock : Nat → ℚ) : WaitOutcome → List ListOp
  | .result => []
  | .timeoutError => [.drop id]
  | .cancelledError =>
      (if call.fut = some .granted then freeOps cfg worker (queues.setPhase id .cancelled) clock
        else []) ++ [.drop id]

def QueueEvent.arrival : QueueEvent Worker → Option ℚ
  | .acquire _ _ _ _ now => some now
  | _ => none

def eventOps (queues : WorkerQueues Worker) : QueueEvent Worker → List ListOp
  | .acquire target workloadClass estTokens deadlineAt now =>
      if target = worker ∧ queues.Waits cfg worker then
        [.enqueue (queues.newItem cfg workloadClass estTokens deadlineAt now)]
      else []
  | .resume id outcome clock =>
      match queues.calls[id]? with
      | none => []
      | some call =>
          if call.worker = worker then resumeOps cfg worker queues id call clock outcome else []
  | .release id clock =>
      match queues.calls[id]? with
      | none => []
      | some call =>
          if call.worker = worker ∧ call.phase.isHolding then
            freeOps cfg worker (queues.setPhase id .released) clock
          else []
  | .timerFires _ | .cancelTask _ => []

def runOps : WorkerQueues Worker → List (QueueEvent Worker) → List ListOp
  | _, [] => []
  | queues, event :: events =>
      eventOps cfg worker queues event ++
        match queueStep cfg queues event with
        | none => []
        | some next => runOps next events

end Operations

section Simulation

theorem run_turnOps (now : ℚ) :
    (listMachine cfg).run (queues.waiting worker) (turnOps cfg worker queues now) =
      some ((queues.pumpOnce cfg worker now).waiting worker) := by
  unfold turnOps WorkerQueues.pumpOnce
  cases hbest : (queues.waiting worker).argmin (cfg.key · now) with
  | none => rfl
  | some best =>
      by_cases hpending : queues.futOf best.id = some .pending
      · simp only [if_pos hpending]
        rw [Machine.run_cons_eq_some_iff, WorkerQueues.grant_waiting_self]
        exact ⟨_, if_pos hbest, rfl⟩
      · simp only [if_neg hpending]
        rw [Machine.run_cons_eq_some_iff, WorkerQueues.remove_waiting_self]
        exact ⟨_, rfl, rfl⟩

theorem run_pumpOps (queues : WorkerQueues Worker) (clock : Nat → ℚ) (fuel : Nat) :
    (listMachine cfg).run (queues.waiting worker) (pumpOps cfg worker clock fuel queues) =
      some ((WorkerQueues.pumpLoop cfg worker clock fuel queues).waiting worker) := by
  induction fuel generalizing queues with
  | zero => rfl
  | succ fuel ih =>
      unfold pumpOps WorkerQueues.pumpLoop
      split
      · rw [Machine.run_append, run_turnOps, Option.bind_some]
        exact ih _
      · rfl

theorem run_freeOps (queues : WorkerQueues Worker) (worker : Worker) (clock : Nat → ℚ) :
    (listMachine cfg).run (queues.waiting worker) (freeOps cfg worker queues clock) =
      some ((queues.free cfg worker clock).waiting worker) := by
  unfold freeOps WorkerQueues.free WorkerQueues.pump
  exact run_pumpOps (queues.decrement worker) clock _

theorem free_waiting_of_ne (queues : WorkerQueues Worker) {other : Worker} (hne : worker ≠ other)
    (clock : Nat → ℚ) :
    (queues.free cfg other clock).waiting worker = queues.waiting worker :=
  (pumpLoop_frame cfg (queues.decrement other) clock hne _).1

theorem run_resumeOps (id : Nat) (call : AcquireCall Worker) (clock : Nat → ℚ)
    (outcome : WaitOutcome) :
    (listMachine cfg).run (queues.waiting call.worker)
        (resumeOps cfg call.worker queues id call clock outcome) =
      some ((queues.resume cfg id call outcome clock).waiting call.worker) := by
  cases outcome with
  | result => rfl
  | timeoutError =>
      unfold WorkerQueues.resume
      rw [WorkerQueues.remove_waiting_self]
      rfl
  | cancelledError =>
      unfold resumeOps WorkerQueues.resume
      rw [Machine.run_append, WorkerQueues.remove_waiting_self]
      by_cases hgranted : call.fut = some .granted
      · rw [if_pos hgranted, if_pos hgranted, show queues.waiting call.worker =
          (queues.setPhase id .cancelled).waiting call.worker from rfl, run_freeOps]
        rfl
      · rw [if_neg hgranted, if_neg hgranted]
        rfl

theorem resume_waiting_of_ne (id : Nat) (call : AcquireCall Worker) (clock : Nat → ℚ)
    (outcome : WaitOutcome) (hne : worker ≠ call.worker) :
    (queues.resume cfg id call outcome clock).waiting worker = queues.waiting worker := by
  cases outcome with
  | result => rfl
  | timeoutError => exact WorkerQueues.remove_waiting_of_ne hne
  | cancelledError =>
      refine (WorkerQueues.remove_waiting_of_ne hne).trans ?_
      split
      · exact free_waiting_of_ne _ hne clock
      · rfl

theorem arrives_newItem (hinv : QueueInv queues) {workloadClass : WorkloadClass} {estTokens : Int}
    {deadlineAt : Option ℚ} {now : ℚ}
    (hnow : ∀ item ∈ queues.waiting worker, item.enqueuedAt ≤ now) :
    Arrives (queues.waiting worker)
      (queues.newItem cfg workloadClass estTokens deadlineAt now) := by
  refine ⟨rfl, fun other hother => ⟨?_, hnow other hother⟩⟩
  obtain ⟨call, hget, -⟩ := hinv.item worker other hother
  exact ne_of_lt (List.getElem?_eq_some_iff.mp hget).1

theorem acquire_waiting (worker target : Worker) (workloadClass : WorkloadClass) (estTokens : Int)
    (deadlineAt : Option ℚ) (now : ℚ) :
    (queues.acquire cfg target workloadClass estTokens deadlineAt now).waiting worker =
      if target = worker ∧ queues.Waits cfg worker then queues.waiting worker ++
        [queues.newItem cfg workloadClass estTokens deadlineAt now]
      else queues.waiting worker := by
  unfold WorkerQueues.acquire
  by_cases htarget : target = worker
  · subst htarget
    by_cases hfree : queues.waiting target = [] ∧ queues.inflight target < cfg.maxInflight
    · rw [if_pos hfree, if_neg fun hwaits => hwaits.2.1 hfree]
    by_cases hfull : cfg.maxDepth ≤ (queues.waiting target).length
    · rw [if_neg hfree, if_pos hfull, if_neg fun hwaits => hwaits.2.2 hfull]
    · rw [if_neg hfree, if_neg hfull, if_pos ⟨rfl, hfree, hfull⟩]
      exact Function.update_self ..
  · have hother : ¬ (target = worker ∧ queues.Waits cfg worker) := fun hwaits => htarget hwaits.1
    rw [if_neg hother]
    by_cases hfree : queues.waiting target = [] ∧ queues.inflight target < cfg.maxInflight
    · rw [if_pos hfree]
    by_cases hfull : cfg.maxDepth ≤ (queues.waiting target).length
    · rw [if_neg hfree, if_pos hfull]
    · rw [if_neg hfree, if_neg hfull]
      exact Function.update_of_ne (Ne.symm htarget) ..

theorem run_eventOps (hinv : QueueInv queues) {event : QueueEvent Worker}
    (hnow : ∀ item ∈ queues.waiting worker, ∀ now, event.arrival = some now → item.enqueuedAt ≤ now)
    (hstep : queueStep cfg queues event = some next) :
    (listMachine cfg).run (queues.waiting worker) (eventOps cfg worker queues event) =
      some (next.waiting worker) := by
  cases event with
  | acquire target workloadClass estTokens deadlineAt now =>
      cases hstep
      rw [acquire_waiting, eventOps]
      split
      · rw [Machine.run_cons_eq_some_iff]
        refine ⟨_, if_pos (arrives_newItem hinv ?_), rfl⟩
        exact fun item hitem => hnow item hitem now rfl
      · rfl
  | timerFires id =>
      cases queueStep_cases hstep
      rfl
  | cancelTask id =>
      cases queueStep_cases hstep
      rfl
  | resume id outcome clock =>
      cases queueStep_cases hstep with
      | interrupt _ _ _ _ hevent => simp at hevent
      | resume id call outcome clock hget hphase henabled =>
      rw [eventOps, hget]
      by_cases hworker : call.worker = worker
      · subst hworker
        simp only [if_true]
        exact run_resumeOps id call clock outcome
      · simp only [if_neg hworker]
        rw [resume_waiting_of_ne id call clock outcome (Ne.symm hworker)]
        rfl
  | release id clock =>
      simp only [queueStep, WorkerQueues.release] at hstep
      rw [eventOps]
      cases hget : queues.calls[id]? with
      | none => simp [hget] at hstep
      | some call =>
          rw [hget] at hstep
          cases hphase : call.phase with
          | holding waitS =>
              simp only [hphase] at hstep
              cases hstep
              by_cases hworker : call.worker = worker
              · subst hworker
                simp only [hphase, CallPhase.isHolding, and_self, if_true]
                exact run_freeOps (queues.setPhase id .released) call.worker clock
              · simp only [hworker, false_and, if_false]
                exact congrArg some
                  (free_waiting_of_ne (queues.setPhase id .released) (Ne.symm hworker) clock).symm
          | released =>
              simp only [hphase] at hstep
              cases hstep
              simp [hphase, CallPhase.isHolding]
          | suspended => simp [hphase] at hstep
          | rejected reason => simp [hphase] at hstep
          | cancelled => simp [hphase] at hstep

end Simulation

section Arrivals

def ListOp.arrivals : ListOp → List QueueItem
  | .enqueue item => [item]
  | _ => []

omit [DecidableEq Worker] in
theorem arrivals_turnOps (now : ℚ) :
    (turnOps cfg worker queues now).flatMap ListOp.arrivals = [] := by
  unfold turnOps
  split
  · rfl
  split <;> rfl

theorem arrivals_pumpOps (clock : Nat → ℚ) (fuel : Nat) :
    (pumpOps cfg worker clock fuel queues).flatMap ListOp.arrivals = [] := by
  induction fuel generalizing queues with
  | zero => rfl
  | succ fuel ih =>
      unfold pumpOps
      split
      · rw [List.flatMap_append, arrivals_turnOps, List.nil_append]
        exact ih
      · rfl

theorem arrivals_resumeOps (id : Nat) (call : AcquireCall Worker) (clock : Nat → ℚ)
    (outcome : WaitOutcome) :
    (resumeOps cfg worker queues id call clock outcome).flatMap ListOp.arrivals = [] := by
  cases outcome with
  | result => rfl
  | timeoutError => rfl
  | cancelledError =>
      unfold resumeOps freeOps
      rw [List.flatMap_append]
      split
      · rw [arrivals_pumpOps]
        rfl
      · rfl

theorem arrivals_eventOps (cfg : QueueConfig) (worker : Worker) (queues : WorkerQueues Worker)
    (event : QueueEvent Worker) :
    (eventOps cfg worker queues event).flatMap ListOp.arrivals = [] ∨
    ∃ workloadClass estTokens deadlineAt now,
      event = .acquire worker workloadClass estTokens deadlineAt now ∧ queues.Waits cfg worker ∧
        (eventOps cfg worker queues event).flatMap ListOp.arrivals =
          [queues.newItem cfg workloadClass estTokens deadlineAt now] := by
  cases event with
  | acquire target workloadClass estTokens deadlineAt now =>
      rw [eventOps]
      split
      · next hwaits =>
          obtain ⟨rfl, hwaits⟩ := hwaits
          exact .inr ⟨workloadClass, estTokens, deadlineAt, now, rfl, hwaits, rfl⟩
      · exact .inl rfl
  | timerFires id => exact .inl rfl
  | cancelTask id => exact .inl rfl
  | resume id outcome clock =>
      left
      rw [eventOps]
      split
      · rfl
      split
      · exact arrivals_resumeOps _ _ _ _
      · rfl
  | release id clock =>
      left
      rw [eventOps]
      split
      · rfl
      split
      · exact arrivals_pumpOps _ _
      · rfl

variable {waiting after : List QueueItem} {ops : List ListOp}

theorem enqueuedAt_step {op : ListOp} (hstep : listStep cfg waiting op = some after) {y : QueueItem}
    (hy : y ∈ after) : ∃ x ∈ waiting ++ op.arrivals, x.enqueuedAt = y.enqueuedAt := by
  cases op with
  | enqueue item =>
      obtain ⟨-, hnext⟩ := Option.ite_none_right_eq_some.mp hstep
      cases hnext
      exact ⟨y, hy, rfl⟩
  | grant best now =>
      obtain ⟨-, hnext⟩ := Option.ite_none_right_eq_some.mp hstep
      cases hnext
      obtain ⟨x, hx, rfl⟩ := List.mem_map.mp hy
      exact ⟨x, List.mem_append_left _ (mem_of_mem_removeItem hx), overtake_enqueuedAt.symm⟩
  | drop id =>
      cases hstep
      exact ⟨y, List.mem_append_left _ (mem_of_mem_removeItem hy), rfl⟩

theorem enqueuedAt_run (hrun : (listMachine cfg).run waiting ops = some after) {y : QueueItem}
    (hy : y ∈ after) : ∃ x ∈ waiting ++ ops.flatMap ListOp.arrivals, x.enqueuedAt =
      y.enqueuedAt := by
  induction ops generalizing waiting with
  | nil =>
      cases hrun
      exact ⟨y, List.mem_append_left _ hy, rfl⟩
  | cons op ops ih =>
      obtain ⟨mid, hstep, hrest⟩ := Machine.run_cons_eq_some_iff.mp hrun
      obtain ⟨x, hx, hxy⟩ := ih hrest
      rw [List.flatMap_cons]
      rcases List.mem_append.mp hx with hmid | hlater
      · obtain ⟨z, hz, hzx⟩ := enqueuedAt_step hstep hmid
        rw [← List.append_assoc]
        exact ⟨z, List.mem_append_left _ hz, hzx.trans hxy⟩
      · exact ⟨x, List.mem_append_right _ (List.mem_append_right _ hlater), hxy⟩

end Arrivals

section Grants

def ListOp.granted : ListOp → List Nat
  | .grant best _ => [best.id]
  | _ => []

theorem grants_turnOps (queues : WorkerQueues Worker) (now : ℚ) :
    (queues.pumpOnce cfg worker now).grants =
      queues.grants ++ (turnOps cfg worker queues now).flatMap ListOp.granted := by
  unfold WorkerQueues.pumpOnce turnOps
  cases (queues.waiting worker).argmin (cfg.key · now) with
  | none => exact (List.append_nil _).symm
  | some best =>
      by_cases hpending : queues.futOf best.id = some .pending
      · simp only [if_pos hpending]
        rfl
      · simp only [if_neg hpending]
        exact (List.append_nil _).symm

theorem grants_pumpOps (queues : WorkerQueues Worker) (clock : Nat → ℚ) (fuel : Nat) :
    (WorkerQueues.pumpLoop cfg worker clock fuel queues).grants =
      queues.grants ++ (pumpOps cfg worker clock fuel queues).flatMap ListOp.granted := by
  induction fuel generalizing queues with
  | zero => exact (List.append_nil _).symm
  | succ fuel ih =>
      unfold WorkerQueues.pumpLoop pumpOps
      split
      · rw [ih, grants_turnOps, List.flatMap_append, List.append_assoc]
      · exact (List.append_nil _).symm

theorem grants_freeOps (cfg : QueueConfig) (queues : WorkerQueues Worker) (worker : Worker)
    (clock : Nat → ℚ) : (queues.free cfg worker clock).grants =
      queues.grants ++ (freeOps cfg worker queues clock).flatMap ListOp.granted :=
  grants_pumpOps (queues.decrement worker) clock _

theorem grants_resumeOps (id : Nat) (call : AcquireCall Worker) (clock : Nat → ℚ)
    (outcome : WaitOutcome) :
    (queues.resume cfg id call outcome clock).grants = queues.grants ++
      (resumeOps cfg call.worker queues id call clock outcome).flatMap ListOp.granted := by
  cases outcome with
  | result => exact (List.append_nil _).symm
  | timeoutError => exact (List.append_nil _).symm
  | cancelledError =>
      by_cases hgranted : call.fut = some .granted
      · simp only [resumeOps, WorkerQueues.resume, if_pos hgranted, List.flatMap_append]
        have hfreed := grants_freeOps cfg (queues.setPhase id .cancelled) call.worker clock
        exact hfreed.trans (congrArg _ (List.append_nil _).symm)
      · simp only [resumeOps, WorkerQueues.resume, if_neg hgranted]
        exact (List.append_nil _).symm

theorem grants_acquire (target : Worker) (workloadClass : WorkloadClass) (estTokens : Int)
    (deadlineAt : Option ℚ) (now : ℚ) :
    (queues.acquire cfg target workloadClass estTokens deadlineAt now).grants = queues.grants := by
  unfold WorkerQueues.acquire
  split
  · rfl
  split <;> rfl

/-- The event concerns the list of one worker, and grants what its operations on that list grant. -/
def RecordsGrants (cfg : QueueConfig) (queues : WorkerQueues Worker) (event : QueueEvent Worker) :
    Prop :=
  ∀ next, queueStep cfg queues event = some next →
    ∃ worker, (∀ other, other ≠ worker → eventOps cfg other queues event = []) ∧
      next.grants = queues.grants ++ (eventOps cfg worker queues event).flatMap ListOp.granted

theorem grants_eventOps (cfg : QueueConfig) (queues : WorkerQueues Worker)
    (event : QueueEvent Worker) : RecordsGrants cfg queues event := by
  intro next hstep
  cases event with
  | acquire target workloadClass estTokens deadlineAt now =>
      cases hstep
      refine ⟨target, fun other hother => if_neg fun hwaits => hother hwaits.1.symm, ?_⟩
      rw [grants_acquire, eventOps]
      split <;> exact (List.append_nil _).symm
  | timerFires id =>
      cases queueStep_cases hstep with
      | interrupt _ _ call =>
          exact ⟨call.worker, fun _ _ => rfl, (List.append_nil _).symm⟩
  | cancelTask id =>
      cases queueStep_cases hstep with
      | interrupt _ _ call =>
          exact ⟨call.worker, fun _ _ => rfl, (List.append_nil _).symm⟩
  | resume id outcome clock =>
      cases queueStep_cases hstep with
      | interrupt _ _ _ _ hevent => simp at hevent
      | resume id call outcome clock hget hphase henabled =>
      simp only [eventOps, hget]
      refine ⟨call.worker, fun other hother => if_neg (Ne.symm hother), ?_⟩
      rw [if_pos rfl]
      exact grants_resumeOps id call clock outcome
  | release id clock =>
      simp only [queueStep, WorkerQueues.release] at hstep
      simp only [eventOps]
      cases hget : queues.calls[id]? with
      | none => simp [hget] at hstep
      | some call =>
          rw [hget] at hstep
          refine ⟨call.worker, fun other hother => if_neg fun hself => hother hself.1.symm, ?_⟩
          cases hphase : call.phase with
          | holding waitS =>
              simp only [hphase] at hstep
              cases hstep
              simp only [hphase, CallPhase.isHolding, and_self, if_true]
              exact grants_freeOps cfg (queues.setPhase id .released) call.worker clock
          | released =>
              simp only [hphase] at hstep
              cases hstep
              simp [hphase, CallPhase.isHolding]
          | suspended => simp [hphase] at hstep
          | rejected reason => simp [hphase] at hstep
          | cancelled => simp [hphase] at hstep

end Grants

section Runs

variable {events : List (QueueEvent Worker)}

def MonotoneClock (events : List (QueueEvent Worker)) : Prop :=
  (events.filterMap QueueEvent.arrival).Pairwise (· ≤ ·)

instance (events : List (QueueEvent Worker)) : Decidable (MonotoneClock events) :=
  inferInstanceAs (Decidable (List.Pairwise _ _))

def WaitsUndated (cfg : QueueConfig) (worker : Worker) (queues : WorkerQueues Worker) :
    QueueEvent Worker → Prop
  | .acquire target _ _ deadlineAt _ =>
      target = worker → queues.Waits cfg worker → deadlineAt = none
  | _ => True

def Behind (waiting : List QueueItem) (events : List (QueueEvent Worker)) : Prop :=
  ∀ item ∈ waiting, ∀ now ∈ events.filterMap QueueEvent.arrival, item.enqueuedAt ≤ now

omit [DecidableEq Worker] in
theorem behind_empty : Behind ((WorkerQueues.empty : WorkerQueues Worker).waiting worker) events :=
  fun _ hitem => absurd hitem List.not_mem_nil

theorem Behind.step {event : QueueEvent Worker} (hinv : QueueInv queues)
    (hbehind : Behind (queues.waiting worker) (event :: events))
    (hclock : MonotoneClock (event :: events)) (hstep : queueStep cfg queues event = some next) :
    (listMachine cfg).run (queues.waiting worker) (eventOps cfg worker queues event) =
        some (next.waiting worker) ∧
      Behind (next.waiting worker) events := by
  have hnow : ∀ item ∈ queues.waiting worker, ∀ now, event.arrival = some now →
      item.enqueuedAt ≤ now := by
    intro item hitem now harrival
    exact hbehind item hitem now (by simp [harrival])
  have hrun := run_eventOps hinv hnow hstep
  refine ⟨hrun, fun y hy later hlater => ?_⟩
  have hrest : later ∈ (event :: events).filterMap QueueEvent.arrival := by
    rw [List.filterMap_cons]
    split
    · exact hlater
    · exact List.mem_cons_of_mem _ hlater
  obtain ⟨x, hx, hxy⟩ := enqueuedAt_run hrun hy
  rw [← hxy]
  rcases List.mem_append.mp hx with hold | hnew
  · exact hbehind x hold later hrest
  · rcases arrivals_eventOps cfg worker queues event with
      hnone | ⟨workloadClass, estTokens, deadlineAt, now, rfl, -, hitems⟩
    · rw [hnone] at hnew
      exact absurd hnew List.not_mem_nil
    · rw [hitems, List.mem_singleton] at hnew
      subst hnew
      exact List.rel_of_pairwise_cons hclock hlater

omit [DecidableEq Worker] in
theorem MonotoneClock.tail {event : QueueEvent Worker} (hclock : MonotoneClock (event :: events)) :
    MonotoneClock events :=
  List.Pairwise.sublist ((List.sublist_cons_self event events).filterMap _) hclock

omit [DecidableEq Worker] in
theorem MonotoneClock.left {before after : List (QueueEvent Worker)}
    (hclock : MonotoneClock (before ++ after)) : MonotoneClock before :=
  List.Pairwise.sublist ((List.sublist_append_left before after).filterMap _) hclock

theorem run_runOps (worker : Worker) (hinv : QueueInv queues)
    (hbehind : Behind (queues.waiting worker) events) (hclock : MonotoneClock events)
    (hrun : (queueMachine cfg).run queues events = some final) :
    (listMachine cfg).run (queues.waiting worker) (runOps cfg worker queues events) =
      some (final.waiting worker) := by
  induction events generalizing queues with
  | nil =>
      cases hrun
      rfl
  | cons event events ih =>
      obtain ⟨next, hstep, hrest⟩ := Machine.run_cons_eq_some_iff.mp hrun
      have hstep : queueStep cfg queues event = some next := hstep
      obtain ⟨hhead, hbehind⟩ := hbehind.step hinv hclock hstep
      rw [runOps, hstep, Machine.run_append_eq_some_iff]
      exact ⟨_, hhead, ih (queueInv_step hinv hstep) hbehind hclock.tail hrest⟩

theorem runOps_append {before after : List (QueueEvent Worker)} {mid : WorkerQueues Worker}
    (hbefore : (queueMachine cfg).run queues before = some mid) :
    runOps cfg worker queues (before ++ after) =
      runOps cfg worker queues before ++ runOps cfg worker mid after := by
  induction before generalizing queues with
  | nil =>
      cases hbefore
      rfl
  | cons event before ih =>
      obtain ⟨next, hstep, hrest⟩ := Machine.run_cons_eq_some_iff.mp hbefore
      have hstep : queueStep cfg queues event = some next := hstep
      rw [List.cons_append, runOps, runOps, hstep, List.append_assoc]
      exact congrArg (eventOps cfg worker queues event ++ ·) (ih hrest)

theorem mem_arrivals_of_mem {ops : List ListOp} {item : QueueItem} (hmem : .enqueue item ∈ ops) :
    item ∈ ops.flatMap ListOp.arrivals :=
  List.mem_flatMap.mpr ⟨_, hmem, List.mem_singleton_self _⟩

theorem deadlineAt_of_mem_runOps
    (hmeets : (queueMachine cfg).Meets (WaitsUndated cfg worker) queues events)
    {item : QueueItem} (hmem : .enqueue item ∈ runOps cfg worker queues events) :
    item.deadlineAt = item.enqueuedAt + cfg.timeoutS := by
  induction events generalizing queues with
  | nil => exact absurd hmem List.not_mem_nil
  | cons event events ih =>
      rw [runOps] at hmem
      rcases List.mem_append.mp hmem with hnow | hlater
      · have harrives := mem_arrivals_of_mem hnow
        rcases arrivals_eventOps cfg worker queues event with
          hnone | ⟨workloadClass, estTokens, deadlineAt, now, rfl, hwaits, hitems⟩
        · rw [hnone] at harrives
          exact absurd harrives List.not_mem_nil
        · rw [hitems, List.mem_singleton] at harrives
          have hdeadline : deadlineAt = none := hmeets.1 rfl hwaits
          rw [harrives, hdeadline]
          rfl
      · cases hstep : queueStep cfg queues event with
        | none =>
            rw [hstep] at hlater
            exact absurd hlater List.not_mem_nil
        | some next =>
            rw [hstep] at hlater
            exact ih (hmeets.2 next hstep) hlater

/-- **Starvation bound.** On every run the list of a worker runs along; an older waiter has been
passed over at least as often as a younger one; a starved one is overtaken only by a strictly
earlier deadline; the grants of the lists are the grants of the queues; and where no waiter has a
deadline of its own, the times an item was passed over so far and the younger ones still granted
before it leaves do not exceed the limit together. -/
theorem starvation_bound (cfg : QueueConfig) (hgain : 0 ≤ cfg.agingGain) (worker : Worker)
    (before after : List (QueueEvent Worker)) (hclock : MonotoneClock (before ++ after))
    (queues final : WorkerQueues Worker)
    (hbefore : (queueMachine cfg).run .empty before = some queues)
    (hafter : (queueMachine cfg).run queues after = some final) :
    (listMachine cfg).run (queues.waiting worker) (runOps cfg worker queues after) =
      some (final.waiting worker) ∧
    (∀ older ∈ queues.waiting worker, ∀ younger ∈ queues.waiting worker,
      older.enqueuedAt < younger.enqueuedAt → younger.passedOver ≤ older.passedOver) ∧
    (listMachine cfg).Meets (FairGrant cfg) (queues.waiting worker)
      (runOps cfg worker queues after) ∧
    (queueMachine cfg).Meets (RecordsGrants cfg) queues after ∧
    ((queueMachine cfg).Meets (WaitsUndated cfg worker) .empty (before ++ after) →
      ∀ item ∈ queues.waiting worker,
        ((item.passedOver + overtakes cfg item.id (queues.waiting worker)
          (runOps cfg worker queues after) : Nat) : Int) ≤ max 0 cfg.maxOvertakes) := by
  have hwhole : (queueMachine cfg).run .empty (before ++ after) = some final :=
    Machine.run_append_eq_some_iff.mpr ⟨queues, hbefore, hafter⟩
  have hlists := run_runOps worker queueInv_empty behind_empty hclock hwhole
  have hlist := run_runOps worker queueInv_empty behind_empty hclock.left hbefore
  rw [runOps_append hbefore, Machine.run_append, hlist, Option.bind_some] at hlists
  have haged : Aged (queues.waiting worker) := aged_nil.run hlist
  have hrecords : (queueMachine cfg).Meets (RecordsGrants cfg) queues after :=
    Machine.meets_of_forall_mem fun event _ state => grants_eventOps cfg state event
  refine ⟨hlists, ?_, haged.meets_fairGrant hgain hlists, hrecords, ?_⟩
  · intro older holder younger hyounger hage
    exact haged.passedOver_le holder hyounger hage
  · intro hmeets item hitem
    have hitems : ∀ new, .enqueue new ∈ runOps cfg worker .empty (before ++ after) →
        new.deadlineAt = new.enqueuedAt + cfg.timeoutS := fun _ => deadlineAt_of_mem_runOps hmeets
    rw [runOps_append hbefore] at hitems
    have hundated : Undated cfg (queues.waiting worker) :=
      undated_nil.run hgain (fun new hnew => hitems new (List.mem_append_left _ hnew)) aged_nil
        hlist
    exact overtakes_le hgain (fun new hnew => hitems new (List.mem_append_right _ hnew)) haged
      hundated hlists hitem

def impatient : QueueConfig := { maxDepth := 8, maxInflight := 1, maxOvertakes := 1 }

def batchFirst : List (QueueEvent Unit) :=
  [.acquire () .interactive 10 none 0, .acquire () .batch 10 none 1,
    .acquire () .interactive 10 none 2, .acquire () .interactive 10 none 3]

def twoReleases : List (QueueEvent Unit) :=
  [.release 0 fun _ => 4, .resume 2 .result fun _ => 4, .release 2 fun _ => 5]

theorem starvation_bound_batch_first :
    ∃ queues final, (queueMachine impatient).run .empty batchFirst = some queues ∧
      (queueMachine impatient).run queues twoReleases = some final ∧ final.grants = [2, 1] ∧
      ∀ item ∈ queues.waiting (),
        ((item.passedOver + overtakes impatient item.id (queues.waiting ())
          (runOps impatient () queues twoReleases) : Nat) : Int) ≤
          max 0 impatient.maxOvertakes := by
  have hundated : (queueMachine impatient).Meets (WaitsUndated impatient ()) .empty
      (batchFirst ++ twoReleases) := by
    refine Machine.meets_of_forall_mem ?_
    simp [batchFirst, twoReleases, WaitsUndated]
  have hgrants : ((queueMachine impatient).run .empty (batchFirst ++ twoReleases)).map (·.grants) =
      some [2, 1] := by decide +kernel
  obtain ⟨final, hrun, hfinal⟩ := Option.map_eq_some_iff.mp hgrants
  obtain ⟨queues, hbefore, hafter⟩ := Machine.run_append_eq_some_iff.mp hrun
  refine ⟨queues, final, hbefore, hafter, hfinal, ?_⟩
  exact (starvation_bound impatient (by decide +kernel) () batchFirst twoReleases
    (by decide +kernel) queues final hbefore hafter).2.2.2.2 hundated

end Runs

end AiAnalytics.Gateway
