import AiAnalytics.Gateway.Proof.QueueSlots

/-!
# Queue bounds and work conservation

A slot is never idle beside a waiter: the pump stops only when nobody waits or every slot is taken,
and `acquire` takes a free slot at once only when nobody waits. Together with the ownership of slots
this bounds `inflight` on both sides.
-/

namespace AiAnalytics.Gateway

open Lib

variable {Worker : Type} [DecidableEq Worker] {cfg : QueueConfig}

structure QueueBounded (cfg : QueueConfig) (queues : WorkerQueues Worker) : Prop where
  inflight : ∀ worker, queues.inflight worker ≤ cfg.maxInflight
  depth : ∀ worker, ((queues.waiting worker).length : Int) ≤ cfg.maxDepth
  busy : ∀ worker, queues.waiting worker ≠ [] → queues.inflight worker = cfg.maxInflight

def QueueBoundedAt (cfg : QueueConfig) (queues : WorkerQueues Worker) (worker : Worker) : Prop :=
  queues.inflight worker ≤ cfg.maxInflight ∧
    ((queues.waiting worker).length : Int) ≤ cfg.maxDepth ∧
    (queues.waiting worker ≠ [] → queues.inflight worker = cfg.maxInflight)

omit [DecidableEq Worker] in
theorem queueBounded_iff {queues : WorkerQueues Worker} :
    QueueBounded cfg queues ↔ ∀ worker, QueueBoundedAt cfg queues worker :=
  ⟨fun h worker => ⟨h.inflight worker, h.depth worker, h.busy worker⟩,
    fun h => ⟨fun worker => (h worker).1, fun worker => (h worker).2.1,
      fun worker => (h worker).2.2⟩⟩

omit [DecidableEq Worker] in
theorem queueBounded_empty (hinflight : 1 ≤ cfg.maxInflight) (hdepth : 0 ≤ cfg.maxDepth) :
    QueueBounded cfg (WorkerQueues.empty : WorkerQueues Worker) where
  inflight := by
    intro worker
    change (0 : Int) ≤ cfg.maxInflight
    omega
  depth := by
    intro worker
    simpa [WorkerQueues.empty] using hdepth
  busy := by simp [WorkerQueues.empty]

section Pump

variable {queues : WorkerQueues Worker} {worker : Worker} {clock : Nat → ℚ}

theorem pumpOnce_spec (cfg : QueueConfig) (hwaiting : queues.waiting worker ≠ []) (now : ℚ) :
    ((queues.pumpOnce cfg worker now).waiting worker).length
        = (queues.waiting worker).length - 1 ∧
      (queues.pumpOnce cfg worker now).inflight worker ≤ queues.inflight worker + 1 := by
  unfold WorkerQueues.pumpOnce
  split
  · next hnone => exact absurd (List.argmin_eq_none.mp hnone) hwaiting
  · next best hbest =>
      have hmem := List.argmin_mem hbest
      split
      · rw [WorkerQueues.grant_waiting_self, List.length_map, length_removeItem_of_mem hmem,
          WorkerQueues.grant_inflight_self]
        exact ⟨rfl, le_rfl⟩
      · rw [WorkerQueues.remove_waiting_self, length_removeItem_of_mem hmem]
        refine ⟨rfl, ?_⟩
        change queues.inflight worker ≤ queues.inflight worker + 1
        omega

theorem pumpOnce_frame (cfg : QueueConfig) (queues : WorkerQueues Worker) {other : Worker}
    (hne : other ≠ worker) (now : ℚ) :
    (queues.pumpOnce cfg worker now).waiting other = queues.waiting other ∧
      (queues.pumpOnce cfg worker now).inflight other = queues.inflight other := by
  unfold WorkerQueues.pumpOnce
  split
  · exact ⟨rfl, rfl⟩
  · split
    · exact ⟨WorkerQueues.grant_waiting_of_ne hne, WorkerQueues.grant_inflight_of_ne hne⟩
    · exact ⟨WorkerQueues.remove_waiting_of_ne hne, rfl⟩

theorem pumpLoop_frame (cfg : QueueConfig) (queues : WorkerQueues Worker) (clock : Nat → ℚ)
    {other : Worker} (hne : other ≠ worker) (fuel : Nat) :
    (WorkerQueues.pumpLoop cfg worker clock fuel queues).waiting other = queues.waiting other ∧
      (WorkerQueues.pumpLoop cfg worker clock fuel queues).inflight other
        = queues.inflight other := by
  induction fuel generalizing queues with
  | zero => exact ⟨rfl, rfl⟩
  | succ fuel ih =>
      unfold WorkerQueues.pumpLoop
      split
      · obtain ⟨hwaiting, hinflight⟩ := pumpOnce_frame cfg queues hne (clock fuel)
        obtain ⟨hwaiting', hinflight'⟩ := ih (queues.pumpOnce cfg worker (clock fuel))
        exact ⟨hwaiting'.trans hwaiting, hinflight'.trans hinflight⟩
      · exact ⟨rfl, rfl⟩

theorem pumpLoop_spec (cfg : QueueConfig) (queues : WorkerQueues Worker) (worker : Worker)
    (clock : Nat → ℚ) {fuel : Nat} (hfuel : (queues.waiting worker).length ≤ fuel)
    (hinflight : queues.inflight worker ≤ cfg.maxInflight) :
    let pumped := WorkerQueues.pumpLoop cfg worker clock fuel queues
    (pumped.waiting worker).length ≤ (queues.waiting worker).length ∧
      pumped.inflight worker ≤ cfg.maxInflight ∧
      (pumped.waiting worker ≠ [] → pumped.inflight worker = cfg.maxInflight) := by
  induction fuel generalizing queues with
  | zero =>
      have hnil : queues.waiting worker = [] := List.length_eq_zero_iff.mp (by omega)
      exact ⟨le_rfl, hinflight, fun hne => absurd hnil hne⟩
  | succ fuel ih =>
      unfold WorkerQueues.pumpLoop
      split
      · next hgo =>
          obtain ⟨hlength, hslot⟩ := pumpOnce_spec cfg hgo.1 (clock fuel)
          have hpos : 0 < (queues.waiting worker).length := List.length_pos_iff.mpr hgo.1
          obtain ⟨hle, hrest⟩ := ih (queues.pumpOnce cfg worker (clock fuel)) (by omega) (by omega)
          exact ⟨by omega, hrest⟩
      · next hstop =>
          refine ⟨le_rfl, hinflight, fun hne => ?_⟩
          have hfull : ¬ queues.inflight worker < cfg.maxInflight := fun hlt => hstop ⟨hne, hlt⟩
          omega

theorem queueBounded_free (hbounded : QueueBounded cfg queues) :
    QueueBounded cfg (queues.free cfg worker clock) := by
  have hwaiting : (queues.decrement worker).waiting = queues.waiting := rfl
  have hself : (queues.decrement worker).inflight worker = queues.inflight worker - 1 := by
    simp [WorkerQueues.decrement]
  refine queueBounded_iff.mpr fun other => ?_
  by_cases hother : other = worker
  · subst hother
    have hinflight := hbounded.inflight other
    have hdepth := hbounded.depth other
    obtain ⟨hlength, hrest⟩ := pumpLoop_spec cfg (queues.decrement other) other clock le_rfl
      (by omega)
    rw [hwaiting] at hlength
    exact ⟨hrest.1, le_trans (by exact_mod_cast hlength) hdepth, hrest.2⟩
  · obtain ⟨hframeWaiting, hframeInflight⟩ := pumpLoop_frame cfg
      (queues.decrement worker) clock hother ((queues.decrement worker).waiting worker).length
    have hsame : (queues.decrement worker).inflight other = queues.inflight other := by
      simp [WorkerQueues.decrement, hother]
    unfold QueueBoundedAt WorkerQueues.free WorkerQueues.pump
    rw [hframeWaiting, hframeInflight, hsame, hwaiting]
    exact queueBounded_iff.mp hbounded other

end Pump

section Steps

variable {queues next : WorkerQueues Worker}

theorem queueBounded_remove (hbounded : QueueBounded cfg queues) (worker : Worker) (id : Nat) :
    QueueBounded cfg (queues.remove worker id) := by
  refine queueBounded_iff.mpr fun other => ?_
  by_cases hother : other = worker
  · subst hother
    have hlength : (removeItem id (queues.waiting other)).length
        ≤ (queues.waiting other).length := List.length_eraseP_le
    have hdepth := hbounded.depth other
    unfold QueueBoundedAt
    rw [WorkerQueues.remove_waiting_self]
    refine ⟨hbounded.inflight other, by omega, fun hne => hbounded.busy other fun hnil => ?_⟩
    exact hne (by simp [hnil, removeItem])
  · unfold QueueBoundedAt
    rw [WorkerQueues.remove_waiting_of_ne hother]
    exact queueBounded_iff.mp hbounded other

theorem queueBounded_acquire (hbounded : QueueBounded cfg queues) (worker : Worker)
    (workloadClass : WorkloadClass) (estTokens : Int) (deadlineAt : Option ℚ) (now : ℚ) :
    QueueBounded cfg (queues.acquire cfg worker workloadClass estTokens deadlineAt now) := by
  unfold WorkerQueues.acquire
  split
  · next hfree =>
      refine queueBounded_iff.mpr fun other => ?_
      by_cases hother : other = worker
      · subst hother
        have hdepth := hbounded.depth other
        refine ⟨?_, hdepth, fun hne => absurd hfree.1 hne⟩
        simp only [Function.update_self]
        omega
      · simpa [QueueBoundedAt, hother] using queueBounded_iff.mp hbounded other
  · next hbusy =>
      split
      · exact ⟨hbounded.inflight, hbounded.depth, hbounded.busy⟩
      · next hroom =>
          refine queueBounded_iff.mpr fun other => ?_
          by_cases hother : other = worker
          · subst hother
            have hinflight := hbounded.inflight other
            -- The call queued although nobody waited only if no slot was free.
            have hfull : queues.inflight other = cfg.maxInflight := by
              by_cases hnil : queues.waiting other = []
              · have hnotFree : ¬ queues.inflight other < cfg.maxInflight :=
                  fun hlt => hbusy ⟨hnil, hlt⟩
                omega
              · exact hbounded.busy other hnil
            refine ⟨hinflight, ?_, fun _ => hfull⟩
            simp only [Function.update_self, List.length_append, List.length_singleton]
            push_cast
            omega
          · simpa [QueueBoundedAt, hother] using queueBounded_iff.mp hbounded other

theorem queueBounded_step (hbounded : QueueBounded cfg queues) {event : QueueEvent Worker}
    (hstep : queueStep cfg queues event = some next) : QueueBounded cfg next := by
  have hphase : ∀ id phase, QueueBounded cfg (queues.setPhase id phase) :=
    fun _ _ => ⟨hbounded.inflight, hbounded.depth, hbounded.busy⟩
  cases queueStep_cases hstep with
  | acquire worker workloadClass estTokens deadlineAt now =>
      exact queueBounded_acquire hbounded _ _ _ _ _
  | interrupt => exact ⟨hbounded.inflight, hbounded.depth, hbounded.busy⟩
  | resume id call outcome clock hget hsuspended henabled =>
      cases outcome with
      | result => exact hphase _ _
      | timeoutError => exact queueBounded_remove (hphase _ _) _ _
      | cancelledError =>
          unfold WorkerQueues.resume
          refine queueBounded_remove ?_ _ _
          split
          · exact queueBounded_free (hphase _ _)
          · exact hphase _ _
  | release id call waitS clock hget hholding => exact queueBounded_free (hphase _ _)
  | releaseAgain => exact hbounded

end Steps

/-! ### What a step grants -/

section Grants

variable {queues next : WorkerQueues Worker} {worker : Worker} {clock : Nat → ℚ}

theorem pumpOnce_futOf (cfg : QueueConfig) (queues : WorkerQueues Worker) (worker : Worker)
    (now : ℚ) (g : Nat) :
    (g ∈ (queues.pumpOnce cfg worker now).grants → g ∈ queues.grants ∨
      queues.futOf g = some .pending) ∧
    (g ∉ (queues.pumpOnce cfg worker now).grants →
      (queues.pumpOnce cfg worker now).futOf g = queues.futOf g) := by
  unfold WorkerQueues.pumpOnce
  split
  · exact ⟨Or.inl, fun _ => rfl⟩
  · next best _ =>
      split
      · next hpending =>
          constructor
          · intro hmem
            rcases List.mem_append.mp hmem with hmem | hmem
            · exact Or.inl hmem
            · exact Or.inr (List.mem_singleton.mp hmem ▸ hpending)
          · intro hnew
            refine WorkerQueues.futOf_modify_of_ne fun heq => hnew ?_
            simp [WorkerQueues.grant, heq]
      · exact ⟨Or.inl, fun _ => rfl⟩

theorem futOf_pending_of_granted_pumpLoop {fuel g : Nat}
    (hmem : g ∈ (WorkerQueues.pumpLoop cfg worker clock fuel queues).grants)
    (hnew : g ∉ queues.grants) : queues.futOf g = some .pending := by
  induction fuel generalizing queues with
  | zero => exact absurd hmem hnew
  | succ fuel ih =>
      unfold WorkerQueues.pumpLoop at hmem
      split at hmem
      · obtain ⟨hgranted, hsame⟩ := pumpOnce_futOf cfg queues worker (clock fuel) g
        by_cases hnow : g ∈ (queues.pumpOnce cfg worker (clock fuel)).grants
        · exact (hgranted hnow).resolve_left hnew
        · exact (hsame hnow).symm.trans (ih hmem hnow)
      · exact absurd hmem hnew

theorem futOf_settle {id : Nat} {phase : CallPhase} (g : Nat) :
    ((queues.setPhase id phase).decrement worker).futOf g = queues.futOf g := by
  simp only [WorkerQueues.futOf, WorkerQueues.decrement, WorkerQueues.setPhase,
    List.getElem?_modify]
  cases queues.calls[g]? with
  | none => rfl
  | some call => by_cases hid : id = g <;> simp [hid]

theorem futOf_pending_of_granted_step {event : QueueEvent Worker}
    (hstep : queueStep cfg queues event = some next) {g : Nat} (hmem : g ∈ next.grants)
    (hnew : g ∉ queues.grants) : queues.futOf g = some .pending := by
  cases queueStep_cases hstep with
  | acquire =>
      refine absurd ?_ hnew
      unfold WorkerQueues.acquire at hmem
      split at hmem
      · exact hmem
      split at hmem <;> exact hmem
  | interrupt => exact absurd hmem hnew
  | resume id call outcome clock hget hphase henabled =>
      cases outcome with
      | result => exact absurd hmem hnew
      | timeoutError => exact absurd hmem hnew
      | cancelledError =>
          by_cases hfut : call.fut = some .granted
          · simp only [WorkerQueues.resume, if_pos hfut] at hmem
            exact (futOf_settle g).symm.trans (futOf_pending_of_granted_pumpLoop hmem hnew)
          · simp only [WorkerQueues.resume, if_neg hfut] at hmem
            exact absurd hmem hnew
  | release id call waitS clock hget hphase =>
      exact (futOf_settle g).symm.trans (futOf_pending_of_granted_pumpLoop hmem hnew)
  | releaseAgain => exact absurd hmem hnew

end Grants

/-- **Queue bounds and work conservation.** In every state reached, each worker keeps
`0 ≤ inflight ≤ max_inflight` and at most `max_depth` waiting items, an item waits only while every
slot is taken, no item is granted twice, and the next step grants only items whose future is still
pending. -/
theorem queue_bounds_and_work_conservation (cfg : QueueConfig) (hinflight : 1 ≤ cfg.maxInflight)
    (hdepth : 0 ≤ cfg.maxDepth) (events : List (QueueEvent Worker)) (queues : WorkerQueues Worker)
    (hrun : (queueMachine cfg).run .empty events = some queues) :
    (∀ worker, 0 ≤ queues.inflight worker ∧ queues.inflight worker ≤ cfg.maxInflight ∧
      ((queues.waiting worker).length : Int) ≤ cfg.maxDepth ∧
      (queues.waiting worker ≠ [] → queues.inflight worker = cfg.maxInflight)) ∧
    queues.grants.Nodup ∧
    ∀ event next, (queueMachine cfg).step queues event = some next →
      ∀ id ∈ next.grants, id ∉ queues.grants → queues.futOf id = some .pending := by
  have hinv := queueInv_run hrun
  have hbounded : QueueBounded cfg queues :=
    Machine.run_invariant (fun _ _ _ hbounded hstep => queueBounded_step hbounded hstep)
      (queueBounded_empty hinflight hdepth) hrun
  refine ⟨fun worker => ⟨?_, queueBounded_iff.mp hbounded worker⟩, hinv.once, ?_⟩
  · rw [hinv.slots]
    exact Int.natCast_nonneg _
  · intro event next hstep id hmem hnew
    exact futOf_pending_of_granted_step hstep hmem hnew

theorem queue_bounds_handOver :
    ∃ queues, (queueMachine oneSlot).run .empty handOver = some queues ∧
      ((∀ worker, 0 ≤ queues.inflight worker ∧ queues.inflight worker ≤ oneSlot.maxInflight ∧
        ((queues.waiting worker).length : Int) ≤ oneSlot.maxDepth ∧
        (queues.waiting worker ≠ [] → queues.inflight worker = oneSlot.maxInflight)) ∧
      queues.grants.Nodup ∧
      ∀ event next, (queueMachine oneSlot).step queues event = some next →
        ∀ id ∈ next.grants, id ∉ queues.grants → queues.futOf id = some .pending) :=
  ⟨_, rfl, queue_bounds_and_work_conservation oneSlot (by decide) (by decide) handOver _ rfl⟩

end AiAnalytics.Gateway
