import AiAnalytics.Gateway.Queueing
import AiAnalytics.Lib.Counting

/-!
# Who owns a dispatch slot

Every unit of a worker's `inflight` count is owned by exactly one call of `acquire`: one that holds
its ticket, one whose future is resolved and whose waiter has not resumed, or one that was resumed
with a timeout after its future had been resolved. The third kind is the leak: the timeout branch
drops the ticket. `QueueInv` is the accounting with the leak counted, which holds on every run.
-/

namespace AiAnalytics.Gateway

open Lib

variable {Worker : Type} [DecidableEq Worker]

def CallPhase.isHolding : CallPhase → Bool
  | .holding _ => true
  | _ => false

namespace AcquireCall

/-- The future is resolved and the waiter has not resumed yet. -/
def undelivered (call : AcquireCall Worker) : Bool :=
  call.phase = .suspended ∧ call.fut = some .granted

def lost (call : AcquireCall Worker) : Bool :=
  call.phase = .rejected .timeoutQueue ∧ call.fut = some .granted

def owns (call : AcquireCall Worker) : Bool :=
  call.phase.isHolding || call.undelivered || call.lost

end AcquireCall

namespace WorkerQueues

def held (queues : WorkerQueues Worker) (worker : Worker) : Nat :=
  queues.calls.countP fun call => call.worker = worker && call.phase.isHolding

def undelivered (queues : WorkerQueues Worker) (worker : Worker) : Nat :=
  queues.calls.countP fun call => call.worker = worker && call.undelivered

def lost (queues : WorkerQueues Worker) (worker : Worker) : Nat :=
  queues.calls.countP fun call => call.worker = worker && call.lost

def owned (queues : WorkerQueues Worker) (worker : Worker) : Nat :=
  queues.calls.countP fun call => call.worker = worker && call.owns

theorem owned_eq (queues : WorkerQueues Worker) (worker : Worker) :
    queues.owned worker = queues.held worker + queues.undelivered worker + queues.lost worker := by
  unfold owned held undelivered lost
  induction queues.calls with
  | nil => rfl
  | cons call calls ih =>
      simp only [List.countP_cons, ih]
      have hsplit : (if (call.worker = worker && call.owns) then 1 else 0)
          = (if (call.worker = worker && call.phase.isHolding) then 1 else 0)
            + (if (call.worker = worker && call.undelivered) then 1 else 0)
            + (if (call.worker = worker && call.lost) then 1 else 0) := by
        unfold AcquireCall.owns AcquireCall.undelivered AcquireCall.lost
        by_cases hworker : call.worker = worker <;>
          cases hphase : call.phase <;> simp [hworker, CallPhase.isHolding]
      omega

end WorkerQueues

structure QueueInv (queues : WorkerQueues Worker) : Prop where
  item : ∀ worker, ∀ item ∈ queues.waiting worker, ∃ call, queues.calls[item.id]? = some call ∧
    call.worker = worker ∧ call.phase = .suspended ∧ call.fut ≠ some .granted
  nodup : ∀ worker, ((queues.waiting worker).map QueueItem.id).Nodup
  slots : ∀ worker, queues.inflight worker = queues.owned worker
  granted : ∀ id ∈ queues.grants, queues.futOf id = some .granted
  once : queues.grants.Nodup

theorem queueInv_empty : QueueInv (WorkerQueues.empty : WorkerQueues Worker) where
  item := by simp [WorkerQueues.empty]
  nodup := by simp [WorkerQueues.empty]
  slots := by simp [WorkerQueues.empty, WorkerQueues.owned]
  granted := by simp [WorkerQueues.empty]
  once := by simp [WorkerQueues.empty]

section Removal

variable {id : Nat} {waiting : List QueueItem} {item : QueueItem}

theorem mem_of_mem_removeItem (hmem : item ∈ removeItem id waiting) : item ∈ waiting :=
  List.mem_of_mem_eraseP hmem

theorem nodup_removeItem (hnodup : (waiting.map QueueItem.id).Nodup) :
    ((removeItem id waiting).map QueueItem.id).Nodup :=
  hnodup.sublist (List.eraseP_sublist.map _)

theorem ne_of_mem_removeItem (hnodup : (waiting.map QueueItem.id).Nodup)
    (hmem : item ∈ removeItem id waiting) : item.id ≠ id := by
  induction waiting with
  | nil => simp [removeItem] at hmem
  | cons head tail ih =>
      rw [List.map_cons, List.nodup_cons] at hnodup
      unfold removeItem at hmem ih
      by_cases hhead : head.id = id
      · rw [List.eraseP_cons_of_pos (by simpa using hhead)] at hmem
        intro heq
        exact hnodup.1 (hhead ▸ heq ▸ List.mem_map_of_mem hmem)
      · rw [List.eraseP_cons_of_neg (by simpa using hhead)] at hmem
        rcases List.mem_cons.mp hmem with rfl | htail
        · exact hhead
        · exact ih hnodup.2 htail

theorem length_removeItem_of_mem (hmem : item ∈ waiting) :
    (removeItem item.id waiting).length = waiting.length - 1 :=
  List.length_eraseP_of_mem hmem (by simp)

@[simp]
theorem overtake_id (best other : QueueItem) : (overtake best other).id = other.id := by
  unfold overtake
  split <;> rfl

end Removal

namespace WorkerQueues

variable {queues : WorkerQueues Worker} {worker other : Worker} {id : Nat}
  {call : AcquireCall Worker} {best : QueueItem}

@[simp]
theorem remove_waiting_self :
    (queues.remove worker id).waiting worker = removeItem id (queues.waiting worker) := by
  simp [remove]

@[simp]
theorem remove_waiting_of_ne (hne : other ≠ worker) :
    (queues.remove worker id).waiting other = queues.waiting other := by
  simp [remove, hne]

@[simp]
theorem grant_waiting_self :
    (queues.grant worker best).waiting worker
      = (removeItem best.id (queues.waiting worker)).map (overtake best) := by
  simp [grant]

@[simp]
theorem grant_waiting_of_ne (hne : other ≠ worker) :
    (queues.grant worker best).waiting other = queues.waiting other := by
  simp [grant, hne]

@[simp]
theorem grant_inflight_self :
    (queues.grant worker best).inflight worker = queues.inflight worker + 1 := by
  simp [grant]

@[simp]
theorem grant_inflight_of_ne (hne : other ≠ worker) :
    (queues.grant worker best).inflight other = queues.inflight other := by
  simp [grant, hne]

theorem owned_modify {f : AcquireCall Worker → AcquireCall Worker}
    (hget : queues.calls[id]? = some call) (hworker : (f call).worker = call.worker)
    (other : Worker) :
    ((queues.calls.modify id f).countP fun c => c.worker = other && c.owns : Int)
      = queues.owned other - (if call.worker = other ∧ call.owns = true then 1 else 0)
        + (if call.worker = other ∧ (f call).owns = true then 1 else 0) := by
  rw [countP_modify_of_getElem? hget, owned, hworker]
  simp

omit [DecidableEq Worker] in
theorem futOf_modify_of_ne {f : AcquireCall Worker → AcquireCall Worker} {other : Nat}
    (hne : other ≠ id) :
    ((queues.calls.modify id f)[other]?).bind (·.fut) = queues.futOf other := by
  rw [List.getElem?_modify_ne _ _ (Ne.symm hne), futOf]

omit [DecidableEq Worker] in
theorem futOf_eq_of_getElem? (hget : queues.calls[id]? = some call) :
    queues.futOf id = call.fut := by
  simp [futOf, hget]

end WorkerQueues

/-! ### One call changes

`waiting` and `inflight` below are the new waiting lists and counts; each lemma says what the change
of the call `id` asks of them. -/

section OneCall

variable {queues : WorkerQueues Worker} {id : Nat} {call : AcquireCall Worker}
  {f : AcquireCall Worker → AcquireCall Worker}

omit [DecidableEq Worker] in
theorem item_modify {waiting : Worker → List QueueItem}
    (hitem : ∀ worker, ∀ item ∈ queues.waiting worker, ∃ call, queues.calls[item.id]? = some call ∧
      call.worker = worker ∧ call.phase = .suspended ∧ call.fut ≠ some .granted)
    (hget : queues.calls[id]? = some call) (hworker : (f call).worker = call.worker)
    (hwaiting : ∀ worker, ∀ item ∈ waiting worker, ∃ old ∈ queues.waiting worker, old.id = item.id)
    (hsame : ∀ worker, ∀ item ∈ waiting worker, item.id = id →
      (f call).phase = .suspended ∧ (f call).fut ≠ some .granted) :
    ∀ worker, ∀ item ∈ waiting worker, ∃ call, (queues.calls.modify id f)[item.id]? = some call ∧
      call.worker = worker ∧ call.phase = .suspended ∧ call.fut ≠ some .granted := by
  intro worker item hmem
  obtain ⟨old, hold, holdId⟩ := hwaiting worker item hmem
  obtain ⟨before, hbefore, hbeforeWorker, hphase, hfut⟩ := hitem worker old hold
  rw [holdId] at hbefore
  by_cases hid : item.id = id
  · rw [hid, hget] at hbefore
    obtain rfl : call = before := Option.some.inj hbefore
    obtain ⟨hphase', hfut'⟩ := hsame worker item hmem hid
    refine ⟨f call, ?_, hworker.trans hbeforeWorker, hphase', hfut'⟩
    rw [hid, List.getElem?_modify_eq, hget]
    rfl
  · exact ⟨before, by rwa [List.getElem?_modify_ne _ _ (Ne.symm hid)], hbeforeWorker, hphase, hfut⟩

theorem slots_modify {inflight : Worker → Int}
    (hslots : ∀ worker, queues.inflight worker = queues.owned worker)
    (hget : queues.calls[id]? = some call) (hworker : (f call).worker = call.worker)
    (hinflight : ∀ worker, inflight worker = queues.inflight worker
      - (if call.worker = worker ∧ call.owns = true then 1 else 0)
      + (if call.worker = worker ∧ (f call).owns = true then 1 else 0)) (worker : Worker) :
    inflight worker
      = ((queues.calls.modify id f).countP fun c => c.worker = worker && c.owns : Nat) := by
  rw [hinflight, hslots, WorkerQueues.owned_modify hget hworker]

omit [DecidableEq Worker] in
theorem granted_modify (hgranted : ∀ g ∈ queues.grants, queues.futOf g = some .granted)
    (hget : queues.calls[id]? = some call)
    (hfut : call.fut = some .granted → (f call).fut = some .granted) :
    ∀ g ∈ queues.grants, ((queues.calls.modify id f)[g]?).bind (·.fut) = some .granted := by
  intro g hmem
  have hold := hgranted g hmem
  by_cases hid : g = id
  · subst hid
    rw [WorkerQueues.futOf_eq_of_getElem? hget] at hold
    rw [List.getElem?_modify_eq, hget]
    exact hfut hold
  · rw [WorkerQueues.futOf_modify_of_ne hid, hold]

end OneCall

/-! ### The pump -/

section Pump

variable {cfg : QueueConfig} {queues : WorkerQueues Worker} {worker : Worker}

theorem queueInv_remove (hinv : QueueInv queues) (worker : Worker) (id : Nat) :
    QueueInv (queues.remove worker id) where
  item := by
    intro other item hmem
    refine hinv.item other item ?_
    by_cases hother : other = worker
    · subst hother
      exact mem_of_mem_removeItem (by simpa using hmem)
    · simpa [hother] using hmem
  nodup := by
    intro other
    by_cases hother : other = worker
    · subst hother
      simpa using nodup_removeItem (hinv.nodup other)
    · simpa [hother] using hinv.nodup other
  slots := hinv.slots
  granted := hinv.granted
  once := hinv.once

theorem exists_of_mem_grant_waiting {best item : QueueItem} {other : Worker}
    (hinv : QueueInv queues) (hbest : best ∈ queues.waiting worker)
    (hmem : item ∈ (queues.grant worker best).waiting other) :
    (∃ old ∈ queues.waiting other, old.id = item.id) ∧ item.id ≠ best.id := by
  by_cases hother : other = worker
  · subst hother
    rw [WorkerQueues.grant_waiting_self] at hmem
    obtain ⟨old, hold, rfl⟩ := List.mem_map.mp hmem
    rw [overtake_id]
    exact ⟨⟨old, mem_of_mem_removeItem hold, rfl⟩, ne_of_mem_removeItem (hinv.nodup other) hold⟩
  · rw [WorkerQueues.grant_waiting_of_ne hother] at hmem
    refine ⟨⟨item, hmem, rfl⟩, fun hid => hother ?_⟩
    obtain ⟨call, hget, hworker, -⟩ := hinv.item worker best hbest
    obtain ⟨otherCall, hotherGet, hotherWorker, -⟩ := hinv.item other item hmem
    rw [hid, hget] at hotherGet
    rw [← hworker, ← hotherWorker, Option.some.inj hotherGet]

theorem queueInv_grant (hinv : QueueInv queues) {best : QueueItem}
    (hbest : best ∈ queues.waiting worker) (hpending : queues.futOf best.id = some .pending) :
    QueueInv (queues.grant worker best) := by
  obtain ⟨call, hget, hworker, hphase, hfut⟩ := hinv.item worker best hbest
  have hcallFut : call.fut = some .pending := by
    rw [← WorkerQueues.futOf_eq_of_getElem? hget, hpending]
  have hold : call.owns = false := by
    simp [AcquireCall.owns, AcquireCall.undelivered, AcquireCall.lost, CallPhase.isHolding, hphase,
      hcallFut]
  have hnew : AcquireCall.owns { call with fut := some .granted } = true := by
    simp [AcquireCall.owns, AcquireCall.undelivered, hphase]
  refine ⟨?_, ?_, ?_, ?_, ?_⟩
  · refine item_modify hinv.item hget rfl ?_ ?_
    · intro other item hmem
      exact (exists_of_mem_grant_waiting hinv hbest hmem).1
    · intro other item hmem hid
      exact absurd hid (exists_of_mem_grant_waiting hinv hbest hmem).2
  · intro other
    by_cases hother : other = worker
    · subst hother
      rw [WorkerQueues.grant_waiting_self, List.map_map]
      have hids : QueueItem.id ∘ overtake best = QueueItem.id := funext (overtake_id best)
      rw [hids]
      exact nodup_removeItem (hinv.nodup other)
    · rw [WorkerQueues.grant_waiting_of_ne hother]
      exact hinv.nodup other
  · refine slots_modify hinv.slots hget rfl ?_
    intro other
    by_cases hother : other = worker
    · subst hother
      rw [WorkerQueues.grant_inflight_self, if_neg (by simp [hold]), if_pos ⟨hworker, hnew⟩]
      omega
    · have hne : ¬ call.worker = other := fun heq => hother (heq.symm.trans hworker)
      simp [WorkerQueues.grant_inflight_of_ne hother, hne]
  · intro g hmem
    rcases List.mem_append.mp hmem with hmem | hmem
    · exact granted_modify hinv.granted hget (fun _ => rfl) g hmem
    · obtain rfl : g = best.id := by simpa using hmem
      simp [WorkerQueues.grant, WorkerQueues.futOf, hget]
  · refine List.nodup_append.mpr ⟨hinv.once, by simp, ?_⟩
    intro g hmem other hother heq
    obtain rfl : other = best.id := by simpa using hother
    have hgranted := hinv.granted g hmem
    rw [heq, hpending] at hgranted
    simp at hgranted

theorem queueInv_pumpOnce (hinv : QueueInv queues) (now : ℚ) :
    QueueInv (queues.pumpOnce cfg worker now) := by
  unfold WorkerQueues.pumpOnce
  split
  · exact hinv
  · next best hbest =>
      split
      · next hpending => exact queueInv_grant hinv (List.argmin_mem hbest) hpending
      · exact queueInv_remove hinv worker best.id

theorem queueInv_pumpLoop {clock : Nat → ℚ} {fuel : Nat} (hinv : QueueInv queues) :
    QueueInv (WorkerQueues.pumpLoop cfg worker clock fuel queues) := by
  induction fuel generalizing queues with
  | zero => exact hinv
  | succ fuel ih =>
      unfold WorkerQueues.pumpLoop
      split
      · exact ih (queueInv_pumpOnce hinv _)
      · exact hinv

end Pump

/-! ### The steps -/

/-- What one step can do. The timer and a cancellation are one case: both interrupt the call. -/
inductive QueueStep (cfg : QueueConfig) (queues : WorkerQueues Worker) :
    QueueEvent Worker → WorkerQueues Worker → Prop where
  | acquire (worker : Worker) (workloadClass : WorkloadClass) (estTokens : Int)
      (deadlineAt : Option ℚ) (now : ℚ) :
      QueueStep cfg queues (.acquire worker workloadClass estTokens deadlineAt now)
        (queues.acquire cfg worker workloadClass estTokens deadlineAt now)
  | interrupt (event : QueueEvent Worker) (id : Nat) (call : AcquireCall Worker)
      (f : AcquireCall Worker → AcquireCall Worker)
      (hevent : event = .timerFires id ∨ event = .cancelTask id)
      (hget : queues.calls[id]? = some call) (hphase : call.phase = .suspended)
      (hworker : (f call).worker = call.worker) (hphase' : (f call).phase = call.phase)
      (hfut : (f call).fut = call.interrupt.fut) :
      QueueStep cfg queues event { queues with calls := queues.calls.modify id f }
  | resume (id : Nat) (call : AcquireCall Worker) (outcome : WaitOutcome) (clock : Nat → ℚ)
      (hget : queues.calls[id]? = some call) (hphase : call.phase = .suspended)
      (henabled : outcome.Enabled call) :
      QueueStep cfg queues (.resume id outcome clock) (queues.resume cfg id call outcome clock)
  | release (id : Nat) (call : AcquireCall Worker) (waitS : ℚ) (clock : Nat → ℚ)
      (hget : queues.calls[id]? = some call) (hphase : call.phase = .holding waitS) :
      QueueStep cfg queues (.release id clock)
        ((queues.setPhase id .released).free cfg call.worker clock)
  | releaseAgain (id : Nat) (clock : Nat → ℚ) : QueueStep cfg queues (.release id clock) queues

theorem queueStep_cases {cfg : QueueConfig} {queues next : WorkerQueues Worker}
    {event : QueueEvent Worker} (hstep : queueStep cfg queues event = some next) :
    QueueStep cfg queues event next := by
  cases event with
  | acquire worker workloadClass estTokens deadlineAt now =>
      exact Option.some.inj hstep ▸ .acquire worker workloadClass estTokens deadlineAt now
  | release id clock =>
      simp only [queueStep, WorkerQueues.release] at hstep
      split at hstep
      · simp at hstep
      · next call hget =>
          split at hstep
          · next waitS hphase =>
              exact Option.some.inj hstep ▸ .release id call waitS clock hget hphase
          · exact Option.some.inj hstep ▸ .releaseAgain id clock
          · simp at hstep
  | timerFires id =>
      simp only [queueStep] at hstep
      split at hstep
      · simp at hstep
      · next call hget =>
          split at hstep
          · next hcall =>
              exact Option.some.inj hstep ▸
                .interrupt _ id call _ (Or.inl rfl) hget hcall.1 rfl rfl rfl
          · simp at hstep
  | cancelTask id =>
      simp only [queueStep] at hstep
      split at hstep
      · simp at hstep
      · next call hget =>
          split at hstep
          · next hphase =>
              exact Option.some.inj hstep ▸
                .interrupt _ id call _ (Or.inr rfl) hget hphase rfl rfl rfl
          · simp at hstep
  | resume id outcome clock =>
      simp only [queueStep] at hstep
      split at hstep
      · simp at hstep
      · next call hget =>
          split at hstep
          · next hcall =>
              exact Option.some.inj hstep ▸ .resume id call outcome clock hget hcall.1 hcall.2
          · simp at hstep

section Steps

variable {cfg : QueueConfig} {queues : WorkerQueues Worker} {id : Nat}
  {call : AcquireCall Worker} {clock : Nat → ℚ}

theorem not_waiting (hinv : QueueInv queues) (hget : queues.calls[id]? = some call)
    (hcall : call.phase ≠ .suspended ∨ call.fut = some .granted) (worker : Worker) :
    ∀ item ∈ queues.waiting worker, item.id ≠ id := by
  intro item hmem hid
  obtain ⟨other, hother, -, hotherPhase, hotherFut⟩ := hinv.item worker item hmem
  rw [hid, hget] at hother
  obtain rfl : call = other := Option.some.inj hother
  exact hcall.elim (fun h => h hotherPhase) hotherFut

theorem not_waiting_remove (hinv : QueueInv queues) (hget : queues.calls[id]? = some call)
    (worker : Worker) : ∀ item ∈ (queues.remove call.worker id).waiting worker, item.id ≠ id := by
  intro item hmem hid
  by_cases hworker : worker = call.worker
  · subst hworker
    rw [WorkerQueues.remove_waiting_self] at hmem
    exact ne_of_mem_removeItem (hinv.nodup _) hmem hid
  · rw [WorkerQueues.remove_waiting_of_ne hworker] at hmem
    obtain ⟨other, hother, hotherWorker, -⟩ := hinv.item worker item hmem
    rw [hid, hget] at hother
    obtain rfl : call = other := Option.some.inj hother
    exact hworker hotherWorker.symm

theorem queueInv_acquire (hinv : QueueInv queues) (worker : Worker) (workloadClass : WorkloadClass)
    (estTokens : Int) (deadlineAt : Option ℚ) (now : ℚ) :
    QueueInv (queues.acquire cfg worker workloadClass estTokens deadlineAt now) := by
  have hitem : ∀ extra : AcquireCall Worker, ∀ other, ∀ item ∈ queues.waiting other, ∃ call,
      (queues.calls ++ [extra])[item.id]? = some call ∧ call.worker = other ∧
        call.phase = .suspended ∧ call.fut ≠ some .granted := by
    intro extra other item hmem
    obtain ⟨call, hget, hrest⟩ := hinv.item other item hmem
    exact ⟨call, by rw [List.getElem?_append_left (List.getElem?_eq_some_iff.mp hget).1, hget],
      hrest⟩
  have hgranted : ∀ extra : AcquireCall Worker, ∀ g ∈ queues.grants,
      ((queues.calls ++ [extra])[g]?).bind (·.fut) = some .granted := by
    intro extra g hmem
    have hold := hinv.granted g hmem
    unfold WorkerQueues.futOf at hold
    cases hcall : queues.calls[g]? with
    | none => simp [hcall] at hold
    | some call =>
        rw [List.getElem?_append_left (List.getElem?_eq_some_iff.mp hcall).1]
        exact hold
  have howned : ∀ (extra : AcquireCall Worker) (other : Worker),
      (((queues.calls ++ [extra]).countP fun c => c.worker = other && c.owns : Nat) : Int)
        = queues.inflight other + (if extra.worker = other ∧ extra.owns = true then 1 else 0) := by
    intro extra other
    rw [hinv.slots other, WorkerQueues.owned, List.countP_append, List.countP_singleton]
    simp
  unfold WorkerQueues.acquire
  split
  · refine ⟨hitem _, hinv.nodup, ?_, hgranted _, hinv.once⟩
    intro other
    rw [WorkerQueues.owned, howned]
    by_cases hother : other = worker
    · subst hother
      simp [AcquireCall.owns, CallPhase.isHolding]
    · simp [hother, Ne.symm hother]
  split
  · refine ⟨hitem _, hinv.nodup, ?_, hgranted _, hinv.once⟩
    intro other
    rw [WorkerQueues.owned, howned]
    simp [AcquireCall.owns, AcquireCall.undelivered, AcquireCall.lost, CallPhase.isHolding]
  · refine ⟨?_, ?_, ?_, hgranted _, hinv.once⟩
    · intro other item hmem
      by_cases hother : other = worker
      · subst hother
        simp only [Function.update_self, List.mem_append, List.mem_singleton] at hmem
        rcases hmem with hmem | rfl
        · exact hitem _ other item hmem
        · exact ⟨_, List.getElem?_concat_length, rfl, rfl, by simp⟩
      · exact hitem _ other item (by simpa [hother] using hmem)
    · intro other
      by_cases hother : other = worker
      · subst hother
        simp only [Function.update_self, List.map_append, List.map_cons, List.map_nil]
        refine List.nodup_append.mpr ⟨hinv.nodup other, by simp, ?_⟩
        intro oldId hmem newId hnew heq
        obtain ⟨item, hitemMem, rfl⟩ := List.mem_map.mp hmem
        obtain ⟨call, hget, -⟩ := hinv.item other item hitemMem
        have hlt := (List.getElem?_eq_some_iff.mp hget).1
        rw [heq, List.mem_singleton.mp hnew] at hlt
        exact lt_irrefl _ hlt
      · simpa [hother] using hinv.nodup other
    · intro other
      rw [WorkerQueues.owned, howned]
      simp [AcquireCall.owns, AcquireCall.undelivered, AcquireCall.lost, CallPhase.isHolding]

theorem queueInv_interrupt (hinv : QueueInv queues) (hget : queues.calls[id]? = some call)
    (hphase : call.phase = .suspended) {f : AcquireCall Worker → AcquireCall Worker}
    (hworker : (f call).worker = call.worker) (hphase' : (f call).phase = call.phase)
    (hfut : (f call).fut = call.interrupt.fut) :
    QueueInv { queues with calls := queues.calls.modify id f } := by
  have hsame : (f call).fut = some .granted ↔ call.fut = some .granted := by
    rw [hfut]
    unfold AcquireCall.interrupt
    split <;> simp_all
  have howns : (f call).owns = call.owns := by
    simp [AcquireCall.owns, AcquireCall.undelivered, AcquireCall.lost, CallPhase.isHolding, hphase',
      hphase, hsame]
  refine ⟨?_, hinv.nodup, ?_, ?_, hinv.once⟩
  · refine item_modify hinv.item hget hworker (fun _ item hmem => ⟨item, hmem, rfl⟩) ?_
    intro worker item hmem hid
    obtain ⟨other, hother, -, -, hotherFut⟩ := hinv.item worker item hmem
    rw [hid, hget] at hother
    obtain rfl : call = other := Option.some.inj hother
    exact ⟨hphase'.trans hphase, fun hgranted => hotherFut (hsame.mp hgranted)⟩
  · refine slots_modify hinv.slots hget hworker ?_
    intro worker
    rw [howns, sub_add_cancel]
  · exact granted_modify hinv.granted hget hsame.mpr

theorem queueInv_setPhase (hinv : QueueInv queues) (hget : queues.calls[id]? = some call)
    {phase : CallPhase} (hsame : AcquireCall.owns { call with phase := phase } = call.owns)
    (hfree : ∀ worker, ∀ item ∈ queues.waiting worker, item.id ≠ id) :
    QueueInv (queues.setPhase id phase) := by
  refine ⟨?_, hinv.nodup, ?_, ?_, hinv.once⟩
  · refine item_modify hinv.item hget rfl (fun _ item hmem => ⟨item, hmem, rfl⟩) ?_
    intro worker item hmem hid
    exact absurd hid (hfree worker item hmem)
  · refine slots_modify hinv.slots hget rfl ?_
    intro worker
    rw [hsame, sub_add_cancel]
    rfl
  · exact granted_modify hinv.granted hget (fun h => h)

structure AcquireCall.Settles (call : AcquireCall Worker) (phase : CallPhase) : Prop where
  owns : call.owns = true
  notLost : call.lost = false
  none : AcquireCall.owns { call with phase := phase } = false
  noItem : call.phase ≠ .suspended ∨ call.fut = some .granted

omit [DecidableEq Worker] in
theorem settles_released {waitS : ℚ} (hphase : call.phase = .holding waitS) :
    call.Settles .released where
  owns := by simp [AcquireCall.owns, CallPhase.isHolding, hphase]
  notLost := by simp [AcquireCall.lost, hphase]
  none := by
    simp [AcquireCall.owns, AcquireCall.undelivered, AcquireCall.lost, CallPhase.isHolding]
  noItem := Or.inl (by simp [hphase])

omit [DecidableEq Worker] in
theorem settles_cancelled (hphase : call.phase = .suspended) (hfut : call.fut = some .granted) :
    call.Settles .cancelled where
  owns := by simp [AcquireCall.owns, AcquireCall.undelivered, hphase, hfut]
  notLost := by simp [AcquireCall.lost, hphase]
  none := by
    simp [AcquireCall.owns, AcquireCall.undelivered, AcquireCall.lost, CallPhase.isHolding]
  noItem := Or.inr hfut

theorem queueInv_settle (hinv : QueueInv queues) (hget : queues.calls[id]? = some call)
    {phase : CallPhase} (hsettles : call.Settles phase) :
    QueueInv ((queues.setPhase id phase).decrement call.worker) := by
  refine ⟨?_, hinv.nodup, ?_, ?_, hinv.once⟩
  · refine item_modify hinv.item hget rfl (fun _ item hmem => ⟨item, hmem, rfl⟩) ?_
    intro worker item hmem hid
    exact absurd hid (not_waiting hinv hget hsettles.noItem worker item hmem)
  · refine slots_modify hinv.slots hget rfl ?_
    intro worker
    rw [hsettles.none]
    by_cases hworker : worker = call.worker
    · subst hworker
      simp [WorkerQueues.decrement, WorkerQueues.setPhase, hsettles.owns]
    · simp [WorkerQueues.decrement, WorkerQueues.setPhase, hworker, Ne.symm hworker]
  · exact granted_modify hinv.granted hget (fun h => h)

theorem queueInv_resume (hinv : QueueInv queues) (hget : queues.calls[id]? = some call)
    (hphase : call.phase = .suspended) {outcome : WaitOutcome} (henabled : outcome.Enabled call) :
    QueueInv (queues.resume cfg id call outcome clock) := by
  have hundelivered : call.owns = call.undelivered := by
    simp [AcquireCall.owns, AcquireCall.undelivered, AcquireCall.lost, CallPhase.isHolding, hphase]
  -- Removing the item and ending the call touch different fields, so they commute.
  have hremoved := queueInv_remove hinv call.worker id
  cases outcome with
  | result =>
      have hfut : call.fut = some .granted := henabled
      refine queueInv_setPhase hinv hget ?_ (not_waiting hinv hget (Or.inr hfut))
      rw [hundelivered]
      simp [AcquireCall.owns, AcquireCall.undelivered, CallPhase.isHolding, hphase, hfut]
  | timeoutError =>
      -- A granted future stays granted and its slot stays taken: the call now owns it as `lost`.
      refine queueInv_setPhase hremoved hget ?_ (not_waiting_remove hinv hget)
      rw [hundelivered]
      simp [AcquireCall.owns, AcquireCall.undelivered, AcquireCall.lost, CallPhase.isHolding,
        hphase]
  | cancelledError =>
      by_cases hfut : call.fut = some .granted
      · rw [WorkerQueues.resume, if_pos hfut]
        exact queueInv_remove
          (queueInv_pumpLoop (queueInv_settle hinv hget (settles_cancelled hphase hfut))) _ _
      · rw [WorkerQueues.resume, if_neg hfut]
        refine queueInv_setPhase hremoved hget ?_ (not_waiting_remove hinv hget)
        rw [hundelivered]
        simp [AcquireCall.owns, AcquireCall.undelivered, AcquireCall.lost, CallPhase.isHolding,
          hfut]

theorem queueInv_step (hinv : QueueInv queues) {event : QueueEvent Worker}
    {next : WorkerQueues Worker} (hstep : queueStep cfg queues event = some next) :
    QueueInv next := by
  cases queueStep_cases hstep with
  | acquire worker workloadClass estTokens deadlineAt now => exact queueInv_acquire hinv _ _ _ _ _
  | interrupt _ id call f _ hget hphase hworker hphase' hfut =>
      exact queueInv_interrupt hinv hget hphase hworker hphase' hfut
  | resume id call outcome clock hget hphase henabled =>
      exact queueInv_resume hinv hget hphase henabled
  | release id call waitS clock hget hphase =>
      exact queueInv_pumpLoop (queueInv_settle hinv hget (settles_released hphase))
  | releaseAgain => exact hinv

end Steps

theorem queueInv_run {cfg : QueueConfig} {events : List (QueueEvent Worker)}
    {queues : WorkerQueues Worker}
    (hrun : (queueMachine cfg).run .empty events = some queues) : QueueInv queues :=
  Machine.run_invariant (fun _ _ _ hinv hstep => queueInv_step hinv hstep) queueInv_empty hrun

/-! ### When a slot is lost -/

/-- The event resumes a waiter with a timeout although its future already holds a ticket. -/
def WorkerQueues.LateTimeout (queues : WorkerQueues Worker) : QueueEvent Worker → Prop
  | .resume id .timeoutError _ => queues.futOf id = some .granted
  | _ => False

instance (queues : WorkerQueues Worker) (event : QueueEvent Worker) :
    Decidable (queues.LateTimeout event) := by
  unfold WorkerQueues.LateTimeout
  split <;> infer_instance

def WorkerQueues.lostCalls (queues : WorkerQueues Worker) : Nat :=
  queues.calls.countP AcquireCall.lost

section Lost

variable {cfg : QueueConfig} {queues next : WorkerQueues Worker} {id : Nat}
  {call : AcquireCall Worker} {worker : Worker} {clock : Nat → ℚ}

omit [DecidableEq Worker] in
theorem lostCalls_modify {f : AcquireCall Worker → AcquireCall Worker}
    (hget : queues.calls[id]? = some call) (hsame : (f call).lost = call.lost) :
    (queues.calls.modify id f).countP AcquireCall.lost = queues.lostCalls := by
  have hcount := countP_modify_of_getElem? (p := AcquireCall.lost) (f := f) hget
  rw [hsame, sub_add_cancel] at hcount
  exact_mod_cast hcount

theorem lostCalls_pumpLoop (hinv : QueueInv queues) {fuel : Nat} :
    (WorkerQueues.pumpLoop cfg worker clock fuel queues).lostCalls = queues.lostCalls := by
  induction fuel generalizing queues with
  | zero => rfl
  | succ fuel ih =>
      unfold WorkerQueues.pumpLoop
      split
      · rw [ih (queueInv_pumpOnce hinv _)]
        unfold WorkerQueues.pumpOnce
        split
        · rfl
        · next best hbest =>
            split
            · obtain ⟨call, hget, -, hphase, -⟩ := hinv.item worker best (List.argmin_mem hbest)
              refine lostCalls_modify hget ?_
              simp [AcquireCall.lost, hphase]
            · rfl
      · rfl

theorem lostCalls_settle (hinv : QueueInv queues) (hget : queues.calls[id]? = some call)
    {phase : CallPhase} (hsettles : call.Settles phase) :
    ((queues.setPhase id phase).free cfg call.worker clock).lostCalls = queues.lostCalls := by
  rw [WorkerQueues.free, WorkerQueues.pump, lostCalls_pumpLoop (queueInv_settle hinv hget hsettles)]
  refine lostCalls_modify hget ?_
  have hnone := hsettles.none
  simp only [AcquireCall.owns, Bool.or_eq_false_iff] at hnone
  exact hnone.2.trans hsettles.notLost.symm

theorem lostCalls_step (hinv : QueueInv queues) {event : QueueEvent Worker}
    (hstep : queueStep cfg queues event = some next) :
    next.lostCalls = queues.lostCalls + if queues.LateTimeout event then 1 else 0 := by
  cases queueStep_cases hstep with
  | acquire worker workloadClass estTokens deadlineAt now =>
      rw [if_neg (by simp [WorkerQueues.LateTimeout])]
      unfold WorkerQueues.acquire WorkerQueues.lostCalls
      split
      · simp [AcquireCall.lost]
      split <;> simp [AcquireCall.lost]
  | interrupt _ id call f hevent hget hphase hworker hphase' hfut =>
      rw [if_neg (by rcases hevent with rfl | rfl <;> simp [WorkerQueues.LateTimeout])]
      refine lostCalls_modify hget ?_
      simp [AcquireCall.lost, hphase', hphase]
  | resume id call outcome clock hget hphase henabled =>
      have hlost : call.lost = false := by simp [AcquireCall.lost, hphase]
      cases outcome with
      | result =>
          rw [if_neg (by simp [WorkerQueues.LateTimeout])]
          refine lostCalls_modify hget ?_
          rw [hlost]
          simp [AcquireCall.lost]
      | timeoutError =>
          have hcount := countP_modify_of_getElem? (p := AcquireCall.lost)
            (f := fun c => { c with phase := .rejected .timeoutQueue }) hget
          have hlate : queues.LateTimeout (.resume id .timeoutError clock)
              ↔ AcquireCall.lost { call with phase := .rejected .timeoutQueue } = true := by
            simp [WorkerQueues.LateTimeout, WorkerQueues.futOf, hget, AcquireCall.lost]
          rw [hlost, if_neg Bool.false_ne_true, sub_zero] at hcount
          simp only [WorkerQueues.resume, WorkerQueues.remove, WorkerQueues.setPhase,
            WorkerQueues.lostCalls, hlate]
          split
          · next hnew =>
              rw [if_pos hnew] at hcount
              exact_mod_cast hcount
          · next hnew =>
              rw [if_neg hnew] at hcount
              exact_mod_cast hcount
      | cancelledError =>
          rw [if_neg (by simp [WorkerQueues.LateTimeout])]
          by_cases hfut : call.fut = some .granted
          · simp only [WorkerQueues.resume, if_pos hfut]
            exact lostCalls_settle hinv hget (settles_cancelled hphase hfut)
          · simp only [WorkerQueues.resume, if_neg hfut]
            refine lostCalls_modify hget ?_
            rw [hlost]
            simp [AcquireCall.lost]
  | release id call waitS clock hget hphase =>
      rw [if_neg (by simp [WorkerQueues.LateTimeout])]
      exact lostCalls_settle hinv hget (settles_released hphase)
  | releaseAgain =>
      rw [if_neg (by simp [WorkerQueues.LateTimeout])]
      rfl

theorem lostCalls_run (hinv : QueueInv queues) {events : List (QueueEvent Worker)}
    (hrun : (queueMachine cfg).run queues events = some next) :
    queues.lostCalls ≤ next.lostCalls ∧
      (next.lostCalls = queues.lostCalls ↔
        (queueMachine cfg).Meets (fun q e => ¬ q.LateTimeout e) queues events) := by
  induction events generalizing queues with
  | nil =>
      obtain rfl : queues = next := Option.some.inj hrun
      simp
  | cons event events ih =>
      obtain ⟨mid, hstep, hrest⟩ := Machine.run_cons_eq_some_iff.mp hrun
      obtain ⟨hle, hiff⟩ := ih (queueInv_step hinv hstep) hrest
      have hlost := lostCalls_step hinv hstep
      rw [Machine.meets_cons_of_step hstep, ← hiff]
      by_cases hlate : queues.LateTimeout event
      · rw [if_pos hlate] at hlost
        refine ⟨by omega, ?_⟩
        simp only [hlate, not_true_eq_false, false_and, iff_false]
        omega
      · rw [if_neg hlate] at hlost
        refine ⟨by omega, ?_⟩
        simp only [hlate, not_false_eq_true, true_and]
        omega

end Lost

/-- **No slot leaks, except by a late timeout.** On every run, each worker's `inflight` count is the
number of its tickets returned and not yet released plus the number of its resolved futures whose
waiter has not resumed, if and only if the run resumes no waiter with a timeout after its future was
resolved. -/
theorem slots_balanced_iff_no_late_timeout (cfg : QueueConfig) (events : List (QueueEvent Worker))
    (queues : WorkerQueues Worker) (hrun : (queueMachine cfg).run .empty events = some queues) :
    (∀ worker, queues.inflight worker = queues.held worker + queues.undelivered worker) ↔
      (queueMachine cfg).Meets (fun q e => ¬ q.LateTimeout e) .empty events := by
  have hinv := queueInv_run hrun
  obtain ⟨-, hiff⟩ := lostCalls_run queueInv_empty hrun
  rw [← hiff]
  have hzero : queues.lostCalls = 0 ↔ ∀ worker, queues.lost worker = 0 := by
    simp only [WorkerQueues.lostCalls, WorkerQueues.lost, List.countP_eq_zero, Bool.and_eq_true,
      decide_eq_true_eq, not_and]
    exact ⟨fun h worker call hmem _ => h call hmem, fun h call hmem => h call.worker call hmem rfl⟩
  have hempty : (WorkerQueues.empty : WorkerQueues Worker).lostCalls = 0 := rfl
  rw [hempty, hzero]
  refine forall_congr' fun worker => ?_
  rw [hinv.slots, WorkerQueues.owned_eq]
  omega

/-! A worker with one slot: the second caller waits, the first one's release grants it the slot, and
its timer fires before it resumes. -/

def oneSlot : QueueConfig := { maxDepth := 8, maxInflight := 1, timeoutS := 1 }

def handOver : List (QueueEvent Unit) :=
  [.acquire () .interactive 10 none 0, .acquire () .interactive 10 none 0, .release 0 fun _ => 1]

theorem slots_balanced_handOver :
    ∃ queues, (queueMachine oneSlot).run .empty (handOver ++ [.resume 1 .result fun _ => 1])
        = some queues ∧
      ((∀ worker, queues.inflight worker = queues.held worker + queues.undelivered worker) ↔
        (queueMachine oneSlot).Meets (fun q e => ¬ q.LateTimeout e) .empty
          (handOver ++ [.resume 1 .result fun _ => 1])) :=
  ⟨_, rfl, slots_balanced_iff_no_late_timeout _ _ _ rfl⟩

/-- The rejected caller's slot is counted and nobody owns it: the worker is at its limit for
good. -/
theorem late_timeout_leaks_slot :
    ∃ queues, (queueMachine oneSlot).run .empty
        (handOver ++ [.timerFires 1, .resume 1 .timeoutError fun _ => 1]) = some queues ∧
      queues.calls.map (·.phase) = [.released, .rejected .timeoutQueue] ∧
      queues.inflight () = 1 ∧ queues.held () = 0 ∧ queues.undelivered () = 0 ∧
      ¬ (∀ worker, queues.inflight worker = queues.held worker + queues.undelivered worker) := by
  refine ⟨_, rfl, by decide, by decide, by decide, by decide, ?_⟩
  intro hbalanced
  exact absurd (hbalanced ()) (by decide)

end AiAnalytics.Gateway
