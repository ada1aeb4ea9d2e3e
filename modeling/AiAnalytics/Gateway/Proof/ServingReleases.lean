import AiAnalytics.Gateway.Serving

/-!
# What a request gives back

The ledger is a function of the handler's variables at every moment but during the wait in the queue
(`Balanced`), so what is left of a request in the counters can be read off the variables it ends
with. Each stage of the handler is described by what the variables say before and after it; an
exception ends the argument, since what is held then stays held.
-/

namespace AiAnalytics.Gateway.Serve

open Lib Lib.Prog

section Condition

def abandons : (site : Site) → SiteReply site → Bool
  | .unguarded _, .error _ => true
  | .upstream _, .interrupted _ => true
  | .exitOverflow, .error .cancelled => true
  | .runBackground, false => true
  | _, _ => false

def losesSlot : (site : Site) → SiteReply site → Bool
  | .queueAcquire, .rejected _ true => true
  | _, _ => false

def Leaks (x : Exchange ServeReply) : Prop :=
  (x.call.holding = true ∧ abandons x.call.site x.reply = true) ∨
    losesSlot x.call.site x.reply = true

instance (x : Exchange ServeReply) : Decidable (Leaks x) :=
  inferInstanceAs (Decidable (_ ∨ _))

def Clean (history : List (Exchange ServeReply)) : Prop := ∀ x ∈ history, ¬ Leaks x

theorem clean_append_singleton {history : List (Exchange ServeReply)} {x : Exchange ServeReply} :
    Clean (history ++ [x]) ↔ Clean history ∧ ¬ Leaks x := by
  simp [Clean, or_imp, forall_and]

end Condition

section Accounts

def LeaseVar.owed : LeaseVar → Nat
  | .held => 1
  | _ => 0

def LeaseVar.returned : LeaseVar → Nat
  | .released _ => 1
  | _ => 0

def TicketVar.owed : TicketVar → Nat
  | .held => 1
  | _ => 0

def TicketVar.returned : TicketVar → Nat
  | .released => 1
  | _ => 0

def ServeState.running (state : ServeState) : List Nat :=
  if state.freed then [] else state.dispatchToken.toList

def ServeState.account (state : ServeState) (estTokens : Int) : Ledger where
  active := state.lease.owed
  pending := 0
  inflight := state.running.length
  inflightTokens := state.running.length * estTokens
  recentDispatches := state.running
  queueInflight := state.lostSlot.toNat + state.ticket.owed
  leases := state.lease.owed + state.lease.returned
  leaseReleases := state.lease.returned
  tickets := state.ticket.owed + state.ticket.returned
  ticketReleases := state.ticket.returned
  dispatches := state.dispatchToken.toList.length
  dispatchReleases := state.dispatchToken.toList.length - state.running.length

variable {estTokens : Int} {state : ServeState}

def Balanced (estTokens : Int) (state : ServeState) : Prop :=
  state.ledger = state.account estTokens

/-- In a balanced state the counters are clear of the request exactly when the variables hold
nothing and no slot was lost. -/
theorem Balanced.settled_iff (hstate : Balanced estTokens state) :
    state.ledger.Settled ↔ ¬ state.Holds ∧ state.lostSlot = false := by
  rw [Balanced] at hstate
  rw [hstate]
  obtain ⟨ledger, lease, ticket, lostSlot, token, freed, finished, overflowDone⟩ := state
  cases lease <;> cases ticket <;> cases lostSlot <;> cases token <;> cases freed <;>
    simp [Ledger.Settled, ServeState.account, ServeState.Holds, ServeState.running, ReturnedOnce,
      LeaseVar.owed, LeaseVar.returned, TicketVar.owed, TicketVar.returned]

end Accounts

section Phases

variable (estTokens : Int) {state : ServeState}

structure Waiting (state : ServeState) : Prop where
  ticket : state.ticket = .none
  token : state.dispatchToken = none
  freed : state.freed = false
  finished : state.finished = false

structure Queueing (state : ServeState) : Prop where
  waiting : Waiting state
  lostSlot : state.lostSlot = false

structure Arriving (state : ServeState) : Prop where
  waiting : Waiting state
  lease : state.lease = .none
  lostSlot : state.lostSlot = false

structure Slotted (state : ServeState) : Prop where
  ticket : state.ticket = .held
  token : state.dispatchToken = none
  freed : state.freed = false
  finished : state.finished = false

structure Working (state : ServeState) : Prop where
  ticket : state.ticket = .held
  token : state.dispatchToken.isSome = true
  freed : state.freed = false
  finished : state.finished = false

structure Free (state : ServeState) : Prop where
  ticket : state.ticket ≠ .held
  running : state.running = []
  finished : state.finished = false

def Done (state : ServeState) : Prop := ¬ state.Holds

structure Closed (state : ServeState) : Prop where
  done : Done state
  freed : state.freed = true
  finished : state.finished = true

structure Attempting (state : ServeState) : Prop where
  free : Free state
  running : state.overflowDone = false

structure Overflown (state : ServeState) : Prop where
  done : Done state
  ended : state.overflowDone = true

theorem Waiting.free (hstate : Waiting state) : Free state := by
  refine ⟨?_, ?_, hstate.finished⟩
  · simp [hstate.ticket]
  · simp [ServeState.running, hstate.token]

def Moves (P : ServeState → Prop) (f : ServeState → ServeState) (Q : ServeState → Prop) : Prop :=
  ∀ state, Balanced estTokens state → P state →
    Balanced estTokens (f state) ∧ Q (f state) ∧ (f state).lostSlot = state.lostSlot

variable {estTokens} {P P' Q Q' : ServeState → Prop} {f : ServeState → ServeState}

theorem Moves.mono_pre (hmoves : Moves estTokens P f Q) (himp : ∀ state, P' state → P state) :
    Moves estTokens P' f Q :=
  fun state hbooks hphase => hmoves state hbooks (himp state hphase)

theorem Moves.mono_post (hmoves : Moves estTokens P f Q) (himp : ∀ state, Q state → Q' state) :
    Moves estTokens P f Q' := by
  intro state hbooks hphase
  obtain ⟨hbooks, hphase, hlost⟩ := hmoves state hbooks hphase
  exact ⟨hbooks, himp _ hphase, hlost⟩

theorem moves_takeLease : Moves estTokens Arriving ServeState.takeLease Queueing := by
  intro state hbooks harriving
  rw [Balanced] at hbooks
  have hwaiting := harriving.waiting
  refine ⟨?_, ⟨⟨hwaiting.ticket, hwaiting.token, hwaiting.freed, hwaiting.finished⟩,
    harriving.lostSlot⟩, rfl⟩
  simp [Balanced, ServeState.takeLease, ServeState.account, ServeState.running, hbooks,
    harriving.lease, LeaseVar.owed, LeaseVar.returned]

theorem moves_noLease :
    Moves estTokens Arriving (fun state => { state with lease := .noLease }) Queueing := by
  intro state hbooks harriving
  rw [Balanced] at hbooks
  have hwaiting := harriving.waiting
  refine ⟨?_, ⟨⟨hwaiting.ticket, hwaiting.token, hwaiting.freed, hwaiting.finished⟩,
    harriving.lostSlot⟩, rfl⟩
  simp [Balanced, ServeState.account, ServeState.running, hbooks, harriving.lease, LeaseVar.owed,
    LeaseVar.returned]

theorem moves_takeTicket : Moves estTokens Waiting ServeState.takeTicket Slotted := by
  intro state hbooks hwaiting
  rw [Balanced] at hbooks
  refine ⟨?_, ⟨rfl, hwaiting.token, hwaiting.freed, hwaiting.finished⟩, rfl⟩
  simp [Balanced, ServeState.takeTicket, ServeState.account, ServeState.running, hbooks,
    hwaiting.ticket, TicketVar.owed, TicketVar.returned]

theorem balanced_loseSlot (hbooks : Balanced estTokens state) (hslot : state.lostSlot = false) :
    Balanced estTokens state.loseSlot := by
  rw [Balanced] at hbooks
  simp [Balanced, ServeState.loseSlot, ServeState.account, ServeState.running, hbooks, hslot,
    Int.add_comm]

theorem moves_noteDispatch {token : Nat} :
    Moves estTokens Slotted (fun state => state.noteDispatch estTokens token) Working := by
  intro state hbooks hslotted
  rw [Balanced] at hbooks
  refine ⟨?_, ⟨hslotted.ticket, rfl, hslotted.freed, hslotted.finished⟩, rfl⟩
  simp [Balanced, ServeState.noteDispatch, ServeState.account, ServeState.running, hbooks,
    hslotted.token, hslotted.freed]

theorem moves_freeWorker :
    Moves estTokens Working (fun state => state.freeWorker estTokens)
      (fun state => Free state ∧ state.freed = true) := by
  intro state hbooks hworking
  rw [Balanced] at hbooks
  obtain ⟨token, htoken⟩ := Option.isSome_iff_exists.mp hworking.token
  have hfree : state.freeWorker estTokens =
      { state with
        ticket := .released
        freed := true
        ledger := ServeState.account { state with ticket := .released, freed := true } estTokens
          } := by
    simp [ServeState.freeWorker, ServeState.noteFinish, ServeState.releaseTicket,
      ServeState.account,
      ServeState.running, hbooks, htoken, hworking.ticket, hworking.freed, TicketVar.owed,
      TicketVar.returned]
  beta_reduce
  rw [hfree]
  refine ⟨rfl, ⟨⟨?_, rfl, hworking.finished⟩, rfl⟩, rfl⟩
  simp

theorem Balanced.eta (hbooks : Balanced estTokens state) :
    { state with ledger := state.account estTokens } = state := by
  rw [Balanced] at hbooks
  rw [← hbooks]

theorem releaseLease_eq (refund : Bool) (hbooks : Balanced estTokens state) :
    ∃ lease, lease ≠ .held ∧
      state.releaseLease refund =
        { state with
          lease
          ledger := ServeState.account { state with lease } estTokens } := by
  by_cases hlease : state.lease = .held
  · rw [Balanced] at hbooks
    refine ⟨.released refund, ?_, ?_⟩
    · simp
    · simp [ServeState.releaseLease, ServeState.account, ServeState.running, hbooks, hlease,
        LeaseVar.owed, LeaseVar.returned]
  · refine ⟨state.lease, hlease, ?_⟩
    have hsame : state.releaseLease refund = state := by
      unfold ServeState.releaseLease
      split
      · contradiction
      · rfl
    rw [hsame]
    exact hbooks.eta.symm

theorem Free.done_of_lease {lease : LeaseVar} {ledger : Ledger} {finished overflowDone : Bool}
    (hfree : Free state) (hlease : lease ≠ .held) :
    Done { state with lease, ledger, finished, overflowDone } := by
  have hrunning := hfree.running
  rintro (hheld | hheld | ⟨htoken, hfreed⟩)
  · exact hlease hheld
  · exact hfree.ticket hheld
  · obtain ⟨token, htoken⟩ := Option.isSome_iff_exists.mp htoken
    simp_all [ServeState.running]

theorem moves_releaseLease {refund : Bool} :
    Moves estTokens Free (fun state => state.releaseLease refund) Done := by
  intro state hbooks hfree
  obtain ⟨lease, hlease, heq⟩ := releaseLease_eq refund hbooks
  beta_reduce
  rw [heq]
  exact ⟨rfl, hfree.done_of_lease hlease, rfl⟩

theorem moves_finish (status : Nat) :
    Moves estTokens Free (fun state => state.finish status)
      (fun state => Done state ∧ state.finished = true) := by
  intro state hbooks hfree
  have hmarked : Balanced estTokens { state with finished := true } := hbooks
  obtain ⟨lease, hlease, heq⟩ := releaseLease_eq (500 ≤ status) hmarked
  beta_reduce
  rw [ServeState.finish, hfree.finished, if_neg Bool.false_ne_true, heq]
  exact ⟨rfl, ⟨hfree.done_of_lease hlease, rfl⟩, rfl⟩

theorem freed_finish {status : Nat} : (state.finish status).freed = state.freed := by
  unfold ServeState.finish ServeState.releaseLease
  split
  · rfl
  · split <;> rfl

theorem moves_release {status : Nat} :
    Moves estTokens (fun state => Working state ∨ Closed state)
      (fun state => state.release estTokens status) Closed := by
  rintro state hbooks (hworking | hclosed)
  · obtain ⟨hbooksFree, ⟨hfree, hfreed⟩, hlostFree⟩ := moves_freeWorker state hbooks hworking
    obtain ⟨hbooksDone, ⟨hdone, hfinished⟩, hlost⟩ := moves_finish status _ hbooksFree hfree
    exact ⟨hbooksDone, ⟨hdone, freed_finish.trans hfreed, hfinished⟩, hlost.trans hlostFree⟩
  · have hsame : state.release estTokens status = state := by
      simp [ServeState.release, ServeState.freeWorker, ServeState.finish, hclosed.freed,
        hclosed.finished]
    beta_reduce
    rw [hsame]
    exact ⟨hbooks, hclosed, rfl⟩

theorem moves_overflowFinished :
    Moves estTokens (fun state => Attempting state ∨ Overflown state) ServeState.overflowFinished
      Overflown := by
  rintro state hbooks (⟨hfree, hopen⟩ | hover)
  · have hmarked : Balanced estTokens { state with overflowDone := true } := hbooks
    obtain ⟨lease, hlease, heq⟩ := releaseLease_eq false hmarked
    rw [ServeState.overflowFinished, hopen, if_neg Bool.false_ne_true, heq]
    exact ⟨rfl, ⟨hfree.done_of_lease hlease, rfl⟩, rfl⟩
  · rw [ServeState.overflowFinished, hover.ended, if_pos rfl]
    exact ⟨hbooks, hover, rfl⟩

end Phases

section Stages

variable (estTokens : Int) {P Q : ServeState → Prop} {α β : Type}
  {history : List (Exchange ServeReply)} {state : ServeState}

structure Sound (P : ServeState → Prop) (history : List (Exchange ServeReply))
    (state : ServeState) : Prop where
  balanced : Balanced estTokens state
  phase : P state
  lost : state.lostSlot = false ↔ Clean history

structure Exit (history : List (Exchange ServeReply)) (state : ServeState) : Prop where
  balanced : Balanced estTokens state
  settled : state.ledger.Settled ↔ Clean history

variable {estTokens}

theorem Sound.exit (hsound : Sound estTokens Done history state) :
    Exit estTokens history state := by
  refine ⟨hsound.balanced, ?_⟩
  rw [hsound.balanced.settled_iff, hsound.lost]
  exact and_iff_right hsound.phase

theorem Sound.imp (hsound : Sound estTokens P history state) (himp : ∀ state, P state → Q state) :
    Sound estTokens Q history state :=
  ⟨hsound.balanced, himp state hsound.phase, hsound.lost⟩

section Awaiting

variable {site : Site} {reply : SiteReply site}

def exchangeAt (state : ServeState) (site : Site) (reply : SiteReply site) : Exchange ServeReply :=
  ⟨⟨site, decide state.Holds⟩, reply⟩

theorem leaks_exchangeAt_iff (hslot : losesSlot site reply = false) :
    Leaks (exchangeAt state site reply) ↔ state.Holds ∧ abandons site reply = true := by
  simp [Leaks, exchangeAt, hslot]

theorem Sound.stay (hsound : Sound estTokens P history state) (hslot : losesSlot site reply = false)
    (hstay : abandons site reply = false) :
    Sound estTokens P (history ++ [exchangeAt state site reply]) state := by
  refine ⟨hsound.balanced, hsound.phase, ?_⟩
  rw [clean_append_singleton, leaks_exchangeAt_iff hslot, hsound.lost]
  simp [hstay]

theorem Exit.append (hexit : Exit estTokens history state) (hslot : losesSlot site reply = false) :
    Exit estTokens (history ++ [exchangeAt state site reply]) state := by
  refine ⟨hexit.balanced, ?_⟩
  rw [clean_append_singleton, leaks_exchangeAt_iff hslot, ← hexit.settled]
  refine ⟨fun hsettled => ⟨hsettled, ?_⟩, And.left⟩
  rintro ⟨hholds, -⟩
  exact (hexit.balanced.settled_iff.mp hsettled).1 hholds

theorem Sound.leave (hsound : Sound estTokens P history state)
    (hslot : losesSlot site reply = false) (hleave : abandons site reply = true) :
    Exit estTokens (history ++ [exchangeAt state site reply]) state := by
  refine ⟨hsound.balanced, ?_⟩
  rw [clean_append_singleton, leaks_exchangeAt_iff hslot, hsound.balanced.settled_iff, hsound.lost]
  simp [hleave, and_comm]

end Awaiting

section Rules

variable {post : α → List (Exchange ServeReply) → ServeState → Prop}
  {err : ServeError → List (Exchange ServeReply) → ServeState → Prop} {site : Site}

theorem ensures_await {pre : List (Exchange ServeReply) → ServeState → Prop}
    {f : SiteReply site → ServeM α}
    (hnext : ∀ reply,
      Ensures (fun history state => ∃ before, history = before ++ [exchangeAt state site reply] ∧
        pre before state) (f reply) post err) :
    Ensures pre (await site >>= f) post err := by
  have hawait : Ensures pre (await site)
      (fun reply history state => ∃ before, history = before ++ [exchangeAt state site reply] ∧
        pre before state) err := by
    have hget : Ensures pre (get : ServeM ServeState)
        (fun current history state => current = state ∧ pre history state) err :=
      ensures_get fun history state hpre => ⟨rfl, hpre⟩
    apply ensures_bind hget
    intro current
    apply ensures_ask
    rintro reply history state ⟨rfl, hpre⟩
    exact ⟨history, rfl, hpre⟩
  exact ensures_bind hawait hnext

theorem ensures_await_sound {f : SiteReply site → ServeM α}
    (hslot : ∀ reply, losesSlot site reply = false)
    (hstay : ∀ reply, abandons site reply = false →
      Ensures (Sound estTokens P) (f reply) post err)
    (hleave : ∀ reply, abandons site reply = true →
      Ensures (Exit estTokens) (f reply) post err) :
    Ensures (Sound estTokens P) (await site >>= f) post err := by
  apply ensures_await
  intro reply
  cases hreply : abandons site reply with
  | false =>
      apply (hstay reply hreply).mono_pre
      rintro history state ⟨before, rfl, hsound⟩
      exact hsound.stay (hslot reply) hreply
  | true =>
      apply (hleave reply hreply).mono_pre
      rintro history state ⟨before, rfl, hsound⟩
      exact hsound.leave (hslot reply) hreply

def Stage (estTokens : Int) (P : ServeState → Prop) (m : ServeM α) (Q : α → ServeState → Prop) :
    Prop :=
  Ensures (Sound estTokens P) m (fun a => Sound estTokens (Q a)) fun _ => Exit estTokens

variable {R : α → ServeState → Prop} {m : ServeM α}

theorem Stage.mono_pre (hm : Stage estTokens Q m R) (himp : ∀ state, P state → Q state) :
    Stage estTokens P m R :=
  Ensures.mono_pre hm fun _ _ hsound => hsound.imp himp

theorem stage_pure {a : α} (hpure : ∀ state, P state → R a state) :
    Stage estTokens P (pure a) R :=
  ensures_pure fun _ _ hsound => hsound.imp hpure

theorem stage_throw {error : ServeError} (hdone : ∀ state, P state → Done state) :
    Stage estTokens P (throw error : ServeM α) R :=
  ensures_throw fun _ _ hsound => (hsound.imp hdone).exit

theorem stage_modify {f : ServeState → ServeState} (hmoves : Moves estTokens P f Q) :
    Stage estTokens P (modify f) fun _ => Q := by
  apply ensures_modify
  intro history state hsound
  obtain ⟨hbooks, hphase, hlost⟩ := hmoves state hsound.balanced hsound.phase
  exact ⟨hbooks, hphase, hlost ▸ hsound.lost⟩

theorem stage_bind {S : β → ServeState → Prop} {f : α → ServeM β} (hm : Stage estTokens P m R)
    (hf : ∀ a, Stage estTokens (R a) (f a) S) : Stage estTokens P (m >>= f) S :=
  ensures_bind hm hf

theorem stage_await {f : SiteReply site → ServeM α} (hslot : ∀ reply, losesSlot site reply = false)
    (hstay : ∀ reply, abandons site reply = false)
    (hnext : ∀ reply, Stage estTokens P (f reply) R) :
    Stage estTokens P (await site >>= f) R := by
  apply ensures_await_sound hslot
  · exact fun reply _ => hnext reply
  · intro reply hleave
    rw [hstay reply] at hleave
    cases hleave

theorem stage_pass (step : Unguarded) : Stage estTokens P (pass step) fun _ => P := by
  apply ensures_await_sound
  · exact fun _ => rfl
  · intro reply hstay
    cases reply with
    | ok value => exact stage_pure fun _ hphase => hphase
    | error interruption => cases hstay
  · intro reply hleave
    cases reply with
    | ok value => cases hleave
    | error interruption => exact ensures_throw fun _ _ hexit => hexit

theorem stage_onlyIf {condition : Bool} {m : ServeM Unit} (hm : Stage estTokens P m fun _ => P) :
    Stage estTokens P (onlyIf condition m) fun _ => P := by
  apply ensures_ite
  · intro _
    exact hm
  · intro _
    exact stage_pure fun _ hphase => hphase

end Rules

end Stages

section Overflow

variable {cfg : ServeConfig} {estTokens : Int} {P : ServeState → Prop}

def Ready : Response → ServeState → Prop
  | .json _ => Done
  | .workerStream => Working
  | .overflowStream => Attempting

def Answered : Option Response → ServeState → Prop
  | some response => Ready response
  | none => Free

theorem stage_exitOverflow : Stage estTokens P exitOverflow fun _ => P := by
  apply ensures_await_sound
  · exact fun _ => rfl
  · rintro (⟨- | -⟩ | _) hstay
    · cases hstay
    · exact stage_pure fun _ hphase => hphase
    · exact stage_pure fun _ hphase => hphase
  · rintro (⟨- | -⟩ | _) hleave
    · exact ensures_throw fun _ _ hexit => hexit
    · cases hleave
    · cases hleave

theorem stage_abandonOverflow {streamed : Bool} :
    Stage estTokens Attempting (abandonOverflow streamed) Answered := by
  apply stage_bind (stage_onlyIf stage_exitOverflow)
  intro _
  apply stage_bind (stage_pass _)
  intro _
  exact stage_pure fun _ hphase => hphase.free

theorem stage_overflowStreamed {reply : UpstreamReply}
    (hreply : abandons (.upstream .openOverflow) reply = false) :
    Stage estTokens Attempting (overflowStreamed reply) Answered := by
  unfold overflowStreamed
  split
  · cases hreply
  · exact stage_pure fun _ hphase => hphase
  · exact stage_abandonOverflow

theorem stage_overflowFinished :
    Stage estTokens Attempting (modify ServeState.overflowFinished) fun _ => Overflown :=
  stage_modify (moves_overflowFinished.mono_pre fun _ hphase => .inl hphase)

theorem stage_overflowPosted {reply : UpstreamReply}
    (hreply : abandons (.upstream .postOverflow) reply = false) :
    Stage estTokens Attempting (overflowPosted reply) Answered := by
  unfold overflowPosted
  split
  · cases hreply
  · apply stage_bind (stage_pass _)
    intro _
    apply stage_bind stage_overflowFinished
    intro _
    exact stage_pure fun _ hphase => hphase.done
  · exact stage_abandonOverflow

theorem ensures_upstream {α : Type} {request : Upstream} {f : UpstreamReply → ServeM α}
    {R : α → ServeState → Prop}
    (hstay : ∀ reply, abandons (.upstream request) reply = false →
      Stage estTokens P (f reply) R)
    (hleave : ∀ interruption, f (.interrupted interruption) = throw (.interrupted interruption)) :
    Stage estTokens P (await (.upstream request) >>= f) R := by
  apply ensures_await_sound
  · exact fun _ => rfl
  · exact hstay
  · intro reply habandons
    cases reply with
    | interrupted interruption =>
        rw [hleave]
        exact ensures_throw fun _ _ hexit => hexit
    | status code json => cases habandons
    | connectError => cases habandons
    | requestError => cases habandons

theorem stage_overflow {streams : Bool} :
    Stage estTokens Attempting (overflow streams) Answered := by
  apply ensures_ite
  · intro _
    apply ensures_upstream
    · intro reply hreply
      exact stage_overflowStreamed hreply
    · exact fun _ => rfl
  · intro _
    apply ensures_upstream
    · intro reply hreply
      exact stage_overflowPosted hreply
    · exact fun _ => rfl

theorem stage_timeIsUp : Stage estTokens P (timeIsUp cfg) fun _ => P := by
  apply ensures_ite
  · intro _
    exact stage_pass _
  · intro _
    exact stage_pure fun _ hphase => hphase

theorem moves_attempt :
    Moves estTokens Free (fun state => { state with overflowDone := false }) Attempting :=
  fun _ hbooks hfree => ⟨hbooks, ⟨⟨hfree.ticket, hfree.running, hfree.finished⟩, rfl⟩, rfl⟩

theorem stage_tryOverflow {streams : Bool} {code : Nat} {reason : String} {neverOverflow : Bool} :
    Stage estTokens Free (tryOverflow cfg streams code reason neverOverflow) Answered := by
  apply ensures_ite
  · intro _
    apply stage_bind (stage_modify moves_attempt)
    intro _
    apply stage_bind stage_timeIsUp
    intro up
    apply ensures_ite
    · intro _
      exact stage_pure fun _ hphase => hphase.free
    · intro _
      exact stage_overflow
  · intro _
    exact stage_pure fun _ hphase => hphase

theorem stage_reject {status : Nat} : Stage estTokens Free (reject status) Ready := by
  apply stage_bind (stage_modify moves_releaseLease)
  intro _
  exact stage_pure fun _ hphase => hphase

theorem stage_overflowOrReject {streams : Bool} {code : Nat} {reason : String}
    {neverOverflow : Bool} :
    Stage estTokens Free (overflowOrReject cfg streams code reason neverOverflow) Ready := by
  apply stage_bind stage_tryOverflow
  intro response
  cases response with
  | some response => exact stage_pure fun _ hphase => hphase
  | none => exact stage_reject

end Overflow

section Dispatch

variable {cfg : ServeConfig} {streams : Bool}

theorem stage_unreachable {code : Nat} :
    Stage cfg.estTokens Free (unreachable cfg streams code) Ready := by
  apply stage_bind stage_tryOverflow
  intro response
  cases response with
  | some response => exact stage_pure fun _ hphase => hphase
  | none =>
      apply stage_bind (stage_modify (moves_finish _))
      intro _
      exact stage_throw fun _ hphase => hphase.1

theorem stage_freeWorker :
    Stage cfg.estTokens Working (modify fun state => state.freeWorker cfg.estTokens) fun _ =>
      Free :=
  stage_modify (moves_freeWorker.mono_post fun _ hphase => hphase.1)

theorem stage_openFailed {code : Nat} :
    Stage cfg.estTokens Working (openFailed cfg code) Ready := by
  apply stage_bind stage_freeWorker
  intro _
  apply stage_bind (stage_pass _)
  intro _
  exact stage_unreachable

theorem stage_upstreamError {status : Nat} {oom : Bool} :
    Stage cfg.estTokens Free (upstreamError cfg streams status oom) Answered := by
  apply ensures_ite
  · intro _
    exact stage_tryOverflow
  · intro _
    exact stage_pure fun _ hphase => hphase

theorem stage_streamRefused {status : Nat} :
    Stage cfg.estTokens Working (streamRefused cfg status) Ready := by
  apply stage_bind (stage_pass .readErrorBody)
  intro oom
  apply stage_bind stage_freeWorker
  intro _
  apply stage_bind (stage_pass _)
  intro _
  apply stage_bind (stage_pass _)
  intro _
  apply stage_bind stage_upstreamError
  intro response
  cases response with
  | some response => exact stage_pure fun _ hphase => hphase
  | none =>
      apply stage_bind (stage_modify (moves_finish _))
      intro _
      exact stage_pure fun _ hphase => hphase.1

theorem stage_openStream : Stage cfg.estTokens Working (openStream cfg) Ready := by
  apply ensures_upstream
  · intro reply hreply
    cases reply with
    | connectError => exact stage_openFailed
    | requestError => exact stage_openFailed
    | interrupted interruption => cases hreply
    | status code json =>
        apply ensures_ite
        · intro _
          exact stage_pure fun _ hphase => hphase
        · intro _
          exact stage_streamRefused
  · exact fun _ => rfl

def PostedReady : Response ⊕ Posted → ServeState → Prop
  | .inl response => Ready response
  | .inr _ => Working

theorem stage_postWorker : Stage cfg.estTokens Working (postWorker cfg) PostedReady := by
  apply ensures_upstream
  · intro reply hreply
    cases reply with
    | connectError =>
        apply stage_bind stage_freeWorker
        intro _
        apply stage_bind stage_unreachable
        intro response
        exact stage_pure fun _ hphase => hphase
    | requestError =>
        have hrelease : Stage cfg.estTokens Working
            (modify fun state => state.release cfg.estTokens 502) fun _ => Closed :=
          stage_modify (moves_release.mono_pre fun _ hworking => .inl hworking)
        apply stage_bind hrelease
        intro _
        exact stage_throw fun _ hclosed => hclosed.done
    | interrupted interruption => cases hreply
    | status status json => exact stage_pure fun _ hphase => hphase
  · exact fun _ => rfl

theorem stage_answerPosted {posted : Posted} :
    Stage cfg.estTokens Working (answerPosted cfg posted) Ready := by
  apply stage_bind stage_freeWorker
  intro _
  apply stage_bind (stage_pass .readText)
  intro oom
  apply stage_bind stage_upstreamError
  intro response
  cases response with
  | some response => exact stage_pure fun _ hphase => hphase
  | none =>
      apply stage_bind (stage_modify (moves_finish _))
      intro _
      apply ensures_ite
      · intro _
        exact stage_throw fun _ hphase => hphase.1
      · intro _
        exact stage_pure fun _ hphase => hphase.1

theorem keeps_exit_pass (estTokens : Int) (step : Unguarded) :
    Keeps (Exit estTokens) (fun _ => Exit estTokens) (pass step) := by
  apply ensures_await
  intro reply
  have hexit : ∀ history state,
      (∃ before, history = before ++ [exchangeAt state (.unguarded step) reply] ∧
        Exit estTokens before state) → Exit estTokens history state := by
    rintro history state ⟨before, rfl, hexit⟩
    exact hexit.append rfl
  cases reply with
  | ok value => exact ensures_pure hexit
  | error interruption => exact ensures_throw hexit

theorem stage_postPlain : Stage cfg.estTokens Working (postPlain cfg) Ready := by
  have hattempt : Ensures (Sound cfg.estTokens Working) (attempt (postWorker cfg))
      (fun outcome =>
        match outcome with
        | .ok posted => Sound cfg.estTokens (PostedReady posted)
        | .error _ => Exit cfg.estTokens)
      fun _ => Exit cfg.estTokens :=
    ensures_attempt stage_postWorker
  apply ensures_bind hattempt
  intro outcome
  cases outcome with
  | error error =>
      apply ensures_bind (keeps_exit_pass _ _)
      intro _
      exact ensures_throw fun _ _ hexit => hexit
  | ok posted =>
      apply stage_bind (stage_pass _)
      intro _
      cases posted with
      | inl response => exact stage_pure fun _ hphase => hphase
      | inr posted => exact stage_answerPosted

theorem stage_dispatch : Stage cfg.estTokens Slotted (dispatch cfg streams) Ready := by
  apply stage_bind (stage_pass _)
  intro _
  apply stage_await (fun _ => rfl) (fun _ => rfl)
  intro token
  apply stage_bind (stage_modify moves_noteDispatch)
  intro _
  apply ensures_ite
  · intro _
    exact stage_openStream
  · intro _
    exact stage_postPlain

end Dispatch

section Handler

variable {cfg : ServeConfig} {streams : Bool}

theorem addPending_cancel (state : ServeState) : (state.addPending 1).addPending (-1) = state := by
  simp only [ServeState.addPending, Int.add_neg_cancel_right]

theorem leaks_queueAcquire_iff {state : ServeState} {reply : SiteReply .queueAcquire} :
    Leaks (exchangeAt state .queueAcquire reply) ↔ losesSlot .queueAcquire reply = true := by
  simp [Leaks, exchangeAt, abandons]

theorem ensures_waitForSlot :
    Ensures (Sound cfg.estTokens Queueing) waitForSlot
      (fun reply history state => Balanced cfg.estTokens state ∧ Waiting state ∧
        state.lostSlot = false ∧ (losesSlot .queueAcquire reply = false ↔ Clean history))
      fun _ => Exit cfg.estTokens := by
  have hadd : Ensures (Sound cfg.estTokens Queueing)
      (modify fun state => state.addPending 1 : ServeM PUnit)
      (fun _ history state => Balanced cfg.estTokens (state.addPending (-1)) ∧ Waiting state ∧
        state.lostSlot = false ∧ Clean history)
      fun _ => Exit cfg.estTokens := by
    apply ensures_modify
    rintro history state ⟨hbooks, ⟨hwaiting, hslot⟩, hlost⟩
    rw [addPending_cancel]
    exact ⟨hbooks, ⟨hwaiting.ticket, hwaiting.token, hwaiting.freed, hwaiting.finished⟩, hslot,
      hlost.mp hslot⟩
  apply ensures_bind hadd
  intro _
  apply ensures_await
  intro reply
  have htake : Ensures
      (fun history state => ∃ before, history = before ++ [exchangeAt state .queueAcquire reply] ∧
        Balanced cfg.estTokens (state.addPending (-1)) ∧ Waiting state ∧ state.lostSlot = false ∧
        Clean before)
      (modify fun state => state.addPending (-1) : ServeM PUnit)
      (fun _ history state => Balanced cfg.estTokens state ∧ Waiting state ∧
        state.lostSlot = false ∧ (losesSlot .queueAcquire reply = false ↔ Clean history))
      fun _ => Exit cfg.estTokens := by
    apply ensures_modify
    rintro history state ⟨before, rfl, hbooks, hwaiting, hslot, hclean⟩
    refine ⟨hbooks, ⟨hwaiting.ticket, hwaiting.token, hwaiting.freed, hwaiting.finished⟩, hslot, ?_⟩
    rw [clean_append_singleton, leaks_queueAcquire_iff]
    simp [hclean]
  apply ensures_bind htake
  intro _
  exact ensures_pure fun _ _ hpost => hpost

theorem stage_enqueue :
    Stage cfg.estTokens Queueing (enqueue cfg streams) Ready := by
  apply stage_bind (stage_onlyIf (stage_pass _))
  intro _
  apply ensures_bind ensures_waitForSlot
  intro reply
  cases reply with
  | granted =>
      have hnext : Stage cfg.estTokens Waiting
          (do modify ServeState.takeTicket; dispatch cfg streams) Ready :=
        stage_bind (stage_modify moves_takeTicket) fun _ => stage_dispatch
      apply Ensures.mono_pre hnext
      rintro history state ⟨hbooks, hwaiting, hslot, hclean⟩
      exact ⟨hbooks, hwaiting, iff_of_true hslot (hclean.mp rfl)⟩
  | rejected reason lostSlot =>
      have hlose : Ensures
          (fun history state => Balanced cfg.estTokens state ∧ Waiting state ∧
            state.lostSlot = false ∧ (losesSlot .queueAcquire (.rejected reason lostSlot) = false ↔
              Clean history))
          (modify fun state => if lostSlot then state.loseSlot else state : ServeM PUnit)
          (fun _ => Sound cfg.estTokens Free) fun _ => Exit cfg.estTokens := by
        apply ensures_modify
        rintro history state ⟨hbooks, hwaiting, hslot, hclean⟩
        cases lostSlot with
        | false => exact ⟨hbooks, hwaiting.free, iff_of_true hslot (hclean.mp rfl)⟩
        | true =>
            refine ⟨balanced_loseSlot hbooks hslot, ?_, ?_⟩
            · exact ⟨hwaiting.free.ticket, hwaiting.free.running, hwaiting.finished⟩
            · exact ⟨fun hfalse => (nomatch hfalse), fun hc => (nomatch hclean.mpr hc)⟩
      apply ensures_bind hlose
      intro _
      exact stage_overflowOrReject
  | cancelled =>
      have hnext : Stage cfg.estTokens Free
          (do modify fun state => state.releaseLease true; throw (.interrupted .cancelled)) Ready :=
        stage_bind (stage_modify moves_releaseLease) fun _ => stage_throw fun _ hdone => hdone
      apply Ensures.mono_pre hnext
      rintro history state ⟨hbooks, hwaiting, hslot, hclean⟩
      exact ⟨hbooks, hwaiting.free, iff_of_true hslot (hclean.mp rfl)⟩

theorem stage_place :
    Stage cfg.estTokens Queueing (place cfg streams) Ready := by
  apply stage_bind (stage_pass .pick)
  intro decision
  cases decision with
  | some reason => exact stage_overflowOrReject.mono_pre fun _ hphase => hphase.waiting.free
  | none => exact stage_enqueue

theorem stage_admission {P : ServeState → Prop} {estTokens : Int} {controls : Controls} :
    Stage estTokens P (admission controls) fun _ => P := by
  apply ensures_ite
  · intro _
    exact stage_pure fun _ hphase => hphase
  · intro _
    exact stage_pass .shouldShed

theorem stage_admitRequest {estTokens : Int} {controls : Controls} :
    Stage estTokens Arriving (admitRequest controls) fun _ => Queueing := by
  apply ensures_ite
  · intro _
    apply stage_bind (stage_modify moves_noLease)
    intro _
    exact stage_admission
  · intro _
    apply stage_await (fun _ => rfl) (fun _ => rfl)
    intro shed
    cases shed with
    | some shed => exact stage_pure fun _ harriving => ⟨harriving.waiting, harriving.lostSlot⟩
    | none =>
        apply stage_bind (stage_modify moves_takeLease)
        intro _
        exact stage_admission

theorem stage_serveGuarded {controls : Controls} :
    Stage cfg.estTokens Arriving (serveGuarded cfg controls streams) Ready := by
  apply stage_bind stage_admitRequest
  intro shed
  cases shed with
  | some shed => exact stage_overflowOrReject.mono_pre fun _ hphase => hphase.waiting.free
  | none => exact stage_place

theorem stage_serveCompletion : Stage cfg.estTokens Arriving (serveCompletion cfg) Ready := by
  apply stage_bind (stage_pass .readBody)
  intro body
  apply stage_await (fun _ => rfl) (fun _ => rfl)
  intro controls
  cases controls with
  | none => exact stage_reject.mono_pre fun _ harriving => harriving.waiting.free
  | some controls =>
      apply stage_await (fun _ => rfl) (fun _ => rfl)
      intro refused
      cases refused with
      | some status => exact stage_reject.mono_pre fun _ harriving => harriving.waiting.free
      | none => exact stage_serveGuarded

end Handler

section Body

variable {estTokens : Int} {P Q : ServeState → Prop}

theorem stage_leaveStream {suppress : Bool} :
    Stage estTokens P (leaveStream suppress) fun _ => P := by
  apply stage_await (fun _ => rfl) (fun _ => rfl)
  intro left
  split
  · exact stage_pure fun _ hphase => hphase
  · apply stage_await (fun _ => rfl) (fun _ => rfl)
    intro closed
    cases closed with
    | error interruption => exact stage_pure fun _ hphase => hphase
    | ok value => exact stage_pure fun _ hphase => hphase

theorem ensures_streamBody {generator : ServeM Unit} {cleanup : ServeState → ServeState}
    (hgenerator : Stage estTokens P generator fun _ => P)
    (hcleanup : Moves estTokens P cleanup Done) :
    Ensures (Sound estTokens P) (streamBody generator cleanup) (fun _ => Exit estTokens)
      fun _ => Exit estTokens := by
  apply ensures_await_sound (fun _ => rfl)
  · intro started _
    apply ensures_bind (stage_onlyIf hgenerator)
    intro _
    apply ensures_await_sound (fun _ => rfl)
    · intro background hruns
      cases background with
      | false => cases hruns
      | true =>
          have hmodify : Stage estTokens P (modify cleanup) fun _ => Done := stage_modify hcleanup
          exact hmodify.weaken (fun _ _ hsound => hsound) (fun _ _ _ hsound => hsound.exit)
            fun _ _ _ hexit => hexit
    · intro background hruns
      cases background with
      | false => exact ensures_pure fun _ _ hexit => hexit
      | true => cases hruns
  · intro started hleave
    cases hleave

theorem stage_relayWorker {cfg : ServeConfig} :
    Stage cfg.estTokens (fun state => Working state ∨ Closed state) (relayWorker cfg)
      fun _ state => Working state ∨ Closed state := by
  apply stage_await (fun _ => rfl) (fun _ => rfl)
  intro fate
  apply stage_bind (stage_modify moves_release)
  intro _
  apply stage_bind stage_leaveStream
  intro _
  exact stage_pure fun _ hclosed => .inr hclosed

theorem stage_relayOverflow :
    Stage estTokens (fun state => Attempting state ∨ Overflown state) relayOverflow
      fun _ state => Attempting state ∨ Overflown state := by
  apply stage_await (fun _ => rfl) (fun _ => rfl)
  intro _
  apply stage_bind stage_leaveStream
  intro left
  apply stage_onlyIf
  exact stage_modify (moves_overflowFinished.mono_post fun _ hover => .inr hover)

theorem ensures_sendBody {cfg : ServeConfig} {response : Response} :
    Ensures (Sound cfg.estTokens (Ready response)) (sendBody cfg response)
      (fun _ => Exit cfg.estTokens) fun _ => Exit cfg.estTokens := by
  cases response with
  | json status => exact ensures_pure fun _ _ hsound => hsound.exit
  | workerStream =>
      have hcleanup : Moves cfg.estTokens (fun state => Working state ∨ Closed state)
          (fun state => state.release cfg.estTokens 499) Done :=
        moves_release.mono_post fun _ hclosed => hclosed.done
      apply (ensures_streamBody stage_relayWorker hcleanup).mono_pre
      exact fun _ _ hsound => hsound.imp fun _ hworking => .inl hworking
  | overflowStream =>
      have hcleanup : Moves cfg.estTokens (fun state => Attempting state ∨ Overflown state)
          ServeState.overflowFinished Done :=
        moves_overflowFinished.mono_post fun _ hover => hover.done
      apply (ensures_streamBody stage_relayOverflow hcleanup).mono_pre
      exact fun _ _ hsound => hsound.imp fun _ hopen => .inl hopen

end Body

section Requests

variable {cfg : ServeConfig} {log : List (Exchange ServeReply)} {result : Except ServeError Unit}
  {final : ServeState}

theorem ensures_serveRequest :
    Ensures (Sound cfg.estTokens Arriving) (serveRequest cfg) (fun _ => Exit cfg.estTokens)
      fun _ => Exit cfg.estTokens :=
  ensures_bind stage_serveCompletion fun _ => ensures_sendBody

/-- **A request gives back what it took.** At the end of a request nothing of it is left in the
counters, and what it took it has given back once, exactly if it was never left while it held
something and the queue lost no slot for it. -/
theorem serveRequest_settled_iff (hrun : (serveRequest cfg).Runs {} log result final) :
    final.ledger.Settled ↔ ∀ x ∈ log, ¬ Leaks x := by
  have harriving : Arriving {} := ⟨⟨rfl, rfl, rfl, rfl⟩, rfl, rfl⟩
  have hclean : Clean [] := by simp [Clean]
  have hbooks : Balanced cfg.estTokens {} := by
    simp [Balanced, ServeState.account, ServeState.running, LeaseVar.owed, LeaseVar.returned,
      TicketVar.owed, TicketVar.returned]
  have hstart : Sound cfg.estTokens Arriving [] {} :=
    ⟨hbooks, harriving, iff_of_true rfl hclean⟩
  have hend := ensures_serveRequest [] {} hstart log result final hrun
  cases result with
  | ok value => exact hend.settled
  | error error => exact hend.settled

def passingReply : (step : Unguarded) → UnguardedReply step
  | .readBody => some true
  | .shouldShed => none
  | .pick => none
  | .remainingTime | .readErrorBody | .readText => false
  | .deadlineAt | .hopPrepare | .closeOverflow | .exitWorker | .closeWorker => ()

def disconnecting : (site : Site) → SiteReply site
  | .unguarded step => .ok (passingReply step)
  | .upstream _ => .status 200 true
  | .experimentControls => some {}
  | .inspect | .quotaAcquire => none
  | .queueAcquire => .granted
  | .nextDispatchId => (1 : Nat)
  | .exitOverflow | .exitStream | .closeStream => .ok ()
  | .startStream | .runBackground => true
  | .relayStream => .interrupted

def breakingErrorBody : (site : Site) → SiteReply site
  | .upstream _ => .status 500 true
  | .unguarded .readErrorBody => .error .raised
  | site => disconnecting site

def plainGateway : ServeConfig :=
  { estTokens := 100, overflowActive := false, hasDeadline := false }

theorem disconnect_settled :
    ((serveRequest plainGateway).play (fun _ call => disconnecting call.site)
      {}).2.2.ledger.Settled :=
  (serveRequest_settled_iff (runs_play (serveRequest plainGateway) _ _)).mpr (by decide)

theorem broken_error_body_unsettled :
    let run := (serveRequest plainGateway).play (fun _ call => breakingErrorBody call.site) {}
    (serveRequest plainGateway).Runs {} run.1 run.2.1 run.2.2 ∧
      run.2.2.ledger.active = 1 ∧ run.2.2.ledger.inflight = 1 ∧
      run.2.2.ledger.inflightTokens = 100 ∧ run.2.2.ledger.recentDispatches = [1] ∧
      run.2.2.ledger.queueInflight = 1 ∧ ¬ run.2.2.ledger.Settled := by
  refine ⟨runs_play _ _ _, ?_⟩
  decide

end Requests

end AiAnalytics.Gateway.Serve
