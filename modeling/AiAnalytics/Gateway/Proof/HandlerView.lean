import AiAnalytics.Gateway.Proof.HandlerSteps
import AiAnalytics.Lib.Simulation

/-!
# The handler in the smaller model

The handler with its data and the model that only counts are two translations of one function. What
the handler's calls do to the shared objects can be read off its log: with its variables, that is
its state in the smaller model. Here are the parts of the handler up to the answer of a request that
has been dispatched.
-/

namespace AiAnalytics.Gateway.Handler

open Lib Lib.Prog
open Serve (ServeState ServeM ServeConfig SiteReply Site Unguarded UnguardedReply Interruption)

variable {Float : Type}

section View

def held (history : HandlerLog Float) : ServeState :=
  history.foldl (fun state x => replay state x.call x.reply) {}

@[simp] theorem held_concat (history : HandlerLog Float)
    (x : Exchange (@HandlerReply Float)) :
    held (history ++ [x]) = replay (held history) x.call x.reply := by
  simp [held]

def leaseOf : LeaseVar → Serve.LeaseVar → Serve.LeaseVar
  | .held, lease => lease
  | .noLease, _ => .noLease
  | .none, _ => .none

/-- The state of the smaller model: what the calls have left, with the variables of the handler. -/
def view (token : Option Nat) (history : HandlerLog Float)
    (locals : Locals Float) : ServeState :=
  { held history with
    lease := leaseOf locals.lease (held history).lease
    dispatchToken := token
    freed := locals.freed
    finished := locals.finished
    overflowDone := locals.overflowDone }

structure Linked (Body : Option (Payload Float) → Prop) (token : Option Nat) (state : ServeState)
    (history : HandlerLog Float) (locals : Locals Float) : Prop where
  body : Body locals.body
  view : state = view token history locals

def Streams (lib : PyLibrary Float) (streamed : Bool) (body : Option (Payload Float)) : Prop :=
  ∃ payload, body = some payload ∧ streams lib payload = streamed

def SameLedger (state : ServeState) (history : HandlerLog Float) (_ : Locals Float) : Prop :=
  state.ledger = (held history).ledger

abbrev Left (_ : HandlerError) (_ : Serve.ServeError) :
    ServeState → HandlerLog Float → Locals Float → Prop :=
  SameLedger

variable {Body Body' : Option (Payload Float) → Prop} {token : Option Nat} {state : ServeState}
  {history : HandlerLog Float} {locals : Locals Float}

theorem Linked.sameLedger (h : Linked Body token state history locals) :
    SameLedger state history locals := by
  rw [h.view]
  rfl

theorem Linked.mono (h : Linked Body token state history locals)
    (hbody : ∀ body, Body body → Body' body) : Linked Body' token state history locals :=
  ⟨hbody _ h.body, h.view⟩

theorem stable_linked (state : ServeState) :
    quietFrame.Stable (Linked Body token state : HandlerLog Float → Locals Float → Prop) where
  change history locals next hchange h := by
    obtain ⟨hbody, hlease, hfreed, hfinished, hdone⟩ := hchange
    refine ⟨by rw [hbody]; exact h.body, ?_⟩
    rw [h.view, Handler.view, Handler.view, hlease, hfreed, hfinished, hdone]
  call x history locals hcall h := by
    refine ⟨h.body, ?_⟩
    rw [h.view, Handler.view, Handler.view, held_concat, hcall]

theorem stable_sameLedger (state : ServeState) :
    quietFrame.Stable (SameLedger state : HandlerLog Float → Locals Float → Prop) where
  change _ _ _ _ h := h
  call x history locals hcall h := by rw [SameLedger, held_concat, hcall, h]

theorem ensures_framed {α : Type} {m : HandlerM Float α} (hm : Framed quietFrame m) :
    Ensures (Linked Body token state) m (fun _ => Linked Body token state) fun _ =>
      SameLedger state :=
  hm.keeps (stable_linked state) fun _ _ _ h => h.sameLedger

end View

section Rules

variable {Body Body' : Option (Payload Float) → Prop} {token : Option Nat} {α β γ δ : Type}
  {m : HandlerM Float α} {f : α → HandlerM Float γ}
  {post : γ → δ → ServeState → HandlerLog Float → Locals Float → Prop}

theorem simulates_calm {n : ServeM δ} (hm : Calm quietFrame m)
    (hf : ∀ a, Simulates (Linked Body token) (f a) n post Left) :
    Simulates (Linked Body token) (m >>= f) n post Left :=
  simulates_left (fun state => hm.keeps (stable_linked state)) hf

theorem runs_await (site : Site) {k : SiteReply site → ServeM δ} (reply : SiteReply site)
    {state final : ServeState} {log : List (Exchange Serve.ServeReply)}
    {result : Except Serve.ServeError δ} (hrun : (k reply).Runs state log result final) :
    ∃ log', (Serve.await site >>= k).Runs state log' result final :=
  ⟨_, runs_bind_iff.mpr (.inl ⟨_, reply, state, log, rfl,
    runs_get_bind_iff.mpr (runs_ask_iff.mpr ⟨reply, rfl, rfl, rfl⟩), hrun⟩)⟩

theorem runs_pass (step : Unguarded) {k : UnguardedReply step → ServeM δ}
    (reply : UnguardedReply step) {state final : ServeState}
    {log : List (Exchange Serve.ServeReply)} {result : Except Serve.ServeError δ}
    (hrun : (k reply).Runs state log result final) :
    ∃ log', (Serve.pass step >>= k).Runs state log' result final :=
  runs_await (.unguarded step) (k := fun answer => Serve.orInterrupted answer >>= k)
    (.ok reply) hrun

theorem runs_pass_raised (step : Unguarded) (k : UnguardedReply step → ServeM δ)
    (state : ServeState) :
    ∃ log, (Serve.pass step >>= k).Runs state log (.error (.interrupted .raised)) state :=
  runs_await (.unguarded step) (k := fun answer => Serve.orInterrupted answer >>= k)
    (.error .raised) (runs_throw_iff.mpr ⟨rfl, rfl, rfl⟩)

theorem simulates_awaiting (site : Site) {k : SiteReply site → ServeM δ} (reply : SiteReply site)
    {m : HandlerM Float γ} (hm : Simulates (Linked Body token) m (k reply) post Left) :
    Simulates (Linked Body token) m (Serve.await site >>= k) post Left :=
  simulates_of_runs id hm fun _ _ _ _ => runs_await site reply

def Agrees (Body : Option (Payload Float) → Prop) (token : Option Nat) (of : α → β) (a : α) (b : β)
    (state : ServeState) (history : HandlerLog Float) (locals : Locals Float) : Prop :=
  Linked Body token state history locals ∧ b = of a

abbrev Matches (Body : Option (Payload Float) → Prop) (token : Option Nat) (m : HandlerM Float α)
    (n : ServeM β) : Prop :=
  Simulates (Linked Body token) m n (fun _ _ => Linked Body token) Left

theorem simulates_agreeing {of : α → β} {k : β → ServeM δ}
    (hf : ∀ a, Simulates (Linked Body token) (f a) (k (of a)) post Left) (a : α) (b : β) :
    Simulates (Agrees Body token of a b) (f a) (k b) post Left := by
  rintro state history locals ⟨h, rfl⟩
  exact hf a state history locals h

theorem simulates_passed (step : Unguarded)
    (hm : ∀ state, Ensures (Linked Body token state) m (fun _ => Linked Body' token state)
      fun _ => SameLedger state) (reply : α → UnguardedReply step) :
    Simulates (Linked Body token) m (Serve.pass step) (Agrees Body' token reply) Left := by
  intro state
  apply (hm state).weaken (fun _ _ h => h)
  · intro a history locals h
    obtain ⟨log, hrun⟩ := runs_await (.unguarded step) (k := Serve.orInterrupted) (.ok (reply a))
      (runs_pure_iff.mpr ⟨rfl, rfl, rfl⟩)
    exact ⟨log, reply a, state, hrun, h, rfl⟩
  · intro error history locals h
    obtain ⟨log, hrun⟩ := runs_await (.unguarded step) (k := Serve.orInterrupted)
      (.error Interruption.raised) (runs_throw_iff.mpr ⟨rfl, rfl, rfl⟩)
    exact ⟨log, _, state, hrun, h⟩

theorem simulates_pass (step : Unguarded) {k : UnguardedReply step → ServeM δ}
    (hm : Framed quietFrame m) (reply : α → UnguardedReply step)
    (hf : ∀ a, Simulates (Linked Body token) (f a) (k (reply a)) post Left) :
    Simulates (Linked Body token) (m >>= f) (Serve.pass step >>= k) post Left :=
  simulates_bind (simulates_passed step (fun _ => ensures_framed hm) reply) (simulates_agreeing hf)

end Rules

section Shared

variable {Body : Option (Payload Float) → Prop} {token : Option Nat} {state : ServeState}
  {ctx : Context Float} {history : HandlerLog Float} {locals : Locals Float}

abbrev Never (_ : HandlerError) (_ : HandlerLog Float) (_ : Locals Float) : Prop := False

/-- The part leads from one state of the smaller model to another, and raises nothing. -/
abbrev Becomes {α : Type} (Body : Option (Payload Float) → Prop) (token : Option Nat)
    (state : ServeState) (m : HandlerM Float α) (next : ServeState) : Prop :=
  Ensures (Linked Body token state) m (fun _ => Linked Body token next) Never

theorem ensures_shared {c : HandlerCall Float} (change : HandlerReply c → ServeState → ServeState)
    (hc : ∀ history locals reply, view token (history ++ [⟨c, reply⟩]) locals =
      change reply (view token history locals)) :
    Ensures (Linked Body token state)
      (ask c : HandlerM Float (HandlerReply c))
      (fun reply => Linked Body token (change reply state))
      Never := by
  apply ensures_ask
  intro reply history locals h
  exact ⟨h.body, by rw [hc, h.view]⟩

theorem ensures_local (f : Locals Float → Locals Float) (change : ServeState → ServeState)
    (hbody : ∀ locals, (f locals).body = locals.body)
    (hf : ∀ history locals, view token history (f locals) = change (view token history locals)) :
    Becomes Body token state (modify f : HandlerM Float PUnit) (change state) := by
  apply ensures_modify
  intro history locals h
  exact ⟨by rw [hbody]; exact h.body, by rw [hf, h.view]⟩

theorem view_leaseRelease {refund : Bool} {reply : Unit} (hlease : locals.lease = .held) :
    view token (history ++ [⟨.leaseRelease refund, reply⟩]) locals =
      (view token history locals).releaseLease refund := by
  rw [view, view, held_concat, hlease, replay, ServeState.releaseLease, ServeState.releaseLease]
  cases hheld : (held history).lease <;> simp [leaseOf, hheld]

theorem releaseLease_view {refund : Bool} (hlease : locals.lease ≠ .held) :
    (view token history locals).releaseLease refund = view token history locals := by
  rw [view, ServeState.releaseLease]
  cases hlocal : locals.lease with
  | none => rfl
  | noLease => rfl
  | held => exact absurd hlocal hlease

theorem ensures_releaseLease (refund : Bool) :
    Becomes Body token state (releaseLease refund) (state.releaseLease refund) := by
  apply ensures_get_bind
  intro locals
  have hstay (hlease : locals.lease ≠ .held) : Ensures
      (fun history seen => seen = locals ∧ Linked Body token state history seen)
      (pure () : HandlerM Float Unit)
      (fun _ => Linked Body token (state.releaseLease refund))
      Never := by
    apply ensures_pure
    rintro history _ ⟨rfl, h⟩
    exact ⟨h.body, by rw [h.view, releaseLease_view hlease]⟩
  cases hlease : locals.lease with
  | none => exact hstay (by simp [hlease])
  | noLease => exact hstay (by simp [hlease])
  | held =>
      apply ensures_ask
      rintro reply history _ ⟨rfl, h⟩
      refine ⟨h.body, ?_⟩
      rw [h.view]
      exact (view_leaseRelease hlease).symm

theorem ensures_first {flag : Locals Float → Bool} (done : ServeState → Bool)
    {m : HandlerM Float Unit} {change : ServeState → ServeState}
    (hflag : ∀ history locals, done (view token history locals) = flag locals)
    (hdone : done state = true → change state = state)
    (hm : done state = false → Becomes Body token state m (change state)) :
    Becomes Body token state (get >>= fun locals => if flag locals then pure () else m)
      (change state) := by
  apply ensures_get_bind
  have hstay : done state = true →
      Becomes Body token state (pure () : HandlerM Float Unit) (change state) := by
    intro hfirst
    rw [hdone hfirst]
    exact ensures_pure fun _ _ h => h
  rintro locals history _ ⟨rfl, h⟩
  rw [← hflag history, ← h.view]
  cases hfirst : done state with
  | true => exact hstay hfirst history _ h
  | false => exact hm hfirst history _ h

theorem ensures_finish (status : Nat) :
    Becomes Body token state (finish ctx status) (state.finish status) := by
  apply ensures_first ServeState.finished (fun _ _ => rfl)
  · intro hdone
    rw [ServeState.finish, if_pos hdone]
  · intro hdone
    rw [ServeState.finish, if_neg (by simp [hdone])]
    apply ensures_bind
      (ensures_local (fun locals => { locals with finished := true })
        (fun state => { state with finished := true }) (fun _ => rfl) fun _ _ => rfl)
    intro _
    exact ensures_bind (ensures_releaseLease _) fun _ => calm_metric.keeps (stable_linked _)

theorem ensures_once (status : Nat) :
    Becomes Body token state (once ctx status) state.overflowFinished := by
  apply ensures_first ServeState.overflowDone (fun _ _ => rfl)
  · intro hdone
    rw [ServeState.overflowFinished, if_pos hdone]
  · intro hdone
    rw [ServeState.overflowFinished, if_neg (by simp [hdone])]
    apply ensures_bind
      (ensures_local (fun locals => { locals with overflowDone := true })
        (fun state => { state with overflowDone := true }) (fun _ => rfl) fun _ _ => rfl)
    intro _
    exact ensures_bind (ensures_releaseLease _) fun _ => calm_metric.keeps (stable_linked _)

theorem ensures_freeWorker {dispatched : Dispatched}
    (htoken : state.dispatchToken = some dispatched.token.toNat) :
    Becomes Body token state (freeWorker ctx dispatched)
      (state.freeWorker dispatched.estTokens) := by
  apply ensures_first ServeState.freed (fun _ _ => rfl)
  · intro hdone
    rw [ServeState.freeWorker, if_pos hdone]
  · intro hdone
    obtain ⟨ledger, lease, ticket, lostSlot, dispatchToken, freed, finished, overflowDone⟩ := state
    obtain rfl : dispatchToken = some dispatched.token.toNat := htoken
    obtain rfl : freed = false := hdone
    rw [ServeState.freeWorker, if_neg Bool.false_ne_true]
    apply ensures_bind
      (ensures_local (fun locals => { locals with freed := true })
        (fun state => { state with freed := true }) (fun _ => rfl) fun _ _ => rfl)
    intro _
    apply ensures_bind (calm_metric.keeps (stable_linked _))
    intro _
    apply ensures_bind (ensures_shared
      (fun _ state =>
        { state with
          ledger :=
            { state.ledger with
              inflight := state.ledger.inflight - 1
              inflightTokens := state.ledger.inflightTokens - dispatched.estTokens } })
      fun history locals _ => by rw [view, held_concat]; rfl)
    intro _
    apply ensures_bind (ensures_shared (fun _ state => state.noteFinish dispatched.token.toNat)
      fun history locals _ => by rw [view, held_concat]; rfl)
    intro _
    apply ensures_bind (ensures_shared (fun _ state => state.releaseTicket)
      fun history locals _ => by
      rw [view, view, held_concat, replay, ServeState.releaseTicket, ServeState.releaseTicket]
      cases hticket : (held history).ticket <;> simp [hticket])
    exact fun _ => calm_log.keeps (stable_linked _)

end Shared

section Overflow

variable {Body : Option (Payload Float) → Prop} {token : Option Nat} {α β γ δ : Type}
  {cfg : HandlerConfig Float} {ctx : Context Float} {args : OverflowArgs} {estTokens : Int}
  {streamed : Bool} {leaves : Bool} {failure : String × String} {headers : Headers}

inductive Alike (estTokens : Int) (token : Option Nat) :
    Response Float → Serve.Response → Prop where
  | json (status : Nat) (content : Content Float) (headers : Headers) :
    Alike estTokens token (.json status content headers) (.json status)
  | worker (dispatched : Dispatched) (headers : Headers)
    (hest : dispatched.estTokens = estTokens) (htoken : token = some dispatched.token.toNat) :
    Alike estTokens token (.stream (.worker dispatched) headers) .workerStream
  | overflow (reason : String) (headers : Headers) :
    Alike estTokens token (.stream (.overflow reason) headers) .overflowStream

def Offered (Body : Option (Payload Float) → Prop) (token : Option Nat) (estTokens : Int)
    (response : Option (Response Float)) (response' : Option Serve.Response) (state : ServeState)
    (history : HandlerLog Float) (locals : Locals Float) : Prop :=
  Linked Body token state history locals ∧ Option.Rel (Alike estTokens token) response response'

def Answered (Body : Option (Payload Float) → Prop) (estTokens : Int) (response : Response Float)
    (response' : Serve.Response) (state : ServeState) (history : HandlerLog Float)
    (locals : Locals Float) : Prop :=
  ∃ token, Linked Body token state history locals ∧ Alike estTokens token response response'

abbrev Serves (cfg : HandlerConfig Float) (streamed : Bool) (token : Option Nat) (estTokens : Int)
    (m : HandlerM Float (Response Float)) (n : ServeM Serve.Response) : Prop :=
  Simulates (Linked (Streams cfg.lib streamed) token) m n (Answered (Streams cfg.lib streamed)
    estTokens) Left

abbrev Offers (cfg : HandlerConfig Float) (streamed : Bool) (token : Option Nat) (estTokens : Int)
    (m : HandlerM Float (Option (Response Float))) (n : ServeM (Option Serve.Response)) : Prop :=
  Simulates (Linked (Streams cfg.lib streamed) token) m n (Offered (Streams cfg.lib streamed) token
    estTokens) Left

theorem simulates_offered {f : Option (Response Float) → HandlerM Float γ}
    {k : Option Serve.Response → ServeM δ}
    {post : γ → δ → ServeState → HandlerLog Float → Locals Float → Prop}
    (hnone : Simulates (Linked Body token) (f none) (k none) post Left)
    (hsome : ∀ response response', Alike estTokens token response response' →
      Simulates (Linked Body token) (f (some response)) (k (some response')) post Left)
    (response : Option (Response Float)) (response' : Option Serve.Response) :
    Simulates (Offered Body token estTokens response response') (f response) (k response') post
      Left := by
  apply Simulates.of_pre fun _ _ _ h => h.2
  intro hrel
  cases hrel with
  | some halike => exact (hsome _ _ halike).weaken (fun _ _ _ h => h.1) fun _ _ _ _ _ h => h
  | none => exact hnone.weaken (fun _ _ _ h => h.1) fun _ _ _ _ _ h => h

theorem simulates_answered {m : HandlerM Float γ} {n : ServeM δ} {response : Response Float}
    {response' : Serve.Response}
    {post : γ → δ → ServeState → HandlerLog Float → Locals Float → Prop}
    (hm : ∀ token, Alike estTokens token response response' →
      Simulates (Linked Body token) m n post Left) :
    Simulates (Answered Body estTokens response response') m n post Left := by
  rintro state history locals ⟨token, h, halike⟩
  exact hm token halike state history locals h

theorem simulates_orInterrupted (reply : Except Interruption α) :
    Matches Body token (orInterrupted reply : HandlerM Float α) (Serve.orInterrupted reply) := by
  cases reply with
  | error => exact simulates_throw fun _ _ _ h => h.sameLedger
  | ok => exact simulates_pure fun _ _ _ h => h

theorem simulates_onlyIf {condition : Bool} {m : HandlerM Float Unit} {n : ServeM Unit}
    (hm : Matches Body token m n) :
    Matches Body token (onlyIf condition m) (Serve.onlyIf condition n) := by
  cases condition
  · exact simulates_pure fun _ _ _ h => h
  · exact hm

theorem simulates_leaveSuppressed :
    Matches Body token (leaveSuppressed args : HandlerM Float Unit) Serve.exitOverflow :=
  simulates_calm (calm_ask fun _ _ => rfl) fun reply =>
    simulates_awaiting .exitOverflow reply (simulates_orInterrupted (Serve.suppressed reply))

theorem framed_closeOverflow :
    Framed quietFrame (closeOverflow args : HandlerM Float Unit) :=
  framed_bind (framed_ask fun _ _ => rfl) fun _ => framed_orInterrupted

theorem calm_record {outcome : String} {failure : Option (String × String)} :
    Calm quietFrame (record cfg args outcome failure) := by
  apply calm_bind (calm_ask fun _ _ => rfl)
  intro _
  apply calm_bind
  · cases failure
    · exact calm_pure
    · exact calm_ask fun _ _ => rfl
  · exact fun _ => calm_bind calm_get fun _ => calm_ask fun _ _ => rfl

theorem simulates_abandonOverflow :
    Simulates (Linked Body token) (abandonOverflow cfg args leaves failure)
      (Serve.abandonOverflow leaves) (Offered Body token estTokens) Left := by
  apply simulates_bind (simulates_onlyIf simulates_leaveSuppressed)
  intro _ _
  apply simulates_pass .closeOverflow framed_closeOverflow fun _ => ()
  intro _
  exact simulates_calm calm_record fun _ => simulates_pure fun _ _ _ h => ⟨h, .none⟩

theorem simulates_once (status : Nat) :
    Matches Body token (once ctx status) (modify ServeState.overflowFinished : ServeM PUnit) :=
  simulates_modify fun _ => ensures_once status

theorem simulates_answerOverflow {content : PyValue Float} :
    Simulates (Linked Body token) (answerOverflow cfg ctx args content headers)
      (Serve.overflowPosted (.status 200 true)) (Offered Body token estTokens) Left := by
  apply simulates_pass .closeOverflow framed_closeOverflow fun _ => ()
  intro _
  apply simulates_calm calm_record
  intro _
  apply simulates_bind (simulates_once 200)
  exact fun _ _ => simulates_pure fun _ _ _ h => ⟨h, .some (.json _ _ _)⟩

def upstreamOf : OverflowReply Float → Serve.UpstreamReply
  | .status code content => .status code content.isOk
  | .failed _ _ => .connectError
  | .interrupted interruption => .interrupted interruption

theorem simulates_overflowReplied (reply : OverflowReply Float) :
    Simulates (Linked Body token) (overflowReplied cfg ctx args streamed headers reply)
      (if streamed then Serve.overflowStreamed (upstreamOf reply)
        else Serve.overflowPosted (upstreamOf reply))
      (Offered Body token estTokens) Left := by
  cases reply with
  | interrupted interruption =>
      cases streamed <;> exact simulates_throw fun _ _ _ h => h.sameLedger
  | failed timeout errorType => cases streamed <;> exact simulates_abandonOverflow
  | status code content =>
      by_cases hcode : code = 200
      · subst hcode
        cases streamed
        · cases content
          · exact simulates_abandonOverflow
          · exact simulates_answerOverflow
        · exact simulates_pure fun _ _ _ h => ⟨h, .some (.overflow _ _)⟩
      · have hstreamed (json : Bool) :
            Serve.overflowStreamed (.status code json) = Serve.abandonOverflow true := by
          unfold Serve.overflowStreamed
          split <;> simp_all
        have hposted (json : Bool) :
            Serve.overflowPosted (.status code json) = Serve.abandonOverflow false := by
          unfold Serve.overflowPosted
          split <;> simp_all
        have hreplied : overflowReplied cfg ctx args streamed headers (.status code content) =
            abandonOverflow cfg args streamed (statusFailure code) := if_pos hcode
        rw [hreplied, upstreamOf, hstreamed, hposted]
        cases streamed <;> exact simulates_abandonOverflow

theorem simulates_sent {f : OverflowReply Float → HandlerM Float γ}
    {post : γ → Option Serve.Response → ServeState → HandlerLog Float → Locals Float → Prop}
    {request : OverflowRequest Float}
    (hf : ∀ reply, Simulates (Linked Body token) (f reply)
      (if streamed then Serve.overflowStreamed (upstreamOf reply)
        else Serve.overflowPosted (upstreamOf reply)) post Left) :
    Simulates (Linked Body token) (attemptCall args (.send request) >>= f)
      (Serve.overflow streamed) post Left := by
  apply simulates_calm (calm_ask fun _ _ => rfl)
  intro reply
  cases streamed with
  | true => exact simulates_awaiting (.upstream .openOverflow) (upstreamOf reply) (hf reply)
  | false => exact simulates_awaiting (.upstream .postOverflow) (upstreamOf reply) (hf reply)

theorem ensures_withBody {lib : PyLibrary Float} {state : ServeState}
    {f : Locals Float → Payload Float → HandlerM Float γ}
    {post : γ → HandlerLog Float → Locals Float → Prop}
    {err : HandlerError → HandlerLog Float → Locals Float → Prop}
    (hf : ∀ locals body, streams lib body = streamed →
      Ensures (Linked (Streams lib streamed) token state)
        (f locals body) post err) :
    Ensures (Linked (Streams lib streamed) token state)
      (get >>= fun locals => match locals.body with
        | none => interrupt .raised
        | some body => f locals body) post err := by
  intro history locals h log result final hrun
  obtain ⟨body, hbody, hstreamed⟩ := h.body
  rw [runs_get_bind_iff, hbody] at hrun
  exact hf locals body hstreamed history locals h log result final hrun

theorem simulates_sendOverflow {remaining : Option Float} :
    Offers cfg streamed token estTokens (sendOverflow cfg ctx args remaining)
      (Serve.overflow streamed) := by
  intro state
  apply ensures_withBody
  rintro locals body rfl
  exact simulates_sent (fun reply => simulates_overflowReplied reply) state

theorem calm_skipOverflow : Calm quietFrame (skipOverflow args : HandlerM Float _) :=
  calm_bind (calm_ask fun _ _ => rfl) fun _ => calm_bind calm_get fun _ =>
    calm_bind (calm_ask fun _ _ => rfl) fun _ => calm_pure

def serveConfig (cfg : HandlerConfig Float) (ctx : Context Float) (estTokens : Int) :
    ServeConfig where
  estTokens
  overflowActive := cfg.overflow.active
  hasDeadline := ctx.deadlineMs.isSome

theorem simulates_resetOverflow :
    Matches Body token (modify fun locals => { locals with overflowDone := false } :
      HandlerM Float PUnit) (modify fun state => { state with overflowDone := false } :
      ServeM PUnit) :=
  simulates_modify fun _ =>
    ensures_local (fun locals => { locals with overflowDone := false })
      (fun state => { state with overflowDone := false }) (fun _ => rfl) fun _ _ => rfl

theorem simulates_inTime (remaining : Option Float) :
    Offers cfg streamed token estTokens (if timeIsUp cfg remaining then skipOverflow args
      else sendOverflow cfg ctx args remaining) (if timeIsUp cfg remaining then pure none
      else Serve.overflow streamed) := by
  cases timeIsUp cfg remaining with
  | true =>
      apply simulates_calm (calm_ask fun _ _ => rfl)
      intro _
      apply simulates_calm calm_get
      intro _
      exact simulates_calm (calm_ask fun _ _ => rfl) fun _ => simulates_pure fun _ _ _ h =>
        ⟨h, .none⟩
  | false => exact simulates_sendOverflow

theorem framed_remainingBudget : Framed quietFrame (remainingBudget cfg ctx args) := by
  unfold remainingBudget
  split
  · exact framed_pure
  · exact framed_bind (framed_ask fun _ _ => rfl) fun _ =>
      framed_bind framed_orRaise fun _ => framed_pure

theorem simulates_timely (hdeadline : ctx.deadlineMs.isSome = true) :
    Offers cfg streamed token estTokens (remainingBudget cfg ctx args >>= fun remaining =>
      (modify fun locals => { locals with overflowDone := false }) >>= fun _ =>
      if timeIsUp cfg remaining then skipOverflow args else sendOverflow cfg ctx args remaining)
      ((modify fun state => { state with overflowDone := false }) >>= fun _ =>
      Serve.timeIsUp (serveConfig cfg ctx estTokens) >>= fun up => if up then pure none
      else Serve.overflow streamed) := by
  have htime : Serve.timeIsUp (serveConfig cfg ctx estTokens) = Serve.pass .remainingTime :=
    if_pos hdeadline
  rw [htime]
  intro state
  apply ensures_bind (framed_remainingBudget.keeps (stable_linked state) ?_)
  · intro remaining
    refine simulates_bind simulates_resetOverflow (fun _ _ => ?_) state
    exact simulates_of_runs id (simulates_inTime remaining) fun _ _ _ _ =>
      runs_pass .remainingTime
        (k := fun up : Bool => if up then pure none else Serve.overflow streamed)
        (timeIsUp cfg remaining)
  · intro error history locals h
    obtain ⟨log, hrun⟩ := runs_pass_raised .remainingTime
      (fun up : Bool => if up then pure none else Serve.overflow streamed)
      { state with overflowDone := false }
    exact ⟨_, _, _, runs_bind_iff.mpr (.inl ⟨[], (), _, log, rfl,
      runs_modify_iff.mpr ⟨rfl, rfl, rfl⟩, hrun⟩), h.sameLedger⟩

theorem simulates_tryOverflow : Offers cfg streamed token estTokens (tryOverflow cfg ctx args)
    (Serve.tryOverflow (serveConfig cfg ctx estTokens) streamed args.code args.reason
      args.neverOverflow) := by
  unfold tryOverflow Serve.tryOverflow
  by_cases hactive : (cfg.overflow.active &&
      Serve.overflows args.code args.reason args.neverOverflow) = true
  · rw [if_pos hactive, if_pos (by exact hactive)]
    cases hdeadline : ctx.deadlineMs.isSome with
    | false =>
        have hnone : remainingBudget cfg ctx args = pure none := by
          unfold remainingBudget
          rw [Option.isSome_eq_false_iff.mp hdeadline |> Option.isNone_iff_eq_none.mp]
        rw [hnone]
        have htime : Serve.timeIsUp (serveConfig cfg ctx estTokens) = pure false :=
          if_neg (by simp [serveConfig, hdeadline])
        rw [htime]
        change Simulates _ ((modify fun locals => { locals with overflowDone := false }) >>=
          fun _ =>
          if timeIsUp cfg none then skipOverflow args else sendOverflow cfg ctx args none)
          ((modify fun state => { state with overflowDone := false }) >>= fun _ =>
            if timeIsUp cfg none then pure none else Serve.overflow streamed) _ _
        exact simulates_bind simulates_resetOverflow fun _ _ => simulates_inTime none
    | true => exact simulates_timely hdeadline
  · rw [if_neg hactive, if_neg (by exact hactive)]
    exact simulates_pure fun _ _ _ h => ⟨h, .none⟩

theorem simulates_releaseLease (refund : Bool) :
    Matches Body token (releaseLease refund : HandlerM Float Unit)
      (modify fun state => state.releaseLease refund : ServeM PUnit) :=
  simulates_modify fun _ => ensures_releaseLease refund

theorem simulates_reject {refusal : Refusal Float} :
    Simulates (Linked Body token) (reject ctx refusal) (Serve.reject refusal.status)
      (fun response response' state history locals =>
        Linked Body token state history locals ∧ Alike estTokens token response response')
          Left := by
  apply simulates_bind (simulates_releaseLease true)
  intro _ _
  apply simulates_calm calm_metric
  intro _
  apply simulates_calm calm_log
  intro _
  exact simulates_calm calm_get fun _ => simulates_pure fun _ _ _ h => ⟨h, .json _ _ _⟩

theorem simulates_overflowOrReject {refusal : Refusal Float}
    (hstatus : refusal.status = args.code) :
    Serves cfg streamed token estTokens (overflowOrReject cfg ctx args refusal)
      (Serve.overflowOrReject (serveConfig cfg ctx estTokens) streamed args.code args.reason
      args.neverOverflow) := by
  apply simulates_bind simulates_tryOverflow
  apply simulates_offered
  · rw [← hstatus]
    exact simulates_reject.weaken (fun _ _ _ h => h) fun _ _ _ _ _ h => ⟨_, h⟩
  · exact fun _ _ halike => simulates_pure fun _ _ _ h => ⟨_, h, halike⟩

end Overflow

section Dispatch

variable {Body : Option (Payload Float) → Prop} {token : Option Nat}
  {cfg : HandlerConfig Float} {ctx : Context Float} {dispatched : Dispatched} {streamed : Bool}

theorem simulates_finish (status : Nat) :
    Matches Body token (finish ctx status) (modify fun state => state.finish status :
      ServeM PUnit) :=
  simulates_modify fun _ => ensures_finish status

theorem simulates_freeWorker :
    Matches Body (some dispatched.token.toNat) (freeWorker ctx dispatched)
      (modify fun state => state.freeWorker dispatched.estTokens : ServeM PUnit) :=
  simulates_modify fun _ history locals h =>
    ensures_freeWorker (by rw [h.view]; rfl) history locals h

theorem ensures_release {state : ServeState} (htoken : token = some dispatched.token.toNat)
    (status : Nat) :
    Becomes Body token state (release ctx dispatched status)
      (state.release dispatched.estTokens status) :=
  fun history locals h =>
    ensures_bind (ensures_freeWorker (by rw [h.view]; exact htoken))
      (fun _ => ensures_finish status) history locals h

theorem simulates_release (status : Nat) :
    Matches Body (some dispatched.token.toNat) (release ctx dispatched status)
      (modify fun state => state.release dispatched.estTokens status : ServeM PUnit) :=
  simulates_modify fun _ => ensures_release rfl status

theorem upstreamReason_eq (status : Nat) (text : String) :
    Serve.upstreamReason status (reportsOom text) =
      (classifyError status text).getD "worker_overloaded" := by
  unfold Serve.upstreamReason classifyError
  split <;> rfl

theorem simulates_overflowUpstream {estTokens : Int} (status : Nat) (text : String) :
    Offers cfg streamed token estTokens (overflowUpstream cfg ctx status text)
      (Serve.upstreamError (serveConfig cfg ctx estTokens) streamed status (reportsOom text)) := by
  unfold overflowUpstream Serve.upstreamError
  by_cases heligible : status ∈ Serve.eligibleCodes
  · rw [if_pos heligible, if_pos heligible, upstreamReason_eq]
    exact simulates_tryOverflow
  · rw [if_neg heligible, if_neg heligible]
    exact simulates_pure fun _ _ _ h => ⟨h, .none⟩

theorem simulates_unreachable {estTokens : Int} (code : Nat) (detail : String) :
    Serves cfg streamed token estTokens (unreachable cfg ctx code detail)
      (Serve.unreachable (serveConfig cfg ctx estTokens) streamed code) := by
  apply simulates_bind simulates_tryOverflow
  apply simulates_offered
  · apply simulates_bind (simulates_finish code)
    intro _ _
    exact simulates_calm calm_get fun _ => simulates_throw fun _ _ _ h => h.sameLedger
  · exact fun _ _ halike => simulates_pure fun _ _ _ h => ⟨_, h, halike⟩

theorem simulates_openFailed (code : Nat) (text : String) :
    Serves cfg true (some dispatched.token.toNat) dispatched.estTokens
      (openFailed cfg ctx dispatched code text)
      (Serve.openFailed (serveConfig cfg ctx dispatched.estTokens) code) := by
  apply simulates_bind simulates_freeWorker
  intro _ _
  exact simulates_pass .closeWorker framed_close (fun _ => ()) fun _ => simulates_unreachable _ _

theorem simulates_streamRefused (status : Nat) :
    Serves cfg true (some dispatched.token.toNat) dispatched.estTokens
      (streamRefused cfg ctx dispatched status)
      (Serve.streamRefused (serveConfig cfg ctx dispatched.estTokens) status) := by
  apply simulates_calm (calm_ask fun _ _ => rfl)
  intro body
  apply simulates_pass .readErrorBody framed_orInterrupted reportsOom
  intro text
  apply simulates_bind simulates_freeWorker
  intro _ _
  apply simulates_pass .exitWorker framed_leave fun _ => ()
  intro _
  apply simulates_pass .closeWorker framed_close fun _ => ()
  intro _
  apply simulates_calm calm_noteOom
  intro _
  apply simulates_bind (simulates_overflowUpstream status text)
  apply simulates_offered
  · apply simulates_bind (simulates_finish status)
    intro _ _
    exact simulates_calm calm_get fun _ => simulates_pure fun _ _ _ h => ⟨_, h, .json _ _ _⟩
  · exact fun _ _ halike => simulates_pure fun _ _ _ h => ⟨_, h, halike⟩

theorem simulates_opened (reply : WorkerReply Float) :
    Serves cfg true (some dispatched.token.toNat) dispatched.estTokens
      (opened cfg ctx dispatched reply)
      (Serve.openStream (serveConfig cfg ctx dispatched.estTokens)) := by
  cases reply with
  | connectError text =>
      exact simulates_awaiting (.upstream .openWorker) .connectError (simulates_openFailed 503 text)
  | requestError text =>
      exact simulates_awaiting (.upstream .openWorker) .requestError (simulates_openFailed 502 text)
  | interrupted interruption =>
      exact simulates_awaiting (.upstream .openWorker) (.interrupted interruption)
        (simulates_throw fun _ _ _ h => h.sameLedger)
  | status code text json =>
      apply simulates_awaiting (.upstream .openWorker) (.status code json.isSome)
      show Simulates _ (if code = 200 then _ else _) (if code = 200 then _ else _) _ _
      by_cases hcode : code = 200
      · rw [if_pos hcode, if_pos hcode]
        exact simulates_calm calm_get fun _ => simulates_pure fun _ _ _ h =>
          ⟨_, h, .worker _ _ rfl rfl⟩
      · rw [if_neg hcode, if_neg hcode]
        exact simulates_streamRefused code

def PostedAlike (Body : Option (Payload Float) → Prop) (token : Option Nat) (estTokens : Int)
    (outcome : Response Float ⊕ Posted Float) (outcome' : Serve.Response ⊕ Serve.Posted)
    (state : ServeState) (history : HandlerLog Float) (locals : Locals Float) : Prop :=
  match outcome, outcome' with
  | .inl response, .inl response' =>
      Answered Body estTokens response response' state history locals
  | .inr answer, .inr answer' =>
      Linked Body token state history locals ∧ answer' = ⟨answer.status, answer.json.isSome⟩
  | _, _ => False

theorem simulates_posted (reply : WorkerReply Float) :
    Simulates (Linked (Streams cfg.lib false) (some dispatched.token.toNat))
      (posted cfg ctx dispatched reply)
      (Serve.postWorker (serveConfig cfg ctx dispatched.estTokens))
      (PostedAlike (Streams cfg.lib false) (some dispatched.token.toNat) dispatched.estTokens)
      Left := by
  cases reply with
  | connectError text =>
      apply simulates_awaiting (.upstream .postWorker) .connectError
      apply simulates_bind simulates_freeWorker
      intro _ _
      apply simulates_bind (simulates_unreachable _ _)
      exact fun _ _ => simulates_pure fun _ _ _ h => h
  | requestError text =>
      apply simulates_awaiting (.upstream .postWorker) .requestError
      apply simulates_bind (simulates_release 502)
      intro _ _
      exact simulates_calm calm_get fun _ => simulates_throw fun _ _ _ h => h.sameLedger
  | interrupted interruption =>
      exact simulates_awaiting (.upstream .postWorker) (.interrupted interruption)
        (simulates_throw fun _ _ _ h => h.sameLedger)
  | status code text json =>
      exact simulates_awaiting (.upstream .postWorker) (.status code json.isSome)
        (simulates_pure fun _ _ _ h => ⟨h, rfl⟩)

theorem simulates_answerPosted (answer : Posted Float) :
    Serves cfg false (some dispatched.token.toNat) dispatched.estTokens
      (answerPosted cfg ctx dispatched answer)
      (Serve.answerPosted (serveConfig cfg ctx dispatched.estTokens) ⟨answer.status,
      answer.json.isSome⟩) := by
  apply simulates_bind simulates_freeWorker
  intro _ _
  apply simulates_pass .readText framed_orRaise reportsOom
  intro text
  apply simulates_calm calm_noteOom
  intro _
  apply simulates_bind (simulates_overflowUpstream answer.status text)
  apply simulates_offered
  · apply simulates_bind (simulates_finish answer.status)
    intro _ _
    apply simulates_calm calm_get
    intro locals
    by_cases hstatus : answer.status = 200
    · rw [if_pos hstatus]
      cases hjson : answer.json with
      | none =>
          rw [if_pos ⟨hstatus, by simp⟩]
          exact simulates_throw fun _ _ _ h => h.sameLedger
      | some value =>
          rw [if_neg (by simp)]
          exact simulates_pure fun _ _ _ h => ⟨_, h, hstatus ▸ .json _ _ _⟩
    · rw [if_neg hstatus, if_neg fun h => hstatus h.1]
      exact simulates_pure fun _ _ _ h => ⟨_, h, .json _ _ _⟩
  · exact fun _ _ halike => simulates_pure fun _ _ _ h => ⟨_, h, halike⟩

theorem simulates_closing {α β : Type} {error : HandlerError} {error' : Serve.ServeError}
    {post : α → β → ServeState → HandlerLog Float → Locals Float → Prop} :
    Simulates SameLedger (close >>= fun _ => throw error : HandlerM Float α)
      (Serve.pass .closeWorker >>= fun _ => throw error' : ServeM β) post Left := by
  intro state
  have hleft (history : HandlerLog Float) (locals : Locals Float)
      (h : SameLedger state history locals) :
      ∃ log e' final, (Serve.pass .closeWorker >>= fun _ => throw error' : ServeM β).Runs state log
        (.error e') final ∧ SameLedger final history locals := by
    obtain ⟨log, hrun⟩ := runs_pass .closeWorker (k := fun _ => (throw error' : ServeM β)) ()
      (runs_throw_iff.mpr ⟨rfl, rfl, rfl⟩)
    exact ⟨log, error', state, hrun, h⟩
  apply ensures_bind (framed_close.keeps (stable_sameLedger state) fun _ => hleft)
  exact fun _ => ensures_throw hleft

theorem simulates_postReplied (reply : WorkerReply Float) :
    Serves cfg false (some dispatched.token.toNat) dispatched.estTokens
      (postReplied cfg ctx dispatched reply)
      (Serve.postPlain (serveConfig cfg ctx dispatched.estTokens)) := by
  apply simulates_bind (simulates_attempt (simulates_posted reply))
  rintro (error | response | answer) (error' | response' | answer')
  · exact simulates_closing
  · exact .of_pre (fun _ _ _ h => h) False.elim
  · exact .of_pre (fun _ _ _ h => h) False.elim
  · exact .of_pre (fun _ _ _ h => h) False.elim
  · apply simulates_answered
    intro token halike
    apply simulates_pass .closeWorker framed_close fun _ => ()
    exact fun _ => simulates_pure fun _ _ _ h => ⟨_, h, halike⟩
  · exact .of_pre (fun _ _ _ h => h) False.elim
  · exact .of_pre (fun _ _ _ h => h) False.elim
  · exact .of_pre (fun _ _ _ h => h) False.elim
  · apply Simulates.of_pre fun _ _ _ h => h.2
    rintro rfl
    exact (simulates_pass .closeWorker framed_close (fun _ => ())
      fun _ => simulates_answerPosted answer).weaken (fun _ _ _ h => h.1) fun _ _ _ _ _ h => h

theorem simulates_proxy (dispatched : Dispatched) :
    Serves cfg streamed (some dispatched.token.toNat) dispatched.estTokens
      (proxy cfg ctx dispatched) (if streamed then
      Serve.openStream (serveConfig cfg ctx dispatched.estTokens)
      else Serve.postPlain (serveConfig cfg ctx dispatched.estTokens)) := by
  intro state
  apply ensures_withBody
  rintro locals body rfl
  refine simulates_calm (calm_ask fun _ _ => rfl) (fun reply => ?_) state
  cases streams cfg.lib body with
  | true => exact simulates_opened reply
  | false => exact simulates_postReplied reply

end Dispatch

end AiAnalytics.Gateway.Handler
