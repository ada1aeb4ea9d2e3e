import AiAnalytics.Gateway.Proof.HandlerView

/-!
# Every request in the smaller model

For every run of the handler, and of the body of its response, the smaller model has a run that
leaves the same counters. Where the handler raises and the smaller model cannot, the smaller model's
run is left at a call that may raise, or returns with the counters that the handler leaves.
-/

namespace AiAnalytics.Gateway.Handler

open Lib Lib.Prog
open Serve (ServeState ServeM ServeConfig SiteReply Site Unguarded UnguardedReply Interruption)

variable {Float : Type}

section Queue

variable {Body : Option (Payload Float) → Prop} {token : Option Nat} {α γ δ : Type}
  {cfg : HandlerConfig Float} {ctx : Context Float} {streamed : Bool} {estTokens : Int}
  {experiment : ExperimentHeaders} {decision : PlacementDecision Float}

theorem simulates_dispatch {worker : String} :
    Serves cfg streamed token estTokens (dispatch cfg ctx worker estTokens)
      (Serve.await .nextDispatchId >>= fun token : Nat =>
      (modify fun state => state.noteDispatch estTokens token) >>= fun _ =>
      if streamed then Serve.openStream (serveConfig cfg ctx estTokens)
      else Serve.postPlain (serveConfig cfg ctx estTokens)) := by
  apply simulates_left fun state => ensures_shared
    (fun _ state =>
      { state with
        ledger :=
          { state.ledger with
            inflight := state.ledger.inflight + 1
            inflightTokens := state.ledger.inflightTokens + estTokens } })
    fun history locals _ => by rw [view, held_concat]; rfl
  intro _
  refine simulates_left (?_ : ∀ state, Ensures _ _ (fun (reply : Int) =>
    Linked (Streams cfg.lib streamed) (some reply.toNat)
      (state.noteDispatch estTokens reply.toNat)) _) ?_
  · intro state
    apply ensures_ask
    intro reply history locals h
    refine ⟨h.body, ?_⟩
    rw [view, held_concat]
    exact congrArg
      (fun state : ServeState =>
        { state with
          dispatchToken := some reply.toNat
          ledger :=
            { state.ledger with
              recentDispatches := state.ledger.recentDispatches ++ [reply.toNat]
              dispatches := state.ledger.dispatches + 1 } })
      h.view
  · intro reply
    apply simulates_of_runs (fun state : ServeState => state.noteDispatch estTokens reply.toNat)
    · apply simulates_calm (calm_ask fun _ _ => rfl)
      intro _
      apply simulates_calm calm_setCorrelation
      intro _
      exact simulates_proxy ⟨worker, reply, estTokens⟩
    · intro state log result final hrun
      exact runs_await .nextDispatchId reply.toNat (runs_modify_bind_iff.mpr hrun)

theorem streams_pop {lib : PyLibrary Float} (body : Payload Float) :
    streams lib (body.pop connectorKey) = streams lib body := by
  rw [streams, Payload.value, OrderedDict.get?_pop, if_neg (by decide)]
  rfl

theorem streams_set {lib : PyLibrary Float} {body : Payload Float} {field : Field Float} :
    streams lib ((body.pop connectorKey).set connectorKey field) = streams lib body := by
  rw [← streams_pop body, streams, Payload.value, OrderedDict.get?_set,
    if_neg (by decide)]
  rfl

theorem linked_prepare {state : ServeState} {body : Payload Float} {remaining : Option Float}
    {override experimentCase : Option String} :
    Ensures (Linked Body token state)
      (prepare cfg body decision remaining override experimentCase)
      (fun prepared history locals =>
        Linked Body token state history locals ∧
          streams cfg.lib prepared.1 = streams cfg.lib body)
      fun _ => SameLedger state := by
  apply ensures_ite
  · exact fun _ => ensures_pure fun _ _ h => ⟨h, streams_pop _⟩
  · intro _
    apply ensures_bind (framed_orRaise.keeps (stable_linked state) fun _ _ _ h => h.sameLedger)
    intro answer
    apply ensures_bind (calm_hopDeadline.keeps (stable_linked state))
    intro _
    apply ensures_bind (calm_get.keeps (stable_linked state))
    exact fun _ => ensures_pure fun _ _ h => ⟨h, streams_set⟩

theorem linked_rebind {state : ServeState} {remaining : Option Float} :
    Ensures (Linked (Streams cfg.lib streamed) token state)
      (rebind cfg experiment decision remaining)
      (fun _ => Linked (Streams cfg.lib streamed) token state)
      fun _ => SameLedger state := by
  apply ensures_withBody
  rintro locals body rfl
  apply ensures_bind linked_prepare
  rintro ⟨payload, fields⟩
  refine ensures_bind
    (?_ : Ensures _ _ (fun _ => Linked (Streams cfg.lib (streams cfg.lib body)) token state) _) ?_
  · apply ensures_modify
    rintro history locals ⟨h, hstreams⟩
    exact ⟨⟨payload, rfl, hstreams⟩, h.view⟩
  · intro _
    apply ensures_bind (calm_log.keeps (stable_linked state))
    exact fun _ => calm_setCorrelation.keeps (stable_linked state)

theorem simulates_granted {deadlineAt : Option Float} {queueEnter waitS : Float} :
    Serves cfg streamed token estTokens
      (granted cfg ctx experiment decision estTokens deadlineAt queueEnter waitS)
      (Serve.dispatch (serveConfig cfg ctx estTokens) streamed) := by
  apply simulates_calm calm_metric
  intro _
  apply simulates_calm calm_setCorrelation
  intro _
  apply simulates_calm calm_log
  intro _
  apply simulates_calm calm_remainingTime
  intro remaining
  exact simulates_bind (simulates_passed .hopPrepare (fun _ => linked_rebind) fun _ => ())
    (simulates_agreeing fun _ => simulates_dispatch)

theorem simulates_queueRejected {queueEnter : Float} {reason : RejectReason} :
    Serves cfg streamed token estTokens (queueRejected cfg ctx queueEnter reason)
      (Serve.overflowOrReject (serveConfig cfg ctx estTokens) streamed 503 reason.label false) := by
  apply simulates_calm calm_metric
  intro _
  apply simulates_bind simulates_tryOverflow
  apply simulates_offered
  · apply simulates_calm (calm_ask fun _ _ => rfl)
    intro _
    apply simulates_calm (calm_ask fun _ _ => rfl)
    intro _
    exact simulates_reject.weaken (fun _ _ _ h => h) fun _ _ _ _ _ h => ⟨_, h⟩
  · exact fun _ _ halike => simulates_pure fun _ _ _ h => ⟨_, h, halike⟩

end Queue

section Admission

variable {Body : Option (Payload Float) → Prop} {token : Option Nat} {α β γ δ : Type}
  {cfg : HandlerConfig Float} {ctx : Context Float} {streamed : Bool} {estTokens : Int}
  {experiment : ExperimentHeaders} {decision : PlacementDecision Float} {now : Float}

theorem simulates_absoluteDeadline {f : Option Float → HandlerM Float γ} {n : ServeM δ}
    {post : γ → δ → ServeState → HandlerLog Float → Locals Float → Prop}
    (hf : ∀ deadlineAt, Simulates (Linked Body token) (f deadlineAt) n post Left) :
    Simulates (Linked Body token) (absoluteDeadline cfg ctx now >>= f)
      (Serve.onlyIf (serveConfig cfg ctx estTokens).hasDeadline (Serve.pass .deadlineAt) >>=
        fun _ => n) post Left := by
  rw [serveConfig, absoluteDeadline]
  cases ctx.deadlineMs with
  | none => exact hf none
  | some deadlineMs =>
      exact simulates_pass .deadlineAt (framed_bind framed_orRaise fun _ => framed_pure)
        (fun _ => ()) hf

def taken (reply : QueueReply Float) (state : ServeState) : ServeState :=
  match reply with
  | .granted _ => state.takeTicket
  | _ => state

abbrev waited (reply : QueueReply Float) (state : ServeState) : ServeState :=
  taken reply ((state.addPending 1).addPending (-1))

theorem ensures_waited {state : ServeState} {worker : String} {klass : WorkloadClass}
    {deadlineAt : Option Float} :
    Ensures (Linked Body token state)
      (do
        ask (.addPending worker 1 : HandlerCall Float)
        let reply : QueueReply Float ←
          ask (.queueAcquire worker klass estTokens deadlineAt : HandlerCall Float)
        ask (.addPending worker (-1) : HandlerCall Float)
        pure reply)
      (fun reply => Linked Body token (waited reply state))
      Never := by
  apply ensures_bind (ensures_shared (fun _ state => state.addPending 1)
    fun history locals _ => by rw [view, held_concat]; rfl)
  intro _
  apply ensures_bind (ensures_shared (c := .queueAcquire worker klass estTokens deadlineAt) taken
    fun history locals reply => by rw [view, held_concat]; cases reply <;> rfl)
  intro reply
  apply ensures_bind (ensures_shared (fun _ state => state.addPending (-1))
    fun history locals _ => by rw [view, held_concat]; rfl)
  intro _
  apply ensures_pure
  intro history locals h
  cases reply <;> exact h

theorem runs_waitForSlot {k : Serve.QueueReply → ServeM δ} (reply : Serve.QueueReply)
    {state final : ServeState} {log : List (Exchange Serve.ServeReply)}
    {result : Except Serve.ServeError δ}
    (hrun : (k reply).Runs ((state.addPending 1).addPending (-1)) log result final) :
    ∃ log', (Serve.waitForSlot >>= k).Runs state log' result final := by
  have hcounted : ((modify fun state => state.addPending (-1)) >>= fun _ => pure reply :
      ServeM Serve.QueueReply).Runs (state.addPending 1) [] (.ok reply)
        ((state.addPending 1).addPending (-1)) :=
    runs_pure_iff.mpr ⟨rfl, rfl, rfl⟩
  obtain ⟨before, hwait⟩ := runs_await .queueAcquire (k := fun reply : Serve.QueueReply =>
    (modify fun state => state.addPending (-1)) >>= fun _ => pure reply) reply hcounted
  exact ⟨_, runs_bind_iff.mpr (.inl ⟨before, reply, _, log, rfl,
    runs_modify_bind_iff.mpr hwait, hrun⟩)⟩

theorem simulates_enqueue :
    Serves cfg streamed token estTokens (enqueue cfg ctx experiment decision estTokens now)
      (Serve.enqueue (serveConfig cfg ctx estTokens) streamed) := by
  apply simulates_absoluteDeadline
  intro deadlineAt
  apply simulates_calm (calm_ask fun _ _ => rfl)
  intro queueEnter
  apply simulates_left (fun state => ensures_waited)
  intro reply
  cases reply with
  | granted waitS =>
      apply simulates_of_runs (waited (.granted waitS : QueueReply Float))
      · exact simulates_calm calm_metric fun _ => simulates_granted
      · intro state log result final hrun
        exact runs_waitForSlot .granted (runs_modify_bind_iff.mpr hrun)
  | rejected reason =>
      apply simulates_of_runs (waited (.rejected reason : QueueReply Float))
      · exact simulates_calm calm_metric fun _ => simulates_queueRejected
      · intro state log result final hrun
        exact runs_waitForSlot (.rejected reason.label false) (runs_modify_bind_iff.mpr hrun)
  | cancelled =>
      apply simulates_of_runs (waited (.cancelled : QueueReply Float))
        (n := (modify fun state => state.releaseLease true) >>= fun _ =>
          throw (.interrupted .cancelled))
      · apply simulates_calm calm_metric
        intro _
        exact simulates_bind (simulates_releaseLease true) fun _ _ =>
          simulates_throw fun _ _ _ h => h.sameLedger
      · intro state log result final hrun
        exact runs_waitForSlot .cancelled hrun

theorem simulates_placed :
    Serves cfg streamed token estTokens (placed cfg ctx experiment decision estTokens now)
      (Serve.enqueue (serveConfig cfg ctx estTokens) streamed) := by
  apply simulates_calm calm_metric
  intro _
  apply simulates_calm (calm_onlyIf calm_metric)
  intro _
  apply simulates_calm (calm_ask fun _ _ => rfl)
  intro _
  apply simulates_calm calm_setCorrelation
  intro _
  exact simulates_calm calm_log fun _ => simulates_enqueue

def misplaced : Except PlacementError (PlacementDecision Float) → Option String
  | .ok _ => none
  | .error error => some error.label

theorem simulates_place {controls : Controls} :
    Serves cfg streamed token estTokens (place cfg ctx experiment controls estTokens now)
      (Serve.place (serveConfig cfg ctx estTokens) streamed) := by
  apply simulates_calm (calm_ask fun _ _ => rfl)
  intro _
  apply simulates_pass .pick (framed_timed framed_pickWorker) misplaced
  intro answer
  cases answer with
  | ok decision => exact simulates_placed
  | error error => exact simulates_calm calm_metric fun _ => simulates_overflowOrReject rfl

def shedOf : Admission Float → Option Serve.ShedReply
  | .error shed => some ⟨shed.code, shed.reason, shed.neverOverflow⟩
  | .ok _ => none

theorem simulates_admission {controls : Controls} :
    Simulates (Linked Body token) (admission cfg ctx controls estTokens now)
      (Serve.admission ⟨controls.quotaOff, controls.admissionOff⟩) (Agrees Body token shedOf)
      Left := by
  rw [admission, Serve.admission]
  cases hoff : controls.admissionOff with
  | true => exact simulates_pure fun _ _ _ h => ⟨h, rfl⟩
  | false =>
      have hadmission : Framed quietFrame (admission cfg ctx controls estTokens now) :=
        framed_admission
      rw [admission, hoff] at hadmission
      exact simulates_passed .shouldShed (fun _ => ensures_framed hadmission) shedOf

theorem simulates_noLease :
    Matches Body token (modify fun locals => { locals with lease := .noLease } :
      HandlerM Float PUnit) (modify fun state => { state with lease := .noLease } : ServeM PUnit) :=
  simulates_modify fun _ =>
    ensures_local (fun locals => { locals with lease := .noLease })
      (fun state => { state with lease := .noLease }) (fun _ => rfl) fun _ _ => rfl

def Acquired (Body : Option (Payload Float) → Prop) (token : Option Nat)
    (reply : Except QuotaShed Unit) (state : ServeState) (history : HandlerLog Float)
    (locals : Locals Float) : Prop :=
  match reply with
  | .ok () => Linked Body token state.takeLease history { locals with lease := .held }
  | .error _ => Linked Body token state history locals

theorem ensures_acquire {state : ServeState} :
    Ensures (Linked Body token state)
      (ask (.quotaAcquire ctx.headers.tenantId estTokens now : HandlerCall Float))
      (fun reply => Acquired Body token reply state) Never := by
  apply ensures_ask
  rintro (shed | ⟨⟨⟩⟩) history locals h
  · exact ⟨h.body, by rw [view, held_concat]; exact h.view⟩
  · refine ⟨h.body, ?_⟩
    rw [view, held_concat]
    exact congrArg ServeState.takeLease h.view

theorem simulates_admitRequest {controls : Controls} :
    Simulates (Linked Body token) (admitRequest cfg ctx controls estTokens now)
      (Serve.admitRequest ⟨controls.quotaOff, controls.admissionOff⟩) (Agrees Body token shedOf)
      Left := by
  rw [admitRequest, Serve.admitRequest]
  cases controls.quotaOff with
  | true => exact simulates_bind simulates_noLease fun _ _ => simulates_admission
  | false =>
      apply simulates_left fun _ => ensures_acquire
      rintro (shed | ⟨⟨⟩⟩)
      · exact simulates_awaiting .quotaAcquire
          (some ⟨shed.code, shed.reason.label, shed.neverOverflow⟩)
          (simulates_pure fun _ _ _ h => ⟨h, rfl⟩)
      · refine simulates_left (fun state => (ensures_modify fun _ _ h => h :
          Ensures _ _ (fun _ => Linked Body token state.takeLease) _)) fun _ => ?_
        apply simulates_of_runs ServeState.takeLease simulates_admission
        intro state log result final hrun
        exact runs_await .quotaAcquire none (runs_modify_bind_iff.mpr hrun)

end Admission

section Request

variable {Body : Option (Payload Float) → Prop} {token : Option Nat} {α β γ δ : Type}
  {cfg : HandlerConfig Float} {ctx : Context Float} {streamed : Bool} {estTokens : Int}
  {experiment : ExperimentHeaders} {controls : Controls} {request : Request Float}

theorem stable_agrees {n : ServeM β} {state : ServeState} {of : α → β} {a : α} :
    quietFrame.Stable fun (history : HandlerLog Float) locals =>
      ∃ log b final, n.Runs state log (.ok b) final ∧ Agrees Body token of a b final history
        locals where
  change history locals next hchange h := by
    obtain ⟨log, b, final, hrun, hlinked, hb⟩ := h
    exact ⟨log, b, final, hrun, (stable_linked final).change _ _ _ hchange hlinked, hb⟩
  call x history locals hcall h := by
    obtain ⟨log, b, final, hrun, hlinked, hb⟩ := h
    exact ⟨log, b, final, hrun, (stable_linked final).call _ _ _ hcall hlinked, hb⟩

theorem stable_left {n : ServeM β} {state : ServeState} :
    quietFrame.Stable fun (history : HandlerLog Float) locals =>
      ∃ log error final, n.Runs state log (.error error) final ∧
        SameLedger final history locals where
  change _ _ _ _ h := h
  call x history locals hcall h := by
    obtain ⟨log, error, final, hrun, hledger⟩ := h
    exact ⟨log, error, final, hrun, (stable_sameLedger final).call _ _ locals hcall hledger⟩

def TimedEnd (Body : Option (Payload Float) → Prop) (token : Option Nat) (n : ServeM β)
    (of : α → β) (state : ServeState) (outcome : Except HandlerError α)
    (history : HandlerLog Float) (locals : Locals Float) : Prop :=
  match outcome with
  | .ok a => ∃ log b final, n.Runs state log (.ok b) final ∧
      Agrees Body token of a b final history locals
  | .error _ => ∃ log error final, n.Runs state log (.error error) final ∧
      SameLedger final history locals

theorem simulates_timed {stage : String} {klass : WorkloadClass} {m : HandlerM Float α}
    {n : ServeM β} {of : α → β}
    (hm : Simulates (Linked Body token) m n (Agrees Body token of) Left) :
    Simulates (Linked Body token) (timed stage klass m) n (Agrees Body token of) Left := by
  intro state
  refine ensures_bind (?_ : Ensures _ _ (TimedEnd Body token n of state) _) ?_
  · exact ensures_attempt (hm state)
  · intro outcome
    cases outcome with
    | ok a =>
        apply ensures_bind (calm_metric.keeps stable_agrees)
        exact fun _ => ensures_pure fun _ _ h => h
    | error error =>
        apply ensures_bind (calm_metric.keeps stable_left)
        exact fun _ => ensures_throw fun _ _ h => h

theorem simulates_shedResponse {shed : LocalShed Float} :
    Serves cfg streamed token estTokens (shedResponse cfg ctx shed)
      (Serve.overflowOrReject (serveConfig cfg ctx estTokens) streamed shed.code shed.reason
      shed.neverOverflow) := by
  apply simulates_calm calm_metric
  intro _
  apply simulates_calm calm_metric
  intro _
  exact simulates_calm calm_metric fun _ => simulates_overflowOrReject rfl

theorem simulates_serveGuarded {body : Payload Float}
    (hest : estimatePromptTokens cfg.lib body ctx.headers.estimatedPromptTokens = estTokens) :
    Serves cfg streamed token estTokens (serveGuarded cfg ctx experiment controls body)
      (Serve.serveGuarded (serveConfig cfg ctx estTokens) ⟨controls.quotaOff, controls.admissionOff⟩
      streamed) := by
  subst hest
  apply simulates_calm (calm_ask fun _ _ => rfl)
  intro now
  apply simulates_bind (simulates_timed simulates_admitRequest)
  apply simulates_agreeing
  intro result
  cases result with
  | error shed => exact simulates_shedResponse
  | ok inputs =>
      apply simulates_calm calm_metric
      intro _
      apply simulates_calm calm_metric
      intro _
      exact simulates_calm calm_log fun _ => simulates_place

abbrev Ended (estTokens : Int) (response : Response Float) (response' : Serve.Response)
    (state : ServeState) (history : HandlerLog Float) (locals : Locals Float) : Prop :=
  Answered (fun _ => True) estTokens response response' state history locals

theorem Answered.ended {response : Response Float} {response' : Serve.Response}
    {history : HandlerLog Float} {locals : Locals Float} {state : ServeState}
    (h : Answered Body estTokens response response' state history locals) :
    Ended estTokens response response' state history locals := by
  obtain ⟨token, hlinked, halike⟩ := h
  exact ⟨token, hlinked.mono fun _ _ => trivial, halike⟩

def refusedBy (body : Option (Payload Float)) (verdict : Guard) : Option Nat :=
  match body, verdict.ok with
  | some _, true => none
  | _, _ => some verdict.httpStatus

theorem simulates_refused {verdict : Guard} :
    Simulates (Linked Body token)
      (do
        metric (.guardReject verdict.code)
        reject ctx
          { status := verdict.httpStatus, code := verdict.code, reason := verdict.reason,
            stage := "guard"
            headers :=
              [("x-guard-decision", "reject:" ++ verdict.code),
                ("x-admit-decision", "not_evaluated")] })
      (Serve.reject verdict.httpStatus) (Ended estTokens) Left :=
  simulates_calm calm_metric fun _ =>
    simulates_reject.weaken (fun _ _ _ h => h) fun _ _ _ _ _ h => Answered.ended ⟨_, h⟩

def inspected (config : ServeConfig) (controls : Serve.Controls) (streamed : Bool) :
    Option Nat → ServeM Serve.Response
  | some status => Serve.reject status
  | none => Serve.serveGuarded config controls streamed

theorem simulates_verdict {body : Option (Payload Float)} (verdict : Guard)
    (hest : ∀ payload, body = some payload →
      estimatePromptTokens cfg.lib payload ctx.headers.estimatedPromptTokens = estTokens) :
    Simulates (Linked (· = body) token)
      (match body, verdict.ok with
        | some body, true => serveGuarded cfg ctx experiment controls body
        | _, _ => do
            metric (.guardReject verdict.code)
            reject ctx
              { status := verdict.httpStatus, code := verdict.code, reason := verdict.reason,
                stage := "guard"
                headers :=
                  [("x-guard-decision", "reject:" ++ verdict.code),
                    ("x-admit-decision", "not_evaluated")] })
      (Serve.await .inspect >>= inspected (serveConfig cfg ctx estTokens)
        ⟨controls.quotaOff, controls.admissionOff⟩ ((body.map (streams cfg.lib)).getD false))
      (Ended estTokens) Left := by
  cases body with
  | none => exact simulates_awaiting .inspect (some verdict.httpStatus) simulates_refused
  | some body =>
      cases hok : verdict.ok with
      | false => exact simulates_awaiting .inspect (some verdict.httpStatus) simulates_refused
      | true =>
          refine simulates_awaiting .inspect none ?_
          refine Simulates.weaken (simulates_serveGuarded (hest body rfl) :
            Serves cfg (streams cfg.lib body) token estTokens _ _) ?_ ?_
          · exact fun _ _ _ h => h.mono fun _ hbody => ⟨body, hbody, rfl⟩
          · exact fun _ _ _ _ _ h => h.ended

theorem ensures_guarded {state : ServeState} {body : Option (Payload Float)}
    {post : Response Float → HandlerLog Float → Locals Float → Prop}
    (hraised : inspect cfg.lib cfg.getenv body ctx.headers.estimatedPromptTokens = none) :
    Ensures (Linked (· = body) token state)
      (guarded cfg ctx experiment controls) post fun _ => SameLedger state := by
  have hraise : Ensures (Linked (· = body) token state)
      (do
        metric (.stageDuration "guard" ctx.klass)
        throw (.interrupted .raised)) post fun _ => SameLedger state :=
    ensures_bind (calm_metric.keeps (stable_linked state)) fun _ =>
      ensures_throw fun _ _ h => h.sameLedger
  apply ensures_get_bind
  rintro _ history locals ⟨rfl, h⟩
  rw [h.body, hraised]
  exact hraise history locals h

theorem simulates_guarded {body : Option (Payload Float)} {verdict : Guard}
    (hest : ∀ payload, body = some payload →
      estimatePromptTokens cfg.lib payload ctx.headers.estimatedPromptTokens = estTokens)
    (hverdict : inspect cfg.lib cfg.getenv body ctx.headers.estimatedPromptTokens = some verdict) :
    Simulates (Linked (· = body) token) (guarded cfg ctx experiment controls)
      (Serve.await .inspect >>= inspected (serveConfig cfg ctx estTokens)
        ⟨controls.quotaOff, controls.admissionOff⟩ ((body.map (streams cfg.lib)).getD false))
      (Ended estTokens) Left := by
  intro state
  apply ensures_get_bind
  rintro _ history locals ⟨rfl, h⟩
  rw [h.body, hverdict]
  exact simulates_calm calm_metric (fun _ => simulates_verdict verdict hest) state history locals h

def requestBody (request : Request Float) : Option (Payload Float) :=
  match request.json with
  | .ok json => Payload.ofJson json
  | .error _ => none

def Request.serveConfig (cfg : HandlerConfig Float) (request : Request Float) : ServeConfig where
  estTokens := ((requestBody request).map fun body =>
    estimatePromptTokens cfg.lib body request.headers.estimatedPromptTokens).getD 0
  overflowActive := cfg.overflow.active
  hasDeadline := (intOrNone cfg.lib request.headers.deadlineMs).isSome

theorem ensures_begin {state : ServeState} {json : Option (PyValue Float)} :
    Ensures (Linked Body token state) (begin cfg request json)
      (fun ctx history locals =>
        Linked (· = Payload.ofJson json) token state history locals ∧
          ∃ started, ctx = ⟨request.headers, started, intOrNone cfg.lib request.headers.deadlineMs,
            request.headers.klass⟩) Never := by
  have hread (c : HandlerCall Float) (hc : quietFrame.call c) :
      Ensures (Linked Body token state)
        (ask c : HandlerM Float (HandlerReply c))
        (fun _ => Linked Body token state) Never :=
    (calm_ask hc).keeps (stable_linked state)
  apply ensures_bind (hread .monotonic fun _ _ => rfl)
  intro started
  apply ensures_bind (hread .time fun _ _ => rfl)
  intro receivedAt
  refine ensures_bind
    (?_ : Ensures _ _ (fun _ => Linked (· = Payload.ofJson json) token state) _) ?_
  · exact ensures_modify fun _ _ h => ⟨rfl, by rw [h.view, view, view]⟩
  · exact fun _ => ensures_pure fun _ _ h => ⟨h, started, rfl⟩

/-- The handler from the controls on, in the smaller model. -/
def controlled (config : ServeConfig) (body : Serve.RequestBody) :
    Option Serve.Controls → ServeM Serve.Response
  | none => Serve.reject 400
  | some controls => Serve.await .inspect >>= inspected config controls (body.getD false)

theorem runs_controlled {config : ServeConfig} (body : Serve.RequestBody)
    (controls : Option Serve.Controls) {state final : ServeState}
    {log : List (Exchange Serve.ServeReply)} {result : Except Serve.ServeError Serve.Response}
    (hrun : (controlled config body controls).Runs state log result final) :
    ∃ log', (Serve.serveCompletion config).Runs state log' result final := by
  obtain ⟨log', hcontrolled⟩ := runs_await .experimentControls (k := controlled config body)
    controls hrun
  exact runs_pass .readBody (k := fun body => Serve.await .experimentControls >>=
    controlled config body) body hcontrolled

theorem raised_readBody (config : ServeConfig) (state : ServeState) :
    ∃ log, (Serve.serveCompletion config).Runs state log (.error (.interrupted .raised)) state :=
  runs_pass_raised .readBody
    (fun body => Serve.await .experimentControls >>= controlled config body) state

theorem simulates_controls {experimentControls : Option Controls} {body : Option (Payload Float)}
    (hbody : requestBody request = body) (hctx : ctx.headers = request.headers)
    (hdeadline : ctx.deadlineMs = intOrNone cfg.lib request.headers.deadlineMs) :
    Simulates (Linked (· = body) token)
      (match experimentControls with
        | none => do
            noteControls cfg {} request.experiment.admissionMode
            let response ← reject ctx
              { status := 400, code := "invalid_experiment_control"
                reason := "unsupported experiment control header value", stage := "guard" }
            pure (ctx, response)
        | some controls => do
            noteControls cfg controls request.experiment.admissionMode
            let response ← guarded cfg ctx request.experiment controls
            pure (ctx, response))
      (Serve.serveCompletion (request.serveConfig cfg))
      (fun answer => Ended (request.serveConfig cfg).estTokens answer.2) Left := by
  have hest (payload : Payload Float) (hsome : body = some payload) :
      estimatePromptTokens cfg.lib payload ctx.headers.estimatedPromptTokens =
        (request.serveConfig cfg).estTokens := by
    rw [Request.serveConfig, hbody, hsome, hctx]
    rfl
  have hconfig : serveConfig cfg ctx (request.serveConfig cfg).estTokens =
      request.serveConfig cfg := by
    rw [serveConfig, hdeadline]
    rfl
  cases experimentControls with
  | none =>
      apply simulates_of_runs id (n := Serve.reject 400)
      · apply simulates_calm calm_noteControls
        intro _
        apply Simulates.map
        exact simulates_reject.weaken (fun _ _ _ h => h) fun _ _ _ _ _ h => Answered.ended ⟨_, h⟩
      · intro state log result final hrun
        exact runs_controlled none none hrun
  | some controls =>
      cases hverdict : inspect cfg.lib cfg.getenv body ctx.headers.estimatedPromptTokens with
      | none =>
          intro state
          apply ensures_bind (calm_noteControls.keeps (stable_linked state))
          intro _
          refine ensures_bind (?_ : Ensures _ _ (fun _ _ _ => False) _) fun _ _ _ h => h.elim
          apply (ensures_guarded hverdict).weaken (fun _ _ h => h)
          · exact fun _ _ _ h => h
          · intro error history _ h
            obtain ⟨log, hrun⟩ := raised_readBody (request.serveConfig cfg) state
            exact ⟨log, _, state, hrun, h⟩
      | some verdict =>
          refine simulates_of_runs id ?_ fun _ _ _ _ =>
            runs_controlled (body.map (streams cfg.lib))
              (some ⟨controls.quotaOff, controls.admissionOff⟩)
          rw [← hconfig]
          exact simulates_calm calm_noteControls fun _ =>
            Simulates.map (simulates_guarded hest hverdict)

theorem simulates_serveCompletion :
    Simulates (Linked (fun _ => True) token) (serveCompletion cfg request)
      (Serve.serveCompletion (request.serveConfig cfg))
      (fun answer => Ended (request.serveConfig cfg).estTokens answer.2) Left := by
  rw [serveCompletion]
  cases hjson : request.json with
  | error interruption =>
      intro state
      refine ensures_bind (?_ : Ensures _ _ (fun _ _ _ => False) _) fun _ _ _ h => h.elim
      apply ensures_throw
      intro history locals h
      obtain ⟨log, hrun⟩ := raised_readBody (request.serveConfig cfg) state
      exact ⟨log, _, state, hrun, h.sameLedger⟩
  | ok json =>
      apply simulates_left (m := begin cfg request json) fun _ => ensures_begin
      intro ctx
      apply Simulates.of_pre fun _ _ _ h => h.2
      rintro ⟨started, rfl⟩
      have hbody : requestBody request = Payload.ofJson json := by rw [requestBody, hjson]
      exact (simulates_controls hbody rfl rfl).weaken (fun _ _ _ h => h.1) fun _ _ _ _ _ h => h

end Request

section Stream

variable {Body : Option (Payload Float) → Prop} {token : Option Nat} {α β γ δ : Type}
  {cfg : HandlerConfig Float} {ctx : Context Float} {dispatched : Dispatched} {reason : String}
  {request : Request Float} {source : Source} {headers : Headers} {state : ServeState}

def Leaves (n : ServeM Unit) (state : ServeState) (history : HandlerLog Float)
    (locals : Locals Float) : Prop :=
  ∃ log final, n.Runs state log (.ok ()) final ∧ SameLedger final history locals

/-- A generator of the smaller model always returns, even where the handler's raises. -/
def Drains (Body : Option (Payload Float) → Prop) (token : Option Nat) (m : HandlerM Float α)
    (n : ServeM Unit) : Prop :=
  ∀ state, Ensures (Linked Body token state) m
    (fun _ history locals => ∃ log final, n.Runs state log (.ok ()) final ∧
      Linked Body token final history locals)
    fun _ => Leaves n state

def streamClosed (reply : Except Interruption Unit) : ServeM Bool :=
  match reply with
  | .error _ => pure false
  | .ok () => pure true

def streamLeft (suppress : Bool) (reply : Except Interruption Unit) : ServeM Bool :=
  match if suppress then Serve.suppressed reply else reply with
  | .error _ => pure false
  | .ok () => Serve.await .closeStream >>= streamClosed

theorem runs_leaveStream (suppress left : Bool) (state : ServeState) :
    ∃ log, (Serve.leaveStream suppress).Runs state log (.ok left) state := by
  cases left with
  | true =>
      have hclose : (streamClosed (.ok ())).Runs state [] (.ok true) state :=
        runs_pure_iff.mpr ⟨rfl, rfl, rfl⟩
      obtain ⟨log, hclosed⟩ := runs_await .closeStream (k := streamClosed) (.ok ()) hclose
      have hexit : (streamLeft suppress (.ok ())).Runs state log (.ok true) state := by
        cases suppress <;> exact hclosed
      exact runs_await .exitStream (k := streamLeft suppress) (.ok ()) hexit
  | false =>
      have hexit : (streamLeft suppress (.error .cancelled)).Runs state [] (.ok false) state := by
        cases suppress <;> exact runs_pure_iff.mpr ⟨rfl, rfl, rfl⟩
      exact runs_await .exitStream (k := streamLeft suppress) (.error .cancelled) hexit

def relayEnded (config : ServeConfig) (fate : Serve.RelayFate) : ServeM Unit :=
  (modify fun state => state.release config.estTokens (match fate with
    | .failed => 502
    | _ => 200)) >>= fun _ => Serve.leaveStream false >>= fun _ => pure ()

theorem runs_relayEnded (config : ServeConfig) (fate : Serve.RelayFate) (state : ServeState) :
    ∃ log, (relayEnded config fate).Runs state log (.ok ())
      (state.release config.estTokens (match fate with
        | .failed => 502
        | _ => 200)) := by
  obtain ⟨log, hleft⟩ := runs_leaveStream false true _
  exact ⟨_, runs_modify_bind_iff.mpr (runs_bind_iff.mpr (.inl
    ⟨log, true, _, [], rfl, hleft, runs_pure_iff.mpr ⟨rfl, rfl, rfl⟩⟩))⟩

theorem runs_relayWorker (config : ServeConfig) (fate : RelayFate) (state : ServeState) :
    ∃ log, (Serve.relayWorker config).Runs state log (.ok ())
      (state.release config.estTokens (match fate with
        | .failed _ _ _ => 502
        | _ => 200)) := by
  cases fate with
  | failed =>
      obtain ⟨log, hrun⟩ := runs_relayEnded config .failed state
      exact runs_await .relayStream (k := relayEnded config) .failed hrun
  | _ =>
      obtain ⟨log, hrun⟩ := runs_relayEnded config .finished state
      exact runs_await .relayStream (k := relayEnded config) .finished hrun

theorem drains_relayWorker (htoken : token = some dispatched.token.toNat) {config : ServeConfig}
    (hest : dispatched.estTokens = config.estTokens) :
    Drains Body token (relayWorker cfg ctx dispatched) (Serve.relayWorker config) := by
  intro state
  apply ensures_bind (calm_relayed.keeps (stable_linked state))
  intro reply
  apply ensures_bind (ensures_release htoken _).of_never
  intro _
  obtain ⟨log, hrun⟩ := runs_relayWorker config reply.fate state
  rw [hest]
  apply (ensures_framed (framed_bind framed_leave fun _ => framed_bind framed_close fun _ =>
    framed_pure)).weaken (fun _ _ h => h)
  · exact fun _ _ _ h => ⟨log, _, hrun, h⟩
  · exact fun _ _ _ h => ⟨log, _, hrun, h⟩

theorem runs_relayOverflow (left : Bool) (state : ServeState) :
    ∃ log, Serve.relayOverflow.Runs state log (.ok ())
      (if left then state.overflowFinished else state) := by
  obtain ⟨log, hleft⟩ := runs_leaveStream true left state
  have hdone : (Serve.onlyIf left (modify ServeState.overflowFinished)).Runs state [] (.ok ())
      (if left then state.overflowFinished else state) := by
    cases left
    · exact runs_pure_iff.mpr ⟨rfl, rfl, rfl⟩
    · exact runs_modify_iff.mpr ⟨rfl, rfl, rfl⟩
  exact runs_await .relayStream (k := fun _ => Serve.leaveStream true >>= fun left =>
    Serve.onlyIf left (modify ServeState.overflowFinished)) .finished
    (runs_bind_iff.mpr (.inl ⟨log, left, state, [], rfl, hleft, hdone⟩))

theorem drains_relayOverflow :
    Drains Body token (relayOverflow cfg ctx reason) Serve.relayOverflow := by
  intro state
  obtain ⟨log, hraised⟩ := runs_relayOverflow false state
  obtain ⟨log', hrun⟩ := runs_relayOverflow true state
  have hframed {β : Type} {m : HandlerM Float β} (hm : Framed quietFrame m) :
      Ensures (Linked Body token state) m (fun _ => Linked Body token state) fun _ =>
        Leaves Serve.relayOverflow state :=
    (ensures_framed hm).weaken (fun _ _ h => h) (fun _ _ _ h => h) fun _ _ _ h =>
      ⟨log, state, hraised, h⟩
  apply ensures_bind (hframed calm_relayed.framed)
  intro reply
  apply ensures_bind (hframed calm_overflowFate.framed)
  intro status
  apply ensures_bind (hframed (framed_ask fun _ _ => rfl))
  intro left
  apply ensures_bind (hframed framed_orInterrupted)
  intro _
  apply ensures_bind (hframed framed_close)
  intro _
  apply ensures_bind (ensures_once status).of_never
  exact fun _ => ensures_pure fun _ _ h => ⟨log', _, hrun, h⟩

theorem runs_streamBody {generator : ServeM Unit} (clean : ServeState → ServeState)
    {started : Bool} {mid : ServeState} {log : List (Exchange Serve.ServeReply)}
    (hrun : (Serve.onlyIf started generator).Runs state log (.ok ()) mid) (background : Bool) :
    ∃ log', (Serve.streamBody generator clean).Runs state log' (.ok ())
      (if background then clean mid else mid) := by
  have hclean : (Serve.onlyIf background (modify clean)).Runs mid [] (.ok ())
      (if background then clean mid else mid) := by
    cases background
    · exact runs_pure_iff.mpr ⟨rfl, rfl, rfl⟩
    · exact runs_modify_iff.mpr ⟨rfl, rfl, rfl⟩
  obtain ⟨rest, hrest⟩ := runs_await .runBackground
    (k := fun background : Bool => Serve.onlyIf background (modify clean)) background hclean
  exact runs_await .startStream
    (k := fun started : Bool => Serve.onlyIf started generator >>= fun _ =>
      Serve.await .runBackground >>= fun background : Bool =>
        Serve.onlyIf background (modify clean)) started
    (runs_bind_iff.mpr (.inl ⟨log, (), mid, rest, rfl, hrun, hrest⟩))

def EndsIn (Body : Option (Payload Float) → Prop) (token : Option Nat) (state : ServeState)
    (m : HandlerM Float α) (P : HandlerLog Float → Locals Float → Prop) : Prop :=
  Ensures (Linked Body token state) m (fun _ => P) fun _ => P

theorem endsIn_background {generator : ServeM Unit} {clean : ServeState → ServeState}
    {started : Bool} {mid : ServeState} {log : List (Exchange Serve.ServeReply)}
    {records : List String}
    (hrun : (Serve.onlyIf started generator).Runs state log (.ok ()) mid)
    (hclean : EndsIn Body token mid (cleanup ctx source) (SameLedger (clean mid))) :
    EndsIn Body token mid
      (do
        let background : Bool ← ask (.runBackground : HandlerCall Float)
        onlyIf background (cleanup ctx source)
        pure records)
      (Leaves (Serve.streamBody generator clean) state) := by
  apply ensures_bind ((calm_ask (c := .runBackground) fun _ _ => rfl).keeps (stable_linked mid))
  intro (background : Bool)
  obtain ⟨log', hrun'⟩ := runs_streamBody clean hrun background
  have hsame (history : HandlerLog Float) (locals : Locals Float)
      (h : SameLedger (if background then clean mid else mid) history locals) :
      Leaves (Serve.streamBody generator clean) state history locals := ⟨log', _, hrun', h⟩
  refine ensures_bind
    (?_ : Ensures _ _ (fun _ => Leaves (Serve.streamBody generator clean) state) _) ?_
  · cases background with
    | false => exact ensures_pure fun _ _ h => hsame _ _ h.sameLedger
    | true => exact Ensures.weaken hclean (fun _ _ h => h) (fun _ => hsame) fun _ => hsame
  · exact fun _ => ensures_pure fun _ _ h => h

theorem endsIn_stream {generator : ServeM Unit} {clean : ServeState → ServeState}
    (hrelay : Drains Body token (relaySource cfg ctx source) generator)
    (hclean : ∀ state, EndsIn Body token state (cleanup ctx source) (SameLedger (clean state))) :
    EndsIn Body token state (sendBody cfg ctx (.stream source headers))
      (Leaves (Serve.streamBody generator clean) state) := by
  have hgenerate (started : Bool) : Drains Body token (generate cfg ctx source started)
      (Serve.onlyIf started generator) := by
    cases started with
    | false => exact fun state => ensures_pure fun _ _ h =>
        ⟨[], state, runs_pure_iff.mpr ⟨rfl, rfl, rfl⟩, h⟩
    | true => exact hrelay
  apply ensures_bind ((calm_ask (c := .startStream) fun _ _ => rfl).keeps (stable_linked state))
  intro started
  apply ensures_bind
  · apply (hgenerate started state).weaken (fun _ _ h => h) (fun _ _ _ h => h)
    rintro error history locals ⟨log, final, hrun, hledger⟩
    obtain ⟨log', hrun'⟩ := runs_streamBody clean hrun false
    exact ⟨log', final, hrun', hledger⟩
  · rintro records history locals ⟨log, mid, hrun, h⟩
    exact endsIn_background hrun (hclean mid) history locals h

theorem endsIn_close {next : ServeState} {m : HandlerM Float Unit}
    (hm : Becomes Body token state m next) :
    EndsIn Body token state (m >>= fun _ => close) (SameLedger next) :=
  ensures_bind hm.of_never fun _ => (ensures_framed framed_close).weaken (fun _ _ h => h)
    (fun _ _ _ h => h.sameLedger) fun _ _ _ h => h

theorem endsIn_sendBody {config : ServeConfig} {response : Response Float}
    {response' : Serve.Response} (halike : Alike config.estTokens token response response') :
    EndsIn Body token state (sendBody cfg ctx response)
      (Leaves (Serve.sendBody config response') state) := by
  cases halike with
  | json =>
      exact ensures_pure fun _ _ h =>
        ⟨[], state, runs_pure_iff.mpr ⟨rfl, rfl, rfl⟩, h.sameLedger⟩
  | worker dispatched headers hest htoken =>
      apply endsIn_stream (drains_relayWorker htoken hest)
      intro state
      rw [← hest]
      exact endsIn_close (ensures_release htoken 499)
  | overflow reason headers =>
      exact endsIn_stream drains_relayOverflow fun _ => endsIn_close (ensures_once 499)

/-- The smaller model has a run that leaves the counters as the handler does. -/
def Served (config : ServeConfig) (history : HandlerLog Float) (locals : Locals Float) : Prop :=
  ∃ log result final, (Serve.serveRequest config).Runs {} log result final ∧
    SameLedger final history locals

theorem endsIn_serveRequest :
    EndsIn (fun _ => True) none {} (serveRequest cfg request)
      (Served (request.serveConfig cfg)) := by
  apply ensures_bind
  · apply (simulates_serveCompletion {}).weaken (fun _ _ h => h) (fun _ _ _ h => h)
    rintro error history locals ⟨log, error', final, hrun, hledger⟩
    exact ⟨log, .error error', final, runs_bind_iff.mpr (.inr ⟨error', hrun, rfl⟩), hledger⟩
  · rintro answer history locals ⟨log, response', mid, hrun, token, hlinked, halike⟩
    have hsent (history : HandlerLog Float) (locals : Locals Float)
        (h : Leaves (Serve.sendBody (request.serveConfig cfg) response') mid history locals) :
        Served (request.serveConfig cfg) history locals := by
      obtain ⟨rest, final, hbody, hledger⟩ := h
      exact ⟨_, _, final, runs_bind_iff.mpr (.inl ⟨log, response', mid, rest, rfl, hrun, hbody⟩),
        hledger⟩
    have hbody : EndsIn (fun _ => True) token mid
        (do
          let records ← sendBody cfg answer.1 answer.2
          pure (answer.2, records))
        (Served (request.serveConfig cfg)) :=
      ensures_bind (Ensures.weaken (endsIn_sendBody halike) (fun _ _ h => h) (fun _ => hsent)
        fun _ => hsent) fun _ => ensures_pure fun _ _ h => h
    exact hbody history locals hlinked

/-- Whatever the handler does, the smaller model can do, with the same effect on the counters that
the request shares with others. -/
theorem serveRequest_served {history : HandlerLog Float}
    {result : Except HandlerError (Response Float × List String)} {locals : Locals Float}
    (hrun : (serveRequest cfg request).Runs {} history result locals) :
    ∃ log result' final, (Serve.serveRequest (request.serveConfig cfg)).Runs {} log result' final ∧
      final.ledger = (held history).ledger := by
  have hend := endsIn_serveRequest [] {} ⟨trivial, rfl⟩ history result locals hrun
  cases result <;> exact hend

end Stream

end AiAnalytics.Gateway.Handler
