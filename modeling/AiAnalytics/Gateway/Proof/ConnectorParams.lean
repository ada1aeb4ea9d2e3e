import AiAnalytics.Gateway.Proof.ExperimentHeaders
import AiAnalytics.Gateway.Proof.HandlerSteps

/-!
# The caller's connector parameters

`hop.prepare` takes them out of the body on the way to a worker. Until then the handler's `body` is
the caller's, and so is what an overflow attempt forwards; from then on no payload carries them.
-/

namespace AiAnalytics.Gateway.Handler

open Lib Lib.Prog

variable {Float : Type}

section Payloads

theorem carriesCallers_set_model (payload : Payload Float) (name : String) :
    CarriesCallers (payload.set "model" (.model name)) ↔ CarriesCallers payload := by
  have hne : connectorKey ≠ "model" := by decide
  simp only [CarriesCallers, OrderedDict.get?_set, hne, if_false]

theorem not_carriesCallers_pop (payload : Payload Float) :
    ¬ CarriesCallers (payload.pop connectorKey) := by
  rintro ⟨value, hvalue⟩
  rw [OrderedDict.get?_pop, if_pos rfl] at hvalue
  cases hvalue

theorem not_carriesCallers_connector (payload : Payload Float) (params : HopParams Float) :
    ¬ CarriesCallers (payload.set connectorKey (.connector params)) := by
  rintro ⟨value, hvalue⟩
  rw [OrderedDict.get?_set_self] at hvalue
  cases hvalue

theorem carriesCallers_set_sent (payload : Payload Float) (key : String) (value : PyValue Float) :
    CarriesCallers (payload.set key (.sent value)) ↔ CarriesCallers payload ∨
      key = connectorKey := by
  by_cases hkey : connectorKey = key
  · subst hkey
    simp [CarriesCallers, OrderedDict.get?_set_self]
  · simp [CarriesCallers, OrderedDict.get?_set, hkey, Ne.symm hkey]

theorem carriesCallers_ofEntries (entries : List (String × PyValue Float)) :
    CarriesCallers (Payload.ofEntries entries) ↔ connectorKey ∈ entries.map Prod.fst := by
  have hfold : ∀ (entries : List (String × PyValue Float)) (payload : Payload Float),
      CarriesCallers (entries.foldl (fun payload entry => payload.set entry.1 (.sent entry.2))
        payload) ↔ CarriesCallers payload ∨ connectorKey ∈ entries.map Prod.fst := by
    intro entries
    induction entries with
    | nil => simp
    | cons entry entries ih =>
        intro payload
        rw [List.foldl_cons, ih, carriesCallers_set_sent, List.map_cons, List.mem_cons, or_assoc,
          @eq_comm _ entry.1]
  have hempty : ¬ CarriesCallers (.empty : Payload Float) := by
    rintro ⟨value, hvalue⟩
    cases hvalue
  rw [Payload.ofEntries, hfold]
  simp [hempty]

end Payloads

/-! ### What is sent where -/

section Sends

def isDispatch : HandlerCall Float → Bool
  | .noteDispatch _ => true
  | _ => false

def isOverflowSend : HandlerCall Float → Bool
  | .attempt _ (.send _) => true
  | _ => false

def payloadOf : HandlerCall Float → Option (Payload Float)
  | .send _ _ payload => some payload
  | .attempt _ (.send request) => some request.payload
  | _ => none

def WasDispatched (log : HandlerLog Float) : Prop := ∃ x ∈ log, isDispatch x.call = true

/-- From a point at which `dispatched` says whether the request has been dispatched, each payload
carries the caller's parameters exactly if the caller's body does and there has been no dispatch
yet; until then only the overflow provider is sent one. -/
def SendsMarked (carries : Prop) : Prop → HandlerLog Float → Prop
  | _, [] => True
  | dispatched, x :: log =>
      (∀ payload, payloadOf x.call = some payload →
        (CarriesCallers payload ↔ carries ∧ ¬ dispatched) ∧
          (isOverflowSend x.call = true ∨ dispatched)) ∧
        SendsMarked carries (dispatched ∨ isDispatch x.call = true) log

variable {carries dispatched : Prop}

theorem sendsMarked_append {before after : HandlerLog Float} :
    SendsMarked carries dispatched (before ++ after) ↔
      SendsMarked carries dispatched before ∧
      SendsMarked carries (dispatched ∨ WasDispatched before) after := by
  induction before generalizing dispatched with
  | nil => simp [SendsMarked, WasDispatched]
  | cons x before ih =>
      rw [List.cons_append, SendsMarked, SendsMarked, ih, and_assoc]
      have hmore : (dispatched ∨ isDispatch x.call = true) ∨ WasDispatched before ↔
          dispatched ∨ WasDispatched (x :: before) := by
        simp [WasDispatched, or_assoc]
      rw [propext hmore]

theorem sendsMarked_append_of_forall {before after : HandlerLog Float}
    (hafter : ∀ x ∈ after, payloadOf x.call = none) (h : SendsMarked carries dispatched before) :
    SendsMarked carries dispatched (before ++ after) := by
  refine sendsMarked_append.mpr ⟨h, ?_⟩
  generalize (dispatched ∨ WasDispatched before) = sent
  clear h
  induction after generalizing sent with
  | nil => trivial
  | cons x after ih =>
      obtain ⟨hx, hrest⟩ := List.forall_mem_cons.mp hafter
      refine ⟨fun payload hpayload => ?_, ih hrest _⟩
      rw [hx] at hpayload
      cases hpayload

theorem payloadOf_of_silent {call : HandlerCall Float} (h : SilentCall call) :
    payloadOf call = none := by
  cases call with
  | send => exact h.elim
  | attempt => exact h.elim
  | _ => rfl

theorem isDispatch_of_silent {call : HandlerCall Float} (h : SilentCall call) :
    isDispatch call = false := by
  cases call with
  | noteDispatch => exact h.elim
  | _ => rfl

end Sends

section Invariant

variable {α β : Type} {carries dispatched body : Prop} {cfg : HandlerConfig Float}
  {ctx : Context Float}

structure Stands (carries dispatched body : Prop) (history : HandlerLog Float)
    (locals : Locals Float) : Prop where
  marked : SendsMarked carries False history
  dispatch : WasDispatched history ↔ dispatched
  body : ∀ payload, locals.body = some payload → (CarriesCallers payload ↔ body)

def Marked (carries : Prop) (history : HandlerLog Float) (_ : Locals Float) : Prop :=
  SendsMarked carries False history

def Stays (carries dispatched body : Prop) (m : HandlerM Float α) : Prop :=
  Keeps (Stands carries dispatched body) (fun _ => Marked carries) m

theorem Stands.append {history log : HandlerLog Float} {locals next : Locals Float}
    (h : Stands carries dispatched body history locals)
    (hlog : ∀ x ∈ log, payloadOf x.call = none ∧ isDispatch x.call = false)
    (hbody : next.body = locals.body) :
    Stands carries dispatched body (history ++ log) next := by
  refine ⟨sendsMarked_append_of_forall (fun x hx => (hlog x hx).1) h.marked, ?_, ?_⟩
  · rw [← h.dispatch]
    constructor
    · rintro ⟨x, hx, hdispatch⟩
      rcases List.mem_append.mp hx with hx | hx
      · exact ⟨x, hx, hdispatch⟩
      · rw [(hlog x hx).2] at hdispatch
        cases hdispatch
    · rintro ⟨x, hx, hdispatch⟩
      exact ⟨x, List.mem_append_left _ hx, hdispatch⟩
  · rw [hbody]
    exact h.body

theorem stable_stands :
    silentFrame.Stable
      (Stands carries dispatched body : HandlerLog Float → Locals Float → Prop) where
  change _ _ _ hbody h := ⟨h.marked, h.dispatch, by rw [hbody]; exact h.body⟩
  call x history locals hsilent h := by
    apply h.append ?_ rfl
    intro y hy
    obtain rfl := List.mem_singleton.mp hy
    exact ⟨payloadOf_of_silent hsilent, isDispatch_of_silent hsilent⟩

theorem stays_of_silent {m : HandlerM Float α} (h : Silent m) :
    Stays carries dispatched body m :=
  h.keeps stable_stands fun _ _ _ hstands => hstands.marked

theorem marked_of_silent {m : HandlerM Float α} (h : Silent m) :
    Ensures (Marked carries) m (fun _ => Marked carries) fun _ => Marked carries := by
  refine h.keeps ⟨fun _ _ _ _ hmarked => hmarked, fun x _ _ hsilent hmarked => ?_⟩
    fun _ _ _ hmarked => hmarked
  apply sendsMarked_append_of_forall ?_ hmarked
  intro y hy
  obtain rfl := List.mem_singleton.mp hy
  exact payloadOf_of_silent hsilent

theorem Stays.marked {m : HandlerM Float α} (h : Stays carries dispatched body m) :
    Ensures (Stands carries dispatched body) m (fun _ => Marked carries) fun _ => Marked carries :=
  Ensures.weaken h (fun _ _ hstands => hstands) (fun _ _ _ hstands => hstands.marked)
    fun _ _ _ hmarked => hmarked

theorem stays_attemptCall (args : OverflowArgs) {call : AttemptCall Float}
    (hcall : payloadOf (.attempt args call : HandlerCall Float) = none) :
    Stays carries dispatched body (attemptCall args call) := by
  refine keeps_ask fun reply history locals h => h.append ?_ rfl
  intro x hx
  obtain rfl := List.mem_singleton.mp hx
  exact ⟨hcall, rfl⟩

theorem stands_send {call : HandlerCall Float} {payload : Payload Float}
    {history : HandlerLog Float} {locals : Locals Float} (reply : HandlerReply call)
    (hcall : payloadOf call = some payload)
    (hdispatch : isDispatch call = false) (hbody : body ↔ carries ∧ ¬ dispatched)
    (hto : isOverflowSend call = true ∨ dispatched) (hpayload : CarriesCallers payload ↔ body)
    (h : Stands carries dispatched body history locals) :
    Stands carries dispatched body (history ++ [⟨call, reply⟩]) locals := by
  refine ⟨sendsMarked_append.mpr ⟨h.marked, ?_, trivial⟩, ?_, h.body⟩
  · intro sent hsent
    obtain rfl := Option.some.inj (hcall.symm.trans hsent)
    rw [hpayload, hbody, h.dispatch, false_or]
    exact ⟨Iff.rfl, hto⟩
  · rw [← h.dispatch]
    simp [WasDispatched, hdispatch]

theorem stays_onlyIf {condition : Bool} {m : HandlerM Float Unit}
    (hm : Stays carries dispatched body m) : Stays carries dispatched body (onlyIf condition m) :=
  keeps_ite hm (stays_of_silent framed_pure)

end Invariant

section Overflow

variable {carries dispatched body : Prop} {cfg : HandlerConfig Float} {ctx : Context Float}
  {args : OverflowArgs}

theorem stays_record (outcome : String) (failure : Option (String × String)) :
    Stays carries dispatched body (record cfg args outcome failure) := by
  refine keeps_bind (stays_attemptCall _ rfl) fun _ => keeps_bind ?_ fun _ =>
    keeps_bind (stays_of_silent framed_get) fun _ => ?_
  · cases failure with
    | none => exact stays_of_silent framed_pure
    | some failure => exact stays_attemptCall _ rfl
  · exact stays_attemptCall _ rfl

theorem stays_closeOverflow :
    Stays carries dispatched body (closeOverflow args : HandlerM Float Unit) :=
  keeps_bind (stays_attemptCall _ rfl) fun _ => stays_of_silent framed_orInterrupted

theorem stays_leaveSuppressed :
    Stays carries dispatched body (leaveSuppressed args : HandlerM Float Unit) :=
  keeps_bind (stays_attemptCall _ rfl) fun _ => stays_of_silent framed_orInterrupted

theorem stays_abandonOverflow (streamed : Bool) (failure : String × String) :
    Stays carries dispatched body (abandonOverflow cfg args streamed failure) := by
  refine keeps_bind (stays_onlyIf stays_leaveSuppressed) fun _ => ?_
  refine keeps_bind stays_closeOverflow fun _ => ?_
  exact keeps_bind (stays_record _ _) fun _ => stays_of_silent framed_pure

theorem stays_answerOverflow (content : PyValue Float) (headers : Headers) :
    Stays carries dispatched body (answerOverflow cfg ctx args content headers) := by
  refine keeps_bind stays_closeOverflow fun _ => ?_
  refine keeps_bind (stays_record _ _) fun _ => ?_
  exact keeps_bind (stays_of_silent silent_once) fun _ => stays_of_silent framed_pure

theorem stays_overflowReplied (streamed : Bool) (headers : Headers) (reply : OverflowReply Float) :
    Stays carries dispatched body (overflowReplied cfg ctx args streamed headers reply) := by
  cases reply with
  | interrupted interruption => exact stays_of_silent framed_throw
  | failed timeout errorType => exact stays_abandonOverflow _ _
  | status code content =>
      refine keeps_ite (stays_abandonOverflow _ _) (keeps_ite (stays_of_silent framed_pure) ?_)
      cases content with
      | error errorType => exact stays_abandonOverflow _ _
      | ok content => exact stays_answerOverflow _ _

theorem stays_skipOverflow :
    Stays carries dispatched body (skipOverflow args :
      HandlerM Float (Option (Response Float))) := by
  refine keeps_bind (stays_attemptCall _ rfl) fun _ => ?_
  refine keeps_bind (stays_of_silent framed_get) fun _ => ?_
  exact keeps_bind (stays_attemptCall _ rfl) fun _ => stays_of_silent framed_pure

theorem stays_sendOverflow (hbody : body ↔ carries ∧ ¬ dispatched) (remaining : Option Float) :
    Stays carries dispatched body (sendOverflow cfg ctx args remaining) := by
  have hget : Ensures (Stands carries dispatched body) (get : HandlerM Float (Locals Float))
      (fun read history locals => read = locals ∧ Stands carries dispatched body history locals)
      fun _ => Marked carries := ensures_get fun _ _ h => ⟨rfl, h⟩
  refine ensures_bind hget fun read => ?_
  cases hread : read.body with
  | none => exact ensures_throw fun _ _ h => h.2.marked
  | some payload =>
      refine ensures_bind (ensures_ask ?_) fun reply => stays_overflowReplied _ _ reply
      rintro reply history locals ⟨rfl, h⟩
      refine stands_send reply rfl rfl hbody (.inl rfl) ?_ h
      rw [carriesCallers_set_model]
      exact h.body payload hread

theorem stays_remainingBudget : Stays carries dispatched body (remainingBudget cfg ctx args) := by
  unfold remainingBudget
  cases ctx.deadlineMs with
  | none => exact stays_of_silent framed_pure
  | some deadlineMs =>
      refine keeps_bind (stays_attemptCall _ rfl) fun _ => ?_
      exact keeps_bind (stays_of_silent framed_orRaise) fun _ => stays_of_silent framed_pure

theorem stays_tryOverflow (hbody : body ↔ carries ∧ ¬ dispatched) :
    Stays carries dispatched body (tryOverflow cfg ctx args) := by
  refine keeps_ite ?_ (stays_of_silent framed_pure)
  refine keeps_bind stays_remainingBudget fun remaining => ?_
  have hreset : Silent (modify fun locals => { locals with overflowDone := false } :
      HandlerM Float PUnit) :=
    silent_modify fun _ => rfl
  refine keeps_bind (stays_of_silent hreset) fun _ => ?_
  exact keeps_ite stays_skipOverflow (stays_sendOverflow hbody _)

theorem stays_afterOverflow {answer : HandlerM Float (Response Float)}
    (hbody : body ↔ carries ∧ ¬ dispatched) (hanswer : Stays carries dispatched body answer) :
    Stays carries dispatched body (do
      let response ← tryOverflow cfg ctx args
      match response with
      | some response => pure response
      | none => answer) := by
  refine keeps_bind (stays_tryOverflow hbody) fun response => ?_
  cases response with
  | none => exact hanswer
  | some response => exact stays_of_silent framed_pure

end Overflow

section Dispatch

variable {carries dispatched body : Prop} {cfg : HandlerConfig Float} {ctx : Context Float}

theorem stays_overflowOrReject {args : OverflowArgs} {refusal : Refusal Float}
    (hbody : body ↔ carries ∧ ¬ dispatched) :
    Stays carries dispatched body (overflowOrReject cfg ctx args refusal) :=
  stays_afterOverflow hbody (stays_of_silent silent_reject)

theorem stays_overflowUpstream (hbody : body ↔ carries ∧ ¬ dispatched) (status : Nat)
    (text : String) : Stays carries dispatched body (overflowUpstream cfg ctx status text) :=
  keeps_ite (stays_tryOverflow hbody) (stays_of_silent framed_pure)

theorem stays_unreachable (hbody : body ↔ carries ∧ ¬ dispatched) (code : Nat) (detail : String) :
    Stays carries dispatched body (unreachable cfg ctx code detail) := by
  refine stays_afterOverflow hbody ?_
  exact keeps_bind (stays_of_silent silent_finish) fun _ =>
    (stays_of_silent (framed_bind framed_get fun _ => framed_throw))

theorem stays_openFailed (hbody : body ↔ carries ∧ ¬ dispatched) (sent : Dispatched) (code : Nat)
    (text : String) : Stays carries dispatched body (openFailed cfg ctx sent code text) := by
  refine keeps_bind (stays_of_silent silent_freeWorker) fun _ => ?_
  exact keeps_bind (stays_of_silent framed_close) fun _ => stays_unreachable hbody _ _

theorem stays_answerError (hbody : body ↔ carries ∧ ¬ dispatched) (status : Nat) (text : String) :
    Stays carries dispatched body (answerError cfg ctx status text) := by
  refine keeps_bind (stays_overflowUpstream hbody _ _) fun response => ?_
  cases response with
  | none =>
      refine keeps_bind (stays_of_silent silent_finish) fun _ => ?_
      exact stays_of_silent (framed_bind framed_get fun _ => framed_pure)
  | some response => exact stays_of_silent framed_pure

theorem stays_streamRefused (hbody : body ↔ carries ∧ ¬ dispatched) (sent : Dispatched)
    (status : Nat) : Stays carries dispatched body (streamRefused cfg ctx sent status) := by
  refine keeps_bind (stays_of_silent (silent_ask (c := .readErrorBody) trivial)) fun reply => ?_
  refine keeps_bind (stays_of_silent framed_orInterrupted) fun text => ?_
  refine keeps_bind (stays_of_silent silent_freeWorker) fun _ => ?_
  refine keeps_bind (stays_of_silent framed_leave) fun _ => ?_
  refine keeps_bind (stays_of_silent framed_close) fun _ => ?_
  exact keeps_bind (stays_of_silent calm_noteOom.framed) fun _ => stays_answerError hbody _ _

theorem stays_opened (hbody : body ↔ carries ∧ ¬ dispatched) (sent : Dispatched)
    (reply : WorkerReply Float) : Stays carries dispatched body (opened cfg ctx sent reply) := by
  cases reply with
  | connectError text => exact stays_openFailed hbody _ _ _
  | requestError text => exact stays_openFailed hbody _ _ _
  | interrupted interruption => exact stays_of_silent framed_throw
  | status code text json =>
      refine keeps_ite ?_ (stays_streamRefused hbody _ _)
      exact stays_of_silent (framed_bind framed_get fun _ => framed_pure)

theorem stays_posted (hbody : body ↔ carries ∧ ¬ dispatched) (sent : Dispatched)
    (reply : WorkerReply Float) : Stays carries dispatched body (posted cfg ctx sent reply) := by
  cases reply with
  | connectError text =>
      refine keeps_bind (stays_of_silent silent_freeWorker) fun _ => ?_
      exact keeps_bind (stays_unreachable hbody _ _) fun _ => stays_of_silent framed_pure
  | requestError text =>
      refine keeps_bind (stays_of_silent silent_release) fun _ => ?_
      exact stays_of_silent (framed_bind framed_get fun _ => framed_throw)
  | interrupted interruption => exact stays_of_silent framed_throw
  | status status text json => exact stays_of_silent framed_pure

theorem stays_answerPosted (hbody : body ↔ carries ∧ ¬ dispatched) (sent : Dispatched)
    (answer : Posted Float) : Stays carries dispatched body (answerPosted cfg ctx sent answer) := by
  refine keeps_bind (stays_of_silent silent_freeWorker) fun _ => ?_
  refine keeps_bind (stays_of_silent framed_orRaise) fun text => ?_
  refine keeps_bind (stays_of_silent calm_noteOom.framed) fun _ => ?_
  refine keeps_bind (stays_overflowUpstream hbody _ _) fun response => ?_
  cases response with
  | none => exact stays_of_silent silent_postedContent
  | some response => exact stays_of_silent framed_pure

theorem marked_postReplied (hbody : body ↔ carries ∧ ¬ dispatched) (sent : Dispatched)
    (reply : WorkerReply Float) :
    Ensures (Stands carries dispatched body) (postReplied cfg ctx sent reply)
      (fun _ => Marked carries)
      fun _ => Marked carries := by
  have hposted : Ensures (Stands carries dispatched body) (Prog.attempt (posted cfg ctx sent reply))
      (fun outcome => match outcome with
        | .ok _ => Stands carries dispatched body
        | .error _ => Marked carries)
      fun _ => Marked carries := ensures_attempt (stays_posted hbody sent reply)
  refine ensures_bind hposted fun outcome => ?_
  cases outcome with
  | error error => exact marked_of_silent (framed_bind framed_close fun _ => framed_throw)
  | ok answer =>
      refine ensures_bind (stays_of_silent framed_close) fun _ => ?_
      cases answer with
      | inl response => exact ensures_pure fun _ _ h => h.marked
      | inr answer => exact (stays_answerPosted hbody sent answer).marked

theorem marked_proxy (sent : Dispatched) :
    Ensures (Stands carries True False) (proxy cfg ctx sent) (fun _ => Marked carries) fun _ =>
      Marked carries := by
  have hbody : False ↔ carries ∧ ¬ True := by simp
  have hget : Ensures (Stands carries True False) (get : HandlerM Float (Locals Float))
      (fun read history locals => read = locals ∧ Stands carries True False history locals)
      fun _ => Marked carries := ensures_get fun _ _ h => ⟨rfl, h⟩
  refine ensures_bind hget fun read => ?_
  cases hread : read.body with
  | none => exact ensures_throw fun _ _ h => h.2.marked
  | some payload =>
      have hsend (streamed : Bool) : Ensures
          (fun history locals => read = locals ∧ Stands carries True False history locals)
          (ask (HandlerCall.send (cfg.workerUrl sent.worker ++ "/v1/chat/completions") streamed
            payload) : HandlerM Float (WorkerReply Float))
          (fun _ => Stands carries True False) fun _ => Marked carries := by
        refine ensures_ask ?_
        rintro reply history locals ⟨rfl, h⟩
        exact stands_send reply rfl rfl hbody (.inr trivial) (h.body payload hread) h
      refine ensures_bind (hsend _) fun reply => ?_
      refine ensures_ite (fun _ => ?_) fun _ => marked_postReplied hbody sent reply
      exact (stays_opened hbody sent reply).marked

theorem stands_noteDispatch (worker : String) :
    Ensures (Stands carries dispatched body) (ask (HandlerCall.noteDispatch worker) :
      HandlerM Float Int) (fun _ => Stands carries True body) fun _ => Marked carries := by
  refine ensures_ask fun reply history locals h => ?_
  refine ⟨sendsMarked_append_of_forall (by simp [payloadOf]) h.marked, ?_, h.body⟩
  exact iff_of_true ⟨_, List.mem_append_right _ (List.mem_singleton_self _), rfl⟩ trivial

theorem marked_dispatch (worker : String) (estTokens : Int) :
    Ensures (Stands carries False False) (dispatch cfg ctx worker estTokens)
      (fun _ => Marked carries)
      fun _ => Marked carries := by
  refine ensures_bind
    (stays_of_silent (silent_ask (c := .addInflight worker 1 estTokens) trivial)) fun _ => ?_
  refine ensures_bind (stands_noteDispatch worker) fun token => ?_
  refine ensures_bind
    (stays_of_silent (silent_ask (c := .warmContext worker) trivial)) fun warm => ?_
  exact ensures_bind (stays_of_silent calm_setCorrelation.framed) fun _ => marked_proxy _

end Dispatch

section Stages

variable {carries : Prop} {cfg : HandlerConfig Float} {ctx : Context Float}

theorem not_carriesCallers_prepare {payload : Payload Float} {decision : PlacementDecision Float}
    {remaining : Option Float} {override experimentCase : Option String}
    {locals final : Locals Float}
    {log : HandlerLog Float} {prepared : Payload Float × HopFields}
    (hrun :
      (prepare cfg payload decision remaining override experimentCase).Runs locals log
      (.ok prepared) final) :
    ¬ CarriesCallers prepared.1 := by
  unfold prepare at hrun
  split at hrun
  · obtain ⟨-, hok, -⟩ := runs_pure_iff.mp hrun
    obtain rfl := Except.ok.inj hok
    exact not_carriesCallers_pop payload
  · rcases runs_bind_iff.mp hrun with ⟨_, answer, _, _, -, -, hrun⟩ | ⟨_, _, ⟨⟩⟩
    rcases runs_bind_iff.mp hrun with ⟨_, deadline, _, _, -, -, hrun⟩ | ⟨_, _, ⟨⟩⟩
    rcases runs_bind_iff.mp hrun with ⟨_, read, _, _, -, -, hrun⟩ | ⟨_, _, ⟨⟩⟩
    obtain ⟨-, hok, -⟩ := runs_pure_iff.mp hrun
    obtain rfl := Except.ok.inj hok
    exact not_carriesCallers_connector _ _

theorem stands_rebind (experiment : ExperimentHeaders) (decision : PlacementDecision Float)
    (remaining : Option Float) :
    Ensures (Stands carries False carries) (rebind cfg experiment decision remaining)
      (fun _ => Stands carries False False) fun _ => Marked carries := by
  refine ensures_bind (stays_of_silent framed_get) fun read => ?_
  cases read.body with
  | none => exact ensures_throw fun _ _ h => h.marked
  | some payload =>
      have hprepare : Ensures (Stands carries False carries)
          (prepare cfg payload decision remaining experiment.kvHopMode experiment.kvHopCase)
          (fun prepared history locals => ¬ CarriesCallers prepared.1 ∧
            Stands carries False carries history locals)
          fun _ => Marked carries := by
        intro history locals h log result final hrun
        have hend := stays_of_silent framed_prepare history locals h log result final hrun
        cases result with
        | error error => exact hend
        | ok prepared => exact ⟨not_carriesCallers_prepare hrun, hend⟩
      refine ensures_bind hprepare fun prepared => ?_
      have hset : Ensures
          (fun history locals => ¬ CarriesCallers prepared.1 ∧
            Stands carries False carries history locals)
          (modify fun locals => { locals with body := some prepared.1 } : HandlerM Float PUnit)
          (fun _ => Stands carries False False) fun _ => Marked carries := by
        refine ensures_modify fun history locals h => ⟨h.2.marked, h.2.dispatch, ?_⟩
        rintro _ ⟨⟩
        exact iff_of_false h.1 id
      refine ensures_bind hset fun _ => ?_
      exact ensures_bind (stays_of_silent calm_log.framed) fun _ =>
        stays_of_silent calm_setCorrelation.framed

theorem marked_granted (experiment : ExperimentHeaders) (decision : PlacementDecision Float)
    (estTokens : Int) (deadlineAt : Option Float) (queueEnter waitS : Float) :
    Ensures (Stands carries False carries)
      (granted cfg ctx experiment decision estTokens deadlineAt queueEnter waitS)
      (fun _ => Marked carries)
      fun _ => Marked carries := by
  refine ensures_bind (stays_of_silent calm_metric.framed) fun _ => ?_
  refine ensures_bind (stays_of_silent calm_setCorrelation.framed) fun _ => ?_
  refine ensures_bind (stays_of_silent calm_log.framed) fun _ => ?_
  refine ensures_bind (stays_of_silent calm_remainingTime.framed) fun _ => ?_
  exact ensures_bind (stands_rebind _ _ _) fun _ => marked_dispatch _ _

theorem stays_queueRejected (queueEnter : Float) (reason : RejectReason) :
    Stays carries False carries (queueRejected cfg ctx queueEnter reason) := by
  refine keeps_bind (stays_of_silent calm_metric.framed) fun _ => stays_afterOverflow (by simp) ?_
  refine keeps_bind (stays_of_silent (silent_ask (c := .time) trivial)) fun _ => ?_
  exact keeps_bind (stays_of_silent (silent_ask (c := .time) trivial)) fun _ =>
    stays_of_silent silent_reject

theorem marked_enqueue (experiment : ExperimentHeaders) (decision : PlacementDecision Float)
    (estTokens : Int) (now : Float) :
    Ensures (Stands carries False carries) (enqueue cfg ctx experiment decision estTokens now)
      (fun _ => Marked carries) fun _ => Marked carries := by
  refine ensures_bind (stays_of_silent framed_absoluteDeadline) fun deadlineAt => ?_
  refine ensures_bind (stays_of_silent (silent_ask (c := .time) trivial)) fun _ => ?_
  refine ensures_bind
    (stays_of_silent (silent_ask (c := .addPending decision.chosenWorker 1) trivial)) fun _ => ?_
  refine ensures_bind (stays_of_silent
    (silent_ask (c := .queueAcquire decision.chosenWorker ctx.klass estTokens deadlineAt)
      trivial)) fun reply => ?_
  refine ensures_bind
    (stays_of_silent (silent_ask (c := .addPending decision.chosenWorker (-1)) trivial)) fun _ => ?_
  refine ensures_bind (stays_of_silent calm_metric.framed) fun _ => ?_
  cases reply with
  | granted waitS => exact marked_granted _ _ _ _ _ _
  | rejected reason => exact (stays_queueRejected _ _).marked
  | cancelled =>
      exact (stays_of_silent (framed_bind silent_releaseLease fun _ => framed_throw)).marked

theorem marked_placed (experiment : ExperimentHeaders) (decision : PlacementDecision Float)
    (estTokens : Int) (now : Float) :
    Ensures (Stands carries False carries) (placed cfg ctx experiment decision estTokens now)
      (fun _ => Marked carries) fun _ => Marked carries := by
  refine ensures_bind (stays_of_silent calm_metric.framed) fun _ => ?_
  refine ensures_bind (stays_of_silent (calm_onlyIf calm_metric).framed) fun _ => ?_
  refine ensures_bind (stays_of_silent
    (silent_ask (c := .recordPrefix decision.chosenWorker ctx.headers.prefixId
      ((prefixTokens cfg ctx estTokens).getD estTokens)) trivial)) fun _ => ?_
  refine ensures_bind (stays_of_silent calm_setCorrelation.framed) fun _ => ?_
  exact ensures_bind (stays_of_silent calm_log.framed) fun _ => marked_enqueue _ _ _ _

theorem marked_place (experiment : ExperimentHeaders) (controls : Controls) (estTokens : Int)
    (now : Float) :
    Ensures (Stands carries False carries) (place cfg ctx experiment controls estTokens now)
      (fun _ => Marked carries) fun _ => Marked carries := by
  refine ensures_bind (stays_of_silent (silent_ask (c := .countQueued) trivial)) fun _ => ?_
  refine ensures_bind (stays_of_silent (framed_timed framed_pickWorker)) fun answer => ?_
  cases answer with
  | ok decision => exact marked_placed _ _ _ _
  | error error =>
      have hreject (args : OverflowArgs) (refusal : Refusal Float) :
          Stays carries False carries (overflowOrReject cfg ctx args refusal) :=
            stays_overflowOrReject (by simp)
      exact Stays.marked (keeps_bind (stays_of_silent calm_metric.framed) fun _ => hreject _ _)

theorem marked_serveGuarded (experiment : ExperimentHeaders) (controls : Controls)
    (payload : Payload Float) :
    Ensures (Stands carries False carries) (serveGuarded cfg ctx experiment controls payload)
      (fun _ => Marked carries) fun _ => Marked carries := by
  refine ensures_bind (stays_of_silent (silent_ask (c := .monotonic) trivial)) fun now => ?_
  refine ensures_bind (stays_of_silent (framed_timed silent_admitRequest)) fun result => ?_
  cases result with
  | error shed =>
      refine Stays.marked (keeps_bind (stays_of_silent calm_metric.framed) fun _ =>
        keeps_bind (stays_of_silent calm_metric.framed) fun _ => ?_)
      exact keeps_bind (stays_of_silent calm_metric.framed) fun _ =>
        stays_overflowOrReject (by simp)
  | ok inputs =>
      refine ensures_bind (stays_of_silent calm_metric.framed) fun _ => ?_
      refine ensures_bind (stays_of_silent calm_metric.framed) fun _ => ?_
      exact ensures_bind (stays_of_silent calm_log.framed) fun _ => marked_place _ _ _ _

theorem marked_guarded (experiment : ExperimentHeaders) (controls : Controls) :
    Ensures (Stands carries False carries) (guarded cfg ctx experiment controls)
      (fun _ => Marked carries)
      fun _ => Marked carries := by
  refine ensures_bind (stays_of_silent framed_get) fun read => ?_
  refine ensures_bind (stays_of_silent (framed_timed framed_orRaise)) fun verdict => ?_
  have hrefused (refusal : Refusal Float) : Silent (do
      metric (.guardReject verdict.code)
      reject ctx refusal : HandlerM Float (Response Float)) :=
    framed_bind calm_metric.framed fun _ => silent_reject
  cases read.body with
  | none => exact (stays_of_silent (hrefused _)).marked
  | some payload =>
      cases verdict.ok with
      | true => exact marked_serveGuarded _ _ _
      | false => exact (stays_of_silent (hrefused _)).marked

end Stages

section Requests

variable {cfg : HandlerConfig Float} {request : Request Float}

def HasConnector (request : Request Float) : Prop :=
  ∃ entries, request.json = .ok (some (.dict entries)) ∧ connectorKey ∈ entries.map Prod.fst

def OverflowsFirst (log : HandlerLog Float) : Prop :=
  ∃ before x after, log = before ++ x :: after ∧ isOverflowSend x.call = true ∧
    ¬ WasDispatched before

theorem carriesCallers_ofJson {json : Option (PyValue Float)} {payload : Payload Float}
    (hjson : request.json = .ok json) (hpayload : Payload.ofJson json = some payload) :
    CarriesCallers payload ↔ HasConnector request := by
  unfold Payload.ofJson at hpayload
  split at hpayload
  · rename_i entries
    obtain rfl := Option.some.inj hpayload
    rw [carriesCallers_ofEntries]
    constructor
    · exact fun hkey => ⟨entries, hjson, hkey⟩
    · rintro ⟨others, hothers, hkey⟩
      have hentries : entries = others := by simpa [hjson] using hothers
      exact hentries ▸ hkey
  · cases hpayload

theorem stands_begin {json : Option (PyValue Float)} (hjson : request.json = .ok json) :
    Stays (HasConnector request) False (HasConnector request) (begin cfg request json) := by
  refine keeps_bind (stays_of_silent (silent_ask (c := .monotonic) trivial)) fun started => ?_
  refine keeps_bind (stays_of_silent (silent_ask (c := .time) trivial)) fun receivedAt => ?_
  refine keeps_bind (keeps_modify fun history locals h => ?_) fun _ => stays_of_silent framed_pure
  exact ⟨h.marked, h.dispatch, fun payload hpayload => carriesCallers_ofJson hjson hpayload⟩

theorem marked_serveParsed {json : Option (PyValue Float)} (hjson : request.json = .ok json) :
    Ensures (Stands (HasConnector request) False (HasConnector request))
      (serveParsed cfg request json) (fun _ => Marked (HasConnector request)) fun _ =>
      Marked (HasConnector request) := by
  refine ensures_bind (stands_begin hjson) fun ctx => ?_
  cases experimentControls cfg.getenv request.experiment.placementPolicyOverride
      request.experiment.admissionMode request.experiment.tenantQuotaMode with
  | none =>
      have hrefused (refusal : Refusal Float) : Silent (do
          noteControls cfg {} request.experiment.admissionMode
          let response ← reject ctx refusal
          pure (ctx, response)) :=
        framed_bind calm_noteControls.framed fun _ => framed_bind silent_reject fun _ =>
          framed_pure
      exact (stays_of_silent (hrefused _)).marked
  | some controls =>
      refine ensures_bind (stays_of_silent calm_noteControls.framed) fun _ => ?_
      exact ensures_bind (marked_guarded _ _) fun _ => marked_of_silent framed_pure

theorem marked_serveCompletion :
    Ensures (Stands (HasConnector request) False (HasConnector request))
      (serveCompletion cfg request) (fun _ => Marked (HasConnector request)) fun _ =>
      Marked (HasConnector request) := by
  have hread : Ensures (Stands (HasConnector request) False (HasConnector request))
      (orInterrupted request.json : HandlerM Float (Option (PyValue Float)))
      (fun json history locals => request.json = .ok json ∧
        Stands (HasConnector request) False (HasConnector request) history locals)
      fun _ => Marked (HasConnector request) := by
    cases request.json with
    | error interruption => exact ensures_throw fun _ _ h => h.marked
    | ok json => exact ensures_pure fun _ _ h => ⟨rfl, h⟩
  refine ensures_bind hread fun json => ?_
  rintro history locals ⟨hjson, h⟩
  exact marked_serveParsed hjson history locals h

theorem marked_serveRequest :
    Ensures (Stands (HasConnector request) False (HasConnector request)) (serveRequest cfg request)
      (fun _ => Marked (HasConnector request)) fun _ => Marked (HasConnector request) :=
  ensures_bind marked_serveCompletion fun _ =>
    ensures_bind (marked_of_silent silent_sendBody) fun _ => marked_of_silent framed_pure

theorem sendsMarked_split {carries : Prop} {before after : HandlerLog Float}
    {x : Exchange (@HandlerReply Float)} {payload : Payload Float}
    (h : SendsMarked carries False (before ++ x :: after))
    (hpayload : payloadOf x.call = some payload) :
    (CarriesCallers payload ↔ carries ∧ ¬ WasDispatched before) ∧
      (isOverflowSend x.call = true ∨ WasDispatched before) := by
  have hsend := (sendsMarked_append.mp h).2.1 payload hpayload
  rwa [false_or] at hsend

/-- **The caller's connector parameters.** No payload that is sent to a worker or to the overflow
provider carries them, exactly if the caller has sent none or no overflow request is made before the
request is dispatched. -/
theorem connector_params_kept_iff {log : HandlerLog Float}
    {result : Except HandlerError (Response Float × List String)}
    {final : Locals Float} (hrun : (serveRequest cfg request).Runs {} log result final) :
    (∀ x ∈ log, ∀ payload, payloadOf x.call = some payload → ¬ CarriesCallers payload) ↔
      ¬ HasConnector request ∨ ¬ OverflowsFirst log := by
  have hstart : Stands (HasConnector request) False (HasConnector request) ([] : HandlerLog Float)
      {} :=
    ⟨trivial, by simp [WasDispatched], by simp⟩
  have hmarked : SendsMarked (HasConnector request) False log := by
    have hend := @marked_serveRequest _ cfg request [] {} hstart log result final hrun
    cases result with
    | ok answer => exact hend
    | error error => exact hend
  rw [← not_and_or]
  constructor
  · rintro hkept ⟨hcarries, before, x, after, rfl, hsend, hfirst⟩
    obtain ⟨payload, hpayload⟩ : ∃ payload, payloadOf x.call = some payload := by
      obtain ⟨call, reply⟩ := x
      cases call with
      | attempt args step => cases step with
        | send request => exact ⟨_, rfl⟩
        | _ => cases hsend
      | _ => cases hsend
    have hcarried := (sendsMarked_split hmarked hpayload).1.mpr ⟨hcarries, hfirst⟩
    exact hkept x (by simp) payload hpayload hcarried
  · intro hclean x hx payload hpayload hcarried
    obtain ⟨before, after, rfl⟩ := List.append_of_mem hx
    obtain ⟨hiff, hto⟩ := sendsMarked_split hmarked hpayload
    obtain ⟨hcarries, hfirst⟩ := hiff.mp hcarried
    exact hclean ⟨hcarries, before, x, after, rfl, hto.resolve_right hfirst, hfirst⟩

end Requests

section Sample

def unobserved : (call : HandlerCall ℚ) → HandlerReply call
  | .servingSnapshots => []
  | call => answered call

def connectorBody : PyValue ℚ :=
  .dict [("messages", .list [.dict [("content", .str "hello")]]),
    (connectorKey, .dict [("host", .str "elsewhere")])]

def connectorRequest : Request ℚ := ⟨{}, {}, .ok (some connectorBody)⟩

def carriesTest (call : HandlerCall ℚ) : Bool :=
  match (payloadOf call).bind (·.get? connectorKey) with
  | some (.sent _) => true
  | _ => false

/-- The gateway sheds the request and forwards it as it came. -/
theorem overflow_forwards_connector :
    ¬ ∀ log result final, (serveRequest sampleHandler connectorRequest).Runs {} log result final →
      ∀ x ∈ log, ∀ payload, payloadOf x.call = some payload → ¬ CarriesCallers payload := by
  intro hclaim
  have hrun := runs_play (serveRequest sampleHandler connectorRequest) (fun _ => unobserved) {}
  have hany : ((serveRequest sampleHandler connectorRequest).play (fun _ => unobserved) {}).1.any
      (fun x => carriesTest x.call) = true := by decide +kernel
  obtain ⟨x, hx, hcarries⟩ := List.any_eq_true.mp hany
  unfold carriesTest at hcarries
  split at hcarries
  · rename_i value hvalue
    obtain ⟨payload, hpayload, hget⟩ := Option.bind_eq_some_iff.mp hvalue
    exact hclaim _ _ _ hrun x hx payload hpayload ⟨value, hget⟩
  · cases hcarries

theorem connector_params_kept_served :
    HasConnector connectorRequest ∧
      ∀ x ∈ ((serveRequest sampleHandler connectorRequest).play (fun _ => answered) {}).1,
      ∀ payload,
        payloadOf x.call = some payload → ¬ CarriesCallers payload := by
  refine ⟨⟨_, rfl, by decide⟩, (connector_params_kept_iff (runs_play _ _ _)).mpr (.inr ?_)⟩
  rintro ⟨before, x, after, hlog, hsend, -⟩
  have hnone : ((serveRequest sampleHandler connectorRequest).play (fun _ => answered) {}).1.all
      (fun x => !isOverflowSend x.call) = true := by decide +kernel
  have hx := List.all_eq_true.mp hnone x (by simp [hlog])
  simp [hsend] at hx

end Sample

end AiAnalytics.Gateway.Handler
