import AiAnalytics.Web.Proof.SessionOwners

/-!
# Microphones granted too early

What the condition on a grant excludes is what does harm: from every reachable state in which a
microphone is granted while something of an earlier session is left, a run goes on to a step that
ends a session of another. -/

namespace AiAnalytics.Web

open Lib

variable {state next : Voice} {session : Nat} {label : VoiceLabel}

structure Answered (state : Voice) : Prop where
  numbered : ∀ {id found}, state.sessions.get? id = some found → id ≤ state.started
  current : state.current ≤ state.started
  timers : ∀ id ∈ state.stopTimers, id ≤ state.started
  answered : ∀ id, id = state.current ∨ id ∈ state.stopTimers →
    ∀ {found}, state.sessions.get? id = some found → found.requesting = false

structure Wired (state : Voice) : Prop extends Answered state where
  together : ∃ ref, state.captureRefs = [ref, ref, ref, ref]
  connected : ∀ {id}, state.processorNodeRef = some id →
    ∃ found, state.sessions.get? id = some found ∧ found.processor = true

theorem wired_mount : Wired Voice.mount where
  numbered hfound := by cases hfound
  current := Nat.le_refl 0
  timers id hid := by cases hid
  answered id _ _ hfound := by cases hfound
  together := ⟨none, rfl⟩
  connected hid := by cases hid

theorem Answered.confined {touched : Nat → Prop} (h : Answered state)
    (hnext : Confined touched state next) : Answered next where
  numbered {id after} hafter := by
    obtain ⟨before, hbefore, _⟩ := hnext.sessions hafter
    rw [hnext.started]
    exact h.numbered hbefore
  current := by
    rw [hnext.current, hnext.started]
    exact h.current
  timers id hid := by
    rw [hnext.started]
    obtain hold | rfl := hnext.timers id hid
    · exact h.timers id hold
    · exact h.current
  answered id hid {after} hafter := by
    have hbefore_of : id = state.current ∨ id ∈ state.stopTimers := by
      obtain hcurrent | htimer := hid
      · exact .inl (hcurrent.trans hnext.current)
      · exact (hnext.timers id htimer).symm
    obtain ⟨before, hbefore, _⟩ := hnext.sessions hafter
    obtain ⟨same, hsame, hrequesting, _⟩ := hnext.later hbefore
    rw [hafter] at hsame
    obtain rfl := Option.some.inj hsame
    have hanswered := h.answered id hbefore_of hbefore
    by_contra hstill
    rw [hrequesting ((Bool.not_eq_false _).mp hstill)] at hanswered
    cases hanswered

theorem Wired.confined {touched : Nat → Prop} (h : Wired state)
    (hnext : Confined touched state next) : Wired next where
  toAnswered := h.toAnswered.confined hnext
  together := by
    obtain hsame | hnone := hnext.captureRefs
    · rw [hsame]
      exact h.together
    · refine ⟨none, ?_⟩
      simp only [Voice.captureRefs, List.mem_cons, List.not_mem_nil, or_false, forall_eq_or_imp,
        forall_eq] at hnone
      simp only [Voice.captureRefs, hnone]
  connected {id} hid := by
    obtain ⟨before, hbefore, hconnected⟩ := h.connected (hnext.processorNodeRef hid)
    obtain ⟨after, hafter, _, hprocessor⟩ := hnext.later hbefore
    exact ⟨after, hafter, hprocessor hid hconnected⟩

theorem Wired.startListening (h : Wired state) : Wired state.startListening := by
  have hold {id : Nat} (hid : id ≤ state.started) :
      state.startListening.sessions.get? id = state.sessions.get? id := by
    rw [Voice.startListening, OrderedDict.get?_set, if_neg (Nat.ne_of_lt (Nat.lt_succ_of_le hid))]
  have hbound {id : Nat} (hid : id = state.current ∨ id ∈ state.stopTimers) :
      id ≤ state.started := by
    obtain rfl | htimer := hid
    · exact h.current
    · exact h.timers id htimer
  refine ⟨⟨fun {id found} hfound => ?_, Nat.le_succ_of_le h.current,
    fun id hid => Nat.le_succ_of_le (h.timers id hid), fun id hid {found} hfound => ?_⟩, h.together,
      fun {id} hid => ?_⟩
  · rw [Voice.startListening, OrderedDict.get?_set] at hfound
    split_ifs at hfound with hid
    · exact Nat.le_of_eq hid
    · exact Nat.le_succ_of_le (h.numbered hfound)
  · exact h.answered id hid ((hold (hbound hid)).symm.trans hfound)
  · obtain ⟨found, hfound, hconnected⟩ := h.connected hid
    exact ⟨found, (hold (h.numbered hfound)).trans hfound, hconnected⟩

theorem get?_setUp_self (state : Voice) (session : Nat) (setUp : SetUp) :
    (state.setUp session setUp).sessions.get? session = some
      { requesting := false
        socket := if setUp.passes .webSocket then .connecting else .none
        stopSent := false
        stream := true
        context := setUp.passes .audioContext
        analyser := setUp.passes .analyser
        processor := setUp.passes .scriptProcessor } :=
  OrderedDict.get?_set_self _ _ _

theorem Answered.setUp (h : Answered state)
    (hrequested : state.sessions.get? session = some .requested)
    (setUp : SetUp) : Answered (state.setUp session setUp) where
  numbered {id found} hfound := by
    by_cases hid : id = session
    · subst hid
      exact h.numbered hrequested
    · rw [get?_setUp_of_ne state setUp hid] at hfound
      exact h.numbered hfound
  current := by
    simp only [Voice.setUp]
    split_ifs
    · exact h.numbered hrequested
    · exact h.current
  timers := h.timers
  answered id hid {found} hfound := by
    by_cases heq : id = session
    · subst heq
      rw [get?_setUp_self] at hfound
      obtain rfl := Option.some.inj hfound
      rfl
    · rw [get?_setUp_of_ne state setUp heq] at hfound
      refine h.answered id (hid.imp_left fun hcurrent => ?_) hfound
      simp only [Voice.setUp] at hcurrent
      split_ifs at hcurrent
      · exact absurd hcurrent heq
      · exact hcurrent

theorem Wired.granted (h : Wired state) (hrequested : state.sessions.get? session = some .requested)
    (setUp : SetUp) : Wired (state.granted session setUp) := by
  have hanswered := h.toAnswered.setUp hrequested setUp
  cases setUp with
  | ready =>
      refine ⟨hanswered, ⟨some session, rfl⟩, fun {id} hid => ?_⟩
      obtain rfl : session = id := Option.some.inj hid
      exact ⟨_, get?_setUp_self state session .ready, rfl⟩
  | failed call message =>
      refine ⟨hanswered.confined (confined_failed state session call message), ⟨none, rfl⟩,
        fun hid => ?_⟩
      cases hid

theorem Wired.step (h : Wired state) (hstep : voiceHook.step state label = some next) :
    Wired next := by
  cases voice_cases hstep with
  | starts => exact h.startListening
  | granted hrequested => exact h.granted hrequested _
  | confined touched hconfined _ => exact h.confined hconfined

theorem ends_of_get? {id : Nat} {before after : Session}
    (hbefore : state.sessions.get? id = some before) (hafter : next.sessions.get? id = some after)
    (hends : before.ends after = true) : state.ends next id = true := by
  simp only [Voice.ends, hbefore, hafter, hends]

theorem get?_granted_failed (state : Voice) (session : Nat) (call : SetUpCall) (message : String)
    (id : Nat) : (state.granted session (.failed call message)).sessions.get? id =
      ((state.setUp session (.failed call message)).sessions.get? id).map
        ((state.setUp session (.failed call message)).cleaned id) :=
  get?_cleanupAudio _ id

theorem not_endsOwn_failed {call : SetUpCall} {message : String} (h : Wired state)
    (hrequested : state.sessions.get? session = some .requested)
    (hcapture : ∃ ref ∈ state.captureRefs, ref ≠ none) :
    ¬ EndsOwn state (.granted session (.failed call message)) := by
  obtain ⟨ref, href, hne⟩ := hcapture
  obtain ⟨id, rfl⟩ := Option.ne_none_iff_exists'.mp hne
  obtain ⟨one, htogether⟩ := h.together
  have hheld : state.processorNodeRef = some id := by
    rw [htogether] at href
    simp only [Voice.captureRefs, List.cons.injEq] at htogether
    simp only [List.mem_cons, List.not_mem_nil, or_false, or_self] at href
    rw [htogether.2.2.2.1, href]
  obtain ⟨found, hfound, hconnected⟩ := h.connected hheld
  have hid : id ≠ session := by
    rintro rfl
    rw [hrequested] at hfound
    obtain rfl := Option.some.inj hfound
    cases hconnected
  have hafter : (state.granted session (.failed call message)).sessions.get? id =
      some ((state.setUp session (.failed call message)).cleaned id found) := by
    rw [get?_granted_failed, get?_setUp_of_ne state _ hid, hfound, Option.map_some]
  have hends : found.ends ((state.setUp session (.failed call message)).cleaned id found) =
      true := by
    cases call <;> simp [Session.ends, Voice.cleaned, Voice.setUp, SetUp.passes, hheld, hconnected]
  exact fun hown => hown _ (if_pos hrequested) id (ends_of_get? hfound hafter hends)

theorem not_endsOwn_stopTimer {other : Nat} {found : Session} (hother : other ∈ state.stopTimers)
    (hne : other ≠ session) (hsocket : state.socketRef = some session)
    (hfound : state.sessions.get? session = some found) (hopened : found.socket = .opened) :
    ¬ EndsOwn state (.stopTimer other) := by
  have hclosed : (state.stopTimer other).sessions.get? session =
      some { found with socket := .closing } := by
    rw [Voice.stopTimer, get?_change, hfound, Option.map_some, if_pos hsocket, if_pos hopened,
      hopened]
    rfl
  have hends : found.ends { found with socket := .closing } = true := by
    simp [Session.ends, SocketState.live, hopened]
  exact fun hown => hne (hown _ (if_pos hother) session (ends_of_get? hfound hclosed hends)).symm

theorem exists_ended_by_timer {other : Nat} {found : Session} (hother : other ∈ state.stopTimers)
    (hne : other ≠ session) (hsocket : state.socketRef = some session)
    (hfound : state.sessions.get? session = some found) (hconnecting : found.socket = .connecting) :
    ∃ rest, ¬ voiceHook.Meets EndsOwn state rest := by
  have hopens : voiceHook.step state (.socketEvent session .opened) =
      some ((state.socketAfter session .opened).handleSocket session .opened) := by
    refine if_pos ?_
    rw [hfound, Option.any_some, hconnecting]
    rfl
  have hopened : ((state.socketAfter session .opened).handleSocket session .opened).sessions.get?
      session = some { found with socket := .opened } := by
    change (state.sessions.modify session _).get? session = _
    rw [OrderedDict.get?_modify, if_pos rfl, hfound]
    rfl
  have htimer : ¬ EndsOwn ((state.socketAfter session .opened).handleSocket session .opened)
      (.stopTimer other) :=
    not_endsOwn_stopTimer hother hne hsocket hopened rfl
  refine ⟨[.socketEvent session .opened, .stopTimer other], fun hmeets => ?_⟩
  exact Machine.not_meets_of_not htimer ((Machine.meets_cons_of_step hopens).mp hmeets).2

theorem not_endsOwn_closed {other : Nat} {left found : Session} (hne : other ≠ session)
    (hleft : state.sessions.get? other = some left) (hpending : left.socket.pending = true)
    (hstream : state.mediaStreamRef = some session)
    (hfound : state.sessions.get? session = some found)
    (hlive : found.stream = true) : ¬ EndsOwn state (.socketEvent other .closed) := by
  have hcloses : voiceHook.step state (.socketEvent other .closed) =
      some ((state.socketAfter other .closed).handleSocket other .closed) := by
    refine if_pos ?_
    rw [hleft, Option.any_some]
    exact hpending
  have hafter : ((state.socketAfter other .closed).handleSocket other .closed).sessions.get?
      session = some ((state.socketAfter other .closed).cleaned session found) := by
    refine (get?_cleanupAudio _ session).trans ?_
    rw [Voice.socketAfter, OrderedDict.get?_modify, if_neg (Ne.symm hne), hfound, Option.map_some]
  have hends : found.ends ((state.socketAfter other .closed).cleaned session found) = true := by
    simp [Session.ends, Voice.cleaned, Voice.socketAfter, hstream, hlive]
  exact fun hown => hne (hown _ hcloses session (ends_of_get? hfound hafter hends)).symm

theorem exists_ended_by_other {labels : List VoiceLabel} {setUp : SetUp}
    (hrun : voiceHook.run Voice.mount labels = some state)
    (hrequested : state.sessions.get? session = some .requested) (hearly : ¬ Vacant state setUp) :
    ∃ rest, ¬ voiceHook.Meets EndsOwn Voice.mount (labels ++ .granted session setUp :: rest) := by
  have hwired : Wired state :=
    Machine.run_invariant (fun _ _ _ h hstep => h.step hstep) wired_mount hrun
  have hstep : voiceHook.step state (.granted session setUp) = some (state.granted session setUp) :=
    if_pos hrequested
  have hrest : ∃ rest, ¬ voiceHook.Meets EndsOwn state (.granted session setUp :: rest) := by
    by_cases hcapture : setUp ≠ .ready → ∀ ref ∈ state.captureRefs, ref = none
    swap
    · simp only [Classical.not_imp, not_forall] at hcapture
      obtain ⟨hfails, ref, href, hheld⟩ := hcapture
      cases setUp with
      | ready => exact absurd rfl hfails
      | failed call message =>
          exact ⟨[], Machine.not_meets_of_not (not_endsOwn_failed hwired hrequested ⟨ref, href,
            hheld⟩)⟩
    by_cases htimers : setUp.passes .webSocket = true → state.stopTimers = []
    swap
    · simp only [Classical.not_imp] at htimers
      obtain ⟨hopens, hleft⟩ := htimers
      obtain ⟨other, hother⟩ := List.exists_mem_of_ne_nil _ hleft
      have hne : other ≠ session := by
        rintro rfl
        have hanswered := hwired.answered other (.inr hother) hrequested
        cases hanswered
      obtain ⟨rest, hrest⟩ : ∃ rest, ¬ voiceHook.Meets EndsOwn (state.granted session setUp)
          rest := by
        cases setUp with
        | ready =>
          exact exists_ended_by_timer hother hne rfl (get?_setUp_self state session .ready) rfl
        | failed call message =>
            have hsocket : (state.granted session (.failed call message)).socketRef =
              some session := if_pos hopens
            have hfound := (get?_granted_failed state session call message session).trans
              (congrArg _ (get?_setUp_self state session (.failed call message)))
            exact exists_ended_by_timer hother hne hsocket hfound (if_pos hopens)
      exact ⟨rest, fun hmeets => hrest ((Machine.meets_cons_of_step hstep).mp hmeets).2⟩
    have hsockets : ¬ (setUp = .ready → ∀ found ∈ state.sessions.values,
        found.socket.pending = false) :=
      fun hsockets => hearly ⟨hcapture, htimers, hsockets⟩
    simp only [Classical.not_imp, not_forall] at hsockets
    obtain ⟨rfl, left, hmem, hpending⟩ := hsockets
    obtain ⟨other, hleft⟩ := OrderedDict.exists_get?_of_mem_values hmem
    have hne : other ≠ session := by
      rintro rfl
      rw [hrequested] at hleft
      obtain rfl := Option.some.inj hleft
      exact hpending rfl
    have hclosed : ¬ EndsOwn (state.granted session .ready) (.socketEvent other .closed) :=
      not_endsOwn_closed hne ((get?_setUp_of_ne state .ready hne).trans hleft)
        ((Bool.not_eq_false _).mp hpending) rfl (get?_setUp_self state session .ready) rfl
    refine ⟨[.socketEvent other .closed], fun hmeets => ?_⟩
    exact Machine.not_meets_of_not hclosed ((Machine.meets_cons_of_step hstep).mp hmeets).2
  obtain ⟨rest, hrest⟩ := hrest
  exact ⟨rest, Machine.not_meets_append hrun hrest⟩

end AiAnalytics.Web
