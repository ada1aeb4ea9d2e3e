import AiAnalytics.Web.VoiceSessions

/-!
# Who ends a voice session

A session is safe while what the references point to is the only one that can still have socket
events, and all stop timers are its own. Opening a new socket keeps that only if nothing of the
sessions before it is left. -/

namespace AiAnalytics.Web

open Lib

section Statement

def Session.ends (before after : Session) : Bool :=
  (before.socket.live && !after.socket.live) || (before.stream && !after.stream) ||
    (before.context && !after.context) || (before.analyser && !after.analyser) ||
      (before.processor && !after.processor)

def Voice.ends (state next : Voice) (id : Nat) : Bool :=
  match state.sessions.get? id, next.sessions.get? id with
  | some before, some after => before.ends after
  | _, _ => false

def OwnStep (state : Voice) : VoiceLabel → Nat → Prop
  | .stopListening, id => id = state.current
  | .stopTimer session, id => id = session
  | .socketEvent session _, id => id = session
  | .unmount, _ => True
  | .startListening, _ | .denied .., _ | .granted .., _ => False

/-- A step ends only sessions whose own it is. -/
def EndsOwn (state : Voice) (label : VoiceLabel) : Prop :=
  ∀ next, voiceHook.step state label = some next → ∀ id, state.ends next id = true →
    OwnStep state label id

def Voice.captureRefs (state : Voice) : List (Option Nat) :=
  [state.mediaStreamRef, state.audioContextRef, state.analyserRef, state.processorNodeRef]

/-- What a microphone may be granted on. A set-up that fails finds no capture, one that opens a
socket no stop timer, and one that succeeds no socket that may still have events. -/
structure Vacant (state : Voice) (setUp : SetUp) : Prop where
  capture : setUp ≠ .ready → ∀ ref ∈ state.captureRefs, ref = none
  timers : setUp.passes .webSocket = true → state.stopTimers = []
  sockets : setUp = .ready → ∀ session ∈ state.sessions.values, session.socket.pending = false

instance (state : Voice) (setUp : SetUp) : Decidable (Vacant state setUp) :=
  decidable_of_iff
    ((setUp ≠ .ready → ∀ ref ∈ state.captureRefs, ref = none) ∧
      (setUp.passes .webSocket = true → state.stopTimers = []) ∧
      (setUp = .ready → ∀ session ∈ state.sessions.values, session.socket.pending = false))
    ⟨fun ⟨hcapture, htimers, hsockets⟩ => ⟨hcapture, htimers, hsockets⟩,
      fun h => ⟨h.capture, h.timers, h.sockets⟩⟩

def GrantedWhenVacant (state : Voice) : VoiceLabel → Prop
  | .granted _ setUp => Vacant state setUp
  | _ => True

instance (state : Voice) : (label : VoiceLabel) → Decidable (GrantedWhenVacant state label)
  | .granted _ setUp => inferInstanceAs (Decidable (Vacant state setUp))
  | .startListening | .denied .. | .socketEvent .. | .stopListening | .stopTimer _ | .unmount =>
    .isTrue trivial

structure Tracked (state : Voice) : Prop where
  numbered : ∀ {id session}, state.sessions.get? id = some session → id ≤ state.started
  socket : ∀ {id}, state.socketRef = some id → id = state.current
  timers : ∀ id ∈ state.stopTimers, id = state.current

structure Exclusive (state : Voice) : Prop extends Tracked state where
  capture : ∀ ref ∈ state.captureRefs, ∀ id, ref = some id → id = state.current
  sole : ∀ ref ∈ state.captureRefs, ∀ id, ref = some id →
    ∀ {other session}, state.sessions.get? other = some session → session.socket.pending = true →
      other = id

end Statement

section Changes

variable {state mid next : Voice} {touched touched' : Nat → Prop} {id : Nat}

structure Confined (touched : Nat → Prop) (state next : Voice) : Prop where
  sessions : ∀ {id after}, next.sessions.get? id = some after →
    ∃ before, state.sessions.get? id = some before ∧
    (after.socket.pending = true → before.socket.pending = true) ∧
      (before.ends after = true → touched id)
  later : ∀ {id before}, state.sessions.get? id = some before →
    ∃ after, next.sessions.get? id = some after ∧
    (after.requesting = true → before.requesting = true) ∧
    (next.processorNodeRef = some id → before.processor = true → after.processor = true)
  started : next.started = state.started
  current : next.current = state.current
  socketRef : next.socketRef = state.socketRef ∨ next.socketRef = none
  captureRefs : next.captureRefs = state.captureRefs ∨ ∀ ref ∈ next.captureRefs, ref = none
  timers : ∀ id ∈ next.stopTimers, id ∈ state.stopTimers ∨ id = state.current

@[simp]
theorem Session.ends_self (session : Session) : session.ends session = false := by
  simp [Session.ends]

theorem Session.ends_of_ends {before middle after : Session} (h : before.ends after = true) :
    before.ends middle = true ∨ middle.ends after = true := by
  simp only [Session.ends, Bool.or_eq_true, Bool.and_eq_true, Bool.not_eq_true'] at h ⊢
  grind

theorem Confined.processorNodeRef (h : Confined touched state next)
    (hid : next.processorNodeRef = some id) : state.processorNodeRef = some id := by
  obtain hsame | hnone := h.captureRefs
  · simp only [Voice.captureRefs, List.cons.injEq] at hsame
    exact hsame.2.2.2.1 ▸ hid
  · rw [hnone next.processorNodeRef (by simp [Voice.captureRefs])] at hid
    cases hid

theorem Confined.trans (h : Confined touched state mid) (h' : Confined touched' mid next) :
    Confined (fun id => touched id ∨ touched' id) state next where
  sessions hafter := by
    obtain ⟨middle, hmiddle, hpending', hends'⟩ := h'.sessions hafter
    obtain ⟨before, hbefore, hpending, hends⟩ := h.sessions hmiddle
    refine ⟨before, hbefore, fun hlater => hpending (hpending' hlater), fun hended => ?_⟩
    exact (Session.ends_of_ends hended).imp hends hends'
  later hbefore := by
    obtain ⟨middle, hmiddle, hrequesting, hprocessor⟩ := h.later hbefore
    obtain ⟨after, hafter, hrequesting', hprocessor'⟩ := h'.later hmiddle
    refine ⟨after, hafter, fun hlater => hrequesting (hrequesting' hlater), fun hheld hconnected =>
      ?_⟩
    exact hprocessor' hheld (hprocessor (h'.processorNodeRef hheld) hconnected)
  started := h'.started.trans h.started
  current := h'.current.trans h.current
  socketRef := by
    obtain hsame' | hnone := h'.socketRef
    · rw [hsame']
      exact h.socketRef
    · exact .inr hnone
  captureRefs := by
    obtain hsame' | hnone := h'.captureRefs
    · rw [hsame']
      exact h.captureRefs
    · exact .inr hnone
  timers id hid := by
    obtain hold | hnew := h'.timers id hid
    · exact h.timers id hold
    · exact .inr (hnew.trans h.current)

theorem Confined.mono (h : Confined touched state next) (himp : ∀ id, touched id → touched' id) :
    Confined touched' state next where
  sessions hafter := by
    obtain ⟨before, hbefore, hpending, hends⟩ := h.sessions hafter
    exact ⟨before, hbefore, hpending, fun hended => himp _ (hends hended)⟩
  later := h.later
  started := h.started
  current := h.current
  socketRef := h.socketRef
  captureRefs := h.captureRefs
  timers := h.timers

theorem confined_of_sessions_eq (hsessions : next.sessions = state.sessions)
    (hstarted : next.started = state.started) (hcurrent : next.current = state.current)
    (hsocket : next.socketRef = state.socketRef)
    (hcapture : next.captureRefs = state.captureRefs)
    (htimers : ∀ id ∈ next.stopTimers, id ∈ state.stopTimers ∨ id = state.current) :
    Confined (fun _ => False) state next where
  sessions {id after} hafter := by
    refine ⟨after, hsessions ▸ hafter, fun hpending => hpending, fun hended => ?_⟩
    rw [Session.ends_self] at hended
    cases hended
  later {id before} hbefore := by
    refine ⟨before, ?_, fun hrequesting => hrequesting, fun _ hconnected => hconnected⟩
    rw [hsessions, hbefore]
  started := hstarted
  current := hcurrent
  socketRef := .inl hsocket
  captureRefs := .inl hcapture
  timers := htimers

theorem get?_change (sessions : OrderedDict Nat Session) (ref : Option Nat) (f : Session → Session)
    (id : Nat) : (Voice.change sessions ref f).get? id = (sessions.get? id).map fun session =>
      if ref = some id then f session else session := by
  cases ref with
  | none => simp [Voice.change]
  | some other =>
      rw [Voice.change, OrderedDict.get?_modify]
      by_cases heq : id = other <;> simp [heq, eq_comm]

def Voice.cleaned (state : Voice) (id : Nat) (session : Session) : Session :=
  { session with
    stream := session.stream && state.mediaStreamRef ≠ some id
    context := session.context && state.audioContextRef ≠ some id
    analyser := session.analyser && state.analyserRef ≠ some id
    processor := session.processor && state.processorNodeRef ≠ some id }

theorem get?_cleanupAudio (state : Voice) (id : Nat) :
    state.cleanupAudio.sessions.get? id = (state.sessions.get? id).map (state.cleaned id) := by
  simp only [Voice.cleanupAudio, get?_change, Option.map_map]
  congr 1
  funext session
  simp only [Function.comp_apply, Voice.cleaned]
  split_ifs <;> simp [*]

theorem confined_cleanupAudio (state : Voice) :
    Confined (fun id => ∃ ref ∈ state.captureRefs, ref = some id) state state.cleanupAudio where
  sessions {id after} hafter := by
    rw [get?_cleanupAudio] at hafter
    obtain ⟨before, hbefore, rfl⟩ := Option.map_eq_some_iff.mp hafter
    refine ⟨before, hbefore, fun hpending => hpending, fun hended => ?_⟩
    simp only [Session.ends, Voice.cleaned] at hended
    simp only [Voice.captureRefs, List.mem_cons, List.not_mem_nil, or_false, exists_eq_or_imp,
      exists_eq_left]
    grind
  later {id before} hbefore := by
    refine ⟨state.cleaned id before, ?_, fun hrequesting => hrequesting, fun hheld _ => ?_⟩
    · rw [get?_cleanupAudio, hbefore, Option.map_some]
    · cases hheld
  started := rfl
  current := rfl
  socketRef := .inl rfl
  captureRefs := .inr fun ref href => by
    simpa [Voice.captureRefs, Voice.cleanupAudio] using href
  timers _ hid := .inl hid

theorem confined_shutDown (state : Voice) :
    Confined (fun id => ∃ ref ∈ state.captureRefs, ref = some id) state state.shutDown := by
  have hshown : Confined (fun _ => False) state.cleanupAudio state.shutDown :=
    confined_of_sessions_eq rfl rfl rfl rfl rfl fun _ hid => .inl hid
  exact ((confined_cleanupAudio state).trans hshown).mono fun _ htouched =>
    htouched.elim (fun h => h) False.elim

theorem confined_change {ref : Option Nat} {f : Session → Session}
    (hsessions : next.sessions = Voice.change state.sessions ref f)
    (hpending : ∀ id session, ref = some id → state.sessions.get? id = some session →
      (f session).socket.pending = true → session.socket.pending = true)
    (hends : ∀ id (session : Session), ref = some id → session.ends (f session) = true → touched id)
    (hkeeps : ∀ session, ((f session).requesting = true → session.requesting = true) ∧
      (f session).processor = session.processor)
    (hstarted : next.started = state.started)
    (hcurrent : next.current = state.current)
    (hsocket : next.socketRef = state.socketRef ∨ next.socketRef = none)
    (hrefs : next.captureRefs = state.captureRefs)
    (htimers : ∀ id ∈ next.stopTimers, id ∈ state.stopTimers ∨ id = state.current) :
    Confined touched state next where
  sessions {id after} hafter := by
    rw [hsessions, get?_change] at hafter
    obtain ⟨before, hbefore, rfl⟩ := Option.map_eq_some_iff.mp hafter
    split_ifs with href
    · exact ⟨before, hbefore, hpending id before href hbefore, hends id before href⟩
    · refine ⟨before, hbefore, fun h => h, fun hended => ?_⟩
      rw [Session.ends_self] at hended
      cases hended
  later {id before} hbefore := by
    refine ⟨if ref = some id then f before else before, ?_, ?_, ?_⟩
    · rw [hsessions, get?_change, hbefore, Option.map_some]
    · split_ifs
      · exact (hkeeps before).1
      · exact fun hrequesting => hrequesting
    · split_ifs
      · exact fun _ hconnected => (hkeeps before).2 ▸ hconnected
      · exact fun _ hconnected => hconnected
  started := hstarted
  current := hcurrent
  socketRef := hsocket
  captureRefs := .inl hrefs
  timers := htimers

theorem pending_of_close {socket : SocketState} (h : socket.close.pending = true) :
    socket.pending = true := by
  cases socket <;> simp_all [SocketState.close, SocketState.pending, SocketState.live]

theorem confined_stopListening (state : Voice) :
    Confined (fun id => ∃ ref ∈ state.captureRefs, ref = some id) state state.stopListening := by
  unfold Voice.stopListening
  split_ifs
  · exact (confined_of_sessions_eq rfl rfl rfl rfl rfl fun _ hid => .inl hid).mono fun _ =>
      False.elim
  · -- The stop message ends nothing, the clean-up what the references point to.
    have hsent : Confined (fun _ => False) state { state with
        sessions := Voice.change state.sessions state.socketRef fun session =>
          if session.socket = .opened then { session with stopSent := true } else session } := by
      refine confined_change rfl (fun _ session _ _ => ?_) (fun _ session _ hended => ?_)
        (fun session => ?_) rfl rfl (.inl rfl) rfl fun _ hid => .inl hid
      · split_ifs <;> exact fun hpending => hpending
      · simp only [Session.ends] at hended
        split_ifs at hended <;> simp at hended
      · split_ifs <;> exact ⟨fun hrequesting => hrequesting, rfl⟩
    have hcleaned := hsent.trans (confined_cleanupAudio _)
    refine (hcleaned.trans (confined_of_sessions_eq ?_ ?_ ?_ ?_ ?_ fun id hid => ?_)).mono
      fun _ htouched => ?_
    all_goals try rfl
    · exact (List.mem_append.mp hid).imp (fun hold => hold) List.mem_singleton.mp
    · exact (htouched.resolve_right fun h => h).resolve_left fun h => h

theorem confined_stopTimer (state : Voice) (session : Nat) :
    Confined (fun id => state.socketRef = some id) state (state.stopTimer session) := by
  refine confined_change rfl ?_ (fun _ _ href _ => href) ?_ rfl rfl (.inl rfl) rfl
    fun _ hid => .inl (List.mem_of_mem_erase hid)
  · intro _ session _ _ hpending
    split_ifs at hpending
    · exact pending_of_close hpending
    · exact hpending
  · intro session
    split_ifs <;> exact ⟨fun hrequesting => hrequesting, rfl⟩

theorem confined_unmount (state : Voice) : Confined (fun _ => True) state state.unmount := by
  have hclosed : Confined (fun id => state.cleanupAudio.socketRef = some id) state.cleanupAudio
      state.unmount := by
    refine confined_change rfl (fun _ _ _ _ => pending_of_close) (fun _ _ href _ => href)
      (fun _ => ⟨fun h => h, rfl⟩) rfl rfl (.inr rfl) rfl fun _ hid => .inl hid
  exact ((confined_cleanupAudio state).trans hclosed).mono fun _ _ => trivial

theorem pending_of_possible {event : SocketEvent} {socket : SocketState}
    (h : event.possible socket = true) : socket.pending = true := by
  cases event <;> simp_all [SocketEvent.possible, SocketState.pending, SocketState.live]

theorem confined_socketAfter {session : Nat} {event : SocketEvent}
    (hpossible : (state.sessions.get? session).any (fun session => event.possible session.socket) =
      true) :
    Confined (fun id => id = session) state (state.socketAfter session event) := by
  have hconfined : Confined (fun id => some session = some id) state
      (state.socketAfter session event) := by
    have hsessions : (state.socketAfter session event).sessions =
        Voice.change state.sessions (some session) fun found =>
          { found with socket := event.after found.socket } :=
      rfl
    refine confined_change hsessions ?_ (fun _ _ href _ => href) (fun _ => ⟨fun h => h, rfl⟩) rfl
      rfl (.inl rfl) rfl
      fun _ hid => .inl hid
    intro id found hid hfound _
    rw [Option.some.inj hid, hfound] at hpossible
    exact pending_of_possible hpossible
  exact hconfined.mono fun _ hid => (Option.some.inj hid).symm

theorem confined_handleSocket (state : Voice) (session : Nat) (event : SocketEvent) :
    Confined (fun id => id = session ∨ ∃ ref ∈ state.captureRefs, ref = some id) state
      (state.handleSocket session event) := by
  have hshown {next : Voice} (hsessions : next.sessions = state.sessions)
      (hrefs : next.captureRefs = state.captureRefs)
      (hstarted : next.started = state.started) (hcurrent : next.current = state.current)
      (hsocket : next.socketRef = state.socketRef) (htimers : next.stopTimers = state.stopTimers) :
      Confined (fun id => id = session ∨ ∃ ref ∈ state.captureRefs, ref = some id) state next :=
    (confined_of_sessions_eq hsessions hstarted hcurrent hsocket hrefs fun _ hid =>
      .inl (htimers ▸ hid)).mono
      fun _ => False.elim
  cases event with
  | opened => exact hshown rfl rfl rfl rfl rfl rfl
  | transcriptFinal text =>
      simp only [Voice.handleSocket]
      split_ifs
      · exact hshown rfl rfl rfl rfl rfl rfl
      · exact hshown rfl rfl rfl rfl rfl rfl
  | otherMessage => exact hshown rfl rfl rfl rfl rfl rfl
  | voiceCompleted => exact (confined_shutDown state).mono fun _ => .inr
  | closed => exact (confined_shutDown state).mono fun _ => .inr
  | error =>
      have hmessage : Confined (fun _ => False) state.shutDown
          (state.handleSocket session .error) :=
        confined_of_sessions_eq rfl rfl rfl rfl rfl fun _ hid => .inl hid
      exact ((confined_shutDown state).trans hmessage).mono fun _ htouched =>
        .inr (htouched.resolve_right id)
  | voiceError error =>
      have hclosed : Confined (fun id => some session = some id) state.shutDown
          (state.handleSocket session (.voiceError error)) := by
        have hsessions : (state.handleSocket session (.voiceError error)).sessions =
            Voice.change state.shutDown.sessions (some session)
              fun found => { found with socket := found.socket.close } := rfl
        exact confined_change hsessions (fun _ _ _ _ => pending_of_close) (fun _ _ href _ => href)
          (fun _ => ⟨fun h => h, rfl⟩) rfl rfl (.inl rfl) rfl fun _ hid => .inl hid
      refine ((confined_shutDown state).trans hclosed).mono fun _ htouched => ?_
      exact htouched.symm.imp (fun hid => (Option.some.inj hid).symm) fun h => h

theorem confined_socketEvent {session : Nat} {event : SocketEvent}
    (hpossible : (state.sessions.get? session).any (fun session => event.possible session.socket) =
      true) :
    Confined (fun id => id = session ∨ ∃ ref ∈ state.captureRefs, ref = some id) state
      ((state.socketAfter session event).handleSocket session event) := by
  refine ((confined_socketAfter hpossible).trans (confined_handleSocket _ session event)).mono
    fun _ htouched => ?_
  exact htouched.elim .inl fun h => h

end Changes

section Runs

variable {state next : Voice} {label : VoiceLabel}

theorem exclusive_mount : Exclusive Voice.mount where
  numbered hsession := by cases hsession
  socket hid := by cases hid
  capture ref href id hid := by
    simp only [Voice.captureRefs, Voice.mount, List.mem_cons, List.not_mem_nil, or_false,
      or_self] at href
    rw [href] at hid
    cases hid
  sole ref href id hid := by
    simp only [Voice.captureRefs, Voice.mount, List.mem_cons, List.not_mem_nil, or_false,
      or_self] at href
    rw [href] at hid
    cases hid
  timers id hid := by cases hid

theorem Tracked.confined {touched : Nat → Prop} (h : Tracked state)
    (hnext : Confined touched state next) : Tracked next where
  numbered hsession := by
    obtain ⟨before, hbefore, _⟩ := hnext.sessions hsession
    rw [hnext.started]
    exact h.numbered hbefore
  socket hid := by
    obtain hsame | hnone := hnext.socketRef
    · rw [hnext.current]
      exact h.socket (hsame ▸ hid)
    · rw [hnone] at hid
      cases hid
  timers id hid := by
    rw [hnext.current]
    exact (hnext.timers id hid).elim (h.timers id) fun hnew => hnew

theorem Exclusive.confined {touched : Nat → Prop} (h : Exclusive state)
    (hnext : Confined touched state next) : Exclusive next where
  toTracked := h.toTracked.confined hnext
  capture ref href id hid := by
    obtain hsame | hnone := hnext.captureRefs
    · rw [hnext.current]
      exact h.capture ref (hsame ▸ href) id hid
    · rw [hnone ref href] at hid
      cases hid
  sole ref href id hid := by
    intro other session hsession hpending
    obtain hsame | hnone := hnext.captureRefs
    · obtain ⟨before, hbefore, hback, _⟩ := hnext.sessions hsession
      exact h.sole ref (hsame ▸ href) id hid hbefore (hback hpending)
    · rw [hnone ref href] at hid
      cases hid

theorem ends_eq_true {id : Nat} (h : state.ends next id = true) :
    ∃ before after, state.sessions.get? id = some before ∧ next.sessions.get? id = some after ∧
      before.ends after = true := by
  unfold Voice.ends at h
  split at h
  · rename_i before after hbefore hafter
    exact ⟨before, after, hbefore, hafter, h⟩
  · cases h

theorem Confined.touched_of_ends {touched : Nat → Prop} {id : Nat} (h : Confined touched state next)
    (hended : state.ends next id = true) : touched id := by
  obtain ⟨before, after, hbefore, hafter, hends⟩ := ends_eq_true hended
  obtain ⟨same, hsame, _, htouched⟩ := h.sessions hafter
  rw [hbefore] at hsame
  obtain rfl := Option.some.inj hsame
  exact htouched hends

theorem mem_captureRefs_setUp {session : Nat} {setUp : SetUp} {ref : Option Nat}
    (href : ref ∈ (state.setUp session setUp).captureRefs) :
    ref = some session ∨ ref ∈ state.captureRefs := by
  simp only [Voice.captureRefs, Voice.setUp, List.mem_cons, List.not_mem_nil, or_false] at href ⊢
  grind

theorem get?_setUp_of_ne (state : Voice) {session id : Nat} (setUp : SetUp) (hne : id ≠ session) :
    (state.setUp session setUp).sessions.get? id = state.sessions.get? id := by
  rw [Voice.setUp, OrderedDict.get?_set, if_neg hne]

theorem confined_failed (state : Voice) (session : Nat) (call : SetUpCall) (message : String) :
    Confined (fun id => ∃ ref ∈ (state.setUp session (.failed call message)).captureRefs,
      ref = some id) (state.setUp session (.failed call message))
      (state.granted session (.failed call message)) := by
  have hmessage : Confined (fun _ => False) (state.setUp session (.failed call message)).shutDown
      (state.granted session (.failed call message)) :=
    confined_of_sessions_eq rfl rfl rfl rfl rfl fun _ hid => .inl hid
  exact ((confined_shutDown _).trans hmessage).mono fun _ htouched =>
    htouched.resolve_right fun h => h

theorem not_ends_granted {session id : Nat} {setUp : SetUp}
    (hrequested : state.sessions.get? session = some .requested) (hvacant : Vacant state setUp) :
    state.ends (state.granted session setUp) id = false := by
  by_contra hends
  obtain ⟨before, after, hbefore, hafter, hended⟩ := ends_eq_true ((Bool.not_eq_false _).mp hends)
  have hne : id ≠ session := by
    rintro rfl
    rw [hrequested] at hbefore
    obtain rfl := Option.some.inj hbefore
    simp [Session.ends, Session.requested, SocketState.live] at hended
  have hsame := (get?_setUp_of_ne state setUp hne).trans hbefore
  cases setUp with
  | ready =>
      rw [show (state.granted session .ready).sessions.get? id = some before from hsame] at hafter
      obtain rfl := Option.some.inj hafter
      rw [Session.ends_self] at hended
      cases hended
  | failed call message =>
      obtain ⟨_, hset, _, htouched⟩ := (confined_failed state session call message).sessions hafter
      rw [hsame] at hset
      obtain rfl := Option.some.inj hset
      obtain ⟨ref, href, hid⟩ := htouched hended
      obtain hnew | hold := mem_captureRefs_setUp href
      · exact hne (Option.some.inj (hid.symm.trans hnew))
      · rw [hvacant.capture (by simp) ref hold] at hid
        cases hid

theorem Tracked.setUp {session : Nat} {setUp : SetUp} (h : Tracked state)
    (hrequested : state.sessions.get? session = some .requested) (hvacant : Vacant state setUp) :
    Tracked (state.setUp session setUp) where
  numbered {id later} hlater := by
    by_cases hid : id = session
    · subst hid
      exact h.numbered hrequested
    · rw [get?_setUp_of_ne state setUp hid] at hlater
      exact h.numbered hlater
  socket {id} hid := by
    simp only [Voice.setUp] at hid ⊢
    split_ifs at hid ⊢
    · exact (Option.some.inj hid).symm
    · exact h.socket hid
  timers id hid := by
    simp only [Voice.setUp] at hid ⊢
    split_ifs with hopens
    · rw [hvacant.timers hopens] at hid
      cases hid
    · exact h.timers id hid

theorem Exclusive.granted {session : Nat} {setUp : SetUp} (h : Exclusive state)
    (hrequested : state.sessions.get? session = some .requested) (hvacant : Vacant state setUp) :
    Exclusive (state.granted session setUp) := by
  have htracked := h.toTracked.setUp hrequested hvacant
  cases setUp with
  | ready =>
      have hown {ref : Option Nat} (href : ref ∈ (state.setUp session .ready).captureRefs) :
          ref = some session := by
        simpa [Voice.captureRefs, Voice.setUp, SetUp.passes] using href
      refine ⟨htracked, fun ref href id hid => ?_,
        fun ref href id hid {other later} hlater hpending => ?_⟩
      · exact (Option.some.inj ((hown href).symm.trans hid)).symm
      · obtain rfl := Option.some.inj ((hown href).symm.trans hid)
        by_contra hne
        have hold := (get?_setUp_of_ne state .ready hne).symm.trans hlater
        rw [hvacant.sockets rfl later (OrderedDict.mem_values_of_get? hold)] at hpending
        cases hpending
  | failed call message =>
      have hnone {ref : Option Nat} (href :
        ref ∈ (state.granted session (.failed call message)).captureRefs) :
          ref = none := by
        simpa [Voice.captureRefs, Voice.granted, Voice.shutDown, Voice.cleanupAudio] using href
      refine ⟨htracked.confined (confined_failed state session call message), fun ref href id hid =>
        ?_,
        fun ref href id hid => ?_⟩
      · rw [hnone href] at hid
        cases hid
      · rw [hnone href] at hid
        cases hid

theorem confined_denied (state : Voice) (session : Nat) (permission : Bool) (message : String) :
    Confined (fun _ => False) state (state.denied session permission message) := by
  have hsessions : (state.denied session permission message).sessions =
      Voice.change state.sessions (some session) fun found => { found with requesting := false } :=
        rfl
  refine confined_change hsessions (fun _ _ _ _ h => h) (fun _ found _ hended => ?_)
    (fun _ => ⟨fun h => ?_, rfl⟩) rfl rfl (.inl rfl) rfl fun _ hid => .inl hid
  · simp [Session.ends] at hended
  · cases h

theorem Exclusive.startListening (h : Exclusive state) : Exclusive state.startListening where
  numbered {id later} hlater := by
    rw [Voice.startListening, OrderedDict.get?_set] at hlater
    split_ifs at hlater with hid
    · exact Nat.le_of_eq hid
    · exact Nat.le_succ_of_le (h.numbered hlater)
  socket := h.socket
  timers := h.timers
  capture := h.capture
  sole ref href id hid := by
    intro other later hlater hpending
    rw [Voice.startListening, OrderedDict.get?_set] at hlater
    split_ifs at hlater
    · obtain rfl := Option.some.inj hlater
      cases hpending
    · exact h.sole ref href id hid hlater hpending

inductive VoiceCase (state : Voice) : VoiceLabel → Voice → Prop
  | starts : VoiceCase state .startListening state.startListening
  | granted {session : Nat} {setUp : SetUp} (hrequested : state.sessions.get? session =
    some .requested) :
      VoiceCase state (.granted session setUp) (state.granted session setUp)
  | confined {label : VoiceLabel} {next : Voice} (touched : Nat → Prop)
      (h : Confined touched state next)
      (hown : Exclusive state → ∀ id, touched id → OwnStep state label id) :
        VoiceCase state label next

theorem voice_cases (hstep : voiceHook.step state label = some next) :
    VoiceCase state label next := by
  have hcaptured (h : Exclusive state) {id : Nat} (hid : ∃ ref ∈ state.captureRefs, ref = some id) :
      id = state.current := by
    obtain ⟨ref, href, hsome⟩ := hid
    exact h.capture ref href id hsome
  cases label with
  | startListening =>
      obtain rfl := Option.some.inj hstep
      exact .starts
  | denied session permission message =>
      simp only [voiceHook, Option.ite_none_right_eq_some] at hstep
      obtain rfl := Option.some.inj hstep.2
      exact .confined _ (confined_denied state session permission message) fun _ _ => False.elim
  | granted session setUp =>
      simp only [voiceHook, Option.ite_none_right_eq_some] at hstep
      obtain rfl := Option.some.inj hstep.2
      exact .granted hstep.1
  | socketEvent session event =>
      simp only [voiceHook, Option.ite_none_right_eq_some] at hstep
      obtain ⟨hpossible, hnext⟩ := hstep
      obtain rfl := Option.some.inj hnext
      refine .confined _ (confined_socketEvent hpossible) fun h id htouched => ?_
      obtain hid | ⟨ref, href, hid⟩ := htouched
      · exact hid
      · obtain ⟨found, hfound, hevent⟩ := (Option.any_eq_true _ _).mp hpossible
        exact (h.sole ref href id hid hfound (pending_of_possible hevent)).symm
  | stopListening =>
      obtain rfl := Option.some.inj hstep
      exact .confined _ (confined_stopListening state) fun h _ => hcaptured h
  | stopTimer session =>
      simp only [voiceHook, Option.ite_none_right_eq_some] at hstep
      obtain ⟨htimer, hnext⟩ := hstep
      obtain rfl := Option.some.inj hnext
      refine .confined _ (confined_stopTimer state session) fun h id hid => ?_
      exact (h.socket hid).trans (h.timers session htimer).symm
  | unmount =>
      obtain rfl := Option.some.inj hstep
      exact .confined _ (confined_unmount state) fun _ _ _ => trivial

theorem Exclusive.step (h : Exclusive state) (hcond : GrantedWhenVacant state label)
    (hstep : voiceHook.step state label = some next) : Exclusive next := by
  cases voice_cases hstep with
  | starts => exact h.startListening
  | granted hrequested => exact h.granted hrequested hcond
  | confined touched hconfined _ => exact h.confined hconfined

theorem Exclusive.endsOwn (h : Exclusive state) (hcond : GrantedWhenVacant state label) :
    EndsOwn state label := by
  intro next hstep id hended
  cases voice_cases hstep with
  | starts =>
      obtain ⟨before, after, hbefore, hafter, hends⟩ := ends_eq_true hended
      have hne : id ≠ state.started + 1 := Nat.ne_of_lt (Nat.lt_succ_of_le (h.numbered hbefore))
      rw [Voice.startListening, OrderedDict.get?_set, if_neg hne, hbefore] at hafter
      obtain rfl := Option.some.inj hafter
      rw [Session.ends_self] at hends
      cases hends
  | granted hrequested =>
      rw [not_ends_granted hrequested hcond] at hended
      cases hended
  | confined touched hconfined hown => exact hown h id (hconfined.touched_of_ends hended)

end Runs

/-- In a run whose microphones are all granted where nothing of an earlier session is left, a step
ends the socket or the capture of no session but its own. -/
theorem sessions_end_by_own_steps (labels : List VoiceLabel)
    (hmeets : voiceHook.Meets GrantedWhenVacant Voice.mount labels) :
    voiceHook.Meets EndsOwn Voice.mount labels := by
  refine Machine.meets_of_invariant ?_ ?_ exclusive_mount hmeets
  · intro state label hexclusive hcond
    exact hexclusive.endsOwn hcond
  · intro state label next hexclusive hcond hstep
    exact hexclusive.step hcond hstep

def stoppedFirst : List VoiceLabel :=
  [.startListening, .granted 1 .ready, .socketEvent 1 .opened, .stopListening,
    .socketEvent 1 (.transcriptFinal "a"), .socketEvent 1 .voiceCompleted, .socketEvent 1 .closed]

def restartedLate : List VoiceLabel :=
  stoppedFirst ++ [.stopTimer 1, .startListening, .granted 2 .ready, .socketEvent 2 .opened,
    .stopListening]

theorem sessions_end_by_own_steps_restartedLate :
    ((voiceHook.run Voice.mount restartedLate).bind fun state => state.sessions.get? 2) =
      some ⟨false, .opened, true, false, false, false, false⟩ ∧
    voiceHook.Meets EndsOwn Voice.mount restartedLate := by
  refine ⟨by decide +kernel, sessions_end_by_own_steps restartedLate ?_⟩
  exact Machine.meets_of_passes (fun _ _ h => of_decide_eq_true h) (by decide +kernel)

def restartedSoon : List VoiceLabel :=
  stoppedFirst ++ [.startListening, .granted 2 .ready, .socketEvent 2 .opened]

theorem not_endsOwn {state : Voice} {label : VoiceLabel} (id : Nat)
    (hends : (voiceHook.step state label).any (fun next => state.ends next id) = true)
    (hnot : ¬ OwnStep state label id) : ¬ EndsOwn state label := by
  obtain ⟨next, hstep, hended⟩ := (Option.any_eq_true _ _).mp hends
  exact fun hown => hnot (hown next hstep id hended)

/-- The timer of the first session closes the socket of the second, which is open and captures. -/
theorem stop_timer_closes_next :
    ((voiceHook.run Voice.mount restartedSoon).bind fun state => state.sessions.get? 2) =
      some ⟨false, .opened, false, true, true, true, true⟩ ∧
    ((voiceHook.run Voice.mount (restartedSoon ++ [.stopTimer 1])).bind fun state =>
      state.sessions.get? 2) = some ⟨false, .closing, false, true, true, true, true⟩ ∧
    ¬ voiceHook.Meets EndsOwn Voice.mount (restartedSoon ++ [.stopTimer 1]) := by
  refine ⟨by decide +kernel, by decide +kernel, ?_⟩
  exact Machine.not_meets_of_any (fun _ h => not_endsOwn 2 h (show ¬ 2 = 1 by decide))
    (by decide +kernel)

end AiAnalytics.Web
