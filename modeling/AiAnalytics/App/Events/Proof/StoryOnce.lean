import AiAnalytics.App.Events.EventGenerator
import Mathlib.Data.List.Nodup
import Mathlib.Tactic.Common

/-!
# Whether a stream tells a run's story once

Live events are told once: the Redis stream and the log hold each event once, and the generator
passes over the ids it has sent. A rebuilt event has a new id, so only the order in which the
sources are used decides whether the beginning or the end of the story is told again.
-/

namespace AiAnalytics.App.Events

open Lib App.Loop

variable {Float : Type} {cfg : StreamConfig} {world next : EventWorld Float}
  {view : EventStream Float} {event : SseEvent Float}

section Stories

/-- `run.received` at most once, no event twice, and one end, which comes last. Events are told
apart by their ids: of a step that has been told live, a rebuilt story makes another event. -/
structure TellsOnce (delivered : List (SseEvent Float)) : Prop where
  received : (delivered.filter fun event => event.eventType = .runReceived).length ≤ 1
  distinct : (delivered.map (·.eventId)).Nodup
  ending : ∃ before last, delivered = before ++ [last] ∧ last.eventType.ends = true ∧
    ∀ event ∈ before, event.eventType.ends = false

structure Told (published : List (SseEvent Float)) (runId : String) (view : EventStream Float) :
    Prop where
  ids : view.emittedEventIds = view.delivered.map (·.eventId)
  nodup : (view.delivered.map (·.eventId)).Nodup
  live : ∀ event ∈ view.delivered, event ∈ published ∧ event.runId = runId

structure WorldInv (cfg : StreamConfig) (world : EventWorld Float) : Prop where
  stream : (world.stream.map Prod.snd).Sublist world.published
  log : world.log.Sublist world.published
  nodup : (world.published.map (·.eventId)).Nodup
  taken : ∀ event ∈ world.published, event.eventId ∈ world.taken
  subject : ∀ event ∈ world.published, event.runId = cfg.runId →
    event.eventType.subject = cfg.subject
  received : ∀ event ∈ world.published, ∀ other ∈ world.published, event.runId = cfg.runId →
    other.runId = cfg.runId → event.eventType = .runReceived → other.eventType = .runReceived →
    event.eventId = other.eventId
  run : ∀ run, world.run = some run → cfg.subject = .run
  job : ∀ job, world.job = some job → cfg.subject = .job

def StreamStage.ofRun : StreamStage Float → Prop
  | .replaying _ | .rebuilding _ => True
  | _ => False

structure OpenInv (cfg : StreamConfig) (world : EventWorld Float) (view : EventStream Float) :
    Prop where
  told : Told world.published cfg.runId view
  quiet : ∀ event ∈ view.delivered, event.eventType.endsRun = false
  staged : view.stage.ofRun → cfg.subject = .run

theorem ends_eq_endsRun {eventType : SseEventType} (hsubject : eventType.subject = .run) :
    eventType.ends = eventType.endsRun := by
  cases eventType with
  | jobCompleted | jobFailed => cases hsubject
  | _ => rfl

theorem subject_of_endsRun {eventType : SseEventType} (hends : eventType.endsRun = true) :
    eventType.subject = .run := by
  cases eventType with
  | loop => rfl
  | _ => cases hends

theorem received_le_one {events : List (SseEvent Float)}
    (hnodup : (events.map (·.eventId)).Nodup)
    (hsame : ∀ event ∈ events, ∀ other ∈ events, event.eventType = .runReceived →
      other.eventType = .runReceived → event.eventId = other.eventId) :
    (events.filter fun event => event.eventType = .runReceived).length ≤ 1 := by
  generalize hfiltered : (events.filter fun event => event.eventType = .runReceived) = filtered
  have hids : (filtered.map (·.eventId)).Nodup := by
    rw [← hfiltered]
    exact (List.filter_sublist.map _).nodup hnodup
  have hmem (event : SseEvent Float) (h : event ∈ filtered) :
      event ∈ events ∧ event.eventType = .runReceived := by
    rw [← hfiltered] at h
    simpa using List.mem_filter.mp h
  cases filtered with
  | nil => exact Nat.zero_le 1
  | cons first others =>
      cases others with
      | nil => exact Nat.le_refl 1
      | cons second rest =>
          have hfirst := hmem first List.mem_cons_self
          have hsecond := hmem second (List.mem_cons_of_mem _ List.mem_cons_self)
          have hid := hsame first hfirst.1 second hsecond.1 hfirst.2 hsecond.2
          rw [List.map_cons, List.map_cons, hid] at hids
          exact absurd List.mem_cons_self (List.nodup_cons.mp hids).1

theorem Told.received_le_one (h : Told world.published cfg.runId view)
    (hworld : WorldInv cfg world) :
    (view.delivered.filter fun event => event.eventType = .runReceived).length ≤ 1 := by
  refine Events.received_le_one h.nodup fun event hevent other hother => ?_
  obtain ⟨hpublished, hrun⟩ := h.live event hevent
  obtain ⟨hotherPublished, hotherRun⟩ := h.live other hother
  exact hworld.received event hpublished other hotherPublished hrun hotherRun

theorem Told.subject (h : Told world.published cfg.runId view) (hworld : WorldInv cfg world)
    (hevent : event ∈ view.delivered) : event.eventType.subject = cfg.subject :=
  hworld.subject event (h.live event hevent).1 (h.live event hevent).2

theorem Told.deliver {published : List (SseEvent Float)} {runId : String}
    (h : Told published runId view) (hpublished : event ∈ published) (hrun : event.runId = runId)
    (hnew : event.eventId ∉ view.emittedEventIds) : Told published runId (view.deliver event) where
  ids := by
    rw [EventStream.deliver, h.ids, List.map_append]
    rfl
  nodup := by
    rw [EventStream.deliver, List.map_append, List.nodup_append]
    refine ⟨h.nodup, List.nodup_singleton _, ?_⟩
    rintro old hold _ hlast rfl
    rw [List.map_singleton, List.mem_singleton] at hlast
    rw [h.ids] at hnew
    exact hnew (hlast ▸ hold)
  live := by
    intro old hold
    rcases List.mem_append.mp hold with hbefore | hlast
    · exact h.live old hbefore
    · obtain rfl := List.mem_singleton.mp hlast
      exact ⟨hpublished, hrun⟩

end Stories

section Reading

variable {published : List (SseEvent Float)} {runId : String}

def EndsHere (view : EventStream Float) : Prop :=
  ∃ before last, view.delivered = before ++ [last] ∧ last.eventType.endsRun = true ∧
    ∀ event ∈ before, event.eventType.endsRun = false

theorem told_readMessages {messages : List (StreamId × SseEvent Float)}
    (h : Told published runId view)
    (hquiet : ∀ event ∈ view.delivered, event.eventType.endsRun = false)
    (hpublished : ∀ entry ∈ messages, entry.2 ∈ published) :
    Told published runId (view.readMessages runId messages) ∧
      (((view.readMessages runId messages).stage = view.stage ∧
          ∀ event ∈ (view.readMessages runId messages).delivered, event.eventType.endsRun = false) ∨
        ((view.readMessages runId messages).stage = .closed ∧
          EndsHere (view.readMessages runId messages))) := by
  induction messages generalizing view with
  | nil => exact ⟨h, .inl ⟨rfl, hquiet⟩⟩
  | cons message messages ih =>
      obtain ⟨id, event⟩ := message
      have hevent : event ∈ published := hpublished _ List.mem_cons_self
      have hrest : ∀ entry ∈ messages, entry.2 ∈ published := fun entry hentry =>
        hpublished entry (List.mem_cons_of_mem _ hentry)
      have hmoved : Told published runId { view with position := some id } :=
        ⟨h.ids, h.nodup, h.live⟩
      simp only [EventStream.readMessages]
      by_cases hnew : event.runId = runId ∧ event.eventId ∉ view.emittedEventIds
      · rw [if_pos hnew]
        have htold := hmoved.deliver hevent hnew.1 hnew.2
        by_cases hends : event.eventType.endsRun = true
        · rw [if_pos hends]
          exact ⟨⟨htold.ids, htold.nodup, htold.live⟩,
            .inr ⟨rfl, view.delivered, event, rfl, hends, hquiet⟩⟩
        · rw [if_neg hends]
          refine ih htold ?_ hrest
          intro old hold
          rcases List.mem_append.mp hold with hbefore | hlast
          · exact hquiet old hbefore
          · rw [List.mem_singleton.mp hlast]
            exact Bool.eq_false_of_not_eq_true hends
      · rw [if_neg hnew]
        exact ih hmoved hquiet hrest

theorem tellsOnce_of_endsHere (h : Told world.published cfg.runId view)
    (hworld : WorldInv cfg world) (hends : EndsHere view) : TellsOnce view.delivered where
  received := h.received_le_one hworld
  distinct := h.nodup
  ending := by
    obtain ⟨before, last, hdelivered, hlast, hbefore⟩ := hends
    have hmem (event : SseEvent Float) (hevent : event ∈ before ++ [last]) :
        event.eventType.subject = cfg.subject := h.subject hworld (hdelivered ▸ hevent)
    have hsubject : cfg.subject = .run := by
      rw [← hmem last (List.mem_append_right _ (List.mem_singleton_self last))]
      exact subject_of_endsRun hlast
    refine ⟨before, last, hdelivered, ?_, fun event hevent => ?_⟩
    · rw [ends_eq_endsRun (subject_of_endsRun hlast)]
      exact hlast
    · rw [ends_eq_endsRun ((hmem event (List.mem_append_left _ hevent)).trans hsubject)]
      exact hbefore event hevent

end Reading

section Replaying

def unseen (cfg : StreamConfig) (log : List (SseEvent Float)) (view : EventStream Float) :
    List (SseEvent Float) :=
  log.filter fun event => event.runId = cfg.runId ∧ event.eventId ∉ view.emittedEventIds

theorem foldl_deliverNew {events : List (SseEvent Float)}
    (hnodup : (events.map (·.eventId)).Nodup) : events.foldl EventStream.deliverNew view =
      { view with
        emittedEventIds := view.emittedEventIds ++
          (events.filter fun event => event.eventId ∉ view.emittedEventIds).map (·.eventId)
        delivered := view.delivered ++
          events.filter fun event => event.eventId ∉ view.emittedEventIds } := by
  induction events generalizing view with
  | nil => simp
  | cons event events ih =>
      rw [List.map_cons, List.nodup_cons] at hnodup
      rw [List.foldl_cons, ih hnodup.2]
      by_cases hsent : event.eventId ∈ view.emittedEventIds
      · rw [EventStream.deliverNew, if_pos hsent, List.filter_cons_of_neg (by simpa using hsent)]
      · have hlater : (events.filter fun other =>
            other.eventId ∉ (view.deliver event).emittedEventIds) =
            events.filter fun other => other.eventId ∉ view.emittedEventIds := by
          refine List.filter_congr fun other hother => ?_
          have hne : other.eventId ≠ event.eventId := by
            intro hsame
            exact hnodup.1 (hsame ▸ List.mem_map_of_mem hother)
          simp [EventStream.deliver, hne]
        rw [EventStream.deliverNew, if_neg hsent, hlater,
          List.filter_cons_of_pos (by simpa using hsent)]
        simp [EventStream.deliver]

theorem replayLog_delivered (hworld : WorldInv cfg world) (run : Run Float) :
    (replayLog cfg world.log run view).delivered = view.delivered ++ unseen cfg world.log view := by
  have hnodup : ((world.log.filter (·.runId = cfg.runId)).map (·.eventId)).Nodup :=
    (((List.filter_sublist.trans hworld.log)).map _).nodup hworld.nodup
  rw [replayLog, foldl_deliverNew hnodup, unseen, List.filter_filter]
  simp only [Bool.decide_and, Bool.and_comm]

theorem told_foldl_deliverNew {published events : List (SseEvent Float)} {runId : String}
    (h : Told published runId view)
    (hevents : ∀ event ∈ events, event ∈ published ∧ event.runId = runId) :
    Told published runId (events.foldl EventStream.deliverNew view) := by
  induction events generalizing view with
  | nil => exact h
  | cons event events ih =>
      obtain ⟨hpublished, hrun⟩ := hevents event List.mem_cons_self
      refine ih ?_ fun other hother => hevents other (List.mem_cons_of_mem _ hother)
      by_cases hsent : event.eventId ∈ view.emittedEventIds
      · rw [EventStream.deliverNew, if_pos hsent]
        exact h
      · rw [EventStream.deliverNew, if_neg hsent]
        exact h.deliver hpublished hrun hsent

theorem told_replayLog (hworld : WorldInv cfg world) (h : Told world.published cfg.runId view)
    (run : Run Float) : Told world.published cfg.runId (replayLog cfg world.log run view) := by
  have hreplayed : Told world.published cfg.runId
      ((world.log.filter (·.runId = cfg.runId)).foldl EventStream.deliverNew view) := by
    refine told_foldl_deliverNew h fun event hevent => ?_
    obtain ⟨hlog, hrun⟩ := List.mem_filter.mp hevent
    exact ⟨hworld.log.subset hlog, by simpa using hrun⟩
  exact ⟨hreplayed.ids, hreplayed.nodup, hreplayed.live⟩

theorem tellsOnce_replay_iff (hworld : WorldInv cfg world) (h : OpenInv cfg world view)
    (run : Run Float) (hsubject : cfg.subject = .run)
    (hends : (unseen cfg world.log view).any (·.eventType.endsRun) = true) :
    TellsOnce (replayLog cfg world.log run view).delivered ↔
      ∀ before event after, unseen cfg world.log view = before ++ event :: after →
        event.eventType.endsRun = true → after = [] := by
  have htold := told_replayLog hworld h.told run
  have hdelivered : (replayLog cfg world.log run view).delivered =
      view.delivered ++ unseen cfg world.log view := replayLog_delivered hworld run
  have hrunEnds (event : SseEvent Float)
      (hevent : event ∈ view.delivered ++ unseen cfg world.log view) :
      event.eventType.ends = event.eventType.endsRun := by
    refine ends_eq_endsRun ((htold.subject hworld ?_).trans hsubject)
    rw [hdelivered]
    exact hevent
  constructor
  · rintro ⟨-, -, first, last, hstory, -, hbefore⟩ before event after hsplit hevent
    by_contra hmore
    obtain ⟨tail, final, rfl⟩ := (List.eq_nil_or_concat' after).resolve_left hmore
    have hwhole : view.delivered ++ before ++ event :: tail ++ [final] = first ++ [last] := by
      rw [← hstory, hdelivered, hsplit]
      simp
    have hinit : view.delivered ++ before ++ event :: tail =
      first := (List.append_inj' hwhole rfl).1
    have hquiet : event.eventType.ends = false := by
      refine hbefore event ?_
      rw [← hinit]
      exact List.mem_append_right _ List.mem_cons_self
    have hmem : event ∈ view.delivered ++ unseen cfg world.log view := by
      rw [hsplit]
      exact List.mem_append_right _ (List.mem_append_right _ List.mem_cons_self)
    rw [hrunEnds event hmem, hevent] at hquiet
    cases hquiet
  · intro hlast
    refine tellsOnce_of_endsHere htold hworld ?_
    obtain ⟨event, hevent, hfinal⟩ := List.any_eq_true.mp hends
    obtain ⟨before, after, hsplit⟩ := List.append_of_mem hevent
    obtain rfl := hlast before event after hsplit hfinal
    refine ⟨view.delivered ++ before, event, ?_, hfinal, fun other hother => ?_⟩
    · rw [hdelivered, hsplit, List.append_assoc]
    · rcases List.mem_append.mp hother with hold | hnew
      · exact h.quiet other hold
      · -- an end before this one would be followed by it
        by_contra hends
        obtain ⟨front, back, rfl⟩ := List.append_of_mem hnew
        have hmore := hlast front other (back ++ [event]) (by rw [hsplit]; simp)
          (Bool.eq_true_of_not_eq_false hends)
        simp at hmore

end Replaying

section Rebuilding

theorem rebuiltStep_eventId (run : Run Float) (sequence : Int) (step : RunStep Float)
    (id : EventId) : (rebuiltStep run sequence step id).eventId = id := by
  cases hstep : step.stepType <;> simp [rebuiltStep, hstep, rebuiltEvent]

theorem rebuiltFrom_eventId (run : Run Float) (sequence : Int) (steps : List (RunStep Float)) :
    ∀ draft ∈ rebuiltFrom run sequence steps, ∀ id, (draft id).eventId = id := by
  induction steps generalizing sequence with
  | nil =>
      intro draft hdraft id
      rw [rebuiltFrom, Option.mem_toList] at hdraft
      obtain ⟨telemetry, -, rfl⟩ := Option.map_eq_some_iff.mp hdraft
      rfl
  | cons step steps ih =>
      intro draft hdraft id
      rw [rebuiltFrom] at hdraft
      split at hdraft
      · rcases List.mem_cons.mp hdraft with rfl | hdraft
        · rfl
        · rcases List.mem_cons.mp hdraft with rfl | hdraft
          · exact rebuiltStep_eventId run _ step id
          · exact ih _ draft hdraft id
      · rcases List.mem_cons.mp hdraft with rfl | hdraft
        · exact rebuiltStep_eventId run _ step id
        · exact ih _ draft hdraft id

def SseEventType.Between (eventType : SseEventType) : Prop :=
  eventType.ends = false ∧ eventType ≠ .runReceived

theorem between_rebuiltStep (run : Run Float) (sequence : Int) (step : RunStep Float)
    (id : EventId) : (rebuiltStep run sequence step id).eventType.Between := by
  cases hstep : step.stepType <;>
    simp [rebuiltStep, hstep, rebuiltEvent, SseEventType.Between, SseEventType.ends,
      SseEventType.endsRun, RunEventType.endsWith]

theorem ends_terminalEvent (status : RunStatus) :
    (SseEventType.loop (terminalEvent status)).ends = true := by
  cases status <;> rfl

theorem zip_rebuiltFrom (run : Run Float) (hends : (storedTelemetry run).isSome = true)
    (sequence : Int) (steps : List (RunStep Float)) (ids : List EventId)
    (hlength : ids.length = (rebuiltFrom run sequence steps).length) :
    ∃ before last, List.zipWith (fun draft id => draft id) (rebuiltFrom run sequence steps) ids =
        before ++ [last] ∧
      (last.eventType.ends = true ∧ last.eventType ≠ .runReceived) ∧
      ∀ event ∈ before, event.eventType.Between := by
  induction steps generalizing sequence ids with
  | nil =>
      obtain ⟨telemetry, htelemetry⟩ := Option.isSome_iff_exists.mp hends
      have hlast : rebuiltFrom run sequence [] =
          [rebuiltTerminal run (sequence + 1) telemetry] := by
        rw [rebuiltFrom, htelemetry]
        rfl
      rw [hlast] at hlength ⊢
      obtain ⟨id, rfl⟩ := List.length_eq_one_iff.mp hlength
      refine ⟨[], _, rfl, ⟨ends_terminalEvent run.status, ?_⟩, fun _ hevent => ?_⟩
      · intro hsame
        cases hsame
      · cases hevent
  | cons step steps ih =>
      rw [rebuiltFrom] at hlength ⊢
      split at hlength
      · obtain ⟨first, rest, rfl⟩ := List.exists_cons_of_length_eq_add_one hlength
        obtain ⟨second, rest, rfl⟩ := List.exists_cons_of_length_eq_add_one
          (Nat.succ_inj.mp hlength)
        obtain ⟨before, last, hzip, hlast, hbefore⟩ := ih (sequence + 2) rest
          (Nat.succ_inj.mp (Nat.succ_inj.mp hlength))
        simp only [List.zipWith_cons_cons, hzip]
        refine ⟨_ :: _ :: before, last, rfl, hlast, ?_⟩
        intro event hevent
        rcases List.mem_cons.mp hevent with rfl | hevent
        · exact ⟨rfl, by rintro ⟨⟩⟩
        · rcases List.mem_cons.mp hevent with rfl | hevent
          · exact between_rebuiltStep run _ step second
          · exact hbefore event hevent
      · obtain ⟨first, rest, rfl⟩ := List.exists_cons_of_length_eq_add_one hlength
        obtain ⟨before, last, hzip, hlast, hbefore⟩ := ih (sequence + 1) rest
          (Nat.succ_inj.mp hlength)
        simp only [List.zipWith_cons_cons, hzip]
        refine ⟨_ :: before, last, rfl, hlast, ?_⟩
        intro event hevent
        rcases List.mem_cons.mp hevent with rfl | hevent
        · exact between_rebuiltStep run _ step first
        · exact hbefore event hevent

theorem zipWith_eventId (drafts : List (Draft Float)) (ids : List EventId)
    (hlength : ids.length = drafts.length)
    (hdrafts : ∀ draft ∈ drafts, ∀ id, (draft id).eventId = id) :
    (List.zipWith (fun draft id => draft id) drafts ids).map (·.eventId) = ids := by
  induction drafts generalizing ids with
  | nil => exact (List.length_eq_zero_iff.mp hlength).symm
  | cons draft drafts ih =>
      obtain ⟨id, rest, rfl⟩ := List.exists_cons_of_length_eq_add_one hlength
      have hrest := ih rest (Nat.succ_inj.mp hlength) fun other hother =>
        hdrafts other (List.mem_cons_of_mem _ hother)
      rw [List.zipWith_cons_cons, List.map_cons, hrest, hdrafts draft List.mem_cons_self]

structure Story (ids : List EventId) (events : List (SseEvent Float)) : Prop where
  ids : events.map (·.eventId) = ids
  told : ∃ received before last, events = received :: before ++ [last] ∧
    received.eventType = .runReceived ∧
    (last.eventType.ends = true ∧ last.eventType ≠ .runReceived) ∧
    ∀ event ∈ before, event.eventType.Between

theorem story_rebuilt {run : Run Float} {steps : List (RunStep Float)} {ids : List EventId}
    (hends : (storedTelemetry run).isSome = true)
    (hlength : ids.length = (rebuilt run steps).length) :
    Story ids (List.zipWith (fun draft id => draft id) (rebuilt run steps) ids) := by
  refine ⟨zipWith_eventId _ ids hlength ?_, ?_⟩
  · intro draft hdraft id
    rcases List.mem_cons.mp hdraft with rfl | hdraft
    · rfl
    · exact rebuiltFrom_eventId run 1 steps draft hdraft id
  · obtain ⟨first, rest, rfl⟩ := List.exists_cons_of_length_eq_add_one hlength
    obtain ⟨before, last, hzip, hlast, hbefore⟩ :=
      zip_rebuiltFrom run hends 1 steps rest (Nat.succ_inj.mp hlength)
    rw [rebuilt, List.zipWith_cons_cons, hzip]
    exact ⟨_, before, last, rfl, rfl, hlast, hbefore⟩

theorem foldl_deliver (events : List (SseEvent Float)) :
    (events.foldl EventStream.deliver view).delivered = view.delivered ++ events := by
  induction events generalizing view with
  | nil => simp
  | cons event events ih =>
      rw [List.foldl_cons, ih]
      simp [EventStream.deliver]

theorem tellsOnce_rebuild_iff (hworld : WorldInv cfg world) (h : OpenInv cfg world view)
    (hsubject : cfg.subject = .run) {ids : List EventId} {events : List (SseEvent Float)}
    (hstory : Story ids events) (hnodup : ids.Nodup) (hfresh : ∀ id ∈ ids, id ∉ world.taken) :
    TellsOnce (view.deliverAll events).delivered ↔
      ∀ event ∈ view.delivered, event.eventType ≠ .runReceived := by
  have hdelivered : (view.deliverAll events).delivered = view.delivered ++ events :=
    foldl_deliver events
  obtain ⟨hids, received, before, last, rfl, hreceived, hlast, hbefore⟩ := hstory
  have hsingle : ((received :: before ++ [last]).filter fun event =>
      event.eventType = .runReceived) = [received] := by
    have hnone : before.filter (fun event => event.eventType = .runReceived) = [] := by
      refine List.filter_eq_nil_iff.mpr fun event hevent => ?_
      simpa using (hbefore event hevent).2
    simp [hreceived, hnone, hlast.2]
  constructor
  · rintro ⟨hone, -, -⟩ event hevent hbegins
    rw [hdelivered, List.filter_append, hsingle, List.length_append, List.length_singleton] at hone
    have hpos : 0 < (view.delivered.filter fun event => event.eventType = .runReceived).length :=
      List.length_pos_of_mem (List.mem_filter.mpr ⟨hevent, by simpa using hbegins⟩)
    omega
  · intro hnone
    refine ⟨?_, ?_, view.delivered ++ received :: before, last, ?_, hlast.1, ?_⟩
    · have hbefore : view.delivered.filter (fun event => event.eventType = .runReceived) = [] :=
        List.filter_eq_nil_iff.mpr fun event hevent => by simpa using hnone event hevent
      rw [hdelivered, List.filter_append, hsingle, hbefore]
      exact Nat.le_refl 1
    · rw [hdelivered, List.map_append, List.nodup_append, hids]
      refine ⟨h.told.nodup, hnodup, ?_⟩
      rintro id hsent _ hnew rfl
      obtain ⟨event, hevent, rfl⟩ := List.mem_map.mp hsent
      exact hfresh _ hnew (hworld.taken event (h.told.live event hevent).1)
    · rw [hdelivered]
      simp
    · intro event hevent
      rcases List.mem_append.mp hevent with hold | hnew
      · rw [ends_eq_endsRun ((h.told.subject hworld hold).trans hsubject)]
        exact h.quiet event hold
      · rcases List.mem_cons.mp hnew with rfl | hnew
        · rw [hreceived]
          rfl
        · exact (hbefore event hnew).1

theorem tellsOnce_job_iff (hworld : WorldInv cfg world) (h : OpenInv cfg world view)
    {job : Jobs.Job (Dict Float)} {id : EventId} (hfresh : id ∉ world.taken) :
    TellsOnce (view.deliverAll [rebuiltJob cfg.runId job id]).delivered ↔
      ∀ event ∈ view.delivered, event.eventType.ends = false := by
  have hdelivered : (view.deliverAll [rebuiltJob cfg.runId job id]).delivered =
      view.delivered ++ [rebuiltJob cfg.runId job id] := foldl_deliver _
  have hends : (rebuiltJob cfg.runId job id).eventType.ends = true ∧
      (rebuiltJob cfg.runId job id).eventType ≠ .runReceived := by
    by_cases hcompleted : job.status = .completed <;>
      simp [rebuiltJob, hcompleted, SseEventType.ends]
  constructor
  · rintro ⟨-, -, before, last, hstory, -, hbefore⟩
    rw [hdelivered] at hstory
    rw [(List.append_inj' hstory rfl).1]
    exact hbefore
  · intro hnone
    refine ⟨?_, ?_, view.delivered, _, hdelivered, hends.1, hnone⟩
    · rw [hdelivered, List.filter_append, List.filter_cons_of_neg (by simpa using hends.2),
        List.filter_nil, List.append_nil]
      exact h.told.received_le_one hworld
    · rw [hdelivered, List.map_append, List.nodup_append]
      refine ⟨h.told.nodup, List.nodup_singleton _, ?_⟩
      rintro old hsent _ hnew rfl
      obtain ⟨event, hevent, rfl⟩ := List.mem_map.mp hsent
      rw [List.map_singleton, List.mem_singleton] at hnew
      have hid : event.eventId = id := hnew
      exact hfresh (hid ▸ hworld.taken event (h.told.live event hevent).1)

end Rebuilding

section Steps

variable {step : EventStep Float} {met : Prop}

/-- The log's end is the last thing that it adds, a story is rebuilt only if its beginning has not
been told, and a job's end only if none has. -/
def Once (cfg : StreamConfig) (world : EventWorld Float) : EventStep Float → Prop
  | .replay => ∀ view, world.view = some view → ∀ before event after,
      unseen cfg world.log view = before ++ event :: after → event.eventType.endsRun = true →
        after = []
  | .rebuild _ => ∀ view, world.view = some view →
      ∀ event ∈ view.delivered, event.eventType ≠ .runReceived
  | .checkJob _ => ∀ view job, world.view = some view → world.job = some job →
      job.status.Terminal → ∀ event ∈ view.delivered, event.eventType.ends = false
  | _ => True

def StreamStage.Live : StreamStage Float → Prop
  | .closed | .left => False
  | _ => True

structure EventInv (cfg : StreamConfig) (met : Prop) (world : EventWorld Float) : Prop where
  sources : WorldInv cfg world
  unopened : world.view = none → met
  live : ∀ view, world.view = some view → view.stage.Live → met ∧ OpenInv cfg world view
  closed : ∀ view, world.view = some view → view.stage = .closed →
    (TellsOnce view.delivered ↔ met)

theorem EventInv.of_live (hworld : WorldInv cfg world) (hview : world.view = some view)
    (hlive : view.stage.Live) (hopen : met ∧ OpenInv cfg world view) : EventInv cfg met world where
  sources := hworld
  unopened := by
    rw [hview]
    rintro ⟨⟩
  live := by
    intro other hother _
    rw [hview] at hother
    exact Option.some.inj hother ▸ hopen
  closed := by
    intro other hother hclosed
    rw [hview] at hother
    obtain rfl := Option.some.inj hother
    rw [hclosed] at hlive
    exact hlive.elim

theorem EventInv.of_ended (hworld : WorldInv cfg world) (hview : world.view = some view)
    (hended : ¬ view.stage.Live)
    (hclosed : view.stage = .closed → (TellsOnce view.delivered ↔ met)) :
    EventInv cfg met world where
  sources := hworld
  unopened := by
    rw [hview]
    rintro ⟨⟩
  live := by
    intro other hother hlive
    rw [hview] at hother
    exact absurd (Option.some.inj hother ▸ hlive) hended
  closed := by
    intro other hother
    rw [hview] at hother
    exact Option.some.inj hother ▸ hclosed

theorem WorldInv.show (h : WorldInv cfg world) (view : EventStream Float) :
    WorldInv cfg (world.show view) :=
  ⟨h.stream, h.log, h.nodup, h.taken, h.subject, h.received, h.run, h.job⟩

theorem WorldInv.take (h : WorldInv cfg world) (view : EventStream Float) (ids : List EventId) :
    WorldInv cfg { world.show view with taken := world.taken ++ ids } :=
  ⟨h.stream, h.log, h.nodup, fun event hevent => List.mem_append_left _ (h.taken event hevent),
    h.subject, h.received, h.run, h.job⟩

theorem WorldInv.publish (h : WorldInv cfg world) (hevent : Publishable cfg world event)
    (redis : Option StreamId) : WorldInv cfg (publishStep cfg world event redis) := by
  obtain ⟨hfresh, hown⟩ := hevent
  have hgrown : WorldInv cfg (world.emit event) := {
    stream := h.stream.trans (List.sublist_append_left _ _)
    log := h.log.trans (List.sublist_append_left _ _)
    nodup := by
      rw [EventWorld.emit, List.map_append, List.nodup_append]
      refine ⟨h.nodup, List.nodup_singleton _, ?_⟩
      rintro old hold _ hnew rfl
      rw [List.map_singleton, List.mem_singleton] at hnew
      obtain ⟨other, hother, rfl⟩ := List.mem_map.mp hold
      exact hfresh (hnew ▸ h.taken other hother)
    taken := by
      intro other hother
      rcases List.mem_append.mp hother with hold | hnew
      · exact List.mem_append_left _ (h.taken other hold)
      · rw [List.mem_singleton.mp hnew]
        exact List.mem_append_right _ (List.mem_singleton_self _)
    subject := by
      intro other hother hrun
      rcases List.mem_append.mp hother with hold | hnew
      · exact h.subject other hold hrun
      · obtain rfl := List.mem_singleton.mp hnew
        exact (hown hrun).1
    received := by
      intro first hfirst second hsecond hfirstRun hsecondRun hfirstType hsecondType
      rcases List.mem_append.mp hfirst with hfirstOld | hfirstNew
      · rcases List.mem_append.mp hsecond with hsecondOld | hsecondNew
        · exact h.received first hfirstOld second hsecondOld hfirstRun hsecondRun hfirstType
            hsecondType
        · obtain rfl := List.mem_singleton.mp hsecondNew
          exact absurd hfirstType ((hown hsecondRun).2 hsecondType first hfirstOld hfirstRun)
      · obtain rfl := List.mem_singleton.mp hfirstNew
        rcases List.mem_append.mp hsecond with hsecondOld | hsecondNew
        · exact absurd hsecondType ((hown hfirstRun).2 hfirstType second hsecondOld hsecondRun)
        · rw [List.mem_singleton.mp hsecondNew]
    run := h.run
    job := h.job }
  cases redis with
  | none =>
      by_cases hmemory : cfg.inMemory = true
      · rw [publishStep, if_pos hmemory]
        exact { hgrown with log := h.log.append (List.Sublist.refl [event]) }
      · rw [publishStep, if_neg hmemory]
        exact hgrown
  | some id =>
      refine { hgrown with stream := ?_ }
      show ((world.stream ++ [(id, event)]).map Prod.snd).Sublist (world.published ++ [event])
      rw [List.map_append]
      exact h.stream.append (List.Sublist.refl [event])

theorem OpenInv.mono (h : OpenInv cfg world view)
    (hpublished : ∀ event ∈ world.published, event ∈ next.published) : OpenInv cfg next view where
  told := ⟨h.told.ids, h.told.nodup, fun event hevent =>
    ⟨hpublished event (h.told.live event hevent).1, (h.told.live event hevent).2⟩⟩
  quiet := h.quiet
  staged := h.staged

theorem EventInv.of_writer (h : EventInv cfg met world) (hworld : WorldInv cfg next)
    (hview : next.view = world.view)
    (hpublished : ∀ event ∈ world.published, event ∈ next.published) :
    EventInv cfg met next where
  sources := hworld
  unopened := by
    rw [hview]
    exact h.unopened
  live := by
    rw [hview]
    intro view hopen hlive
    exact ⟨(h.live view hopen hlive).1, (h.live view hopen hlive).2.mono hpublished⟩
  closed := by
    rw [hview]
    exact h.closed

theorem EventInv.read (h : EventInv cfg met world) (hview : world.view = some view)
    (hstage : view.stage = .reading) (reached : Bool) :
    EventInv cfg met (world.show (readStream cfg world.stream view reached)) := by
  have hlive : view.stage.Live := by
    rw [hstage]
    trivial
  obtain ⟨hmet, hopen⟩ := h.live view hview hlive
  have hfallback (client : Bool) : EventInv cfg met
      (world.show { view with client, stage := .fallback }) := by
    refine .of_live (h.sources.show _) rfl trivial ⟨hmet, ?_⟩
    exact ⟨⟨hopen.told.ids, hopen.told.nodup, hopen.told.live⟩, hopen.quiet, by rintro ⟨⟩⟩
  rw [readStream]
  split
  · rename_i position _ _
    dsimp only
    split_ifs with hnothing
    · exact hfallback view.client
    · have hbatch : ∀ entry ∈ xread world.stream position, entry.2 ∈ world.published := by
        intro entry hentry
        refine h.sources.stream.subset (List.mem_map_of_mem ?_)
        exact (List.mem_filter.mp (List.mem_of_mem_take hentry)).1
      obtain ⟨htold, hread⟩ := told_readMessages hopen.told hopen.quiet hbatch
      rcases hread with ⟨hkept, hquiet⟩ | ⟨hclosed, hends⟩
      · rw [hstage] at hkept
        refine .of_live (h.sources.show _) rfl ?_ ⟨hmet, htold, hquiet, ?_⟩
        · rw [hkept]
          trivial
        · rw [hkept]
          rintro ⟨⟩
      · refine .of_ended (h.sources.show _) rfl ?_ fun _ => ?_
        · rw [hclosed]
          exact id
        · exact iff_of_true (tellsOnce_of_endsHere htold h.sources hends) hmet
  · exact hfallback false

theorem EventInv.replay (h : EventInv cfg met world) (hview : world.view = some view)
    {run : Run Float} (hstage : view.stage = .replaying run) :
    EventInv cfg (met ∧ Once cfg world .replay)
      (world.show (replayLog cfg world.log run view)) := by
  have hlive : view.stage.Live := by
    rw [hstage]
    trivial
  obtain ⟨hmet, hopen⟩ := h.live view hview hlive
  have hsubject : cfg.subject = .run := by
    refine hopen.staged ?_
    rw [hstage]
    trivial
  have honce : (met ∧ Once cfg world .replay) ↔ ∀ before event after,
      unseen cfg world.log view = before ++ event :: after → event.eventType.endsRun = true →
        after = [] := by
    constructor
    · exact fun hall => hall.2 view hview
    · intro hlast
      refine ⟨hmet, fun other hother => ?_⟩
      rw [hview] at hother
      exact Option.some.inj hother ▸ hlast
  have hdelivered : (replayLog cfg world.log run view).delivered =
      view.delivered ++ unseen cfg world.log view := replayLog_delivered h.sources run
  have hany : (replayLog cfg world.log run view).stage =
      if (unseen cfg world.log view).any (·.eventType.endsRun) then .closed else .rebuilding run :=
        rfl
  by_cases hends : (unseen cfg world.log view).any (·.eventType.endsRun) = true
  · rw [if_pos hends] at hany
    refine .of_ended (h.sources.show _) rfl ?_ fun _ => ?_
    · rw [hany]
      exact id
    · rw [honce]
      exact tellsOnce_replay_iff h.sources hopen run hsubject hends
  · rw [if_neg hends] at hany
    have hquiet (event : SseEvent Float) (hevent : event ∈ unseen cfg world.log view) :
        event.eventType.endsRun = false := by
      by_contra hend
      exact hends (List.any_eq_true.mpr ⟨event, hevent, Bool.eq_true_of_not_eq_false hend⟩)
    refine .of_live (h.sources.show _) rfl ?_
      ⟨honce.mpr ?_, told_replayLog h.sources hopen.told run, ?_, fun _ => hsubject⟩
    · rw [hany]
      trivial
    · intro before event after hsplit hend
      have hmem : event ∈ unseen cfg world.log view := by
        rw [hsplit]
        exact List.mem_append_right _ List.mem_cons_self
      rw [hquiet event hmem] at hend
      cases hend
    · intro event hevent
      rw [hdelivered] at hevent
      rcases List.mem_append.mp hevent with hold | hnew
      · exact hopen.quiet event hold
      · exact hquiet event hnew

theorem EventInv.rebuild (h : EventInv cfg met world) (hview : world.view = some view)
    {run : Run Float} (hstage : view.stage = .rebuilding run) {ids : List EventId}
    (hstep : viewStep cfg world view (.rebuilding run) (.rebuild ids) = some next) :
    EventInv cfg (met ∧ Once cfg world (.rebuild ids)) next := by
  have hlive : view.stage.Live := by
    rw [hstage]
    trivial
  obtain ⟨hmet, hopen⟩ := h.live view hview hlive
  have hsubject : cfg.subject = .run := by
    refine hopen.staged ?_
    rw [hstage]
    trivial
  have honce : (met ∧ Once cfg world (.rebuild ids)) ↔
      ∀ event ∈ view.delivered, event.eventType ≠ .runReceived := by
    constructor
    · exact fun hall => hall.2 view hview
    · intro hnone
      refine ⟨hmet, fun other hother => ?_⟩
      rw [hview] at hother
      exact Option.some.inj hother ▸ hnone
  simp only [viewStep] at hstep
  split_ifs at hstep with hids hends
  · obtain rfl := Option.some.inj hstep
    refine .of_ended (h.sources.take _ ids) rfl id fun _ => ?_
    rw [honce]
    exact tellsOnce_rebuild_iff h.sources hopen hsubject (story_rebuilt hends hids.1) hids.2.1
      hids.2.2
  · obtain rfl := Option.some.inj hstep
    refine .of_ended (h.sources.take _ ids) rfl id ?_
    rintro ⟨⟩

theorem EventInv.checkJob (h : EventInv cfg met world) (hview : world.view = some view)
    (hstage : view.stage = .jobCheck) {eventId : EventId}
    (hstep : viewStep cfg world view .jobCheck (.checkJob eventId) = some next) :
    EventInv cfg (met ∧ Once cfg world (.checkJob eventId)) next := by
  have hlive : view.stage.Live := by
    rw [hstage]
    trivial
  obtain ⟨hmet, hopen⟩ := h.live view hview hlive
  have hreading (hnone : ∀ job, world.job = some job → ¬ job.status.Terminal) :
      EventInv cfg (met ∧ Once cfg world (.checkJob eventId))
        (world.show { view with stage := .reading }) := by
    refine .of_live (h.sources.show _) rfl trivial
      ⟨⟨hmet, fun _ job _ hjob hterminal => absurd hterminal (hnone job hjob)⟩, ?_⟩
    exact ⟨⟨hopen.told.ids, hopen.told.nodup, hopen.told.live⟩, hopen.quiet, by rintro ⟨⟩⟩
  simp only [viewStep] at hstep
  split at hstep
  · rename_i job hjob
    split_ifs at hstep with hterminal hfresh
    · obtain rfl := Option.some.inj hstep
      have honce : (met ∧ Once cfg world (.checkJob eventId)) ↔
          ∀ event ∈ view.delivered, event.eventType.ends = false := by
        constructor
        · exact fun hall => hall.2 view job hview hjob hterminal
        · intro hnone
          refine ⟨hmet, fun other _ hother _ _ => ?_⟩
          rw [hview] at hother
          exact Option.some.inj hother ▸ hnone
      refine .of_ended (h.sources.take _ [eventId]) rfl id fun _ => ?_
      rw [honce]
      exact tellsOnce_job_iff h.sources hopen hfresh
    · obtain rfl := Option.some.inj hstep
      refine hreading fun other hother => ?_
      rw [hjob] at hother
      exact Option.some.inj hother ▸ hterminal
  · rename_i hnone
    obtain rfl := Option.some.inj hstep
    refine hreading fun other hother => ?_
    rw [hnone] at hother
    cases hother

theorem EventInv.move (h : EventInv cfg met world) (hview : world.view = some view)
    (hlive : view.stage.Live) {stage : StreamStage Float} (hrun : stage.ofRun → cfg.subject = .run)
    (hopen : stage ≠ .closed) : EventInv cfg met (world.show { view with stage }) := by
  obtain ⟨hmet, hbefore⟩ := h.live view hview hlive
  by_cases hstage : stage.Live
  · refine .of_live (h.sources.show _) rfl hstage ⟨hmet, ?_⟩
    exact ⟨⟨hbefore.told.ids, hbefore.told.nodup, hbefore.told.live⟩, hbefore.quiet, hrun⟩
  · exact .of_ended (h.sources.show _) rfl hstage fun hclosed => absurd hclosed hopen

theorem eventInv_step (h : EventInv cfg met world) (hstep : eventStep cfg world step = some next) :
    EventInv cfg (met ∧ Once cfg world step) next := by
  have hmet {step : EventStep Float} (honce : Once cfg world step) (hnext : EventInv cfg met next) :
      EventInv cfg (met ∧ Once cfg world step) next := by
    rw [and_iff_left honce]
    exact hnext
  cases step with
  | storeRun run =>
      simp only [eventStep] at hstep
      split_ifs at hstep with hrun
      obtain rfl := Option.some.inj hstep
      refine hmet trivial (h.of_writer ?_ rfl fun _ => id)
      exact { h.sources with run := fun _ _ => hrun.1 }
  | storeJob job =>
      simp only [eventStep] at hstep
      split_ifs at hstep with hjob
      obtain rfl := Option.some.inj hstep
      refine hmet trivial (h.of_writer ?_ rfl fun _ => id)
      exact { h.sources with job := fun _ _ => hjob }
  | storeStep stored =>
      obtain rfl := Option.some.inj hstep
      refine hmet trivial (h.of_writer ?_ rfl fun _ => id)
      exact { h.sources with }
  | publish event redis =>
      simp only [eventStep] at hstep
      split_ifs at hstep with hpublish
      obtain rfl := Option.some.inj hstep
      refine hmet trivial (h.of_writer (h.sources.publish hpublish.1 redis) ?_ ?_)
      · cases redis with
        | none =>
            rw [publishStep]
            split <;> rfl
        | some id => rfl
      · intro old hold
        cases redis with
        | none =>
            rw [publishStep]
            split <;> exact List.mem_append_left _ hold
        | some id => exact List.mem_append_left _ hold
  | trim count =>
      obtain rfl := Option.some.inj hstep
      refine hmet trivial (h.of_writer ?_ rfl fun _ => id)
      exact { h.sources with
        stream := ((List.drop_sublist count world.stream).map Prod.snd).trans h.sources.stream }
  | openStream header client =>
      simp only [eventStep] at hstep
      split at hstep
      · rename_i hnone
        obtain rfl := Option.some.inj hstep
        refine hmet trivial (.of_live (h.sources.show _) rfl trivial ⟨h.unopened hnone, ?_⟩)
        have hempty : (openStream header client : EventStream Float).delivered = [] := rfl
        exact {
          told :=
            ⟨rfl, List.nodup_nil,
              by rw [hempty]; exact fun _ hevent => absurd hevent List.not_mem_nil⟩
          quiet := by
            rw [hempty]
            exact fun _ hevent => absurd hevent List.not_mem_nil
          staged := by rintro ⟨⟩ }
      · cases hstep
  | read reached =>
      obtain ⟨view, hview, hmove⟩ := Option.bind_eq_some_iff.mp hstep
      cases hstage : view.stage <;> simp only [viewStep, hstage, reduceCtorEq] at hmove
      obtain rfl := Option.some.inj hmove
      exact hmet trivial (h.read hview hstage reached)
  | checkRun =>
      obtain ⟨view, hview, hmove⟩ := Option.bind_eq_some_iff.mp hstep
      cases hstage : view.stage <;> simp only [viewStep, hstage, reduceCtorEq] at hmove
      have hlive : view.stage.Live := by
        rw [hstage]
        trivial
      split at hmove
      · rename_i run hrun
        have hsubject := h.sources.run run hrun
        split_ifs at hmove
        · obtain rfl := Option.some.inj hmove
          exact hmet trivial (h.move hview hlive (fun _ => hsubject) (by rintro ⟨⟩))
        · obtain rfl := Option.some.inj hmove
          exact hmet trivial (h.move hview hlive (fun _ => hsubject) (by rintro ⟨⟩))
        · obtain rfl := Option.some.inj hmove
          exact hmet trivial (h.move hview hlive (fun _ => hsubject) (by rintro ⟨⟩))
      · obtain rfl := Option.some.inj hmove
        exact hmet trivial (h.move hview hlive (by rintro ⟨⟩) (by rintro ⟨⟩))
  | replay =>
      obtain ⟨view, hview, hmove⟩ := Option.bind_eq_some_iff.mp hstep
      cases hstage : view.stage <;> simp only [viewStep, hstage, reduceCtorEq] at hmove
      obtain rfl := Option.some.inj hmove
      exact h.replay hview hstage
  | rebuild ids =>
      obtain ⟨view, hview, hmove⟩ := Option.bind_eq_some_iff.mp hstep
      cases hstage : view.stage with
      | rebuilding run =>
          rw [hstage] at hmove
          exact h.rebuild hview hstage hmove
      | _ => simp [viewStep, hstage] at hmove
  | checkJob eventId =>
      obtain ⟨view, hview, hmove⟩ := Option.bind_eq_some_iff.mp hstep
      cases hstage : view.stage with
      | jobCheck =>
          rw [hstage] at hmove
          exact h.checkJob hview hstage hmove
      | _ => simp [viewStep, hstage] at hmove
  | leave =>
      obtain ⟨view, hview, hmove⟩ := Option.bind_eq_some_iff.mp hstep
      cases hstage : view.stage <;> simp only [viewStep, hstage, reduceCtorEq] at hmove
      have hlive : view.stage.Live := by
        rw [hstage]
        trivial
      obtain rfl := Option.some.inj hmove
      exact hmet trivial (h.move hview hlive (by rintro ⟨⟩) (by rintro ⟨⟩))

end Steps

section Runs

theorem eventInv_start : EventInv cfg True ({} : EventWorld Float) where
  sources := {
    stream := List.Sublist.refl []
    log := List.Sublist.refl []
    nodup := List.nodup_nil
    taken := fun _ hevent => absurd hevent List.not_mem_nil
    subject := fun _ hevent => absurd hevent List.not_mem_nil
    received := fun _ hevent => absurd hevent List.not_mem_nil
    run := by rintro _ ⟨⟩
    job := by rintro _ ⟨⟩ }
  unopened := fun _ => trivial
  live := by rintro _ ⟨⟩
  closed := by rintro _ ⟨⟩

/-- **One story.** However a run or a job is stored, published and read, a stream that is closed by
a terminal event has told the story once if and only if it has neither replayed an end that was not
the last, nor rebuilt a beginning or an end that it had told. -/
theorem tells_once_iff {steps : List (EventStep Float)}
    (hrun : (eventMachine cfg).run {} steps = some world) (hview : world.view = some view)
    (hclosed : view.stage = .closed) :
    TellsOnce view.delivered ↔ (eventMachine cfg).Meets (Once cfg) {} steps := by
  have hinv : EventInv cfg ((eventMachine cfg).Meets (Once cfg) {} steps) world :=
    Machine.run_invariant_meets (fun _ _ _ _ h hstep => eventInv_step h hstep) eventInv_start hrun
  exact hinv.closed view hview hclosed

def EventId.of (digit : Fin 16) : EventId := ⟨List.replicate 16 digit, List.length_replicate⟩

def runConfig : StreamConfig := { runId := "r" }

def startedRun : Run Int :=
  { runId := "r", conversationId := "c", startedAt := "t0", estimatedCostUsd := 0 }

def endedRun : Run Int := { startedRun with status := .completed, completedAt := some "t1" }

def liveEvent (digit : Fin 16) (eventType : SseEventType) (runId : String) (sequence : Int) :
    SseEvent Int :=
  { eventId := .of digit, eventType, runId, conversationId := .str "c", sequence, payload := [] }

def receivedEvent : SseEvent Int := liveEvent 1 .runReceived "r" 1

def completedEvent : SseEvent Int := liveEvent 2 (.loop .runCompleted) "r" 2

def receivedStory : List (EventStep Int) :=
  [.storeRun startedRun, .publish receivedEvent (some ⟨1, 0⟩),
    .openStream none true, .read true]

def wholeStory : List (EventStep Int) :=
  receivedStory ++ [.storeRun endedRun, .publish completedEvent (some ⟨2, 0⟩), .read true]

def sent (cfg : StreamConfig) (steps : List (EventStep Int)) : Option (Bool × List SseEventType) :=
  (((eventMachine cfg).run {} steps).bind EventWorld.view).map fun view =>
    (view.stage matches .closed, view.delivered.map (·.eventType))

theorem exists_of_sent {steps : List (EventStep Int)} {types : List SseEventType}
    (hsent : sent cfg steps = some (true, types)) :
    ∃ world view, (eventMachine cfg).run {} steps = some world ∧ world.view = some view ∧
      view.stage = .closed ∧ view.delivered.map (·.eventType) = types := by
  obtain ⟨view, hview, hstage⟩ := Option.map_eq_some_iff.mp hsent
  obtain ⟨world, hrun, hworld⟩ := Option.bind_eq_some_iff.mp hview
  obtain ⟨hclosed, htypes⟩ := Prod.mk.inj hstage
  refine ⟨world, view, hrun, hworld, ?_, htypes⟩
  cases hview : view.stage <;> simp [hview] at hclosed ⊢

theorem TellsOnce.types {delivered : List (SseEvent Float)} (h : TellsOnce delivered) :
    ((delivered.map (·.eventType)).filter (· = .runReceived)).length ≤ 1 ∧
      ((delivered.map (·.eventType)).filter SseEventType.ends).length = 1 := by
  obtain ⟨before, last, hstory, hlast, hbefore⟩ := h.ending
  constructor
  · rw [List.filter_map, List.length_map]
    exact h.received
  · have hnone : (before.map (·.eventType)).filter SseEventType.ends = [] := by
      refine List.filter_eq_nil_iff.mpr fun eventType hmem => ?_
      obtain ⟨event, hevent, rfl⟩ := List.mem_map.mp hmem
      simpa using hbefore event hevent
    rw [hstory, List.map_append, List.filter_append, hnone]
    simp [hlast]

theorem tells_once_wholeStory :
    ∃ world view, (eventMachine runConfig).run {} wholeStory = some world ∧
    world.view = some view ∧ TellsOnce view.delivered := by
  have hsent : sent runConfig wholeStory = some (true, [.runReceived, .loop .runCompleted]) := by
    decide
  obtain ⟨world, view, hrun, hview, hclosed, -⟩ := exists_of_sent hsent
  refine ⟨world, view, hrun, hview, (tells_once_iff hrun hview hclosed).mpr ?_⟩
  refine Machine.meets_of_forall_mem fun step hstep state => ?_
  simp only [wholeStory, receivedStory, List.cons_append, List.nil_append, List.mem_cons,
    List.not_mem_nil, or_false] at hstep
  rcases hstep with rfl | rfl | rfl | rfl | rfl | rfl | rfl <;> trivial

def redisLost : List (EventStep Int) :=
  receivedStory ++ [.read false, .checkRun, .checkJob (.of 2), .storeRun endedRun, .read false,
    .checkRun, .rebuild [.of 3, .of 4]]

def endUnpublished : List (EventStep Int) :=
  [.storeRun startedRun, .publish receivedEvent none, .openStream none false,
    .storeRun endedRun, .read false, .checkRun, .replay, .rebuild [.of 3, .of 4]]

def jobEndedTwice : List (EventStep Int) :=
  [.storeJob { status := .pending, createdAt := "t0", params := [], metadata := [] },
    .openStream none true, .publish (liveEvent 1 .jobStarted "j" 1) (some ⟨1, 0⟩),
    .storeJob { status := .completed, createdAt := "t0", params := [], metadata := [] },
    .publish (liveEvent 2 .jobCompleted "j" 2) (some ⟨2, 0⟩), .read true, .read false, .checkRun,
    .checkJob (.of 3)]

theorem story_told_twice :
    (∃ world view, (eventMachine runConfig).run {} redisLost = some world ∧
      world.view = some view ∧ view.stage = .closed ∧ ¬ TellsOnce view.delivered) ∧
    (∃ world view, (eventMachine { runConfig with inMemory := true }).run {} endUnpublished =
        some world ∧
      world.view = some view ∧ view.stage = .closed ∧ ¬ TellsOnce view.delivered) ∧
    ∃ world view, (eventMachine { runId := "j", subject := .job }).run {} jobEndedTwice = some
      world ∧ world.view = some view ∧ view.stage = .closed ∧ ¬ TellsOnce view.delivered := by
  have hlost : sent runConfig redisLost =
      some (true, [.runReceived, .runReceived, .loop .runCompleted]) := by decide
  have hreplayed : sent { runConfig with inMemory := true } endUnpublished =
      some (true, [.runReceived, .runReceived, .loop .runCompleted]) := by decide
  have hjob : sent { runId := "j", subject := .job } jobEndedTwice =
      some (true, [.jobStarted, .jobCompleted, .jobCompleted]) := by decide
  obtain ⟨lost, lostView, hlostRun, hlostView, hlostClosed, hlostTypes⟩ := exists_of_sent hlost
  obtain ⟨memory, memoryView, hmemoryRun, hmemoryView, hmemoryClosed, hmemoryTypes⟩ :=
    exists_of_sent hreplayed
  obtain ⟨job, jobView, hjobRun, hjobView, hjobClosed, hjobTypes⟩ := exists_of_sent hjob
  refine ⟨⟨lost, lostView, hlostRun, hlostView, hlostClosed, fun honce => ?_⟩,
    ⟨memory, memoryView, hmemoryRun, hmemoryView, hmemoryClosed, fun honce => ?_⟩,
    ⟨job, jobView, hjobRun, hjobView, hjobClosed, fun honce => ?_⟩⟩
  · have hreceived := honce.types.1
    rw [hlostTypes] at hreceived
    exact absurd hreceived (by decide)
  · have hreceived := honce.types.1
    rw [hmemoryTypes] at hreceived
    exact absurd hreceived (by decide)
  · have hends := honce.types.2
    rw [hjobTypes] at hends
    exact absurd hends (by decide)

end Runs

end AiAnalytics.App.Events
