import AiAnalytics.App.Events.Proof.StoryOnce

/-!
# Resuming a stream

A client sends back the id of the last frame that it has seen. That is an event id, which has no
dash, so the generator takes it for no stream id and reads from the beginning of the Redis stream.
What it sends is then what is left there, which is the rest of the story only by chance.
-/

namespace AiAnalytics.App.Events

open Lib App.Loop

variable {Float : Type} {cfg : StreamConfig} {start world next : EventWorld Float}
  {view moved : EventStream Float} {runId : String}

section Headers

theorem dash_not_mem_text (id : EventId) : '-' ∉ id.text.toList := by
  have hdigit : ∀ digit : Fin 16, Nat.digitChar digit.val ≠ '-' := by decide
  rw [EventId.text, String.toList_append, List.mem_append, not_or]
  refine ⟨by decide, fun hmem => ?_⟩
  rw [String.toList_ofList] at hmem
  obtain ⟨digit, -, hdash⟩ := List.mem_map.mp hmem
  exact hdigit digit hdash

theorem openStream_eventId (id : EventId) (client : Bool) :
    (openStream (some id.text) client : EventStream Float) = openStream none client := by
  have hheader : lastStreamId (some id.text) = "0-0" := by
    unfold lastStreamId
    by_cases hempty : id.text = ""
    · rw [hempty]
      rfl
    · have hlast : lastEventId (some id.text) = id.text := by
        unfold lastEventId
        split
        · rename_i hnone
          exact absurd hnone (by simp)
        · rename_i hsame
          exact absurd (Option.some.inj hsame) hempty
        · rename_i text _ hsame
          exact (Option.some.inj hsame).symm
      rw [hlast, if_neg (dash_not_mem_text id)]
  rw [openStream, hheader]
  rfl

theorem position_openStream (client : Bool) :
    (openStream none client : EventStream Float).position = some ⟨0, 0⟩ := by
  have hparse : StreamId.parse "0-0" = some ⟨0, 0⟩ := by decide
  exact hparse

end Headers

section Logs

def story (runId : String) (entries : List (StreamId × SseEvent Float)) : List (SseEvent Float) :=
  (entries.map Prod.snd).filter (·.runId = runId)

def EventStep.entry? : EventStep Float → Option (StreamId × SseEvent Float)
  | .publish event (some id) => some (id, event)
  | _ => none

def added (writes : List (EventStep Float)) : List (StreamId × SseEvent Float) :=
  writes.filterMap EventStep.entry?

def trimmed (writes : List (EventStep Float)) (world : EventWorld Float) :
    List (StreamId × SseEvent Float) :=
  (added writes).take ((added writes).length - world.stream.length)

def eventLog (cfg : StreamConfig) (writes : List (EventStep Float)) (world : EventWorld Float) :
    List (SseEvent Float) :=
  if cfg.inMemory then world.log.filter (·.runId = cfg.runId) else story cfg.runId (added writes)

def EndsLast (events : List (SseEvent Float)) : Prop :=
  ∀ before event after, events = before ++ event :: after → event.eventType.endsRun = true →
    after = []

def Ended (world : EventWorld Float) : Prop := ∃ run, world.run = some run ∧ run.status.Terminal

theorem StreamId.lt_irrefl (id : StreamId) : ¬ id < id := by
  rintro (hms | ⟨-, hseq⟩) <;> omega

theorem StreamId.lt_trans {first second third : StreamId} (h : first < second)
    (hnext : second < third) : first < third := by
  have hfirst : first.ms < second.ms ∨ first.ms = second.ms ∧ first.seq < second.seq := h
  have hsecond : second.ms < third.ms ∨ second.ms = third.ms ∧ second.seq < third.seq := hnext
  have hthird : first.ms < third.ms ∨ first.ms = third.ms ∧ first.seq < third.seq := by omega
  exact hthird

theorem StreamId.lt_asymm {first second : StreamId} (h : first < second) : ¬ second < first :=
  fun hback => lt_irrefl first (lt_trans h hback)

theorem StreamId.pos_of_lt {first second : StreamId} (h : first < second) : ⟨0, 0⟩ < second := by
  have hfirst : first.ms < second.ms ∨ first.ms = second.ms ∧ first.seq < second.seq := h
  have hsecond : 0 < second.ms ∨ 0 = second.ms ∧ 0 < second.seq := by omega
  exact hsecond

structure LogInv (entries : List (StreamId × SseEvent Float)) (world : EventWorld Float) :
    Prop where
  stream : world.stream <:+ entries
  sorted : entries.Pairwise fun first second => first.1 < second.1
  last : ∀ entry ∈ entries, entry.1 = world.lastId ∨ entry.1 < world.lastId
  pos : ∀ entry ∈ entries, (⟨0, 0⟩ : StreamId) < entry.1
  published : (entries.map Prod.snd).Sublist world.published

variable {entries : List (StreamId × SseEvent Float)} {step : EventStep Float}

theorem logInv_publish {event : SseEvent Float} {id : StreamId} (h : LogInv entries world)
    (hid : world.lastId < id) :
    LogInv (entries ++ [(id, event)]) (publishStep cfg world event (some id)) := by
  have hbefore (entry : StreamId × SseEvent Float) (hentry : entry ∈ entries) : entry.1 < id := by
    rcases h.last entry hentry with hlast | hlast
    · rw [hlast]
      exact hid
    · exact StreamId.lt_trans hlast hid
  obtain ⟨gone, hgone⟩ := h.stream
  refine ⟨⟨gone, ?_⟩, ?_, ?_, ?_, ?_⟩
  · rw [← hgone, List.append_assoc]
    rfl
  · rw [List.pairwise_append]
    refine ⟨h.sorted, List.pairwise_singleton _ _, fun entry hentry other hother => ?_⟩
    rw [List.mem_singleton.mp hother]
    exact hbefore entry hentry
  · intro entry hentry
    rcases List.mem_append.mp hentry with hold | hnew
    · exact .inr (hbefore entry hold)
    · rw [List.mem_singleton.mp hnew]
      exact .inl rfl
  · intro entry hentry
    rcases List.mem_append.mp hentry with hold | hnew
    · exact h.pos entry hold
    · rw [List.mem_singleton.mp hnew]
      exact StreamId.pos_of_lt hid
  · rw [List.map_append]
    exact h.published.append (List.Sublist.refl _)

theorem added_append (writes more : List (EventStep Float)) :
    added (writes ++ more) = added writes ++ added more := List.filterMap_append

theorem LogInv.of_kept (h : LogInv entries world) (hstream : next.stream <:+ world.stream)
    (hlast : next.lastId = world.lastId) (hpublished : world.published.Sublist next.published) :
    LogInv entries next where
  stream := hstream.trans h.stream
  sorted := h.sorted
  last := by
    rw [hlast]
    exact h.last
  pos := h.pos
  published := h.published.trans hpublished

theorem viewStep_sources {stage : StreamStage Float}
    (hstep : viewStep cfg world view stage step = some next) :
    next.stream = world.stream ∧ next.lastId = world.lastId ∧ next.published = world.published := by
  cases step with
  | checkRun =>
      cases stage <;> simp only [viewStep, reduceCtorEq] at hstep
      split at hstep
      · split_ifs at hstep <;> obtain rfl := Option.some.inj hstep <;> exact ⟨rfl, rfl, rfl⟩
      · obtain rfl := Option.some.inj hstep
        exact ⟨rfl, rfl, rfl⟩
  | rebuild ids =>
      cases stage <;> simp only [viewStep, reduceCtorEq] at hstep
      split_ifs at hstep <;> obtain rfl := Option.some.inj hstep <;> exact ⟨rfl, rfl, rfl⟩
  | checkJob eventId =>
      cases stage <;> simp only [viewStep, reduceCtorEq] at hstep
      split at hstep
      · split_ifs at hstep <;> obtain rfl := Option.some.inj hstep <;> exact ⟨rfl, rfl, rfl⟩
      · obtain rfl := Option.some.inj hstep
        exact ⟨rfl, rfl, rfl⟩
  | read | replay | leave =>
      cases stage <;> simp only [viewStep, reduceCtorEq] at hstep
      obtain rfl := Option.some.inj hstep
      exact ⟨rfl, rfl, rfl⟩
  | _ => cases stage <;> simp only [viewStep, reduceCtorEq] at hstep

theorem logInv_step (h : LogInv entries world) (hstep : eventStep cfg world step = some next) :
    LogInv (entries ++ added [step]) next := by
  have hview (hnone : step.entry? = none)
      (hmove : (world.view.bind fun view => viewStep cfg world view view.stage step) = some next) :
      LogInv (entries ++ added [step]) next := by
    obtain ⟨view, -, hviewed⟩ := Option.bind_eq_some_iff.mp hmove
    obtain ⟨hstream, hlast, hpublished⟩ := viewStep_sources hviewed
    have hadded : added [step] = [] := by simp [added, hnone]
    rw [hadded, List.append_nil]
    refine h.of_kept ?_ hlast ?_
    · rw [hstream]
    · rw [hpublished]
  cases step with
  | publish event redis =>
      simp only [eventStep] at hstep
      split_ifs at hstep with hpublish
      obtain rfl := Option.some.inj hstep
      cases redis with
      | none =>
          have hadded : added [EventStep.publish event none] = [] := rfl
          rw [hadded, List.append_nil, publishStep]
          have hmore : world.published.Sublist (world.emit event).published :=
            List.sublist_append_left _ _
          split
          · exact h.of_kept List.suffix_rfl rfl hmore
          · exact h.of_kept List.suffix_rfl rfl hmore
      | some id => exact logInv_publish h (hpublish.2 id rfl)
  | trim count =>
      obtain rfl := Option.some.inj hstep
      have hadded : added [(.trim count : EventStep Float)] = [] := rfl
      rw [hadded, List.append_nil]
      exact h.of_kept (List.drop_suffix count world.stream) rfl (List.Sublist.refl _)
  | storeRun run =>
      simp only [eventStep] at hstep
      split_ifs at hstep
      obtain rfl := Option.some.inj hstep
      rw [show added [EventStep.storeRun run] = [] from rfl, List.append_nil]
      exact h.of_kept List.suffix_rfl rfl (List.Sublist.refl _)
  | storeJob job =>
      simp only [eventStep] at hstep
      split_ifs at hstep
      obtain rfl := Option.some.inj hstep
      rw [show added [EventStep.storeJob job] = [] from rfl, List.append_nil]
      exact h.of_kept List.suffix_rfl rfl (List.Sublist.refl _)
  | storeStep stored =>
      obtain rfl := Option.some.inj hstep
      rw [show added [EventStep.storeStep stored] = [] from rfl, List.append_nil]
      exact h.of_kept List.suffix_rfl rfl (List.Sublist.refl _)
  | openStream header client =>
      simp only [eventStep] at hstep
      split at hstep
      · obtain rfl := Option.some.inj hstep
        have hadded : added [(.openStream header client : EventStep Float)] = [] := rfl
        rw [hadded, List.append_nil]
        exact h.of_kept List.suffix_rfl rfl (List.Sublist.refl _)
      · cases hstep
  | _ => exact hview rfl hstep

theorem logInv_run {writes : List (EventStep Float)} (h : LogInv entries world)
    (hrun : (eventMachine cfg).run world writes = some next) :
    LogInv (entries ++ added writes) next := by
  induction writes generalizing world entries with
  | nil =>
      obtain rfl := Option.some.inj hrun
      rw [added, List.filterMap_nil, List.append_nil]
      exact h
  | cons step writes ih =>
      obtain ⟨mid, hstep, hrest⟩ := Machine.run_cons_eq_some_iff.mp hrun
      have hlater := ih (logInv_step h hstep) hrest
      rw [List.append_assoc, ← added_append] at hlater
      exact hlater

theorem logInv_start : LogInv [] ({} : EventWorld Float) where
  stream := List.suffix_rfl
  sorted := List.Pairwise.nil
  last := fun _ hentry => absurd hentry List.not_mem_nil
  pos := fun _ hentry => absurd hentry List.not_mem_nil
  published := List.Sublist.refl []

end Logs

section Reads

variable {messages stream seen rest : List (StreamId × SseEvent Float)}

theorem story_append (first second : List (StreamId × SseEvent Float)) :
    story runId (first ++ second) = story runId first ++ story runId second := by
  simp [story]

theorem story_cons (id : StreamId) (event : SseEvent Float) :
    story runId ((id, event) :: messages) =
      if event.runId = runId then event :: story runId messages else story runId messages := by
  by_cases hrun : event.runId = runId <;> simp [story, hrun]

def ClosedAt (events delivered : List (SseEvent Float)) : Prop :=
  ∃ before event later, events = before ++ event :: later ∧ event.eventType.endsRun = true ∧
    (∀ other ∈ before, other.eventType.endsRun = false) ∧ delivered = before ++ [event]

def Unsent (view : EventStream Float) (events : List (SseEvent Float)) : Prop :=
  (events.map (·.eventId)).Nodup ∧ ∀ event ∈ events, event.eventId ∉ view.emittedEventIds

theorem Unsent.deliver {event : SseEvent Float} {events : List (SseEvent Float)}
    (h : Unsent view (event :: events)) : Unsent (view.deliver event) events := by
  obtain ⟨hnodup, hnew⟩ := h
  rw [List.map_cons, List.nodup_cons] at hnodup
  refine ⟨hnodup.2, fun other hother hsent => ?_⟩
  rcases List.mem_append.mp hsent with hold | hlast
  · exact hnew other (List.mem_cons_of_mem _ hother) hold
  · rw [List.mem_singleton] at hlast
    exact hnodup.1 (hlast ▸ List.mem_map_of_mem hother)

theorem readMessages_quiet (hunsent : Unsent view (story runId messages))
    (hquiet : ∀ event ∈ story runId messages, event.eventType.endsRun = false) :
    view.readMessages runId messages =
      { view with
        emittedEventIds := view.emittedEventIds ++ (story runId messages).map (·.eventId)
        delivered := view.delivered ++ story runId messages
        position := (messages.getLast?.map Prod.fst).or view.position } := by
  induction messages generalizing view with
  | nil => simp [EventStream.readMessages, story]
  | cons message messages ih =>
      obtain ⟨id, event⟩ := message
      have hposition : ((((id, event) :: messages).getLast?.map Prod.fst).or view.position) =
          (messages.getLast?.map Prod.fst).or (some id) := by
        rw [List.getLast?_cons]
        cases messages.getLast? <;> rfl
      rw [story_cons] at hunsent hquiet
      rw [EventStream.readMessages, hposition, story_cons]
      dsimp only
      by_cases hrun : event.runId = runId
      · rw [if_pos hrun] at hunsent hquiet
        have hnew : event.eventId ∉ view.emittedEventIds := hunsent.2 event List.mem_cons_self
        have hends : ¬ event.eventType.endsRun = true := by
          rw [hquiet event List.mem_cons_self]
          exact Bool.false_ne_true
        have hmoved : Unsent ({ view with position := some id }.deliver event)
            (story runId messages) :=
          hunsent.deliver
        have hlater := ih hmoved fun other hother => hquiet other (List.mem_cons_of_mem _ hother)
        rw [if_pos ⟨hrun, hnew⟩, if_neg hends, if_pos hrun, hlater]
        simp [EventStream.deliver]
      · rw [if_neg hrun] at hunsent hquiet
        rw [if_neg fun hown => hrun hown.1, if_neg hrun]
        have hmoved : Unsent { view with position := some id } (story runId messages) := hunsent
        exact ih hmoved hquiet

theorem readMessages_ends (hunsent : Unsent view (story runId messages))
    {before later : List (SseEvent Float)} {event : SseEvent Float}
    (hstory : story runId messages = before ++ event :: later)
    (hends : event.eventType.endsRun = true)
    (hquiet : ∀ other ∈ before, other.eventType.endsRun = false) :
    (view.readMessages runId messages).delivered = view.delivered ++ before ++ [event] ∧
      (view.readMessages runId messages).stage = .closed := by
  induction messages generalizing view before with
  | nil => simp [story] at hstory
  | cons message messages ih =>
      obtain ⟨id, first⟩ := message
      rw [story_cons] at hunsent hstory
      rw [EventStream.readMessages]
      dsimp only
      by_cases hrun : first.runId = runId
      · rw [if_pos hrun] at hunsent hstory
        have hnew : first.eventId ∉ view.emittedEventIds := hunsent.2 first List.mem_cons_self
        rw [if_pos ⟨hrun, hnew⟩]
        cases before with
        | nil =>
            obtain ⟨rfl, -⟩ := List.cons.inj hstory
            rw [if_pos hends]
            exact ⟨by simp [EventStream.deliver], rfl⟩
        | cons other before =>
            obtain ⟨rfl, hrest⟩ := List.cons.inj hstory
            have hopen : ¬ first.eventType.endsRun = true := by
              rw [hquiet first List.mem_cons_self]
              exact Bool.false_ne_true
            rw [if_neg hopen]
            have hmoved : Unsent ({ view with position := some id }.deliver first)
                (story runId messages) := hunsent.deliver
            have hlater := ih hmoved hrest fun other hother =>
              hquiet other (List.mem_cons_of_mem _ hother)
            refine ⟨?_, hlater.2⟩
            rw [hlater.1]
            simp [EventStream.deliver]
      · rw [if_neg hrun] at hunsent hstory
        rw [if_neg fun hown => hrun hown.1]
        have hmoved : Unsent { view with position := some id } (story runId messages) := hunsent
        exact ih hmoved hstory hquiet

theorem exists_first_end {events : List (SseEvent Float)}
    (h : ¬ ∀ event ∈ events, event.eventType.endsRun = false) :
    ∃ before event after, events = before ++ event :: after ∧ event.eventType.endsRun = true ∧
      ∀ other ∈ before, other.eventType.endsRun = false := by
  have hsome : (events.find? (·.eventType.endsRun)).isSome = true := by
    rw [List.find?_isSome]
    push Not at h
    obtain ⟨event, hevent, hends⟩ := h
    exact ⟨event, hevent, Bool.eq_true_of_not_eq_false hends⟩
  obtain ⟨event, hfound⟩ := Option.isSome_iff_exists.mp hsome
  obtain ⟨hends, before, after, hsplit, hbefore⟩ := List.find?_eq_some_iff_append.mp hfound
  exact ⟨before, event, after, hsplit, hends,
    fun other hother => by simpa using hbefore other hother⟩

structure ReadUpTo (runId : String) (stream seen rest : List (StreamId × SseEvent Float))
    (view : EventStream Float) : Prop where
  split : stream = seen ++ rest
  client : view.client = true
  position : ∃ position, view.position = some position ∧
    (∀ entry ∈ seen, ¬ position < entry.1) ∧ ∀ entry ∈ rest, position < entry.1
  delivered : view.delivered = story runId seen
  ids : view.emittedEventIds = view.delivered.map (·.eventId)
  quiet : ∀ event ∈ story runId seen, event.eventType.endsRun = false

theorem ReadUpTo.xread (h : ReadUpTo runId stream seen rest view) :
    ∃ position, view.position = some position ∧ xread stream position = rest.take xreadCount := by
  obtain ⟨position, hposition, hseen, hrest⟩ := h.position
  refine ⟨position, hposition, ?_⟩
  have hold : seen.filter (fun entry => position < entry.1) = [] :=
    List.filter_eq_nil_iff.mpr fun entry hentry => by simpa using hseen entry hentry
  have hnew : rest.filter (fun entry => position < entry.1) = rest :=
    List.filter_eq_self.mpr fun entry hentry => by simpa using hrest entry hentry
  rw [Events.xread, h.split, List.filter_append, hold, hnew, List.nil_append]

theorem position_batch {batch later : List (StreamId × SseEvent Float)}
    (hsorted : (seen ++ (batch ++ later)).Pairwise fun first second => first.1 < second.1)
    (hbatch : batch ≠ []) :
    ∃ position, batch.getLast?.map Prod.fst = some position ∧
      (∀ entry ∈ seen ++ batch, ¬ position < entry.1) ∧ ∀ entry ∈ later, position < entry.1 := by
  obtain ⟨front, last, rfl⟩ := (List.eq_nil_or_concat' batch).resolve_left hbatch
  obtain ⟨-, hlater, hseen⟩ := List.pairwise_append.mp hsorted
  obtain ⟨hfront, -, hfollow⟩ := List.pairwise_append.mp hlater
  have hlast : last ∈ front ++ [last] := List.mem_append_right _ (List.mem_singleton_self last)
  refine ⟨last.1, by simp, fun entry hentry => ?_, fun entry hentry => ?_⟩
  · rcases List.mem_append.mp hentry with hold | hnew
    · exact StreamId.lt_asymm (hseen entry hold last (List.mem_append_left _ hlast))
    · rcases List.mem_append.mp hnew with hbefore | hsame
      · exact StreamId.lt_asymm ((List.pairwise_append.mp hfront).2.2 entry hbefore last
          (List.mem_singleton_self last))
      · rw [List.mem_singleton.mp hsame]
        exact StreamId.lt_irrefl last.1
  · exact hfollow last hlast entry hentry

theorem ReadUpTo.read (h : ReadUpTo cfg.runId stream seen rest view)
    (hsorted : stream.Pairwise fun first second => first.1 < second.1)
    (hnodup : ((story cfg.runId stream).map (·.eventId)).Nodup) (hstage : view.stage = .reading) :
    (rest = [] ∧ readStream cfg stream view true =
        if view.delivered = [] then { view with stage := .fallback } else view) ∨
      (∃ more later, seen.length < more.length ∧ ReadUpTo cfg.runId stream more later
          (readStream cfg stream view true) ∧ (readStream cfg stream view true).stage = .reading) ∨
      ((readStream cfg stream view true).stage = .closed ∧
        ClosedAt (story cfg.runId stream) (readStream cfg stream view true).delivered) := by
  obtain ⟨position, hposition, hxread⟩ := h.xread
  have hread : readStream cfg stream view true =
      if rest.take xreadCount = [] ∧ view.emittedEventIds = [] then { view with stage := .fallback }
      else view.readMessages cfg.runId (rest.take xreadCount) := by
    rw [readStream, h.client, hposition, Bool.and_self]
    simp only [hxread]
  by_cases hnothing : rest = []
  · refine .inl ⟨hnothing, ?_⟩
    have hnone : view.emittedEventIds = [] ↔ view.delivered = [] := by
      rw [h.ids, List.map_eq_nil_iff]
    rw [hread, hnothing, List.take_nil]
    simp only [true_and, hnone]
    rfl
  · have hbatch : rest.take xreadCount ≠ [] := by
      simpa [xreadCount] using hnothing
    rw [if_neg fun hall => hbatch hall.1] at hread
    rw [hread]
    generalize hbatched : rest.take xreadCount = batch at hbatch hread ⊢
    generalize hlater : rest.drop xreadCount = later
    have hrest : rest = batch ++ later := by
      rw [← hbatched, ← hlater, List.take_append_drop]
    have hsplit : stream = seen ++ (batch ++ later) := by
      rw [h.split, hrest]
    have hunsent : Unsent view (story cfg.runId batch) := by
      rw [hsplit, story_append, story_append, List.map_append, List.map_append] at hnodup
      obtain ⟨-, hnew, hapart⟩ := List.nodup_append.mp hnodup
      refine ⟨(List.nodup_append.mp hnew).1, fun event hevent hsent => ?_⟩
      rw [h.ids, h.delivered] at hsent
      exact hapart _ hsent _ (List.mem_append_left _ (List.mem_map_of_mem hevent)) rfl
    by_cases hquiet : ∀ event ∈ story cfg.runId batch, event.eventType.endsRun = false
    · right
      left
      obtain ⟨last, hlast, hseen, hfollow⟩ := position_batch (hsplit ▸ hsorted) hbatch
      have hmore : seen.length < (seen ++ batch).length := by
        rw [List.length_append]
        have hpos := List.length_pos_iff.mpr hbatch
        omega
      rw [readMessages_quiet hunsent hquiet]
      refine ⟨seen ++ batch, later, hmore, ⟨?_, h.client, ⟨last, ?_, hseen, hfollow⟩, ?_, ?_, ?_⟩,
        hstage⟩
      · rw [hsplit, List.append_assoc]
      · rw [hlast]
        rfl
      · rw [story_append, ← h.delivered]
      · rw [List.map_append, ← h.ids]
      · intro event hevent
        rw [story_append] at hevent
        rcases List.mem_append.mp hevent with hold | hnew
        · exact h.quiet event hold
        · exact hquiet event hnew
    · right
      right
      obtain ⟨before, event, after, hstory, hends, hbefore⟩ := exists_first_end hquiet
      obtain ⟨hdelivered, hclosed⟩ := readMessages_ends hunsent hstory hends hbefore
      refine ⟨hclosed, story cfg.runId seen ++ before, event, after ++ story cfg.runId later, ?_,
        hends, ?_, ?_⟩
      · rw [hsplit, story_append, story_append, hstory]
        simp
      · intro other hother
        rcases List.mem_append.mp hother with hold | hnew
        · exact h.quiet other hold
        · exact hbefore other hnew
      · rw [hdelivered, h.delivered]

end Reads

section Generator

/-- The client waits and nothing is written. Redis can be reached, unless the app runs without
it. -/
def Undisturbed (cfg : StreamConfig) : EventStep Float → Prop
  | .openStream _ client => client = !cfg.inMemory
  | .read reached => reached = !cfg.inMemory
  | .checkRun | .replay | .rebuild _ | .checkJob _ => True
  | _ => False

structure SameSources (start world : EventWorld Float) : Prop where
  run : world.run = start.run
  job : world.job = start.job
  steps : world.steps = start.steps
  stream : world.stream = start.stream
  log : world.log = start.log
  taken : ∀ id ∈ start.taken, id ∈ world.taken

inductive Advance (cfg : StreamConfig) (start : EventWorld Float) (view : EventStream Float) :
    EventStream Float → Prop where
  | read (hstage : view.stage = .reading) :
      Advance cfg start view (readStream cfg start.stream view (!cfg.inMemory))
  | ended (run : Run Float) (hstage : view.stage = .fallback) (hended : Ended start) :
      Advance cfg start view { view with
        stage := if cfg.inMemory then .replaying run else .rebuilding run }
  | running (hstage : view.stage = .fallback) (hrunning : ¬ Ended start) :
      Advance cfg start view { view with stage := .jobCheck }
  | replay (run : Run Float) (hstage : view.stage = .replaying run) :
      Advance cfg start view (replayLog cfg start.log run view)
  | rebuild (run : Run Float) (ids : List EventId) (stage : StreamStage Float)
      (hstage : view.stage = .rebuilding run)
        (hlength : ids.length = (rebuilt run start.steps).length)
      (hfresh : ∀ id ∈ ids, id ∉ start.taken) (hover : ¬ stage.Live) :
      Advance cfg start view { view.deliverAll (List.zipWith (fun draft id => draft id)
        (rebuilt run start.steps) ids) with stage }
  | wait (hstage : view.stage = .jobCheck) : Advance cfg start view { view with stage := .reading }

variable {step : EventStep Float}

theorem SameSources.show (h : SameSources start world) (view : EventStream Float) :
    SameSources start (world.show view) := ⟨h.run, h.job, h.steps, h.stream, h.log, h.taken⟩

theorem SameSources.ended_iff (h : SameSources start world) : Ended world ↔ Ended start := by
  rw [Ended, Ended, h.run]

theorem advance_of_step (h : SameSources start world) (hjob : start.job = none)
    (hview : world.view = some view) (hstep : eventStep cfg world step = some next)
    (hundisturbed : Undisturbed cfg step) :
    SameSources start next ∧ ∃ moved, next.view = some moved ∧ Advance cfg start view moved := by
  have hmove (hviewed : (world.view.bind fun view => viewStep cfg world view view.stage step) =
      some next) : viewStep cfg world view view.stage step = some next := by
    rw [hview] at hviewed
    exact hviewed
  cases step with
  | openStream header client =>
      simp only [eventStep, hview, reduceCtorEq] at hstep
  | read reached =>
      have hread := hmove hstep
      cases hstage : view.stage <;> simp only [viewStep, hstage, reduceCtorEq] at hread
      obtain rfl := Option.some.inj hread
      obtain rfl : reached = !cfg.inMemory := hundisturbed
      refine ⟨h.show _, _, rfl, ?_⟩
      rw [h.stream]
      exact .read hstage
  | checkRun =>
      have hcheck := hmove hstep
      cases hstage : view.stage <;> simp only [viewStep, hstage, reduceCtorEq] at hcheck
      split at hcheck
      · rename_i run hrun
        by_cases hterminal : run.status.Terminal
        · rw [if_pos hterminal] at hcheck
          obtain rfl := Option.some.inj hcheck
          exact ⟨h.show _, _, rfl, .ended run hstage (h.ended_iff.mp ⟨run, hrun, hterminal⟩)⟩
        · rw [if_neg hterminal] at hcheck
          obtain rfl := Option.some.inj hcheck
          refine ⟨h.show _, _, rfl, .running hstage fun hended => ?_⟩
          obtain ⟨other, hother, hends⟩ := h.ended_iff.mpr hended
          rw [hrun] at hother
          exact hterminal (Option.some.inj hother ▸ hends)
      · rename_i hnone
        obtain rfl := Option.some.inj hcheck
        refine ⟨h.show _, _, rfl, .running hstage fun hended => ?_⟩
        obtain ⟨other, hother, -⟩ := h.ended_iff.mpr hended
        rw [hnone] at hother
        cases hother
  | replay =>
      have hreplay := hmove hstep
      cases hstage : view.stage <;> simp only [viewStep, hstage, reduceCtorEq] at hreplay
      obtain rfl := Option.some.inj hreplay
      refine ⟨h.show _, _, rfl, ?_⟩
      rw [h.log]
      exact .replay _ hstage
  | rebuild ids =>
      have hrebuild := hmove hstep
      cases hstage : view.stage <;> simp only [viewStep, hstage, reduceCtorEq] at hrebuild
      rename_i run
      rw [h.steps] at hrebuild
      by_cases hids : ids.length = (rebuilt run start.steps).length ∧ ids.Nodup ∧
          ∀ id ∈ ids, id ∉ world.taken
      · rw [if_pos hids] at hrebuild
        obtain rfl := Option.some.inj hrebuild
        refine ⟨⟨h.run, h.job, h.steps, h.stream, h.log, fun id hid =>
          List.mem_append_left _ (h.taken id hid)⟩, _, rfl, ?_⟩
        refine .rebuild run ids _ hstage hids.1 (fun id hid htaken => ?_) ?_
        · exact hids.2.2 id hid (h.taken id htaken)
        · split <;> exact id
      · rw [if_neg hids] at hrebuild
        cases hrebuild
  | checkJob eventId =>
      have hcheck := hmove hstep
      have hnone : world.job = none := h.job.trans hjob
      cases hstage : view.stage <;> simp only [viewStep, hstage, hnone, reduceCtorEq] at hcheck
      obtain rfl := Option.some.inj hcheck
      exact ⟨h.show _, _, rfl, .wait hstage⟩
  | _ => exact hundisturbed.elim

end Generator

section Redis

variable {entries seen rest : List (StreamId × SseEvent Float)} {n : Nat}

def RedisInv (cfg : StreamConfig) (start : EventWorld Float) (n : Nat) (view : EventStream Float) :
    Prop :=
  match view.stage with
  | .reading => ∃ seen rest, ReadUpTo cfg.runId start.stream seen rest view ∧
      (n ≤ seen.length ∨ rest = [] ∧ (view.delivered ≠ [] ∨ ¬ Ended start))
  | .fallback => ReadUpTo cfg.runId start.stream start.stream [] view ∧ view.delivered = [] ∧
      (n ≤ start.stream.length + 1 ∨ ¬ Ended start)
  | .jobCheck => ReadUpTo cfg.runId start.stream start.stream [] view ∧ view.delivered = [] ∧
      ¬ Ended start
  | .replaying _ => False
  | .rebuilding _ => story cfg.runId start.stream = [] ∧ Ended start ∧ n ≤ start.stream.length + 2
  | .closed | .left => ClosedAt (story cfg.runId start.stream) view.delivered ∨
      story cfg.runId start.stream = [] ∧ Ended start ∧
        ∃ event ∈ view.delivered, event.eventId ∉ start.taken

theorem ReadUpTo.stage (h : ReadUpTo runId start.stream seen rest view)
    (stage : StreamStage Float) : ReadUpTo runId start.stream seen rest { view with stage } :=
  ⟨h.split, h.client, h.position, h.delivered, h.ids, h.quiet⟩

theorem exists_fresh_rebuilt {run : Run Float} {ids : List EventId}
    (hlength : ids.length = (rebuilt run start.steps).length)
    (hfresh : ∀ id ∈ ids, id ∉ start.taken) :
    ∃ event ∈ (view.deliverAll (List.zipWith (fun draft id => draft id)
      (rebuilt run start.steps) ids)).delivered, event.eventId ∉ start.taken := by
  obtain ⟨id, others, rfl⟩ := List.exists_cons_of_length_eq_add_one hlength
  refine ⟨rebuiltEvent run .runReceived 1 [("status", .str "in_progress")] id, ?_,
    hfresh id List.mem_cons_self⟩
  rw [EventStream.deliverAll, foldl_deliver]
  exact List.mem_append_right _ List.mem_cons_self

theorem RedisInv.read (hlog : LogInv entries start)
    (hnodup : ((story cfg.runId start.stream).map (·.eventId)).Nodup)
    (h : RedisInv cfg start n view) (hstage : view.stage = .reading) :
    RedisInv cfg start (n + 1) (readStream cfg start.stream view true) := by
  simp only [RedisInv, hstage] at h
  obtain ⟨seen, rest, hread, hprogress⟩ := h
  have hsorted : start.stream.Pairwise fun first second => first.1 < second.1 :=
    hlog.sorted.sublist hlog.stream.sublist
  rcases hread.read hsorted hnodup hstage with ⟨rfl, hsame⟩ | ⟨more, later, hmore, hnext, hreading⟩
    | ⟨hclosed, hends⟩
  · have hall : seen = start.stream := by
      rw [hread.split, List.append_nil]
    rw [hsame]
    by_cases hsilent : view.delivered = []
    · rw [if_pos hsilent]
      refine ⟨(hall ▸ hread).stage .fallback, hsilent, ?_⟩
      rcases hprogress with hcount | ⟨-, hsent | hrunning⟩
      · left
        rw [← hall]
        omega
      · exact absurd hsilent hsent
      · exact .inr hrunning
    · rw [if_neg hsilent]
      simp only [RedisInv, hstage]
      exact ⟨seen, [], hread, .inr ⟨rfl, .inl hsilent⟩⟩
  · simp only [RedisInv, hreading]
    refine ⟨more, later, hnext, .inl ?_⟩
    rcases hprogress with hcount | ⟨rfl, -⟩
    · omega
    · have hlengths := congrArg List.length (hread.split.symm.trans hnext.split)
      rw [List.length_append, List.length_append, List.length_nil] at hlengths
      omega
  · simp only [RedisInv, hclosed]
    exact .inl hends

theorem RedisInv.advance (hlog : LogInv entries start)
    (hnodup : ((story cfg.runId start.stream).map (·.eventId)).Nodup)
    (hmemory : cfg.inMemory = false)
    (h : RedisInv cfg start n view) (hadvance : Advance cfg start view moved) :
    RedisInv cfg start (n + 1) moved := by
  cases hadvance with
  | read hstage =>
      rw [hmemory]
      exact h.read hlog hnodup hstage
  | ended run hstage hended =>
      simp only [RedisInv, hstage] at h
      obtain ⟨hread, hsilent, hcount⟩ := h
      rw [hmemory]
      refine ⟨?_, hended, ?_⟩
      · rw [← hread.delivered, hsilent]
      · have hearly := hcount.resolve_right fun hrunning => hrunning hended
        omega
  | running hstage hrunning =>
      simp only [RedisInv, hstage] at h
      exact ⟨h.1.stage .jobCheck, h.2.1, hrunning⟩
  | replay run hstage =>
      simp only [RedisInv, hstage] at h
  | rebuild run ids stage hstage hlength hfresh hover =>
      simp only [RedisInv, hstage] at h
      have hsent : story cfg.runId start.stream = [] ∧ Ended start ∧ ∃ event ∈
          (view.deliverAll (List.zipWith (fun draft id => draft id)
            (rebuilt run start.steps) ids)).delivered, event.eventId ∉ start.taken :=
        ⟨h.1, h.2.1, exists_fresh_rebuilt hlength hfresh⟩
      cases stage with
      | closed | left => exact .inr hsent
      | _ => exact absurd trivial hover
  | wait hstage =>
      simp only [RedisInv, hstage] at h
      exact ⟨start.stream, [], h.1.stage .reading, .inr ⟨rfl, .inr h.2.2⟩⟩

end Redis

section Memory

variable {n : Nat}

def MemoryInv (cfg : StreamConfig) (start : EventWorld Float) (n : Nat) (view : EventStream Float) :
    Prop :=
  match view.stage with
  | .reading => (view.delivered = [] ∧ view.emittedEventIds = []) ∧ (n = 0 ∨ ¬ Ended start)
  | .fallback => (view.delivered = [] ∧ view.emittedEventIds = []) ∧ (n ≤ 1 ∨ ¬ Ended start)
  | .jobCheck => (view.delivered = [] ∧ view.emittedEventIds = []) ∧ ¬ Ended start
  | .replaying _ => (view.delivered = [] ∧ view.emittedEventIds = []) ∧ Ended start ∧ n ≤ 2
  | .rebuilding _ => view.delivered = start.log.filter (·.runId = cfg.runId) ∧ Ended start ∧ n ≤ 3
  | .closed | .left =>
      (∃ more, view.delivered = start.log.filter (·.runId = cfg.runId) ++ more) ∧ Ended start

theorem MemoryInv.advance (hsources : WorldInv cfg start) (hmemory : cfg.inMemory = true)
    (h : MemoryInv cfg start n view) (hadvance : Advance cfg start view moved) :
    MemoryInv cfg start (n + 1) moved := by
  cases hadvance with
  | read hstage =>
      simp only [MemoryInv, hstage] at h
      have hread : readStream cfg start.stream view (!cfg.inMemory) =
          { view with client := false, stage := .fallback } := by
        rw [readStream, hmemory, Bool.not_true, Bool.and_false]
      rw [hread]
      exact ⟨h.1, h.2.imp_left fun hnone => by omega⟩
  | ended run hstage hended =>
      simp only [MemoryInv, hstage] at h
      rw [hmemory]
      have hearly := h.2.resolve_right fun hrunning => hrunning hended
      exact ⟨h.1, hended, by omega⟩
  | running hstage hrunning =>
      simp only [MemoryInv, hstage] at h
      exact ⟨h.1, hrunning⟩
  | replay run hstage =>
      simp only [MemoryInv, hstage] at h
      obtain ⟨⟨hsilent, hunsent⟩, hended, hcount⟩ := h
      have hdelivered : (replayLog cfg start.log run view).delivered =
          start.log.filter (·.runId = cfg.runId) := by
        rw [replayLog_delivered hsources, hsilent, List.nil_append, unseen, hunsent]
        simp
      by_cases hends : (unseen cfg start.log view).any (·.eventType.endsRun) = true
      · have hstage : (replayLog cfg start.log run view).stage = .closed := if_pos hends
        simp only [MemoryInv, hstage]
        exact ⟨⟨[], by rw [hdelivered, List.append_nil]⟩, hended⟩
      · have hstage : (replayLog cfg start.log run view).stage = .rebuilding run := if_neg hends
        simp only [MemoryInv, hstage]
        exact ⟨hdelivered, hended, by omega⟩
  | rebuild run ids stage hstage hlength hfresh hover =>
      simp only [MemoryInv, hstage] at h
      have hsent : (∃ more, (view.deliverAll (List.zipWith (fun draft id => draft id)
          (rebuilt run start.steps) ids)).delivered =
            start.log.filter (·.runId = cfg.runId) ++ more) ∧ Ended start := by
        rw [EventStream.deliverAll, foldl_deliver, h.1]
        exact ⟨⟨_, rfl⟩, h.2.1⟩
      cases stage with
      | closed | left => exact hsent
      | _ => exact absurd trivial hover
  | wait hstage =>
      simp only [MemoryInv, hstage] at h
      exact ⟨h.1, .inr h.2⟩

end Memory

section Resuming

/-- The stream that is opened after event `k` sends what follows it: the run's first events up to
that one, and no others, have been trimmed from the Redis stream, where nothing follows an end, and
it need not fall back on the record of an ended run. Without Redis it is the last event of a run
that goes on. -/
def Resumable (cfg : StreamConfig) (writes : List (EventStep Float)) (world : EventWorld Float)
    (k : Nat) : Prop :=
  if cfg.inMemory then k + 1 = (eventLog cfg writes world).length ∧ ¬ Ended world
  else (story cfg.runId (trimmed writes world)).length = k + 1 ∧
    EndsLast (story cfg.runId world.stream) ∧
    (k + 1 < (eventLog cfg writes world).length ∨ ¬ Ended world)

theorem endsLast_of_quiet {events : List (SseEvent Float)}
    (h : ∀ event ∈ events, event.eventType.endsRun = false) : EndsLast events := by
  rintro before event after rfl hends
  rw [h event (List.mem_append_right _ List.mem_cons_self)] at hends
  cases hends

theorem endsLast_iff {before later : List (SseEvent Float)} {event : SseEvent Float}
    (hends : event.eventType.endsRun = true)
    (hquiet : ∀ other ∈ before, other.eventType.endsRun = false) :
    EndsLast (before ++ event :: later) ↔ later = [] := by
  constructor
  · exact fun h => h before event later rfl hends
  · rintro rfl first other after hsplit hother
    by_contra hmore
    obtain ⟨front, last, rfl⟩ := (List.eq_nil_or_concat' after).resolve_left hmore
    have hwhole : before ++ [event] = first ++ other :: front ++ [last] := by
      rw [hsplit]
      simp
    have hinit : before = first ++ other :: front := (List.append_inj' hwhole rfl).1
    have hopen := hquiet other (hinit ▸ List.mem_append_right _ List.mem_cons_self)
    rw [hother] at hopen
    cases hopen

variable {gone left delivered : List (SseEvent Float)} {k : Nat}

theorem drop_eq_iff (hk : k < (gone ++ left).length) :
    left = (gone ++ left).drop (k + 1) ↔ gone.length = k + 1 := by
  constructor
  · intro hleft
    have hlength := congrArg List.length hleft
    rw [List.length_drop] at hlength
    rw [List.length_append] at hk hlength
    omega
  · intro hgone
    rw [← hgone, List.drop_left]

theorem lt_length_of_left (hleft : left ≠ []) (hgone : gone.length = k + 1) :
    k + 1 < (gone ++ left).length := by
  rw [List.length_append]
  have hpos := List.length_pos_iff.mpr hleft
  omega

variable {running : Prop}

theorem quiet_iff (hquiet : ∀ event ∈ left, event.eventType.endsRun = false)
    (hrest : left ≠ [] ∨ running) (hk : k < (gone ++ left).length) :
    left = (gone ++ left).drop (k + 1) ↔
      gone.length = k + 1 ∧ EndsLast left ∧ (k + 1 < (gone ++ left).length ∨ running) := by
  rw [drop_eq_iff hk]
  constructor
  · intro hgone
    exact ⟨hgone, endsLast_of_quiet hquiet, hrest.imp_left fun hleft =>
      lt_length_of_left hleft hgone⟩
  · exact fun hall => hall.1

theorem closedAt_iff (hclosed : ClosedAt left delivered) (hk : k < (gone ++ left).length)
    (hnodup : ((gone ++ left).map (·.eventId)).Nodup) :
    delivered = (gone ++ left).drop (k + 1) ↔
      gone.length = k + 1 ∧ EndsLast left ∧ (k + 1 < (gone ++ left).length ∨ running) := by
  obtain ⟨before, event, later, rfl, hends, hquiet, rfl⟩ := hclosed
  rw [endsLast_iff hends hquiet]
  constructor
  · intro hrest
    have hlater : later = [] := by
      by_contra hmore
      obtain ⟨front, last, rfl⟩ := (List.eq_nil_or_concat' later).resolve_left hmore
      generalize htotal : gone ++ (before ++ event :: (front ++ [last])) = total at hrest hnodup
      have hends : gone ++ before ++ event :: front ++ [last] =
          total.take (k + 1) ++ before ++ [event] := by
        rw [List.append_assoc (total.take _), hrest, List.take_append_drop, ← htotal]
        simp
      -- the event that was sent last stands twice in the story
      obtain rfl : last = event := List.singleton_inj.mp (List.append_inj' hends rfl).2
      rw [← htotal, List.map_append, List.map_append, List.map_cons] at hnodup
      have hlast := (List.nodup_append.mp (List.nodup_append.mp hnodup).2.1).2.1
      refine (List.nodup_cons.mp hlast).1 (List.mem_map_of_mem ?_)
      exact List.mem_append_right _ (List.mem_singleton_self last)
    subst hlater
    have hgone := (drop_eq_iff hk).mp hrest
    exact ⟨hgone, rfl, .inl (lt_length_of_left (by simp) hgone)⟩
  · rintro ⟨hgone, rfl, -⟩
    exact (drop_eq_iff hk).mpr hgone

theorem rebuilt_iff {event : SseEvent Float} (hevent : event ∈ delivered)
    (hfresh : event ∉ gone) (hrunning : ¬ running) :
    delivered = (gone ++ []).drop (k + 1) ↔
      gone.length = k + 1 ∧ EndsLast ([] : List (SseEvent Float)) ∧
        (k + 1 < (gone ++ []).length ∨ running) := by
  rw [List.append_nil]
  refine iff_of_false (fun hrest => ?_) ?_
  · rw [hrest] at hevent
    exact hfresh (List.mem_of_mem_drop hevent)
  · rintro ⟨hgone, -, hlonger | hrun⟩
    · omega
    · exact hrunning hrun

variable {start final : EventWorld Float} {writes steps : List (EventStep Float)} {n : Nat}

theorem eventLog_redis (hmemory : cfg.inMemory = false) (hlog : LogInv (added writes) world) :
    eventLog cfg writes world =
      story cfg.runId (trimmed writes world) ++ story cfg.runId world.stream := by
  obtain ⟨gone, hgone⟩ := hlog.stream
  have htrimmed : trimmed writes world = gone := by
    rw [trimmed, ← hgone, List.length_append, Nat.add_sub_cancel, List.take_left]
  rw [eventLog, hmemory, htrimmed, ← hgone, ← story_append]
  rfl

theorem redis_iff (hmemory : cfg.inMemory = false) (hsources : WorldInv cfg start)
    (hlog : LogInv (added writes) start) (h : RedisInv cfg start n view)
    (hlong : view.stage.Live → start.stream.length + 4 ≤ n)
    (hk : k < (eventLog cfg writes start).length) :
    view.delivered = (eventLog cfg writes start).drop (k + 1) ↔ Resumable cfg writes start k := by
  have hpublished : (eventLog cfg writes start).Sublist start.published := by
    rw [eventLog, hmemory]
    exact List.filter_sublist.trans hlog.published
  have hnodup : ((eventLog cfg writes start).map (·.eventId)).Nodup :=
    (hpublished.map _).nodup hsources.nodup
  have htaken : ∀ event ∈ eventLog cfg writes start, event.eventId ∈ start.taken :=
    fun event hevent => hsources.taken event (hpublished.subset hevent)
  rw [Resumable, hmemory, if_neg Bool.false_ne_true]
  rw [eventLog_redis hmemory hlog] at hk hnodup htaken ⊢
  generalize story cfg.runId (trimmed writes start) = gone at hk hnodup htaken ⊢
  have hquiet (hread : ReadUpTo cfg.runId start.stream start.stream [] view)
      (hrest : story cfg.runId start.stream ≠ [] ∨ ¬ Ended start) :
      view.delivered = (gone ++ story cfg.runId start.stream).drop (k + 1) ↔
        gone.length = k + 1 ∧ EndsLast (story cfg.runId start.stream) ∧
          (k + 1 < (gone ++ story cfg.runId start.stream).length ∨ ¬ Ended start) := by
    rw [hread.delivered]
    exact quiet_iff hread.quiet hrest hk
  cases hstage : view.stage with
  | reading =>
      have hcount := hlong (by rw [hstage]; trivial)
      simp only [RedisInv, hstage] at h
      obtain ⟨seen, rest, hread, hprogress⟩ := h
      have hseen : seen.length ≤ start.stream.length := by
        rw [hread.split, List.length_append]
        omega
      obtain ⟨rfl, hrest⟩ := hprogress.resolve_left (by omega)
      obtain rfl : seen = start.stream := by
        rw [hread.split, List.append_nil]
      exact hquiet hread (hrest.imp_left fun hsent => hread.delivered ▸ hsent)
  | fallback =>
      have hcount := hlong (by rw [hstage]; trivial)
      simp only [RedisInv, hstage] at h
      exact hquiet h.1 (.inr (h.2.2.resolve_left (by omega)))
  | jobCheck =>
      simp only [RedisInv, hstage] at h
      exact hquiet h.1 (.inr h.2.2)
  | replaying run => simp only [RedisInv, hstage] at h
  | rebuilding run =>
      have hcount := hlong (by rw [hstage]; trivial)
      simp only [RedisInv, hstage] at h
      omega
  | closed | left =>
      simp only [RedisInv, hstage] at h
      rcases h with hclosed | ⟨hnone, hended, event, hevent, hfresh⟩
      · exact closedAt_iff hclosed hk hnodup
      · rw [hnone] at htaken ⊢
        refine rebuilt_iff hevent (fun hold => ?_) (not_not_intro hended)
        exact hfresh (htaken event (List.mem_append_left _ hold))

theorem memory_iff (hmemory : cfg.inMemory = true) (h : MemoryInv cfg start n view)
    (hlong : view.stage.Live → start.stream.length + 4 ≤ n)
    (hk : k < (eventLog cfg writes start).length) :
    view.delivered = (eventLog cfg writes start).drop (k + 1) ↔ Resumable cfg writes start k := by
  have hlog : eventLog cfg writes start = start.log.filter (·.runId = cfg.runId) := by
    rw [eventLog, hmemory]
    rfl
  rw [Resumable, if_pos hmemory]
  have hsilent (hnone : view.delivered = []) (hrunning : ¬ Ended start) :
      view.delivered = (eventLog cfg writes start).drop (k + 1) ↔
        k + 1 = (eventLog cfg writes start).length ∧ ¬ Ended start := by
    rw [hnone, eq_comm, List.drop_eq_nil_iff, and_iff_left hrunning]
    omega
  have hover (hsent : (∃ more, view.delivered = start.log.filter (·.runId = cfg.runId) ++ more) ∧
      Ended start) : view.delivered = (eventLog cfg writes start).drop (k + 1) ↔
        k + 1 = (eventLog cfg writes start).length ∧ ¬ Ended start := by
    obtain ⟨⟨more, hmore⟩, hended⟩ := hsent
    refine iff_of_false (fun hrest => ?_) fun hall => hall.2 hended
    have hlength := congrArg List.length hrest
    rw [hmore, ← hlog, List.length_append, List.length_drop] at hlength
    omega
  cases hstage : view.stage with
  | reading =>
      have hcount := hlong (by rw [hstage]; trivial)
      simp only [MemoryInv, hstage] at h
      exact hsilent h.1.1 (h.2.resolve_left (by omega))
  | fallback =>
      have hcount := hlong (by rw [hstage]; trivial)
      simp only [MemoryInv, hstage] at h
      exact hsilent h.1.1 (h.2.resolve_left (by omega))
  | jobCheck =>
      simp only [MemoryInv, hstage] at h
      exact hsilent h.1.1 h.2
  | replaying run | rebuilding run =>
      have hcount := hlong (by rw [hstage]; trivial)
      simp only [MemoryInv, hstage] at h
      omega
  | closed | left =>
      simp only [MemoryInv, hstage] at h
      exact hover h

end Resuming

section Runs

variable {final : EventWorld Float} {writes steps : List (EventStep Float)} {k n : Nat}

theorem advance_run {Inv : Nat → EventStream Float → Prop} (hjob : start.job = none)
    (hkeep : ∀ n view moved, Inv n view → Advance cfg start view moved → Inv (n + 1) moved)
    (hsame : SameSources start world) (hview : world.view = some view) (hinv : Inv n view)
    (hrun : (eventMachine cfg).run world steps = some final)
    (hundisturbed : ∀ step ∈ steps, Undisturbed cfg step) :
    ∃ moved, final.view = some moved ∧ Inv (n + steps.length) moved := by
  induction steps generalizing world view n with
  | nil =>
      obtain rfl := Option.some.inj hrun
      exact ⟨view, hview, hinv⟩
  | cons step steps ih =>
      obtain ⟨mid, hstep, hrest⟩ := Machine.run_cons_eq_some_iff.mp hrun
      obtain ⟨hsources, moved, hmoved, hadvance⟩ :=
        advance_of_step hsame hjob hview hstep (hundisturbed step List.mem_cons_self)
      obtain ⟨last, hlast, hkept⟩ := ih hsources hmoved (hkeep n view moved hinv hadvance) hrest
        fun other hother => hundisturbed other (List.mem_cons_of_mem _ hother)
      refine ⟨last, hlast, ?_⟩
      rw [List.length_cons, Nat.add_comm steps.length, ← Nat.add_assoc]
      exact hkept

theorem redisInv_open (hlog : LogInv (added writes) start) :
    RedisInv cfg start 0 (openStream none true) := by
  refine ⟨[], start.stream, ⟨rfl, rfl, ⟨_, position_openStream true, ?_, ?_⟩, rfl, rfl, ?_⟩,
    .inl (Nat.zero_le _)⟩
  · exact fun _ hentry => absurd hentry List.not_mem_nil
  · exact fun entry hentry => hlog.pos entry (hlog.stream.subset hentry)
  · exact fun _ hevent => absurd hevent List.not_mem_nil

theorem eq_show_of_open {id : EventId} {client : Bool}
    (hopen : eventStep cfg start (.openStream (some id.text) client) = some next) :
    next = start.show (openStream none client) := by
  simp only [eventStep] at hopen
  split at hopen
  · obtain rfl := Option.some.inj hopen
    rw [openStream_eventId]
  · cases hopen

/-- **Resuming.** After any writes, a stream that is opened with the id of the run's event `k` and
has come to its end, or has read for long enough, has sent exactly the later events only where the
others are gone. -/
theorem resume_exact_iff {event : SseEvent Float} {client : Bool}
    (hwritten : (eventMachine cfg).run {} writes = some start) (hsubject : cfg.subject = .run)
    (hevent : (eventLog cfg writes start)[k]? = some event)
    (hrun : (eventMachine cfg).run start (.openStream (some event.eventId.text) client :: steps) =
      some final)
    (hundisturbed : ∀ step ∈ EventStep.openStream (some event.eventId.text) client :: steps,
      Undisturbed cfg step)
    (hview : final.view = some view)
    (hlong : view.stage.Live → start.stream.length + 4 ≤ steps.length) :
    view.delivered = (eventLog cfg writes start).drop (k + 1) ↔ Resumable cfg writes start k := by
  have hinv : EventInv cfg ((eventMachine cfg).Meets (Once cfg) {} writes) start :=
    Machine.run_invariant_meets (fun _ _ _ _ h hstep => eventInv_step h hstep) eventInv_start
      hwritten
  have hlog : LogInv (added writes) start := logInv_run logInv_start hwritten
  have hk : k < (eventLog cfg writes start).length := by
    by_contra hbeyond
    rw [List.getElem?_eq_none (Nat.le_of_not_lt hbeyond)] at hevent
    cases hevent
  have hjob : start.job = none := by
    cases hjob : start.job with
    | none => rfl
    | some job =>
        have hother := hinv.sources.job job hjob
        rw [hsubject] at hother
        cases hother
  obtain ⟨opened, hopen, hrest⟩ := Machine.run_cons_eq_some_iff.mp hrun
  obtain rfl : client = !cfg.inMemory := hundisturbed _ List.mem_cons_self
  have hstep : eventStep cfg start (.openStream (some event.eventId.text) (!cfg.inMemory)) =
      some opened := hopen
  obtain rfl := eq_show_of_open hstep
  have hsteps : ∀ step ∈ steps, Undisturbed cfg step := fun step hstep =>
    hundisturbed step (List.mem_cons_of_mem _ hstep)
  have hsame : SameSources start (start.show (openStream none (!cfg.inMemory))) :=
    ⟨rfl, rfl, rfl, rfl, rfl, fun _ => id⟩
  cases hmemory : cfg.inMemory with
  | false =>
      have hnodup : ((story cfg.runId start.stream).map (·.eventId)).Nodup := by
        have hstream : (story cfg.runId start.stream).Sublist start.published :=
          List.filter_sublist.trans hinv.sources.stream
        exact (hstream.map _).nodup hinv.sources.nodup
      have hstart : RedisInv cfg start 0 (openStream none (!cfg.inMemory)) := by
        rw [hmemory]
        exact redisInv_open hlog
      obtain ⟨last, hlast, hredis⟩ := advance_run hjob
        (fun n view moved h hadvance => RedisInv.advance hlog hnodup hmemory h hadvance) hsame rfl
        hstart hrest hsteps
      rw [hview] at hlast
      obtain rfl := Option.some.inj hlast
      rw [Nat.zero_add] at hredis
      exact redis_iff hmemory hinv.sources hlog hredis hlong hk
  | true =>
      have hstart : MemoryInv cfg start 0 (openStream none (!cfg.inMemory)) :=
        ⟨⟨rfl, rfl⟩, .inl rfl⟩
      obtain ⟨last, hlast, hlogged⟩ := advance_run hjob
        (fun n view moved h hadvance => MemoryInv.advance hinv.sources hmemory h hadvance) hsame rfl
        hstart hrest hsteps
      rw [hview] at hlast
      obtain rfl := Option.some.inj hlast
      rw [Nat.zero_add] at hlogged
      exact memory_iff hmemory hlogged hlong hk

def publishedLog : List (EventStep Int) :=
  [.storeRun startedRun, .publish receivedEvent (some ⟨1, 0⟩), .storeRun endedRun,
    .publish completedEvent (some ⟨2, 0⟩)]

def reopened : List (EventStep Int) :=
  [.openStream (some receivedEvent.eventId.text) true, .read true]

theorem endsLast_completed :
    EndsLast (story "r" [((⟨2, 0⟩ : StreamId), completedEvent)]) := by
  have hnone : ∀ other ∈ ([] : List (SseEvent Int)), other.eventType.endsRun = false :=
    fun _ hother => absurd hother List.not_mem_nil
  exact (endsLast_iff rfl hnone).mpr rfl

theorem resume_exact_trimmed : ∃ start final view,
    (eventMachine runConfig).run {} (publishedLog ++ [.trim 1]) = some start ∧
      (eventMachine runConfig).run start reopened = some final ∧ final.view = some view ∧
      view.delivered = (eventLog runConfig (publishedLog ++ [.trim 1]) start).drop 1 := by
  have hsent : sent runConfig (publishedLog ++ [.trim 1] ++ reopened) =
      some (true, [.loop .runCompleted]) := by decide
  obtain ⟨final, view, hrun, hview, hclosed, -⟩ := exists_of_sent hsent
  obtain ⟨start, hwritten, hread⟩ := Machine.run_append_eq_some_iff.mp hrun
  refine ⟨start, final, view, hwritten, hread, hview, ?_⟩
  have hstart : start.stream = [(⟨2, 0⟩, completedEvent)] := by
    rw [← Option.some.inj hwritten]
    rfl
  have hevent : (eventLog runConfig (publishedLog ++ [.trim 1]) start)[0]? =
      some receivedEvent := rfl
  refine (resume_exact_iff hwritten rfl hevent hread ?_ hview ?_).mpr ⟨?_, ?_, ?_⟩
  · intro step hstep
    simp only [List.mem_cons, List.not_mem_nil, or_false] at hstep
    rcases hstep with rfl | rfl <;> rfl
  · rw [hclosed]
    exact False.elim
  · rw [trimmed, hstart]
    rfl
  · rw [hstart]
    exact endsLast_completed
  · exact .inl (Nat.lt_succ_self 1)

theorem resumed_from_beginning : ∃ start final view event,
    (eventMachine runConfig).run {} publishedLog = some start ∧
      (eventLog runConfig publishedLog start)[0]? = some event ∧
      (eventMachine runConfig).run start [.openStream (some event.eventId.text) true, .read true] =
        some final ∧
      final.view = some view ∧ view.stage = .closed ∧
      view.delivered ≠ (eventLog runConfig publishedLog start).drop 1 := by
  have hsent : sent runConfig (publishedLog ++ reopened) =
      some (true, [.runReceived, .loop .runCompleted]) := by decide
  obtain ⟨final, view, hrun, hview, hclosed, htypes⟩ := exists_of_sent hsent
  obtain ⟨start, hwritten, hread⟩ := Machine.run_append_eq_some_iff.mp hrun
  refine ⟨start, final, view, receivedEvent, hwritten, rfl, hread, hview, hclosed,
    fun hrest => ?_⟩
  have hlater : (eventLog runConfig publishedLog start).drop 1 =
      [completedEvent] := rfl
  rw [hrest, hlater] at htypes
  exact absurd htypes (by decide)

end Runs

end AiAnalytics.App.Events
