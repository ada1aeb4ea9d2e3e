import AiAnalytics.App.Events.Proof.StreamEnds
import AiAnalytics.Lib.JsonRoundTrip
import AiAnalytics.Lib.NumOrder

/-!
# The time of the first token

Before the first token event the replayer also takes an event for one if the letters `delta` stand
anywhere in its JSON, in a question, in the data of a tool or in any other text. The time it returns
is then that of this event. -/

namespace AiAnalytics.Benchmarks

open Lib App.Loop App.Events

variable {Float : Type} {json : FrameJson Float} {event last : PublishedEvent Float}
  {events : List (PublishedEvent Float)}

section Arrivals

def isToken (event : PublishedEvent Float) : Bool :=
  decide (event.eventType.text ∈ ["answer.delta", "step.crewai_writer"]) ||
    (event.payload.lookup "delta").isSome

def mentionsDelta (json : FrameJson Float) (event : PublishedEvent Float) : Bool :=
  match json.dumps (.dict (event.envelope json.num)) with
  | some data => contains "delta".toList data
  | none => false

theorem tellsToken_eq {data : List Char}
    (hdata : json.dumps (.dict (event.envelope json.num)) = some data) :
    event.tellsToken json = (isToken event || mentionsDelta json event) := by
  rw [PublishedEvent.tellsToken, mentionsDelta, isToken, hdata]
  simp only [tellsDelta, List.mem_cons, List.not_mem_nil, or_false, String.toList_inj]

/-- No event before the first token event, nor any at all where there is none, has the letters in
its JSON. -/
def QuietUntilToken (json : FrameJson Float) (events : List (PublishedEvent Float)) : Prop :=
  ∀ event ∈ events.takeWhile fun event => !isToken event, mentionsDelta json event = false

variable {p : PublishedEvent Float → Bool} {elapsed : Nat → Float} {tail : Nat}

theorem firstArrival_eq_none_or (p : PublishedEvent Float → Bool) (elapsed : Nat → Float)
    (tail : Nat) (events : List (PublishedEvent Float)) :
    firstArrival elapsed p tail events = none ∨
      ∃ left < 4 * events.length + tail, firstArrival elapsed p tail events =
      some (elapsed left) := by
  induction events with
  | nil => exact Or.inl rfl
  | cons event later ih =>
      rw [firstArrival, List.length_cons]
      split_ifs with hp
      · exact Or.inr ⟨_, by omega, rfl⟩
      · refine ih.imp id ?_
        rintro ⟨left, hleft, htime⟩
        exact ⟨left, by omega, htime⟩

theorem firstArrival_eq_iff [Nontrivial Float] {q : PublishedEvent Float → Bool}
    (himp : ∀ event, p event → q event) :
    (∀ elapsed : Nat → Float, firstArrival elapsed q tail events = firstArrival elapsed p tail
      events) ↔ ∀ event ∈ events.takeWhile fun event => !p event, q event = false := by
  induction events with
  | nil => simp [firstArrival]
  | cons event later ih =>
      cases hp : p event with
      | true => simp [firstArrival, hp, himp event hp]
      | false =>
          rw [List.takeWhile_cons_of_pos (by simp [hp]), List.forall_mem_cons, ← ih]
          simp only [firstArrival, hp, if_neg Bool.false_ne_true]
          cases hq : q event with
          | false => simp
          | true =>
              -- a clock that tells this event from all later ones
              obtain ⟨early, late, hne⟩ := exists_pair_ne Float
              refine iff_of_false (fun h => ?_) fun h => absurd h.1 (by simp)
              have hsame := h fun left => if left = 4 * later.length + tail then early else late
              rw [if_pos rfl, if_pos rfl] at hsame
              rcases firstArrival_eq_none_or p (fun left => if left = 4 * later.length + tail then
                early else late) tail later with hnone | ⟨left, hleft, htime⟩
              · rw [hnone] at hsame
                cases hsame
              · rw [htime, if_neg hleft.ne] at hsame
                exact hne (Option.some.inj hsame)

theorem firstArrival_congr {q : PublishedEvent Float → Bool}
    (h : ∀ event ∈ events, p event = q event) :
    firstArrival elapsed p tail events = firstArrival elapsed q tail events := by
  induction events with
  | nil => rfl
  | cons event later ih =>
      obtain ⟨hevent, hlater⟩ := List.forall_mem_cons.mp h
      rw [firstArrival, firstArrival, hevent, ih hlater]

end Arrivals

section Streams

def Untimed (payload : Dict Float) : Prop :=
  payload.lookup "telemetry" = none ∨
    ∃ telemetry, payload.lookup "telemetry" = some (.dict telemetry) ∧
      (telemetry.lookup "ttft_ms").getD .none = .none

/-- On every clock the replayer returns the arrival of the first token event, or none. -/
def MeasuresFirstToken (json : FrameJson Float) (text : List Char) (tail : Nat)
    (events : List (PublishedEvent Float)) : Prop :=
  ∀ elapsed, ∃ outcome, awaitRunCompletionSse json elapsed text = .ok outcome ∧
    outcome.serverTtft = firstArrival elapsed isToken tail events

theorem outcomeOf_untimed {payload : Dict Float} (h : Untimed payload) (ttft : Option Float)
    (eventType : List Char) :
    ∃ outcome, outcomeOf json ttft eventType payload = .ok outcome ∧ outcome.serverTtft = ttft := by
  rcases h with hmissing | ⟨telemetry, htelemetry, hnull⟩
  · unfold outcomeOf
    simp only [hmissing, Option.getD_none, PyValue.get, List.lookup_nil, serverTtftOf, bind,
      Except.bind, pure, Except.pure]
    exact ⟨_, rfl, rfl⟩
  · unfold outcomeOf
    simp only [htelemetry, Option.getD_some, PyValue.get, hnull, serverTtftOf, bind, Except.bind,
      pure, Except.pure]
    exact ⟨_, rfl, rfl⟩

theorem exists_dumps_of_wire {text : List Char} (hwire : wireText json events = some text)
    (hevent : event ∈ events) :
    ∃ data, json.dumps (.dict (event.envelope json.num)) = some data := by
  induction events generalizing text with
  | nil => exact absurd hevent List.not_mem_nil
  | cons first later ih =>
      simp only [wireText, Option.bind_eq_bind, Option.bind_eq_some_iff, PublishedEvent.toSse,
        Option.map_eq_some_iff] at hwire
      obtain ⟨frame, ⟨data, hdata, -⟩, rest, hrest, -⟩ := hwire
      rcases List.mem_cons.mp hevent with rfl | hlater
      · exact ⟨data, hdata⟩
      · exact ih hrest hlater

/-- **The first token.** Of a stream whose last event leaves the time to the reader, the reader
measures the first token on every clock exactly when it is quiet until then. -/
theorem first_token_measured_iff [Nontrivial Float] (hlawful : json.Lawful)
    (hearlier : ∀ event ∈ events, event.eventType.endsRun = false)
    (hlast : last.eventType.endsRun = true)
    (huntimed : Untimed last.payload) {before frame : List Char}
    (hwire : wireText json events = some before)
    (hframe : last.toSse json = some frame) (rest : List Char) :
    MeasuresFirstToken json (before ++ (frame ++ rest)) (splitLines rest).length
      (events ++ [last]) ↔ QuietUntilToken json (events ++ [last]) := by
  have htells : ∀ event ∈ events ++ [last],
      event.tellsToken json = (isToken event || mentionsDelta json event) := by
    intro event hevent
    rcases List.mem_append.mp hevent with hevent | hevent
    · obtain ⟨data, hdata⟩ := exists_dumps_of_wire hwire hevent
      exact tellsToken_eq hdata
    · obtain ⟨data, hdata, -⟩ := Option.map_eq_some_iff.mp hframe
      rw [List.mem_singleton.mp hevent]
      exact tellsToken_eq hdata
  have hread (elapsed : Nat → Float) :=
    awaitRunCompletionSse_wire hlawful hearlier hlast hwire hframe elapsed rest
  have htimes : MeasuresFirstToken json (before ++ (frame ++ rest)) (splitLines rest).length
      (events ++ [last]) ↔ ∀ elapsed : Nat → Float,
        firstArrival elapsed (fun event => isToken event || mentionsDelta json event)
            (splitLines rest).length (events ++ [last]) =
          firstArrival elapsed isToken (splitLines rest).length (events ++ [last]) := by
    refine forall_congr' fun elapsed => ?_
    obtain ⟨outcome, houtcome, httft⟩ := @outcomeOf_untimed _ json _ huntimed
      (firstArrival elapsed (PublishedEvent.tellsToken json) (splitLines rest).length
        (events ++ [last]))
      last.eventType.text.toList
    rw [hread elapsed, houtcome, ← firstArrival_congr htells, ← httft]
    exact ⟨fun ⟨_, hok, htime⟩ => Except.ok.inj hok ▸ htime, fun htime => ⟨outcome, rfl, htime⟩⟩
  rw [htimes, firstArrival_eq_iff fun event h => by simp [h]]
  refine forall₂_congr fun event hevent => ?_
  have hearly : isToken event = false := by simpa using List.mem_takeWhile_imp hevent
  rw [hearly, Bool.false_or]

end Streams

section Samples

open Classical in
noncomputable def jsonFrames (num : NumOps Float) (floats : JsonFloats Float) :
    FrameJson Float where
  num
  dumps value := if IsJson floats value then jsonDumps floats value else none
  loads text := match jsonLoads floats text with
    | some value => .ok value
    | none => .error .valueError
  float
    | .float x => .ok x
    | .int n => match num.ofInt n with
      | some x => .ok x
      | none => .error .overflowError
    | .str _ => .error .valueError
    | _ => .error .typeError

theorem not_isLineBreak_of_plain {c : Char} (h : 32 ≤ c.toNat ∧ c.toNat ≤ 126) :
    isLineBreak c = false := by
  simp only [isLineBreak, decide_eq_false_iff_not]
  omega

theorem jsonFrames_lawful {num : NumOps Float} {floats : JsonFloats Float}
    (hfloats : floats.Lawful) : (jsonFrames num floats).Lawful := by
  have hreads {value : PyValue Float} {text : List Char} (h : (jsonFrames num floats).dumps value =
    some text) :
      Reads floats text value ∧ jsonLoads floats text = some value := by
    simp only [jsonFrames, Option.ite_none_right_eq_some] at h
    obtain ⟨hjson, htext⟩ := h
    obtain ⟨written, hwritten⟩ := exists_reads hfloats hjson
    obtain ⟨read, hread, -, hloads⟩ := loads_dumps hfloats hjson
    obtain rfl := Option.some.inj (htext.symm.trans hwritten.dumps)
    obtain rfl := Option.some.inj (htext.symm.trans hread)
    exact ⟨hwritten, hloads⟩
  refine ⟨fun value text h => ?_, fun value text h c hc => ?_, fun value text h => ?_⟩
  · obtain ⟨c, tail, rfl, -⟩ := (hreads h).1.starts
    exact List.cons_ne_nil c tail
  · exact not_isLineBreak_of_plain ((hreads h).1.plain c hc)
  · simp only [jsonFrames, (hreads h).2]

def noFloats : JsonFloats ℚ where
  write _ := []
  read _ := 0
  isFinite _ := false

noncomputable def sampleJson : FrameJson ℚ := jsonFrames (.exact ℚ) noFloats

theorem sampleJson_lawful : sampleJson.Lawful := jsonFrames_lawful ⟨nofun, nofun⟩

def sampleEvent (eventType : SseEventType) (sequence : Int) (payload : Dict ℚ) :
    PublishedEvent ℚ where
  eventId := openingEvent.eventId
  eventType
  runId := "run_1"
  conversationId := .str "conv_1"
  sequence
  payload
  timestamp := "2026-01-01T00:00:00+00:00"

def toolEvent (label : String) : PublishedEvent ℚ :=
  sampleEvent (.loop .toolRequested) 1 [("tool_name", .str "compare_cohorts"),
    ("label", .str label)]

def answerEvent : PublishedEvent ℚ := sampleEvent (.loop .answerDelta) 2 [("delta", .str "Fares")]

def completedEvent : PublishedEvent ℚ :=
  sampleEvent (.loop .runCompleted) 3 [("status", .str "completed")]

theorem untimed_completedEvent : Untimed completedEvent.payload := Or.inl rfl

theorem isJson_sampleEvent {eventType : SseEventType} {sequence : Int} {payload : Dict ℚ}
    (hsequence : Printable sequence) (hpayload : IsJson noFloats (.dict payload)) :
    IsJson noFloats (.dict ((sampleEvent eventType sequence payload).envelope (.exact ℚ))) := by
  have hkeys : ["event_id", "event_type", "run_id", "conversation_id", "sequence", "step_id",
    "llm_call_id", "tool_call_id", "query_id", "timestamp", "payload"].Nodup := by decide
  refine .dict hkeys ?_
  simp only [PublishedEvent.envelope, sampleEvent, orNone, List.append_nil, List.forall_mem_cons]
  exact ⟨.str _, .str _, .str _, .str _, .int hsequence, .none, .none, .none, .none, .str _,
    hpayload, List.forall_mem_nil _⟩

theorem dumps_sampleEvent {eventType : SseEventType} {sequence : Int} {payload : Dict ℚ}
    (hsequence : Printable sequence) (hpayload : IsJson noFloats (.dict payload)) :
    sampleJson.dumps (.dict ((sampleEvent eventType sequence payload).envelope sampleJson.num)) =
      jsonDumps noFloats (.dict ((sampleEvent eventType sequence payload).envelope (.exact ℚ))) :=
  if_pos (isJson_sampleEvent hsequence hpayload)

theorem isJson_texts {entries : List (String × String)} (hkeys : (entries.map Prod.fst).Nodup) :
    IsJson noFloats (.dict (entries.map fun entry => (entry.1, .str entry.2))) := by
  refine .dict (by simpa [Function.comp_def] using hkeys) fun entry hentry => ?_
  obtain ⟨entry, -, rfl⟩ := List.mem_map.mp hentry
  exact .str entry.2

theorem sample_written (label : String) : ∃ before frame,
    wireText sampleJson [toolEvent label, answerEvent] = some before ∧
      completedEvent.toSse sampleJson = some frame := by
  have hjson (entries : List (String × String)) (hkeys : (entries.map Prod.fst).Nodup)
      (eventType : SseEventType)
      (sequence : Int) (hsequence : Printable sequence) : ∃ frame, (sampleEvent eventType sequence
        (entries.map fun entry => (entry.1, .str entry.2))).toSse sampleJson = some frame := by
    have hpayload := isJson_texts hkeys
    have hlawful : noFloats.Lawful := ⟨nofun, nofun⟩
    obtain ⟨data, hdata, -⟩ := loads_dumps hlawful (isJson_sampleEvent hsequence hpayload)
    exact ⟨_, by rw [PublishedEvent.toSse, dumps_sampleEvent hsequence hpayload, hdata]; rfl⟩
  obtain ⟨tool, htool⟩ := hjson [("tool_name", "compare_cohorts"), ("label", label)] (by simp)
    (.loop .toolRequested) 1 (by decide)
  obtain ⟨answer, hanswer⟩ :=
    hjson [("delta", "Fares")] (by simp) (.loop .answerDelta) 2 (by decide)
  obtain ⟨frame, hframe⟩ :=
    hjson [("status", "completed")] (by simp) (.loop .runCompleted) 3 (by decide)
  refine ⟨tool ++ (answer ++ []), frame, ?_, hframe⟩
  have htool' : (toolEvent label).toSse sampleJson = some tool := htool
  have hanswer' : answerEvent.toSse sampleJson = some answer := hanswer
  rw [wireText, wireText, wireText, htool', hanswer']
  rfl

theorem mentionsDelta_toolEvent {label : String} {data : List Char}
    (hdata : jsonDumps noFloats (.dict ((toolEvent label).envelope (.exact ℚ))) = some data) :
    mentionsDelta sampleJson (toolEvent label) = contains "delta".toList data := by
  have hpayload : IsJson noFloats (.dict (toolEvent label).payload) :=
    @isJson_texts [("tool_name", "compare_cohorts"), ("label", label)] (by simp)
  have hdumps : sampleJson.dumps (.dict ((toolEvent label).envelope sampleJson.num)) = some data :=
    (dumps_sampleEvent (by decide) hpayload).trans hdata
  rw [mentionsDelta, hdumps]

theorem running_sample (label : String) :
    ∀ event ∈ [toolEvent label, answerEvent], event.eventType.endsRun = false := by
  simp [toolEvent, answerEvent, sampleEvent, SseEventType.endsRun, RunEventType.endsWith]

theorem first_token_measured_iff_sample : ∃ before frame,
    wireText sampleJson [toolEvent "fares", answerEvent] = some before ∧
      completedEvent.toSse sampleJson = some frame ∧
      (MeasuresFirstToken sampleJson (before ++ (frame ++ [])) 0 [toolEvent "fares", answerEvent,
      completedEvent] ↔
        QuietUntilToken sampleJson [toolEvent "fares", answerEvent, completedEvent]) := by
  obtain ⟨before, frame, hwire, hframe⟩ := sample_written "fares"
  exact ⟨before, frame, hwire, hframe,
    first_token_measured_iff sampleJson_lawful (running_sample "fares") rfl
    untimed_completedEvent hwire hframe []⟩

def sampleClock (left : Nat) : ℚ := 300 - 25 * left

/-- The label of a chart is taken for the first token, 100 milliseconds before the answer begins. -/
theorem label_taken_for_token : ∃ before frame,
    wireText sampleJson [toolEvent "fare delta", answerEvent] = some before ∧
      completedEvent.toSse sampleJson = some frame ∧
      (∃ outcome, awaitRunCompletionSse sampleJson sampleClock (before ++ (frame ++ [])) =
      .ok outcome ∧
        outcome.serverTtft = some 100) ∧
      firstArrival sampleClock isToken 0 [toolEvent "fare delta", answerEvent, completedEvent] =
      some 200 ∧
      ¬ MeasuresFirstToken sampleJson (before ++ (frame ++ [])) 0
        [toolEvent "fare delta", answerEvent, completedEvent] := by
  obtain ⟨before, frame, hwire, hframe⟩ := sample_written "fare delta"
  have hmentions : (jsonDumps noFloats (.dict ((toolEvent "fare delta").envelope (.exact ℚ)))).any
      (contains "delta".toList) = true := by decide +kernel
  obtain ⟨data, hdata, hcontains⟩ := (Option.any_eq_true ..).mp hmentions
  have htells : (toolEvent "fare delta").tellsToken sampleJson = true := by
    have hdumps : sampleJson.dumps (.dict ((toolEvent "fare delta").envelope sampleJson.num)) =
        some data :=
      (dumps_sampleEvent (by decide) (@isJson_texts [("tool_name", "compare_cohorts"),
        ("label", "fare delta")] (by simp))).trans hdata
    rw [tellsToken_eq hdumps, mentionsDelta_toolEvent hdata, hcontains, Bool.or_true]
  have hread := awaitRunCompletionSse_wire sampleJson_lawful (running_sample "fare delta") rfl hwire
    hframe sampleClock []
  have hreported : firstArrival sampleClock (PublishedEvent.tellsToken sampleJson)
      (splitLines []).length
      ([toolEvent "fare delta", answerEvent] ++ [completedEvent]) = some 100 := by
    rw [List.cons_append, firstArrival, htells, if_pos rfl]
    exact congrArg some (by decide +kernel)
  have hfirst : firstArrival sampleClock isToken 0 [toolEvent "fare delta", answerEvent,
    completedEvent] =
      some 200 := by decide +kernel
  obtain ⟨outcome, houtcome, httft⟩ :=
    @outcomeOf_untimed _ sampleJson _ untimed_completedEvent (some 100)
    completedEvent.eventType.text.toList
  rw [hreported, houtcome] at hread
  refine ⟨before, frame, hwire, hframe, ⟨outcome, hread, httft⟩, hfirst, fun h => ?_⟩
  obtain ⟨other, hother, htime⟩ := h sampleClock
  obtain rfl := Except.ok.inj (hread.symm.trans hother)
  rw [httft, hfirst] at htime
  exact absurd htime (by decide +kernel)

end Samples

end AiAnalytics.Benchmarks
