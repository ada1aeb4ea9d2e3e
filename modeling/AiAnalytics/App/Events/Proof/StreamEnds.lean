import AiAnalytics.Benchmarks.AwaitRun
import AiAnalytics.Evals.ReadEvents
import Mathlib.Data.List.TakeWhile

/-!
# The readers of a run's events see its end

Both readers of an event stream come to the frame of the terminal event, and both pass over the
frames before it. The one that does not know that a run can exceed its budget passes over that frame
too. -/

namespace AiAnalytics.App.Events

open Lib App.Loop

variable {Float : Type} {json : FrameJson Float} {event : PublishedEvent Float}
  {data line rest text : List Char} {lines : List (List Char)} {c : Char}

section Texts

theorem strip_ne_nil (hc : c ∈ text) (hplain : isSpace c = false) : strip text ≠ [] := by
  intro hnil
  have htail : (text.dropWhile isSpace).reverse.dropWhile isSpace = [] :=
    List.reverse_eq_nil_iff.mp hnil
  rw [List.dropWhile_eq_nil_iff] at htail
  have hall : text.dropWhile isSpace = [] := by
    by_contra hne
    have hhead := List.head_dropWhile_not isSpace hne
    rw [htail _ (List.mem_reverse.mpr (List.head_mem hne))] at hhead
    exact Bool.noConfusion hhead
  have hspace := List.dropWhile_eq_nil_iff.mp hall c hc
  rw [hplain] at hspace
  exact Bool.noConfusion hspace

theorem oneLine_eventId (id : EventId) : ∀ c ∈ id.text.toList, isLineBreak c = false := by
  have hdigit : ∀ digit : Fin 16, isLineBreak (Nat.digitChar digit.val) = false := by decide
  have hlabel : "evt_".toList.all (fun c => !isLineBreak c) = true := by decide
  intro c hc
  rw [EventId.text, String.toList_append] at hc
  rcases List.mem_append.mp hc with hc | hc
  · simpa using List.all_eq_true.mp hlabel c hc
  · rw [String.toList_ofList] at hc
    obtain ⟨digit, -, rfl⟩ := List.mem_map.mp hc
    exact hdigit digit

def nameChecks (eventType : SseEventType) : Bool :=
  let name := eventType.text.toList
  name.all (fun c => !isLineBreak c) && decide (name ≠ []) && decide (strip (' ' :: name) = name) &&
    Benchmarks.isTerminal name == eventType.endsRun &&
    decide (name ∈ Evals.terminalTypes.map String.toList) ==
      (eventType.endsRun && decide (eventType ≠ .loop .runBudgetExceeded))

theorem nameChecks_all (eventType : SseEventType) : nameChecks eventType = true := by
  cases eventType with
  | loop eventType => cases eventType <;> decide +kernel
  | step stepType =>
      cases stepType with
      | crewai role => cases role <;> decide +kernel
      | _ => decide +kernel
  | _ => decide +kernel

variable (eventType : SseEventType)

theorem nameChecks_spec :
    (∀ c ∈ eventType.text.toList, isLineBreak c = false) ∧ eventType.text.toList ≠ [] ∧
      strip (' ' :: eventType.text.toList) = eventType.text.toList ∧
      Benchmarks.isTerminal eventType.text.toList = eventType.endsRun ∧
      (eventType.text.toList ∈ Evals.terminalTypes.map String.toList ↔
        eventType.endsRun = true ∧ eventType ≠ .loop .runBudgetExceeded) := by
  have hall := nameChecks_all eventType
  simp only [nameChecks, Bool.and_eq_true, List.all_eq_true, decide_eq_true_eq, beq_iff_eq,
    Bool.not_eq_true'] at hall
  obtain ⟨⟨⟨⟨hline, hname⟩, hstrip⟩, hends⟩, hknown⟩ := hall
  refine ⟨hline, hname, hstrip, hends, ?_⟩
  rw [← @decide_eq_true_iff (eventType.text.toList ∈ _), hknown]
  simp

end Texts

section Frames

theorem oneLine_frameLines (hdata : ∀ c ∈ data, isLineBreak c = false)
    (hline : line ∈ event.frameLines data) : ∀ c ∈ line, isLineBreak c = false := by
  have hname := (nameChecks_spec event.eventType).1
  have hlabel {label text : List Char} (hlabel : label.all (fun c => !isLineBreak c) = true)
      (htext : ∀ c ∈ text, isLineBreak c = false) : ∀ c ∈ label ++ text, isLineBreak c = false := by
    intro c hc
    rcases List.mem_append.mp hc with hc | hc
    · simpa using List.all_eq_true.mp hlabel c hc
    · exact htext c hc
  rw [PublishedEvent.frameLines] at hline
  simp only [List.mem_cons, List.not_mem_nil, or_false] at hline
  rcases hline with rfl | rfl | rfl | rfl
  · exact hlabel (by decide) (oneLine_eventId event.eventId)
  · exact hlabel (by decide) hname
  · exact hlabel (by decide) hdata
  · simp

theorem splitLines_frame (hlines : ∀ line ∈ lines, ∀ c ∈ line, isLineBreak c = false)
    (rest : List Char) :
    splitLines (lines.flatMap (fun line => line ++ ['\n']) ++ rest) = lines ++ splitLines rest := by
  induction lines with
  | nil => rfl
  | cons line lines ih =>
      have hrest := ih fun other hother => hlines other (List.mem_cons_of_mem _ hother)
      rw [List.flatMap_cons, List.append_assoc, List.append_assoc, List.singleton_append,
        splitLines_line (hlines line List.mem_cons_self), hrest, List.cons_append]

theorem ne_newline (hc : isLineBreak c = false) : c ≠ '\n' ∧ c ≠ '\r' := by
  constructor <;> (rintro rfl; exact absurd hc (by decide))

theorem readlines_line (hline : ∀ c ∈ line, isLineBreak c = false) (rest : List Char) :
    Evals.readlines (line ++ '\n' :: rest) = (line ++ ['\n']) :: Evals.readlines rest := by
  induction line with
  | nil => simp [Evals.readlines]
  | cons c line ih =>
      have hrest := ih fun other hother => hline other (List.mem_cons_of_mem _ hother)
      rw [List.cons_append, Evals.readlines, if_neg (ne_newline (hline c List.mem_cons_self)).1,
        hrest]
      rfl

theorem readlines_frame (hlines : ∀ line ∈ lines, ∀ c ∈ line, isLineBreak c = false)
    (rest : List Char) : Evals.readlines (lines.flatMap (fun line => line ++ ['\n']) ++ rest) =
      lines.map (fun line => line ++ ['\n']) ++ Evals.readlines rest := by
  induction lines with
  | nil => rfl
  | cons line lines ih =>
      have hrest := ih fun other hother => hlines other (List.mem_cons_of_mem _ hother)
      rw [List.flatMap_cons, List.append_assoc, List.append_assoc, List.singleton_append,
        readlines_line (hlines line List.mem_cons_self), hrest, List.map_cons, List.cons_append]

theorem stripLineEnd_line (hline : ∀ c ∈ line, isLineBreak c = false) :
    Evals.stripLineEnd (line ++ ['\n']) = line := by
  have hkept : line.reverse.dropWhile (fun c => decide (c = '\r' ∨ c = '\n')) = line.reverse := by
    rw [List.dropWhile_eq_self_iff]
    intro hpos
    have hmem : line.reverse[0] ∈ line := List.mem_reverse.mp (List.getElem_mem hpos)
    obtain ⟨hfeed, hreturn⟩ := ne_newline (hline _ hmem)
    simp only [decide_eq_true_eq]
    rintro (h | h)
    · exact hreturn h
    · exact hfeed h
  have hends : (line ++ ['\n']).reverse = '\n' :: line.reverse := by simp
  rw [Evals.stripLineEnd, hends, List.dropWhile_cons_of_pos (by simp), hkept, List.reverse_reverse]

end Frames

section Driver

theorem readFrames_frame (hdata : ∀ c ∈ data, isLineBreak c = false) (raw : List Char)
    (rest : List (List Char)) :
    Evals.readFrames raw [] ((event.frameLines data).map (fun line => line ++ ['\n']) ++ rest) =
      if event.eventType.text.toList ∈ Evals.terminalTypes.map String.toList then
        (raw ++ (event.frameLines data).flatMap (fun line => line ++ ['\n']),
        some event.eventType.text.toList)
      else Evals.readFrames (raw ++ (event.frameLines data).flatMap (fun line => line ++ ['\n']))
      [] rest := by
  have hlines : ∀ line ∈ event.frameLines data, ∀ c ∈ line, isLineBreak c = false :=
    fun line hline => oneLine_frameLines hdata hline
  obtain ⟨-, -, hstrip, -, -⟩ := nameChecks_spec event.eventType
  rw [PublishedEvent.frameLines] at hlines ⊢
  simp only [List.forall_mem_cons] at hlines
  obtain ⟨hid, htype, hvalue, -⟩ := hlines
  have hevent : Evals.frameEvent ["id: ".toList ++ event.eventId.text.toList,
      "event: ".toList ++ event.eventType.text.toList, "data: ".toList ++ data] =
        event.eventType.text.toList := hstrip
  have hblank : strip (([] : List Char) ++ ['\n']) = [] := by decide
  simp only [List.map_cons, List.map_nil, List.cons_append, List.nil_append, List.flatMap_cons,
    List.flatMap_nil, List.append_nil] at hblank ⊢
  rw [Evals.readFrames, if_pos (strip_ne_nil (c := 'i') (by simp) (by decide)), Evals.readFrames,
    if_pos (strip_ne_nil (c := 'e') (by simp) (by decide)), Evals.readFrames,
    if_pos (strip_ne_nil (c := 'd') (by simp) (by decide)), Evals.readFrames,
    if_neg (not_not.mpr hblank)]
  have hframe : ([] : List (List Char)) ++
      [Evals.stripLineEnd ("id: ".toList ++ event.eventId.text.toList ++ ['\n'])] ++
      [Evals.stripLineEnd ("event: ".toList ++ event.eventType.text.toList ++ ['\n'])] ++
      [Evals.stripLineEnd ("data: ".toList ++ data ++ ['\n'])] =
        ["id: ".toList ++ event.eventId.text.toList,
        "event: ".toList ++ event.eventType.text.toList, "data: ".toList ++ data] := by
    rw [stripLineEnd_line hid, stripLineEnd_line htype, stripLineEnd_line hvalue]
    rfl
  rw [hframe, hevent]
  simp only [List.append_assoc]

theorem readFrames_wire {events : List (PublishedEvent Float)} (hlawful : json.Lawful)
    (hwire : wireText json events = some text)
    (hearlier : ∀ event ∈ events, event.eventType.endsRun = false)
    (raw rest : List Char) :
    Evals.readFrames raw [] (Evals.readlines (text ++ rest)) =
      Evals.readFrames (raw ++ text) [] (Evals.readlines rest) := by
  induction events generalizing text raw with
  | nil =>
      obtain rfl : [] = text := Option.some.inj hwire
      rw [List.append_nil, List.nil_append]
  | cons event events ih =>
      simp only [wireText, Option.bind_eq_bind, Option.bind_eq_some_iff, PublishedEvent.toSse,
        Option.map_eq_some_iff, Option.some.injEq] at hwire
      obtain ⟨frame, ⟨data, hdata, rfl⟩, later, hlater, rfl⟩ := hwire
      have hline := hlawful.oneLine _ _ hdata
      obtain ⟨-, -, -, -, hknown⟩ := nameChecks_spec event.eventType
      have hunknown : event.eventType.text.toList ∉ Evals.terminalTypes.map String.toList := by
        rw [hknown, hearlier event List.mem_cons_self]
        simp
      rw [List.append_assoc, readlines_frame fun line => oneLine_frameLines hline,
        readFrames_frame hline,
        if_neg hunknown, ih hlater fun other hother =>
          hearlier other (List.mem_cons_of_mem _ hother),
        List.append_assoc]

end Driver

section Replayer

open Benchmarks

variable (elapsed : Nat → Float) (clientTtft : Option Float)

def PublishedEvent.tellsToken (json : FrameJson Float) (event : PublishedEvent Float) : Bool :=
  match json.dumps (.dict (event.envelope json.num)) with
  | some data => tellsDelta event.eventType.text.toList data event.payload
  | none => false

def firstArrival (p : PublishedEvent Float → Bool) (tail : Nat) :
    List (PublishedEvent Float) → Option Float
  | [] => none
  | event :: later =>
    if p event then some (elapsed (4 * later.length + tail)) else firstArrival p tail later

theorem payloadOf_envelope (hlawful : json.Lawful)
    (hdata : json.dumps (.dict (event.envelope json.num)) = some data) :
    payloadOf (rawData json data) = event.payload := by
  rw [rawData, hlawful.loads_dumps _ _ hdata]
  rfl

theorem firstArrival_concat (p : PublishedEvent Float → Bool) (tail : Nat)
    (events : List (PublishedEvent Float)) (last : PublishedEvent Float) :
    firstArrival elapsed p tail (events ++ [last]) =
      (firstArrival elapsed p (4 + tail) events).or (if p last then some (elapsed tail)
      else none) := by
  induction events with
  | nil => simp [firstArrival]
  | cons event events ih =>
      have hleft : 4 * (events ++ [last]).length + tail = 4 * events.length + (4 + tail) := by
        rw [List.length_append, List.length_singleton]
        omega
      rw [List.cons_append, firstArrival, firstArrival, ih, hleft]
      split_ifs <;> rfl

theorem length_splitLines_wire {events : List (PublishedEvent Float)} (hlawful : json.Lawful)
    (hwire : wireText json events = some text) (rest : List Char) :
    (splitLines (text ++ rest)).length = 4 * events.length + (splitLines rest).length := by
  induction events generalizing text with
  | nil =>
      obtain rfl : [] = text := Option.some.inj hwire
      simp
  | cons event events ih =>
      simp only [wireText, Option.bind_eq_bind, Option.bind_eq_some_iff, PublishedEvent.toSse,
        Option.map_eq_some_iff, Option.some.injEq] at hwire
      obtain ⟨frame, ⟨data, hdata, rfl⟩, later, hlater, rfl⟩ := hwire
      rw [List.append_assoc, splitLines_frame fun line =>
        oneLine_frameLines (hlawful.oneLine _ _ hdata),
        List.length_append, ih hlater, List.length_cons]
      have hframe : (event.frameLines data).length = 4 := rfl
      omega

theorem awaitLines_frame (hlawful : json.Lawful)
    (hdata : json.dumps (.dict (event.envelope json.num)) = some data) (rest : List (List Char)) :
    awaitLines json elapsed { clientTtft } (event.frameLines data ++ rest) =
      if event.eventType.endsRun then
        outcomeOf json (clientTtft.or (if event.tellsToken json then some (elapsed rest.length)
        else none))
          event.eventType.text.toList event.payload
      else awaitLines json elapsed
        { clientTtft := clientTtft.or
            (if event.tellsToken json then some (elapsed rest.length) else none) }
        rest := by
  obtain ⟨-, hname, hstrip, hends, -⟩ := nameChecks_spec event.eventType
  let state : FrameState Float :=
    { currentEventType := event.eventType.text.toList, currentData := data, clientTtft }
  have hid : ({ clientTtft } : FrameState Float).readLine
      ("id: ".toList ++ event.eventId.text.toList) =
      { clientTtft } := rfl
  have htype : ({ clientTtft } : FrameState Float).readLine
      ("event: ".toList ++ event.eventType.text.toList) =
      { currentEventType := event.eventType.text.toList, clientTtft } := by
    have hread : ({ clientTtft } : FrameState Float).readLine
      ("event: ".toList ++ event.eventType.text.toList) =
      { currentEventType := strip (' ' :: event.eventType.text.toList), clientTtft } := rfl
    rw [hread, hstrip]
  have hvalue : ({ currentEventType := event.eventType.text.toList, clientTtft } :
    FrameState Float).readLine
      ("data: ".toList ++ data) = state := rfl
  have hblank : ¬ strip ([] : List Char) ≠ [] := by decide
  have hfull : ¬ (state.currentEventType = [] ∨ state.currentData = []) :=
    not_or.mpr ⟨hname, hlawful.ne_nil _ _ hdata⟩
  have httft : state.ttftAfter (elapsed rest.length) event.payload =
      clientTtft.or (if event.tellsToken json then some (elapsed rest.length) else none) := by
    have htells : event.tellsToken json = tellsDelta event.eventType.text.toList data
        event.payload := by
      rw [PublishedEvent.tellsToken, hdata]
    rw [htells]
    cases clientTtft <;> rfl
  rw [← httft, PublishedEvent.frameLines]
  simp only [List.cons_append, List.nil_append]
  rw [awaitLines, if_pos (strip_ne_nil (c := 'i') (by simp) (by decide)), hid, awaitLines,
    if_pos (strip_ne_nil (c := 'e') (by simp) (by decide)), htype, awaitLines,
    if_pos (strip_ne_nil (c := 'd') (by simp) (by decide)), hvalue, awaitLines, if_neg hblank,
    if_neg hfull,
    payloadOf_envelope hlawful hdata]
  exact if_congr (by rw [← hends]) rfl rfl

theorem awaitLines_wire {events : List (PublishedEvent Float)} (hlawful : json.Lawful)
    (hwire : wireText json events = some text)
    (hearlier : ∀ event ∈ events, event.eventType.endsRun = false)
    (rest : List Char) :
    awaitLines json elapsed { clientTtft } (splitLines (text ++ rest)) =
      awaitLines json elapsed
        { clientTtft := clientTtft.or
            (firstArrival elapsed (PublishedEvent.tellsToken json) (splitLines rest).length
              events) }
        (splitLines rest) := by
  induction events generalizing text clientTtft with
  | nil =>
      obtain rfl : [] = text := Option.some.inj hwire
      rw [List.nil_append, firstArrival, Option.or_none]
  | cons event events ih =>
      simp only [wireText, Option.bind_eq_bind, Option.bind_eq_some_iff, PublishedEvent.toSse,
        Option.map_eq_some_iff, Option.some.injEq] at hwire
      obtain ⟨frame, ⟨data, hdata, rfl⟩, later, hlater, rfl⟩ := hwire
      rw [List.append_assoc, splitLines_frame fun line =>
        oneLine_frameLines (hlawful.oneLine _ _ hdata),
        awaitLines_frame elapsed clientTtft hlawful hdata, hearlier event List.mem_cons_self,
        if_neg Bool.false_ne_true, ih _ hlater fun other hother =>
          hearlier other (List.mem_cons_of_mem _ hother),
        length_splitLines_wire hlawful hlater, Option.or_assoc, firstArrival]
      cases event.tellsToken json with
      | true => rw [if_pos rfl, if_pos rfl, Option.some_or]
      | false => rw [if_neg Bool.false_ne_true, if_neg Bool.false_ne_true, Option.none_or]

end Replayer

section Ends

open Benchmarks

/-- The event that a run publishes at its end: its payload has the token counts, and telemetry that
does not say when the first token came. -/
structure PublishedEvent.EndsWith (event : PublishedEvent Float) (status : RunStatus)
    (tokensIn tokensOut : PyValue Float) : Prop where
  eventType : ∃ eventType, event.eventType = .loop eventType ∧ eventType.endsWith = some status
  tokensIn : event.payload.lookup "input_tokens" = some tokensIn
  tokensOut : event.payload.lookup "output_tokens" = some tokensOut
  telemetry : ∃ telemetry, event.payload.lookup "telemetry" = some (.dict telemetry) ∧
    telemetry.lookup "ttft_ms" = none

theorem endsWith_terminalRunPayload {status : RunStatus}
    (hstatus : (terminalEvent status).endsWith = some status)
    (htype : event.eventType = .loop (terminalEvent status)) (tracker : BudgetTracker Float)
    (code : Option String) (state : LoopState Float) (latency : Int) (extras : Dict Float)
    (hpayload : event.payload =
      terminalRunPayload status tracker code (telemetry state latency) extras) :
    event.EndsWith status (.int tracker.inputTokens) (.int tracker.outputTokens) where
  eventType := ⟨terminalEvent status, htype, hstatus⟩
  tokensIn := by rw [hpayload]; rfl
  tokensOut := by rw [hpayload]; rfl
  telemetry := ⟨telemetry state latency, by rw [hpayload]; rfl, rfl⟩

theorem lookup_overridden {entries second : Dict Float} {key : String}
    (h : second.lookup key = none) :
    (entries.map fun entry => (entry.1, (second.lookup entry.1).getD entry.2)).lookup key =
      entries.lookup key := by
  induction entries with
  | nil => rfl
  | cons entry entries ih =>
      rw [List.map_cons, List.lookup_cons, List.lookup_cons, ih]
      cases hkey : key == entry.1 with
      | true =>
          rw [← eq_of_beq hkey, h]
          rfl
      | false => rfl

theorem lookup_merged {first second : Dict Float} {key : String} (h : second.lookup key = none) :
    (merged first second).lookup key = first.lookup key := by
  have hrest : (second.filter fun entry => (first.lookup entry.1).isNone).lookup key = none := by
    rw [List.lookup_eq_none_iff] at h ⊢
    exact fun entry hentry => h entry (List.mem_of_mem_filter hentry)
  rw [merged, List.lookup_append, hrest, Option.or_none, lookup_overridden h]

theorem lookup_terminalFacts {run : Run Float} {key : String}
    (h : key ∉ ["reason", "retryable", "error", "provider_error", "tool_error"]) :
    (terminalFacts run).lookup key = none := by
  rw [List.lookup_eq_none_iff]
  intro entry hentry
  obtain ⟨name, hname, hfact⟩ := List.mem_filterMap.mp hentry
  have hsame : entry.1 = name := by
    split at hfact
    · cases hfact
    · cases hfact
    · exact congrArg Prod.fst (Option.some.inj hfact).symm
  rw [bne_iff_ne]
  rintro rfl
  exact h (hsame ▸ hname)

theorem endsWith_rebuiltTerminal {run : Run Float}
    (hstatus : (terminalEvent run.status).endsWith = some run.status) (sequence : Int)
    (state : LoopState Float) (latency : Int)
    (hevent : event.toSseEvent =
      rebuiltTerminal run sequence (telemetry state latency) event.eventId) :
    event.EndsWith run.status (.int run.inputTokens) (.int run.outputTokens) := by
  obtain ⟨facts, hpayload, htokensIn, htokensOut, htelemetry⟩ : ∃ facts,
      event.payload = merged (merged facts (telemetry state latency)) (terminalFacts run) ∧
        facts.lookup "input_tokens" = some (.int run.inputTokens) ∧
        facts.lookup "output_tokens" = some (.int run.outputTokens) ∧
        facts.lookup "telemetry" = some (.dict (telemetry state latency)) :=
    ⟨_, congrArg SseEvent.payload hevent, rfl, rfl, rfl⟩
  have hlookup (key : String) (hmissing : (telemetry state latency).lookup key = none)
      (hfact : key ∉ ["reason", "retryable", "error", "provider_error", "tool_error"]) :
      event.payload.lookup key = facts.lookup key := by
    rw [hpayload, lookup_merged (lookup_terminalFacts hfact), lookup_merged hmissing]
  refine ⟨⟨_, congrArg SseEvent.eventType hevent, hstatus⟩, ?_, ?_, telemetry state latency, ?_,
    rfl⟩
  · exact (hlookup "input_tokens" rfl (by decide)).trans htokensIn
  · exact (hlookup "output_tokens" rfl (by decide)).trans htokensOut
  · exact (hlookup "telemetry" rfl (by decide)).trans htelemetry

theorem statusOf_text {eventType : RunEventType} {status : RunStatus}
    (h : eventType.endsWith = some status) :
    statusOf (SseEventType.loop eventType).text.toList = (statusText status).toList := by
  cases eventType <;> simp only [RunEventType.endsWith, reduceCtorEq, Option.some.injEq] at h <;>
    subst h <;> decide

theorem outcomeOf_endsWith {status : RunStatus} {tokensIn tokensOut : PyValue Float}
    (hends : event.EndsWith status tokensIn tokensOut) (clientTtft : Option Float) :
    ∃ error, outcomeOf json clientTtft event.eventType.text.toList event.payload =
      .ok ⟨(statusText status).toList, tokensIn, tokensOut, clientTtft, error⟩ := by
  obtain ⟨eventType, htype, hstatus⟩ := hends.eventType
  obtain ⟨telemetry, htelemetry, hmissing⟩ := hends.telemetry
  refine ⟨((event.payload.lookup "error").getD .none).orElse json.num
    ((event.payload.lookup "reason").getD .none), ?_⟩
  unfold outcomeOf
  simp only [htelemetry, hends.tokensIn, hends.tokensOut, Option.getD_some, PyValue.get, hmissing,
    Option.getD_none,
    serverTtftOf, htype, statusOf_text hstatus, bind, Except.bind, pure, Except.pure]

theorem awaitRunCompletionSse_wire {events : List (PublishedEvent Float)}
    {last : PublishedEvent Float} (hlawful : json.Lawful)
    (hearlier : ∀ event ∈ events, event.eventType.endsRun = false)
    (hlast : last.eventType.endsRun = true) {before frame : List Char}
    (hwire : wireText json events = some before)
    (hframe : last.toSse json = some frame) (elapsed : Nat → Float) (rest : List Char) :
    awaitRunCompletionSse json elapsed (before ++ (frame ++ rest)) =
      outcomeOf json
        (firstArrival elapsed (PublishedEvent.tellsToken json) (splitLines rest).length
        (events ++ [last]))
        last.eventType.text.toList last.payload := by
  obtain ⟨data, hdata, rfl⟩ := Option.map_eq_some_iff.mp hframe
  have hlines := splitLines_frame (fun line (hline : line ∈ last.frameLines data) =>
    oneLine_frameLines (hlawful.oneLine _ _ hdata) hline) rest
  have hlength :
      (splitLines ((last.frameLines data).flatMap (fun line => line ++ ['\n']) ++ rest)).length =
      4 + (splitLines rest).length := by
    rw [hlines, List.length_append]
    rfl
  rw [awaitRunCompletionSse, awaitLines_wire elapsed none hlawful hwire hearlier, hlength, hlines,
    awaitLines_frame elapsed _ hlawful hdata, hlast, if_pos rfl, Option.none_or,
    firstArrival_concat]

theorem awaitRunCompletionSse_ends {events : List (PublishedEvent Float)}
    {last : PublishedEvent Float} {status : RunStatus} {tokensIn tokensOut : PyValue Float}
    (hlawful : json.Lawful)
    (hearlier : ∀ event ∈ events, event.eventType.endsRun = false)
    (hends : last.EndsWith status tokensIn tokensOut)
    {before frame : List Char} (hwire : wireText json events = some before)
    (hframe : last.toSse json = some frame)
    (elapsed : Nat → Float) :
    ∃ ttft error, awaitRunCompletionSse json elapsed (before ++ frame) =
      .ok ⟨(statusText status).toList, tokensIn, tokensOut, ttft, error⟩ := by
  obtain ⟨eventType, htype, hstatus⟩ := hends.eventType
  have hterminal : last.eventType.endsRun = true := by
    rw [htype, SseEventType.endsRun, hstatus]; rfl
  have hread := awaitRunCompletionSse_wire hlawful hearlier hterminal hwire hframe elapsed []
  rw [List.append_nil] at hread
  obtain ⟨error, herror⟩ := @outcomeOf_endsWith _ json _ _ _ _ hends
    (firstArrival elapsed (PublishedEvent.tellsToken json) (splitLines []).length
      (events ++ [last]))
  exact ⟨_, error, hread.trans herror⟩

theorem readEvents_ends {events : List (PublishedEvent Float)} {last : PublishedEvent Float}
    (hlawful : json.Lawful) (hearlier : ∀ event ∈ events, event.eventType.endsRun = false)
    (hlast : last.eventType.endsRun = true) {before frame : List Char}
    (hwire : wireText json events = some before)
    (hframe : last.toSse json = some frame) (ending : Evals.StreamEnding) :
    Evals.readEvents (Evals.readlines (before ++ frame)) ending = (before ++ frame,
      last.eventType.text.toList) ↔ last.eventType ≠ .loop .runBudgetExceeded := by
  obtain ⟨data, hdata, rfl⟩ := Option.map_eq_some_iff.mp hframe
  have hline := hlawful.oneLine _ _ hdata
  have hread :=
    readlines_frame (fun line (hmem : line ∈ last.frameLines data) => oneLine_frameLines hline hmem)
      []
  rw [List.append_nil] at hread
  obtain ⟨-, -, -, -, hknown⟩ := nameChecks_spec last.eventType
  rw [Evals.readEvents, readFrames_wire hlawful hwire hearlier, hread, readFrames_frame hline]
  by_cases hbudget : last.eventType = .loop .runBudgetExceeded
  · rw [if_neg (mt hknown.mp (by simp [hbudget]))]
    have hname : last.eventType.text.toList = "run.budget_exceeded".toList := by rw [hbudget]; rfl
    rw [hname]
    have hnone (raw : List Char) : Evals.readFrames raw [] (Evals.readlines []) = (raw, none) := rfl
    simp only [hnone, hbudget, ne_eq, not_true, iff_false]
    cases ending with
    | closed => exact fun h => absurd (Prod.mk.inj h).2 (by decide)
    | deadline => exact fun h => absurd (Prod.mk.inj h).2 (by decide)
    | error shown inTime =>
        intro h
        have hterminal := (Prod.mk.inj h).2
        cases inTime
        · exact absurd hterminal (by decide)
        · exact absurd hterminal (by decide)
  · rw [if_pos (hknown.mpr ⟨hlast, hbudget⟩)]
    simp [hbudget]

/-- Both readers tell how the run has ended, unless it has exceeded its budget: the driver does not
know that end. -/
theorem readers_see_end_iff {events : List (PublishedEvent Float)} {last : PublishedEvent Float}
    {status : RunStatus} {tokensIn tokensOut : PyValue Float} (hlawful : json.Lawful)
    (hearlier : ∀ event ∈ events, event.eventType.endsRun = false)
    (hends : last.EndsWith status tokensIn tokensOut)
    {before frame : List Char} (hwire : wireText json events = some before)
    (hframe : last.toSse json = some frame)
    (ending : Evals.StreamEnding) (elapsed : Nat → Float) :
    (Evals.readEvents (Evals.readlines (before ++ frame)) ending = (before ++ frame,
      last.eventType.text.toList) ∧
      ∃ ttft error, awaitRunCompletionSse json elapsed (before ++ frame) =
        .ok ⟨(statusText status).toList, tokensIn, tokensOut, ttft, error⟩) ↔
    status ≠ .budgetExceeded := by
  obtain ⟨eventType, htype, hstatus⟩ := hends.eventType
  have hterminal : last.eventType.endsRun = true := by
    rw [htype, SseEventType.endsRun, hstatus]; rfl
  rw [readEvents_ends hlawful hearlier hterminal hwire hframe,
    and_iff_left (awaitRunCompletionSse_ends hlawful hearlier hends hwire hframe elapsed), htype]
  cases eventType <;> simp only [RunEventType.endsWith, reduceCtorEq, Option.some.injEq] at hstatus
    <;> subst hstatus <;> simp

end Ends

section Example

mutual

def valueText : PyValue Unit → List Char
  | .none => "null".toList
  | .bool b => if b then "true".toList else "false".toList
  | .int n => (toString n).toList
  | .float _ => "0.0".toList
  | .decimal _ => []
  | .str text => jsonText text
  | .list items => '[' :: (itemsText items ++ [']'])
  | .dict entries => '\x7b' :: (entriesText entries ++ ['\x7d'])

def itemsText : List (PyValue Unit) → List Char
  | [] => []
  | [item] => valueText item
  | item :: items => valueText item ++ ", ".toList ++ itemsText items

def entriesText : List (String × PyValue Unit) → List Char
  | [] => []
  | [(key, value)] => jsonText key ++ ": ".toList ++ valueText value
  | (key, value) :: entries =>
    jsonText key ++ ": ".toList ++ valueText value ++ ", ".toList ++ entriesText entries

end

theorem not_isLineBreak_of_isDigit {c : Char} (h : c.isDigit = true) : isLineBreak c = false := by
  simp only [Char.isDigit, Bool.and_eq_true, decide_eq_true_eq, UInt32.le_iff_toNat_le] at h
  obtain ⟨hlow, hhigh⟩ := h
  have hlow : 48 ≤ c.toNat := hlow
  have hhigh : c.toNat ≤ 57 := hhigh
  simp only [isLineBreak, decide_eq_false_iff_not]
  omega

theorem not_isLineBreak_toString (n : Int) : ∀ c ∈ (toString n).toList, isLineBreak c = false := by
  have hdigits (m : Nat) : ∀ c ∈ (Nat.repr m).toList, isLineBreak c = false := by
    intro c hc
    rw [Nat.toList_repr] at hc
    exact not_isLineBreak_of_isDigit (Nat.isDigit_of_mem_toDigits (by decide) (by decide) hc)
  cases n with
  | ofNat m => exact hdigits m
  | negSucc m =>
      have htext : (toString (Int.negSucc m)).toList = '-' :: (Nat.repr (m + 1)).toList := by
        rw [Int.toString_eq_repr]
        exact String.toList_append
      rw [htext]
      exact List.forall_mem_cons.mpr ⟨by decide, hdigits (m + 1)⟩

theorem not_isLineBreak_of_all {letters : List Char}
    (h : letters.all (fun c => !isLineBreak c) = true) : ∀ c ∈ letters, isLineBreak c = false := by
  simpa using h

mutual

theorem not_isLineBreak_valueText :
    ∀ value : PyValue Unit, ∀ c ∈ valueText value, isLineBreak c = false
  | .none => not_isLineBreak_of_all rfl
  | .bool true => not_isLineBreak_of_all rfl
  | .bool false => not_isLineBreak_of_all rfl
  | .int n => not_isLineBreak_toString n
  | .float () => not_isLineBreak_of_all rfl
  | .decimal _ => List.forall_mem_nil _
  | .str text => not_isLineBreak_jsonText text
  | .list items => by
      refine List.forall_mem_cons.mpr
        ⟨by decide, List.forall_mem_append.mpr ⟨not_isLineBreak_itemsText items, ?_⟩⟩
      exact List.forall_mem_singleton.mpr (by decide)
  | .dict entries => by
      refine List.forall_mem_cons.mpr
        ⟨by decide, List.forall_mem_append.mpr ⟨not_isLineBreak_entriesText entries, ?_⟩⟩
      exact List.forall_mem_singleton.mpr (by decide)

theorem not_isLineBreak_itemsText :
    ∀ items : List (PyValue Unit), ∀ c ∈ itemsText items, isLineBreak c = false
  | [] => List.forall_mem_nil _
  | [item] => not_isLineBreak_valueText item
  | item :: next :: items => by
      refine List.forall_mem_append.mpr
        ⟨List.forall_mem_append.mpr ⟨not_isLineBreak_valueText item, not_isLineBreak_of_all rfl⟩,
          ?_⟩
      exact not_isLineBreak_itemsText (next :: items)

theorem not_isLineBreak_entriesText :
    ∀ entries : List (String × PyValue Unit), ∀ c ∈ entriesText entries, isLineBreak c = false
  | [] => List.forall_mem_nil _
  | [(key, value)] =>
      List.forall_mem_append.mpr ⟨List.forall_mem_append.mpr ⟨not_isLineBreak_jsonText key,
        not_isLineBreak_of_all rfl⟩, not_isLineBreak_valueText value⟩
  | (key, value) :: next :: entries => by
      refine List.forall_mem_append.mpr
        ⟨List.forall_mem_append.mpr ⟨?_, not_isLineBreak_of_all rfl⟩,
        not_isLineBreak_entriesText (next :: entries)⟩
      exact List.forall_mem_append.mpr
        ⟨List.forall_mem_append.mpr ⟨not_isLineBreak_jsonText key, not_isLineBreak_of_all rfl⟩,
        not_isLineBreak_valueText value⟩

end

def idleNum : NumOps Unit where
  ofInt _ := some ()
  zero := ()
  isZero _ := true
  isPositive _ := false
  add _ _ := ()
  sub _ _ := ()
  mul _ _ := ()
  div _ _ := ()

open Classical in
noncomputable def tableJson (values : List (PyValue Unit)) : FrameJson Unit where
  num := idleNum
  dumps value := if value ∈ values then some (valueText value) else none
  loads text := match values.find? fun value => valueText value = text with
    | some value => .ok value
    | none => .error .valueError
  float _ := .ok ()

theorem tableJson_lawful {values : List (PyValue Unit)}
    (htext : ∀ value ∈ values, valueText value ≠ []) (hdistinct : (values.map valueText).Nodup) :
    (tableJson values).Lawful := by
  have hmem {value : PyValue Unit} {text : List Char}
      (h : (tableJson values).dumps value = some text) :
      value ∈ values ∧ valueText value = text := by
    simp only [tableJson, Option.ite_none_right_eq_some, Option.some.injEq] at h
    exact h
  refine ⟨fun value text h => ?_, fun value text h => ?_, fun value text h => ?_⟩
  · obtain ⟨hvalue, rfl⟩ := hmem h
    exact htext _ hvalue
  · obtain ⟨-, rfl⟩ := hmem h
    exact not_isLineBreak_valueText value
  · obtain ⟨hvalue, rfl⟩ := hmem h
    have hfound : ∃ found, values.find? (fun other => valueText other = valueText value) =
        some found :=
      Option.isSome_iff_exists.mp (List.find?_isSome.mpr ⟨value, hvalue, by simp⟩)
    obtain ⟨found, hfound⟩ := hfound
    have hsame : valueText found = valueText value := by simpa using List.find?_some hfound
    obtain rfl := List.inj_on_of_nodup_map hdistinct (List.mem_of_find?_eq_some hfound) hvalue hsame
    simp [tableJson, hfound]

def openingEvent : PublishedEvent Unit where
  eventId := ⟨List.finRange 16, List.length_finRange⟩
  eventType := .runReceived
  runId := "run_1"
  conversationId := .str "conv_1"
  sequence := 1
  payload := [("status", .str "in_progress")]
  timestamp := "2026-01-01T00:00:00+00:00"

def endedEvent (status : RunStatus) : PublishedEvent Unit where
  eventId := ⟨(List.finRange 16).reverse, rfl⟩
  eventType := .loop (terminalEvent status)
  runId := "run_1"
  conversationId := .str "conv_1"
  sequence := 2
  payload :=
    [("status", .str (statusText status)), ("input_tokens", .int 310), ("output_tokens", .int 12),
      ("total_tokens", .int 322), ("estimated_cost_usd", .float ()),
      ("failure_code", .str (statusText status)),
      ("latency_ms", .int 40), ("telemetry", .dict [("end_to_end_latency_ms", .int 40)]),
      ("end_to_end_latency_ms", .int 40), ("reason", .str "max_iterations")]
  timestamp := "2026-01-01T00:00:01+00:00"

theorem endsWith_endedEvent {status : RunStatus}
    (hstatus : (terminalEvent status).endsWith = some status) :
    (endedEvent status).EndsWith status (.int 310) (.int 12) :=
  ⟨⟨_, rfl, hstatus⟩, rfl, rfl, ⟨_, rfl, rfl⟩⟩

def sampleValues (status : RunStatus) : List (PyValue Unit) :=
  [.dict (openingEvent.envelope idleNum), .dict ((endedEvent status).envelope idleNum)]

noncomputable def sampleJson (status : RunStatus) : FrameJson Unit :=
  tableJson (sampleValues status)

theorem nodup_sampleValues (status : RunStatus) : ((sampleValues status).map valueText).Nodup := by
  have hopening : (valueText (.dict (openingEvent.envelope idleNum)))[18]? = some '0' := rfl
  have hended : (valueText (.dict ((endedEvent status).envelope idleNum)))[18]? = some 'f' := by
    cases status <;> decide +kernel
  refine List.nodup_cons.mpr ⟨fun hmem => ?_, List.nodup_singleton _⟩
  rw [List.mem_singleton.mp hmem, hended] at hopening
  exact absurd hopening (by decide)

theorem sampleJson_lawful (status : RunStatus) : (sampleJson status).Lawful :=
  tableJson_lawful (List.forall_mem_cons.mpr ⟨List.cons_ne_nil _ _,
    List.forall_mem_singleton.mpr (List.cons_ne_nil _ _)⟩) (nodup_sampleValues status)

theorem sample_written (status : RunStatus) : ∃ before frame,
    wireText (sampleJson status) [openingEvent] = some before ∧
      (endedEvent status).toSse (sampleJson status) = some frame := by
  have hdumps {value : PyValue Unit} (h : value ∈ sampleValues status) :
      (sampleJson status).dumps value = some (valueText value) := if_pos h
  have hreceived : openingEvent.toSse (sampleJson status) = some _ :=
    congrArg (Option.map _) (hdumps List.mem_cons_self)
  have hended : (endedEvent status).toSse (sampleJson status) = some _ :=
    congrArg (Option.map _) (hdumps (List.mem_cons_of_mem _ (List.mem_singleton_self _)))
  exact ⟨_, _, by rw [wireText, hreceived]; rfl, hended⟩

theorem readers_see_end_completed : ∃ before frame,
    wireText (sampleJson .completed) [openingEvent] = some before ∧
      (endedEvent .completed).toSse (sampleJson .completed) = some frame ∧
      Evals.readEvents (Evals.readlines (before ++ frame)) .closed = (before ++ frame,
      "run.completed".toList) ∧
      ∃ ttft error, Benchmarks.awaitRunCompletionSse (sampleJson .completed) (fun _ => ())
      (before ++ frame) =
        .ok ⟨"completed".toList, .int 310, .int 12, ttft, error⟩ := by
  obtain ⟨before, frame, hwire, hframe⟩ := sample_written .completed
  exact ⟨before, frame, hwire, hframe, (readers_see_end_iff (sampleJson_lawful .completed)
    (by simp [openingEvent, SseEventType.endsRun]) (endsWith_endedEvent rfl) hwire hframe .closed
      fun _ => ()).mpr (by decide)⟩

/-- The driver takes the end of a run that has exceeded its budget for a broken stream. -/
theorem budget_end_missed : (sampleJson .budgetExceeded).Lawful ∧
    (endedEvent .budgetExceeded).EndsWith .budgetExceeded (.int 310) (.int 12) ∧ ∃ before frame,
      wireText (sampleJson .budgetExceeded) [openingEvent] = some before ∧
        (endedEvent .budgetExceeded).toSse (sampleJson .budgetExceeded) = some frame ∧
        ∀ ending, Evals.readEvents (Evals.readlines (before ++ frame)) ending ≠
          (before ++ frame, "run.budget_exceeded".toList) := by
  obtain ⟨before, frame, hwire, hframe⟩ := sample_written .budgetExceeded
  have hlawful := sampleJson_lawful .budgetExceeded
  refine ⟨hlawful, endsWith_endedEvent rfl, before, frame, hwire, hframe, fun ending hread => ?_⟩
  have hearlier : ∀ event ∈ [openingEvent], event.eventType.endsRun = false := by
    simp [openingEvent, SseEventType.endsRun]
  exact (readEvents_ends hlawful hearlier rfl hwire hframe ending).mp hread rfl

end Example

end AiAnalytics.App.Events
