import AiAnalytics.App.Events.RunEvent
import AiAnalytics.Lib.JsonRoundTrip

/-!
# Run events survive their codecs

What the stream stores of an event gives the event back, and its frame is one message with one line
of data, whatever text the payload holds.
-/

namespace AiAnalytics.App.Events

open Lib

variable {Float : Type} {lib : EventLibrary Float} {event : RunEvent Float}

structure EventLibrary.Lawful (lib : EventLibrary Float) : Prop where
  floats : lib.floats.Lawful
  digit : ∀ c, c.isDigit = true → lib.digit c = some (c.toNat - '0'.toNat)

def OptionalId (id : PyValue Float) : Prop := id = .none ∨ ∃ text, text ≠ "" ∧ id = .str text

def RunEvent.optionalIds (event : RunEvent Float) : List (PyValue Float) :=
  [event.stepId, event.llmCallId, event.toolCallId, event.queryId, event.evalRunId]

def stored (data : List (String × String)) : List (String × PyValue Float) :=
  data.map fun entry => (entry.1, .str entry.2)

section Numbers

theorem readDigits_digits {digit : Char → Option Nat}
    (hdigit : ∀ c, c.isDigit = true → digit c = some (c.toNat - '0'.toNat)) {text : List Char}
    (h : Digits text) :
    readDigits digit text = some (text.map fun c => c.toNat - '0'.toNat) := by
  obtain ⟨hne, hdigits⟩ := h
  induction text with
  | nil => exact absurd rfl hne
  | cons c text ih =>
      obtain ⟨hc, htext⟩ := List.forall_mem_cons.mp hdigits
      cases text with
      | nil =>
          rw [readDigits, hdigit c hc]
          rfl
      | cons d text =>
          have hd : d ≠ '_' := by
            rintro rfl
            exact absurd (htext '_' List.mem_cons_self) (by decide)
          rw [readDigits.eq_4, hdigit c hc, ih (List.cons_ne_nil _ _) htext]
          · rfl
          · rintro ⟨⟩
          · intro rest hsame
            exact hd (List.cons.inj hsame).1

theorem readNat_toDigits {digit : Char → Option Nat}
    (hdigit : ∀ c, c.isDigit = true → digit c = some (c.toNat - '0'.toNat)) {n : Nat}
    (h : (Nat.toDigits 10 n).length ≤ maxIntDigits) :
    readNat digit (Nat.toDigits 10 n) = some n := by
  have hvalue : ((Nat.toDigits 10 n).map fun c => c.toNat - '0'.toNat).foldl (fun n d => 10 * n + d)
      0 = n := by
    rw [List.foldl_map, ← Nat.ofDigitChars_eq_foldl]
    exact Nat.ofDigitChars_ten_toDigits
  rw [readNat, readDigits_digits hdigit (intDigits_toDigits n).digits]
  simp only [Option.bind_eq_bind, Option.bind_some, List.length_map, hvalue, if_pos h]

theorem isSpace_eq_false_of_isDigit {c : Char} (h : c.isDigit = true) : isSpace c = false := by
  obtain ⟨hlow, hhigh⟩ : 48 ≤ c.toNat ∧ c.toNat ≤ 57 := Char.isDigit_iff_toNat.mp h
  simp only [isSpace, decide_eq_false_iff_not]
  omega

theorem readInt_canonicalInt {digit : Char → Option Nat}
    (hdigit : ∀ c, c.isDigit = true → digit c = some (c.toNat - '0'.toNat)) {n : Int}
    (h : Printable n) :
    readInt digit (canonicalInt n) = some n := by
  have hstrip : strip (canonicalInt n) = canonicalInt n := by
    have hspace : ∀ c ∈ canonicalInt n, isSpace c = false := by
      intro c hc
      rcases mem_canonicalInt hc with rfl | hc
      · decide
      · exact isSpace_eq_false_of_isDigit hc
    have hkeep : ∀ text : List Char, (∀ c ∈ text, isSpace c = false) →
        text.dropWhile isSpace = text := by
      intro text htext
      cases text with
      | nil => rfl
      | cons c text =>
          rw [List.dropWhile_cons_of_neg]
          rw [htext c List.mem_cons_self]
          decide
    rw [strip, hkeep _ hspace, hkeep _ fun c hc => hspace c (List.mem_reverse.mp hc),
      List.reverse_reverse]
  rw [readInt, hstrip, canonicalInt]
  split_ifs with hneg
  · have hvalue : -(n.natAbs : Int) = n := by omega
    simp only [readNat_toDigits hdigit h]
    exact congrArg some hvalue
  · have hvalue : (n.natAbs : Int) = n := by omega
    obtain ⟨c, rest, hcons, hc⟩ := (intDigits_toDigits n.natAbs).digits.head
    have hread := readNat_toDigits hdigit h
    rw [hcons] at hread ⊢
    split
    · rename_i other hsame
      rw [(List.cons.inj hsame).1] at hc
      exact absurd hc (by decide)
    · rename_i other hsame
      rw [(List.cons.inj hsame).1] at hc
      exact absurd hc (by decide)
    · rw [hread, Option.map_some, Int.ofNat_eq_natCast, hvalue]

end Numbers

section Dictionary

theorem stored_append (data data' : List (String × String)) :
    (stored (data ++ data') : List (String × PyValue Float)) = stored data ++ stored data' :=
  List.map_append

theorem optionalText_of_id {id : PyValue Float} (h : OptionalId id) (name : String) :
    stored (lib.optionalText name id) = if id.truthy lib.num then [(name, id)] else [] := by
  rcases h with rfl | ⟨text, hne, rfl⟩
  · rfl
  · have htruthy : (PyValue.str text : PyValue Float).truthy lib.num = true := decide_eq_true hne
    rw [EventLibrary.optionalText, if_pos htruthy, if_pos htruthy]
    rfl

theorem lookup_optionalText {id : PyValue Float} (h : OptionalId id) (name key : String) :
    (stored (lib.optionalText name id)).lookup key =
      if key = name then (if id.truthy lib.num then some id else none) else none := by
  rw [optionalText_of_id h]
  by_cases htruthy : id.truthy lib.num = true
  · rw [if_pos htruthy, if_pos htruthy]
    by_cases hkey : key = name
    · rw [hkey, if_pos rfl, List.lookup_cons_self]
    · rw [if_neg hkey, List.lookup_cons, beq_eq_false_iff_ne.mpr hkey]
      rfl
  · rw [if_neg htruthy, if_neg htruthy, ite_self]
    rfl

theorem getD_optionalId {id : PyValue Float} (h : OptionalId id) :
    (if id.truthy lib.num then some id else none).getD .none = id := by
  rcases h with rfl | ⟨text, hne, rfl⟩
  · rfl
  · have htruthy : (PyValue.str text : PyValue Float).truthy lib.num = true := decide_eq_true hne
    rw [if_pos htruthy, Option.getD_some]

theorem toDict_eq_some (event : RunEvent Float) {sequence payload : List Char}
    (hsequence : intText event.sequence = some sequence)
    (hpayload : jsonDumps lib.floats event.payload = some payload) :
    event.toDict lib = some
      ([("event_id", event.eventId), ("event_type", event.eventType), ("run_id", event.runId),
        ("conversation_id", event.conversationId), ("sequence", String.ofList sequence),
        ("timestamp", event.timestamp), ("payload", String.ofList payload)] ++
        lib.optionalText "step_id" event.stepId ++ lib.optionalText "llm_call_id" event.llmCallId ++
        lib.optionalText "tool_call_id" event.toolCallId ++ lib.optionalText "query_id"
        event.queryId ++
        lib.optionalText "eval_run_id" event.evalRunId) := by
  rw [RunEvent.toDict, hsequence, hpayload]
  rfl

theorem fromDict_toDict (hlawful : lib.Lawful) (hpayload : IsJson lib.floats event.payload)
    (hids : ∀ id ∈ event.optionalIds, OptionalId id) (hsequence : Printable event.sequence) :
    ∃ data, event.toDict lib = some data ∧ RunEvent.fromDict lib (stored data) = some event := by
  obtain ⟨payload, hdumps, -, hloads⟩ := loads_dumps hlawful.floats hpayload
  have htext := intText_eq_some_iff.mpr ⟨hsequence, rfl⟩
  refine ⟨_, toDict_eq_some event htext hdumps, ?_⟩
  simp only [RunEvent.optionalIds, List.forall_mem_cons] at hids
  obtain ⟨hstep, hllm, htool, hquery, heval, -⟩ := hids
  have hint : lib.intOf (.str (String.ofList (canonicalInt event.sequence))) =
      some event.sequence := by
    rw [EventLibrary.intOf, String.toList_ofList]
    exact readInt_canonicalInt hlawful.digit hsequence
  have hread : lib.readPayload (.str (String.ofList payload)) = event.payload := by
    rw [EventLibrary.readPayload, String.toList_ofList, hloads, Option.getD_some]
  simp only [RunEvent.fromDict, stored_append, List.lookup_append, lookup_optionalText hstep,
    lookup_optionalText hllm,
    lookup_optionalText htool, lookup_optionalText hquery, lookup_optionalText heval]
  simp [stored, List.lookup_cons, hint, hread, getD_optionalId, hstep, hllm, htool, hquery, heval,
    EventLibrary.strOf]

end Dictionary

section Frame

theorem onOneLine_of_plain {text : List Char} (h : Lib.Plain text) : OnOneLine text := by
  constructor
  · intro hmem
    exact absurd (h _ hmem).1 (by decide)
  · intro hmem
    exact absurd (h _ hmem).1 (by decide)

theorem isJson_optionalId {id : PyValue Float} (h : OptionalId id) : IsJson lib.floats id := by
  rcases h with rfl | ⟨text, -, rfl⟩
  · exact .none
  · exact .str text

theorem isJson_envelope (hpayload : IsJson lib.floats event.payload)
    (hids : ∀ id ∈ event.optionalIds, OptionalId id) (hsequence : Printable event.sequence) :
    IsJson lib.floats (.dict (event.envelope lib)) := by
  simp only [RunEvent.optionalIds, List.forall_mem_cons] at hids
  obtain ⟨hstep, hllm, htool, hquery, heval, -⟩ := hids
  refine .dict ?_ ?_
  · rw [RunEvent.envelope]
    split_ifs <;> simp
  · rw [RunEvent.envelope, List.forall_mem_append]
    refine ⟨?_, ?_⟩
    · simp only [List.forall_mem_cons]
      exact ⟨.str _, .str _, .str _, .str _, .int hsequence, isJson_optionalId hstep,
        isJson_optionalId hllm,
        isJson_optionalId htool, isJson_optionalId hquery, .str _, hpayload, List.forall_mem_nil _⟩
    · split_ifs
      · exact List.forall_mem_singleton.mpr (isJson_optionalId heval)
      · exact List.forall_mem_nil _

theorem toSse_frame (hlawful : lib.Lawful) (hpayload : IsJson lib.floats event.payload)
    (hids : ∀ id ∈ event.optionalIds, OptionalId id) (hsequence : Printable event.sequence) :
    ∃ text data, event.toSse lib = some text ∧
      jsonLoads lib.floats data = some (.dict (event.envelope lib)) ∧
      (OnOneLine event.eventId.toList → OnOneLine event.eventType.toList →
        sseMessages text =
          [⟨if Char.ofNat 0 ∈ event.eventId.toList then [] else event.eventId.toList,
          event.eventType.toList,
            [data]⟩]) := by
  obtain ⟨data, hdumps, hplain, hloads⟩ :=
    loads_dumps hlawful.floats (isJson_envelope hpayload hids hsequence)
  refine ⟨_, data, ?_, hloads, fun hid htype =>
    sseMessages_frame hid htype (onOneLine_of_plain hplain)⟩
  rw [RunEvent.toSse, hdumps]
  rfl

end Frame

theorem toDict_eq_none (lib : EventLibrary Float) (h : ¬ Printable event.sequence) :
    event.toDict lib = none ∧ event.toSse lib = none := by
  have htext : intText event.sequence = none := if_neg h
  constructor
  · rw [RunEvent.toDict, htext]
    rfl
  · have hdumps : jsonDumps lib.floats (.dict (event.envelope lib)) = none := by
      have hsequence : jsonDumps lib.floats (.int event.sequence) = none := by rw [jsonDumps, htext]
      rw [jsonDumps, RunEvent.envelope]
      simp [dumpEntries, hsequence]
    rw [RunEvent.toSse, hdumps]
    rfl

/-- An event that can be written, as its sequence number has no more digits than Python writes,
comes back from its dictionary, and its frame is one message whose one line of data is the JSON of
its envelope. -/
theorem run_event_codecs (hlawful : lib.Lawful) (event : RunEvent Float)
    (hpayload : IsJson lib.floats event.payload) (hids : ∀ id ∈ event.optionalIds, OptionalId id) :
    ((event.toDict lib).isSome ↔ Printable event.sequence) ∧
      ((event.toSse lib).isSome ↔ Printable event.sequence) ∧
      (∀ data, event.toDict lib = some data → RunEvent.fromDict lib (stored data) = some event) ∧
      ∀ text, event.toSse lib = some text → OnOneLine event.eventId.toList →
      OnOneLine event.eventType.toList →
        ∃ id data, sseMessages text = [⟨id, event.eventType.toList, [data]⟩] ∧
          (Char.ofNat 0 ∉ event.eventId.toList → id = event.eventId.toList) ∧
          jsonLoads lib.floats data = some (.dict (event.envelope lib)) := by
  by_cases hsequence : Printable event.sequence
  · obtain ⟨data, hdict, hback⟩ := fromDict_toDict hlawful hpayload hids hsequence
    obtain ⟨text, json, hsse, hloads, hframe⟩ := toSse_frame hlawful hpayload hids hsequence
    refine ⟨by simp [hdict, hsequence], by simp [hsse, hsequence], fun other hother => ?_, ?_⟩
    · rw [hdict] at hother
      rwa [← Option.some.inj hother]
    · intro other hother hid htype
      rw [hsse] at hother
      obtain rfl := Option.some.inj hother
      exact ⟨_, json, hframe hid htype, fun hnull => if_neg hnull, hloads⟩
  · obtain ⟨hdict, hsse⟩ := toDict_eq_none lib hsequence
    rw [hdict, hsse]
    exact ⟨by simp [hsequence], by simp [hsequence], nofun, nofun⟩

def zeroLibrary : EventLibrary Unit where
  num :=
    { ofInt := fun _ => some (), zero := (), isZero := fun _ => true, isPositive := fun _ => false
      add := fun _ _ => (), sub := fun _ _ => (), mul := fun _ _ => (), div := fun _ _ => () }
  floats := { write := fun _ => "0.0".toList, read := fun _ => (), isFinite := fun _ => true }
  str _ := ""
  digit c := if c.isDigit then some (c.toNat - '0'.toNat) else none
  intOfFloat _ := some 0

theorem zeroLibrary_lawful : zeroLibrary.Lawful where
  floats :=
    { text := fun _ _ => ⟨[], ['0'], ['.', '0'], [], rfl, .inl rfl, .inl rfl,
        .inr ⟨['0'], rfl, List.cons_ne_nil _ _, List.forall_mem_singleton.mpr rfl⟩, .inl rfl,
        .inl (List.cons_ne_nil _ _)⟩
      read := fun _ _ => rfl }
  digit _ h := if_pos h

def brokenAnswer : RunEvent Unit where
  eventType := "answer.delta"
  runId := "run_1"
  conversationId := "conv_1"
  sequence := -3
  payload :=
    .dict [("delta", .str "a\n\r\n\u2028\"\\\u0000😀"),
      ("rows", .list [.none, .bool true, .float (), .int 10])]
  eventId := "evt_1"
  queryId := .str "qry_1"
  timestamp := "2024-01-01T00:00:00"

theorem run_event_codecs_example :
    ((brokenAnswer.toDict zeroLibrary).bind fun data =>
      RunEvent.fromDict zeroLibrary (stored data)) =
        some brokenAnswer ∧
      ∃ text id data, brokenAnswer.toSse zeroLibrary = some text ∧
        sseMessages text = [⟨id, "answer.delta".toList, [data]⟩] ∧
        jsonLoads zeroLibrary.floats data = some (.dict (brokenAnswer.envelope zeroLibrary)) := by
  have hpayload : IsJson zeroLibrary.floats brokenAnswer.payload := by
    refine .dict (by decide) ?_
    simp only [List.forall_mem_cons]
    refine ⟨.str _, .list ?_, List.forall_mem_nil _⟩
    simp only [List.forall_mem_cons]
    exact ⟨.none, .bool true, .float rfl, .int (by decide), List.forall_mem_nil _⟩
  have hids : ∀ id ∈ brokenAnswer.optionalIds, OptionalId id := by
    simp only [RunEvent.optionalIds, List.forall_mem_cons]
    exact ⟨.inl rfl, .inl rfl, .inl rfl, .inr ⟨"qry_1", by decide, rfl⟩, .inl rfl,
      List.forall_mem_nil _⟩
  have hsequence : Printable brokenAnswer.sequence := by decide
  obtain ⟨hdict, hsse, hback, hframe⟩ :=
    run_event_codecs zeroLibrary_lawful brokenAnswer hpayload hids
  obtain ⟨data, hdata⟩ := Option.isSome_iff_exists.mp (hdict.mpr hsequence)
  obtain ⟨text, htext⟩ := Option.isSome_iff_exists.mp (hsse.mpr hsequence)
  obtain ⟨id, json, hmessages, -, hloads⟩ := hframe text htext (by decide) (by decide)
  refine ⟨?_, text, id, json, htext, hmessages, hloads⟩
  rw [hdata]
  exact hback data hdata

end AiAnalytics.App.Events
