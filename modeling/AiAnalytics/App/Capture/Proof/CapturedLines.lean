import AiAnalytics.App.Capture.Sink

/-!
# Every record is captured once

As long as writes find a file that ends with a whole line, and lines that are JSON objects or no
JSON at all, the file is its prior content with one line for each key.
-/

namespace AiAnalytics.App.Capture

open Lib

variable {Float : Type} {json : CaptureJson Float} {prior file : Bytes} {sink : JsonlCaptureSink}
  {key : CaptureKey} {world next : CaptureWorld Float} {record : PyValue Float}
  {seen : List CaptureKey} {lines : List Bytes}

section Statement

def addedLines (prior file : Bytes) : List Bytes :=
  (byteLines (complete file)).drop (byteLines prior).length

def CaptureJson.HasKey (json : CaptureJson Float) (key : CaptureKey) (line : Bytes) : Prop :=
  json.keyOfLine line = .ok key

instance (json : CaptureJson Float) (key : CaptureKey) :
    DecidablePred (json.HasKey key) := fun line =>
  inferInstanceAs (Decidable (json.keyOfLine line = .ok key))

def writtenKeys (json : CaptureJson Float) (log : List (WriteResult Float)) : List CaptureKey :=
  log.filterMap fun
    | .written record => (json.dedupeKey record).toOption
    | _ => none

def OnLine (json : CaptureJson Float) (added : List Bytes) (record : PyValue Float) : Prop :=
  ∃ key, json.dedupeKey record = .ok key ∧
    ∃ line ∈ added, json.dumps record = some line ∧ json.HasKey key line

/-- Each key is added once, and no write is lost. Two records that were written have two keys, so
they do not share a line. -/
structure CapturedOnce (json : CaptureJson Float) (prior : Bytes) (world : CaptureWorld Float) :
    Prop where
  once : ∀ key, (addedLines prior world.file).countP (json.HasKey key) ≤ 1
  written : ∀ record, .written record ∈ world.log → OnLine json (addedLines prior world.file) record
  distinct : (writtenKeys json world.log).Nodup
  duplicate : ∀ record, .duplicate record ∈ world.log →
    ∃ key, json.dedupeKey record = .ok key ∧ ∃ line ∈ byteLines (complete world.file),
      json.HasKey key line
  content : ∀ record, .dropped record .content ∉ world.log

/-- A write that finds what it can deal with: the lines it reads are JSON objects or no JSON, and if
it adds a line, the file ends with a whole line and the new line will be read with the record's
key. -/
def Undisturbed (json : CaptureJson Float) (world : CaptureWorld Float) : CaptureEvent Float → Prop
  | .enter number record =>
      (∀ line ∈ byteLines (complete (world.file.drop (world.sinks number).offset)),
        ∀ error, json.keyOfLine line = .error error → isValueError error = true) ∧
      ∀ key line, json.dedupeKey record = .ok key → json.dumps record = some line →
        (∃ old ∈ byteLines (complete world.file), json.HasKey key old) ∨
          (Closed world.file ∧ json.HasKey key line)
  | _ => True

end Statement

section Keys

theorem exists_written_of_mem {log : List (WriteResult Float)} (h : key ∈ writtenKeys json log) :
    ∃ record, .written record ∈ log ∧ json.dedupeKey record = .ok key := by
  obtain ⟨result, hresult, hkey⟩ := List.mem_filterMap.mp h
  cases result with
  | written record =>
      refine ⟨record, hresult, ?_⟩
      have hkey : (json.dedupeKey record).toOption = some key := hkey
      cases hread : json.dedupeKey record with
      | ok found =>
          rw [hread] at hkey
          rw [Option.some.inj hkey]
      | error error =>
          rw [hread] at hkey
          cases hkey
  | duplicate record => cases hkey
  | dropped record cause => cases hkey

theorem writtenKeys_written {log : List (WriteResult Float)} (h : json.dedupeKey record = .ok key) :
    writtenKeys json (.written record :: log) = key :: writtenKeys json log := by
  refine List.filterMap_cons_some ?_
  show (json.dedupeKey record).toOption = some key
  rw [h]
  rfl

theorem mem_lines_append {line : Bytes} (h : line ∈ byteLines (complete file)) (more : Bytes) :
    line ∈ byteLines (complete (file ++ more)) := by
  obtain ⟨rest, hrest⟩ := complete_append_eq file more
  rw [hrest, byteLines_append_of_complete (complete_complete file)]
  exact List.mem_append_left _ h

theorem seen_subset_seeLines : seen ⊆ (json.seeLines seen lines).1 := by
  induction lines generalizing seen with
  | nil => exact List.Subset.refl _
  | cons line lines ih =>
      rw [CaptureJson.seeLines]
      cases json.keyOfLine line with
      | ok key => exact fun other hother => ih (List.mem_cons_of_mem _ hother)
      | error error =>
          by_cases hvalue : isValueError error = true
          · simp only [hvalue, if_true]
            exact ih
          · simp [hvalue]

theorem mem_seeLines (h : key ∈ (json.seeLines seen lines).1) :
    key ∈ seen ∨ ∃ line ∈ lines, json.HasKey key line := by
  induction lines generalizing seen with
  | nil => exact .inl h
  | cons line lines ih =>
      have hlater (h : ∃ line ∈ lines, json.HasKey key line) : ∃ other ∈ line :: lines,
          json.HasKey key other := by
        obtain ⟨other, hother, hkey⟩ := h
        exact ⟨other, List.mem_cons_of_mem _ hother, hkey⟩
      rw [CaptureJson.seeLines] at h
      cases hread : json.keyOfLine line with
      | ok found =>
          rw [hread] at h
          rcases ih h with hseen | hlines
          · rcases List.mem_cons.mp hseen with rfl | hseen
            · exact .inr ⟨line, List.mem_cons_self, hread⟩
            · exact .inl hseen
          · exact .inr (hlater hlines)
      | error error =>
          rw [hread] at h
          by_cases hvalue : isValueError error = true
          · simp only [hvalue, if_true] at h
            exact (ih h).imp_right hlater
          · simp only [hvalue, Bool.false_eq_true, if_false] at h
            exact .inl h

theorem keys_of_seeLines (hall : (json.seeLines seen lines).2 = true) :
    ∀ line ∈ lines, json.HasKey key line → key ∈ (json.seeLines seen lines).1 := by
  induction lines generalizing seen with
  | nil => simp
  | cons line lines ih =>
      rw [CaptureJson.seeLines] at hall ⊢
      intro other hother hkey
      cases hread : json.keyOfLine line with
      | ok found =>
          rw [hread] at hall
          rcases List.mem_cons.mp hother with rfl | hother
          · obtain rfl : found = key := by
              have hsame := hread.symm.trans hkey
              injection hsame
            exact seen_subset_seeLines List.mem_cons_self
          · exact ih hall other hother hkey
      | error error =>
          rw [hread] at hall
          by_cases hvalue : isValueError error = true
          · simp only [hvalue, if_true] at hall ⊢
            rcases List.mem_cons.mp hother with rfl | hother
            · have hsame := hread.symm.trans hkey
              injection hsame
            · exact ih hall other hother hkey
          · simp [hvalue] at hall

theorem seeLines_returns
    (h : ∀ line ∈ lines, ∀ error, json.keyOfLine line = .error error → isValueError error = true) :
    (json.seeLines seen lines).2 = true := by
  induction lines generalizing seen with
  | nil => rfl
  | cons line lines ih =>
      have hrest := fun other hother => h other (List.mem_cons_of_mem _ hother)
      rw [CaptureJson.seeLines]
      cases hread : json.keyOfLine line with
      | ok found => exact ih hrest
      | error error =>
          simp only [h line List.mem_cons_self error hread, if_true]
          exact ih hrest

structure Knows (json : CaptureJson Float) (file : Bytes) (sink : JsonlCaptureSink) : Prop where
  read : ∃ before after, file = before ++ after ∧ before.length = sink.offset ∧
    complete before = before ∧
    ∀ line ∈ byteLines before, ∀ key, json.HasKey key line → key ∈ sink.seen
  inFile : ∀ key ∈ sink.seen, ∃ line ∈ byteLines (complete file), json.HasKey key line

theorem knows_new (json : CaptureJson Float) (file : Bytes) : Knows json file {} :=
  ⟨⟨[], file, rfl, rfl, rfl, by simp [byteLines, splitLinesFrom]⟩, by simp⟩

theorem Knows.append (h : Knows json file sink) (more : Bytes) :
    Knows json (file ++ more) sink := by
  obtain ⟨before, after, rfl, hlength, hcomplete, hkeys⟩ := h.read
  refine ⟨⟨before, after ++ more, by simp, hlength, hcomplete, hkeys⟩, fun key hkey => ?_⟩
  obtain ⟨line, hline, hhas⟩ := h.inFile key hkey
  exact ⟨line, mem_lines_append hline more, hhas⟩

theorem Knows.drop (h : Knows json file sink) (count : Nat) :
    Knows json file { sink with dropped := count } :=
  ⟨h.read, h.inFile⟩

theorem Knows.see (h : Knows json file sink)
    (hkey : ∃ line ∈ byteLines (complete file), json.HasKey key line) :
    Knows json file { sink with seen := key :: sink.seen } := by
  obtain ⟨before, after, hfile, hlength, hcomplete, hkeys⟩ := h.read
  refine ⟨⟨before, after, hfile, hlength, hcomplete, ?_⟩, fun other hother => ?_⟩
  · exact fun line hline other hother => List.mem_cons_of_mem _ (hkeys line hline other hother)
  · rcases List.mem_cons.mp hother with rfl | hother
    · exact hkey
    · exact h.inFile other hother

theorem Knows.refresh (h : Knows json file sink) :
    Knows json file (sink.refreshSeen json file).1 ∧
      ((sink.refreshSeen json file).2 = true → ∀ key, ∀ line ∈ byteLines (complete file),
        json.HasKey key line → key ∈ (sink.refreshSeen json file).1.seen) := by
  obtain ⟨before, after, rfl, hlength, hcomplete, hkeys⟩ := h.read
  have hdrop : (before ++ after).drop sink.offset = after := by rw [← hlength, List.drop_left]
  have hlines : byteLines (complete (before ++ after)) =
      byteLines before ++ byteLines (complete after) := by
    rw [complete_append hcomplete, byteLines_append_of_complete hcomplete]
  unfold JsonlCaptureSink.refreshSeen
  simp only [hdrop]
  have hall (hreturns : (json.seeLines sink.seen (byteLines (complete after))).2 = true)
      (key : CaptureKey) : ∀ line ∈ byteLines (complete (before ++ after)), json.HasKey key line →
        key ∈ (json.seeLines sink.seen (byteLines (complete after))).1 := by
    rw [hlines]
    intro line hline hhas
    rcases List.mem_append.mp hline with hline | hline
    · exact seen_subset_seeLines (hkeys line hline key hhas)
    · exact keys_of_seeLines hreturns line hline hhas
  have hfound (key : CaptureKey)
      (hkey : key ∈ (json.seeLines sink.seen (byteLines (complete after))).1) :
      ∃ line ∈ byteLines (complete (before ++ after)), json.HasKey key line := by
    rcases mem_seeLines hkey with hseen | ⟨line, hline, hhas⟩
    · exact h.inFile key hseen
    · exact ⟨line, by rw [hlines]; exact List.mem_append_right _ hline, hhas⟩
  refine ⟨⟨?_, hfound⟩, hall⟩
  by_cases hreturns : (json.seeLines sink.seen (byteLines (complete after))).2 = true
  · obtain ⟨rest, hrest⟩ := complete_prefix after
    refine ⟨before ++ complete after, rest, by rw [List.append_assoc, hrest],
      by simp [hreturns, hlength], ?_, ?_⟩
    · rw [complete_append hcomplete, complete_complete]
    · rw [← complete_append hcomplete]
      exact fun line hline key => hall hreturns key line hline
  · refine ⟨before, after, rfl, by simp [hreturns, hlength], hcomplete, fun line hline key hhas =>
      ?_⟩
    exact seen_subset_seeLines (hkeys line hline key hhas)

end Keys

section Files

variable {added : List Bytes} {part line : Bytes} {number : Nat}

structure FileParts (prior : Bytes) (added : List Bytes) (part file : Bytes) : Prop where
  file_eq : file = prior ++ unlines added ++ part
  lines : ∀ line ∈ added, OneLine line
  feed : lineFeed ∉ part
  carriage : carriageReturn ∉ part
  closed : added ≠ [] → Closed prior

theorem FileParts.addedLines_eq (h : FileParts prior added part file) :
    addedLines prior file = added := by
  unfold addedLines
  rw [h.file_eq, complete_append_of_not_mem h.feed]
  by_cases hadded : added = []
  · obtain ⟨rest, hrest⟩ := complete_prefix prior
    have hlines : byteLines prior = byteLines (complete prior) ++ byteLines rest := by
      conv_lhs => rw [← hrest]
      exact byteLines_append_of_complete (complete_complete prior) rest
    have hnone : prior ++ unlines added = prior := by simp [hadded, unlines]
    rw [hnone, hadded, hlines]
    exact List.drop_eq_nil_of_le (by simp)
  · rw [complete_append_unlines hadded, byteLines_append_unlines (h.closed hadded) h.lines,
      List.drop_left]

theorem FileParts.mem_lines (h : FileParts prior added part file) (hline : line ∈ added) :
    line ∈ byteLines (complete file) := by
  rw [← h.addedLines_eq] at hline
  exact List.mem_of_mem_drop hline

theorem FileParts.closed_iff (h : FileParts prior added part file) :
    Closed file ↔ part = [] ∧ Closed prior := by
  rw [h.file_eq]
  constructor
  · intro hclosed
    have hpart : part = [] := by
      by_contra hne
      have hlast := List.getLast?_eq_some_getLast hne
      have hmem := List.mem_of_getLast? hlast
      rcases hclosed _ (by rw [List.getLast?_append_of_ne_nil _ hne, hlast]) with hend | hend
      · exact h.feed (hend ▸ hmem)
      · exact h.carriage (hend ▸ hmem)
    refine ⟨hpart, ?_⟩
    by_cases hadded : added = []
    · simpa [hpart, hadded, unlines] using hclosed
    · exact h.closed hadded
  · rintro ⟨rfl, hprior⟩
    rw [List.append_nil]
    by_cases hadded : added = []
    · simpa [hadded, unlines] using hprior
    · exact closed_of_complete (complete_append_unlines hadded prior)

theorem FileParts.append {rest : Bytes} (h : FileParts prior added part file)
    (hprior : Closed prior) (hline : OneLine line) (hrest : line ++ [lineFeed] = part ++ rest)
    (count : Nat) :
    (rest.drop count ≠ [] ∧ FileParts prior added (part ++ rest.take count)
      (file ++ rest.take count)) ∨
      (rest.drop count = [] ∧ FileParts prior (added ++ [line]) [] (file ++ rest.take count)) := by
  have hwhole : line ++ [lineFeed] = part ++ rest.take count ++ rest.drop count := by
    rw [List.append_assoc, List.take_append_drop, hrest]
  by_cases hend : rest.drop count = []
  · refine .inr ⟨hend, ?_, ?_, by simp, by simp, fun _ => hprior⟩
    · rw [hend, List.append_nil] at hwhole
      simp only [h.file_eq, unlines, List.flatMap_append, List.flatMap_singleton, List.append_nil,
        List.append_assoc]
      rw [hwhole]
    · intro other hother
      rcases List.mem_append.mp hother with hother | hother
      · exact h.lines other hother
      · exact List.mem_singleton.mp hother ▸ hline
  · refine .inl ⟨hend, by rw [h.file_eq, List.append_assoc _ part], h.lines, ?_, ?_, h.closed⟩
    all_goals
      have hsub : part ++ rest.take count <+: line := by
        obtain ⟨final, b, hfinal⟩ := List.eq_nil_or_concat' (rest.drop count) |>.resolve_left hend
        rw [hfinal, ← List.append_assoc] at hwhole
        exact ⟨final, (List.append_inj' hwhole rfl).1.symm⟩
    · exact fun hmem => hline.feed (hsub.subset hmem)
    · exact fun hmem => hline.carriage (hsub.subset hmem)

end Files

section Invariant

variable {added : List Bytes} {part : Bytes} {event : CaptureEvent Float} {number : Nat}

def Progress (json : CaptureJson Float) (prior : Bytes) (added : List Bytes) (part : Bytes)
    (pending : PendingWrite Float) (line : Bytes) : Prop :=
  if pending.rest = [] then line ∈ added
  else line ++ [lineFeed] = part ++ pending.rest ∧ Closed prior ∧
    added.countP (json.HasKey pending.key) = 0

structure Captured (json : CaptureJson Float) (prior : Bytes) (added : List Bytes) (part : Bytes)
    (world : CaptureWorld Float) : Prop where
  parts : FileParts prior added part world.file
  knows : ∀ number, Knows json world.file (world.sinks number)
  once : ∀ key, added.countP (json.HasKey key) ≤ 1
  written : ∀ record, .written record ∈ world.log → OnLine json added record
  distinct : (writtenKeys json world.log).Nodup
  duplicate : ∀ record, .duplicate record ∈ world.log →
    ∃ key, json.dedupeKey record = .ok key ∧ ∃ line ∈ byteLines (complete world.file),
      json.HasKey key line
  content : ∀ record, .dropped record .content ∉ world.log
  holder : ∀ pending, world.holder = some pending → ∃ line, json.dumps pending.record = some line ∧
    json.HasKey pending.key line ∧ Progress json prior added part pending line
  fresh : ∀ pending, world.holder = some pending → json.dedupeKey pending.record = .ok pending.key ∧
    pending.key ∉ writtenKeys json world.log

theorem Captured.capturedOnce (h : Captured json prior added part world) :
    CapturedOnce json prior world := by
  have hadded := h.parts.addedLines_eq
  refine ⟨fun key => ?_, fun record hrecord => ?_, h.distinct, h.duplicate, h.content⟩
  · rw [hadded]
    exact h.once key
  · rw [hadded]
    exact h.written record hrecord

theorem captured_start (json : CaptureJson Float) (prior : Bytes) :
    Captured json prior [] [] { file := prior } where
  parts := ⟨by simp [unlines], by simp, by simp, by simp, by simp⟩
  knows := fun _ => knows_new json prior
  once := by simp
  written := by simp
  distinct := List.nodup_nil
  duplicate := by simp
  content := by simp
  holder := by simp
  fresh := by simp

theorem knows_update {sinks : Nat → JsonlCaptureSink} (h : ∀ other, Knows json file (sinks other))
    (hsink : Knows json file sink) (number other : Nat) :
    Knows json file (Function.update sinks number sink other) := by
  by_cases hsame : other = number
  · subst hsame
    rwa [Function.update_self]
  · rw [Function.update_of_ne hsame]
    exact h other

theorem Captured.setSink (h : Captured json prior added part world)
    (hsink : Knows json world.file sink) (number : Nat) :
    Captured json prior added part (world.setSink number sink) :=
  { h with knows := knows_update h.knows hsink number }

theorem Captured.release (h : Captured json prior added part world)
    {holder : Option (PendingWrite Float)}
    (hholder : ∀ pending, holder = some pending → world.holder = some pending) :
    Captured json prior added part { world with holder := holder } :=
  { h with
    holder := fun pending hpending => h.holder pending (hholder pending hpending)
    fresh := fun pending hpending => h.fresh pending (hholder pending hpending) }

theorem Captured.drop (h : Captured json prior added part world) (number : Nat)
    (record : PyValue Float) {cause : DropCause} (hcause : cause ≠ .content) :
    Captured json prior added part (world.drop number record cause) := by
  have hset := h.setSink ((h.knows number).drop ((world.sinks number).dropped + 1)) number
  refine { hset with
    written := ?_, distinct := h.distinct, duplicate := ?_, content := ?_, fresh := h.fresh }
  · intro other hother
    exact h.written other
      (by simpa [CaptureWorld.drop, CaptureWorld.report, CaptureWorld.setSink] using hother)
  · intro other hother
    exact h.duplicate other
      (by simpa [CaptureWorld.drop, CaptureWorld.report, CaptureWorld.setSink] using hother)
  · intro other hother
    refine h.content other ?_
    simpa [CaptureWorld.drop, CaptureWorld.report, CaptureWorld.setSink, hcause.symm] using hother

theorem Captured.reportDuplicate (h : Captured json prior added part world) {key : CaptureKey}
    (hrecord : json.dedupeKey record = .ok key)
    (hkey : ∃ line ∈ byteLines (complete world.file), json.HasKey key line) :
    Captured json prior added part (world.report (.duplicate record)) := by
  refine { h with
    written := ?_, distinct := h.distinct, duplicate := ?_, content := ?_, fresh := h.fresh }
  · intro other hother
    exact h.written other (by simpa [CaptureWorld.report] using hother)
  · intro other hother
    rcases List.mem_cons.mp hother with hsame | hother
    · injection hsame with hsame
      subst hsame
      exact ⟨key, hrecord, hkey⟩
    · exact h.duplicate other hother
  · intro other hother
    exact h.content other (by simpa [CaptureWorld.report] using hother)

theorem Captured.enter (h : Captured json prior added part world)
    (hcond : Undisturbed json world (.enter number record)) :
    Captured json prior added part (world.enter json number record) := by
  obtain ⟨hread, hadd⟩ := hcond
  have hreturns : ((world.sinks number).refreshSeen json world.file).2 = true :=
    seeLines_returns hread
  obtain ⟨hknows, hall⟩ := (h.knows number).refresh
  have hset := h.setSink hknows number
  unfold CaptureWorld.enter
  simp only [hreturns, Bool.true_eq_false, if_false]
  cases hrecord : json.dedupeKey record with
  | error error => exact hset.drop number record (by decide)
  | ok key =>
      dsimp only
      by_cases hseen : key ∈ ((world.sinks number).refreshSeen json world.file).1.seen
      · rw [if_pos hseen]
        exact hset.reportDuplicate hrecord (hknows.inFile key hseen)
      rw [if_neg hseen]
      have hnone : ∀ line ∈ byteLines (complete world.file), ¬ json.HasKey key line :=
        fun line hline hkey => hseen (hall hreturns key line hline hkey)
      cases hdumps : json.dumps record with
      | none => exact hset.drop number record (by decide)
      | some line =>
          obtain ⟨old, hold, hkey⟩ | ⟨hclosed, hkey⟩ := hadd key line hrecord hdumps
          · exact absurd hkey (hnone old hold)
          obtain ⟨hpart, hprior⟩ := h.parts.closed_iff.mp hclosed
          refine { hset with
            holder := fun pending hpending => ?_,
            fresh := fun pending hpending => ?_ }
          · obtain rfl : _ = pending := Option.some.inj hpending
            refine ⟨line, hdumps, hkey, ?_⟩
            rw [Progress, if_neg (by simp)]
            refine ⟨by simp [hpart], hprior, ?_⟩
            rw [List.countP_eq_zero]
            intro other hother
            simpa using hnone other (h.parts.mem_lines hother)
          · obtain rfl : _ = pending := Option.some.inj hpending
            refine ⟨hrecord, fun hmem => ?_⟩
            obtain ⟨old, hold, hsame⟩ := exists_written_of_mem hmem
            obtain ⟨_, hown, other, hother, -, hhas⟩ := h.written old hold
            obtain rfl := Except.ok.inj (hsame.symm.trans hown)
            exact hnone other (h.parts.mem_lines hother) hhas

theorem Captured.append {pending : PendingWrite Float}
    (hplain : ∀ record line, json.dumps record = some line → OneLine line)
    (h : Captured json prior added part world) (hholder : world.holder = some pending)
    (count : Nat) :
    ∃ added' part', Captured json prior added' part'
      { world with
        file := world.file ++ pending.rest.take count
        holder := some { pending with rest := pending.rest.drop count } } := by
  obtain ⟨line, hdumps, hkey, hprogress⟩ := h.holder pending hholder
  have hfresh := h.fresh pending hholder
  have hknows (number : Nat) := (h.knows number).append (pending.rest.take count)
  have hduplicate (record : PyValue Float) (hrecord : .duplicate record ∈ world.log) :
      ∃ key, json.dedupeKey record = .ok key ∧
        ∃ line ∈ byteLines (complete (world.file ++ pending.rest.take count)),
          json.HasKey key line := by
    obtain ⟨key, hread, line, hline, hhas⟩ := h.duplicate record hrecord
    exact ⟨key, hread, line, mem_lines_append hline _, hhas⟩
  rw [Progress] at hprogress
  by_cases hrest : pending.rest = []
  · refine ⟨added, part, by simpa [hrest] using h.parts, hknows, h.once, h.written, h.distinct,
      hduplicate, h.content, fun other hother => ?_, fun other hother => Option.some.inj hother ▸
        hfresh⟩
    obtain rfl : _ = other := Option.some.inj hother
    rw [if_pos hrest] at hprogress
    refine ⟨line, hdumps, hkey, ?_⟩
    rw [Progress, if_pos (by simp [hrest])]
    exact hprogress
  rw [if_neg hrest] at hprogress
  obtain ⟨hwhole, hprior, hnone⟩ := hprogress
  rcases h.parts.append hprior (hplain _ _ hdumps) hwhole count with ⟨hleft, hparts⟩
    | ⟨hend, hparts⟩
  · refine ⟨added, _, hparts, hknows, h.once, h.written, h.distinct, hduplicate, h.content,
      fun other hother => ?_, fun other hother => Option.some.inj hother ▸ hfresh⟩
    obtain rfl : _ = other := Option.some.inj hother
    refine ⟨line, hdumps, hkey, ?_⟩
    rw [Progress, if_neg hleft]
    exact ⟨by rw [List.append_assoc, List.take_append_drop, hwhole], hprior, hnone⟩
  · refine ⟨added ++ [line], [], hparts, hknows, fun key => ?_, fun record hrecord => ?_,
      h.distinct,
      hduplicate, h.content, fun other hother => ?_, fun other hother => Option.some.inj hother ▸
        hfresh⟩
    · rw [List.countP_append]
      by_cases hsame : json.HasKey key line
      · have hpending : pending.key = key := by
          have hread := hkey.symm.trans hsame
          injection hread
        rw [← hpending, hnone, List.countP_singleton]
        split_ifs <;> omega
      · simpa [List.countP_singleton, hsame] using h.once key
    · obtain ⟨key, hread, old, hold, hrecord⟩ := h.written record hrecord
      exact ⟨key, hread, old, List.mem_append_left _ hold, hrecord⟩
    · obtain rfl : _ = other := Option.some.inj hother
      refine ⟨line, hdumps, hkey, ?_⟩
      rw [Progress, if_pos hend]
      exact List.mem_append_right _ (List.mem_singleton_self _)

theorem Captured.finish {pending : PendingWrite Float} (h : Captured json prior added part world)
    (hholder : world.holder = some pending) (hrest : pending.rest = []) :
    Captured json prior added part (world.finish pending) := by
  obtain ⟨line, hdumps, hkey, hprogress⟩ := h.holder pending hholder
  rw [Progress, if_pos hrest] at hprogress
  have hsee := (h.knows pending.sink).see ⟨line, h.parts.mem_lines hprogress, hkey⟩
  have hset := h.setSink hsee pending.sink
  obtain ⟨hrecord, hnew⟩ := h.fresh pending hholder
  refine { hset with
    written := ?_, distinct := ?_, duplicate := ?_, content := ?_
    holder := by simp [CaptureWorld.finish], fresh := by simp [CaptureWorld.finish] }
  · intro record hrecord
    rcases List.mem_cons.mp hrecord with hsame | hrecord
    · injection hsame with hsame
      exact hsame ▸ ⟨pending.key, ‹_›, line, hprogress, hdumps, hkey⟩
    · exact h.written record hrecord
  · show (writtenKeys json (.written pending.record :: world.log)).Nodup
    rw [writtenKeys_written hrecord]
    exact List.nodup_cons.mpr ⟨hnew, h.distinct⟩
  · intro record hrecord
    exact h.duplicate record
      (by simpa [CaptureWorld.finish, CaptureWorld.report, CaptureWorld.setSink] using hrecord)
  · intro record hrecord
    exact h.content record
      (by simpa [CaptureWorld.finish, CaptureWorld.report, CaptureWorld.setSink] using hrecord)

theorem captured_step (hplain : ∀ record line, json.dumps record = some line → OneLine line)
    (h : ∃ added part, Captured json prior added part world) (hcond : Undisturbed json world event)
    (hstep : captureStep json world event = some next) :
    ∃ added part, Captured json prior added part next := by
  obtain ⟨added, part, h⟩ := h
  cases event with
  | enter number record =>
      rw [captureStep] at hstep
      split_ifs at hstep with hholder
      obtain rfl := Option.some.inj hstep
      exact ⟨added, part, h.enter hcond⟩
  | append count =>
      obtain ⟨pending, hholder, rfl⟩ := Option.map_eq_some_iff.mp hstep
      exact h.append hplain hholder count
  | finish =>
      obtain ⟨pending, hholder, hfinish⟩ := Option.bind_eq_some_iff.mp hstep
      split_ifs at hfinish with hrest
      obtain rfl := Option.some.inj hfinish
      exact ⟨added, part, h.finish hholder hrest⟩
  | fault =>
      obtain ⟨pending, hholder, rfl⟩ := Option.map_eq_some_iff.mp hstep
      exact ⟨added, part, (h.drop pending.sink pending.record (by decide)).release (by simp)⟩
  | refuse number record =>
      obtain rfl := Option.some.inj hstep
      exact ⟨added, part, h.drop number record (by decide)⟩
  | kill number =>
      obtain rfl := Option.some.inj hstep
      refine ⟨added, part, (h.setSink (knows_new json world.file) number).release
        fun pending hpending => ?_⟩
      exact (Option.filter_eq_some_iff.mp hpending).1

/-- What is captured is captured once and nothing is lost, whatever the interleaving, as long as the
writes find a file they can deal with. -/
theorem capturedOnce_of_undisturbed {events : List (CaptureEvent Float)}
    (hplain : ∀ record line, json.dumps record = some line → OneLine line)
    (hrun : (captureMachine json).run { file := prior } events = some world)
    (hmeets : (captureMachine json).Meets (Undisturbed json) { file := prior } events) :
    CapturedOnce json prior world := by
  have hpreserve : ∀ world event next, (∃ added part, Captured json prior added part world) →
      Undisturbed json world event → (captureMachine json).step world event = some next →
      ∃ added part, Captured json prior added part next :=
    fun _ _ _ h hcond hstep => captured_step hplain h hcond hstep
  obtain ⟨added, part, hcaptured⟩ :=
    Machine.run_invariant_of_meets hpreserve ⟨[], [], captured_start json prior⟩ hmeets hrun
  exact hcaptured.capturedOnce

end Invariant

section Unreadable

theorem seeLines_raises {line : Bytes} {error : PyError Empty} (hline : line ∈ lines)
    (hread : json.keyOfLine line = .error error) (hraises : isValueError error = false) :
    (json.seeLines seen lines).2 = false := by
  induction lines generalizing seen with
  | nil => simp at hline
  | cons other lines ih =>
      rw [CaptureJson.seeLines]
      rcases List.mem_cons.mp hline with rfl | hline
      · simp [hread, hraises]
      · cases hother : json.keyOfLine other with
        | ok key => exact ih hline
        | error found =>
            by_cases hvalue : isValueError found = true
            · simp only [hvalue, if_true]
              exact ih hline
            · simp [hvalue]

structure Blocked (prior : Bytes) (world : CaptureWorld Float) : Prop where
  file : world.file = prior
  holder : world.holder = none
  offset : ∀ number, (world.sinks number).offset = 0
  log : ∀ result ∈ world.log, ∃ record cause, result = .dropped record cause

theorem Blocked.setSink (h : Blocked prior world) (hsink : sink.offset = 0) (number : Nat) :
    Blocked prior (world.setSink number sink) := by
  refine { h with offset := fun other => ?_ }
  by_cases hsame : other = number
  · subst hsame
    simp [CaptureWorld.setSink, hsink]
  · simp [CaptureWorld.setSink, Function.update_of_ne hsame, h.offset]

theorem Blocked.drop (h : Blocked prior world) (number : Nat) (record : PyValue Float)
    (cause : DropCause) : Blocked prior (world.drop number record cause) := by
  have hzero : { world.sinks number with dropped := (world.sinks number).dropped + 1 }.offset = 0 :=
    h.offset number
  have hset := h.setSink hzero number
  refine { hset with log := fun result hresult => ?_ }
  rcases List.mem_cons.mp hresult with rfl | hresult
  · exact ⟨record, cause, rfl⟩
  · exact h.log result hresult

theorem blocked_of_unreadable {line : Bytes} {error : PyError Empty}
    {events : List (CaptureEvent Float)} (hline : line ∈ byteLines (complete prior))
    (hread : json.keyOfLine line = .error error)
    (hraises : isValueError error = false)
    (hrun : (captureMachine json).run { file := prior } events = some world) :
    Blocked prior world := by
  refine Machine.run_invariant (fun world event next h hstep => ?_) ⟨rfl, rfl, fun _ => rfl,
    by simp⟩ hrun
  have hstep : captureStep json world event = some next := hstep
  cases event with
  | enter number record =>
      rw [captureStep, h.holder] at hstep
      obtain rfl := Option.some.inj hstep
      have hleft : ((world.sinks number).refreshSeen json world.file).2 = false := by
        unfold JsonlCaptureSink.refreshSeen
        rw [h.offset, h.file, List.drop_zero]
        exact seeLines_raises hline hread hraises
      have hoffset : ((world.sinks number).refreshSeen json world.file).1.offset = 0 := by
        rw [← h.offset number]
        exact if_neg (by simpa [JsonlCaptureSink.refreshSeen] using hleft)
      rw [CaptureWorld.enter]
      simp only [hleft, if_true]
      exact (h.setSink hoffset number).drop number record .content
  | append count => simp [captureStep, h.holder] at hstep
  | finish => simp [captureStep, h.holder] at hstep
  | fault => simp [captureStep, h.holder] at hstep
  | refuse number record =>
      obtain rfl := Option.some.inj hstep
      exact h.drop number record .fileSystem
  | kill number =>
      obtain rfl := Option.some.inj hstep
      have hset : Blocked prior (world.setSink number {}) := h.setSink rfl number
      exact { hset with holder := by simp [h.holder] }

end Unreadable

section Example

def asciiBytes (text : String) : Bytes := text.toList.map fun c => c.toNat.toUInt8

def sampleRecord : PyValue Unit := .dict [("call_id", .str "c1"), ("run_id", .str "r1")]

def sampleLine : Bytes := asciiBytes "\x7b\"call_id\":\"c1\",\"run_id\":\"r1\"\x7d"

def sampleJson : CaptureJson Unit where
  str
    | .str text => text
    | _ => ""
  dumps
    | .dict _ => some sampleLine
    | _ => none
  loads line :=
    if line = sampleLine then .ok sampleRecord
    else if line = asciiBytes "1" then .ok (.int 1)
    else .error .valueError

theorem oneLine_sample (record : PyValue Unit) (line : Bytes)
    (h : sampleJson.dumps record = some line) : OneLine line := by
  have hline : line = sampleLine := by
    cases record with
    | dict entries => exact (Option.some.inj h).symm
    | _ => simp [sampleJson] at h
  exact hline ▸ ⟨by decide, by decide, by decide⟩

def wholeWrite : List (CaptureEvent Unit) := [.enter 0 sampleRecord, .append 8, .append 80, .finish]

theorem capturedOnce_wholeWrite : ∃ world,
    (captureMachine sampleJson).run { file := asciiBytes "x\n" } wholeWrite = some world ∧
      .written sampleRecord ∈ world.log ∧ CapturedOnce sampleJson (asciiBytes "x\n") world := by
  have hfirst : Undisturbed sampleJson { file := asciiBytes "x\n" } (.enter 0 sampleRecord) := by
    refine ⟨fun line hline error herror => ?_, fun key line hkey hdumps => .inr ⟨?_, ?_⟩⟩
    · obtain rfl : line = asciiBytes "x" := List.mem_singleton.mp hline
      injection herror with herror
      exact herror ▸ rfl
    · exact closed_of_complete (by decide)
    · obtain rfl : sampleLine = line := Option.some.inj hdumps
      obtain rfl : ("r1", "c1") = key := by injection hkey
      decide
  have hruns : ∃ world, (captureMachine sampleJson).run { file := asciiBytes "x\n" } wholeWrite =
      some world ∧ .written sampleRecord ∈ world.log := ⟨_, rfl, List.mem_cons_self⟩
  obtain ⟨world, hrun, hwritten⟩ := hruns
  refine ⟨world, hrun, hwritten, capturedOnce_of_undisturbed oneLine_sample hrun ?_⟩
  exact ⟨hfirst, fun _ _ => ⟨trivial, fun _ _ =>
    ⟨trivial, fun _ _ => ⟨trivial, fun _ _ => trivial⟩⟩⟩⟩

def tornWrites : List (CaptureEvent Unit) :=
  [.enter 0 sampleRecord, .append 80, .finish, .enter 0 sampleRecord]

theorem torn_line_loses_record :
    (∃ world, (captureMachine sampleJson).run { file := asciiBytes "\x7b\"call_id" } tornWrites =
      some world ∧ .written sampleRecord ∈ world.log ∧ .duplicate sampleRecord ∈ world.log ∧
      (∀ key, ∀ line ∈ byteLines (complete world.file), ¬ sampleJson.HasKey key line) ∧
      ¬ CapturedOnce sampleJson (asciiBytes "\x7b\"call_id") world) ∧
    ∀ events world, (captureMachine sampleJson).run { file := asciiBytes "1\n" } events = some
      world → Blocked (asciiBytes "1\n") world := by
  constructor
  · have hruns : ∃ world,
        (captureMachine sampleJson).run { file := asciiBytes "\x7b\"call_id" } tornWrites = some
          world ∧
        world.file = asciiBytes "\x7b\"call_id" ++ sampleLine ++ [lineFeed] ∧
        .written sampleRecord ∈ world.log ∧ .duplicate sampleRecord ∈ world.log :=
      ⟨_, rfl, rfl, List.mem_cons_of_mem _ List.mem_cons_self, List.mem_cons_self⟩
    obtain ⟨world, hrun, hfile, hwritten, hduplicate⟩ := hruns
    have hnone (key : CaptureKey) : ∀ line ∈ byteLines (complete world.file),
        ¬ sampleJson.HasKey key line := by
      rw [hfile]
      intro line hline hkey
      obtain rfl : line = asciiBytes "\x7b\"call_id" ++ sampleLine := List.mem_singleton.mp hline
      injection hkey
    refine ⟨world, hrun, hwritten, hduplicate, hnone, fun hcaptured => ?_⟩
    obtain ⟨key, -, line, hline, hkey⟩ := hcaptured.duplicate sampleRecord hduplicate
    exact hnone key line hline hkey
  · intro events world hrun
    have hline : asciiBytes "1" ∈ byteLines (complete (asciiBytes "1\n")) := by decide
    have hread : sampleJson.keyOfLine (asciiBytes "1") = .error .attributeError := rfl
    exact blocked_of_unreadable hline hread rfl hrun

end Example

end AiAnalytics.App.Capture
