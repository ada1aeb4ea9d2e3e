import AiAnalytics.KvTransfer.Evidence
import AiAnalytics.Lib.Counting

/-!
# One evidence for each case

A run that is accepted proves all four cases at every prefix size, and all its evidence is that of
its case. Whether it proves a case only once depends on the spelling: the same name does not come
twice, but an alias may stand beside it. -/

namespace AiAnalytics.KvTransfer

open Lib

variable {Float : Type} {floats : EvidenceFloats Float} {provenance : Provenance}
  {entry : RunEntry Float}

section Entries

def RunEntry.name (entry : RunEntry Float) : String := (asText (getField entry.case "name")).getD ""

def RunEntry.size (entry : RunEntry Float) : String := sizeTag entry.name

def RunEntry.controlled (entry : RunEntry Float) : Option ControlledCase :=
  caseAliases.lookup (baseName entry.name)

def FromRun (provenance : Provenance) (event : EvidenceEvent) : Prop :=
  event.destinationWorker ∈ provenance.workers ∧
    event.compatibilityNamespace = provenance.namespaceId ∧
    event.prefixVersion = provenance.prefixIdentityVersion

def ProvenEntry (floats : EvidenceFloats Float) (provenance : Provenance) (entry : RunEntry Float) :
    Prop :=
  ∃ controlled summary items events, entry.controlled = some controlled ∧
    validateCase floats (.dict entry.case) entry.events = .ok summary ∧
      eventItems entry.events = .ok items ∧
    items.mapM (validateEvent floats) = .ok events ∧
    ∀ event ∈ events, controlled.validator event = .ok () ∧ FromRun provenance event

theorem check_eq_ok_iff {p : Prop} [Decidable p] {reason : String} :
    check p reason = .ok () ↔ p := by
  unfold check
  split_ifs with h
  · exact iff_of_true rfl h
  · exact iff_of_false nofun h

theorem check_bind_eq_ok_iff {p : Prop} [Decidable p] {reason : String} {α : Type}
    {f : Unit → EvidenceResult α} {b : α} : (check p reason >>= f) = .ok b ↔ p ∧ f () = .ok b := by
  rw [bind_eq_ok_iff]
  constructor
  · rintro ⟨⟨⟩, hcheck, hrest⟩
    exact ⟨check_eq_ok_iff.mp hcheck, hrest⟩
  · rintro ⟨hp, hrest⟩
    exact ⟨(), check_eq_ok_iff.mpr hp, hrest⟩

theorem checkProvenance_eq_ok_iff {event : EvidenceEvent} :
    checkProvenance provenance event = .ok () ↔ FromRun provenance event := by
  unfold checkProvenance FromRun
  rw [check_bind_eq_ok_iff, check_bind_eq_ok_iff, check_eq_ok_iff]

theorem baseName_baseName (name : String) : baseName (baseName name) = baseName name := by
  rw [baseName, baseName, String.toList_ofList, List.takeWhile_takeWhile]
  simp

theorem asText_eq_some_iff {value : PyValue Float} {s : String} :
    asText value = some s ↔ value = .str s ∧ strip s.toList ≠ [] := by
  cases value with
  | str t =>
      rw [asText, PyValue.str.injEq]
      split_ifs with hblank
      · refine iff_of_false nofun ?_
        rintro ⟨rfl, hne⟩
        exact hne hblank
      · rw [Option.some.injEq]
        constructor
        · rintro rfl
          exact ⟨rfl, hblank⟩
        · exact And.left
  | _ => exact iff_of_false nofun fun h => nomatch h.1

theorem caseName_str_eq_ok_iff {s : String} {controlled : ControlledCase} :
    caseName (.str s : PyValue Float) = .ok controlled ↔
      strip s.toList ≠ [] ∧ caseAliases.lookup (baseName s) = some controlled := by
  unfold caseName
  simp only [asText]
  by_cases hblank : strip s.toList = []
  · rw [if_pos hblank]
    exact iff_of_false nofun fun h => h.1 hblank
  · rw [if_neg hblank, Option.bind_some]
    cases caseAliases.lookup (baseName s) with
    | none => exact iff_of_false nofun nofun
    | some found => simp [hblank]

theorem caseName_dict {entries : List (String × PyValue Float)} {s : String}
    (h : asText (getField entries "name") = some s) :
    caseName (.dict entries) = caseName (.str s : PyValue Float) := by
  obtain ⟨hname, -⟩ := asText_eq_some_iff.mp h
  unfold getField at hname
  cases hlookup : entries.lookup "name" with
  | none => rw [hlookup] at hname; cases hname
  | some value =>
      rw [hlookup] at hname
      obtain rfl : value = .str s := hname
      simp [caseName, hlookup]

theorem validator_of_validateCase {case events : PyValue Float} {controlled : ControlledCase}
    {summary : CaseSummary Float} {items : List (PyValue Float)} {normalized : List EvidenceEvent}
    (hname : caseName case = .ok controlled) (hitems : eventItems events = .ok items)
    (hevents : items.mapM (validateEvent floats) = .ok normalized)
    (h : validateCase floats case events = .ok summary) :
    ∀ event ∈ normalized, controlled.validator event = .ok () := by
  rw [validateCase, hname] at h
  obtain ⟨_, ⟨⟩, h⟩ := bind_eq_ok_iff.mp h
  rw [hitems] at h
  obtain ⟨_, ⟨⟩, h⟩ := bind_eq_ok_iff.mp h
  rw [hevents] at h
  obtain ⟨_, ⟨⟩, h⟩ := bind_eq_ok_iff.mp h
  obtain ⟨_, -, h⟩ := bind_eq_ok_iff.mp h
  obtain ⟨_, -, h⟩ := bind_eq_ok_iff.mp h
  obtain ⟨⟨⟩, hall, -⟩ := bind_eq_ok_iff.mp h
  exact forM_eq_ok_iff.mp hall

end Entries

section Loop

variable {state state' : RunState} {entries : List (RunEntry Float)}

theorem validateEntry_eq_ok (h : validateEntry floats provenance state entry = .ok state') :
    entry.name ∉ state.seen ∧ ProvenEntry floats provenance entry ∧ ∃ controlled,
      entry.controlled = some controlled ∧ state' =
        { seen := state.seen ++ [entry.name]
          casesBySize := addTo entry.size controlled state.casesBySize
          hasSizeTags := state.hasSizeTags || isTagged entry.name } := by
  unfold validateEntry at h
  split at h
  · rename_i rawName hraw
    have hname : entry.name = rawName := by rw [RunEntry.name, hraw]; rfl
    obtain ⟨hnew, h⟩ := check_bind_eq_ok_iff.mp h
    obtain ⟨controlled, hcase, h⟩ := bind_eq_ok_iff.mp h
    obtain ⟨summary, hsummary, h⟩ := bind_eq_ok_iff.mp h
    obtain ⟨items, hitems, h⟩ := bind_eq_ok_iff.mp h
    obtain ⟨events, hevents, h⟩ := bind_eq_ok_iff.mp h
    obtain ⟨⟨⟩, hfrom, h⟩ := bind_eq_ok_iff.mp h
    have hlookup := (caseName_str_eq_ok_iff.mp hcase).2
    rw [baseName_baseName] at hlookup
    have hdict : caseName (.dict entry.case) = .ok controlled := by
      rw [caseName_dict hraw]
      exact caseName_str_eq_ok_iff.mpr ⟨(asText_eq_some_iff.mp hraw).2, hlookup⟩
    rw [← hname] at hlookup hnew
    refine ⟨hnew, ⟨controlled, summary, items, events, hlookup, hsummary, hitems, hevents,
      fun event hevent => ?_⟩, controlled, hlookup, ?_⟩
    · exact ⟨validator_of_validateCase hdict hitems hevents hsummary event hevent,
        checkProvenance_eq_ok_iff.mp (forM_eq_ok_iff.mp hfrom event hevent)⟩
    · rw [RunEntry.size, hname]
      exact (Except.ok.inj h).symm
  · cases h

structure Validated (floats : EvidenceFloats Float) (provenance : Provenance)
    (entries : List (RunEntry Float)) (state : RunState) : Prop where
  seen : state.seen = entries.map RunEntry.name
  nodup : (entries.map RunEntry.name).Nodup
  proven : ∀ entry ∈ entries, ProvenEntry floats provenance entry
  bySize : ∀ size, (state.casesBySize.lookup size).getD [] =
    (entries.filter fun entry => entry.size = size).filterMap RunEntry.controlled
  tagged : state.hasSizeTags = entries.any fun entry => isTagged entry.name

theorem Validated.nil : Validated floats provenance [] {} :=
  ⟨rfl, List.nodup_nil, List.forall_mem_nil _, fun _ => rfl, rfl⟩

theorem Validated.concat (hvalid : Validated floats provenance entries state)
    (h : validateEntry floats provenance state entry = .ok state') :
    Validated floats provenance (entries ++ [entry]) state' := by
  obtain ⟨hnew, hproven, controlled, hcontrolled, rfl⟩ := validateEntry_eq_ok h
  refine ⟨?_, ?_, ?_, fun size => ?_, ?_⟩
  · rw [List.map_append, hvalid.seen]
    rfl
  · rw [List.map_append]
    refine List.nodup_append.mpr ⟨hvalid.nodup, List.nodup_singleton _,
      fun name hname other hother h => hnew ?_⟩
    rw [hvalid.seen, ← List.mem_singleton.mp hother, ← h]
    exact hname
  · exact List.forall_mem_append.mpr ⟨hvalid.proven, List.forall_mem_singleton.mpr hproven⟩
  · rw [lookup_addTo, hvalid.bySize, List.filter_append, List.filterMap_append]
    by_cases hsize : entry.size = size
    · simp [hsize, hcontrolled]
    · simp [hsize, Ne.symm hsize]
  · simp [hvalid.tagged, List.any_append]

theorem Validated.foldlM (hvalid : Validated floats provenance entries state)
    {more : List (RunEntry Float)}
    (h : more.foldlM (validateEntry floats provenance) state = .ok state') :
    Validated floats provenance (entries ++ more) state' := by
  induction more generalizing entries state with
  | nil =>
      obtain rfl := Except.ok.inj h
      rwa [List.append_nil]
  | cons entry more ih =>
      obtain ⟨next, hnext, hrest⟩ := bind_eq_ok_iff.mp h
      have hall := ih (hvalid.concat hnext) hrest
      rwa [List.append_assoc] at hall

theorem baseName_of_not_isTagged {name : String} (h : isTagged name = false) :
    baseName name = name ∧ sizeTag name = "" := by
  have hall : ∀ c ∈ name.toList, decide (c ≠ '@') = true := by
    intro c hc
    refine decide_eq_true fun hat => of_decide_eq_false h ?_
    rwa [← hat]
  rw [baseName, sizeTag, List.takeWhile_eq_self_iff.mpr hall, List.dropWhile_eq_nil_iff.mpr hall,
    String.ofList_toList]
  exact ⟨rfl, rfl⟩

theorem Validated.complete (hvalid : Validated floats provenance entries state)
    (h : state.checkComplete = .ok ()) :
    ∀ entry ∈ entries, ∀ controlled, ∃ other ∈ entries, other.size = entry.size ∧
      other.controlled = some controlled := by
  intro entry hentry controlled
  have hrequired : controlled ∈ requiredCases := by cases controlled <;> decide
  unfold RunState.checkComplete at h
  split_ifs at h with htagged
  · -- the group of the entry's size has the entry's own case, so it is there
    obtain ⟨own, _, _, _, hown, -⟩ := hvalid.proven entry hentry
    have hgroup := hvalid.bySize entry.size
    have hmem : own ∈ (state.casesBySize.lookup entry.size).getD [] := by
      rw [hgroup]
      exact List.mem_filterMap.mpr ⟨entry, List.mem_filter.mpr ⟨hentry, decide_eq_true rfl⟩, hown⟩
    cases hlookup : state.casesBySize.lookup entry.size with
    | none => rw [hlookup] at hmem; cases hmem
    | some group =>
        rw [hlookup] at hgroup
        obtain ⟨before, after, hsplit, -⟩ := List.lookup_eq_some_iff.mp hlookup
        have hcheck := forM_eq_ok_iff.mp h (entry.size, group) (by rw [hsplit]; simp)
        obtain ⟨-, hfull, -⟩ := check_eq_ok_iff.mp hcheck
        have hfound := hfull hrequired
        rw [show group = _ from hgroup] at hfound
        obtain ⟨other, hother, hcase⟩ := List.mem_filterMap.mp hfound
        obtain ⟨hother, hsize⟩ := List.mem_filter.mp hother
        exact ⟨other, hother, of_decide_eq_true hsize, hcase⟩
  · obtain ⟨-, hfull, -⟩ := check_eq_ok_iff.mp h
    have hnone : ∀ entry ∈ entries, isTagged entry.name = false := by
      rw [hvalid.tagged] at htagged
      simpa using htagged
    have hname := hfull (List.mem_map_of_mem hrequired)
    rw [hvalid.seen] at hname
    obtain ⟨other, hother, hsame⟩ := List.mem_map.mp hname
    obtain ⟨hbase, hsize⟩ := baseName_of_not_isTagged (hnone other hother)
    refine ⟨other, hother, ?_, ?_⟩
    · rw [RunEntry.size, RunEntry.size, hsize, (baseName_of_not_isTagged (hnone entry hentry)).2]
    · rw [RunEntry.controlled, hbase, hsame]
      cases controlled <;> rfl

end Loop

section Runs

variable {manifest cases : PyValue Float} {entries : List (RunEntry Float)} {summary : RunSummary}
  {size : String}

/-- At every size there are four entries, one of each case, and all are proven. -/
def OneEvidencePerCase (floats : EvidenceFloats Float) (manifest cases : PyValue Float) : Prop :=
  ∃ provenance entries, manifestProvenance manifest = .ok provenance ∧
    iterCases cases = .ok entries ∧
    (∀ entry ∈ entries, (entries.countP fun other => other.size = entry.size) = 4 ∧ ∀ controlled,
      (entries.countP fun other => other.size = entry.size ∧ other.controlled = some controlled) =
        1) ∧
    ∀ entry ∈ entries, ProvenEntry floats provenance entry

def OneSpelling (cases : PyValue Float) : Prop :=
  ∀ entries, iterCases cases = .ok entries → ∀ a ∈ entries, ∀ b ∈ entries,
    a.size = b.size → a.controlled = b.controlled → a.name = b.name

theorem countP_size (hcases : ∀ entry ∈ entries, ∃ controlled, entry.controlled = some controlled)
    (size : String) :
    (entries.countP fun entry => entry.size = size) = (requiredCases.map fun controlled =>
      entries.countP fun entry => entry.size = size ∧ entry.controlled = some controlled).sum := by
  induction entries with
  | nil => rfl
  | cons entry entries ih =>
      obtain ⟨⟨controlled, hentry⟩, hcases⟩ := List.forall_mem_cons.mp hcases
      have hrest := ih hcases
      simp only [requiredCases, List.map_cons, List.map_nil, List.sum_cons, List.sum_nil] at hrest ⊢
      by_cases hsize : entry.size = size
      · cases controlled <;> simp [hsize, hentry, -Bool.decide_and] <;> omega
      · simp [hsize, hrest]

theorem validateRun_eq_ok (h : validateRun floats manifest cases = .ok summary) :
    ∃ provenance entries state, manifestProvenance manifest = .ok provenance ∧
      iterCases cases = .ok entries ∧
      Validated floats provenance entries state ∧ state.checkComplete = .ok () := by
  obtain ⟨provenance, hprovenance, h⟩ := bind_eq_ok_iff.mp h
  obtain ⟨entries, hentries, h⟩ := bind_eq_ok_iff.mp h
  obtain ⟨state, hstate, h⟩ := bind_eq_ok_iff.mp h
  obtain ⟨⟨⟩, hcomplete, -⟩ := bind_eq_ok_iff.mp h
  exact ⟨provenance, entries, state, hprovenance, hentries, Validated.nil.foldlM hstate, hcomplete⟩

/-- **One evidence for each case.** An accepted run has it exactly when no case is spelled in two
ways. -/
theorem validateRun_exact_iff (h : validateRun floats manifest cases = .ok summary) :
    OneEvidencePerCase floats manifest cases ↔ OneSpelling cases := by
  obtain ⟨provenance, entries, state, hprovenance, hentries, hvalid, hcomplete⟩ :=
    validateRun_eq_ok h
  constructor
  · rintro ⟨_, _, -, hsame, hcount, hproven⟩ _ hsame' a ha b hb hsize hcase
    obtain rfl := Except.ok.inj (hsame.symm.trans hsame')
    obtain ⟨controlled, _, _, _, hcontrolled, -⟩ := hproven b hb
    have heq : a = b := by
      refine eq_of_countP_eq_one ((hcount b hb).2 controlled) ha hb ?_ ?_
      · exact decide_eq_true ⟨hsize, hcase.trans hcontrolled⟩
      · exact decide_eq_true ⟨rfl, hcontrolled⟩
    rw [heq]
  · intro hspelling
    have hone : ∀ entry ∈ entries, ∀ controlled, (entries.countP fun other =>
        other.size = entry.size ∧ other.controlled = some controlled) = 1 := by
      intro entry hentry controlled
      refine le_antisymm ?_ ?_
      · refine countP_le_one hvalid.nodup fun a ha b hb hpa hpb => ?_
        obtain ⟨hasize, hacase⟩ := of_decide_eq_true hpa
        obtain ⟨hbsize, hbcase⟩ := of_decide_eq_true hpb
        exact hspelling entries hentries a ha b hb (hasize.trans hbsize.symm)
          (hacase.trans hbcase.symm)
      · obtain ⟨other, hother, hsize, hcase⟩ := hvalid.complete hcomplete entry hentry controlled
        exact List.countP_pos_iff.mpr ⟨other, hother, decide_eq_true ⟨hsize, hcase⟩⟩
    refine ⟨provenance, entries, hprovenance, hentries, fun entry hentry => ⟨?_, hone entry hentry⟩,
      hvalid.proven⟩
    have hcases : ∀ other ∈ entries, ∃ controlled, other.controlled = some controlled := by
      intro other hother
      obtain ⟨controlled, _, _, _, hcontrolled, -⟩ := hvalid.proven other hother
      exact ⟨controlled, hcontrolled⟩
    rw [countP_size hcases]
    simp only [requiredCases, List.map_cons, List.map_nil, hone entry hentry]
    rfl

end Runs

section Samples

def sampleEvidenceFloats : EvidenceFloats Unit where
  num := unitNum
  isFinite _ := true

def sampleEvent : ControlledCase → PyValue Unit
  | .localReuse =>
    event "worker-a" "worker-a" "local_prefix_present" "local_reuse" 256 0 "none" true
  | .recompute => event "worker-a" "worker-b" "transfer_disabled" "recomputed" 0 0 "recompute" false
  | .destinationHit =>
      event "worker-b" "worker-b" "independently_warmed_destination" "destination_hit" 256 0 "none"
        true
  | .realTransfer =>
      event "mooncake_store" "worker-b" "remote_prefix_available" "transferred" 256 256 "none" true
where
  event (source destination reason result : String) (reusable transferred : Int) (fallback : String)
      (consumed : Bool) : PyValue Unit :=
    .dict [("request_id", .str "request-1"), ("conversation_id", .str "conversation-1"),
      ("agent_step", .int 2),
      ("prefix_identity", .str "sha256:canonical-prefix"), ("prefix_version", .str "v1"),
      ("source_worker_or_store", .str source), ("destination_worker", .str destination),
      ("compatibility_namespace", .str "namespace"), ("hop_decision_reason", .str reason),
      ("hop_result", .str result),
      ("reusable_tokens", .int reusable), ("transferred_tokens", .int transferred),
      ("transferred_bytes", .int (1024 * transferred)), ("lookup_ms", .float ()),
      ("transfer_ms", .int 0),
      ("confirm_ms", .float ()), ("fallback_action", .str fallback), ("consumed", .bool consumed),
      ("evidence_scope", .str "per_request")]

def sampleManifest : PyValue Unit :=
  .dict
    [("topology", .dict [("workers", .list [.str "worker-a", .dict [("id", .str "worker-b")]])]),
    ("versions", .dict (versionFields.map fun field => (field, .str "v1"))),
    ("compatibility_namespace", .str "namespace"), ("control_isolation_statement", .str "isolated")]

def sampleCases (named : List (String × ControlledCase)) : PyValue Unit :=
  .dict (named.map fun (name, controlled) => (name, .list [sampleEvent controlled]))

def fourNames : List (String × ControlledCase) :=
  [("local_reuse@4k", .localReuse), ("cross_worker_recompute@4k", .recompute),
    ("destination_local_hit@4k", .destinationHit), ("real_transfer@4k", .realTransfer)]

def sampleRecord : ControlledCase → EvidenceEvent
  | .localReuse =>
    record "worker-a" "worker-a" "local_prefix_present" "local_reuse" 256 0 "none" true
  | .recompute =>
    record "worker-a" "worker-b" "transfer_disabled" "recomputed" 0 0 "recompute" false
  | .destinationHit =>
      record "worker-b" "worker-b" "independently_warmed_destination" "destination_hit" 256 0 "none"
        true
  | .realTransfer =>
    record "mooncake_store" "worker-b" "remote_prefix_available" "transferred" 256 256 "none" true
where
  record (source destination reason result : String) (reusable transferred : Nat)
      (fallback : String) (consumed : Bool) : EvidenceEvent :=
    { requestId := "request-1", conversationId := "conversation-1", agentStep := .number 2
      prefixIdentity := "sha256:canonical-prefix", prefixVersion := "v1", sourceWorkerOrStore :=
        source
      destinationWorker := destination, compatibilityNamespace := "namespace", hopDecisionReason :=
        reason
      hopResult := result, reusableTokens := reusable, transferredTokens := transferred
      transferredBytes := 1024 * transferred, fallbackAction := fallback, consumed := consumed
      evidenceScope := .perRequest }

theorem asText_ofList {letters : List Char} (h : strip letters ≠ []) :
    asText (.str (String.ofList letters) : PyValue Unit) = some (String.ofList letters) :=
  asText_eq_some_iff.mpr ⟨rfl, by rwa [String.toList_ofList]⟩

theorem requireTextField_of {event : List (String × PyValue Float)} {field text : String}
    (hfield : getField event field = .str text)
    (htext : asText (.str text : PyValue Float) = some text) :
    requireTextField event field = .ok text := by
  rw [requireTextField, hfield, htext]

theorem validateEvent_event {source destination reason result fallback : String}
    {reusable transferred : Nat} {consumed : Bool}
    (hsource : asText (.str source : PyValue Unit) = some source)
    (hdestination : asText (.str destination : PyValue Unit) = some destination)
    (hreason : asText (.str reason : PyValue Unit) = some reason)
    (hresult : asText (.str result : PyValue Unit) = some result)
    (hfallback : asText (.str fallback : PyValue Unit) = some fallback) :
    validateEvent sampleEvidenceFloats
        (sampleEvent.event source destination reason result reusable transferred fallback consumed)
        =
      .ok (sampleRecord.record source destination reason result reusable transferred fallback
      consumed) := by
  have hrequest : asText (.str "request-1" : PyValue Unit) = some "request-1" :=
    asText_ofList (by decide)
  have hconversation : asText (.str "conversation-1" : PyValue Unit) = some "conversation-1" :=
    asText_ofList (by decide)
  have hnamespace : asText (.str "namespace" : PyValue Unit) = some "namespace" :=
    asText_ofList (by decide)
  rw [sampleEvent.event, validateEvent]
  refine check_bind_eq_ok_iff.mpr
    ⟨rfl, bind_eq_ok_iff.mpr ⟨("sha256:canonical-prefix", "v1"), rfl, ?_⟩⟩
  refine bind_eq_ok_iff.mpr ⟨_, requireTextField_of rfl hrequest, ?_⟩
  refine bind_eq_ok_iff.mpr ⟨_, requireTextField_of rfl hconversation, ?_⟩
  refine bind_eq_ok_iff.mpr ⟨_, requireTextField_of rfl hsource, ?_⟩
  refine bind_eq_ok_iff.mpr ⟨_, requireTextField_of rfl hdestination, ?_⟩
  refine bind_eq_ok_iff.mpr ⟨_, requireTextField_of rfl hnamespace, ?_⟩
  refine bind_eq_ok_iff.mpr ⟨_, requireTextField_of rfl hreason, ?_⟩
  refine bind_eq_ok_iff.mpr ⟨_, requireTextField_of rfl hresult, ?_⟩
  refine bind_eq_ok_iff.mpr ⟨_, requireTextField_of rfl hfallback, ?_⟩
  iterate 9 refine bind_eq_ok_iff.mpr ⟨_, rfl, ?_⟩
  rfl

theorem validateEvent_sampleEvent (controlled : ControlledCase) :
    validateEvent sampleEvidenceFloats (sampleEvent controlled) =
      .ok (sampleRecord controlled) := by
  cases controlled <;> refine validateEvent_event ?_ ?_ ?_ ?_ ?_ <;> exact asText_ofList (by decide)

theorem validator_sampleRecord (controlled : ControlledCase) :
    controlled.validator (sampleRecord controlled) = .ok () := by
  cases controlled <;> rfl

def sampleProvenance : Provenance := ⟨["worker-a", "worker-b"], "namespace", "v1"⟩

theorem manifestProvenance_sampleManifest :
    manifestProvenance sampleManifest = .ok sampleProvenance := rfl

theorem fromRun_sampleRecord (controlled : ControlledCase) :
    FromRun sampleProvenance (sampleRecord controlled) := by
  cases controlled <;> simp [FromRun, sampleProvenance, sampleRecord, sampleRecord.record]

def RunState.accept (state : RunState) (named : String × ControlledCase) : RunState where
  seen := state.seen ++ [named.1]
  casesBySize := addTo (sizeTag named.1) named.2 state.casesBySize
  hasSizeTags := state.hasSizeTags || isTagged named.1

def sampleEntry (named : String × ControlledCase) : RunEntry Unit :=
  ⟨[("name", .str named.1)], .list [sampleEvent named.2]⟩

theorem validateEntry_sampleEntry {named : String × ControlledCase}
    (hblank : strip named.1.toList ≠ [])
    (hcase : caseName (.str (baseName named.1) : PyValue Unit) = .ok named.2)
    (hnew : named.1 ∉ state.seen) :
    validateEntry sampleEvidenceFloats sampleProvenance state (sampleEntry named) =
      .ok (state.accept named) := by
  have htext : asText (getField [("name", (.str named.1 : PyValue Unit))] "name") = some named.1 :=
    asText_eq_some_iff.mpr ⟨rfl, hblank⟩
  have hnamed : caseName (.dict [("name", (.str named.1 : PyValue Unit))]) = .ok named.2 := by
    rw [caseName_dict htext]
    have hlookup := (caseName_str_eq_ok_iff.mp hcase).2
    rw [baseName_baseName] at hlookup
    exact caseName_str_eq_ok_iff.mpr ⟨hblank, hlookup⟩
  have hevents : [sampleEvent named.2].mapM (validateEvent sampleEvidenceFloats) =
      .ok [sampleRecord named.2] := by
    rw [List.mapM_cons, validateEvent_sampleEvent]
    rfl
  have hvalid : [sampleRecord named.2].forM named.2.validator = .ok () :=
    forM_eq_ok_iff.mpr (List.forall_mem_singleton.mpr (validator_sampleRecord named.2))
  have hsummary : validateCase sampleEvidenceFloats
      (.dict [("name", (.str named.1 : PyValue Unit))])
      (.list [sampleEvent named.2]) =
        .ok ⟨.str named.1, 1, (sampleRecord named.2).evidenceScope⟩ := by
    refine bind_eq_ok_iff.mpr ⟨_, hnamed,
      bind_eq_ok_iff.mpr ⟨_, rfl, bind_eq_ok_iff.mpr ⟨_, hevents, ?_⟩⟩⟩
    refine bind_eq_ok_iff.mpr ⟨(), check_eq_ok_iff.mpr (List.forall_mem_nil _), ?_⟩
    refine bind_eq_ok_iff.mpr ⟨(sampleRecord named.2).evidenceScope, by simp [oneScope], ?_⟩
    exact bind_eq_ok_iff.mpr ⟨(), hvalid, rfl⟩
  have hfrom : [sampleRecord named.2].forM (checkProvenance sampleProvenance) = .ok () :=
    forM_eq_ok_iff.mpr (List.forall_mem_singleton.mpr
      (checkProvenance_eq_ok_iff.mpr (fromRun_sampleRecord named.2)))
  rw [validateEntry, sampleEntry, htext]
  refine check_bind_eq_ok_iff.mpr
    ⟨hnew, bind_eq_ok_iff.mpr ⟨_, hcase, bind_eq_ok_iff.mpr ⟨_, hsummary, ?_⟩⟩⟩
  exact bind_eq_ok_iff.mpr ⟨_, rfl,
    bind_eq_ok_iff.mpr ⟨_, hevents, bind_eq_ok_iff.mpr ⟨(), hfrom, rfl⟩⟩⟩

theorem foldlM_sampleEntry {named : List (String × ControlledCase)}
    (hnamed : ∀ one ∈ named, strip one.1.toList ≠ [] ∧
      caseName (.str (baseName one.1) : PyValue Unit) = .ok one.2)
    (hnodup : (state.seen ++ named.map Prod.fst).Nodup) :
    (named.map sampleEntry).foldlM (validateEntry sampleEvidenceFloats sampleProvenance) state =
      .ok (named.foldl RunState.accept state) := by
  induction named generalizing state with
  | nil => rfl
  | cons one named ih =>
      obtain ⟨⟨hblank, hcase⟩, hnamed⟩ := List.forall_mem_cons.mp hnamed
      have hnew : one.1 ∉ state.seen := fun hmem =>
        List.disjoint_of_nodup_append hnodup hmem List.mem_cons_self
      rw [List.map_cons, List.foldlM_cons, List.foldl_cons]
      refine bind_eq_ok_iff.mpr ⟨_, validateEntry_sampleEntry hblank hcase hnew, ih hnamed ?_⟩
      rw [RunState.accept, List.append_assoc, List.singleton_append]
      exact hnodup

theorem iterCases_sampleCases (named : List (String × ControlledCase)) :
    iterCases (sampleCases named) = .ok (named.map sampleEntry) := by
  rw [sampleCases, iterCases, List.map_map]
  rfl

theorem validateRun_sampleCases {named : List (String × ControlledCase)} {cases : List String}
    (hnamed : ∀ one ∈ named, strip one.1.toList ≠ [] ∧
      caseName (.str (baseName one.1) : PyValue Unit) = .ok one.2)
    (hnodup : (named.map Prod.fst).Nodup) (hcases : (named.foldl RunState.accept {}).seen = cases)
    (hcomplete : (named.foldl RunState.accept {}).checkComplete = .ok ()) :
    validateRun sampleEvidenceFloats sampleManifest (sampleCases named) =
      .ok { valid := true, caseCount := cases.length, cases } := by
  subst hcases
  refine bind_eq_ok_iff.mpr ⟨_, manifestProvenance_sampleManifest,
    bind_eq_ok_iff.mpr ⟨_, iterCases_sampleCases named, ?_⟩⟩
  exact bind_eq_ok_iff.mpr ⟨_, foldlM_sampleEntry hnamed hnodup,
    bind_eq_ok_iff.mpr ⟨(), hcomplete, rfl⟩⟩

structure NamesCase (one : String × ControlledCase) : Prop where
  nonblank : strip one.1.toList ≠ []
  base : caseName (.str (baseName one.1) : PyValue Unit) = .ok one.2
  size : sizeTag one.1 = "4k"
  tagged : isTagged one.1 = true

theorem NamesCase.of {letters base : List Char} {controlled : ControlledCase}
    (hblank : strip letters ≠ []) (hbase : letters.takeWhile (· ≠ '@') = base)
    (hsize : letters.dropWhile (· ≠ '@') = ['@', '4', 'k'])
    (hbaseBlank : strip base ≠ [])
    (hlookup : caseAliases.lookup (String.ofList base) = some controlled) :
    NamesCase (String.ofList letters, controlled) := by
  have hname : baseName (String.ofList letters) = String.ofList base := by
    rw [baseName, String.toList_ofList, hbase]
  have hmem : '@' ∈ letters := by
    rw [← List.takeWhile_append_dropWhile (p := (· ≠ '@')) (l := letters), hsize]
    simp
  refine ⟨by rwa [String.toList_ofList], caseName_str_eq_ok_iff.mpr ?_, ?_, ?_⟩
  · rw [baseName_baseName, hname, String.toList_ofList]
    exact ⟨hbaseBlank, hlookup⟩
  · rw [sizeTag, String.toList_ofList, hsize]
    rfl
  · rw [isTagged, String.toList_ofList]
    exact decide_eq_true hmem

theorem NamesCase.reads {one : String × ControlledCase} (h : NamesCase one) :
    (sampleEntry one).name = one.1 ∧ (sampleEntry one).size = "4k" ∧
      (sampleEntry one).controlled = some one.2 := by
  have htext : asText (getField (sampleEntry one).case "name") = some one.1 :=
    asText_eq_some_iff.mpr ⟨rfl, h.nonblank⟩
  have hname : (sampleEntry one).name = one.1 := by rw [RunEntry.name, htext, Option.getD_some]
  have hlookup := (caseName_str_eq_ok_iff.mp h.base).2
  rw [baseName_baseName] at hlookup
  exact ⟨hname, by rw [RunEntry.size, hname, h.size], by rw [RunEntry.controlled, hname, hlookup]⟩

theorem foldl_accept {named : List (String × ControlledCase)}
    (hnamed : ∀ one ∈ named, NamesCase one) (seen : List String) (cases : List ControlledCase) :
    named.foldl RunState.accept ⟨seen, [("4k", cases)], true⟩ =
      ⟨seen ++ named.map Prod.fst, [("4k", cases ++ named.map Prod.snd)], true⟩ := by
  induction named generalizing seen cases with
  | nil => simp
  | cons one named ih =>
      obtain ⟨hone, hnamed⟩ := List.forall_mem_cons.mp hnamed
      have hadd : addTo "4k" one.2 [("4k", cases)] = [("4k", cases ++ [one.2])] := by simp [addTo]
      rw [List.foldl_cons, RunState.accept, hone.size, hadd, Bool.true_or, ih hnamed]
      simp

theorem validateRun_of_named {one : String × ControlledCase}
    {named : List (String × ControlledCase)} (hnamed : ∀ other ∈ one :: named, NamesCase other)
    (hnodup : ((one :: named).map Prod.fst).Nodup)
    (hcases : (one :: named).map Prod.snd ⊆ requiredCases ∧
      requiredCases ⊆ (one :: named).map Prod.snd ∧
      ((one :: named).map Prod.snd).dedup.length = requiredCases.length) :
    validateRun sampleEvidenceFloats sampleManifest (sampleCases (one :: named)) =
      .ok
      { valid := true, caseCount := named.length + 1, cases := (one :: named).map Prod.fst } := by
  obtain ⟨hone, hrest⟩ := List.forall_mem_cons.mp hnamed
  have hstate : (one :: named).foldl RunState.accept {} =
      ⟨(one :: named).map Prod.fst, [("4k", (one :: named).map Prod.snd)], true⟩ := by
    rw [List.foldl_cons, RunState.accept, hone.size, hone.tagged]
    exact foldl_accept hrest [one.1] [one.2]
  have hcomplete : ((one :: named).foldl RunState.accept {}).checkComplete = .ok () := by
    rw [hstate]
    exact forM_eq_ok_iff.mpr (List.forall_mem_singleton.mpr (check_eq_ok_iff.mpr hcases))
  have hrun := validateRun_sampleCases (fun other hother => ⟨(hnamed other hother).nonblank,
    (hnamed other hother).base⟩) hnodup (congrArg RunState.seen hstate) hcomplete
  rwa [List.length_map, List.length_cons] at hrun

theorem fourNames_named : ∀ one ∈ fourNames, NamesCase one := by
  simp only [fourNames, List.forall_mem_cons]
  refine ⟨?_, ?_, ?_, ?_, List.forall_mem_nil _⟩
  · exact NamesCase.of (by decide) rfl rfl (by decide) rfl
  · exact NamesCase.of (by decide) rfl rfl (by decide) rfl
  · exact NamesCase.of (by decide) rfl rfl (by decide) rfl
  · exact NamesCase.of (by decide) rfl rfl (by decide) rfl

theorem validateRun_fourNames :
    validateRun sampleEvidenceFloats sampleManifest (sampleCases fourNames) =
    .ok { valid := true, caseCount := 4, cases := fourNames.map Prod.fst } :=
  validateRun_of_named fourNames_named (by decide) (by decide)

theorem validateRun_exact_iff_fourNames :
    OneEvidencePerCase sampleEvidenceFloats sampleManifest (sampleCases fourNames) := by
  refine (validateRun_exact_iff validateRun_fourNames).mpr fun entries hentries => ?_
  obtain rfl := Except.ok.inj ((iterCases_sampleCases fourNames).symm.trans hentries)
  have hnodup : (fourNames.map Prod.snd).Nodup := by decide
  refine List.forall_mem_map.mpr fun one hone => List.forall_mem_map.mpr fun other hother => ?_
  obtain ⟨hname, -, hcase⟩ := (fourNames_named one hone).reads
  obtain ⟨hname', -, hcase'⟩ := (fourNames_named other hother).reads
  intro _ hsame
  rw [hcase, hcase', Option.some.injEq] at hsame
  rw [List.inj_on_of_nodup_map hnodup hone hother hsame]

def fiveNames : List (String × ControlledCase) :=
  ("same_worker_local_reuse@4k", .localReuse) :: fourNames

theorem fiveNames_named : ∀ one ∈ fiveNames, NamesCase one :=
  List.forall_mem_cons.mpr ⟨NamesCase.of (by decide) rfl rfl (by decide) rfl, fourNames_named⟩

theorem local_reuse_accepted_twice :
    validateRun sampleEvidenceFloats sampleManifest (sampleCases fiveNames) =
        .ok { valid := true, caseCount := 5, cases := fiveNames.map Prod.fst } ∧
      ¬ OneEvidencePerCase sampleEvidenceFloats sampleManifest (sampleCases fiveNames) := by
  refine ⟨validateRun_of_named fiveNames_named (by decide) (by decide), ?_⟩
  rintro ⟨_, entries, -, hentries, hcount, -⟩
  obtain rfl := Except.ok.inj ((iterCases_sampleCases fiveNames).symm.trans hentries)
  obtain ⟨hfour, -⟩ := hcount _ (List.mem_map_of_mem List.mem_cons_self)
  have hall : ∀ other ∈ fiveNames.map sampleEntry, decide (other.size = "4k") = true :=
    List.forall_mem_map.mpr fun one hone => decide_eq_true (fiveNames_named one hone).reads.2.1
  rw [(fiveNames_named _ List.mem_cons_self).reads.2.1, List.countP_eq_length.mpr hall,
    List.length_map] at hfour
  exact absurd hfour (by decide)

end Samples

end AiAnalytics.KvTransfer
