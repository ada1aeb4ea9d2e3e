import AiAnalytics.KvTransfer.Proof.DirectoryRecords
import Mathlib.Tactic.Linarith

/-!
# What the directory answers was reported and not revoked

Every record is backed by the last report for its prefix and location in the history of the calls;
as long as it is not marked stale, nothing in the history since then has revoked it.
-/

namespace AiAnalytics.KvTransfer

open Lib

section Events

def DirectoryEvent.Replaces (event : DirectoryEvent) (identity : PrefixIdentity)
    (location : String) : Prop :=
  match event.call, event.reply with
  | .upsert identity' location' _ _ _ _, .stored _ => identity' = identity ∧ location' = location
  | .invalidate identity' location' _, .invalidated _ => identity' = identity ∧ location' = location
  | _, _ => False

def DirectoryEvent.Voids (event : DirectoryEvent) (identity : PrefixIdentity)
    (location generation : String) : Prop :=
  match event.call, event.reply with
  | .invalidateNamespace compatibilityNamespace _, .staled _ =>
      compatibilityNamespace = identity.compatibilityNamespace
  | .observeWorker location' generation', .staled _ =>
    location' = location ∧ generation' ≠ generation
  | _, _ => False

structure DirectoryEvent.Quiet (event : DirectoryEvent) : Prop where
  replaces : ∀ identity location, ¬ event.Replaces identity location
  voids : ∀ identity location generation, ¬ event.Voids identity location generation

theorem quiet_raised (call : DirectoryCall) (error : String) (reading : Nat) :
    DirectoryEvent.Quiet ⟨call, .raised error, reading⟩ := by
  constructor
  · intro identity location h
    cases call <;> exact h
  · intro identity location generation h
    cases call <;> exact h

end Events

section Backing

variable {clock : Nat → ℚ} {history : List DirectoryEvent} {event : DirectoryEvent}
  {record : DirectoryRecord}

structure Reported (clock : Nat → ℚ) (event : DirectoryEvent) (record : DirectoryRecord) :
    Prop where
  call : event.call = .upsert record.prefixIdentity record.location record.workerGeneration
    record.reusableTokens record.storedBytes record.complete
  stored : ∃ stored, event.reply = .stored stored
  observedAt : record.observedAt = clock event.reading

def Backed (clock : Nat → ℚ) (history : List DirectoryEvent) (record : DirectoryRecord) : Prop :=
  ∃ before event after, history = before ++ event :: after ∧ Reported clock event record ∧
    (∀ later ∈ after, ¬ later.Replaces record.prefixIdentity record.location) ∧
    (record.staleReason = none →
      ∀ later ∈ after, ¬ later.Voids record.prefixIdentity record.location record.workerGeneration)

theorem Backed.snoc (h : Backed clock history record)
    (hreplaces : ¬ event.Replaces record.prefixIdentity record.location)
    (hvoids : record.staleReason = none →
      ¬ event.Voids record.prefixIdentity record.location record.workerGeneration) :
    Backed clock (history ++ [event]) record := by
  obtain ⟨before, report, after, rfl, hreport, hkept, hunvoided⟩ := h
  refine ⟨before, report, after ++ [event], by simp, hreport, ?_, fun hunmarked => ?_⟩
  · exact List.forall_mem_append.mpr ⟨hkept, List.forall_mem_singleton.mpr hreplaces⟩
  · exact List.forall_mem_append.mpr ⟨hunvoided hunmarked,
      List.forall_mem_singleton.mpr (hvoids hunmarked)⟩

theorem Backed.mark (h : Backed clock history record) (reason : String) :
    Backed clock history { record with staleReason := some reason } := by
  obtain ⟨before, report, after, hhistory, hreport, hkept, -⟩ := h
  exact ⟨before, report, after, hhistory, ⟨hreport.call, hreport.stored, hreport.observedAt⟩, hkept,
    nofun⟩

theorem Backed.use (h : Backed clock history record) (time : ℚ) :
    Backed clock history { record with lastAccessedAt := time } := by
  obtain ⟨before, report, after, hhistory, hreport, hkept, hunvoided⟩ := h
  exact ⟨before, report, after, hhistory, ⟨hreport.call, hreport.stored, hreport.observedAt⟩, hkept,
    hunvoided⟩

end Backing

structure Believed (clock : Nat → ℚ) (ledger : DirectoryLedger) (key : PrefixIdentity × String)
    (record : DirectoryRecord) : Prop where
  keyed : record.key = key
  backed : Backed clock ledger.history record
  observed : record.staleReason = none →
    ledger.directory.workerGenerations record.location = some record.workerGeneration
  tokens_pos : 0 < record.reusableTokens
  bytes_pos : 0 < record.storedBytes

def AllBelieved (clock : Nat → ℚ) (ledger : DirectoryLedger) : Prop :=
  ∀ key record, ledger.directory.records.get? key = some record → Believed clock ledger key record

section Steps

variable {clock : Nat → ℚ} {ledger : DirectoryLedger} {next : MetadataDirectory}
  {event : DirectoryEvent}

theorem AllBelieved.of_inherits (h : AllBelieved clock ledger)
    (hinherits : Inherits ledger.directory next) (hquiet : event.Quiet) :
    AllBelieved clock ⟨next, ledger.history ++ [event]⟩ := by
  intro key record hrecord
  obtain ⟨earlier, time, hearlier, rfl⟩ := hinherits.records key record hrecord
  have hbelieved := h key earlier hearlier
  refine ⟨hbelieved.keyed, (hbelieved.backed.use time).snoc (hquiet.replaces _ _) fun _ =>
    hquiet.voids _ _ _, ?_, hbelieved.tokens_pos, hbelieved.bytes_pos⟩
  intro hunmarked
  rw [hinherits.generations]
  exact hbelieved.observed hunmarked

theorem get?_markStale {directory : MetadataDirectory} {predicate : DirectoryRecord → Bool}
    {reason : String} {key : PrefixIdentity × String} {record : DirectoryRecord}
    (h : (directory.markStale predicate reason).2.records.get? key = some record) :
    ∃ earlier, directory.records.get? key = some earlier ∧
      (record = earlier ∧ (record.staleReason = none → predicate record = false) ∨
        record = { earlier with staleReason := some reason }) := by
  rw [MetadataDirectory.markStale, OrderedDict.get?_mapValues] at h
  obtain ⟨earlier, hearlier, rfl⟩ := Option.map_eq_some_iff.mp h
  refine ⟨earlier, hearlier, ?_⟩
  by_cases hmarks : (predicate earlier && earlier.staleReason.isNone) = true
  · exact .inr (if_pos hmarks)
  · rw [if_neg hmarks]
    refine .inl ⟨rfl, fun hunmarked => ?_⟩
    simpa [hunmarked] using hmarks

theorem allBelieved_markStale (h : AllBelieved clock ledger) {generations : String → Option String}
    {predicate : DirectoryRecord → Bool} {reason : String}
    (hreplaces : ∀ identity location, ¬ event.Replaces identity location)
    (hvoids : ∀ record : DirectoryRecord, predicate record = false →
      ¬ event.Voids record.prefixIdentity record.location record.workerGeneration ∧
        generations record.location = ledger.directory.workerGenerations record.location) :
    AllBelieved clock
      ⟨({ ledger.directory with workerGenerations := generations }.markStale predicate reason).2,
        ledger.history ++ [event]⟩ := by
  intro key record hrecord
  obtain ⟨earlier, hearlier, ⟨rfl, hspared⟩ | rfl⟩ := get?_markStale hrecord
  · have hbelieved := h key record hearlier
    refine ⟨hbelieved.keyed, hbelieved.backed.snoc (hreplaces _ _) fun hunmarked => ?_,
      fun hunmarked => ?_, hbelieved.tokens_pos, hbelieved.bytes_pos⟩
    · exact (hvoids record (hspared hunmarked)).1
    · exact (hvoids record (hspared hunmarked)).2.trans (hbelieved.observed hunmarked)
  · have hbelieved := h key earlier hearlier
    exact ⟨hbelieved.keyed, (hbelieved.backed.mark reason).snoc (hreplaces _ _) nofun, nofun,
      hbelieved.tokens_pos, hbelieved.bytes_pos⟩

theorem get?_of_get?_evict {directory : MetadataDirectory} {excess : Nat}
    {key : PrefixIdentity × String} {record : DirectoryRecord}
    (h : (directory.evict excess).records.get? key = some record) :
    directory.records.get? key = some record := by
  induction excess generalizing directory with
  | zero => exact h
  | succ excess ih => exact OrderedDict.get?_of_get?_popFirst (ih h)

theorem evict_generations (directory : MetadataDirectory) (excess : Nat) :
    (directory.evict excess).workerGenerations = directory.workerGenerations := by
  induction excess generalizing directory with
  | zero => rfl
  | succ excess ih => exact ih _

theorem of_upsertError_eq_none {directory : MetadataDirectory} {identity : PrefixIdentity}
    {location generation : String} {tokens bytes : Int}
    (h : directory.upsertError identity location generation tokens bytes = none) :
    0 < tokens ∧ tokens ≤ identity.tokenCount ∧ 0 < bytes ∧
      directory.workerGenerations location = some generation := by
  rw [MetadataDirectory.upsertError, Option.orElse_eq_none] at h
  obtain ⟨-, h⟩ := h
  split_ifs at h with htokens hbytes
  split at h
  · cases h
  · rename_i current hcurrent
    split_ifs at h with hgeneration
    rw [not_not.mp hgeneration] at hcurrent
    exact ⟨by omega, by omega, by omega, hcurrent⟩

theorem serve_observeWorker {location generation : String} {reply : Except String Nat}
    (h : ledger.directory.observeWorker location generation = (reply, next)) :
    ledger.serve clock (.observeWorker location generation) =
      ⟨next, ledger.history ++
        [⟨.observeWorker location generation, replied .staled reply,
        ledger.directory.readings⟩]⟩ := by
  simp only [DirectoryLedger.serve, MetadataDirectory.serve, h]
  rfl

theorem serve_upsert {identity : PrefixIdentity} {location generation : String} {tokens bytes : Int}
    {complete : Bool} {reply : Except String DirectoryRecord}
    (h : ledger.directory.upsert clock identity location generation tokens bytes complete =
      (reply, next)) :
    ledger.serve clock (.upsert identity location generation tokens bytes complete) =
      ⟨next, ledger.history ++
        [⟨.upsert identity location generation tokens bytes complete, replied .stored reply,
          ledger.directory.readings⟩]⟩ := by
  simp only [DirectoryLedger.serve, MetadataDirectory.serve, h]
  rfl

theorem AllBelieved.raised (h : AllBelieved clock ledger) {call : DirectoryCall} {error : String}
    (hserve : ledger.directory.serve clock call = (.raised error, ledger.directory)) :
    AllBelieved clock (ledger.serve clock call) := by
  rw [DirectoryLedger.serve, hserve]
  exact h.of_inherits (.refl _) (quiet_raised _ _ _)

theorem observeWorker_cases (directory : MetadataDirectory) (location generation : String) :
    (∃ error, directory.observeWorker location generation = (.error error, directory)) ∨
      ((∀ previous, directory.workerGenerations location = some previous → previous = generation) ∧
        directory.observeWorker location generation =
          (.ok 0, { directory with
            workerGenerations :=
  Function.update directory.workerGenerations location (some generation) })) ∨
      ∃ count, directory.observeWorker location generation =
        (.ok count, ({ directory with
          workerGenerations :=
            Function.update directory.workerGenerations location (some generation) }.markStale
            (fun record => record.location = location) "worker_generation_changed").2) := by
  unfold MetadataDirectory.observeWorker
  split
  · exact .inl ⟨_, rfl⟩
  · by_cases hsame : directory.workerGenerations location = none ∨
        directory.workerGenerations location = some generation
    · refine .inr (.inl ⟨fun previous hprevious => ?_, if_pos hsame⟩)
      rw [hprevious] at hsame
      simpa using hsame
    · exact .inr (.inr ⟨_, if_neg hsame⟩)

theorem allBelieved_observeWorker (h : AllBelieved clock ledger) (location generation : String) :
    AllBelieved clock (ledger.serve clock (.observeWorker location generation)) := by
  rcases observeWorker_cases ledger.directory location generation with
    ⟨error, hequation⟩ | ⟨hsame, hequation⟩ | ⟨count, hequation⟩
  · exact h.raised (congrArg (Prod.map (replied .staled) id) hequation)
  · rw [serve_observeWorker hequation]
    intro key record hrecord
    have hbelieved := h key record hrecord
    -- An unmarked record of the location is of the generation that was seen before, which is this
    -- one.
    have hgeneration (hunmarked : record.staleReason = none)
        (hlocation : record.location = location) :
        record.workerGeneration = generation := hsame _ (hlocation ▸ hbelieved.observed hunmarked)
    refine ⟨hbelieved.keyed, hbelieved.backed.snoc (fun h => h) fun hunmarked => ?_,
      fun hunmarked => ?_, hbelieved.tokens_pos, hbelieved.bytes_pos⟩
    · rintro ⟨hlocation, hother⟩
      exact hother (hgeneration hunmarked hlocation.symm).symm
    · by_cases hlocation : record.location = location
      · simp [hlocation, hgeneration hunmarked hlocation]
      · simpa [Function.update_of_ne hlocation] using hbelieved.observed hunmarked
  · rw [serve_observeWorker hequation]
    refine allBelieved_markStale h (fun _ _ h => h) fun record hspared => ?_
    have hlocation : record.location ≠ location := by simpa using hspared
    exact ⟨fun hvoids => hlocation hvoids.1.symm, Function.update_of_ne hlocation _ _⟩

def reportedRecord (clock : Nat → ℚ) (directory : MetadataDirectory) (identity : PrefixIdentity)
    (location generation : String) (tokens bytes : Int) (complete : Bool) : DirectoryRecord :=
  ⟨identity, location, generation, tokens, bytes, complete, directory.now clock,
    directory.now clock, none⟩

theorem upsert_cases (clock : Nat → ℚ) (directory : MetadataDirectory) (identity : PrefixIdentity)
    (location generation : String) (tokens bytes : Int) (complete : Bool) :
    (∃ error, directory.upsert clock identity location generation tokens bytes complete =
      (.error error, directory)) ∨
      (directory.upsertError identity location generation tokens bytes = none ∧ ∃ excess,
        directory.upsert clock identity location generation tokens bytes complete =
          (.ok (reportedRecord clock directory identity location generation tokens bytes complete),
            { directory.tick with
              records := directory.records.putLast (identity, location)
                (reportedRecord clock directory identity location generation tokens bytes complete)
                  }.evict excess)) := by
  unfold MetadataDirectory.upsert
  split
  · exact .inl ⟨_, rfl⟩
  · rename_i herror
    simp only [OrderedDict.moveToEnd_set]
    exact .inr ⟨herror, _, rfl⟩

theorem backed_reportedRecord (clock : Nat → ℚ) (directory : MetadataDirectory)
    (history : List DirectoryEvent) (identity : PrefixIdentity) (location generation : String)
    (tokens bytes : Int) (complete : Bool) :
    Backed clock
      (history ++ [⟨.upsert identity location generation tokens bytes complete,
        .stored (reportedRecord clock directory identity location generation tokens bytes complete),
        directory.readings⟩])
      (reportedRecord clock directory identity location generation tokens bytes complete) := by
  refine ⟨history, _, [], rfl, ⟨rfl, ⟨_, rfl⟩, rfl⟩, ?_, fun _ => ?_⟩
  · simp
  · simp

theorem allBelieved_upsert (h : AllBelieved clock ledger) (identity : PrefixIdentity)
    (location generation : String) (tokens bytes : Int) (complete : Bool) :
    AllBelieved clock (ledger.serve clock
      (.upsert identity location generation tokens bytes complete)) := by
  rcases upsert_cases clock ledger.directory identity location generation tokens bytes complete with
    ⟨error, hequation⟩ | ⟨herror, excess, hequation⟩
  · exact h.raised (congrArg (Prod.map (replied .stored) id) hequation)
  · obtain ⟨htokens, -, hbytes, hobserved⟩ := of_upsertError_eq_none herror
    rw [serve_upsert hequation]
    intro key record hrecord
    have hput := get?_of_get?_evict hrecord
    simp only [OrderedDict.get?_putLast] at hput
    split_ifs at hput with hkey
    · obtain rfl := Option.some.inj hput
      refine ⟨hkey.symm, backed_reportedRecord _ _ _ _ _ _ _ _ _, fun _ => ?_, htokens, hbytes⟩
      exact (congrFun (evict_generations _ _) location).trans hobserved
    · have hbelieved := h key record hput
      refine ⟨hbelieved.keyed, hbelieved.backed.snoc ?_ fun _ h => h, fun hunmarked => ?_,
        hbelieved.tokens_pos, hbelieved.bytes_pos⟩
      · rintro ⟨rfl, rfl⟩
        exact hkey hbelieved.keyed.symm
      · exact (congrFun (evict_generations _ _) record.location).trans
          (hbelieved.observed hunmarked)

theorem allBelieved_invalidate (h : AllBelieved clock ledger) (identity : PrefixIdentity)
    (location reason : String) :
    AllBelieved clock (ledger.serve clock (.invalidate identity location reason)) := by
  cases herror : requireText "reason" reason with
  | some error =>
      have hserve : ledger.directory.serve clock (.invalidate identity location reason) =
          (.raised error, ledger.directory) := by
        simp only [MetadataDirectory.serve, MetadataDirectory.invalidate, herror]
        rfl
      exact h.raised hserve
  | none =>
      rw [DirectoryLedger.serve]
      simp only [MetadataDirectory.serve, MetadataDirectory.invalidate, herror]
      intro key record hrecord
      simp only [Prod.map, id, OrderedDict.get?_pop] at hrecord
      split_ifs at hrecord with hkey
      have hbelieved := h key record hrecord
      refine ⟨hbelieved.keyed, hbelieved.backed.snoc ?_ fun _ h => h, hbelieved.observed,
        hbelieved.tokens_pos, hbelieved.bytes_pos⟩
      rintro ⟨rfl, rfl⟩
      exact hkey hbelieved.keyed.symm

theorem allBelieved_invalidateNamespace (h : AllBelieved clock ledger)
    (compatibilityNamespace reason : String) :
    AllBelieved clock (ledger.serve clock
      (.invalidateNamespace compatibilityNamespace reason)) := by
  cases herror : requireText "compatibility_namespace" compatibilityNamespace <|> requireText
    "reason" reason with
  | some error =>
      have hserve : ledger.directory.serve clock
          (.invalidateNamespace compatibilityNamespace reason) =
          (.raised error, ledger.directory) := by
        simp only [MetadataDirectory.serve, MetadataDirectory.invalidateNamespace, herror]
        rfl
      exact h.raised hserve
  | none =>
      rw [DirectoryLedger.serve]
      simp only [MetadataDirectory.serve, MetadataDirectory.invalidateNamespace, herror]
      refine allBelieved_markStale h (fun _ _ h => h) fun record hspared => ?_
      have hother : record.prefixIdentity.compatibilityNamespace ≠ compatibilityNamespace := by
        simpa using hspared
      exact ⟨fun hvoids => hother hvoids.symm, rfl⟩

theorem allBelieved_serve (h : AllBelieved clock ledger) (call : DirectoryCall) :
    AllBelieved clock (ledger.serve clock call) := by
  cases call with
  | observeWorker location generation => exact allBelieved_observeWorker h location generation
  | upsert identity location generation tokens bytes complete =>
      exact allBelieved_upsert h identity location generation tokens bytes complete
  | lookup identity destination compatibilityNamespace =>
      exact h.of_inherits (inherits_lookup _ _ _ _ _) ⟨fun _ _ h => h, fun _ _ _ h => h⟩
  | confirm identity destination =>
      exact h.of_inherits (inherits_confirm _ _ _ _) ⟨fun _ _ h => h, fun _ _ _ h => h⟩
  | invalidate identity location reason => exact allBelieved_invalidate h identity location reason
  | invalidateNamespace compatibilityNamespace reason =>
      exact allBelieved_invalidateNamespace h compatibilityNamespace reason

theorem allBelieved_ledgerAfter (clock : Nat → ℚ) (limits : DirectoryLimits)
    (calls : List DirectoryCall) : AllBelieved clock (ledgerAfter clock limits calls) := by
  refine List.foldlRecOn calls _ ?_ fun ledger h call _ => allBelieved_serve h call
  intro key record hrecord
  simp [emptyDirectory, OrderedDict.empty, OrderedDict.get?] at hrecord

end Steps

section Limits

variable {clock : Nat → ℚ}

theorem evict_limits (directory : MetadataDirectory) (excess : Nat) :
    (directory.evict excess).limits = directory.limits := by
  induction excess generalizing directory with
  | zero => rfl
  | succ excess ih => exact ih _

theorem serve_limits (directory : MetadataDirectory) (call : DirectoryCall) :
    (directory.serve clock call).2.limits = directory.limits := by
  cases call with
  | observeWorker location generation =>
      rcases observeWorker_cases directory location generation with ⟨_, hequation⟩ | ⟨-, hequation⟩
        | ⟨_, hequation⟩ <;> exact congrArg (fun pair => pair.2.limits) hequation
  | upsert identity location generation tokens bytes complete =>
      rcases upsert_cases clock directory identity location generation tokens bytes complete with
        ⟨_, hequation⟩ | ⟨-, excess, hequation⟩
      · exact congrArg (fun pair => pair.2.limits) hequation
      · exact (congrArg (fun pair => pair.2.limits) hequation).trans (evict_limits _ excess)
  | lookup identity destination compatibilityNamespace => exact (inherits_lookup _ _ _ _ _).limits
  | confirm identity destination => exact (inherits_confirm _ _ _ _).limits
  | invalidate identity location reason =>
      simp only [MetadataDirectory.serve, MetadataDirectory.invalidate, Prod.map, id]
      split <;> rfl
  | invalidateNamespace compatibilityNamespace reason =>
      simp only [MetadataDirectory.serve, MetadataDirectory.invalidateNamespace, Prod.map, id]
      split <;> rfl

@[simp]
theorem limits_ledgerAfter (clock : Nat → ℚ) (limits : DirectoryLimits)
    (calls : List DirectoryCall) : (ledgerAfter clock limits calls).directory.limits = limits :=
  List.foldlRecOn (motive := fun ledger : DirectoryLedger => ledger.directory.limits = limits) calls
    _ rfl
    fun _ h call _ => (serve_limits _ call).trans h

end Limits

section Answers

variable {clock : Nat → ℚ} {directory : MetadataDirectory}

theorem lookupRemote_hit {identity : PrefixIdentity} {destination : String}
    {records : List DirectoryRecord} {staleRemote : Option DirectoryRecord}
    (hstale :
      (MetadataDirectory.lookupRemote clock identity destination records staleRemote
      directory).1.outcome ≠ .stale)
    (hmissing :
      (MetadataDirectory.lookupRemote clock identity destination records staleRemote
      directory).1.outcome ≠ .missing) :
    ∃ record ∈ records, ∃ middle, record.prefixIdentity = identity ∧ Inherits directory middle ∧
      Fresh clock middle record ∧
      MetadataDirectory.lookupRemote clock identity destination records staleRemote directory =
        (lookupResult record destination (if record.complete then .remote else .partialHit),
          middle.tick.touch clock record) := by
  induction records generalizing staleRemote directory with
  | nil =>
      cases staleRemote with
      | some record => exact absurd rfl hstale
      | none => exact absurd rfl hmissing
  | cons record records ih =>
      rw [MetadataDirectory.lookupRemote] at hstale hmissing ⊢
      by_cases hother : record.prefixIdentity ≠ identity
      · rw [if_pos hother] at hstale hmissing ⊢
        obtain ⟨found, hfound, hrest⟩ := ih hstale hmissing
        exact ⟨found, List.mem_cons_of_mem _ hfound, hrest⟩
      rw [if_neg hother] at hstale hmissing ⊢
      by_cases hfresh : Fresh clock directory record
      · refine ⟨record, List.mem_cons_self, directory, not_not.mp hother, .refl _, hfresh, ?_⟩
        rw [recordOutcome_of_fresh hfresh]
        cases record.complete <;> rfl
      · have houtcome := recordOutcome_of_not_fresh hfresh
        simp only [houtcome, if_true] at hstale hmissing ⊢
        obtain ⟨found, hfound, middle, hidentity, hinherits, hrest⟩ := ih hstale hmissing
        exact ⟨found, List.mem_cons_of_mem _ hfound, middle, hidentity,
          (inherits_dropped clock directory record).trans hinherits, hrest⟩

structure Answers (clock : Nat → ℚ) (directory next : MetadataDirectory)
    (record : DirectoryRecord) : Prop where
  found : ∃ key, directory.records.get? key = some record
  fresh : ∃ middle, Inherits directory middle ∧ Fresh clock middle record ∧
    middle.readings < next.readings

theorem answers_own (clock : Nat → ℚ) {record : DirectoryRecord} {key : PrefixIdentity × String}
    (hfound : directory.records.get? key = some record) (hfresh : Fresh clock directory record) :
    Answers clock directory (directory.tick.touch clock record) record :=
  ⟨⟨key, hfound⟩, directory, .refl _, hfresh, (inherits_touch clock directory.tick record).readings⟩

theorem lookup_own {identity : PrefixIdentity} {destination compatibilityNamespace : String}
    {own : DirectoryRecord} (hnamespace : compatibilityNamespace = identity.compatibilityNamespace)
    (hown : directory.records.get? (identity, destination) = some own)
    (hfresh : Fresh clock directory own) :
    directory.lookup clock identity destination compatibilityNamespace =
      (lookupResult own destination (if own.complete then .present else .partialHit),
        directory.tick.touch clock own) := by
  rw [MetadataDirectory.lookup, if_neg (not_not.mpr hnamespace), hown]
  simp only [recordOutcome_of_fresh hfresh, hfresh.unmarked]
  cases own.complete <;> rfl

theorem lookup_own_stale {identity : PrefixIdentity} {destination compatibilityNamespace : String}
    {own : DirectoryRecord} (hnamespace : compatibilityNamespace = identity.compatibilityNamespace)
    (hown : directory.records.get? (identity, destination) = some own)
    (hfresh : ¬ Fresh clock directory own) :
    (directory.lookup clock identity destination compatibilityNamespace).1 =
      lookupResult own destination .stale := by
  rw [MetadataDirectory.lookup, if_neg (not_not.mpr hnamespace), hown]
  simp only [recordOutcome_of_not_fresh hfresh]

theorem lookup_remote {identity : PrefixIdentity} {destination compatibilityNamespace : String}
    (hnamespace : compatibilityNamespace = identity.compatibilityNamespace)
    (hown : directory.records.get? (identity, destination) = none) :
    directory.lookup clock identity destination compatibilityNamespace =
      MetadataDirectory.lookupRemote clock identity destination directory.records.values.reverse
      none directory := by
  rw [MetadataDirectory.lookup, if_neg (not_not.mpr hnamespace), hown]

theorem lookup_hit
    (hkeyed : ∀ key record, directory.records.get? key = some record → record.key = key)
    {identity : PrefixIdentity} {destination compatibilityNamespace : String}
    {result : LookupResult}
    {next : MetadataDirectory}
    (hlookup : directory.lookup clock identity destination compatibilityNamespace = (result, next))
    (hhit : result.outcome ∈ [LookupOutcome.present, .remote, .partialHit]) :
    ∃ record outcome, Answers clock directory next record ∧ result = lookupResult record destination
      outcome ∧
      record.prefixIdentity = identity ∧ (outcome = .partialHit ↔ record.complete = false) := by
  have hstale : result.outcome ≠ .stale := by
    intro hstale
    simp [hstale] at hhit
  have hmissing : result.outcome ≠ .missing := by
    intro hmissing
    simp [hmissing] at hhit
  by_cases hnamespace : compatibilityNamespace = identity.compatibilityNamespace
  · cases hown : directory.records.get? (identity, destination) with
    | some own =>
        by_cases hfresh : Fresh clock directory own
        · rw [lookup_own hnamespace hown hfresh] at hlookup
          obtain ⟨rfl, rfl⟩ := Prod.mk.inj hlookup
          have hkey := hkeyed _ _ hown
          exact ⟨own, _, answers_own clock hown hfresh, rfl, congrArg Prod.fst hkey,
            by cases own.complete <;> simp⟩
        · have hresult := lookup_own_stale hnamespace hown hfresh
          rw [hlookup] at hresult
          exact absurd (congrArg LookupResult.outcome hresult) hstale
    | none =>
        rw [lookup_remote hnamespace hown] at hlookup
        obtain ⟨record, hmem, middle, hidentity, hinherits, hfresh, hequation⟩ :=
          lookupRemote_hit (by rwa [hlookup]) (by rwa [hlookup])
        obtain ⟨key, hrecord⟩ := OrderedDict.exists_get?_of_mem_values (List.mem_reverse.mp hmem)
        rw [hlookup] at hequation
        obtain ⟨rfl, rfl⟩ := Prod.mk.inj hequation
        have hlater := (inherits_touch clock middle.tick record).readings
        exact ⟨record, _, ⟨⟨key, hrecord⟩, middle, hinherits, hfresh, hlater⟩, rfl, hidentity,
          by cases record.complete <;> simp⟩
  · rw [MetadataDirectory.lookup, if_pos hnamespace] at hlookup
    obtain ⟨rfl, -⟩ := Prod.mk.inj hlookup
    simp at hhit

theorem confirm_hit {identity : PrefixIdentity} {destination : String} {result : ConfirmResult}
    {next : MetadataDirectory}
    (hconfirm : directory.confirm clock identity destination = (result, next))
    (hhit : result.outcome = .available) :
    ∃ record, Answers clock directory next record ∧
      directory.records.get? (identity, destination) = some record ∧ record.complete = true ∧
      result.reusableTokens = record.reusableTokens ∧
      result.availableBytes = record.storedBytes := by
  unfold MetadataDirectory.confirm at hconfirm
  split at hconfirm
  · obtain ⟨rfl, -⟩ := Prod.mk.inj hconfirm
    cases hhit
  · rename_i record hrecord
    by_cases hfresh : Fresh clock directory record
    · rw [recordOutcome_of_fresh hfresh] at hconfirm
      cases hcomplete : record.complete with
      | true =>
          simp only [hcomplete, if_true] at hconfirm
          obtain ⟨rfl, rfl⟩ := Prod.mk.inj hconfirm
          exact ⟨record, answers_own clock hrecord hfresh, hrecord, hcomplete, rfl, rfl⟩
      | false =>
          simp only [hcomplete] at hconfirm
          obtain ⟨rfl, -⟩ := Prod.mk.inj hconfirm
          cases hhit
    · simp only [recordOutcome_of_not_fresh hfresh, if_true] at hconfirm
      obtain ⟨rfl, -⟩ := Prod.mk.inj hconfirm
      cases hhit

end Answers

section Soundness

/-- In the history, the last report for the prefix at the location is recent by a reading of the
clock between the two given ones, says what is answered, and has not been revoked since. -/
def LastReport (clock : Nat → ℚ) (limits : DirectoryLimits) (history : List DirectoryEvent)
    (first last : Nat) (identity : PrefixIdentity) (location : String) (tokens bytes : Int)
    (complete : Bool) : Prop :=
  ∃ before report after generation stored now,
    history = before ++ report :: after ∧
    report.call = .upsert identity location generation tokens bytes complete ∧
    report.reply = .stored stored ∧
    (∀ later ∈ after, ¬ later.Replaces identity location) ∧
    (∀ later ∈ after, ¬ later.Voids identity location generation) ∧
    first ≤ now ∧ now < last ∧ clock now - clock report.reading < limits.ttlSeconds

theorem Believed.lastReport {clock : Nat → ℚ} {ledger : DirectoryLedger}
    {key : PrefixIdentity × String} {record : DirectoryRecord} {next : MetadataDirectory}
    (h : Believed clock ledger key record)
    (hanswers : Answers clock ledger.directory next record) :
    LastReport clock ledger.directory.limits ledger.history ledger.directory.readings next.readings
      record.prefixIdentity record.location record.reusableTokens record.storedBytes
      record.complete := by
  obtain ⟨middle, hinherits, hfresh, hlast⟩ := hanswers.fresh
  obtain ⟨before, report, after, hhistory, hreport, hkept, hunvoided⟩ := h.backed
  obtain ⟨stored, hstored⟩ := hreport.stored
  refine ⟨before, report, after, record.workerGeneration, stored, middle.readings, hhistory,
    hreport.call, hstored, hkept, hunvoided hfresh.unmarked, hinherits.readings, hlast, ?_⟩
  have hwithin := hfresh.within_ttl
  rwa [hinherits.limits, hreport.observedAt] at hwithin

/-- What a lookup or a confirmation answers was reported last, recently, and not revoked since. -/
theorem answer_reported (clock : Nat → ℚ) (limits : DirectoryLimits) (calls : List DirectoryCall) :
    let ledger := ledgerAfter clock limits calls
    (∀ identity destination compatibilityNamespace result next location,
      ledger.directory.lookup clock identity destination compatibilityNamespace = (result, next) →
      result.outcome ∈ [LookupOutcome.present, .remote, .partialHit] →
        result.sourceOrStore = some location →
      LastReport clock limits ledger.history ledger.directory.readings next.readings identity
        location result.reusableTokens result.storedBytes (result.outcome != .partialHit)) ∧
    (∀ identity destination result next,
      ledger.directory.confirm clock identity destination = (result, next) →
        result.outcome = .available →
      LastReport clock limits ledger.history ledger.directory.readings next.readings identity
        destination result.reusableTokens result.availableBytes true) := by
  intro ledger
  have hbelieved := allBelieved_ledgerAfter clock limits calls
  have hlimits : ledger.directory.limits = limits := limits_ledgerAfter clock limits calls
  refine ⟨?_, ?_⟩
  · intro identity destination compatibilityNamespace result next location hlookup hhit hsource
    obtain ⟨record, outcome, hanswers, rfl, rfl, hcomplete⟩ :=
      lookup_hit (fun key record hrecord => (hbelieved key record hrecord).keyed) hlookup hhit
    obtain rfl := Option.some.inj hsource
    obtain ⟨key, hrecord⟩ := hanswers.found
    have hreport := (hbelieved key record hrecord).lastReport hanswers
    have hsame : (outcome != .partialHit) = record.complete := by
      cases hrecordComplete : record.complete <;> simp [hrecordComplete] at hcomplete <;>
        simp [hcomplete]
    rw [← hlimits]
    exact hsame ▸ hreport
  · intro identity destination result next hconfirm hhit
    obtain ⟨record, hanswers, hrecord, hcomplete, htokens, hbytes⟩ := confirm_hit hconfirm hhit
    have hrecordBelieved := hbelieved _ record hrecord
    have hreport := hrecordBelieved.lastReport hanswers
    obtain ⟨rfl, rfl⟩ := Prod.mk.inj hrecordBelieved.keyed
    rw [← hlimits, htokens, hbytes, ← hcomplete]
    exact hreport

def exampleIdentity : PrefixIdentity where
  value := "sha256:" ++ String.ofList (List.replicate 64 'a')
  compatibilityNamespace := compatibilityPrefix ++ String.ofList (List.replicate 64 'b')
  tokenCount := 3
  version := identityVersion
  value_canonical := isSha256_append _ ⟨List.replicate 64 'a', by decide⟩
  namespace_canonical := isSha256_append _ ⟨List.replicate 64 'b', by decide⟩
  tokenCount_pos := by decide
  version_eq := rfl

def exampleLimits : DirectoryLimits := ⟨4, 30, by decide, by decide⟩

def exampleCalls : List DirectoryCall :=
  [.observeWorker "worker-a" "pod-a-1", .observeWorker "worker-b" "pod-b-1",
    .upsert exampleIdentity "worker-a" "pod-a-1" 3 96 true]

def exampleClock (_ : Nat) : ℚ := 100

theorem example_hits :
    let directory := (ledgerAfter exampleClock exampleLimits exampleCalls).directory
    let found :=
      (directory.lookup exampleClock exampleIdentity "worker-b"
        exampleIdentity.compatibilityNamespace).1
    let confirmed := (directory.confirm exampleClock exampleIdentity "worker-a").1
    found.outcome = .remote ∧ found.sourceOrStore = some "worker-a" ∧
      confirmed.outcome = .available := by
  decide +kernel

theorem answer_reported_example :
    let ledger := ledgerAfter exampleClock exampleLimits exampleCalls
    let found := ledger.directory.lookup exampleClock exampleIdentity "worker-b"
      exampleIdentity.compatibilityNamespace
    let confirmed := ledger.directory.confirm exampleClock exampleIdentity "worker-a"
    LastReport exampleClock exampleLimits ledger.history ledger.directory.readings found.2.readings
        exampleIdentity
        "worker-a" found.1.reusableTokens found.1.storedBytes (found.1.outcome != .partialHit) ∧
      LastReport exampleClock exampleLimits ledger.history ledger.directory.readings
        confirmed.2.readings
        exampleIdentity "worker-a" confirmed.1.reusableTokens confirmed.1.availableBytes true := by
  intro ledger found confirmed
  obtain ⟨hfound, hsource, hconfirmed⟩ := example_hits
  obtain ⟨hlookups, hconfirms⟩ := answer_reported exampleClock exampleLimits exampleCalls
  have hhit : found.1.outcome ∈ [LookupOutcome.present, .remote, .partialHit] := by
    rw [show found.1.outcome = .remote from hfound]
    decide
  exact ⟨hlookups exampleIdentity "worker-b" exampleIdentity.compatibilityNamespace found.1 found.2
    "worker-a" rfl hhit
      hsource,
    hconfirms exampleIdentity "worker-a" confirmed.1 confirmed.2 rfl hconfirmed⟩

end Soundness

end AiAnalytics.KvTransfer
