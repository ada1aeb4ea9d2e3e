import AiAnalytics.KvTransfer.Proof.DirectoryBeliefs

/-!
# Which record a lookup answers for

The destination's own record if it has one, whatever it says; otherwise the fresh record of the
prefix that was used last. The records stand in the order of their last use, since every use moves a
record to the end. -/

namespace AiAnalytics.KvTransfer

open Lib

section Order

structure UseOrdered (clock : Nat → ℚ) (directory : MetadataDirectory) : Prop where
  sorted : directory.records.values.Pairwise fun earlier later =>
    earlier.lastAccessedAt ≤ later.lastAccessedAt
  bounded : ∀ record ∈ directory.records.values, record.lastAccessedAt ≤ clock directory.readings

variable {clock : Nat → ℚ} {directory : MetadataDirectory}

theorem values_pop_sublist (dict : OrderedDict (PrefixIdentity × String) DirectoryRecord)
    (key : PrefixIdentity × String) : (dict.pop key).values.Sublist dict.values :=
  List.filter_sublist.map _

theorem UseOrdered.of_sublist (h : UseOrdered clock directory) (hclock : Monotone clock)
    {next : MetadataDirectory} (hrecords : next.records.values.Sublist directory.records.values)
    (hreadings : directory.readings ≤ next.readings) :
    UseOrdered clock next where
  sorted := h.sorted.sublist hrecords
  bounded record hrecord := (h.bounded record (hrecords.subset hrecord)).trans (hclock hreadings)

theorem UseOrdered.putLast (h : UseOrdered clock directory) (hclock : Monotone clock)
    {next : MetadataDirectory} {key : PrefixIdentity × String} {record : DirectoryRecord}
    (hrecords : next.records = directory.records.putLast key record)
    (hreadings : next.readings = directory.readings + 1)
    (hused : record.lastAccessedAt = directory.now clock) :
    UseOrdered clock next := by
  have hvalues : next.records.values = (directory.records.pop key).values ++ [record] := by
    rw [hrecords, OrderedDict.values, OrderedDict.putLast, List.map_append]
    rfl
  have hkept := values_pop_sublist directory.records key
  have hnow : directory.now clock ≤ clock next.readings := hclock (by omega)
  constructor
  · rw [hvalues, List.pairwise_append]
    refine ⟨h.sorted.sublist hkept, List.pairwise_singleton _ _,
      fun earlier hearlier later hlater => ?_⟩
    rw [List.mem_singleton.mp hlater, hused]
    exact h.bounded earlier (hkept.subset hearlier)
  · intro other hother
    rw [hvalues, List.mem_append, List.mem_singleton] at hother
    rcases hother with hother | rfl
    · exact (h.bounded other (hkept.subset hother)).trans hnow
    · exact hused.le.trans hnow

theorem UseOrdered.markStale (h : UseOrdered clock directory) (predicate : DirectoryRecord → Bool)
    (reason : String) : UseOrdered clock (directory.markStale predicate reason).2 := by
  have hvalues : (directory.markStale predicate reason).2.records.values =
    directory.records.values.map fun record =>
      if predicate record && record.staleReason.isNone then
        { record with staleReason := some reason } else record := by
    simp [MetadataDirectory.markStale, OrderedDict.values, OrderedDict.mapValues]
  have hused (record : DirectoryRecord) :
      (if predicate record && record.staleReason.isNone then
        { record with staleReason := some reason }
        else record).lastAccessedAt = record.lastAccessedAt := by
    split_ifs <;> rfl
  constructor
  · rw [hvalues, List.pairwise_map]
    simpa only [hused] using h.sorted
  · rw [hvalues]
    intro record hrecord
    obtain ⟨earlier, hearlier, rfl⟩ := List.mem_map.mp hrecord
    rw [hused]
    exact h.bounded earlier hearlier

theorem UseOrdered.recordOutcome (h : UseOrdered clock directory) (hclock : Monotone clock)
    (record : DirectoryRecord) : UseOrdered clock (directory.recordOutcome clock record).2 := by
  refine h.of_sublist hclock ?_ (inherits_recordOutcome clock directory record).readings
  rcases recordOutcome_cases clock directory record with ⟨-, hequation⟩ | ⟨-, -, _, hequation⟩
    | ⟨-, hequation⟩ <;> rw [hequation] <;> exact List.Sublist.refl _

theorem UseOrdered.popRecord (h : UseOrdered clock directory) (hclock : Monotone clock)
    (record : DirectoryRecord) : UseOrdered clock (directory.popRecord record) :=
  h.of_sublist hclock (values_pop_sublist _ _) (Nat.le_refl _)

theorem UseOrdered.touch (h : UseOrdered clock directory) (hclock : Monotone clock)
    (record : DirectoryRecord) : UseOrdered clock (directory.touch clock record) := by
  cases hcurrent : directory.records.get? record.key with
  | none =>
      rw [MetadataDirectory.touch, hcurrent]
      exact h
  | some current =>
      refine h.putLast hclock (records_touch clock hcurrent) ?_ rfl
      simp only [MetadataDirectory.touch, hcurrent]
      rfl

theorem UseOrdered.dropped (h : UseOrdered clock directory) (hclock : Monotone clock)
    (record : DirectoryRecord) : UseOrdered clock
      (if record.staleReason = none then (directory.recordOutcome clock record).2.popRecord record
        else (directory.recordOutcome clock record).2) := by
  have houtcome := h.recordOutcome hclock record
  split_ifs
  · exact houtcome.popRecord hclock record
  · exact houtcome

theorem UseOrdered.evict (h : UseOrdered clock directory) (hclock : Monotone clock) (excess : Nat) :
    UseOrdered clock (directory.evict excess) := by
  induction excess generalizing directory with
  | zero => exact h
  | succ excess ih => exact ih (h.of_sublist hclock ((List.tail_sublist _).map _) (Nat.le_refl _))

theorem UseOrdered.lookupRemote (h : UseOrdered clock directory) (hclock : Monotone clock)
    (identity : PrefixIdentity) (destination : String) (records : List DirectoryRecord)
    (staleRemote : Option DirectoryRecord) :
    UseOrdered clock
      (MetadataDirectory.lookupRemote clock identity destination records staleRemote
      directory).2 := by
  induction records generalizing staleRemote directory with
  | nil => cases staleRemote <;> exact h
  | cons record records ih =>
      rw [MetadataDirectory.lookupRemote]
      by_cases hother : record.prefixIdentity ≠ identity
      · rw [if_pos hother]
        exact ih h staleRemote
      · rw [if_neg hother]
        by_cases hstale : (directory.recordOutcome clock record).1 = .stale
        · simp only [hstale, if_true]
          exact ih (h.dropped hclock record) _
        · simp only [hstale, if_false]
          exact (h.recordOutcome hclock record).touch hclock record

theorem UseOrdered.serve (h : UseOrdered clock directory) (hclock : Monotone clock)
    (call : DirectoryCall) : UseOrdered clock (directory.serve clock call).2 := by
  cases call with
  | observeWorker location generation =>
      have hobserved (generations : String → Option String) :
          UseOrdered clock { directory with workerGenerations := generations } :=
            ⟨h.sorted, h.bounded⟩
      change UseOrdered clock (directory.observeWorker location generation).2
      rcases observeWorker_cases directory location generation with
        ⟨error, hequation⟩ | ⟨-, hequation⟩ | ⟨count, hequation⟩
      · rwa [hequation]
      · rw [hequation]
        exact hobserved _
      · rw [hequation]
        exact (hobserved _).markStale _ _
  | upsert identity location generation tokens bytes complete =>
      change UseOrdered clock (directory.upsert clock identity location generation tokens bytes
        complete).2
      rcases upsert_cases clock directory identity location generation tokens bytes complete with
        ⟨error, hequation⟩ | ⟨-, excess, hequation⟩
      · rwa [hequation]
      · rw [hequation]
        exact UseOrdered.evict (h.putLast hclock rfl rfl rfl) hclock excess
  | lookup identity destination compatibilityNamespace =>
      change UseOrdered clock (directory.lookup clock identity destination compatibilityNamespace).2
      by_cases hnamespace : compatibilityNamespace = identity.compatibilityNamespace
      · cases hown : directory.records.get? (identity, destination) with
        | none =>
            rw [lookup_remote hnamespace hown]
            exact h.lookupRemote hclock identity destination _ _
        | some own =>
            have houtcome := h.recordOutcome hclock own
            rw [MetadataDirectory.lookup, if_neg (not_not.mpr hnamespace), hown]
            simp only
            split_ifs
            · exact houtcome.popRecord hclock own
            · exact houtcome.touch hclock own
      · rwa [MetadataDirectory.lookup, if_pos hnamespace]
  | confirm identity destination =>
      change UseOrdered clock (directory.confirm clock identity destination).2
      unfold MetadataDirectory.confirm
      split
      · exact h
      · rename_i record hrecord
        by_cases hstale : (directory.recordOutcome clock record).1 = .stale
        · simp only [hstale, if_true]
          exact h.dropped hclock record
        · simp only [hstale, if_false]
          exact (h.recordOutcome hclock record).touch hclock record
  | invalidate identity location reason =>
      simp only [MetadataDirectory.serve, MetadataDirectory.invalidate, Prod.map, id]
      split
      · exact h
      · exact h.of_sublist hclock (values_pop_sublist _ _) (Nat.le_refl _)
  | invalidateNamespace compatibilityNamespace reason =>
      simp only [MetadataDirectory.serve, MetadataDirectory.invalidateNamespace, Prod.map, id]
      split
      · exact h
      · exact h.markStale _ _

theorem useOrdered_ledgerAfter (hclock : Monotone clock) (limits : DirectoryLimits)
    (calls : List DirectoryCall) : UseOrdered clock (ledgerAfter clock limits calls).directory := by
  refine List.foldlRecOn (motive := fun ledger : DirectoryLedger =>
    UseOrdered clock ledger.directory) calls _ ?_
    fun _ h call _ => h.serve hclock call
  exact ⟨List.Pairwise.nil, by simp [emptyDirectory, OrderedDict.empty, OrderedDict.values]⟩

end Order

section Choice

variable {clock : Nat → ℚ} {directory next : MetadataDirectory}

structure Usable (clock : Nat → ℚ) (directory next : MetadataDirectory) (record : DirectoryRecord) :
    Prop where
  unmarked : record.staleReason = none
  generation : directory.workerGenerations record.location = some record.workerGeneration
  within_ttl : ∀ reading, directory.readings ≤ reading → reading < next.readings →
    clock reading - record.observedAt < directory.limits.ttlSeconds

theorem Usable.fresh {record : DirectoryRecord} (h : Usable clock directory next record)
    (hreading : directory.readings < next.readings) : Fresh clock directory record :=
  ⟨h.unmarked, h.within_ttl directory.readings (Nat.le_refl _) hreading, h.generation⟩

theorem Usable.later {record : DirectoryRecord} {middle : MetadataDirectory}
    (h : Usable clock directory next record) (hinherits : Inherits directory middle) :
    Usable clock middle next record := by
  refine ⟨h.unmarked, by rw [hinherits.generations, h.generation], fun reading hfirst hlast => ?_⟩
  rw [hinherits.limits]
  exact h.within_ttl reading (hinherits.readings.trans hfirst) hlast

theorem readings_dropped {record : DirectoryRecord} (h : record.staleReason = none) :
    directory.readings < (if record.staleReason =
      none then (directory.recordOutcome clock record).2.popRecord record
      else (directory.recordOutcome clock record).2).readings := by
  rw [if_pos h]
  rcases recordOutcome_cases clock directory record with ⟨hmarked, -⟩ | ⟨-, -, _, hequation⟩
    | ⟨-, hequation⟩
  · exact absurd h hmarked
  · rw [hequation]
    exact Nat.lt_succ_self _
  · rw [hequation]
    exact Nat.lt_succ_self _

theorem lookupRemote_chooses {identity : PrefixIdentity} {destination : String}
    {records : List DirectoryRecord} {staleRemote : Option DirectoryRecord} {result : LookupResult}
    (hscan :
      MetadataDirectory.lookupRemote clock identity destination records staleRemote directory =
      (result, next))
    (husable : ∃ record ∈ records, record.prefixIdentity = identity ∧
      Usable clock directory next record) :
    ∃ newer chosen older middle, records = newer ++ chosen :: older ∧
      chosen.prefixIdentity = identity ∧
      Inherits directory middle ∧ Fresh clock middle chosen ∧ middle.readings < next.readings ∧
      result = lookupResult chosen destination (if chosen.complete then .remote else .partialHit) ∧
      ∀ other ∈ newer, other.prefixIdentity = identity → ¬ Usable clock directory next other := by
  induction records generalizing staleRemote directory with
  | nil => simp at husable
  | cons record records ih =>
      rw [MetadataDirectory.lookupRemote] at hscan
      by_cases hother : record.prefixIdentity ≠ identity
      · rw [if_pos hother] at hscan
        obtain ⟨found, hmem, hfoundIdentity, hfoundUsable⟩ := husable
        have hfound : found ∈ records :=
          (List.mem_cons.mp hmem).resolve_left fun hsame => hother (hsame ▸ hfoundIdentity)
        obtain ⟨newer, chosen, older, middle, rfl, hidentity, hinherits, hfresh, hlast, hresult,
            hpassed⟩ :=
          ih hscan ⟨found, hfound, hfoundIdentity, hfoundUsable⟩
        refine ⟨record :: newer, chosen, older, middle, rfl, hidentity, hinherits, hfresh, hlast,
          hresult, ?_⟩
        exact List.forall_mem_cons.mpr ⟨fun hsame => absurd hsame hother, hpassed⟩
      rw [if_neg hother] at hscan
      by_cases hfresh : Fresh clock directory record
      · have hequation : directory.recordOutcome clock record =
            (if record.complete then .present else .partialHit, directory.tick) :=
              recordOutcome_of_fresh hfresh
        rw [hequation] at hscan
        refine ⟨[], record, records, directory, rfl, not_not.mp hother, .refl _, hfresh, ?_, ?_,
          by simp⟩
        · have hnext : directory.tick.touch clock record = next := by
            cases hcomplete : record.complete <;> simp only [hcomplete] at hscan <;>
              exact (Prod.mk.inj hscan).2
          exact hnext ▸ (inherits_touch clock directory.tick record).readings
        · cases hcomplete : record.complete <;> simp only [hcomplete] at hscan <;>
            exact (Prod.mk.inj hscan).1.symm
      · -- A usable record is found fresh, so this one is passed over rightly.
        simp only [recordOutcome_of_not_fresh hfresh, if_true] at hscan
        have hdropped := inherits_dropped clock directory record
        have hreadings := (inherits_lookupRemote clock identity destination records (some record)
          (if record.staleReason = none then (directory.recordOutcome clock record).2.popRecord
            record else (directory.recordOutcome clock record).2)).readings
        rw [hscan] at hreadings
        have hunusable : ¬ Usable clock directory next record := by
          intro hrecordUsable
          exact hfresh (hrecordUsable.fresh
            ((readings_dropped hrecordUsable.unmarked).trans_le hreadings))
        obtain ⟨found, hmem, hfoundIdentity, hfoundUsable⟩ := husable
        have hfound : found ∈ records :=
          (List.mem_cons.mp hmem).resolve_left fun hsame => hunusable (hsame ▸ hfoundUsable)
        obtain ⟨newer, chosen, older, middle, rfl, hidentity, hinherits, hchosen, hlast, hresult,
            hpassed⟩ :=
          ih hscan ⟨found, hfound, hfoundIdentity, hfoundUsable.later hdropped⟩
        refine ⟨record :: newer, chosen, older, middle, rfl, hidentity, hdropped.trans hinherits,
          hchosen, hlast, hresult, ?_⟩
        refine List.forall_mem_cons.mpr ⟨fun _ => hunusable, fun other hmem hsame hotherUsable =>
          ?_⟩
        exact hpassed other hmem hsame (hotherUsable.later hdropped)

end Choice

section Completeness

variable {clock : Nat → ℚ} {directory next : MetadataDirectory}

theorem UseOrdered.le_of_reverse_eq (h : UseOrdered clock directory)
    {newer older : List DirectoryRecord} {chosen other : DirectoryRecord}
    (hsplit : directory.records.values.reverse = newer ++ chosen :: older)
    (hother : other ∈ directory.records.values) (hnewer : other ∉ newer) :
    other.lastAccessedAt ≤ chosen.lastAccessedAt := by
  have hsorted := List.pairwise_reverse.mpr h.sorted
  rw [hsplit, List.pairwise_append, List.pairwise_cons] at hsorted
  have hmem : other ∈ newer ++ chosen :: older := hsplit ▸ List.mem_reverse.mpr hother
  rcases List.mem_append.mp hmem with hmem | hmem
  · exact absurd hmem hnewer
  · rcases List.mem_cons.mp hmem with rfl | hmem
    · exact le_refl _
    · exact hsorted.2.1.1 other hmem

def JudgedFresh (clock : Nat → ℚ) (directory next : MetadataDirectory) (record : DirectoryRecord) :
    Prop :=
  record.staleReason = none ∧ directory.workerGenerations record.location = some
    record.workerGeneration ∧ ∃ reading, directory.readings ≤ reading ∧ reading < next.readings ∧
      clock reading - record.observedAt < directory.limits.ttlSeconds

def OwnAnswer (clock : Nat → ℚ) (directory : MetadataDirectory) (own : DirectoryRecord)
    (destination : String) (result : LookupResult) : Prop :=
  (Fresh clock directory own →
    result = lookupResult own destination (if own.complete then .present else .partialHit)) ∧
  (¬ Fresh clock directory own → result = lookupResult own destination .stale)

def RemoteAnswer (clock : Nat → ℚ) (directory next : MetadataDirectory) (identity : PrefixIdentity)
    (destination : String) (result : LookupResult) : Prop :=
  ∃ location chosen, directory.records.get? (identity, location) = some chosen ∧
    JudgedFresh clock directory next chosen ∧
    result = lookupResult chosen destination (if chosen.complete then .remote else .partialHit) ∧
    ∀ location' other, directory.records.get? (identity, location') = some other →
      Usable clock directory next other → other.lastAccessedAt ≤ chosen.lastAccessedAt

/-- The answer is for the destination's own record if there is one, otherwise for a remote one. -/
def AnswersFor (clock : Nat → ℚ) (directory next : MetadataDirectory) (identity : PrefixIdentity)
    (destination : String) (result : LookupResult) : Prop :=
  result.outcome ∈ [LookupOutcome.present, .remote, .partialHit, .stale] ∧
    match directory.records.get? (identity, destination) with
    | some own => OwnAnswer clock directory own destination result
    | none => RemoteAnswer clock directory next identity destination result

/-- While a usable record of the prefix is somewhere, a lookup answers for the destination's own
record, or for the fresh record that was used last. -/
theorem lookup_answers (hclock : Monotone clock) (limits : DirectoryLimits)
    (calls : List DirectoryCall) {identity : PrefixIdentity} {destination : String}
    {result : LookupResult}
    (hlookup : (ledgerAfter clock limits calls).directory.lookup clock identity destination
      identity.compatibilityNamespace = (result, next))
    (husable : ∃ location record,
      (ledgerAfter clock limits calls).directory.records.get? (identity, location) = some record ∧
      record.complete = true ∧ Usable clock
      (ledgerAfter clock limits calls).directory next record) :
    AnswersFor clock (ledgerAfter clock limits calls).directory next identity destination
      result := by
  have hbelieved := allBelieved_ledgerAfter clock limits calls
  have hordered := useOrdered_ledgerAfter hclock limits calls
  generalize (ledgerAfter clock limits calls) = ledger at *
  unfold AnswersFor
  cases hown : ledger.directory.records.get? (identity, destination) with
  | some own =>
      have hfresh (h : Fresh clock ledger.directory own) :
          result = lookupResult own destination (if own.complete then .present
            else .partialHit) := by
        rw [lookup_own rfl hown h] at hlookup
        exact (Prod.mk.inj hlookup).1.symm
      have hstale (h : ¬ Fresh clock ledger.directory own) :
          result = lookupResult own destination .stale := by
        rw [← lookup_own_stale rfl hown h, hlookup]
      refine ⟨?_, hfresh, hstale⟩
      by_cases h : Fresh clock ledger.directory own
      · rw [hfresh h]
        cases own.complete <;> simp [lookupResult]
      · rw [hstale h]
        simp [lookupResult]
  | none =>
      rw [lookup_remote rfl hown] at hlookup
      obtain ⟨location, record, hrecord, -, hrecordUsable⟩ := husable
      have hidentity {location : String} {record : DirectoryRecord}
          (h : ledger.directory.records.get? (identity, location) = some record) :
            record.prefixIdentity = identity :=
        congrArg Prod.fst (hbelieved _ record h).keyed
      obtain ⟨newer, chosen, older, middle, hsplit, hchosen, hinherits, hfresh, hlast, hresult,
          hpassed⟩ :=
        lookupRemote_chooses hlookup ⟨record,
          List.mem_reverse.mpr (OrderedDict.mem_values_of_get? hrecord),
          hidentity hrecord, hrecordUsable⟩
      have hmem : chosen ∈ ledger.directory.records.values := by
        rw [← List.mem_reverse, hsplit]
        exact List.mem_append_right _ List.mem_cons_self
      obtain ⟨key, hfound⟩ := OrderedDict.exists_get?_of_mem_values hmem
      obtain rfl : (identity, chosen.location) = key := by
        rw [← (hbelieved key chosen hfound).keyed, DirectoryRecord.key, hchosen]
      have hjudged : JudgedFresh clock ledger.directory next chosen := by
        refine ⟨hfresh.unmarked, hinherits.generations ▸ hfresh.generation, middle.readings,
          hinherits.readings, hlast, ?_⟩
        exact hinherits.limits ▸ hfresh.within_ttl
      refine ⟨?_, chosen.location, chosen, hfound, hjudged, hresult,
        fun location' other hother hotherUsable => ?_⟩
      · rw [hresult]
        cases chosen.complete <;> simp [lookupResult]
      · refine hordered.le_of_reverse_eq hsplit (OrderedDict.mem_values_of_get? hother)
          fun hnewer => ?_
        exact hpassed other hnewer (hidentity hother) hotherUsable

def partialCalls : List DirectoryCall :=
  exampleCalls ++ [.upsert exampleIdentity "worker-b" "pod-b-1" 2 64 false]

def exampleRecord : DirectoryRecord :=
  ⟨exampleIdentity, "worker-a", "pod-a-1", 3, 96, true, 100, 100, none⟩

/-- The other worker's complete record is hidden by the destination's own incomplete one. -/
theorem lookup_hidden_example :
    let directory := (ledgerAfter exampleClock exampleLimits partialCalls).directory
    let answer := directory.lookup exampleClock exampleIdentity "worker-b"
      exampleIdentity.compatibilityNamespace
    directory.records.get? (exampleIdentity, "worker-a") = some exampleRecord ∧
      exampleRecord.complete = true ∧
      exampleRecord.staleReason = none ∧ directory.workerGenerations "worker-a" = some "pod-a-1" ∧
      directory.now exampleClock - exampleRecord.observedAt < directory.limits.ttlSeconds ∧
      answer.1.outcome = .partialHit := by
  decide +kernel

theorem lookup_answers_example :
    AnswersFor exampleClock (ledgerAfter exampleClock exampleLimits partialCalls).directory
      ((ledgerAfter exampleClock exampleLimits partialCalls).directory.lookup exampleClock
      exampleIdentity "worker-b"
        exampleIdentity.compatibilityNamespace).2
      exampleIdentity "worker-b"
      ((ledgerAfter exampleClock exampleLimits partialCalls).directory.lookup exampleClock
      exampleIdentity "worker-b"
        exampleIdentity.compatibilityNamespace).1 := by
  obtain ⟨hrecord, hcomplete, hunmarked, hgeneration, hwithin, -⟩ := lookup_hidden_example
  exact lookup_answers monotone_const exampleLimits partialCalls Prod.mk.eta.symm
    ⟨"worker-a", exampleRecord, hrecord, hcomplete, hunmarked, hgeneration, fun _ _ _ => hwithin⟩

end Completeness

section Validity

variable {clock : Nat → ℚ} {directory : MetadataDirectory}

theorem lookupRemote_source (clock : Nat → ℚ) (identity : PrefixIdentity) (destination : String)
    (records : List DirectoryRecord) (staleRemote : Option DirectoryRecord)
    (directory : MetadataDirectory) :
    let result :=
  (MetadataDirectory.lookupRemote clock identity destination records staleRemote directory).1
    (∃ record outcome, (record ∈ records ∨ staleRemote = some record) ∧
      result = lookupResult record destination outcome) ∨
        (result.reusableTokens = 0 ∧ result.storedBytes = 0) := by
  induction records generalizing staleRemote directory with
  | nil =>
      cases staleRemote with
      | some record => exact .inl ⟨record, .stale, .inr rfl, rfl⟩
      | none => exact .inr ⟨rfl, rfl⟩
  | cons record records ih =>
      rw [MetadataDirectory.lookupRemote]
      by_cases hother : record.prefixIdentity ≠ identity
      · rw [if_pos hother]
        refine (ih staleRemote directory).imp_left ?_
        rintro ⟨found, outcome, hfound, hresult⟩
        exact ⟨found, outcome, hfound.imp_left (List.mem_cons_of_mem _), hresult⟩
      rw [if_neg hother]
      by_cases hstale : (directory.recordOutcome clock record).1 = .stale
      · simp only [hstale, if_true]
        refine (ih (some record) _).imp_left ?_
        rintro ⟨found, outcome, hfound, hresult⟩
        refine ⟨found, outcome, .inl ?_, hresult⟩
        rcases hfound with hfound | hfound
        · exact List.mem_cons_of_mem _ hfound
        · exact Option.some.inj hfound ▸ List.mem_cons_self
      · simp only [hstale, if_false]
        exact .inl ⟨record, _, .inl List.mem_cons_self, rfl⟩

/-- No answer is refused by its own checks. -/
theorem answers_valid (clock : Nat → ℚ) (limits : DirectoryLimits) (calls : List DirectoryCall)
    (identity : PrefixIdentity) (destination compatibilityNamespace : String) :
    let directory := (ledgerAfter clock limits calls).directory
    (directory.lookup clock identity destination compatibilityNamespace).1.Valid ∧
      (directory.confirm clock identity destination).1.Valid := by
  intro directory
  have hbelieved := allBelieved_ledgerAfter clock limits calls
  have hvalid {key : PrefixIdentity × String} {record : DirectoryRecord}
      (h : directory.records.get? key = some record) (outcome : LookupOutcome) :
      (lookupResult record destination outcome).Valid :=
    ⟨(hbelieved key record h).tokens_pos.le, (hbelieved key record h).bytes_pos.le⟩
  constructor
  · unfold MetadataDirectory.lookup
    split_ifs with hnamespace
    · exact ⟨le_refl _, le_refl _⟩
    split
    · rename_i own hown
      exact hvalid hown _
    · rcases lookupRemote_source clock identity destination directory.records.values.reverse none
        directory with
        ⟨record, outcome, hmem, hresult⟩ | ⟨htokens, hbytes⟩
      · have hrecord := List.mem_reverse.mp (hmem.resolve_right (by simp))
        obtain ⟨key, hkey⟩ := OrderedDict.exists_get?_of_mem_values hrecord
        rw [hresult]
        exact hvalid hkey outcome
      · exact ⟨htokens.ge, hbytes.ge⟩
  · unfold MetadataDirectory.confirm
    split
    · exact ⟨le_refl _, le_refl _, by simp⟩
    · rename_i record hrecord
      have htokens := (hbelieved _ record hrecord).tokens_pos
      have hbytes := (hbelieved _ record hrecord).bytes_pos
      by_cases hstale : (directory.recordOutcome clock record).1 = .stale
      · simp only [hstale, if_true]
        exact ⟨le_refl _, le_refl _, by simp⟩
      · simp only [hstale, if_false]
        exact ⟨htokens.le, hbytes.le, fun _ => ⟨htokens, hbytes⟩⟩

end Validity

end AiAnalytics.KvTransfer
