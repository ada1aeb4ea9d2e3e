import AiAnalytics.KvTransfer.Proof.DirectoryAnswers

/-!
# The directory accounts for every record

Every record that was admitted is held, or has gone for want of room, by its time to live or because
it was invalidated. The records that are held stand in the order of their last use.
-/

namespace AiAnalytics.KvTransfer

open Lib

section Uses

def LookupResult.used (result : LookupResult) : Option (PrefixIdentity × String) :=
  result.sourceOrStore.bind fun location =>
    if result.outcome = .stale ∧ location ≠ result.destination then none
      else some (result.prefixIdentity, location)

def ConfirmResult.used (result : ConfirmResult) : Option (PrefixIdentity × String) :=
  match result.outcome, result.detail with
  | .available, _ => some (result.prefixIdentity, result.destination)
  | .missing, some _ => some (result.prefixIdentity, result.destination)
  | _, _ => none

def DirectoryReply.used : DirectoryReply → Option (PrefixIdentity × String)
  | .stored record => some record.key
  | .found result => result.used
  | .confirmed result => result.used
  | _ => none

def DirectoryReply.invalidates : DirectoryReply → Bool
  | .invalidated result => result.outcome = .invalidated
  | _ => false

def DirectoryLedger.uses (ledger : DirectoryLedger) : List (PrefixIdentity × String) :=
  ledger.history.filterMap fun event => event.reply.used

def DirectoryLedger.invalidations (ledger : DirectoryLedger) : Nat :=
  ledger.history.countP fun event => event.reply.invalidates

variable (clock : Nat → ℚ)

def MetadataDirectory.admits (directory : MetadataDirectory) (call : DirectoryCall) : Bool :=
  match (directory.serve clock call).1 with
  | .stored record => (directory.records.get? record.key).isNone
  | _ => false

def admissions : MetadataDirectory → List DirectoryCall → Nat
  | _, [] => 0
  | directory, call :: calls =>
      (directory.admits clock call).toNat + admissions (directory.serve clock call).2 calls

end Uses

section Changes

def useKey : Option (PrefixIdentity × String) → List (PrefixIdentity × String) →
    List (PrefixIdentity × String)
  | none, keys => keys
  | some key, keys => (keys.filter fun other => other ≠ key) ++ [key]

theorem useKey_sublist {keys keys' : List (PrefixIdentity × String)} (h : keys.Sublist keys')
    (used : Option (PrefixIdentity × String)) : (useKey used keys).Sublist (useKey used keys') := by
  cases used with
  | none => exact h
  | some key => exact (h.filter _).append_right [key]

theorem dedup_append_toList (uses : List (PrefixIdentity × String))
    (used : Option (PrefixIdentity × String)) :
    (uses ++ used.toList).dedup = useKey used uses.dedup := by
  cases used with
  | none => rw [Option.toList_none, List.append_nil, useKey]
  | some key => exact OrderedDict.dedup_concat uses key

def MetadataDirectory.account (directory : MetadataDirectory) : Nat :=
  directory.records.size + directory.capacityEvictions + directory.ttlEvictions

/-- No record is admitted and none gets lost. -/
structure Settles (directory next : MetadataDirectory) (used : Option (PrefixIdentity × String)) :
    Prop where
  order : next.records.keys.Sublist (useKey used directory.records.keys)
  account : next.account = directory.account
  size : next.records.size ≤ directory.records.size
  capacity : next.capacityEvictions = directory.capacityEvictions

variable {clock : Nat → ℚ} {directory middle next : MetadataDirectory}
  {used : Option (PrefixIdentity × String)} {record current : DirectoryRecord}

theorem Settles.refl (directory : MetadataDirectory) : Settles directory directory none :=
  ⟨List.Sublist.refl _, rfl, le_rfl, rfl⟩

theorem Settles.trans (h : Settles directory middle none) (h' : Settles middle next used) :
    Settles directory next used where
  order := h'.order.trans (useKey_sublist h.order used)
  account := h'.account.trans h.account
  size := h'.size.trans h.size
  capacity := h'.capacity.trans h.capacity

theorem Settles.used_of_not_mem {key : PrefixIdentity × String} (h : Settles directory next none)
    (hgone : key ∉ next.records.keys) : Settles directory next (some key) where
  order := by
    have hothers : (next.records.keys.filter fun other => other ≠ key) = next.records.keys := by
      refine List.filter_eq_self.mpr fun other hother => decide_eq_true ?_
      rintro rfl
      exact hgone hother
    rw [← hothers]
    exact (h.order.filter _).trans (List.sublist_append_left _ _)
  account := h.account
  size := h.size
  capacity := h.capacity

theorem settles_tick (directory : MetadataDirectory) : Settles directory directory.tick none :=
  ⟨List.Sublist.refl _, rfl, le_rfl, rfl⟩

theorem settles_touch (hheld : directory.records.get? record.key = some current) :
    Settles directory (directory.touch clock record) (some record.key) := by
  have hrecords := records_touch clock hheld
  have hsize : (directory.touch clock record).records.size = directory.records.size := by
    have hpop := directory.records.size_pop record.key
    rw [hheld, if_neg (Option.some_ne_none _)] at hpop
    rw [hrecords, OrderedDict.size_putLast, hpop]
  have hcounters : (directory.touch clock record).capacityEvictions = directory.capacityEvictions ∧
      (directory.touch clock record).ttlEvictions = directory.ttlEvictions := by
    simp only [MetadataDirectory.touch, hheld]
    exact ⟨rfl, rfl⟩
  refine ⟨?_, ?_, hsize.le, hcounters.1⟩
  · rw [hrecords, OrderedDict.keys_putLast]
    exact List.Sublist.refl _
  · rw [MetadataDirectory.account, MetadataDirectory.account, hsize, hcounters.1, hcounters.2]

theorem settles_expired (hheld : directory.records.get? record.key = some current)
    (hunmarked : record.staleReason = none)
    (hobserved : directory.workerGenerations record.location = some record.workerGeneration)
    (hstale : ¬ Fresh clock directory record) :
    Settles directory ((directory.recordOutcome clock record).2.popRecord record) none := by
  have hexpired : directory.now clock - record.observedAt ≥ directory.limits.ttlSeconds :=
    not_lt.mp fun hwithin => hstale ⟨hunmarked, hwithin, hobserved⟩
  have hequation : directory.recordOutcome clock record =
      (.stale, { directory.tick with ttlEvictions := directory.ttlEvictions + 1 }) := by
    rw [MetadataDirectory.recordOutcome, if_neg (not_not.mpr hunmarked), if_pos hexpired]
  have hpop := directory.records.size_pop record.key
  rw [hheld, if_neg (Option.some_ne_none _)] at hpop
  rw [hequation]
  refine ⟨?_, ?_, ?_, rfl⟩
  · change (directory.records.pop record.key).keys.Sublist directory.records.keys
    rw [OrderedDict.keys_pop]
    exact List.filter_sublist
  · change (directory.records.pop record.key).size + directory.capacityEvictions +
      (directory.ttlEvictions + 1) =
      directory.records.size + directory.capacityEvictions + directory.ttlEvictions
    omega
  · change (directory.records.pop record.key).size ≤ directory.records.size
    omega

theorem settles_marked (hmarked : record.staleReason ≠ none) :
    Settles directory (directory.recordOutcome clock record).2 none := by
  rw [MetadataDirectory.recordOutcome, if_pos hmarked]
  exact .refl directory

theorem settles_dropped (hheld : directory.records.get? record.key = some current)
    (hobserved : record.staleReason = none →
      directory.workerGenerations record.location = some record.workerGeneration)
    (hstale : ¬ Fresh clock directory record) :
    Settles directory
      (if record.staleReason = none then (directory.recordOutcome clock record).2.popRecord record
        else (directory.recordOutcome clock record).2) none := by
  split_ifs with hunmarked
  · exact settles_expired hheld hunmarked (hobserved hunmarked) hstale
  · exact settles_marked hunmarked

theorem settles_markStale (directory : MetadataDirectory) (generations : String → Option String)
    (predicate : DirectoryRecord → Bool) (reason : String) :
    Settles directory
      ({ directory with workerGenerations := generations }.markStale predicate reason).2 none := by
  have hsize (f : DirectoryRecord → DirectoryRecord) :
      (directory.records.mapValues f).size = directory.records.size := by
    rw [← OrderedDict.length_keys, OrderedDict.keys_mapValues, OrderedDict.length_keys]
  refine ⟨?_, ?_, (hsize _).le, rfl⟩
  · simp only [MetadataDirectory.markStale, OrderedDict.keys_mapValues]
    exact List.Sublist.refl _
  · simp only [MetadataDirectory.account, MetadataDirectory.markStale, hsize]

end Changes

section Questions

variable {clock : Nat → ℚ} {directory : MetadataDirectory} {identity : PrefixIdentity}
  {destination : String}

structure Pending (directory : MetadataDirectory) (identity : PrefixIdentity) (destination : String)
    (records : List DirectoryRecord) : Prop where
  held : ∀ record ∈ records, directory.records.get? record.key = some record
  nodup : (records.map DirectoryRecord.key).Nodup
  observed : ∀ record ∈ records, record.staleReason = none →
    directory.workerGenerations record.location = some record.workerGeneration
  remote : ∀ record ∈ records, record.prefixIdentity = identity → record.location ≠ destination

theorem Pending.tail {record : DirectoryRecord} {records : List DirectoryRecord}
    (h : Pending directory identity destination (record :: records)) :
    Pending directory identity destination records where
  held other hother := h.held other (List.mem_cons_of_mem _ hother)
  nodup := (List.nodup_cons.mp h.nodup).2
  observed other hother := h.observed other (List.mem_cons_of_mem _ hother)
  remote other hother := h.remote other (List.mem_cons_of_mem _ hother)

theorem Pending.dropped {record : DirectoryRecord} {records : List DirectoryRecord}
    (h : Pending directory identity destination (record :: records)) :
    Pending
      (if record.staleReason = none then (directory.recordOutcome clock record).2.popRecord record
        else (directory.recordOutcome clock record).2) identity destination records := by
  have hgenerations := (inherits_dropped clock directory record).generations
  refine ⟨fun other hother => ?_, h.tail.nodup, ?_, h.tail.remote⟩
  · have hkey : other.key ≠ record.key := by
      intro heq
      exact (List.nodup_cons.mp h.nodup).1 (heq ▸ List.mem_map_of_mem hother)
    have hrecords : (directory.recordOutcome clock record).2.records = directory.records := by
      rcases recordOutcome_cases clock directory record with
        ⟨-, hequation⟩ | ⟨-, -, _, hequation⟩ | ⟨-, hequation⟩ <;> rw [hequation] <;> rfl
    have hheld := h.tail.held other hother
    split_ifs
    · rw [MetadataDirectory.popRecord, OrderedDict.get?_pop, if_neg hkey, hrecords, hheld]
    · rw [hrecords, hheld]
  · rw [hgenerations]
    exact h.tail.observed

theorem settles_lookupRemote {records : List DirectoryRecord} {staleRemote : Option DirectoryRecord}
    (h : Pending directory identity destination records)
    (hremote : ∀ record ∈ staleRemote, record.location ≠ destination) :
    Settles directory (MetadataDirectory.lookupRemote clock identity destination records staleRemote
      directory).2
      (MetadataDirectory.lookupRemote clock identity destination records staleRemote
      directory).1.used := by
  induction records generalizing staleRemote directory with
  | nil =>
      cases staleRemote with
      | none => exact .refl directory
      | some record =>
          have hunused : (lookupResult record destination .stale).used = none :=
            if_pos ⟨rfl, hremote record rfl⟩
          rw [MetadataDirectory.lookupRemote, hunused]
          exact .refl directory
  | cons record records ih =>
      rw [MetadataDirectory.lookupRemote]
      by_cases hother : record.prefixIdentity ≠ identity
      · rw [if_pos hother]
        exact ih h.tail hremote
      rw [if_neg hother]
      have hheld := h.held record List.mem_cons_self
      by_cases hfresh : Fresh clock directory record
      · have hused : (lookupResult record destination
            (if record.complete then .remote else .partialHit)).used = some record.key := by
          refine if_neg fun hstale => ?_
          cases hcomplete : record.complete <;> simp [hcomplete, lookupResult] at hstale
        rw [recordOutcome_of_fresh hfresh]
        have htouched : Settles directory (directory.tick.touch clock record) (some record.key) :=
          (settles_tick directory).trans (settles_touch hheld)
        cases hcomplete : record.complete
        · rw [hcomplete] at hused
          simp only [Bool.false_eq_true, if_false, reduceCtorEq] at hused ⊢
          rw [hused]
          exact htouched
        · rw [hcomplete] at hused
          simp only [if_true, reduceCtorEq, if_false] at hused ⊢
          rw [hused]
          exact htouched
      · have houtcome := recordOutcome_of_not_fresh hfresh
        simp only [houtcome, if_true]
        have hdropped := settles_dropped hheld (h.observed record List.mem_cons_self) hfresh
        have hlocation := h.remote record List.mem_cons_self (not_not.mp hother)
        refine hdropped.trans (ih h.dropped fun other hfound => ?_)
        rw [← Option.some.inj hfound]
        exact hlocation

structure Kept (directory : MetadataDirectory) : Prop where
  keyed : ∀ key record, directory.records.get? key = some record → record.key = key
  observed : ∀ key record, directory.records.get? key = some record → record.staleReason = none →
    directory.workerGenerations record.location = some record.workerGeneration

theorem AllBelieved.kept {ledger : DirectoryLedger} (h : AllBelieved clock ledger) :
    Kept ledger.directory where
  keyed key record hrecord := (h key record hrecord).keyed
  observed key record hrecord := (h key record hrecord).observed

theorem Kept.pending (h : Kept directory)
    (hown : directory.records.get? (identity, destination) = none) :
    Pending directory identity destination directory.records.values.reverse := by
  have hheld : ∀ record ∈ directory.records.values.reverse, directory.records.get? record.key =
      some record := by
    intro record hrecord
    obtain ⟨key, hkey⟩ := OrderedDict.exists_get?_of_mem_values (List.mem_reverse.mp hrecord)
    rwa [h.keyed key record hkey]
  have hkeys : directory.records.values.map DirectoryRecord.key = directory.records.keys := by
    rw [OrderedDict.values, OrderedDict.keys, List.map_map]
    refine List.map_congr_left fun entry hentry => ?_
    exact h.keyed entry.1 entry.2 (OrderedDict.get?_of_mem hentry)
  refine ⟨hheld, ?_, fun record hrecord => h.observed _ record (hheld record hrecord), ?_⟩
  · rw [List.map_reverse, List.nodup_reverse, hkeys]
    exact directory.records.nodup
  · rintro record hrecord rfl rfl
    have hfound := hheld record hrecord
    rw [DirectoryRecord.key, hown] at hfound
    cases hfound

theorem settles_lookup (h : Kept directory) (compatibilityNamespace : String) :
    Settles directory (directory.lookup clock identity destination compatibilityNamespace).2
      (directory.lookup clock identity destination compatibilityNamespace).1.used := by
  by_cases hnamespace : compatibilityNamespace = identity.compatibilityNamespace
  · cases hown : directory.records.get? (identity, destination) with
    | none =>
        rw [lookup_remote hnamespace hown]
        exact settles_lookupRemote (h.pending hown) (fun record hrecord => by cases hrecord)
    | some own =>
        have hkey := h.keyed _ own hown
        have hheld := hkey ▸ hown
        have hlocation : own.location = destination := congrArg Prod.snd hkey
        have hused (outcome : LookupOutcome) : (lookupResult own destination outcome).used =
            some own.key :=
          if_neg fun hremote => hremote.2 hlocation
        by_cases hfresh : Fresh clock directory own
        · rw [lookup_own hnamespace hown hfresh, hused]
          exact (settles_tick directory).trans (settles_touch hheld)
        · have houtcome := recordOutcome_of_not_fresh hfresh
          rw [MetadataDirectory.lookup, if_neg (not_not.mpr hnamespace), hown]
          simp only [houtcome, hused, true_and]
          split_ifs with hunmarked
          · refine (settles_expired hheld hunmarked (h.observed _ own hown hunmarked)
              hfresh).used_of_not_mem ?_
            rw [MetadataDirectory.popRecord, OrderedDict.mem_keys_iff, OrderedDict.get?_pop,
              if_pos rfl]
            exact not_not.mpr rfl
          · rw [MetadataDirectory.recordOutcome, if_pos hunmarked]
            exact settles_touch hheld
  · rw [MetadataDirectory.lookup, if_pos hnamespace]
    exact .refl directory

theorem settles_confirm (h : Kept directory) :
    Settles directory (directory.confirm clock identity destination).2
      (directory.confirm clock identity destination).1.used := by
  unfold MetadataDirectory.confirm
  cases hown : directory.records.get? (identity, destination) with
  | none => exact .refl directory
  | some own =>
      have hkey := h.keyed _ own hown
      have hheld := hkey ▸ hown
      by_cases hfresh : Fresh clock directory own
      · have htouched : Settles directory (directory.tick.touch clock own)
            (some (identity, destination)) :=
          hkey ▸ (settles_tick directory).trans (settles_touch hheld)
        simp only [recordOutcome_of_fresh hfresh]
        cases own.complete <;> exact htouched
      · simp only [recordOutcome_of_not_fresh hfresh, if_true]
        exact settles_dropped hheld (h.observed _ own hown) hfresh

end Questions

section Reports

variable {clock : Nat → ℚ} {directory : MetadataDirectory}

theorem evict_entries (directory : MetadataDirectory) (excess : Nat) :
    (directory.evict excess).records.entries = directory.records.entries.drop excess := by
  induction excess generalizing directory with
  | zero => rfl
  | succ excess ih =>
      rw [MetadataDirectory.evict, ih]
      exact List.drop_tail

theorem evict_evictions (directory : MetadataDirectory) (excess : Nat) :
    (directory.evict excess).capacityEvictions = directory.capacityEvictions + excess ∧
      (directory.evict excess).ttlEvictions = directory.ttlEvictions := by
  induction excess generalizing directory with
  | zero => exact ⟨rfl, rfl⟩
  | succ excess ih =>
      obtain ⟨hcapacity, httl⟩ := ih
        { directory with
          records := directory.records.popFirst
          capacityEvictions := directory.capacityEvictions + 1 }
      refine ⟨hcapacity.trans ?_, httl⟩
      rw [Nat.add_assoc, Nat.add_comm 1]

structure Stores (directory next : MetadataDirectory) (record : DirectoryRecord) (evicted : Nat) :
    Prop where
  entries : next.records.entries = ((directory.records.putLast record.key record).entries).drop
    evicted
  excess : evicted = (directory.records.putLast record.key record).size - directory.limits.capacity
  capacity : next.capacityEvictions = directory.capacityEvictions + evicted
  ttl : next.ttlEvictions = directory.ttlEvictions

theorem upsert_stores (clock : Nat → ℚ) (directory : MetadataDirectory) (identity : PrefixIdentity)
    (location generation : String) (tokens bytes : Int) (complete : Bool) :
    (∃ error, directory.upsert clock identity location generation tokens bytes complete =
      (.error error, directory)) ∨ ∃ record evicted next, record.key = (identity, location) ∧
        directory.upsert clock identity location generation tokens bytes complete = (.ok record,
        next) ∧
          Stores directory next record evicted := by
  unfold MetadataDirectory.upsert
  split
  · exact .inl ⟨_, rfl⟩
  · simp only [OrderedDict.moveToEnd_set]
    refine .inr ⟨_, _, _, rfl, rfl, evict_entries _ _, rfl, (evict_evictions _ _).1,
      (evict_evictions _ _).2⟩

variable {next : MetadataDirectory} {record : DirectoryRecord} {evicted : Nat}

theorem Stores.size (h : Stores directory next record evicted) :
    next.records.size = (directory.records.putLast record.key record).size - evicted := by
  rw [OrderedDict.size, h.entries, List.length_drop, OrderedDict.size]

theorem Stores.order (h : Stores directory next record evicted) :
    next.records.keys.Sublist (useKey (some record.key) directory.records.keys) := by
  rw [useKey, ← OrderedDict.keys_putLast _ _ record, OrderedDict.keys, h.entries, OrderedDict.keys]
  exact (List.drop_sublist _ _).map _

theorem Stores.account (h : Stores directory next record evicted) :
    next.account = directory.account + (directory.records.get? record.key).isNone.toNat := by
  have hsize := h.size
  have hput := directory.records.size_putLast record.key record
  have hpop := directory.records.size_pop record.key
  have hevicted := h.excess
  rw [MetadataDirectory.account, MetadataDirectory.account, h.capacity, h.ttl]
  cases hheld : directory.records.get? record.key with
  | none =>
      rw [if_pos hheld] at hpop
      change _ = _ + 1
      omega
  | some current =>
      rw [if_neg (hheld ▸ Option.some_ne_none current)] at hpop
      change _ = _ + 0
      omega

theorem Stores.oldest (h : Stores directory next record evicted)
    (hbounded : directory.records.size ≤ directory.limits.capacity)
    (hevicts : next.capacityEvictions ≠ directory.capacityEvictions) :
    ∃ oldest kept, directory.records.entries = oldest :: kept ∧
      next.records.entries = kept ++ [(record.key, record)] ∧
      next.capacityEvictions = directory.capacityEvictions + 1 := by
  have hput := directory.records.size_putLast record.key record
  have hpop := directory.records.size_pop record.key
  have hevicted := h.excess
  have hcapacity := h.capacity
  have hpositive := directory.limits.capacity_pos
  have hone : evicted = 1 := by omega
  have hnew : directory.records.get? record.key = none := by
    by_contra hheld
    rw [if_neg hheld] at hpop
    omega
  rw [if_pos hnew] at hpop
  have hfull : 0 < directory.records.size := by omega
  obtain ⟨oldest, kept, hentries⟩ := List.exists_cons_of_length_pos hfull
  refine ⟨oldest, kept, hentries, ?_, by omega⟩
  rw [h.entries, hone, OrderedDict.entries_putLast hnew, hentries]
  rfl

end Reports

section Accounts

variable {clock : Nat → ℚ} {limits : DirectoryLimits} {admitted : Nat} {ledger : DirectoryLedger}
  {next : MetadataDirectory}

structure Accounted (limits : DirectoryLimits) (admitted : Nat) (ledger : DirectoryLedger) :
    Prop where
  bounded : ledger.directory.records.size ≤ limits.capacity
  sameLimits : ledger.directory.limits = limits
  ordered : ledger.directory.records.keys.Sublist ledger.uses.dedup
  balanced : admitted = ledger.directory.account + ledger.invalidations

theorem uses_concat (directory : MetadataDirectory) (history : List DirectoryEvent)
    (event : DirectoryEvent) : DirectoryLedger.uses ⟨directory, history ++ [event]⟩ =
      DirectoryLedger.uses ⟨directory, history⟩ ++ event.reply.used.toList := by
  rw [DirectoryLedger.uses, List.filterMap_append, DirectoryLedger.uses]
  cases hused : event.reply.used <;> simp [hused]

theorem invalidations_concat (directory : MetadataDirectory) (history : List DirectoryEvent)
    (event : DirectoryEvent) : DirectoryLedger.invalidations ⟨directory, history ++ [event]⟩ =
      DirectoryLedger.invalidations ⟨directory, history⟩ + event.reply.invalidates.toNat := by
  rw [DirectoryLedger.invalidations, List.countP_append, DirectoryLedger.invalidations]
  cases hlost : event.reply.invalidates <;> simp [hlost]

theorem Accounted.serve (h : Accounted limits admitted ledger) {call : DirectoryCall}
    {reply : DirectoryReply} (hserve : ledger.directory.serve clock call = (reply, next))
    (hbounded : next.records.size ≤ limits.capacity)
    (horder : next.records.keys.Sublist (useKey reply.used ledger.directory.records.keys))
    {gained : Nat}
    (haccount : next.account + reply.invalidates.toNat = ledger.directory.account + gained) :
    Accounted limits (admitted + gained) (ledger.serve clock call) := by
  have hlimits : next.limits = ledger.directory.limits := by
    rw [← serve_limits ledger.directory call, hserve]
  rw [DirectoryLedger.serve, hserve]
  refine ⟨hbounded, hlimits.trans h.sameLimits, ?_, ?_⟩
  · rw [uses_concat, dedup_append_toList]
    exact horder.trans (useKey_sublist h.ordered _)
  · have hbalanced := h.balanced
    rw [invalidations_concat]
    change admitted + gained = next.account + (ledger.invalidations + reply.invalidates.toNat)
    omega

theorem Accounted.settle (h : Accounted limits admitted ledger) {call : DirectoryCall}
    {reply : DirectoryReply} (hserve : ledger.directory.serve clock call = (reply, next))
    (hadmits : ledger.directory.admits clock call = false)
    (hinvalidates : reply.invalidates = false)
    (hsettles : Settles ledger.directory next reply.used) :
    Accounted limits (admitted + (ledger.directory.admits clock call).toNat)
      (ledger.serve clock call) := by
  refine h.serve hserve (hsettles.size.trans h.bounded) hsettles.order ?_
  rw [hinvalidates, hadmits, hsettles.account]

theorem admits_of_serve {directory : MetadataDirectory} {call : DirectoryCall}
    {reply : DirectoryReply} (hserve : directory.serve clock call = (reply, next))
    (hreply : ∀ record, reply ≠ .stored record) :
    directory.admits clock call = false := by
  rw [MetadataDirectory.admits, hserve]
  cases reply with
  | stored record => exact absurd rfl (hreply record)
  | _ => rfl

theorem Kept.evicts (h : Kept ledger.directory)
    (hbounded : ledger.directory.records.size ≤ ledger.directory.limits.capacity)
    (call : DirectoryCall)
    (hevicts :
      (ledger.directory.serve clock call).2.capacityEvictions ≠
      ledger.directory.capacityEvictions) :
    ∃ record oldest kept, (ledger.directory.serve clock call).1 = .stored record ∧
      ledger.directory.records.entries = oldest :: kept ∧
      (ledger.directory.serve clock call).2.records.entries = kept ++ [(record.key, record)] ∧
      (ledger.directory.serve clock call).2.capacityEvictions =
      ledger.directory.capacityEvictions + 1 := by
  cases call with
  | observeWorker location generation =>
      refine absurd ?_ hevicts
      rcases observeWorker_cases ledger.directory location generation with
        ⟨error, hequation⟩ | ⟨-, hequation⟩ | ⟨count, hequation⟩ <;>
        exact congrArg (fun answer => answer.2.capacityEvictions) hequation
  | upsert identity location generation tokens bytes complete =>
      rcases upsert_stores clock ledger.directory identity location generation tokens bytes
        complete with
        ⟨error, hequation⟩ | ⟨record, evicted, next, -, hequation, hstores⟩
      · exact absurd (congrArg (fun answer => answer.2.capacityEvictions) hequation) hevicts
      · have hserve := congrArg (Prod.map (replied .stored) id) hequation
        rw [MetadataDirectory.serve, hserve] at hevicts ⊢
        obtain ⟨oldest, kept, hentries⟩ := hstores.oldest hbounded hevicts
        exact ⟨record, oldest, kept, rfl, hentries⟩
  | lookup identity destination compatibilityNamespace =>
      exact absurd (settles_lookup h compatibilityNamespace).capacity hevicts
  | confirm identity destination => exact absurd (settles_confirm h).capacity hevicts
  | invalidate identity location reason =>
      refine absurd ?_ hevicts
      simp only [MetadataDirectory.serve, MetadataDirectory.invalidate, Prod.map, id]
      split <;> rfl
  | invalidateNamespace compatibilityNamespace reason =>
      refine absurd ?_ hevicts
      simp only [MetadataDirectory.serve, MetadataDirectory.invalidateNamespace, Prod.map, id]
      split <;> rfl

theorem accounted_observeWorker (h : Accounted limits admitted ledger)
    (location generation : String) :
    Accounted limits
      (admitted + (ledger.directory.admits clock (.observeWorker location generation)).toNat)
      (ledger.serve clock (.observeWorker location generation)) := by
  rcases observeWorker_cases ledger.directory location generation with
    ⟨error, hequation⟩ | ⟨-, hequation⟩ | ⟨count, hequation⟩
  · have hserve := congrArg (Prod.map (replied .staled) id) hequation
    exact h.settle hserve (admits_of_serve hserve nofun) rfl (.refl _)
  · have hserve := congrArg (Prod.map (replied .staled) id) hequation
    exact h.settle hserve (admits_of_serve hserve nofun) rfl ⟨List.Sublist.refl _, rfl, le_rfl, rfl⟩
  · have hserve := congrArg (Prod.map (replied .staled) id) hequation
    exact h.settle hserve (admits_of_serve hserve nofun) rfl (settles_markStale _ _ _ _)

theorem accounted_upsert (h : Accounted limits admitted ledger) (identity : PrefixIdentity)
    (location generation : String) (tokens bytes : Int) (complete : Bool) :
    let call := DirectoryCall.upsert identity location generation tokens bytes complete
    Accounted limits (admitted + (ledger.directory.admits clock call).toNat)
      (ledger.serve clock call) := by
  intro call
  rcases upsert_stores clock ledger.directory identity location generation tokens bytes
    complete with
    ⟨error, hequation⟩ | ⟨record, evicted, next, -, hequation, hstores⟩
  · have hserve := congrArg (Prod.map (replied .stored) id) hequation
    exact h.settle hserve (admits_of_serve hserve nofun) rfl (.refl _)
  · have hserve : ledger.directory.serve clock call = (.stored record, next) :=
      congrArg (Prod.map (replied .stored) id) hequation
    have hadmits : ledger.directory.admits clock call =
        (ledger.directory.records.get? record.key).isNone := by
      rw [MetadataDirectory.admits, hserve]
    have hbounded : next.records.size ≤ limits.capacity := by
      have hsize := hstores.size
      have hexcess := hstores.excess
      rw [h.sameLimits] at hexcess
      omega
    rw [hadmits]
    exact h.serve hserve hbounded hstores.order hstores.account

theorem accounted_invalidate (h : Accounted limits admitted ledger) (identity : PrefixIdentity)
    (location reason : String) :
    Accounted limits
      (admitted + (ledger.directory.admits clock (.invalidate identity location reason)).toNat)
      (ledger.serve clock (.invalidate identity location reason)) := by
  have hpop := ledger.directory.records.size_pop (identity, location)
  cases herror : requireText "reason" reason with
  | some error =>
      have hserve : ledger.directory.serve clock (.invalidate identity location reason) =
          (.raised error, ledger.directory) := by
        simp only [MetadataDirectory.serve, MetadataDirectory.invalidate, herror]
        rfl
      exact h.settle hserve (admits_of_serve hserve (by simp)) rfl (.refl _)
  | none =>
      have hserve : ledger.directory.serve clock (.invalidate identity location reason) =
          (.invalidated ⟨if ledger.directory.records.get? (identity, location) = none then .missing
            else .invalidated, identity, location, reason⟩,
            { ledger.directory with
              records := ledger.directory.records.pop (identity, location) }) := by
        simp only [MetadataDirectory.serve, MetadataDirectory.invalidate, herror]
        rfl
      have hadmits : ledger.directory.admits clock (.invalidate identity location reason) = false :=
        admits_of_serve hserve (by simp)
      rw [hadmits]
      refine h.serve hserve ?_ ?_ ?_
      · change (ledger.directory.records.pop (identity, location)).size ≤ limits.capacity
        have hbounded := h.bounded
        omega
      · change (ledger.directory.records.pop (identity, location)).keys.Sublist
          ledger.directory.records.keys
        rw [OrderedDict.keys_pop]
        exact List.filter_sublist
      · simp only [MetadataDirectory.account, DirectoryReply.invalidates, Bool.toNat_false]
        by_cases hheld : ledger.directory.records.get? (identity, location) = none
        · simp only [hheld, if_true, reduceCtorEq, decide_false, Bool.toNat_false] at hpop ⊢
          omega
        · simp only [hheld, if_false, decide_true, Bool.toNat_true] at hpop ⊢
          omega

theorem accounted_invalidateNamespace (h : Accounted limits admitted ledger)
    (compatibilityNamespace reason : String) :
    Accounted limits
      (admitted + (ledger.directory.admits clock
      (.invalidateNamespace compatibilityNamespace reason)).toNat)
      (ledger.serve clock (.invalidateNamespace compatibilityNamespace reason)) := by
  cases herror : requireText "compatibility_namespace" compatibilityNamespace <|> requireText
    "reason" reason with
  | some error =>
      have hserve : ledger.directory.serve clock
          (.invalidateNamespace compatibilityNamespace reason) =
          (.raised error, ledger.directory) := by
        simp only [MetadataDirectory.serve, MetadataDirectory.invalidateNamespace, herror]
        rfl
      exact h.settle hserve (admits_of_serve hserve (by simp)) rfl (.refl _)
  | none =>
      have hserve : ledger.directory.serve clock
          (.invalidateNamespace compatibilityNamespace reason) =
          ((ledger.directory.markStale (fun record =>
            record.prefixIdentity.compatibilityNamespace = compatibilityNamespace) reason).map
              .staled id) := by
        simp only [MetadataDirectory.serve, MetadataDirectory.invalidateNamespace, herror]
        rfl
      exact h.settle hserve (admits_of_serve hserve (by simp)) rfl (settles_markStale _ _ _ _)

theorem accounted_serve (h : Accounted limits admitted ledger) (hkept : Kept ledger.directory)
    (call : DirectoryCall) :
    Accounted limits (admitted + (ledger.directory.admits clock call).toNat)
      (ledger.serve clock call) := by
  cases call with
  | observeWorker location generation => exact accounted_observeWorker h location generation
  | upsert identity location generation tokens bytes complete =>
      exact accounted_upsert h identity location generation tokens bytes complete
  | lookup identity destination compatibilityNamespace =>
      exact h.settle rfl (admits_of_serve rfl nofun) rfl
        (settles_lookup hkept compatibilityNamespace)
  | confirm identity destination =>
      exact h.settle rfl (admits_of_serve rfl nofun) rfl (settles_confirm hkept)
  | invalidate identity location reason => exact accounted_invalidate h identity location reason
  | invalidateNamespace compatibilityNamespace reason =>
      exact accounted_invalidateNamespace h compatibilityNamespace reason

theorem accounted_foldl (h : Accounted limits admitted ledger)
    (hbelieved : AllBelieved clock ledger) (calls : List DirectoryCall) :
    Accounted limits (admitted + admissions clock ledger.directory calls)
      (calls.foldl (DirectoryLedger.serve clock) ledger) := by
  induction calls generalizing admitted ledger with
  | nil => exact h
  | cons call calls ih =>
      have hserved := ih (accounted_serve h hbelieved.kept call) (allBelieved_serve hbelieved call)
      rw [admissions, ← Nat.add_assoc]
      exact hserved

theorem accounted_ledgerAfter (clock : Nat → ℚ) (limits : DirectoryLimits)
    (calls : List DirectoryCall) :
    Accounted limits (admissions clock (emptyDirectory limits) calls)
      (ledgerAfter clock limits calls) := by
  have hempty : Accounted limits 0 ⟨emptyDirectory limits, []⟩ :=
    ⟨Nat.zero_le _, rfl, List.Sublist.refl _, rfl⟩
  have hrun := accounted_foldl hempty (allBelieved_ledgerAfter clock limits []) calls
  rwa [Nat.zero_add] at hrun

/-- After any calls the directory is within its capacity, in the order of last uses, current in all
that is not marked, and accounts for every record; and the next call can only drop the record that
was not used for longest. -/
theorem directory_accounts {clock : Nat → ℚ} (hclock : Monotone clock) (limits : DirectoryLimits)
    (calls : List DirectoryCall) :
    let ledger := ledgerAfter clock limits calls
    let directory := ledger.directory
    directory.records.size ≤ limits.capacity ∧
      directory.records.keys.Sublist ledger.uses.dedup ∧
      (directory.records.values.Pairwise fun earlier later =>
        earlier.lastAccessedAt ≤ later.lastAccessedAt) ∧
      (∀ call, let next := (directory.serve clock call).2
        next.capacityEvictions = directory.capacityEvictions ∨
          ∃ record oldest kept, (directory.serve clock call).1 = .stored record ∧
            directory.records.entries = oldest :: kept ∧
              next.records.entries = kept ++ [(record.key, record)] ∧
            next.capacityEvictions = directory.capacityEvictions + 1 ∧
            ∀ entry ∈ kept, oldest.2.lastAccessedAt ≤ entry.2.lastAccessedAt) ∧
      (∀ record ∈ directory.records.values, record.staleReason = none →
        directory.workerGenerations record.location = some record.workerGeneration) ∧
      admissions clock (emptyDirectory limits) calls =
        directory.records.size + directory.capacityEvictions + directory.ttlEvictions +
          ledger.invalidations := by
  intro ledger directory
  have haccounted := accounted_ledgerAfter clock limits calls
  have hkept := (allBelieved_ledgerAfter clock limits calls).kept
  have hsorted := (useOrdered_ledgerAfter hclock limits calls).sorted
  have hbounded : directory.records.size ≤ directory.limits.capacity := by
    rw [haccounted.sameLimits]
    exact haccounted.bounded
  refine ⟨haccounted.bounded, haccounted.ordered, hsorted, fun call => ?_, fun record hrecord => ?_,
    haccounted.balanced⟩
  · by_cases hevicts : (directory.serve clock call).2.capacityEvictions =
      directory.capacityEvictions
    · exact .inl hevicts
    · obtain ⟨record, oldest, kept, hstored, hentries, hnext, hcount⟩ :=
        hkept.evicts hbounded call hevicts
      refine .inr ⟨record, oldest, kept, hstored, hentries, hnext, hcount, fun entry hentry => ?_⟩
      rw [OrderedDict.values, hentries, List.map_cons] at hsorted
      exact (List.pairwise_cons.mp hsorted).1 entry.2 (List.mem_map_of_mem hentry)
  · obtain ⟨key, hkey⟩ := OrderedDict.exists_get?_of_mem_values hrecord
    exact hkept.observed key record hkey

theorem directory_accounts_example :
    let limits : DirectoryLimits := ⟨1, 30, by decide, by decide⟩
    let ledger := ledgerAfter exampleClock limits partialCalls
    ledger.directory.capacityEvictions = 1 ∧ ledger.uses.length = 2 ∧
      ledger.directory.records.size ≤ 1 ∧
      ledger.directory.records.keys.Sublist ledger.uses.dedup := by
  intro limits ledger
  obtain ⟨hbounded, hordered, -⟩ := directory_accounts monotone_const limits partialCalls
  exact ⟨by decide +kernel, by decide +kernel, hbounded, hordered⟩

end Accounts

end AiAnalytics.KvTransfer
