import AiAnalytics.KvTransfer.Directory

/-!
# What a question does to the records

Looking up and confirming change no belief: a record that is there afterwards was there before, with
the time of its last use apart.
-/

namespace AiAnalytics.KvTransfer

open Lib

structure Inherits (directory next : MetadataDirectory) : Prop where
  records : ∀ key record, next.records.get? key = some record →
    ∃ earlier time, directory.records.get? key = some earlier ∧
      record = { earlier with lastAccessedAt := time }
  generations : next.workerGenerations = directory.workerGenerations
  limits : next.limits = directory.limits
  readings : directory.readings ≤ next.readings

variable {clock : Nat → ℚ} {directory next last : MetadataDirectory}

theorem Inherits.refl (directory : MetadataDirectory) : Inherits directory directory where
  records _ record h := ⟨record, record.lastAccessedAt, h, rfl⟩
  generations := rfl
  limits := rfl
  readings := Nat.le_refl _

theorem Inherits.trans (h : Inherits directory next) (h' : Inherits next last) :
    Inherits directory last where
  records key record hrecord := by
    obtain ⟨middle, time, hmiddle, rfl⟩ := h'.records key record hrecord
    obtain ⟨earlier, time', hearlier, rfl⟩ := h.records key middle hmiddle
    exact ⟨earlier, time, hearlier, rfl⟩
  generations := h'.generations.trans h.generations
  limits := h'.limits.trans h.limits
  readings := h.readings.trans h'.readings

theorem inherits_of_records (hrecords : next.records = directory.records)
    (hgenerations : next.workerGenerations = directory.workerGenerations)
    (hlimits : next.limits = directory.limits)
    (hreadings : directory.readings ≤ next.readings) : Inherits directory next where
  records _ record h := ⟨record, record.lastAccessedAt, hrecords ▸ h, rfl⟩
  generations := hgenerations
  limits := hlimits
  readings := hreadings

section Outcomes

structure Fresh (clock : Nat → ℚ) (directory : MetadataDirectory) (record : DirectoryRecord) :
    Prop where
  unmarked : record.staleReason = none
  within_ttl : directory.now clock - record.observedAt < directory.limits.ttlSeconds
  generation : directory.workerGenerations record.location = some record.workerGeneration

theorem recordOutcome_cases (clock : Nat → ℚ) (directory : MetadataDirectory)
    (record : DirectoryRecord) :
    (record.staleReason ≠ none ∧ directory.recordOutcome clock record = (.stale, directory)) ∨
      (record.staleReason = none ∧ ¬ Fresh clock directory record ∧ ∃ evictions,
        directory.recordOutcome clock record =
          (.stale, { directory.tick with ttlEvictions := evictions })) ∨
      (Fresh clock directory record ∧ directory.recordOutcome clock record =
        (if record.complete then .present else .partialHit, directory.tick)) := by
  by_cases hmarked : record.staleReason ≠ none
  · exact .inl ⟨hmarked, by rw [MetadataDirectory.recordOutcome, if_pos hmarked]⟩
  right
  have hunmarked := not_not.mp hmarked
  rw [MetadataDirectory.recordOutcome, if_neg hmarked]
  by_cases httl : directory.now clock - record.observedAt ≥ directory.limits.ttlSeconds
  · refine .inl ⟨hunmarked, fun hfresh => ?_, directory.ttlEvictions + 1, by rw [if_pos httl]⟩
    exact absurd hfresh.within_ttl (not_lt.mpr httl)
  rw [if_neg httl]
  by_cases hgeneration : directory.workerGenerations record.location ≠ some record.workerGeneration
  · refine .inl ⟨hunmarked, fun hfresh => hgeneration hfresh.generation, directory.ttlEvictions, ?_⟩
    rw [if_pos hgeneration]
    rfl
  rw [if_neg hgeneration]
  refine .inr ⟨⟨hunmarked, not_le.mp httl, not_not.mp hgeneration⟩, ?_⟩
  cases record.complete <;> rfl

theorem recordOutcome_of_fresh {record : DirectoryRecord} (h : Fresh clock directory record) :
    directory.recordOutcome clock record =
      (if record.complete then .present else .partialHit, directory.tick) := by
  rcases recordOutcome_cases clock directory record with ⟨hmarked, -⟩ | ⟨-, hstale, -⟩
    | ⟨-, hequation⟩
  · exact absurd h.unmarked hmarked
  · exact absurd h hstale
  · exact hequation

theorem recordOutcome_of_not_fresh {record : DirectoryRecord} (h : ¬ Fresh clock directory record) :
    (directory.recordOutcome clock record).1 = .stale := by
  rcases recordOutcome_cases clock directory record with ⟨-, hequation⟩ | ⟨-, -, _, hequation⟩
    | ⟨hfresh, -⟩
  · rw [hequation]
  · rw [hequation]
  · exact absurd hfresh h

theorem inherits_recordOutcome (clock : Nat → ℚ) (directory : MetadataDirectory)
    (record : DirectoryRecord) : Inherits directory (directory.recordOutcome clock record).2 := by
  rcases recordOutcome_cases clock directory record with ⟨-, hequation⟩ | ⟨-, -, _, hequation⟩
    | ⟨-, hequation⟩
  · rw [hequation]
    exact .refl directory
  · rw [hequation]
    exact inherits_of_records rfl rfl rfl (Nat.le_succ _)
  · rw [hequation]
    exact inherits_of_records rfl rfl rfl (Nat.le_succ _)

end Outcomes

section Changes

theorem inherits_popRecord (directory : MetadataDirectory) (record : DirectoryRecord) :
    Inherits directory (directory.popRecord record) where
  records key found h := by
    rw [MetadataDirectory.popRecord, OrderedDict.get?_pop] at h
    split_ifs at h
    exact ⟨found, found.lastAccessedAt, h, rfl⟩
  generations := rfl
  limits := rfl
  readings := Nat.le_refl _

theorem inherits_dropped (clock : Nat → ℚ) (directory : MetadataDirectory)
    (record : DirectoryRecord) : Inherits directory
      (if record.staleReason = none then (directory.recordOutcome clock record).2.popRecord record
        else (directory.recordOutcome clock record).2) := by
  have houtcome := inherits_recordOutcome clock directory record
  split_ifs
  · exact houtcome.trans (inherits_popRecord _ record)
  · exact houtcome

theorem records_touch (clock : Nat → ℚ) {record current : DirectoryRecord}
    (h : directory.records.get? record.key = some current) :
    (directory.touch clock record).records =
      directory.records.putLast record.key
      { current with lastAccessedAt := directory.now clock } := by
  simp only [MetadataDirectory.touch, h]
  exact OrderedDict.moveToEnd_set _ _ _

theorem inherits_touch (clock : Nat → ℚ) (directory : MetadataDirectory)
    (record : DirectoryRecord) : Inherits directory (directory.touch clock record) := by
  cases hcurrent : directory.records.get? record.key with
  | none =>
      rw [MetadataDirectory.touch, hcurrent]
      exact .refl directory
  | some current =>
      have hrecords := records_touch clock hcurrent
      simp only [MetadataDirectory.touch, hcurrent] at hrecords ⊢
      refine ⟨fun key found hfound => ?_, rfl, rfl, Nat.le_succ _⟩
      rw [hrecords, OrderedDict.get?_putLast] at hfound
      split_ifs at hfound with hkey
      · exact ⟨current, _, hkey ▸ hcurrent, (Option.some.inj hfound).symm⟩
      · exact ⟨found, found.lastAccessedAt, hfound, rfl⟩

theorem inherits_lookupRemote (clock : Nat → ℚ) (identity : PrefixIdentity) (destination : String)
    (records : List DirectoryRecord) (staleRemote : Option DirectoryRecord)
    (directory : MetadataDirectory) :
    Inherits directory (MetadataDirectory.lookupRemote clock identity destination records
      staleRemote directory).2 := by
  induction records generalizing staleRemote directory with
  | nil => cases staleRemote <;> exact .refl directory
  | cons record records ih =>
      have houtcome := inherits_recordOutcome clock directory record
      rw [MetadataDirectory.lookupRemote]
      by_cases hother : record.prefixIdentity ≠ identity
      · rw [if_pos hother]
        exact ih staleRemote directory
      · rw [if_neg hother]
        by_cases hstale : (directory.recordOutcome clock record).1 = .stale
        · simp only [hstale, if_true]
          exact (inherits_dropped clock directory record).trans (ih _ _)
        · simp only [hstale, if_false]
          exact houtcome.trans (inherits_touch clock _ record)

theorem inherits_lookup (clock : Nat → ℚ) (directory : MetadataDirectory)
    (identity : PrefixIdentity) (destination compatibilityNamespace : String) :
    Inherits directory (directory.lookup clock identity destination compatibilityNamespace).2 := by
  unfold MetadataDirectory.lookup
  split_ifs with hnamespace
  · exact .refl directory
  · split
    · rename_i own hown
      have houtcome := inherits_recordOutcome clock directory own
      simp only
      split_ifs
      · exact houtcome.trans (inherits_popRecord _ own)
      · exact houtcome.trans (inherits_touch clock _ own)
    · exact inherits_lookupRemote _ _ _ _ _ _

theorem inherits_confirm (clock : Nat → ℚ) (directory : MetadataDirectory)
    (identity : PrefixIdentity) (destination : String) :
    Inherits directory (directory.confirm clock identity destination).2 := by
  unfold MetadataDirectory.confirm
  split
  · exact .refl directory
  · rename_i record hrecord
    have houtcome := inherits_recordOutcome clock directory record
    by_cases hstale : (directory.recordOutcome clock record).1 = .stale
    · simp only [hstale, if_true]
      exact inherits_dropped clock directory record
    · simp only [hstale, if_false]
      exact houtcome.trans (inherits_touch clock _ record)

end Changes

end AiAnalytics.KvTransfer
