import AiAnalytics.Evals.Proof.ReviewClasses
import AiAnalytics.Lib.JsonRoundTrip
import AiAnalytics.Lib.OpenLines

/-!
# The last writer

Every line that is not blank has one class, the latest applied record of a key is its verdict, and a
record of an earlier time that is appended later changes no verdict. All of this holds of a file
that can be read at all: what `json.loads` raises beside a `JSONDecodeError` leaves the loop.
-/

namespace AiAnalytics.Evals

open Lib

variable {Float : Type} {lib : ReviewLibrary Float} {run : FrozenRun}

section Lookups

variable {κ α β : Type} [BEq κ] {entries : List (κ × α)} {g : α → Option β} {k : κ}

theorem lookup_map_snd (f : α → β) (entries : List (κ × α)) (k : κ) :
    (entries.map fun entry => (entry.1, f entry.2)).lookup k = (entries.lookup k).map f := by
  induction entries with
  | nil => rfl
  | cons entry entries ih =>
      rw [List.map_cons, List.lookup_cons, List.lookup_cons, ih]
      cases k == entry.1 <;> rfl

theorem lookup_filterMap_snd [LawfulBEq κ] (hkeys : (entries.map Prod.fst).Nodup) :
    (entries.filterMap fun entry => (g entry.2).map fun value => (entry.1, value)).lookup k =
      (entries.lookup k).bind g := by
  induction entries with
  | nil => rfl
  | cons entry entries ih =>
      obtain ⟨hentry, hkeys⟩ := List.nodup_cons.mp hkeys
      rw [List.lookup_cons]
      by_cases hk : k = entry.1
      · -- the key stands nowhere else
        have hrest : entries.lookup k = none := by
          refine List.lookup_eq_none_iff.mpr fun other hother => bne_iff_ne.mpr fun h => hentry ?_
          rw [← hk, h]
          exact List.mem_map_of_mem hother
        have hlater := ih hkeys
        rw [hrest, Option.bind_none] at hlater
        rw [beq_iff_eq.mpr hk]
        cases hg : g entry.2 with
        | none => simp [hg, hlater]
        | some value => simp [hg, hk]
      · have hne : (k == entry.1) = false := beq_eq_false_iff_ne.mpr hk
        rw [hne]
        cases hg : g entry.2 with
        | none => simp [hg, ih hkeys]
        | some value => simp [hg, List.lookup_cons, hne, ih hkeys]

end Lookups

section Latest

variable {items : List (AppliedReview Float)} {a b c : AppliedReview Float}

theorem AppliedReview.Le.total (a b : AppliedReview Float) : a.Le b ∨ b.Le a := by
  unfold AppliedReview.Le
  omega

theorem AppliedReview.Le.trans (h : a.Le b) (h' : b.Le c) : a.Le c := by
  unfold AppliedReview.Le at *
  omega

instance : Std.Total (@AppliedReview.Le Float) := ⟨AppliedReview.Le.total⟩

instance : IsTrans (AppliedReview Float) AppliedReview.Le := ⟨fun _ _ _ => AppliedReview.Le.trans⟩

def AppliedReview.Before (a b : AppliedReview Float) : Prop :=
  a.reviewedAt < b.reviewedAt ∨ a.reviewedAt = b.reviewedAt ∧ a.line < b.line

def LatestOf (items : List (AppliedReview Float)) (resolved : ResolvedReview Float) : Prop :=
  ∃ earlier last, items.Perm (earlier ++ [last]) ∧ (∀ other ∈ earlier, other.Before last) ∧
    resolved.entries = last.entries ∧ resolved.superseded = earlier.map AppliedReview.reviewId

def resolveItems (items : List (AppliedReview Float)) : Option (ResolvedReview Float) :=
  let sorted := items.insertionSort AppliedReview.Le
  sorted.getLast?.map fun last =>
    { entries := last.entries, superseded := sorted.dropLast.map AppliedReview.reviewId }

theorem resolveItems_of_ne_nil (hlines : (items.map AppliedReview.line).Nodup) (hne : items ≠ []) :
    ∃ resolved, resolveItems items = some resolved ∧ LatestOf items resolved := by
  set sorted := items.insertionSort AppliedReview.Le with hsorted
  have hperm : sorted.Perm items := List.perm_insertionSort ..
  have hsorted_ne : sorted ≠ [] := fun h => hne (h ▸ hperm).symm.eq_nil
  have hsplit := List.dropLast_append_getLast hsorted_ne
  have hordered : (sorted.dropLast ++ [sorted.getLast hsorted_ne]).Pairwise AppliedReview.Le := by
    rw [hsplit]
    exact List.pairwise_insertionSort _ items
  have hdistinct :
      ((sorted.dropLast ++ [sorted.getLast hsorted_ne]).map AppliedReview.line).Nodup := by
    rw [hsplit]
    exact (hperm.map _).nodup_iff.mpr hlines
  refine ⟨⟨(sorted.getLast hsorted_ne).entries, sorted.dropLast.map AppliedReview.reviewId⟩, ?_, ?_⟩
  · rw [resolveItems, ← hsorted, List.getLast?_eq_some_getLast hsorted_ne]
    rfl
  · refine ⟨sorted.dropLast, sorted.getLast hsorted_ne, ?_, fun other hother => ?_, rfl, rfl⟩
    · rw [hsplit]
      exact hperm.symm
    · have hle := (List.pairwise_append.mp hordered).2.2 other hother _ (List.mem_singleton_self _)
      have hline : other.line ≠ (sorted.getLast hsorted_ne).line := by
        rw [List.map_append] at hdistinct
        exact (List.nodup_append.mp hdistinct).2.2 _ (List.mem_map_of_mem hother)
          _ (List.mem_singleton_self _)
      unfold AppliedReview.Le at hle
      unfold AppliedReview.Before
      omega

theorem LatestOf.entries_eq {resolved resolved' : ResolvedReview Float}
    {more : List (AppliedReview Float)} (h : LatestOf items resolved)
    (h' : LatestOf (items ++ more) resolved')
    (hmore : ∀ other ∈ more, ∀ item ∈ items, item.entries = resolved.entries → other.Before item) :
    resolved'.entries = resolved.entries := by
  obtain ⟨earlier, last, hperm, hbefore, hentries, -⟩ := h
  obtain ⟨earlier', last', hperm', hbefore', hentries', -⟩ := h'
  have hlast : last ∈ items :=
    hperm.symm.subset (List.mem_append_right _ (List.mem_singleton_self _))
  have hmem : last ∈ earlier' ++ [last'] := hperm'.subset (List.mem_append_left _ hlast)
  have hmem' : last' ∈ items ++ more :=
    hperm'.symm.subset (List.mem_append_right _ (List.mem_singleton_self _))
  rcases List.mem_append.mp hmem with hearlier | hsame
  · -- then `last'` would be both after and before `last`
    have hafter := hbefore' last hearlier
    have hagain : last'.Before last ∨ last' = last := by
      rcases List.mem_append.mp hmem' with hitem | hother
      · rcases List.mem_append.mp (hperm.subset hitem) with hitem | hitem
        · exact Or.inl (hbefore last' hitem)
        · exact Or.inr (List.mem_singleton.mp hitem)
      · exact Or.inl (hmore last' hother last hlast hentries.symm)
    rcases hagain with hbefore | rfl
    · unfold AppliedReview.Before at hafter hbefore
      omega
    · rw [hentries', hentries]
  · rw [hentries', hentries, List.mem_singleton.mp hsame]

end Latest

section Resolution

variable {classes : List (Nat × LineClass Float)} {lines : List (List Char)} {seen : List String}
  {n : Nat} {key : ReviewKey} {text : List Char}

variable (lib) in
def appliedTo (classes : List (Nat × LineClass Float)) (key : ReviewKey) :
    List (AppliedReview Float) :=
  (classes.filterMap (appliedOf lib)).filter fun review => review.key = key

theorem line_of_appliedOf {cls : Nat × LineClass Float} {review : AppliedReview Float}
    (h : appliedOf lib cls = some review) : review.line = cls.1 := by
  obtain ⟨n, cls⟩ := cls
  cases cls <;> simp only [appliedOf, reduceCtorEq, Option.some.injEq] at h
  rw [← h]

theorem reviewedAt_of_appliedOf {cls : Nat × LineClass Float} {review : AppliedReview Float}
    (h : appliedOf lib cls = some review) :
    review.reviewedAt = (parseTs lib (fieldOf review.entries "reviewed_at")).getD 0 := by
  obtain ⟨n, cls⟩ := cls
  cases cls <;> simp only [appliedOf, reduceCtorEq, Option.some.injEq] at h
  rw [← h]

theorem map_line_sublist : ((classes.filterMap (appliedOf lib)).map AppliedReview.line).Sublist
    (classes.map Prod.fst) := by
  induction classes with
  | nil => exact List.Sublist.refl _
  | cons cls classes ih =>
      cases h : appliedOf lib cls with
      | none => simpa [List.filterMap_cons, h] using ih.cons cls.1
      | some review =>
          simpa [List.filterMap_cons, h, line_of_appliedOf h] using ih.cons_cons cls.1

theorem nodup_map_line_appliedTo (h : lineClasses lib run seen n lines = .ok classes)
    (key : ReviewKey) : ((appliedTo lib classes key).map AppliedReview.line).Nodup := by
  have hnumbers : (classes.map Prod.fst).Nodup := by
    rw [map_fst_lineClasses h]
    exact pairwise_lineNumbers.imp fun hlt => hlt.ne
  have hsublist := (List.filter_sublist (p := fun review => decide (review.key = key))
    (l := classes.filterMap (appliedOf lib))).map AppliedReview.line
  exact (hsublist.trans map_line_sublist).nodup hnumbers

theorem collected (classes : List (Nat × LineClass Float)) :
    Collected lib classes (({} : LoadState Float).absorbAll lib classes) := by
  have h := (Collected.empty : Collected lib [] {}).absorbAll classes
  rwa [List.nil_append] at h

theorem lookup_resolved (classes : List (Nat × LineClass Float)) (key : ReviewKey) :
    (reviewsOf lib classes).resolved.lookup key =
      if appliedTo lib classes key = [] then none
      else resolveItems (appliedTo lib classes key) := by
  obtain ⟨keys, hnodup, hkeys, hgroups⟩ :=
    groupBy_eq AppliedReview.key (classes.filterMap (appliedOf lib))
  have hsnd : (reviewsOf lib classes).resolved =
      (groupBy AppliedReview.key (classes.filterMap (appliedOf lib))).filterMap fun entry =>
        (resolveItems entry.2).map fun value => (entry.1, value) := by
    rw [← (collected classes).groups]
    simp only [reviewsOf, LoadState.resolve, List.filterMap_map, resolveItems, Option.map_map,
      Function.comp_def]
  have hnodup' : ((groupBy AppliedReview.key (classes.filterMap (appliedOf lib))).map
      Prod.fst).Nodup := by
    rw [hgroups, List.map_map]
    simpa [Function.comp_def, grouped] using hnodup
  have hempty : appliedTo lib classes key = [] ↔ ¬ ∃ review ∈ classes.filterMap (appliedOf lib),
      review.key = key := by
    simp [appliedTo, List.filter_eq_nil_iff]
  rw [hsnd, lookup_filterMap_snd hnodup', lookup_groupBy]
  by_cases hsome : ∃ review ∈ classes.filterMap (appliedOf lib), review.key = key
  · rw [if_pos hsome, if_neg fun h => hempty.mp h hsome]
    rfl
  · rw [if_neg hsome, if_pos (hempty.mpr hsome)]
    rfl

theorem lookup_history (classes : List (Nat × LineClass Float)) (key : ReviewKey) :
    (reviewsOf lib classes).history.lookup key =
      if appliedTo lib classes key = [] then none
      else some (((appliedTo lib classes key).insertionSort AppliedReview.Le).map
      AppliedReview.entries) := by
  have hmap : (reviewsOf lib classes).history =
      (groupBy AppliedReview.key (classes.filterMap (appliedOf lib))).map fun entry =>
        (entry.1, (entry.2.insertionSort AppliedReview.Le).map AppliedReview.entries) := by
    rw [← (collected classes).groups]
    simp only [reviewsOf, LoadState.resolve, List.map_map, Function.comp_def]
  have hlookup := lookup_map_snd (fun items : List (AppliedReview Float) =>
    (items.insertionSort AppliedReview.Le).map AppliedReview.entries)
    (groupBy AppliedReview.key (classes.filterMap (appliedOf lib))) key
  have hempty : appliedTo lib classes key = [] ↔ ¬ ∃ review ∈ classes.filterMap (appliedOf lib),
      review.key = key := by
    simp [appliedTo, List.filter_eq_nil_iff]
  rw [hmap, hlookup, lookup_groupBy]
  by_cases hsome : ∃ review ∈ classes.filterMap (appliedOf lib), review.key = key
  · rw [if_pos hsome, if_neg fun h => hempty.mp h hsome]
    rfl
  · rw [if_neg hsome, if_pos (hempty.mpr hsome)]
    rfl

end Resolution

section Files

variable {text : List Char} {classes : List (Nat × LineClass Float)} {out : Reviews Float}

structure PartitionedBy (lib : ReviewLibrary Float) (text : List Char) (out : Reviews Float)
    (classes : List (Nat × LineClass Float)) : Prop where
  numbers : classes.map Prod.fst = lineNumbers 1 (splitLines text)
  malformed : out.malformed = classes.filterMap malformedOf
  duplicates : out.duplicates = classes.filterMap duplicateOf
  stale : out.stale = classes.filterMap staleOf
  orphaned : out.orphaned = classes.filterMap orphanedOf
  applied : ∀ key, ((out.history.lookup key).getD []).Perm
    ((appliedTo lib classes key).map AppliedReview.entries)

def ResolvesLatest (lib : ReviewLibrary Float) (out : Reviews Float)
    (classes : List (Nat × LineClass Float)) : Prop :=
  ∀ key, if appliedTo lib classes key = [] then out.resolved.lookup key = none
    else ∃ resolved, out.resolved.lookup key = some resolved ∧ LatestOf (appliedTo lib classes key)
      resolved

def timeOf (lib : ReviewLibrary Float) (entries : ReviewRecord Float) : Int :=
  (parseTs lib (fieldOf entries "reviewed_at")).getD 0

def KeepsVerdicts (lib : ReviewLibrary Float) (run : FrozenRun) (text : List Char)
    (out : Reviews Float) : Prop :=
  ∀ text' line entries, splitLines text' = splitLines text ++ [line] →
    lib.loads line = .ok (.dict entries) → validate lib (.dict entries) = none →
    (∀ resolved, out.resolved.lookup (keyOf entries) = some resolved →
      timeOf lib entries < timeOf lib resolved.entries) →
    ∃ out', loadReviews lib run text' = .ok out' ∧ ∀ key resolved, out.resolved.lookup key = some
      resolved →
      ∃ resolved', out'.resolved.lookup key = some resolved' ∧ resolved'.entries = resolved.entries

def ReviewsResolve (lib : ReviewLibrary Float) (run : FrozenRun) (text : List Char) : Prop :=
  ∃ out classes, loadReviews lib run text = .ok out ∧ PartitionedBy lib text out classes ∧
    ResolvesLatest lib out classes ∧ KeepsVerdicts lib run text out

theorem partitionedBy_reviewsOf (h : lineClasses lib run [] 1 (splitLines text) = .ok classes) :
    PartitionedBy lib text (reviewsOf lib classes) classes where
  numbers := map_fst_lineClasses h
  malformed := (collected classes).malformed
  duplicates := (collected classes).duplicates
  stale := (collected classes).stale
  orphaned := (collected classes).orphaned
  applied key := by
    rw [lookup_history]
    split_ifs with hempty
    · rw [hempty]
      exact List.Perm.refl _
    · exact (List.perm_insertionSort ..).map _

theorem resolvesLatest_reviewsOf (h : lineClasses lib run [] 1 (splitLines text) = .ok classes) :
    ResolvesLatest lib (reviewsOf lib classes) classes := by
  intro key
  rw [lookup_resolved]
  split_ifs with hempty
  · rfl
  · exact resolveItems_of_ne_nil (nodup_map_line_appliedTo h key) hempty

theorem appliedTo_append (classes more : List (Nat × LineClass Float)) (key : ReviewKey) :
    appliedTo lib (classes ++ more) key = appliedTo lib classes key ++ appliedTo lib more key := by
  rw [appliedTo, List.filterMap_append, List.filter_append]
  rfl

theorem of_mem_appliedTo {review : AppliedReview Float} {key : ReviewKey}
    (h : review ∈ appliedTo lib classes key) :
    keyOf review.entries = key ∧ review.reviewedAt = timeOf lib review.entries := by
  obtain ⟨hmem, hkey⟩ := List.mem_filter.mp h
  obtain ⟨cls, -, hcls⟩ := List.mem_filterMap.mp hmem
  exact ⟨of_decide_eq_true hkey, reviewedAt_of_appliedOf hcls⟩

theorem lookup_resolved_append {more : List (Nat × LineClass Float)} {key : ReviewKey}
    {resolved : ResolvedReview Float} (h : LatestOf (appliedTo lib classes key) resolved)
    (hlines : ((appliedTo lib (classes ++ more) key).map AppliedReview.line).Nodup)
    (hmore : ∀ other ∈ appliedTo lib more key, other.reviewedAt < timeOf lib resolved.entries) :
    ∃ resolved', (reviewsOf lib (classes ++ more)).resolved.lookup key = some resolved' ∧
      resolved'.entries = resolved.entries := by
  have hne : appliedTo lib (classes ++ more) key ≠ [] := by
    obtain ⟨earlier, last, hperm, -⟩ := h
    have hlast : last ∈ appliedTo lib classes key :=
      hperm.symm.subset (List.mem_append_right _ (List.mem_singleton_self _))
    rw [appliedTo_append]
    exact List.append_ne_nil_of_left_ne_nil (List.ne_nil_of_mem hlast) _
  obtain ⟨resolved', hresolved', hlatest'⟩ := resolveItems_of_ne_nil hlines hne
  refine ⟨resolved', by rw [lookup_resolved, if_neg hne, hresolved'], ?_⟩
  rw [appliedTo_append] at hlatest'
  refine h.entries_eq hlatest' fun other hother item hitem hsame => Or.inl ?_
  rw [(of_mem_appliedTo hitem).2, hsame]
  exact hmore other hother

theorem classifyRecord_eq_applied {seen : List String} {value : PyValue Float}
    {entries : ReviewRecord Float} (h : classifyRecord lib run seen value = .applied entries) :
    entries = entriesOf value := by
  unfold classifyRecord at h
  split at h
  · cases h
  · simp only at h
    split_ifs at h
    exact (LineClass.applied.inj h).symm

theorem exists_class_of_record {line : List Char} {entries : ReviewRecord Float}
    {seen : List String} {n : Nat} (hloads : lib.loads line = .ok (.dict entries)) :
    ∃ more, lineClasses lib run seen n [line] = .ok more ∧ ∀ key, ∀ other ∈ appliedTo lib more key,
      keyOf entries = key ∧ other.reviewedAt = timeOf lib entries := by
  by_cases hblank : strip line = []
  · refine ⟨[], lineClasses_blank hblank, fun key other hother => ?_⟩
    exact absurd hother List.not_mem_nil
  have hclass : classify lib run seen line = .ok (classifyRecord lib run seen (.dict entries)) := by
    rw [classify, hloads]
  refine ⟨[(n, classifyRecord lib run seen (.dict entries))],
    (lineClasses_cons_eq_ok_iff hblank).mpr ⟨_, [], hclass, rfl, rfl⟩, fun key other hother => ?_⟩
  have hmem := (List.mem_filter.mp hother).1
  obtain ⟨cls, hcls, hother'⟩ := List.mem_filterMap.mp hmem
  obtain rfl := List.mem_singleton.mp hcls
  have hentries : other.entries = entries := by
    cases hrecord : classifyRecord lib run seen (.dict entries) with
    | applied taken =>
        rw [hrecord] at hother'
        rw [← Option.some.inj hother']
        exact classifyRecord_eq_applied hrecord
    | _ => rw [hrecord] at hother'; cases hother'
  have hkey := of_mem_appliedTo hother
  rwa [hentries] at hkey

theorem keepsVerdicts_reviewsOf (h : lineClasses lib run [] 1 (splitLines text) = .ok classes) :
    KeepsVerdicts lib run text (reviewsOf lib classes) := by
  intro text' line entries hlines hloads _ hearlier
  obtain ⟨more, hmore, hadded⟩ := @exists_class_of_record _ lib run _ _ (seeAll [] classes)
    (1 + (splitLines text).length) hloads
  have hall : lineClasses lib run [] 1 (splitLines text') = .ok (classes ++ more) := by
    rw [hlines, lineClasses_append, h]
    simp only [bind, Except.bind, hmore]
    rfl
  refine ⟨reviewsOf lib (classes ++ more), by rw [loadReviews_eq, hall]; rfl,
    fun key resolved hresolved => ?_⟩
  have hlatest := resolvesLatest_reviewsOf h key
  by_cases hempty : appliedTo lib classes key = []
  · rw [if_pos hempty, hresolved] at hlatest
    cases hlatest
  · rw [if_neg hempty] at hlatest
    obtain ⟨found, hfound, hlatest⟩ := hlatest
    obtain rfl := Option.some.inj (hresolved.symm.trans hfound)
    refine lookup_resolved_append hlatest (nodup_map_line_appliedTo hall key) fun other hother => ?_
    obtain ⟨rfl, htime⟩ := hadded key other hother
    rw [htime]
    exact hearlier resolved hresolved

/-- **Last writer wins.** -/
theorem reviews_resolve_iff : ReviewsResolve lib run text ↔
    ∀ line ∈ splitLines text, strip line ≠ [] → Loadable lib line := by
  rw [← @exists_lineClasses_iff _ lib run [] 1]
  constructor
  · rintro ⟨out, _, hload, -⟩
    rw [loadReviews_eq] at hload
    cases hclasses : lineClasses lib run [] 1 (splitLines text) with
    | ok classes => exact ⟨classes, rfl⟩
    | error error => rw [hclasses] at hload; cases hload
  · rintro ⟨classes, hclasses⟩
    refine ⟨reviewsOf lib classes, classes, by rw [loadReviews_eq, hclasses]; rfl,
      partitionedBy_reviewsOf hclasses,
      resolvesLatest_reviewsOf hclasses, keepsVerdicts_reviewsOf hclasses⟩

end Files

section Samples

def unitFloats : JsonFloats Unit where
  write _ := "0.0".toList
  read _ := ()
  isFinite _ := false

open Classical in
noncomputable def sampleLibrary : ReviewLibrary Unit where
  num := unitNum
  loads text :=
    if 1000 < (text.takeWhile (· = '[')).length then .error .recursionError
    else match jsonLoads unitFloats text with
      | some value => .ok value
      | none => .error .jsonDecodeError
  dumps value := if IsJson unitFloats value then jsonDumps unitFloats value else none
  isprintable text := text.all fun c => 32 ≤ c.toNat && c.toNat ≤ 126
  repr text := "'" ++ text ++ "'"
  fromisoformat text := if text = "2026-01-02T00:00:00Z" then some 0 else none

def sampleRun : FrozenRun where
  name := "run-1"
  digest := String.ofList (List.replicate 64 'a')
  isTurn turn := turn = ("case-1", 0)

theorem loadReviews_nested {depth : Nat} (hdepth : 1000 < depth) :
    loadReviews sampleLibrary sampleRun (List.replicate depth '[') = .error .recursionError := by
  have hne : List.replicate depth '[' ≠ [] := fun h => by
    have hlength := congrArg List.length h
    rw [List.length_replicate, List.length_nil] at hlength
    omega
  have hlines : splitLines (List.replicate depth '[') = [List.replicate depth '['] := by
    refine splitLines_of_oneLine (fun c hc => ?_) hne
    rw [List.eq_of_mem_replicate hc]
    rfl
  have hspace : isSpace '[' = false := rfl
  have hblank : strip (List.replicate depth '[') ≠ [] := by
    rw [strip, List.dropWhile_replicate, hspace, if_neg Bool.false_ne_true, List.reverse_replicate,
      List.dropWhile_replicate, hspace, if_neg Bool.false_ne_true, List.reverse_replicate]
    exact hne
  have hloads : sampleLibrary.loads (List.replicate depth '[') = .error .recursionError := by
    refine if_pos ?_
    rw [List.takeWhile_replicate, if_pos (decide_eq_true rfl), List.length_replicate]
    exact hdepth
  rw [loadReviews, hlines, readReviewLines, if_neg hblank, classify, hloads]
  rfl

theorem nested_line_raises :
    loadReviews sampleLibrary sampleRun (List.replicate 100000 '[') = .error .recursionError ∧
      ¬ ∀ text, ReviewsResolve sampleLibrary sampleRun text := by
  have hdepth : 1000 < 100000 := by decide
  refine ⟨loadReviews_nested hdepth, fun h => ?_⟩
  obtain ⟨out, _, hload, -⟩ := h (List.replicate 100000 '[')
  rw [loadReviews_nested hdepth] at hload
  cases hload

end Samples

end AiAnalytics.Evals
