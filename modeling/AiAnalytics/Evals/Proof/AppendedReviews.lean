import AiAnalytics.Evals.Proof.LastWriter

/-!
# Reviews that are appended

What `append_reviews` accepts `load_reviews` applies, if it stands on lines of its own. The writer
does not look at what the file ends with: after an open line the first record is read as its
continuation. -/

namespace AiAnalytics.Evals

open Lib

variable {Float : Type} {lib : ReviewLibrary Float} {run : FrozenRun}

section Records

def scalar : PyValue Float → PyValue Float
  | .list _ => .list []
  | .dict _ => .dict []
  | value => value

def SameScalars (entries' entries : ReviewRecord Float) : Prop :=
  ∀ k, scalar (fieldOf entries' k) = scalar (fieldOf entries k)

structure ReviewLibrary.Lawful (lib : ReviewLibrary Float) : Prop where
  oneLine : ∀ value text, lib.dumps value = some text → ∀ c ∈ text, isLineBreak c = false
  brace : ∀ entries text, lib.dumps (.dict entries) = some text → '\x7b' ∈ text
  loads_dumps : ∀ entries text, (entries.map Prod.fst).Nodup →
    lib.dumps (.dict entries) = some text → ∃ entries', SameScalars entries' entries ∧
      ∀ spaces, (∀ c ∈ spaces, isJsonSpace c = true) →
        lib.loads (spaces ++ text) = .ok (.dict entries')
  loads_blank : ∀ spaces c rest value, (∀ b ∈ spaces, isJsonSpace b = true) → isSpace c = true →
    isJsonSpace c = false → lib.loads (spaces ++ c :: rest) ≠ .ok value

variable {entries entries' : ReviewRecord Float}

theorem SameScalars.congr {β : Type} {p : PyValue Float → β}
    (hp : ∀ value, p (scalar value) = p value) (h : SameScalars entries' entries) (k : String) :
    p (fieldOf entries' k) = p (fieldOf entries k) := by
  rw [← hp, h k, hp]

theorem SameScalars.textOf (h : SameScalars entries' entries) (k : String) :
    textOf entries' k = textOf entries k :=
  h.congr (p := fun value => Evals.textOf [("", value)] "") (fun value => by cases value <;> rfl) k

theorem SameScalars.turnOf (h : SameScalars entries' entries) : turnOf entries' = turnOf entries :=
  h.congr (p := fun value => Evals.turnOf [("turn_index", value)])
    (fun value => by cases value <;> rfl) _

theorem SameScalars.validate (h : SameScalars entries' entries) :
    validate lib (.dict entries') = validate lib (.dict entries) := by
  have hversion := h.congr (p := equalsInt lib 1) fun value => by cases value <;> rfl
  have hmissing := h.congr (p := isMissing) fun value => by cases value <;> rfl
  have hhex (n : Nat) := h.congr (p := matchesHex n) fun value => by cases value <;> rfl
  have htext := h.congr (p := isText lib) fun value => by cases value <;> rfl
  have hturn := h.congr (p := isTurnIndex) fun value => by cases value <;> rfl
  have hone (names : List String) := h.congr (p := isOneOf names) fun value => by
    cases value <;> rfl
  have htime := h.congr (p := parseTs lib) fun value => by cases value <;> rfl
  simp only [Evals.validate, hversion, hmissing, hhex, htext, hturn, hone, htime]

theorem refusalOf_eq_none_iff : refusalOf lib run entries = none ↔
    validate lib (.dict entries) = none ∧ textOf entries "eval_run_id" = run.name ∧
      textOf entries "snapshot_sha256" = run.digest ∧
      run.isTurn (textOf entries "case_id", turnOf entries) = true := by
  unfold refusalOf
  cases validate lib (.dict entries) with
  | some err => simp
  | none =>
      simp only [true_and]
      split_ifs <;> simp_all

theorem classifyRecord_of_accepted {seen : List String}
    (haccepted : refusalOf lib run entries = none) (h : SameScalars entries' entries)
    (hseen : textOf entries "review_id" ∉ seen) :
    classifyRecord lib run seen (.dict entries') = .applied entries' := by
  obtain ⟨hvalid, hname, hdigest, hturn⟩ := refusalOf_eq_none_iff.mp haccepted
  unfold classifyRecord
  simp only [h.validate, hvalid, entriesOf, h.textOf, h.turnOf, if_neg hseen, hname, hdigest, hturn]
  simp

end Records

section Lines

variable {recs : List (OrderedDict String (PyValue Float))}
  {rec : OrderedDict String (PyValue Float)} {text written : List Char} {seen : List String}
  {n : Nat}

def reviewIdOf (rec : OrderedDict String (PyValue Float)) : String := textOf rec.entries "review_id"

def Applies (rec : OrderedDict String (PyValue Float)) (cls : Nat × LineClass Float) : Prop :=
  ∃ entries', cls.2 = .applied entries' ∧ SameScalars entries' rec.entries

theorem not_blank_of_dumps (hlawful : lib.Lawful)
    (hdumps : lib.dumps (.dict rec.entries) = some text) (before : List Char) :
    strip (before ++ text) ≠ [] := by
  intro hblank
  have hbrace :=
    strip_eq_nil_iff.mp hblank _ (List.mem_append_right before (hlawful.brace _ _ hdumps))
  exact absurd hbrace (by decide)

theorem classify_of_accepted (hlawful : lib.Lawful)
    (hdumps : lib.dumps (.dict rec.entries) = some text)
    (haccepted : refusalOf lib run rec.entries = none) (hseen : reviewIdOf rec ∉ seen)
    {spaces : List Char}
    (hspaces : ∀ c ∈ spaces, isJsonSpace c = true) :
    ∃ cls, classify lib run seen (spaces ++ text) = .ok cls ∧ Applies rec (n, cls) ∧
      cls.see seen = reviewIdOf rec :: seen := by
  obtain ⟨entries', hsame, hloads⟩ := hlawful.loads_dumps _ _ rec.nodup hdumps
  refine ⟨.applied entries', ?_, ⟨entries', rfl, hsame⟩, ?_⟩
  · rw [classify, hloads spaces hspaces]
    exact congrArg Except.ok (classifyRecord_of_accepted haccepted hsame hseen)
  · have hid : textOf entries' "review_id" = reviewIdOf rec := hsame.textOf _
    rw [LineClass.see, LineClass.newId, hid]
    rfl

theorem splitLines_dumpLines (hlawful : lib.Lawful) {first rest : List Char}
    (hdumps : lib.dumps (.dict rec.entries) = some first) :
    splitLines (first ++ '\n' :: rest) = first :: splitLines rest :=
  splitLines_line (hlawful.oneLine _ _ hdumps) rest

theorem dumpLines_cons_eq_some_iff : dumpLines lib (rec :: recs) = some written ↔
    ∃ first rest, lib.dumps (.dict rec.entries) = some first ∧ dumpLines lib recs = some rest ∧
      written = first ++ '\n' :: rest := by
  simp only [dumpLines, Option.bind_eq_bind, Option.bind_eq_some_iff, Option.pure_def,
    Option.some.injEq]
  constructor
  · rintro ⟨first, hfirst, rest, hrest, rfl⟩
    exact ⟨first, rest, hfirst, hrest, rfl⟩
  · rintro ⟨first, rest, hfirst, hrest, rfl⟩
    exact ⟨first, hfirst, rest, hrest, rfl⟩

theorem length_splitLines_dumpLines (hlawful : lib.Lawful)
    (hwritten : dumpLines lib recs = some written) : (splitLines written).length = recs.length := by
  induction recs generalizing written with
  | nil =>
      obtain rfl := Option.some.inj hwritten
      rfl
  | cons rec recs ih =>
      obtain ⟨first, rest, hfirst, hrest, rfl⟩ := dumpLines_cons_eq_some_iff.mp hwritten
      rw [splitLines_dumpLines hlawful hfirst, List.length_cons, ih hrest, List.length_cons]

theorem lineClasses_dumpLines (hlawful : lib.Lawful) (hwritten : dumpLines lib recs = some written)
    (haccepted : ∀ rec ∈ recs, refusalOf lib run rec.entries = none)
    (hdistinct : (recs.map reviewIdOf).Nodup)
    (hseen : ∀ rec ∈ recs, reviewIdOf rec ∉ seen) :
    ∃ new, lineClasses lib run seen n (splitLines written) = .ok new ∧
      List.Forall₂ Applies recs new := by
  induction recs generalizing written seen n with
  | nil =>
      obtain rfl := Option.some.inj hwritten
      exact ⟨[], rfl, .nil⟩
  | cons rec recs ih =>
      obtain ⟨first, rest, hfirst, hrest, rfl⟩ := dumpLines_cons_eq_some_iff.mp hwritten
      obtain ⟨hid, hdistinct⟩ := List.nodup_cons.mp hdistinct
      obtain ⟨hrec, haccepted⟩ := List.forall_mem_cons.mp haccepted
      obtain ⟨hnew, hseen⟩ := List.forall_mem_cons.mp hseen
      obtain ⟨cls, hcls, happlies, hsee⟩ := classify_of_accepted (n := n) hlawful hfirst hrec hnew
        (List.forall_mem_nil _)
      have hlater : ∀ other ∈ recs, reviewIdOf other ∉ cls.see seen := by
        intro other hother
        rw [hsee, List.mem_cons, not_or]
        exact ⟨fun h => hid (h ▸ List.mem_map_of_mem hother), hseen other hother⟩
      obtain ⟨new, hclasses, hforall⟩ := ih (n := n + 1) hrest haccepted hdistinct hlater
      refine ⟨(n, cls) :: new, ?_, .cons happlies hforall⟩
      rw [splitLines_dumpLines hlawful hfirst]
      have hblank := not_blank_of_dumps hlawful hfirst []
      exact (lineClasses_cons_eq_ok_iff hblank).mpr ⟨cls, new, hcls, hclasses, rfl⟩

theorem length_lineNumbers (n : Nat) (lines : List (List Char)) :
    (lineNumbers n lines).length = lines.countP fun line => strip line ≠ [] := by
  induction lines generalizing n with
  | nil => rfl
  | cons line lines ih =>
      rw [lineNumbers]
      by_cases hblank : strip line = []
      · rw [if_pos hblank, ih, List.countP_cons_of_neg (by simpa using hblank)]
      · rw [if_neg hblank, List.length_cons, ih, List.countP_cons_of_pos (by simpa using hblank)]

theorem length_lineClasses {lines : List (List Char)} {classes : List (Nat × LineClass Float)}
    (h : lineClasses lib run seen n lines = .ok classes) :
    classes.length = lines.countP fun line => strip line ≠ [] := by
  rw [← length_lineNumbers n, ← map_fst_lineClasses h, List.length_map]

theorem lineClasses_append_eq_ok {lines more : List (List Char)}
    {classes later : List (Nat × LineClass Float)}
    (hlines : lineClasses lib run seen n lines = .ok classes)
    (hall : lineClasses lib run seen n (lines ++ more) = .ok (classes ++ later)) :
    lineClasses lib run (seeAll seen classes) (n + lines.length) more = .ok later := by
  rw [lineClasses_append, hlines] at hall
  simp only [bind, Except.bind] at hall
  cases hmore : lineClasses lib run (seeAll seen classes) (n + lines.length) more with
  | error error => rw [hmore] at hall; cases hall
  | ok found =>
      rw [hmore] at hall
      have hsame := Except.ok.inj hall
      rw [List.append_cancel_left hsame]

end Lines

section Appended

variable {recs : List (OrderedDict String (PyValue Float))}
  {rec : OrderedDict String (PyValue Float)} {text text' written : List Char}

def FreshFor (lib : ReviewLibrary Float) (run : FrozenRun) (text : List Char)
    (recs : List (OrderedDict String (PyValue Float))) : Prop :=
  ∀ classes, lineClasses lib run [] 1 (splitLines text) = .ok classes →
    ∀ rec ∈ recs, reviewIdOf rec ∉ seeAll [] classes

def AppliedAfter (lib : ReviewLibrary Float) (run : FrozenRun) (text text' : List Char)
    (recs : List (OrderedDict String (PyValue Float))) : Prop :=
  ∃ classes new, lineClasses lib run [] 1 (splitLines text) = .ok classes ∧
    lineClasses lib run [] 1 (splitLines text') = .ok (classes ++ new) ∧
    loadReviews lib run text' = .ok (reviewsOf lib (classes ++ new)) ∧ List.Forall₂ Applies recs new

theorem appendReviews_eq_ok_iff : appendReviews lib run text recs = .ok text' ↔
    (∀ rec ∈ recs, refusalOf lib run rec.entries = none) ∧
      ∃ written, dumpLines lib recs = some written ∧ text' = text ++ written := by
  unfold appendReviews
  cases hrefused : recs.findSome? fun rec => refusalOf lib run rec.entries with
  | some err =>
      obtain ⟨rec, hrec, herr⟩ := List.exists_of_findSome?_eq_some hrefused
      refine iff_of_false (fun h => by cases h) fun h => ?_
      rw [h.1 rec hrec] at herr
      cases herr
  | none =>
      rw [and_iff_right (List.findSome?_eq_none_iff.mp hrefused)]
      cases dumpLines lib recs with
      | none => simp
      | some written => simp [eq_comm]

theorem isSpace_of_isJsonSpace {c : Char} (h : isJsonSpace c = true) : isSpace c = true := by
  simp only [isJsonSpace, decide_eq_true_eq] at h
  rcases h with rfl | rfl | rfl | rfl <;> rfl

theorem lineClasses_closedPart (hblank : strip (openLine text) = []) (seen : List String)
    (n : Nat) :
    lineClasses lib run seen n (splitLines text) =
      lineClasses lib run seen n (splitLines (closedPart text)) := by
  rw [splitLines_eq_closed_open text, lineClasses_append]
  have hopen (seen : List String) (n : Nat) : lineClasses lib run seen n
      (if openLine text = [] then [] else [openLine text]) = .ok [] := by
    split_ifs
    · rfl
    · exact lineClasses_blank hblank
  simp only [hopen, bind, Except.bind, pure, Except.pure, List.append_nil]
  cases lineClasses lib run seen n (splitLines (closedPart text)) <;> rfl

theorem lineClasses_append_of_blank (hlawful : lib.Lawful)
    (hwritten : dumpLines lib (rec :: recs) = some written)
    (haccepted : ∀ other ∈ rec :: recs, refusalOf lib run other.entries = none)
    (hdistinct : ((rec :: recs).map reviewIdOf).Nodup)
    (hopen : ∀ c ∈ openLine text, isJsonSpace c = true)
    {classes : List (Nat × LineClass Float)}
    (hclasses : lineClasses lib run [] 1 (splitLines text) = .ok classes)
    (hfresh : ∀ other ∈ rec :: recs, reviewIdOf other ∉ seeAll [] classes) :
    ∃ new, lineClasses lib run [] 1 (splitLines (text ++ written)) = .ok (classes ++ new) ∧
      List.Forall₂ Applies (rec :: recs) new := by
  obtain ⟨first, rest, hfirst, hrest, rfl⟩ := dumpLines_cons_eq_some_iff.mp hwritten
  obtain ⟨hid, hdistinct⟩ := List.nodup_cons.mp hdistinct
  obtain ⟨hrec, haccepted⟩ := List.forall_mem_cons.mp haccepted
  obtain ⟨hnew, hfresh⟩ := List.forall_mem_cons.mp hfresh
  have hblank : strip (openLine text) = [] :=
    strip_eq_nil_iff.mpr fun c hc => isSpace_of_isJsonSpace (hopen c hc)
  rw [lineClasses_closedPart hblank] at hclasses
  have hne : first ≠ [] := List.ne_nil_of_mem (hlawful.brace _ _ hfirst)
  obtain ⟨cls, hcls, happlies, hsee⟩ :=
    @classify_of_accepted _ lib run rec first (seeAll [] classes)
    (1 + (splitLines (closedPart text)).length) hlawful hfirst hrec hnew _ hopen
  have hlater : ∀ other ∈ recs, reviewIdOf other ∉ cls.see (seeAll [] classes) := by
    intro other hother
    rw [hsee, List.mem_cons, not_or]
    exact ⟨fun h => hid (h ▸ List.mem_map_of_mem hother), hfresh other hother⟩
  obtain ⟨new, hnewClasses, hforall⟩ := @lineClasses_dumpLines _ lib run recs rest _
    (1 + (splitLines (closedPart text)).length + 1) hlawful hrest haccepted hdistinct hlater
  refine ⟨_ :: new, ?_, .cons happlies hforall⟩
  rw [splitLines_append_line (hlawful.oneLine _ _ hfirst) hne, lineClasses_append, hclasses]
  have hjoined :=
    (lineClasses_cons_eq_ok_iff (not_blank_of_dumps hlawful hfirst (openLine text))).mpr
    ⟨cls, new, hcls, hnewClasses, rfl⟩
  simp only [bind, Except.bind, hjoined]
  rfl

theorem not_appliedAfter_of_open (hlawful : lib.Lawful)
    (hwritten : dumpLines lib (rec :: recs) = some written) (hopen : strip (openLine text) ≠ []) :
    ¬ AppliedAfter lib run text (text ++ written) (rec :: recs) := by
  rintro ⟨classes, new, hclasses, hall, -, hforall⟩
  obtain ⟨first, rest, hfirst, hrest, rfl⟩ := dumpLines_cons_eq_some_iff.mp hwritten
  have hne : first ≠ [] := List.ne_nil_of_mem (hlawful.brace _ _ hfirst)
  have hnonempty : openLine text ≠ [] := fun h => hopen (by rw [h]; rfl)
  have hbefore := length_lineClasses hclasses
  have hafter := length_lineClasses hall
  rw [splitLines_eq_closed_open text, if_neg hnonempty, List.countP_append,
    List.countP_cons_of_pos (by simpa using hopen), List.countP_nil] at hbefore
  rw [splitLines_append_line (hlawful.oneLine _ _ hfirst) hne, List.countP_append,
    List.length_append,
    List.countP_cons_of_pos
      (by simpa using not_blank_of_dumps hlawful hfirst (openLine text))] at hafter
  have hrestLines : (splitLines rest).countP (fun line => decide (strip line ≠ [])) ≤ recs.length :=
    length_splitLines_dumpLines hlawful hrest ▸ List.countP_le_length
  have hnew : recs.length + 1 = new.length := hforall.length_eq
  omega

theorem not_appliedAfter_of_blank (hlawful : lib.Lawful)
    (hwritten : dumpLines lib (rec :: recs) = some written) (hblank : strip (openLine text) = [])
    (hopen : ¬ ∀ c ∈ openLine text, isJsonSpace c = true) :
    ¬ AppliedAfter lib run text (text ++ written) (rec :: recs) := by
  rintro ⟨classes, new, hclasses, hall, -, hforall⟩
  obtain ⟨first, rest, hfirst, hrest, rfl⟩ := dumpLines_cons_eq_some_iff.mp hwritten
  have hne : first ≠ [] := List.ne_nil_of_mem (hlawful.brace _ _ hfirst)
  rw [lineClasses_closedPart hblank] at hclasses
  rw [splitLines_append_line (hlawful.oneLine _ _ hfirst) hne] at hall
  have hlater := lineClasses_append_eq_ok hclasses hall
  obtain ⟨cls, later, hcls, -, rfl⟩ :=
    (lineClasses_cons_eq_ok_iff (not_blank_of_dumps hlawful hfirst (openLine text))).mp hlater
  obtain ⟨⟨entries', happlied, -⟩, -⟩ := List.forall₂_cons.mp hforall
  -- the first character that stops the blanks of JSON stops the reader
  obtain ⟨c, hc⟩ : ∃ c, (openLine text).find? (fun c => !isJsonSpace c) = some c := by
    refine Option.isSome_iff_exists.mp (List.find?_isSome.mpr ?_)
    simpa using hopen
  obtain ⟨hstop, spaces, behind, hsplit, hspaces⟩ := List.find?_eq_some_iff_append.mp hc
  have hspace : isSpace c = true := strip_eq_nil_iff.mp hblank c (by rw [hsplit]; simp)
  have hloads (value : PyValue Float) : lib.loads (openLine text ++ first) ≠ .ok value := by
    rw [hsplit, List.append_assoc, List.cons_append]
    exact hlawful.loads_blank spaces c _ value (by simpa using hspaces) hspace
      (by simpa using hstop)
  unfold classify at hcls
  cases hjoined : lib.loads (openLine text ++ first) with
  | ok value => exact hloads value hjoined
  | error error =>
      rw [hjoined] at hcls
      cases error with
      | jsonDecodeError =>
          rw [← Except.ok.inj hcls] at happlied
          cases happlied
      | recursionError => cases hcls
      | valueError => cases hcls

/-- **Accepted reviews.** Nothing is lost exactly when the file can be read and ends with a closed
line or with blanks of JSON. -/
theorem accepted_reviews_applied_iff (hlawful : lib.Lawful) (hfresh : FreshFor lib run text recs)
    (hdistinct : (recs.map reviewIdOf).Nodup)
    (happend : appendReviews lib run text recs = .ok text') :
    AppliedAfter lib run text text' recs ↔
      (∀ line ∈ splitLines text, strip line ≠ [] → Loadable lib line) ∧
        (recs = [] ∨ ∀ c ∈ openLine text, isJsonSpace c = true) := by
  obtain ⟨haccepted, written, hwritten, rfl⟩ := appendReviews_eq_ok_iff.mp happend
  rw [← @exists_lineClasses_iff _ lib run [] 1]
  constructor
  · intro happlied
    obtain ⟨classes, _, hclasses, -⟩ := id happlied
    refine ⟨⟨classes, hclasses⟩, ?_⟩
    cases recs with
    | nil => exact Or.inl rfl
    | cons rec recs =>
        refine Or.inr ?_
        by_contra hopen
        by_cases hblank : strip (openLine text) = []
        · exact not_appliedAfter_of_blank hlawful hwritten hblank hopen happlied
        · exact not_appliedAfter_of_open hlawful hwritten hblank happlied
  · rintro ⟨⟨classes, hclasses⟩, hends⟩
    have hnew : ∃ new, lineClasses lib run [] 1 (splitLines (text ++ written)) = .ok
        (classes ++ new) ∧ List.Forall₂ Applies recs new := by
      cases recs with
      | nil =>
          obtain rfl := Option.some.inj hwritten
          exact ⟨[], by rw [List.append_nil, List.append_nil, hclasses], .nil⟩
      | cons rec recs =>
          exact lineClasses_append_of_blank hlawful hwritten haccepted hdistinct
            (hends.resolve_left (List.cons_ne_nil rec recs)) hclasses (hfresh classes hclasses)
    obtain ⟨new, hall, hforall⟩ := hnew
    exact ⟨classes, new, hclasses, hall, by rw [loadReviews_eq, hall]; rfl, hforall⟩

end Appended

section Samples

theorem unitFloats_lawful : unitFloats.Lawful := ⟨nofun, nofun⟩

theorem exists_reads_of_dumps {value : PyValue Unit} {text : List Char}
    (h : sampleLibrary.dumps value = some text) : Reads unitFloats text value := by
  obtain ⟨hjson, hdumps⟩ : IsJson unitFloats value ∧ jsonDumps unitFloats value = some text := by
    simpa [sampleLibrary] using h
  obtain ⟨written, hreads⟩ := exists_reads unitFloats_lawful hjson
  rwa [Option.some.inj (hdumps.symm.trans hreads.dumps)]

theorem jsonDumps_dict_head {entries : ReviewRecord Unit} {text : List Char}
    (h : jsonDumps unitFloats (.dict entries) = some text) : ∃ tail, text = '\x7b' :: tail := by
  rw [jsonDumps, Option.map_eq_some_iff] at h
  obtain ⟨texts, -, rfl⟩ := h
  exact ⟨_, rfl⟩

theorem jsonLoads_of_isSpace {spaces rest : List Char} {c : Char}
    (hspaces : ∀ b ∈ spaces, isJsonSpace b = true) (hspace : isSpace c = true)
    (hjson : isJsonSpace c = false) :
    jsonLoads unitFloats (spaces ++ c :: rest) = none := by
  have hskip : skipSpace (spaces ++ c :: rest) = c :: rest := by
    rw [skipSpace, List.dropWhile_append_of_pos hspaces,
      List.dropWhile_cons_of_neg (by rw [hjson]; decide)]
  have hne {d : Char} (hd : isSpace d = false) : c ≠ d := by
    rintro rfl
    rw [hd] at hspace
    cases hspace
  have hdigit : c.isDigit = false := by
    rw [Bool.eq_false_iff]
    intro hdigit
    rw [Char.isDigit, Bool.and_eq_true, decide_eq_true_iff, decide_eq_true_iff] at hdigit
    have hlow : 48 ≤ c.toNat := hdigit.1
    have hhigh : c.toNat ≤ 57 := hdigit.2
    simp only [isSpace, decide_eq_true_eq] at hspace
    omega
  have hint : takeInt (c :: rest) = none := by
    rw [takeInt.eq_2]
    · rw [List.takeWhile_cons_of_neg (by rw [hdigit]; decide), if_pos rfl]
    · rintro tail hsame
      exact hne (by decide) (List.cons.inj hsame).1
  have hminus : takeMinus (c :: rest) = ([], c :: rest) :=
    takeMinus.eq_2 _ fun tail hsame => hne (by decide) (List.cons.inj hsame).1
  have hscan (fuel : Nat) : scanValue unitFloats (fuel + 1) (c :: rest) = none := by
    have hnumber : scanNumber unitFloats (c :: rest) = none := by
      rw [scanNumber, hminus]
      simp only [hint, Option.bind_eq_bind, Option.bind_none]
    rw [← hnumber]
    refine scanValue.eq_11 unitFloats _ fuel ?_ ?_ ?_ ?_ ?_ ?_ ?_ ?_ ?_ <;> intro other hsame <;>
      exact hne (by decide) (List.cons.inj hsame).1
  have hlength : (spaces ++ c :: rest).length = spaces.length + rest.length + 1 := by
    rw [List.length_append, List.length_cons, Nat.add_assoc]
  rw [jsonLoads, hskip, hlength, hscan]
  rfl

theorem sampleLibrary_loads {text : List Char} (h : text.takeWhile (· = '[') = []) :
    sampleLibrary.loads text = match jsonLoads unitFloats text with
      | some value => .ok value
      | none => .error .jsonDecodeError :=
  if_neg (by rw [h, List.length_nil]; omega)

theorem takeWhile_bracket {spaces rest : List Char} {c : Char}
    (hspaces : ∀ b ∈ spaces, isJsonSpace b = true) (hc : c ≠ '[') :
    (spaces ++ c :: rest).takeWhile (· = '[') = [] := by
  cases spaces with
  | nil => exact List.takeWhile_cons_of_neg (by simpa using hc)
  | cons b spaces =>
      refine List.takeWhile_cons_of_neg fun hb => ?_
      have hspace := hspaces b List.mem_cons_self
      rw [of_decide_eq_true hb] at hspace
      exact absurd hspace (by decide)

theorem sampleLibrary_lawful : sampleLibrary.Lawful where
  oneLine value text hdumps c hc := by
    obtain ⟨hlow, hhigh⟩ := (exists_reads_of_dumps hdumps).plain c hc
    simp only [isLineBreak, decide_eq_false_iff_not]
    omega
  brace entries text hdumps := by
    obtain ⟨tail, rfl⟩ := jsonDumps_dict_head (exists_reads_of_dumps hdumps).dumps
    exact List.mem_cons_self
  loads_dumps entries text _ hdumps := by
    have hreads := exists_reads_of_dumps hdumps
    refine ⟨entries, fun k => rfl, fun spaces hspaces => ?_⟩
    have hloads := hreads.loads hspaces
    obtain ⟨tail, rfl⟩ := jsonDumps_dict_head hreads.dumps
    rw [sampleLibrary_loads (takeWhile_bracket hspaces (by decide)), hloads]
  loads_blank spaces c rest value hspaces hspace hjson := by
    have hc : c ≠ '[' := by
      rintro rfl
      exact absurd hspace (by decide)
    rw [sampleLibrary_loads (takeWhile_bracket hspaces hc),
      jsonLoads_of_isSpace hspaces hspace hjson]
    simp

def sampleDigit (second : Bool) : Char := if second then '1' else '0'

def sampleReview (second : Bool) : OrderedDict String (PyValue Unit) where
  entries := [("case_id", .str "case-1"), ("dimension", .str "tool"), ("eval_run_id", .str "run-1"),
    ("review_id", .str (String.ofList (List.replicate 32 (sampleDigit second)))),
    ("reviewed_at", .str "2026-01-02T00:00:00Z"),
    ("reviewer", .str "ann"), ("schema_version", .int 1),
    ("snapshot_sha256", .str (String.ofList (List.replicate 64 'a'))), ("turn_index", .int 0),
    ("verdict", .str (if second then "incorrect" else "correct"))]
  nodup := by cases second <;> decide

theorem isJson_sampleReview (second : Bool) :
    IsJson unitFloats (.dict (sampleReview second).entries) := by
  refine .dict (sampleReview second).nodup ?_
  simp only [sampleReview, List.forall_mem_cons, List.not_mem_nil, false_imp_iff, implies_true,
    and_true]
  exact ⟨.str _, .str _, .str _, .str _, .str _, .str _, .int (by decide), .str _, .int (by decide),
    .str _⟩

theorem matchesHex_ofList {letters : List Char} (h : letters.all isLowerHex = true) :
    matchesHex letters.length (.str (String.ofList letters) : PyValue Unit) = true := by
  have hlast : letters.getLast? ≠ some '\n' := by
    intro hlast
    have hhex := List.all_eq_true.mp h _ (List.mem_of_getLast? hlast)
    exact absurd hhex (by decide)
  simp only [matchesHex, String.toList_ofList, if_neg hlast, h, decide_true, Bool.and_self]

theorem validate_sampleReview (second : Bool) :
    validate sampleLibrary (.dict (sampleReview second).entries) = none := by
  have hschema : equalsInt sampleLibrary 1
      (fieldOf (sampleReview second).entries "schema_version") = true := by cases second <;> decide
  have hrequired : (required.find? fun k => isMissing (fieldOf (sampleReview second).entries k)) =
      none := by cases second <;> decide +kernel
  have hid : matchesHex 32 (fieldOf (sampleReview second).entries "review_id") = true :=
    @matchesHex_ofList (List.replicate 32 (sampleDigit second)) (by cases second <;> decide)
  have hsnapshot : matchesHex 64 (fieldOf (sampleReview second).entries "snapshot_sha256") = true :=
    @matchesHex_ofList (List.replicate 64 'a') (by decide)
  have htexts : (["eval_run_id", "case_id", "reviewer"].find? fun k =>
      !isText sampleLibrary (fieldOf (sampleReview second).entries k)) = none := by
    cases second <;> decide
  have hturn : isTurnIndex (fieldOf (sampleReview second).entries "turn_index") = true := by
    cases second <;> decide
  have hdimension : isOneOf humanDims (fieldOf (sampleReview second).entries "dimension") =
      true := by
    cases second <;> decide
  have hverdict : isOneOf verdicts (fieldOf (sampleReview second).entries "verdict") = true := by
    cases second <;> decide
  have htime : (parseTs sampleLibrary (fieldOf (sampleReview second).entries "reviewed_at")).isNone
      = false := by cases second <;> decide
  simp only [validate, hschema, hrequired, hid, hsnapshot, htexts, hturn, hdimension, hverdict,
    htime, Bool.not_true, Bool.false_eq_true, if_false]

theorem refusalOf_sampleReview (second : Bool) :
    refusalOf sampleLibrary sampleRun (sampleReview second).entries = none := by
  have hname : textOf (sampleReview second).entries "eval_run_id" = sampleRun.name := rfl
  have hdigest : textOf (sampleReview second).entries "snapshot_sha256" = sampleRun.digest := rfl
  have hturn : sampleRun.isTurn (textOf (sampleReview second).entries "case_id",
      turnOf (sampleReview second).entries) = true := by
    cases second <;> decide
  rw [refusalOf, validate_sampleReview]
  simp only [hname, hdigest, hturn, ne_eq, not_true_eq_false, if_false, Bool.not_true,
    Bool.false_eq_true]

theorem exists_dumpLines_sampleReview (seconds : List Bool) :
    ∃ written, dumpLines sampleLibrary (seconds.map sampleReview) = some written := by
  induction seconds with
  | nil => exact ⟨_, rfl⟩
  | cons second seconds ih =>
      obtain ⟨written, hwritten⟩ := ih
      obtain ⟨line, hreads⟩ := exists_reads unitFloats_lawful (isJson_sampleReview second)
      have hdumps : sampleLibrary.dumps (.dict (sampleReview second).entries) = some line := by
        simpa [sampleLibrary, isJson_sampleReview] using hreads.dumps
      exact ⟨_, dumpLines_cons_eq_some_iff.mpr ⟨line, written, hdumps, hwritten, rfl⟩⟩

theorem exists_appendReviews_sampleReview (text : List Char) (seconds : List Bool) : ∃ written,
    dumpLines sampleLibrary (seconds.map sampleReview) = some written ∧
      appendReviews sampleLibrary sampleRun text (seconds.map sampleReview) =
      .ok (text ++ written) := by
  obtain ⟨written, hwritten⟩ := exists_dumpLines_sampleReview seconds
  exact ⟨_, hwritten, appendReviews_eq_ok_iff.mpr
    ⟨List.forall_mem_map.mpr fun second _ => refusalOf_sampleReview second, _, hwritten, rfl⟩⟩

theorem loads_brace : sampleLibrary.loads "\x7b".toList = .error .jsonDecodeError := by
  have hjson : jsonLoads unitFloats "\x7b".toList = none := by rfl
  rw [sampleLibrary_loads (by rfl), hjson]

theorem lineClasses_brace {text : List Char} (hlines : splitLines text = ["\x7b".toList]) :
    lineClasses sampleLibrary sampleRun [] 1 (splitLines text) =
      .ok [(1, .malformed "invalid JSON")] := by
  have hclass : classify sampleLibrary sampleRun [] "\x7b".toList =
      .ok (.malformed "invalid JSON") := by
    rw [classify, loads_brace]
  rw [hlines]
  exact (lineClasses_cons_eq_ok_iff (by decide)).mpr ⟨_, [], hclass, rfl, rfl⟩

theorem freshFor_brace {text : List Char} (hlines : splitLines text = ["\x7b".toList])
    (recs : List (OrderedDict String (PyValue Unit))) :
    FreshFor sampleLibrary sampleRun text recs := by
  intro classes hclasses rec _
  obtain rfl := Except.ok.inj ((lineClasses_brace hlines).symm.trans hclasses)
  exact List.not_mem_nil

theorem accepted_reviews_applied_iff_correction : ∃ text',
    appendReviews sampleLibrary sampleRun "\x7b\n".toList [sampleReview false, sampleReview true] =
        .ok text' ∧
      AppliedAfter sampleLibrary sampleRun "\x7b\n".toList text'
        [sampleReview false, sampleReview true] := by
  have hlines : splitLines "\x7b\n".toList = ["\x7b".toList] := by decide
  obtain ⟨written, -, happend⟩ := exists_appendReviews_sampleReview "\x7b\n".toList [false, true]
  have hclosed : openLine "\x7b\n".toList = [] := by decide
  have hids : reviewIdOf (sampleReview false) ≠ reviewIdOf (sampleReview true) := by decide
  have hdistinct : ([sampleReview false, sampleReview true].map reviewIdOf).Nodup := by
    simpa using hids
  refine ⟨_, happend, (accepted_reviews_applied_iff sampleLibrary_lawful (freshFor_brace hlines _)
    hdistinct happend).mpr ⟨?_, .inr ?_⟩⟩
  · rw [hlines, List.forall_mem_singleton]
    intro _ error herror
    exact (Except.error.inj (loads_brace.symm.trans herror)).symm
  · rw [hclosed]
    exact List.forall_mem_nil _

/-- Behind a line that was cut off the review is lost. -/
theorem review_lost_behind_open_line : ∃ text',
    appendReviews sampleLibrary sampleRun "\x7b".toList [sampleReview false] = .ok text' ∧
      FreshFor sampleLibrary sampleRun "\x7b".toList [sampleReview false] ∧
      ¬ AppliedAfter sampleLibrary sampleRun "\x7b".toList text' [sampleReview false] := by
  obtain ⟨written, hwritten, happend⟩ := exists_appendReviews_sampleReview "\x7b".toList [false]
  exact ⟨_, happend, freshFor_brace (by decide) _,
    not_appliedAfter_of_open sampleLibrary_lawful hwritten (by decide)⟩

end Samples

end AiAnalytics.Evals
