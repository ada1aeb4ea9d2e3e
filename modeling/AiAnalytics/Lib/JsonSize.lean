import AiAnalytics.Lib.PyLibrary

/-!
# The size of a JSON text

The size of a dictionary's text does not depend on the order of its entries, is no smaller than that
of a part of them, and grows with each list and entry by what it holds.
-/

namespace AiAnalytics.Lib

variable {Float : Type} {lib : PyLibrary Float} {allowNan : Bool}

section Texts

theorem length_jsonChar_le (c : Char) : (jsonChar c).length ≤ 12 := by
  simp only [jsonChar]
  split_ifs <;> simp [unicodeEscape]

theorem length_jsonText_le (text : String) : (jsonText text).length ≤ 12 * text.length + 2 := by
  have hletters : ∀ letters : List Char, (letters.flatMap jsonChar).length ≤
      12 * letters.length := by
    intro letters
    induction letters with
    | nil => exact le_rfl
    | cons c letters ih =>
        have hfirst := length_jsonChar_le c
        rw [List.flatMap_cons, List.length_append, List.length_cons]
        omega
  have htext := hletters text.toList
  rw [String.length_toList] at htext
  simp only [jsonText, List.length_cons, List.length_append, List.length_nil]
  omega

theorem length_le_jsonText (text : String) : text.length + 2 ≤ (jsonText text).length := by
  have hletters : ∀ letters : List Char, letters.length ≤ (letters.flatMap jsonChar).length := by
    intro letters
    induction letters with
    | nil => exact le_rfl
    | cons c letters ih =>
        have hfirst : 1 ≤ (jsonChar c).length := by
          simp only [jsonChar]
          split_ifs <;> simp [unicodeEscape]
        rw [List.flatMap_cons, List.length_append, List.length_cons]
        omega
  have htext := hletters text.toList
  rw [String.length_toList] at htext
  simp only [jsonText, List.length_cons, List.length_append, List.length_nil]
  omega

end Texts

section Entries

variable {entries entries' : List (String × PyValue Float)}

theorem entriesSize_cons (entry : String × PyValue Float)
    (entries : List (String × PyValue Float)) : entriesSize lib allowNan (entry :: entries) = (do
      pure ((jsonText entry.1).length + 1 + (← jsonSize lib allowNan entry.2) +
        (← entriesSize lib allowNan entries))) := by
  rw [entriesSize]

theorem entriesSize_perm (h : entries.Perm entries') :
    entriesSize lib allowNan entries = entriesSize lib allowNan entries' := by
  induction h with
  | nil => rfl
  | cons entry _ ih => rw [entriesSize_cons, entriesSize_cons, ih]
  | swap first second rest =>
      simp only [entriesSize_cons]
      cases jsonSize lib allowNan first.2 <;> cases jsonSize lib allowNan second.2 <;>
        cases entriesSize lib allowNan rest <;> simp
      omega
  | trans _ _ ih ih' => rw [ih, ih']

theorem jsonSize_dict_perm (h : entries.Perm entries') :
    jsonSize lib allowNan (.dict entries) = jsonSize lib allowNan (.dict entries') := by
  rw [jsonSize, jsonSize, h.length_eq, entriesSize_perm h]

theorem entriesSize_of_eraseIdx {i rest : Nat} {key text : String} (h : i < entries.length)
    (hentry : entries[i] = (key, .str text))
    (hrest : entriesSize lib allowNan (entries.eraseIdx i) = some rest) :
    entriesSize lib allowNan entries =
      some ((jsonText key).length + 1 + (jsonText text).length + rest) := by
  have hperm : entries.Perm ((key, .str text) :: entries.eraseIdx i) := by
    rw [← hentry]
    exact (List.getElem_cons_eraseIdx_perm h).symm
  rw [entriesSize_perm hperm, entriesSize_cons, jsonSize, hrest]
  rfl

theorem jsonSize_dict_of_eraseIdx {i rest : Nat} {key text : String} (h : i < entries.length)
    (hentry : entries[i] = (key, .str text))
    (hrest : entriesSize lib allowNan (entries.eraseIdx i) = some rest) :
    jsonSize lib allowNan (.dict entries) = some (jsonFrame entries.length +
      ((jsonText key).length + 1 + (jsonText text).length + rest)) := by
  rw [jsonSize, entriesSize_of_eraseIdx h hentry hrest]
  rfl

theorem entriesSize_append_eq_some {size : Nat}
    (h : entriesSize lib allowNan (entries ++ entries') = some size) :
    ∃ left right, entriesSize lib allowNan entries = some left ∧
      entriesSize lib allowNan entries' = some right ∧ size = left + right := by
  induction entries generalizing size with
  | nil => exact ⟨0, size, by rw [entriesSize], h, by omega⟩
  | cons entry entries ih =>
      rw [List.cons_append, entriesSize_cons] at h
      rw [entriesSize_cons]
      cases hvalue : jsonSize lib allowNan entry.2 with
      | none => simp [hvalue] at h
      | some valueSize =>
          cases hrest : entriesSize lib allowNan (entries ++ entries') with
          | none => simp [hvalue, hrest] at h
          | some restSize =>
              obtain ⟨left, right, hleft, hright, rfl⟩ := ih hrest
              rw [hvalue, hrest] at h
              cases h
              exact ⟨_, right, by rw [hleft]; rfl, hright, by omega⟩

theorem jsonSize_dict_prefix {size : Nat}
    (h : jsonSize lib allowNan (.dict (entries ++ entries')) = some size) :
    ∃ size', jsonSize lib allowNan (.dict entries) = some size' ∧ size' ≤ size := by
  rw [jsonSize] at h
  cases hall : entriesSize lib allowNan (entries ++ entries') with
  | none => simp [hall] at h
  | some total =>
      obtain ⟨left, right, hleft, -, rfl⟩ := entriesSize_append_eq_some hall
      rw [hall] at h
      cases h
      refine ⟨jsonFrame entries.length + left, by rw [jsonSize, hleft]; rfl, ?_⟩
      simp only [jsonFrame, List.length_append]
      omega

end Entries

section Numbers

def SizeAgrees (lib : PyLibrary Float) (value : PyValue Float) : Prop :=
  jsonSize lib false value = jsonSize lib true value

theorem sizeAgrees_list {items : List (PyValue Float)} (h : ∀ item ∈ items, SizeAgrees lib item) :
    SizeAgrees lib (.list items) := by
  have hitems : itemsSize lib false items = itemsSize lib true items := by
    induction items with
    | nil => rw [itemsSize, itemsSize]
    | cons item items ih =>
        obtain ⟨hitem, hrest⟩ := List.forall_mem_cons.mp h
        rw [itemsSize, itemsSize, hitem, ih hrest]
  rw [SizeAgrees, jsonSize, jsonSize, hitems]

theorem sizeAgrees_dict {entries : List (String × PyValue Float)}
    (h : ∀ entry ∈ entries, SizeAgrees lib entry.2) : SizeAgrees lib (.dict entries) := by
  have hentries : entriesSize lib false entries = entriesSize lib true entries := by
    induction entries with
    | nil => rw [entriesSize, entriesSize]
    | cons entry entries ih =>
        obtain ⟨hentry, hrest⟩ := List.forall_mem_cons.mp h
        rw [entriesSize_cons, entriesSize_cons, hentry, ih hrest]
  rw [SizeAgrees, jsonSize, jsonSize, hentries]

theorem sizeAgrees_str (text : String) : SizeAgrees lib (.str text) := by
  rw [SizeAgrees, jsonSize, jsonSize]

theorem sizeAgrees_int (n : Int) : SizeAgrees lib (.int n) := by
  rw [SizeAgrees, jsonSize, jsonSize]

theorem sizeAgrees_bool (b : Bool) : SizeAgrees lib (.bool b) := by
  rw [SizeAgrees, jsonSize, jsonSize]

theorem sizeAgrees_none : SizeAgrees lib .none := by
  rw [SizeAgrees, jsonSize, jsonSize]

theorem sizeAgrees_float {x : Float} (h : lib.isFinite x = true) : SizeAgrees lib (.float x) := by
  rw [SizeAgrees, jsonSize, jsonSize, h, Bool.or_true, Bool.true_or]

end Numbers

section Comparison

def NoLarger (lib : PyLibrary Float) (allowNan : Bool) (value value' : PyValue Float) : Prop :=
  ∀ size', jsonSize lib allowNan value' = some size' →
    ∃ size ≤ size', jsonSize lib allowNan value = some size

theorem noLarger_refl (value : PyValue Float) : NoLarger lib allowNan value value :=
  fun size hsize => ⟨size, le_rfl, hsize⟩

theorem noLarger_nil (items : List (PyValue Float)) :
    NoLarger lib allowNan (.list []) (.list items) := by
  intro size' hsize'
  have hempty : jsonSize lib allowNan (.list []) = some 2 := by
    rw [jsonSize, itemsSize]
    rfl
  rw [jsonSize, Option.map_eq_map, Option.map_eq_some_iff] at hsize'
  obtain ⟨rest, -, rfl⟩ := hsize'
  exact ⟨2, by rw [jsonFrame]; omega, hempty⟩

theorem noLarger_true (b : Bool) : NoLarger lib allowNan (.bool true) (.bool b) := by
  intro size' hsize'
  rw [jsonSize, Option.some.injEq] at hsize'
  refine ⟨4, ?_, by rw [jsonSize]; rfl⟩
  subst hsize'
  cases b <;> decide

theorem noLarger_zero (n : Nat) : NoLarger lib allowNan (.int 0) (.int n) := by
  intro size' hsize'
  rw [jsonSize, Option.some.injEq] at hsize'
  refine ⟨1, ?_, by rw [jsonSize]; rfl⟩
  have hpos : 0 < (toString (n : Int)).length := by
    exact Nat.length_repr_pos
  omega

theorem noLarger_dict {entries entries' : List (String × PyValue Float)}
    (h :
      List.Forall₂ (fun entry entry' => entry.1 = entry'.1 ∧ NoLarger lib allowNan entry.2 entry'.2)
      entries entries') : NoLarger lib allowNan (.dict entries) (.dict entries') := by
  have hentries : ∀ size', entriesSize lib allowNan entries' = some size' →
      ∃ size ≤ size', entriesSize lib allowNan entries = some size := by
    induction h with
    | nil => exact fun size hsize => ⟨size, le_rfl, hsize⟩
    | @cons entry entry' entries entries' hentry _ ih =>
        intro size' hsize'
        rw [entriesSize_cons] at hsize' ⊢
        cases hvalue' : jsonSize lib allowNan entry'.2 with
        | none => simp [hvalue'] at hsize'
        | some valueSize' =>
            cases hrest' : entriesSize lib allowNan entries' with
            | none => simp [hvalue', hrest'] at hsize'
            | some restSize' =>
                obtain ⟨valueSize, hvalueLe, hvalue⟩ := hentry.2 valueSize' hvalue'
                obtain ⟨restSize, hrestLe, hrest⟩ := ih restSize' hrest'
                rw [hvalue', hrest'] at hsize'
                rw [hvalue, hrest, hentry.1]
                cases hsize'
                exact ⟨_, by omega, rfl⟩
  intro size' hsize'
  rw [jsonSize, Option.map_eq_map, Option.map_eq_some_iff] at hsize'
  obtain ⟨rest', hrest', rfl⟩ := hsize'
  obtain ⟨rest, hle, hrest⟩ := hentries rest' hrest'
  refine ⟨jsonFrame entries.length + rest, ?_, by rw [jsonSize, hrest]; rfl⟩
  rw [h.length_eq]
  omega

end Comparison

section Encodable

def Encodable (lib : PyLibrary Float) (allowNan : Bool) (value : PyValue Float) : Prop :=
  ∃ size, jsonSize lib allowNan value = some size

theorem encodable_str (text : String) : Encodable lib allowNan (.str text) := ⟨_, by rw [jsonSize]⟩

theorem encodable_int (n : Int) : Encodable lib allowNan (.int n) := ⟨_, by rw [jsonSize]⟩

theorem encodable_bool (b : Bool) : Encodable lib allowNan (.bool b) := ⟨_, by rw [jsonSize]⟩

theorem encodable_list {items : List (PyValue Float)}
    (h : ∀ item ∈ items, Encodable lib allowNan item) : Encodable lib allowNan (.list items) := by
  obtain ⟨size, hsize⟩ : ∃ size, itemsSize lib allowNan items = some size := by
    induction items with
    | nil => exact ⟨0, by rw [itemsSize]⟩
    | cons item items ih =>
        obtain ⟨⟨first, hfirst⟩, hitems⟩ := List.forall_mem_cons.mp h
        obtain ⟨rest, hrest⟩ := ih hitems
        exact ⟨first + rest, by rw [itemsSize, hfirst, hrest]; rfl⟩
  exact ⟨jsonFrame items.length + size, by rw [jsonSize, hsize]; rfl⟩

theorem encodable_dict {entries : List (String × PyValue Float)}
    (h : ∀ entry ∈ entries, Encodable lib allowNan entry.2) :
    Encodable lib allowNan (.dict entries) := by
  obtain ⟨size, hsize⟩ : ∃ size, entriesSize lib allowNan entries = some size := by
    induction entries with
    | nil => exact ⟨0, by rw [entriesSize]⟩
    | cons entry entries ih =>
        obtain ⟨⟨first, hfirst⟩, hentries⟩ := List.forall_mem_cons.mp h
        obtain ⟨rest, hrest⟩ := ih hentries
        exact ⟨_, by rw [entriesSize_cons, hfirst, hrest]; rfl⟩
  exact ⟨jsonFrame entries.length + size, by rw [jsonSize, hsize]; rfl⟩

end Encodable

section Keys

variable {α : Type} {entries entries' : List (String × α)} {keys : List String}

theorem lookup_eq_some_iff_mem (hnodup : (entries.map Prod.fst).Nodup) {key : String} {value : α} :
    entries.lookup key = some value ↔ (key, value) ∈ entries := by
  induction entries with
  | nil => simp
  | cons entry entries ih =>
      obtain ⟨first, held⟩ := entry
      rw [List.map_cons, List.nodup_cons] at hnodup
      rw [List.lookup_cons, List.mem_cons]
      by_cases hkey : key = first
      · subst hkey
        have hnot : (key, value) ∉ entries := fun hmem =>
          hnodup.1 (List.mem_map.mpr ⟨(key, value), hmem, rfl⟩)
        simp [hnot, eq_comm]
      · have hne : (key == first) = false := by simpa using hkey
        rw [hne, ih hnodup.2]
        simp [hkey]

theorem lookup_eq_of_perm (h : entries.Perm entries') (hnodup : (entries.map Prod.fst).Nodup)
    (key : String) : entries.lookup key = entries'.lookup key := by
  have hnodup' : (entries'.map Prod.fst).Nodup := (h.map Prod.fst).nodup_iff.mp hnodup
  apply Option.ext
  intro value
  rw [lookup_eq_some_iff_mem hnodup, lookup_eq_some_iff_mem hnodup', h.mem_iff]

def pick (keys : List String) (entries : List (String × α)) : List (String × α) :=
  keys.filterMap fun key => (entries.lookup key).map (key, ·)

theorem pick_append (keys keys' : List String) (entries : List (String × α)) :
    pick (keys ++ keys') entries = pick keys entries ++ pick keys' entries :=
  List.filterMap_append ..

theorem mem_pick {key : String} {value : α} :
    (key, value) ∈ pick keys entries ↔ key ∈ keys ∧ entries.lookup key = some value := by
  rw [pick, List.mem_filterMap]
  constructor
  · rintro ⟨key', hkey', heq⟩
    obtain ⟨value', hvalue', heq⟩ := Option.map_eq_some_iff.mp heq
    cases heq
    exact ⟨hkey', hvalue'⟩
  · rintro ⟨hkey, hvalue⟩
    exact ⟨key, hkey, by rw [hvalue]; rfl⟩

theorem nodup_pick (hkeys : keys.Nodup) : (pick keys entries).Nodup := by
  refine hkeys.filterMap ?_
  intro key key' entry hentry hentry'
  obtain ⟨value, -, rfl⟩ := Option.map_eq_some_iff.mp (Option.mem_def.mp hentry)
  obtain ⟨value', -, heq⟩ := Option.map_eq_some_iff.mp (Option.mem_def.mp hentry')
  exact (congrArg Prod.fst heq).symm

theorem pick_perm (hkeys : keys.Nodup) (hnodup : (entries.map Prod.fst).Nodup)
    (hcover : ∀ entry ∈ entries, entry.1 ∈ keys) : (pick keys entries).Perm entries := by
  apply (List.perm_ext_iff_of_nodup (nodup_pick hkeys) hnodup.of_map).mpr
  rintro ⟨key, value⟩
  rw [mem_pick, lookup_eq_some_iff_mem hnodup]
  exact ⟨And.right, fun hmem => ⟨hcover _ hmem, hmem⟩⟩

theorem keys_pick (keys : List String) (entries : List (String × α)) :
    (pick keys entries).map Prod.fst = keys.filter fun key => (entries.lookup key).isSome := by
  induction keys with
  | nil => rfl
  | cons key keys ih =>
      cases hlookup : entries.lookup key with
      | none =>
          rw [pick, List.filterMap_cons_none (by rw [hlookup]; rfl),
            List.filter_cons_of_neg (by rw [hlookup]; exact Bool.false_ne_true)]
          exact ih
      | some value =>
          rw [pick, List.filterMap_cons_some (by rw [hlookup]; rfl),
            List.filter_cons_of_pos (by rw [hlookup]; rfl), List.map_cons]
          exact congrArg _ ih

theorem pick_self (hkeys : keys.Nodup) (h : (entries.map Prod.fst).Sublist keys) :
    pick keys entries = entries := by
  generalize hnames : entries.map Prod.fst = names at h
  induction h generalizing entries with
  | slnil =>
      rw [List.map_eq_nil_iff.mp hnames]
      rfl
  | @cons names keys key hrest ih =>
      obtain ⟨hnot, hkeys⟩ := List.nodup_cons.mp hkeys
      have hlookup : entries.lookup key = none := by
        rw [List.lookup_eq_none_iff]
        intro entry hmem
        rw [bne_iff_ne]
        rintro rfl
        refine hnot (hrest.subset ?_)
        rw [← hnames]
        exact List.mem_map_of_mem hmem
      rw [pick, List.filterMap_cons_none (by rw [hlookup]; rfl)]
      exact ih hkeys hnames
  | @cons_cons names keys key _ ih =>
      obtain ⟨⟨first, value⟩, rest, rfl, rfl, rfl⟩ := List.map_eq_cons_iff.mp hnames
      obtain ⟨hnot, hkeys⟩ := List.nodup_cons.mp hkeys
      have hothers : pick keys ((first, value) :: rest) = pick keys rest := by
        refine List.filterMap_congr fun other hother => ?_
        rw [List.lookup_cons, beq_eq_false_iff_ne.mpr]
        rintro rfl
        exact hnot hother
      rw [pick, List.filterMap_cons_some (by rw [List.lookup_cons, beq_self_eq_true]; rfl)]
      exact congrArg _ (hothers.trans (ih hkeys rfl))

end Keys

end AiAnalytics.Lib
