import Mathlib.Data.List.Dedup
import Mathlib.Data.List.Nodup
import Mathlib.Tactic.Common

/-!
# Dictionaries that remember an order

The entries of a dictionary in their order: a key keeps its place when its value is replaced, a new
key comes last, and a key can be moved to the end.
-/

namespace AiAnalytics.Lib

@[ext]
structure OrderedDict (Key Value : Type) where
  entries : List (Key × Value)
  nodup : (entries.map Prod.fst).Nodup

namespace OrderedDict

variable {Key Value : Type} [DecidableEq Key]

def empty : OrderedDict Key Value := ⟨[], List.nodup_nil⟩

def get? (dict : OrderedDict Key Value) (key : Key) : Option Value :=
  (dict.entries.find? fun entry => entry.1 = key).map Prod.snd

def size (dict : OrderedDict Key Value) : Nat := dict.entries.length

def values (dict : OrderedDict Key Value) : List Value := dict.entries.map Prod.snd

theorem mem_of_get? {dict : OrderedDict Key Value} {key : Key} {value : Value}
    (h : dict.get? key = some value) : (key, value) ∈ dict.entries := by
  obtain ⟨⟨other, found⟩, hfind, rfl⟩ := Option.map_eq_some_iff.mp h
  obtain rfl : other = key := by simpa using List.find?_some hfind
  exact List.mem_of_find?_eq_some hfind

theorem get?_of_mem {dict : OrderedDict Key Value} {key : Key} {value : Value}
    (h : (key, value) ∈ dict.entries) : dict.get? key = some value := by
  cases hfound : dict.get? key with
  | none =>
      have hnone := List.find?_eq_none.mp (Option.map_eq_none_iff.mp hfound) _ h
      simp at hnone
  | some found =>
      have hpair := List.inj_on_of_nodup_map dict.nodup (mem_of_get? hfound) h rfl
      rw [(Prod.mk.inj hpair).2]

theorem get?_eq_some_iff {dict : OrderedDict Key Value} {key : Key} {value : Value} :
    dict.get? key = some value ↔ (key, value) ∈ dict.entries :=
  ⟨mem_of_get?, get?_of_mem⟩

theorem exists_get?_of_mem_values {dict : OrderedDict Key Value} {value : Value}
    (h : value ∈ dict.values) : ∃ key, dict.get? key = some value := by
  obtain ⟨⟨key, found⟩, hentry, rfl⟩ := List.mem_map.mp h
  exact ⟨key, get?_of_mem hentry⟩

theorem mem_values_of_get? {dict : OrderedDict Key Value} {key : Key} {value : Value}
    (h : dict.get? key = some value) : value ∈ dict.values :=
  List.mem_map.mpr ⟨(key, value), mem_of_get? h, rfl⟩

section Updates

def mapValues (dict : OrderedDict Key Value) (f : Value → Value) : OrderedDict Key Value where
  entries := dict.entries.map fun entry => (entry.1, f entry.2)
  nodup := by
    rw [List.map_map]
    exact dict.nodup

def pop (dict : OrderedDict Key Value) (key : Key) : OrderedDict Key Value where
  entries := dict.entries.filter fun entry => entry.1 ≠ key
  nodup := dict.nodup.sublist (List.filter_sublist.map _)

/-- `popitem(last=False)` -/
def popFirst (dict : OrderedDict Key Value) : OrderedDict Key Value where
  entries := dict.entries.tail
  nodup := dict.nodup.sublist ((List.tail_sublist _).map _)

theorem not_mem_keys_pop (dict : OrderedDict Key Value) (key : Key) :
    key ∉ (dict.pop key).entries.map Prod.fst := by
  intro hmem
  obtain ⟨entry, hentry, hkey⟩ := List.mem_map.mp hmem
  exact absurd hkey (by simpa using (List.mem_filter.mp hentry).2)

def putLast (dict : OrderedDict Key Value) (key : Key) (value : Value) : OrderedDict Key Value where
  entries := (dict.pop key).entries ++ [(key, value)]
  nodup := by
    rw [List.map_append]
    refine (dict.pop key).nodup.append (List.nodup_singleton _) ?_
    intro other hother hlast
    obtain rfl : other = key := by simpa using hlast
    exact dict.not_mem_keys_pop other hother

/-- `dict[key] = value` -/
def set (dict : OrderedDict Key Value) (key : Key) (value : Value) : OrderedDict Key Value :=
  if key ∈ dict.entries.map Prod.fst then
    { entries := dict.entries.map fun entry => (entry.1, if entry.1 = key then value else entry.2)
      nodup := by
        rw [List.map_map]
        exact dict.nodup }
  else dict.putLast key value

def modify (dict : OrderedDict Key Value) (key : Key) (f : Value → Value) :
    OrderedDict Key Value where
  entries := dict.entries.map fun entry => (entry.1, if entry.1 = key then f entry.2 else entry.2)
  nodup := by
    rw [List.map_map]
    exact dict.nodup

def moveToEnd (dict : OrderedDict Key Value) (key : Key) : OrderedDict Key Value :=
  match dict.get? key with
  | some value => dict.putLast key value
  | none => dict

variable {dict : OrderedDict Key Value} {key other : Key} {value : Value}

theorem get?_pop (dict : OrderedDict Key Value) (key other : Key) :
    (dict.pop key).get? other = if other = key then none else dict.get? other := by
  refine Option.ext fun value => ?_
  rw [get?_eq_some_iff]
  by_cases heq : other = key
  · simp [pop, heq]
  · simp [pop, heq, get?_eq_some_iff]

theorem pop_of_get?_eq_none (h : dict.get? key = none) : dict.pop key = dict := by
  ext1
  refine List.filter_eq_self.mpr fun entry hentry => decide_eq_true ?_
  rintro rfl
  rw [get?_of_mem hentry] at h
  cases h

theorem entries_putLast (h : dict.get? key = none) (value : Value) :
    (dict.putLast key value).entries = dict.entries ++ [(key, value)] := by
  change (dict.pop key).entries ++ [(key, value)] = _
  rw [pop_of_get?_eq_none h]

theorem get?_putLast (dict : OrderedDict Key Value) (key other : Key) (value : Value) :
    (dict.putLast key value).get? other = if other = key then some value else dict.get? other := by
  refine Option.ext fun found => ?_
  rw [get?_eq_some_iff]
  by_cases heq : other = key
  · subst heq
    have hpopped (found : Value) : (other, found) ∉ (dict.pop other).entries := fun hmem =>
      dict.not_mem_keys_pop other (List.mem_map_of_mem hmem)
    simp [putLast, hpopped, eq_comm]
  · simp [putLast, pop, heq, get?_eq_some_iff]

theorem get?_mapValues (dict : OrderedDict Key Value) (f : Value → Value) (key : Key) :
    (dict.mapValues f).get? key = (dict.get? key).map f := by
  simp only [get?, mapValues, List.find?_map, Option.map_map]
  rfl

theorem get?_of_get?_popFirst (h : dict.popFirst.get? key = some value) :
    dict.get? key = some value :=
  get?_of_mem (List.mem_of_mem_tail (mem_of_get? h))

theorem pop_set (dict : OrderedDict Key Value) (key : Key) (value : Value) :
    ((dict.set key value).pop key).entries = (dict.pop key).entries := by
  unfold set
  split_ifs with hkey
  · simp only [pop, List.filter_map]
    have hkept : ∀ entry ∈ dict.entries.filter fun entry => entry.1 ≠ key,
        (entry.1, if entry.1 = key then value else entry.2) = entry := by
      intro entry hentry
      have hne : entry.1 ≠ key := by simpa using (List.mem_filter.mp hentry).2
      rw [if_neg hne]
    exact (List.map_congr_left hkept).trans (List.map_id _)
  · simp [pop, putLast]

theorem get?_set_self (dict : OrderedDict Key Value) (key : Key) (value : Value) :
    (dict.set key value).get? key = some value := by
  unfold set
  split_ifs with hkey
  · obtain ⟨entry, hentry, rfl⟩ := List.mem_map.mp hkey
    refine get?_of_mem (List.mem_map.mpr ⟨entry, hentry, ?_⟩)
    rw [if_pos rfl]
  · rw [get?_putLast, if_pos rfl]

theorem get?_set (dict : OrderedDict Key Value) (key other : Key) (value : Value) :
    (dict.set key value).get? other = if other = key then some value else dict.get? other := by
  by_cases heq : other = key
  · subst heq
    rw [get?_set_self, if_pos rfl]
  · have hpopped : ((dict.set key value).pop key).get? other = (dict.pop key).get? other := by
      rw [get?, get?, pop_set]
    rw [get?_pop, get?_pop, if_neg heq, if_neg heq] at hpopped
    rw [hpopped, if_neg heq]

theorem get?_modify (dict : OrderedDict Key Value) (key other : Key) (f : Value → Value) :
    (dict.modify key f).get? other = if other = key then (dict.get? other).map f
      else dict.get? other := by
  simp only [get?, modify, List.find?_map, Option.map_map]
  change Option.map _ (dict.entries.find? fun entry => entry.1 = other) = _
  cases hfind : dict.entries.find? fun entry => entry.1 = other with
  | none => simp
  | some entry =>
      obtain rfl : entry.1 = other := by simpa using List.find?_some hfind
      by_cases heq : entry.1 = key <;> simp [heq]

theorem moveToEnd_set (dict : OrderedDict Key Value) (key : Key) (value : Value) :
    (dict.set key value).moveToEnd key = dict.putLast key value := by
  rw [moveToEnd, get?_set_self]
  ext1
  simp only [putLast, pop_set]

end Updates

section Keys

variable {dict : OrderedDict Key Value} {key : Key}

def keys (dict : OrderedDict Key Value) : List Key := dict.entries.map Prod.fst

omit [DecidableEq Key] in
theorem length_keys (dict : OrderedDict Key Value) : dict.keys.length = dict.size :=
  List.length_map _

theorem mem_keys_iff : key ∈ dict.keys ↔ dict.get? key ≠ none := by
  constructor
  · intro hmem hnone
    obtain ⟨entry, hentry, rfl⟩ := List.mem_map.mp hmem
    rw [get?_of_mem hentry] at hnone
    cases hnone
  · intro hsome
    obtain ⟨value, hvalue⟩ := Option.ne_none_iff_exists'.mp hsome
    exact List.mem_map_of_mem (mem_of_get? hvalue)

omit [DecidableEq Key] in
theorem keys_mapValues (dict : OrderedDict Key Value) (f : Value → Value) :
    (dict.mapValues f).keys = dict.keys := by
  simp only [keys, mapValues, List.map_map]
  rfl

theorem keys_pop (dict : OrderedDict Key Value) (key : Key) :
    (dict.pop key).keys = dict.keys.filter fun other => other ≠ key := by
  rw [keys, pop, keys, List.filter_map]
  rfl

theorem keys_putLast (dict : OrderedDict Key Value) (key : Key) (value : Value) :
    (dict.putLast key value).keys = (dict.keys.filter fun other => other ≠ key) ++ [key] := by
  rw [← keys_pop, keys, putLast, List.map_append]
  rfl

theorem size_pop (dict : OrderedDict Key Value) (key : Key) :
    (dict.pop key).size + (if dict.get? key = none then 0 else 1) = dict.size := by
  have hnodup : dict.keys.Nodup := dict.nodup
  have hothers : (dict.pop key).keys = dict.keys.erase key := by
    rw [keys_pop, hnodup.erase_eq_filter]
    refine List.filter_congr fun other _ => ?_
    by_cases heq : other = key <;> simp [heq]
  rw [← length_keys, ← length_keys, hothers]
  by_cases hheld : key ∈ dict.keys
  · have hpos := List.length_pos_of_mem hheld
    rw [List.length_erase_of_mem hheld, if_neg (mem_keys_iff.mp hheld)]
    omega
  · rw [List.erase_of_not_mem hheld,
      if_pos (not_not.mp fun hsome => hheld (mem_keys_iff.mpr hsome)), Nat.add_zero]

theorem size_putLast (dict : OrderedDict Key Value) (key : Key) (value : Value) :
    (dict.putLast key value).size = (dict.pop key).size + 1 := by
  rw [size, putLast, List.length_append]
  rfl

theorem dedup_concat (uses : List Key) (key : Key) :
    (uses ++ [key]).dedup = (uses.dedup.filter fun other => other ≠ key) ++ [key] := by
  induction uses with
  | nil => rfl
  | cons first uses ih =>
      rw [List.cons_append, List.dedup_cons', List.dedup_cons' first uses]
      by_cases heq : first = key
      · subst heq
        have hlast : first ∈ (uses ++ [first]).dedup := List.mem_dedup.mpr (by simp)
        rw [if_pos hlast, ih]
        split_ifs
        · rfl
        · simp
      · have hiff : first ∈ (uses ++ [key]).dedup ↔ first ∈ uses.dedup := by simp [heq]
        simp only [hiff]
        split_ifs
        · exact ih
        · simp [ih, heq]

end Keys

end OrderedDict

end AiAnalytics.Lib
