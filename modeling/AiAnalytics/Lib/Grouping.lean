import Mathlib.Data.List.Basic
import Mathlib.Data.List.Induction
import Mathlib.Data.List.Nodup

/-!
# Groups in a dictionary

`groups.setdefault(key, []).append(item)` for one item after the other: every key has one group, in
the order in which the keys first came, and the group has the items of its key in their order.
-/

namespace AiAnalytics.Lib

variable {α κ : Type*} [DecidableEq κ] {key : α → κ} {items : List α} {item : α} {k : κ}

/-- `groups.setdefault(key, []).append(item)` -/
def addTo (k : κ) (item : α) : List (κ × List α) → List (κ × List α)
  | [] => [(k, [item])]
  | (other, group) :: groups =>
      if other = k then (other, group ++ [item]) :: groups
        else (other, group) :: addTo k item groups

def groupBy (key : α → κ) (items : List α) : List (κ × List α) :=
  items.foldl (fun groups item => addTo (key item) item groups) []

def grouped (key : α → κ) (items : List α) (k : κ) : κ × List α :=
  (k, items.filter fun item => key item = k)

theorem groupBy_concat (key : α → κ) (items : List α) (item : α) :
    groupBy key (items ++ [item]) = addTo (key item) item (groupBy key items) := by
  rw [groupBy, List.foldl_append]
  rfl

theorem lookup_addTo [BEq κ] [LawfulBEq κ] (k other : κ) (item : α) (groups : List (κ × List α)) :
    ((addTo k item groups).lookup other).getD [] =
      (groups.lookup other).getD [] ++ if other = k then [item] else [] := by
  have hbeq {a b : κ} (h : a ≠ b) : (a == b) = false := beq_eq_false_iff_ne.mpr h
  induction groups with
  | nil =>
      by_cases h : other = k
      · simp [addTo, h]
      · simp [addTo, List.lookup_cons, hbeq h, h]
  | cons entry groups ih =>
      obtain ⟨first, group⟩ := entry
      rw [addTo]
      by_cases hfirst : first = k
      · subst hfirst
        by_cases h : other = first
        · simp [h]
        · simp [List.lookup_cons, hbeq h, h]
      · rw [if_neg hfirst, List.lookup_cons, List.lookup_cons]
        by_cases h : other = first
        · subst h
          simp [hfirst]
        · simp only [hbeq h, ih]

theorem grouped_concat_of_ne (h : k ≠ key item) :
    grouped key (items ++ [item]) k = grouped key items k := by
  simp [grouped, List.filter_append, Ne.symm h]

theorem grouped_concat_self : grouped key (items ++ [item]) (key item) =
    (key item, (grouped key items (key item)).2 ++ [item]) := by
  simp [grouped, List.filter_append]

theorem addTo_map_grouped {keys : List κ} (hkeys : keys.Nodup)
    (hnew : key item ∉ keys → (grouped key items (key item)).2 = []) :
    addTo (key item) item (keys.map (grouped key items)) =
      (if key item ∈ keys then keys else keys ++ [key item]).map
      (grouped key (items ++ [item])) := by
  induction keys with
  | nil =>
      rw [if_neg List.not_mem_nil, List.nil_append, List.map_singleton, grouped_concat_self,
        hnew List.not_mem_nil]
      rfl
  | cons k keys ih =>
      obtain ⟨hk, hkeys⟩ := List.nodup_cons.mp hkeys
      by_cases hself : k = key item
      · -- no later group has this key
        subst hself
        have hrest : keys.map (grouped key items) = keys.map (grouped key (items ++ [item])) := by
          refine List.map_congr_left fun other hother => ?_
          have hne : other ≠ key item := fun h => hk (h ▸ hother)
          exact (grouped_concat_of_ne hne).symm
        rw [if_pos List.mem_cons_self, List.map_cons, List.map_cons, ← hrest, grouped_concat_self]
        exact if_pos rfl
      · have hmem : key item ∈ k :: keys ↔ key item ∈ keys := by simp [Ne.symm hself]
        have hrest := ih hkeys fun h => hnew fun h' => h (hmem.mp h')
        have hhead : addTo (key item) item ((k :: keys).map (grouped key items)) =
            grouped key (items ++ [item]) k :: addTo (key item) item
              (keys.map (grouped key items)) := by
          rw [grouped_concat_of_ne hself]
          exact if_neg hself
        rw [hhead, hrest]
        by_cases hin : key item ∈ keys
        · rw [if_pos hin, if_pos (hmem.mpr hin), List.map_cons]
        · rw [if_neg hin, if_neg (mt hmem.mp hin), List.cons_append, List.map_cons]

theorem groupBy_eq (key : α → κ) (items : List α) : ∃ keys : List κ, keys.Nodup ∧
    (∀ k, k ∈ keys ↔ ∃ item ∈ items, key item = k) ∧
      groupBy key items = keys.map (grouped key items) := by
  induction items using List.reverseRecOn with
  | nil => exact ⟨[], List.nodup_nil, by simp, rfl⟩
  | append_singleton items item ih =>
      obtain ⟨keys, hnodup, hkeys, hgroups⟩ := ih
      have hnew : key item ∉ keys → (grouped key items (key item)).2 = [] := by
        refine fun hnot => List.filter_eq_nil_iff.mpr fun other hother hkey => hnot ?_
        exact (hkeys _).mpr ⟨other, hother, of_decide_eq_true hkey⟩
      refine ⟨if key item ∈ keys then keys else keys ++ [key item], ?_, fun k => ?_, ?_⟩
      · split_ifs with hin
        · exact hnodup
        · refine List.nodup_append.mpr ⟨hnodup, List.nodup_singleton _, fun k hk other hother h =>
            hin ?_⟩
          rwa [← List.mem_singleton.mp hother, ← h]
      · split_ifs with hin
        · simp only [hkeys, List.mem_append, List.mem_singleton] at hin ⊢
          grind
        · simp only [List.mem_append, List.mem_singleton, hkeys]
          grind
      · rw [groupBy_concat, hgroups]
        exact addTo_map_grouped hnodup hnew

theorem lookup_groupBy [BEq κ] [LawfulBEq κ] (key : α → κ) (items : List α) (k : κ) :
    (groupBy key items).lookup k =
      if ∃ item ∈ items, key item = k then some (items.filter fun item => key item = k)
      else none := by
  obtain ⟨keys, -, hkeys, hgroups⟩ := groupBy_eq key items
  rw [hgroups]
  split_ifs with hin
  · exact List.lookup_graph (fun k => items.filter fun item => key item = k) ((hkeys k).mpr hin)
  · refine List.lookup_eq_none_iff.mpr fun entry hentry => ?_
    obtain ⟨other, hother, rfl⟩ := List.mem_map.mp hentry
    have hne : k ≠ other := fun h => hin ((hkeys k).mp (h ▸ hother))
    exact bne_iff_ne.mpr hne

end AiAnalytics.Lib
