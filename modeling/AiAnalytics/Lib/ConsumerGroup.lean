import Mathlib.Data.List.Basic
import Mathlib.Data.List.Nodup
import Mathlib.Logic.Function.Basic

/-!
# Consumer groups

A log of entries that is handed out to a group of consumers: each read takes the next entries that
no consumer has been given before. As long as entries are added once, every entry is in at most one
place: it is still undelivered, or one consumer holds it, or nobody does any more.
-/

namespace AiAnalytics.Lib

structure ConsumerGroup (κ α : Type*) where
  entries : List α
  delivered : Nat
  held : κ → List α

namespace ConsumerGroup

variable {κ α : Type*} [DecidableEq κ]

def undelivered (group : ConsumerGroup κ α) : List α := group.entries.drop group.delivered

def add (group : ConsumerGroup κ α) (entry : α) : ConsumerGroup κ α :=
  { group with entries := group.entries ++ [entry] }

def read (group : ConsumerGroup κ α) (consumer : κ) (count : Nat) : ConsumerGroup κ α :=
  { group with
    delivered := group.delivered + (group.undelivered.take count).length
    held := Function.update group.held consumer
      (group.held consumer ++ group.undelivered.take count) }

structure Exclusive (group : ConsumerGroup κ α) : Prop where
  entries : group.entries.Nodup
  delivered_le : group.delivered ≤ group.entries.length
  held_nodup : ∀ consumer, (group.held consumer).Nodup
  held_delivered : ∀ consumer, ∀ entry ∈ group.held consumer,
    entry ∈ group.entries.take group.delivered
  apart : ∀ consumer other, consumer ≠ other → ∀ entry ∈ group.held consumer,
    entry ∉ group.held other

variable {group later : ConsumerGroup κ α} {consumer : κ} {entry : α}

omit [DecidableEq κ] in
theorem Exclusive.not_mem_undelivered (h : group.Exclusive) (hheld : entry ∈ group.held consumer) :
    entry ∉ group.undelivered := by
  have hsplit : (group.entries.take group.delivered ++ group.undelivered).Nodup := by
    rw [undelivered, List.take_append_drop]
    exact h.entries
  have hapart := (List.nodup_append.mp hsplit).2.2
  exact fun hlater => hapart entry (h.held_delivered consumer entry hheld) entry hlater rfl

omit [DecidableEq κ] in
theorem Exclusive.shrink (h : group.Exclusive) (hentries : later.entries = group.entries)
    (hdelivered : later.delivered = group.delivered)
    (hheld : ∀ consumer, (later.held consumer).Sublist (group.held consumer)) :
    later.Exclusive where
  entries := hentries ▸ h.entries
  delivered_le := by
    rw [hentries, hdelivered]
    exact h.delivered_le
  held_nodup := fun consumer => (hheld consumer).nodup (h.held_nodup consumer)
  held_delivered := by
    intro consumer entry hentry
    rw [hentries, hdelivered]
    exact h.held_delivered consumer entry ((hheld consumer).subset hentry)
  apart := by
    intro consumer other hother entry hentry hotherEntry
    exact h.apart consumer other hother entry ((hheld consumer).subset hentry)
      ((hheld other).subset hotherEntry)

omit [DecidableEq κ] in
theorem Exclusive.add (h : group.Exclusive) (hnew : entry ∉ group.entries) :
    (group.add entry).Exclusive where
  entries := by
    rw [ConsumerGroup.add, List.nodup_append]
    refine ⟨h.entries, List.nodup_singleton entry, ?_⟩
    rintro old hold _ hsame rfl
    obtain rfl := List.mem_singleton.mp hsame
    exact hnew hold
  delivered_le := by
    rw [ConsumerGroup.add, List.length_append]
    exact Nat.le_add_right_of_le h.delivered_le
  held_nodup := h.held_nodup
  held_delivered := by
    intro consumer old hold
    have hbefore : old ∈ group.entries.take group.delivered := h.held_delivered consumer old hold
    rw [ConsumerGroup.add, List.take_append]
    exact List.mem_append_left _ hbefore
  apart := h.apart

omit [DecidableEq κ] in
theorem Exclusive.undelivered_add (h : group.Exclusive) :
    (group.add entry).undelivered = group.undelivered ++ [entry] :=
  List.drop_append_of_le_length h.delivered_le

theorem held_read (count : Nat) (other : κ) :
    (group.read consumer count).held other =
      if other = consumer then group.held consumer ++ group.undelivered.take count
      else group.held other :=
  Function.update_apply group.held consumer _ other

omit [DecidableEq κ] in
theorem take_of_read (count : Nat) :
    group.entries.take (group.delivered + (group.undelivered.take count).length) =
      group.entries.take group.delivered ++ group.undelivered.take count := by
  rw [List.take_add, ← undelivered, List.length_take]
  by_cases hcount : count ≤ group.undelivered.length
  · rw [Nat.min_eq_left hcount]
  · rw [Nat.min_eq_right (Nat.le_of_not_le hcount), List.take_length,
      List.take_of_length_le (Nat.le_of_not_le hcount)]

theorem Exclusive.read (h : group.Exclusive) (consumer : κ) (count : Nat) :
    (group.read consumer count).Exclusive where
  entries := h.entries
  delivered_le := by
    have htaken : (group.undelivered.take count).length ≤
        group.entries.length - group.delivered := by
      rw [← List.length_drop]
      exact List.length_take_le' count group.undelivered
    have hdelivered := h.delivered_le
    show group.delivered + (group.undelivered.take count).length ≤ group.entries.length
    omega
  held_nodup := by
    intro other
    rw [held_read]
    split_ifs with hother
    · rw [List.nodup_append]
      refine ⟨h.held_nodup consumer, ?_, ?_⟩
      · exact ((List.take_sublist _ _).trans (List.drop_sublist _ _)).nodup h.entries
      · rintro old hold _ hnew rfl
        exact h.not_mem_undelivered hold (List.mem_of_mem_take hnew)
    · exact h.held_nodup other
  held_delivered := by
    intro other entry hentry
    rw [held_read] at hentry
    have htake : (group.read consumer count).entries.take (group.read consumer count).delivered =
        group.entries.take group.delivered ++ group.undelivered.take count := take_of_read count
    rw [htake]
    split_ifs at hentry with hother
    · rcases List.mem_append.mp hentry with hold | hnew
      · exact List.mem_append_left _ (h.held_delivered consumer entry hold)
      · exact List.mem_append_right _ hnew
    · exact List.mem_append_left _ (h.held_delivered other entry hentry)
  apart := by
    intro first second hne entry hfirst hsecond
    rw [held_read] at hfirst hsecond
    split_ifs at hfirst hsecond with hone htwo htwo
    · exact hne (hone.trans htwo.symm)
    · rcases List.mem_append.mp hfirst with hold | hnew
      · exact h.apart consumer second (Ne.symm htwo) entry hold hsecond
      · exact h.not_mem_undelivered hsecond (List.mem_of_mem_take hnew)
    · rcases List.mem_append.mp hsecond with hold | hnew
      · exact h.apart first consumer hone entry hfirst hold
      · exact h.not_mem_undelivered hfirst (List.mem_of_mem_take hnew)
    · exact h.apart first second hne entry hfirst hsecond

theorem undelivered_read (consumer : κ) (count : Nat) :
    (group.read consumer count).undelivered = group.undelivered.drop count := by
  show group.entries.drop (group.delivered + (group.undelivered.take count).length) = _
  rw [List.length_take, ← List.drop_drop, ← undelivered]
  by_cases hcount : count ≤ group.undelivered.length
  · rw [Nat.min_eq_left hcount]
  · rw [Nat.min_eq_right (Nat.le_of_not_le hcount), List.drop_length,
      List.drop_of_length_le (Nat.le_of_not_le hcount)]

end ConsumerGroup

end AiAnalytics.Lib
