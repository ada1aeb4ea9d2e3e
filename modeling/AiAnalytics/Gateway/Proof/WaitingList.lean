import AiAnalytics.Gateway.Proof.QueueSlots
import Mathlib.Data.List.Nodup
import Mathlib.Tactic.Linarith

/-!
# The waiting list of one worker

What can happen to the list: an item is enqueued at its end, one is granted by the order of the
moment, one leaves. The list stays in the order of arrival, and an older item has been passed over
at least as often as a younger one, since whatever jumps the younger one jumps it too. Hence an item
that counts as starved is jumped by a younger one only for an earlier deadline.
-/

namespace AiAnalytics.Gateway

open Lib

variable {cfg : QueueConfig} {waiting next : List QueueItem} {best x y : QueueItem} {now : ℚ}

section Operations

inductive ListOp where
  | enqueue (item : QueueItem)
  | grant (best : QueueItem) (now : ℚ)
  | drop (id : Nat)

def Arrives (waiting : List QueueItem) (item : QueueItem) : Prop :=
  item.passedOver = 0 ∧ ∀ other ∈ waiting, other.id ≠ item.id ∧ other.enqueuedAt ≤ item.enqueuedAt

instance (waiting : List QueueItem) (item : QueueItem) : Decidable (Arrives waiting item) :=
  inferInstanceAs (Decidable (_ ∧ _))

def listStep (cfg : QueueConfig) (waiting : List QueueItem) : ListOp → Option (List QueueItem)
  | .enqueue item => if Arrives waiting item then some (waiting ++ [item]) else none
  | .grant best now =>
      if waiting.argmin (cfg.key · now) = some best then
        some ((removeItem best.id waiting).map (overtake best))
      else none
  | .drop id => some (removeItem id waiting)

def listMachine (cfg : QueueConfig) : Machine (List QueueItem) ListOp := { step := listStep cfg }

def ListOp.jumps (op : ListOp) (item : QueueItem) : Bool :=
  match op with
  | .grant best _ => item.enqueuedAt < best.enqueuedAt
  | _ => false

end Operations

section Order

structure Aged (waiting : List QueueItem) : Prop where
  ids : (waiting.map QueueItem.id).Nodup
  order : waiting.Pairwise fun older younger =>
    older.enqueuedAt ≤ younger.enqueuedAt ∧ younger.passedOver ≤ older.passedOver

theorem overtake_enqueuedAt : (overtake best x).enqueuedAt = x.enqueuedAt := by
  unfold overtake
  split <;> rfl

theorem overtake_deadlineAt : (overtake best x).deadlineAt = x.deadlineAt := by
  unfold overtake
  split <;> rfl

theorem overtake_passedOver : (overtake best x).passedOver =
    x.passedOver + if x.enqueuedAt < best.enqueuedAt then 1 else 0 := by
  unfold overtake
  split <;> rfl

theorem aged_nil : Aged [] := ⟨List.nodup_nil, List.Pairwise.nil⟩

theorem Aged.enqueue (haged : Aged waiting) {item : QueueItem} (harrives : Arrives waiting item) :
    Aged (waiting ++ [item]) where
  ids := by
    rw [List.map_append, List.map_singleton, List.nodup_append]
    refine ⟨haged.ids, List.nodup_singleton _, ?_⟩
    intro id hid other hother
    obtain ⟨old, hold, rfl⟩ := List.mem_map.mp hid
    rw [List.mem_singleton.mp hother]
    exact (harrives.2 old hold).1
  order := by
    rw [List.pairwise_append]
    refine ⟨haged.order, List.pairwise_singleton _ _, ?_⟩
    intro old hold new hnew
    rw [List.mem_singleton.mp hnew]
    refine ⟨(harrives.2 old hold).2, ?_⟩
    rw [harrives.1]
    exact Nat.zero_le _

theorem Aged.drop (haged : Aged waiting) (id : Nat) : Aged (removeItem id waiting) where
  ids := nodup_removeItem haged.ids
  order := haged.order.sublist List.eraseP_sublist

theorem Aged.overtake (haged : Aged waiting) (best : QueueItem) :
    Aged (waiting.map (overtake best)) where
  ids := by
    rw [List.map_map]
    have hids : QueueItem.id ∘ Gateway.overtake best = QueueItem.id :=
      funext fun x => overtake_id best x
    rw [hids]
    exact haged.ids
  order := by
    rw [List.pairwise_map]
    refine haged.order.imp ?_
    rintro older younger ⟨harrival, hpassed⟩
    rw [overtake_enqueuedAt, overtake_enqueuedAt, overtake_passedOver, overtake_passedOver]
    refine ⟨harrival, ?_⟩
    by_cases hjumped : younger.enqueuedAt < best.enqueuedAt
    · rw [if_pos hjumped, if_pos (lt_of_le_of_lt harrival hjumped)]
      omega
    · rw [if_neg hjumped]
      omega

theorem Aged.step (haged : Aged waiting) {op : ListOp}
    (hstep : listStep cfg waiting op = some next) : Aged next := by
  cases op with
  | enqueue item =>
      obtain ⟨harrives, hnext⟩ := Option.ite_none_right_eq_some.mp hstep
      cases hnext
      exact haged.enqueue harrives
  | grant best now =>
      obtain ⟨-, hnext⟩ := Option.ite_none_right_eq_some.mp hstep
      cases hnext
      exact (haged.drop best.id).overtake best
  | drop id =>
      cases hstep
      exact haged.drop id

theorem Aged.eq_of_id (haged : Aged waiting) (hx : x ∈ waiting) (hy : y ∈ waiting)
    (hid : x.id = y.id) : x = y :=
  List.inj_on_of_nodup_map haged.ids hx hy hid

theorem Aged.passedOver_le (haged : Aged waiting) (hx : x ∈ waiting) (hy : y ∈ waiting)
    (holder : x.enqueuedAt < y.enqueuedAt) : y.passedOver ≤ x.passedOver := by
  obtain ⟨i, hi, rfl⟩ := List.getElem_of_mem hx
  obtain ⟨j, hj, rfl⟩ := List.getElem_of_mem hy
  have horder := List.pairwise_iff_getElem.mp haged.order
  rcases lt_trichotomy i j with hlt | rfl | hgt
  · exact (horder i j hi hj hlt).2
  · exact absurd holder (lt_irrefl _)
  · exact absurd holder (not_lt.mpr (horder j i hj hi hgt).1)

end Order

section Starvation

def QueueItem.Starved (cfg : QueueConfig) (item : QueueItem) : Prop :=
  cfg.maxOvertakes ≤ item.passedOver

theorem key_of_starved (hstarved : x.Starved cfg) (now : ℚ) :
    cfg.key x now = toLex (0, toLex (0, toLex
      ((x.deadlineAt - now) - cfg.agingGain * x.passedOver, x.enqueuedAt))) := by
  unfold QueueItem.Starved at hstarved
  simp only [QueueConfig.key, hstarved, true_or, if_true]

theorem slack_lt_of_key_le (hstarved : x.Starved cfg) (holder : x.enqueuedAt < best.enqueuedAt)
    (hkey : cfg.key best now ≤ cfg.key x now) :
    (best.deadlineAt - now) - cfg.agingGain * best.passedOver <
      (x.deadlineAt - now) - cfg.agingGain * x.passedOver := by
  rw [key_of_starved hstarved, QueueConfig.key] at hkey
  simp only [Prod.Lex.toLex_le_toLex, Nat.not_lt_zero, false_or] at hkey
  obtain ⟨-, -, hslack | ⟨-, harrival⟩⟩ := hkey
  · exact hslack
  · exact absurd harrival (not_le.mpr holder)

def FairGrant (cfg : QueueConfig) (waiting : List QueueItem) : ListOp → Prop
  | .grant best _ => ∀ x ∈ waiting, x.enqueuedAt < best.enqueuedAt → x.Starved cfg →
      best.deadlineAt < x.deadlineAt
  | _ => True

theorem Aged.fairGrant (hgain : 0 ≤ cfg.agingGain) (haged : Aged waiting) {op : ListOp}
    (hstep : listStep cfg waiting op = some next) : FairGrant cfg waiting op := by
  cases op with
  | grant best now =>
      obtain ⟨hbest, -⟩ := Option.ite_none_right_eq_some.mp hstep
      intro x hx holder hstarved
      have hkey : cfg.key best now ≤ cfg.key x now := List.le_of_mem_argmin hx hbest
      have hslack := slack_lt_of_key_le hstarved holder hkey
      have hpassed : (best.passedOver : ℚ) ≤ x.passedOver :=
        Nat.cast_le.mpr (haged.passedOver_le hx (List.argmin_mem hbest) holder)
      have haging := mul_le_mul_of_nonneg_left hpassed hgain
      linarith
  | enqueue item => trivial
  | drop id => trivial

structure Undated (cfg : QueueConfig) (waiting : List QueueItem) : Prop where
  deadline : ∀ x ∈ waiting, x.deadlineAt = x.enqueuedAt + cfg.timeoutS
  bound : ∀ x ∈ waiting, (x.passedOver : Int) ≤ max 0 cfg.maxOvertakes

theorem undated_nil : Undated cfg [] where
  deadline := fun _ hx => absurd hx List.not_mem_nil
  bound := fun _ hx => absurd hx List.not_mem_nil

theorem not_starved_of_jumped (hgain : 0 ≤ cfg.agingGain) (haged : Aged waiting)
    (hundated : Undated cfg waiting) (hbest : waiting.argmin (cfg.key · now) = some best)
    (hx : x ∈ waiting) (hjumped : x.enqueuedAt < best.enqueuedAt) :
    (x.passedOver : Int) < cfg.maxOvertakes := by
  by_contra hstarved
  have hstep : listStep cfg waiting (.grant best now) =
      some ((removeItem best.id waiting).map (Gateway.overtake best)) := if_pos hbest
  have hdeadline := haged.fairGrant hgain hstep x hx hjumped (not_lt.mp hstarved)
  rw [hundated.deadline x hx, hundated.deadline best (List.argmin_mem hbest)] at hdeadline
  linarith

theorem Undated.step (hgain : 0 ≤ cfg.agingGain) (haged : Aged waiting)
    (hundated : Undated cfg waiting) {op : ListOp}
    (hitem : ∀ item, op = .enqueue item → item.deadlineAt = item.enqueuedAt + cfg.timeoutS)
    (hstep : listStep cfg waiting op = some next) : Undated cfg next := by
  cases op with
  | enqueue item =>
      obtain ⟨harrives, hnext⟩ := Option.ite_none_right_eq_some.mp hstep
      cases hnext
      constructor
      · intro x hx
        rcases List.mem_append.mp hx with hold | hnew
        · exact hundated.deadline x hold
        · rw [List.mem_singleton.mp hnew]
          exact hitem item rfl
      · intro x hx
        rcases List.mem_append.mp hx with hold | hnew
        · exact hundated.bound x hold
        · rw [List.mem_singleton.mp hnew, harrives.1]
          exact le_max_left _ _
  | grant best now =>
      obtain ⟨hbest, hnext⟩ := Option.ite_none_right_eq_some.mp hstep
      cases hnext
      constructor
      · intro y hy
        obtain ⟨x, hx, rfl⟩ := List.mem_map.mp hy
        rw [overtake_deadlineAt, overtake_enqueuedAt]
        exact hundated.deadline x (mem_of_mem_removeItem hx)
      · intro y hy
        obtain ⟨x, hx, rfl⟩ := List.mem_map.mp hy
        have hwaits := mem_of_mem_removeItem hx
        have hbound := hundated.bound x hwaits
        rw [overtake_passedOver]
        by_cases hjumped : x.enqueuedAt < best.enqueuedAt
        · have hroom := not_starved_of_jumped hgain haged hundated hbest hwaits hjumped
          rw [if_pos hjumped]
          push_cast
          omega
        · rw [if_neg hjumped]
          exact hbound
  | drop id =>
      cases hstep
      exact ⟨fun x hx => hundated.deadline x (mem_of_mem_removeItem hx),
        fun x hx => hundated.bound x (mem_of_mem_removeItem hx)⟩

end Starvation

section Overtaking

def overtakes (cfg : QueueConfig) (id : Nat) : List QueueItem → List ListOp → Nat
  | _, [] => 0
  | waiting, op :: ops =>
      match waiting.find? fun item => item.id = id, listStep cfg waiting op with
      | some item, some next => (if op.jumps item then 1 else 0) + overtakes cfg id next ops
      | _, _ => 0

theorem Aged.find?_eq (haged : Aged waiting) (hx : x ∈ waiting) :
    waiting.find? (fun item => item.id = x.id) = some x := by
  have hsome : (waiting.find? fun item => item.id = x.id).isSome :=
    List.find?_isSome.mpr ⟨x, hx, decide_eq_true rfl⟩
  obtain ⟨y, hy⟩ := Option.isSome_iff_exists.mp hsome
  have hid := List.find?_some hy
  rw [hy, haged.eq_of_id (List.mem_of_find?_eq_some hy) hx (of_decide_eq_true hid)]

theorem mem_removeItem_of_ne {id : Nat} (hx : x ∈ waiting) (hne : x.id ≠ id) :
    x ∈ removeItem id waiting :=
  (List.mem_eraseP_of_neg (by simpa using hne)).mpr hx

theorem find?_of_removed (haged : Aged waiting) :
    (removeItem x.id waiting).find? (fun item => item.id = x.id) = none := by
  rw [List.find?_eq_none]
  intro y hy hid
  exact ne_of_mem_removeItem haged.ids hy (of_decide_eq_true hid)

theorem Aged.item_step (haged : Aged waiting) (hx : x ∈ waiting) {op : ListOp}
    (hstep : listStep cfg waiting op = some next) :
    (∃ y ∈ next, y.id = x.id ∧ y.passedOver = x.passedOver + if op.jumps x then 1 else 0) ∨
    (op.jumps x = false ∧ next.find? (fun item => item.id = x.id) = none) := by
  cases op with
  | enqueue item =>
      obtain ⟨-, hnext⟩ := Option.ite_none_right_eq_some.mp hstep
      cases hnext
      exact .inl ⟨x, List.mem_append_left _ hx, rfl, rfl⟩
  | grant best now =>
      obtain ⟨hbest, hnext⟩ := Option.ite_none_right_eq_some.mp hstep
      cases hnext
      by_cases hid : x.id = best.id
      · obtain rfl := haged.eq_of_id hx (List.argmin_mem hbest) hid
        refine .inr ⟨decide_eq_false (lt_irrefl _), ?_⟩
        rw [List.find?_map]
        have hsame : (fun item : QueueItem => decide (item.id = x.id)) ∘ Gateway.overtake x =
            fun item => decide (item.id = x.id) := by
          funext item
          rw [Function.comp_apply, overtake_id]
        rw [hsame, find?_of_removed haged, Option.map_none]
      · refine .inl ⟨Gateway.overtake best x, ?_, overtake_id best x, ?_⟩
        · exact List.mem_map_of_mem (mem_removeItem_of_ne hx hid)
        · rw [overtake_passedOver]
          simp only [ListOp.jumps, decide_eq_true_eq]
  | drop id =>
      cases hstep
      by_cases hid : x.id = id
      · subst hid
        exact .inr ⟨rfl, find?_of_removed haged⟩
      · exact .inl ⟨x, mem_removeItem_of_ne hx hid, rfl, rfl⟩

theorem overtakes_of_find?_eq_none {id : Nat} {ops : List ListOp}
    (hnone : waiting.find? (fun item => item.id = id) = none) :
    overtakes cfg id waiting ops = 0 := by
  cases ops with
  | nil => rfl
  | cons op ops => rw [overtakes, hnone]

/-- **No starvation.** Without deadlines, an item is jumped at most as often as the limit says, from
its arrival until it leaves the list. -/
theorem overtakes_le (hgain : 0 ≤ cfg.agingGain) {ops : List ListOp} {final : List QueueItem}
    (hitems : ∀ item, .enqueue item ∈ ops → item.deadlineAt = item.enqueuedAt + cfg.timeoutS)
    (haged : Aged waiting) (hundated : Undated cfg waiting)
    (hrun : (listMachine cfg).run waiting ops = some final) (hx : x ∈ waiting) :
    ((x.passedOver + overtakes cfg x.id waiting ops : Nat) : Int) ≤ max 0 cfg.maxOvertakes := by
  induction ops generalizing waiting x with
  | nil => exact hundated.bound x hx
  | cons op ops ih =>
      obtain ⟨next, hstep, hrest⟩ := Machine.run_cons_eq_some_iff.mp hrun
      have hlater : ∀ item, .enqueue item ∈ ops →
          item.deadlineAt = item.enqueuedAt + cfg.timeoutS :=
        fun item hitem => hitems item (List.mem_cons_of_mem _ hitem)
      have hnow : ∀ item, op = .enqueue item →
          item.deadlineAt = item.enqueuedAt + cfg.timeoutS := by
        rintro item rfl
        exact hitems item List.mem_cons_self
      have hundated' := hundated.step hgain haged hnow hstep
      have hcount : overtakes cfg x.id waiting (op :: ops) =
          (if op.jumps x then 1 else 0) + overtakes cfg x.id next ops := by
        rw [overtakes, haged.find?_eq hx, show listStep cfg waiting op = some next from hstep]
      rw [hcount]
      rcases haged.item_step hx hstep with ⟨y, hy, hid, hpassed⟩ | ⟨hcalm, hgone⟩
      · have hle := ih hlater (haged.step hstep) hundated' hrest hy
        rw [hid, hpassed] at hle
        rw [← Nat.add_assoc]
        exact hle
      · rw [hcalm, overtakes_of_find?_eq_none hgone]
        exact hundated.bound x hx

end Overtaking

section Runs

variable {ops : List ListOp} {final : List QueueItem}

theorem Aged.run (haged : Aged waiting) (hrun : (listMachine cfg).run waiting ops = some final) :
    Aged final :=
  Machine.run_invariant (fun _ _ _ haged hstep => Aged.step haged hstep) haged hrun

theorem Aged.meets_fairGrant (hgain : 0 ≤ cfg.agingGain) (haged : Aged waiting)
    (hrun : (listMachine cfg).run waiting ops = some final) :
    (listMachine cfg).Meets (FairGrant cfg) waiting ops := by
  induction ops generalizing waiting with
  | nil => exact Machine.meets_nil
  | cons op ops ih =>
      obtain ⟨next, hstep, hrest⟩ := Machine.run_cons_eq_some_iff.mp hrun
      exact (Machine.meets_cons_of_step hstep).mpr
        ⟨haged.fairGrant hgain hstep, ih (haged.step hstep) hrest⟩

theorem Undated.run (hgain : 0 ≤ cfg.agingGain)
    (hitems : ∀ item, .enqueue item ∈ ops → item.deadlineAt = item.enqueuedAt + cfg.timeoutS)
    (haged : Aged waiting) (hundated : Undated cfg waiting)
    (hrun : (listMachine cfg).run waiting ops = some final) : Undated cfg final := by
  induction ops generalizing waiting with
  | nil => exact Option.some.inj hrun ▸ hundated
  | cons op ops ih =>
      obtain ⟨next, hstep, hrest⟩ := Machine.run_cons_eq_some_iff.mp hrun
      have hnow : ∀ item, op = .enqueue item →
          item.deadlineAt = item.enqueuedAt + cfg.timeoutS := by
        rintro item rfl
        exact hitems item List.mem_cons_self
      exact ih (fun item hitem => hitems item (List.mem_cons_of_mem _ hitem)) (haged.step hstep)
        (hundated.step hgain haged hnow hstep) hrest

end Runs

end AiAnalytics.Gateway
