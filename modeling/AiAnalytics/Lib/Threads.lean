import AiAnalytics.Lib.Interaction

/-!
# Programs that run beside others

A thread is a program of which others may act between two calls. What is left of it after some calls
is again a program. A property of the beginnings of its runs follows from its whole runs, and a
property of all its runs is handed on from call to call.

`Inert` is for a program that must stop when it is told to: as long as the replies are those of a
stopped world, none of its calls acts.
-/

namespace AiAnalytics.Lib

variable {Call : Type} {Reply : Call → Type} {σ ε α : Type}

namespace Interaction

section Reaches

inductive Reaches (p : Interaction Call Reply α) :
    List (Exchange Reply) → Interaction Call Reply α → Prop where
  | start : Reaches p [] p
  | call {log : List (Exchange Reply)} {c : Call} {next : Reply c → Interaction Call Reply α}
      (hreaches : Reaches p log (.call c next)) (r : Reply c) : Reaches p (log ++ [⟨c, r⟩]) (next r)

variable {p rest : Interaction Call Reply α} {log after : List (Exchange Reply)} {a : α}

theorem Reaches.runs (hreaches : p.Reaches log rest) (hrest : rest.Runs after a) :
    p.Runs (log ++ after) a := by
  induction hreaches generalizing after with
  | start => exact hrest
  | call _ r ih =>
      rw [List.append_assoc]
      exact ih (.call hrest)

theorem Reaches.beginning {P : List (Exchange Reply) → Prop} (answer : (c : Call) → Reply c)
    (hclosed : ∀ before after, P (before ++ after) → P before)
    (hruns : ∀ log a, p.Runs log a → P log)
    (hreaches : p.Reaches log rest) : P log := by
  have hrest := runs_play (fun _ => answer) 0 rest
  exact hclosed log _ (hruns _ _ (hreaches.runs hrest))

end Reaches

section Inert

variable {allowed acts : Exchange Reply → Prop}

def InertLog (allowed acts : Exchange Reply → Prop) (log : List (Exchange Reply)) : Prop :=
  (∀ x ∈ log, allowed x) → ∀ x ∈ log, ¬ acts x

def Inert (allowed acts : Exchange Reply → Prop) (p : Interaction Call Reply α) : Prop :=
  ∀ log a, p.Runs log a → InertLog allowed acts log

variable {c : Call} {next : Reply c → Interaction Call Reply α} {r : Reply c}

theorem Inert.call (hinert : (Interaction.call c next).Inert allowed acts)
    (hanswer : ∀ c, ∃ r : Reply c, allowed ⟨c, r⟩) (hreply : allowed ⟨c, r⟩) :
    ¬ acts ⟨c, r⟩ ∧ (next r).Inert allowed acts := by
  have hwhole : ∀ log a, (next r).Runs log a → (∀ x ∈ log, allowed x) →
      ¬ acts ⟨c, r⟩ ∧ ∀ x ∈ log, ¬ acts x := by
    intro log a hrun hallowed
    have hquiet :=
      hinert (⟨c, r⟩ :: log) a (.call hrun) (List.forall_mem_cons.mpr ⟨hreply, hallowed⟩)
    exact List.forall_mem_cons.mp hquiet
  constructor
  · choose answer hallowed using hanswer
    refine (hwhole _ _ (runs_play (fun _ => answer) 0 (next r)) fun x hx => ?_).1
    obtain ⟨_, c', rfl⟩ := exists_answer_of_mem_play hx
    exact hallowed c'
  · intro log a hrun hallowed
    exact (hwhole log a hrun hallowed).2

end Inert

end Interaction

namespace Prog

open Interaction

variable {m : Prog Call Reply σ ε α} {allowed acts : Exchange Reply → Prop}
  {P : List (Exchange Reply) → Prop}

theorem ensures_of_stable (hstable : ∀ history log, P history → P (history ++ log)) :
    Ensures (fun history _ => P history) m (fun _ history _ => P history) fun _ history _ =>
      P history := by
  intro history state hP log result final _
  cases result with
  | ok a => exact hstable history log hP
  | error e => exact hstable history log hP

def Refused (allowed : Exchange Reply → Prop) (history : List (Exchange Reply)) : Prop :=
  ∃ x ∈ history, ¬ allowed x

theorem refused_append (history log : List (Exchange Reply)) (h : Refused allowed history) :
    Refused allowed (history ++ log) := by
  obtain ⟨x, hx, hrefused⟩ := h
  exact ⟨x, List.mem_append_left log hx, hrefused⟩

theorem inertLog_of_refused {history : List (Exchange Reply)} (h : Refused allowed history) :
    InertLog allowed acts history := by
  obtain ⟨x, hx, hrefused⟩ := h
  exact fun hallowed => absurd (hallowed x hx) hrefused

theorem ensures_of_refused :
    Ensures (fun history _ => Refused allowed history) m
      (fun _ history _ => InertLog allowed acts history) fun _ history _ =>
      InertLog allowed acts history :=
  (ensures_of_stable refused_append).weaken (fun _ _ h => h) (fun _ _ _ h => inertLog_of_refused h)
    fun _ _ _ h => inertLog_of_refused h

theorem inertLog_snoc {history : List (Exchange Reply)} {x : Exchange Reply}
    (h : InertLog allowed acts history) (hx : ¬ acts x) :
    InertLog allowed acts (history ++ [x]) := by
  intro hallowed
  rw [List.forall_mem_append, List.forall_mem_singleton] at hallowed ⊢
  exact ⟨h hallowed.1, hx⟩

theorem inert_of_ensures
    (h : Ensures (fun history _ => InertLog allowed acts history) m
      (fun _ history _ => InertLog allowed acts history) fun _ history _ =>
      InertLog allowed acts history)
    (state : σ) : (m.run.run state).Inert allowed acts := by
  rintro log ⟨result, final⟩ hrun
  have hend := h [] state (fun _ => by simp) log result final hrun
  cases result with
  | ok a => exact hend
  | error e => exact hend

end Prog

end AiAnalytics.Lib
