import AiAnalytics.KvTransfer.Runtime
import Mathlib.Data.List.Nodup
import Mathlib.Tactic.Common

/-!
# Consumption is credited to the retrieval it is of

Every retrieval is in one place: not yet announced, announced, pending, taken by a boundary,
settled, or raised. A boundary takes the whole pending list at once, so what a confirmation settles
was appended after the boundary before it.
-/

namespace AiAnalytics.KvTransfer

open Lib

variable {Call Thread : Type}

section Log

def HopEntry.IsSwap : HopEntry Call → Prop
  | .swapped _ _ => True
  | _ => False

def HopEntry.isFinalOf [DecidableEq Call] (retrieval : Call) : HopEntry Call → Bool
  | .emitted _ retrieval' event => retrieval' = retrieval && event.event = .kvHop
  | _ => false

structure Proven (available : HopEvidence) : Prop where
  event : available.event = .kvHopAvailable
  tokens_pos : 0 < available.transferredTokens
  bytes_pos : 0 < available.transferredBytes

def RecordedIn (log : List (HopEntry Call)) (hop : PendingHop Call) : Prop :=
  ∃ before middle after,
    log = before ++ .emitted hop.retrieval hop.retrieval hop.available :: middle ++ .recorded
      hop.retrieval :: after ∧
    (∀ entry ∈ after, ¬ entry.IsSwap) ∧ Proven hop.available

/-- The retrieval was announced, appended, and then taken by the first boundary after that. A
boundary between the announcement and the append finds the retrieval still running. -/
def TakenIn (log : List (HopEntry Call)) (call : Call) (boundary : Boundary)
    (hop : PendingHop Call) : Prop :=
  ∃ before middle between after,
    log = before ++ .emitted hop.retrieval hop.retrieval hop.available :: middle ++
      .recorded hop.retrieval :: between ++ .swapped call boundary :: after ∧
    (∀ entry ∈ between, ¬ entry.IsSwap) ∧ Proven hop.available

variable {log : List (HopEntry Call)} {entry : HopEntry Call} {hop : PendingHop Call}
  {call retrieval : Call} {boundary : Boundary}

theorem RecordedIn.snoc (h : RecordedIn log hop) (hentry : ¬ entry.IsSwap) :
    RecordedIn (log ++ [entry]) hop := by
  obtain ⟨before, middle, after, rfl, hafter, hproven⟩ := h
  refine ⟨before, middle, after ++ [entry], by simp, ?_, hproven⟩
  exact List.forall_mem_append.mpr ⟨hafter, List.forall_mem_singleton.mpr hentry⟩

theorem RecordedIn.swap (h : RecordedIn log hop) (call : Call) (boundary : Boundary) :
    TakenIn (log ++ [.swapped call boundary]) call boundary hop := by
  obtain ⟨before, middle, after, rfl, hafter, hproven⟩ := h
  exact ⟨before, middle, after, [], by simp, hafter, hproven⟩

theorem TakenIn.snoc (h : TakenIn log call boundary hop) (entry : HopEntry Call) :
    TakenIn (log ++ [entry]) call boundary hop := by
  obtain ⟨before, middle, between, after, rfl, hbetween, hproven⟩ := h
  exact ⟨before, middle, between, after ++ [entry], by simp, hbetween, hproven⟩

theorem TakenIn.recorded_mem (h : TakenIn log call boundary hop) :
    .recorded hop.retrieval ∈ log := by
  obtain ⟨before, middle, between, after, rfl, -, -⟩ := h
  simp

end Log

section Places

inductive Place (Call : Type) where
  | unannounced | announced | pending | taken (call : Call) | settled | raised

def Place.Ended : Place Call → Prop
  | .settled | .raised => True
  | _ => False

def Place.Recorded : Place Call → Prop
  | .pending | .taken _ | .settled => True
  | _ => False

structure Located (place : Call → Place Call) (calls : Call → Option (CallStage Call Thread))
    (queue : List (PendingHop Call)) : Prop where
  unstarted : ∀ call, calls call = none → place call = .unannounced
  retrieving : ∀ call thread params identity expectedTokens started,
    calls call = some (.retrieving thread params identity expectedTokens started) →
      place call = .unannounced
  announced : ∀ call thread available transferDone,
    calls call = some (.announced thread available transferDone) → place call = .announced
  pending : ∀ hop ∈ queue, place hop.retrieval = .pending
  pending_nodup : (queue.map PendingHop.retrieval).Nodup
  taken : ∀ call boundary hops, calls call = some (.settling boundary hops) →
    ∀ hop ∈ hops, place hop.retrieval = .taken call
  taken_nodup : ∀ call boundary hops, calls call = some (.settling boundary hops) →
    (hops.map PendingHop.retrieval).Nodup
  settling : ∀ call boundary hops, calls call = some (.settling boundary hops) →
    place call = .unannounced

structure Logged [DecidableEq Call] (place : Call → Place Call) (log : List (HopEntry Call)) :
    Prop where
  finals_le : ∀ retrieval, log.countP (HopEntry.isFinalOf retrieval) ≤ 1
  finals_eq : ∀ retrieval, ¬ (place retrieval).Ended → log.countP (HopEntry.isFinalOf retrieval) = 0
  raised : ∀ retrieval, .raised retrieval ∈ log → place retrieval = .raised
  failed : ∀ retrieval event, .emitted retrieval retrieval event ∈ log → event.event = .kvHop →
    place retrieval = .raised
  recorded : ∀ retrieval, .recorded retrieval ∈ log → (place retrieval).Recorded

def Justified (before : List (HopEntry Call)) (call retrieval : Call) (event : HopEvidence) :
    Prop :=
  (call = retrieval ∧ event.consumed = false) ∨
    ∃ boundary hop, hop.retrieval = retrieval ∧ TakenIn before call boundary hop ∧
      event = boundary.settle hop.available hop.transferDone

def AllJustified (log : List (HopEntry Call)) : Prop :=
  ∀ before call retrieval event after, log = before ++ .emitted call retrieval event :: after →
    event.event = .kvHop → Justified before call retrieval event

structure Witnessed (calls : Call → Option (CallStage Call Thread)) (queue : List (PendingHop Call))
    (log : List (HopEntry Call)) : Prop where
  announced : ∀ call thread available transferDone,
    calls call = some (.announced thread available transferDone) →
      .emitted call call available ∈ log ∧ Proven available
  pending : ∀ hop ∈ queue, RecordedIn log hop
  taken : ∀ call boundary hops, calls call = some (.settling boundary hops) →
    ∀ hop ∈ hops, TakenIn log call boundary hop

structure HopInv [DecidableEq Call] (place : Call → Place Call) (state : HopState Call Thread) :
    Prop where
  located : Located place state.calls state.pending
  logged : Logged place state.log
  witnessed : Witnessed state.calls state.pending state.log
  justified : AllJustified state.log

end Places

section Growth

variable {place place' : Call → Place Call} {log : List (HopEntry Call)} {entry : HopEntry Call}
  {calls : Call → Option (CallStage Call Thread)} {queue : List (PendingHop Call)}

theorem Logged.snoc [DecidableEq Call] (h : Logged place log)
    (hfinal : ∀ retrieval, entry.isFinalOf retrieval = true → ¬ (place retrieval).Ended ∧
      (place' retrieval).Ended)
    (hended : ∀ retrieval, (place retrieval).Ended → (place' retrieval).Ended)
    (hraised : ∀ retrieval, place retrieval = .raised ∨ entry = .raised retrieval →
      place' retrieval = .raised)
    (hfailed : ∀ retrieval event, entry = .emitted retrieval retrieval event →
      event.event = .kvHop → place' retrieval = .raised)
    (hrecorded : ∀ retrieval, (place retrieval).Recorded ∨ entry = .recorded retrieval →
      (place' retrieval).Recorded) :
    Logged place' (log ++ [entry]) where
  finals_le retrieval := by
    rw [List.countP_append, List.countP_singleton]
    split_ifs with hentry
    · rw [h.finals_eq retrieval (hfinal retrieval hentry).1]
    · exact h.finals_le retrieval
  finals_eq retrieval hplace := by
    have hentry : ¬ entry.isFinalOf retrieval = true :=
      fun hentry => hplace (hfinal retrieval hentry).2
    rw [List.countP_append, List.countP_singleton, if_neg hentry]
    exact h.finals_eq retrieval fun hold => hplace (hended retrieval hold)
  raised retrieval hmem := by
    rcases List.mem_append.mp hmem with hmem | hmem
    · exact hraised retrieval (.inl (h.raised retrieval hmem))
    · exact hraised retrieval (.inr (List.mem_singleton.mp hmem).symm)
  failed retrieval event hmem hevent := by
    rcases List.mem_append.mp hmem with hmem | hmem
    · exact hraised retrieval (.inl (h.failed retrieval event hmem hevent))
    · exact hfailed retrieval event (List.mem_singleton.mp hmem).symm hevent
  recorded retrieval hmem := by
    rcases List.mem_append.mp hmem with hmem | hmem
    · exact hrecorded retrieval (.inl (h.recorded retrieval hmem))
    · exact hrecorded retrieval (.inr (List.mem_singleton.mp hmem).symm)

theorem Logged.snoc_update [DecidableEq Call] (h : Logged place log) {retrieval : Call}
    {new : Place Call}
    (hfinal : ∀ other, entry.isFinalOf other = true →
      other = retrieval ∧ ¬ (place retrieval).Ended ∧ new.Ended)
    (hended : (place retrieval).Ended → new.Ended)
    (hraised : place retrieval = .raised → new = .raised)
    (hrecorded : (place retrieval).Recorded → new.Recorded)
    (hraise : ∀ other, entry = .raised other → other = retrieval ∧ new = .raised)
    (hfailed : ∀ other event, entry = .emitted other other event → event.event = .kvHop →
      other = retrieval ∧ new = .raised)
    (hrecord : ∀ other, entry = .recorded other → other = retrieval ∧ new.Recorded) :
    Logged (Function.update place retrieval new) (log ++ [entry]) := by
  refine h.snoc ?_ ?_ ?_ ?_ ?_
  · intro other hentry
    obtain ⟨rfl, hold, hnew⟩ := hfinal other hentry
    rw [Function.update_self]
    exact ⟨hold, hnew⟩
  · intro other hold
    by_cases hother : other = retrieval
    · subst hother
      rw [Function.update_self]
      exact hended hold
    · rwa [Function.update_of_ne hother]
  · intro other hother
    rcases hother with hold | hentry
    · by_cases hother : other = retrieval
      · subst hother
        rw [Function.update_self]
        exact hraised hold
      · rwa [Function.update_of_ne hother]
    · obtain ⟨rfl, hnew⟩ := hraise other hentry
      rw [Function.update_self, hnew]
  · intro other event hentry hevent
    obtain ⟨rfl, hnew⟩ := hfailed other event hentry hevent
    rw [Function.update_self, hnew]
  · intro other hother
    rcases hother with hold | hentry
    · by_cases hother : other = retrieval
      · subst hother
        rw [Function.update_self]
        exact hrecorded hold
      · rwa [Function.update_of_ne hother]
    · obtain ⟨rfl, hnew⟩ := hrecord other hentry
      rwa [Function.update_self]

theorem AllJustified.snoc (h : AllJustified log)
    (hentry : ∀ call retrieval event, entry = .emitted call retrieval event → event.event = .kvHop →
      Justified log call retrieval event) : AllJustified (log ++ [entry]) := by
  intro before call retrieval event after hsplit hfinal
  rcases List.eq_nil_or_concat after with rfl | ⟨earlier, last, rfl⟩
  · obtain ⟨rfl, hlast⟩ := List.append_inj' hsplit rfl
    exact hentry call retrieval event (List.singleton_inj.mp hlast) hfinal
  · rw [List.concat_eq_append, ← List.cons_append, ← List.append_assoc] at hsplit
    obtain ⟨hlog, -⟩ := List.append_inj' hsplit rfl
    exact h before call retrieval event earlier hlog hfinal

theorem Witnessed.snoc (h : Witnessed calls queue log) (hentry : ¬ entry.IsSwap) :
    Witnessed calls queue (log ++ [entry]) where
  announced call thread available transferDone hcall := by
    obtain ⟨hmem, hproven⟩ := h.announced call thread available transferDone hcall
    exact ⟨List.mem_append_left _ hmem, hproven⟩
  pending hop hhop := (h.pending hop hhop).snoc hentry
  taken call boundary hops hcall hop hhop := (h.taken call boundary hops hcall hop hhop).snoc entry

theorem Witnessed.setCall [DecidableEq Call] (h : Witnessed calls queue log) (call : Call)
    {stage : CallStage Call Thread}
    (hannounced : ∀ thread available transferDone,
      stage = .announced thread available transferDone →
      .emitted call call available ∈ log ∧ Proven available)
    (htaken : ∀ boundary hops, stage = .settling boundary hops → ∀ hop ∈ hops,
      TakenIn log call boundary hop) :
    Witnessed (Function.update calls call (some stage)) queue log where
  announced other thread available transferDone hcall := by
    by_cases hother : other = call
    · subst hother
      rw [Function.update_self] at hcall
      exact hannounced thread available transferDone (Option.some.inj hcall)
    · rw [Function.update_of_ne hother] at hcall
      exact h.announced other thread available transferDone hcall
  pending := h.pending
  taken other boundary hops hcall := by
    by_cases hother : other = call
    · subst hother
      rw [Function.update_self] at hcall
      exact htaken boundary hops (Option.some.inj hcall)
    · rw [Function.update_of_ne hother] at hcall
      exact h.taken other boundary hops hcall

end Growth

section Moves

variable {place : Call → Place Call} {calls : Call → Option (CallStage Call Thread)}
  {queue : List (PendingHop Call)} {call : Call}

theorem Located.append (h : Located place calls queue) {hop : PendingHop Call}
    (hplace : place hop.retrieval = .pending)
    (hnew : hop.retrieval ∉ queue.map PendingHop.retrieval) :
    Located place calls (queue ++ [hop]) := by
  refine ⟨h.unstarted, h.retrieving, h.announced, ?_, ?_, h.taken, h.taken_nodup, h.settling⟩
  · exact List.forall_mem_append.mpr ⟨h.pending, List.forall_mem_singleton.mpr hplace⟩
  · rw [List.map_append, List.nodup_append]
    refine ⟨h.pending_nodup, List.nodup_singleton _, fun retrieval hmem other hother => ?_⟩
    rintro rfl
    exact hnew (List.mem_singleton.mp hother ▸ hmem)

variable [DecidableEq Call]

theorem calls_of_update {other : Call} {stage : CallStage Call Thread}
    {found : Option (CallStage Call Thread)}
    (h : Function.update calls call (some stage) other = found) (hne : some stage ≠ found) :
    calls other = found := by
  have hother : other ≠ call := by
    rintro rfl
    rw [Function.update_self] at h
    exact hne h
  rwa [Function.update_of_ne hother] at h

theorem Located.setCall (h : Located place calls queue) (new : Place Call)
    {stage : CallStage Call Thread} (hold : place call = .unannounced ∨ place call = .announced)
    (hretrieving : ∀ thread params identity expectedTokens started,
      stage = .retrieving thread params identity expectedTokens started → new = .unannounced)
    (hannounced : ∀ thread available transferDone,
      stage = .announced thread available transferDone → new = .announced)
    (htaken : ∀ boundary hops, stage ≠ .settling boundary hops) :
    Located (Function.update place call new) (Function.update calls call (some stage)) queue := by
  have hkept {other : Call} {found : Place Call} (hplace : place other = found)
      (hfound : found ≠ .unannounced) (hfound' : found ≠ .announced) :
      Function.update place call new other = found := by
    have hother : other ≠ call := by
      rintro rfl
      rcases hold with hold | hold
      · exact hfound (hplace.symm.trans hold)
      · exact hfound' (hplace.symm.trans hold)
    rw [Function.update_of_ne hother, hplace]
  have hsettling {other : Call} {boundary : Boundary} {hops : List (PendingHop Call)}
      (hcall : Function.update calls call (some stage) other = some (.settling boundary hops)) :
      other ≠ call ∧ calls other = some (.settling boundary hops) := by
    have hother : other ≠ call := by
      rintro rfl
      rw [Function.update_self] at hcall
      exact htaken boundary hops (Option.some.inj hcall)
    rw [Function.update_of_ne hother] at hcall
    exact ⟨hother, hcall⟩
  refine ⟨?_, ?_, ?_, ?_, h.pending_nodup, ?_, ?_, ?_⟩
  · intro other hcall
    by_cases hother : other = call
    · simp [hother] at hcall
    · rw [Function.update_of_ne hother] at hcall ⊢
      exact h.unstarted other hcall
  · intro other thread params identity expectedTokens started hcall
    by_cases hother : other = call
    · subst hother
      rw [Function.update_self] at hcall ⊢
      exact hretrieving thread params identity expectedTokens started (Option.some.inj hcall)
    · rw [Function.update_of_ne hother] at hcall ⊢
      exact h.retrieving other thread params identity expectedTokens started hcall
  · intro other thread available transferDone hcall
    by_cases hother : other = call
    · subst hother
      rw [Function.update_self] at hcall ⊢
      exact hannounced thread available transferDone (Option.some.inj hcall)
    · rw [Function.update_of_ne hother] at hcall ⊢
      exact h.announced other thread available transferDone hcall
  · exact fun hop hhop => hkept (h.pending hop hhop) nofun nofun
  · intro other boundary hops hcall hop hhop
    exact hkept (h.taken other boundary hops (hsettling hcall).2 hop hhop) nofun nofun
  · intro other boundary hops hcall
    exact h.taken_nodup other boundary hops (hsettling hcall).2
  · intro other boundary hops hcall
    obtain ⟨hother, hold⟩ := hsettling hcall
    rw [Function.update_of_ne hother]
    exact h.settling other boundary hops hold

def Place.swap (call : Call) : Place Call → Place Call
  | .pending => .taken call
  | place => place

theorem Located.swap (h : Located place calls queue) (hcall : calls call = none)
    (boundary : Boundary) : Located (fun retrieval => (place retrieval).swap call)
      (Function.update calls call (some (.settling boundary queue))) [] := by
  refine ⟨?_, ?_, ?_, by simp, List.nodup_nil, ?_, ?_, ?_⟩
  · intro other hother
    simp only [h.unstarted other (calls_of_update hother nofun), Place.swap]
  · intro other thread params identity expectedTokens started hother
    have hcalls := calls_of_update hother (by simp)
    simp only [h.retrieving other thread params identity expectedTokens started hcalls, Place.swap]
  · intro other thread available transferDone hother
    have hcalls := calls_of_update hother (by simp)
    simp only [h.announced other thread available transferDone hcalls, Place.swap]
  · intro other boundary' hops hother hop hhop
    by_cases hne : other = call
    · subst hne
      rw [Function.update_self, Option.some_inj, CallStage.settling.injEq] at hother
      obtain ⟨-, rfl⟩ := hother
      simp only [h.pending hop hhop, Place.swap]
    · rw [Function.update_of_ne hne] at hother
      simp only [h.taken other boundary' hops hother hop hhop, Place.swap]
  · intro other boundary' hops hother
    by_cases hne : other = call
    · subst hne
      rw [Function.update_self, Option.some_inj, CallStage.settling.injEq] at hother
      obtain ⟨-, rfl⟩ := hother
      exact h.pending_nodup
    · rw [Function.update_of_ne hne] at hother
      exact h.taken_nodup other boundary' hops hother
  · intro other boundary' hops hother
    by_cases hne : other = call
    · simp only [hne, h.unstarted call hcall, Place.swap]
    · rw [Function.update_of_ne hne] at hother
      simp only [h.settling other boundary' hops hother, Place.swap]

theorem Located.settle (h : Located place calls queue) {boundary : Boundary} {hop : PendingHop Call}
    {hops : List (PendingHop Call)} (hcall : calls call = some (.settling boundary (hop :: hops))) :
    Located (Function.update place hop.retrieval .settled)
      (Function.update calls call (some (.settling boundary hops))) queue := by
  have htaken : place hop.retrieval = .taken call :=
    h.taken call boundary _ hcall hop List.mem_cons_self
  have hnodup := h.taken_nodup call boundary _ hcall
  rw [List.map_cons, List.nodup_cons] at hnodup
  have hkept {other : Call} {found : Place Call} (hplace : place other = found)
      (hfound : found ≠ .taken call) :
      Function.update place hop.retrieval .settled other = found := by
    have hother : other ≠ hop.retrieval := by
      rintro rfl
      exact hfound (hplace.symm.trans htaken)
    rw [Function.update_of_ne hother, hplace]
  refine ⟨?_, ?_, ?_, ?_, h.pending_nodup, ?_, ?_, ?_⟩
  · intro other hother
    exact hkept (h.unstarted other (calls_of_update hother nofun)) nofun
  · intro other thread params identity expectedTokens started hother
    have hcalls := calls_of_update hother (by simp)
    exact hkept (h.retrieving other thread params identity expectedTokens started hcalls) nofun
  · intro other thread available transferDone hother
    have hcalls := calls_of_update hother (by simp)
    exact hkept (h.announced other thread available transferDone hcalls) nofun
  · exact fun other hother => hkept (h.pending other hother) nofun
  · intro other boundary' hops' hother other' hother'
    by_cases hne : other = call
    · subst hne
      rw [Function.update_self, Option.some_inj, CallStage.settling.injEq] at hother
      obtain ⟨-, rfl⟩ := hother
      have hdistinct : other'.retrieval ≠ hop.retrieval := by
        intro hsame
        exact hnodup.1 (hsame ▸ List.mem_map_of_mem hother')
      rw [Function.update_of_ne hdistinct]
      exact h.taken other boundary _ hcall other' (List.mem_cons_of_mem _ hother')
    · rw [Function.update_of_ne hne] at hother
      refine hkept (h.taken other boundary' hops' hother other' hother') fun hsame => hne ?_
      injection hsame
  · intro other boundary' hops' hother
    by_cases hne : other = call
    · subst hne
      rw [Function.update_self, Option.some_inj, CallStage.settling.injEq] at hother
      obtain ⟨-, rfl⟩ := hother
      exact hnodup.2
    · rw [Function.update_of_ne hne] at hother
      exact h.taken_nodup other boundary' hops' hother
  · intro other boundary' hops' hother
    by_cases hne : other = call
    · subst hne
      exact hkept (h.settling other boundary _ hcall) nofun
    · rw [Function.update_of_ne hne] at hother
      exact hkept (h.settling other boundary' hops' hother) nofun

end Moves

section Steps

variable [DecidableEq Call] {place : Call → Place Call} {state : HopState Call Thread} {call : Call}

theorem isFinalOf_emitted {call retrieval other : Call} {event : HopEvidence} :
    (HopEntry.emitted call retrieval event).isFinalOf other = true ↔ retrieval = other ∧
      event.event = .kvHop := by
  simp [HopEntry.isFinalOf]

theorem logged_abort {log : List (HopEntry Call)} (h : Logged place log)
    (hplace : place call = .unannounced) (evidence : Option HopEvidence) :
    Logged (Function.update place call .raised)
      (log ++ (evidence.map (.emitted call call)).toList ++ [.raised call]) := by
  have hended : ¬ (place call).Ended := by
    rw [hplace]
    exact id
  have hrecorded : ¬ (place call).Recorded := by
    rw [hplace]
    exact id
  cases evidence with
  | none =>
      rw [Option.map_none, Option.toList_none, List.append_nil]
      refine h.snoc_update (fun _ hfinal => nomatch hfinal) (fun _ => trivial) (fun _ => rfl)
        (fun hold => absurd hold hrecorded) ?_ (fun _ _ hentry => nomatch hentry)
          (fun _ hentry => nomatch hentry)
      rintro other hentry
      cases hentry
      exact ⟨rfl, rfl⟩
  | some event =>
      have hemitted : Logged (Function.update place call .raised)
          (log ++ [.emitted call call event]) := by
        refine h.snoc_update (fun other hfinal => ?_) (fun _ => trivial) (fun _ => rfl)
          (fun hold => absurd hold hrecorded) (fun _ hentry => nomatch hentry) ?_
            (fun _ hentry => nomatch hentry)
        · exact ⟨(isFinalOf_emitted.mp hfinal).1.symm, hended, trivial⟩
        · rintro other event' hentry -
          cases hentry
          exact ⟨rfl, rfl⟩
      refine hemitted.snoc (fun _ hfinal => nomatch hfinal)
        (fun _ => id) ?_ (fun _ _ hentry => nomatch hentry) ?_
      · rintro other (hold | hentry)
        · exact hold
        · cases hentry
          exact Function.update_self _ _ _
      · rintro other (hold | hentry)
        · exact hold
        · cases hentry

theorem HopInv.abort [DecidableEq Thread] (h : HopInv place state)
    (hplace : place call = .unannounced) (thread : Thread) {evidence : Option HopEvidence}
    (hevidence : ∀ event ∈ evidence, event.consumed = false) :
    HopInv (Function.update place call .raised) (state.abort call thread evidence) := by
  refine ⟨?_, logged_abort h.logged hplace evidence, ?_, ?_⟩
  · exact h.located.setCall _ (.inl hplace) (fun _ _ _ _ _ hstage => nomatch hstage)
      (fun _ _ _ hstage => nomatch hstage) fun _ _ hstage => nomatch hstage
  · have hemitted : Witnessed state.calls state.pending
        (state.log ++ (evidence.map (HopEntry.emitted call call)).toList) := by
      cases evidence with
      | none => simpa using h.witnessed
      | some event => exact h.witnessed.snoc id
    exact (hemitted.snoc id).setCall call (fun _ _ _ hstage => nomatch hstage) fun _ _ hstage =>
      nomatch hstage
  · have hemitted :
        AllJustified (state.log ++ (evidence.map (HopEntry.emitted call call)).toList) := by
      cases evidence with
      | none => simpa using h.justified
      | some event =>
          refine h.justified.snoc fun call' retrieval event' hentry _ => ?_
          cases hentry
          exact .inl ⟨rfl, hevidence event rfl⟩
    exact hemitted.snoc fun _ _ _ hentry => nomatch hentry

theorem HopInv.refuse (h : HopInv place state) (hplace : place call = .unannounced) :
    HopInv (Function.update place call .raised)
      { state.setCall call .finished with log := state.log ++ [.raised call] } := by
  refine ⟨?_, ?_, ?_, h.justified.snoc fun _ _ _ hentry => nomatch hentry⟩
  · exact h.located.setCall _ (.inl hplace) (fun _ _ _ _ _ hstage => nomatch hstage)
      (fun _ _ _ hstage => nomatch hstage) fun _ _ hstage => nomatch hstage
  · simpa using logged_abort h.logged hplace none
  · exact (h.witnessed.snoc id).setCall call (fun _ _ _ hstage => nomatch hstage) fun _ _ hstage =>
      nomatch hstage

theorem HopInv.begin (h : HopInv place state) (hplace : place call = .unannounced) (thread : Thread)
    (params : HopParams) (identity : PrefixIdentity) (expectedTokens : Int) (started : ℚ)
    (bytes : Thread → Int) :
    HopInv place
      { state.setCall call (.retrieving thread params identity expectedTokens started) with
        transferredBytes := bytes } := by
  have hsame : Function.update place call .unannounced = place := by
    rw [← hplace, Function.update_eq_self]
  refine ⟨?_, h.logged, ?_, h.justified⟩
  · have hlocated : Located (Function.update place call .unannounced)
        (Function.update state.calls call
        (some (.retrieving thread params identity expectedTokens started))) state.pending :=
      h.located.setCall _ (.inl hplace) (fun _ _ _ _ _ _ => rfl)
        (fun _ _ _ hstage => nomatch hstage)
        fun _ _ hstage => nomatch hstage
    exact hsame ▸ hlocated
  · exact h.witnessed.setCall call (fun _ _ _ hstage => nomatch hstage) fun _ _ hstage =>
      nomatch hstage

theorem HopInv.announce (h : HopInv place state) (hplace : place call = .unannounced)
    (thread : Thread) {available : HopEvidence} (hproven : Proven available) (transferDone : ℚ) :
    HopInv (Function.update place call .announced)
      { state.setCall call (.announced thread available transferDone) with
        log := state.log ++ [.emitted call call available] } where
  located := h.located.setCall _ (.inl hplace) (fun _ _ _ _ _ hstage => nomatch hstage)
    (fun _ _ _ _ => rfl)
    fun _ _ hstage => nomatch hstage
  logged := by
    refine h.logged.snoc_update (fun other hfinal => ?_) ?_ ?_ ?_ (fun _ hentry => nomatch hentry)
      ?_ (fun _ hentry => nomatch hentry)
    · have hname := (isFinalOf_emitted.mp hfinal).2
      rw [hproven.event] at hname
      cases hname
    · rw [hplace]
      exact id
    · rw [hplace]
      nofun
    · rw [hplace]
      exact id
    · rintro other event hentry hevent
      cases hentry
      rw [hproven.event] at hevent
      cases hevent
  witnessed := by
    have hgrown : Witnessed state.calls state.pending
        (state.log ++ [.emitted call call available]) :=
      h.witnessed.snoc id
    refine hgrown.setCall call ?_ fun _ _ hstage => nomatch hstage
    intro thread' available' transferDone' hstage
    cases hstage
    exact ⟨List.mem_append_right _ (List.mem_singleton_self _), hproven⟩
  justified := by
    refine h.justified.snoc fun call' retrieval event hentry hfinal => ?_
    cases hentry
    rw [hproven.event] at hfinal
    cases hfinal

theorem HopInv.record (h : HopInv place state) {thread : Thread} {available : HopEvidence}
    {transferDone : ℚ} (hcall : state.calls call = some (.announced thread available transferDone))
    (bytes : Thread → Int) :
    HopInv (Function.update place call .pending)
      { state.setCall call .finished with
        pending := state.pending ++ [⟨call, available, transferDone⟩]
        transferredBytes := bytes
        log := state.log ++ [.recorded call] } := by
  have hplace : place call = .announced :=
    h.located.announced call thread available transferDone hcall
  obtain ⟨hmem, hproven⟩ := h.witnessed.announced call thread available transferDone hcall
  refine ⟨?_, ?_, ?_, h.justified.snoc fun _ _ _ hentry => nomatch hentry⟩
  · have hfinished : Located (Function.update place call .pending)
        (Function.update state.calls call (some .finished)) state.pending :=
      h.located.setCall _ (.inr hplace) (fun _ _ _ _ _ hstage => nomatch hstage)
        (fun _ _ _ hstage => nomatch hstage)
        fun _ _ hstage => nomatch hstage
    refine hfinished.append (Function.update_self _ _ _) fun hold => ?_
    obtain ⟨hop, hhop, rfl⟩ := List.mem_map.mp hold
    rw [h.located.pending hop hhop] at hplace
    cases hplace
  · refine h.logged.snoc_update (fun _ hfinal => nomatch hfinal) ?_ ?_ (fun _ => trivial)
      (fun _ hentry => nomatch hentry) (fun _ _ hentry => nomatch hentry) ?_
    · rw [hplace]
      exact id
    · rw [hplace]
      nofun
    · rintro other hentry
      cases hentry
      exact ⟨rfl, trivial⟩
  · have hlogged : Witnessed state.calls state.pending (state.log ++ [.recorded call]) :=
      h.witnessed.snoc id
    have hgrown : Witnessed (Function.update state.calls call (some .finished)) state.pending
        (state.log ++ [.recorded call]) :=
      hlogged.setCall call (fun _ _ _ hstage => nomatch hstage) fun _ _ hstage => nomatch hstage
    refine ⟨hgrown.announced, ?_, hgrown.taken⟩
    refine List.forall_mem_append.mpr ⟨hgrown.pending, List.forall_mem_singleton.mpr ?_⟩
    obtain ⟨before, middle, hlog⟩ := List.append_of_mem hmem
    exact ⟨before, middle, [], by simp [hlog], by simp, hproven⟩

theorem HopInv.swap (h : HopInv place state) (hcall : state.calls call = none)
    (boundary : Boundary) :
    HopInv (fun retrieval => (place retrieval).swap call) (state.swap call boundary) where
  located := h.located.swap hcall boundary
  logged := by
    refine h.logged.snoc (fun _ hfinal => nomatch hfinal) ?_ ?_ (fun _ _ hentry => nomatch hentry)
      ?_
    · intro retrieval hold
      cases hplace : place retrieval <;> simp_all [Place.swap, Place.Ended]
    · rintro retrieval (hold | hentry)
      · simp [hold, Place.swap]
      · cases hentry
    · rintro retrieval (hold | hentry)
      · cases hplace : place retrieval <;> simp_all [Place.swap, Place.Recorded]
      · cases hentry
  witnessed := by
    have hcalls {other : Call} {stage : CallStage Call Thread} (hother : other ≠ call)
        (hstage : Function.update state.calls call (some (.settling boundary state.pending)) other =
          some stage) :
        state.calls other = some stage := by rwa [Function.update_of_ne hother] at hstage
    refine ⟨?_, by simp [HopState.swap], ?_⟩
    · intro other thread available transferDone hother
      obtain ⟨hmem, hproven⟩ :=
        h.witnessed.announced other thread available transferDone (calls_of_update hother (by simp))
      exact ⟨List.mem_append_left _ hmem, hproven⟩
    · intro other boundary' hops hother hop hhop
      by_cases hne : other = call
      · subst hne
        simp only [HopState.swap, Function.update_self, Option.some_inj,
          CallStage.settling.injEq] at hother
        obtain ⟨rfl, rfl⟩ := hother
        exact (h.witnessed.pending hop hhop).swap other boundary
      · exact (h.witnessed.taken other boundary' hops (hcalls hne hother) hop hhop).snoc _
  justified := h.justified.snoc fun _ _ _ hentry => nomatch hentry

theorem HopInv.settle (h : HopInv place state) {boundary : Boundary} {hop : PendingHop Call}
    {hops : List (PendingHop Call)}
    (hcall : state.calls call = some (.settling boundary (hop :: hops))) :
    HopInv (Function.update place hop.retrieval .settled)
      { state.setCall call (.settling boundary hops) with
        log :=
  state.log ++ [.emitted call hop.retrieval (boundary.settle hop.available hop.transferDone)]
  } := by
  have hplace := h.located.taken call boundary _ hcall hop List.mem_cons_self
  have htaken := h.witnessed.taken call boundary _ hcall
  refine ⟨h.located.settle hcall, ?_, ?_, ?_⟩
  · refine h.logged.snoc_update (fun other hfinal => ?_) (fun _ => trivial) ?_ (fun _ => trivial)
      (fun _ hentry => nomatch hentry) ?_ (fun _ hentry => nomatch hentry)
    · rw [hplace]
      exact ⟨(isFinalOf_emitted.mp hfinal).1.symm, id, trivial⟩
    · rw [hplace]
      nofun
    · -- A boundary is no retrieval, so it does not settle itself.
      rintro other event hentry -
      cases hentry
      rw [h.located.settling _ boundary _ hcall] at hplace
      cases hplace
  · have hgrown : Witnessed state.calls state.pending
        (state.log ++ [.emitted call hop.retrieval
          (boundary.settle hop.available hop.transferDone)]) :=
      h.witnessed.snoc id
    refine hgrown.setCall call (fun _ _ _ hstage => nomatch hstage) ?_
    intro boundary' hops' hstage other hother
    cases hstage
    exact (htaken other (List.mem_cons_of_mem _ hother)).snoc _
  · refine h.justified.snoc fun call' retrieval event hentry _ => ?_
    cases hentry
    exact .inr ⟨boundary, hop, rfl, htaken hop List.mem_cons_self, rfl⟩

theorem hopInv_start : HopInv (fun _ => .unannounced) (HopState.start : HopState Call Thread) where
  located := by constructor <;> simp [HopState.start]
  logged := by constructor <;> simp [HopState.start]
  witnessed := by constructor <;> simp [HopState.start]
  justified := by
    intro before call retrieval event after hsplit
    simp [HopState.start] at hsplit

variable [DecidableEq Thread] {config : HopConfig} {next : HopState Call Thread}
  {label : HopLabel Call Thread}

theorem hopInv_afterRetrieve (h : HopInv place state) (hplace : place call = .unannounced)
    (thread : Thread) (params : HopParams) (identity : PrefixIdentity) (expectedTokens : Int)
    (started : ℚ) (retrievedTokens : Int)
    (transferDone availableAt : ℚ) :
    ∃ place', HopInv place' (afterRetrieve config state call thread params identity expectedTokens
      started retrievedTokens transferDone availableAt) := by
  unfold afterRetrieve
  by_cases hpartial : retrievedTokens ≠ expectedTokens
  · simp only [if_pos hpartial]
    exact ⟨_, h.abort hplace thread (by simp [retrievalEvidence])⟩
  · simp only [if_neg hpartial]
    by_cases hempty : retrievedTokens ≤ 0 ∨ state.transferredBytes thread ≤ 0
    · simp only [if_pos hempty]
      exact ⟨_, h.abort hplace thread (by simp [retrievalEvidence])⟩
    · simp only [if_neg hempty]
      rw [not_or, not_le, not_le] at hempty
      exact ⟨_, h.announce hplace thread ⟨rfl, hempty.1, hempty.2⟩ transferDone⟩

theorem HopInv.step (h : HopInv place state)
    (hstep : (hopMachine config).step state label = some next) : ∃ place', HopInv place' next := by
  cases label with
  | retrieve call thread params expectedTokens started =>
      simp only [hopMachine] at hstep
      split at hstep
      · cases hstep
      rename_i hcall
      have hplace := h.located.unstarted call hcall
      split at hstep
      · obtain rfl := Option.some.inj hstep
        exact ⟨_, h.refuse hplace⟩
      · obtain rfl := Option.some.inj hstep
        exact ⟨_, h.begin hplace _ _ _ _ _ _⟩
  | processTokens call transferredBytes =>
      simp only [hopMachine] at hstep
      split at hstep
      · split_ifs at hstep
        obtain rfl := Option.some.inj hstep
        exact ⟨place, h.located, h.logged, h.witnessed, h.justified⟩
      · cases hstep
  | retrieved call retrievedTokens transferDone availableAt =>
      simp only [hopMachine] at hstep
      split at hstep
      · rename_i thread params identity expectedTokens started hcall
        obtain rfl := Option.some.inj hstep
        exact hopInv_afterRetrieve h (h.located.retrieving call _ _ _ _ _ hcall) _ _ _ _ _ _ _ _
      · cases hstep
  | raise call errorType at_ =>
      simp only [hopMachine] at hstep
      split at hstep
      · rename_i thread params identity expectedTokens started hcall
        obtain rfl := Option.some.inj hstep
        refine ⟨_, h.abort (h.located.retrieving call _ _ _ _ _ hcall) thread ?_⟩
        simp [retrievalEvidence]
      · cases hstep
  | record call =>
      simp only [hopMachine] at hstep
      split at hstep
      · rename_i hcall
        obtain rfl := Option.some.inj hstep
        exact ⟨_, h.record hcall _⟩
      · cases hstep
  | confirmForwardConsumption call confirmedAt =>
      simp only [hopMachine] at hstep
      split at hstep
      · cases hstep
      · rename_i hcall
        obtain rfl := Option.some.inj hstep
        exact ⟨_, h.swap hcall _⟩
  | failForward call reason =>
      simp only [hopMachine] at hstep
      split at hstep
      · cases hstep
      · rename_i hcall
        obtain rfl := Option.some.inj hstep
        exact ⟨_, h.swap hcall _⟩
  | settle call =>
      simp only [hopMachine] at hstep
      split at hstep
      · rename_i hcall
        obtain rfl := Option.some.inj hstep
        exact ⟨_, h.settle hcall⟩
      · cases hstep

def Placed (state : HopState Call Thread) : Prop := ∃ place, HopInv place state

theorem placed_run {labels : List (HopLabel Call Thread)}
    (hrun : (hopMachine config).run .start labels = some state) : Placed state := by
  refine Machine.run_invariant (fun _ _ _ hinv hstep => ?_)
    (show Placed HopState.start from ⟨_, hopInv_start⟩) hrun
  obtain ⟨_, h⟩ := hinv
  exact h.step hstep

end Steps

section Attribution

variable [DecidableEq Call] [DecidableEq Thread]

/-- The final event about the retrieval is what a boundary makes of it, having taken it off the
pending list. -/
def SettledBy (before : List (HopEntry Call)) (call retrieval : Call) (event : HopEvidence)
    (boundary : Boundary) : Prop :=
  ∃ hop, hop.retrieval = retrieval ∧ TakenIn before call boundary hop ∧
    event = boundary.settle hop.available hop.transferDone

/-- No retrieval has two final events. One that was appended is settled by the boundary that took
it, and one that is said to be consumed was taken by a confirmation, has bytes and tokens, and has
not raised. -/
theorem consumption_attributed (config : HopConfig) (labels : List (HopLabel Call Thread))
    (state : HopState Call Thread) (hrun : (hopMachine config).run .start labels = some state) :
    (∀ retrieval, state.log.countP (HopEntry.isFinalOf retrieval) ≤ 1) ∧
    ∀ before call retrieval event after, state.log = before ++ .emitted call retrieval
      event :: after → event.event = .kvHop →
      (.recorded retrieval ∈ state.log → ∃ boundary,
      SettledBy before call retrieval event boundary) ∧
      (event.consumed = true →
        (∃ confirmedAt, SettledBy before call retrieval event (.confirmed confirmedAt)) ∧
        0 < event.transferredTokens ∧ 0 < event.transferredBytes ∧
        event.destinationReusedTokens = event.transferredTokens ∧
        .raised retrieval ∉ state.log) := by
  obtain ⟨place, hinv⟩ := placed_run hrun
  refine ⟨hinv.logged.finals_le, fun before call retrieval event after hsplit hfinal =>
    ⟨fun hrecorded => ?_, ?_⟩⟩
  · rcases hinv.justified before call retrieval event after hsplit hfinal with ⟨rfl, -⟩
      | ⟨boundary, hop, hsettled⟩
    · have hmem : .emitted call call event ∈ state.log := by
        rw [hsplit]
        exact List.mem_append_right _ List.mem_cons_self
      have hplace := hinv.logged.recorded call hrecorded
      rw [hinv.logged.failed call event hmem hfinal] at hplace
      cases hplace
    · exact ⟨boundary, hop, hsettled⟩
  · intro hconsumed
    rcases hinv.justified before call retrieval event after hsplit hfinal with
      ⟨-, hnot⟩ | ⟨boundary, hop, rfl, htaken, rfl⟩
    · rw [hnot] at hconsumed
      cases hconsumed
    · have hrecorded : .recorded hop.retrieval ∈ state.log := by
        rw [hsplit]
        exact List.mem_append_left _ htaken.recorded_mem
      have hraised : .raised hop.retrieval ∉ state.log := by
        intro hraised
        have hplace := hinv.logged.recorded _ hrecorded
        rw [hinv.logged.raised _ hraised] at hplace
        cases hplace
      obtain ⟨before', middle, between, after', hlog, hbetween, hproven⟩ := htaken
      cases boundary with
      | discarded reason => cases hconsumed
      | confirmed confirmedAt =>
          exact ⟨⟨confirmedAt, hop, rfl,
            ⟨before', middle, between, after', hlog, hbetween, hproven⟩, rfl⟩,
            hproven.tokens_pos, hproven.bytes_pos, rfl, hraised⟩

def workerConfig : HopConfig where
  compatibilityNamespace := "kv-compat-v1:sha256:" ++ String.ofList (List.replicate 64 'b')
  destinationWorker := "worker_b"
  sourceWorkerOrStore := "mooncake_store"

def retrievalParams : HopParams where
  compatibilityTag := some workerConfig.compatibilityNamespace
  hopNamespace := some workerConfig.compatibilityNamespace
  prefixIdentity := some ("sha256:" ++ String.ofList (List.replicate 64 'a'))
  prefixVersion := some identityVersion
  requestId := some "req-7"
  conversationId := none
  agentStep := none
  sourceWorkerOrStore := none
  reason := some "remote_prefix_candidate"
  reusableTokens := 4
  lookupMs := 0

def confirmedRun : List (HopLabel Nat Unit) :=
  [beginForward 0, .retrieve 1 () retrievalParams 4 20, .processTokens 1 4096, .retrieved 1 4 21 22,
    .record 1, .confirmForwardConsumption 2 30, .settle 2]

def HopEntry.isConsumption : HopEntry Call → Bool
  | .emitted _ _ event => event.event = .kvHop && event.consumed
  | _ => false

def repeatedDigest (digit : Char) (h : digit ∈ hexDigits) : Digest :=
  ⟨List.replicate 64 digit, List.length_replicate, List.all_eq_true.mpr fun _ hc =>
    decide_eq_true (List.eq_of_mem_replicate hc ▸ h)⟩

theorem validateRuntimeIdentity_retrievalParams :
    ∃ identity, validateRuntimeIdentity workerConfig retrievalParams = .ok identity := by
  have hvalue : isSha256 ("sha256:" ++ String.ofList (List.replicate 64 'a')) "sha256:" = true :=
    isSha256_append "sha256:" (repeatedDigest 'a' (by decide))
  have hnamespace : isSha256 workerConfig.compatibilityNamespace compatibilityPrefix = true := by
    have hstart : compatibilityPrefix = "kv-compat-v1:sha256:" := by decide
    rw [hstart]
    exact isSha256_append "kv-compat-v1:sha256:" (repeatedDigest 'b' (by decide))
  have hstart : "sha256:".toList.isPrefixOf
      ("sha256:" ++ String.ofList (List.replicate 64 'a')).toList = true := by
    rw [String.toList_append]
    exact List.isPrefixOf_iff_prefix.mpr (List.prefix_append _ _)
  simp only [validateRuntimeIdentity, retrievalParams, ne_eq, not_true_eq_false, if_false]
  rw [if_neg (not_not.mpr hstart), PrefixIdentity.postInit, dif_pos hvalue, dif_pos hnamespace,
    dif_pos (by decide), dif_pos rfl]
  exact ⟨_, rfl⟩

theorem step_retrieve {config : HopConfig} {params : HopParams} {identity : PrefixIdentity}
    (hidentity : validateRuntimeIdentity config params = .ok identity) (state : HopState Nat Unit)
    (hnew : state.calls 1 = none) :
    (hopMachine config).step state (.retrieve 1 () params 4 20) =
      some { state.setCall 1 (.retrieving () params identity 4 20) with
        transferredBytes := Function.update state.transferredBytes () 0 } := by
  simp only [hopMachine, hnew, hidentity]

theorem run_cons_of_step {state next final : HopState Nat Unit} {label : HopLabel Nat Unit}
    {rest : List (HopLabel Nat Unit)}
    (hstep : (hopMachine workerConfig).step state label = some next)
    (hrest : (hopMachine workerConfig).run next rest = some final) :
    (hopMachine workerConfig).run state (label :: rest) = some final :=
  Machine.run_cons_eq_some_iff.mpr ⟨next, hstep, hrest⟩

theorem run_confirmedRun {identity : PrefixIdentity}
    (hidentity : validateRuntimeIdentity workerConfig retrievalParams = .ok identity) :
    ∃ state : HopState Nat Unit, (hopMachine workerConfig).run .start confirmedRun = some state ∧
      state.log.countP HopEntry.isConsumption = 1 := by
  exact ⟨_, run_cons_of_step rfl
    (run_cons_of_step (step_retrieve hidentity _ rfl) (run_cons_of_step rfl
    (run_cons_of_step rfl (run_cons_of_step rfl
      (run_cons_of_step rfl (run_cons_of_step rfl rfl)))))), rfl⟩

theorem consumption_attributed_example :
    ∃ state : HopState Nat Unit, (hopMachine workerConfig).run .start confirmedRun = some state ∧
      state.log.countP HopEntry.isConsumption = 1 ∧
      state.log.countP (HopEntry.isFinalOf 1) ≤ 1 := by
  obtain ⟨identity, hidentity⟩ := validateRuntimeIdentity_retrievalParams
  obtain ⟨state, hrun, hcount⟩ := run_confirmedRun hidentity
  exact ⟨state, hrun, hcount, (consumption_attributed workerConfig confirmedRun state hrun).1 1⟩

end Attribution

end AiAnalytics.KvTransfer
