import AiAnalytics.Gateway.Dispatching
import AiAnalytics.Gateway.Proof.Placeability

/-!
# Occupied slots as an upper bound

A dispatch is counted by its time until a scrape is taken a grace window after it; from then on the
scrape itself has to have it.
-/

namespace AiAnalytics.Gateway

variable {Float : Type} {ops : FloatOps Float} {counted : CountedSnapshot Float}
  {events before after : List (SnapshotEvent Float)}

section History

attribute [local simp] dispatches unfinished

def issued (id : Int) (events : List (SnapshotEvent Float)) : Int :=
  id + (dispatches id events).length

theorem finishes_append (before after : List (SnapshotEvent Float)) (token : Int) :
    finishes (before ++ after) token = (finishes before token || finishes after token) :=
  List.any_append

theorem unfinished_append (id : Int) (before after : List (SnapshotEvent Float)) :
    unfinished id (before ++ after) =
      (unfinished id before).filter (fun dispatch => !finishes after dispatch.1) ++
        unfinished (issued id before) after := by
  induction before generalizing id with
  | nil => simp [unfinished, dispatches, issued]
  | cons event before ih =>
      cases event with
      | noteDispatch now =>
          have hid : issued (id + 1) before = issued id (.noteDispatch now :: before) := by
            simp only [issued, dispatches, List.length_cons]
            omega
          simp only [List.cons_append, unfinished, finishes_append, ih, hid]
          by_cases hbefore : finishes before (id + 1) = true
          · simp [hbefore]
          · by_cases hafter : finishes after (id + 1) = true <;> simp [hbefore, hafter]
      | _ => exact ih id

theorem unfinished_sublist (id : Int) (events : List (SnapshotEvent Float)) :
    (unfinished id events).Sublist (dispatches id events) := by
  induction events generalizing id with
  | nil => exact List.Sublist.refl _
  | cons event events ih =>
      cases event with
      | noteDispatch now =>
          simp only [unfinished, dispatches]
          split
          · exact (ih (id + 1)).cons _
          · exact (ih (id + 1)).cons_cons _
      | _ => exact ih id

theorem mem_dispatches {id : Int} {dispatch : Int × Float} (h : dispatch ∈ dispatches id events) :
    .noteDispatch dispatch.2 ∈ events := by
  induction events generalizing id with
  | nil => cases h
  | cons event events ih =>
      cases event with
      | noteDispatch now =>
          rcases List.mem_cons.mp h with rfl | h
          · exact List.mem_cons_self
          · exact List.mem_cons_of_mem _ (ih h)
      | _ => exact List.mem_cons_of_mem _ (ih h)

end History

section Snapshots

theorem afterAll_append :
    counted.afterAll ops (before ++ after) = (counted.afterAll ops before).afterAll ops after :=
  List.foldl_append

theorem recentDispatches_afterAll :
    (counted.afterAll ops events).snap.recentDispatches =
      counted.snap.recentDispatches.filter (fun dispatch => !finishes events dispatch.1) ++
        unfinished counted.dispatchId events := by
  induction events generalizing counted with
  | nil => simp [CountedSnapshot.afterAll, finishes, unfinished]
  | cons event events ih =>
      have hrest := @ih (counted.after ops event)
      rw [CountedSnapshot.afterAll, List.foldl_cons, ← CountedSnapshot.afterAll, hrest]
      cases event with
      | noteDispatch now =>
          have hsame (token : Int) : finishes (.noteDispatch now :: events) token =
            finishes events token := rfl
          simp only [CountedSnapshot.after, WorkerSnapshot.noteDispatch, unfinished, hsame,
            List.filter_append, List.append_assoc]
          congr 1
          by_cases hfinished : finishes events (counted.dispatchId + 1) = true <;> simp [hfinished]
      | noteFinish token =>
          simp only [CountedSnapshot.after, WorkerSnapshot.noteFinish, unfinished,
            List.filter_filter]
          congr 2
          funext dispatch
          simp [finishes, eq_comm, Bool.and_comm]
      | _ => rfl

inductive ShowsLast (counted : CountedSnapshot Float) (events : List (SnapshotEvent Float)) :
    Prop where
  | unobserved (hobserved : counted.snap.observedAt = none) (hrunning : counted.snap.running = 0)
  | scraped (before : List (SnapshotEvent Float)) (gauges : SlotGauges Float)
      (after : List (SnapshotEvent Float)) (hsplit : events = before ++ .scraped gauges :: after)
      (hobserved : counted.snap.observedAt = some gauges.observedAt)
        (hrunning : counted.snap.running = gauges.running)

theorem ShowsLast.kept {event : SnapshotEvent Float} {next : CountedSnapshot Float}
    (h : ShowsLast counted events) (hobserved : next.snap.observedAt = counted.snap.observedAt)
    (hrunning : next.snap.running = counted.snap.running) : ShowsLast next (events ++ [event]) := by
  cases h with
  | unobserved hnone hzero => exact .unobserved (hobserved.trans hnone) (hrunning.trans hzero)
  | scraped before gauges after hsplit hlast hgauge =>
      refine .scraped before gauges (after ++ [event]) ?_ (hobserved.trans hlast)
        (hrunning.trans hgauge)
      rw [hsplit, List.append_assoc, List.cons_append]

theorem ShowsLast.snoc {event : SnapshotEvent Float} (h : ShowsLast counted events) :
    ShowsLast (counted.after ops event) (events ++ [event]) := by
  cases event with
  | scraped gauges => exact .scraped events gauges [] rfl rfl rfl
  | _ => exact h.kept rfl rfl

theorem showsLast_start (id : String) (kvFreeRatio grace : Float) :
    ShowsLast ((CountedSnapshot.start id kvFreeRatio grace).afterAll ops events) events := by
  induction events using List.reverseRecOn with
  | nil => exact .unobserved rfl rfl
  | append_singleton events event ih =>
      rw [afterAll_append]
      exact ih.snoc

theorem dispatchGraceS_afterAll :
    (counted.afterAll ops events).snap.dispatchGraceS = counted.snap.dispatchGraceS := by
  induction events generalizing counted with
  | nil => rfl
  | cons event events ih =>
      rw [CountedSnapshot.afterAll, List.foldl_cons, ← CountedSnapshot.afterAll, ih]
      cases event <;> rfl

end Snapshots

section Bound

variable {grace : Float}

def dispatchedBy (ops : FloatOps Float) (grace observedAt : Float) (dispatch : Int × Float) :
    Bool :=
  !ops.lt (ops.sub observedAt grace) dispatch.2

/-- Each good scrape reports as running every request of the gateway's own that is dispatched at or
before `observed_at - dispatch_grace_s` and not finished then. The times are those of the clock; one
that does not go back leaves, for a grace above zero, only dispatches made before the scrape. -/
def ReportsOwn (ops : FloatOps Float) (grace : Float) (events : List (SnapshotEvent Float)) :
    Prop :=
  ∀ before gauges after, events = before ++ .scraped gauges :: after →
    (((unfinished 0 before ++ dispatches (issued 0 before) after).filter
      (dispatchedBy ops grace gauges.observedAt)).length : Int) ≤ gauges.running

variable {id : String} {kvFreeRatio : Float}

theorem recentDispatches_start :
    ((CountedSnapshot.start id kvFreeRatio grace).afterAll ops events).snap.recentDispatches =
      unfinished 0 events :=
  recentDispatches_afterAll

theorem unfinished_le_of_reported {before after : List (SnapshotEvent Float)}
    {gauges : SlotGauges Float} (hreports : ReportsOwn ops grace events)
    (hsplit : events = before ++ .scraped gauges :: after) :
    ((unfinished 0 events).length : Int) ≤
      gauges.running + (((unfinished 0 events).filter fun dispatch =>
      ops.lt (ops.sub gauges.observedAt grace) dispatch.2).length : Int) := by
  have hreported := hreports before gauges after hsplit
  have hsub : (unfinished 0 events).Sublist
      (unfinished 0 before ++ dispatches (issued 0 before) after) := by
    rw [hsplit, unfinished_append]
    exact List.filter_sublist.append (unfinished_sublist (issued 0 before) after)
  have hold := (hsub.filter (dispatchedBy ops grace gauges.observedAt)).length_le
  have hparts : (unfinished 0 events).length =
      ((unfinished 0 events).filter fun dispatch =>
        ops.lt (ops.sub gauges.observedAt grace) dispatch.2).length +
        ((unfinished 0 events).filter (dispatchedBy ops grace gauges.observedAt)).length :=
    List.length_eq_length_filter_add _
  omega

/-- **Occupancy is an upper bound.** At the end of any sequence of scrapes, dispatches and ends of
dispatches, the slots counted as occupied are at least the dispatches that have not been
finished. -/
theorem unfinished_le_occupied (hfinite : ∀ now, .noteDispatch now ∈ events →
      ops.lt (ops.sub ops.negInfinity grace) now = true)
    (hreports : ReportsOwn ops grace events) :
    ((unfinished 0 events).length : Int) ≤
      ((CountedSnapshot.start id kvFreeRatio grace).afterAll ops events).snap.occupied ops := by
  have hgrace :
      ((CountedSnapshot.start id kvFreeRatio grace).afterAll ops events).snap.dispatchGraceS =
        grace :=
    dispatchGraceS_afterAll
  rw [WorkerSnapshot.occupied, recentDispatches_start, hgrace]
  have hlast : ShowsLast ((CountedSnapshot.start id kvFreeRatio grace).afterAll ops events)
      events :=
    showsLast_start id kvFreeRatio grace
  cases hlast with
  | unobserved hobserved hrunning =>
      have hall : (unfinished 0 events).filter (fun dispatch =>
          ops.lt (ops.sub ops.negInfinity grace) dispatch.2) = unfinished 0 events := by
        refine List.filter_eq_self.mpr fun dispatch hdispatch => ?_
        exact hfinite _ (mem_dispatches ((unfinished_sublist 0 events).subset hdispatch))
      rw [hobserved, hrunning, Option.getD_none, hall, zero_add]
  | scraped before gauges after hsplit hobserved hrunning =>
      rw [hobserved, hrunning, Option.getD_some]
      exact unfinished_le_of_reported hreports hsplit

def watchedEvents : List (SnapshotEvent ℚ) :=
  [.noteDispatch 9, .scraped ⟨0, 1, 0, 10⟩, .noteDispatch 12, .scraped ⟨1, 1, 0, 13⟩]

theorem reportsOwn_watchedEvents : ReportsOwn exactFloats 2 watchedEvents := by
  intro before gauges after hsplit
  rcases before with _ | ⟨_, _ | ⟨_, _ | ⟨_, _ | ⟨_, before⟩⟩⟩⟩ <;> simp [watchedEvents] at hsplit
  · obtain ⟨rfl, rfl, rfl⟩ := hsplit
    decide +kernel
  · obtain ⟨rfl, rfl, rfl, rfl, rfl⟩ := hsplit
    decide +kernel

theorem unfinished_le_occupied_watched : ((unfinished 0 watchedEvents).length : Int) ≤
    ((CountedSnapshot.start "worker_a" 1 2).afterAll exactFloats watchedEvents).snap.occupied
      exactFloats := by
  refine unfinished_le_occupied (fun now hnow => ?_) reportsOwn_watchedEvents
  simp only [watchedEvents, List.mem_cons, SnapshotEvent.noteDispatch.injEq, reduceCtorEq, false_or,
    or_false, List.not_mem_nil] at hnow
  rcases hnow with rfl | rfl <;> decide +kernel

end Bound

end AiAnalytics.Gateway
