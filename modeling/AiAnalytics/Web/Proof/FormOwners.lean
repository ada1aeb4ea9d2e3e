import AiAnalytics.Web.Submissions

/-!
# Who changes the form

While every submission that is not over is the newest one, no step of an older one is enabled. The
guard of `submitPrompt` keeps it so, except for what a cancellation leaves behind: it opens the form
again while the cancelled submission still has the rest of its code to run, or while its own request
is still awaited. -/

namespace AiAnalytics.Web

open Lib

section Statement

def OlderStep (app : App) : Label → Prop
  | .submission id _ => id < app.started
  | .cancelReturned submission => submission < app.started
  | _ => False

/-- A step of an older submission changes nothing of the form. -/
def Undisturbed (app : App) (label : Label) : Prop :=
  OlderStep app label → ∀ next, webClient.step app label = some next → next.form = app.form

instance (app : App) : (label : Label) → Decidable (OlderStep app label)
  | .submission id _ => inferInstanceAs (Decidable (id < app.started))
  | .cancelReturned submission => inferInstanceAs (Decidable (submission < app.started))
  | .edit _ | .voiceTranscript _ | .submit | .cancel | .savedReloaded _
  | .inspectRun _ | .newConversation => .isFalse not_false

instance (app : App) (label : Label) : Decidable (Undisturbed app label) :=
  decidable_of_iff
    (OlderStep app label → ((webClient.step app label).all fun next => next.form = app.form) =
      true) <| by
      simp only [Undisturbed, Option.all_eq_true, decide_eq_true_eq]

/-- Where a prompt is submitted, no cancelled submission is still to be finished and no cancel
request is awaited. -/
def SubmittedAfterCancel (app : App) : Label → Prop
  | .submit => app.submits = true →
      (∀ submission ∈ app.submissions.values, submission.aborted = false) ∧ app.cancelCalls = []
  | _ => True

instance (app : App) : (label : Label) → Decidable (SubmittedAfterCancel app label)
  | .submit => inferInstanceAs (Decidable (_ → _ ∧ _))
  | .edit _ | .voiceTranscript _ | .submission _ _ | .cancel | .cancelReturned _
  | .savedReloaded _ | .inspectRun _ | .newConversation => .isTrue trivial

structure Current (app : App) : Prop where
  newest : ∀ {id submission}, app.submissions.get? id = some submission → id = app.started
  holds : ∀ {id submission}, app.submissions.get? id = some submission →
    submission.aborted = false →
    app.form.isRunning = true ∧ app.form.activeAbortController = some id
  cancels : ∀ id ∈ app.cancelCalls, id = app.started

end Statement

section Steps

variable {app next : App} {id : Nat} {submission : Submission} {event : SubmissionEvent}
  {label : Label}

structure Keeps (app next : App) : Prop where
  started : next.started = app.started
  cancelCalls : next.cancelCalls = app.cancelCalls
  isRunning : next.form.isRunning = app.form.isRunning
  controller : next.form.activeAbortController = app.form.activeAbortController
  submissions : ∀ {id later}, next.submissions.get? id = some later →
    ∃ submission, app.submissions.get? id = some submission ∧ later.aborted = submission.aborted

theorem keeps_of_submissions_eq (hstarted : next.started = app.started)
    (hcancels : next.cancelCalls = app.cancelCalls)
    (hrunning : next.form.isRunning = app.form.isRunning)
    (hcontroller : next.form.activeAbortController = app.form.activeAbortController)
    (hsubmissions : next.submissions = app.submissions) : Keeps app next :=
  ⟨hstarted, hcancels, hrunning, hcontroller, fun hlater => ⟨_, hsubmissions ▸ hlater, rfl⟩⟩

theorem keeps_setPhase (hsubmission : app.submissions.get? id = some submission) (phase : Phase)
    (hstarted : next.started = app.started) (hcancels : next.cancelCalls = app.cancelCalls)
    (hrunning : next.form.isRunning = app.form.isRunning)
    (hcontroller : next.form.activeAbortController = app.form.activeAbortController)
    (hsubmissions : next.submissions = (app.setPhase id submission phase).submissions) :
    Keeps app next := by
  refine ⟨hstarted, hcancels, hrunning, hcontroller, fun {other later} hlater => ?_⟩
  rw [hsubmissions, App.setPhase, OrderedDict.get?_set] at hlater
  split_ifs at hlater with hother
  · subst hother
    obtain rfl := Option.some.inj hlater
    exact ⟨submission, hsubmission, rfl⟩
  · exact ⟨later, hlater, rfl⟩

theorem hydrated_eq (app : App) (version : Nat) (selected : Option String) (clear : Bool)
    (snapshot : Option ConversationSnapshot) :
    ∃ conversation stored active, app.hydrated version selected clear snapshot =
      { app with
        conversationId := conversation
        storedConversation := stored
        form := { app.form with activeRunId := active } } := by
  unfold App.hydrated
  split
  · split_ifs
    · exact ⟨_, _, _, rfl⟩
    · exact ⟨_, app.storedConversation, _, rfl⟩
  · split_ifs
    · exact ⟨app.conversationId, _, app.form.activeRunId, rfl⟩
    · exact ⟨_, _, _, rfl⟩

theorem advance_cases (hsubmission : app.submissions.get? id = some submission)
    (h : app.advance id submission event = some next) :
    Keeps app next ∨ next.submissions = app.submissions.pop id ∧ next.started = app.started ∧
      next.cancelCalls = app.cancelCalls := by
  unfold App.advance at h
  split at h
  · obtain rfl := Option.some.inj h
    exact .inl (keeps_setPhase hsubmission _ rfl rfl rfl rfl rfl)
  · obtain rfl := Option.some.inj h
    exact .inr ⟨rfl, rfl, rfl⟩
  · obtain rfl := Option.some.inj h
    exact .inr ⟨rfl, rfl, rfl⟩
  · obtain rfl := Option.some.inj h
    left
    unfold App.handleRawEvent
    split
    · exact keeps_setPhase hsubmission _ rfl rfl rfl rfl rfl
    · exact keeps_setPhase hsubmission _ rfl rfl rfl rfl rfl
    · exact keeps_of_submissions_eq rfl rfl rfl rfl rfl
  · obtain rfl := Option.some.inj h
    exact .inl (keeps_setPhase hsubmission _ rfl rfl rfl rfl rfl)
  · obtain rfl := Option.some.inj h
    left
    refine keeps_setPhase hsubmission _ rfl rfl ?_ ?_ rfl
    · simp only [App.resume]
      split_ifs <;> rfl
    · simp only [App.resume]
      split_ifs <;> rfl
  · rename_i run version snapshot _
    obtain ⟨conversation, stored, active, hhydrated⟩ :=
      hydrated_eq app version (some run.runId) false snapshot
    obtain rfl := Option.some.inj h
    rw [hhydrated]
    exact .inl (keeps_setPhase hsubmission _ rfl rfl rfl rfl rfl)
  · obtain rfl := Option.some.inj h
    exact .inr ⟨rfl, rfl, rfl⟩
  · cases h

inductive StepCase (app : App) : Label → App → Prop
  | keeps {label : Label} {next : App} (h : Keeps app next) : StepCase app label next
  | ends {label : Label} {next : App} {id : Nat} {submission : Submission}
      (hsubmission : app.submissions.get? id = some submission)
        (hpop : next.submissions = app.submissions.pop id)
      (hstarted : next.started = app.started) (hcancels : next.cancelCalls = app.cancelCalls) :
      StepCase app label next
  | submits : StepCase app .submit app.submitPrompt
  | cancels : StepCase app .cancel app.handleCancelRun
  | returns {id : Nat} (hid : id ∈ app.cancelCalls) : StepCase app (.cancelReturned id)
    (app.cancelReturned id)

theorem step_cases (hstep : webClient.step app label = some next) : StepCase app label next := by
  cases label with
  | edit prompt =>
      obtain rfl := Option.some.inj hstep
      exact .keeps (keeps_of_submissions_eq rfl rfl rfl rfl rfl)
  | voiceTranscript text =>
      obtain rfl := Option.some.inj hstep
      exact .keeps (keeps_of_submissions_eq rfl rfl rfl rfl rfl)
  | submit =>
      obtain rfl := Option.some.inj hstep
      exact .submits
  | submission id event =>
      obtain ⟨submission, hsubmission, hadvance⟩ := Option.bind_eq_some_iff.mp hstep
      obtain hkeeps | ⟨hpop, hstarted, hcancels⟩ := advance_cases hsubmission hadvance
      · exact .keeps hkeeps
      · exact .ends hsubmission hpop hstarted hcancels
  | cancel =>
      simp only [webClient, Option.ite_none_right_eq_some] at hstep
      obtain rfl := Option.some.inj hstep.2
      exact .cancels
  | cancelReturned id =>
      simp only [webClient, Option.ite_none_right_eq_some] at hstep
      obtain rfl := Option.some.inj hstep.2
      exact .returns hstep.1
  | savedReloaded snapshot =>
      obtain ⟨version, _, rfl⟩ := Option.map_eq_some_iff.mp hstep
      obtain ⟨conversation, stored, active, hhydrated⟩ := hydrated_eq app version none true snapshot
      rw [hhydrated]
      exact .keeps (keeps_of_submissions_eq rfl rfl rfl rfl rfl)
  | inspectRun runId =>
      obtain rfl := Option.some.inj hstep
      exact .keeps (keeps_of_submissions_eq rfl rfl rfl rfl rfl)
  | newConversation =>
      simp only [webClient, Option.ite_none_right_eq_some] at hstep
      obtain rfl := Option.some.inj hstep.2
      exact .keeps (keeps_of_submissions_eq rfl rfl rfl rfl rfl)

end Steps

section Current

variable {app next : App} {id : Nat} {submission : Submission} {label : Label}

theorem Current.keep (h : Current app) (hkeeps : Keeps app next) : Current next where
  newest hlater := by
    obtain ⟨_, hsubmission, _⟩ := hkeeps.submissions hlater
    rw [hkeeps.started]
    exact h.newest hsubmission
  holds hlater haborted := by
    obtain ⟨submission, hsubmission, hsame⟩ := hkeeps.submissions hlater
    rw [hkeeps.isRunning, hkeeps.controller]
    exact h.holds hsubmission (hsame ▸ haborted)
  cancels id hid := by
    rw [hkeeps.cancelCalls] at hid
    rw [hkeeps.started]
    exact h.cancels id hid

theorem Current.pop (h : Current app) (hsubmission : app.submissions.get? id = some submission)
    (hstarted : next.started = app.started) (hcancels : next.cancelCalls = app.cancelCalls)
    (hpop : next.submissions = app.submissions.pop id) : Current next := by
  have hnone (other : Nat) (later : Submission) : next.submissions.get? other ≠ some later := by
    intro hlater
    rw [hpop, OrderedDict.get?_pop] at hlater
    split_ifs at hlater with hother
    exact hother ((h.newest hlater).trans (h.newest hsubmission).symm)
  refine ⟨fun hlater => absurd hlater (hnone _ _), fun hlater => absurd hlater (hnone _ _),
    fun other hother => ?_⟩
  rw [hcancels] at hother
  rw [hstarted]
  exact h.cancels other hother

theorem Current.cancelReturned (h : Current app) (id : Nat) : Current (app.cancelReturned id) := by
  have haborted {other : Nat} {later : Submission}
      (hlater : app.abortActive.get? other = some later) :
      later.aborted = true ∧ ∃ submission, app.submissions.get? other = some submission := by
    unfold App.abortActive at hlater
    split at hlater
    · rename_i hnone
      refine ⟨?_, later, hlater⟩
      by_contra hfalse
      have hholds := (h.holds hlater ((Bool.not_eq_true _).mp hfalse)).2
      rw [hnone] at hholds
      cases hholds
    · rename_i active hactive
      have hother (hne : other ≠ active) {submission : Submission}
          (hsubmission : app.submissions.get? other = some submission) : submission.aborted =
            true := by
        by_contra hfalse
        have hholds := (h.holds hsubmission ((Bool.not_eq_true _).mp hfalse)).2
        rw [hactive] at hholds
        exact hne (Option.some.inj hholds).symm
      split at hlater
      · rename_i hnone
        refine ⟨hother ?_ hlater, later, hlater⟩
        rintro rfl
        rw [hnone] at hlater
        cases hlater
      · rename_i submission hsubmission
        rw [OrderedDict.get?_set] at hlater
        split_ifs at hlater with hid
        · subst hid
          obtain rfl := Option.some.inj hlater
          exact ⟨rfl, submission, hsubmission⟩
        · exact ⟨hother hid hlater, later, hlater⟩
  refine ⟨fun hlater => ?_, fun hlater hfalse => ?_, fun other hother => ?_⟩
  · obtain ⟨_, submission, hsubmission⟩ := haborted hlater
    exact h.newest hsubmission
  · rw [(haborted hlater).1] at hfalse
    cases hfalse
  · exact h.cancels other (List.mem_of_mem_erase hother)

theorem Current.handleCancelRun (h : Current app) : Current app.handleCancelRun := by
  unfold App.handleCancelRun
  split_ifs
  · exact h
  · refine ⟨h.newest, h.holds, fun id hid => ?_⟩
    obtain hold | hnew := List.mem_append.mp hid
    · exact h.cancels id hold
    · exact List.mem_singleton.mp hnew

theorem Current.submitPrompt (h : Current app) (hcond : SubmittedAfterCancel app .submit) :
    Current app.submitPrompt := by
  by_cases hsubmits : app.submits = true
  swap
  · rw [App.submitPrompt, if_neg hsubmits]
    exact h
  rw [App.submitPrompt, if_pos hsubmits]
  obtain ⟨hnone, hcancels⟩ := hcond hsubmits
  have hidle : app.form.isRunning = false := by
    simp only [App.submits, Bool.and_eq_true, Bool.not_eq_true'] at hsubmits
    exact hsubmits.2
  have hover (id : Nat) (submission : Submission) : app.submissions.get? id ≠ some submission := by
    intro hsubmission
    have hholds :=
      h.holds hsubmission (hnone submission (OrderedDict.mem_values_of_get? hsubmission))
    rw [hidle] at hholds
    cases hholds.1
  have honly {id : Nat} {submission first : Submission}
      (hsubmission : (app.submissions.set (app.started + 1) first).get? id = some submission) :
      id = app.started + 1 := by
    rw [OrderedDict.get?_set] at hsubmission
    split_ifs at hsubmission with hid
    · exact hid
    · exact absurd hsubmission (hover id submission)
  refine ⟨honly, fun hsubmission _ => ⟨rfl, congrArg some (honly hsubmission).symm⟩, fun id hid =>
    ?_⟩
  rw [show _ = _ from hcancels] at hid
  cases hid

theorem current_mount (stored : Option String) : Current (App.mount stored) := by
  refine ⟨fun hsubmission => ?_, fun hsubmission => ?_, fun id hid => ?_⟩
  · cases hsubmission
  · cases hsubmission
  · cases hid

theorem Current.step (h : Current app) (hcond : SubmittedAfterCancel app label)
    (hstep : webClient.step app label = some next) : Current next := by
  cases step_cases hstep with
  | keeps hkeeps => exact h.keep hkeeps
  | ends hsubmission hpop hstarted hcancels => exact h.pop hsubmission hstarted hcancels hpop
  | submits => exact h.submitPrompt hcond
  | cancels => exact h.handleCancelRun
  | returns hid => exact h.cancelReturned _

theorem Current.not_olderStep (h : Current app) (hstep : webClient.step app label = some next) :
    ¬ OlderStep app label := by
  intro holder
  cases label with
  | submission id event =>
      obtain ⟨submission, hsubmission, _⟩ := Option.bind_eq_some_iff.mp hstep
      exact absurd (h.newest hsubmission) (Nat.ne_of_lt holder)
  | cancelReturned id =>
      simp only [webClient, Option.ite_none_right_eq_some] at hstep
      exact absurd (h.cancels id hstep.1) (Nat.ne_of_lt holder)
  | _ => exact holder

end Current

/-- In a run whose prompts are submitted only when no cancelled submission is still to be finished
and no cancel request is awaited, no step of an older submission changes the form. -/
theorem older_submissions_inert (stored : Option String) (labels : List Label)
    (hmeets : webClient.Meets SubmittedAfterCancel (App.mount stored) labels) :
    webClient.Meets Undisturbed (App.mount stored) labels := by
  refine Machine.meets_of_invariant ?_ ?_ (current_mount stored) hmeets
  · intro app label hcurrent _ holder next hstep
    exact absurd holder (hcurrent.not_olderStep hstep)
  · intro app label next hcurrent hcond hstep
    exact hcurrent.step hcond hstep

def cancelledFirst : List Label :=
  [.edit ['a'], .submit, .submission 1
    (.replied (.accepted ⟨"run-1", "conversation", "/events/1"⟩)),
    .submission 1 (.streamed (.delta ['b'])), .cancel, .cancelReturned 1, .submission 1 .resumed]

def reloadedFirst : List Label :=
  cancelledFirst ++ [.submission 1 (.reloaded none), .submission 1 .finished, .edit ['c'], .submit]

theorem older_submissions_inert_reloadedFirst :
    (webClient.run (App.mount none) reloadedFirst).map App.form =
      some ⟨true, false, ['c'], some "run-1", some 2, [], none⟩ ∧
    webClient.Meets Undisturbed (App.mount none) reloadedFirst := by
  refine ⟨by decide +kernel, older_submissions_inert none reloadedFirst ?_⟩
  exact Machine.meets_of_passes (fun _ _ h => of_decide_eq_true h) (by decide +kernel)

def overtaken : List Label :=
  cancelledFirst ++ [.edit ['c'], .submit, .submission 1 (.reloaded none)]

/-- The end of the first submission clears the prompt, the flag and the controller of the second,
whose run goes on. -/
theorem cancelled_submission_ends_next :
    (webClient.run (App.mount none) overtaken).map App.form =
      some ⟨true, false, ['c'], some "run-1", some 2, [], none⟩ ∧
    (webClient.run (App.mount none) (overtaken ++ [.submission 1 .finished])).map App.form =
      some ⟨false, false, [], some "run-1", none, [], none⟩ ∧
    ¬ webClient.Meets Undisturbed (App.mount none) (overtaken ++ [.submission 1 .finished]) := by
  refine ⟨by decide +kernel, by decide +kernel, ?_⟩
  exact Machine.not_meets_of_any (fun _ h => of_decide_eq_true h) (by decide +kernel)

section Converse

variable {app next : App} {id : Nat} {submission : Submission} {label : Label} {rest : List Label}

structure Numbered (app : App) : Prop where
  submission : ∀ {id submission}, app.submissions.get? id = some submission → id ≤ app.started
  cancels : ∀ id ∈ app.cancelCalls, id ≤ app.started

theorem numbered_mount (stored : Option String) : Numbered (App.mount stored) := by
  refine ⟨fun hsubmission => ?_, fun id hid => ?_⟩
  · cases hsubmission
  · cases hid

theorem get?_abortActive {later : Submission} (hlater : app.abortActive.get? id = some later) :
    ∃ submission, app.submissions.get? id = some submission := by
  unfold App.abortActive at hlater
  split at hlater
  · exact ⟨later, hlater⟩
  · split at hlater
    · exact ⟨later, hlater⟩
    · rename_i submission hsubmission
      rw [OrderedDict.get?_set] at hlater
      split_ifs at hlater with hid
      · exact ⟨submission, hid ▸ hsubmission⟩
      · exact ⟨later, hlater⟩

theorem submitPrompt_fields (hsubmits : app.submits = true) :
    app.submitPrompt.started = app.started + 1 ∧ app.submitPrompt.form.isRunning = true ∧
      app.submitPrompt.cancelCalls = app.cancelCalls ∧
      ∃ first, app.submitPrompt.submissions = app.submissions.set (app.started + 1) first := by
  rw [App.submitPrompt, if_pos hsubmits]
  exact ⟨rfl, rfl, rfl, _, rfl⟩

theorem Numbered.submitPrompt (h : Numbered app) : Numbered app.submitPrompt := by
  by_cases hsubmits : app.submits = true
  · obtain ⟨hstarted, _, hcancels, first, hset⟩ := submitPrompt_fields hsubmits
    refine ⟨fun {id submission} hlater => ?_, fun id hid => ?_⟩
    · rw [hset, OrderedDict.get?_set] at hlater
      rw [hstarted]
      split_ifs at hlater with hid
      · exact Nat.le_of_eq hid
      · exact Nat.le_succ_of_le (h.submission hlater)
    · rw [hcancels] at hid
      rw [hstarted]
      exact Nat.le_succ_of_le (h.cancels id hid)
  · rw [App.submitPrompt, if_neg hsubmits]
    exact h

theorem Numbered.step (h : Numbered app) (hstep : webClient.step app label = some next) :
    Numbered next := by
  cases step_cases hstep with
  | keeps hkeeps =>
      refine ⟨fun hlater => ?_, fun id hid => ?_⟩
      · obtain ⟨_, hsubmission, _⟩ := hkeeps.submissions hlater
        rw [hkeeps.started]
        exact h.submission hsubmission
      · rw [hkeeps.cancelCalls] at hid
        rw [hkeeps.started]
        exact h.cancels id hid
  | ends _ hpop hstarted hcancels =>
      refine ⟨fun hlater => ?_, fun id hid => ?_⟩
      · rw [hpop, OrderedDict.get?_pop] at hlater
        split_ifs at hlater
        rw [hstarted]
        exact h.submission hlater
      · rw [hcancels] at hid
        rw [hstarted]
        exact h.cancels id hid
  | submits => exact h.submitPrompt
  | cancels =>
      unfold App.handleCancelRun
      split_ifs
      · exact h
      · refine ⟨h.submission, fun id hid => ?_⟩
        obtain hold | hnew := List.mem_append.mp hid
        · exact h.cancels id hold
        · exact Nat.le_of_eq (List.mem_singleton.mp hnew)
  | returns hid =>
      refine ⟨fun hlater => ?_, fun id hid => h.cancels id (List.mem_of_mem_erase hid)⟩
      obtain ⟨_, hsubmission⟩ := get?_abortActive hlater
      exact h.submission hsubmission

theorem not_meets_of_stops (hrunning : app.form.isRunning = true) (holder : OlderStep app label)
    (hstep : webClient.step app label = some next) (hstops : next.form.isRunning = false) :
    ¬ webClient.Meets Undisturbed app [label] := by
  refine Machine.not_meets_of_not fun hundisturbed => ?_
  rw [hundisturbed holder next hstep, hrunning] at hstops
  cases hstops

def Phase.toGo : Phase → Nat
  | .streaming .. => 3
  | .streamed .. => 2
  | .reloading .. => 1
  | .posting | .reloaded => 0

theorem step_submission {event : SubmissionEvent}
    (hsubmission : app.submissions.get? id = some submission)
    (hadvance : app.advance id submission event = some next) :
    webClient.step app (.submission id event) = some next := by
  change (app.submissions.get? id).bind _ = _
  rw [hsubmission, Option.bind_some, hadvance]

theorem get?_setPhase (app : App) (id : Nat) (submission : Submission) (phase : Phase) :
    (app.setPhase id submission phase).submissions.get? id =
      some { submission with phase := phase } :=
  OrderedDict.get?_set_self _ _ _

theorem exists_step (hsubmission : app.submissions.get? id = some submission) :
    ∃ event next, webClient.step app (.submission id event) = some next ∧
      (next.form.isRunning = false ∨
        next.started = app.started ∧ next.form.isRunning = app.form.isRunning ∧
          ∃ later, next.submissions.get? id = some later ∧
          later.phase.toGo < submission.phase.toGo) := by
  cases hphase : submission.phase with
  | posting =>
      refine ⟨.replied (.rejected true ""), app.caught id none, step_submission hsubmission ?_,
        .inl rfl⟩
      simp only [App.advance, hphase]
      rfl
  | streaming run accumulatedAnswer =>
      refine ⟨.streamError, app.setPhase id submission (.streamed run none),
        step_submission hsubmission ?_, .inr ⟨rfl, rfl, _, get?_setPhase app id submission _, ?_⟩⟩
      · simp only [App.advance, hphase]
      · exact Nat.lt_succ_self 2
  | streamed run final =>
      refine ⟨.resumed, app.resume id submission run final, step_submission hsubmission ?_,
        .inr ⟨rfl, ?_, _, get?_setPhase app id submission _, ?_⟩⟩
      · simp only [App.advance, hphase]
      · simp only [App.resume]
        split_ifs <;> rfl
      · exact Nat.lt_succ_self 1
  | reloading run version =>
      refine ⟨.reloaded none, app.setPhase id submission .reloaded, step_submission hsubmission ?_,
        .inr ⟨rfl, rfl, _, get?_setPhase app id submission _, ?_⟩⟩
      · simp [App.advance, hphase, App.hydrated]
      · exact Nat.lt_succ_self 0
  | reloaded =>
      refine ⟨.finished, { app with form := { app.form with prompt := [] } }.finallyBlock id,
        step_submission hsubmission ?_, .inl rfl⟩
      simp only [App.advance, hphase]

theorem exists_stops (hsubmission : app.submissions.get? id = some submission)
    (holder : id < app.started) (hrunning : app.form.isRunning = true) :
    ∃ rest, ¬ webClient.Meets Undisturbed app rest := by
  induction htoGo : submission.phase.toGo using Nat.strongRecOn generalizing app submission with
  | ind n ih =>
      obtain ⟨event, next, hstep, hstops | ⟨hstarted, hsame, later, hlater, hless⟩⟩ :=
        exists_step hsubmission
      · exact ⟨[.submission id event], not_meets_of_stops hrunning holder hstep hstops⟩
      · have holder' : id < next.started := hstarted ▸ holder
        obtain ⟨rest, hrest⟩ := ih _ (htoGo ▸ hless) hlater holder' (hsame.trans hrunning) rfl
        exact ⟨_, fun hmeets => hrest ((Machine.meets_cons_of_step hstep).mp hmeets).2⟩

theorem exists_disturbed_of_early {stored : Option String} {labels : List Label}
    (hrun : webClient.run (App.mount stored) labels = some app)
    (hearly : ¬ SubmittedAfterCancel app .submit) :
    ∃ rest, ¬ webClient.Meets Undisturbed (App.mount stored) (labels ++ .submit :: rest) := by
  have hnumbered : Numbered app :=
    Machine.run_invariant (fun _ _ _ h hstep => h.step hstep) (numbered_mount stored) hrun
  simp only [SubmittedAfterCancel, Classical.not_imp] at hearly
  obtain ⟨hsubmits, hgap⟩ := hearly
  obtain ⟨hstarted, hrunning, hcancels, first, hset⟩ := submitPrompt_fields hsubmits
  have hnext : ∃ rest, ¬ webClient.Meets Undisturbed app.submitPrompt rest := by
    by_cases hnone : ∀ submission ∈ app.submissions.values, submission.aborted = false
    · obtain ⟨id, hid⟩ := List.exists_mem_of_ne_nil _ fun hnil => hgap ⟨hnone, hnil⟩
      have holder : OlderStep app.submitPrompt (.cancelReturned id) := by
        change id < app.submitPrompt.started
        rw [hstarted]
        exact Nat.lt_succ_of_le (hnumbered.cancels id hid)
      have hstep : webClient.step app.submitPrompt (.cancelReturned id) =
          some (app.submitPrompt.cancelReturned id) :=
        if_pos (hcancels ▸ hid)
      exact ⟨_, not_meets_of_stops hrunning holder hstep rfl⟩
    · simp only [not_forall] at hnone
      obtain ⟨submission, hmem, _⟩ := hnone
      obtain ⟨id, hsubmission⟩ := OrderedDict.exists_get?_of_mem_values hmem
      have hle := hnumbered.submission hsubmission
      have hstill : app.submitPrompt.submissions.get? id = some submission := by
        rw [hset, OrderedDict.get?_set, if_neg (Nat.ne_of_lt (Nat.lt_succ_of_le hle)), hsubmission]
      exact exists_stops hstill (hstarted ▸ Nat.lt_succ_of_le hle) hrunning
  obtain ⟨rest, hrest⟩ := hnext
  have hsubmit : webClient.step app .submit = some app.submitPrompt := rfl
  refine ⟨rest, Machine.not_meets_append hrun fun hmeets => ?_⟩
  exact hrest ((Machine.meets_cons_of_step hsubmit).mp hmeets).2

end Converse

end AiAnalytics.Web
