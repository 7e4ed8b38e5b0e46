/-
A WorkerJob and the Command it is for.

A job is linked to a Command once, when it is enqueued, and no two jobs
to the same one. From then on two state machines are moved together by
ten operations. `LinkedAs fits` says that every linked Command is stored
with a status that `fits` its job's; `Fit` is what `fits` must allow for
the operations to keep it.

# Two instances

`Paired` is the strict one: the Command has exactly the status that goes
with its job's. It survives everything except `process`, which routes a
Command by its id without asking whether a job is at work on it;
`process_next` only picks Commands no job is linked to. `Delegated` is
what `process` leaves: a linked Command waits or is over.
-/
import ThreadsPlatform.Application.Runs
import ThreadsPlatform.Effects.Refinement

namespace ThreadsPlatform

open Relational Table

variable {cfg : Settings} {call : Call} {s t t' : State} {J J' : Table workerJobs}
  {C C' : Table commands} {j j' j2 : WorkerJob} {c c' : Command}
  {fits : WorkerJobStatus → CommandStatus → Prop} {L : Table accountExecutionLeases}
  {D : Table integrationDeliveries} {O : Table outboxEvents}

theorem linked_unique {commandId : String} (hj : J.get? j.id = some j)
    (hj2 : J.get? j2.id = some j2) (hlink : j.commandId = some commandId)
    (hlink2 : j2.commandId = some commandId) : j.id = j2.id := by
  by_contra hne
  have hclash := clash_of_get? hj hj2 hne
  simp [workerJobs, hlink, hlink2] at hclash

-- ==== linked status

/-- Every linked Command is stored, in a status that fits its job's. -/
def LinkedAs (fits : WorkerJobStatus → CommandStatus → Prop) (J : Table workerJobs)
    (C : Table commands) : Prop :=
  ∀ j, J.get? j.id = some j → ∀ commandId, j.commandId = some commandId →
    ∃ c, C.get? commandId = some c ∧ fits j.status c.status

/-- What the operations need a job's status and its Command's to allow. -/
structure Fit (fits : WorkerJobStatus → CommandStatus → Prop) : Prop where
  follows : ∀ status : WorkerJobStatus, fits status status.commandStatus
  claimed : ∀ status target, status = .queued ∨ status = .failedRetryable ∨ status = .running →
    fits status target → fits .running target
  retried : ∀ target, fits .running target → fits .failedRetryable target
  delegated : ∀ status target, fits status target → target.delegated = true

theorem LinkedAs.command (h : LinkedAs fits J C) (hj : J.get? j.id = some j)
    (hlink : j.commandId = some c.commandId) (hc : C.get? c.commandId = some c) :
    fits j.status c.status := by
  obtain ⟨c2, hc2, hfits⟩ := h j hj _ hlink
  rw [hc] at hc2
  injection hc2 with hc2
  exact hc2 ▸ hfits

/-- Writing a job: its new status must fit what its old one did. -/
theorem LinkedAs.putJob (h : LinkedAs fits J C) (hj : J.get? j.id = some j)
    (hsame : j.SameJob j') (hput : Put J j' J')
    (hfits : ∀ target, fits j.status target → fits j'.status target) :
    LinkedAs fits J' C := by
  intro j2 hj2 commandId hlink
  rcases hput.cases hj2 with ⟨-, rfl⟩ | ⟨-, hj2⟩
  · rw [hsame.commandId] at hlink
    obtain ⟨c, hc, hold⟩ := h j hj commandId hlink
    exact ⟨c, hc, hfits _ hold⟩
  · exact h j2 hj2 commandId hlink

/-- Writing a Command: it must fit the job linked to it, if there is one. -/
theorem LinkedAs.putCommand (h : LinkedAs fits J C) (hput : Put C c' C')
    (hfits : ∀ j, J.get? j.id = some j → j.commandId = some c'.commandId →
      fits j.status c'.status) : LinkedAs fits J C' := by
  intro j hj commandId hlink
  by_cases hid : commandId = c'.commandId
  · subst hid
    exact ⟨c', hput.get?_self, hfits j hj hlink⟩
  · obtain ⟨c, hc, hold⟩ := h j hj commandId hlink
    exact ⟨c, (hput.get?_ne hid).trans hc, hold⟩

-- ---- job effects

theorem LinkedAs.jobAdded (hfit : Fit fits) (h : LinkedAs fits t.jobs t.commands)
    {RD : Table commandRouteDecisions} (hadd : JobAdded call s0 t j J RD) :
    LinkedAs fits J t.commands := by
  intro j2 hj2 commandId hlink
  rcases hadd.put.cases hj2 with ⟨-, rfl⟩ | ⟨-, hj2⟩
  · obtain ⟨c, hc, hwaits⟩ := hadd.command commandId hlink
    refine ⟨c, hc, ?_⟩
    rw [hwaits, hadd.queued]
    exact hfit.follows .queued
  · exact h j2 hj2 commandId hlink

/-- A job moves and its Command follows. No other job is linked to that
Command, so the others see neither write. -/
theorem LinkedAs.jobMoved {outcome : WorkerJobAttemptStatus} {A : Table workerJobAttempts}
    {R : Table workerJobCancelRequests} (hfit : Fit fits) (h : LinkedAs fits t.jobs t.commands)
    (hmoved : JobMoved call s t j j' outcome J A R C O D L) : LinkedAs fits J C := by
  rcases hmoved.command with ⟨hkeeps, rfl, -, -⟩ | ⟨c, hlink, hc, -, hfollows⟩
  · -- no Command, or one that goes on waiting
    intro j2 hj2 commandId hlink2
    rcases hmoved.jobs.cases hj2 with ⟨-, rfl⟩ | ⟨-, hj2⟩
    · rw [hmoved.leaves.commandId] at hlink2
      obtain ⟨c, hc, hold⟩ := h j hmoved.stored commandId hlink2
      refine ⟨c, hc, ?_⟩
      rcases hkeeps with hnone | hretry
      · rw [hnone] at hlink2
        cases hlink2
      · rw [hretry]
        rw [hmoved.retried hretry] at hold
        exact hfit.retried _ hold
    · exact h j2 hj2 commandId hlink2
  · intro j2 hj2 commandId hlink2
    rcases hmoved.jobs.cases hj2 with ⟨-, rfl⟩ | ⟨hne, hj2⟩
    · -- the job itself: its Command has the status that goes with it
      rw [hmoved.leaves.commandId, hlink] at hlink2
      cases hlink2
      rcases hfollows with ⟨hstatus, rfl, -, -⟩ | ⟨c', hput, hstatus⟩
      · exact ⟨c, hc, hstatus ▸ hfit.follows _⟩
      · have hkey : commands.key c' = c.commandId := hput.same.commandId
        exact ⟨c', hkey ▸ hput.put.get?_self, hstatus ▸ hfit.follows _⟩
    · obtain ⟨c2, hc2, hold⟩ := h j2 hj2 commandId hlink2
      have hother : commandId ≠ c.commandId := by
        rintro rfl
        refine hne ?_
        show j2.id = j'.id
        rw [hmoved.leaves.id]
        exact linked_unique hj2 hmoved.stored hlink2 hlink
      rcases hfollows with ⟨-, rfl, -, -⟩ | ⟨c', hput, -⟩
      · exact ⟨c2, hc2, hold⟩
      · refine ⟨c2, (hput.put.get?_ne ?_).trans hc2, hold⟩
        show commandId ≠ c'.commandId
        rw [hput.same.commandId]
        exact hother

-- ---- runtime effects

/-- The runtime writes a Command: unlinked, or routed by `process`. -/
theorem LinkedAs.commandPut {O' : Table outboxEvents} {D' : Table integrationDeliveries}
    (h : LinkedAs fits t.jobs t.commands) (hput : CommandPut c c' t.commands O D C O' D')
    (hfits : ∀ j, t.jobs.get? j.id = some j → j.commandId = some c.commandId →
      fits j.status c.status → fits j.status c'.status) : LinkedAs fits t.jobs C := by
  refine h.putCommand hput.put fun j hj hlink => ?_
  rw [hput.same.commandId] at hlink
  exact hfits j hj hlink (h.command hj hlink hput.stored)

/-- What `process` may do to a linked Command. -/
def RoutesWithin (fits : WorkerJobStatus → CommandStatus → Prop) : Prop :=
  ∀ status source target, fits status source → validTransition source target = true →
    target ≠ .processing → fits status target

theorem LinkedAs.commandMoved {CA : Table commandAttempts} (hfit : Fit fits)
    (hroutes : (∃ id, call.op = .process id) → RoutesWithin fits)
    (h : LinkedAs fits t.jobs t.commands) (hmoved : CommandMoved cfg call t c c' CA C O D L) :
    LinkedAs fits t.jobs C := by
  refine h.commandPut hmoved.put fun j hj hlink hold => ?_
  rcases hmoved.linked (hfit.delegated _ _ hold) with hprocess | hunlinked
  · rcases hmoved.put.allowed with hvalid | ⟨hsame, -⟩
    · exact hroutes hprocess _ _ _ hold hvalid hmoved.status
    · exact hsame ▸ hold
  · exact absurd hlink (hunlinked j (mem_rows_iff.mpr hj))

-- ---- every effect

open LinkedAs

theorem LinkedAs.effect (hfit : Fit fits)
    (hroutes : (∃ id, call.op = .process id) → RoutesWithin fits)
    (h : LinkedAs fits t.jobs t.commands) (he : Effect cfg call s t t') :
    LinkedAs fits t'.jobs t'.commands := by
  cases he with
  | aside | decided _ | requestsSettled _ | requestAdded _ | preemptionsSettled _
  | preemptionAdded _ | leaseBumped _ => exact h
  | jobAdded hadd => exact jobAdded (t := t) hfit h hadd
  | jobClaimed hclaimed =>
    exact h.putJob hclaimed.stored WorkerJob.sameJob_claimed hclaimed.jobs
      fun target => hfit.claimed _ target hclaimed.claimable.status
  | jobTouched htouched =>
    refine h.putJob htouched.stored htouched.same htouched.jobs fun target hold => ?_
    rw [htouched.status]
    exact hold
  | jobMoved hmoved => exact jobMoved (t := t) hfit h hmoved
  | commandAdded hadd =>
    -- nothing is linked to a Command that was not there
    refine putCommand (C := t.commands) h hadd.put fun j hj hlink => ?_
    obtain ⟨c2, hc2, -⟩ := h j hj _ hlink
    rw [hadd.fresh] at hc2
    cases hc2
  | commandMoved hmoved => exact commandMoved (t := t) hfit hroutes h hmoved
  | commandClaimed hclaimed =>
    refine commandPut (t := t) h hclaimed.put fun j hj hlink _ => ?_
    exact absurd hlink (hclaimed.unlinked j (mem_rows_iff.mpr hj))
  | commandTouched htouched =>
    refine commandPut (t := t) h htouched.put fun j hj hlink hold => ?_
    -- a PROCESSING Command is linked to no job
    have hdelegated := hfit.delegated _ _ hold
    rw [htouched.processing] at hdelegated
    cases hdelegated

-- ==== the instances

/-- The Command has the status that goes with the job's. -/
def Paired (status : WorkerJobStatus) (target : CommandStatus) : Prop :=
  target = status.commandStatus

theorem paired_fit : Fit Paired where
  follows _ := rfl
  claimed status target hstatus hold := by
    rcases hstatus with rfl | rfl | rfl <;> exact hold
  retried _ hold := hold
  delegated status target hold := by
    subst hold
    cases status <;> rfl

/-- The Command waits or is over. -/
def Delegated (_ : WorkerJobStatus) (target : CommandStatus) : Prop :=
  target.delegated = true

theorem delegated_fit : Fit Delegated where
  follows status := paired_fit.delegated status _ rfl
  claimed _ _ _ hold := hold
  retried _ hold := hold
  delegated _ _ hold := hold

theorem delegated_routes : RoutesWithin Delegated := by
  intro status source target hold hvalid hne
  unfold Delegated at *
  cases source <;> cases target <;> first
    | rfl
    | exact absurd hold (by decide)
    | exact absurd hvalid (by decide)
    | exact absurd rfl hne

theorem linkedAs_initial (W : Surroundings) :
    LinkedAs fits (State.initial W).jobs (State.initial W).commands := by
  intro j hj
  cases hj

theorem delegated_of_reachable (h : Reachable cfg s) :
    LinkedAs Delegated s.jobs s.commands :=
  Reachable.of_effects (I := fun s => LinkedAs Delegated s.jobs s.commands) linkedAs_initial
    (fun _ _ _ _ ht he => ht.effect delegated_fit (fun _ => delegated_routes) he) h

/-- The calls a worker, an operator, a scheduler or an API executor
makes: everything but `process`. -/
def Unrouted (_ : State) (call : Call) : Prop :=
  ∀ commandId, call.op ≠ .process commandId

/-- Effects of such a call keep Commands and jobs paired. -/
theorem Paired.effect (hcall : ∀ commandId, call.op ≠ .process commandId)
    (h : LinkedAs Paired t.jobs t.commands) (he : Effect cfg call s t t') :
    LinkedAs Paired t'.jobs t'.commands :=
  h.effect paired_fit (fun ⟨commandId, hop⟩ => absurd hop (hcall commandId)) he

/-- In every run of such calls each Command is paired with its job. -/
theorem paired_of_reachable (h : (machine cfg).Reachable Unrouted s) :
    LinkedAs Paired s.jobs s.commands :=
  Allowed.of_effects linkedAs_initial (fun _ _ _ _ hcall ht he => Paired.effect hcall ht he) h

end ThreadsPlatform
