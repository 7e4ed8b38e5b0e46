/-
Which operations can find a Command where it should not be.

Two errors say that a Command and its job have drifted apart:
COMMAND_STATE_CONFLICT, and a refused Command transition. Few helpers
can raise them, and only of a Command that is not `Paired` with its job;
everything else an operation calls raises other errors or none.
`NoMismatch` is proved helper by helper, then for every call in a state
in which jobs and Commands are paired. With that, Commands and jobs
agree in every run without `process` (`command_agrees_with_job`).
-/
import ThreadsPlatform.Proofs.Pairing

namespace ThreadsPlatform

open Relational Table

variable {ownerType : AccountExecutionOwnerType} {ambiguous retryable : Bool} {call : Call}
  {a : CommandAttempt} {envelope : CommandEnvelope} {status target : CommandStatus}
  {document payload : Document} {req : EnqueueRequest} {n priority : Int} {command : Option Command}
  {previous : Option CommandAttempt} {result : Option Document} {g : Option Int}
  {retryAt : Option Time} {route : Route}
  {code commandId commandType correlationId detail kind ownerId reason : String} {e : Time}
  {accountId : Uuid} {outcome : WorkerJobAttemptStatus} {p : WorkerJobPreemption}
  {worker : WorkerNode}

-- ==== the errors

/-- The error of a Command that is not where its job needs it. -/
def Failure.Mismatch (e : Failure) : Prop :=
  e = .control .commandStateConflict ∨ ∃ source target, e = .invalidTransition source target

@[simp] theorem Failure.mismatch_iff {e : Failure} :
    e.Mismatch ↔ e = .control .commandStateConflict
      ∨ ∃ source target, e = .invalidTransition source target :=
  Iff.rfl

/-- The computation finds no Command out of place. -/
abbrev NoMismatch {α : Type} (x : Except Failure α) : Prop :=
  Avoids Failure.Mismatch x

variable {cfg : Settings} {d : Draws} {now : Time} {s s' : State} {j j' : WorkerJob}
  {jobId w τ : Uuid} {c c' : Command}

section Rows

variable {κ ρ : Type} [DecidableEq κ] {S : Schema κ ρ} {t : Table S} {r : ρ}

@[simp] theorem addRow_noMismatch : NoMismatch (addRow t r) := by
  simp [addRow]

@[simp] theorem updateRow_noMismatch : NoMismatch (updateRow t r) := by
  unfold updateRow
  split <;> simp

end Rows

-- ==== domain

section Documents

variable {urlsplit : String → UrlVerdict}

mutual

@[simp] theorem rejectSecretFields_noMismatch :
    ∀ v, NoMismatch (rejectSecretFields urlsplit v)
  | .obj fields => by
      rw [rejectSecretFields]
      exact rejectSecretFieldsObj_noMismatch fields
  | .arr items => by
      rw [rejectSecretFields]
      exact rejectSecretFieldsArr_noMismatch items
  | .str text => by
      rw [rejectSecretFields]
      split <;> simp
  | .null | .bool _ | .int _ | .float _ => by
      rw [rejectSecretFields]
      exact avoids_pure ()

theorem rejectSecretFieldsObj_noMismatch :
    ∀ fields, NoMismatch (rejectSecretFieldsObj urlsplit fields)
  | [] => by
      rw [rejectSecretFieldsObj]
      exact avoids_pure ()
  | (k, v) :: fields => by
      rw [rejectSecretFieldsObj]
      simp [rejectSecretFields_noMismatch v, rejectSecretFieldsObj_noMismatch fields]

theorem rejectSecretFieldsArr_noMismatch :
    ∀ items, NoMismatch (rejectSecretFieldsArr urlsplit items)
  | [] => by
      rw [rejectSecretFieldsArr]
      exact avoids_pure ()
  | v :: items => by
      rw [rejectSecretFieldsArr]
      simp [rejectSecretFields_noMismatch v, rejectSecretFieldsArr_noMismatch items]

end

@[simp] theorem validateDocument_noMismatch {document : Option Document} :
    NoMismatch (validateDocument urlsplit document) := by
  unfold validateDocument
  split <;> simp

open WorkerJob

@[simp] theorem WorkerJob.postInit_noMismatch : NoMismatch (j.postInit urlsplit) := by
  simp [postInit]

@[simp] theorem WorkerJob.saveCheckpoint_noMismatch :
    NoMismatch (j.saveCheckpoint urlsplit w τ now document) := by
  simp [saveCheckpoint]

@[simp] theorem WorkerJob.complete_noMismatch :
    NoMismatch (j.complete urlsplit w τ now document) := by
  simp [complete]

end Documents

@[simp] theorem WorkerJob.renew_noMismatch : NoMismatch (j.renew w τ now e) := by
  simp [renew]

@[simp] theorem WorkerJob.cancel_noMismatch : NoMismatch (j.cancel w τ now reason) := by
  simp [cancel]

@[simp] theorem WorkerJob.fail_noMismatch :
    NoMismatch (j.fail w τ now code retryable ambiguous retryAt) := by
  simp [fail]

@[simp] theorem WorkerJob.requireIntervention_noMismatch :
    NoMismatch (j.requireIntervention w τ now) := by
  simp [requireIntervention]

@[simp] theorem WorkerJob.suspendForIntervention_noMismatch :
    NoMismatch (j.suspendForIntervention now code) := by
  simp [suspendForIntervention]

open Command

/-- The transition table is all that `transition` can mismatch. -/
theorem Command.transition_noMismatch {code : Option String}
    (h : validTransition c.status target = true) :
    NoMismatch (c.transition target now code result retryAt) := by
  simp [transition, h]

-- ==== repositories

namespace State

@[simp] theorem tryAcquire_noMismatch {operationClass : OperationClass} :
    NoMismatch (s.tryAcquire accountId ownerType ownerId operationClass now e) := by
  unfold tryAcquire
  split <;> simp

@[simp] theorem moveLeaseExpiry_noMismatch {g : Int} :
    NoMismatch (s.moveLeaseExpiry accountId ownerType ownerId g now e) := by
  unfold moveLeaseExpiry
  split <;> simp

@[simp] theorem claimJob_noMismatch : NoMismatch (s.claimJob jobId w now e τ g) := by
  have habandon : ∀ jobId, NoMismatch (s.abandonRunningAttempt jobId now) := by
    intro jobId
    unfold abandonRunningAttempt
    split <;> simp
  unfold claimJob
  split
  · simp
  · split <;> simp [habandon]

end State

@[simp] theorem enqueueCommandResult_noMismatch {lifetime : Duration} {destination : String} :
    NoMismatch (enqueueCommandResult s c now lifetime destination d) := by
  simp [enqueueCommandResult]

-- ==== WorkerJobService

namespace WorkerJobService

@[simp] theorem lockedJob_noMismatch : NoMismatch (lockedJob s jobId) := by
  simp [lockedJob]

@[simp] theorem runningAttempt_noMismatch : NoMismatch (runningAttempt s jobId) := by
  simp [runningAttempt]

@[simp] theorem commandForJob_noMismatch : NoMismatch (commandForJob s j) := by
  unfold commandForJob
  split <;> simp

@[simp] theorem renewAccountCoordination_noMismatch :
    NoMismatch (renewAccountCoordination now s j) := by
  unfold renewAccountCoordination
  split
  · simp
  · split
    · simp
    · split <;> simp [State.renewLease]

@[simp] theorem releaseAccountCoordination_noMismatch :
    NoMismatch (releaseAccountCoordination now s j g) := by
  unfold releaseAccountCoordination
  split <;> simp [State.releaseLease]

@[simp] theorem addIntervention_noMismatch {workerId : Option Uuid} :
    NoMismatch (addIntervention d now s j workerId kind detail) := by
  unfold addIntervention
  split <;> simp [WorkerIntervention.create]

@[simp] theorem cancelIntervention_noMismatch : NoMismatch (cancelIntervention now s jobId) := by
  unfold cancelIntervention
  split <;> simp

@[simp] theorem closeAttempt_noMismatch {a : WorkerJobAttempt} {code : Option String} :
    NoMismatch (closeAttempt now s a outcome code) := by
  simp [closeAttempt]

@[simp] theorem closeAttempt?_noMismatch {a : Option WorkerJobAttempt} :
    NoMismatch (closeAttempt? now s a outcome code) := by
  unfold closeAttempt?
  split <;> simp

@[simp] theorem storeJob_noMismatch : NoMismatch (storeJob s j) := by
  simp [storeJob]

-- ---- cancel requests, preemptions

@[simp] theorem supersedePendingCancel_noMismatch :
    NoMismatch (supersedePendingCancel now s jobId reason) := by
  unfold supersedePendingCancel
  split <;> simp [WorkerJobCancelRequest.supersede]

/-- A loop over preemptions that are each resolved and stored. -/
@[simp] theorem resolveAll_noMismatch {ps : List WorkerJobPreemption}
    {status : WorkerJobPreemptionStatus} :
    NoMismatch (ps.foldlM (fun s preemption => do
      let preemption ← preemption.resolve status now reason
      let preemptions ← updateRow s.preemptions preemption
      return { s with preemptions }) s) :=
  avoids_foldlM fun _ _ => by simp [WorkerJobPreemption.resolve]

@[simp] theorem satisfyPreemptionsForVictim_noMismatch :
    NoMismatch (satisfyPreemptionsForVictim now s jobId reason) :=
  resolveAll_noMismatch

@[simp] theorem supersedePreemptionsForPreemptor_noMismatch :
    NoMismatch (supersedePreemptionsForPreemptor now s jobId) := by
  simp only [supersedePreemptionsForPreemptor, avoids_bind]
  exact ⟨resolveAll_noMismatch, fun s1 _ => avoids_foldlM fun _ _ => by simp⟩

@[simp] theorem endPreemptor_noMismatch : NoMismatch (endPreemptor now s j) := by
  simp [endPreemptor]

@[simp] theorem validateMaterializedActivityLink_noMismatch :
    NoMismatch (validateMaterializedActivityLink s j) := by
  simp [validateMaterializedActivityLink]

@[simp] theorem requestCancelInTransaction_noMismatch :
    NoMismatch (requestCancelInTransaction d now s j reason) := by
  have hadd : ∀ s a, NoMismatch (requestCancelInTransaction.add d now j reason s a) := by
    simp [requestCancelInTransaction.add, WorkerJobCancelRequest.create]
  unfold requestCancelInTransaction
  split <;> simp [validateCancelTarget, WorkerJobCancelRequest.supersede, hadd]

@[simp] theorem requestPreemptionCancel_noMismatch :
    NoMismatch (requestPreemptionCancel d now s j) := by
  unfold requestPreemptionCancel
  split
  · exact avoids_ok _
  · exact avoids_ok _
  case h_3 e _ he =>
    exact avoids_error.mpr (requestCancelInTransaction_noMismatch e he)

@[simp] theorem linkCancelRequest_noMismatch {r : WorkerJobCancelRequest} :
    NoMismatch (linkCancelRequest s p r) := by
  simp [linkCancelRequest]

@[simp] theorem addPreemptionIfAbsent_noMismatch : NoMismatch (addPreemptionIfAbsent s p) := by
  unfold addPreemptionIfAbsent
  split <;> simp

@[simp] theorem arbitrateCandidate_noMismatch {preemptor candidate : WorkerJob} :
    NoMismatch (arbitrateCandidate d now preemptor accountId s candidate) := by
  simp [arbitrateCandidate, WorkerJobPreemption.create]
  intros
  split <;> simp

@[simp] theorem arbitrateHighPriorityJob_noMismatch :
    NoMismatch (arbitrateHighPriorityJob d now s j accountId) := by
  unfold arbitrateHighPriorityJob
  split
  · simp
  · exact avoids_foldlM fun _ _ => arbitrateCandidate_noMismatch

-- ---- enqueue and claims

@[simp] theorem commandToLink_noMismatch : NoMismatch (commandToLink now s req) := by
  unfold commandToLink
  split <;> simp

@[simp] theorem workerToAssign_noMismatch {assignment : Option AccountWorkerAssignment}
    {affinity : Bool} : NoMismatch (workerToAssign req assignment affinity) := by
  simp [workerToAssign]

@[simp] theorem ensureCapabilityNotBlocked_noMismatch {name : String} :
    NoMismatch (ensureCapabilityNotBlocked cfg name) := by
  unfold ensureCapabilityNotBlocked
  split <;> simp

@[simp] theorem moveToWaitingExecution_noMismatch :
    NoMismatch (moveToWaitingExecution now s command) := by
  unfold moveToWaitingExecution
  split
  · simp
  · split
    case isTrue hvalidated =>
      refine avoids_bind.mpr ⟨transition_noMismatch ?_, by simp⟩
      rw [hvalidated]
      rfl
    · simp

@[simp] theorem arbitrateForCommand_noMismatch :
    NoMismatch (arbitrateForCommand d now s command j) := by
  unfold arbitrateForCommand
  split <;> simp

@[simp] theorem enqueueInTransaction_noMismatch :
    NoMismatch (enqueueInTransaction cfg d now req s) := by
  simp [enqueueInTransaction]

@[simp] theorem requestCancelForWaitingPreemption_noMismatch :
    NoMismatch (requestCancelForWaitingPreemption d now s j) := by
  unfold requestCancelForWaitingPreemption
  split
  · simp
  · dsimp only
    refine avoids_bind.mpr ⟨resolveAll_noMismatch, fun s1 _ => ?_⟩
    split
    · simp
    · simp only [avoids_bind, requestPreemptionCancel_noMismatch, true_and]
      rintro ⟨request, s2⟩ -
      dsimp only
      split
      · simp
      · simp only [avoids_bind, avoids_pure, implies_true, and_true]
        exact avoids_foldlM fun _ _ => linkCancelRequest_noMismatch

@[simp] theorem acquireCoordination_noMismatch :
    NoMismatch (acquireCoordination cfg now s j) := by
  unfold acquireCoordination
  split <;> simp

theorem claimStored_noMismatch : NoMismatch (claimStored cfg d now worker s j g) := by
  simp only [claimStored, avoids_bind, State.claimJob_noMismatch, true_and]
  rintro ⟨claimed, s1⟩ -
  dsimp only
  split <;> simp [WorkerJobAttempt.start]

theorem claimCandidate_noMismatch : NoMismatch (claimCandidate cfg d now worker s j) := by
  simp only [claimCandidate, avoids_ite, avoids_bind, avoids_pure,
    acquireCoordination_noMismatch, true_and, implies_true]
  rintro - - ⟨acquired, s1⟩ -
  dsimp only
  split <;> simp [claimStored_noMismatch]

theorem claimFirst_noMismatch {candidates : List WorkerJob} :
    NoMismatch (claimFirst cfg d now worker candidates s) := by
  induction candidates generalizing s with
  | nil => simp [claimFirst]
  | cons candidate candidates ih =>
    simp only [claimFirst, avoids_bind, claimCandidate_noMismatch, true_and]
    rintro ⟨answer, s1⟩ -
    dsimp only
    split <;> simp [ih]

theorem claimNext_noMismatch {workerId : Uuid} :
    NoMismatch (claimNext cfg d now workerId s) := by
  simp [claimNext, claimFirst_noMismatch]

-- ---- Commands that must match

/-- The Command of a job, if it is stored, has this status. -/
def CommandAt (C : Table commands) (j : WorkerJob) (status : CommandStatus) : Prop :=
  ∀ c, j.commandId = some c.commandId → C.get? c.commandId = some c → c.status = status

theorem CommandAt.same {C : Table commands} (h : CommandAt C j status) (hsame : j.SameJob j') :
    CommandAt C j' status := by
  intro c hc
  rw [hsame.commandId] at hc
  exact h c hc

theorem setCommandWaitingIntervention_noMismatch (h : CommandAt s.commands j .waitingExecution) :
    NoMismatch (setCommandWaitingIntervention now s j) := by
  unfold setCommandWaitingIntervention
  refine .bind (by simp) fun command hcommand => ?_
  rcases commandForJob_ok hcommand with ⟨-, rfl⟩ | ⟨c, hlink, rfl, hc⟩
  · exact avoids_pure s
  · have hstatus := h c hlink hc
    simp only [hstatus, if_true]
    refine .bind (transition_noMismatch ?_) (by simp)
    rw [hstatus]
    rfl

theorem setCommandWaitingExecution_noMismatch (h : CommandAt s.commands j .waitingIntervention) :
    NoMismatch (setCommandWaitingExecution now s j) := by
  unfold setCommandWaitingExecution
  refine .bind (by simp) fun command hcommand => ?_
  rcases commandForJob_ok hcommand with ⟨-, rfl⟩ | ⟨c, hlink, rfl, hc⟩
  · exact avoids_pure s
  · have hstatus := h c hlink hc
    simp only [hstatus, if_true]
    refine .bind (transition_noMismatch ?_) (by simp)
    rw [hstatus]
    rfl

theorem finalizeCommand_noMismatch {source : CommandStatus} {code : Option String}
    (h : CommandAt s.commands j source)
    (hwaits : source = .waitingExecution ∨ source = .waitingIntervention)
    (hvalid : validTransition source target = true) :
    NoMismatch (finalizeCommand cfg d now s j target result code) := by
  unfold finalizeCommand
  refine .bind (by simp) fun command hcommand => ?_
  rcases commandForJob_ok hcommand with ⟨-, rfl⟩ | ⟨c, hlink, rfl, hc⟩
  · exact avoids_pure s
  · have hstatus := h c hlink hc
    refine .bind (avoids_require.mpr (.inl (hstatus ▸ hwaits))) fun _ _ => ?_
    exact .bind (transition_noMismatch (hstatus ▸ hvalid)) fun _ _ => by simp

/-- The Command of the job with this id has the status that goes with
the job's. -/
def JobPaired (s : State) (jobId : Uuid) : Prop :=
  ∀ j, s.jobs.get? jobId = some j → CommandAt s.commands j j.status.commandStatus

theorem jobPaired_of_linked (h : LinkedAs Paired s.jobs s.commands) (jobId : Uuid) :
    JobPaired s jobId := by
  intro j hj c hlink hc
  have hid : j.id = jobId := key_of_get? hj
  exact h.command (hid ▸ hj) hlink hc

open WorkerJob

/-- The Command of a job whose owner reports waits for execution. -/
theorem JobPaired.owned (h : JobPaired s jobId) (hj : lockedJob s jobId = .ok j)
    (hown : j.ownsLease w τ now = true) (hsame : j.SameJob j') :
    CommandAt s.commands j' .waitingExecution := by
  obtain ⟨rfl, hstored⟩ := lockedJob_ok hj
  have hat := h j hstored
  rw [(ownsLease_iff.mp hown).1] at hat
  exact hat.same hsame

theorem WorkerJobStatus.commandStatus_waits {status : WorkerJobStatus}
    (h : status.terminal = false) : status.commandStatus = .waitingExecution
      ∨ status.commandStatus = .waitingIntervention := by
  cases status <;> first | exact .inl rfl | exact .inr rfl | cases h

-- ---- the operations

theorem renew_noMismatch : NoMismatch (renew cfg now jobId w τ s) := by
  simp [renew]

theorem checkpoint_noMismatch : NoMismatch (checkpoint cfg now jobId w τ document s) := by
  simp [checkpoint]

theorem requestCancel_noMismatch : NoMismatch (requestCancel d now jobId reason s) := by
  simp [requestCancel]

theorem reconcile_noMismatch : NoMismatch (reconcile now w s) := by
  simp [reconcile]

theorem complete_noMismatch {result : Document} (h : JobPaired s jobId) :
    NoMismatch (complete cfg d now jobId w τ result s) := by
  unfold complete
  refine .bind (by simp) fun j hj => .bind (by simp) fun _ _ => ?_
  refine .bind (by simp) fun completed hcompleted => .bind (by simp) fun j' hj' => ?_
  refine .bind (by simp) fun s1 h1 => .bind (by simp) fun s2 h2 => ?_
  refine .bind (by simp) fun a ha => .bind (by simp) fun s3 h3 => ?_
  refine .bind (by simp) fun s4 h4 => .bind ?_ fun _ _ => by simp
  rw [orThrow_eq_ok] at hj'
  subst hj'
  obtain ⟨hown, hleaves, -⟩ := complete_leaves hcompleted
  have hat := h.owned hj hown hleaves.toSameJob
  obtain ⟨R, rfl, -⟩ := supersedePendingCancel_ok h1
  obtain ⟨P, rfl, -, -⟩ := satisfyPreemptionsForVictim_ok h2
  obtain ⟨A, rfl, -⟩ := closeAttempt_ok (runningAttempt_ok ha) h3
  obtain ⟨J, rfl, -⟩ := storeJob_ok h4
  exact finalizeCommand_noMismatch hat (.inl rfl) rfl

theorem acknowledgeCancel_noMismatch {requestId : Uuid} {generation : Int} {phase : String}
    (h : JobPaired s jobId) :
    NoMismatch (acknowledgeCancel cfg d now jobId w τ requestId generation phase s) := by
  unfold acknowledgeCancel
  refine .bind (by simp) fun j hj => .bind (by simp) fun _ _ => .bind (by simp) fun _ _ => ?_
  refine .bind (by simp) fun _ _ => .bind (by simp) fun _ _ => ?_
  refine .bind (by simp) fun a ha => .bind (by simp) fun _ _ => ?_
  refine .bind (by simp) fun r hr => .bind (by simp) fun _ _ => .bind (by simp) fun _ _ => ?_
  refine .bind (by simp) fun cancelled hcancelled => .bind (by simp) fun j' hj' => ?_
  refine .bind (by simp [WorkerJobCancelRequest.acknowledge]) fun r' hr' => ?_
  refine .bind (by simp) fun R hR => .bind (by simp) fun s1 h1 => ?_
  refine .bind (by simp) fun s2 h2 => .bind ?_ fun _ _ => by simp
  rw [orThrow_eq_ok] at hj'
  subst hj'
  obtain ⟨hown, hleaves, -⟩ := cancel_leaves hcancelled
  have hat := h.owned hj hown hleaves.toSameJob
  obtain ⟨A, rfl, -⟩ :=
    closeAttempt_ok (s := { s with cancelRequests := R }) (runningAttempt_ok ha) h1
  obtain ⟨J, rfl, -⟩ := storeJob_ok h2
  exact finalizeCommand_noMismatch hat (.inl rfl) rfl

theorem fail_noMismatch (h : JobPaired s jobId) :
    NoMismatch (fail cfg d now jobId w τ code retryable ambiguous s) := by
  unfold fail
  refine .bind (by simp) fun j hj => .bind (by simp) fun _ _ => ?_
  refine .bind (by simp) fun failed hfailed => .bind (by simp) fun j' hj' => ?_
  refine .bind (by simp) fun s1 h1 => .bind (by simp) fun s2 h2 => ?_
  refine .bind (by simp) fun a ha => ?_
  rw [orThrow_eq_ok] at hj'
  subst hj'
  obtain ⟨hown, hleaves, hstatus⟩ := fail_leaves hfailed
  obtain ⟨R, rfl, -⟩ := supersedePendingCancel_ok h1
  obtain ⟨P, rfl, -, -⟩ := satisfyPreemptionsForVictim_ok h2
  have hat := h.owned hj hown hleaves.toSameJob
  rcases hstatus with hstatus | hstatus | hstatus <;>
    simp only [hstatus, reduceCtorEq, if_true, if_false]
  · -- suspended for an operator
    refine .bind (by simp) fun s3 h3 => .bind ?_ fun _ _ => by simp
    obtain ⟨I, rfl, -⟩ := addIntervention_ok h3
    exact setCommandWaitingIntervention_noMismatch hat
  · -- scheduled again: the Command is not touched
    simp
  · -- final
    refine .bind (by simp) fun s3 h3 => .bind (by simp) fun s4 h4 => ?_
    refine .bind (by simp) fun s5 h5 => .bind ?_ fun _ _ => by simp
    cases h3
    obtain ⟨A, rfl, -⟩ := closeAttempt_ok (runningAttempt_ok ha) h4
    obtain ⟨J, rfl, -⟩ := storeJob_ok h5
    exact finalizeCommand_noMismatch hat (.inl rfl) rfl

theorem requestIntervention_noMismatch (h : JobPaired s jobId) :
    NoMismatch (requestIntervention d now jobId w τ kind detail s) := by
  unfold requestIntervention
  refine .bind (by simp) fun _ _ => .bind (by simp) fun j hj => .bind (by simp) fun _ _ => ?_
  refine .bind (by simp) fun suspended hsuspended => .bind (by simp) fun j' hj' => ?_
  refine .bind (by simp) fun s1 h1 => .bind (by simp) fun s2 h2 => ?_
  refine .bind (by simp) fun a ha => ?_
  refine .bind (by simp) fun s3 h3 => .bind (by simp) fun s4 h4 => ?_
  refine .bind (by simp) fun s5 h5 => .bind ?_ fun _ _ => by simp
  rw [orThrow_eq_ok] at hj'
  subst hj'
  obtain ⟨hown, hleaves, -⟩ := requireIntervention_leaves hsuspended
  have hat := h.owned hj hown hleaves.toSameJob
  obtain ⟨R, rfl, -⟩ := supersedePendingCancel_ok h1
  obtain ⟨P, rfl, -, -⟩ := satisfyPreemptionsForVictim_ok h2
  obtain ⟨A, rfl, -⟩ := closeAttempt_ok (runningAttempt_ok ha) h3
  obtain ⟨I, rfl, -⟩ := addIntervention_ok h4
  obtain ⟨J, rfl, -⟩ := storeJob_ok h5
  refine setCommandWaitingIntervention_noMismatch (hat.same ?_)
  split <;> constructor <;> rfl

theorem resolveIntervention_noMismatch {interventionId : Uuid} {requeue confirmed : Bool}
    {resolvedBy : String} (h : LinkedAs Paired s.jobs s.commands) :
    NoMismatch (resolveIntervention cfg d now interventionId requeue confirmed resolvedBy s) := by
  unfold resolveIntervention
  refine .bind (by simp) fun i _ => .bind (by simp) fun _ _ => .bind (by simp) fun j hj => ?_
  cases hresolved : j.resolveIntervention now requeue confirmed with
  | error e => simp
  | ok j' =>
    have hresolved : j.Resolved now requeue j' := resolveIntervention_ok hresolved
    have hat := jobPaired_of_linked h j.id j (lockedJob_ok hj).2
    rw [hresolved.waiting] at hat
    refine .bind (by simp) fun _ hpure => .bind (by simp) fun I _ => ?_
    refine .bind (by simp) fun s1 h1 => ?_
    cases hpure
    obtain ⟨J, rfl, -⟩ := storeJob_ok h1
    split
    · exact .bind (setCommandWaitingExecution_noMismatch (hat.same hresolved.toSameJob)) (by simp)
    · exact .bind (finalizeCommand_noMismatch (hat.same hresolved.toSameJob) (.inr rfl) rfl)
        (by simp)

theorem recoverJob_noMismatch (hat : CommandAt s.commands j j.status.commandStatus)
    (hopen : j.status.terminal = false) : NoMismatch (recoverJob cfg d now s j) := by
  unfold recoverJob
  refine .bind (by simp) fun s1 h1 => ?_
  obtain ⟨R, rfl, -⟩ := supersedePendingCancel_ok h1
  have hwaits := WorkerJobStatus.commandStatus_waits hopen
  split
  · -- at the deadline
    refine .bind (by simp) fun s2 h2 => .bind (by simp) fun s3 h3 => ?_
    refine .bind (by simp) fun s4 h4 => .bind (by simp) fun s5 h5 => ?_
    refine .bind ?_ fun _ _ => by simp
    obtain ⟨A, rfl, -⟩ := closeAttempt?_ok h2
    obtain ⟨I, rfl, -⟩ := cancelIntervention_ok h3
    obtain ⟨J, rfl, -⟩ := storeJob_ok h4
    obtain ⟨L, rfl, -⟩ := releaseAccountCoordination_ok h5
    refine finalizeCommand_noMismatch
      (hat.same (j.expire_leaves now "JOB_DEADLINE_EXPIRED").1.toSameJob) hwaits ?_
    rcases hwaits with hwaits | hwaits <;> rw [hwaits] <;> rfl
  · split
    · -- no attempt left
      refine .bind (by simp) fun s2 h2 => .bind (by simp) fun s4 h4 => ?_
      refine .bind (by simp) fun s5 h5 => .bind ?_ fun _ _ => by simp
      obtain ⟨A, rfl, -⟩ := closeAttempt?_ok h2
      obtain ⟨J, rfl, -⟩ := storeJob_ok h4
      obtain ⟨L, rfl, -⟩ := releaseAccountCoordination_ok h5
      refine finalizeCommand_noMismatch
        (hat.same (j.finalizeFailure_leaves now "WORKER_JOB_ATTEMPTS_EXHAUSTED").1.toSameJob)
        hwaits ?_
      rcases hwaits with hwaits | hwaits <;> rw [hwaits] <;> rfl
    · split
      case isTrue hlost =>
        refine .bind (by simp) fun s2 h2 => .bind (by simp) fun j' hj' => ?_
        refine .bind (by simp) fun s4 h4 => .bind (by simp) fun s5 h5 => ?_
        refine .bind (by simp) fun s6 h6 => .bind ?_ fun _ _ => by simp
        obtain ⟨-, hleaves, -⟩ := suspendForIntervention_leaves hj'
        obtain ⟨A, rfl, -⟩ := closeAttempt?_ok h2
        obtain ⟨J, rfl, -⟩ := storeJob_ok h4
        obtain ⟨L, rfl, -⟩ := releaseAccountCoordination_ok h5
        obtain ⟨I, rfl, -⟩ := addIntervention_ok h6
        rw [hlost.1] at hat
        exact setCommandWaitingIntervention_noMismatch (hat.same hleaves.toSameJob)
      · simp

/-- The loop of `recover_expired` keeps Commands and jobs paired, so no
iteration finds a Command out of place. -/
theorem recoverExpired_noMismatch {limit : Nat} (hop : call.op = .recoverExpired limit)
    (h : LinkedAs Paired s.jobs s.commands) :
    NoMismatch (recoverExpired cfg call.draws call.now limit s) := by
  unfold recoverExpired
  refine .bind ?_ fun _ _ => by simp
  have hcall : ∀ commandId, call.op ≠ .process commandId := by
    intro commandId
    rw [hop]
    simp
  refine Avoids.foldlM (Recovering cfg call limit s) (fun _ _ _ _ hr hstep => hr.step hop hstep)
    ?_ .start
  intro j js t hr
  have hpaired : LinkedAs Paired t.jobs t.commands :=
    Effects.invariant (fun _ _ ht he => Paired.effect hcall ht he) hr.effects h
  exact recoverJob_noMismatch (jobPaired_of_linked hpaired j.id j (hr.stored j (.head _)))
    (not_terminal_of_expired (mem_listExpired (hr.listed j (.head _))).2)

end WorkerJobService

-- ==== CommandRuntime

namespace CommandRuntime

@[simp] theorem storeCommand_noMismatch : NoMismatch (storeCommand s c) := by
  simp [storeCommand]

@[simp] theorem closeAttempt_noMismatch {outcome : AttemptStatus} {code : Option String} :
    NoMismatch (closeAttempt now s a outcome code) := by
  simp [closeAttempt]

@[simp] theorem enqueueResult_noMismatch : NoMismatch (enqueueResult cfg d now s c) :=
  enqueueCommandResult_noMismatch

@[simp] theorem addDecision_noMismatch {decision : CapabilityRouteDecision} :
    NoMismatch (addDecision s decision) := by
  simp [addDecision]

-- ---- receive

@[simp] theorem create_noMismatch {id : Uuid} {version : Int} {createdAt receivedAt : Time}
    {deadlineAt : Option Time} :
    NoMismatch (create id commandId correlationId accountId commandType payload version
      priority createdAt receivedAt deadlineAt) := by
  simp [create, postInit]

@[simp] theorem receivedCommand_noMismatch : NoMismatch (receivedCommand cfg d now envelope) := by
  unfold receivedCommand
  refine .bind (by simp) fun c hc => ?_
  have hreceived : c.status = .received := (create_ok hc).2.1
  split
  · exact transition_noMismatch (by rw [hreceived]; rfl)
  · split
    · exact transition_noMismatch (by rw [hreceived]; rfl)
    · exact avoids_pure c

theorem receive_noMismatch : NoMismatch (receive cfg d now envelope s) := by
  unfold receive
  refine .bind (by simp) fun c _ => .bind (by simp) fun _ _ => ?_
  split <;> simp

theorem dispatch_noMismatch :
    NoMismatch (dispatch d now commandId correlationId accountId commandType payload priority
      s) := by
  unfold dispatch
  refine .bind (by simp) fun c _ => ?_
  split <;> simp

-- ---- routing

theorem endUnsupported_noMismatch (h : Routable c.status) :
    NoMismatch (endUnsupported cfg d now s c reason) := by
  unfold endUnsupported
  refine .bind (transition_noMismatch ?_) fun _ _ => by simp
  rcases h with h | h | h | h <;> rw [h] <;> rfl

theorem holdForIntervention_noMismatch (h : Routable c.status) :
    NoMismatch (holdForIntervention now s c reason) := by
  unfold holdForIntervention
  refine .bind (transition_noMismatch ?_) fun _ _ => by simp
  rcases h with h | h | h | h <;> rw [h] <;> rfl

theorem deferExecution_noMismatch (h : Routable c.status) :
    NoMismatch (deferExecution now s c reason) := by
  unfold deferExecution
  split
  · simp
  case isFalse hwaits =>
    refine .bind (transition_noMismatch ?_) fun _ _ => by simp
    rcases h with h | h | h | h
    · rw [h]; rfl
    · exact absurd h hwaits
    · rw [h]; rfl
    · rw [h]; rfl

theorem enqueueWorkerJob_noMismatch {policy : BusinessCapabilityPolicy} :
    NoMismatch (enqueueWorkerJob cfg d now s c policy route) := by
  have hinput : NoMismatch (workerJobInput c) := by
    unfold workerJobInput
    dsimp only
    split <;> simp
  simp [enqueueWorkerJob, hinput]

theorem startExecution_noMismatch (h : Routable c.status) :
    NoMismatch (startExecution cfg d now s c a g) := by
  unfold startExecution
  split
  · simp [reclaim]
  case isFalse hprocessing =>
    refine .bind (transition_noMismatch ?_) fun _ _ => by simp
    rcases h with h | h | h | h
    · rw [h]; rfl
    · rw [h]; rfl
    · exact absurd h hprocessing
    · rw [h]; rfl

theorem claimLocalApi_noMismatch {account : ThreadsAccount} (h : Routable c.status) :
    NoMismatch (claimLocalApi cfg d now s c account n route) := by
  unfold claimLocalApi
  refine .bind (by simp [CommandAttempt.create]) fun a _ => ?_
  split
  · refine .bind (by simp) fun answer _ => ?_
    obtain ⟨generation, s1⟩ := answer
    cases generation with
    | none => exact .bind (by simp) fun s1 _ => deferExecution_noMismatch h
    | some g => exact startExecution_noMismatch h
  · exact startExecution_noMismatch h

theorem routeAndClaim_noMismatch (h : Routable c.status) :
    NoMismatch (routeAndClaim cfg d now s c n) := by
  unfold routeAndClaim
  refine .bind (by simp) fun account _ => .bind (by simp) fun s1 _ => ?_
  split
  · exact endUnsupported_noMismatch h
  · exact holdForIntervention_noMismatch h
  · exact deferExecution_noMismatch h
  · split
    · exact enqueueWorkerJob_noMismatch
    · simp
  · exact claimLocalApi_noMismatch h

/-- A Command `_claim_locked` goes on with. -/
def Unsettled (status : CommandStatus) : Prop :=
  ¬ (status.terminal = true ∨ status = .waitingIntervention)

theorem Unsettled.routable (h : Unsettled status) (hreceived : status ≠ .received) :
    Routable status := by
  unfold Unsettled Routable at *
  cases status <;> simp_all [CommandStatus.terminal]

theorem validateAndRoute_noMismatch (h : Unsettled c.status) :
    NoMismatch (validateAndRoute cfg d now s c n) := by
  unfold validateAndRoute
  split
  case isTrue hreceived =>
    refine .bind (transition_noMismatch (by rw [hreceived]; rfl)) fun c' hc' => ?_
    refine .bind (by simp) fun s1 _ => routeAndClaim_noMismatch (.inl ?_)
    exact (transition_ok hc').2.1
  case isFalse hreceived => exact routeAndClaim_noMismatch (h.routable hreceived)

theorem expireCommand_noMismatch (h : Unsettled c.status) :
    NoMismatch (expireCommand cfg d now s c previous) := by
  have hvalid : validTransition c.status .expired = true := by
    unfold Unsettled at h
    cases hst : c.status <;> first | rfl | simp [hst, CommandStatus.terminal] at h
  have htransition : NoMismatch (c.transition .expired now (some "COMMAND_EXPIRED") none none) :=
    transition_noMismatch hvalid
  unfold expireCommand
  split <;> simp [htransition]

theorem claimUnheld_noMismatch (h : Unsettled c.status)
    (hprevious : previous ≠ none → c.status = .processing) :
    NoMismatch (claimUnheld cfg d now c previous s) := by
  unfold claimUnheld
  split
  · exact expireCommand_noMismatch h
  · split
    · simp
    · dsimp only
      split
      · exact validateAndRoute_noMismatch h
      case h_2 a =>
        split
        · refine .bind (by simp) fun s1 _ => .bind (transition_noMismatch ?_) (by simp)
          rw [hprevious (by simp)]
          rfl
        · exact .bind (by simp) fun s1 _ => validateAndRoute_noMismatch h

theorem claimLocked_noMismatch : NoMismatch (claimLocked cfg d now c s) := by
  unfold claimLocked
  split
  · simp
  case isFalse hopen =>
    split
    case isTrue hprocessing =>
      split
      · simp
      · exact .bind (by simp) fun a _ => claimUnheld_noMismatch hopen fun _ => hprocessing
    · exact claimUnheld_noMismatch hopen fun h => absurd rfl h

theorem process_noMismatch : NoMismatch (process cfg d now commandId s) := by
  simp [process, claimLocked_noMismatch]

theorem processNext_noMismatch {excluded : List String} :
    NoMismatch (processNext cfg d now excluded s) := by
  unfold processNext
  split <;> simp [claimLocked_noMismatch]

-- ---- local execution

variable {κ : ExecutionClaim}

@[simp] theorem updateIfLeased_noMismatch {change : Command → Command} :
    NoMismatch (updateIfLeased now κ change s) := by
  unfold updateIfLeased
  split <;> simp

theorem persistCheckpoint_noMismatch {data : Document} :
    NoMismatch (persistCheckpoint now κ data s) := by
  simp [persistCheckpoint]

@[simp] theorem renewAccountExecution_noMismatch :
    NoMismatch (renewAccountExecution cfg now s κ) := by
  unfold renewAccountExecution
  split <;> simp [State.renewLease]

@[simp] theorem releaseAccountExecution_noMismatch :
    NoMismatch (releaseAccountExecution now s κ) := by
  unfold releaseAccountExecution
  split <;> simp [State.releaseLease]

theorem heartbeat_noMismatch : NoMismatch (heartbeat cfg now κ s) := by
  simp [heartbeat]

theorem addContent_noMismatch {rows : Table contentRows} {row : ContentRow} :
    NoMismatch (State.addContentIfAbsent rows row) := by
  simp [State.addContentIfAbsent]

theorem advanceSyncState_noMismatch {rows : Table syncStates} {update : SyncStateUpdate} :
    NoMismatch (advanceSyncState rows update) := by
  unfold advanceSyncState
  refine .bind ?_ fun _ _ => by simp
  unfold State.advanceIfCurrent
  dsimp only
  split <;> simp

theorem finishSuccess_noMismatch {output : CommandExecutionOutput} :
    NoMismatch (finishSuccess cfg d now κ output s) := by
  unfold finishSuccess
  split
  · simp
  case h_2 c a howned =>
    refine .bind (avoids_foldlM fun _ _ => addContent_noMismatch) fun posts _ => ?_
    refine .bind (avoids_foldlM fun _ _ => addContent_noMismatch) fun replies _ => ?_
    refine .bind (avoids_foldlM fun _ _ => advanceSyncState_noMismatch) fun states _ => ?_
    refine .bind (transition_noMismatch ?_) fun _ _ => by simp
    rw [(ownedExecution_inr howned).2.2.1]
    rfl

theorem recordFailure_noMismatch (h : c.status = .processing) :
    NoMismatch (recordFailure cfg d now κ code retryAt c a s) := by
  unfold recordFailure
  refine .bind (transition_noMismatch ?_) fun _ _ => by simp
  rw [h]
  split <;> rfl

theorem finishFailure_noMismatch {retryAfter : Option Duration} {jitterSource : Rat → Rat → Rat} :
    NoMismatch (finishFailure cfg d now κ code retryable retryAfter jitterSource s) := by
  unfold finishFailure
  split
  · simp
  case h_2 c a howned =>
    have hprocessing := (ownedExecution_inr howned).2.2.1
    dsimp only
    split
    · refine .bind ?_ fun retryAt _ => recordFailure_noMismatch hprocessing
      simp [RetryPolicy.nextAttemptAt]
    · exact recordFailure_noMismatch hprocessing

end CommandRuntime

-- ==== every call

section Outcome

open WorkerJobService CommandRuntime

/-- While Commands and jobs are paired, no call finds a Command out of
place. -/
theorem outcome_noMismatch (h : LinkedAs Paired s.jobs s.commands) :
    NoMismatch (call.outcome cfg s) := by
  unfold Call.outcome
  cases hop : call.op <;> simp only [avoids_map]
  case enqueue => exact enqueueInTransaction_noMismatch
  case claimNext => exact claimNext_noMismatch
  case renew => exact renew_noMismatch
  case checkpoint => exact checkpoint_noMismatch
  case requestCancel => exact requestCancel_noMismatch
  case acknowledgeCancel => exact acknowledgeCancel_noMismatch (jobPaired_of_linked h _)
  case complete => exact complete_noMismatch (jobPaired_of_linked h _)
  case fail => exact fail_noMismatch (jobPaired_of_linked h _)
  case requestIntervention => exact requestIntervention_noMismatch (jobPaired_of_linked h _)
  case resolveIntervention => exact resolveIntervention_noMismatch h
  case reconcile => exact reconcile_noMismatch
  case recoverExpired => exact recoverExpired_noMismatch hop h
  case receive => exact receive_noMismatch
  case dispatch => exact dispatch_noMismatch
  case process => exact process_noMismatch
  case processNext => exact processNext_noMismatch
  case persistCheckpoint => exact persistCheckpoint_noMismatch
  case heartbeat => exact heartbeat_noMismatch
  case finishSuccess => exact finishSuccess_noMismatch
  case finishFailure => exact finishFailure_noMismatch
  case surroundings => exact avoids_pure _

end Outcome

-- ==== agreement

/-- A Command and its job tell the same story. -/
structure Agree (job : WorkerJobStatus) (command : CommandStatus) : Prop where
  waits : job = .queued ∨ job = .running ∨ job = .failedRetryable → command = .waitingExecution
  suspended : job = .waitingIntervention → command = .waitingIntervention
  succeeded : command = .succeeded ↔ job = .succeeded
  failedFinal : command = .failedFinal ↔ job = .failedFinal
  cancelled : command = .cancelled ↔ job = .cancelled
  expired : command = .expired ↔ job = .expired

theorem Paired.agree {job : WorkerJobStatus} {command : CommandStatus}
    (h : Paired job command) : Agree job command := by
  subst h
  constructor <;> cases job <;> simp [WorkerJobStatus.commandStatus]

/-- Command and WorkerJob never disagree in a run of everything but
`process`, and so no such call ever finds a Command out of place. -/
theorem command_agrees_with_job (h : (machine cfg).Reachable Unrouted s) :
    (∀ j ∈ s.jobs.rows, ∀ commandId, j.commandId = some commandId →
      ∃ c, s.commands.get? commandId = some c ∧ Agree j.status c.status)
    ∧ ∀ call, Unrouted s call →
      call.outcome cfg s ≠ .error (.control .commandStateConflict)
        ∧ ∀ source target, call.outcome cfg s ≠ .error (.invalidTransition source target) := by
  have hpaired := paired_of_reachable h
  constructor
  · intro j hj commandId hlink
    obtain ⟨c, hc, hfits⟩ := hpaired j (mem_rows_iff.mp hj) commandId hlink
    exact ⟨c, hc, hfits.agree⟩
  · intro call _
    constructor
    · intro herror
      exact outcome_noMismatch hpaired _ herror (.inl rfl)
    · intro source target herror
      exact outcome_noMismatch hpaired _ herror (.inr ⟨source, target, rfl⟩)

/-- A browse Command whose worker asks for an operator. -/
def suspendedRun : List Call := [Sample.call 1 0 (.receive (Sample.browse "browse" 0 (some 500))),
    Sample.call 2 1 (.processNext []), Sample.call 3 2 (.claimNext 2),
    Sample.call 4 3 (.requestIntervention 200 2 301 "LOGIN_REQUIRED" "LOGIN")]

open Sample in
theorem suspendedRun_unrouted : (machine settings).Reachable Unrouted (after suspendedRun) := by
  refine Allowed.run (t := 0) (.init ⟨world, rfl⟩) (by decide : admitted suspendedRun = true) ?_
  intro call hcall s commandId
  simp only [suspendedRun, List.mem_cons, List.not_mem_nil, or_false] at hcall
  rcases hcall with rfl | rfl | rfl | rfl <;> simp [Sample.call]

open Sample in
theorem command_agrees_with_job_suspended :
    ∃ j ∈ (after suspendedRun).jobs.rows, j.status = .waitingIntervention
      ∧ ∃ c ∈ (after suspendedRun).commands.rows, c.status = .waitingIntervention := by
  obtain ⟨j, hj, hstatus, hlink⟩ : ∃ j ∈ (after suspendedRun).jobs.rows,
      j.status = .waitingIntervention ∧ j.commandId = some "browse" := by decide +kernel
  obtain ⟨c, hc, hagree⟩ := (command_agrees_with_job suspendedRun_unrouted).1 j hj _ hlink
  exact ⟨j, hj, hstatus, c, mem_of_get? hc, hagree.suspended hstatus⟩

end ThreadsPlatform
