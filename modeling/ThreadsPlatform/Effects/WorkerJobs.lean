/-
Every committed `WorkerJobService` operation is a sequence of effects.

The four ways a lease owner ends its attempt (`complete`, `fail`,
`request_intervention`, `acknowledge_cancel`) write the same tables in
four different orders; each is one `jobMoved`, after the preemptions
and the intervention it also touches. `recover_expired` is a loop of
such moves, `claim_next` a loop of failed claims up to one that
succeeds.
-/
import ThreadsPlatform.Effects.Helpers

namespace ThreadsPlatform

open Relational Table

variable {req : EnqueueRequest} {limit : Nat} {command : Option Command} {g : Option Int}
  {answer : Option JobAnswer} {L : Table accountExecutionLeases} {RD : Table commandRouteDecisions}
  {C : Table commands} {D : Table integrationDeliveries} {O : Table outboxEvents}
  {I : Table workerInterventions} {A : Table workerJobAttempts} {R : Table workerJobCancelRequests}
  {P : Table workerJobPreemptions} {J : Table workerJobs} {now : Time} {workerId : Uuid}
  {rowOrder : Uuid → Nat} {job : WorkerJob} {outcome : WorkerJobAttemptStatus} {worker : WorkerNode}

namespace WorkerJobService

variable {cfg : Settings} {call : Call} {s0 s s' : State} {j j' : WorkerJob}
  {jobId w τ : Uuid}

-- ==== single effects

theorem effects_interventions (I : Table workerInterventions) :
    Effects cfg call s0 s { s with interventions := I } :=
  .single (.aside I s.posts s.replies s.syncStates s.surroundings (.inl rfl))

theorem effects_preemptions (h : PreemptionsSettle s.preemptions P) :
    Effects cfg call s0 s { s with preemptions := P } :=
  .single (.preemptionsSettled h)

/-- A preemptor's preemptions end, and the requests they were behind. -/
theorem effects_settled (hends : call.op.endsJobs = true) (hP : PreemptionsSettle s.preemptions P)
    (hR : RequestsSettle s.cancelRequests R) :
    Effects cfg call s0 s { s with preemptions := P, cancelRequests := R } :=
  (effects_preemptions hP).trans (.single (.requestsSettled hR (.inl hends)))

theorem lockedJob_ok (h : lockedJob s jobId = .ok j) :
    j.id = jobId ∧ s.jobs.get? j.id = some j := by
  unfold lockedJob at h
  rw [orThrow_eq_ok] at h
  have hid : j.id = jobId := key_of_get? h
  exact ⟨hid, hid ▸ h⟩

theorem runningAttempt_ok {a : WorkerJobAttempt} (h : runningAttempt s jobId = .ok a) :
    s.runningAttempt? jobId = some a := by
  unfold runningAttempt at h
  rwa [orThrow_eq_ok] at h

-- ==== renew and checkpoint

open WorkerJob

theorem renew_effects {answer : JobAnswer}
    (h : renew cfg call.now jobId w τ s = .ok (answer, s')) : Effects cfg call s0 s s' := by
  simp only [renew, steps_ok] at h
  obtain ⟨j, hj, renewed, hrenewed, j', rfl, ⟨held, s1⟩, hlease, hheld, J, hJ, -, rfl⟩ := h
  obtain ⟨hown, -, hj'⟩ := renew_some hrenewed
  obtain ⟨L, rfl, hL⟩ := renewAccountCoordination_ok hlease hheld
  have hsame : j.SameJob j' := by rw [hj']; constructor <;> rfl
  have htouched : JobTouched call s j j' w τ J L := by
    refine ⟨(lockedJob_ok hj).2, hown, hsame, ?_, ?_, ?_, ?_, ?_, ?_, ?_, .inl ?_,
      (updateRow_ok hJ).2, .inr ?_⟩
    all_goals rw [hj'] at hL ⊢
    exact ⟨_, rfl, hL⟩
  exact .single (.jobTouched htouched)

theorem checkpoint_effects {document : Document} {answer : JobAnswer}
    (hop : call.op = .checkpoint jobId w τ document)
    (h : checkpoint cfg call.now jobId w τ document s = .ok (answer, s')) :
    Effects cfg call s0 s s' := by
  simp only [checkpoint, steps_ok] at h
  obtain ⟨j, hj, saved, hsaved, j', rfl, -, J, hJ, -, rfl⟩ := h
  obtain ⟨hown, -, hj'⟩ := saveCheckpoint_some hsaved
  have hsame : j.SameJob j' := by rw [hj']; constructor <;> rfl
  have htouched : JobTouched call s j j' w τ J s.accountLeases := by
    obtain ⟨hid, hstored⟩ := lockedJob_ok hj
    refine ⟨hstored, hown, hsame, ?_, ?_, ?_, ?_, ?_, ?_, ?_,
      .inr ⟨document, by rw [hop, hid], ?_⟩, (updateRow_ok hJ).2, .inl ⟨?_, rfl⟩⟩
    all_goals rw [hj']
  exact .single (.jobTouched htouched)

-- ==== ending an attempt

/-- The Command follows the old job as it follows the new one. -/
theorem follows_of_leaves {status : WorkerJobStatus} (hleaves : j.SameJob j')
    (hstatus : j'.status = status) (h : CommandFollows s j' status C O D) :
    CommandFollows s j j'.status C O D := by
  unfold CommandFollows at h ⊢
  rw [hleaves.commandId] at h
  rwa [hstatus]

/-- The lease a job gives back, as the old job names it. -/
theorem released_of_leaves {L' : Table accountExecutionLeases} (hleaves : j.SameJob j')
    (h : (L' = L ∧ ∀ accountId n row, j'.accountId = some accountId → g = some n →
          L.get? accountId = some row → row.heldBy .workerJob (Uuid.str j'.id) n now = false)
      ∨ ∃ accountId n, j'.accountId = some accountId ∧ g = some n
        ∧ LeaseMoved accountId .workerJob (Uuid.str j'.id) n now now L L') :
    L' = L ∨ ∃ accountId n, j.accountId = some accountId ∧ g = some n
      ∧ LeaseMoved accountId .workerJob (Uuid.str j.id) n now now L L' := by
  rw [hleaves.id, hleaves.accountId] at h
  exact h.imp And.left id

/-- A lease owner's report: an intervention may be opened, the waiting
preemptions of the job end, and the job moves. -/
theorem effects_reported (hj : s.jobs.get? j.id = some j) (hown : j.ownsLease w τ call.now = true)
    (hleaves : j.Leaves j') (hcautious : j.Cautious j') (hclosed : outcome ≠ .running)
    (hcancelled : outcome = .cancelled →
      ∃ w τ r n phase, call.op = .acknowledgeCancel j.id w τ r n phase)
    (hP : PreemptionsSettle s.preemptions P)
    (hvictim : ∀ p ∈ P.rows, p.status = .waitingForQuiescence → p.victimWorkerJobId ≠ j.id)
    (hJ : Put s.jobs j' J) (hA : AttemptClosed call.now s j.id outcome A)
    (hR : RequestClosed s j.id R) (hC : CommandFollows s j j'.status C O D)
    (hL : L = s.accountLeases ∨ ∃ accountId n, j.accountId = some accountId
      ∧ j.accountCoordinationGeneration = some n
      ∧ LeaseMoved accountId .workerJob (Uuid.str j.id) n call.now call.now
        s.accountLeases L) :
    Effects cfg call s0 s { s with
      jobs := J, attempts := A, cancelRequests := R, preemptions := P, interventions := I
      commands := C, outboxEvents := O, deliveries := D, accountLeases := L } := by
  have hrunning := (ownsLease_iff.mp hown).1
  have hmoved : JobMoved call s0 { s with interventions := I, preemptions := P } j j' outcome
      J A R C O D L :=
    { stored := hj
      unfinished := by rw [hrunning]; rfl
      leaves := hleaves
      jobs := hJ
      retried := fun _ => hrunning
      ambiguous := hcautious.ambiguous
      replayed := fun hagain => .inl (hcautious.replayed hagain)
      outcome_closed := hclosed
      outcome_cancelled := hcancelled
      ending := .inr ⟨hA, hR⟩
      command := hC
      lease := hL
      victim := fun _ => .inl hvictim }
  exact ((effects_interventions I).trans (effects_preemptions hP)).trans
    (.single (.jobMoved hmoved))

theorem complete_effects {result : Document} {answer : WorkerJob}
    (h : complete cfg call.draws call.now jobId w τ result s = .ok (answer, s')) :
    Effects cfg call s0 s s' := by
  simp only [complete, steps_ok] at h
  obtain ⟨j, hj, -, _, hcompleted, j', rfl, s1, h1, s2, h2, a, ha, s3, h3, s4, h4, s5, h5,
    s6, h6, -, rfl⟩ := h
  obtain ⟨hown, hleaves, hstatus⟩ := complete_leaves hcompleted
  obtain ⟨R, rfl, hR⟩ := supersedePendingCancel_ok h1
  obtain ⟨P, rfl, hP, hvictim⟩ := satisfyPreemptionsForVictim_ok h2
  obtain ⟨A, rfl, hA⟩ := closeAttempt_ok (runningAttempt_ok ha) h3
  obtain ⟨J, rfl, hJ⟩ := storeJob_ok h4
  obtain ⟨C, O, D, rfl, hC⟩ := finalizeCommand_ok .succeeded rfl rfl h5
  obtain ⟨L, rfl, hL⟩ := releaseAccountCoordination_ok h6
  rw [hleaves.id] at hR hvictim hA
  exact effects_reported (lockedJob_ok hj).2 hown hleaves
    (complete_cautious hcompleted) (by decide) (fun h => by cases h) hP
    hvictim hJ hA hR (follows_of_leaves hleaves.toSameJob hstatus hC)
    (released_of_leaves hleaves.toSameJob hL)

theorem acknowledgeCancel_effects {requestId : Uuid} {n : Int} {phase : String}
    {answer : WorkerJob} (hop : call.op = .acknowledgeCancel jobId w τ requestId n phase)
    (h : acknowledgeCancel cfg call.draws call.now jobId w τ requestId n phase s
      = .ok (answer, s')) : Effects cfg call s0 s s' := by
  simp only [acknowledgeCancel, steps_ok] at h
  obtain ⟨j, hj, hown, -, -, -, a, ha, -, r, hr, -, -, -, _, hcancelled, j', rfl, r', hr', R,
    hR, s3, h3, s4, h4, s5, h5, s6, h6, s7, h7, -, rfl⟩ := h
  obtain ⟨-, hleaves, hstatus⟩ := cancel_leaves hcancelled
  obtain ⟨hsettle, hdone⟩ := acknowledge_settles hr'
  obtain ⟨A, rfl, hA⟩ := closeAttempt_ok (s := { s with cancelRequests := R })
    (runningAttempt_ok ha) h3
  obtain ⟨J, rfl, hJ⟩ := storeJob_ok h4
  obtain ⟨C, O, D, rfl, hC⟩ := finalizeCommand_ok .cancelled rfl rfl h5
  obtain ⟨P, rfl, hP, hvictim⟩ := satisfyPreemptionsForVictim_ok h6
  obtain ⟨L, rfl, hL⟩ := releaseAccountCoordination_ok h7
  rw [hleaves.id] at hvictim
  have hop' : call.op = .acknowledgeCancel j.id w τ requestId n phase := by
    rw [(lockedJob_ok hj).1]
    exact hop
  exact effects_reported (lockedJob_ok hj).2 hown hleaves (cancel_cautious hcancelled) (by decide)
    (fun _ => ⟨w, τ, requestId, n, phase, hop'⟩) hP hvictim hJ hA
    (requestClosed_of_update hr hsettle hdone hR)
    (follows_of_leaves hleaves.toSameJob hstatus hC) (released_of_leaves hleaves.toSameJob hL)

theorem requestIntervention_effects {kind detail : String} {answer : WorkerJob}
    (h : requestIntervention call.draws call.now jobId w τ kind detail s = .ok (answer, s')) :
    Effects cfg call s0 s s' := by
  simp only [requestIntervention, steps_ok] at h
  obtain ⟨-, j, hj, -, _, hsuspended, j1, rfl, s1, h1, s2, h2, a, ha, s3, h3, s4, h4, s5, h5,
    s6, h6, s7, h7, -, rfl⟩ := h
  obtain ⟨hown, hleaves1, hstatus1⟩ := requireIntervention_leaves hsuspended
  -- an ambiguous outcome also changes the retry safety
  generalize hj' : (if kind = "AMBIGUOUS_OUTCOME" then
    { j1 with retrySafety := WorkerJobRetrySafety.reconciliationRequired } else j1) = j'
    at ha h4 h5 h6 h7
  have hleaves : j.Leaves j' := by
    rw [← hj']
    split
    · obtain ⟨hsame, hcount, hrun, hworker, htoken, hexpiry, hfence, hcheckpoint⟩ := hleaves1
      exact ⟨⟨hsame.id, hsame.commandId, hsame.accountId, hsame.assignedWorkerId,
        hsame.accountAffinityRequired, hsame.capabilityName, hsame.capabilityVersion,
        hsame.operationClass, hsame.inputData, hsame.priority, hsame.preemptible,
        hsame.deadlineAt, hsame.maxAttempts⟩, hcount, hrun, hworker, htoken, hexpiry, hfence,
        hcheckpoint⟩
    · exact hleaves1
  have hstatus : j'.status = .waitingIntervention := by
    rw [← hj']
    split <;> exact hstatus1
  have hcautious : j.Cautious j' := by
    refine cautious_of_status (fun hambiguous => ?_) (by rw [hstatus]; decide)
      (by rw [hstatus]; decide)
    obtain ⟨-, rfl⟩ := requireIntervention_some hsuspended
    rw [← hj']
    split
    · rfl
    · exact hambiguous
  obtain ⟨R, rfl, hR⟩ := supersedePendingCancel_ok h1
  obtain ⟨P, rfl, hP, hvictim⟩ := satisfyPreemptionsForVictim_ok h2
  obtain ⟨A, rfl, hA⟩ := closeAttempt_ok (runningAttempt_ok ha) h3
  obtain ⟨I, rfl, -⟩ := addIntervention_ok h4
  obtain ⟨J, rfl, hJ⟩ := storeJob_ok h5
  obtain ⟨C, rfl, hC⟩ := setCommandWaitingIntervention_ok h6
  obtain ⟨L, rfl, hL⟩ := releaseAccountCoordination_ok h7
  rw [hleaves1.id] at hR hvictim
  rw [hleaves.id] at hA
  exact effects_reported (lockedJob_ok hj).2 hown hleaves hcautious (by decide)
    (fun h => by cases h) hP hvictim hJ hA hR (follows_of_leaves hleaves.toSameJob hstatus hC)
    (released_of_leaves hleaves.toSameJob hL)

theorem fail_effects {code : String} {retryable ambiguous : Bool} {answer : WorkerJob}
    (h : fail cfg call.draws call.now jobId w τ code retryable ambiguous s = .ok (answer, s')) :
    Effects cfg call s0 s s' := by
  simp only [fail, steps_ok] at h
  obtain ⟨j, hj, -, _, hfailed, j', rfl, s1, h1, s2, h2, a, ha, h⟩ := h
  obtain ⟨hown, hleaves, hstatus⟩ := fail_leaves hfailed
  have hcautious := fail_cautious hfailed
  obtain ⟨R, rfl, hR⟩ := supersedePendingCancel_ok h1
  obtain ⟨P, rfl, hP, hvictim⟩ := satisfyPreemptionsForVictim_ok h2
  rw [hleaves.id] at hR hvictim
  have hj := (lockedJob_ok hj).2
  have ha := runningAttempt_ok ha
  rw [hleaves.id] at ha
  rcases hstatus with hstatus | hstatus | hstatus <;>
    simp only [hstatus, failedAttemptStatus, reduceCtorEq, if_true, if_false, steps_ok] at h
  · -- suspended for an operator
    obtain ⟨s3, h4, s4, h5, s5, h6, s6, h7, s7, rfl, s8, h8, -, rfl⟩ := h
    obtain ⟨I, rfl, -⟩ := addIntervention_ok h4
    obtain ⟨C, rfl, hC⟩ := setCommandWaitingIntervention_ok h5
    obtain ⟨A, rfl, hA⟩ := closeAttempt_ok (s := { s with
      cancelRequests := R, preemptions := P, interventions := I, commands := C }) ha h6
    obtain ⟨J, rfl, hJ⟩ := storeJob_ok h7
    obtain ⟨L, rfl, hL⟩ := releaseAccountCoordination_ok h8
    exact effects_reported hj hown hleaves hcautious (by decide) (fun h => by cases h) hP hvictim
      hJ hA hR (follows_of_leaves hleaves.toSameJob hstatus hC)
      (released_of_leaves hleaves.toSameJob hL)
  · -- scheduled again: the Command keeps waiting
    obtain ⟨s3, rfl, s5, h6, s6, h7, s7, rfl, s8, h8, -, rfl⟩ := h
    obtain ⟨A, rfl, hA⟩ := closeAttempt_ok ha h6
    obtain ⟨J, rfl, hJ⟩ := storeJob_ok h7
    obtain ⟨L, rfl, hL⟩ := releaseAccountCoordination_ok h8
    exact effects_reported hj hown hleaves hcautious (by decide) (fun h => by cases h) hP hvictim
      hJ hA hR (.inl ⟨.inr hstatus, rfl, rfl, rfl⟩) (released_of_leaves hleaves.toSameJob hL)
  · -- final
    obtain ⟨s3, rfl, s5, h6, s6, h7, s7, h8, s8, h9, -, rfl⟩ := h
    obtain ⟨A, rfl, hA⟩ := closeAttempt_ok ha h6
    obtain ⟨J, rfl, hJ⟩ := storeJob_ok h7
    obtain ⟨C, O, D, rfl, hC⟩ := finalizeCommand_ok .failedFinal rfl rfl h8
    obtain ⟨L, rfl, hL⟩ := releaseAccountCoordination_ok h9
    exact effects_reported hj hown hleaves hcautious (by decide) (fun h => by cases h) hP hvictim
      hJ hA hR (follows_of_leaves hleaves.toSameJob hstatus hC)
      (released_of_leaves hleaves.toSameJob hL)

-- ==== operator's decisions

/-- Either nothing waits for the job, or finishing it strands a wait. -/
theorem victim_or_strands
    (hstrands : (∃ p ∈ P.rows, p.status = .waitingForQuiescence ∧ p.victimWorkerJobId = j.id) →
      Strands call s0 j) :
    (∀ p ∈ P.rows, p.status = .waitingForQuiescence → p.victimWorkerJobId ≠ j.id)
      ∨ Strands call s0 j := by
  by_cases hex : ∃ p ∈ P.rows, p.status = .waitingForQuiescence ∧ p.victimWorkerJobId = j.id
  · exact .inr (hstrands hex)
  · exact .inl fun p hp hw hv => hex ⟨p, hp, hw, hv⟩

theorem resolveIntervention_effects {interventionId : Uuid} {requeue confirmed : Bool}
    {resolvedBy : String} {answer : WorkerJob}
    (hop : call.op = .resolveIntervention interventionId requeue confirmed resolvedBy)
    (h : resolveIntervention cfg call.draws call.now interventionId requeue confirmed resolvedBy
      s = .ok (answer, s')) : Effects cfg call s s s' := by
  simp only [resolveIntervention, steps_ok] at h
  obtain ⟨i, hi, hstill, j, hj, h⟩ := h
  obtain ⟨hid, hj⟩ := lockedJob_ok hj
  split at h <;> simp only [steps_ok, throw_eq_ok, false_and, exists_false] at h
  rename_i _ j' hj'
  obtain ⟨_, rfl, I, hI, s1, h1, h⟩ := h
  have hresolved : j.Resolved call.now requeue j' := resolveIntervention_ok hj'
  have hleaves : j.Leaves j' := hresolved.leaves (check_of_get? hj)
  obtain ⟨hsafety, hreplayed⟩ := resolveIntervention_replayed hj'
  obtain ⟨J, rfl, hJ⟩ := storeJob_ok h1
  -- what both decisions share, whatever the Command does
  have hmoved : ∀ {C O D}, CommandFollows s j j'.status C O D →
      (j'.status.terminal = true → (∀ p ∈ s.preemptions.rows,
        p.status = .waitingForQuiescence → p.victimWorkerJobId ≠ j.id) ∨ Strands call s j) →
      Effects cfg call s s { s with
        interventions := I, jobs := J, commands := C, outboxEvents := O, deliveries := D } := by
    intro C O D hC hvictim
    have hmoved : JobMoved call s { s with interventions := I } j j' .failedFinal J s.attempts
        s.cancelRequests C O D s.accountLeases :=
      { stored := hj
        unfinished := by rw [hresolved.waiting]; rfl
        leaves := hleaves
        jobs := hJ
        retried := by
          rw [hresolved.status]
          cases requeue <;> exact fun h => by cases h
        ambiguous := fun hambiguous => hsafety.trans hambiguous
        replayed := by
          intro hagain
          rcases hreplayed hagain with hsame | ⟨hmarked, hrequeue, hconfirmed⟩
          · exact .inl hsame
          · exact .inr ⟨hmarked, hj, hresolved.waiting, interventionId, resolvedBy, i,
              by rw [hop, hrequeue, hconfirmed], hi, hstill, hid.symm⟩
        outcome_closed := by decide
        outcome_cancelled := fun h => by cases h
        ending := .inl ⟨hresolved.waiting, rfl, rfl⟩
        command := hC
        lease := .inl rfl
        victim := hvictim }
    exact (effects_interventions I).trans (.single (.jobMoved hmoved))
  cases requeue with
  | true =>
    simp only [if_true, steps_ok] at h
    obtain ⟨s2, h2, -, rfl⟩ := h
    obtain ⟨C, rfl, hC⟩ := setCommandWaitingExecution_ok h2
    have hstatus : j'.status = .queued := hresolved.status
    refine hmoved (follows_of_leaves hleaves.toSameJob hstatus hC) ?_
    rw [hstatus]
    exact fun h => by cases h
  | false =>
    simp only [Bool.false_eq_true, if_false, steps_ok] at h
    obtain ⟨s2, h2, s3, h3, -, rfl⟩ := h
    have hstatus : j'.status = .failedFinal := hresolved.status
    obtain ⟨C, O, D, rfl, hC⟩ := finalizeCommand_ok .failedFinal rfl rfl h2
    obtain ⟨P, R, rfl, hP, hR⟩ := supersedePreemptionsForPreemptor_ok h3
    refine (hmoved (follows_of_leaves hleaves.toSameJob hstatus hC) fun _ =>
      victim_or_strands fun hex => ?_).trans (effects_settled (by rw [hop]; rfl) hP hR)
    refine ⟨hex, ?_⟩
    rw [hop]
    exact ⟨rfl, i, hi, hstill, hid.symm⟩

-- ==== recovery

/-- A job that `recover_expired` ends, or has wait for an operator, and
why. -/
structure JobRecovered (now : Time) (s : State) (j j' : WorkerJob)
    (outcome : WorkerJobAttemptStatus) (J : Table workerJobs) (A : Table workerJobAttempts)
    (I : Table workerInterventions) (C : Table commands) (O : Table outboxEvents)
    (D : Table integrationDeliveries) (L : Table accountExecutionLeases) : Prop where
  leaves : j.Leaves j'
  safety : j'.retrySafety = j.retrySafety
  closed : outcome ≠ .running ∧ outcome ≠ .cancelled
  jobs : Put s.jobs j' J
  attempt : AttemptClosed now s j.id outcome A
  command : CommandFollows s j j'.status C O D
  lease : L = s.accountLeases ∨ ∃ accountId n, j.accountId = some accountId
    ∧ j.accountCoordinationGeneration = some n
    ∧ LeaseMoved accountId .workerJob (Uuid.str j.id) n now now s.accountLeases L
  interventions : ∀ i, s.interventions.get? i.id = some i → i.workerJobId ≠ j.id →
    I.get? i.id = some i
  reason : j.beforeDeadline now = false ∧ j'.status = .expired
    ∨ j.beforeDeadline now ≠ false ∧ j.maxAttempts ≤ j.attemptCount ∧ j'.status = .failedFinal
    ∨ (j.beforeDeadline now ≠ false ∧ ¬ j.maxAttempts ≤ j.attemptCount)
      ∧ j'.status = .waitingIntervention
      ∧ ∃ i, I.get? i.id = some i ∧ i.workerJobId = j.id ∧ i.status = .open

theorem JobRecovered.terminal_iff (h : JobRecovered now s j j' outcome J A I C O D L) :
    j'.status.terminal = true ↔ j.beforeDeadline now = false ∨ j.maxAttempts ≤ j.attemptCount := by
  rcases h.reason with ⟨hlate, hstatus⟩ | ⟨-, hspent, hstatus⟩ | ⟨hnot, hstatus, -⟩ <;> rw [hstatus]
  · exact iff_of_true rfl (.inl hlate)
  · exact iff_of_true rfl (.inr hspent)
  · exact iff_of_false Bool.false_ne_true (not_or.mpr hnot)

theorem JobRecovered.idle (h : JobRecovered now s j j' outcome J A I C O D L) :
    j'.status ≠ .queued ∧ j'.status ≠ .failedRetryable := by
  rcases h.reason with ⟨-, hstatus⟩ | ⟨-, -, hstatus⟩ | ⟨-, hstatus, -⟩ <;> rw [hstatus] <;> decide

theorem recoverJob_cases {d : Draws} (h : recoverJob cfg d now s j = .ok s') :
    ∃ R, RequestClosed s j.id R ∧ ((∃ j' outcome J A I C O D L,
        JobRecovered now s j j' outcome J A I C O D L ∧ endPreemptor now { s with
          jobs := J, attempts := A, cancelRequests := R, interventions := I
          commands := C, outboxEvents := O, deliveries := D, accountLeases := L } j' = .ok s')
      ∨ (j.beforeDeadline now ≠ false ∧ ¬ j.maxAttempts ≤ j.attemptCount)
        ∧ ¬ (j.status = .running ∧ j.retrySafety = .reconciliationRequired)
        ∧ endPreemptor now { s with cancelRequests := R } j = .ok s') := by
  simp only [recoverJob, bind_eq_ok] at h
  obtain ⟨s1, h1, h⟩ := h
  obtain ⟨R, rfl, hR⟩ := supersedePendingCancel_ok h1
  refine ⟨R, hR, ?_⟩
  split at h
  case isTrue hdeadline =>
    simp only [bind_eq_ok] at h
    obtain ⟨s2, h2, s3, h3, s4, h4, s5, h5, s6, h6, h7⟩ := h
    obtain ⟨hleaves, hstatus⟩ := j.expire_leaves now "JOB_DEADLINE_EXPIRED"
    obtain ⟨A, rfl, hA⟩ := closeAttempt?_ok h2
    obtain ⟨I, rfl, hI⟩ := cancelIntervention_ok h3
    obtain ⟨J, rfl, hJ⟩ := storeJob_ok h4
    obtain ⟨L, rfl, hL⟩ := releaseAccountCoordination_ok h5
    obtain ⟨C, O, D, rfl, hC⟩ := finalizeCommand_ok .expired rfl rfl h6
    exact .inl ⟨_, .failedFinal, J, A, I, C, O, D, L, ⟨hleaves, rfl, by decide, hJ, hA,
      follows_of_leaves hleaves.toSameJob hstatus hC, released_of_leaves hleaves.toSameJob hL, hI,
      .inl ⟨hdeadline, hstatus⟩⟩, h7⟩
  case isFalse hdeadline =>
    split at h
    case isTrue hcount =>
      simp only [bind_eq_ok] at h
      obtain ⟨s2, h2, s4, h4, s5, h5, s6, h6, h7⟩ := h
      obtain ⟨hleaves, hstatus⟩ := j.finalizeFailure_leaves now "WORKER_JOB_ATTEMPTS_EXHAUSTED"
      obtain ⟨A, rfl, hA⟩ := closeAttempt?_ok h2
      obtain ⟨J, rfl, hJ⟩ := storeJob_ok h4
      obtain ⟨L, rfl, hL⟩ := releaseAccountCoordination_ok h5
      obtain ⟨C, O, D, rfl, hC⟩ := finalizeCommand_ok .failedFinal rfl rfl h6
      exact .inl ⟨_, .failedFinal, J, A, s.interventions, C, O, D, L, ⟨hleaves, rfl, by decide, hJ,
        hA, follows_of_leaves hleaves.toSameJob hstatus hC,
        released_of_leaves hleaves.toSameJob hL, fun _ hi _ => hi,
        .inr (.inl ⟨hdeadline, hcount, hstatus⟩)⟩, h7⟩
    case isFalse hcount =>
      split at h
      · simp only [bind_eq_ok] at h
        obtain ⟨s2, h2, j', hj', s4, h4, s5, h5, s6, h6, s7, h7, h8⟩ := h
        obtain ⟨-, hleaves, hstatus⟩ := suspendForIntervention_leaves hj'
        have hsafety : j'.retrySafety = j.retrySafety := by
          obtain ⟨-, rfl⟩ := suspendForIntervention_ok hj'
          rfl
        obtain ⟨A, rfl, hA⟩ := closeAttempt?_ok h2
        obtain ⟨J, rfl, hJ⟩ := storeJob_ok h4
        obtain ⟨L, rfl, hL⟩ := releaseAccountCoordination_ok h5
        obtain ⟨I, rfl, ⟨i, hi, hjob, hopen⟩, hI⟩ := addIntervention_ok h6
        obtain ⟨C, rfl, hC⟩ := setCommandWaitingIntervention_ok h7
        exact .inl ⟨j', .waitingIntervention, J, A, I, C, _, _, L, ⟨hleaves, hsafety, by decide, hJ,
          hA, follows_of_leaves hleaves.toSameJob hstatus hC,
          released_of_leaves hleaves.toSameJob hL, fun i hi _ => hI i hi,
          .inr (.inr ⟨⟨hdeadline, hcount⟩, hstatus, i, hi, hjob.trans hleaves.id, hopen⟩)⟩, h8⟩
      case isFalse hlost => exact .inr ⟨⟨hdeadline, hcount⟩, hlost, h⟩

/-- What one job's recovery leaves alone: the other jobs, and every wait
it does not end. -/
structure RecoverFrame (s : State) (jobId : Uuid) (s' : State) : Prop where
  jobs : ∀ k, k ≠ jobId → s'.jobs.get? k = s.jobs.get? k
  preemptions : PreemptionsSettle s.preemptions s'.preemptions

theorem recoverJob_effects (hop : call.op = .recoverExpired limit)
    (hlisted : j ∈ s0.listExpiredForUpdate call.now limit call.draws.rowOrder)
    (hj : s.jobs.get? j.id = some j) (hopen : j.status.terminal = false)
    (hwaits : PreemptionsSettle s0.preemptions s.preemptions)
    (h : recoverJob cfg call.draws call.now s j = .ok s') :
    Effects cfg call s0 s s' ∧ RecoverFrame s j.id s' := by
  have hends : call.op.endsJobs = true := by rw [hop]; rfl
  -- finishing a job a preemption waited for from the start strands the wait
  have hstrands : (j.beforeDeadline call.now = false ∨ j.maxAttempts ≤ j.attemptCount) →
      (∃ p ∈ s.preemptions.rows, p.status = .waitingForQuiescence
        ∧ p.victimWorkerJobId = j.id) → Strands call s0 j := by
    rintro hover ⟨p, hp, hw, hv⟩
    obtain ⟨p0, hp0, hsettle⟩ := hwaits.backward (mem_rows_iff.mp hp)
    refine ⟨⟨p0, mem_of_get? hp0, hsettle.waiting hw, ?_⟩, ?_⟩
    · rw [← hsettle.victimWorkerJobId]
      exact hv
    · rw [hop]
      exact ⟨hlisted, hover⟩
  obtain ⟨R, hR, ⟨j', outcome, J, A, I, C, O, D, L, hjob, hend⟩ | ⟨-, -, hend⟩⟩ :=
    recoverJob_cases h
  · obtain ⟨P, R', rfl, hP, hR'⟩ := endPreemptor_ok hend
    have hmoved : JobMoved call s0 { s with interventions := I } j j' outcome J A R C O D L :=
      { stored := hj
        unfinished := hopen
        leaves := hjob.leaves
        jobs := hjob.jobs
        retried := fun h => absurd h hjob.idle.2
        ambiguous := fun hambiguous => hjob.safety.trans hambiguous
        replayed := fun hagain => absurd hagain (not_or.mpr hjob.idle)
        outcome_closed := hjob.closed.1
        outcome_cancelled := fun h => absurd h hjob.closed.2
        ending := .inr ⟨hjob.attempt, hR⟩
        command := hjob.command
        lease := hjob.lease
        victim := fun hover => victim_or_strands (hstrands (hjob.terminal_iff.mp hover)) }
    refine ⟨((effects_interventions I).trans (.single (.jobMoved hmoved))).trans
      (effects_settled hends hP hR'), ?_, hP⟩
    exact hjob.leaves.toSameJob.put_frame hjob.jobs
  · obtain ⟨P, R', rfl, hP, hR'⟩ := endPreemptor_ok hend
    exact ⟨(Relation.ReflTransGen.single (.requestsSettled hR.1 (.inl hends))).trans
      (effects_settled hends hP hR'), fun _ _ => rfl, hP⟩

/-- The rows `list_expired_for_update` loads. -/
theorem mem_listExpired (h : j ∈ s.listExpiredForUpdate now limit rowOrder) :
    s.jobs.get? j.id = some j ∧ State.expiredForUpdate now j = true := by
  have hmem := List.mem_of_mem_take h
  rw [List.mem_insertionSort, List.mem_filter, mem_rows_iff] at hmem
  exact hmem

theorem nodup_listExpired : ((s.listExpiredForUpdate now limit rowOrder).map (·.id)).Nodup := by
  unfold State.listExpiredForUpdate
  refine List.Nodup.sublist ((List.take_sublist _ _).map _) ?_
  rw [((List.perm_insertionSort _ _).map _).nodup_iff]
  exact List.Nodup.sublist (List.filter_sublist.map _) s.jobs.keysNodup

theorem not_terminal_of_expired (h : State.expiredForUpdate now j = true) :
    j.status.terminal = false := by
  unfold State.expiredForUpdate at h
  cases hst : j.status <;> simp [hst] at h <;> rfl

/-- In the loop of `recover_expired` with `js` still to come: they are
stored as they were loaded, under ids of their own. -/
structure Recovering (cfg : Settings) (call : Call) (limit : Nat) (s : State)
    (js : List WorkerJob) (t : State) : Prop where
  effects : Effects cfg call s s t
  preemptions : PreemptionsSettle s.preemptions t.preemptions
  nodup : (js.map (·.id)).Nodup
  listed : ∀ j ∈ js, j ∈ s.listExpiredForUpdate call.now limit call.draws.rowOrder
  stored : ∀ j ∈ js, t.jobs.get? j.id = some j

theorem Recovering.start : Recovering cfg call limit s
    (s.listExpiredForUpdate call.now limit call.draws.rowOrder) s :=
  ⟨.refl, .refl .refl _, nodup_listExpired, fun _ hj => hj, fun _ hj => (mem_listExpired hj).1⟩

theorem Recovering.step {js : List WorkerJob} {t t' : State} (hop : call.op = .recoverExpired limit)
    (h : Recovering cfg call limit s (j :: js) t)
    (hstep : recoverJob cfg call.draws call.now t j = .ok t') :
    Recovering cfg call limit s js t' := by
  have hnodup := h.nodup
  rw [List.map_cons, List.nodup_cons] at hnodup
  have hlisted := h.listed j (.head _)
  obtain ⟨hmore, hframe⟩ := recoverJob_effects hop hlisted (h.stored j (.head _))
    (not_terminal_of_expired (mem_listExpired hlisted).2) h.preemptions hstep
  refine ⟨h.effects.trans hmore, h.preemptions.trans .trans hframe.preemptions, hnodup.2,
    fun j2 hj2 => h.listed j2 (.tail _ hj2), ?_⟩
  intro j2 hj2
  rw [hframe.jobs j2.id ?_]
  · exact h.stored j2 (.tail _ hj2)
  · intro heq
    exact hnodup.1 (heq ▸ List.mem_map.mpr ⟨j2, hj2, rfl⟩)

theorem recoverExpired_effects {n : Nat} (hop : call.op = .recoverExpired limit)
    (h : recoverExpired cfg call.draws call.now limit s = .ok (n, s')) :
    Effects cfg call s s s' := by
  simp only [recoverExpired, steps_ok] at h
  obtain ⟨t, hloop, -, rfl⟩ := h
  exact (foldlM_invariant (Recovering cfg call limit s)
    (fun _ _ _ _ h hstep => h.step hop hstep) .start hloop).effects

-- ==== cancellation

theorem effects_request (h : R = s.cancelRequests ∨ ∃ a r, RequestAdded s j a r R) :
    Effects cfg call s0 s { s with cancelRequests := R } := by
  rcases h with rfl | ⟨a, r, hadded⟩
  · exact .refl
  · exact .single (.requestAdded hadded)

theorem requestCancel_effects {reason : String} {r : WorkerJobCancelRequest}
    (h : requestCancel call.draws call.now jobId reason s = .ok (r, s')) :
    Effects cfg call s0 s s' := by
  simp only [requestCancel, steps_ok] at h
  obtain ⟨-, j, hj, h⟩ := h
  obtain ⟨R, rfl, hR⟩ := requestCancelInTransaction_ok (lockedJob_ok hj).2 h
  exact effects_request (hR.imp id (Exists.imp fun a ha => ⟨r, ha⟩))

-- ==== enqueue

/-- Only preemptions and cancel requests are written. -/
def Arbitrates (s s' : State) : Prop :=
  ∃ P R, s' = { s with preemptions := P, cancelRequests := R }

theorem Arbitrates.refl (s : State) : Arbitrates s s := ⟨s.preemptions, s.cancelRequests, rfl⟩

theorem Arbitrates.trans {s1 s2 s3 : State} (h : Arbitrates s1 s2) (h' : Arbitrates s2 s3) :
    Arbitrates s1 s3 := by
  obtain ⟨P, R, rfl⟩ := h
  obtain ⟨P', R', rfl⟩ := h'
  exact ⟨P', R', rfl⟩

theorem Arbitrates.jobs (h : Arbitrates s s') : s'.jobs = s.jobs := by
  obtain ⟨P, R, rfl⟩ := h
  rfl

/-- One candidate of the arbitration: a preemption may start to wait for
it, and its cancellation may be asked for. -/
theorem arbitrateCandidate_effects {preemptor candidate : WorkerJob} {accountId : Uuid}
    (hpre : s.jobs.get? preemptor.id = some preemptor) (hqueued : preemptor.status = .queued)
    (hprofile : preemptor.isBrowserProfile = true)
    (haccount : preemptor.accountId = some accountId)
    (hcand : s.jobs.get? candidate.id = some candidate)
    (hcandAccount : candidate.accountId = some accountId)
    (hcandProfile : candidate.isBrowserProfile = true)
    (h : arbitrateCandidate call.draws call.now preemptor accountId s candidate = .ok s') :
    Effects cfg call s0 s s' ∧ Arbitrates s s' := by
  unfold arbitrateCandidate at h
  split at h
  · rw [pure_eq_ok] at h
    exact ⟨h ▸ .refl, h ▸ .refl s⟩
  · simp only [bind_eq_ok] at h
    obtain ⟨victim, hvictim, h⟩ := h
    obtain ⟨hid, hlocked⟩ := lockedJob_ok hvictim
    have hsame : victim = candidate := by
      rw [hid, hcand] at hlocked
      injection hlocked with hlocked
      exact hlocked.symm
    subst hsame
    split at h
    · rw [pure_eq_ok] at h
      exact ⟨h ▸ .refl, h ▸ .refl s⟩
    case isFalse hfit =>
      have hrunning : victim.status = .running := by
        by_contra hne
        exact hfit (.inl hne)
      simp only [WorkerJobPreemption.create, steps_ok] at h
      obtain ⟨p, ⟨-, hp⟩, ⟨stored, s1⟩, hadd, h⟩ := h
      -- the preemption of the pair, stored in either case
      have hstored : Effects cfg call s0 s s1 ∧ Arbitrates s s1
          ∧ s1.preemptions.get? stored.id = some stored := by
        unfold addPreemptionIfAbsent at hadd
        split at hadd
        case h_1 found hfound =>
          cases hadd
          exact ⟨.refl, .refl s, mem_rows_iff.mp (List.mem_of_find?_eq_some hfound)⟩
        · simp only [steps_ok] at hadd
          obtain ⟨P, hP, rfl, rfl⟩ := hadd
          have hadded : PreemptionAdded s p P := by
            obtain ⟨hfresh, hput⟩ := addRow_ok hP
            subst hp
            exact ⟨hfresh, hput, rfl, ⟨preemptor, hpre, hqueued, hprofile, haccount⟩,
              ⟨victim, hcand, hrunning, hcandProfile, hcandAccount⟩⟩
          exact ⟨.single (.preemptionAdded hadded), ⟨P, s.cancelRequests, rfl⟩,
            (addRow_ok hP).2.get?_self⟩
      obtain ⟨heffects, hframe, hstored⟩ := hstored
      dsimp only at h
      split at h
      · rw [pure_eq_ok] at h
        exact ⟨h ▸ heffects, h ▸ hframe⟩
      · split at h
        · rw [pure_eq_ok] at h
          exact ⟨h ▸ heffects, h ▸ hframe⟩
        · simp only [bind_eq_ok] at h
          obtain ⟨⟨request, s2⟩, hrequest, h⟩ := h
          rw [← hframe.jobs] at hcand
          obtain ⟨R, rfl, hR⟩ := requestPreemptionCancel_ok hcand hrequest
          have hasked := heffects.trans (effects_request hR)
          have hframe := hframe.trans ⟨s1.preemptions, R, rfl⟩
          cases request with
          | none =>
            rw [pure_eq_ok] at h
            exact ⟨h ▸ hasked, h ▸ hframe⟩
          | some request =>
            obtain ⟨P, rfl, hP, -⟩ := linkCancelRequest_ok
              (s := { s1 with cancelRequests := R }) hstored (.refl stored) h
            exact ⟨hasked.trans (effects_preemptions hP), hframe.trans ⟨P, R, rfl⟩⟩

theorem arbitrateForCommand_effects (hj : s.jobs.get? j.id = some j) (hqueued : j.status = .queued)
    (h : arbitrateForCommand call.draws call.now s command j = .ok s') :
    Effects cfg call s0 s s' ∧ Arbitrates s s' := by
  unfold arbitrateForCommand at h
  split at h
  · rw [pure_eq_ok] at h
    exact h ▸ ⟨.refl, .refl s⟩
  case h_2 c =>
    split at h
    case isTrue =>
      rw [pure_eq_ok] at h
      exact h ▸ ⟨.refl, .refl s⟩
    case isFalse =>
      simp only [steps_ok] at h
      obtain ⟨-, -, accountId, haccount, h⟩ := h
      split at h
      case isFalse =>
        rw [pure_eq_ok] at h
        exact h ▸ ⟨.refl, .refl s⟩
      case isTrue hprofile =>
        simp only [arbitrateHighPriorityJob, steps_ok] at h
        obtain ⟨-, h⟩ := h
        split at h
        case isTrue =>
          rw [pure_eq_ok] at h
          exact h ▸ ⟨.refl, .refl s⟩
        case isFalse =>
          -- the arbitration writes no job, so the candidates stay as listed
          have hloop := foldlM_invariant (fun js t => Effects cfg call s0 s t ∧ Arbitrates s t
              ∧ ∀ j2 ∈ js, j2 ∈ s.listRunningBrowserForAccount accountId)
            ?_ ⟨.refl, .refl s, fun _ h => h⟩ h
          · exact ⟨hloop.1, hloop.2.1⟩
          · rintro j2 js t t' ⟨heffects, hframe, hrest⟩ hstep
            obtain ⟨hj2, haccount2, hprofile2, -⟩ :=
              State.mem_listRunningBrowser.mp (hrest j2 (.head _))
            obtain ⟨hmore, hframe'⟩ := arbitrateCandidate_effects
              (by rw [hframe.jobs]; exact hj) hqueued hprofile haccount
              (by rw [hframe.jobs]; exact hj2) haccount2 hprofile2 hstep
            exact ⟨heffects.trans hmore, hframe.trans hframe', fun x hx => hrest x (.tail _ hx)⟩

theorem commandToLink_ok (h : commandToLink call.now s req = .ok command) :
    (req.commandId = none ∧ command = none)
      ∨ ∃ c, req.commandId = some c.commandId ∧ command = some c
        ∧ s.commands.get? c.commandId = some c
        ∧ (c.status = .validated ∨ c.status = .waitingExecution) := by
  unfold commandToLink at h
  split at h
  case h_1 hnone =>
    rw [pure_eq_ok] at h
    exact .inl ⟨hnone, h.symm⟩
  case h_2 commandId hsome =>
    simp only [steps_ok] at h
    obtain ⟨c, hc, hready, -, -, -, rfl⟩ := h
    have hid : c.commandId = commandId := key_of_get? hc
    exact .inr ⟨c, by rw [hsome, hid], rfl, by rw [hid]; exact hc, hready⟩

/-- A VALIDATED Command moves to WAITING_EXECUTION; afterwards the
Command to link waits. -/
theorem moveToWaitingExecution_effects
    (hc : ∀ c, command = some c → s.commands.get? c.commandId = some c
      ∧ (c.status = .validated ∨ c.status = .waitingExecution))
    (h : moveToWaitingExecution call.now { s with routeDecisions := RD } command = .ok s') :
    ∃ C, s' = { s with routeDecisions := RD, commands := C }
      ∧ Effects cfg call s0 s { s with commands := C }
      ∧ ∀ c, command = some c → ∃ c', C.get? c.commandId = some c'
        ∧ c'.status = .waitingExecution := by
  unfold moveToWaitingExecution at h
  split at h
  · rw [pure_eq_ok] at h
    exact ⟨s.commands, h.symm, .refl, fun c hc => by cases hc⟩
  case h_2 c =>
    obtain ⟨hstored, hready⟩ := hc c rfl
    split at h
    case isTrue hvalidated =>
      simp only [steps_ok] at h
      obtain ⟨c', ht, C, hC, rfl⟩ := h
      obtain ⟨-, hstatus, hsame, -, -⟩ := Command.transition_ok ht
      have hput := (updateRow_ok hC).2
      have hidle : c.status ≠ .processing := by
        rw [hvalidated]
        decide
      have hmoved : CommandMoved cfg call s c c' s.commandAttempts C s.outboxEvents s.deliveries
          s.accountLeases :=
        { put := commandPut_open hstored ht rfl hC
          status := by rw [hstatus]; decide
          attempts := .inl ⟨hidle, rfl⟩
          held := fun hprocessing => absurd hprocessing hidle
          retried := fun hprocessing => absurd hprocessing hidle
          linked := by rw [hvalidated]; exact fun h => by cases h
          lease := .inl rfl }
      refine ⟨C, rfl, .single (.commandMoved hmoved), ?_⟩
      intro c2 hc2
      cases hc2
      have hkey : commands.key c' = c.commandId := hsame.commandId
      exact ⟨c', hkey ▸ hput.get?_self, hstatus⟩
    case isFalse hvalidated =>
      rw [pure_eq_ok] at h
      refine ⟨s.commands, h.symm, .refl, ?_⟩
      intro c2 hc2
      cases hc2
      exact ⟨c, hstored, hready.resolve_left hvalidated⟩

/-- The job is enqueued by the call itself, or for a Command that was
routed to a worker. -/
theorem enqueueInTransaction_effects
    (hrouted : (RD = s.routeDecisions ∧ s.commandAttempts = s0.commandAttempts
        ∧ call.op = .enqueue req)
      ∨ ∃ commandId, req.commandId = some commandId ∧ RoutedToWorker s commandId RD)
    (h : enqueueInTransaction cfg call.draws call.now req { s with routeDecisions := RD }
      = .ok (job, s')) : Effects cfg call s0 s s' ∧ s'.routeDecisions = RD := by
  simp only [enqueueInTransaction, steps_ok] at h
  obtain ⟨-, -, command, hcommand, worker, -, -, -, s1, h1, J, hJ, s2, h2, -, rfl⟩ := h
  have hlink := commandToLink_ok hcommand
  have hready : ∀ c, command = some c → s.commands.get? c.commandId = some c
      ∧ (c.status = .validated ∨ c.status = .waitingExecution) := by
    rintro c rfl
    rcases hlink with ⟨-, hnone⟩ | ⟨c', -, hsome, hstored, hready⟩
    · cases hnone
    · injection hsome with hsome
      exact hsome ▸ ⟨hstored, hready⟩
  obtain ⟨C, rfl, heffects, hwaiting⟩ := moveToWaitingExecution_effects hready h1
  obtain ⟨hfresh, hput⟩ := addRow_ok hJ
  have harbitrates : Effects cfg call s0 _ s2 ∧ Arbitrates _ s2 :=
    arbitrateForCommand_effects hput.get?_self rfl h2
  obtain ⟨harbitrated, P, R, rfl⟩ := harbitrates
  refine ⟨heffects.trans (.trans (.single (.jobAdded
    ⟨hfresh, hput, rfl, rfl, rfl, ?_, ?_⟩)) harbitrated), rfl⟩
  · intro commandId hid
    rcases hlink with ⟨hnone, -⟩ | ⟨c, hsome, hcommand, -, -⟩
    · rw [show (newJob _ _ _ _ _ _ _).commandId = req.commandId from rfl, hnone] at hid
      cases hid
    · rw [show (newJob _ _ _ _ _ _ _).commandId = req.commandId from rfl, hsome] at hid
      injection hid with hid
      exact hid ▸ hwaiting c hcommand
  · rcases hrouted with ⟨hRD, hCA, hop⟩ | ⟨commandId, hid, hrouted⟩
    · exact .inl ⟨hRD, hCA, req, hop, rfl⟩
    · exact .inr ⟨commandId, hid, hrouted.unlinked, hrouted.first, hrouted.decision⟩

theorem enqueue_effects (hop : call.op = .enqueue req)
    (h : enqueue cfg call.draws call.now req s = .ok (job, s')) : Effects cfg call s s s' :=
  (enqueueInTransaction_effects (.inl ⟨(rfl : s.routeDecisions = s.routeDecisions), rfl, hop⟩) h).1

-- ==== claims

/-- Beside preemptions, only the requests of the job have changed. -/
structure OnlyRequests (jobId : Uuid) (s s' : State) : Prop where
  jobs : s'.jobs = s.jobs
  attempts : s'.attempts = s.attempts
  others : ∀ r, s.cancelRequests.get? r.id = some r → r.workerJobId ≠ jobId →
    s'.cancelRequests.get? r.id = some r

theorem requestCancelForWaitingPreemption_effects {request : Option WorkerJobCancelRequest}
    (hj : s.jobs.get? j.id = some j)
    (h : requestCancelForWaitingPreemption call.draws call.now s j = .ok (request, s')) :
    Effects cfg call s0 s s' ∧ OnlyRequests j.id s s' := by
  unfold requestCancelForWaitingPreemption at h
  split at h
  · simp only [steps_ok] at h
    exact h.2 ▸ ⟨.refl, rfl, rfl, fun _ hr _ => hr⟩
  · simp only [bind_eq_ok] at h
    obtain ⟨s1, h1, h⟩ := h
    have hstored : ∀ p ∈ s.listWaitingForVictim j.id, s.preemptions.get? p.id = some p :=
      fun p hp => (State.mem_listWaiting.mp hp).1
    obtain ⟨P, rfl, hP, -, hrest⟩ := resolveAll_ok (by decide)
      (fun p hp => hstored p (List.mem_of_mem_filter hp)) h1
    -- a viable preemption is none of those just superseded
    have hviable : ∀ p ∈ (s.listWaitingForVictim j.id).filter (preemptorViable call.now s j),
        P.get? p.id = some p ∧ p.status = .waitingForQuiescence := by
      intro p hp
      obtain ⟨hwaiting, hviable⟩ := List.mem_filter.mp hp
      refine ⟨?_, (State.mem_listWaiting.mp hwaiting).2.2⟩
      rw [hrest p.id ?_]
      · exact hstored p hwaiting
      · intro q hq hid
        obtain ⟨hq, hnot⟩ := List.mem_filter.mp hq
        have hqp := hstored q hq
        rw [hid, hstored p hwaiting] at hqp
        cases hqp
        simp [hviable] at hnot
    have hsuperseded : Effects cfg call s0 s { s with preemptions := P } :=
      effects_preemptions hP
    split at h
    · simp only [steps_ok] at h
      exact h.2 ▸ ⟨hsuperseded, rfl, rfl, fun _ hr _ => hr⟩
    · simp only [bind_eq_ok] at h
      obtain ⟨⟨request', s2⟩, hrequest, h⟩ := h
      obtain ⟨R, rfl, hR⟩ := requestPreemptionCancel_ok (s := { s with preemptions := P }) hj
        hrequest
      have hasked := hsuperseded.trans (effects_request hR)
      have hothers : ∀ r, s.cancelRequests.get? r.id = some r → r.workerJobId ≠ j.id →
          R.get? r.id = some r := by
        rcases hR with rfl | ⟨a, r', hadd⟩
        · exact fun _ hr _ => hr
        · exact hadd.others
      cases request' with
      | none =>
        simp only [steps_ok] at h
        exact h.2 ▸ ⟨hasked, rfl, rfl, hothers⟩
      | some request' =>
        simp only [steps_ok] at h
        obtain ⟨s3, h3, -, rfl⟩ := h
        obtain ⟨P', rfl, hP'⟩ := linkAll_ok hviable h3
        exact ⟨hasked.trans (effects_preemptions hP'), rfl, rfl, hothers⟩

theorem profileFree_of_allows (h : browserProfileClaimAllows now s j worker ≠ false)
    (hprofile : j.isBrowserProfile = true) : ProfileFree s j := by
  have haccount : ∃ accountId, j.accountId = some accountId := by
    simp only [isBrowserProfile, Bool.and_eq_true] at hprofile
    exact Option.isSome_iff_exists.mp hprofile.1.1
  obtain ⟨accountId, haccount⟩ := haccount
  simp only [browserProfileClaimAllows, hprofile, haccount, Bool.true_eq_false, if_false, ne_eq,
    Bool.not_eq_false, checks_hold, Bool.not_eq_true', List.any_eq_false] at h
  obtain ⟨⟨⟨hpreemptor, -⟩, hrunning⟩, hvictim⟩ := h
  constructor
  · intro j2 hj2 hp2 ha2 hr2
    have hno := hrunning j2 (State.mem_listRunningBrowser.mpr
      ⟨mem_rows_iff.mp hj2, ha2.trans haccount, hp2, hr2⟩)
    by_contra hne
    exact hno hne
  · intro p hp ha hw
    rw [haccount] at ha
    injection ha with ha
    have hmem : p ∈ s.listWaitingForAccount accountId :=
      State.mem_listWaiting.mpr ⟨mem_rows_iff.mp hp, by simpa using ha, hw⟩
    refine ⟨hpreemptor p hmem, ?_⟩
    by_contra hne
    exact hvictim p hmem hne

/-- The lease a claim holds when it reaches the job: taken for it, or
not needed. -/
def ClaimLease (now expiry : Time) (j : WorkerJob) (g : Option Int)
    (L L' : Table accountExecutionLeases) : Prop :=
  (∃ accountId n, j.accountId = some accountId ∧ g = some n
      ∧ LeaseTaken accountId .workerJob (Uuid.str j.id) n now expiry L L')
    ∨ (j.requiresCoordination = false ∧ g = none ∧ L' = L)

theorem claimStored_effects (hop : call.op = .claimNext worker.workerId)
    (hj : s.jobs.get? j.id = some j) (hj0 : s0.jobs.get? j.id = some j)
    (hprofile : j.isBrowserProfile = true → ProfileFree s j)
    (hR : (j.status = .running ∧ j.lapsed call.now = true ∧ RequestClosed s j.id R)
      ∨ (¬ (j.status = .running ∧ j.lapsed call.now = true) ∧ R = s.cancelRequests))
    (hL : ClaimLease call.now (call.now + cfg.leaseDuration) j g s.accountLeases L)
    (h : claimStored cfg call.draws call.now worker
      { s with cancelRequests := R, accountLeases := L } j g = .ok (answer, s')) :
    Effects cfg call s0 s s' ∧ (answer = none → s'.jobs = s.jobs) := by
  simp only [claimStored, bind_eq_ok] at h
  obtain ⟨⟨claimed, s1⟩, hclaim, h⟩ := h
  rcases claimJob_ok hclaim with ⟨rfl, rfl⟩ | ⟨j1, J, A1, hj1, rfl, hclaimable, rfl, hJ, hA1⟩
  · -- refused: the account lease goes back
    simp only [steps_ok] at h
    obtain ⟨s2, h2, rfl, rfl⟩ := h
    obtain ⟨L', rfl, hL'⟩ := releaseAccountCoordination_ok h2
    refine ⟨?_, fun _ => rfl⟩
    have hrequests : Effects cfg call s0 s { s with cancelRequests := R } := by
      rcases hR with ⟨-, hlapsed, hclosed⟩ | ⟨-, rfl⟩
      · exact .single (.requestsSettled hclosed.1 (.inr ⟨j, hj0, hlapsed, hclosed⟩))
      · exact .refl
    rcases hL with ⟨accountId, n, haccount, rfl, htaken⟩ | ⟨-, rfl, rfl⟩
    · have hbumped : LeaseBumped accountId call.now s.accountLeases L' := by
        rcases hL' with ⟨-, hfree⟩ | ⟨accountId', n', haccount', hn', hmoved⟩
        · obtain ⟨row, hrow, hheld⟩ :=
            htaken.held (lt_add_of_pos_right call.now cfg.leaseDuration_pos)
          rw [hfree accountId n row haccount rfl hrow] at hheld
          cases hheld
        · rw [haccount] at haccount'
          injection haccount' with haccount'
          injection hn' with hn'
          subst haccount' hn'
          exact htaken.bumped hmoved
      exact hrequests.trans (.single (.leaseBumped hbumped))
    · rcases hL' with ⟨rfl, -⟩ | ⟨_, _, _, hn', _⟩
      · exact hrequests
      · cases hn'
  · -- claimed: a new attempt, and the cancellation a preemption waits for
    have hsame : j1 = j := by
      have hj1 : s.jobs.get? j.id = some j1 := hj1
      rw [hj] at hj1
      injection hj1 with hj1
      exact hj1.symm
    subst hsame
    simp only [WorkerJobAttempt.start, steps_ok] at h
    obtain ⟨a, ⟨-, rfl⟩, A, hA, ⟨request, s2⟩, hrequest, rfl, rfl⟩ := h
    obtain ⟨hfresh, hput⟩ := addRow_ok hA
    refine ⟨.trans (.single (.jobClaimed
      { op := hop
        token := rfl
        stored := hj
        claimable := hclaimable
        jobs := hJ
        workerJobId := rfl
        attemptNumber := rfl
        workerId := rfl
        running := rfl
        attempts := ⟨A1, hA1, hfresh, hput⟩
        requests := ?_
        lease := hL.imp id fun h => ⟨h.1, h.2.2⟩
        profile := hprofile }))
      (requestCancelForWaitingPreemption_effects hJ.get?_self hrequest).1, fun h => by cases h⟩
    rcases hR with ⟨hrunning, -, hclosed⟩ | ⟨hnot, rfl⟩
    · exact .inl ⟨hrunning, hclosed⟩
    · refine .inr ⟨fun hrunning => hnot ⟨hrunning, ?_⟩, rfl⟩
      obtain ⟨e, he, hlapsed⟩ := hclaimable.lapsed hrunning
      rw [lapsed, he]
      simpa using hlapsed

/-- A candidate is passed over, or its turn comes to the stored row, under
the lease it needs and after its PENDING request, if its lease lapsed. -/
theorem claimCandidate_cases {d : Draws}
    (h : claimCandidate cfg d now worker s j = .ok (answer, s')) :
    (answer = none ∧ s' = s) ∨ ∃ g L s2, browserProfileClaimAllows now s j worker ≠ false
      ∧ (if j.requiresCoordination then ∃ n, g = some n ∧ 1 ≤ n else g = none)
      ∧ ClaimLease now (now + cfg.leaseDuration) j g s.accountLeases L
      ∧ ((j.status = .running ∧ j.lapsed now = true) ∧ supersedePendingCancel now
          { s with accountLeases := L } j.id "TARGET_ATTEMPT_ENDED" = .ok s2
        ∨ ¬ (j.status = .running ∧ j.lapsed now = true) ∧ s2 = { s with accountLeases := L })
      ∧ claimStored cfg d now worker s2 j g = .ok (answer, s') := by
  unfold claimCandidate at h
  split at h
  · simp only [steps_ok] at h
    exact .inl ⟨h.1.symm, h.2.symm⟩
  · split at h
    · simp only [steps_ok] at h
      exact .inl ⟨h.1.symm, h.2.symm⟩
    case isFalse hallows =>
      simp only [bind_eq_ok] at h
      obtain ⟨⟨acquired, s1⟩, hacquire, h⟩ := h
      cases acquired with
      | none =>
        simp only [steps_ok] at h
        rcases acquireCoordination_ok hacquire with
          ⟨-, hs⟩ | ⟨hsome, -, -⟩ | ⟨_, _, _, hsome, _, _, _, _⟩
        · exact .inl ⟨h.1.symm, h.2.symm.trans hs⟩
        · cases hsome
        · cases hsome
      | some g =>
        obtain ⟨L, rfl, hfence, hL⟩ : ∃ L, s1 = { s with accountLeases := L }
            ∧ (if j.requiresCoordination then ∃ n, g = some n ∧ 1 ≤ n else g = none)
            ∧ ClaimLease now (now + cfg.leaseDuration) j g s.accountLeases L := by
          rcases acquireCoordination_ok hacquire with
            ⟨hnone, -⟩ | ⟨hsome, rfl, hno⟩ | ⟨accountId, n, L, hsome, hneeds, haccount, rfl, htaken⟩
          · cases hnone
          · cases hsome
            exact ⟨s1.accountLeases, rfl, by simp [hno], .inr ⟨hno, rfl, rfl⟩⟩
          · cases hsome
            refine ⟨L, rfl, ?_, .inl ⟨accountId, n, haccount, rfl, htaken⟩⟩
            rw [if_pos hneeds]
            exact ⟨n, rfl, htaken.positive⟩
        dsimp only at h
        split at h
        case isTrue hlapsed =>
          simp only [bind_eq_ok] at h
          obtain ⟨s2, h2, h⟩ := h
          exact .inr ⟨g, L, s2, hallows, hfence, hL, .inl ⟨hlapsed, h2⟩, h⟩
        case isFalse hlapsed =>
          exact .inr ⟨g, L, _, hallows, hfence, hL, .inr ⟨hlapsed, rfl⟩, h⟩

theorem claimCandidate_effects (hop : call.op = .claimNext worker.workerId)
    (hj : s.jobs.get? j.id = some j) (hj0 : s0.jobs.get? j.id = some j)
    (h : claimCandidate cfg call.draws call.now worker s j = .ok (answer, s')) :
    Effects cfg call s0 s s' ∧ (answer = none → s'.jobs = s.jobs) := by
  rcases claimCandidate_cases h with ⟨rfl, rfl⟩ | ⟨g, L, s2, hallows, -, hL, hlapsed, h⟩
  · exact ⟨.refl, fun _ => rfl⟩
  · have hprofile : j.isBrowserProfile = true → ProfileFree s j := profileFree_of_allows hallows
    rcases hlapsed with ⟨hlapsed, h2⟩ | ⟨hlapsed, rfl⟩
    · obtain ⟨R, rfl, hR⟩ := supersedePendingCancel_ok h2
      exact claimStored_effects hop hj hj0 hprofile (.inl ⟨hlapsed.1, hlapsed.2, hR⟩) hL h
    · exact claimStored_effects hop hj hj0 hprofile (.inr ⟨hlapsed, rfl⟩) hL h

theorem claimFirst_effects {candidates : List WorkerJob}
    (hop : call.op = .claimNext worker.workerId)
    (hstored : ∀ j ∈ candidates, s.jobs.get? j.id = some j) (hjobs0 : s.jobs = s0.jobs)
    (h : claimFirst cfg call.draws call.now worker candidates s = .ok (answer, s')) :
    Effects cfg call s0 s s' := by
  induction candidates generalizing s with
  | nil =>
    rw [claimFirst, pure_eq_ok, Prod.mk.injEq] at h
    exact h.2 ▸ .refl
  | cons j candidates ih =>
    simp only [claimFirst, bind_eq_ok] at h
    obtain ⟨⟨answer1, s1⟩, h1, h⟩ := h
    have hj := hstored j (.head _)
    obtain ⟨heffects, hjobs⟩ := claimCandidate_effects hop hj (hjobs0 ▸ hj) h1
    cases answer1 with
    | some answer1 =>
      simp only [steps_ok] at h
      exact h.2 ▸ heffects
    | none =>
      refine heffects.trans (ih ?_ ((hjobs rfl).trans hjobs0) h)
      intro j2 hj2
      rw [hjobs rfl]
      exact hstored j2 (.tail _ hj2)

/-- The rows `list_claimable` loads. -/
theorem mem_listClaimable {profileOf : Option Uuid} (h : j ∈ s.listClaimable worker now profileOf) :
    s.jobs.get? j.id = some j ∧ s.claimable worker now j = true := by
  unfold State.listClaimable at h
  split at h
  · cases h
  · have hmem := List.mem_of_mem_take h
    rw [List.mem_insertionSort, List.mem_filter, Bool.and_eq_true] at hmem
    exact ⟨mem_rows_iff.mp hmem.1, hmem.2.1⟩

theorem claimNext_effects (hop : call.op = .claimNext workerId)
    (h : claimNext cfg call.draws call.now workerId s = .ok (answer, s')) :
    Effects cfg call s s s' := by
  simp only [claimNext, steps_ok] at h
  obtain ⟨worker, hworker, -, h⟩ := h
  have hid : worker.workerId = workerId := by
    unfold State.worker? at hworker
    simpa using List.find?_some hworker
  exact claimFirst_effects (hid ▸ hop) (fun _ hj => (mem_listClaimable hj).1) rfl h

theorem reconcile_effects {answers : List JobAnswer}
    (h : reconcile call.now workerId s = .ok (answers, s')) : Effects cfg call s0 s s' := by
  simp only [reconcile, steps_ok] at h
  obtain ⟨-, -, -, -, rfl⟩ := h
  exact .refl

end WorkerJobService

end ThreadsPlatform
