/-
Cancellation only at a safe boundary.

# The invariant

`CancelAgree`: a PENDING request is the newest of its job, and aims at a
RUNNING attempt of it. Both halves are about requests and attempts only;
that the attempt is the job's current one is `AttemptsAgree`.

Every way an attempt ends settles the request against it first, so after
a job is quiesced nothing is PENDING for it (`RequestClosed.settled`). A
new request can only follow a PENDING one that aims elsewhere, and a
PENDING one that aims elsewhere would aim at a second RUNNING attempt:
there is none.

# The step

No effect but the one of `acknowledge_cancel` writes CANCELLED into an
attempt (`Effect.cancelled`); the operation itself says the rest.
-/
import ThreadsPlatform.Proofs.Attempts

namespace ThreadsPlatform

open Relational Table

variable {cfg : Settings} {call : Call} {s s' s0 : State} {J : Table workerJobs}
  {A A' : Table workerJobAttempts} {R R' : Table workerJobCancelRequests} {j j' : WorkerJob}
  {a : WorkerJobAttempt} {r r₂ : WorkerJobCancelRequest} {jobId : Uuid}
  {L : Table accountExecutionLeases} {w : Uuid} {outcome : WorkerJobAttemptStatus}

-- ==== the invariant

/-- The attempts and the cancel requests of a state agree. -/
structure CancelAgree (A : Table workerJobAttempts) (R : Table workerJobCancelRequests) :
    Prop where
  target : ∀ r, R.get? r.id = some r → r.status = .pending →
    ∃ a, A.get? a.id = some a ∧ a.status = .running ∧ a.workerJobId = r.workerJobId
      ∧ r.targetAttemptId = a.id ∧ r.targetAttemptNumber = a.attemptNumber
  newest : ∀ r r₂, R.get? r.id = some r → r.status = .pending → R.get? r₂.id = some r₂ →
    r₂.workerJobId = r.workerJobId → r₂.id ≠ r.id → r₂.generation < r.generation

theorem CancelAgree.pending_unique (h : CancelAgree A R) (hr : R.get? r.id = some r)
    (hp : r.status = .pending) (hr2 : R.get? r₂.id = some r₂) (hp2 : r₂.status = .pending)
    (hjob : r₂.workerJobId = r.workerJobId) : r₂ = r := by
  by_cases hid : r₂.id = r.id
  · rw [hid, hr] at hr2
    injection hr2 with hr2
    exact hr2.symm
  · have hlt := h.newest r r₂ hr hp hr2 hjob hid
    have hgt := h.newest r₂ r hr2 hp2 hr hjob.symm (Ne.symm hid)
    omega

theorem CancelAgree.pendingFor? (h : CancelAgree s.attempts s.cancelRequests)
    (hr : s.cancelRequests.get? r.id = some r) (hp : r.status = .pending) :
    s.pendingFor? r.workerJobId = some r := by
  obtain ⟨p, hfound⟩ := State.pendingFor?_of_pending hr rfl hp
  obtain ⟨hstored, hjob, hpending⟩ := State.pendingFor?_some hfound
  rw [hfound, h.pending_unique hr hp hstored hpending hjob]

theorem CancelAgree.settle (h : CancelAgree A R) (hsettle : RequestsSettle R R') :
    CancelAgree A R' := by
  refine ⟨?_, ?_⟩
  · intro r' hr' hp'
    obtain ⟨r, hr, hrel⟩ := hsettle.backward hr'
    obtain ⟨a, ha, hrunning, hjob, hid, hnumber⟩ :=
      h.target r (hrel.id ▸ hr) (hrel.pending hp')
    exact ⟨a, ha, hrunning, hjob.trans hrel.workerJobId.symm, hrel.targetAttemptId.trans hid,
      hrel.targetAttemptNumber.trans hnumber⟩
  · intro r' r2' hr' hp' hr2' hjob' hne
    obtain ⟨r, hr, hrel⟩ := hsettle.backward hr'
    obtain ⟨r₂, hr2, hrel2⟩ := hsettle.backward hr2'
    rw [hrel.generation, hrel2.generation]
    refine h.newest r r₂ (hrel.id ▸ hr) (hrel.pending hp') (hrel2.id ▸ hr2) ?_ ?_
    · rw [← hrel.workerJobId, ← hrel2.workerJobId]
      exact hjob'
    · rw [← hrel.id, ← hrel2.id]
      exact hne

theorem CancelAgree.quiesce (h : CancelAgree A R) (hquiet : Quiesced jobId A A')
    (hnone : ∀ r, R.get? r.id = some r → r.status = .pending → r.workerJobId ≠ jobId) :
    CancelAgree A' R := by
  refine ⟨?_, h.newest⟩
  intro r hr hp
  obtain ⟨a, ha, hrunning, hjob, haim⟩ := h.target r hr hp
  refine ⟨a, hquiet.frame a ha ?_, hrunning, hjob, haim⟩
  rw [hjob]
  exact hnone r hr hp

/-- Once its request is closed, nothing is PENDING for a job. -/
theorem RequestClosed.settled (h : CancelAgree s.attempts s.cancelRequests)
    (hclosed : RequestClosed s jobId R) :
    ∀ r, R.get? r.id = some r → r.status = .pending → r.workerJobId ≠ jobId := by
  intro r' hr' hp' hjob'
  obtain ⟨hsettle, hdone, -⟩ := hclosed
  obtain ⟨r, hr, hrel⟩ := hsettle.backward hr'
  have hstored : s.cancelRequests.get? r.id = some r := hrel.id ▸ hr
  have hfound := h.pendingFor? hstored (hrel.pending hp')
  rw [← hrel.workerJobId, hjob'] at hfound
  obtain ⟨r₂, hr2, hnot⟩ := hdone r hfound
  rw [← hrel.id, hr'] at hr2
  injection hr2 with hr2
  exact hnot (hr2 ▸ hp')

theorem CancelAgree.not_pending (hagree : AttemptsAgree J A) (h : CancelAgree A R)
    (hj : J.get? j.id = some j) (hst : j.status ≠ .running) :
    ∀ r, R.get? r.id = some r → r.status = .pending → r.workerJobId ≠ j.id := by
  intro r hr hp hjob
  obtain ⟨a, ha, hrunning, hajob, -⟩ := h.target r hr hp
  exact hagree.not_running hj hst ha (hajob.trans hjob) hrunning

-- ==== preservation

section

variable (hagree : AttemptsAgree s.jobs s.attempts) (h : CancelAgree s.attempts s.cancelRequests)

include hagree h

theorem CancelAgree.requestAdded (hadd : RequestAdded s j a r R) : CancelAgree s.attempts R := by
  obtain ⟨R1, hsettle, hfresh, hput⟩ := hadd.put
  obtain ⟨ha, hajob, harunning⟩ := State.runningAttempt?_some hadd.attempt
  have h1 := h.settle hsettle
  -- a request PENDING for this job would aim at its running attempt
  have hnone : ∀ p, R1.get? p.id = some p → p.status = .pending → p.workerJobId ≠ j.id := by
    intro p' hp' hpending' hjob'
    obtain ⟨p, hp, hrel⟩ := hsettle.backward hp'
    have hstored : s.cancelRequests.get? p.id = some p := hrel.id ▸ hp
    have hpending := hrel.pending hpending'
    obtain ⟨b, hb, hbrunning, hbjob, haim, -⟩ := h.target p hstored hpending
    have hpjob : p.workerJobId = j.id := hrel.workerJobId.symm.trans hjob'
    have hba : b = a := hagree.running_unique hb hbrunning ha harunning
      (hbjob.trans (hpjob.trans hajob.symm))
    have hfound := h.pendingFor? hstored hpending
    rw [hpjob] at hfound
    exact hadd.stale p hfound (hba ▸ haim)
  -- every other request of the job is older
  have holder : ∀ q, R1.get? q.id = some q → q.workerJobId = j.id →
      q.generation < r.generation := by
    intro q' hq' hjob'
    obtain ⟨q, hq, hrel⟩ := hsettle.backward hq'
    rw [hrel.generation]
    exact hadd.newest q (mem_of_get? hq) (hrel.workerJobId.symm.trans hjob')
  refine ⟨?_, ?_⟩
  · intro q hq hqp
    rcases hput.cases hq with ⟨-, rfl⟩ | ⟨-, hq⟩
    · exact ⟨a, ha, harunning, hajob.trans hadd.workerJobId.symm, hadd.targetAttemptId,
        hadd.targetAttemptNumber⟩
    · exact h1.target q hq hqp
  · intro q q2 hq hqp hq2 hjob hne
    rcases hput.cases hq with ⟨-, rfl⟩ | ⟨-, hq⟩ <;> rcases hput.cases hq2 with ⟨-, rfl⟩ | ⟨-, hq2⟩
    · exact absurd rfl hne
    · exact holder q2 hq2 (hjob.trans hadd.workerJobId)
    · exact absurd (hjob.symm.trans hadd.workerJobId) (hnone q hq hqp)
    · exact h1.newest q q2 hq hqp hq2 hjob hne

theorem CancelAgree.jobClaimed {expiry : Time} {g : Option Int}
    (hclaim : JobClaimed call s j a w expiry g J A R L) : CancelAgree A R := by
  obtain ⟨A1, hquiet, hfresh, hput⟩ := hclaim.quiesced hagree
  have h1 : CancelAgree A1 R := by
    rcases hclaim.requests with ⟨-, hclosed⟩ | ⟨hst, rfl⟩
    · exact (h.settle hclosed.1).quiesce hquiet (hclosed.settled h)
    · exact h.quiesce hquiet (h.not_pending hagree hclaim.stored hst)
  refine ⟨?_, h1.newest⟩
  intro r hr hp
  obtain ⟨b, hb, hrest⟩ := h1.target r hr hp
  exact ⟨b, hput.get?_of_fresh hfresh hb, hrest⟩

theorem CancelAgree.jobMoved {C : Table commands} {O : Table outboxEvents}
    {D : Table integrationDeliveries} (hmove : JobMoved call s0 s j j' outcome J A R C O D L) :
    CancelAgree A R := by
  rcases hmove.ending with ⟨-, rfl, rfl⟩ | ⟨hclosed, hrequest⟩
  · exact h
  · exact (h.settle hrequest.1).quiesce (hclosed.quiesced hagree hmove.outcome_closed)
      (hrequest.settled h)

/-- Every effect keeps requests and attempts in agreement. -/
theorem CancelAgree.effect (he : Effect cfg call s0 s s') :
    CancelAgree s'.attempts s'.cancelRequests := by
  cases he with
  | requestsSettled hsettle => exact h.settle hsettle
  | requestAdded hadd => exact CancelAgree.requestAdded (s := s) hagree h hadd
  | jobClaimed hclaim => exact h.jobClaimed hagree hclaim
  | jobMoved hmove => exact h.jobMoved hagree hmove
  | _ => exact h

end

theorem CancelAgree.reachable (h : Reachable cfg s) :
    CancelAgree s.attempts s.cancelRequests := by
  refine (h.of_effects (I := fun s => AttemptsAgree s.jobs s.attempts
    ∧ CancelAgree s.attempts s.cancelRequests) ?_ ?_).2
  · intro W
    refine ⟨?_, ?_⟩
    · constructor <;> intro _ hrow <;> cases hrow
    · constructor
      · intro _ hrow
        cases hrow
      · intro _ _ hrow
        cases hrow
  · exact fun _ _ _ _ h he => ⟨h.1.effect he, h.2.effect h.1 he⟩

-- ==== the step

/-- A later state still has the request, with its target. -/
theorem Later.request (h : Later cfg s0 s) (hr : s0.cancelRequests.get? r.id = some r) :
    ∃ r', s.cancelRequests.get? r.id = some r' ∧ r.Settles r' := by
  refine h.of_effects (I := fun s => ∃ r', s.cancelRequests.get? r.id = some r' ∧ r.Settles r')
    ⟨r, hr, .refl r⟩ ?_
  rintro call s t t' ⟨r1, hr1, hrel⟩ he
  -- the requests settle, or a fresh one is put beside them
  have hsettle : ∀ R', RequestsSettle t.cancelRequests R' →
      ∃ r', R'.get? r.id = some r' ∧ r.Settles r' := by
    intro R' hR'
    obtain ⟨r₂, hr2, hrel2⟩ := hR'.forward hr1
    exact ⟨r₂, hr2, hrel.trans hrel2⟩
  cases he with
  | requestsSettled h => exact hsettle _ h
  | requestAdded hadd =>
    obtain ⟨R1, hR1, hfresh, hput⟩ := hadd.put
    obtain ⟨r₂, hr2, hrel2⟩ := hsettle R1 hR1
    exact ⟨r₂, hput.get?_of_fresh hfresh hr2, hrel2⟩
  | jobClaimed hclaim =>
    rcases hclaim.requests with ⟨-, hclosed⟩ | ⟨-, rfl⟩
    · exact hsettle _ hclosed.1
    · exact ⟨r1, hr1, hrel⟩
  | jobMoved hmove =>
    rcases hmove.ending with ⟨-, -, rfl⟩ | ⟨-, hclosed⟩
    · exact ⟨r1, hr1, hrel⟩
    · exact hsettle _ hclosed.1
  | _ => exact ⟨r1, hr1, hrel⟩

/-- The call acknowledges, as the live owner of the job's lease and at a
safe checkpoint that is stored, the request PENDING against the job's
current attempt. -/
structure SafeAcknowledgement (call : Call) (s : State) (j : WorkerJob) (w τ : Uuid)
    (phase : String) (a : WorkerJobAttempt) (r : WorkerJobCancelRequest) : Prop where
  op : call.op = .acknowledgeCancel j.id w τ r.id r.generation phase
  job : j ∈ s.jobs.rows
  owner : j.ownsLease w τ call.now = true
  attempt : a ∈ s.attempts.rows
  running : a.status = .running
  attemptOf : a.workerJobId = j.id
  current : a.attemptNumber = j.attemptCount ∧ a.workerId = w ∧ a.leaseToken = τ
  request : r ∈ s.cancelRequests.rows
  pending : r.status = .pending
  requestOf : r.workerJobId = j.id
  target : r.targetAttemptId = a.id ∧ r.targetAttemptNumber = a.attemptNumber
  allowed : ∃ phases, cancellablePhases j.capabilityName = some phases ∧ phase ∈ phases
  checkpoint : (j.checkpoint.bind fun document => document.get? "phase") = some (.str phase)

open WorkerJobService

/-- What `acknowledge_cancel` checked, and the attempt it closed. -/
theorem acknowledgeCancel_ok {τ requestId : Uuid} {n : Int} {phase : String} {answer : WorkerJob}
    (hop : call.op = .acknowledgeCancel jobId w τ requestId n phase)
    (h : acknowledgeCancel cfg call.draws call.now jobId w τ requestId n phase s
      = .ok (answer, s')) :
    ∃ j a r, SafeAcknowledgement call s j w τ phase a r
      ∧ Put s.attempts (a.close .cancelled call.now (some r.reasonCode)) s'.attempts := by
  simp only [acknowledgeCancel, closeAttempt, steps_ok] at h
  obtain ⟨j, hj, hown, -, ⟨-, -, hallowed⟩, hcheckpoint, a, ha, hcurrent, r, hr,
    ⟨rfl, rfl, htarget⟩, -, -, _, -, j', rfl, -, -, R, -, s1, ⟨A, hA, rfl⟩, s2, h2, s3, h3, s4,
    h4, s5, h5, -, rfl⟩ := h
  obtain ⟨J, rfl, -⟩ := storeJob_ok h2
  obtain ⟨C, O, D, rfl, -⟩ := finalizeCommand_ok .cancelled rfl rfl h3
  obtain ⟨P, rfl, -⟩ := satisfyPreemptionsForVictim_ok h4
  obtain ⟨L, rfl, -⟩ := releaseAccountCoordination_ok h5
  obtain ⟨hid, hstored⟩ := lockedJob_ok hj
  obtain ⟨hastored, hajob, harunning⟩ :=
    State.runningAttempt?_some (runningAttempt_ok ha)
  obtain ⟨hrstored, hrjob, hrpending⟩ := State.pendingFor?_some hr
  rw [Option.any_eq_true] at hallowed
  obtain ⟨phases, hphases, hphase⟩ := hallowed
  refine ⟨j, a, r, ?_, (updateRow_ok hA).2⟩
  exact
    { op := hid ▸ hop
      job := mem_rows_iff.mpr hstored
      owner := hown
      attempt := mem_rows_iff.mpr hastored
      running := harunning
      attemptOf := hajob
      current := hcurrent
      request := mem_rows_iff.mpr hrstored
      pending := hrpending
      requestOf := hrjob
      target := htarget
      allowed := ⟨phases, hphases, by simpa using hphase⟩
      checkpoint := hcheckpoint }

theorem AttemptClosed.cancelled {now : Time} (h : AttemptClosed now s jobId outcome A)
    (houtcome : outcome ≠ .cancelled) (ha : A.get? a.id = some a) (hc : a.status = .cancelled) :
    s.attempts.get? a.id = some a := by
  rcases h with ⟨-, rfl⟩ | ⟨b, code, -, hput⟩
  · exact ha
  · rcases hput.cases ha with ⟨-, rfl⟩ | ⟨-, hold⟩
    · exact absurd hc houtcome
    · exact hold

theorem Effect.cancelled
    (hop : ∀ jobId w τ r n phase, call.op ≠ .acknowledgeCancel jobId w τ r n phase)
    (he : Effect cfg call s0 s s') (ha : s'.attempts.get? a.id = some a)
    (hc : a.status = .cancelled) : s.attempts.get? a.id = some a := by
  cases he with
  | jobClaimed hclaim =>
    obtain ⟨A1, hclosed, -, hput⟩ := hclaim.attempts
    rcases hput.cases ha with ⟨-, rfl⟩ | ⟨-, hold⟩
    · rw [hclaim.running] at hc
      cases hc
    · rcases hclosed with ⟨-, hclosed⟩ | ⟨-, rfl⟩
      · exact hclosed.cancelled (by decide) hold hc
      · exact hold
  | jobMoved hmove =>
    rcases hmove.ending with ⟨-, rfl, -⟩ | ⟨hclosed, -⟩
    · exact ha
    · refine hclosed.cancelled ?_ ha hc
      intro houtcome
      obtain ⟨w, τ, r, n, phase, heq⟩ := hmove.outcome_cancelled houtcome
      exact hop _ _ _ _ _ _ heq
  | _ => exact ha

/-- An attempt that a call cancels was RUNNING, and the call is a safe
acknowledgement of the request against it. -/
theorem cancelled_by_acknowledgement {a' : WorkerJobAttempt} (hen : (machine cfg).enabled s call)
    (ha' : a' ∈ ((machine cfg).step s call).attempts.rows) (hc : a'.status = .cancelled)
    (hnew : a' ∉ s.attempts.rows) :
    ∃ j w τ phase a r, a.id = a'.id ∧ a.attemptNumber = a'.attemptNumber
      ∧ SafeAcknowledgement call s j w τ phase a r := by
  have ha' : a' ∈ (commit (call.outcome cfg s) s).attempts.rows := ha'
  cases houtcome : call.outcome cfg s with
  | error e =>
    rw [houtcome] at ha'
    exact absurd ha' hnew
  | ok s' =>
    rw [houtcome, commit_ok] at ha'
    have hget : s'.attempts.get? a'.id = some a' := mem_rows_iff.mp ha'
    by_cases hop : ∀ jobId w τ r n phase, call.op ≠ .acknowledgeCancel jobId w τ r n phase
    · -- some other operation: the attempt was there before
      have hkept := Effects.invariant (I := fun t => ∀ a : WorkerJobAttempt,
          t.attempts.get? a.id = some a → a.status = .cancelled → s.attempts.get? a.id = some a)
        (fun _ _ ih he a ha hc => ih a (he.cancelled hop ha hc) hc)
        (outcome_effects hen houtcome) (fun _ ha _ => ha)
      exact absurd (mem_rows_iff.mpr (hkept a' hget hc)) hnew
    · push Not at hop
      obtain ⟨jobId, w, τ, requestId, n, phase, hop⟩ := hop
      rw [Call.outcome, hop, map_eq_ok] at houtcome
      obtain ⟨⟨answer, s1⟩, hack, rfl⟩ := houtcome
      obtain ⟨j, a, r, hsafe, hput⟩ := acknowledgeCancel_ok hop hack
      rcases hput.cases hget with ⟨-, rfl⟩ | ⟨-, hold⟩
      · exact ⟨j, w, τ, phase, a, r, rfl, rfl, hsafe⟩
      · exact absurd (mem_rows_iff.mpr hold) hnew

-- ==== the result

/-- A PENDING request: the only one of its job, the newest, and against
the attempt the job now runs. -/
structure PendingRequest (s : State) (r : WorkerJobCancelRequest) : Prop where
  only : ∀ r₂ ∈ s.cancelRequests.rows, r₂.workerJobId = r.workerJobId →
    r₂.status = .pending → r₂ = r
  newest : ∀ r₂ ∈ s.cancelRequests.rows, r₂.workerJobId = r.workerJobId → r₂ ≠ r →
    r₂.generation < r.generation
  target : ∃ j ∈ s.jobs.rows, ∃ a ∈ s.attempts.rows, j.id = r.workerJobId
    ∧ j.status = .running ∧ a.workerJobId = j.id ∧ a.status = .running
    ∧ a.attemptNumber = j.attemptCount
    ∧ r.targetAttemptId = a.id ∧ r.targetAttemptNumber = a.attemptNumber

theorem pendingRequest_of_reachable (h : Reachable cfg s) (hr : r ∈ s.cancelRequests.rows)
    (hp : r.status = .pending) : PendingRequest s r := by
  have hagree := AttemptsAgree.reachable h
  have hcancel := CancelAgree.reachable h
  have hstored : s.cancelRequests.get? r.id = some r := mem_rows_iff.mp hr
  refine ⟨?_, ?_, ?_⟩
  · intro r₂ hr2 hjob hp2
    exact hcancel.pending_unique hstored hp (mem_rows_iff.mp hr2) hp2 hjob
  · intro r₂ hr2 hjob hne
    have hstored2 : s.cancelRequests.get? r₂.id = some r₂ := mem_rows_iff.mp hr2
    refine hcancel.newest r r₂ hstored hp hstored2 hjob ?_
    intro hid
    rw [hid, hstored] at hstored2
    injection hstored2 with heq
    exact hne heq.symm
  · obtain ⟨a, ha, harunning, hajob, haim⟩ := hcancel.target r hstored hp
    obtain ⟨j, hj, hjrunning, hnumber, -⟩ := hagree.running a ha harunning
    have hid : j.id = a.workerJobId := key_of_get? hj
    exact ⟨j, mem_of_get? hj, a, mem_rows_iff.mpr ha, hid.trans hajob, hjrunning, hid.symm,
      harunning, hnumber, haim⟩

/-- Cancellation is safe: PENDING requests are well aimed; an attempt is
cancelled only by the safe acknowledgement of a request made against
that very attempt. -/
theorem cancellation_safe (h : Reachable cfg s) :
    (∀ r ∈ s.cancelRequests.rows, r.status = .pending → PendingRequest s r)
    ∧ ∀ call, (machine cfg).enabled s call →
      ∀ a' ∈ ((machine cfg).step s call).attempts.rows, a'.status = .cancelled →
        a' ∉ s.attempts.rows →
        ∃ j w τ phase a r, a.id = a'.id ∧ SafeAcknowledgement call s j w τ phase a r
          ∧ ∀ s₁, Later cfg s₁ s → ∀ r₁ ∈ s₁.cancelRequests.rows, r₁.id = r.id →
            r₁.targetAttemptId = a'.id ∧ r₁.targetAttemptNumber = a'.attemptNumber := by
  refine ⟨fun r hr hp => pendingRequest_of_reachable h hr hp, ?_⟩
  intro call hen a' ha' hc hnew
  obtain ⟨j, w, τ, phase, a, r, hid, hnumber, hsafe⟩ :=
    cancelled_by_acknowledgement hen ha' hc hnew
  refine ⟨j, w, τ, phase, a, r, hid, hsafe, ?_⟩
  intro s₁ hlater r₁ hr₁ hsame
  obtain ⟨r', hr', hrel⟩ := hlater.request (mem_rows_iff.mp hr₁)
  have hstored : s.cancelRequests.get? r.id = some r := mem_rows_iff.mp hsafe.request
  rw [hsame, hstored] at hr'
  cases hr'
  rw [← hrel.targetAttemptId, ← hrel.targetAttemptNumber, hsafe.target.1, hsafe.target.2]
  exact ⟨hid, hnumber⟩

/-- An activity's job, claimed, at a checkpoint, asked to stop. -/
def cancelRun : List Call := [Sample.call 1 0 (Sample.dispatch Sample.activityCommand (-100)),
    Sample.call 2 1 (.processNext []), Sample.call 3 2 (.claimNext 2),
    Sample.call 4 3 (.checkpoint 200 2 301 [("phase", .str "FEED_READY")]),
    Sample.call 5 4 (.requestCancel 200 "OPERATOR")]

/-- Its worker acknowledges. -/
def acknowledgement : Call :=
  Sample.call 6 5 (.acknowledgeCancel 200 2 301 503 1 "FEED_READY")

open Sample in
theorem cancellation_safe_acknowledged :
    ∃ a' ∈ ((machine settings).step (after cancelRun) acknowledgement).attempts.rows,
      a'.status = .cancelled ∧ ∃ j w τ phase a r, a.id = a'.id
        ∧ SafeAcknowledgement acknowledgement (after cancelRun) j w τ phase a r := by
  obtain ⟨a', ha', hc, hnew⟩ :
      ∃ a' ∈ ((machine settings).step (after cancelRun)
          acknowledgement).attempts.rows,
        a'.status = .cancelled ∧ a' ∉ (after cancelRun).attempts.rows := by
    decide +kernel
  obtain ⟨j, w, τ, phase, a, r, hid, hsafe, -⟩ :=
    (cancellation_safe (reachable
      (by decide +kernel : admitted cancelRun = true))).2
      acknowledgement (fun claim hclaim => by cases hclaim) a' ha' hc hnew
  exact ⟨a', ha', hc, j, w, τ, phase, a, r, hid, hsafe⟩

end ThreadsPlatform
