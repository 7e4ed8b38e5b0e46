/-
A claim that works from candidates read earlier.

`claim_next` reads its candidates without a lock and claims one of them
under the row's lock; other transactions commit in between. Most of the
claim is decided again under the lock. One thing is not: a candidate
that was read RUNNING with a lapsed lease loses its pending cancel
request before the row is looked at again.

# Where it fails

An owner whose renewal was on its way when the lease lapsed commits it
after the read. The claim is then refused, the loop moves on, and the
transaction commits without the request: the attempt runs on, and nobody
asks it to stop (`renewal_loses_cancel_request`).

# Where it holds

If a candidate that the loop gets to, with a request pending for it,
still passes the checks of `WorkerJob.claim` (`stillReclaimable`), it is
claimed when it loses its request, and the attempt the request aimed at
is abandoned with it. A refused candidate then leaves jobs, attempts and
requests as they are, which is what carries the induction over the
candidates. Of those behind the claimed one nothing is asked.
-/
import ThreadsPlatform.Proofs.Cancellation

namespace ThreadsPlatform

open Relational Table WorkerJobService

variable {cfg : Settings} {d : Draws} {now : Time} {worker : WorkerNode} {s s' s₀ s₁ s₂ : State}
  {c j j' : WorkerJob} {r : WorkerJobCancelRequest} {answer : Option JobAnswer}

-- ==== two halves

/-- The first half of `claim_next`: the worker, and the candidates it may
claim as the read finds them. -/
def selectCandidates (now : Time) (workerId : Uuid) (s : State) :
    Except Failure (WorkerNode × List WorkerJob) := do
  let worker ← orThrow (s.worker? workerId) (.control .workerNotFound)
  require (eligible now worker = true) (.control .workerNotEligible)
  return (worker, s.listClaimable worker now none)

/-- `claim_next`, its candidates read in one state and claimed in another. -/
def claimAcross (cfg : Settings) (d : Draws) (now : Time) (workerId : Uuid) (s₀ s : State) :
    Except Failure (Option JobAnswer × State) := do
  let (worker, candidates) ← selectCandidates now workerId s₀
  claimFirst cfg d now worker candidates s

/-- With nothing in between, it is `claim_next`. -/
theorem claimAcross_self (workerId : Uuid) :
    claimAcross cfg d now workerId s s = claimNext cfg d now workerId s := by
  unfold claimAcross claimNext selectCandidates
  cases hworker : s.worker? workerId with
  | none => rfl
  | some worker =>
    by_cases heligible : eligible now worker = true
    · simp [orThrow, require, heligible, bind, Except.bind, pure, Except.pure]
    · simp [orThrow, require, heligible, bind, Except.bind]

/-- The worker that was asked for, and candidates that were stored. -/
theorem selectCandidates_ok {workerId : Uuid} {candidates : List WorkerJob}
    (h : selectCandidates now workerId s = .ok (worker, candidates)) :
    worker.workerId = workerId ∧ ∀ c ∈ candidates, s.jobs.get? c.id = some c := by
  simp only [selectCandidates, steps_ok] at h
  obtain ⟨w, hw, -, rfl, rfl⟩ := h
  refine ⟨?_, fun c hc => (mem_listClaimable hc).1⟩
  unfold State.worker? at hw
  simpa using List.find?_some hw

/-- The candidate was read RUNNING, its lease lapsed. -/
def WorkerJob.ReadLapsed (c : WorkerJob) (now : Time) : Prop :=
  c.status = .running ∧ c.leaseExpiresAt.any (fun e => decide (e ≤ now)) = true

instance : Decidable (c.ReadLapsed now) := inferInstanceAs (Decidable (_ ∧ _))

/-- What `WorkerJob.claim` asks of a job that is already RUNNING. -/
def WorkerJob.reclaimable (j : WorkerJob) (workerId : Uuid) (now : Time) : Bool :=
  decide (j.scheduledAt ≤ now) && j.beforeDeadline now && decide (j.attemptCount < j.maxAttempts)
    && decide (j.assignedWorkerId = none ∨ j.assignedWorkerId = some workerId)
    && (j.leaseExpiresAt.any fun e => decide (e ≤ now))
    && decide (j.retrySafety = .safeToRetry ∨ j.retryAuthorizedByOperator = true)

/-- No candidate that the loop gets to, with a pending request, has been
renewed, or changed otherwise, so that it would now be refused. -/
def stillReclaimable (cfg : Settings) (d : Draws) (now : Time) (worker : WorkerNode) :
    List WorkerJob → State → Bool
  | [], _ => true
  | c :: candidates, s =>
    decide (c.ReadLapsed now → (s.pendingFor? c.id).isSome = true →
        (s.jobs.get? c.id).all (·.reclaimable worker.workerId now) = true)
      && (claimCandidate cfg d now worker s c).toOption.all fun answered =>
        answered.1.isSome || stillReclaimable cfg d now worker candidates answered.2

/-- The same, between the state a worker's candidates are read in and the
state they are claimed in. -/
def unrenewed (cfg : Settings) (d : Draws) (now : Time) (workerId : Uuid) (s₀ s : State) : Bool :=
  (selectCandidates now workerId s₀).toOption.all fun selected =>
    stillReclaimable cfg d now selected.1 selected.2 s

/-- A request is superseded as TARGET_ATTEMPT_ENDED only together with
the attempt it aims at. -/
def SupersededWithAttempt (s s' : State) : Prop :=
  ∀ r ∈ s.cancelRequests.rows, r.status = .pending →
    ∀ r' ∈ s'.cancelRequests.rows, r'.id = r.id → r'.status = .superseded →
      r'.supersededReason = some "TARGET_ATTEMPT_ENDED" →
      ∀ a ∈ s'.attempts.rows, a.id = r.targetAttemptId → a.status ≠ .running

-- ==== in between

theorem WorkerJob.SameJob.refl (j : WorkerJob) : j.SameJob j := by
  constructor <;> rfl

theorem WorkerJob.SameJob.trans (h : c.SameJob j) (h' : j.SameJob j') : c.SameJob j' where
  id := h'.id.trans h.id
  commandId := h'.commandId.trans h.commandId
  accountId := h'.accountId.trans h.accountId
  assignedWorkerId := h'.assignedWorkerId.trans h.assignedWorkerId
  accountAffinityRequired := h'.accountAffinityRequired.trans h.accountAffinityRequired
  capabilityName := h'.capabilityName.trans h.capabilityName
  capabilityVersion := h'.capabilityVersion.trans h.capabilityVersion
  operationClass := h'.operationClass.trans h.operationClass
  inputData := h'.inputData.trans h.inputData
  priority := h'.priority.trans h.priority
  preemptible := h'.preemptible.trans h.preemptible
  deadlineAt := h'.deadlineAt.trans h.deadlineAt
  maxAttempts := h'.maxAttempts.trans h.maxAttempts

/-- A write of any job keeps the job that became of the candidate. -/
theorem sameJob_put {J J' : Table workerJobs} (hc : ∃ j2, J.get? c.id = some j2 ∧ c.SameJob j2)
    (hj : J.get? j.id = some j) (hsame : j.SameJob j') (hput : Put J j' J') :
    ∃ j2, J'.get? c.id = some j2 ∧ c.SameJob j2 := by
  obtain ⟨j2, hj2, hsame2⟩ := hc
  rcases get?_put_job hj hput hsame.id hj2 with ⟨-, rfl, hnew⟩ | ⟨-, hold⟩
  · exact ⟨j', hnew, hsame2.trans hsame⟩
  · exact ⟨j2, hold, hsame2⟩

theorem Later.job (h : Later cfg s₀ s) (hc : s₀.jobs.get? c.id = some c) :
    ∃ j, s.jobs.get? c.id = some j ∧ c.SameJob j := by
  refine h.of_effects (I := fun s => ∃ j, s.jobs.get? c.id = some j ∧ c.SameJob j)
    ⟨c, hc, .refl c⟩ ?_
  intro call s t t' ht he
  cases he with
  | jobAdded hadd =>
    obtain ⟨j2, hj2, hsame⟩ := ht
    exact ⟨j2, hadd.put.get?_of_fresh hadd.fresh hj2, hsame⟩
  | jobClaimed hclaim =>
    exact sameJob_put ht hclaim.stored WorkerJob.sameJob_claimed hclaim.jobs
  | jobTouched htouch => exact sameJob_put ht htouch.stored htouch.same htouch.jobs
  | jobMoved hmove => exact sameJob_put ht hmove.stored hmove.leaves.toSameJob hmove.jobs
  | _ => exact ht

theorem Reachable.later (hs : Reachable cfg s₀) (h : Later cfg s₀ s) : Reachable cfg s :=
  Machine.Continues.invariant (I := fun _ => Reachable cfg) hs
    (fun _ _ _ hr _ hen => .step hr hen trivial) h

-- ==== one turn

/-- What a claim finds out under the locks. -/
structure Locked (s : State) : Prop where
  attempts : AttemptsAgree s.jobs s.attempts
  requests : CancelAgree s.attempts s.cancelRequests

/-- A candidate that got through the gates: the account lease is taken if
it needs one, and if it was read lapsed its request is superseded. -/
structure Turn (now : Time) (s : State) (c : WorkerJob) (g : Option Int)
    (R : Table workerJobCancelRequests) : Prop where
  fence : if c.requiresCoordination then ∃ n, g = some n ∧ 1 ≤ n else g = none
  kept : R = s.cancelRequests ∨ (c.ReadLapsed now ∧ (s.pendingFor? c.id).isSome = true)
  others : ∀ r, s.cancelRequests.get? r.id = some r → r.workerJobId ≠ c.id →
    R.get? r.id = some r

/-- Superseding touches the request of this job only. -/
theorem superseded_turn {reason : String} (hlapsed : c.ReadLapsed now)
    (h : supersedePendingCancel now s c.id reason = .ok s') :
    ∃ R, s' = { s with cancelRequests := R }
      ∧ (R = s.cancelRequests ∨ (c.ReadLapsed now ∧ (s.pendingFor? c.id).isSome = true))
      ∧ ∀ r, s.cancelRequests.get? r.id = some r → r.workerJobId ≠ c.id → R.get? r.id = some r := by
  unfold supersedePendingCancel at h
  split at h
  · rw [pure_eq_ok] at h
    exact ⟨s.cancelRequests, h.symm, .inl rfl, fun _ hr _ => hr⟩
  case h_2 p hp =>
    simp only [steps_ok] at h
    obtain ⟨p', hp', R, hR, rfl⟩ := h
    refine ⟨R, rfl, .inr ⟨hlapsed, by rw [hp]; rfl⟩, ?_⟩
    exact fun r => others_of_update hp (supersede_settles hp').1 hR

theorem claimCandidate_turn (h : claimCandidate cfg d now worker s c = .ok (answer, s')) :
    (answer = none ∧ s' = s) ∨ ∃ g R L, Turn now s c g R
        ∧ claimStored cfg d now worker { s with cancelRequests := R, accountLeases := L } c g
          = .ok (answer, s') := by
  rcases claimCandidate_cases h with hnone | ⟨g, L, s₂, -, hfence, -, hlapsed, h⟩
  · exact .inl hnone
  · rcases hlapsed with ⟨hlapsed, h2⟩ | ⟨-, rfl⟩
    · obtain ⟨R, rfl, hkept, hothers⟩ := superseded_turn hlapsed h2
      exact .inr ⟨g, R, L, ⟨hfence, hkept, hothers⟩, h⟩
    · exact .inr ⟨g, s.cancelRequests, L, ⟨hfence, .inl rfl, fun _ hr _ => hr⟩, h⟩

/-- A RUNNING row that passes the checks is not refused. -/
theorem claimJob_accepts {w τ : Uuid} {expiry : Time} {g : Option Int}
    (hj : s.jobs.get? c.id = some j) (hrunning : j.status = .running)
    (hreclaimable : j.reclaimable w now = true) (hexpiry : now < expiry)
    (hfence : if j.requiresCoordination then ∃ n, g = some n ∧ 1 ≤ n else g = none)
    (h : s.claimJob c.id w now expiry τ g = .ok (none, s')) : False := by
  simp only [WorkerJob.reclaimable, checks_hold, Option.any_eq_true] at hreclaimable
  obtain ⟨⟨⟨⟨⟨hscheduled, hdeadline⟩, hattempts⟩, hassigned⟩, hlapsed⟩, hsafe⟩ := hreclaimable
  have hclaim : j.claim w now expiry τ g = .ok (j.claimed w now expiry τ g) :=
    WorkerJob.claim_of_claimable
      { status := .inr (.inr hrunning)
        scheduled := hscheduled
        deadline := hdeadline
        attempts := hattempts
        assigned := hassigned
        lapsed := fun _ => hlapsed
        reconciled := fun _ => hsafe
        expiry := hexpiry
        fence := hfence }
  simp only [State.claimJob, hj, hclaim, if_pos hrunning, steps_ok] at h
  obtain ⟨_, _, _, _, hnone, _⟩ := h
  cases hnone

/-- A job with a PENDING request is RUNNING. -/
theorem Locked.running (h : Locked s) (hpending : (s.pendingFor? c.id).isSome = true)
    (hj : s.jobs.get? c.id = some j) : j.status = .running := by
  obtain ⟨p, hp⟩ := Option.isSome_iff_exists.mp hpending
  obtain ⟨hstored, hjob, hstatus⟩ := State.pendingFor?_some hp
  obtain ⟨a, ha, harunning, hajob, -⟩ := h.requests.target p hstored hstatus
  obtain ⟨j2, hj2, hrunning, -⟩ := h.attempts.running a ha harunning
  rw [hajob, hjob, hj] at hj2
  injection hj2 with hj2
  rw [hj2]
  exact hrunning

/-- A refused candidate leaves jobs, attempts and requests alone. -/
theorem claimCandidate_refused (hs : Locked s)
    (hsame : ∃ j, s.jobs.get? c.id = some j ∧ c.SameJob j)
    (hunrenewed : c.ReadLapsed now → (s.pendingFor? c.id).isSome = true →
      (s.jobs.get? c.id).all (·.reclaimable worker.workerId now) = true)
    (h : claimCandidate cfg d now worker s c = .ok (none, s')) :
    s'.jobs = s.jobs ∧ s'.attempts = s.attempts ∧ s'.cancelRequests = s.cancelRequests := by
  rcases claimCandidate_turn h with ⟨-, rfl⟩ | ⟨g, R, L, hturn, hstored⟩
  · exact ⟨rfl, rfl, rfl⟩
  simp only [claimStored, bind_eq_ok] at hstored
  obtain ⟨⟨claimed, s₁⟩, hclaim, hstored⟩ := hstored
  cases claimed with
  | some j =>
    simp only [steps_ok] at hstored
    obtain ⟨_, _, _, _, _, _, hnone, _⟩ := hstored
    cases hnone
  | none =>
    simp only [steps_ok] at hstored
    obtain ⟨s₂, hrelease, -, rfl⟩ := hstored
    obtain ⟨L', rfl, -⟩ := releaseAccountCoordination_ok hrelease
    rcases claimJob_ok hclaim with ⟨-, rfl⟩ | ⟨_, _, _, _, hsome, _⟩
    · refine ⟨rfl, rfl, ?_⟩
      rcases hturn.kept with hkept | ⟨hlapsed, hpending⟩
      · exact hkept
      · -- it has lost its request, so it is not refused
        obtain ⟨j, hj, hsamejob⟩ := hsame
        have hreclaimable := hunrenewed hlapsed hpending
        rw [hj, Option.all_some] at hreclaimable
        refine (claimJob_accepts (s := { s with cancelRequests := R, accountLeases := L }) hj
          (hs.running hpending hj) hreclaimable (lt_add_of_pos_right now cfg.leaseDuration_pos)
          ?_ hclaim).elim
        rw [hsamejob.requiresCoordination]
        exact hturn.fence
    · cases hsome

/-- The cancellation a claimed victim is asked for is its own affair. -/
theorem requestCancelForWaitingPreemption_only (cfg : Settings)
    {request : Option WorkerJobCancelRequest} (hj : s.jobs.get? j.id = some j)
    (h : requestCancelForWaitingPreemption d now s j = .ok (request, s')) :
    OnlyRequests j.id s s' := by
  have hboth : Effects cfg ⟨now, d, .claimNext j.id⟩ s s s' ∧ OnlyRequests j.id s s' :=
    requestCancelForWaitingPreemption_effects hj h
  exact hboth.2

/-- A claimed candidate: the requests of other jobs stay, and an attempt
a request of this job aimed at has ended. -/
theorem claimCandidate_claimed (hs : Locked s) {answer : JobAnswer}
    (h : claimCandidate cfg d now worker s c = .ok (some answer, s')) :
    SupersededWithAttempt s s' := by
  rcases claimCandidate_turn h with ⟨hnone, -⟩ | ⟨g, R, L, hturn, hstored⟩
  · cases hnone
  simp only [claimStored, bind_eq_ok] at hstored
  obtain ⟨⟨claimed, s₁⟩, hclaim, hstored⟩ := hstored
  rcases claimJob_ok hclaim with ⟨rfl, rfl⟩ | ⟨j, J, A1, hj, rfl, -, rfl, hJ, hA1⟩
  · simp only [steps_ok] at hstored
    obtain ⟨_, _, hsome, _⟩ := hstored
    cases hsome
  simp only [steps_ok] at hstored
  obtain ⟨a1, hstart, A, hA, ⟨request, s₂⟩, hrequest, -, rfl⟩ := hstored
  have hid : j.id = c.id := key_of_get? hj
  obtain ⟨hfresh, hput⟩ := addRow_ok hA
  have hquiet : Quiesced c.id s.attempts A1 := by
    rw [← hid] at hj ⊢
    rcases hA1 with ⟨-, hclosed⟩ | ⟨hidle, rfl⟩
    · exact AttemptClosed.quiesced hs.attempts hclosed (by decide)
    · exact hs.attempts.quiesced hj hidle
  have honly := requestCancelForWaitingPreemption_only cfg hJ.get?_self hrequest
  intro r hr hpending r' hr' hsame hsuperseded _ a ha htarget hrunning
  have hrstored := mem_rows_iff.mp hr
  by_cases hjob : r.workerJobId = c.id
  · -- the attempt was there before the claim, and the job is quiesced
    obtain ⟨b, hb, -, hbjob, hbid, -⟩ := hs.requests.target r hrstored hpending
    obtain ⟨b', hb', hends⟩ := hquiet.evolves.forward hb
    have hattempts : s₂.attempts = A := honly.attempts
    rw [hattempts] at ha
    have hstored : A.get? a.id = some a := mem_rows_iff.mp ha
    rw [htarget, hbid, hput.get?_of_fresh hfresh hb'] at hstored
    injection hstored with hstored
    subst hstored
    refine hquiet.quiet b' (hends.id ▸ hb') ?_ hrunning
    exact hends.workerJobId.trans (hbjob.trans hjob)
  · -- the request of another job is still pending
    have hkept := honly.others r (hturn.others r hrstored hjob) (hid ▸ hjob)
    have hr' : s₂.cancelRequests.get? r'.id = some r' := mem_rows_iff.mp hr'
    rw [← hsame, hr'] at hkept
    injection hkept with hkept
    rw [hkept, hpending] at hsuperseded
    cases hsuperseded

-- ==== the loop

/-- Requests are superseded with their attempts, in every interleaving
that leaves the lapsed candidates reclaimable. -/
theorem claimFirst_supersedes {candidates : List WorkerJob} (hs : Locked s)
    (hsame : ∀ c ∈ candidates, ∃ j, s.jobs.get? c.id = some j ∧ c.SameJob j)
    (hunrenewed : stillReclaimable cfg d now worker candidates s = true)
    (h : claimFirst cfg d now worker candidates s = .ok (answer, s')) :
    SupersededWithAttempt s s' := by
  induction candidates generalizing s with
  | nil =>
    rw [claimFirst, pure_eq_ok, Prod.mk.injEq] at h
    obtain ⟨-, rfl⟩ := h
    intro r hr hpending r' hr' hid hsuperseded
    have hsame : s.cancelRequests.get? r.id = some r := mem_rows_iff.mp hr
    have hr' : s.cancelRequests.get? r'.id = some r' := mem_rows_iff.mp hr'
    rw [← hid, hr'] at hsame
    injection hsame with hsame
    rw [hsame, hpending] at hsuperseded
    cases hsuperseded
  | cons c candidates ih =>
    simp only [claimFirst, bind_eq_ok] at h
    obtain ⟨⟨answer1, s₁⟩, h1, h⟩ := h
    cases answer1 with
    | some answer1 =>
      simp only [steps_ok] at h
      exact h.2 ▸ claimCandidate_claimed hs h1
    | none =>
      simp only [stillReclaimable, h1, Except.toOption, Option.all_some, Option.isSome_none,
        Bool.false_or, Bool.and_eq_true, decide_eq_true_eq] at hunrenewed
      obtain ⟨hjobs, hattempts, hrequests⟩ :=
        claimCandidate_refused hs (hsame c (.head _)) hunrenewed.1 h1
      have hrest : SupersededWithAttempt s₁ s' := by
        refine ih ⟨?_, ?_⟩ (fun c2 hc2 => ?_) hunrenewed.2 h
        · rw [hjobs, hattempts]
          exact hs.attempts
        · rw [hattempts, hrequests]
          exact hs.requests
        · rw [hjobs]
          exact hsame c2 (.tail _ hc2)
      unfold SupersededWithAttempt at hrest ⊢
      rw [hrequests] at hrest
      exact hrest

-- ==== interleavings

/-- `claim_next` reads its candidates; whatever commits then, as long as
no candidate it gets to with a pending request would now be refused, the
claim supersedes no request whose attempt runs on. -/
theorem cancel_request_survives_claim {workerId : Uuid} (hs₀ : Reachable cfg s₀)
    (hlater : Later cfg s₀ s₁)
    (hunrenewed : unrenewed cfg d now workerId s₀ s₁ = true)
    (h : claimAcross cfg d now workerId s₀ s₁ = .ok (answer, s₂)) :
    SupersededWithAttempt s₁ s₂ := by
  have hs₁ : Reachable cfg s₁ := hs₀.later hlater
  simp only [claimAcross, bind_eq_ok, Prod.exists] at h
  obtain ⟨worker, candidates, hselect, h⟩ := h
  rw [unrenewed, hselect] at hunrenewed
  refine claimFirst_supersedes ⟨.reachable hs₁, .reachable hs₁⟩ (fun c hc => ?_) hunrenewed h
  exact hlater.job ((selectCandidates_ok hselect).2 c hc)

/-- A LOW priority activity runs until 62; a HIGH priority job waits for
the profile, so the running one is asked to stop. -/
def awaitedRun : List Call := [Sample.call 1 0 (Sample.dispatch Sample.activityCommand (-100)),
    Sample.call 2 1 (.processNext []), Sample.call 3 2 (.claimNext 2),
    Sample.call 4 3 (Sample.dispatch "high" 100), Sample.call 5 4 (.processNext [])]

/-- The owner's renewal, its clock read a second before the lease ends. -/
def lateRenewal : Call := Sample.call 6 61 (.renew 200 2 301)

/-- A checkpoint of the owner at the same moment. -/
def lateCheckpoint : Call :=
  Sample.call 6 61 (.checkpoint 200 2 301 [("phase", .str "FEED_READY")])

/-- The state the checkpoint commits. -/
def checkpointedState : State :=
  (machine Sample.settings).step (Sample.after awaitedRun) lateCheckpoint

open Sample in
theorem cancel_request_survives_claim_checkpointed :
    ∃ answer s₂, claimAcross settings (draws 7) 62 2 (after awaitedRun)
        checkpointedState = .ok (some answer, s₂)
      ∧ SupersededWithAttempt checkpointedState s₂ := by
  have hreach := reachable (by decide : admitted awaitedRun = true)
  have hlater : Later settings (after awaitedRun) checkpointedState :=
    .step .refl (Nat.le_refl 0) fun claim hclaim => by cases hclaim
  have hunrenewed :
      unrenewed settings (draws 7) 62 2 (after awaitedRun) checkpointedState = true := by
    decide +kernel
  have hclaimed : (claimAcross settings (draws 7) 62 2 (after awaitedRun)
      checkpointedState).toOption.any (fun answered => answered.1.isSome) = true := by
    decide +kernel
  obtain ⟨⟨_ | answer, s₂⟩, hclaim, hsome⟩ := ok_of_any hclaimed
  · cases hsome
  · exact ⟨answer, s₂, hclaim, cancel_request_survives_claim hreach hlater hunrenewed hclaim⟩

/-- The state the renewal commits. -/
def renewedState : State := (machine Sample.settings).step (Sample.after awaitedRun) lateRenewal

open Sample in
/-- At 62 another worker's candidates are read, the renewal commits, and
the claim takes the request with it. -/
theorem renewal_loses_cancel_request :
    Reachable settings (after awaitedRun) ∧ Later settings (after awaitedRun) renewedState
      ∧ ∃ answer s₂, claimAcross settings (draws 7) 62 2 (after awaitedRun)
            renewedState = .ok (answer, s₂)
        ∧ ¬ SupersededWithAttempt renewedState s₂ := by
  refine ⟨reachable (by decide), ?_, ?_⟩
  · refine .step .refl (Nat.le_refl 0) ?_
    intro claim hclaim
    cases hclaim
  · have hlost : (claimAcross settings (draws 7) 62 2 (after awaitedRun)
        renewedState).toOption.any (fun answered =>
          renewedState.cancelRequests.rows.any fun r => decide (r.status = .pending)
            && (answered.2.cancelRequests.rows.any fun r' => decide (r'.id = r.id)
              && decide (r'.status = .superseded)
              && decide (r'.supersededReason = some "TARGET_ATTEMPT_ENDED"))
            && answered.2.attempts.rows.any fun a => decide (a.id = r.targetAttemptId)
              && decide (a.status = .running)) = true := by
      decide +kernel
    obtain ⟨⟨answer, s₂⟩, hclaim, hlost⟩ := ok_of_any hlost
    refine ⟨answer, s₂, hclaim, fun hkept => ?_⟩
    simp only [List.any_eq_true, checks_hold] at hlost
    obtain ⟨r, hr, ⟨hpending, r', hr', ⟨hid, hsuperseded⟩, hreason⟩, a, ha, htarget,
      hrunning⟩ := hlost
    exact hkept r hr hpending r' hr' hid hsuperseded hreason a ha htarget hrunning

end ThreadsPlatform
