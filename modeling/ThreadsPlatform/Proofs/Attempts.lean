/-
A job and its attempts agree.

# The invariant

Attempts are opened in one place and closed in eight. `AttemptsAgree`
ties both tables together: the attempts of a job are numbered from 1 to
its `attempt_count`, a RUNNING job has a RUNNING attempt, and a RUNNING
attempt is the last one of a RUNNING job, under the job's own worker and
token. That there is never a second one is not part of the invariant:
two RUNNING attempts of a job would share their number, which the table
refuses.

# Method

Whatever closes an attempt quiesces its job (`Quiesced`): the attempts
only end, and none of the job's is left RUNNING. A claim is a quiesced
job with one more attempt; everything else that moves a job leaves it
quiesced.
-/
import ThreadsPlatform.Application.Runs
import ThreadsPlatform.Effects.Refinement

namespace ThreadsPlatform

open Relational Table

variable {cfg : Settings} {s s' : State} {J J' : Table workerJobs} {A A' : Table workerJobAttempts}
  {j j' : WorkerJob} {a b : WorkerJobAttempt} {call : Call} {g : Option Int} {s₀ : State}
  {L : Table accountExecutionLeases} {R : Table workerJobCancelRequests} {expiry now : Time}
  {w : Uuid} {outcome : WorkerJobAttemptStatus}

-- ==== the invariant

/-- The jobs and the attempts of a state agree. -/
structure AttemptsAgree (J : Table workerJobs) (A : Table workerJobAttempts) : Prop where
  numbered : ∀ j, J.get? j.id = some j → ∀ n, 1 ≤ n → n ≤ j.attemptCount →
    ∃ a, A.get? a.id = some a ∧ a.workerJobId = j.id ∧ a.attemptNumber = n
  counted : ∀ a, A.get? a.id = some a → ∃ j, J.get? a.workerJobId = some j
    ∧ 1 ≤ a.attemptNumber ∧ a.attemptNumber ≤ j.attemptCount
  attempted : ∀ j, J.get? j.id = some j → j.status = .running →
    ∃ a, A.get? a.id = some a ∧ a.workerJobId = j.id ∧ a.status = .running
  running : ∀ a, A.get? a.id = some a → a.status = .running →
    ∃ j, J.get? a.workerJobId = some j ∧ j.status = .running
      ∧ a.attemptNumber = j.attemptCount ∧ j.leaseWorkerId = some a.workerId
      ∧ j.leaseToken = some a.leaseToken
  finished : ∀ a, A.get? a.id = some a → a.status ≠ .running → a.finishedAt.isSome = true

theorem attempt_eq_of_number (ha : A.get? a.id = some a) (hb : A.get? b.id = some b)
    (hjob : a.workerJobId = b.workerJobId) (hnumber : a.attemptNumber = b.attemptNumber) :
    a = b := by
  by_cases hid : a.id = b.id
  · rw [hid, hb] at ha
    injection ha with ha
    exact ha.symm
  · have hclash := clash_of_get? ha hb hid
    simp [workerJobAttempts, hjob, hnumber] at hclash

theorem AttemptsAgree.running_unique (h : AttemptsAgree J A)
    (ha : A.get? a.id = some a) (har : a.status = .running)
    (hb : A.get? b.id = some b) (hbr : b.status = .running)
    (hjob : a.workerJobId = b.workerJobId) : a = b := by
  obtain ⟨j, hj, -, hna, -⟩ := h.running a ha har
  obtain ⟨j2, hj2, -, hnb, -⟩ := h.running b hb hbr
  rw [hjob, hj2] at hj
  cases hj
  exact attempt_eq_of_number ha hb hjob (hna.trans hnb.symm)

theorem AttemptsAgree.not_running (h : AttemptsAgree J A) (hj : J.get? j.id = some j)
    (hst : j.status ≠ .running) (ha : A.get? a.id = some a) (hjob : a.workerJobId = j.id) :
    a.status ≠ .running := by
  intro hr
  obtain ⟨j2, hj2, hr2, -⟩ := h.running a ha hr
  rw [hjob, hj] at hj2
  injection hj2 with hj2
  exact hst (hj2 ▸ hr2)

-- ==== closing attempts

/-- An attempt stays, or it was RUNNING and is closed. -/
structure WorkerJobAttempt.Ends (a a' : WorkerJobAttempt) : Prop where
  id : a'.id = a.id
  workerJobId : a'.workerJobId = a.workerJobId
  attemptNumber : a'.attemptNumber = a.attemptNumber
  workerId : a'.workerId = a.workerId
  leaseToken : a'.leaseToken = a.leaseToken
  ended : a' = a ∨ (a'.status ≠ .running ∧ a'.finishedAt.isSome = true)

theorem WorkerJobAttempt.Ends.refl (a : WorkerJobAttempt) : a.Ends a :=
  ⟨rfl, rfl, rfl, rfl, rfl, .inl rfl⟩

/-- The attempts end, none of the job's is left RUNNING, and those of
other jobs stay. -/
structure Quiesced (jobId : Uuid) (A A' : Table workerJobAttempts) : Prop where
  evolves : Evolves WorkerJobAttempt.Ends A A'
  quiet : ∀ a, A'.get? a.id = some a → a.workerJobId = jobId → a.status ≠ .running
  frame : ∀ a, A.get? a.id = some a → a.workerJobId ≠ jobId → A'.get? a.id = some a

theorem AttemptsAgree.quiesced (h : AttemptsAgree J A) (hj : J.get? j.id = some j)
    (hst : j.status ≠ .running) : Quiesced j.id A A :=
  ⟨.refl .refl A, fun _ ha hjob => h.not_running hj hst ha hjob, fun _ ha _ => ha⟩

theorem AttemptClosed.quiesced {jobId : Uuid} (h : AttemptsAgree s.jobs s.attempts)
    (hclosed : AttemptClosed now s jobId outcome A) (houtcome : outcome ≠ .running) :
    Quiesced jobId s.attempts A := by
  rcases hclosed with ⟨hnone, rfl⟩ | ⟨a, code, ha, hput⟩
  · exact ⟨.refl .refl _, fun b hb hjob => State.runningAttempt?_none hnone hb hjob,
      fun b hb _ => hb⟩
  · obtain ⟨hstored, hjob, hrunning⟩ := State.runningAttempt?_some ha
    refine ⟨hput.evolves .refl hstored ⟨rfl, rfl, rfl, rfl, rfl, .inr ⟨houtcome, rfl⟩⟩, ?_, ?_⟩
    · intro b hb hbjob hbr
      rcases hput.cases hb with ⟨-, rfl⟩ | ⟨hne, hold⟩
      · exact houtcome hbr
      · -- a second RUNNING attempt of the job
        have hab := h.running_unique hstored hrunning hold hbr (hjob.trans hbjob.symm)
        have hid : b.id = a.id := congrArg WorkerJobAttempt.id hab.symm
        exact hne hid
    · intro b hb hbjob
      rw [hput.get?_ne]
      · exact hb
      · intro hid
        have hid' : b.id = a.id := hid
        rw [hid', hstored] at hb
        injection hb with hb
        exact hbjob (hb ▸ hjob)

-- ==== preservation

/-- Writing a job over itself, with its number of attempts. -/
theorem AttemptsAgree.numbered_put (h : AttemptsAgree J A) (hj : J.get? j.id = some j)
    (hid : j'.id = j.id) (hcount : j'.attemptCount = j.attemptCount) (hJ : Put J j' J') :
    ∀ j2, J'.get? j2.id = some j2 → ∀ n, 1 ≤ n → n ≤ j2.attemptCount →
      ∃ a, A.get? a.id = some a ∧ a.workerJobId = j2.id ∧ a.attemptNumber = n := by
  intro j2 hj2 n hn hle
  rcases hJ.cases hj2 with ⟨-, rfl⟩ | ⟨-, hold⟩
  · rw [hid]
    exact h.numbered j hj n hn (hcount ▸ hle)
  · exact h.numbered j2 hold n hn hle

/-- A stored job, after a job was written under its own id. -/
theorem get?_put_job {k : Uuid} {j2 : WorkerJob} (hj : J.get? j.id = some j)
    (hJ : Put J j' J') (hid : j'.id = j.id) (h2 : J.get? k = some j2) :
    (k = j.id ∧ j2 = j ∧ J'.get? k = some j') ∨ (k ≠ j.id ∧ J'.get? k = some j2) := by
  have hkey : workerJobs.key j' = j.id := hid
  by_cases hk : k = j.id
  · subst hk
    rw [hj] at h2
    injection h2 with h2
    exact .inl ⟨rfl, h2.symm, hkey ▸ hJ.get?_self⟩
  · exact .inr ⟨hk, (hJ.get?_ne (hkey ▸ hk)).trans h2⟩

theorem AttemptsAgree.jobJoins {J' : Table workerJobs} (h : AttemptsAgree J A)
    (hput : Put J j J') (hfresh : J.get? j.id = none) (hqueued : j.status = .queued)
    (hcount : j.attemptCount = 0) : AttemptsAgree J' A := by
  have hold : ∀ k j2, J.get? k = some j2 → J'.get? k = some j2 :=
    fun _ _ hk => hput.get?_of_fresh hfresh hk
  refine ⟨?_, ?_, ?_, ?_, h.finished⟩
  · intro j2 hj2 n hn hle
    rcases hput.cases hj2 with ⟨-, rfl⟩ | ⟨-, hj2⟩
    · rw [hcount] at hle
      omega
    · exact h.numbered j2 hj2 n hn hle
  · intro a ha
    obtain ⟨j2, hj2, hrest⟩ := h.counted a ha
    exact ⟨j2, hold _ _ hj2, hrest⟩
  · intro j2 hj2 hr
    rcases hput.cases hj2 with ⟨-, rfl⟩ | ⟨-, hj2⟩
    · rw [hqueued] at hr
      cases hr
    · exact h.attempted j2 hj2 hr
  · intro a ha hr
    obtain ⟨j2, hj2, hrest⟩ := h.running a ha hr
    exact ⟨j2, hold _ _ hj2, hrest⟩

theorem AttemptsAgree.jobAdded {RD : Table commandRouteDecisions}
    (h : AttemptsAgree s.jobs s.attempts) (hadd : JobAdded call s₀ s j J RD) :
    AttemptsAgree J s.attempts :=
  h.jobJoins hadd.put hadd.fresh hadd.queued hadd.attemptCount

theorem AttemptsAgree.jobTouched {τ : Uuid} (h : AttemptsAgree s.jobs s.attempts)
    (htouch : JobTouched call s j j' w τ J L) : AttemptsAgree J s.attempts := by
  have hput : ∀ {k j2}, s.jobs.get? k = some j2 → _ :=
    get?_put_job htouch.stored htouch.jobs htouch.same.id
  refine ⟨h.numbered_put htouch.stored htouch.same.id htouch.attemptCount htouch.jobs,
    ?_, ?_, ?_, h.finished⟩
  · intro a ha
    obtain ⟨j2, hj2, hone, hle⟩ := h.counted a ha
    rcases hput hj2 with ⟨-, rfl, hnew⟩ | ⟨-, hnew⟩
    · exact ⟨j', hnew, hone, htouch.attemptCount ▸ hle⟩
    · exact ⟨j2, hnew, hone, hle⟩
  · intro j2 hj2 hr
    rcases htouch.jobs.cases hj2 with ⟨-, rfl⟩ | ⟨-, hj2⟩
    · rw [htouch.same.id]
      exact h.attempted j htouch.stored (htouch.status ▸ hr)
    · exact h.attempted j2 hj2 hr
  · intro a ha hr
    obtain ⟨j2, hj2, hjr, hnumber, hworker, htoken⟩ := h.running a ha hr
    rcases hput hj2 with ⟨-, rfl, hnew⟩ | ⟨-, hnew⟩
    · exact ⟨j', hnew, htouch.status.trans hjr, hnumber.trans htouch.attemptCount.symm,
        htouch.leaseWorkerId.trans hworker, htouch.leaseToken.trans htoken⟩
    · exact ⟨j2, hnew, hjr, hnumber, hworker, htoken⟩

theorem AttemptsAgree.leaves (h : AttemptsAgree J A) (hj : J.get? j.id = some j)
    (hleaves : j.Leaves j') (hJ : Put J j' J') (hquiet : Quiesced j.id A A') :
    AttemptsAgree J' A' := by
  refine ⟨?_, ?_, ?_, ?_, ?_⟩
  · intro j2 hj2 n hn hle
    obtain ⟨a, ha, hjob, hnumber⟩ :=
      h.numbered_put hj hleaves.id hleaves.attemptCount hJ j2 hj2 n hn hle
    obtain ⟨a', ha', hends⟩ := hquiet.evolves.forward ha
    exact ⟨a', hends.id ▸ ha', hends.workerJobId.trans hjob, hends.attemptNumber.trans hnumber⟩
  · intro a' ha'
    obtain ⟨a, ha, hends⟩ := hquiet.evolves.backward ha'
    obtain ⟨j2, hj2, hone, hle⟩ := h.counted a (hends.id ▸ ha)
    rw [hends.workerJobId, hends.attemptNumber]
    rcases get?_put_job hj hJ hleaves.id hj2 with ⟨-, rfl, hnew⟩ | ⟨-, hnew⟩
    · exact ⟨j', hnew, hone, hleaves.attemptCount ▸ hle⟩
    · exact ⟨j2, hnew, hone, hle⟩
  · intro j2 hj2 hr
    rcases hJ.cases hj2 with ⟨-, rfl⟩ | ⟨hne, hj2⟩
    · exact absurd hr hleaves.status
    · obtain ⟨a, ha, hjob, har⟩ := h.attempted j2 hj2 hr
      refine ⟨a, hquiet.frame a ha ?_, hjob, har⟩
      rw [hjob]
      exact fun he => hne (he.trans hleaves.id.symm)
  · intro a' ha' hr
    obtain ⟨a, ha, hends⟩ := hquiet.evolves.backward ha'
    -- an attempt still RUNNING is the old one, and not of this job
    rcases hends.ended with rfl | ⟨hnot, -⟩
    · obtain ⟨j2, hj2, hrest⟩ := h.running a' ha hr
      rcases get?_put_job hj hJ hleaves.id hj2 with ⟨hjob, -, -⟩ | ⟨-, hnew⟩
      · exact absurd hr (hquiet.quiet a' ha' hjob)
      · exact ⟨j2, hnew, hrest⟩
    · exact absurd hr hnot
  · intro a' ha' hr
    obtain ⟨a, ha, hends⟩ := hquiet.evolves.backward ha'
    rcases hends.ended with rfl | ⟨-, hdone⟩
    · exact h.finished a' ha hr
    · exact hdone

/-- A quiesced job that is claimed, with its new attempt. -/
theorem AttemptsAgree.claimed {A1 : Table workerJobAttempts} (h : AttemptsAgree J A)
    (hj : J.get? j.id = some j) (hcount : 0 ≤ j.attemptCount)
    (hJ : Put J (j.claimed w now expiry a.leaseToken g) J') (hquiet : Quiesced j.id A A1)
    (hfresh : A1.get? a.id = none) (hA : Put A1 a A') (hjob : a.workerJobId = j.id)
    (hnumber : a.attemptNumber = j.attemptCount + 1) (hworker : a.workerId = w)
    (hrunning : a.status = .running) : AttemptsAgree J' A' := by
  have hself : J'.get? j.id = some (j.claimed w now expiry a.leaseToken g) := hJ.get?_self
  have hnew : A'.get? a.id = some a := hA.get?_self
  have hkept : ∀ b : WorkerJobAttempt, A1.get? b.id = some b → A'.get? b.id = some b :=
    fun _ hb => hA.get?_of_fresh hfresh hb
  refine ⟨?_, ?_, ?_, ?_, ?_⟩
  · intro j2 hj2 n hn hle
    -- the old number of an old attempt, or the new number
    have hold : ∀ j3, J.get? j3.id = some j3 → n ≤ j3.attemptCount →
        ∃ b, A'.get? b.id = some b ∧ b.workerJobId = j3.id ∧ b.attemptNumber = n := by
      intro j3 hj3 hle3
      obtain ⟨b, hb, hbjob, hbn⟩ := h.numbered j3 hj3 n hn hle3
      obtain ⟨b', hb', hends⟩ := hquiet.evolves.forward hb
      exact ⟨b', hkept b' (hends.id ▸ hb'), hends.workerJobId.trans hbjob,
        hends.attemptNumber.trans hbn⟩
    rcases hJ.cases hj2 with ⟨-, rfl⟩ | ⟨-, hj2⟩
    · have hle' : n ≤ j.attemptCount + 1 := hle
      by_cases hlast : n = j.attemptCount + 1
      · exact ⟨a, hnew, hjob, hnumber.trans hlast.symm⟩
      · exact hold j hj (by omega)
    · exact hold j2 hj2 hle
  · intro b hb
    rcases hA.cases hb with ⟨-, rfl⟩ | ⟨-, hb⟩
    · refine ⟨_, hjob ▸ hself, by omega, ?_⟩
      show b.attemptNumber ≤ j.attemptCount + 1
      omega
    · obtain ⟨b0, hb0, hends⟩ := hquiet.evolves.backward hb
      obtain ⟨j2, hj2, hone, hle⟩ := h.counted b0 (hends.id ▸ hb0)
      rw [hends.workerJobId, hends.attemptNumber]
      rcases get?_put_job hj hJ rfl hj2 with ⟨-, rfl, hget⟩ | ⟨-, hget⟩
      · refine ⟨_, hget, hone, ?_⟩
        show b0.attemptNumber ≤ j2.attemptCount + 1
        omega
      · exact ⟨j2, hget, hone, hle⟩
  · intro j2 hj2 hr
    rcases hJ.cases hj2 with ⟨-, rfl⟩ | ⟨hne, hj2⟩
    · exact ⟨a, hnew, hjob, hrunning⟩
    · obtain ⟨b, hb, hbjob, hbr⟩ := h.attempted j2 hj2 hr
      refine ⟨b, hkept b (hquiet.frame b hb ?_), hbjob, hbr⟩
      rw [hbjob]
      exact hne
  · intro b hb hr
    rcases hA.cases hb with ⟨-, rfl⟩ | ⟨-, hb⟩
    · exact ⟨_, hjob ▸ hself, rfl, hnumber, by rw [hworker]; rfl, rfl⟩
    · obtain ⟨b0, hb0, hends⟩ := hquiet.evolves.backward hb
      rcases hends.ended with rfl | ⟨hnot, -⟩
      · obtain ⟨j2, hj2, hrest⟩ := h.running b hb0 hr
        rcases get?_put_job hj hJ rfl hj2 with ⟨hbjob, -, -⟩ | ⟨-, hget⟩
        · exact absurd hr (hquiet.quiet b hb hbjob)
        · exact ⟨j2, hget, hrest⟩
      · exact absurd hr hnot
  · intro b hb hr
    rcases hA.cases hb with ⟨-, rfl⟩ | ⟨-, hb⟩
    · exact absurd hrunning hr
    · obtain ⟨b0, hb0, hends⟩ := hquiet.evolves.backward hb
      rcases hends.ended with rfl | ⟨-, hdone⟩
      · exact h.finished b hb0 hr
      · exact hdone

theorem JobClaimed.quiesced (h : AttemptsAgree s.jobs s.attempts)
    (hclaim : JobClaimed call s j a w expiry g J A R L) :
    ∃ A1, Quiesced j.id s.attempts A1 ∧ A1.get? a.id = none ∧ Put A1 a A := by
  obtain ⟨A1, hclosed, hfresh, hput⟩ := hclaim.attempts
  refine ⟨A1, ?_, hfresh, hput⟩
  rcases hclosed with ⟨-, hclosed⟩ | ⟨hst, rfl⟩
  · exact hclosed.quiesced h (by decide)
  · exact h.quiesced hclaim.stored hst

theorem JobMoved.quiesced {C : Table commands} {O : Table outboxEvents}
    {D : Table integrationDeliveries} (h : AttemptsAgree s.jobs s.attempts)
    (hmove : JobMoved call s₀ s j j' outcome J A R C O D L) : Quiesced j.id s.attempts A := by
  rcases hmove.ending with ⟨hwaiting, rfl, -⟩ | ⟨hclosed, -⟩
  · exact h.quiesced hmove.stored (by rw [hwaiting]; decide)
  · exact hclosed.quiesced h hmove.outcome_closed

theorem AttemptsAgree.effect (h : AttemptsAgree s.jobs s.attempts) (he : Effect cfg call s₀ s s') :
    AttemptsAgree s'.jobs s'.attempts := by
  cases he with
  | jobAdded hadd => exact h.jobAdded hadd
  | jobTouched htouch => exact h.jobTouched htouch
  | jobMoved hmove => exact h.leaves hmove.stored hmove.leaves hmove.jobs (hmove.quiesced h)
  | jobClaimed hclaim =>
    obtain ⟨A1, hquiet, hfresh, hput⟩ := hclaim.quiesced h
    have hcount := (WorkerJob.attemptCount_of_check (check_of_get? hclaim.stored)).1
    exact h.claimed hclaim.stored hcount hclaim.jobs hquiet hfresh hput hclaim.workerJobId
      hclaim.attemptNumber hclaim.workerId hclaim.running
  | _ => exact h

theorem AttemptsAgree.reachable (h : Reachable cfg s) : AttemptsAgree s.jobs s.attempts := by
  refine h.of_effects (I := fun s => AttemptsAgree s.jobs s.attempts) ?_ ?_
  · intro W
    constructor <;> intro _ hrow <;> cases hrow
  · exact fun _ _ _ _ h he => h.effect he

-- ==== the history

/-- The attempts of one job tell its history. -/
structure AttemptHistory (s : State) (j : WorkerJob) : Prop where
  within : ∀ a ∈ s.attempts.rows, a.workerJobId = j.id →
    1 ≤ a.attemptNumber ∧ a.attemptNumber ≤ j.attemptCount
  numbered : ∀ n, 1 ≤ n → n ≤ j.attemptCount →
    ∃! a, a ∈ s.attempts.rows ∧ a.workerJobId = j.id ∧ a.attemptNumber = n
  bounded : j.attemptCount ≤ j.maxAttempts
  running : j.status = .running
    ↔ ∃! a, a ∈ s.attempts.rows ∧ a.workerJobId = j.id ∧ a.status = .running
  current : ∀ a ∈ s.attempts.rows, a.workerJobId = j.id → a.status = .running →
    a.attemptNumber = j.attemptCount ∧ j.leaseWorkerId = some a.workerId
      ∧ j.leaseToken = some a.leaseToken
  finished : ∀ a ∈ s.attempts.rows, a.workerJobId = j.id → a.status ≠ .running →
    a.finishedAt.isSome = true
  /-- `_running_attempt` finds the attempt of a lease owner. -/
  found : ∀ w τ t, j.ownsLease w τ t = true →
    ∃ a, WorkerJobService.runningAttempt s j.id = .ok a ∧ a.workerId = w ∧ a.leaseToken = τ

theorem AttemptsAgree.runningAttempt (h : AttemptsAgree s.jobs s.attempts)
    (hj : s.jobs.get? j.id = some j) (hr : j.status = .running) :
    ∃ a, s.runningAttempt? j.id = some a ∧ s.attempts.get? a.id = some a
      ∧ j.leaseWorkerId = some a.workerId ∧ j.leaseToken = some a.leaseToken := by
  cases hfound : s.runningAttempt? j.id with
  | none =>
    obtain ⟨a, ha, hjob, har⟩ := h.attempted j hj hr
    exact absurd har (State.runningAttempt?_none hfound ha hjob)
  | some a =>
    obtain ⟨ha, hjob, har⟩ := State.runningAttempt?_some hfound
    obtain ⟨j2, hj2, -, -, hworker, htoken⟩ := h.running a ha har
    rw [hjob, hj] at hj2
    cases hj2
    exact ⟨a, rfl, ha, hworker, htoken⟩

theorem attemptHistory_of_reachable (h : Reachable cfg s) (hj : j ∈ s.jobs.rows) :
    AttemptHistory s j := by
  have hagree := AttemptsAgree.reachable h
  have hstored : s.jobs.get? j.id = some j := mem_rows_iff.mp hj
  -- what the invariant says of this job's attempts
  have hcurrent : ∀ a ∈ s.attempts.rows, a.workerJobId = j.id → a.status = .running →
      j.status = .running ∧ a.attemptNumber = j.attemptCount
        ∧ j.leaseWorkerId = some a.workerId ∧ j.leaseToken = some a.leaseToken := by
    intro a ha hjob har
    obtain ⟨j₂, hj₂, hrest⟩ := hagree.running a (mem_rows_iff.mp ha) har
    rw [hjob, hstored] at hj₂
    injection hj₂ with hj₂
    exact hj₂ ▸ hrest
  refine ⟨?_, ?_, (WorkerJob.attemptCount_of_check (check_of_get? hstored)).2, ?_,
    fun a ha hjob har => (hcurrent a ha hjob har).2,
    fun a ha _ har => hagree.finished a (mem_rows_iff.mp ha) har, ?_⟩
  · intro a ha hjob
    obtain ⟨j₂, hj₂, hrest⟩ := hagree.counted a (mem_rows_iff.mp ha)
    rw [hjob, hstored] at hj₂
    injection hj₂ with hj₂
    exact hj₂ ▸ hrest
  · intro n hn hle
    obtain ⟨a, ha, hjob, hnumber⟩ := hagree.numbered j hstored n hn hle
    refine ⟨a, ⟨mem_rows_iff.mpr ha, hjob, hnumber⟩, ?_⟩
    rintro b ⟨hb, hbjob, hbn⟩
    exact attempt_eq_of_number (mem_rows_iff.mp hb) ha (hbjob.trans hjob.symm)
      (hbn.trans hnumber.symm)
  · constructor
    · intro hr
      obtain ⟨a, ha, hjob, har⟩ := hagree.attempted j hstored hr
      refine ⟨a, ⟨mem_rows_iff.mpr ha, hjob, har⟩, ?_⟩
      rintro b ⟨hb, hbjob, hbr⟩
      exact hagree.running_unique (mem_rows_iff.mp hb) hbr ha har (hbjob.trans hjob.symm)
    · rintro ⟨a, ⟨ha, hjob, har⟩, -⟩
      exact (hcurrent a ha hjob har).1
  · intro w τ t howns
    obtain ⟨hr, hworker, htoken, -⟩ := WorkerJob.ownsLease_iff.mp howns
    obtain ⟨a, ha, -, haw, hat⟩ := hagree.runningAttempt hstored hr
    rw [hworker] at haw
    rw [htoken] at hat
    injection haw with haw
    injection hat with hat
    exact ⟨a, by rw [WorkerJobService.runningAttempt, ha]; rfl, haw.symm, hat.symm⟩

/-- A browse Command, claimed, lost, and claimed again. -/
def reclaimedRun : List Call := [Sample.call 1 0 (.receive (Sample.browse "browse" 0 (some 500))),
    Sample.call 2 1 (.processNext []), Sample.call 3 2 (.claimNext 2),
    Sample.call 4 100 (.claimNext 2)]

open Sample in
theorem attemptHistory_reclaimed :
    ∃ j ∈ (after reclaimedRun).jobs.rows,
      j.status = .running ∧ j.attemptCount = 2 ∧ AttemptHistory (after reclaimedRun) j := by
  obtain ⟨j, hj, hr, hn⟩ : ∃ j ∈ (after reclaimedRun).jobs.rows,
      j.status = .running ∧ j.attemptCount = 2 := by decide +kernel
  exact ⟨j, hj, hr, hn, attemptHistory_of_reachable (reachable (by decide)) hj⟩

end ThreadsPlatform
