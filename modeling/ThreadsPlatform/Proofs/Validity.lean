/-
Which transitions of a WorkerJob keep it storable and loadable.

`Sound` is `WorkerJob.Valid` (the table's CHECK constraints together
with the constructor's checks) as named facts. Eight of the eleven
transitions end without a lease; for those `Sound.leaves` is the whole
argument, up to the schedule and the stored result. `claim`, `renew`
and `save_checkpoint` keep the job RUNNING.

What decides is the schedule. `resolve_intervention` moves it to a time
it has checked against the deadline; `fail` moves it to `retry_at`,
which it has not. So a valid job stays valid under every accepted
transition except one, and `valid_after_iff` says which: the lease
owner's retryable failure whose retry time is not before the deadline.
-/
import ThreadsPlatform.Domain.Transitions

namespace ThreadsPlatform

open Relational

namespace WorkerJob

variable {urlsplit : String → UrlVerdict} {j j' : WorkerJob}

-- ==== validity

/-- Validity, fact by fact. -/
structure Sound (urlsplit : String → UrlVerdict) (j : WorkerJob) : Prop where
  capabilityName : notBlank j.capabilityName = true
  capabilityVersion : 0 < j.capabilityVersion
  commandId : j.commandId.all notBlank = true
  affinity : j.accountAffinityRequired = true →
    j.accountId.isSome = true ∧ j.assignedWorkerId.isSome = true
  attempts : 0 < j.maxAttempts ∧ 0 ≤ j.attemptCount ∧ j.attemptCount ≤ j.maxAttempts
  schedule : j.beforeDeadline j.scheduledAt = true
  leaseWorkerId : j.leaseWorkerId.isSome = decide (j.status = .running)
  leaseToken : j.leaseToken.isSome = decide (j.status = .running)
  leaseExpiresAt : j.leaseExpiresAt.isSome = decide (j.status = .running)
  fence : j.accountCoordinationGeneration.isSome
    = (decide (j.status = .running) && j.requiresCoordination)
  fencePositive : ∀ g, j.accountCoordinationGeneration = some g → 1 ≤ g
  inputData : validateDocument urlsplit (some j.inputData) = .ok ()
  checkpoint : validateDocument urlsplit j.checkpoint = .ok ()
  result : validateDocument urlsplit j.result = .ok ()

theorem requiresCoordination_eq :
    j.requiresCoordination = (j.accountId.isSome && decide (j.operationClass ≠ .read)) := by
  unfold requiresCoordination
  cases j.operationClass <;> rfl

/-- What the CHECK constraints and the constructor enforce together. -/
theorem Valid.sound (h : j.Valid urlsplit) : j.Sound urlsplit := by
  obtain ⟨hc, hp⟩ := h
  have hco := requiresCoordination_eq (j := j)
  simp only [checkConstraints, ← Option.not_isSome, checks_hold, Bool.or_eq_true,
    Bool.not_eq_true'] at hc
  simp only [postInit, ← Option.not_isSome, steps_ok] at hp
  obtain ⟨⟨⟨⟨⟨⟨hatt, hver⟩, hsch⟩, hpair⟩, hrun⟩, -⟩, hf1, hf2⟩ := hc
  obtain ⟨⟨hname, -⟩, hcmd, haff, -, -, -, -, -, hpos, u, hin, v, hck, hres⟩ := hp
  refine ⟨hname, hver, hcmd, haff, ⟨hatt.1.1, hatt.1.2, hatt.2⟩, hsch, ?_, ?_, ?_, ?_,
    ?_, hin, hck, hres⟩
  · grind
  · grind
  · grind
  · grind
  · intro g hg
    rw [hg] at hpos
    simp only [Option.all_some, checks_hold] at hpos
    exact hpos.2

theorem Sound.valid (h : j.Sound urlsplit) : j.Valid urlsplit := by
  have hco := requiresCoordination_eq (j := j)
  have hw := h.leaseWorkerId
  have ht := h.leaseToken
  have he := h.leaseExpiresAt
  have hf := h.fence
  have haff := h.affinity
  obtain ⟨hmax, hnonneg, hbound⟩ := h.attempts
  constructor
  · simp only [checkConstraints, ← Option.not_isSome, checks_hold, Bool.or_eq_true,
    Bool.not_eq_true']
    refine ⟨⟨⟨⟨⟨⟨⟨⟨hmax, hnonneg⟩, hbound⟩, h.capabilityVersion⟩, h.schedule⟩, ?_⟩, ?_⟩,
      ?_⟩, ?_, ?_⟩
    · grind
    · grind
    · grind
    · grind
    · grind
  · simp only [postInit, ← Option.not_isSome, steps_ok]
    refine ⟨⟨h.capabilityName, h.capabilityVersion⟩, h.commandId, h.affinity, h.attempts,
      h.schedule, ?_, ?_, ?_, ?_, (), h.inputData, (), h.checkpoint, h.result⟩
    · grind
    · grind
    · grind
    · cases hg : j.accountCoordinationGeneration with
      | none => rfl
      | some g =>
        have hpos := h.fencePositive g hg
        rw [hg] at hf
        simp only [Option.isSome_some, Bool.true_eq, checks_hold] at hf
        simp [hf.1, hf.2, hpos]

theorem valid_iff_sound : j.Valid urlsplit ↔ j.Sound urlsplit := ⟨Valid.sound, Sound.valid⟩

-- ==== preservation

/-- A transition that ends without a lease keeps everything but the
schedule and the result document. -/
theorem Sound.leaves (h : j.Sound urlsplit) (hl : Leaves j j')
    (hres : validateDocument urlsplit j'.result = .ok ())
    (hsch : j'.beforeDeadline j'.scheduledAt = true) : j'.Sound urlsplit where
  capabilityName := by rw [hl.capabilityName]; exact h.capabilityName
  capabilityVersion := by rw [hl.capabilityVersion]; exact h.capabilityVersion
  commandId := by rw [hl.commandId]; exact h.commandId
  affinity := by
    rw [hl.accountAffinityRequired, hl.accountId, hl.assignedWorkerId]
    exact h.affinity
  attempts := by rw [hl.maxAttempts, hl.attemptCount]; exact h.attempts
  schedule := hsch
  leaseWorkerId := by simp [hl.leaseWorkerId, hl.status]
  leaseToken := by simp [hl.leaseToken, hl.status]
  leaseExpiresAt := by simp [hl.leaseExpiresAt, hl.status]
  fence := by simp [hl.accountCoordinationGeneration, hl.status]
  fencePositive := by
    intro g hg
    rw [hl.accountCoordinationGeneration] at hg
    cases hg
  inputData := by rw [hl.inputData]; exact h.inputData
  checkpoint := by rw [hl.checkpoint]; exact h.checkpoint
  result := hres

/-- A transition out of RUNNING that keeps the schedule and the
documents keeps validity. -/
theorem Sound.clearLease_of (h : j.Sound urlsplit) (hst : j'.status ≠ .running)
    (hres : validateDocument urlsplit j'.result = .ok ())
    (hs : SameJob j j' := by constructor <;> rfl) (hc : j'.attemptCount = j.attemptCount := by rfl)
    (hck : j'.checkpoint = j.checkpoint := by rfl)
    (hsch : j'.scheduledAt = j.scheduledAt := by rfl) : j'.clearLease.Sound urlsplit := by
  refine h.leaves (leaves_clearLease hs hc hck hst) hres ?_
  have hd : j'.clearLease.beforeDeadline j'.scheduledAt = j.beforeDeadline j'.scheduledAt :=
    hs.beforeDeadline _
  show j'.clearLease.beforeDeadline j'.scheduledAt = true
  rw [hd, hsch]
  exact h.schedule

variable {w τ : Uuid} {now e : Time}

theorem Sound.claimed {g : Option Int} (h : j.Sound urlsplit) (hc : Claimable j w now e g) :
    (j.claimed w now e τ g).Sound urlsplit where
  capabilityName := h.capabilityName
  capabilityVersion := h.capabilityVersion
  commandId := h.commandId
  affinity := h.affinity
  attempts := by
    have hlt := hc.attempts
    obtain ⟨hmax, hnonneg, -⟩ := h.attempts
    refine ⟨hmax, ?_, ?_⟩
    · show 0 ≤ j.attemptCount + 1
      omega
    · show j.attemptCount + 1 ≤ j.maxAttempts
      omega
  schedule := h.schedule
  leaseWorkerId := rfl
  leaseToken := rfl
  leaseExpiresAt := rfl
  fence := by
    have hf := hc.fence
    show g.isSome = (true && j.requiresCoordination)
    cases hq : j.requiresCoordination with
    | true =>
      rw [hq] at hf
      obtain ⟨n, hn, -⟩ := hf
      rw [hn]
      rfl
    | false =>
      rw [hq] at hf
      have hg : g = none := hf
      rw [hg]
      rfl
  fencePositive := by
    intro n hn
    have hf := hc.fence
    have hg : g = some n := hn
    split at hf
    · obtain ⟨m, hm, hpos⟩ := hf
      rw [hm] at hg
      injection hg with hg
      exact hg ▸ hpos
    · rw [hf] at hg
      cases hg
  inputData := h.inputData
  checkpoint := h.checkpoint
  result := h.result

theorem Sound.renewed (h : j.Sound urlsplit) (hr : j.status = .running) :
    Sound urlsplit { j with leaseExpiresAt := some e, updatedAt := now } :=
  { h with
    leaseExpiresAt := by
      show true = decide (j.status = .running)
      simp [hr] }

theorem Sound.checkpointed {d : Document} (h : j.Sound urlsplit)
    (hd : validateDocument urlsplit (some d) = .ok ()) :
    Sound urlsplit { j with checkpoint := some d, updatedAt := now } :=
  { h with checkpoint := hd }

/-- Resolving an intervention: the new schedule was checked. -/
theorem Sound.resolved {requeue : Bool} (h : j.Sound urlsplit)
    (hr : Resolved j now requeue j') : j'.Sound urlsplit := by
  have hw : j.leaseWorkerId.isSome = false := by rw [h.leaseWorkerId]; simp [hr.waiting]
  have ht : j.leaseToken.isSome = false := by rw [h.leaseToken]; simp [hr.waiting]
  have he : j.leaseExpiresAt.isSome = false := by rw [h.leaseExpiresAt]; simp [hr.waiting]
  have hf : j.accountCoordinationGeneration.isSome = false := by
    rw [h.fence]; simp [hr.waiting]
  have hl : Leaves j j' :=
    { hr.toSameJob with
      attemptCount := hr.attemptCount
      status := by rw [hr.status]; cases requeue <;> decide
      leaseWorkerId := by rw [hr.leaseWorkerId]; simpa using hw
      leaseToken := by rw [hr.leaseToken]; simpa using ht
      leaseExpiresAt := by rw [hr.leaseExpiresAt]; simpa using he
      accountCoordinationGeneration := by
        rw [hr.accountCoordinationGeneration]; simpa using hf
      checkpoint := hr.checkpoint }
  refine h.leaves hl (by rw [hr.result]; exact h.result) ?_
  rw [hr.scheduledAt, hr.beforeDeadline]
  cases requeue with
  | true => exact hr.deadline rfl
  | false => exact h.schedule

-- ==== the transitions

/-- The eleven transitions, with their arguments. -/
inductive Transition where
  | claim (workerId : Uuid) (now leaseExpiresAt : Time) (leaseToken : Uuid)
      (accountCoordinationGeneration : Option Int)
  | renew (workerId leaseToken : Uuid) (now expiresAt : Time)
  | saveCheckpoint (workerId leaseToken : Uuid) (now : Time) (checkpoint : Document)
  | complete (workerId leaseToken : Uuid) (now : Time) (result : Document)
  | cancel (workerId leaseToken : Uuid) (now : Time) (reasonCode : String)
  | fail (workerId leaseToken : Uuid) (now : Time) (errorCode : String)
      (retryable outcomeAmbiguous : Bool) (retryAt : Option Time)
  | requireIntervention (workerId leaseToken : Uuid) (now : Time)
  | suspendForIntervention (now : Time) (errorCode : String)
  | resolveIntervention (now : Time) (requeue confirmedSafeToRetry : Bool)
  | expire (now : Time) (errorCode : String)
  | finalizeFailure (now : Time) (errorCode : String)

/-- The job after a transition; `none` where the transition answers that
the caller does not own the lease. -/
def Transition.apply (urlsplit : String → UrlVerdict) (t : Transition) (j : WorkerJob) :
    Except Failure (Option WorkerJob) :=
  match t with
  | .claim w now e τ g => some <$> j.claim w now e τ g
  | .renew w τ now e => j.renew w τ now e
  | .saveCheckpoint w τ now d => j.saveCheckpoint urlsplit w τ now d
  | .complete w τ now d => j.complete urlsplit w τ now d
  | .cancel w τ now reason => j.cancel w τ now reason
  | .fail w τ now code retryable ambiguous retryAt =>
    j.fail w τ now code retryable ambiguous retryAt
  | .requireIntervention w τ now => j.requireIntervention w τ now
  | .suspendForIntervention now code => some <$> j.suspendForIntervention now code
  | .resolveIntervention now requeue confirmed =>
    some <$> j.resolveIntervention now requeue confirmed
  | .expire now code => pure (some (j.expire now code))
  | .finalizeFailure now code => pure (some (j.finalizeFailure now code))

/-- A retryable failure that schedules the next attempt at or after the
job's deadline. -/
def Transition.RetriesPastDeadline (t : Transition) (j : WorkerJob) : Prop :=
  match t with
  | .fail _ _ now _ retryable ambiguous retryAt =>
    retryable = true ∧ ambiguous = false ∧ j.retrySafety = .safeToRetry
      ∧ j.attemptCount < j.maxAttempts ∧ j.beforeDeadline (retryAt.getD now) = false
  | _ => False

private theorem some_map_ok {x : Except Failure WorkerJob}
    (h : some <$> x = .ok (some j')) : x = .ok j' := by
  cases x with
  | error e => cases h
  | ok a => cases h; rfl

/-- `fail` keeps validity unless it retries past the deadline. -/
theorem Sound.fail_iff {code : String} {retryable ambiguous : Bool} {retryAt : Option Time}
    (h : j.Sound urlsplit) (ho : FailOutcome j now code retryable ambiguous retryAt j') :
    j'.Sound urlsplit ↔
      ¬ (Transition.fail w τ now code retryable ambiguous retryAt).RetriesPastDeadline j := by
  cases ho with
  | suspended hc =>
    refine iff_of_true ?_ ?_
    · exact h.clearLease_of nofun h.result
    · rintro ⟨hr, ha, hs, -⟩
      rcases hc with hc | hc
      · rw [ha] at hc
        cases hc
      · rw [hs] at hc
        cases hc.1
  | retried ha hs hr hn =>
    -- the only outcome that moves the schedule
    have hsame : SameJob j { j with
        errorCode := some code, updatedAt := now, status := .failedRetryable
        scheduledAt := retryAt.getD now } := by
      constructor <;> rfl
    constructor
    · intro hsound hpast
      have hsch : j.beforeDeadline (retryAt.getD now) = true := hsound.schedule
      rw [hpast.2.2.2.2] at hsch
      cases hsch
    · intro hpast
      refine h.leaves (leaves_clearLease hsame rfl rfl nofun) h.result ?_
      show j.beforeDeadline (retryAt.getD now) = true
      cases hb : j.beforeDeadline (retryAt.getD now) with
      | true => rfl
      | false => exact absurd ⟨hr, ha, hs, hn, hb⟩ hpast
  | final ha hf =>
    refine iff_of_true ?_ ?_
    · exact h.clearLease_of nofun h.result
    · rintro ⟨hr, -, -, hn, -⟩
      exact hf ⟨hr, hn⟩

/-- For every valid job, every accepted transition leaves a valid job,
except a retryable failure that schedules the retry past the deadline;
and that one never does. -/
theorem valid_after_iff {t : Transition} (hv : j.Valid urlsplit)
    (ht : t.apply urlsplit j = .ok (some j')) :
    j'.Valid urlsplit ↔ ¬ t.RetriesPastDeadline j := by
  have h := hv.sound
  rw [valid_iff_sound]
  cases t with
  | fail w τ now code retryable ambiguous retryAt =>
    exact h.fail_iff (fail_some ht).2
  | claim w now e τ g =>
    obtain ⟨hc, rfl⟩ := claim_ok (some_map_ok ht)
    exact iff_of_true (h.claimed hc) nofun
  | renew w τ now e =>
    obtain ⟨hown, -, rfl⟩ := renew_some ht
    exact iff_of_true (h.renewed (ownsLease_iff.mp hown).1) nofun
  | saveCheckpoint w τ now d =>
    obtain ⟨-, hd, rfl⟩ := saveCheckpoint_some ht
    exact iff_of_true (h.checkpointed hd) nofun
  | complete w τ now d =>
    obtain ⟨-, hd, rfl⟩ := complete_some ht
    exact iff_of_true (h.clearLease_of nofun hd) nofun
  | cancel w τ now reason =>
    obtain ⟨-, -, rfl⟩ := cancel_some ht
    exact iff_of_true (h.clearLease_of nofun h.result) nofun
  | requireIntervention w τ now =>
    obtain ⟨-, rfl⟩ := requireIntervention_some ht
    exact iff_of_true (h.clearLease_of nofun h.result) nofun
  | suspendForIntervention now code =>
    obtain ⟨-, rfl⟩ := suspendForIntervention_ok (some_map_ok ht)
    exact iff_of_true (h.clearLease_of nofun h.result) nofun
  | resolveIntervention now requeue confirmed =>
    exact iff_of_true (h.resolved (resolveIntervention_ok (some_map_ok ht))) nofun
  | expire | finalizeFailure =>
    cases ht
    exact iff_of_true (h.clearLease_of nofun h.result) nofun

-- ---- a late retry

/-- A running feed job, claimed at time 0, due in a minute. -/
def feedJob : WorkerJob where
  id := 1
  commandId := none
  accountId := none
  assignedWorkerId := none
  accountAffinityRequired := false
  capabilityName := "threads.browser.feed.browse"
  capabilityVersion := 1
  operationClass := .read
  inputData := []
  status := .running
  priority := 0
  preemptible := true
  scheduledAt := 0
  deadlineAt := some 60000000
  attemptCount := 1
  maxAttempts := 3
  retrySafety := .safeToRetry
  retryAuthorizedByOperator := false
  leaseWorkerId := some 2
  leaseToken := some 3
  leaseExpiresAt := some 120000000
  accountCoordinationGeneration := none
  checkpoint := none
  result := none
  errorCode := none
  createdAt := 0
  updatedAt := 0
  completedAt := none

/-- Two seconds of retry delay reach past a deadline one second away:
the lease owner's report is accepted and leaves a job no row can hold. -/
theorem fail_near_deadline_not_valid :
    feedJob.Valid (fun _ => .plain)
      ∧ ∃ j', (Transition.fail 2 3 59000000 "NETWORK_TIMEOUT" true false
          (some (59000000 + 2000000))).apply (fun _ => .plain) feedJob = .ok (some j')
        ∧ ¬ j'.Valid (fun _ => .plain) :=
  ⟨by decide, _, rfl, by decide⟩

/-- Half a minute earlier the same report leaves a valid job. -/
theorem fail_before_deadline_valid :
    ∃ j', (Transition.fail 2 3 30000000 "NETWORK_TIMEOUT" true false
        (some (30000000 + 2000000))).apply (fun _ => .plain) feedJob = .ok (some j')
      ∧ j'.Valid (fun _ => .plain) := by
  have hv : feedJob.Valid (fun _ => .plain) := by decide
  have ht : ∃ j', (Transition.fail 2 3 30000000 "NETWORK_TIMEOUT" true false
      (some (30000000 + 2000000))).apply (fun _ => .plain) feedJob = .ok (some j') :=
    ⟨_, rfl⟩
  obtain ⟨j', ht⟩ := ht
  refine ⟨j', ht, (valid_after_iff hv ht).mpr ?_⟩
  rintro ⟨-, -, -, -, hpast⟩
  exact absurd hpast (by decide)

end WorkerJob

end ThreadsPlatform
