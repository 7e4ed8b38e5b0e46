/-
The WorkerJob transitions read backwards: what an accepted transition
required, and the job it leaves.

Two relations summarise what the services' proofs need of a transition.
`SameJob` is what none of them changes: the job's identity, its link to
a Command, an account and a worker, its capability, its bounds.
`Leaves` is a transition out of (or past) RUNNING: the same job, the
same number of attempts, and no lease.
-/
import ThreadsPlatform.Domain.WorkerJobs

namespace ThreadsPlatform

open Relational

variable {ambiguous confirmed requeue retryable : Bool} {g : Option Int} {retryAt : Option Time}
  {code errorCode reason : String}

namespace WorkerJob

variable {j j' : WorkerJob} {w τ : Uuid} {now e : Time} {r : Option WorkerJob}

-- ==== relations

/-- What no transition changes. -/
structure SameJob (j j' : WorkerJob) : Prop where
  id : j'.id = j.id
  commandId : j'.commandId = j.commandId
  accountId : j'.accountId = j.accountId
  assignedWorkerId : j'.assignedWorkerId = j.assignedWorkerId
  accountAffinityRequired : j'.accountAffinityRequired = j.accountAffinityRequired
  capabilityName : j'.capabilityName = j.capabilityName
  capabilityVersion : j'.capabilityVersion = j.capabilityVersion
  operationClass : j'.operationClass = j.operationClass
  inputData : j'.inputData = j.inputData
  priority : j'.priority = j.priority
  preemptible : j'.preemptible = j.preemptible
  deadlineAt : j'.deadlineAt = j.deadlineAt
  maxAttempts : j'.maxAttempts = j.maxAttempts

/-- The transition ends with no lease and counts no new attempt. -/
structure Leaves (j j' : WorkerJob) : Prop extends SameJob j j' where
  attemptCount : j'.attemptCount = j.attemptCount
  status : j'.status ≠ .running
  leaseWorkerId : j'.leaseWorkerId = none
  leaseToken : j'.leaseToken = none
  leaseExpiresAt : j'.leaseExpiresAt = none
  accountCoordinationGeneration : j'.accountCoordinationGeneration = none
  checkpoint : j'.checkpoint = j.checkpoint

theorem SameJob.requiresCoordination (h : SameJob j j') :
    j'.requiresCoordination = j.requiresCoordination := by
  unfold WorkerJob.requiresCoordination
  rw [h.accountId, h.operationClass]

theorem SameJob.beforeDeadline (h : SameJob j j') (t : Time) :
    j'.beforeDeadline t = j.beforeDeadline t := by
  unfold WorkerJob.beforeDeadline
  rw [h.deadlineAt]

-- ==== leases

theorem ownsLease_iff :
    j.ownsLease w τ now = true ↔ j.status = .running ∧ j.leaseWorkerId = some w
      ∧ j.leaseToken = some τ ∧ ∃ e, j.leaseExpiresAt = some e ∧ now < e := by
  unfold ownsLease
  rw [Bool.and_eq_true, Bool.and_eq_true, Bool.and_eq_true, Option.any_eq_true]
  simp [and_assoc]

theorem attemptCount_of_check (h : j.checkConstraints = true) :
    0 ≤ j.attemptCount ∧ j.attemptCount ≤ j.maxAttempts := by
  unfold checkConstraints at h
  simp only [checks_hold] at h
  obtain ⟨⟨⟨⟨⟨⟨⟨⟨-, hnonneg⟩, hle⟩, -⟩, -⟩, -⟩, -⟩, -⟩, -⟩ := h
  exact ⟨hnonneg, hle⟩

theorem lease_none_of_check (h : j.checkConstraints = true) (hst : j.status ≠ .running) :
    j.leaseWorkerId = none ∧ j.leaseToken = none ∧ j.leaseExpiresAt = none
      ∧ j.accountCoordinationGeneration = none := by
  unfold checkConstraints at h
  simp only [checks_hold, Bool.or_eq_true, hst, false_and, false_or, Option.isNone_iff_eq_none,
    ne_eq, not_false_eq_true, true_and, or_false] at h
  obtain ⟨⟨⟨⟨-, hpair⟩, hworker⟩, -⟩, hfence, -⟩ := h
  rw [hworker] at hpair
  rcases hpair with ⟨⟨-, htoken⟩, hexpiry⟩ | ⟨⟨hsome, -⟩, -⟩
  · exact ⟨hworker, htoken, hexpiry, hfence⟩
  · cases hsome

/-- A stored job has a fence only while it runs under the account's
lease. -/
theorem fence_of_check {g : Int} (h : j.checkConstraints = true)
    (hg : j.accountCoordinationGeneration = some g) :
    j.status = .running ∧ j.requiresCoordination = true := by
  unfold checkConstraints at h
  simp only [checks_hold, Bool.or_eq_true, hg, Option.isNone_some, Bool.false_eq_true,
    false_or] at h
  obtain ⟨-, ⟨⟨hrunning, haccount⟩, hclass⟩, -⟩ := h
  refine ⟨hrunning, ?_⟩
  unfold requiresCoordination
  rw [haccount, Bool.true_and]
  cases hop : j.operationClass with
  | read => exact absurd hop hclass
  | mutation | session | background => rfl

theorem leaves_clearLease (hs : SameJob j j') (hc : j'.attemptCount = j.attemptCount)
    (hcheckpoint : j'.checkpoint = j.checkpoint) (hst : j'.status ≠ .running) :
    Leaves j j'.clearLease where
  id := hs.id
  commandId := hs.commandId
  accountId := hs.accountId
  assignedWorkerId := hs.assignedWorkerId
  accountAffinityRequired := hs.accountAffinityRequired
  capabilityName := hs.capabilityName
  capabilityVersion := hs.capabilityVersion
  operationClass := hs.operationClass
  inputData := hs.inputData
  priority := hs.priority
  preemptible := hs.preemptible
  deadlineAt := hs.deadlineAt
  maxAttempts := hs.maxAttempts
  attemptCount := hc
  status := hst
  leaseWorkerId := rfl
  leaseToken := rfl
  leaseExpiresAt := rfl
  accountCoordinationGeneration := rfl
  checkpoint := hcheckpoint

-- ==== claim

/-- What `claim` checks. -/
structure Claimable (j : WorkerJob) (w : Uuid) (now e : Time) (g : Option Int) : Prop where
  status : j.status = .queued ∨ j.status = .failedRetryable ∨ j.status = .running
  scheduled : j.scheduledAt ≤ now
  deadline : j.beforeDeadline now = true
  attempts : j.attemptCount < j.maxAttempts
  assigned : j.assignedWorkerId = none ∨ j.assignedWorkerId = some w
  lapsed : j.status = .running → ∃ t, j.leaseExpiresAt = some t ∧ t ≤ now
  reconciled : j.status = .running →
    j.retrySafety = .safeToRetry ∨ j.retryAuthorizedByOperator = true
  expiry : now < e
  fence : if j.requiresCoordination then ∃ n, g = some n ∧ 1 ≤ n else g = none

theorem claim_ok (h : j.claim w now e τ g = .ok j') :
    Claimable j w now e g ∧ j' = j.claimed w now e τ g := by
  simp only [claim, steps_ok] at h
  obtain ⟨h1, h2, h3, h4, h5, h6, h7, h8, h⟩ := h
  have hlapsed : j.status = .running → ∃ t, j.leaseExpiresAt = some t ∧ t ≤ now := by
    intro hr
    simpa [Option.any_eq_true] using h6 hr
  split at h <;> simp only [steps_ok] at h
  case isTrue hc =>
    refine ⟨⟨h1, h2, h3, h4, h5, hlapsed, h7, h8, ?_⟩, h.2.symm⟩
    simpa [hc, Option.any_eq_true] using h.1
  case isFalse hc =>
    refine ⟨⟨h1, h2, h3, h4, h5, hlapsed, h7, h8, ?_⟩, h.2.symm⟩
    simpa [hc] using h.1

theorem claim_of_claimable (h : Claimable j w now e g) :
    j.claim w now e τ g = .ok (j.claimed w now e τ g) := by
  have hlapsed : j.status = .running → j.leaseExpiresAt.any (fun t => decide (t ≤ now)) = true := by
    intro hrunning
    obtain ⟨t, ht, hle⟩ := h.lapsed hrunning
    simp [ht, hle]
  have hfence := h.fence
  simp only [claim, steps_ok]
  refine ⟨h.status, h.scheduled, h.deadline, h.attempts, h.assigned, hlapsed, h.reconciled,
    h.expiry, ?_⟩
  split at hfence
  case isTrue hc =>
    obtain ⟨n, rfl, hn⟩ := hfence
    simp [hc, hn, require, bind, Except.bind, pure, Except.pure]
  case isFalse hc =>
    simp [hc, hfence, require, bind, Except.bind, pure, Except.pure]

theorem sameJob_claimed : SameJob j (j.claimed w now e τ g) := by
  constructor <;> rfl

-- ==== owner's transitions

theorem renew_some (h : j.renew w τ now e = .ok (some j')) :
    j.ownsLease w τ now = true ∧ now < e
      ∧ j' = { j with leaseExpiresAt := some e, updatedAt := now } := by
  unfold renew at h
  split at h
  · cases h
  case isFalse hown =>
    simp only [steps_ok] at h
    obtain ⟨hlt, h⟩ := h
    injection h with h
    exact ⟨by simpa using hown, hlt, h.symm⟩

variable {urlsplit : String → UrlVerdict} {d : Document}

theorem saveCheckpoint_some (h : j.saveCheckpoint urlsplit w τ now d = .ok (some j')) :
    j.ownsLease w τ now = true ∧ validateDocument urlsplit (some d) = .ok ()
      ∧ j' = { j with checkpoint := some d, updatedAt := now } := by
  unfold saveCheckpoint at h
  split at h
  · cases h
  case isFalse hown =>
    simp only [steps_ok] at h
    obtain ⟨u, hd, h⟩ := h
    injection h with h
    exact ⟨by simpa using hown, hd, h.symm⟩

theorem complete_some (h : j.complete urlsplit w τ now d = .ok (some j')) :
    j.ownsLease w τ now = true ∧ validateDocument urlsplit (some d) = .ok ()
      ∧ j' = clearLease { j with
          status := .succeeded
          result := some d
          completedAt := some now
          updatedAt := now } := by
  unfold complete at h
  split at h
  · cases h
  case isFalse hown =>
    simp only [steps_ok] at h
    obtain ⟨u, hd, h⟩ := h
    injection h with h
    exact ⟨by simpa using hown, hd, h.symm⟩

theorem cancel_some (h : j.cancel w τ now reason = .ok (some j')) :
    j.preemptible = true ∧ j.ownsLease w τ now = true ∧ j' = clearLease { j with
          status := .cancelled
          errorCode := some reason
          completedAt := some now
          updatedAt := now } := by
  unfold cancel at h
  split at h
  · cases h
  case isFalse hown =>
    simp only [steps_ok] at h
    obtain ⟨-, h⟩ := h
    injection h with h
    rw [not_or] at hown
    exact ⟨by simpa using hown.1, by simpa using hown.2, h.symm⟩

theorem requireIntervention_some (h : j.requireIntervention w τ now = .ok (some j')) :
    j.ownsLease w τ now = true
      ∧ j' = clearLease { j with status := .waitingIntervention, updatedAt := now } := by
  unfold requireIntervention at h
  split at h
  · cases h
  case isFalse hown =>
    rw [pure_eq_ok] at h
    injection h with h
    exact ⟨by simpa using hown, h.symm⟩

/-- The three ways `fail` ends: suspended for an operator, scheduled
again, or final. -/
inductive FailOutcome (j : WorkerJob) (now : Time) (errorCode : String)
    (retryable ambiguous : Bool) (retryAt : Option Time) : WorkerJob → Prop
  | suspended
      (hc : ambiguous = true ∨ (j.retrySafety = .reconciliationRequired ∧ retryable = true)) :
      FailOutcome j now errorCode retryable ambiguous retryAt
        (clearLease { j with
          errorCode := some errorCode
          updatedAt := now
          retrySafety := if ambiguous then .reconciliationRequired else j.retrySafety
          status := .waitingIntervention })
  | retried (ha : ambiguous = false) (hs : j.retrySafety = .safeToRetry)
      (hr : retryable = true) (hn : j.attemptCount < j.maxAttempts) :
      FailOutcome j now errorCode retryable ambiguous retryAt
        (clearLease { j with
          errorCode := some errorCode
          updatedAt := now
          status := .failedRetryable
          scheduledAt := retryAt.getD now })
  | final (ha : ambiguous = false)
      (hf : ¬ (retryable = true ∧ j.attemptCount < j.maxAttempts)) :
      FailOutcome j now errorCode retryable ambiguous retryAt
        (clearLease { j with
          errorCode := some errorCode
          updatedAt := now
          status := .failedFinal
          completedAt := some now })

theorem fail_some (h : j.fail w τ now errorCode retryable ambiguous retryAt = .ok (some j')) :
    j.ownsLease w τ now = true ∧ FailOutcome j now errorCode retryable ambiguous retryAt j' := by
  unfold fail at h
  split at h
  · cases h
  case isFalse hown =>
    simp only [steps_ok] at h
    obtain ⟨-, h⟩ := h
    refine ⟨by simpa using hown, ?_⟩
    split at h
    case isTrue hc =>
      rw [pure_eq_ok] at h
      injection h with h
      exact h ▸ .suspended hc
    case isFalse hc =>
      rw [not_or, not_and_or] at hc
      have ha : ambiguous = false := by simpa using hc.1
      split at h
      case isTrue hr =>
        rw [pure_eq_ok] at h
        injection h with h
        have hs : j.retrySafety = .safeToRetry := by
          cases hsafe : j.retrySafety with
          | safeToRetry => rfl
          | reconciliationRequired =>
            rcases hc.2 with hc | hc
            · exact absurd hsafe hc
            · exact absurd hr.1 hc
        exact h ▸ .retried ha hs hr.1 hr.2
      case isFalse hf =>
        rw [pure_eq_ok] at h
        injection h with h
        exact h ▸ .final ha hf

-- ---- what the owner's reports leave

theorem complete_leaves (h : j.complete urlsplit w τ now d = .ok (some j')) :
    j.ownsLease w τ now = true ∧ j.Leaves j' ∧ j'.status = .succeeded := by
  obtain ⟨hown, -, rfl⟩ := complete_some h
  exact ⟨hown, leaves_clearLease (by constructor <;> rfl) rfl rfl (by simp), rfl⟩

theorem cancel_leaves (h : j.cancel w τ now reason = .ok (some j')) :
    j.ownsLease w τ now = true ∧ j.Leaves j' ∧ j'.status = .cancelled := by
  obtain ⟨-, hown, rfl⟩ := cancel_some h
  exact ⟨hown, leaves_clearLease (by constructor <;> rfl) rfl rfl (by simp), rfl⟩

theorem requireIntervention_leaves (h : j.requireIntervention w τ now = .ok (some j')) :
    j.ownsLease w τ now = true ∧ j.Leaves j' ∧ j'.status = .waitingIntervention := by
  obtain ⟨hown, rfl⟩ := requireIntervention_some h
  exact ⟨hown, leaves_clearLease (by constructor <;> rfl) rfl rfl (by simp), rfl⟩

theorem fail_leaves (h : j.fail w τ now errorCode retryable ambiguous retryAt = .ok (some j')) :
    j.ownsLease w τ now = true ∧ j.Leaves j'
      ∧ (j'.status = .waitingIntervention ∨ j'.status = .failedRetryable
        ∨ j'.status = .failedFinal) := by
  obtain ⟨hown, houtcome⟩ := fail_some h
  refine ⟨hown, ?_⟩
  cases houtcome with
  | suspended hc =>
    exact ⟨leaves_clearLease (by constructor <;> rfl) rfl rfl (by simp), .inl rfl⟩
  | retried ha hs hr hn =>
    exact ⟨leaves_clearLease (by constructor <;> rfl) rfl rfl (by simp), .inr (.inl rfl)⟩
  | final ha hf =>
    exact ⟨leaves_clearLease (by constructor <;> rfl) rfl rfl (by simp), .inr (.inr rfl)⟩

-- ---- ambiguous work

/-- The transition makes no ambiguous outcome certain, and what it leaves
for another attempt is safe to repeat. -/
structure Cautious (j j' : WorkerJob) : Prop where
  ambiguous : j.retrySafety = .reconciliationRequired →
    j'.retrySafety = .reconciliationRequired
  replayed : j'.status = .queued ∨ j'.status = .failedRetryable → j'.retrySafety = .safeToRetry

theorem cautious_of_status (hkept : j.retrySafety = .reconciliationRequired →
    j'.retrySafety = .reconciliationRequired) (hqueued : j'.status ≠ .queued)
    (hretryable : j'.status ≠ .failedRetryable) : Cautious j j' :=
  ⟨hkept, fun h => absurd h (not_or.mpr ⟨hqueued, hretryable⟩)⟩

theorem complete_cautious (h : j.complete urlsplit w τ now d = .ok (some j')) :
    j.Cautious j' := by
  obtain ⟨-, -, rfl⟩ := complete_some h
  exact cautious_of_status (fun h => h) (by simp [clearLease]) (by simp [clearLease])

theorem cancel_cautious (h : j.cancel w τ now reason = .ok (some j')) : j.Cautious j' := by
  obtain ⟨-, -, rfl⟩ := cancel_some h
  exact cautious_of_status (fun h => h) (by simp [clearLease]) (by simp [clearLease])

/-- A retryable failure is scheduled again only if it is safe. -/
theorem fail_cautious (h : j.fail w τ now errorCode retryable ambiguous retryAt = .ok (some j')) :
    j.Cautious j' := by
  obtain ⟨-, houtcome⟩ := fail_some h
  cases houtcome with
  | suspended hc =>
    refine cautious_of_status ?_ (by simp [clearLease]) (by simp [clearLease])
    intro hambiguous
    simp [clearLease, hambiguous]
  | retried ha hs hr hn =>
    refine ⟨fun hambiguous => ?_, fun _ => hs⟩
    rw [hs] at hambiguous
    cases hambiguous
  | final ha hf => exact cautious_of_status (fun h => h) (by simp [clearLease]) (by simp
    [clearLease])

-- ==== service's transitions

theorem expire_leaves (j : WorkerJob) (now : Time) (code : String) :
    j.Leaves (j.expire now code) ∧ (j.expire now code).status = .expired :=
  ⟨leaves_clearLease (by constructor <;> rfl) rfl rfl (by simp), rfl⟩

theorem finalizeFailure_leaves (j : WorkerJob) (now : Time) (code : String) :
    j.Leaves (j.finalizeFailure now code) ∧ (j.finalizeFailure now code).status = .failedFinal :=
  ⟨leaves_clearLease (by constructor <;> rfl) rfl rfl (by simp), rfl⟩

theorem suspendForIntervention_ok (h : j.suspendForIntervention now code = .ok j') :
    j.status = .running ∧ j' = clearLease { j with
      status := .waitingIntervention
      errorCode := some code
      updatedAt := now } := by
  simp only [suspendForIntervention, steps_ok] at h
  exact ⟨h.1, h.2.symm⟩

theorem suspendForIntervention_leaves (h : j.suspendForIntervention now code = .ok j') :
    j.status = .running ∧ j.Leaves j' ∧ j'.status = .waitingIntervention := by
  obtain ⟨hr, rfl⟩ := suspendForIntervention_ok h
  exact ⟨hr, leaves_clearLease (by constructor <;> rfl) rfl rfl (by simp), rfl⟩

/-- The two ways `resolve_intervention` ends: the job is closed, or it
is queued again from now, before its deadline and within its bound. -/
structure Resolved (j : WorkerJob) (now : Time) (requeue : Bool) (j' : WorkerJob) : Prop
    extends SameJob j j' where
  waiting : j.status = .waitingIntervention
  attemptCount : j'.attemptCount = j.attemptCount
  checkpoint : j'.checkpoint = j.checkpoint
  result : j'.result = j.result
  leaseWorkerId : j'.leaseWorkerId = j.leaseWorkerId
  leaseToken : j'.leaseToken = j.leaseToken
  leaseExpiresAt : j'.leaseExpiresAt = j.leaseExpiresAt
  accountCoordinationGeneration :
    j'.accountCoordinationGeneration = j.accountCoordinationGeneration
  status : j'.status = if requeue then .queued else .failedFinal
  scheduledAt : j'.scheduledAt = if requeue then now else j.scheduledAt
  deadline : requeue = true → j.beforeDeadline now = true

theorem resolveIntervention_ok (h : j.resolveIntervention now requeue confirmed = .ok j') :
    Resolved j now requeue j' := by
  simp only [resolveIntervention, steps_ok] at h
  obtain ⟨hw, h⟩ := h
  split at h
  case isTrue hq =>
    cases h
    constructor <;> first | rfl | exact hw | simp [hq] | skip
    constructor <;> rfl
  case isFalse hq =>
    simp only [steps_ok] at h
    obtain ⟨hd, -, -, h⟩ := h
    subst h
    have hq' : requeue = true := by simpa using hq
    constructor <;> first | rfl | exact hw | exact fun _ => hd | simp [hq'] | skip
    constructor <;> rfl

/-- An operator's requeue of ambiguous work is a confirmed one, and marks
the job. -/
theorem resolveIntervention_replayed (h : j.resolveIntervention now requeue confirmed = .ok j') :
    j'.retrySafety = j.retrySafety
      ∧ (j'.status = .queued ∨ j'.status = .failedRetryable → j'.retrySafety = .safeToRetry
        ∨ (j'.retryAuthorizedByOperator = true ∧ requeue = true ∧ confirmed = true)) := by
  simp only [resolveIntervention, steps_ok] at h
  obtain ⟨-, h⟩ := h
  split at h
  case isTrue hclosed =>
    cases h
    exact ⟨rfl, fun hagain => by rcases hagain with hagain | hagain <;> cases hagain⟩
  case isFalse hrequeue =>
    simp only [steps_ok] at h
    obtain ⟨-, -, hsafe, rfl⟩ := h
    refine ⟨rfl, fun _ => ?_⟩
    cases hsafety : j.retrySafety with
    | safeToRetry => exact .inl rfl
    | reconciliationRequired =>
      rw [hsafety] at hsafe
      exact .inr ⟨by simp, by simpa using hrequeue, hsafe.resolve_left (by decide)⟩

theorem Resolved.leaves (hcheck : j.checkConstraints = true) (h : Resolved j now requeue j') :
    j.Leaves j' := by
  obtain ⟨hworker, htoken, hexpiry, hfence⟩ :=
    lease_none_of_check hcheck (by rw [h.waiting]; decide)
  refine ⟨h.toSameJob, h.attemptCount, ?_, h.leaseWorkerId.trans hworker,
    h.leaseToken.trans htoken, h.leaseExpiresAt.trans hexpiry,
    h.accountCoordinationGeneration.trans hfence, h.checkpoint⟩
  rw [h.status]
  cases requeue <;> decide

end WorkerJob

end ThreadsPlatform
