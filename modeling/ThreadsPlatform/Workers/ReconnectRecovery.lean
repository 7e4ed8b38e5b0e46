/-
The recovery of a worker's journal when it reconnects
(`workers/browser.py`).

`reconcile` asks for an intervention for every mutation whose outcome is
open. The execution it asks through is built outside the guarded call,
so a lease that is over raises out of the loop, and the entries after it
wait for the next time.
-/
import ThreadsPlatform.Domain.WorkerJobs

namespace ThreadsPlatform.ReconnectRecovery

open Relational

/-- `WorkerJobSnapshot`, as far as it is read. -/
structure WorkerJobSnapshot where
  jobId : Uuid
  accountId : Option Uuid
  status : WorkerJobStatus
  assignedWorkerId : Option Uuid
  leaseWorkerId : Option Uuid
  leaseToken : Option Uuid
  leaseExpiresAt : Option Time
  deriving DecidableEq

/-- `LocalRecoveryEntry`: a row of `worker_recovery_journal`. -/
structure LocalRecoveryEntry where
  workerJobId : Uuid
  accountId : Uuid
  profileRef : String
  phase : String
  deriving DecidableEq

/-- `_RECOVERY_AMBIGUOUS_PHASES`. -/
def recoveryAmbiguousPhases : List String := ["MUTATION_STARTED", "MUTATION_CONFIRMED"]

/-- `WorkerJobLeaseLost`, and `ValueError`. -/
inductive ExecutionFailure where
  | leaseLost | invalid
  deriving DecidableEq

/-- One call of `request_intervention`. -/
structure InterventionRequest where
  jobId : Uuid
  leaseToken : Option Uuid
  interventionType : String
  detailCode : String
  deriving DecidableEq

/-- The journal, and what was asked of the Control Plane. -/
structure Recovery where
  journal : List LocalRecoveryEntry
  requests : List InterventionRequest

/-- The worker, the jobs `reconcile` was given, the clock at an entry, and
the Control Plane's answers; without one, `WorkerControlClientError` is
raised. -/
structure Reconnect where
  workerId : Uuid
  jobs : List WorkerJobSnapshot
  clock : LocalRecoveryEntry → Time
  answer : Uuid → Option WorkerJobSnapshot

variable (C : Reconnect)

namespace Reconnect

/-- `jobs_by_id.get`: the last job under an id. -/
def job? (id : Uuid) : Option WorkerJobSnapshot :=
  C.jobs.reverse.find? fun job => decide (job.jobId = id)

/-- The lease is the worker's, and lasts. -/
def Live (now : Time) (job : WorkerJobSnapshot) : Prop :=
  job.leaseWorkerId = some C.workerId ∧ job.leaseToken.isSome = true
    ∧ (job.leaseExpiresAt.any fun t => decide (now < t)) = true
    ∧ (job.assignedWorkerId = none ∨ job.assignedWorkerId = some C.workerId)

instance (now : Time) (job : WorkerJobSnapshot) : Decidable (C.Live now job) :=
  inferInstanceAs (Decidable (_ ∧ _))

/-- `WorkerJobExecution.__init__`, with `_validate_snapshot`. -/
def newExecution (now : Time) (job : WorkerJobSnapshot) (profileRef : String) :
    Except ExecutionFailure Unit := do
  require (job.status = .running ∧ C.Live now job) .leaseLost
  require (job.accountId.isSome = true) .invalid
  require (notBlank profileRef = true) .invalid

/-- The Control Plane has the job wait for the intervention. -/
def Accepts (job : WorkerJobSnapshot) : Prop :=
  ∃ snapshot ∈ C.answer job.jobId, snapshot.jobId = job.jobId
    ∧ snapshot.status = .waitingIntervention

instance (job : WorkerJobSnapshot) : Decidable (C.Accepts job) :=
  inferInstanceAs (Decidable (∃ snapshot ∈ C.answer job.jobId, _))

end Reconnect

/-- `clear_recovery_entry`. -/
def Recovery.clear (s : Recovery) (jobId : Uuid) : Recovery :=
  { s with journal := s.journal.filter fun e => decide (e.workerJobId ≠ jobId) }

/-- `request_intervention`. What it raises is caught. -/
def Recovery.requestIntervention (s : Recovery) (job : WorkerJobSnapshot) : Recovery :=
  let s := { s with requests := ⟨job.jobId, job.leaseToken, "AMBIGUOUS_OUTCOME",
    "RESTART_REQUIRES_OUTCOME_RECONCILIATION"⟩ :: s.requests }
  if C.Accepts job then s.clear job.jobId else s

/-- One entry of the loop. -/
def reconcileEntry (s : Recovery) (e : LocalRecoveryEntry) : Except ExecutionFailure Recovery :=
  match C.job? e.workerJobId with
  | none => .ok s
  | some job =>
    if job.status ≠ .running then .ok (s.clear job.jobId)
    else if e.phase ∉ recoveryAmbiguousPhases then .ok s
    else do
      C.newExecution (C.clock e) job e.profileRef
      return s.requestIntervention C job

/-- The loop: where it raises, what was done stays done. -/
def reconcileEntries : List LocalRecoveryEntry → Recovery → Recovery × Option ExecutionFailure
  | [], s => (s, none)
  | e :: entries, s =>
    match reconcileEntry C s e with
    | .ok s' => reconcileEntries entries s'
    | .error failure => (s, some failure)

/-- `WorkerJobReconnectRecovery.reconcile`. -/
def reconcile (journal : List LocalRecoveryEntry) : Recovery × Option ExecutionFailure :=
  reconcileEntries C journal ⟨journal, []⟩

-- ==== the loop

variable {C} {s s' : Recovery} {e : LocalRecoveryEntry} {entries : List LocalRecoveryEntry}
  {job : WorkerJobSnapshot}

/-- The entry's outcome is open and its job runs. -/
def Uncertain (C : Reconnect) (e : LocalRecoveryEntry) (job : WorkerJobSnapshot) : Prop :=
  C.job? e.workerJobId = some job ∧ job.status = .running ∧ e.phase ∈ recoveryAmbiguousPhases

/-- An execution can be built for the entry, if it needs one. -/
def Ready (C : Reconnect) (e : LocalRecoveryEntry) : Prop :=
  ∀ job, Uncertain C e job → C.Live (C.clock e) job ∧ job.accountId.isSome = true
    ∧ notBlank e.profileRef = true

/-- What one entry does. -/
inductive EntryStep (C : Reconnect) (s : Recovery) (e : LocalRecoveryEntry) : Recovery → Prop
  | kept (hcertain : ∀ job, ¬ Uncertain C e job) : EntryStep C s e s
  | ended {job : WorkerJobSnapshot} (hjob : C.job? e.workerJobId = some job)
      (hstatus : job.status ≠ .running) : EntryStep C s e (s.clear job.jobId)
  | asked {job : WorkerJobSnapshot} (hjob : Uncertain C e job) :
      EntryStep C s e (s.requestIntervention C job)

/-- An entry that is ready is handled, and one that is not raises. -/
theorem reconcileEntry_cases (C : Reconnect) (s : Recovery) (e : LocalRecoveryEntry) :
    (Ready C e ∧ ∃ s', reconcileEntry C s e = .ok s' ∧ EntryStep C s e s')
      ∨ ¬ Ready C e ∧ ∃ failure, reconcileEntry C s e = .error failure := by
  have hcertain (h : ∀ job, ¬ Uncertain C e job) : Ready C e := fun job hjob => absurd hjob (h job)
  unfold reconcileEntry
  cases hjob : C.job? e.workerJobId with
  | none =>
    have hnone : ∀ job, ¬ Uncertain C e job := fun job h => by cases hjob.symm.trans h.1
    exact .inl ⟨hcertain hnone, s, rfl, .kept hnone⟩
  | some job =>
    have hsame : ∀ job', Uncertain C e job' → job' = job := fun job' h =>
      Option.mem_unique h.1 hjob
    dsimp only
    split
    case isTrue hstatus =>
      refine .inl ⟨hcertain fun job' h => hstatus ?_, _, rfl, .ended hjob hstatus⟩
      exact hsame job' h ▸ h.2.1
    case isFalse hstatus =>
      split
      case isTrue hphase =>
        have hnone : ∀ job, ¬ Uncertain C e job := fun job h => hphase h.2.2
        exact .inl ⟨hcertain hnone, s, rfl, .kept hnone⟩
      case isFalse hphase =>
        have huncertain : Uncertain C e job := ⟨hjob, not_not.mp hstatus, not_not.mp hphase⟩
        cases hnew : C.newExecution (C.clock e) job e.profileRef with
        | error failure =>
          refine .inr ⟨fun h => ?_, failure, rfl⟩
          obtain ⟨hlive, haccount, hprofile⟩ := h job huncertain
          simp [Reconnect.newExecution, require, huncertain.2.1, hlive, haccount, hprofile, bind,
            Except.bind] at hnew
        | ok =>
          simp only [Reconnect.newExecution, steps_ok] at hnew
          refine .inl ⟨fun job' h => ?_, _, rfl, .asked huncertain⟩
          rw [hsame job' h]
          exact ⟨hnew.1.2, hnew.2⟩

theorem reconcileEntries_returns :
    (reconcileEntries C entries s).2 = none ↔ ∀ e ∈ entries, Ready C e := by
  induction entries generalizing s with
  | nil => simp [reconcileEntries]
  | cons e entries ih =>
    rw [List.forall_mem_cons, reconcileEntries]
    rcases reconcileEntry_cases C s e with ⟨hready, s', hok, -⟩ | ⟨hnot, failure, herror⟩
    · rw [hok, ← ih]
      exact (and_iff_right hready).symm
    · rw [herror]
      exact iff_of_false (by simp) fun h => hnot h.1

/-- What the loop did, where it returned. -/
structure Recovered (C : Reconnect) (entries : List LocalRecoveryEntry) (s s' : Recovery) :
    Prop where
  kept : ∀ q ∈ s.requests, q ∈ s'.requests
  asked : ∀ e ∈ entries, ∀ job, Uncertain C e job → ∃ q ∈ s'.requests,
    q.jobId = job.jobId ∧ q.leaseToken = job.leaseToken ∧ q.interventionType = "AMBIGUOUS_OUTCOME"
  removed : ∀ e ∈ s.journal, e ∉ s'.journal →
    ∃ job, C.job? e.workerJobId = some job ∧ (job.status ≠ .running ∨ C.Accepts job)

theorem not_mem_clear {e : LocalRecoveryEntry} {id : Uuid} (he : e ∈ s.journal)
    (h : e ∉ (s.clear id).journal) : e.workerJobId = id := by
  by_contra hne
  exact h (List.mem_filter.mpr ⟨he, decide_eq_true hne⟩)

theorem job?_id {id : Uuid} (h : C.job? id = some job) : job.jobId = id := by
  simpa using List.find?_some h

theorem EntryStep.recovered (h : EntryStep C s e s') : Recovered C [e] s s' := by
  cases h with
  | kept hcertain =>
    refine ⟨fun q hq => hq, fun e' he job hjob => ?_, fun e he hnot => absurd he hnot⟩
    exact absurd (List.mem_singleton.mp he ▸ hjob) (hcertain job)
  | @ended job hjob hstatus =>
    refine ⟨fun q hq => hq, fun e' he job' h => ?_, fun e' he hnot => ?_⟩
    · obtain rfl := List.mem_singleton.mp he
      exact absurd (Option.mem_unique hjob h.1 ▸ h.2.1) hstatus
    · exact ⟨job, not_mem_clear he hnot ▸ (job?_id hjob).symm ▸ hjob, .inl hstatus⟩
  | @asked job hjob =>
    have hrequests : (s.requestIntervention C job).requests = ⟨job.jobId, job.leaseToken,
        "AMBIGUOUS_OUTCOME", "RESTART_REQUIRES_OUTCOME_RECONCILIATION"⟩ :: s.requests := by
      simp only [Recovery.requestIntervention]
      split <;> rfl
    refine ⟨fun q hq => hrequests ▸ .tail _ hq, fun e' he job' h => ?_, fun e' he hnot => ?_⟩
    · obtain rfl := List.mem_singleton.mp he
      obtain rfl := Option.mem_unique hjob.1 h.1
      rw [hrequests]
      exact ⟨_, .head _, rfl, rfl, rfl⟩
    · simp only [Recovery.requestIntervention] at hnot
      split at hnot
      case isTrue haccepts =>
        exact ⟨job, not_mem_clear he hnot ▸ (job?_id hjob.1).symm ▸ hjob.1, .inr haccepts⟩
      · exact absurd he hnot

theorem reconcileEntries_recovered (h : ∀ e ∈ entries, Ready C e) :
    Recovered C entries s (reconcileEntries C entries s).1 := by
  induction entries generalizing s with
  | nil => exact ⟨fun q hq => hq, fun e he => absurd he List.not_mem_nil,
      fun e he hnot => absurd he hnot⟩
  | cons e entries ih =>
    obtain ⟨hready, hrest⟩ := List.forall_mem_cons.mp h
    rcases reconcileEntry_cases C s e with ⟨-, s', hok, hstep⟩ | ⟨hnot, -⟩
    · have hfirst := hstep.recovered
      have hlast := ih (s := s') hrest
      rw [reconcileEntries, hok]
      refine ⟨fun q hq => hlast.kept q (hfirst.kept q hq), fun e' he job hjob => ?_,
        fun e' he hnot => ?_⟩
      · rcases List.mem_cons.mp he with rfl | he
        · obtain ⟨q, hq, hrequest⟩ := hfirst.asked e' (.head _) job hjob
          exact ⟨q, hlast.kept q hq, hrequest⟩
        · exact hlast.asked e' he job hjob
      · by_cases hmid : e' ∈ s'.journal
        · exact hlast.removed e' hmid hnot
        · exact hfirst.removed e' he hmid
    · exact absurd hready hnot

/-- `reconcile` returns, has asked for every open outcome under a live
lease, and removed entries only of jobs that are over or accepted. -/
def Handles (C : Reconnect) (journal : List LocalRecoveryEntry) : Prop :=
  (reconcile C journal).2 = none
    ∧ (∀ e ∈ journal, ∀ job, Uncertain C e job → C.Live (C.clock e) job →
      ∃ q ∈ (reconcile C journal).1.requests, q.jobId = job.jobId
        ∧ q.leaseToken = job.leaseToken ∧ q.interventionType = "AMBIGUOUS_OUTCOME")
    ∧ ∀ e ∈ journal, e ∉ (reconcile C journal).1.journal →
      ∃ job, C.job? e.workerJobId = some job ∧ (job.status ≠ .running ∨ C.Accepts job)

/-- It does so exactly for journals whose open outcomes all belong to jobs
under a live lease, of an account and with a profile. -/
theorem reconcile_handles_iff (C : Reconnect) (journal : List LocalRecoveryEntry) :
    Handles C journal ↔ ∀ e ∈ journal, Ready C e := by
  refine ⟨fun h => reconcileEntries_returns.mp h.1, fun h => ?_⟩
  have hdone := reconcileEntries_recovered (s := ⟨journal, []⟩) h
  exact ⟨reconcileEntries_returns.mpr h, fun e he job hjob _ => hdone.asked e he job hjob,
    hdone.removed⟩

namespace RecoverySample

/-- A job of worker 1 that is RUNNING under a lease up to `t`. -/
def running (id : Uuid) (t : Time) : WorkerJobSnapshot :=
  ⟨id, some 5, .running, none, some 1, some 9, some t⟩

/-- Two jobs at time 20: the first one's lease is over. -/
def reconnect : Reconnect := ⟨1, [running 3 10, running 4 30], fun _ => 20, fun _ => none⟩

def journal : List LocalRecoveryEntry :=
  [⟨3, 5, "main", "MUTATION_STARTED"⟩, ⟨4, 5, "main", "MUTATION_STARTED"⟩]

end RecoverySample

open RecoverySample in
theorem expired_lease_raises :
    ¬ Handles reconnect journal ∧ (reconcile reconnect journal).2 = some .leaseLost
      ∧ (reconcile reconnect journal).1.requests = [] := by
  refine ⟨fun h => ?_, by decide, by decide⟩
  exact absurd h.1 (by decide)

end ThreadsPlatform.ReconnectRecovery
