/-
WorkerJobs and the rows that hang off them: attempts, cancel requests,
preemptions, interventions.

A WorkerJob's eleven transitions mutate the object in the source; here
each returns the job afterwards. A transition that answers a Boolean
answers `none` for `False` (the caller does not own the lease) and the
job afterwards for `True`; one that raises raises the same text.

`pending_cancel_request` is not a column: the service attaches it to
the job it answers with, so it is part of those answers and not of
the job.
-/
import Mathlib.Data.List.Infix
import ThreadsPlatform.Domain.Basic
import ThreadsPlatform.Relational.Transaction

namespace ThreadsPlatform

open Relational

-- ==== documents

/-- What `urlsplit` makes of a text: no credentials for one of the
schemes http, https, socks5 and socks5h; credentials for one of them;
or a `ValueError`. -/
inductive UrlVerdict where
  | plain
  | credentials
  | invalid (message : String)
  deriving DecidableEq

/-- `MAX_WORKER_JOB_DOCUMENT_BYTES`. -/
def maxWorkerJobDocumentBytes : Nat := 64 * 1024

/-- One character as `json.dumps` writes it: ASCII only. -/
def dumpsChar (c : Char) : List Char :=
  let n := c.toNat
  if c = '"' then ['\\', '"']
  else if c = '\\' then ['\\', '\\']
  else if n = 10 then ['\\', 'n']
  else if n = 13 then ['\\', 'r']
  else if n = 9 then ['\\', 't']
  else if n = 12 then ['\\', 'f']
  else if n = 8 then ['\\', 'b']
  else if 32 ≤ n ∧ n ≤ 126 then [c]
  else if n < 0x10000 then '\\' :: 'u' :: hexDigits 4 n
  else
    -- beyond the basic plane: a surrogate pair
    let v := n - 0x10000
    '\\' :: 'u' :: hexDigits 4 (0xD800 + v / 0x400)
      ++ '\\' :: 'u' :: hexDigits 4 (0xDC00 + v % 0x400)

def dumpsStr (s : String) : List Char :=
  '"' :: s.toList.flatMap dumpsChar ++ ['"']

mutual

/-- `json.dumps(value, separators=(",", ":"), allow_nan=False)`; `none`
where a float is not finite. -/
def dumps : Json → Option (List Char)
  | .null => some ['n', 'u', 'l', 'l']
  | .bool true => some ['t', 'r', 'u', 'e']
  | .bool false => some ['f', 'a', 'l', 's', 'e']
  | .int n => some (toString n).toList
  | .float text =>
    if text = "nan" ∨ text = "inf" ∨ text = "-inf" then none else some text.toList
  | .str s => some (dumpsStr s)
  | .arr items => (dumpsItems items).map fun cs => '[' :: cs ++ [']']
  | .obj fields => (dumpsFields fields).map fun cs => '\x7b' :: cs ++ ['\x7d']

def dumpsItems : List Json → Option (List Char)
  | [] => some []
  | [v] => dumps v
  | v :: w :: vs => do return (← dumps v) ++ ',' :: (← dumpsItems (w :: vs))

def dumpsFields : List (String × Json) → Option (List Char)
  | [] => some []
  | [(k, v)] => do return dumpsStr k ++ ':' :: (← dumps v)
  | (k, v) :: f :: fs => do
      return dumpsStr k ++ ':' :: (← dumps v) ++ ',' :: (← dumpsFields (f :: fs))

end

/-- The ASCII letter `str.lower` makes of a character, if it makes one:
besides A-Z, the Kelvin sign and the dotted capital I have one. -/
def lowerLetter (c : Char) : Option Char :=
  if 'a' ≤ c ∧ c ≤ 'z' then some c
  else if 'A' ≤ c ∧ c ≤ 'Z' then some c.toLower
  else if c.toNat = 0x212A then some 'k'
  else if c.toNat = 0x130 then some 'i'
  else none

/-- The terms no document key may contain. -/
def secretTerms : List String :=
  ["password", "token", "secret", "credential", "authorization", "privatekey", "proxy"]

/-- Does the key, lowercased and stripped of all but a-z, contain one of
the secret terms? -/
def isSecretKey (key : String) : Bool :=
  let normalized := key.toList.filterMap lowerLetter
  secretTerms.any fun term => decide (term.toList <:+: normalized)

section Documents

variable (urlsplit : String → UrlVerdict)

mutual

/-- `_reject_secret_fields`. -/
def rejectSecretFields : Json → Except Failure Unit
  | .obj fields => rejectSecretFieldsObj fields
  | .arr items => rejectSecretFieldsArr items
  | .str s =>
    match urlsplit s with
    | .plain => pure ()
    | .credentials =>
      throw (.value "WorkerJob document cannot contain URLs with credentials")
    | .invalid message => throw (.value message)
  | .null | .bool _ | .int _ | .float _ => pure ()

def rejectSecretFieldsObj : List (String × Json) → Except Failure Unit
  | [] => pure ()
  | (k, v) :: fs => do
      require (isSecretKey k = false)
        (.value "WorkerJob document cannot contain secret-bearing fields")
      rejectSecretFields v
      rejectSecretFieldsObj fs

def rejectSecretFieldsArr : List Json → Except Failure Unit
  | [] => pure ()
  | v :: vs => do
      rejectSecretFields v
      rejectSecretFieldsArr vs

end

/-- `_validate_document`. -/
def validateDocument (document : Option Document) : Except Failure Unit :=
  match document with
  | none => pure ()
  | some d => do
      let encoded ← orThrow (dumps (.obj d))
        (.value "WorkerJob document must be JSON serializable")
      require (encoded.length ≤ maxWorkerJobDocumentBytes)
        (.value "WorkerJob document exceeds 64 KiB")
      rejectSecretFields urlsplit (.obj d)

end Documents

-- ==== worker jobs

/-- `WorkerJob`, as stored. -/
structure WorkerJob where
  id : Uuid
  commandId : Option String
  accountId : Option Uuid
  assignedWorkerId : Option Uuid
  accountAffinityRequired : Bool
  capabilityName : String
  capabilityVersion : Int
  operationClass : OperationClass
  inputData : Document
  status : WorkerJobStatus
  priority : Int
  preemptible : Bool
  scheduledAt : Time
  deadlineAt : Option Time
  attemptCount : Int
  maxAttempts : Int
  retrySafety : WorkerJobRetrySafety
  retryAuthorizedByOperator : Bool
  leaseWorkerId : Option Uuid
  leaseToken : Option Uuid
  leaseExpiresAt : Option Time
  accountCoordinationGeneration : Option Int
  checkpoint : Option Document
  result : Option Document
  errorCode : Option String
  createdAt : Time
  updatedAt : Time
  completedAt : Option Time
  deriving DecidableEq

namespace WorkerJob

/-- The job needs the account's exclusive lease while it runs. -/
def requiresCoordination (j : WorkerJob) : Bool :=
  j.accountId.isSome && j.operationClass.requiresExclusiveAccountCoordination

/-- The deadline, if there is one, lies after `t`. -/
def beforeDeadline (j : WorkerJob) (t : Time) : Bool :=
  j.deadlineAt.all fun d => decide (t < d)

/-- The CHECK constraints of the `worker_jobs` table. -/
def checkConstraints (j : WorkerJob) : Bool :=
  -- ck_worker_jobs_attempt_bound
  (decide (0 < j.maxAttempts) && decide (0 ≤ j.attemptCount)
    && decide (j.attemptCount ≤ j.maxAttempts))
  -- ck_worker_jobs_positive_capability_version
  && decide (0 < j.capabilityVersion)
  -- ck_worker_jobs_deadline_after_schedule
  && j.beforeDeadline j.scheduledAt
  -- ck_worker_jobs_lease_pair
  && ((j.leaseWorkerId.isNone && j.leaseToken.isNone && j.leaseExpiresAt.isNone)
    || (j.leaseWorkerId.isSome && j.leaseToken.isSome && j.leaseExpiresAt.isSome))
  -- ck_worker_jobs_running_lease
  && ((decide (j.status = .running) && j.leaseWorkerId.isSome)
    || (decide (j.status ≠ .running) && j.leaseWorkerId.isNone))
  -- ck_worker_jobs_affinity_assignment
  && (!j.accountAffinityRequired || (j.accountId.isSome && j.assignedWorkerId.isSome))
  -- ck_worker_jobs_account_coordination_fence
  && ((j.accountCoordinationGeneration.isNone
      || (decide (j.status = .running) && j.accountId.isSome && decide (j.operationClass ≠ .read)))
    && (decide (j.status ≠ .running) || j.accountId.isNone
      || decide (j.operationClass = .read) || j.accountCoordinationGeneration.isSome))

/-- `WorkerJob.__post_init__`, run by the constructor and so by every
load of a row. -/
def postInit (urlsplit : String → UrlVerdict) (j : WorkerJob) : Except Failure Unit := do
  require (notBlank j.capabilityName = true ∧ 1 ≤ j.capabilityVersion)
    (.value "WorkerJob requires a capability and positive version")
  require (j.commandId.all notBlank = true)
    (.value "command_id must not be empty")
  require (j.accountAffinityRequired = true →
      j.accountId.isSome = true ∧ j.assignedWorkerId.isSome = true)
    (.value "account-affine WorkerJob requires an account and assigned worker")
  require (1 ≤ j.maxAttempts ∧ 0 ≤ j.attemptCount ∧ j.attemptCount ≤ j.maxAttempts)
    (.value "WorkerJob attempt count is outside its retry bound")
  require (j.beforeDeadline j.scheduledAt = true)
    (.value "WorkerJob deadline must be after scheduled_at")
  require ((j.leaseWorkerId.isSome ∧ j.leaseToken.isSome ∧ j.leaseExpiresAt.isSome)
      ∨ (j.leaseWorkerId.isNone ∧ j.leaseToken.isNone ∧ j.leaseExpiresAt.isNone))
    (.value "WorkerJob lease owner, token, and expiry must be set together")
  require (j.status = .running → j.leaseToken.isSome)
    (.value "RUNNING WorkerJob requires a lease")
  require (j.status = .running → j.requiresCoordination = true →
      j.accountCoordinationGeneration.isSome = true)
    (.value "running exclusive account job requires an account coordination fence")
  require (j.accountCoordinationGeneration.all (fun g =>
      decide (j.status = .running) && j.requiresCoordination && decide (1 ≤ g)) = true)
    (.value "account coordination fence requires a running exclusive job")
  validateDocument urlsplit (some j.inputData)
  validateDocument urlsplit j.checkpoint
  validateDocument urlsplit j.result

/-- Storable and loadable: the table's CHECK constraints and the
constructor both accept the job. -/
def Valid (urlsplit : String → UrlVerdict) (j : WorkerJob) : Prop :=
  j.checkConstraints = true ∧ j.postInit urlsplit = .ok ()

instance (urlsplit : String → UrlVerdict) (j : WorkerJob) : Decidable (j.Valid urlsplit) :=
  inferInstanceAs (Decidable (_ ∧ _))

-- ---- transitions

/-- `owns_lease`. -/
def ownsLease (j : WorkerJob) (workerId leaseToken : Uuid) (now : Time) : Bool :=
  decide (j.status = .running) && decide (j.leaseWorkerId = some workerId)
    && decide (j.leaseToken = some leaseToken)
    && j.leaseExpiresAt.any fun e => decide (now < e)

/-- `_clear_lease`. -/
def clearLease (j : WorkerJob) : WorkerJob := { j with
    leaseWorkerId := none
    leaseToken := none
    leaseExpiresAt := none
    accountCoordinationGeneration := none }

/-- What `claim` writes, once every check has passed. -/
def claimed (j : WorkerJob) (workerId : Uuid) (now leaseExpiresAt : Time) (leaseToken : Uuid)
    (accountCoordinationGeneration : Option Int) : WorkerJob :=
  { j with
    status := .running
    leaseWorkerId := some workerId
    leaseToken := some leaseToken
    leaseExpiresAt := some leaseExpiresAt
    accountCoordinationGeneration := accountCoordinationGeneration
    attemptCount := j.attemptCount + 1
    retryAuthorizedByOperator := false
    errorCode := none
    updatedAt := now }

/-- `claim`. -/
def claim (j : WorkerJob) (workerId : Uuid) (now leaseExpiresAt : Time) (leaseToken : Uuid)
    (accountCoordinationGeneration : Option Int) : Except Failure WorkerJob := do
  require (j.status = .queued ∨ j.status = .failedRetryable ∨ j.status = .running)
    (.value "WorkerJob is not claimable")
  require (j.scheduledAt ≤ now) (.value "WorkerJob is not scheduled yet")
  require (j.beforeDeadline now = true) (.value "WorkerJob deadline has expired")
  require (j.attemptCount < j.maxAttempts)
    (.value "WorkerJob attempt limit has been reached")
  require (j.assignedWorkerId = none ∨ j.assignedWorkerId = some workerId)
    (.value "WorkerJob is assigned to a different worker")
  require (j.status = .running →
      j.leaseExpiresAt.any (fun e => decide (e ≤ now)) = true)
    (.value "WorkerJob lease has not expired")
  require (j.status = .running →
      j.retrySafety = .safeToRetry ∨ j.retryAuthorizedByOperator = true)
    (.value "WorkerJob requires side-effect reconciliation")
  require (now < leaseExpiresAt) (.value "WorkerJob lease expiry must be in the future")
  if j.requiresCoordination then
    require (accountCoordinationGeneration.any (fun g => decide (1 ≤ g)) = true)
      (.value "exclusive account job requires an account coordination fence")
  else
    require (accountCoordinationGeneration = none)
      (.value "account coordination fence is not valid for this job")
  return j.claimed workerId now leaseExpiresAt leaseToken accountCoordinationGeneration

/-- `renew`. -/
def renew (j : WorkerJob) (workerId leaseToken : Uuid) (now expiresAt : Time) :
    Except Failure (Option WorkerJob) := do
  if j.ownsLease workerId leaseToken now = false then return none
  require (now < expiresAt) (.value "renewed lease expiry must be in the future")
  return some { j with leaseExpiresAt := some expiresAt, updatedAt := now }

/-- `save_checkpoint`. -/
def saveCheckpoint (urlsplit : String → UrlVerdict) (j : WorkerJob)
    (workerId leaseToken : Uuid) (now : Time) (checkpoint : Document) :
    Except Failure (Option WorkerJob) := do
  if j.ownsLease workerId leaseToken now = false then return none
  validateDocument urlsplit (some checkpoint)
  return some { j with checkpoint := some checkpoint, updatedAt := now }

/-- `complete`. -/
def complete (urlsplit : String → UrlVerdict) (j : WorkerJob)
    (workerId leaseToken : Uuid) (now : Time) (result : Document) :
    Except Failure (Option WorkerJob) := do
  if j.ownsLease workerId leaseToken now = false then return none
  validateDocument urlsplit (some result)
  return some (clearLease { j with
    status := .succeeded
    result := some result
    completedAt := some now
    updatedAt := now })

/-- `cancel`. -/
def cancel (j : WorkerJob) (workerId leaseToken : Uuid) (now : Time)
    (reasonCode : String) : Except Failure (Option WorkerJob) := do
  if j.preemptible = false ∨ j.ownsLease workerId leaseToken now = false then return none
  require (isBoundedCode reasonCode = true)
    (.value "WorkerJob cancellation requires a bounded reason code")
  return some (clearLease { j with
    status := .cancelled
    errorCode := some reasonCode
    completedAt := some now
    updatedAt := now })

/-- `fail`. -/
def fail (j : WorkerJob) (workerId leaseToken : Uuid) (now : Time) (errorCode : String)
    (retryable outcomeAmbiguous : Bool) (retryAt : Option Time) :
    Except Failure (Option WorkerJob) := do
  if j.ownsLease workerId leaseToken now = false then return none
  require (notBlank errorCode = true) (.value "WorkerJob failure requires an error code")
  let failed := { j with errorCode := some errorCode, updatedAt := now }
  if outcomeAmbiguous = true ∨ (j.retrySafety = .reconciliationRequired ∧ retryable = true) then
    return some (clearLease { failed with
      retrySafety := if outcomeAmbiguous then .reconciliationRequired else j.retrySafety
      status := .waitingIntervention })
  else if retryable = true ∧ j.attemptCount < j.maxAttempts then
    return some (clearLease { failed with
      status := .failedRetryable
      scheduledAt := retryAt.getD now })
  else
    return some (clearLease { failed with
      status := .failedFinal
      completedAt := some now })

/-- `require_intervention`. -/
def requireIntervention (j : WorkerJob) (workerId leaseToken : Uuid) (now : Time) :
    Except Failure (Option WorkerJob) := do
  if j.ownsLease workerId leaseToken now = false then return none
  return some (clearLease { j with status := .waitingIntervention, updatedAt := now })

/-- `suspend_for_intervention`. -/
def suspendForIntervention (j : WorkerJob) (now : Time) (errorCode : String) :
    Except Failure WorkerJob := do
  require (j.status = .running) (.value "only a running WorkerJob can be suspended")
  return clearLease { j with
    status := .waitingIntervention
    errorCode := some errorCode
    updatedAt := now }

/-- `resolve_intervention`. -/
def resolveIntervention (j : WorkerJob) (now : Time) (requeue confirmedSafeToRetry : Bool) :
    Except Failure WorkerJob := do
  require (j.status = .waitingIntervention)
    (.value "WorkerJob is not waiting for intervention")
  if requeue = false then
    return { j with
      status := .failedFinal
      -- `error_code or …`: an empty text counts as missing
      errorCode := match j.errorCode with
        | some code => if code = "" then some "INTERVENTION_CLOSED" else some code
        | none => some "INTERVENTION_CLOSED"
      completedAt := some now
      updatedAt := now }
  else
    require (j.beforeDeadline now = true) (.value "expired WorkerJob cannot be requeued")
    require (j.attemptCount < j.maxAttempts)
      (.value "WorkerJob attempt limit has been reached")
    require (j.retrySafety = .safeToRetry ∨ confirmedSafeToRetry = true)
      (.value "operator must confirm safe retry after reconciliation")
    return { j with
      retryAuthorizedByOperator := decide (j.retrySafety = .reconciliationRequired)
      status := .queued
      scheduledAt := now
      errorCode := none
      updatedAt := now }

/-- `expire`. -/
def expire (j : WorkerJob) (now : Time) (errorCode : String) : WorkerJob :=
  clearLease { j with
    status := .expired
    errorCode := some errorCode
    completedAt := some now
    updatedAt := now }

/-- `finalize_failure`. -/
def finalizeFailure (j : WorkerJob) (now : Time) (errorCode : String) : WorkerJob :=
  clearLease { j with
    status := .failedFinal
    errorCode := some errorCode
    completedAt := some now
    updatedAt := now }

end WorkerJob

-- ==== attempts

/-- `WorkerJobAttempt`. -/
structure WorkerJobAttempt where
  id : Uuid
  workerJobId : Uuid
  attemptNumber : Int
  workerId : Uuid
  leaseToken : Uuid
  status : WorkerJobAttemptStatus
  startedAt : Time
  finishedAt : Option Time
  errorCode : Option String
  deriving DecidableEq

namespace WorkerJobAttempt

/-- The attempt as it is built when a job is claimed. -/
def start (id workerJobId : Uuid) (attemptNumber : Int) (workerId leaseToken : Uuid)
    (startedAt : Time) : Except Failure WorkerJobAttempt := do
  require (1 ≤ attemptNumber)
    (.value "WorkerJobAttempt requires a positive attempt number")
  return {
    id, workerJobId, attemptNumber, workerId, leaseToken, startedAt
    status := .running
    finishedAt := none
    errorCode := none }

/-- The attempt closed with an outcome. `complete` leaves the error code
as it is; every other outcome records one. -/
def close (a : WorkerJobAttempt) (status : WorkerJobAttemptStatus) (now : Time)
    (errorCode : Option String) : WorkerJobAttempt :=
  { a with
    status := status
    finishedAt := some now
    errorCode := errorCode.or a.errorCode }

end WorkerJobAttempt

-- ==== cancel requests

/-- `WorkerJobCancelRequest`. -/
structure WorkerJobCancelRequest where
  id : Uuid
  workerJobId : Uuid
  generation : Int
  targetAttemptId : Uuid
  targetAttemptNumber : Int
  reasonCode : String
  requestedAt : Time
  status : WorkerJobCancelRequestStatus
  acknowledgedAt : Option Time
  safeCheckpoint : Option String
  supersededAt : Option Time
  supersededReason : Option String
  deriving DecidableEq

namespace WorkerJobCancelRequest

/-- The phases the `safe_checkpoint` column admits. -/
def safeCheckpoints : List String :=
  ["BEFORE_NAVIGATION", "FEED_READY", "ITEM_BATCH", "THREAD_READY",
    "BEFORE_PROFILE_INSPECTION", "PROFILE_READY"]

/-- The CHECK constraints of the `worker_job_cancel_requests` table. -/
def checkConstraints (r : WorkerJobCancelRequest) : Bool :=
  decide (0 < r.generation) && decide (0 < r.targetAttemptNumber) && isBoundedCode r.reasonCode
    && (match r.status with
      | .pending => r.acknowledgedAt.isNone && r.safeCheckpoint.isNone
          && r.supersededAt.isNone && r.supersededReason.isNone
      | .acknowledged => r.acknowledgedAt.isSome && r.safeCheckpoint.isSome
          && r.supersededAt.isNone && r.supersededReason.isNone
      | .superseded => r.acknowledgedAt.isNone && r.safeCheckpoint.isNone
          && r.supersededAt.isSome && r.supersededReason.any isBoundedCode)
    && r.safeCheckpoint.all fun phase => safeCheckpoints.contains phase

/-- A new request: the constructor with its defaults. -/
def create (id workerJobId : Uuid) (generation : Int) (targetAttemptId : Uuid)
    (targetAttemptNumber : Int) (reasonCode : String) (requestedAt : Time) :
    Except Failure WorkerJobCancelRequest := do
  require (1 ≤ generation ∧ 1 ≤ targetAttemptNumber)
    (.value "cancel request generation and target attempt must be positive")
  require (isBoundedCode reasonCode = true)
    (.value "cancel request reason must be a bounded code")
  return {
    id, workerJobId, generation, targetAttemptId, targetAttemptNumber, reasonCode
    requestedAt
    status := .pending
    acknowledgedAt := none
    safeCheckpoint := none
    supersededAt := none
    supersededReason := none }

/-- `acknowledge`. -/
def acknowledge (r : WorkerJobCancelRequest) (now : Time) (safeCheckpoint : String) :
    Except Failure WorkerJobCancelRequest := do
  require (r.status = .pending)
    (.value "only a pending cancel request can be acknowledged")
  require (safeCheckpoint ≠ "" ∧ safeCheckpoint.length ≤ 80)
    (.value "safe checkpoint must be bounded")
  return { r with
    status := .acknowledged
    acknowledgedAt := some now
    safeCheckpoint := some safeCheckpoint }

/-- `supersede`. -/
def supersede (r : WorkerJobCancelRequest) (now : Time) (reason : String) :
    Except Failure WorkerJobCancelRequest := do
  require (r.status = .pending)
    (.value "only a pending cancel request can be superseded")
  require (isBoundedCode reason = true)
    (.value "superseded reason must be a bounded code")
  return { r with
    status := .superseded
    supersededAt := some now
    supersededReason := some reason }

end WorkerJobCancelRequest

-- ==== preemptions

/-- `WorkerJobPreemption`. -/
structure WorkerJobPreemption where
  id : Uuid
  accountId : Uuid
  preemptorWorkerJobId : Uuid
  victimWorkerJobId : Uuid
  createdAt : Time
  status : WorkerJobPreemptionStatus
  resolvedAt : Option Time
  resolutionReason : Option String
  cancelRequestId : Option Uuid
  deriving DecidableEq

namespace WorkerJobPreemption

/-- The CHECK constraints of the `worker_job_preemptions` table. -/
def checkConstraints (p : WorkerJobPreemption) : Bool :=
  decide (p.preemptorWorkerJobId ≠ p.victimWorkerJobId) && match p.status with
      | .waitingForQuiescence => p.resolvedAt.isNone && p.resolutionReason.isNone
      | .satisfied | .superseded =>
        p.resolvedAt.isSome && p.resolutionReason.any isBoundedCode

/-- A new preemption: the constructor with its defaults. -/
def create (id accountId preemptorWorkerJobId victimWorkerJobId : Uuid) (createdAt : Time) :
    Except Failure WorkerJobPreemption := do
  require (preemptorWorkerJobId ≠ victimWorkerJobId)
    (.value "WorkerJob cannot preempt itself")
  return {
    id, accountId, preemptorWorkerJobId, victimWorkerJobId, createdAt
    status := .waitingForQuiescence
    resolvedAt := none
    resolutionReason := none
    cancelRequestId := none }

/-- `_resolve`. -/
def resolve (p : WorkerJobPreemption) (status : WorkerJobPreemptionStatus) (now : Time)
    (reason : String) : Except Failure WorkerJobPreemption := do
  require (p.status = .waitingForQuiescence)
    (.value "only a waiting preemption can be resolved")
  require (isBoundedCode reason = true)
    (.value "preemption resolution reason must be a bounded code")
  return { p with
    status := status
    resolvedAt := some now
    resolutionReason := some reason }

/-- `satisfy`. -/
def satisfy (p : WorkerJobPreemption) (now : Time) (reason : String) :
    Except Failure WorkerJobPreemption :=
  p.resolve .satisfied now reason

/-- `supersede`. -/
def supersede (p : WorkerJobPreemption) (now : Time) (reason : String) :
    Except Failure WorkerJobPreemption :=
  p.resolve .superseded now reason

end WorkerJobPreemption

-- ==== interventions

/-- `WorkerIntervention`. -/
structure WorkerIntervention where
  id : Uuid
  workerJobId : Uuid
  accountId : Option Uuid
  workerId : Option Uuid
  interventionType : String
  status : WorkerInterventionStatus
  detailCode : Option String
  createdAt : Time
  resolvedAt : Option Time
  resolvedBy : Option String
  deriving DecidableEq

/-- A new intervention: the constructor with its defaults. -/
def WorkerIntervention.create (id workerJobId : Uuid) (accountId workerId : Option Uuid)
    (interventionType detailCode : String) (createdAt : Time) :
    Except Failure WorkerIntervention := do
  require (notBlank interventionType = true)
    (.value "intervention_type must not be empty")
  return {
    id, workerJobId, accountId, workerId, interventionType, createdAt
    status := .open
    detailCode := some detailCode
    resolvedAt := none
    resolvedBy := none }

end ThreadsPlatform
