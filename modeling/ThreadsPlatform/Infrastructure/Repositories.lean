/-
The durable state and its repositories.

# Tables

Each table carries its declaration's constraints as a `Schema`: the
primary key, the CHECK constraints over one row, and the UNIQUE
constraints over two. `commands` is keyed by `command_id`, which every
query uses; its surrogate key is the unique one. Foreign keys are not
part of a schema: a write they would refuse is one more write that can
succeed here.

The tables the two services only read (accounts, workers, assignments,
activities) are the `surroundings`, plain lists that may change
arbitrarily between transactions. `claims` is not a table: it is every
`_ExecutionClaim` handed to an API executor so far, the executors' own
memory of what they may still present.

# Queries

Reads follow the SELECT statements: the WHERE clause as a filter, the
ORDER BY as an insertion sort, LIMIT as a `take`. Where the ORDER BY
leaves ties (`list_expired_for_update`) the order of the tied rows is
an argument.
-/
import ThreadsPlatform.Relational.Table
import ThreadsPlatform.Domain.Capabilities

namespace ThreadsPlatform

open Relational

-- ==== schemas

/-- `worker_jobs`. -/
def workerJobs : Schema Uuid WorkerJob where
  key j := j.id
  check j := j.checkConstraints
  clash a b := a.commandId.isSome && decide (a.commandId = b.commandId)

/-- `worker_job_attempts`. -/
def workerJobAttempts : Schema Uuid WorkerJobAttempt where
  key a := a.id
  check _ := true
  clash a b :=
    (decide (a.workerJobId = b.workerJobId) && decide (a.attemptNumber = b.attemptNumber))
      || decide (a.leaseToken = b.leaseToken)

/-- `worker_job_cancel_requests`. -/
def workerJobCancelRequests : Schema Uuid WorkerJobCancelRequest where
  key r := r.id
  check r := r.checkConstraints
  clash a b := decide (a.workerJobId = b.workerJobId) && (decide (a.generation = b.generation)
      || (decide (a.status = .pending) && decide (b.status = .pending)
        && decide (a.targetAttemptId = b.targetAttemptId)))

/-- `worker_job_preemptions`. -/
def workerJobPreemptions : Schema Uuid WorkerJobPreemption where
  key p := p.id
  check p := p.checkConstraints
  clash a b := decide (a.preemptorWorkerJobId = b.preemptorWorkerJobId)
    && decide (a.victimWorkerJobId = b.victimWorkerJobId)

/-- `worker_interventions`. -/
def workerInterventions : Schema Uuid WorkerIntervention where
  key i := i.id
  check _ := true
  clash a b := decide (a.status = .open) && decide (b.status = .open)
    && decide (a.workerJobId = b.workerJobId)

/-- `commands`. -/
def commands : Schema String Command where
  key c := c.commandId
  check c := c.checkConstraints
  clash a b := decide (a.id = b.id)

/-- `command_attempts`. -/
def commandAttempts : Schema Uuid CommandAttempt where
  key a := a.id
  check _ := true
  clash a b := decide (a.commandId = b.commandId) && decide (a.attemptNumber = b.attemptNumber)

/-- `command_route_decisions`. -/
def commandRouteDecisions : Schema Uuid CapabilityRouteDecision where
  key d := d.id
  check d := d.checkConstraints
  clash _ _ := false

/-- `account_execution_leases`. -/
def accountExecutionLeases : Schema Uuid AccountExecutionLease where
  key l := l.accountId
  check l := l.checkConstraints
  clash _ _ := false

/-- `outbox_events`. -/
def outboxEvents : Schema Uuid OutboxEvent where
  key e := e.id
  check _ := true
  clash _ _ := false

/-- `integration_deliveries`. -/
def integrationDeliveries : Schema Uuid IntegrationDelivery where
  key d := d.id
  check _ := true
  clash a b := decide (a.eventId = b.eventId) && decide (a.destination = b.destination)

/-- `posts` and `replies`. -/
def contentRows : Schema Uuid ContentRow where
  key r := r.id
  check _ := true
  clash a b := decide (a.accountId = b.accountId) && decide (a.externalId = b.externalId)

/-- `sync_states`. -/
def syncStates : Schema Uuid SyncState where
  key s := s.id
  check _ := true
  clash a b := decide (a.accountId = b.accountId) && decide (a.syncType = b.syncType)

-- ==== state

/-- What the services only read. -/
structure Surroundings where
  accounts : List ThreadsAccount
  workers : List WorkerNode
  capabilities : List WorkerCapability
  assignments : List AccountWorkerAssignment
  activities : List ScheduledActivity
  /-- The command types with a local API handler. -/
  handlers : List String

/-- `_ExecutionClaim`: the part of its Command an executor uses, the
lease token, the attempt, and the account fence. -/
structure ExecutionClaim where
  commandId : String
  accountId : Uuid
  leaseToken : Uuid
  attemptNumber : Int
  attemptId : Uuid
  accountCoordinationGeneration : Option Int
  deriving DecidableEq

/-- The state the transactions act on. -/
structure State where
  jobs : Table workerJobs
  attempts : Table workerJobAttempts
  cancelRequests : Table workerJobCancelRequests
  preemptions : Table workerJobPreemptions
  interventions : Table workerInterventions
  commands : Table commands
  commandAttempts : Table commandAttempts
  routeDecisions : Table commandRouteDecisions
  accountLeases : Table accountExecutionLeases
  outboxEvents : Table outboxEvents
  deliveries : Table integrationDeliveries
  posts : Table contentRows
  replies : Table contentRows
  syncStates : Table syncStates
  surroundings : Surroundings
  claims : List ExecutionClaim

namespace State

/-- No rows yet, in the given surroundings. -/
def initial (surroundings : Surroundings) : State where
  jobs := .empty _
  attempts := .empty _
  cancelRequests := .empty _
  preemptions := .empty _
  interventions := .empty _
  commands := .empty _
  commandAttempts := .empty _
  routeDecisions := .empty _
  accountLeases := .empty _
  outboxEvents := .empty _
  deliveries := .empty _
  posts := .empty _
  replies := .empty _
  syncStates := .empty _
  surroundings := surroundings
  claims := []

variable (s : State)

-- ==== surroundings

/-- `accounts.get`. -/
def account? (accountId : Uuid) : Option ThreadsAccount :=
  s.surroundings.accounts.find? fun a => decide (a.id = accountId)

/-- `workers.get`. -/
def worker? (workerId : Uuid) : Option WorkerNode :=
  s.surroundings.workers.find? fun w => decide (w.workerId = workerId)

/-- `worker_capabilities.has`. -/
def hasCapability (workerId : Uuid) (name : String) (version : Int) : Bool :=
  s.surroundings.capabilities.any fun c =>
    decide (c.workerId = workerId) && decide (c.name = name) && decide (c.version = version)

/-- `assignments.get_active`. -/
def activeAssignment? (accountId : Uuid) : Option AccountWorkerAssignment :=
  s.surroundings.assignments.find? fun a => decide (a.accountId = accountId)

/-- The worker holds an active assignment for the account. -/
def hasAssignment (accountId : Option Uuid) (workerId : Uuid) : Bool :=
  s.surroundings.assignments.any fun a =>
    decide (some a.accountId = accountId) && decide (a.workerId = workerId)

-- ==== jobs

end State

/-- The account-affine browser jobs, which share one browser profile. -/
def WorkerJob.isBrowserProfile (j : WorkerJob) : Bool :=
  j.accountId.isSome && j.accountAffinityRequired && startsWith j.capabilityName "threads.browser."

/-- The claim order: priority descending, schedule, creation, id. -/
def WorkerJob.claimsBefore (a b : WorkerJob) : Prop :=
  b.priority < a.priority ∨ (a.priority = b.priority ∧ (a.scheduledAt < b.scheduledAt
    ∨ (a.scheduledAt = b.scheduledAt ∧ (a.createdAt < b.createdAt
      ∨ (a.createdAt = b.createdAt ∧ a.id ≤ b.id)))))

instance : DecidableRel WorkerJob.claimsBefore :=
  fun _ _ => inferInstanceAs (Decidable (_ ∨ _))

/-- Creation order, then id. -/
def WorkerJob.createdBefore (a b : WorkerJob) : Prop :=
  a.createdAt < b.createdAt ∨ (a.createdAt = b.createdAt ∧ a.id ≤ b.id)

instance : DecidableRel WorkerJob.createdBefore :=
  fun _ _ => inferInstanceAs (Decidable (_ ∨ _))

/-- Deadline ascending with missing deadlines last, then update time,
then the order the rows happen to lie in. -/
def WorkerJob.expiresBefore (a : WorkerJob) (rowOrder : Uuid → Nat) (b : WorkerJob) : Bool :=
  let tied := decide (a.updatedAt < b.updatedAt)
    || (decide (a.updatedAt = b.updatedAt) && decide (rowOrder a.id ≤ rowOrder b.id))
  match a.deadlineAt, b.deadlineAt with
  | some d, some e => decide (d < e) || (decide (d = e) && tied)
  | some _, none => true
  | none, some _ => false
  | none, none => tied

namespace State

variable (s : State)

/-- `worker_jobs.get_by_command_id`. -/
def jobForCommand? (commandId : String) : Option WorkerJob :=
  s.jobs.rows.find? fun j => decide (j.commandId = some commandId)

/-- The unexpired RUNNING jobs a worker holds. -/
def activeCount (workerId : Uuid) (now : Time) : Int :=
  (s.jobs.rows.filter fun j => decide (j.leaseWorkerId = some workerId)
    && decide (j.status = .running)
    && j.leaseExpiresAt.any fun e => decide (now < e)).length

/-- The WHERE clause of `list_claimable`, without its two optional
filters. -/
def claimable (worker : WorkerNode) (now : Time) (j : WorkerJob) : Bool :=
  (((decide (j.status = .queued) || decide (j.status = .failedRetryable))
      && decide (j.scheduledAt ≤ now))
    || (decide (j.status = .running) && j.leaseExpiresAt.any fun e => decide (e ≤ now)))
  && j.beforeDeadline now
  && decide (j.attemptCount < j.maxAttempts)
  && (decide (j.attemptCount = 0) || decide (j.retrySafety = .safeToRetry)
    || j.retryAuthorizedByOperator)
  && (decide (j.assignedWorkerId = none) || decide (j.assignedWorkerId = some worker.workerId))
  && (!j.accountAffinityRequired || s.hasAssignment j.accountId worker.workerId)
  && s.hasCapability worker.workerId j.capabilityName j.capabilityVersion

/-- `list_claimable`, with its default limit of 50; `profileOf` is the
account of a browser-profile-only listing. -/
def listClaimable (worker : WorkerNode) (now : Time) (profileOf : Option Uuid) :
    List WorkerJob :=
  if worker.present now = false ∨ worker.maxConcurrentJobs ≤ s.activeCount worker.workerId now
  then []
  else
    ((s.jobs.rows.filter fun j => s.claimable worker now j
        && profileOf.all fun a => decide (j.accountId = some a) && j.accountAffinityRequired
          && startsWith j.capabilityName "threads.browser.").insertionSort
      WorkerJob.claimsBefore).take 50

/-- `list_running_browser_for_account`. -/
def listRunningBrowserForAccount (accountId : Uuid) : List WorkerJob :=
  (s.jobs.rows.filter fun j => decide (j.accountId = some accountId)
    && j.accountAffinityRequired && startsWith j.capabilityName "threads.browser."
    && decide (j.status = .running)).insertionSort WorkerJob.createdBefore

/-- The WHERE clause of `list_expired_for_update`. -/
def expiredForUpdate (now : Time) (j : WorkerJob) : Bool :=
  (decide (j.status = .queued) || decide (j.status = .failedRetryable)
    || decide (j.status = .running) || decide (j.status = .waitingIntervention))
  && ((j.deadlineAt.any fun d => decide (d ≤ now))
    || ((decide (j.status = .queued) || decide (j.status = .failedRetryable))
      && decide (j.maxAttempts ≤ j.attemptCount))
    || (decide (j.status = .running) && (j.leaseExpiresAt.any fun e => decide (e ≤ now))
      && (decide (j.retrySafety = .reconciliationRequired)
        || decide (j.maxAttempts ≤ j.attemptCount))))

/-- `list_expired_for_update`. -/
def listExpiredForUpdate (now : Time) (limit : Nat) (rowOrder : Uuid → Nat) :
    List WorkerJob :=
  ((s.jobs.rows.filter (expiredForUpdate now)).insertionSort
    fun a b => a.expiresBefore rowOrder b = true).take limit

/-- `list_for_reconcile`: the jobs a reconnecting worker is told of. -/
def listForReconcile (workerId : Uuid) (now : Time) : List WorkerJob := (s.jobs.rows.filter fun j =>
    (decide (j.status = .running) && decide (j.leaseWorkerId = some workerId))
    || (decide (j.status = .waitingIntervention) && decide (j.assignedWorkerId = some workerId))
    || ((decide (j.status = .queued) || decide (j.status = .failedRetryable))
      && decide (j.scheduledAt ≤ now) && j.beforeDeadline now
      && (decide (j.assignedWorkerId = some workerId)
        || (decide (j.assignedWorkerId = none) && !j.accountAffinityRequired))
      && (!j.accountAffinityRequired || s.hasAssignment j.accountId workerId)
      && s.hasCapability workerId j.capabilityName j.capabilityVersion)).insertionSort
    WorkerJob.claimsBefore

-- ==== attempts, requests

/-- `worker_job_attempts.get_running_for_update`. -/
def runningAttempt? (jobId : Uuid) : Option WorkerJobAttempt :=
  firstBy (fun a b => b.attemptNumber ≤ a.attemptNumber)
    (s.attempts.rows.filter fun a => decide (a.workerJobId = jobId) && decide (a.status = .running))

/-- `worker_job_cancel_requests.get_pending_for_job`. -/
def pendingFor? (jobId : Uuid) : Option WorkerJobCancelRequest :=
  firstBy (fun a b => b.generation ≤ a.generation)
    (s.cancelRequests.rows.filter fun r => decide (r.workerJobId = jobId)
      && decide (r.status = .pending))

/-- `latest_generation`; zero when the job has no request. -/
def latestGeneration (jobId : Uuid) : Int :=
  ((s.cancelRequests.rows.filter fun r => decide (r.workerJobId = jobId)).map
    (·.generation)).foldl max 0

/-- Creation order, then id. -/
def preemptionBefore (p q : WorkerJobPreemption) : Prop :=
  p.createdAt < q.createdAt ∨ (p.createdAt = q.createdAt ∧ p.id ≤ q.id)

instance : DecidableRel preemptionBefore :=
  fun _ _ => inferInstanceAs (Decidable (_ ∨ _))

/-- `_list_waiting`. -/
def listWaiting (which : WorkerJobPreemption → Bool) : List WorkerJobPreemption :=
  (s.preemptions.rows.filter fun p => which p
    && decide (p.status = .waitingForQuiescence)).insertionSort preemptionBefore

/-- `list_waiting_for_account`. -/
def listWaitingForAccount (accountId : Uuid) : List WorkerJobPreemption :=
  s.listWaiting fun p => decide (p.accountId = accountId)

/-- `list_waiting_for_victim`. -/
def listWaitingForVictim (jobId : Uuid) : List WorkerJobPreemption :=
  s.listWaiting fun p => decide (p.victimWorkerJobId = jobId)

/-- `list_waiting_for_preemptor`. -/
def listWaitingForPreemptor (jobId : Uuid) : List WorkerJobPreemption :=
  s.listWaiting fun p => decide (p.preemptorWorkerJobId = jobId)

/-- The preemption of a pair, if it is stored. -/
def preemptionOfPair? (preemptorId victimId : Uuid) : Option WorkerJobPreemption :=
  s.preemptions.rows.find? fun p => decide (p.preemptorWorkerJobId = preemptorId)
    && decide (p.victimWorkerJobId = victimId)

/-- `worker_interventions.get_open_for_job`. -/
def openIntervention? (jobId : Uuid) : Option WorkerIntervention :=
  s.interventions.rows.find? fun i => decide (i.workerJobId = jobId) && decide (i.status = .open)

-- ==== commands

/-- The WHERE clause of `get_next_ready_for_update`. -/
def readyForUpdate (now : Time) (c : Command) : Bool :=
  decide (c.status = .received)
    || (decide (c.status = .failedRetryable) && c.nextRetryAt.any fun r => decide (r ≤ now))
    || (decide (c.status = .processing) && c.executionLeaseExpiresAt.all fun e => decide (e ≤ now))
    || (decide (c.status = .waitingExecution) && (s.jobForCommand? c.commandId).isNone)

/-- Arrival order, then surrogate key. -/
def commandBefore (a b : Command) : Prop :=
  a.receivedAt < b.receivedAt ∨ (a.receivedAt = b.receivedAt ∧ a.id ≤ b.id)

instance : DecidableRel commandBefore :=
  fun _ _ => inferInstanceAs (Decidable (_ ∨ _))

/-- `get_next_ready_for_update`. -/
def nextReady? (now : Time) (excluded : List String) : Option Command :=
  firstBy commandBefore (s.commands.rows.filter fun c => s.readyForUpdate now c
    && !excluded.contains c.commandId)

/-- `get_processing_for_command_for_update`. -/
def processingAttempt? (commandId : String) : Option CommandAttempt :=
  firstBy (fun a b => b.attemptNumber ≤ a.attemptNumber)
    (s.commandAttempts.rows.filter fun a => decide (a.commandId = commandId)
      && decide (a.status = .processing))

/-- `count_for_command`. -/
def attemptCountFor (commandId : String) : Int :=
  (s.commandAttempts.rows.filter fun a => decide (a.commandId = commandId)).length

/-- Latest first: attempt count, creation, id, all descending. -/
def decidedAfter (a b : CapabilityRouteDecision) : Prop :=
  b.attemptCount < a.attemptCount ∨ (a.attemptCount = b.attemptCount
    ∧ (b.createdAt < a.createdAt ∨ (a.createdAt = b.createdAt ∧ b.id ≤ a.id)))

instance : DecidableRel decidedAfter :=
  fun _ _ => inferInstanceAs (Decidable (_ ∨ _))

/-- `get_latest_execution_for_command`. -/
def latestExecution? (commandId : String) : Option CapabilityRouteDecision :=
  firstBy decidedAfter (s.routeDecisions.rows.filter fun d =>
    decide (d.commandId = commandId) && d.executor.isSome)

end State

-- ==== writes

section Writes

variable {κ ρ : Type} [DecidableEq κ] {S : Schema κ ρ}

/-- INSERT, flushed: a refused row is an `IntegrityError`. -/
def addRow (t : Table S) (r : ρ) : Except Failure (Table S) :=
  orThrow (t.insert r) .integrity

/-- UPDATE by primary key, flushed: a missing row is a `LookupError`, a
refused one an `IntegrityError`. -/
def updateRow (t : Table S) (r : ρ) : Except Failure (Table S) :=
  orThrow (t.update r) (if (t.get? (S.key r)).isSome then .integrity else .lookup)

end Writes

namespace State

variable (s : State)

-- ---- account execution leases

/-- `try_acquire`: the new fencing generation, or `none` while another
owner's lease is unexpired. A missing row is inserted expired at
generation 0 and so taken over at once. -/
def tryAcquire (accountId : Uuid) (ownerType : AccountExecutionOwnerType) (ownerId : String)
    (operationClass : OperationClass) (now leaseExpiresAt : Time) :
    Except Failure (Option Int × State) := do
  require (operationClass ≠ .read)
    (.value "READ operations do not acquire account execution leases")
  require (notBlank ownerId = true ∧ now < leaseExpiresAt)
    (.value "account execution lease owner and future expiry are required")
  let taken (generation : Int) : AccountExecutionLease :=
    { accountId, ownerType, ownerId, operationClass, leaseExpiresAt
      fencingGeneration := generation
      updatedAt := now }
  match s.accountLeases.get? accountId with
  | none =>
    let accountLeases ← addRow s.accountLeases (taken 1)
    return (some 1, { s with accountLeases })
  | some row =>
    if now < row.leaseExpiresAt then return (none, s)
    let accountLeases ← updateRow s.accountLeases (taken (row.fencingGeneration + 1))
    return (some (row.fencingGeneration + 1), { s with accountLeases })

/-- `get_active`: the account's lease is unexpired. -/
def leaseActive (accountId : Uuid) (now : Time) : Bool :=
  (s.accountLeases.get? accountId).any fun l => decide (now < l.leaseExpiresAt)

/-- `owns`. -/
def leaseOwned (accountId : Uuid) (ownerType : AccountExecutionOwnerType) (ownerId : String)
    (fencingGeneration : Int) (now : Time) : Bool :=
  (s.accountLeases.get? accountId).any fun l =>
    l.heldBy ownerType ownerId fencingGeneration now

/-- The UPDATE `renew` and `release` share: move the expiry of a lease
this owner holds; answers whether it did. -/
def moveLeaseExpiry (accountId : Uuid) (ownerType : AccountExecutionOwnerType)
    (ownerId : String) (fencingGeneration : Int) (now leaseExpiresAt : Time) :
    Except Failure (Bool × State) :=
  match s.accountLeases.get? accountId with
  | none => return (false, s)
  | some row =>
    if row.heldBy ownerType ownerId fencingGeneration now = false then return (false, s)
    else do
      let accountLeases ← updateRow s.accountLeases
        { row with leaseExpiresAt := leaseExpiresAt, updatedAt := now }
      return (true, { s with accountLeases })

/-- `renew`. -/
def renewLease (accountId : Uuid) (ownerType : AccountExecutionOwnerType)
    (ownerId : String) (fencingGeneration : Int) (now leaseExpiresAt : Time) :
    Except Failure (Bool × State) :=
  s.moveLeaseExpiry accountId ownerType ownerId fencingGeneration now leaseExpiresAt

/-- `release`. -/
def releaseLease (accountId : Uuid) (ownerType : AccountExecutionOwnerType)
    (ownerId : String) (fencingGeneration : Int) (now : Time) :
    Except Failure (Bool × State) :=
  s.moveLeaseExpiry accountId ownerType ownerId fencingGeneration now now

-- ---- job claims

/-- The attempt a lapsed lease leaves behind is closed as ABANDONED. -/
def abandonRunningAttempt (jobId : Uuid) (now : Time) : Except Failure State :=
  match s.runningAttempt? jobId with
  | none => return s
  | some previous => do
      let attempts ← updateRow s.attempts
        (previous.close .abandoned now (some "LEASE_EXPIRED"))
      return { s with attempts }

/-- `worker_jobs.claim`: `none` where the stored job refuses. -/
def claimJob (jobId workerId : Uuid) (now leaseExpiresAt : Time) (leaseToken : Uuid)
    (accountCoordinationGeneration : Option Int) :
    Except Failure (Option WorkerJob × State) :=
  match s.jobs.get? jobId with
  | none => return (none, s)
  | some stored =>
    match stored.claim workerId now leaseExpiresAt leaseToken
        accountCoordinationGeneration with
    | .error _ => return (none, s)
    | .ok claimed => do
        let s ← if stored.status = .running then s.abandonRunningAttempt stored.id now
          else pure s
        let jobs ← updateRow s.jobs claimed
        return (some claimed, { s with jobs })

-- ---- execution content

/-- `posts.add_if_absent` and `replies.add_if_absent`: the external
identity decides. -/
def addContentIfAbsent (rows : Table contentRows) (row : ContentRow) :
    Except Failure (Table contentRows) :=
  if rows.rows.any (fun r => decide (r.accountId = row.accountId)
      && decide (r.externalId = row.externalId))
  then return rows
  else addRow rows row

/-- `advance_if_current`. -/
def advanceIfCurrent (rows : Table ThreadsPlatform.syncStates) (update : SyncStateUpdate) :
    Except Failure (Bool × Table ThreadsPlatform.syncStates) :=
  let state := update.state
  match rows.rows.find? (fun r => decide (r.accountId = state.accountId)
      && decide (r.syncType = state.syncType)) with
  | some row =>
    if row.cursor = update.expectedCursor then do
      let rows ← updateRow rows { row with
        cursor := state.cursor
        lastSyncedAt := state.lastSyncedAt
        updatedAt := state.updatedAt }
      return (true, rows)
    else return (false, rows)
  | none =>
    if update.expectedCursor.isSome then return (false, rows)
    else do
      let rows ← addRow rows state
      return (true, rows)

end State

end ThreadsPlatform
