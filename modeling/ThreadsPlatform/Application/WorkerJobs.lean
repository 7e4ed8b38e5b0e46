/-
`WorkerJobService`: every operation as one transaction on the state.

An operation is a straight line of reads, checks and writes in the
source's order, with the state passed explicitly from one write to the
next. It answers a value and the state afterwards, or raises; a raised
error rolls everything back (`Relational.commit`).

`uuid4()` is an argument: `Draws` holds the identifiers one transaction
draws, by what they are for. Nothing is assumed of them here; a repeated
identifier meets the table constraints like any other row.

Logging, tracing and worker notifications leave no trace in the state
and are not modelled.
-/
import Mathlib.Data.List.Dedup
import ThreadsPlatform.Infrastructure.Repositories

namespace ThreadsPlatform

open Relational

-- ==== settings

/-- The constructor arguments of the two services, with what the
constructors check, and the library function they depend on. -/
structure Settings where
  /-- `urllib.parse.urlsplit`, as document validation uses it. -/
  urlsplit : String → UrlVerdict
  -- `WorkerJobService`
  workerPolicies : Policies
  leaseDuration : Duration
  retryDelay : Duration
  resultDeliveryLifetime : Duration
  workerCrmDestination : String
  -- `CommandRuntime`
  policies : Policies
  retryPolicy : RetryPolicy
  maxCommandLifetime : Duration
  deliveryLifetime : Duration
  executionLeaseDuration : Duration
  crmDestination : String
  workerJobService : Bool
  leaseDuration_pos : 0 < leaseDuration
  retryDelay_nonneg : 0 ≤ retryDelay
  maxCommandLifetime_pos : 0 < maxCommandLifetime
  deliveryLifetime_pos : 0 < deliveryLifetime
  executionLeaseDuration_pos : 0 < executionLeaseDuration

/-- The identifiers one transaction draws. -/
structure Draws where
  jobId : Uuid
  leaseToken : Uuid
  attemptId : Uuid
  /-- By job. -/
  cancelRequestId : Uuid → Uuid
  /-- By victim. -/
  preemptionId : Uuid → Uuid
  /-- By job. -/
  interventionId : Uuid → Uuid
  commandRowId : Uuid
  routeDecisionId : Uuid
  deferredRouteDecisionId : Uuid
  /-- By `command_id`. -/
  eventId : String → Uuid
  /-- By `command_id`. -/
  deliveryId : String → Uuid
  /-- How tied rows of `list_expired_for_update` lie. -/
  rowOrder : Uuid → Nat

/-- A job as the service answers it, with the cancel request its worker
must act on. -/
structure JobAnswer where
  job : WorkerJob
  pendingCancelRequest : Option WorkerJobCancelRequest

-- ==== command results

/-- `enqueue_command_result`. -/
def enqueueCommandResult (s : State) (c : Command) (now : Time) (deliveryLifetime : Duration)
    (crmDestination : String) (d : Draws) : Except Failure State := do
  require (notBlank c.commandId = true) (.value "outbox identity fields must not be empty")
  require (notBlank crmDestination = true)
    (.value "delivery destination and attempt count are invalid")
  let event := commandResultEvent (d.eventId c.commandId) c now
  let outboxEvents ← addRow s.outboxEvents event
  let deliveries ← addRow s.deliveries
    (commandResultDelivery (d.deliveryId c.commandId) event.id crmDestination now
      deliveryLifetime)
  return { s with outboxEvents, deliveries }

namespace WorkerJobService

variable (cfg : Settings) (d : Draws) (now : Time)

-- ==== helpers

/-- `_locked_job`. -/
def lockedJob (s : State) (jobId : Uuid) : Except Failure WorkerJob :=
  orThrow (s.jobs.get? jobId) (.control .workerJobNotFound)

/-- `_running_attempt`. -/
def runningAttempt (s : State) (jobId : Uuid) : Except Failure WorkerJobAttempt :=
  orThrow (s.runningAttempt? jobId) (.control .workerJobAttemptMissing)

/-- `_eligible`. -/
def eligible (worker : WorkerNode) : Bool :=
  worker.present now
    && isWorkerProtocolSupported worker.protocolVersion worker.capabilitiesSchemaVersion

/-- `_ensure_capability_not_blocked`. -/
def ensureCapabilityNotBlocked (capabilityName : String) : Except Failure Unit :=
  match (cfg.workerPolicies.policyFor capabilityName).bind (·.blockedReasonCode) with
  | some reason => throw (.control (.capabilityBlocked reason))
  | none => pure ()

/-- `_owns_account_coordination`. -/
def ownsAccountCoordination (s : State) (j : WorkerJob) : Bool :=
  match j.accountId with
  | none => true
  | some accountId =>
    if j.operationClass.requiresExclusiveAccountCoordination = false then true
    else match j.accountCoordinationGeneration with
      | none => false
      | some generation =>
        s.leaseOwned accountId .workerJob (Uuid.str j.id) generation now

/-- `_renew_account_coordination`. -/
def renewAccountCoordination (s : State) (j : WorkerJob) : Except Failure (Bool × State) :=
  match j.accountId with
  | none => return (true, s)
  | some accountId =>
    if j.operationClass.requiresExclusiveAccountCoordination = false then return (true, s)
    else match j.accountCoordinationGeneration with
      | none => return (false, s)
      | some generation =>
        s.renewLease accountId .workerJob (Uuid.str j.id) generation now
          (j.leaseExpiresAt.getD now)

/-- `_release_account_coordination`; the answer of `release` is not
looked at. -/
def releaseAccountCoordination (s : State) (j : WorkerJob) (generation : Option Int) :
    Except Failure State :=
  match j.accountId, generation with
  | some accountId, some generation => do
      let (_, s) ← s.releaseLease accountId .workerJob (Uuid.str j.id) generation now
      return s
  | _, _ => return s

/-- `_command_for_job`. -/
def commandForJob (s : State) (j : WorkerJob) : Except Failure (Option Command) :=
  match j.commandId with
  | none => return none
  | some commandId => do
      let command ← orThrow (s.commands.get? commandId)
        (.control .workerJobCommandNotFound)
      return some command

/-- `_set_command_waiting_intervention`. -/
def setCommandWaitingIntervention (s : State) (j : WorkerJob) : Except Failure State := do
  match ← commandForJob s j with
  | none => return s
  | some command =>
    if command.status = .waitingExecution then
      let command ← command.transition .waitingIntervention now none none none
      let commands ← updateRow s.commands command
      return { s with commands }
    else
      require (command.status = .waitingIntervention) (.control .commandStateConflict)
      return s

/-- `_set_command_waiting_execution`. -/
def setCommandWaitingExecution (s : State) (j : WorkerJob) : Except Failure State := do
  match ← commandForJob s j with
  | none => return s
  | some command =>
    if command.status = .waitingIntervention then
      let command ← command.transition .waitingExecution now none none none
      let commands ← updateRow s.commands command
      return { s with commands }
    else
      require (command.status = .waitingExecution) (.control .commandStateConflict)
      return s

/-- `_finalize_command`. -/
def finalizeCommand (s : State) (j : WorkerJob) (target : CommandStatus)
    (result : Option Document) (errorCode : Option String) : Except Failure State := do
  match ← commandForJob s j with
  | none => return s
  | some command =>
    require (command.status = .waitingExecution ∨ command.status = .waitingIntervention)
      (.control .commandStateConflict)
    let command ← command.transition target now errorCode result none
    let commands ← updateRow s.commands command
    enqueueCommandResult { s with commands } command now cfg.resultDeliveryLifetime
      cfg.workerCrmDestination d

/-- `_add_intervention`. -/
def addIntervention (s : State) (j : WorkerJob) (workerId : Option Uuid)
    (interventionType detailCode : String) : Except Failure State := do
  match s.openIntervention? j.id with
  | some _ => return s
  | none =>
    let intervention ← WorkerIntervention.create (d.interventionId j.id) j.id j.accountId
      workerId interventionType detailCode now
    let interventions ← addRow s.interventions intervention
    return { s with interventions }

-- ---- cancel requests, preemptions

/-- `_attach_pending_cancel`: the request the job's worker is told of. -/
def attachPendingCancel (s : State) (j : WorkerJob) : Option WorkerJobCancelRequest :=
  if j.status = .running ∧ j.leaseExpiresAt.any (fun e => decide (now < e)) = true then
    match s.pendingFor? j.id, s.runningAttempt? j.id with
    | some request, some attempt =>
      if request.targetAttemptId = attempt.id ∧ request.targetAttemptNumber = attempt.attemptNumber
          ∧ attempt.attemptNumber = j.attemptCount
          ∧ some attempt.workerId = j.leaseWorkerId
          ∧ some attempt.leaseToken = j.leaseToken then some request
      else none
    | _, _ => none
  else none

/-- `_supersede_pending_cancel`. -/
def supersedePendingCancel (s : State) (jobId : Uuid) (reason : String) :
    Except Failure State :=
  match s.pendingFor? jobId with
  | none => return s
  | some request => do
      let request ← request.supersede now reason
      let cancelRequests ← updateRow s.cancelRequests request
      return { s with cancelRequests }

/-- `_satisfy_preemptions_for_victim`. -/
def satisfyPreemptionsForVictim (s : State) (jobId : Uuid) (reason : String) :
    Except Failure State :=
  (s.listWaitingForVictim jobId).foldlM (fun s preemption => do
    let preemption ← preemption.satisfy now reason
    let preemptions ← updateRow s.preemptions preemption
    return { s with preemptions }) s

/-- `_supersede_preemptions_for_preemptor`: the preemptions end, and a
victim no preemption waits for any more is not cancelled either. -/
def supersedePreemptionsForPreemptor (s : State) (jobId : Uuid) : Except Failure State := do
  let ended := s.listWaitingForPreemptor jobId
  let s ← ended.foldlM (fun s preemption => do
    let preemption ← preemption.supersede now "PREEMPTOR_ENDED"
    let preemptions ← updateRow s.preemptions preemption
    return { s with preemptions }) s
  (ended.map (·.victimWorkerJobId)).dedup.foldlM (fun s victimId =>
    if (s.listWaitingForVictim victimId).isEmpty then
      supersedePendingCancel now s victimId "PREEMPTION_NO_LONGER_PENDING"
    else return s) s

/-- The activity whose deterministic Command this is: `command_id` is
`activity:` followed by the canonical text of the activity's id. -/
def activityOfCommand? (s : State) (commandId : Option String) : Option ScheduledActivity :=
  s.surroundings.activities.find? fun a =>
    decide (commandId = some ("activity:" ++ Uuid.str a.id))

/-- `_validate_materialized_activity_link`. -/
def validateMaterializedActivityLink (s : State) (j : WorkerJob) : Except Failure Unit := do
  let refusal := Failure.control .workerJobNotMaterializedActivity
  let activity ← orThrow (activityOfCommand? s j.commandId) refusal
  let command ← orThrow (j.commandId.bind s.commands.get?) refusal
  require (activity.materialized = true ∧ activity.commandId = j.commandId
      ∧ some activity.accountId = j.accountId
      ∧ activity.activityTypeSnapshot = j.capabilityName
      ∧ activity.workerJobPriority = j.priority
      ∧ command.commandType = j.capabilityName
      ∧ some command.accountId = j.accountId
      ∧ command.priority = j.priority
      ∧ command.status = .waitingExecution) refusal

/-- `_validate_cancel_target`. -/
def validateCancelTarget (s : State) (j : WorkerJob) : Except Failure WorkerJobAttempt := do
  require (j.status = .running) (.control .workerJobNotRunning)
  require (j.preemptible = true) (.control .workerJobNotPreemptible)
  require (j.capabilityVersion = 1
      ∧ ((cancellablePhases j.capabilityName).any fun phases => !phases.isEmpty) = true
      ∧ j.operationClass = .read)
    (.control .workerJobCancellationUnsupported)
  require (j.leaseWorkerId.any (fun w => j.leaseToken.any fun t => j.ownsLease w t now) = true)
    (.control .workerJobLeaseLost)
  let attempt ← runningAttempt s j.id
  require (attempt.attemptNumber = j.attemptCount ∧ some attempt.workerId = j.leaseWorkerId
      ∧ some attempt.leaseToken = j.leaseToken)
    (.control .workerJobAttemptStale)
  validateMaterializedActivityLink s j
  return attempt

/-- `_request_cancel_in_transaction`. -/
def requestCancelInTransaction (s : State) (j : WorkerJob) (reasonCode : String) :
    Except Failure (WorkerJobCancelRequest × State) := do
  require (isBoundedCode reasonCode = true) (.control .cancelReasonInvalid)
  let attempt ← validateCancelTarget now s j
  match s.pendingFor? j.id with
  | none => add s attempt
  | some pending =>
    if pending.targetAttemptId = attempt.id then return (pending, s)
    let pending ← pending.supersede now "TARGET_ATTEMPT_ENDED"
    let cancelRequests ← updateRow s.cancelRequests pending
    add { s with cancelRequests } attempt
where
  /-- A new request against the running attempt, of the next generation. -/
  add (s : State) (attempt : WorkerJobAttempt) :
      Except Failure (WorkerJobCancelRequest × State) := do
    let request ← WorkerJobCancelRequest.create (d.cancelRequestId j.id) j.id
      (s.latestGeneration j.id + 1) attempt.id attempt.attemptNumber reasonCode now
    let cancelRequests ← addRow s.cancelRequests request
    return (request, { s with cancelRequests })

/-- A cancellation asked for by a preemption: `none` where the service
catches a `WorkerJobControlError` and goes on without one. -/
def requestPreemptionCancel (s : State) (j : WorkerJob) :
    Except Failure (Option WorkerJobCancelRequest × State) :=
  match requestCancelInTransaction d now s j "HIGH_PRIORITY_PREEMPTION" with
  | .ok (request, s) => .ok (some request, s)
  | .error (.control _) => .ok (none, s)
  | .error e => .error e

/-- A preemption pointed at the request that will end its victim. -/
def linkCancelRequest (s : State) (preemption : WorkerJobPreemption)
    (request : WorkerJobCancelRequest) : Except Failure State :=
  if preemption.cancelRequestId = some request.id then return s
  else do
    let preemptions ← updateRow s.preemptions
      { preemption with cancelRequestId := some request.id }
    return { s with preemptions }

/-- `worker_job_preemptions.add_if_absent`. -/
def addPreemptionIfAbsent (s : State) (preemption : WorkerJobPreemption) :
    Except Failure (WorkerJobPreemption × State) :=
  match s.preemptionOfPair? preemption.preemptorWorkerJobId preemption.victimWorkerJobId with
  | some stored => return (stored, s)
  | none => do
      let preemptions ← addRow s.preemptions preemption
      return (preemption, { s with preemptions })

/-- One running job in `_arbitrate_high_priority_job`. -/
def arbitrateCandidate (preemptor : WorkerJob) (accountId : Uuid) (s : State)
    (candidate : WorkerJob) : Except Failure State := do
  if candidate.id = preemptor.id ∨ preemptor.priority ≤ candidate.priority then return s
  let victim ← lockedJob s candidate.id
  if victim.status ≠ .running ∨ victim.accountId ≠ preemptor.accountId
      ∨ victim.accountAffinityRequired = false ∨ preemptor.priority ≤ victim.priority then
    return s
  let preemption ← WorkerJobPreemption.create (d.preemptionId candidate.id) accountId
    preemptor.id candidate.id now
  let (preemption, s) ← addPreemptionIfAbsent s preemption
  if preemption.status ≠ .waitingForQuiescence then return s
  if victim.preemptible = false ∨ victim.capabilityVersion ≠ 1
      ∨ victim.operationClass ≠ .read ∨ (cancellablePhases victim.capabilityName).isNone = true
      ∨ victim.leaseExpiresAt.all (fun e => decide (e ≤ now)) = true then
    return s
  let (request, s) ← requestPreemptionCancel d now s victim
  match request with
  | none => return s
  | some request => linkCancelRequest s preemption request

/-- `_arbitrate_high_priority_job`. -/
def arbitrateHighPriorityJob (s : State) (preemptor : WorkerJob) (accountId : Uuid) :
    Except Failure State :=
  if preemptor.priority ≠ 100 ∨ preemptor.isBrowserProfile = false then return s
  else (s.listRunningBrowserForAccount accountId).foldlM
    (arbitrateCandidate d now preemptor accountId) s

-- ==== enqueue

/-- The arguments of `enqueue_in_transaction`. -/
structure EnqueueRequest where
  capabilityName : String
  capabilityVersion : Int
  commandId : Option String
  accountId : Option Uuid
  assignedWorkerId : Option Uuid
  accountAffinityRequired : Option Bool
  priority : Int
  preemptible : Bool
  scheduledAt : Option Time
  deadlineAt : Option Time
  maxAttempts : Int
  retrySafety : WorkerJobRetrySafety
  operationClass : OperationClass
  inputData : Option Document

/-- The Command the job is for, checked. -/
def commandToLink (s : State) (req : EnqueueRequest) : Except Failure (Option Command) :=
  match req.commandId with
  | none => return none
  | some commandId => do
      let command ← orThrow (s.commands.get? commandId) (.commandNotFound commandId)
      require (command.status = .validated ∨ command.status = .waitingExecution)
        (.control .commandNotReadyForRemoteExecution)
      require (command.deadlineReached now = false) (.control .commandDeadlineExpired)
      require (req.priority = command.priority)
        (.control .commandWorkerJobPriorityMismatch)
      require (req.accountId = none ∨ req.accountId = some command.accountId)
        (.control .commandAccountMismatch)
      return some command

/-- The worker the job is assigned to: an account-affine job goes to the
account's active assignment. -/
def workerToAssign (req : EnqueueRequest) (assignment : Option AccountWorkerAssignment)
    (affinityRequired : Bool) : Except Failure (Option Uuid) :=
  if affinityRequired then do
    let assignment ← orThrow assignment (.control .activeAccountAssignmentRequired)
    require (req.assignedWorkerId = none ∨ req.assignedWorkerId = some assignment.workerId)
      (.control .accountWorkerAffinityMismatch)
    return some assignment.workerId
  else do
    require (req.assignedWorkerId = none ∨ assignment = none
        ∨ req.assignedWorkerId = assignment.map (·.workerId))
      (.control .accountWorkerAffinityMismatch)
    return req.assignedWorkerId

/-- The job as it is built. -/
def newJob (req : EnqueueRequest) (accountId assignedWorkerId : Option Uuid)
    (affinityRequired : Bool) (deadlineAt : Option Time) : WorkerJob where
  id := d.jobId
  commandId := req.commandId
  accountId := accountId
  assignedWorkerId := assignedWorkerId
  accountAffinityRequired := affinityRequired
  capabilityName := req.capabilityName
  capabilityVersion := req.capabilityVersion
  operationClass := req.operationClass
  inputData := req.inputData.getD []
  status := .queued
  priority := req.priority
  preemptible := req.preemptible
  scheduledAt := req.scheduledAt.getD now
  deadlineAt := deadlineAt
  attemptCount := 0
  maxAttempts := req.maxAttempts
  retrySafety := req.retrySafety
  retryAuthorizedByOperator := false
  leaseWorkerId := none
  leaseToken := none
  leaseExpiresAt := none
  accountCoordinationGeneration := none
  checkpoint := none
  result := none
  errorCode := none
  createdAt := now
  updatedAt := now
  completedAt := none

/-- A VALIDATED Command now waits for its job. -/
def moveToWaitingExecution (s : State) (command : Option Command) : Except Failure State :=
  match command with
  | none => return s
  | some command =>
    if command.status = .validated then do
      let command ← command.transition .waitingExecution now none none none
      let commands ← updateRow s.commands command
      return { s with commands }
    else return s

/-- A HIGH priority Command's job must come from a trusted route; if it
uses the browser it preempts what runs there. -/
def arbitrateForCommand (s : State) (command : Option Command) (job : WorkerJob) :
    Except Failure State :=
  match command with
  | none => return s
  | some command =>
    if command.priority ≠ 100 then return s
    else do
      require ((s.latestExecution? command.commandId).any (fun route =>
          decide (route.target = .workerJob) && decide (route.executor = some .worker)
            && decide (route.capabilityName = job.capabilityName)
            && decide (route.capabilityVersion = job.capabilityVersion)
            && decide (route.accountId = command.accountId)
            && decide (route.operationClass = job.operationClass)) = true)
        (.control .highPriorityRouteNotTrusted)
      require (job.accountAffinityRequired = true)
        (.control .highPriorityAccountAffinityRequired)
      let accountId ← orThrow job.accountId (.control .highPriorityAccountAffinityRequired)
      if job.isBrowserProfile then
        require ((s.account? accountId).isSome = true) (.control .accountNotFound)
        arbitrateHighPriorityJob d now s job accountId
      else return s

/-- `enqueue_in_transaction`. -/
def enqueueInTransaction (req : EnqueueRequest) (s : State) :
    Except Failure (WorkerJob × State) := do
  ensureCapabilityNotBlocked cfg req.capabilityName
  let command ← commandToLink now s req
  let accountId := (command.map (·.accountId)).or req.accountId
  let deadlineAt := req.deadlineAt.or (command.bind (·.deadlineAt))
  let assignment := accountId.bind s.activeAssignment?
  let affinityRequired := req.accountAffinityRequired.getD assignment.isSome
  let assignedWorkerId ← workerToAssign req assignment affinityRequired
  let job := newJob d now req accountId assignedWorkerId affinityRequired deadlineAt
  job.postInit cfg.urlsplit
  let s ← moveToWaitingExecution now s command
  let jobs ← addRow s.jobs job
  let s ← arbitrateForCommand d now { s with jobs } command job
  return (job, s)

/-- `enqueue`: the same transaction, on its own. -/
def enqueue (req : EnqueueRequest) (s : State) : Except Failure (WorkerJob × State) :=
  enqueueInTransaction cfg d now req s

-- ==== claims

/-- `_account_policy_allows_claim`. -/
def accountPolicyAllowsClaim (s : State) (j : WorkerJob) (workerId : Uuid) : Bool :=
  ((cfg.workerPolicies.policyFor j.capabilityName).bind (·.blockedReasonCode)).isNone
  && match j.accountId with
    | none => true
    | some accountId =>
      match s.account? accountId with
      | none => false
      | some account =>
        (!j.accountAffinityRequired
          || (s.activeAssignment? accountId).any fun a => decide (a.workerId = workerId))
        && match j.commandId with
          | none => true
          | some commandId =>
            match s.commands.get? commandId with
            | none => false
            | some command =>
              decide (command.accountId = accountId)
              && decide (command.status = .waitingExecution)
              && match s.latestExecution? commandId with
                | none => true
                | some route =>
                  decide (route.executor = some .worker)
                  && decide (account.status = .active)
                  && cfg.workerPolicies.workerExecutionAllowed command.commandType
                    account.executionMode
                  && (cfg.workerPolicies.policyFor command.commandType).any fun p =>
                    decide (p.workerCapabilityName = some j.capabilityName)
                      && decide (p.workerCapabilityVersion = some j.capabilityVersion)

/-- `_browser_profile_claim_allows`. -/
def browserProfileClaimAllows (s : State) (candidate : WorkerJob) (worker : WorkerNode) :
    Bool :=
  if candidate.isBrowserProfile = false then true
  else match candidate.accountId with
    | none => true
    | some accountId =>
      let waiting := s.listWaitingForAccount accountId
      let isWaitingVictimReclaim :=
        (decide (candidate.status = .running) || decide (candidate.status = .queued)
          || decide (candidate.status = .failedRetryable))
        && waiting.any fun p => decide (p.victimWorkerJobId = candidate.id)
      let headOfQueue := ((s.listClaimable worker now (some accountId)).head?).any
        fun j => decide (j.id = candidate.id)
      !(waiting.any fun p => decide (p.preemptorWorkerJobId = candidate.id))
        && (isWaitingVictimReclaim || headOfQueue)
        && !((s.listRunningBrowserForAccount accountId).any fun j =>
          decide (j.id ≠ candidate.id))
        && !(waiting.any fun p => decide (p.victimWorkerJobId ≠ candidate.id))

/-- A waiting preemption whose preemptor can still use the profile. -/
def preemptorViable (s : State) (job : WorkerJob) (p : WorkerJobPreemption) : Bool :=
  (s.jobs.get? p.preemptorWorkerJobId).any fun preemptor =>
    (decide (preemptor.status = .queued) || decide (preemptor.status = .failedRetryable))
      && decide (job.priority < preemptor.priority) && preemptor.beforeDeadline now

/-- `_request_cancel_for_waiting_preemption`: the request the claimed
victim is answered with. -/
def requestCancelForWaitingPreemption (s : State) (job : WorkerJob) :
    Except Failure (Option WorkerJobCancelRequest × State) := do
  if job.accountId = none ∨ job.accountAffinityRequired = false then return (none, s)
  let waiting := s.listWaitingForVictim job.id
  let viable := waiting.filter (preemptorViable now s job)
  let s ← (waiting.filter fun p => !preemptorViable now s job p).foldlM
    (fun s preemption => do
      let preemption ← preemption.supersede now "PREEMPTOR_ENDED"
      let preemptions ← updateRow s.preemptions preemption
      return { s with preemptions }) s
  if viable = [] ∨ 100 ≤ job.priority then return (none, s)
  let (request, s) ← requestPreemptionCancel d now s job
  match request with
  | none => return (none, s)
  | some request =>
    let s ← viable.foldlM (fun s p => linkCancelRequest s p request) s
    return (some request, s)

/-- The account lease a claim needs: `none` while another execution
holds it, else the generation (of exclusive jobs). -/
def acquireCoordination (s : State) (candidate : WorkerJob) :
    Except Failure (Option (Option Int) × State) :=
  match candidate.accountId with
  | none => return (some none, s)
  | some accountId =>
    if candidate.operationClass.requiresExclusiveAccountCoordination = false then
      return (some none, s)
    else do
      let (generation, s) ← s.tryAcquire accountId .workerJob (Uuid.str candidate.id)
        candidate.operationClass now (now + cfg.leaseDuration)
      return (generation.map some, s)

/-- The end of one candidate's turn: the stored job is claimed with a new
attempt, or the account lease taken for it is given back. -/
def claimStored (worker : WorkerNode) (s : State) (candidate : WorkerJob)
    (generation : Option Int) : Except Failure (Option JobAnswer × State) := do
  let (claimed, s) ← s.claimJob candidate.id worker.workerId now (now + cfg.leaseDuration)
    d.leaseToken generation
  match claimed with
  | some job =>
    let attempt ← WorkerJobAttempt.start d.attemptId job.id job.attemptCount
      worker.workerId d.leaseToken now
    let attempts ← addRow s.attempts attempt
    let (request, s) ← requestCancelForWaitingPreemption d now { s with attempts } job
    return (some { job := job, pendingCancelRequest := request }, s)
  | none =>
    let s ← releaseAccountCoordination now s candidate generation
    return (none, s)

/-- One candidate of `claim_next`; `none` moves on to the next one. -/
def claimCandidate (worker : WorkerNode) (s : State) (candidate : WorkerJob) :
    Except Failure (Option JobAnswer × State) := do
  if accountPolicyAllowsClaim cfg s candidate worker.workerId = false then return (none, s)
  if browserProfileClaimAllows now s candidate worker = false then return (none, s)
  let (acquired, s) ← acquireCoordination cfg now s candidate
  match acquired with
  | none => return (none, s)
  | some generation =>
    if candidate.status = .running
        ∧ candidate.leaseExpiresAt.any (fun e => decide (e ≤ now)) = true then
      let s ← supersedePendingCancel now s candidate.id "TARGET_ATTEMPT_ENDED"
      claimStored cfg d now worker s candidate generation
    else claimStored cfg d now worker s candidate generation

/-- The candidates in order, up to the first that is claimed. -/
def claimFirst (worker : WorkerNode) :
    List WorkerJob → State → Except Failure (Option JobAnswer × State)
  | [], s => return (none, s)
  | candidate :: candidates, s => do
      let (answer, s) ← claimCandidate cfg d now worker s candidate
      match answer with
      | some answer => return (some answer, s)
      | none => claimFirst worker candidates s

/-- `claim_next`. -/
def claimNext (workerId : Uuid) (s : State) : Except Failure (Option JobAnswer × State) := do
  let worker ← orThrow (s.worker? workerId) (.control .workerNotFound)
  require (eligible now worker = true) (.control .workerNotEligible)
  claimFirst cfg d now worker (s.listClaimable worker now none) s

-- ==== the owner's reports

/-- `renew`. -/
def renew (jobId workerId leaseToken : Uuid) (s : State) :
    Except Failure (JobAnswer × State) := do
  let job ← lockedJob s jobId
  let renewed ← job.renew workerId leaseToken now (now + cfg.leaseDuration)
  let job ← orThrow renewed (.control .workerJobLeaseLost)
  let (held, s) ← renewAccountCoordination now s job
  require (held = true) (.control .workerJobAccountCoordinationLost)
  let jobs ← updateRow s.jobs job
  let s := { s with jobs }
  return ({ job := job, pendingCancelRequest := attachPendingCancel now s job }, s)

/-- `checkpoint`. -/
def checkpoint (jobId workerId leaseToken : Uuid) (document : Document) (s : State) :
    Except Failure (JobAnswer × State) := do
  let job ← lockedJob s jobId
  let saved ← job.saveCheckpoint cfg.urlsplit workerId leaseToken now document
  let job ← orThrow saved (.control .workerJobLeaseLost)
  require (ownsAccountCoordination now s job = true)
    (.control .workerJobAccountCoordinationLost)
  let jobs ← updateRow s.jobs job
  let s := { s with jobs }
  return ({ job := job, pendingCancelRequest := attachPendingCancel now s job }, s)

/-- `request_cancel`. -/
def requestCancel (jobId : Uuid) (reasonCode : String) (s : State) :
    Except Failure (WorkerJobCancelRequest × State) := do
  require (isBoundedCode reasonCode = true) (.control .cancelReasonInvalid)
  let job ← lockedJob s jobId
  requestCancelInTransaction d now s job reasonCode

/-- The running attempt is closed and the job row follows. -/
def closeAttempt (s : State) (attempt : WorkerJobAttempt) (status : WorkerJobAttemptStatus)
    (errorCode : Option String) : Except Failure State := do
  let attempts ← updateRow s.attempts (attempt.close status now errorCode)
  return { s with attempts }

/-- `worker_jobs.update`. -/
def storeJob (s : State) (job : WorkerJob) : Except Failure State := do
  let jobs ← updateRow s.jobs job
  return { s with jobs }

/-- `acknowledge_cancel`. -/
def acknowledgeCancel (jobId workerId leaseToken cancelRequestId : Uuid) (generation : Int)
    (checkpointPhase : String) (s : State) : Except Failure (WorkerJob × State) := do
  let job ← lockedJob s jobId
  require (job.ownsLease workerId leaseToken now = true) (.control .workerJobLeaseLost)
  require (job.preemptible = true) (.control .workerJobNotPreemptible)
  require (job.capabilityVersion = 1 ∧ job.operationClass = .read
      ∧ ((cancellablePhases job.capabilityName).any
        fun phases => phases.contains checkpointPhase) = true)
    (.control .cancelCheckpointNotSafe)
  require ((job.checkpoint.bind fun c => c.get? "phase") = some (.str checkpointPhase))
    (.control .cancelCheckpointMismatch)
  let attempt ← runningAttempt s job.id
  require (attempt.attemptNumber = job.attemptCount ∧ attempt.workerId = workerId
      ∧ attempt.leaseToken = leaseToken)
    (.control .workerJobAttemptStale)
  let request ← orThrow (s.pendingFor? job.id) (.control .cancelRequestStale)
  require (request.id = cancelRequestId ∧ request.generation = generation
      ∧ request.targetAttemptId = attempt.id
      ∧ request.targetAttemptNumber = attempt.attemptNumber)
    (.control .cancelRequestStale)
  validateMaterializedActivityLink s job
  let fence := job.accountCoordinationGeneration
  let cancelled ← job.cancel workerId leaseToken now request.reasonCode
  let job ← orThrow cancelled (.control .workerJobLeaseLost)
  let acknowledged ← request.acknowledge now checkpointPhase
  let cancelRequests ← updateRow s.cancelRequests acknowledged
  let s ← closeAttempt now { s with cancelRequests } attempt .cancelled
    (some request.reasonCode)
  let s ← storeJob s job
  let s ← finalizeCommand cfg d now s job .cancelled none (some request.reasonCode)
  let s ← satisfyPreemptionsForVictim now s job.id "CANCEL_ACKNOWLEDGED"
  let s ← releaseAccountCoordination now s job fence
  return (job, s)

/-- `complete`. -/
def complete (jobId workerId leaseToken : Uuid) (result : Document) (s : State) :
    Except Failure (WorkerJob × State) := do
  let job ← lockedJob s jobId
  require (ownsAccountCoordination now s job = true)
    (.control .workerJobAccountCoordinationLost)
  let fence := job.accountCoordinationGeneration
  let completed ← job.complete cfg.urlsplit workerId leaseToken now result
  let job ← orThrow completed (.control .workerJobLeaseLost)
  let s ← supersedePendingCancel now s job.id "TARGET_ATTEMPT_ENDED"
  let s ← satisfyPreemptionsForVictim now s job.id "SUCCEEDED"
  let attempt ← runningAttempt s job.id
  let s ← closeAttempt now s attempt .succeeded none
  let s ← storeJob s job
  let s ← finalizeCommand cfg d now s job .succeeded (some result) none
  let s ← releaseAccountCoordination now s job fence
  return (job, s)

/-- The outcome `fail` records in the attempt. -/
def failedAttemptStatus : WorkerJobStatus → WorkerJobAttemptStatus
  | .waitingIntervention => .waitingIntervention
  | .failedRetryable => .failedRetryable
  | _ => .failedFinal

/-- `fail`. -/
def fail (jobId workerId leaseToken : Uuid) (errorCode : String)
    (retryable outcomeAmbiguous : Bool) (s : State) : Except Failure (WorkerJob × State) := do
  let job ← lockedJob s jobId
  require (ownsAccountCoordination now s job = true)
    (.control .workerJobAccountCoordinationLost)
  let fence := job.accountCoordinationGeneration
  let failed ← job.fail workerId leaseToken now errorCode retryable outcomeAmbiguous
    (some (now + cfg.retryDelay))
  let job ← orThrow failed (.control .workerJobLeaseLost)
  let s ← supersedePendingCancel now s job.id "TARGET_ATTEMPT_ENDED"
  let s ← satisfyPreemptionsForVictim now s job.id "FAILED"
  let attempt ← runningAttempt s job.id
  let s ← if job.status = .waitingIntervention then do
      let s ← addIntervention d now s job (some workerId)
        (if outcomeAmbiguous then "AMBIGUOUS_OUTCOME" else "OPERATOR_CONFIRMATION_REQUIRED")
        errorCode
      setCommandWaitingIntervention now s job
    else pure s
  let s ← closeAttempt now s attempt (failedAttemptStatus job.status) (some errorCode)
  let s ← storeJob s job
  let s ← if job.status = .failedFinal then
      finalizeCommand cfg d now s job .failedFinal none (some errorCode)
    else pure s
  let s ← releaseAccountCoordination now s job fence
  return (job, s)

/-- The intervention types a worker may ask for. -/
def allowedInterventionTypes : List String :=
  ["LOGIN_REQUIRED", "SESSION_EXPIRED", "CHALLENGE_REQUIRED",
    "OPERATOR_CONFIRMATION_REQUIRED", "AMBIGUOUS_OUTCOME", "REMOTE_STATE_UNCERTAIN"]

/-- `request_intervention`. -/
def requestIntervention (jobId workerId leaseToken : Uuid)
    (interventionType detailCode : String) (s : State) :
    Except Failure (WorkerJob × State) := do
  require (interventionType ∈ allowedInterventionTypes)
    (.control .interventionTypeUnsupported)
  let job ← lockedJob s jobId
  require (ownsAccountCoordination now s job = true)
    (.control .workerJobAccountCoordinationLost)
  let fence := job.accountCoordinationGeneration
  let suspended ← job.requireIntervention workerId leaseToken now
  let job ← orThrow suspended (.control .workerJobLeaseLost)
  let s ← supersedePendingCancel now s job.id "TARGET_ATTEMPT_ENDED"
  let s ← satisfyPreemptionsForVictim now s job.id "INTERVENTION_REQUESTED"
  let job := if interventionType = "AMBIGUOUS_OUTCOME" then
    { job with retrySafety := .reconciliationRequired } else job
  let attempt ← runningAttempt s job.id
  let s ← closeAttempt now s attempt .waitingIntervention (some detailCode)
  let s ← addIntervention d now s job (some workerId) interventionType detailCode
  let s ← storeJob s job
  let s ← setCommandWaitingIntervention now s job
  let s ← releaseAccountCoordination now s job fence
  return (job, s)

-- ==== operators, scheduler

/-- `error_code or "INTERVENTION_CLOSED"`. -/
def closingErrorCode (job : WorkerJob) : String :=
  match job.errorCode with
  | some code => if code = "" then "INTERVENTION_CLOSED" else code
  | none => "INTERVENTION_CLOSED"

/-- `resolve_intervention`. -/
def resolveIntervention (interventionId : Uuid) (requeue confirmedSafeToRetry : Bool)
    (resolvedBy : String) (s : State) : Except Failure (WorkerJob × State) := do
  let intervention ← orThrow (s.interventions.get? interventionId)
    (.control .interventionNotFound)
  require (intervention.status = .open) (.control .interventionAlreadyResolved)
  let job ← lockedJob s intervention.workerJobId
  let job ← match job.resolveIntervention now requeue confirmedSafeToRetry with
    | .ok job => pure job
    | .error _ => throw (.control .interventionRequeueNotSafe)
  let interventions ← updateRow s.interventions { intervention with
    status := .resolved
    resolvedAt := some now
    resolvedBy := some resolvedBy }
  let s ← storeJob { s with interventions } job
  if requeue then
    let s ← setCommandWaitingExecution now s job
    return (job, s)
  else
    let s ← finalizeCommand cfg d now s job .failedFinal none (some (closingErrorCode job))
    let s ← supersedePreemptionsForPreemptor now s job.id
    return (job, s)

/-- `reconcile`: what a reconnecting worker is told; it writes nothing. -/
def reconcile (workerId : Uuid) (s : State) : Except Failure (List JobAnswer × State) := do
  let worker ← orThrow (s.worker? workerId) (.control .workerNotFound)
  require (worker.status ≠ .disabled) (.control .workerNotFound)
  return ((s.listForReconcile workerId now).map fun job =>
    { job := job, pendingCancelRequest := attachPendingCancel now s job }, s)

/-- The running attempt, if there is one, is closed. -/
def closeAttempt? (s : State) (attempt : Option WorkerJobAttempt)
    (status : WorkerJobAttemptStatus) (errorCode : String) : Except Failure State :=
  match attempt with
  | none => return s
  | some attempt => closeAttempt now s attempt status (some errorCode)

/-- An open intervention of an expired job is cancelled. -/
def cancelIntervention (s : State) (jobId : Uuid) : Except Failure State :=
  match s.openIntervention? jobId with
  | none => return s
  | some intervention => do
      let interventions ← updateRow s.interventions { intervention with
        status := .cancelled
        resolvedAt := some now
        resolvedBy := some "system:deadline" }
      return { s with interventions }

/-- A job that has ended no longer waits to preempt anything. -/
def endPreemptor (s : State) (job : WorkerJob) : Except Failure State :=
  if job.status.terminal then supersedePreemptionsForPreemptor now s job.id else return s

/-- One job of `recover_expired`: expired at its deadline, final when no
attempt is left, suspended when its outcome is unknown. A lapsed job
that may simply be claimed again only loses its cancel request. -/
def recoverJob (s : State) (job : WorkerJob) : Except Failure State := do
  let fence := job.accountCoordinationGeneration
  let attempt := s.runningAttempt? job.id
  let s ← supersedePendingCancel now s job.id "TARGET_ATTEMPT_ENDED"
  if job.beforeDeadline now = false then
    let s ← closeAttempt? now s attempt .failedFinal "JOB_DEADLINE_EXPIRED"
    let s ← cancelIntervention now s job.id
    let job := job.expire now "JOB_DEADLINE_EXPIRED"
    let s ← storeJob s job
    let s ← releaseAccountCoordination now s job fence
    let s ← finalizeCommand cfg d now s job .expired none (some "JOB_DEADLINE_EXPIRED")
    endPreemptor now s job
  else if job.maxAttempts ≤ job.attemptCount then
    let s ← closeAttempt? now s attempt .failedFinal "WORKER_JOB_ATTEMPTS_EXHAUSTED"
    let job := job.finalizeFailure now "WORKER_JOB_ATTEMPTS_EXHAUSTED"
    let s ← storeJob s job
    let s ← releaseAccountCoordination now s job fence
    let s ← finalizeCommand cfg d now s job .failedFinal none
      (some "WORKER_JOB_ATTEMPTS_EXHAUSTED")
    endPreemptor now s job
  else if job.status = .running ∧ job.retrySafety = .reconciliationRequired then
    let owner := job.leaseWorkerId.or job.assignedWorkerId
    let s ← closeAttempt? now s attempt .waitingIntervention "AMBIGUOUS_OUTCOME"
    let job ← job.suspendForIntervention now "AMBIGUOUS_OUTCOME"
    let s ← storeJob s job
    let s ← releaseAccountCoordination now s job fence
    let s ← addIntervention d now s job owner "AMBIGUOUS_OUTCOME"
      "LEASE_EXPIRED_WITH_RECONCILIATION_REQUIRED"
    let s ← setCommandWaitingIntervention now s job
    endPreemptor now s job
  else endPreemptor now s job

/-- `recover_expired`: how many jobs were handled. -/
def recoverExpired (limit : Nat) (s : State) : Except Failure (Nat × State) := do
  let jobs := s.listExpiredForUpdate now limit d.rowOrder
  let s ← jobs.foldlM (recoverJob cfg d now) s
  return (jobs.length, s)

end WorkerJobService

end ThreadsPlatform
