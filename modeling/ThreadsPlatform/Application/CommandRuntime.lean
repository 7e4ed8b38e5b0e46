/-
`CommandRuntime`: receiving a Command, routing it, and the local API
execution a route may start.

A route ends in one of three ways (`RoutingOutcome`): the Command is
settled or waits, a WorkerJob was enqueued for it, or an API executor
got an `_ExecutionClaim`. An executor then heartbeats, saves
checkpoints and finishes, each in a transaction of its own; all it
knows of the state is the claim it presents.

What `receive` gets here is the envelope after its header has been
parsed, together with what the typed envelope made of the payload
(`none` where typed validation refused it).
-/
import ThreadsPlatform.Application.WorkerJobs

namespace ThreadsPlatform

open Relational

/-- `KNOWN_COMMAND_TYPES`. -/
def knownCommandTypes : List String :=
  ["threads.publish_text", "threads.publish_image", "threads.publish_video",
    "threads.publish_carousel", "threads.create_reply", "threads.sync_conversation",
    "threads.discovery.create_campaign", "threads.discovery.complete_campaign",
    "threads.discovery.search", "threads.discovery.profile", "threads.discovery.mentions",
    "threads.discovery.conversation", "threads.discovery.resume",
    "threads.discovery.lead_status", "threads.moderate_reply",
    "threads.browser.feed.browse", "threads.browser.thread.open",
    "threads.browser.profile.open", "threads.browser.media.local_upload"]

/-- `CommandEnvelopeHeader`, and the payload of the typed envelope. -/
structure CommandEnvelope where
  protocolVersion : Int
  commandId : String
  correlationId : String
  accountId : Uuid
  createdAt : Time
  deadlineAt : Option Time
  commandType : String
  payload : Document
  typedPayload : Option Document

/-- `CommandReceiptV1`. -/
structure CommandReceipt where
  commandId : String
  correlationId : String
  status : CommandStatus
  duplicate : Bool
  deriving DecidableEq

/-- `CommandExecutionResult`. -/
structure CommandExecutionResult where
  commandId : String
  status : CommandStatus
  executed : Bool
  deriving DecidableEq

/-- What `_claim_locked` answers. -/
inductive RoutingOutcome where
  | settled (result : CommandExecutionResult)
  | enqueued (result : CommandExecutionResult) (job : WorkerJob)
  | claimed (claim : ExecutionClaim)

namespace CommandRuntime

variable (cfg : Settings) (d : Draws) (now : Time)

/-- `_enqueue_result`. -/
def enqueueResult (s : State) (c : Command) : Except Failure State :=
  enqueueCommandResult s c now cfg.deliveryLifetime cfg.crmDestination d

/-- `commands.update`. -/
def storeCommand (s : State) (c : Command) : Except Failure State := do
  let commands ← updateRow s.commands c
  return { s with commands }

/-- `attempts.update` with an outcome. -/
def closeAttempt (s : State) (attempt : CommandAttempt) (status : AttemptStatus)
    (errorCode : Option String) : Except Failure State := do
  let commandAttempts ← updateRow s.commandAttempts (attempt.close status now errorCode)
  return { s with commandAttempts }

-- ==== receive

/-- Why a well-formed envelope is rejected, if it is. -/
def rejectionCode (envelope : CommandEnvelope) : Option String :=
  if envelope.protocolVersion ≠ 1 then some "UNSUPPORTED_PROTOCOL_VERSION"
  else if envelope.commandType ∉ knownCommandTypes then some "UNKNOWN_COMMAND"
  else if envelope.typedPayload = none then some "INVALID_COMMAND"
  else none

/-- The Command an envelope becomes: RECEIVED, REJECTED or EXPIRED. -/
def receivedCommand (envelope : CommandEnvelope) : Except Failure Command := do
  let deadline := envelope.deadlineAt.getD (envelope.createdAt + cfg.maxCommandLifetime)
  let rejection := rejectionCode envelope
  let payload := if rejection = none then envelope.typedPayload.getD envelope.payload
    else envelope.payload
  let command ← Command.create d.commandRowId envelope.commandId envelope.correlationId
    envelope.accountId envelope.commandType payload envelope.protocolVersion 0
    envelope.createdAt now (some deadline)
  match rejection with
  | some code => command.transition .rejected now (some code) none none
  | none =>
    if deadline ≤ now then
      command.transition .expired now (some "COMMAND_EXPIRED") none none
    else return command

/-- `_same_command`. -/
def sameCommand (existing received : Command) : Bool :=
  decide (existing.commandId = received.commandId)
    && decide (existing.correlationId = received.correlationId)
    && decide (existing.accountId = received.accountId)
    && decide (existing.protocolVersion = received.protocolVersion)
    && decide (existing.commandType = received.commandType)
    && Json.pyEqFields existing.payload received.payload
    && decide (existing.createdAt = received.createdAt)
    && decide (existing.deadlineAt = received.deadlineAt)

/-- `receive`, from `_receive_validated` on. -/
def receive (envelope : CommandEnvelope) (s : State) :
    Except Failure (CommandReceipt × State) := do
  let command ← receivedCommand cfg d now envelope
  require ((s.account? envelope.accountId).isSome = true) (.commandInput "UNKNOWN_ACCOUNT")
  match s.commands.get? command.commandId with
  | some existing =>
    require (sameCommand existing command = true)
      (.idempotencyConflict command.commandId)
    return ({
      commandId := existing.commandId
      correlationId := existing.correlationId
      status := existing.status
      duplicate := true }, s)
  | none =>
    let commands ← addRow s.commands command
    let s ← if command.completedAt.isSome then
        enqueueResult cfg d now { s with commands } command
      else pure { s with commands }
    return ({
      commandId := command.commandId
      correlationId := command.correlationId
      status := command.status
      duplicate := false }, s)

/-- A Command a scheduler dispatches (`materialize_due_account_activities`,
`dispatch_due_conversation_syncs`): RECEIVED, no deadline, any priority. -/
def dispatch (commandId correlationId : String) (accountId : Uuid) (commandType : String)
    (payload : Document) (priority : Int) (s : State) : Except Failure (Bool × State) := do
  let command ← Command.create d.commandRowId commandId correlationId accountId commandType
    payload 1 priority now now none
  match s.commands.get? commandId with
  | some _ => return (false, s)
  | none =>
    let commands ← addRow s.commands command
    return (true, { s with commands })

-- ==== routing

/-- The decision as it is stored. -/
def routeDecision (id : Uuid) (command : Command) (accountMode : AccountExecutionMode)
    (attemptCount : Int) (route : Route) : CapabilityRouteDecision where
  id := id
  commandId := command.commandId
  accountId := command.accountId
  capabilityName := route.capabilityName
  capabilityVersion := route.capabilityVersion
  executionClass := route.executionClass
  operationClass := route.operationClass
  accountMode := accountMode
  target := route.target
  executor := route.executor
  reasonCode := route.reasonCode
  attemptCount := attemptCount
  createdAt := now

/-- `command_route_decisions.add`, after the decision's own checks. -/
def addDecision (s : State) (decision : CapabilityRouteDecision) : Except Failure State := do
  require (notBlank decision.commandId = true ∧ notBlank decision.capabilityName = true)
    (.value "route decision requires a command and capability")
  require (1 ≤ decision.capabilityVersion ∧ 0 ≤ decision.attemptCount
      ∧ notBlank decision.reasonCode = true)
    (.value "route decision version and reason are required")
  let routeDecisions ← addRow s.routeDecisions decision
  return { s with routeDecisions }

/-- What the router is told of a Command. -/
def evidence (s : State) (command : Command) (account : ThreadsAccount) (attemptCount : Int) :
    CapabilityEvidence :=
  let policy := cfg.policies.policyFor command.commandType
  let assignment := s.activeAssignment? command.accountId
  let worker := assignment.bind fun a => s.worker? a.workerId
  { apiHandlerAvailable := s.surroundings.handlers.contains command.commandType
    workerAssigned := assignment.isSome
    workerOnline := worker.any fun w => w.present now
      && isWorkerProtocolSupported w.protocolVersion w.capabilitiesSchemaVersion
    workerAdvertisesCapability := policy.any fun p =>
      p.workerCapabilityName.any fun name => assignment.any fun a =>
        s.hasCapability a.workerId name (p.workerCapabilityVersion.getD 1)
    accountMutationBusy := (policy.any fun p =>
      p.operationClass.requiresExclusiveAccountCoordination)
      && s.leaseActive command.accountId now
    accountStatus := account.status
    attemptCount := attemptCount
    previousExecutor := match s.latestExecution? command.commandId with
      | some route => route.executor
      | none => if 0 < attemptCount then some .api else none
    existingWorkerJob := s.jobForCommand? command.commandId }

/-- The outcome of a Command that stays with the platform. -/
def settled (command : Command) : RoutingOutcome :=
  .settled { commandId := command.commandId, status := command.status, executed := false }

/-- UNSUPPORTED: the Command ends, with its result. -/
def endUnsupported (s : State) (command : Command) (reasonCode : String) :
    Except Failure (RoutingOutcome × State) := do
  let target := if command.status = .validated then CommandStatus.rejected else .failedFinal
  let command ← command.transition target now (some reasonCode) none none
  let command := command.clearExecutionLease
  let s ← storeCommand s command
  let s ← enqueueResult cfg d now s command
  return (settled command, s)

/-- WAITING_INTERVENTION. -/
def holdForIntervention (s : State) (command : Command) (reasonCode : String) :
    Except Failure (RoutingOutcome × State) := do
  let command ← command.transition .waitingIntervention now (some reasonCode) none none
  let command := command.clearExecutionLease
  let s ← storeCommand s command
  return (settled command, s)

/-- WAITING_EXECUTION: a Command that already waits keeps its fields. -/
def deferExecution (s : State) (command : Command) (reasonCode : String) :
    Except Failure (RoutingOutcome × State) := do
  let command ← if command.status = .waitingExecution then pure command
    else command.transition .waitingExecution now (some reasonCode) none none
  let command := command.clearExecutionLease
  let s ← storeCommand s command
  return (settled command, s)

/-- The job input of a browser Command. -/
def workerJobInput (command : Command) : Except Failure (Option Document) :=
  let field (name : String) : Except Failure (Option Document) := do
    let value ← orThrow (command.payload.get? name) .lookup
    return some [(name, value)]
  match command.commandType with
  | "threads.browser.feed.browse" =>
    return some [("max_items", (command.payload.get? "max_items").getD (.int 10))]
  | "threads.browser.thread.open" => field "thread_ref"
  | "threads.browser.profile.open" => field "profile_ref"
  | "threads.browser.media.local_upload" => field "media_ref"
  | _ => return none

/-- `name or other`: an empty text counts as missing. -/
def textOr (name : Option String) (other : String) : String :=
  match name with
  | some text => if text = "" then other else text
  | none => other

/-- WORKER_JOB: the job is enqueued in this transaction. -/
def enqueueWorkerJob (s : State) (command : Command) (policy : BusinessCapabilityPolicy)
    (route : Route) : Except Failure (RoutingOutcome × State) := do
  let inputData ← workerJobInput command
  let (job, s) ← WorkerJobService.enqueueInTransaction cfg d now
    { capabilityName := textOr policy.workerCapabilityName policy.capabilityName
      capabilityVersion := policy.workerCapabilityVersion.getD policy.capabilityVersion
      commandId := some command.commandId
      accountId := some command.accountId
      assignedWorkerId := (s.activeAssignment? command.accountId).map (·.workerId)
      accountAffinityRequired := some true
      priority := command.priority
      preemptible := command.commandType ∈ ["threads.browser.feed.browse",
        "threads.browser.thread.open", "threads.browser.profile.open"]
      scheduledAt := none
      deadlineAt := command.deadlineAt
      maxAttempts := 3
      retrySafety := if route.operationClass.requiresExclusiveAccountCoordination
        then .reconciliationRequired else .safeToRetry
      operationClass := route.operationClass
      inputData := inputData } s
  return (.enqueued
    { commandId := command.commandId, status := .waitingExecution, executed := false } job, s)

/-- The claim itself: the Command goes to PROCESSING under a new token,
with a new attempt. -/
def startExecution (s : State) (command : Command) (attempt : CommandAttempt)
    (generation : Option Int) : Except Failure (RoutingOutcome × State) := do
  let command ← if command.status = .processing then command.reclaim now
    else command.transition .processing now none none none
  let command := { command with
    executionLeaseToken := some d.leaseToken
    executionLeaseExpiresAt := some (now + cfg.executionLeaseDuration) }
  let commandAttempts ← addRow s.commandAttempts attempt
  let s ← storeCommand { s with commandAttempts } command
  let claim : ExecutionClaim :=
    { commandId := command.commandId
      accountId := command.accountId
      leaseToken := d.leaseToken
      attemptNumber := attempt.attemptNumber
      attemptId := attempt.id
      accountCoordinationGeneration := generation }
  return (.claimed claim, { s with claims := claim :: s.claims })

/-- LOCAL_API: an exclusive operation first takes the account's lease;
if another execution holds it, the Command waits. -/
def claimLocalApi (s : State) (command : Command) (account : ThreadsAccount)
    (attemptCount : Int) (route : Route) : Except Failure (RoutingOutcome × State) := do
  let attempt ← CommandAttempt.create d.attemptId command.commandId (attemptCount + 1) now
  if route.operationClass.requiresExclusiveAccountCoordination then
    let (generation, s) ← s.tryAcquire command.accountId .command (Uuid.str attempt.id)
      route.operationClass now (now + cfg.executionLeaseDuration)
    match generation with
    | none =>
      let deferred := { route with
        target := .waitingExecution
        executor := none
        reasonCode := "ACCOUNT_EXECUTION_ALREADY_OWNED" }
      let s ← addDecision s (routeDecision now d.deferredRouteDecisionId command
        account.executionMode attemptCount deferred)
      deferExecution now s command deferred.reasonCode
    | some generation => startExecution cfg d now s command attempt (some generation)
  else startExecution cfg d now s command attempt none

/-- `_route_and_claim`. -/
def routeAndClaim (s : State) (command : Command) (attemptCount : Int) :
    Except Failure (RoutingOutcome × State) := do
  let account ← orThrow (s.account? command.accountId) (.commandInput "UNKNOWN_ACCOUNT")
  let route := cfg.policies.decide command.commandType account.executionMode
    (evidence cfg now s command account attemptCount)
  -- a WORKER_JOB route without the service is recorded as a wait
  let route := if route.target = .workerJob ∧ (cfg.workerJobService = false
      ∨ cfg.policies.policyFor command.commandType = none) then
    { route with
      target := .waitingExecution
      executor := none
      reasonCode := "WORKER_JOB_SERVICE_UNAVAILABLE" } else route
  let s ← addDecision s
    (routeDecision now d.routeDecisionId command account.executionMode attemptCount route)
  match route.target with
  | .unsupported => endUnsupported cfg d now s command route.reasonCode
  | .waitingIntervention => holdForIntervention now s command route.reasonCode
  | .waitingExecution => deferExecution now s command route.reasonCode
  | .workerJob =>
    match cfg.policies.policyFor command.commandType with
    | some policy => enqueueWorkerJob cfg d now s command policy route
    | none => throw (.runtime "unhandled capability route")
  | .localApi => claimLocalApi cfg d now s command account attemptCount route

/-- A Command whose deadline has passed ends EXPIRED. -/
def expireCommand (s : State) (command : Command) (previous : Option CommandAttempt) :
    Except Failure (RoutingOutcome × State) := do
  let s ← match previous with
    | some attempt => closeAttempt now s attempt .failedFinal (some "COMMAND_EXPIRED")
    | none => pure s
  let command ← command.transition .expired now (some "COMMAND_EXPIRED") none none
  let command := command.clearExecutionLease
  let s ← storeCommand s command
  let s ← enqueueResult cfg d now s command
  return (settled command, s)

/-- A lapsed execution with no attempt left ends FAILED_FINAL. -/
def exhaustCommand (s : State) (command : Command) (previous : CommandAttempt) :
    Except Failure (RoutingOutcome × State) := do
  let s ← closeAttempt now s previous .failedFinal (some "EXECUTION_LEASE_EXPIRED")
  let command ← command.transition .failedFinal now (some "EXECUTION_LEASE_EXPIRED") none none
  let command := command.clearExecutionLease
  let s ← storeCommand s command
  let s ← enqueueResult cfg d now s command
  return (settled command, s)

/-- A RECEIVED Command is VALIDATED before it is routed. -/
def validateAndRoute (s : State) (command : Command) (attemptCount : Int) :
    Except Failure (RoutingOutcome × State) := do
  if command.status = .received then
    let command ← command.transition .validated now none none none
    let s ← storeCommand s command
    routeAndClaim cfg d now s command attemptCount
  else routeAndClaim cfg d now s command attemptCount

/-- The rest of `_claim_locked`, once no execution holds the Command;
`previous` is the attempt a lapsed one left behind. -/
def claimUnheld (command : Command) (previous : Option CommandAttempt) (s : State) :
    Except Failure (RoutingOutcome × State) := do
  if command.deadlineReached now then
    expireCommand cfg d now s command previous
  else if command.status = .failedRetryable
      ∧ command.nextRetryAt.any (fun r => decide (now < r)) = true then
    return (settled command, s)
  else
    let attemptCount := s.attemptCountFor command.commandId
    match previous with
    | none => validateAndRoute cfg d now s command attemptCount
    | some attempt =>
      if cfg.retryPolicy.maxAttempts ≤ attemptCount then
        exhaustCommand cfg d now s command attempt
      else
        let s ← closeAttempt now s attempt .failedRetryable
          (some "EXECUTION_LEASE_EXPIRED")
        validateAndRoute cfg d now s command attemptCount

/-- `_claim_locked`. -/
def claimLocked (command : Command) (s : State) : Except Failure (RoutingOutcome × State) := do
  if command.status.terminal = true ∨ command.status = .waitingIntervention then
    return (settled command, s)
  if command.status = .processing then
    if command.executionLeaseExpiresAt.any (fun e => decide (now < e)) = true then
      return (settled command, s)
    let attempt ← orThrow (s.processingAttempt? command.commandId)
      (.runtime "expired command lease has no processing attempt")
    claimUnheld cfg d now command (some attempt) s
  else claimUnheld cfg d now command none s

/-- `process`, up to the execution it may start. -/
def process (commandId : String) (s : State) : Except Failure (RoutingOutcome × State) := do
  let command ← orThrow (s.commands.get? commandId) (.commandNotFound commandId)
  claimLocked cfg d now command s

/-- `process_next`, up to the execution it may start. -/
def processNext (excluded : List String) (s : State) :
    Except Failure (Option RoutingOutcome × State) :=
  match s.nextReady? now excluded with
  | none => return (none, s)
  | some command => do
      let (outcome, s) ← claimLocked cfg d now command s
      return (some outcome, s)

-- ==== local execution

/-- The WHERE clause the executor's single-row updates share. -/
def executionLeased (command : Command) (leaseToken : Uuid) : Bool :=
  decide (command.status = .processing) && decide (command.executionLeaseToken = some leaseToken)
    && command.executionLeaseExpiresAt.any fun e => decide (now < e)

/-- `_owns_claim`. -/
def ownsClaim (command : Command) (attempt : CommandAttempt) (claim : ExecutionClaim) : Bool :=
  decide (attempt.attemptNumber = claim.attemptNumber)
    && executionLeased now command claim.leaseToken

/-- `_owns_account_execution`. -/
def ownsAccountExecution (s : State) (claim : ExecutionClaim) : Bool :=
  match claim.accountCoordinationGeneration with
  | none => true
  | some generation =>
    s.leaseOwned claim.accountId .command (Uuid.str claim.attemptId) generation now

/-- `_renew_account_execution`. -/
def renewAccountExecution (s : State) (claim : ExecutionClaim) :
    Except Failure (Bool × State) :=
  match claim.accountCoordinationGeneration with
  | none => return (true, s)
  | some generation =>
    s.renewLease claim.accountId .command (Uuid.str claim.attemptId) generation now
      (now + cfg.executionLeaseDuration)

/-- `_release_account_execution`. -/
def releaseAccountExecution (s : State) (claim : ExecutionClaim) : Except Failure State :=
  match claim.accountCoordinationGeneration with
  | none => return s
  | some generation => do
      let (released, s) ← s.releaseLease claim.accountId .command (Uuid.str claim.attemptId)
        generation now
      require (released = true) .executionLeaseLost
      return s

/-- The command row updated where the executor's lease is unexpired;
answers whether it was. -/
def updateIfLeased (claim : ExecutionClaim) (change : Command → Command) (s : State) :
    Except Failure (Bool × State) :=
  match s.commands.get? claim.commandId with
  | none => return (false, s)
  | some command =>
    if executionLeased now command claim.leaseToken = false then return (false, s)
    else do
      let s ← storeCommand s (change command)
      return (true, s)

/-- `persist_checkpoint`, through `save_checkpoint_if_leased`. -/
def persistCheckpoint (claim : ExecutionClaim) (data : Document) (s : State) :
    Except Failure (Bool × State) :=
  if ownsAccountExecution now s claim = false then return (false, s)
  else updateIfLeased now claim (fun c => { c with checkpoint := some data }) s

/-- One turn of `_maintain_lease`, through `renew_execution_lease`. -/
def heartbeat (claim : ExecutionClaim) (s : State) : Except Failure (Unit × State) := do
  let expiry := now + cfg.executionLeaseDuration
  let (renewed, s) ← updateIfLeased now claim
    (fun c => { c with executionLeaseExpiresAt := some expiry }) s
  let (accountRenewed, s) ← renewAccountExecution cfg now s claim
  require (renewed = true ∧ accountRenewed = true) .executionLeaseLost
  return ((), s)

/-- A sync state is advanced from the cursor the execution read. -/
def advanceSyncState (rows : Table ThreadsPlatform.syncStates) (update : SyncStateUpdate) :
    Except Failure (Table ThreadsPlatform.syncStates) := do
  let (advanced, rows) ← State.advanceIfCurrent rows update
  require (advanced = true) .syncCursorConflict
  return rows

/-- The Command and the attempt a claim still owns; else the answer its
executor gets instead. -/
def ownedExecution (claim : ExecutionClaim) (s : State) :
    CommandExecutionResult ⊕ (Command × CommandAttempt) :=
  match s.commands.get? claim.commandId, s.processingAttempt? claim.commandId with
  | some command, some attempt =>
    if ownsClaim now command attempt claim = false ∨ ownsAccountExecution now s claim = false then
      .inl { commandId := claim.commandId, status := command.status, executed := false }
    else .inr (command, attempt)
  | _, _ => .inl { commandId := claim.commandId, status := .failedFinal, executed := false }

/-- The answer of an execution that was finished. -/
def executedResult (command : Command) : CommandExecutionResult where
  commandId := command.commandId
  status := command.status
  executed := true

/-- `_finish_success`. -/
def finishSuccess (claim : ExecutionClaim) (output : CommandExecutionOutput) (s : State) :
    Except Failure (CommandExecutionResult × State) :=
  match ownedExecution now claim s with
  | .inl answer => return (answer, s)
  | .inr (command, attempt) => do
      let posts ← output.posts.foldlM State.addContentIfAbsent s.posts
      let replies ← output.replies.foldlM State.addContentIfAbsent s.replies
      let syncStates ← output.syncStates.foldlM advanceSyncState s.syncStates
      let s := { s with posts, replies, syncStates }
      let command ← command.transition .succeeded now none (some output.result) none
      let command := command.clearExecutionLease
      let s ← closeAttempt now s attempt .succeeded none
      let s ← storeCommand s command
      let s ← enqueueResult cfg d now s command
      let s ← releaseAccountExecution now s claim
      return (executedResult command, s)

/-- The rest of `_finish_failure`, once it is known whether and when the
Command is retried. -/
def recordFailure (claim : ExecutionClaim) (errorCode : String) (retryAt : Option Time)
    (command : Command) (attempt : CommandAttempt) (s : State) :
    Except Failure (CommandExecutionResult × State) := do
  let target := if retryAt = none then CommandStatus.failedFinal else .failedRetryable
  let outcome := if retryAt = none then AttemptStatus.failedFinal else .failedRetryable
  let command ← command.transition target now (some errorCode) none retryAt
  let command := command.clearExecutionLease
  let s ← closeAttempt now s attempt outcome (some errorCode)
  let s ← storeCommand s command
  let s ← if command.status = .failedFinal then enqueueResult cfg d now s command
    else pure s
  let s ← releaseAccountExecution now s claim
  return (executedResult command, s)

/-- `_finish_failure`. -/
def finishFailure (claim : ExecutionClaim) (errorCode : String) (retryable : Bool)
    (retryAfter : Option Duration) (jitterSource : Rat → Rat → Rat) (s : State) :
    Except Failure (CommandExecutionResult × State) :=
  match ownedExecution now claim s with
  | .inl answer => return (answer, s)
  | .inr (command, attempt) => do
      let deadline := command.deadlineAt.getD (now + cfg.maxCommandLifetime)
      if retryable then
        let retryAt ← cfg.retryPolicy.nextAttemptAt claim.attemptNumber now deadline retryAfter
          jitterSource
        recordFailure cfg d now claim errorCode retryAt command attempt s
      else recordFailure cfg d now claim errorCode none command attempt s

end CommandRuntime

end ThreadsPlatform
