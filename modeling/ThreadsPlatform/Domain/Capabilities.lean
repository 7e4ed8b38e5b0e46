/-
Business capabilities, the router that picks an executor for a
Command, and the rows the services only read: accounts, workers, their
capabilities and assignments, and scheduled activities.

The router is a chain of early answers. The first two matter most to
what follows: an unknown command type is UNSUPPORTED, and a Command
that already has a WorkerJob is answered from that job alone.
-/
import ThreadsPlatform.Domain.WorkerJobs
import ThreadsPlatform.Domain.Commands

namespace ThreadsPlatform

open Relational

-- ==== policies

/-- `CapabilityExecutionClass`. -/
inductive CapabilityExecutionClass where
  | nativeApi | hybrid | browserAssisted | humanAssisted | unsupported
  deriving DecidableEq

/-- `CapabilityExecutor`. -/
inductive CapabilityExecutor where
  | api | worker
  deriving DecidableEq

/-- `RouteTarget`. -/
inductive RouteTarget where
  | localApi | workerJob | waitingExecution | waitingIntervention | unsupported
  deriving DecidableEq

/-- `FallbackSafety`. -/
inductive FallbackSafety where
  | never | beforeFirstAttempt
  deriving DecidableEq

/-- `BusinessCapabilityPolicy`. -/
structure BusinessCapabilityPolicy where
  commandType : String
  capabilityName : String
  capabilityVersion : Int
  executionClass : CapabilityExecutionClass
  operationClass : OperationClass
  preferredExecutor : CapabilityExecutor
  fallbackExecutor : Option CapabilityExecutor
  fallbackSafety : FallbackSafety
  workerCapabilityName : Option String
  workerCapabilityVersion : Option Int
  blockedReasonCode : Option String
  deriving DecidableEq

/-- `CapabilityRouteDecision`, with the row id it is stored under. -/
structure CapabilityRouteDecision where
  id : Uuid
  commandId : String
  accountId : Uuid
  capabilityName : String
  capabilityVersion : Int
  executionClass : CapabilityExecutionClass
  operationClass : OperationClass
  accountMode : AccountExecutionMode
  target : RouteTarget
  executor : Option CapabilityExecutor
  reasonCode : String
  attemptCount : Int
  createdAt : Time
  deriving DecidableEq

/-- The CHECK constraints of the `command_route_decisions` table. -/
def CapabilityRouteDecision.checkConstraints (d : CapabilityRouteDecision) : Bool :=
  decide (0 < d.capabilityVersion) && decide (0 ≤ d.attemptCount)

/-- `_policy`, for the capabilities the API prefers. -/
def policy (commandType : String) (executionClass : CapabilityExecutionClass)
    (operationClass : OperationClass) (workerCapability : Bool) :
    BusinessCapabilityPolicy where
  commandType := commandType
  capabilityName := commandType
  capabilityVersion := 1
  executionClass := executionClass
  operationClass := operationClass
  preferredExecutor := .api
  -- in the table below, exactly the capabilities a worker offers fall back to it
  fallbackExecutor := if workerCapability then some .worker else none
  fallbackSafety := if workerCapability then .beforeFirstAttempt else .never
  workerCapabilityName := if workerCapability then some commandType else none
  workerCapabilityVersion := if workerCapability then some 1 else none
  blockedReasonCode := none

/-- The part of a `BrowserCapabilityContract` the services read. -/
structure BrowserCapabilityContract where
  name : String
  version : Int
  operationClass : OperationClass
  preemptible : Bool
  safeCheckpoints : List String
  available : Bool
  deriving DecidableEq

/-- `BROWSER_CAPABILITY_CONTRACTS`. -/
def browserCapabilityContracts : List BrowserCapabilityContract :=
  [ { name := "threads.browser.feed.browse", version := 1, operationClass := .read
      preemptible := true
      safeCheckpoints := ["BEFORE_NAVIGATION", "FEED_READY", "ITEM_BATCH"]
      available := true },
    { name := "threads.browser.thread.open", version := 1, operationClass := .read
      preemptible := true
      safeCheckpoints := ["BEFORE_NAVIGATION", "THREAD_READY"]
      available := true },
    { name := "threads.browser.profile.open", version := 1, operationClass := .read
      preemptible := true
      safeCheckpoints := ["BEFORE_NAVIGATION", "BEFORE_PROFILE_INSPECTION", "PROFILE_READY"]
      available := true },
    { name := "threads.browser.media.local_upload", version := 1
      operationClass := .mutation
      preemptible := false
      safeCheckpoints := ["BEFORE_LOCAL_STAGE", "LOCAL_STAGE_COMPLETE"]
      available := true } ]

/-- `browser_capability_policies`. -/
def browserCapabilityPolicies : List BusinessCapabilityPolicy :=
  browserCapabilityContracts.map fun contract =>
    { commandType := contract.name
      capabilityName := contract.name
      capabilityVersion := contract.version
      executionClass := .browserAssisted
      operationClass := contract.operationClass
      preferredExecutor := .worker
      fallbackExecutor := none
      fallbackSafety := .never
      workerCapabilityName := some contract.name
      workerCapabilityVersion := some contract.version
      blockedReasonCode := if contract.available then none
        else some "BROWSER_UI_EVIDENCE_REQUIRED" }

/-- `BUSINESS_CAPABILITIES`, the router's default policies. -/
def businessCapabilities : List BusinessCapabilityPolicy :=
  [ policy "threads.publish_text" .hybrid .mutation true,
    policy "threads.publish_image" .hybrid .mutation true,
    policy "threads.publish_video" .hybrid .mutation true,
    policy "threads.publish_carousel" .hybrid .mutation true,
    policy "threads.create_reply" .hybrid .mutation true,
    policy "threads.sync_conversation" .nativeApi .read false,
    policy "threads.discovery.create_campaign" .nativeApi .mutation false,
    policy "threads.discovery.complete_campaign" .nativeApi .mutation false,
    policy "threads.discovery.search" .nativeApi .read false,
    policy "threads.discovery.profile" .nativeApi .read false,
    policy "threads.discovery.mentions" .nativeApi .read false,
    policy "threads.discovery.conversation" .nativeApi .read false,
    policy "threads.discovery.resume" .nativeApi .read false,
    policy "threads.discovery.lead_status" .nativeApi .mutation false,
    policy "threads.moderate_reply" .nativeApi .mutation false ]
  ++ browserCapabilityPolicies

/-- `_CANCELLATION_SAFE_CHECKPOINTS`. -/
def cancellationSafeCheckpoints : List (String × List String) :=
  [ ("threads.browser.feed.browse", ["BEFORE_NAVIGATION", "FEED_READY", "ITEM_BATCH"]),
    ("threads.browser.thread.open", ["BEFORE_NAVIGATION", "THREAD_READY"]),
    ("threads.browser.profile.open",
      ["BEFORE_NAVIGATION", "BEFORE_PROFILE_INSPECTION", "PROFILE_READY"]) ]

/-- `_CANCELLABLE_ACTIVITY_CAPABILITIES`. -/
def cancellableActivityCapabilities : List (String × List String) :=
  browserCapabilityContracts.filterMap fun contract =>
    match cancellationSafeCheckpoints.lookup contract.name with
    | none => none
    | some phases =>
      if contract.version = (1 : Int) ∧ contract.operationClass = .read
          ∧ contract.preemptible = true ∧ contract.available = true then
        some (contract.name, phases.filter fun p => contract.safeCheckpoints.contains p)
      else none

/-- `_CANCELLABLE_ACTIVITY_CAPABILITIES.get(name)`. -/
def cancellablePhases (capabilityName : String) : Option (List String) :=
  cancellableActivityCapabilities.lookup capabilityName

-- ==== surroundings

/-- The part of a `ThreadsAccount` the services read. -/
structure ThreadsAccount where
  id : Uuid
  status : AccountStatus
  executionMode : AccountExecutionMode
  deriving DecidableEq

/-- The part of a `WorkerNode` the services read. -/
structure WorkerNode where
  workerId : Uuid
  protocolVersion : Option Int
  capabilitiesSchemaVersion : Option Int
  status : WorkerStatus
  maxConcurrentJobs : Int
  presenceExpiresAt : Option Time
  deriving DecidableEq

/-- A capability a worker advertises. -/
structure WorkerCapability where
  workerId : Uuid
  name : String
  version : Int
  deriving DecidableEq

/-- An active account-worker assignment. -/
structure AccountWorkerAssignment where
  accountId : Uuid
  workerId : Uuid
  deriving DecidableEq

/-- The part of a `ScheduledActivity` the services read. -/
structure ScheduledActivity where
  id : Uuid
  materialized : Bool
  commandId : Option String
  accountId : Uuid
  activityTypeSnapshot : String
  workerJobPriority : Int
  deriving DecidableEq

/-- `is_worker_protocol_supported`: protocol 1 or 2, capability schema 1. -/
def isWorkerProtocolSupported (protocolVersion capabilitiesSchemaVersion : Option Int) : Bool :=
  protocolVersion.any (fun v => decide (1 ≤ v) && decide (v ≤ 2))
    && decide (capabilitiesSchemaVersion = some 1)

/-- The worker is ONLINE and its presence has not lapsed. -/
def WorkerNode.present (w : WorkerNode) (now : Time) : Bool :=
  decide (w.status = .online) && w.presenceExpiresAt.any fun t => decide (now < t)

-- ==== router

/-- `CapabilityEvidence`. -/
structure CapabilityEvidence where
  apiHandlerAvailable : Bool
  workerAssigned : Bool
  workerOnline : Bool
  workerAdvertisesCapability : Bool
  accountMutationBusy : Bool
  accountStatus : AccountStatus
  attemptCount : Int
  previousExecutor : Option CapabilityExecutor
  existingWorkerJob : Option WorkerJob

/-- What the router settles: the policy's identity and class, and where
the Command goes. -/
structure Route where
  capabilityName : String
  capabilityVersion : Int
  executionClass : CapabilityExecutionClass
  operationClass : OperationClass
  target : RouteTarget
  executor : Option CapabilityExecutor
  reasonCode : String
  deriving DecidableEq

/-- `CapabilityRouter`'s policies. -/
abbrev Policies := List BusinessCapabilityPolicy

/-- `policy_for`. -/
def Policies.policyFor (policies : Policies) (commandType : String) :
    Option BusinessCapabilityPolicy :=
  policies.find? fun p => decide (p.commandType = commandType)

namespace BusinessCapabilityPolicy

/-- The executor is the preferred one or the fallback. -/
def allows (p : BusinessCapabilityPolicy) (e : CapabilityExecutor) : Bool :=
  decide (p.preferredExecutor = e) || decide (p.fallbackExecutor = some e)

/-- `_decision`. -/
def decision (p : BusinessCapabilityPolicy) (target : RouteTarget)
    (executor : Option CapabilityExecutor) (reasonCode : String) : Route where
  capabilityName := p.capabilityName
  capabilityVersion := p.capabilityVersion
  executionClass := p.executionClass
  operationClass := p.operationClass
  target := target
  executor := executor
  reasonCode := reasonCode

end BusinessCapabilityPolicy

/-- `worker_execution_allowed`. -/
def Policies.workerExecutionAllowed (policies : Policies) (commandType : String)
    (accountMode : AccountExecutionMode) : Bool :=
  (policies.policyFor commandType).any fun p =>
    decide (p.executionClass ≠ .unsupported) && decide (p.executionClass ≠ .humanAssisted)
      && p.allows .worker && p.blockedReasonCode.isNone && p.workerCapabilityName.isSome
      && (decide (accountMode = .browserOnly) || decide (accountMode = .hybrid))

/-- The executor choice at the end of `decide`, by account mode. -/
def chooseExecutor (p : BusinessCapabilityPolicy) (accountMode : AccountExecutionMode)
    (e : CapabilityEvidence) : RouteTarget × Option CapabilityExecutor × String :=
  let workerSupported := p.allows .worker && p.workerCapabilityName.isSome
  let workerReady := e.workerAssigned && e.workerOnline && e.workerAdvertisesCapability
  match accountMode with
  | .apiOnly =>
    if p.allows .api = false then
      (.unsupported, none, "CAPABILITY_HAS_NO_API_EXECUTOR")
    else if e.apiHandlerAvailable then (.localApi, some .api, "API_ONLY_LOCAL_API")
    else (.waitingExecution, none, "API_EXECUTOR_UNAVAILABLE")
  | .browserOnly =>
    if workerSupported = false then
      (.unsupported, none, "CAPABILITY_HAS_NO_WORKER_EXECUTOR")
    else if e.workerAssigned && e.workerAdvertisesCapability then
      (.workerJob, some .worker, "BROWSER_ONLY_ASSIGNED_WORKER")
    else
      (.waitingExecution, none, if e.workerAssigned then "ACTIVE_WORKER_CAPABILITY_REQUIRED"
        else "ACTIVE_WORKER_ASSIGNMENT_REQUIRED")
  | .hybrid | .manual =>
    -- MANUAL accounts are answered before this point
    if p.preferredExecutor = .api then
      if e.apiHandlerAvailable then (.localApi, some .api, "PREFERRED_API_AVAILABLE")
      else if p.fallbackExecutor = some .worker ∧ p.fallbackSafety = .beforeFirstAttempt
          ∧ e.attemptCount = 0 ∧ workerSupported = true ∧ e.workerAssigned = true
          ∧ e.workerAdvertisesCapability = true then
        (.workerJob, some .worker, "API_UNAVAILABLE_SAFE_WORKER_FALLBACK")
      else (.waitingExecution, none, "NO_SAFE_EXECUTOR_AVAILABLE")
    else if workerReady then (.workerJob, some .worker, "PREFERRED_WORKER_AVAILABLE")
    else if p.fallbackExecutor = some .api ∧ p.fallbackSafety = .beforeFirstAttempt
        ∧ e.attemptCount = 0 ∧ e.apiHandlerAvailable = true then
      (.localApi, some .api, "WORKER_UNAVAILABLE_SAFE_API_FALLBACK")
    else if workerSupported && e.workerAssigned then
      (.workerJob, some .worker, "WORKER_UNAVAILABLE_WAITING")
    else (.waitingExecution, none, "WORKER_EXECUTOR_UNAVAILABLE")

/-- `decide`. -/
def Policies.decide (policies : Policies) (commandType : String)
    (accountMode : AccountExecutionMode) (e : CapabilityEvidence) : Route :=
  match policies.policyFor commandType with
  | none =>
    { capabilityName := commandType
      capabilityVersion := 1
      executionClass := .unsupported
      operationClass := .read
      target := .unsupported
      executor := none
      reasonCode := "UNSUPPORTED_CAPABILITY" }
  | some p =>
    match e.existingWorkerJob with
    | some job =>
      if job.status = .waitingIntervention ∨ job.retrySafety = .reconciliationRequired then
        p.decision .waitingIntervention none "WORKER_JOB_REQUIRES_INTERVENTION"
      else p.decision .waitingExecution none "EXISTING_WORKER_JOB"
    | none =>
      match p.blockedReasonCode with
      | some reason => p.decision .unsupported none reason
      | none =>
        if p.executionClass = .unsupported then
          p.decision .unsupported none "UNSUPPORTED_CAPABILITY"
        else if e.accountStatus ≠ .active then
          p.decision .waitingIntervention none "ACCOUNT_NOT_READY_FOR_EXECUTION"
        else if accountMode = .manual then
          p.decision .waitingIntervention none "ACCOUNT_REQUIRES_MANUAL_EXECUTION"
        else if p.operationClass.requiresExclusiveAccountCoordination && e.accountMutationBusy then
          p.decision .waitingExecution none "ACCOUNT_EXECUTION_ALREADY_OWNED"
        else if p.executionClass = .humanAssisted then
          p.decision .waitingIntervention none "HUMAN_ASSISTANCE_REQUIRED"
        else
          let (target, executor, reason) := chooseExecutor p accountMode e
          if 0 < e.attemptCount ∧ (target = .localApi ∨ target = .workerJob)
              ∧ (e.previousExecutor = none ∨ executor ≠ e.previousExecutor) then
            p.decision .waitingIntervention none "EXECUTOR_SWITCH_REQUIRES_RECONCILIATION"
          else p.decision target executor reason

end ThreadsPlatform
