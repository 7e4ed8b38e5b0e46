/-
`WorkerControlService`: a worker's presence and its drain.

A worker row is the `WorkerNode` the job service reads, with the browser
sessions beside it. `hello` and `heartbeat` are the worker's own
messages, the drain operations an operator's or the worker's, and
`expire_presence` a timer's. Each locks the row, so it is one
transaction; `workerControl` interleaves them with every transaction of
the two services. Those never write a worker row.

Names, versions of the agent, enrollment secrets and audit events are
written here and read by nothing that is modelled.
-/
import ThreadsPlatform.Application.System

namespace ThreadsPlatform

open Relational

-- ==== errors

/-- What the service raises. -/
inductive WorkerControlError where
  | browserCapacitySummaryRequired | workerAdvertisedBlockedCapability | workerUnauthorized
  | workerNotFound | browserSessionCapacityExceeded | invalidBrowserSessionCapacity
  | invalidActiveBrowserSessions | invalidDrainReasonCode | workerDrainNotAllowed
  | workerNotDraining | workerDrainNotQuiescent
  /-- The `ValueError` of a batch size. -/
  | presenceExpiryLimit
  /-- An `IntegrityError`: a CHECK constraint of `worker_nodes`. -/
  | integrity
  deriving DecidableEq

-- ==== state

/-- `max_browser_sessions` and `active_browser_sessions`. -/
structure BrowserSessions where
  max : Int
  active : Int
  deriving DecidableEq

/-- The durable state, with the browser sessions of the workers. -/
structure Control where
  state : State
  sessions : Uuid → BrowserSessions

/-- What the service is configured with, beside the platform. -/
structure ControlSettings where
  platform : Settings
  presenceTtl : Duration

namespace Control

/-- The status of a worker. -/
def status? (C : Control) (workerId : Uuid) : Option WorkerStatus :=
  (C.state.worker? workerId).map WorkerNode.status

/-- `workers.update`: the row, under the CHECK constraints of its
table. -/
def update (C : Control) (worker : WorkerNode) (sessions : BrowserSessions) :
    Except WorkerControlError Control := do
  require (0 < worker.maxConcurrentJobs ∧ 0 < sessions.max ∧ 0 ≤ sessions.active
      ∧ sessions.active ≤ sessions.max
      ∧ worker.capabilitiesSchemaVersion.all (fun v => decide (0 < v)) = true) .integrity
  return {
    state := { C.state with
      surroundings := { C.state.surroundings with
        workers := C.state.surroundings.workers.map fun row =>
          if row.workerId = worker.workerId then worker else row } }
    sessions := Function.update C.sessions worker.workerId sessions }

/-- `worker_capabilities.replace_for_worker`. -/
def replaceCapabilities (C : Control) (workerId : Uuid) (capabilities : List WorkerCapability) :
    Control :=
  { C with
    state := { C.state with
      surroundings := { C.state.surroundings with
        capabilities := C.state.surroundings.capabilities.filter
          (fun c => decide (c.workerId ≠ workerId)) ++ capabilities } } }

/-- `count_running_for_worker`: every RUNNING job leased to the worker,
lapsed leases too. -/
def runningCount (C : Control) (workerId : Uuid) : Nat :=
  (C.state.jobs.rows.filter fun j => decide (j.status = .running)
    && decide (j.leaseWorkerId = some workerId)).length

end Control

-- ==== messages

/-- A `hello`. The access token, if one is presented, stands for the
worker of the active session it opens. -/
structure Hello where
  workerId : Uuid
  protocolVersion : Int
  capabilitiesSchemaVersion : Int
  capabilities : List WorkerCapability
  maxConcurrentJobs : Option Int
  maxBrowserSessions : Option Int
  activeBrowserSessions : Option Int
  healthy : Bool
  accessToken : Option (Option Uuid)

/-- A `heartbeat`. -/
structure Heartbeat where
  workerId : Uuid
  healthy : Bool
  activeBrowserSessions : Option Int
  accessToken : Option (Option Uuid)

/-- `WorkerPresence`. -/
structure WorkerPresence where
  workerId : Uuid
  status : WorkerStatus
  lastHeartbeatAt : Time
  presenceExpiresAt : Time
  protocolCompatible : Bool
  maxBrowserSessions : Option Int
  activeBrowserSessions : Option Int
  deriving DecidableEq

/-- The status after a message: an unsupported version first, then the
two statuses a message leaves alone, then the worker's health. -/
def statusAfter (compatible healthy : Bool) (status : WorkerStatus) : WorkerStatus :=
  if compatible = false then .upgradeRequired
  else if status = .disabled ∨ status = .draining then status
  else if healthy then .online else .degraded

namespace WorkerControlService

variable (cfg : ControlSettings) (now : Time)

/-- `_require_active_access_token`, where a token is presented. -/
def requireActiveAccessToken (workerId : Uuid) (accessToken : Option (Option Uuid)) :
    Except WorkerControlError Unit :=
  require (accessToken.all (fun session => decide (session = some workerId)) = true)
    .workerUnauthorized

/-- `worker_capability_advertisement_allowed`. -/
def advertisementAllowed (name : String) : Bool :=
  (cfg.platform.workerPolicies.policyFor name).all fun policy => policy.blockedReasonCode.isNone

/-- The report of a worker's browser sessions, as both messages check
it. -/
def reportSessions (sessions : BrowserSessions) (active : Option Int) :
    Except WorkerControlError BrowserSessions :=
  match active with
  | none => return sessions
  | some active => do
      require (0 ≤ active) .invalidActiveBrowserSessions
      require (active ≤ sessions.max) .browserSessionCapacityExceeded
      return { sessions with active := active }

/-- The presence a message is answered with. -/
def presence (worker : WorkerNode) (sessions : BrowserSessions) (compatible : Bool) :
    WorkerPresence where
  workerId := worker.workerId
  status := worker.status
  lastHeartbeatAt := now
  presenceExpiresAt := now + cfg.presenceTtl
  protocolCompatible := compatible
  maxBrowserSessions := if worker.protocolVersion = some 2 then some sessions.max else none
  activeBrowserSessions := if worker.protocolVersion = some 2 then some sessions.active else none

/-- `hello`. -/
def hello (message : Hello) (C : Control) : Except WorkerControlError (WorkerPresence × Control) :=
  do
  require (message.protocolVersion = 2 →
      message.maxBrowserSessions.isSome = true ∧ message.activeBrowserSessions.isSome = true)
    .browserCapacitySummaryRequired
  require (message.capabilities.all (fun c => advertisementAllowed cfg c.name) = true)
    .workerAdvertisedBlockedCapability
  let compatible := isWorkerProtocolSupported (some message.protocolVersion)
    (some message.capabilitiesSchemaVersion)
  requireActiveAccessToken message.workerId message.accessToken
  let worker ← orThrow (C.state.worker? message.workerId) .workerNotFound
  let stored := C.sessions message.workerId
  -- `max_browser_sessions or worker.max_browser_sessions`: a zero counts as missing
  let reportedMax := (message.maxBrowserSessions.filter (fun m => decide (m ≠ 0))).getD stored.max
  require (message.activeBrowserSessions.getD stored.active ≤ reportedMax)
    .browserSessionCapacityExceeded
  require (message.maxBrowserSessions.all (fun m => decide (1 ≤ m)) = true)
    .invalidBrowserSessionCapacity
  let sessions ← reportSessions { stored with max := message.maxBrowserSessions.getD stored.max }
    message.activeBrowserSessions
  let worker : WorkerNode := { worker with
    maxConcurrentJobs := message.maxConcurrentJobs.getD worker.maxConcurrentJobs
    protocolVersion := some message.protocolVersion
    capabilitiesSchemaVersion := some message.capabilitiesSchemaVersion
    presenceExpiresAt := some (now + cfg.presenceTtl)
    status := statusAfter compatible message.healthy worker.status }
  let C ← C.update worker sessions
  let C := if message.capabilitiesSchemaVersion = 1 then
      C.replaceCapabilities message.workerId message.capabilities
    else C
  return (presence cfg now worker sessions compatible, C)

/-- `heartbeat`. -/
def heartbeat (message : Heartbeat) (C : Control) :
    Except WorkerControlError (WorkerPresence × Control) := do
  requireActiveAccessToken message.workerId message.accessToken
  let worker ← orThrow (C.state.worker? message.workerId) .workerNotFound
  require (worker.protocolVersion = some 2 → message.activeBrowserSessions.isSome = true)
    .browserCapacitySummaryRequired
  let sessions ← reportSessions (C.sessions message.workerId) message.activeBrowserSessions
  let compatible := isWorkerProtocolSupported worker.protocolVersion
    worker.capabilitiesSchemaVersion
  let worker : WorkerNode := { worker with
    presenceExpiresAt := some (now + cfg.presenceTtl)
    status := statusAfter compatible message.healthy worker.status }
  let C ← C.update worker sessions
  return (presence cfg now worker sessions compatible, C)

-- ==== drain

/-- A full match of `[A-Z][A-Z0-9_]{0,79}`. -/
def isDrainReasonCode (s : String) : Bool :=
  s.toList.head?.any (fun c => 'A' ≤ c && c ≤ 'Z') && decide (s.toList.length ≤ 80)
    && s.toList.all fun c => ('A' ≤ c && c ≤ 'Z') || ('0' ≤ c && c ≤ '9') || c == '_'

/-- `request_drain`. -/
def requestDrain (workerId : Uuid) (reasonCode : String) (C : Control) :
    Except WorkerControlError (Bool × Control) := do
  require (isDrainReasonCode reasonCode = true) .invalidDrainReasonCode
  let worker ← orThrow (C.state.worker? workerId) .workerNotFound
  if worker.status = .draining then return (false, C)
  require (worker.status = .online ∨ worker.status = .degraded) .workerDrainNotAllowed
  let C ← C.update { worker with status := .draining } (C.sessions workerId)
  return (true, C)

/-- `complete_drain`. -/
def completeDrain (workerId : Uuid) (C : Control) : Except WorkerControlError Control := do
  let worker ← orThrow (C.state.worker? workerId) .workerNotFound
  require (worker.status = .draining) .workerNotDraining
  require ((C.sessions workerId).active = 0 ∧ C.runningCount workerId = 0)
    .workerDrainNotQuiescent
  C.update { worker with status := .offline } (C.sessions workerId)

/-- `abort_drain`. -/
def abortDrain (workerId : Uuid) (C : Control) : Except WorkerControlError Control := do
  let worker ← orThrow (C.state.worker? workerId) .workerNotFound
  require (worker.status = .draining) .workerNotDraining
  C.update { worker with status := .offline } (C.sessions workerId)

/-- The worker is taken for present although its presence has lapsed. -/
def presenceLapsed (worker : WorkerNode) : Bool :=
  (decide (worker.status = .online) || decide (worker.status = .degraded))
    && worker.presenceExpiresAt.any fun t => decide (t ≤ now)

/-- By the end of presence, then by id. -/
def lapsedBefore (a b : WorkerNode) : Prop :=
  a.presenceExpiresAt.getD 0 < b.presenceExpiresAt.getD 0
    ∨ (a.presenceExpiresAt.getD 0 = b.presenceExpiresAt.getD 0 ∧ a.workerId ≤ b.workerId)

instance : DecidableRel lapsedBefore := fun _ _ => inferInstanceAs (Decidable (_ ∨ _))

/-- `list_expired_presence_for_update`, which skips the rows others have
locked. -/
def listExpiredPresence (limit : Nat) (locked : Uuid → Bool) (C : Control) : List WorkerNode :=
  ((C.state.surroundings.workers.filter fun worker =>
      presenceLapsed now worker && !locked worker.workerId).insertionSort lapsedBefore).take limit

/-- One worker of `expire_presence`, read again. -/
def expireOne (C : Control) (snapshot : WorkerNode) : Except WorkerControlError Control :=
  match C.state.worker? snapshot.workerId with
  | none => return C
  | some worker =>
    if presenceLapsed now worker then
      C.update { worker with status := .offline } (C.sessions worker.workerId)
    else return C

/-- `expire_presence`. -/
def expirePresence (limit : Nat) (locked : Uuid → Bool) (C : Control) :
    Except WorkerControlError Control := do
  require (1 ≤ limit ∧ limit ≤ 100) .presenceExpiryLimit
  (listExpiredPresence now limit locked C).foldlM (expireOne now) C

end WorkerControlService

-- ==== the machine

/-- One transaction of the service, or of the two others. -/
inductive ControlEvent where
  | hello (now : Time) (message : Hello)
  | heartbeat (now : Time) (message : Heartbeat)
  | requestDrain (workerId : Uuid) (reasonCode : String)
  | completeDrain (workerId : Uuid)
  | abortDrain (workerId : Uuid)
  | expirePresence (now : Time) (limit : Nat) (locked : Uuid → Bool)
  | call (call : Call)

namespace Control

open WorkerControlService

/-- What an event commits. -/
def after (cfg : ControlSettings) (C : Control) : ControlEvent → Control
  | .hello now message => commit (Prod.snd <$> hello cfg now message C) C
  | .heartbeat now message => commit (Prod.snd <$> heartbeat cfg now message C) C
  | .requestDrain workerId reasonCode => commit (Prod.snd <$> requestDrain workerId reasonCode C) C
  | .completeDrain workerId => commit (completeDrain workerId C) C
  | .abortDrain workerId => commit (abortDrain workerId C) C
  | .expirePresence now limit locked => commit (expirePresence now limit locked C) C
  | .call call => { C with state := (machine cfg.platform).step C.state call }

end Control

/-- Worker control beside the two services. Accounts, assignments and
activities change as they like; worker rows are written here only. -/
def workerControl (cfg : ControlSettings) : Machine Control ControlEvent where
  init C := ∃ surroundings, C.state = .initial surroundings
  enabled C e := ∀ call, e = .call call → (machine cfg.platform).enabled C.state call
    ∧ ∀ next, call.op = .surroundings next → next.workers = C.state.surroundings.workers
  step := Control.after cfg

end ThreadsPlatform
