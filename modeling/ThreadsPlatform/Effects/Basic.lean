/-
What a transaction can do to the durable state, said once.

An operation writes several tables in an order of its own. What matters
to every property of the platform is which writes belong together: a
job leaves RUNNING *and* its attempt is closed *and* its Command
follows. An `Effect` is such a group, with the facts the operation had
checked before it wrote. There are fifteen; every committed call is a
finite sequence of them (`Effects/`), and every invariant is proved
once per effect.

# The groups

- `JobMoved`: a job ends an attempt, or an operator decides about it.
- `JobClaimed`: a worker takes a job, with a new attempt and, for an
  exclusive job, the account's lease.
- `JobTouched`, `CommandTouched`: a live owner renews or checkpoints.
- `CommandMoved`, `CommandClaimed`: the runtime routes a Command, and
  closes the execution it was in.
- `RequestAdded`, `PreemptionAdded`: a cancellation is asked for, a
  preemption starts to wait. Both kinds of row afterwards only settle.

A route decision that names an executor belongs to the job or the claim
it leads to. The remaining tables (interventions, content) carry no
invariant of their own; `aside` covers them, and decisions that name no
executor.
-/
import ThreadsPlatform.Application.System
import ThreadsPlatform.Domain.Transitions

namespace ThreadsPlatform

open Relational Table

-- ==== rows

/-- The Command status that goes with a job status. -/
def WorkerJobStatus.commandStatus : WorkerJobStatus → CommandStatus
  | .queued | .running | .failedRetryable => .waitingExecution
  | .waitingIntervention => .waitingIntervention
  | .succeeded => .succeeded
  | .failedFinal => .failedFinal
  | .cancelled => .cancelled
  | .expired => .expired

/-- The Command has been handed to a WorkerJob, or is over. -/
def CommandStatus.delegated (status : CommandStatus) : Bool :=
  decide (status = .waitingExecution) || decide (status = .waitingIntervention)
    || status.terminal

/-- The command type runs under the account's exclusive lease. -/
def Settings.exclusive (cfg : Settings) (commandType : String) : Bool :=
  (cfg.policies.policyFor commandType).any fun p =>
    p.operationClass.requiresExclusiveAccountCoordination

/-- A request keeps its target; PENDING it only stays. -/
structure WorkerJobCancelRequest.Settles (r r' : WorkerJobCancelRequest) : Prop where
  id : r'.id = r.id
  workerJobId : r'.workerJobId = r.workerJobId
  generation : r'.generation = r.generation
  targetAttemptId : r'.targetAttemptId = r.targetAttemptId
  targetAttemptNumber : r'.targetAttemptNumber = r.targetAttemptNumber
  pending : r'.status = .pending → r.status = .pending

/-- A preemption keeps its parties; waiting it only stays. -/
structure WorkerJobPreemption.Settles (p p' : WorkerJobPreemption) : Prop where
  id : p'.id = p.id
  accountId : p'.accountId = p.accountId
  preemptorWorkerJobId : p'.preemptorWorkerJobId = p.preemptorWorkerJobId
  victimWorkerJobId : p'.victimWorkerJobId = p.victimWorkerJobId
  waiting : p'.status = .waitingForQuiescence → p.status = .waitingForQuiescence

/-- What no update of a Command changes. -/
structure Command.SameCommand (c c' : Command) : Prop where
  id : c'.id = c.id
  commandId : c'.commandId = c.commandId
  correlationId : c'.correlationId = c.correlationId
  accountId : c'.accountId = c.accountId
  commandType : c'.commandType = c.commandType
  payload : c'.payload = c.payload
  protocolVersion : c'.protocolVersion = c.protocolVersion
  priority : c'.priority = c.priority
  createdAt : c'.createdAt = c.createdAt
  receivedAt : c'.receivedAt = c.receivedAt
  deadlineAt : c'.deadlineAt = c.deadlineAt

theorem WorkerJobCancelRequest.Settles.refl (r : WorkerJobCancelRequest) : r.Settles r := by
  constructor <;> first | rfl | exact fun h => h

theorem WorkerJobCancelRequest.Settles.trans {a b c : WorkerJobCancelRequest}
    (h : a.Settles b) (h' : b.Settles c) : a.Settles c where
  id := h'.id.trans h.id
  workerJobId := h'.workerJobId.trans h.workerJobId
  generation := h'.generation.trans h.generation
  targetAttemptId := h'.targetAttemptId.trans h.targetAttemptId
  targetAttemptNumber := h'.targetAttemptNumber.trans h.targetAttemptNumber
  pending := fun hc => h.pending (h'.pending hc)

theorem WorkerJobPreemption.Settles.refl (p : WorkerJobPreemption) : p.Settles p := by
  constructor <;> first | rfl | exact fun h => h

theorem WorkerJobPreemption.Settles.trans {a b c : WorkerJobPreemption}
    (h : a.Settles b) (h' : b.Settles c) : a.Settles c where
  id := h'.id.trans h.id
  accountId := h'.accountId.trans h.accountId
  preemptorWorkerJobId := h'.preemptorWorkerJobId.trans h.preemptorWorkerJobId
  victimWorkerJobId := h'.victimWorkerJobId.trans h.victimWorkerJobId
  waiting := fun hc => h.waiting (h'.waiting hc)

/-- The cancel requests of one table settle into another. -/
abbrev RequestsSettle (R R' : Table workerJobCancelRequests) : Prop :=
  Evolves WorkerJobCancelRequest.Settles R R'

/-- The preemptions of one table settle into another. -/
abbrev PreemptionsSettle (P P' : Table workerJobPreemptions) : Prop :=
  Evolves WorkerJobPreemption.Settles P P'

-- ==== lease rows

/-- The owner of a live account lease moves its expiry. -/
def LeaseMoved (accountId : Uuid) (ownerType : AccountExecutionOwnerType) (ownerId : String)
    (generation : Int) (now expiry : Time) (L L' : Table accountExecutionLeases) : Prop :=
  ∃ row, L.get? accountId = some row ∧ row.heldBy ownerType ownerId generation now = true
    ∧ Put L { row with leaseExpiresAt := expiry, updatedAt := now } L'

/-- A free account lease is taken, under a generation above the last. -/
structure LeaseTaken (accountId : Uuid) (ownerType : AccountExecutionOwnerType)
    (ownerId : String) (generation : Int) (now expiry : Time)
    (L L' : Table accountExecutionLeases) : Prop where
  positive : 1 ≤ generation
  free : ∀ row, L.get? accountId = some row →
    row.leaseExpiresAt ≤ now ∧ row.fencingGeneration < generation
  put : ∃ row, Put L row L' ∧ row.accountId = accountId ∧ row.ownerType = ownerType
    ∧ row.ownerId = ownerId ∧ row.fencingGeneration = generation
    ∧ row.leaseExpiresAt = expiry

/-- A free account lease is taken and given back at once. -/
def LeaseBumped (accountId : Uuid) (now : Time) (L L' : Table accountExecutionLeases) : Prop :=
  (∀ row, L.get? accountId = some row → row.leaseExpiresAt ≤ now)
    ∧ ∃ row', Put L row' L' ∧ row'.accountId = accountId ∧ row'.leaseExpiresAt ≤ now
      ∧ ∀ row, L.get? accountId = some row → row.fencingGeneration < row'.fencingGeneration

-- ==== shared groups

/-- The result event of a Command, and its delivery. -/
structure ResultStored (c : Command) (O : Table outboxEvents) (D : Table integrationDeliveries)
    (O' : Table outboxEvents) (D' : Table integrationDeliveries) : Prop where
  event : ∃ e δ, O.get? e.id = none ∧ Put O e O' ∧ D.get? δ.id = none ∧ Put D δ D'
    ∧ δ.eventId = e.id ∧ e.eventType = commandResultType ∧ e.aggregateType = "command"
    ∧ e.aggregateId = c.commandId ∧ e.payload.commandId = c.commandId
    ∧ e.payload.status = c.status

/-- One Command is written: along the transition table or in place, with
a result exactly when it ends. Its checkpoint changes only while it is
executed. -/
structure CommandPut (c c' : Command) (C : Table commands) (O : Table outboxEvents)
    (D : Table integrationDeliveries) (C' : Table commands) (O' : Table outboxEvents)
    (D' : Table integrationDeliveries) : Prop where
  stored : C.get? c.commandId = some c
  same : c.SameCommand c'
  allowed : validTransition c.status c'.status = true
    ∨ (c'.status = c.status ∧ c.status.terminal = false)
  put : Put C c' C'
  checkpoint : c'.checkpoint = c.checkpoint ∨ (c.status = .processing ∧ c'.status = .processing)
  result : if c'.status.terminal then ResultStored c' O D O' D' else O' = O ∧ D' = D

/-- The running attempt of a job, if there is one, is closed. -/
def AttemptClosed (now : Time) (s : State) (jobId : Uuid) (outcome : WorkerJobAttemptStatus)
    (A : Table workerJobAttempts) : Prop :=
  (s.runningAttempt? jobId = none ∧ A = s.attempts) ∨ ∃ a code, s.runningAttempt? jobId = some a
      ∧ Put s.attempts (a.close outcome now code) A

/-- The pending cancel request of a job, if there is one, is settled; the
other jobs' requests are left alone. -/
def RequestClosed (s : State) (jobId : Uuid) (R : Table workerJobCancelRequests) : Prop :=
  RequestsSettle s.cancelRequests R
    ∧ (∀ r, s.pendingFor? jobId = some r → ∃ r', R.get? r.id = some r' ∧ r'.status ≠ .pending)
    ∧ ∀ r, s.cancelRequests.get? r.id = some r → r.workerJobId ≠ jobId →
      R.get? r.id = some r

/-- The operations that can end a job its worker does not report on, and
with it the preemptions it waits in. -/
def Op.endsJobs : Op → Bool
  | .recoverExpired _ | .resolveIntervention _ _ _ _ => true
  | _ => false

/-- The lease has run out. -/
def WorkerJob.lapsed (j : WorkerJob) (now : Time) : Bool :=
  j.leaseExpiresAt.any fun e => decide (e ≤ now)

/-- The execution a Command is in, if it is in one, is closed. -/
def ExecutionClosed (now : Time) (s : State) (c : Command) (CA : Table commandAttempts) : Prop :=
  (c.status ≠ .processing ∧ CA = s.commandAttempts)
    ∨ (c.status = .processing ∧ ∃ a outcome code, s.processingAttempt? c.commandId = some a
      ∧ outcome ≠ .processing ∧ Put s.commandAttempts (a.close outcome now code) CA)

/-- A route decision is noted for a Command. -/
def DecisionAdded (RD : Table commandRouteDecisions) (commandId : String)
    (executor : Option CapabilityExecutor) (RD' : Table commandRouteDecisions) : Prop :=
  ∃ decision : CapabilityRouteDecision, RD.get? decision.id = none ∧ Put RD decision RD'
    ∧ decision.commandId = commandId ∧ decision.executor = executor

/-- The Command of a job follows it to a new status. A job that will be
retried leaves its Command waiting. -/
def CommandFollows (s : State) (j : WorkerJob) (status : WorkerJobStatus) (C : Table commands)
    (O : Table outboxEvents) (D : Table integrationDeliveries) : Prop :=
  ((j.commandId = none ∨ status = .failedRetryable)
    ∧ C = s.commands ∧ O = s.outboxEvents ∧ D = s.deliveries)
  ∨ ∃ c, j.commandId = some c.commandId ∧ s.commands.get? c.commandId = some c
    ∧ (c.status = .waitingExecution ∨ c.status = .waitingIntervention)
    ∧ ((c.status = status.commandStatus ∧ C = s.commands ∧ O = s.outboxEvents ∧ D = s.deliveries)
      ∨ ∃ c', CommandPut c c' s.commands s.outboxEvents s.deliveries C O D
        ∧ c'.status = status.commandStatus)

/-- The call finishes a job some preemption waits for without ending the
wait: recovery past a deadline or the last attempt, or an intervention
closed without a requeue. -/
def Strands (call : Call) (s : State) (j : WorkerJob) : Prop :=
  (∃ p ∈ s.preemptions.rows, p.status = .waitingForQuiescence ∧ p.victimWorkerJobId = j.id)
  ∧ match call.op with
    | .recoverExpired limit =>
      j ∈ s.listExpiredForUpdate call.now limit call.draws.rowOrder
        ∧ (j.beforeDeadline call.now = false ∨ j.maxAttempts ≤ j.attemptCount)
    | .resolveIntervention interventionId requeue _ _ =>
      requeue = false ∧ ∃ i, s.interventions.get? interventionId = some i
        ∧ i.status = .open ∧ i.workerJobId = j.id
    | _ => False

/-- The call is an operator's requeue of the suspended job, confirmed as
safe. -/
def Requeues (call : Call) (s : State) (j : WorkerJob) : Prop :=
  s.jobs.get? j.id = some j ∧ j.status = .waitingIntervention ∧ ∃ interventionId resolvedBy i,
      call.op = .resolveIntervention interventionId true true resolvedBy
        ∧ s.interventions.get? interventionId = some i ∧ i.status = .open
        ∧ i.workerJobId = j.id

/-- The typed payload a call brings for a new Command, with its type. -/
def Op.payload? : Op → Option (String × Document)
  | .receive envelope => envelope.typedPayload.map fun payload => (envelope.commandType, payload)
  | .dispatch _ _ _ commandType payload _ => some (commandType, payload)
  | _ => none

-- ==== the effects

section Effects

variable (cfg : Settings) (call : Call) (s₀ s : State)

/-- A cancellation is asked for: a new PENDING request, of a generation
above all of the job's, against the attempt the job runs. -/
structure RequestAdded (j : WorkerJob) (a : WorkerJobAttempt) (r : WorkerJobCancelRequest)
    (R : Table workerJobCancelRequests) : Prop where
  stored : s.jobs.get? j.id = some j
  running : j.status = .running
  attempt : s.runningAttempt? j.id = some a
  stale : ∀ p, s.pendingFor? j.id = some p → p.targetAttemptId ≠ a.id
  newest : ∀ r₂ ∈ s.cancelRequests.rows, r₂.workerJobId = j.id → r₂.generation < r.generation
  workerJobId : r.workerJobId = j.id
  targetAttemptId : r.targetAttemptId = a.id
  targetAttemptNumber : r.targetAttemptNumber = a.attemptNumber
  put : ∃ R₁, RequestsSettle s.cancelRequests R₁ ∧ R₁.get? r.id = none ∧ Put R₁ r R
  others : ∀ r₂, s.cancelRequests.get? r₂.id = some r₂ → r₂.workerJobId ≠ j.id →
    R.get? r₂.id = some r₂

/-- A preemption starts to wait: the new job for the profile the running
one holds. -/
structure PreemptionAdded (p : WorkerJobPreemption) (P : Table workerJobPreemptions) : Prop where
  fresh : s.preemptions.get? p.id = none
  put : Put s.preemptions p P
  waiting : p.status = .waitingForQuiescence
  preemptor : ∃ j, s.jobs.get? p.preemptorWorkerJobId = some j ∧ j.status = .queued
    ∧ j.isBrowserProfile = true ∧ j.accountId = some p.accountId
  victim : ∃ j, s.jobs.get? p.victimWorkerJobId = some j ∧ j.status = .running
    ∧ j.isBrowserProfile = true ∧ j.accountId = some p.accountId

/-- A Command without a job that no attempt, or a worker, has been given
so far is given to a worker. -/
structure RoutedToWorker (commandId : String) (RD : Table commandRouteDecisions) : Prop where
  unlinked : ∀ j ∈ s.jobs.rows, j.commandId ≠ some commandId
  first : s.attemptCountFor commandId = 0 ∨ ∃ decision ∈ s.routeDecisions.rows,
    decision.commandId = commandId ∧ decision.executor = some .worker
  decision : DecisionAdded s.routeDecisions commandId (some .worker) RD

/-- A job is enqueued; the Command it is for waits, and was routed to a
worker unless the call names it itself. -/
structure JobAdded (j : WorkerJob) (J : Table workerJobs) (RD : Table commandRouteDecisions) :
    Prop where
  fresh : s.jobs.get? j.id = none
  put : Put s.jobs j J
  queued : j.status = .queued
  attemptCount : j.attemptCount = 0
  checkpoint : j.checkpoint = none
  command : ∀ commandId, j.commandId = some commandId →
    ∃ c, s.commands.get? commandId = some c ∧ c.status = .waitingExecution
  routed : (RD = s.routeDecisions ∧ s.commandAttempts = s₀.commandAttempts
      ∧ ∃ request, call.op = .enqueue request ∧ request.commandId = j.commandId)
    ∨ ∃ commandId, j.commandId = some commandId ∧ RoutedToWorker s commandId RD

/-- The gate a browser job passes before it is claimed: it preempts
nobody, no other browser job of the account runs, and whatever waits
waits for it. -/
structure ProfileFree (j : WorkerJob) : Prop where
  running : ∀ j₂ ∈ s.jobs.rows, j₂.isBrowserProfile = true → j₂.accountId = j.accountId →
    j₂.status = .running → j₂.id = j.id
  waiting : ∀ p ∈ s.preemptions.rows, some p.accountId = j.accountId →
    p.status = .waitingForQuiescence →
    p.preemptorWorkerJobId ≠ j.id ∧ p.victimWorkerJobId = j.id

/-- A worker claims a job. A job claimed from a lapsed lease first loses
its old attempt and the request against it. -/
structure JobClaimed (j : WorkerJob) (a : WorkerJobAttempt) (w : Uuid) (expiry : Time)
    (g : Option Int) (J : Table workerJobs) (A : Table workerJobAttempts)
    (R : Table workerJobCancelRequests) (L : Table accountExecutionLeases) : Prop where
  op : call.op = .claimNext w
  token : a.leaseToken = call.draws.leaseToken
  stored : s.jobs.get? j.id = some j
  claimable : j.Claimable w call.now expiry g
  jobs : Put s.jobs (j.claimed w call.now expiry a.leaseToken g) J
  workerJobId : a.workerJobId = j.id
  attemptNumber : a.attemptNumber = j.attemptCount + 1
  workerId : a.workerId = w
  running : a.status = .running
  attempts : ∃ A₁, ((j.status = .running ∧ AttemptClosed call.now s j.id .abandoned A₁)
      ∨ (j.status ≠ .running ∧ A₁ = s.attempts))
    ∧ A₁.get? a.id = none ∧ Put A₁ a A
  requests : (j.status = .running ∧ RequestClosed s j.id R)
    ∨ (j.status ≠ .running ∧ R = s.cancelRequests)
  lease : (∃ accountId generation, j.accountId = some accountId ∧ g = some generation
      ∧ LeaseTaken accountId .workerJob (Uuid.str j.id) generation call.now expiry
        s.accountLeases L)
    ∨ (j.requiresCoordination = false ∧ L = s.accountLeases)
  profile : j.isBrowserProfile = true → ProfileFree s j

/-- The live owner of a job renews its lease, together with the
account's, or saves a checkpoint. -/
structure JobTouched (j j' : WorkerJob) (w τ : Uuid) (J : Table workerJobs)
    (L : Table accountExecutionLeases) : Prop where
  stored : s.jobs.get? j.id = some j
  owned : j.ownsLease w τ call.now = true
  same : j.SameJob j'
  status : j'.status = j.status
  attemptCount : j'.attemptCount = j.attemptCount
  leaseWorkerId : j'.leaseWorkerId = j.leaseWorkerId
  leaseToken : j'.leaseToken = j.leaseToken
  generation : j'.accountCoordinationGeneration = j.accountCoordinationGeneration
  retrySafety : j'.retrySafety = j.retrySafety
  authorized : j'.retryAuthorizedByOperator = j.retryAuthorizedByOperator
  checkpoint : j'.checkpoint = j.checkpoint
    ∨ ∃ document, call.op = .checkpoint j.id w τ document ∧ j'.checkpoint = some document
  jobs : Put s.jobs j' J
  lease : (j'.leaseExpiresAt = j.leaseExpiresAt ∧ L = s.accountLeases)
    ∨ ∃ expiry, j'.leaseExpiresAt = some expiry
      ∧ ((j.requiresCoordination = false ∧ L = s.accountLeases)
        ∨ ∃ accountId generation, j.accountId = some accountId
          ∧ j.accountCoordinationGeneration = some generation
          ∧ LeaseMoved accountId .workerJob (Uuid.str j.id) generation call.now expiry
            s.accountLeases L)

/-- A job leaves its lease, or an operator decides about it: its running
attempt is closed, its pending request settled, its Command follows and
its account lease is given back. -/
structure JobMoved (j j' : WorkerJob) (outcome : WorkerJobAttemptStatus) (J : Table workerJobs)
    (A : Table workerJobAttempts) (R : Table workerJobCancelRequests) (C : Table commands)
    (O : Table outboxEvents) (D : Table integrationDeliveries)
    (L : Table accountExecutionLeases) : Prop where
  stored : s.jobs.get? j.id = some j
  unfinished : j.status.terminal = false
  leaves : j.Leaves j'
  jobs : Put s.jobs j' J
  retried : j'.status = .failedRetryable → j.status = .running
  ambiguous : j.retrySafety = .reconciliationRequired →
    j'.retrySafety = .reconciliationRequired
  replayed : j'.status = .queued ∨ j'.status = .failedRetryable →
    j'.retrySafety = .safeToRetry ∨ (j'.retryAuthorizedByOperator = true ∧ Requeues call s₀ j)
  outcome_closed : outcome ≠ .running
  outcome_cancelled : outcome = .cancelled →
    ∃ w τ r n phase, call.op = .acknowledgeCancel j.id w τ r n phase
  ending : (j.status = .waitingIntervention ∧ A = s.attempts ∧ R = s.cancelRequests)
    ∨ (AttemptClosed call.now s j.id outcome A ∧ RequestClosed s j.id R)
  command : CommandFollows s j j'.status C O D
  lease : L = s.accountLeases ∨ ∃ accountId generation, j.accountId = some accountId
    ∧ j.accountCoordinationGeneration = some generation
    ∧ LeaseMoved accountId .workerJob (Uuid.str j.id) generation call.now call.now
      s.accountLeases L
  victim : j'.status.terminal = true →
    (∀ p ∈ s.preemptions.rows, p.status = .waitingForQuiescence → p.victimWorkerJobId ≠ j.id)
      ∨ Strands call s₀ j

/-- A Command is received or dispatched. Unless it is rejected it has
the payload the call brings. -/
structure CommandAdded (c : Command) (C : Table commands) (O : Table outboxEvents)
    (D : Table integrationDeliveries) : Prop where
  fresh : s.commands.get? c.commandId = none
  put : Put s.commands c C
  status : c.status = .received ∨ c.status = .rejected ∨ c.status = .expired
  named : notBlank c.commandId = true ∧ notBlank c.commandType = true
  payload : c.status = .rejected ∨ call.op.payload? = some (c.commandType, c.payload)
  checkpoint : c.checkpoint = none
  result : if c.status.terminal then ResultStored c s.outboxEvents s.deliveries O D
    else O = s.outboxEvents ∧ D = s.deliveries

/-- The runtime moves a Command anywhere but into PROCESSING. Only
`process` looks at a Command a job may be linked to. An execution is
closed by its claim, or after its lease; one that is closed without an
end has attempts left. -/
structure CommandMoved (c c' : Command) (CA : Table commandAttempts) (C : Table commands)
    (O : Table outboxEvents) (D : Table integrationDeliveries)
    (L : Table accountExecutionLeases) : Prop where
  put : CommandPut c c' s.commands s.outboxEvents s.deliveries C O D
  status : c'.status ≠ .processing
  attempts : ExecutionClosed call.now s c CA
  held : c.status = .processing →
    c.executionLeaseExpiresAt.all (fun e => decide (e ≤ call.now)) = true
      ∨ ∃ κ, call.op.claim? = some κ ∧ c.executionLeaseToken = some κ.leaseToken
  retried : c.status = .processing → c'.status.terminal = false →
    s.attemptCountFor c.commandId < cfg.retryPolicy.maxAttempts
      ∨ ∃ a, s.processingAttempt? c.commandId = some a
        ∧ a.attemptNumber < cfg.retryPolicy.maxAttempts
  linked : c.status.delegated = true → (∃ id, call.op = .process id)
    ∨ ∀ j ∈ s.jobs.rows, j.commandId ≠ some c.commandId
  lease : L = s.accountLeases ∨ ∃ κ ∈ s.claims, κ.commandId = c.commandId
    ∧ ∃ generation, κ.accountCoordinationGeneration = some generation
      ∧ LeaseMoved κ.accountId .command (Uuid.str κ.attemptId) generation call.now call.now
        s.accountLeases L

/-- An API executor is given a Command, with a new attempt and, for an
exclusive one, the account's lease. A call gives one claim at most. -/
structure CommandClaimed (c c' : Command) (κ : ExecutionClaim) (a : CommandAttempt)
    (expiry : Time) (CA : Table commandAttempts) (RD : Table commandRouteDecisions)
    (C : Table commands) (L : Table accountExecutionLeases) : Prop where
  first : s.claims = s₀.claims
  put : CommandPut c c' s.commands s.outboxEvents s.deliveries C s.outboxEvents s.deliveries
  unlinked : ∀ j ∈ s.jobs.rows, j.commandId ≠ some c.commandId
  status : c'.status = .processing
  lapsed : c.status = .processing →
    c.executionLeaseExpiresAt.all (fun e => decide (e ≤ call.now)) = true
  leaseToken : c'.executionLeaseToken = some κ.leaseToken
  leaseExpiresAt : c'.executionLeaseExpiresAt = some expiry
  commandId : κ.commandId = c.commandId
  accountId : κ.accountId = c.accountId
  checkpoint : c'.checkpoint = c.checkpoint
  token : κ.leaseToken = call.draws.leaseToken
  attemptId : κ.attemptId = a.id
  claimNumber : κ.attemptNumber = a.attemptNumber
  attemptOf : a.commandId = c.commandId
  attemptNumber : a.attemptNumber = s.attemptCountFor c.commandId + 1
  attemptStatus : a.status = .processing
  attempts : ∃ CA₁, ExecutionClosed call.now s c CA₁ ∧ CA₁.get? a.id = none ∧ Put CA₁ a CA
  retried : c.status = .processing →
    s.attemptCountFor c.commandId < cfg.retryPolicy.maxAttempts
  decision : DecisionAdded s.routeDecisions c.commandId (some .api) RD
  lease : (cfg.exclusive c.commandType = true ∧ ∃ generation,
      κ.accountCoordinationGeneration = some generation
      ∧ LeaseTaken c.accountId .command (Uuid.str κ.attemptId) generation call.now expiry
        s.accountLeases L)
    ∨ (cfg.exclusive c.commandType = false ∧ κ.accountCoordinationGeneration = none
      ∧ L = s.accountLeases)

/-- An API executor with a live lease renews it, together with the
account's, or saves a checkpoint. -/
structure CommandTouched (c c' : Command) (κ : ExecutionClaim) (C : Table commands)
    (L : Table accountExecutionLeases) : Prop where
  put : CommandPut c c' s.commands s.outboxEvents s.deliveries C s.outboxEvents s.deliveries
  op : call.op.claim? = some κ
  claim : κ ∈ s.claims
  commandId : κ.commandId = c.commandId
  token : c.executionLeaseToken = some κ.leaseToken
  checkpoint : c'.checkpoint = c.checkpoint ∨ ∃ data, call.op = .persistCheckpoint κ data
    ∧ c'.checkpoint = some data
  processing : c.status = .processing
  status : c'.status = .processing
  live : ∃ e, c.executionLeaseExpiresAt = some e ∧ call.now < e
  leaseToken : c'.executionLeaseToken = c.executionLeaseToken
  lease : (c'.executionLeaseExpiresAt = c.executionLeaseExpiresAt ∧ L = s.accountLeases)
    ∨ ∃ expiry, c'.executionLeaseExpiresAt = some expiry
      ∧ ((κ.accountCoordinationGeneration = none ∧ L = s.accountLeases)
        ∨ ∃ generation, κ.accountCoordinationGeneration = some generation
          ∧ LeaseMoved κ.accountId .command (Uuid.str κ.attemptId) generation call.now expiry
            s.accountLeases L)

end Effects

/-- The effects a call, made in state `s₀`, is made of. -/
inductive Effect (cfg : Settings) (call : Call) (s₀ : State) : State → State → Prop
  | aside {s : State} (I : Table workerInterventions) (P Q : Table contentRows)
      (S : Table syncStates) (W : Surroundings)
      (hW : W = s.surroundings ∨ ∃ next, call.op = .surroundings next) :
      Effect cfg call s₀ s { s with
        interventions := I, posts := P, replies := Q, syncStates := S, surroundings := W }
  | decided {s : State} {commandId : String} {RD : Table commandRouteDecisions}
      (h : DecisionAdded s.routeDecisions commandId none RD) :
      Effect cfg call s₀ s { s with routeDecisions := RD }
  | requestsSettled {s : State} {R : Table workerJobCancelRequests}
      (h : RequestsSettle s.cancelRequests R)
      (hcause : call.op.endsJobs = true ∨ ∃ j, s₀.jobs.get? j.id = some j
        ∧ j.lapsed call.now = true ∧ RequestClosed s j.id R) :
      Effect cfg call s₀ s { s with cancelRequests := R }
  | requestAdded {s : State} {j : WorkerJob} {a : WorkerJobAttempt}
      {r : WorkerJobCancelRequest} {R : Table workerJobCancelRequests}
      (h : RequestAdded s j a r R) :
      Effect cfg call s₀ s { s with cancelRequests := R }
  | preemptionsSettled {s : State} {P : Table workerJobPreemptions}
      (h : PreemptionsSettle s.preemptions P) :
      Effect cfg call s₀ s { s with preemptions := P }
  | preemptionAdded {s : State} {p : WorkerJobPreemption} {P : Table workerJobPreemptions}
      (h : PreemptionAdded s p P) :
      Effect cfg call s₀ s { s with preemptions := P }
  | jobAdded {s : State} {j : WorkerJob} {J : Table workerJobs}
      {RD : Table commandRouteDecisions} (h : JobAdded call s₀ s j J RD) :
      Effect cfg call s₀ s { s with jobs := J, routeDecisions := RD }
  | jobClaimed {s : State} {j : WorkerJob} {a : WorkerJobAttempt} {w : Uuid} {expiry : Time}
      {g : Option Int} {J : Table workerJobs} {A : Table workerJobAttempts}
      {R : Table workerJobCancelRequests} {L : Table accountExecutionLeases}
      (h : JobClaimed call s j a w expiry g J A R L) :
      Effect cfg call s₀ s { s with
        jobs := J, attempts := A, cancelRequests := R, accountLeases := L }
  | leaseBumped {s : State} {accountId : Uuid} {L : Table accountExecutionLeases}
      (h : LeaseBumped accountId call.now s.accountLeases L) :
      Effect cfg call s₀ s { s with accountLeases := L }
  | jobTouched {s : State} {j j' : WorkerJob} {w τ : Uuid} {J : Table workerJobs}
      {L : Table accountExecutionLeases} (h : JobTouched call s j j' w τ J L) :
      Effect cfg call s₀ s { s with jobs := J, accountLeases := L }
  | jobMoved {s : State} {j j' : WorkerJob} {outcome : WorkerJobAttemptStatus}
      {J : Table workerJobs} {A : Table workerJobAttempts}
      {R : Table workerJobCancelRequests} {C : Table commands} {O : Table outboxEvents}
      {D : Table integrationDeliveries} {L : Table accountExecutionLeases}
      (h : JobMoved call s₀ s j j' outcome J A R C O D L) :
      Effect cfg call s₀ s { s with
        jobs := J, attempts := A, cancelRequests := R, commands := C
        outboxEvents := O, deliveries := D, accountLeases := L }
  | commandAdded {s : State} {c : Command} {C : Table commands} {O : Table outboxEvents}
      {D : Table integrationDeliveries} (h : CommandAdded call s c C O D) :
      Effect cfg call s₀ s { s with commands := C, outboxEvents := O, deliveries := D }
  | commandMoved {s : State} {c c' : Command} {CA : Table commandAttempts}
      {C : Table commands} {O : Table outboxEvents} {D : Table integrationDeliveries}
      {L : Table accountExecutionLeases} (h : CommandMoved cfg call s c c' CA C O D L) :
      Effect cfg call s₀ s { s with
        commandAttempts := CA, commands := C, outboxEvents := O, deliveries := D
        accountLeases := L }
  | commandClaimed {s : State} {c c' : Command} {κ : ExecutionClaim} {a : CommandAttempt}
      {expiry : Time} {CA : Table commandAttempts} {RD : Table commandRouteDecisions}
      {C : Table commands} {L : Table accountExecutionLeases}
      (h : CommandClaimed cfg call s₀ s c c' κ a expiry CA RD C L) :
      Effect cfg call s₀ s { s with
        commandAttempts := CA, routeDecisions := RD, commands := C, accountLeases := L
        claims := κ :: s.claims }
  | commandTouched {s : State} {c c' : Command} {κ : ExecutionClaim} {C : Table commands}
      {L : Table accountExecutionLeases} (h : CommandTouched call s c c' κ C L) :
      Effect cfg call s₀ s { s with commands := C, accountLeases := L }

/-- A finite sequence of effects. -/
abbrev Effects (cfg : Settings) (call : Call) (s₀ : State) : State → State → Prop :=
  Relation.ReflTransGen (Effect cfg call s₀)

end ThreadsPlatform
