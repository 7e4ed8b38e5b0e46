/-
Commands, their local API attempts, the account execution lease, and
the outbox rows that report a finished Command.

`Command.transition` is a table of allowed pairs plus three side
conditions; the table is `validTransition`. The outbox event's payload
is kept as the record `CRMCommandResultV1` dumps to JSON. Payloads are
compared as Python compares them: `Json.pyEq`.
-/
import Mathlib.Data.Rat.Floor
import ThreadsPlatform.Domain.Basic
import ThreadsPlatform.Relational.Transaction

namespace ThreadsPlatform

open Relational

-- ==== payloads

/-- The value of a run of decimal digits. -/
def digitsValue (digits : List Char) : Nat :=
  digits.foldl (fun n c => 10 * n + (c.toNat - '0'.toNat)) 0

/-- The number a float's `repr` prints; `inf` and `nan` print none. -/
def floatValue (repr : String) : Option Rat :=
  let negative := repr.toList.head? = some '-'
  let text := if negative then repr.toList.tail else repr.toList
  let mantissa := text.takeWhile (· ≠ 'e')
  let exponent := (text.dropWhile (· ≠ 'e')).tail
  let whole := mantissa.takeWhile (· ≠ '.')
  let fraction := (mantissa.dropWhile (· ≠ '.')).tail
  let power : Int := digitsValue (exponent.filter Char.isDigit)
  let scale := (if exponent.head? = some '-' then -power else power) - fraction.length
  let digits : Rat := digitsValue (whole ++ fraction)
  if whole ≠ [] ∧ whole.all Char.isDigit then
    some ((if negative then -digits else digits) * 10 ^ scale)
  else none

/-- What `==` compares of a number: a `bool` is one of Python's. -/
def Json.number? : Json → Option Rat
  | .bool b => some (if b then 1 else 0)
  | .int n => some n
  | .float repr => floatValue repr
  | _ => none

mutual

/-- Python's `==` of JSON values: numbers by value, `true` being 1. -/
def Json.pyEq : Json → Json → Bool
  | .null, .null => true
  | .str a, .str b => a == b
  | .arr a, .arr b => Json.pyEqItems a b
  | .obj a, .obj b => Json.pyEqFields a b
  | .bool a, b => b.number? == some (if a then 1 else 0)
  | .int a, b => b.number? == some (a : Rat)
  | .float a, b => (floatValue a).isSome && b.number? == floatValue a
  | _, _ => false

/-- `==` of arrays. -/
def Json.pyEqItems : List Json → List Json → Bool
  | [], [] => true
  | x :: xs, y :: ys => Json.pyEq x y && Json.pyEqItems xs ys
  | _, _ => false

/-- `==` of objects: the same keys, with equal values. -/
def Json.pyEqFields : List (String × Json) → List (String × Json) → Bool
  | [], [] => true
  | (k, x) :: xs, (l, y) :: ys => k == l && Json.pyEq x y && Json.pyEqFields xs ys
  | _, _ => false

end

mutual

/-- A value `jsonb` can hold: every float is a number, and no text has a
NUL. -/
def Json.storable : Json → Bool
  | .float repr => (floatValue repr).isSome
  | .str s => nulFree s
  | .arr items => Json.storableItems items
  | .obj fields => Json.storableFields fields
  | _ => true

/-- Every item is one. -/
def Json.storableItems : List Json → Bool
  | [] => true
  | x :: xs => x.storable && Json.storableItems xs

/-- Every field has a key that is a text and a value that is one. -/
def Json.storableFields : List (String × Json) → Bool
  | [] => true
  | (k, x) :: xs => nulFree k && x.storable && Json.storableFields xs

end

mutual

/-- A value that can be held equals itself; `nan` would not. -/
theorem Json.pyEq_refl : ∀ {a : Json}, a.storable = true → a.pyEq a = true
  | .null, _ => rfl
  | .bool b, _ => by simp [Json.pyEq, Json.number?]
  | .int n, _ => by simp [Json.pyEq, Json.number?]
  | .float repr, h => by
      have hvalue : (floatValue repr).isSome = true := h
      simp [Json.pyEq, Json.number?, hvalue]
  | .str s, _ => by simp [Json.pyEq]
  | .arr items, h => Json.pyEqItems_refl h
  | .obj fields, h => Json.pyEqFields_refl h

theorem Json.pyEqItems_refl : ∀ {items : List Json}, Json.storableItems items = true →
    Json.pyEqItems items items = true
  | [], _ => rfl
  | x :: xs, h => by
      simp only [Json.storableItems, Bool.and_eq_true] at h
      simp only [Json.pyEqItems, Bool.and_eq_true]
      exact ⟨Json.pyEq_refl h.1, Json.pyEqItems_refl h.2⟩

theorem Json.pyEqFields_refl : ∀ {fields : List (String × Json)},
    Json.storableFields fields = true → Json.pyEqFields fields fields = true
  | [], _ => rfl
  | (k, x) :: xs, h => by
      simp only [Json.storableFields, Bool.and_eq_true] at h
      simp only [Json.pyEqFields, Bool.and_eq_true, beq_self_eq_true, true_and]
      exact ⟨Json.pyEq_refl h.1.2, Json.pyEqFields_refl h.2⟩

end

example : Json.pyEq (.bool true) (.float "1.0") = true := by decide +kernel

-- ==== commands

/-- `Command`. -/
structure Command where
  id : Uuid
  commandId : String
  correlationId : String
  accountId : Uuid
  commandType : String
  payload : Document
  protocolVersion : Int
  priority : Int
  status : CommandStatus
  createdAt : Time
  receivedAt : Time
  deadlineAt : Option Time
  nextRetryAt : Option Time
  validatedAt : Option Time
  startedAt : Option Time
  completedAt : Option Time
  result : Option Document
  errorCode : Option String
  executionLeaseToken : Option Uuid
  executionLeaseExpiresAt : Option Time
  checkpoint : Option Document
  deriving DecidableEq

/-- `_VALID_TRANSITIONS`. -/
def validTransition : CommandStatus → CommandStatus → Bool
  | .received, .validated | .received, .rejected | .received, .expired => true
  | .validated, .processing | .validated, .waitingExecution
  | .validated, .waitingIntervention | .validated, .rejected
  | .validated, .expired => true
  | .processing, .succeeded | .processing, .failedRetryable
  | .processing, .failedFinal | .processing, .waitingExecution
  | .processing, .waitingIntervention | .processing, .expired => true
  | .waitingExecution, .waitingIntervention | .waitingExecution, .processing
  | .waitingExecution, .succeeded | .waitingExecution, .failedFinal
  | .waitingExecution, .cancelled | .waitingExecution, .expired => true
  | .waitingIntervention, .waitingExecution | .waitingIntervention, .failedFinal
  | .waitingIntervention, .expired => true
  | .failedRetryable, .processing | .failedRetryable, .waitingExecution
  | .failedRetryable, .waitingIntervention | .failedRetryable, .expired
  | .failedRetryable, .failedFinal => true
  | _, _ => false

namespace Command

/-- The CHECK constraints of the `commands` table. -/
def checkConstraints (c : Command) : Bool :=
  (decide (c.priority = -100) || decide (c.priority = 0) || decide (c.priority = 100))
    && decide (c.executionLeaseToken.isNone = c.executionLeaseExpiresAt.isNone)

/-- `Command.__post_init__`. -/
def postInit (c : Command) : Except Failure Unit := do
  require (notBlank c.commandId = true ∧ notBlank c.correlationId = true)
    (.value "command_id and correlation_id must not be empty")
  require (notBlank c.commandType = true ∧ 1 ≤ c.protocolVersion)
    (.value "command type and protocol version are invalid")
  require (c.priority = -100 ∨ c.priority = 0 ∨ c.priority = 100)
    (.value "command priority must be LOW (-100), NORMAL (0), or HIGH (100)")
  require (c.executionLeaseToken.isNone = c.executionLeaseExpiresAt.isNone)
    (.value "execution lease token and expiry must be set together")

/-- The deadline, if there is one, has been reached at `t`. -/
def deadlineReached (c : Command) (t : Time) : Bool :=
  c.deadlineAt.any fun d => decide (d ≤ t)

/-- A new Command: the constructor with its defaults. -/
def create (id : Uuid) (commandId correlationId : String) (accountId : Uuid)
    (commandType : String) (payload : Document) (protocolVersion priority : Int)
    (createdAt receivedAt : Time) (deadlineAt : Option Time) : Except Failure Command := do
  let c : Command := {
    id, commandId, correlationId, accountId, commandType, payload, protocolVersion
    priority, createdAt, receivedAt, deadlineAt
    status := .received
    nextRetryAt := none
    validatedAt := none
    startedAt := none
    completedAt := none
    result := none
    errorCode := none
    executionLeaseToken := none
    executionLeaseExpiresAt := none
    checkpoint := none }
  c.postInit
  return c

/-- `transition`. -/
def transition (c : Command) (target : CommandStatus) (now : Time)
    (errorCode : Option String) (result : Option Document) (nextRetryAt : Option Time) :
    Except Failure Command := do
  require (validTransition c.status target = true) (.invalidTransition c.status target)
  require (target = .processing → c.deadlineReached now = false)
    (.value "expired command cannot enter processing")
  require (target = .failedRetryable → nextRetryAt.any (fun r => decide (now < r)) = true)
    (.value "retryable failure requires a future retry time")
  require (target = .failedRetryable →
      c.deadlineAt.all (fun d => nextRetryAt.all fun r => decide (r < d)) = true)
    (.value "retry time must be before the command deadline")
  return { c with
    status := target
    errorCode := errorCode
    nextRetryAt := if target = .processing then none else nextRetryAt
    validatedAt := if target = .validated then some now else c.validatedAt
    startedAt := if target = .processing then some now else c.startedAt
    completedAt := if target.terminal then some now else c.completedAt
    result := if target = .succeeded then some (result.getD []) else c.result }

/-- `reclaim`. -/
def reclaim (c : Command) (now : Time) : Except Failure Command := do
  require (c.status = .processing)
    (.value "only an expired processing command can be reclaimed")
  require (c.deadlineReached now = false) (.value "expired command cannot be reclaimed")
  return { c with startedAt := some now, errorCode := none, nextRetryAt := none }

/-- `_clear_execution_lease`. -/
def clearExecutionLease (c : Command) : Command :=
  { c with executionLeaseToken := none, executionLeaseExpiresAt := none }

end Command

/-- `CommandAttempt`. -/
structure CommandAttempt where
  id : Uuid
  commandId : String
  attemptNumber : Int
  status : AttemptStatus
  startedAt : Time
  finishedAt : Option Time
  errorCode : Option String
  deriving DecidableEq

namespace CommandAttempt

/-- A new attempt: the constructor with its defaults. -/
def create (id : Uuid) (commandId : String) (attemptNumber : Int) (startedAt : Time) :
    Except Failure CommandAttempt := do
  require (notBlank commandId = true ∧ 1 ≤ attemptNumber)
    (.value "attempt requires a command id and positive attempt number")
  return {
    id, commandId, attemptNumber, startedAt
    status := .processing
    finishedAt := none
    errorCode := none }

/-- The attempt closed with an outcome; a success leaves the error code
as it is. -/
def close (a : CommandAttempt) (status : AttemptStatus) (now : Time)
    (errorCode : Option String) : CommandAttempt :=
  { a with status := status, finishedAt := some now, errorCode := errorCode.or a.errorCode }

end CommandAttempt

-- ==== account execution leases

/-- A row of `account_execution_leases`. -/
structure AccountExecutionLease where
  accountId : Uuid
  ownerType : AccountExecutionOwnerType
  ownerId : String
  operationClass : OperationClass
  fencingGeneration : Int
  leaseExpiresAt : Time
  updatedAt : Time
  deriving DecidableEq

namespace AccountExecutionLease

/-- The CHECK constraints of the `account_execution_leases` table. -/
def checkConstraints (l : AccountExecutionLease) : Bool :=
  decide (0 ≤ l.fencingGeneration) && decide (l.operationClass ≠ .read)

/-- The WHERE clause `renew`, `owns` and `release` share: this owner,
this generation, unexpired. -/
def heldBy (l : AccountExecutionLease) (ownerType : AccountExecutionOwnerType)
    (ownerId : String) (fencingGeneration : Int) (now : Time) : Bool :=
  decide (l.ownerType = ownerType) && decide (l.ownerId = ownerId)
    && decide (l.fencingGeneration = fencingGeneration) && decide (now < l.leaseExpiresAt)

end AccountExecutionLease

-- ==== outbox

/-- `OutboxStatus`. -/
inductive OutboxStatus where
  | pending | delivered | failedFinal
  deriving DecidableEq

/-- `DeliveryStatus`. -/
inductive DeliveryStatus where
  | pending | processing | delivered | failedRetryable | failedFinal
  deriving DecidableEq

/-- `CRMErrorV1`. -/
structure CRMError where
  code : String
  retryable : Bool
  deriving DecidableEq

/-- `CRMCommandResultV1`. -/
structure CRMCommandResult where
  eventId : Uuid
  commandId : String
  correlationId : String
  commandType : String
  status : CommandStatus
  completedAt : Time
  result : Option Document
  error : Option CRMError
  deriving DecidableEq

/-- `OutboxEvent`. -/
structure OutboxEvent where
  id : Uuid
  aggregateType : String
  aggregateId : String
  eventType : String
  correlationId : Option String
  payload : CRMCommandResult
  status : OutboxStatus
  attemptCount : Int
  createdAt : Time
  availableAt : Time
  deliveredAt : Option Time
  deriving DecidableEq

/-- `IntegrationDelivery`. -/
structure IntegrationDelivery where
  id : Uuid
  eventId : Uuid
  destination : String
  status : DeliveryStatus
  attemptCount : Int
  nextAttemptAt : Time
  deliveryDeadlineAt : Option Time
  leaseToken : Option Uuid
  leaseExpiresAt : Option Time
  deliveredAt : Option Time
  remoteDeliveryId : Option String
  errorCode : Option String
  createdAt : Time
  updatedAt : Time
  deriving DecidableEq

/-- The event type of a command result. -/
def commandResultType : String := "crm.command_result.v1"

/-- The event `enqueue_command_result` builds. -/
def commandResultEvent (eventId : Uuid) (c : Command) (now : Time) : OutboxEvent where
  id := eventId
  aggregateType := "command"
  aggregateId := c.commandId
  eventType := commandResultType
  correlationId := some c.correlationId
  payload := {
    eventId := eventId
    commandId := c.commandId
    correlationId := c.correlationId
    commandType := c.commandType
    status := c.status
    completedAt := c.completedAt.getD now
    result := c.result
    error := c.errorCode.map fun code =>
      { code := code, retryable := decide (c.status = .failedRetryable) } }
  status := .pending
  attemptCount := 0
  createdAt := now
  availableAt := now
  deliveredAt := none

/-- The delivery `enqueue_command_result` builds. -/
def commandResultDelivery (deliveryId eventId : Uuid) (destination : String)
    (now : Time) (deliveryLifetime : Duration) : IntegrationDelivery where
  id := deliveryId
  eventId := eventId
  destination := destination
  status := .pending
  attemptCount := 0
  nextAttemptAt := now
  deliveryDeadlineAt := some (now + deliveryLifetime)
  leaseToken := none
  leaseExpiresAt := none
  deliveredAt := none
  remoteDeliveryId := none
  errorCode := none
  createdAt := now
  updatedAt := now

-- ==== execution content

/-- A `ThreadPost` or `ThreadReply` an execution stores: its unique
external identity, and everything else it carries. -/
structure ContentRow where
  id : Uuid
  accountId : Uuid
  externalId : String
  content : Document
  deriving DecidableEq

/-- `SyncState`. -/
structure SyncState where
  id : Uuid
  accountId : Uuid
  syncType : String
  cursor : Option String
  lastSyncedAt : Option Time
  updatedAt : Time
  deriving DecidableEq

/-- `SyncStateUpdate`. -/
structure SyncStateUpdate where
  state : SyncState
  expectedCursor : Option String
  deriving DecidableEq

/-- `CommandExecutionOutput`. -/
structure CommandExecutionOutput where
  result : Document
  posts : List ContentRow
  replies : List ContentRow
  syncStates : List SyncStateUpdate
  deriving DecidableEq

-- ==== retry

/-- `RetryPolicy`, with the bounds its constructor checks. Delays are
microseconds; the jitter ratio and the drawn jitter are exact. -/
structure RetryPolicy where
  maxAttempts : Int
  baseDelay : Duration
  maxDelay : Duration
  jitterRatio : Rat
  maxAttempts_pos : 1 ≤ maxAttempts
  baseDelay_pos : 0 < baseDelay
  baseDelay_le : baseDelay ≤ maxDelay
  jitterRatio_nonneg : 0 ≤ jitterRatio
  jitterRatio_le_one : jitterRatio ≤ 1

/-- Nearest integer, ties to even, as `timedelta` rounds microseconds. -/
def roundHalfEven (q : Rat) : Int :=
  let f := q.floor
  let r := q - f
  if r < 1 / 2 then f
  else if 1 / 2 < r then f + 1
  else if f % 2 = 0 then f else f + 1

/-- `next_attempt_at`. The jitter source is asked for a value between
the two bounds it is given; a sum that `datetime` cannot hold raises. -/
def RetryPolicy.nextAttemptAt (p : RetryPolicy) (attemptNumber : Int) (now deadlineAt : Time)
    (retryAfter : Option Duration) (jitterSource : Rat → Rat → Rat) :
    Except Failure (Option Time) := do
  require (1 ≤ attemptNumber) (.value "attempt_number must be positive")
  if p.maxAttempts ≤ attemptNumber then return none
  let exponent := (min (attemptNumber - 1) 30).toNat
  let exponential : Rat := min (p.baseDelay * 2 ^ exponent) p.maxDelay
  let lowerBound := exponential * (1 - p.jitterRatio)
  let upperBound := min (p.maxDelay : Rat) (exponential * (1 + p.jitterRatio))
  let drawn := jitterSource lowerBound upperBound
  if retryAfter.any (fun r => decide (p.maxDelay < r)) then return none
  let delay : Rat := min (retryAfter.elim drawn fun r => max drawn r) p.maxDelay
  let candidate := now + roundHalfEven delay
  require (representable candidate = true) .overflow
  if deadlineAt ≤ candidate then return none
  return some candidate

end ThreadsPlatform
