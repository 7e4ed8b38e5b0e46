/-
The delivery of outbox events (`application/outbox_delivery.py`).

A worker claims the next due delivery under a fresh lease token, calls
the sink outside any transaction, and stores what came of it if the
delivery still has its token. `deliver_due_outbox` does so a bounded
number of times. Any number of workers run at once, each with settings
of its own; a worker may stop between any two transactions, and others
may hold row locks when one claims.

The payload of an event is what `enqueue_command_result` made of it;
whether `CRMCommandResultV1` accepts it back is part of the outcome.
-/
import ThreadsPlatform.Infrastructure.Repositories

namespace ThreadsPlatform

open Relational

-- ==== settings

/-- The constructor arguments of `OutboxDeliveryWorker`. -/
structure DeliverySettings where
  retryPolicy : RetryPolicy
  leaseDuration : Duration
  destination : String
  leaseDuration_pos : 0 < leaseDuration

/-- `MAX_OUTBOX_DELIVERY_BATCH_SIZE`. -/
def maxOutboxDeliveryBatchSize : Nat := 100

-- ==== workers

/-- What `deliver_one` keeps of its claim. -/
structure DeliveryClaim where
  deliveryId : Uuid
  eventId : Uuid
  leaseToken : Uuid
  attemptCount : Int
  deliveryDeadlineAt : Option Time
  now : Time

/-- A call of `deliver_due_outbox`: its limit, the rounds it has left, the
deliveries it attempted (newest first) and how many it delivered. -/
structure DeliveryBatch where
  limit : Nat
  rounds : Nat
  attempted : List Uuid
  succeeded : Nat

/-- What is to be stored about a claimed delivery. -/
inductive DeliveryVerdict where
  | delivered (remoteDeliveryId : String)
  | unavailable (code : String) (retryAt : Option Time)
  | finalFailure (code : String)

/-- Where a worker is. -/
inductive DeliveryPhase where
  | idle
  | looping (batch : DeliveryBatch)
  | claimed (batch : DeliveryBatch) (claim : DeliveryClaim)
  | settling (batch : DeliveryBatch) (claim : DeliveryClaim) (verdict : DeliveryVerdict)

namespace DeliveryPhase

/-- The claim a worker holds. -/
def claim? : DeliveryPhase → Option DeliveryClaim
  | .claimed _ claim | .settling _ claim _ => some claim
  | _ => none

/-- The batch it works on. -/
def batch? : DeliveryPhase → Option DeliveryBatch
  | .looping batch | .claimed batch _ | .settling batch _ _ => some batch
  | .idle => none

end DeliveryPhase

/-- How `deliver_result` ends, if `CRMCommandResultV1` accepts the payload
at all: the remote id, `CRMUnavailable`, or another exception. -/
inductive SinkOutcome where
  | invalidPayload
  | delivered (remoteDeliveryId : String)
  | unavailable (code : String) (retryAfter : Option Duration) (jitter : Rat → Rat → Rat)
  | raised

-- ==== tables

/-- The two tables, the workers, and every lease token drawn so far. -/
structure Outbox where
  events : Table outboxEvents
  deliveries : Table integrationDeliveries
  workers : Nat → DeliveryPhase
  tokens : List Uuid

/-- By due time, then by id. -/
def deliveryBefore (a b : IntegrationDelivery) : Prop :=
  a.nextAttemptAt < b.nextAttemptAt ∨ (a.nextAttemptAt = b.nextAttemptAt ∧ a.id ≤ b.id)

instance : DecidableRel deliveryBefore :=
  fun _ _ => inferInstanceAs (Decidable (_ ∨ _))

/-- Due, or abandoned by the worker that claimed it. -/
def IntegrationDelivery.dueOrAbandoned (d : IntegrationDelivery) (now : Time) : Bool :=
  (decide (d.status = .pending ∨ d.status = .failedRetryable) && decide (d.nextAttemptAt ≤ now))
    || (decide (d.status = .processing) && d.leaseExpiresAt.any fun e => decide (e ≤ now))

/-- `claim_next` makes a row PROCESSING. -/
def IntegrationDelivery.leased (d : IntegrationDelivery) (token : Uuid) (expiresAt now : Time) :
    IntegrationDelivery :=
  { d with
    status := .processing
    attemptCount := d.attemptCount + 1
    leaseToken := some token
    leaseExpiresAt := some expiresAt
    updatedAt := now }

namespace DeliveryVerdict

/-- The row each of the three transactions writes: the last one of
`deliver_one`, `_mark_unavailable` and `_mark_final_failure`. -/
def row (now : Time) (d : IntegrationDelivery) : DeliveryVerdict → IntegrationDelivery
  | .delivered remoteDeliveryId => { d with
      status := .delivered
      deliveredAt := some now
      remoteDeliveryId := some remoteDeliveryId
      leaseToken := none
      leaseExpiresAt := none
      errorCode := none
      updatedAt := now }
  | .unavailable code none => { d with
      status := .failedFinal
      leaseToken := none
      leaseExpiresAt := none
      errorCode := some code
      updatedAt := now }
  | .unavailable code (some retryAt) => { d with
      status := .failedRetryable
      nextAttemptAt := retryAt
      leaseToken := none
      leaseExpiresAt := none
      errorCode := some code
      updatedAt := now }
  | .finalFailure code => { d with
      status := .failedFinal
      leaseToken := none
      leaseExpiresAt := none
      errorCode := some code
      updatedAt := now }

/-- What it makes of the event; a retry leaves it. -/
def event? (now : Time) (e : OutboxEvent) : DeliveryVerdict → Option OutboxEvent
  | .delivered _ => some { e with status := .delivered, deliveredAt := some now }
  | .unavailable _ (some _) => none
  | .unavailable _ none | .finalFailure _ => some { e with status := .failedFinal }

/-- Whether the attempt counts as delivered. -/
def succeeds : DeliveryVerdict → Bool
  | .delivered _ => true
  | _ => false

end DeliveryVerdict

-- ==== transactions

namespace Outbox

/-- A worker goes on. -/
def setWorker (O : Outbox) (w : Nat) (phase : DeliveryPhase) : Outbox :=
  { O with workers := Function.update O.workers w phase }

/-- `enqueue_command_result`: an event and its delivery, or neither. -/
def enqueue (O : Outbox) (c : Command) (eventId deliveryId : Uuid) (destination : String)
    (now : Time) (deliveryLifetime : Duration) : Except Failure Outbox := do
  require (notBlank c.commandId = true) (.value "outbox identity fields must not be empty")
  require (notBlank destination = true)
    (.value "delivery destination and attempt count are invalid")
  let events ← addRow O.events (commandResultEvent eventId c now)
  let deliveries ← addRow O.deliveries
    (commandResultDelivery deliveryId eventId destination now deliveryLifetime)
  return { O with events, deliveries }

/-- The rows `claim_next` selects from. -/
def claimable (O : Outbox) (destination : String) (now : Time) (exclude : List Uuid)
    (locked : Uuid → Bool) : List IntegrationDelivery :=
  O.deliveries.rows.filter fun d => decide (d.destination = destination)
    && (O.events.get? d.eventId).any (fun e => decide (e.status = .pending))
    && d.dueOrAbandoned now && decide (d.id ∉ exclude) && !locked d.id

/-- `claim_next`, and what `deliver_one` makes of it: no delivery ends the
batch. -/
def claim (O : Outbox) (cfg : DeliverySettings) (w : Nat) (batch : DeliveryBatch) (token : Uuid)
    (now : Time) (locked : Uuid → Bool) : Outbox :=
  match firstBy deliveryBefore (O.claimable cfg.destination now batch.attempted locked) with
  | none => O.setWorker w .idle
  | some d =>
    let row := d.leased token (now + cfg.leaseDuration) now
    match O.deliveries.update row with
    | none => O.setWorker w .idle
    | some deliveries =>
      { O with deliveries }.setWorker w (.claimed
        { batch with rounds := batch.rounds - 1, attempted := d.id :: batch.attempted }
        ⟨d.id, d.eventId, token, row.attemptCount, d.deliveryDeadlineAt, now⟩)

/-- What `deliver_one` decides after its claim. -/
def verdict? (cfg : DeliverySettings) (claim : DeliveryClaim) :
    SinkOutcome → Option DeliveryVerdict
  | outcome =>
    if claim.deliveryDeadlineAt.any (fun deadline => decide (deadline ≤ claim.now)) then
      some (.finalFailure "DELIVERY_DEADLINE_EXCEEDED")
    else
      match outcome with
      | .invalidPayload => some (.finalFailure "INVALID_OUTBOX_RESULT")
      | .delivered remoteDeliveryId => some (.delivered remoteDeliveryId)
      | .unavailable code retryAfter jitter =>
        match cfg.retryPolicy.nextAttemptAt claim.attemptCount claim.now
          (claim.deliveryDeadlineAt.getD claim.now) retryAfter jitter with
        | .ok retryAt => some (.unavailable code retryAt)
        | .error _ => none
      | .raised => none

/-- The transaction that stores a verdict: nothing without the token. -/
def settle (O : Outbox) (claim : DeliveryClaim) (verdict : DeliveryVerdict) :
    Except Failure (Outbox × Bool) :=
  match O.deliveries.get? claim.deliveryId with
  | none => return (O, false)
  | some current =>
    if current.leaseToken ≠ some claim.leaseToken then return (O, false)
    else do
      let deliveries ← updateRow O.deliveries (verdict.row claim.now current)
      match verdict with
      | .unavailable _ (some _) => return ({ O with deliveries }, false)
      | _ =>
        let event ← orThrow (O.events.get? claim.eventId)
          (.runtime "claimed outbox event disappeared")
        let events ← updateRow O.events ((verdict.event? claim.now event).getD event)
        return ({ O with deliveries, events }, verdict.succeeds)

end Outbox

-- ==== machine

/-- What happens next. -/
inductive OutboxStep where
  | enqueue (c : Command) (eventId deliveryId : Uuid) (destination : String) (now : Time)
      (deliveryLifetime : Duration)
  | start (w : Nat) (limit : Int)
  | claim (w : Nat) (token : Uuid) (now : Time) (locked : Uuid → Bool)
  | sink (w : Nat) (outcome : SinkOutcome)
  | settle (w : Nat)
  | crash (w : Nat)

namespace Outbox

/-- What it does; an exception ends the worker's call, and its transaction
is rolled back. -/
def after (cfg : Nat → DeliverySettings) (O : Outbox) : OutboxStep → Outbox
  | .enqueue c eventId deliveryId destination now lifetime =>
    match O.enqueue c eventId deliveryId destination now lifetime with
    | .ok O' => O'
    | .error _ => O
  | .start w limit =>
    match O.workers w with
    | .idle =>
      if 1 ≤ limit ∧ limit ≤ maxOutboxDeliveryBatchSize then
        O.setWorker w (.looping ⟨limit.toNat, limit.toNat, [], 0⟩)
      else O
    | _ => O
  | .claim w token now locked =>
    match O.workers w with
    | .looping batch =>
      if batch.rounds = 0 then O.setWorker w .idle
      else { O with tokens := token :: O.tokens }.claim (cfg w) w batch token now locked
    | _ => O
  | .sink w outcome =>
    match O.workers w with
    | .claimed batch claim =>
      match verdict? (cfg w) claim outcome with
      | some verdict => O.setWorker w (.settling batch claim verdict)
      | none => O.setWorker w .idle
    | _ => O
  | .settle w =>
    match O.workers w with
    | .settling batch claim verdict =>
      match O.settle claim verdict with
      | .ok (O', delivered) => O'.setWorker w (.looping
          { batch with succeeded := batch.succeeded + if delivered then 1 else 0 })
      | .error _ => O.setWorker w .idle
    | _ => O
  | .crash w => O.setWorker w .idle

/-- Nothing enqueued, nobody at work. -/
def empty : Outbox := ⟨.empty _, .empty _, fun _ => .idle, []⟩

end Outbox

/-- Any number of delivery workers; `lease_id_factory` draws fresh ids. -/
def outboxDelivery (cfg : Nat → DeliverySettings) : Machine Outbox OutboxStep where
  init O := O = .empty
  enabled O i := ∀ w token now locked, i = .claim w token now locked → token ∉ O.tokens
  step := Outbox.after cfg

end ThreadsPlatform
