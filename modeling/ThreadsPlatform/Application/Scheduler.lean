/-
The command stage of a scheduler's tick.

`run_scheduler_tick` is given one time and passes it to every
`process_next` of the tick. A claim it gets that way is executed before
the tick goes on: the handler runs beside a heartbeat, and heartbeat,
checkpoints and the final report read the clock anew. So one execution
is under way in a scheduler at a time, and the tick may be much older
than the clock.

Any number of schedulers share the store. Each is idle, between two
Commands of a tick, or executing one; it may crash at any point. Other
transactions, those of HTTP requests included, go on beside them.
-/
import ThreadsPlatform.Application.System

namespace ThreadsPlatform

open Relational

/-- The command loop of a tick: `occurred_at`, `attempted_command_ids`,
and the rounds that are left. -/
structure Tick where
  occurredAt : Time
  attempted : List String
  rounds : Nat
  deriving DecidableEq

/-- What a scheduler is doing. An execution carries the end of the lease
it wrote last. -/
inductive Phase where
  | idle
  | selecting (tick : Tick)
  | executing (tick : Tick) (claim : ExecutionClaim) (leaseEnd : Time)
  deriving DecidableEq

/-- On to the next round; a Command met twice breaks the loop. -/
def Tick.leave (tick : Tick) (commandId : String) : Phase :=
  if commandId ∈ tick.attempted then .idle
  else .selecting { tick with attempted := commandId :: tick.attempted }

/-- What a scheduler, or anyone else, does next. -/
inductive SchedulerAction where
  | start (scheduler commandLimit : Nat)
  | processNext (scheduler : Nat)
  | heartbeat (scheduler : Nat)
  | checkpoint (scheduler : Nat) (data : Document)
  | succeed (scheduler : Nat) (output : CommandExecutionOutput)
  | fail (scheduler : Nat) (errorCode : String) (retryable : Bool)
      (retryAfter : Option Duration) (jitterSource : Rat → Rat → Rat)
  | crash (scheduler : Nat)
  | other (call : Call)

/-- An action, the clock when it is taken and the identifiers it draws. -/
structure SchedulerEvent where
  clock : Time
  draws : Draws
  action : SchedulerAction

/-- The store, the clock and the schedulers. -/
structure Schedulers where
  state : State
  clock : Time
  phase : Nat → Phase

namespace Schedulers

variable (cfg : Settings) (S : Schedulers) (e : SchedulerEvent)

/-- The transaction an event runs, if it runs one. -/
def call? : Option Call :=
  match e.action with
  | .start _ _ | .crash _ => none
  | .processNext p =>
    match S.phase p with
    | .selecting tick =>
      if tick.rounds = 0 then none
      else some ⟨tick.occurredAt, e.draws, .processNext tick.attempted⟩
    | _ => none
  | .heartbeat p => execution p fun claim => .heartbeat claim
  | .checkpoint p data => execution p fun claim => .persistCheckpoint claim data
  | .succeed p output => execution p fun claim => .finishSuccess claim output
  | .fail p errorCode retryable retryAfter jitterSource =>
    execution p fun claim =>
      .finishFailure claim errorCode retryable retryAfter jitterSource
  | .other call => some call
where
  /-- A call of the execution a scheduler is in, at the clock. -/
  execution (p : Nat) (op : ExecutionClaim → Op) : Option Call :=
    match S.phase p with
    | .executing _ claim _ => some ⟨e.clock, e.draws, op claim⟩
    | _ => none

/-- Where one round of the loop leaves the tick. -/
def afterProcessNext (tick : Tick) : Phase :=
  match tick.rounds with
  | 0 => .idle
  | rounds + 1 =>
    let rest := { tick with rounds }
    match CommandRuntime.processNext cfg e.draws tick.occurredAt tick.attempted S.state with
    | .error _ | .ok (none, _) => .idle
    | .ok (some (.claimed claim), _) =>
      .executing rest claim (tick.occurredAt + cfg.executionLeaseDuration)
    | .ok (some (.settled result), _) | .ok (some (.enqueued result _), _) =>
      rest.leave result.commandId

/-- Where a transaction of its execution leaves a scheduler. -/
def afterExecution (tick : Tick) (claim : ExecutionClaim) (leaseEnd : Time) : Phase :=
  match e.action with
  | .heartbeat _ =>
    match CommandRuntime.heartbeat cfg e.clock claim S.state with
    | .ok _ => .executing tick claim (e.clock + cfg.executionLeaseDuration)
    | .error _ => tick.leave claim.commandId
  | .checkpoint _ data =>
    -- a lost lease ends the handler; an error is reported by a failure
    match CommandRuntime.persistCheckpoint e.clock claim data S.state with
    | .ok (false, _) => tick.leave claim.commandId
    | .ok (true, _) | .error _ => .executing tick claim leaseEnd
  | .succeed _ output =>
    match CommandRuntime.finishSuccess cfg e.draws e.clock claim output S.state with
    | .ok _ => tick.leave claim.commandId
    | .error .syncCursorConflict => .executing tick claim leaseEnd
    | .error _ => .idle
  | .fail _ errorCode retryable retryAfter jitterSource =>
    match CommandRuntime.finishFailure cfg e.draws e.clock claim errorCode retryable retryAfter
      jitterSource S.state with
    | .ok _ => tick.leave claim.commandId
    | .error _ => .idle
  | _ => .executing tick claim leaseEnd

/-- The phase of the scheduler that acts, afterwards. -/
def phaseAfter (p : Nat) : Phase :=
  match e.action, S.phase p with
  | .crash _, _ => .idle
  | .start _ commandLimit, .idle =>
    .selecting { occurredAt := e.clock, attempted := [], rounds := commandLimit }
  | .processNext _, .selecting tick => afterProcessNext cfg S e tick
  | _, .executing tick claim leaseEnd => afterExecution cfg S e tick claim leaseEnd
  | _, phase => phase

end Schedulers

/-- The scheduler an action is of. -/
def SchedulerAction.scheduler? : SchedulerAction → Option Nat
  | .start p _ | .processNext p | .heartbeat p | .checkpoint p _ | .succeed p _
  | .fail p _ _ _ _ | .crash p => some p
  | .other _ => none

/-- The schedulers as a machine. Clocks agree and do not go back; a
transaction beside the schedulers reads no later time and presents no
claim a scheduler is executing. -/
def schedulers (cfg : Settings) : Machine Schedulers SchedulerEvent where
  init S := (∃ surroundings, S.state = .initial surroundings) ∧ S.phase = fun _ => .idle
  enabled S e := S.clock ≤ e.clock ∧ ∀ call, e.action = .other call → call.now ≤ e.clock
    ∧ ∀ claim, call.op.claim? = some claim → claim ∈ S.state.claims
      ∧ ∀ p tick leaseEnd, S.phase p ≠ .executing tick claim leaseEnd
  step S e :=
    { state := ((S.call? e).map ((machine cfg).step S.state)).getD S.state
      clock := e.clock
      phase := match e.action.scheduler? with
        | some p => Function.update S.phase p (S.phaseAfter cfg e p)
        | none => S.phase }

end ThreadsPlatform
