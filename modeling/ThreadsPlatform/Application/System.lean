/-
The two services as one machine.

A `Call` is one transaction of either service: the operation, the clock
it reads and the identifiers it draws. Running it commits its state or,
when it raises, leaves the state alone. Calls of any number of workers,
operators, schedulers and API executors interleave freely; an executor
presents a claim it was given, which is all the machine asks of it.

`surroundings` is everyone else: accounts, workers, assignments and
activities change between transactions as they like.
-/
import ThreadsPlatform.Application.CommandRuntime

namespace ThreadsPlatform

open Relational

/-- The operations of the two services. -/
inductive Op where
  -- `WorkerJobService`
  | enqueue (request : WorkerJobService.EnqueueRequest)
  | claimNext (workerId : Uuid)
  | renew (jobId workerId leaseToken : Uuid)
  | checkpoint (jobId workerId leaseToken : Uuid) (document : Document)
  | requestCancel (jobId : Uuid) (reasonCode : String)
  | acknowledgeCancel (jobId workerId leaseToken cancelRequestId : Uuid) (generation : Int)
      (checkpointPhase : String)
  | complete (jobId workerId leaseToken : Uuid) (result : Document)
  | fail (jobId workerId leaseToken : Uuid) (errorCode : String)
      (retryable outcomeAmbiguous : Bool)
  | requestIntervention (jobId workerId leaseToken : Uuid)
      (interventionType detailCode : String)
  | resolveIntervention (interventionId : Uuid) (requeue confirmedSafeToRetry : Bool)
      (resolvedBy : String)
  | reconcile (workerId : Uuid)
  | recoverExpired (limit : Nat)
  -- `CommandRuntime`
  | receive (envelope : CommandEnvelope)
  | dispatch (commandId correlationId : String) (accountId : Uuid) (commandType : String)
      (payload : Document) (priority : Int)
  | process (commandId : String)
  | processNext (excluded : List String)
  | persistCheckpoint (claim : ExecutionClaim) (data : Document)
  | heartbeat (claim : ExecutionClaim)
  | finishSuccess (claim : ExecutionClaim) (output : CommandExecutionOutput)
  | finishFailure (claim : ExecutionClaim) (errorCode : String) (retryable : Bool)
      (retryAfter : Option Duration) (jitterSource : Rat → Rat → Rat)
  -- everyone else
  | surroundings (next : Surroundings)

/-- One transaction: when, with which identifiers, what. -/
structure Call where
  now : Time
  draws : Draws
  op : Op

/-- The claim an API executor presents. -/
def Op.claim? : Op → Option ExecutionClaim
  | .persistCheckpoint claim _ | .heartbeat claim | .finishSuccess claim _
  | .finishFailure claim _ _ _ _ => some claim
  | _ => none

section Outcome

open WorkerJobService CommandRuntime

/-- The state a call commits, or the error it raises. -/
def Call.outcome (cfg : Settings) (call : Call) (s : State) : Except Failure State :=
  let d := call.draws
  let now := call.now
  match call.op with
  | .enqueue request => Prod.snd <$> enqueue cfg d now request s
  | .claimNext workerId => Prod.snd <$> claimNext cfg d now workerId s
  | .renew jobId workerId leaseToken => Prod.snd <$> renew cfg now jobId workerId leaseToken s
  | .checkpoint jobId workerId leaseToken document =>
    Prod.snd <$> checkpoint cfg now jobId workerId leaseToken document s
  | .requestCancel jobId reasonCode => Prod.snd <$> requestCancel d now jobId reasonCode s
  | .acknowledgeCancel jobId workerId leaseToken cancelRequestId generation phase =>
    Prod.snd <$>
      acknowledgeCancel cfg d now jobId workerId leaseToken cancelRequestId generation phase s
  | .complete jobId workerId leaseToken result =>
    Prod.snd <$> complete cfg d now jobId workerId leaseToken result s
  | .fail jobId workerId leaseToken errorCode retryable ambiguous =>
    Prod.snd <$> fail cfg d now jobId workerId leaseToken errorCode retryable ambiguous s
  | .requestIntervention jobId workerId leaseToken interventionType detailCode =>
    Prod.snd <$>
      requestIntervention d now jobId workerId leaseToken interventionType detailCode s
  | .resolveIntervention interventionId requeue confirmed resolvedBy =>
    Prod.snd <$> resolveIntervention cfg d now interventionId requeue confirmed resolvedBy s
  | .reconcile workerId => Prod.snd <$> reconcile now workerId s
  | .recoverExpired limit => Prod.snd <$> recoverExpired cfg d now limit s
  | .receive envelope => Prod.snd <$> receive cfg d now envelope s
  | .dispatch commandId correlationId accountId commandType payload priority =>
    Prod.snd <$>
      dispatch d now commandId correlationId accountId commandType payload priority s
  | .process commandId => Prod.snd <$> process cfg d now commandId s
  | .processNext excluded => Prod.snd <$> processNext cfg d now excluded s
  | .persistCheckpoint claim data => Prod.snd <$> persistCheckpoint now claim data s
  | .heartbeat claim => Prod.snd <$> heartbeat cfg now claim s
  | .finishSuccess claim output => Prod.snd <$> finishSuccess cfg d now claim output s
  | .finishFailure claim errorCode retryable retryAfter jitterSource =>
    Prod.snd <$> finishFailure cfg d now claim errorCode retryable retryAfter jitterSource s
  | .surroundings next => return { s with surroundings := next }

end Outcome

/-- The machine: it starts with empty tables, in any surroundings. -/
def machine (cfg : Settings) : Machine State Call where
  init s := ∃ surroundings, s = .initial surroundings
  enabled s call := ∀ claim, call.op.claim? = some claim → claim ∈ s.claims
  step s call := commit (call.outcome cfg s) s

/-- Reachable by any calls. -/
def Reachable (cfg : Settings) : State → Prop := (machine cfg).Reachable fun _ _ => True

/-- Reachable at a time, the clock never going back. -/
def ReachableAt (cfg : Settings) : Time → State → Prop := (machine cfg).TimedReachable Call.now

/-- A later state of a run, the clock never going back. -/
def ContinuesTo (cfg : Settings) : Time → State → Time → State → Prop :=
  (machine cfg).Continues Call.now

/-- A later state of a run, whatever the clock does. -/
def Later (cfg : Settings) (s₀ s : State) : Prop := (machine cfg).Continues (fun _ => 0) 0 s₀ 0 s

end ThreadsPlatform
