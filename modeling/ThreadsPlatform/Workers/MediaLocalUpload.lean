/-
`BrowserLocalMediaUploadWorker`: one file is staged in an open composer.

A claimed job is handed to the worker once. The worker refuses a job
whose stored checkpoint says that a mutation may have begun. Otherwise it
prepares the browser, saves BEFORE_LOCAL_STAGE, and enters the
irreversible boundary: it looks into its local journal, journals and
saves MUTATION_PENDING, renews its lease, and only then starts
`stage_once`. A save that is refused, or whose answer is lost, ends the
attempt.

`uploadProgram` is the worker alone, over a checkpoint that it reads at
its start and saves under its lease. `uploadMachine` joins it to the two
services: the checkpoint is the stored job's, saves are `checkpoint`
calls, and everything else that happens to the job is any call of anyone.
What the worker hears of the world, of its journal and of its other
requests is any input; a worker that crashes hears nothing more.
-/
import ThreadsPlatform.Application.BrowserPayloads
import ThreadsPlatform.Application.System
import ThreadsPlatform.Relational.FencedProgram

namespace ThreadsPlatform

open Relational Table

-- ==== phases

/-- `_AMBIGUOUS_UPLOAD_PHASES`. -/
def ambiguousUploadPhases : List String :=
  ["MUTATION_PENDING", "MUTATION_STARTED", "MUTATION_CONFIRMED", "LOCAL_STAGE_COMPLETE"]

/-- `(checkpoint or {}).get("phase")` is one of the ambiguous phases. -/
def ambiguousPhase (checkpoint : Option Document) : Bool :=
  match (checkpoint.getD []).get? "phase" with
  | some (.str phase) => ambiguousUploadPhases.contains phase
  | _ => false

/-- The checkpoint of a phase. -/
def phaseCheckpoint (phase : String) : Document := [("phase", .str phase)]

-- ==== endings

/-- What an attempt reports at its end. -/
inductive UploadEnding where
  | failed (code : String) (retryable : Bool)
  | intervention (kind detail : String)
  | completed
  /-- Nothing, or it crashed. -/
  | silent
  deriving DecidableEq

/-- The exceptions `__call__` tells apart. -/
inductive UploadError where
  | actionOutcomeAmbiguous
  | leaseLost
  | timeout
  | localMediaFile (code : String)
  | sessionEnded
  | adapter (code : String)
  deriving DecidableEq

/-- `MEDIA_LOCAL_UPLOAD_ALLOWED_FAILURE_CODES`. -/
def mediaLocalUploadFailureCodes : List String :=
  ["BROWSER_CONTRACT_MISMATCH", "BROWSER_REQUIRED_MARKER_NOT_FOUND", "UNSUPPORTED_UI_STATE",
    "BROWSER_NAVIGATION_TIMEOUT", "BROWSER_PROCESS_CRASHED", "BROWSER_RUNTIME_UNAVAILABLE",
    "BROWSER_ACCOUNT_AFFINITY_MISMATCH", "WORKER_JOB_LEASE_LOST", "BROWSER_SESSION_UNAVAILABLE",
    "BROWSER_NETWORK_ROUTE_UNSUPPORTED", "UNSUPPORTED_BROWSER_CAPABILITY",
    "WORKER_JOB_INPUT_INVALID", "WORKER_JOB_RETRY_SAFETY_MISMATCH", "MEDIA_FILE_UNAVAILABLE",
    "MEDIA_FILE_REJECTED", "MEDIA_FILE_TOO_LARGE"]

/-- An adapter's code, as it is reported. -/
def adapterEnding (code : String) : UploadEnding :=
  if ["LOGIN_REQUIRED", "SESSION_EXPIRED", "CHALLENGE_REQUIRED",
      "REMOTE_STATE_UNCERTAIN"].contains code then .silent
  else
    let reported := if mediaLocalUploadFailureCodes.contains code then code
      else "BROWSER_RUNTIME_UNAVAILABLE"
    .failed reported (["BROWSER_NAVIGATION_TIMEOUT", "BROWSER_PROCESS_CRASHED",
      "BROWSER_RUNTIME_UNAVAILABLE", "BROWSER_SESSION_UNAVAILABLE"].contains reported)

/-- The `except` clauses of `__call__`; `started` is what the local journal
says. -/
def UploadError.ending (started : Bool) : UploadError → UploadEnding
  | .actionOutcomeAmbiguous | .sessionEnded => .silent
  | .leaseLost =>
    if started then .intervention "AMBIGUOUS_OUTCOME" "MEDIA_UPLOAD_LEASE_LOST" else .silent
  | .timeout =>
    if started then .intervention "AMBIGUOUS_OUTCOME" "MEDIA_UPLOAD_OUTCOME_UNCERTAIN"
    else .failed "BROWSER_NAVIGATION_TIMEOUT" true
  | .localMediaFile code => .failed code false
  | .adapter code => adapterEnding code

-- ==== program

/-- Where an attempt is. -/
inductive UploadPoint where
  /-- The account's context, a renewal, the session and the file. -/
  | preparing
  | savingBefore
  | composing
  /-- `execute_irreversible_boundary` is entered. -/
  | atBoundary
  | savingPending
  | renewing
  /-- `stage_once` is next. -/
  | staging
  | staged
  | savingConfirmed
  | savingComplete
  | completing
  | over (ending : UploadEnding)
  deriving DecidableEq

/-- What an attempt hears. -/
inductive UploadInput where
  /-- What it waits for succeeds. -/
  | goesOn
  /-- `prepare_media_composer`. -/
  | composer (found : Bool)
  /-- `mutation_may_have_started`, from the local journal. -/
  | journal (started : Bool)
  | raises (error : UploadError) (started : Bool)
  /-- It ends otherwise, or crashes. -/
  | stops (ending : UploadEnding)
  deriving DecidableEq

/-- `request_intervention` of an outcome nobody knows. -/
def ambiguousOutcome : UploadEnding :=
  .intervention "AMBIGUOUS_OUTCOME" "ACTION_OUTCOME_REQUIRES_RECONCILIATION"

namespace UploadPoint

/-- `_execute_upload`, between its requests. -/
def hear : UploadPoint → UploadInput → UploadPoint
  | _, .stops ending => .over ending
  | _, .raises error started => .over (error.ending started)
  | .preparing, .goesOn => .savingBefore
  | .composing, .composer true => .atBoundary
  | .composing, .composer false =>
    .over (.intervention "OPERATOR_CONFIRMATION_REQUIRED" "COMPOSER_OPEN_REQUIRED")
  | .atBoundary, .journal true => .over ambiguousOutcome
  | .atBoundary, .journal false => .savingPending
  | .renewing, .goesOn => .staging
  | .staged, .goesOn => .savingConfirmed
  | .completing, .goesOn => .over .completed
  | point, _ => point

/-- The phase it is about to save. -/
def phase? : UploadPoint → Option String
  | .savingBefore => some "BEFORE_LOCAL_STAGE"
  | .savingPending => some "MUTATION_PENDING"
  | .savingConfirmed => some "MUTATION_CONFIRMED"
  | .savingComplete => some "LOCAL_STAGE_COMPLETE"
  | _ => none

def saved : UploadPoint → UploadPoint
  | .savingBefore => .composing
  | .savingPending => .renewing
  | .savingConfirmed => .savingComplete
  | .savingComplete => .completing
  | point => point

/-- After the operation an attempt that cannot save asks for an
intervention. -/
def refused : UploadPoint → UploadPoint
  | .savingConfirmed => .over ambiguousOutcome
  | _ => .over .silent

end UploadPoint

/-- A worker that reads a checkpoint. -/
def uploadStart (checkpoint : Option Document) : UploadPoint :=
  if ambiguousPhase checkpoint then .over ambiguousOutcome else .preparing

/-- The worker, over the stored checkpoint. -/
def uploadProgram : Program (Option Document) UploadPoint UploadInput Unit where
  start := uploadStart
  hear := UploadPoint.hear
  saves? point := point.phase?.map fun phase => some (phaseCheckpoint phase)
  saved := UploadPoint.saved
  refused := UploadPoint.refused
  calls? point := if point = .staging then some () else none
  called point := if point = .staging then .staged else point

-- ==== start

/-- `parse_media_ref`. -/
def parseMediaRef (input : Document) : Option String :=
  match input with
  | [("media_ref", .str value)] => if isMediaRef value.toList then some value else none
  | _ => none

/-- `_validate_snapshot`. -/
def validSnapshot (job : WorkerJob) (workerId : Uuid) (clock : Time) : Bool :=
  decide (job.status = .running) && decide (job.leaseWorkerId = some workerId)
    && job.leaseToken.isSome && job.leaseExpiresAt.any (fun expiry => decide (clock < expiry))
    && decide (job.assignedWorkerId = none ∨ job.assignedWorkerId = some workerId)

/-- `__call__`, up to the upload. -/
def uploadCall (job : WorkerJob) (workerId : Uuid) (clock : Time) : UploadPoint :=
  if validSnapshot job workerId clock = false then .over .silent
  else if job.accountId = none ∨ job.assignedWorkerId ≠ some workerId then
    .over (.failed "BROWSER_ACCOUNT_AFFINITY_MISMATCH" false)
  else if job.capabilityName ≠ "threads.browser.media.local_upload" ∨ job.capabilityVersion ≠ 1 then
    .over (.failed "UNSUPPORTED_BROWSER_CAPABILITY" false)
  else if job.retrySafety ≠ .reconciliationRequired then
    .over (.failed "WORKER_JOB_RETRY_SAFETY_MISMATCH" false)
  else if ambiguousPhase job.checkpoint then .over ambiguousOutcome
  else if parseMediaRef job.inputData = none then
    .over (.failed "WORKER_JOB_INPUT_INVALID" false)
  else .preparing

-- ==== machine

/-- An attempt: who, under which lease, and where it is. -/
structure UploadAttempt where
  workerId : Uuid
  token : Uuid
  point : UploadPoint

/-- The stored state, the attempts at one job, the lease tokens it has had,
and the attempts that have started `stage_once`. -/
structure UploadRun where
  state : State
  attempts : Nat → Option UploadAttempt
  drawn : List Uuid
  stagings : List Nat

/-- What happens next; attempts are told apart by number. -/
inductive UploadEvent where
  /-- Any call. If it claims the job, attempt `x` begins when the answer is
  delivered. -/
  | service (call : Call) (x : Nat) (clock : Time) (delivered : Bool)
  | hear (x : Nat) (input : UploadInput)
  /-- The `checkpoint` request of attempt `x` arrives; its answer is
  delivered or lost. -/
  | save (x : Nat) (now : Time) (draws : Draws) (delivered : Bool)
  /-- The `checkpoint` request of attempt `x` is lost. -/
  | lose (x : Nat)
  | stage (x : Nat)

section Machine

variable (cfg : Settings) (jobId : Uuid)

/-- A job's lease token. -/
def leaseTokenOf (s : State) : Option Uuid := (s.jobs.get? jobId).bind (·.leaseToken)

/-- A job's stored checkpoint. -/
def checkpointOf (s : State) : Option Document := (s.jobs.get? jobId).bind (·.checkpoint)

namespace UploadRun

/-- Attempt `x` goes on. -/
def goOn (U : UploadRun) (x : Nat) (attempt : UploadAttempt) (point : UploadPoint) : UploadRun :=
  { U with attempts := Function.update U.attempts x (some { attempt with point }) }

/-- The attempt a claim begins, with the job as the claim has stored it. -/
def begun (job : WorkerJob) (token : Uuid) (clock : Time) (delivered : Bool) : UploadAttempt where
  workerId := job.leaseWorkerId.getD 0
  token := token
  point := if delivered then uploadCall job (job.leaseWorkerId.getD 0) clock else .over .silent

/-- A call of the services. The job was claimed if it has a new token. -/
def serve (U : UploadRun) (call : Call) (x : Nat) (clock : Time) (delivered : Bool) :
    UploadRun :=
  let s := (machine cfg).step U.state call
  match (s.jobs.get? jobId).bind fun job => job.leaseToken.bind fun token =>
      if U.drawn.contains token then none else some (job, token) with
  | none => { U with state := s }
  | some (job, token) =>
    { U with
      state := s
      drawn := token :: U.drawn
      attempts := Function.update U.attempts x (some (begun job token clock delivered)) }

/-- The call a save makes. -/
def saveCall (attempt : UploadAttempt) (phase : String) (now : Time) (draws : Draws) : Call where
  now := now
  draws := draws
  op := .checkpoint jobId attempt.workerId attempt.token (phaseCheckpoint phase)

/-- What an event does. -/
def after (U : UploadRun) : UploadEvent → UploadRun
  | .service call x clock delivered => U.serve cfg jobId call x clock delivered
  | .hear x input =>
    match U.attempts x with
    | none => U
    | some attempt => U.goOn x attempt (attempt.point.hear input)
  | .save x now draws delivered =>
    match U.attempts x with
    | none => U
    | some attempt =>
      match attempt.point.phase? with
      | none => U
      | some phase =>
        match (saveCall jobId attempt phase now draws).outcome cfg U.state with
        | .error _ => U.goOn x attempt attempt.point.refused
        | .ok s => { U with state := s }.goOn x attempt
            (if delivered then attempt.point.saved else attempt.point.refused)
  | .lose x =>
    match U.attempts x with
    | none => U
    | some attempt =>
      if attempt.point.phase?.isSome then U.goOn x attempt attempt.point.refused else U
  | .stage x =>
    match U.attempts x with
    | none => U
    | some attempt =>
      if attempt.point = .staging then
        { U with stagings := x :: U.stagings }.goOn x attempt .staged
      else U

end UploadRun

/-- A call of someone else: it does not save the job's checkpoint, and a
claim draws a new lease token. -/
structure OthersCall (U : UploadRun) (call : Call) : Prop where
  enabled : (machine cfg).enabled U.state call
  noSave : ∀ workerId token document, call.op ≠ .checkpoint jobId workerId token document
  token : ∀ workerId, call.op = .claimNext workerId → call.draws.leaseToken ∉ U.drawn

/-- The services and the attempts at one job, from the beginning. -/
def uploadMachine : Machine UploadRun UploadEvent where
  init U := (∃ surroundings, U.state = .initial surroundings) ∧ U.attempts = (fun _ => none)
    ∧ U.drawn = [] ∧ U.stagings = []
  enabled U event := ∀ call x clock delivered, event = .service call x clock delivered →
    OthersCall cfg jobId U call ∧ U.attempts x = none
  step U event := U.after cfg jobId event

end Machine

end ThreadsPlatform
