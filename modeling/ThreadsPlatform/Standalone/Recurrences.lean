/-
The standalone recurrences: a durable record per recurrence, and the
foreground runner that executes its workflow at anchored boundaries.

`LocalRecurrenceStore` keeps one JSON file per recurrence and replaces
it atomically; what is in it is a `RecurrenceRecord` that passes
`_validate_record`. `LocalRecurrenceRunner.run` holds the recurrence's
lock: it repairs what an interrupted run left, then waits for the due
time, marks the run as RUNNING under a later due time, executes, and
writes down how it ended. A crash can fall between any two of these.

Times are microseconds. Paths, links and the JSON text of a record are
the file system's; the workflow itself enters through the outcomes of
its steps.
-/
import ThreadsPlatform.Domain.Commands
import ThreadsPlatform.Timing.Grid

namespace ThreadsPlatform

open Relational

-- ==== records

/-- The status of a recurrence. -/
inductive RecurrenceStatus where
  | enabled | disabled
  deriving DecidableEq

/-- `_OUTCOMES`. -/
inductive RecurrenceOutcome where
  | running | success | failed | skipped | interrupted
  deriving DecidableEq

/-- `RecurrenceRecord`. -/
structure RecurrenceRecord where
  version : Int
  id : String
  workflowFile : String
  account : String
  intervalSeconds : Int
  status : RecurrenceStatus
  createdAt : Time
  updatedAt : Time
  anchorAt : Time
  nextDueAt : Time
  lastStartedAt : Option Time
  lastFinishedAt : Option Time
  lastOutcome : Option RecurrenceOutcome
  lastErrorCode : Option String
  lastStepIndex : Option Int
  deriving DecidableEq

/-- `timedelta(seconds=...)`. -/
def seconds (n : Int) : Duration := n * 1000000

/-- A full match of `[A-Za-z0-9][A-Za-z0-9_-]{0,63}`. -/
def isAlias (s : String) : Bool :=
  let alnum (c : Char) : Bool := ('A' ≤ c && c ≤ 'Z') || ('a' ≤ c && c ≤ 'z')
    || ('0' ≤ c && c ≤ '9')
  s.toList.head?.any alnum && decide (s.toList.length ≤ 64)
    && s.toList.all fun c => alnum c || c == '_' || c == '-'

/-- A full match of `[A-Z][A-Z0-9_]{0,63}`. -/
def isSafeErrorCode (s : String) : Bool :=
  s.toList.head?.any (fun c => 'A' ≤ c && c ≤ 'Z') && decide (s.toList.length ≤ 64)
    && s.toList.all fun c => ('A' ≤ c && c ≤ 'Z') || ('0' ≤ c && c ≤ '9') || c == '_'

namespace RecurrenceRecord

/-- The interval, as a `timedelta`. -/
def interval (r : RecurrenceRecord) : Duration := seconds r.intervalSeconds

/-- `_next_anchored_boundary` for a record. -/
def boundaryAfter (r : RecurrenceRecord) (t : Time) : Time :=
  Timing.next r.anchorAt r.interval t

/-- The fields that name a recurrence. -/
def identityValid (r : RecurrenceRecord) (expectedId : String) : Bool :=
  decide (r.version = 1) && decide (r.id = expectedId) && decide (r.workflowFile = "workflow.json")
    && isAlias r.account && decide (300 ≤ r.intervalSeconds) && decide (r.intervalSeconds ≤ 2592000)

/-- The due time is an instant of the grid after the anchor, which is the
creation. -/
def timesValid (r : RecurrenceRecord) : Bool :=
  decide (r.createdAt ≤ r.updatedAt) && decide (r.anchorAt = r.createdAt)
    && decide (0 < r.nextDueAt - r.anchorAt)
    && decide ((r.nextDueAt - r.anchorAt) % r.interval = 0)

/-- What a RUNNING record says. -/
def runningValid (r : RecurrenceRecord) (startedAt : Time) : Bool :=
  decide (r.lastFinishedAt = none) && decide (r.lastErrorCode = none)
    && decide (r.lastStepIndex = none) && decide (startedAt < r.nextDueAt)

/-- The error code and step of a run that did not succeed. -/
def failureValid (r : RecurrenceRecord) (outcome : RecurrenceOutcome) : Bool :=
  r.lastErrorCode.any fun code => isSafeErrorCode code
    && (decide (outcome ≠ .skipped) || decide (code = "ACCOUNT_BUSY"))
    && (decide (outcome ≠ .interrupted) || decide (code = "INTERRUPTED"))
    && (decide (outcome ≠ .failed) || decide (code ≠ "ACCOUNT_BUSY"))
    && (decide (outcome ≠ .interrupted) || r.lastStepIndex.isNone)
    && (!(decide (outcome = .failed) || decide (outcome = .skipped)) || r.lastStepIndex.isSome)

/-- What the record of a finished run says. -/
def finishedValid (r : RecurrenceRecord) (outcome : RecurrenceOutcome) (startedAt : Time) : Bool :=
  r.lastFinishedAt.any fun finishedAt => decide (startedAt ≤ finishedAt)
    && decide (finishedAt < r.nextDueAt)
    && if outcome = .success then decide (r.lastErrorCode = none) && decide (r.lastStepIndex = none)
      else r.failureValid outcome

/-- The last run, if there was one. -/
def lastRunValid (r : RecurrenceRecord) : Bool :=
  match r.lastOutcome with
  | none => decide (r.lastStartedAt = none) && decide (r.lastFinishedAt = none)
      && decide (r.lastErrorCode = none) && decide (r.lastStepIndex = none)
  | some outcome => r.lastStartedAt.any fun startedAt =>
    if outcome = .running then r.runningValid startedAt else r.finishedValid outcome startedAt

/-- `_validate_record`. -/
def valid (r : RecurrenceRecord) (expectedId : String) : Bool :=
  r.identityValid expectedId && r.timesValid
    && !(decide (r.status = .disabled) && decide (r.lastOutcome = some .running))
    && r.lastRunValid
    && r.lastStepIndex.all (fun i => decide (1 ≤ i) && decide (i ≤ 32))
    && r.lastStartedAt.all (fun t => decide (t ≤ r.updatedAt))
    && r.lastFinishedAt.all (fun t => decide (t ≤ r.updatedAt))

end RecurrenceRecord

/-- `StandaloneRecurrenceError`. -/
inductive RecurrenceError where
  | stateInvalid | disabled
  deriving DecidableEq

namespace LocalRecurrenceStore

/-- The record `create` writes. -/
def create (id account : String) (intervalSeconds : Int) (now : Time) : RecurrenceRecord where
  version := 1
  id := id
  workflowFile := "workflow.json"
  account := account
  intervalSeconds := intervalSeconds
  status := .enabled
  createdAt := now
  updatedAt := now
  anchorAt := now
  nextDueAt := now + seconds intervalSeconds
  lastStartedAt := none
  lastFinishedAt := none
  lastOutcome := none
  lastErrorCode := none
  lastStepIndex := none

/-- `update`: the record, over the one that is stored. -/
def update (current record : RecurrenceRecord) : Except RecurrenceError RecurrenceRecord := do
  require (record.valid record.id = true) .stateInvalid
  require (current.account = record.account ∧ current.createdAt = record.createdAt
      ∧ current.anchorAt = record.anchorAt ∧ current.intervalSeconds = record.intervalSeconds
      ∧ current.workflowFile = record.workflowFile
      ∧ ¬ (current.status = .disabled ∧ record.status ≠ .disabled)
      ∧ ¬ (current.status ≠ record.status ∧ record.status ≠ .disabled)) .stateInvalid
  return record

/-- The record `disable` asks to store. -/
def disabledRecord (current : RecurrenceRecord) (now : Time) : RecurrenceRecord :=
  { current with status := .disabled, updatedAt := max current.updatedAt now }

/-- `disable`, over the record that is stored. -/
def disable (current : RecurrenceRecord) (now : Time) :
    Except RecurrenceError RecurrenceRecord :=
  if current.status = .disabled then .ok current else update current (disabledRecord current now)

end LocalRecurrenceStore

-- ==== workflows

/-- How one step of a workflow ends: with a value, with one of the errors
that carry a code, cancelled, or with anything else. -/
inductive StepOutcome where
  | value
  | sanitized (code : String)
  | cancelled
  | other
  deriving DecidableEq

/-- How `execute_once` ends. -/
inductive WorkflowOutcome where
  | success
  | workflowError (code : String) (stepIndex : Int)
  | cancelled
  | other
  deriving DecidableEq

/-- `LocalWorkflowRuntime.run`, from the `index`th step on. A code that
`StandaloneWorkflowError` does not take is a `ValueError` instead. -/
def runWorkflow (index : Int) : List StepOutcome → WorkflowOutcome
  | [] => .success
  | .value :: steps => runWorkflow (index + 1) steps
  | .sanitized code :: _ => if isSafeErrorCode code then .workflowError code index else .other
  | .cancelled :: _ => .cancelled
  | .other :: _ => .other

/-- A plan has between 1 and 32 steps. -/
def planLength (steps : List StepOutcome) : Prop := 1 ≤ steps.length ∧ steps.length ≤ 32

-- ==== runner

namespace LocalRecurrenceRunner

/-- The record after a run that was interrupted without writing it
down. -/
def markInterrupted (r : RecurrenceRecord) (now : Time) : RecurrenceRecord :=
  if r.lastOutcome = some .running then
    let finished := max now (r.lastStartedAt.getD now)
    { r with
      updatedAt := max r.updatedAt finished
      lastFinishedAt := some finished
      lastOutcome := some .interrupted
      lastErrorCode := some "INTERRUPTED"
      lastStepIndex := none }
  else r

/-- Boundaries that were missed are skipped. -/
def coalesce (r : RecurrenceRecord) (now : Time) : RecurrenceRecord :=
  if r.nextDueAt ≤ now then
    { r with nextDueAt := r.boundaryAfter now, updatedAt := max r.updatedAt now }
  else r

/-- What `run` makes of the record it finds. -/
def repaired (r : RecurrenceRecord) (now : Time) : RecurrenceRecord :=
  coalesce (markInterrupted r now) now

/-- The record of a run that is about to start. -/
def started (r : RecurrenceRecord) (now : Time) : RecurrenceRecord := { r with
    updatedAt := max r.updatedAt now
    nextDueAt := r.boundaryAfter now
    lastStartedAt := some now
    lastFinishedAt := none
    lastOutcome := some .running
    lastErrorCode := none
    lastStepIndex := none }

/-- The record of a run that ended, at the clock's `now` or when it
started, whichever is later. -/
def finished (r : RecurrenceRecord) (now : Time) (outcome : RecurrenceOutcome)
    (errorCode : Option String) (stepIndex : Option Int) : RecurrenceRecord :=
  let finished := max now (r.lastStartedAt.getD now)
  { r with
    updatedAt := max r.updatedAt finished
    nextDueAt := r.boundaryAfter finished
    lastFinishedAt := some finished
    lastOutcome := some outcome
    lastErrorCode := errorCode
    lastStepIndex := stepIndex }

/-- The record a run's outcome is written down as; other exceptions leave
the runner before it writes. -/
def afterOutcome (r : RecurrenceRecord) (now : Time) : WorkflowOutcome → Option RecurrenceRecord
  | .success => some (finished r now .success none none)
  | .workflowError code stepIndex =>
    some (finished r now (if code = "ACCOUNT_BUSY" then .skipped else .failed) (some code)
      (some stepIndex))
  | .cancelled => some (finished r now .interrupted (some "INTERRUPTED") none)
  | .other => none

end LocalRecurrenceRunner

-- ==== the machine

/-- Where a recurrence's runner is. Nobody runs, or the lock's holder
waits, has marked the run that was due at a boundary, or executes it; it
keeps the record it last wrote. -/
inductive RunnerPhase where
  | stopped
  | waiting (record : RecurrenceRecord)
  | marked (record : RecurrenceRecord) (due : Time)
  | executing (record : RecurrenceRecord)

/-- The durable record, its runner, and the boundaries runs were started
for, newest first. -/
structure Recurrence where
  record : RecurrenceRecord
  phase : RunnerPhase
  starts : List Time

/-- What happens to a recurrence. -/
inductive RecurrenceEvent where
  /-- `run` takes the lock and reads the record and the clock. -/
  | start (now : Time)
  /-- The wait is over, and the clock is read. -/
  | wake (now : Time)
  /-- The runner calls `execute_once`. -/
  | execute
  /-- `execute_once` ends, its steps having ended so, and the clock is
  read. -/
  | finish (now : Time) (steps : List StepOutcome)
  /-- `disable`, with the lock. -/
  | disable (now : Time)
  /-- The process ends. -/
  | crash

namespace Recurrence

open LocalRecurrenceRunner LocalRecurrenceStore

/-- A record is stored and the runner goes on, or `update` refuses it
and the runner stops. -/
def written (R : Recurrence) (record : RecurrenceRecord)
    (phase : RecurrenceRecord → RunnerPhase) : Recurrence :=
  match update R.record record with
  | .ok stored => { R with record := stored, phase := phase stored }
  | .error _ => { R with phase := .stopped }

/-- The record an event passes to `store.update`, if it does. -/
def passed (R : Recurrence) : RecurrenceEvent → Option RecurrenceRecord
  | .start now =>
    match R.phase with
    | .stopped =>
      if R.record.status = .enabled ∧ repaired R.record now ≠ R.record then
        some (repaired R.record now)
      else none
    | _ => none
  | .wake now =>
    match R.phase with
    | .waiting record => if record.nextDueAt ≤ now then some (started record now) else none
    | _ => none
  | .finish now steps =>
    match R.phase with
    | .executing record => afterOutcome record now (runWorkflow 1 steps)
    | _ => none
  | .execute | .disable _ | .crash => none

/-- What an event does. Cancellation is raised again once it is written
down, so the runner stops. -/
def after (R : Recurrence) : RecurrenceEvent → Recurrence
  | .start now =>
    match R.phase with
    | .stopped =>
      if R.record.status = .enabled then
        if repaired R.record now ≠ R.record then
          R.written (repaired R.record now) .waiting
        else { R with phase := .waiting R.record }
      else R
    | _ => R
  | .wake now =>
    match R.phase with
    | .waiting record =>
      if record.nextDueAt ≤ now then
        R.written (started record now) fun stored => .marked stored record.nextDueAt
      else R
    | _ => R
  | .execute =>
    match R.phase with
    | .marked record due => { R with phase := .executing record, starts := due :: R.starts }
    | _ => R
  | .finish now steps =>
    match R.phase with
    | .executing record =>
      match afterOutcome record now (runWorkflow 1 steps) with
      | some record => R.written record fun stored =>
        if runWorkflow 1 steps = .cancelled then .stopped else .waiting stored
      | none => { R with phase := .stopped }
    | _ => R
  | .disable now =>
    match R.phase with
    | .stopped =>
      if R.record.status = .disabled then R
      else R.written (disabledRecord R.record now) fun _ => .stopped
    | _ => R
  | .crash => { R with phase := .stopped }

end Recurrence

/-- A recurrence, from any record that passes the check on. -/
def recurrence : Machine Recurrence RecurrenceEvent where
  init R := R.record.valid R.record.id = true ∧ R.phase = .stopped ∧ R.starts = []
  enabled _ e := ∀ now steps, e = .finish now steps → planLength steps
  step := Recurrence.after

end ThreadsPlatform
