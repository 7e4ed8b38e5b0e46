/-
The standalone mutations that publish, and the journal they keep.

An operation writes a record before it does anything that matters:
RECEIVED, the children of a carousel one by one, CONTAINER_CREATED,
PUBLISH_REQUESTED, and how it ended. `publish_container` is called once
in between. The coroutines `_publish_container` and `_publish_carousel`
are a machine whose steps are what the environment answers: the outcome
of an API call and how each journal write went. The process may stop
between any two steps.

The account, the quota and the credentials are read before there is an
operation. Ids, times and the JSON of a record are the store's; the
moderation operations have a journal of their own.
-/
import ThreadsPlatform.Standalone.Recurrences

namespace ThreadsPlatform

open Relational

-- ==== journal

/-- The kinds of an operation that publishes. -/
inductive OperationKind where
  | postText | postQuote | postImage | postVideo | createReply | carousel
  deriving DecidableEq

/-- The phases of an operation that publishes. -/
inductive OperationPhase where
  | received | childrenCreating | containerCreated | publishRequested | published | ambiguous
  | failedFinal
  deriving DecidableEq

/-- `_TRANSITIONS`. -/
def OperationPhase.allows : OperationPhase → OperationPhase → Bool
  | .received, .childrenCreating | .received, .containerCreated | .received, .failedFinal => true
  | .childrenCreating, .childrenCreating | .childrenCreating, .containerCreated
  | .childrenCreating, .failedFinal => true
  | .containerCreated, .publishRequested | .containerCreated, .failedFinal => true
  | .publishRequested, .published | .publishRequested, .ambiguous
  | .publishRequested, .failedFinal => true
  | _, _ => false

/-- `LocalOperation`. -/
structure LocalOperation where
  kind : OperationKind
  phase : OperationPhase
  containerId : Option String
  mediaId : Option String
  outcomeCode : Option String
  childContainerIds : List String
  deriving DecidableEq

/-- A full match of `[A-Za-z0-9._:-]{1,255}`. -/
def isRemoteId (s : String) : Bool :=
  decide (1 ≤ s.toList.length) && decide (s.toList.length ≤ 255)
    && s.toList.all fun c => ('A' ≤ c && c ≤ 'Z') || ('a' ≤ c && c ≤ 'z')
      || ('0' ≤ c && c ≤ '9') || c == '.' || c == '_' || c == ':' || c == '-'

namespace LocalOperation

/-- The parent of a carousel is none of its children. -/
def parentDistinct (op : LocalOperation) : Bool :=
  op.containerId.all fun id => decide (id ∉ op.childContainerIds)

/-- Which of its fields a record has, by its phase. -/
def shapeValid (op : LocalOperation) : Bool :=
  match op.phase with
  | .received | .childrenCreating =>
    op.containerId.isNone && op.mediaId.isNone && op.outcomeCode.isNone
  | .containerCreated | .publishRequested =>
    op.containerId.isSome && op.mediaId.isNone && op.outcomeCode.isNone
  | .published => op.containerId.isSome && op.mediaId.isSome && op.outcomeCode.isNone
  | .ambiguous => op.containerId.isSome && op.mediaId.isNone && op.outcomeCode.isSome
  | .failedFinal => op.mediaId.isNone && op.outcomeCode.isSome

/-- What a record of a carousel says of its children. -/
def carouselValid (op : LocalOperation) : Bool :=
  match op.phase with
  | .received => op.childContainerIds.isEmpty
  | .childrenCreating => true
  | .failedFinal => op.parentDistinct
  | _ => decide (2 ≤ op.childContainerIds.length) && op.parentDistinct

/-- `_validate_operation`. -/
def valid (op : LocalOperation) : Bool :=
  decide (op.childContainerIds.length ≤ 20) && op.childContainerIds.all isRemoteId
    && decide op.childContainerIds.Nodup && op.containerId.all isRemoteId
    && op.mediaId.all isRemoteId && op.outcomeCode.all isSafeErrorCode && op.shapeValid
    && if op.kind = .carousel then op.carouselValid
      else op.childContainerIds.isEmpty && decide (op.phase ≠ .childrenCreating)

/-- `_valid_carousel_child_transition`. -/
def childTransitionValid (current next : LocalOperation) : Bool :=
  decide (current.childContainerIds <+: next.childContainerIds) && if current.phase = .received then
        (decide (next.phase = .childrenCreating) || decide (next.phase = .failedFinal))
          && current.childContainerIds.isEmpty && next.childContainerIds.isEmpty
      else if current.phase = .childrenCreating ∧ next.phase = .childrenCreating then
        decide (next.childContainerIds.length = current.childContainerIds.length + 1)
      else decide (next.childContainerIds = current.childContainerIds)

end LocalOperation

/-- What `LocalOperationStore.update` asks of a record and the one that is
stored. -/
def updateAllowed (current next : LocalOperation) : Bool :=
  next.valid && decide (current.kind = next.kind) && current.phase.allows next.phase
    && (decide (current.kind ≠ .carousel) || current.childTransitionValid next)

/-- How a journal write goes: done, failed with nothing written, or failed
after it took effect. -/
inductive JournalWrite where
  | done | refused | lost
  deriving DecidableEq

-- ==== outcomes

/-- How an API call ends: with a value, with a `ThreadsAPIError` of a
code, with another exception (by the code it carries, if any), cancelled,
or with an exception that is no `Exception`. -/
inductive ApiOutcome (α : Type) where
  | value (a : α)
  | apiError (code : String)
  | exception (code : Option String)
  | cancelled
  | interrupted

/-- `_safe_exception_code`. -/
def safeExceptionCode (code : Option String) : String :=
  (code.filter isSafeErrorCode).getD "THREADS_TRANSPORT_FAILURE"

/-- `_DETERMINISTIC_PUBLISH_REJECTION_CODES`. -/
def deterministicRejectionCodes : List String :=
  ["THREADS_INVALID_REQUEST", "THREADS_AUTHENTICATION_FAILED", "THREADS_PERMISSION_DENIED",
    "THREADS_OBJECT_NOT_FOUND"]

/-- What `get_container` returns: the container's id and its status, as far
as they are texts. -/
structure ContainerStatus where
  containerId : Option String
  status : Option String

/-- How a check of `_wait_for_container_ready` goes: `get_container` ends,
the time for all checks is over, or the sleep before the check is
cancelled (a cancelled call). -/
inductive PollOutcome where
  | api (outcome : ApiOutcome ContainerStatus)
  | timeout

/-- What a check tells: the container is ready, it is checked again, or an
error of that code, a cancellation or an interruption follows. -/
inductive WaitOutcome where
  | ready
  | again
  | failed (code : String)
  | interrupted

/-- `_CONTAINER_PROCESSING_MAX_CHECKS`. -/
def containerProcessingMaxChecks : Nat := 10

/-- A check of `_wait_for_container_ready`, the `index`-th. -/
def containerCheck (containerId : String) (index : Nat) : PollOutcome → WaitOutcome
  | .api (.value container) =>
    if container.containerId ≠ some containerId then
      .failed "THREADS_DOCUMENTATION_CONTRACT_MISMATCH"
    else if container.status = some "FINISHED" then .ready
    else if container.status = some "ERROR" then .failed "THREADS_CONTAINER_ERROR"
    else if container.status = some "EXPIRED" then .failed "THREADS_CONTAINER_EXPIRED"
    else if container.status ≠ some "IN_PROGRESS" then
      .failed "THREADS_DOCUMENTATION_CONTRACT_MISMATCH"
    else if index + 1 = containerProcessingMaxChecks then
      .failed "THREADS_CONTAINER_PROCESSING_TIMEOUT"
    else .again
  | .api (.apiError code) => .failed (safeExceptionCode (some code))
  | .api (.exception code) => .failed (safeExceptionCode code)
  | .api .cancelled => .failed "OPERATION_CANCELLED"
  | .api .interrupted => .interrupted
  | .timeout => .failed "THREADS_CONTAINER_PROCESSING_TIMEOUT"

/-- How an operation ends for its caller. -/
inductive PublishResult where
  | success (mediaId : String)
  /-- `PUBLISH_OUTCOME_AMBIGUOUS`. -/
  | ambiguous
  /-- A `StandaloneMutationError` of another code. -/
  | failed (code : String)
  /-- The exception that is no `Exception` goes on. -/
  | interrupted
  /-- The process ended. -/
  | crashed
  deriving DecidableEq

/-- Where the coroutine is, with the operation it last wrote. -/
inductive PublishPoint where
  | start (kind : OperationKind) (items : Nat)
  /-- A carousel is about to write CHILDREN_CREATING. -/
  | preparing (op : LocalOperation) (items : Nat)
  /-- `create_container` is awaited, with so many children left. -/
  | creating (op : LocalOperation) (items : Nat)
  /-- The child just created is checked, with so many left. -/
  | awaitingChild (op : LocalOperation) (items : Nat) (id : String) (index : Nat)
  /-- The container is checked. -/
  | awaiting (op : LocalOperation) (id : String) (index : Nat)
  /-- PUBLISH_REQUESTED is about to be written. -/
  | ready (op : LocalOperation)
  /-- It is written, and `publish_container` about to be called. -/
  | requested (op : LocalOperation) (containerId : String)
  /-- `publish_container` is awaited. -/
  | publishing (op : LocalOperation) (containerId : String)
  /-- `get_container` is awaited, after an API error of that code. -/
  | querying (op : LocalOperation) (containerId : String) (code : String)
  /-- PUBLISHED is about to be written. -/
  | confirming (op : LocalOperation) (containerId mediaId : String)
  | ended (result : PublishResult)

/-- An operation: its records, newest first (the first is the durable
one), where its coroutine is, the containers `publish_container` was
called for, and what was learned after it was rejected: the code of the
rejection and the container the query returned. -/
structure Publishing where
  journal : List LocalOperation
  point : PublishPoint
  calls : List String
  rejection : Option (String × ContainerStatus)

/-- What happens next. -/
inductive PublishEvent where
  | receive (write : JournalWrite)
  | prepare (write write' : JournalWrite)
  | create (outcome : ApiOutcome (Option String)) (write write' : JournalWrite)
  | wait (outcome : PollOutcome) (write : JournalWrite)
  | request (write : JournalWrite)
  | call
  | answer (outcome : ApiOutcome (Option String)) (write : JournalWrite)
  | status (outcome : ApiOutcome ContainerStatus) (write write' : JournalWrite)
  | confirm (write write' : JournalWrite)
  | crash

namespace Publishing

/-- `LocalOperationStore.update`: the records after it. -/
def write (P : Publishing) (op : LocalOperation) (w : JournalWrite) : Publishing :=
  if P.journal.head?.any (updateAllowed · op) = true ∧ w ≠ .refused then
    { P with journal := op :: P.journal }
  else P

/-- Whether it returns. -/
def writes (P : Publishing) (op : LocalOperation) (w : JournalWrite) : Bool :=
  P.journal.head?.any (updateAllowed · op) && decide (w = .done)

/-- The operation ends. -/
def finish (P : Publishing) (result : PublishResult) : Publishing :=
  { P with point := .ended result }

/-- `_best_effort_failed_final`, and the error that follows it. -/
def failFinal (P : Publishing) (op : LocalOperation) (code : String) (w : JournalWrite) :
    Publishing :=
  (P.write { op with phase := .failedFinal, outcomeCode := some code } w).finish (.failed code)

/-- `_best_effort_ambiguous`, and what follows it. -/
def endAmbiguous (P : Publishing) (op : LocalOperation) (code : String) (w : JournalWrite)
    (result : PublishResult) : Publishing :=
  (P.write { op with phase := .ambiguous, outcomeCode := some code } w).finish result

/-- `_raise_failed_final`. -/
def raiseFailedFinal (P : Publishing) (op : LocalOperation) (code : String)
    (w w' : JournalWrite) : Publishing :=
  let failed := { op with phase := .failedFinal, outcomeCode := some code }
  if P.writes failed w then (P.write failed w).finish (.failed code)
  else (P.write failed w).endAmbiguous op code w' .ambiguous

/-- A record that must be written: then the coroutine goes on. -/
def persist (P : Publishing) (op : LocalOperation) (w : JournalWrite) (point : PublishPoint)
    (otherwise : Publishing → Publishing) : Publishing :=
  if P.writes op w then { P.write op w with point := point } else otherwise (P.write op w)

/-- `OPERATION_STATE_INVALID`. -/
def stateInvalid : String := "OPERATION_STATE_INVALID"

/-- `THREADS_DOCUMENTATION_CONTRACT_MISMATCH`. -/
def contractMismatch : String := "THREADS_DOCUMENTATION_CONTRACT_MISMATCH"

/-- `create_received`. -/
def receive (P : Publishing) (kind : OperationKind) (items : Nat) (w : JournalWrite) :
    Publishing :=
  let op : LocalOperation := ⟨kind, .received, none, none, none, []⟩
  match w with
  | .done => { P with
      journal := [op]
      point := if kind = .carousel then .preparing op items else .creating op 0 }
  | .lost => { P with journal := [op], point := .ended (.failed stateInvalid) }
  | .refused => P.finish (.failed stateInvalid)

/-- Whether `_publish_container` awaits the container. -/
def awaits : OperationKind → Bool
  | .postImage | .postVideo | .carousel => true
  | _ => false

/-- A container id came back: the next child of a carousel, or the
container to publish. -/
def created (P : Publishing) (op : LocalOperation) (items : Nat) (id : String)
    (w w' : JournalWrite) : Publishing :=
  if items = 0 then
    let next := { op with phase := .containerCreated, containerId := some id }
    P.persist next w (if awaits op.kind then .awaiting next id 0 else .ready next) fun P =>
      if op.kind = .carousel then P.failFinal op stateInvalid w'
      else P.finish (.failed stateInvalid)
  else
    let next := { op with childContainerIds := op.childContainerIds ++ [id] }
    P.persist next w (.awaitingChild next (items - 1) id 0) fun P => P.failFinal op stateInvalid w'

/-- The outcome of `create_container`. -/
def create (P : Publishing) (op : LocalOperation) (items : Nat)
    (outcome : ApiOutcome (Option String)) (w w' : JournalWrite) : Publishing :=
  match outcome with
  | .value (some id) =>
    if isRemoteId id = true ∧ id ∉ op.childContainerIds then P.created op items id w w'
    else P.failFinal op contractMismatch w
  | .value none => P.failFinal op contractMismatch w
  | .apiError code => P.failFinal op (safeExceptionCode (some code)) w
  | .exception code => P.failFinal op (safeExceptionCode code) w
  | .cancelled => P.failFinal op "OPERATION_CANCELLED" w
  | .interrupted => P.finish .interrupted

/-- A check of `_wait_for_container_ready`, and what follows it. -/
def wait (P : Publishing) (op : LocalOperation) (outcome : WaitOutcome) (w : JournalWrite)
    (ready again : PublishPoint) : Publishing :=
  match outcome with
  | .ready => { P with point := ready }
  | .again => { P with point := again }
  | .failed code => P.failFinal op code w
  | .interrupted => P.finish .interrupted

/-- The outcome of `publish_container`. -/
def answer (P : Publishing) (op : LocalOperation) (containerId : String)
    (outcome : ApiOutcome (Option String)) (w : JournalWrite) : Publishing :=
  match outcome with
  | .value (some mediaId) =>
    if isRemoteId mediaId then { P with point := .confirming op containerId mediaId }
    else P.endAmbiguous op contractMismatch w .ambiguous
  | .value none => P.endAmbiguous op contractMismatch w .ambiguous
  | .apiError code => { P with point := .querying op containerId code }
  | .exception code => P.endAmbiguous op (safeExceptionCode code) w .ambiguous
  | .cancelled => P.endAmbiguous op "PUBLISH_OUTCOME_AMBIGUOUS" w .ambiguous
  | .interrupted => P.endAmbiguous op "PUBLISH_OUTCOME_AMBIGUOUS" w .interrupted

/-- What a container's status says after a rejection. -/
def judged (P : Publishing) (op : LocalOperation) (containerId code : String)
    (container : ContainerStatus) (w w' : JournalWrite) : Publishing :=
  let publishCode := safeExceptionCode (some code)
  if container.containerId ≠ some containerId ∨ container.status = none then
    P.endAmbiguous op publishCode w .ambiguous
  else if code ∉ deterministicRejectionCodes then P.endAmbiguous op publishCode w .ambiguous
  else if container.status = some "FINISHED" then P.raiseFailedFinal op publishCode w w'
  else if container.status = some "ERROR" then P.raiseFailedFinal op "THREADS_CONTAINER_ERROR" w w'
  else if container.status = some "EXPIRED" then
    P.raiseFailedFinal op "THREADS_CONTAINER_EXPIRED" w w'
  else P.endAmbiguous op publishCode w .ambiguous

/-- The outcome of `get_container` after a rejection. -/
def status (P : Publishing) (op : LocalOperation) (containerId code : String)
    (outcome : ApiOutcome ContainerStatus) (w w' : JournalWrite) : Publishing :=
  let publishCode := safeExceptionCode (some code)
  match outcome with
  | .value container =>
    { P with rejection := some (code, container) }.judged op containerId code container w w'
  | .apiError _ => P.endAmbiguous op publishCode w .ambiguous
  | .exception _ => P.endAmbiguous op publishCode w .ambiguous
  | .cancelled => P.endAmbiguous op publishCode w .ambiguous
  | .interrupted => P.endAmbiguous op publishCode w .interrupted

/-- PUBLISHED is written, or the outcome is ambiguous. -/
def confirm (P : Publishing) (op : LocalOperation) (mediaId : String) (w w' : JournalWrite) :
    Publishing :=
  P.persist { op with phase := .published, mediaId := some mediaId } w (.ended (.success mediaId))
    fun P => P.endAmbiguous op stateInvalid w' .ambiguous

/-- What an event does. -/
def after (P : Publishing) : PublishEvent → Publishing
  | .receive w =>
    match P.point with
    | .start kind items => P.receive kind items w
    | _ => P
  | .prepare w w' =>
    match P.point with
    | .preparing op items =>
      let next := { op with phase := .childrenCreating }
      P.persist next w (.creating next items) fun P => P.failFinal op stateInvalid w'
    | _ => P
  | .create outcome w w' =>
    match P.point with
    | .creating op items => P.create op items outcome w w'
    | _ => P
  | .wait outcome w =>
    match P.point with
    | .awaitingChild op items id index =>
      P.wait op (containerCheck id index outcome) w (.creating op items)
        (.awaitingChild op items id (index + 1))
    | .awaiting op id index =>
      P.wait op (containerCheck id index outcome) w (.ready op) (.awaiting op id (index + 1))
    | _ => P
  | .request w =>
    match P.point with
    | .ready op =>
      match op.containerId with
      | some id =>
        let next := { op with phase := .publishRequested }
        P.persist next w (.requested next id) fun P => P.finish (.failed stateInvalid)
      | none => P.finish (.failed stateInvalid)
    | _ => P
  | .call =>
    match P.point with
    | .requested op id => { P with point := .publishing op id, calls := id :: P.calls }
    | _ => P
  | .answer outcome w =>
    match P.point with
    | .publishing op id => P.answer op id outcome w
    | _ => P
  | .status outcome w w' =>
    match P.point with
    | .querying op id code => P.status op id code outcome w w'
    | _ => P
  | .confirm w w' =>
    match P.point with
    | .confirming op _ mediaId => P.confirm op mediaId w w'
    | _ => P
  | .crash => P.finish .crashed

end Publishing

/-- One call of a publishing mutation; a carousel has 2 to 20 items. -/
def publishing : Machine Publishing PublishEvent where
  init P := ∃ kind items, P = ⟨[], .start kind items, [], none⟩
    ∧ (kind = .carousel → 2 ≤ items ∧ items ≤ 20)
  enabled _ _ := True
  step := Publishing.after

end ThreadsPlatform
