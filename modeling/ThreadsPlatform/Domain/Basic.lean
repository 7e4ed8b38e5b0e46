/-
The vocabulary of the domain layer: identifiers, times, documents, the
status enumerations, and the errors the services raise.

Times are UTC instants in microseconds and `timedelta`s are differences
of them, both integers: `normalize_utc` is the identity on an aware
timestamp, so it leaves no trace here. Documents are JSON objects as
the services receive them, after parsing and before encoding, with the
fields of an object listed in a fixed order of their keys, so that two
objects are equal exactly when their lists are; a float
is kept as the text `repr` prints for it.
-/
import Mathlib.Data.Int.Order.Basic

namespace ThreadsPlatform

-- ==== identifiers

/-- A `uuid.UUID`. PostgreSQL and Python both order them by value. -/
abbrev Uuid := BitVec 128

/-- A UTC instant, in microseconds. -/
abbrev Time := Int

/-- A `timedelta`, in microseconds. -/
abbrev Duration := Int

/-- The hexadecimal digits of a value, most significant first. -/
def hexDigits : Nat → Nat → List Char
  | 0, _ => []
  | n + 1, v => hexDigits n (v / 16) ++ [Nat.digitChar (v % 16)]

/-- `str(uuid)`: the canonical 8-4-4-4-12 text. -/
def Uuid.str (u : Uuid) : String :=
  let ds := hexDigits 32 u.toNat
  String.ofList (ds.take 8 ++ '-' :: (ds.drop 8).take 4 ++ '-' :: (ds.drop 12).take 4
    ++ '-' :: (ds.drop 16).take 4 ++ '-' :: ds.drop 20)

-- ==== documents

/-- A JSON value. -/
inductive Json where
  | null
  | bool (b : Bool)
  | int (n : Int)
  | float (repr : String)
  | str (s : String)
  | arr (items : List Json)
  | obj (fields : List (String × Json))

mutual

/-- Structural equality of JSON values. -/
def Json.decEq : (a b : Json) → Decidable (a = b)
  | .null, .null => isTrue rfl
  | .bool a, .bool b =>
    if h : a = b then isTrue (h ▸ rfl) else isFalse fun he => h (Json.bool.inj he)
  | .int a, .int b =>
    if h : a = b then isTrue (h ▸ rfl) else isFalse fun he => h (Json.int.inj he)
  | .float a, .float b =>
    if h : a = b then isTrue (h ▸ rfl) else isFalse fun he => h (Json.float.inj he)
  | .str a, .str b =>
    if h : a = b then isTrue (h ▸ rfl) else isFalse fun he => h (Json.str.inj he)
  | .arr a, .arr b =>
    match Json.decEqItems a b with
    | isTrue h => isTrue (h ▸ rfl)
    | isFalse h => isFalse fun he => h (Json.arr.inj he)
  | .obj a, .obj b =>
    match Json.decEqFields a b with
    | isTrue h => isTrue (h ▸ rfl)
    | isFalse h => isFalse fun he => h (Json.obj.inj he)
  | .null, .bool _ | .null, .int _ | .null, .float _ | .null, .str _ | .null, .arr _
  | .null, .obj _ | .bool _, .null | .bool _, .int _ | .bool _, .float _ | .bool _, .str _
  | .bool _, .arr _ | .bool _, .obj _ | .int _, .null | .int _, .bool _ | .int _, .float _
  | .int _, .str _ | .int _, .arr _ | .int _, .obj _ | .float _, .null | .float _, .bool _
  | .float _, .int _ | .float _, .str _ | .float _, .arr _ | .float _, .obj _ | .str _, .null
  | .str _, .bool _ | .str _, .int _ | .str _, .float _ | .str _, .arr _ | .str _, .obj _
  | .arr _, .null | .arr _, .bool _ | .arr _, .int _ | .arr _, .float _ | .arr _, .str _
  | .arr _, .obj _ | .obj _, .null | .obj _, .bool _ | .obj _, .int _ | .obj _, .float _
  | .obj _, .str _ | .obj _, .arr _ => isFalse nofun

/-- Structural equality of array items. -/
def Json.decEqItems : (a b : List Json) → Decidable (a = b)
  | [], [] => isTrue rfl
  | [], _ :: _ | _ :: _, [] => isFalse nofun
  | x :: xs, y :: ys =>
    match Json.decEq x y, Json.decEqItems xs ys with
    | isTrue h, isTrue hs => isTrue (h ▸ hs ▸ rfl)
    | isFalse h, _ => isFalse fun he => h (List.cons.inj he).1
    | _, isFalse hs => isFalse fun he => hs (List.cons.inj he).2

/-- Structural equality of object fields. -/
def Json.decEqFields : (a b : List (String × Json)) → Decidable (a = b)
  | [], [] => isTrue rfl
  | [], _ :: _ | _ :: _, [] => isFalse nofun
  | (k, x) :: xs, (l, y) :: ys =>
    if hk : k = l then
      match Json.decEq x y, Json.decEqFields xs ys with
      | isTrue h, isTrue hs => isTrue (hk ▸ h ▸ hs ▸ rfl)
      | isFalse h, _ => isFalse fun he => h (Prod.mk.inj (List.cons.inj he).1).2
      | _, isFalse hs => isFalse fun he => hs (List.cons.inj he).2
    else isFalse fun he => hk (Prod.mk.inj (List.cons.inj he).1).1

end

instance : DecidableEq Json := Json.decEq

/-- A `dict[str, object]` that is JSON: an object's fields. -/
abbrev Document := List (String × Json)

/-- `document.get(key)`. -/
def Document.get? (d : Document) (key : String) : Option Json :=
  d.lookup key

/-- A time `datetime` holds: years 1 to 9999. -/
def representable (t : Time) : Bool :=
  decide (-62135596800000000 ≤ t) && decide (t ≤ 253402300799999999)

-- ==== texts

/-- The characters `str.strip` removes. -/
def isSpace (c : Char) : Bool :=
  let n := c.toNat
  (9 ≤ n && n ≤ 13) || (28 ≤ n && n ≤ 32) || n == 0x85 || n == 0xA0 || n == 0x1680
    || (0x2000 ≤ n && n ≤ 0x200A) || n == 0x2028 || n == 0x2029 || n == 0x202F
    || n == 0x205F || n == 0x3000

/-- A text the database can hold: no character is NUL. -/
def nulFree (s : String) : Bool :=
  s.toList.all fun c => c.toNat != 0

/-- `bool(text.strip())`: some character survives the strip. -/
def notBlank (s : String) : Bool :=
  s.toList.any fun c => !isSpace c

/-- A full match of `[A-Z0-9_]{1,120}`. -/
def isBoundedCode (s : String) : Bool :=
  let cs := s.toList
  decide (1 ≤ cs.length) && decide (cs.length ≤ 120)
    && cs.all fun c => ('A' ≤ c && c ≤ 'Z') || ('0' ≤ c && c ≤ '9') || c == '_'

/-- `text.startswith(head)`. -/
def startsWith (s head : String) : Bool :=
  head.toList.isPrefixOf s.toList

-- ==== enumerations

/-- `WorkerJobStatus`. -/
inductive WorkerJobStatus where
  | queued | running | waitingIntervention | succeeded | failedRetryable
  | failedFinal | cancelled | expired
  deriving DecidableEq

/-- The statuses a WorkerJob never leaves. -/
def WorkerJobStatus.terminal : WorkerJobStatus → Bool
  | .succeeded | .failedFinal | .cancelled | .expired => true
  | .queued | .running | .waitingIntervention | .failedRetryable => false

/-- `WorkerJobRetrySafety`. -/
inductive WorkerJobRetrySafety where
  | safeToRetry | reconciliationRequired
  deriving DecidableEq

/-- `WorkerJobAttemptStatus`. -/
inductive WorkerJobAttemptStatus where
  | running | succeeded | failedRetryable | failedFinal | abandoned
  | waitingIntervention | cancelled
  deriving DecidableEq

/-- `WorkerJobCancelRequestStatus`. -/
inductive WorkerJobCancelRequestStatus where
  | pending | acknowledged | superseded
  deriving DecidableEq

/-- `WorkerJobPreemptionStatus`. -/
inductive WorkerJobPreemptionStatus where
  | waitingForQuiescence | satisfied | superseded
  deriving DecidableEq

/-- `WorkerInterventionStatus`. -/
inductive WorkerInterventionStatus where
  | open | resolved | cancelled
  deriving DecidableEq

/-- `CommandStatus`. -/
inductive CommandStatus where
  | received | validated | processing | waitingExecution | waitingIntervention
  | succeeded | rejected | expired | failedRetryable | failedFinal | cancelled
  deriving DecidableEq

/-- `TERMINAL_COMMAND_STATUSES`. -/
def CommandStatus.terminal : CommandStatus → Bool
  | .succeeded | .rejected | .expired | .failedFinal | .cancelled => true
  | .received | .validated | .processing | .waitingExecution | .waitingIntervention
  | .failedRetryable => false

/-- `AttemptStatus`, of a Command's local API attempts. -/
inductive AttemptStatus where
  | processing | succeeded | failedRetryable | failedFinal
  deriving DecidableEq

/-- `OperationClass`. -/
inductive OperationClass where
  | read | mutation | session | background
  deriving DecidableEq

/-- `requires_exclusive_account_coordination`. -/
def OperationClass.requiresExclusiveAccountCoordination : OperationClass → Bool
  | .read => false
  | .mutation | .session | .background => true

/-- `AccountExecutionOwnerType`. -/
inductive AccountExecutionOwnerType where
  | command | workerJob
  deriving DecidableEq

/-- `AccountStatus`. -/
inductive AccountStatus where
  | active | reauthorizationRequired | disabled
  deriving DecidableEq

/-- `AccountExecutionMode`. -/
inductive AccountExecutionMode where
  | apiOnly | browserOnly | hybrid | manual
  deriving DecidableEq

/-- `WorkerStatus`. -/
inductive WorkerStatus where
  | registering | online | degraded | draining | offline | disabled | upgradeRequired
  deriving DecidableEq

-- ==== failures

/-- The codes a `WorkerJobControlError` carries. -/
inductive ControlCode where
  | workerNotFound | workerNotEligible
  | workerJobNotFound | workerJobLeaseLost | workerJobAccountCoordinationLost
  | workerJobNotRunning | workerJobNotPreemptible | workerJobCancellationUnsupported
  | workerJobAttemptMissing | workerJobAttemptStale | workerJobNotMaterializedActivity
  | workerJobCommandNotFound
  | commandStateConflict | commandNotReadyForRemoteExecution | commandDeadlineExpired
  | commandWorkerJobPriorityMismatch | commandAccountMismatch
  | activeAccountAssignmentRequired | accountWorkerAffinityMismatch
  | highPriorityRouteNotTrusted | highPriorityAccountAffinityRequired | accountNotFound
  | cancelReasonInvalid | cancelCheckpointNotSafe | cancelCheckpointMismatch
  | cancelRequestStale
  | interventionTypeUnsupported | interventionNotFound | interventionAlreadyResolved
  | interventionRequeueNotSafe
  | capabilityBlocked (reason : String)
  deriving DecidableEq

/-- What a transaction can raise. -/
inductive Failure where
  /-- `WorkerJobControlError`. -/
  | control (code : ControlCode)
  /-- A `ValueError` of a domain object. -/
  | value (message : String)
  /-- `Command.transition`'s refusal of a pair outside its table. -/
  | invalidTransition (source target : CommandStatus)
  /-- `CommandNotFound`. -/
  | commandNotFound (commandId : String)
  /-- `CommandInputError`. -/
  | commandInput (code : String)
  /-- `IdempotencyConflict`. -/
  | idempotencyConflict (commandId : String)
  /-- `ExecutionLeaseLost`. -/
  | executionLeaseLost
  /-- `_SyncCursorConflict`. -/
  | syncCursorConflict
  /-- A `RuntimeError`. -/
  | runtime (message : String)
  /-- A `LookupError`: the row to update is not there. -/
  | lookup
  /-- An `IntegrityError`: a table constraint refused the row. -/
  | integrity
  /-- An `OverflowError`: a time past the range of `datetime`. -/
  | overflow
  /-- A `DBAPIError`: a column cannot hold the value. -/
  | data
  deriving DecidableEq

end ThreadsPlatform
