/-
Session reports (`application/worker_sessions.py`).

A worker reports the state of an account's browser session under a
revision of its own. One row per account keeps the last report that was
accepted. Assignments change under other services; `accepted` is the log
of what `report_state` returned.
-/
import ThreadsPlatform.Domain.Basic
import ThreadsPlatform.Relational.Transaction

namespace ThreadsPlatform.WorkerSessions

open Relational

/-- `BrowserSessionState`. -/
inductive BrowserSessionState where
  | uninitialized | loginRequired | starting | authenticated | busy | sessionExpired
  | challengeRequired | error | stopped
  deriving DecidableEq

/-- The states in which a session may be replaced. -/
def BrowserSessionState.ended : BrowserSessionState → Bool
  | .error | .sessionExpired | .stopped => true
  | _ => false

/-- `WorkerAccountSession`. -/
structure WorkerAccountSession where
  accountId : Uuid
  workerId : Uuid
  profileRef : String
  sessionId : Uuid
  state : BrowserSessionState
  revision : Int
  updatedAt : Time
  deriving DecidableEq

/-- The event `report_state` writes beside the row. -/
structure WorkerAuditEvent where
  workerId : Uuid
  detailCode : BrowserSessionState
  createdAt : Time
  deriving DecidableEq

/-- `WorkerSessionControlError`, and the constructor's `ValueError`. -/
inductive SessionFailure where
  | revisionInvalid | accountNotFound | affinityMismatch | alreadyOwned | reportStale
  | profileRefInvalid
  deriving DecidableEq

/-- The rows: accounts, the worker and profile each is assigned to, and
its session. -/
structure SessionStore where
  accounts : Uuid → Bool
  assignments : Uuid → Option (Uuid × String)
  sessions : Uuid → Option WorkerAccountSession
  audit : List WorkerAuditEvent

/-- The arguments of `report_state`, and the clock. -/
structure SessionReport where
  workerId : Uuid
  accountId : Uuid
  profileRef : String
  sessionId : Uuid
  state : BrowserSessionState
  revision : Int
  now : Time

/-- The row of a report. -/
def SessionReport.row (q : SessionReport) : WorkerAccountSession :=
  ⟨q.accountId, q.workerId, q.profileRef, q.sessionId, q.state, q.revision, q.now⟩

/-- A row is written, with its audit event. -/
def SessionStore.record (s : SessionStore) (q : SessionReport) :
    SessionStore × WorkerAccountSession :=
  ({ s with
      sessions := Function.update s.sessions q.accountId (some q.row)
      audit := ⟨q.workerId, q.state, q.now⟩ :: s.audit }, q.row)

/-- A profile is named, not addressed. -/
def isLogicalRef (profileRef : String) : Bool :=
  notBlank profileRef && !profileRef.toList.contains '/' && !profileRef.toList.contains '\\'

/-- `report_state`. -/
def reportState (s : SessionStore) (q : SessionReport) :
    Except SessionFailure (SessionStore × WorkerAccountSession) := do
  require (1 ≤ q.revision) .revisionInvalid
  require (s.accounts q.accountId = true) .accountNotFound
  require (s.assignments q.accountId = some (q.workerId, q.profileRef)) .affinityMismatch
  match s.sessions q.accountId with
  | none =>
    require (isLogicalRef q.profileRef = true) .profileRefInvalid
    return s.record q
  | some current =>
    let sameAssignment := current.workerId = q.workerId ∧ current.profileRef = q.profileRef
    require (sameAssignment ∨ current.state.ended = true) .alreadyOwned
    if sameAssignment ∧ current.sessionId = q.sessionId then
      require (current.revision ≤ q.revision) .reportStale
      if q.revision = current.revision then
        require (current.state = q.state) .reportStale
        return (s, current)
    else require (current.state.ended = true) .alreadyOwned
    return s.record q

/-- The store, and the reports accepted so far. -/
structure SessionRun where
  store : SessionStore
  accepted : List SessionReport

/-- What happens to it. -/
inductive SessionEvent where
  | report (q : SessionReport)
  | assign (accountId : Uuid) (assignment : Option (Uuid × String))

namespace SessionRun

/-- What an event does. -/
def after (S : SessionRun) : SessionEvent → SessionRun
  | .report q =>
    match reportState S.store q with
    | .ok answer => ⟨answer.1, q :: S.accepted⟩
    | .error _ => S
  | .assign accountId assignment =>
    { S with store := { S.store with
        assignments := Function.update S.store.assignments accountId assignment } }

end SessionRun

/-- The reports of any workers, beginning with no session. -/
def workerSessions : Machine SessionRun SessionEvent where
  init S := (∀ a, S.store.sessions a = none) ∧ S.accepted = []
  enabled _ _ := True
  step := SessionRun.after

end ThreadsPlatform.WorkerSessions
