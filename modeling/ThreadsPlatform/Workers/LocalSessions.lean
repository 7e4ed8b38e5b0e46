/-
A worker's browser sessions: its local store
(`infrastructure/worker_agent/local_state.py`), the session manager over
it (`workers/sessions.py`), and how reports leave (`workers/runtime.py`).

A call of the manager is a list of store transactions, of which a crash
leaves the first ones. `recorded` is every report ever written.
-/
import Mathlib.Data.List.Sort
import ThreadsPlatform.Application.WorkerSessions

namespace ThreadsPlatform.LocalSessions

open Relational WorkerSessions

/-- `LocalSessionState`: a row of `local_browser_sessions`, and of
`pending_session_reports`. -/
structure LocalSessionState where
  accountId : Uuid
  profileRef : String
  sessionId : Uuid
  state : BrowserSessionState
  revision : Int
  updatedAt : Time
  deriving DecidableEq

/-- A row of `session_reservations`. -/
structure Reservation where
  accountId : Uuid
  profileRef : String
  sessionId : Uuid
  deriving DecidableEq

/-- The tables of one worker: the account each profile belongs to, one
reservation and one session per account, and the reports not delivered
yet. -/
structure LocalStore where
  owners : String → Option Uuid
  reservations : List Reservation
  sessions : Uuid → Option LocalSessionState
  pending : List LocalSessionState
  recorded : List LocalSessionState

/-- `LocalWorkerStateError` and its kinds, and `InvalidSessionTransition`. -/
inductive LocalFailure where
  | profileRefInvalid | profileOwnership | otherReservation | capacity | integrity
  | activeSession | invalidTransition
  deriving DecidableEq

-- ==== the store

/-- `_validate_profile_ref`. -/
def validateProfileRef (profileRef : String) : Except LocalFailure Unit :=
  require (notBlank profileRef = true ∧ profileRef ≠ "." ∧ profileRef ≠ ".."
    ∧ (profileRef.toList.all fun c => c ∉ ['/', '\\', ':', '\x00']) = true) .profileRefInvalid

namespace LocalStore

variable (s : LocalStore)

/-- `bind_profile_owner`. -/
def bindProfileOwner (accountId : Uuid) (profileRef : String) : Except LocalFailure LocalStore := do
  validateProfileRef profileRef
  let owner := (s.owners profileRef).getD accountId
  require (owner = accountId) .profileOwnership
  return { s with owners := Function.update s.owners profileRef (some owner) }

/-- `reserve_session`. -/
def reserveSession (maximum : Nat) (r : Reservation) : Except LocalFailure LocalStore := do
  require (s.owners r.profileRef = some r.accountId) .profileOwnership
  match s.reservations.find? fun c => decide (c.accountId = r.accountId) with
  | some current =>
    require (current = r) .otherReservation
    return s
  | none =>
    require (s.reservations.length < maximum) .capacity
    require (∀ c ∈ s.reservations, c.profileRef ≠ r.profileRef ∧ c.sessionId ≠ r.sessionId)
      .integrity
    return { s with reservations := s.reservations ++ [r] }

/-- `release_session`. -/
def releaseSession (accountId sessionId : Uuid) : LocalStore :=
  { s with reservations := s.reservations.filter fun c =>
      decide (¬ (c.accountId = accountId ∧ c.sessionId = sessionId)) }

/-- The row of a session and its report, in one transaction. -/
def write (row report : LocalSessionState) : LocalStore := { s with
    sessions := Function.update s.sessions row.accountId (some row)
    pending := s.pending ++ [report]
    recorded := report :: s.recorded }

/-- The revision after the row's. -/
def nextRevision (accountId : Uuid) : Int := (s.sessions accountId).elim 1 (·.revision + 1)

/-- `record_session_state`. Revisions grow, so the report's key is new. -/
def recordSessionState (r : Reservation) (state : BrowserSessionState) (now : Time) :
    Except LocalFailure LocalStore := do
  validateProfileRef r.profileRef
  require (s.owners r.profileRef = some r.accountId) .profileOwnership
  require (∀ previous ∈ s.sessions r.accountId, previous.sessionId = r.sessionId →
    previous.profileRef = r.profileRef) .profileOwnership
  require (∀ previous ∈ s.sessions r.accountId, previous.sessionId ≠ r.sessionId →
    previous.state.ended = true) .activeSession
  let row : LocalSessionState :=
    ⟨r.accountId, r.profileRef, r.sessionId, state, s.nextRevision r.accountId, now⟩
  return s.write row row

/-- One round of `recover_after_restart`: the row keeps its session, the
report has that of the reservation. -/
def recoverOne (now : Time) (s : LocalStore) (r : Reservation) : LocalStore :=
  match s.sessions r.accountId with
  | none => s
  | some previous =>
    let revision := previous.revision + 1
    s.write { previous with state := .sessionExpired, revision := revision, updatedAt := now }
      ⟨r.accountId, r.profileRef, r.sessionId, .sessionExpired, revision, now⟩

/-- `recover_after_restart`. -/
def recoverAfterRestart (now : Time) : LocalStore :=
  { s.reservations.foldl (recoverOne now) s with reservations := [] }

/-- `ORDER BY updated_at, revision, account_id`. -/
def Before (a b : LocalSessionState) : Prop :=
  a.updatedAt < b.updatedAt ∨ a.updatedAt = b.updatedAt
    ∧ (a.revision < b.revision ∨ a.revision = b.revision ∧ a.accountId ≤ b.accountId)

instance : DecidableRel Before := fun _ _ => inferInstanceAs (Decidable (_ ∨ _))

/-- `pending_session_reports`. -/
def pendingSessionReports : List LocalSessionState :=
  s.pending.insertionSort Before

/-- `mark_session_report_delivered`. -/
def markSessionReportDelivered (r : LocalSessionState) : LocalStore :=
  { s with pending := s.pending.filter fun p => decide (¬ (p.accountId = r.accountId
      ∧ p.sessionId = r.sessionId ∧ p.revision = r.revision)) }

end LocalStore

-- ==== the session manager

/-- `_SESSION_TRANSITIONS`. -/
def sessionTransitions : BrowserSessionState → List BrowserSessionState
  | .uninitialized | .sessionExpired | .challengeRequired =>
    [.loginRequired, .starting, .error, .stopped]
  | .loginRequired => [.starting, .error, .stopped]
  | .starting =>
    [.authenticated, .loginRequired, .sessionExpired, .challengeRequired, .error, .stopped]
  | .authenticated =>
    [.busy, .loginRequired, .sessionExpired, .challengeRequired, .error, .stopped]
  | .busy =>
    [.authenticated, .loginRequired, .sessionExpired, .challengeRequired, .error, .stopped]
  | .error => [.starting, .stopped]
  | .stopped => [.starting]

/-- One transaction of a call. -/
abbrev StoreStep := LocalStore → Except LocalFailure LocalStore

/-- `_transition_from`. -/
def transitionFrom (r : Reservation) (target : BrowserSessionState) (now : Time) : StoreStep :=
  fun s => do
    require (∀ current ∈ s.sessions r.accountId, target ∈ sessionTransitions current.state)
      .invalidTransition
    s.recordSessionState r target now

/-- `open`, for a drawn session id. -/
def openSteps (maximum : Nat) (accountId : Uuid) (profileRef : String) (drawn : Uuid)
    (now now' : Time) (s : LocalStore) : List StoreStep :=
  match (s.sessions accountId).filter fun previous => !previous.state.ended with
  | some active =>
    if active.profileRef = profileRef then
      [(·.bindProfileOwner accountId profileRef),
        (·.reserveSession maximum ⟨accountId, profileRef, active.sessionId⟩)]
    else []
  | none =>
    let sessionId := (((s.sessions accountId).filter fun previous =>
      decide (previous.profileRef = profileRef)).map (·.sessionId)).getD drawn
    let r : Reservation := ⟨accountId, profileRef, sessionId⟩
    [(·.bindProfileOwner accountId profileRef), (·.reserveSession maximum r),
      transitionFrom r .starting now, transitionFrom r .loginRequired now']

/-- `transition`, and `close`, which is to STOPPED. -/
def transitionSteps (accountId : Uuid) (state : BrowserSessionState) (now : Time)
    (s : LocalStore) : List StoreStep :=
  match s.sessions accountId with
  | none => []
  | some current =>
    if state ∈ sessionTransitions current.state then
      [(·.recordSessionState ⟨accountId, current.profileRef, current.sessionId⟩ state now),
        fun s => return if state = .stopped then s.releaseSession accountId current.sessionId
          else s]
    else []

/-- The first `n` transactions, up to one that raises. -/
def runSteps : List StoreStep → Nat → LocalStore → LocalStore
  | step :: steps, n + 1, s =>
    match step s with
    | .ok s' => runSteps steps n s'
    | .error _ => s
  | _, _, s => s

/-- What happens to the store. A call is cut after `n` transactions. -/
inductive LocalEvent where
  | opened (maximum : Nat) (accountId : Uuid) (profileRef : String) (drawn : Uuid)
      (now now' : Time) (n : Nat)
  | moved (accountId : Uuid) (state : BrowserSessionState) (now : Time) (n : Nat)
  | recovered (now : Time)
  | delivered (report : LocalSessionState)

def LocalStore.after (s : LocalStore) : LocalEvent → LocalStore
  | .opened maximum accountId profileRef drawn now now' n =>
    runSteps (openSteps maximum accountId profileRef drawn now now' s) n s
  | .moved accountId state now n => runSteps (transitionSteps accountId state now s) n s
  | .recovered now => s.recoverAfterRestart now
  | .delivered report => s.markSessionReportDelivered report

/-- Calls, crashes and restarts, from empty tables. -/
def localSessions : Machine LocalStore LocalEvent where
  init s := s = ⟨fun _ => none, [], fun _ => none, [], []⟩
  enabled _ _ := True
  step := LocalStore.after

-- ==== the runtime

section Runtime

variable {κ : Type} (report : κ → LocalSessionState → Option κ)

/-- What a flush leaves: the Control Plane, the store, the reports that
were answered, and whether it returns. -/
structure Flushed (κ : Type) where
  control : κ
  store : LocalStore
  sent : List LocalSessionState
  returns : Bool

/-- The loop of `flush_session_reports`. A refusal is raised. -/
def flushReports : List LocalSessionState → κ → LocalStore → Flushed κ
  | [], k, s => ⟨k, s, [], true⟩
  | r :: reports, k, s =>
    match report k r with
    | none => ⟨k, s, [], false⟩
    | some k' =>
      let rest := flushReports reports k' (s.markSessionReportDelivered r)
      { rest with sent := r :: rest.sent }

/-- `flush_session_reports`, of a connected worker. -/
def flushSessionReports (k : κ) (s : LocalStore) : Flushed κ :=
  flushReports report s.pendingSessionReports k s

/-- `connect_once`, once the calls before the flush were answered. -/
def connectOnce (protocolCompatible : Bool) (k : κ) (s : LocalStore) : Flushed κ :=
  if protocolCompatible then flushSessionReports report k s else ⟨k, s, [], true⟩

end Runtime

end ThreadsPlatform.LocalSessions
