/-
Workspace operators: users, login sessions and what a role may do.

Every operation is one transaction over `operator_users`,
`operator_sessions` and `operator_login_throttles`. `bootstrap_first_owner`,
`create_user` and `update_user` lock the workspace row first, so that of
these three one runs at a time; the others only read the caller's session.

What the standard library does to a text (`strip`, `casefold`, SHA-256,
scrypt) is a parameter; the identifiers and secrets a call draws are part
of the call.
-/
import ThreadsPlatform.Domain.Basic
import ThreadsPlatform.Relational.Table
import ThreadsPlatform.Relational.Transaction

namespace ThreadsPlatform

open Relational Table

-- ==== roles

/-- `OperatorRole`. -/
inductive OperatorRole where
  | owner | admin | operator | viewer
  deriving DecidableEq

/-- `OperatorAction`. -/
inductive OperatorAction where
  | viewWorkspace | viewFleet | viewAccounts | viewDiagnostics
  | manageOwnerAdmin | manageOperatorViewer | provisionWorker | drainWorker
  | resolveIntervention | submitCommand | controllerLifecycle | workerLifecycle
  deriving DecidableEq

/-- `_VIEW_ACTIONS`. -/
def viewActions : List OperatorAction :=
  [.viewWorkspace, .viewFleet, .viewAccounts, .viewDiagnostics]

/-- `_OWNER_ACTIONS`. -/
def ownerActions : List OperatorAction :=
  viewActions ++ [.manageOwnerAdmin, .manageOperatorViewer, .provisionWorker, .drainWorker,
    .resolveIntervention, .submitCommand, .controllerLifecycle, .workerLifecycle]

/-- `_ROLE_ACTIONS`. -/
def roleActions : OperatorRole → List OperatorAction
  | .owner => ownerActions
  | .admin => ownerActions.filter fun a => decide (a ≠ .manageOwnerAdmin)
  | .operator => [.viewWorkspace, .viewFleet, .viewAccounts, .viewDiagnostics, .drainWorker,
      .resolveIntervention, .submitCommand, .workerLifecycle]
  | .viewer => viewActions

/-- `role_allows`. -/
def roleAllows (role : OperatorRole) (action : OperatorAction) : Bool :=
  (roleActions role).contains action

/-- OWNER or ADMIN. -/
def OperatorRole.privileged : OperatorRole → Bool
  | .owner | .admin => true
  | .operator | .viewer => false

/-- The action that managing a user of the role takes. -/
def managingAction (privileged : Bool) : OperatorAction :=
  if privileged then .manageOwnerAdmin else .manageOperatorViewer

theorem roleAllows_manageOwnerAdmin {role : OperatorRole} :
    roleAllows role .manageOwnerAdmin = true ↔ role = .owner := by
  cases role <;> decide

-- ==== tables

/-- A row of `operator_users`. -/
structure OperatorUserRecord where
  id : Uuid
  workspaceId : Uuid
  username : String
  role : OperatorRole
  passwordHash : String
  enabled : Bool
  mustChangePassword : Bool
  createdAt : Time
  updatedAt : Time
  deriving DecidableEq

/-- A row of `operator_sessions`. -/
structure OperatorSessionRecord where
  id : Uuid
  operatorUserId : Uuid
  tokenDigest : String
  createdAt : Time
  expiresAt : Time
  revokedAt : Option Time
  deriving DecidableEq

/-- A row of `operator_login_throttles`. -/
structure OperatorLoginThrottleRecord where
  operatorUserId : Uuid
  failedAttempts : Int
  windowStartedAt : Time
  lockedUntil : Option Time
  deriving DecidableEq

/-- A row of `workspace_audit_events`. -/
structure WorkspaceAuditEvent where
  id : Uuid
  workspaceId : Uuid
  actorUserId : Uuid
  actorUsername : String
  eventType : String
  targetType : String
  targetId : Uuid
  details : Document
  createdAt : Time
  deriving DecidableEq

/-- `operator_users`: a name is unique in its workspace. -/
def operatorUsers : Schema Uuid OperatorUserRecord where
  key u := u.id
  check u := decide (u.username ≠ "")
  clash a b := decide (a.workspaceId = b.workspaceId) && decide (a.username = b.username)

/-- `operator_sessions`: a token digest is unique. -/
def operatorSessions : Schema Uuid OperatorSessionRecord where
  key x := x.id
  check _ := true
  clash a b := decide (a.tokenDigest = b.tokenDigest)

/-- `operator_login_throttles`. -/
def operatorLoginThrottles : Schema Uuid OperatorLoginThrottleRecord where
  key t := t.operatorUserId
  check t := decide (1 ≤ t.failedAttempts) && decide (t.failedAttempts ≤ 5)
  clash _ _ := false

/-- `workspace_audit_events`. -/
def workspaceAuditEvents : Schema Uuid WorkspaceAuditEvent where
  key e := e.id
  check _ := true
  clash _ _ := false

/-- The tables, and the workspace row if it is there. -/
structure OperatorState where
  workspace : Option Uuid
  users : Table operatorUsers
  sessions : Table operatorSessions
  throttles : Table operatorLoginThrottles
  audit : Table workspaceAuditEvents

-- ==== environment

/-- `OperatorAuthError`, by its code, and what a table constraint
refuses. -/
inductive OperatorFailure where
  | usernameInvalid | passwordInvalid | bootstrapAlreadyCompleted | sessionInvalid
  | passwordChangeRequired | forbidden | userNotFound | userChangeRequired
  | lastEnabledOwnerRequired | workspaceNotInitialized
  | integrity
  deriving DecidableEq

/-- The standard library, as far as it is used, and the lifetime of a
session. -/
structure OperatorCrypto where
  strip : String → String
  casefold : String → String
  sha256 : String → String
  /-- `_password_hash`, for a salt that was drawn. -/
  passwordHash : String → String → String
  passwordMatches : String → String → Bool
  sessionTtl : Duration

/-- The identifiers and secrets one call draws. -/
structure OperatorDraws where
  userId : Uuid
  sessionId : Uuid
  auditId : Uuid
  token : String
  temporaryPassword : String
  salt : String

/-- `LOGIN_FAILURE_WINDOW`, fifteen minutes. -/
def loginFailureWindow : Duration := 900000000

/-- `LOGIN_LOCK_DURATION`, five minutes. -/
def loginLockDuration : Duration := 300000000

/-- `LOGIN_FAILURE_LIMIT`. -/
def loginFailureLimit : Int := 5

/-- `OperatorUser`. -/
structure OperatorUser where
  id : Uuid
  username : String
  role : OperatorRole
  enabled : Bool
  mustChangePassword : Bool
  createdAt : Time
  deriving DecidableEq

/-- `OperatorPrincipal`. -/
structure OperatorPrincipal where
  userId : Uuid
  username : String
  role : OperatorRole
  enabled : Bool
  mustChangePassword : Bool
  expiresAt : Time
  deriving DecidableEq

/-- `IssuedOperatorSession`. -/
structure IssuedOperatorSession where
  accessToken : String
  expiresAt : Time
  operator : OperatorPrincipal
  deriving DecidableEq

/-- `_user_document`. -/
def OperatorUserRecord.document (u : OperatorUserRecord) : OperatorUser where
  id := u.id
  username := u.username
  role := u.role
  enabled := u.enabled
  mustChangePassword := u.mustChangePassword
  createdAt := u.createdAt

def OperatorUserRecord.principal (u : OperatorUserRecord) (expiresAt : Time) :
    OperatorPrincipal where
  userId := u.id
  username := u.username
  role := u.role
  enabled := u.enabled
  mustChangePassword := u.mustChangePassword
  expiresAt := expiresAt

-- ==== checks

/-- `[a-z0-9]`. -/
def isLowerOrDigit (c : Char) : Bool :=
  (decide ('a' ≤ c) && decide (c ≤ 'z')) || (decide ('0' ≤ c) && decide (c ≤ '9'))

/-- `_USERNAME_RE.fullmatch`: `[a-z0-9][a-z0-9._-]{2,99}`. -/
def usernameMatches (name : String) : Bool :=
  match name.toList with
  | [] => false
  | c :: cs => isLowerOrDigit c && decide (2 ≤ cs.length) && decide (cs.length ≤ 99)
      && cs.all fun c => isLowerOrDigit c || c == '.' || c == '_' || c == '-'

namespace OperatorAuth

variable (env : OperatorCrypto)

/-- `normalize_username`. -/
def normalizeUsername (username : String) : Except OperatorFailure String := do
  let normalized := env.casefold (env.strip username)
  require (usernameMatches normalized = true) .usernameInvalid
  return normalized

/-- `validate_password`. -/
def validatePassword (password : String) : Except OperatorFailure Unit :=
  require (¬ (password.length < 12 ∨ 1024 < password.length ∨ env.strip password = ""))
    .passwordInvalid

/-- `_lock_workspace`. -/
def lockWorkspace (s : OperatorState) : Except OperatorFailure Uuid :=
  orThrow s.workspace .workspaceNotInitialized

/-- `_session_pair`: the live session with the digest, of an enabled user.
The digest is unique. -/
def sessionPair (s : OperatorState) (digest : String) (now : Time) :
    Option (OperatorSessionRecord × OperatorUserRecord) := do
  let x ← s.sessions.rows.find? fun x => decide (x.tokenDigest = digest)
  let u ← s.users.get? x.operatorUserId
  if x.revokedAt = none ∧ now < x.expiresAt ∧ u.enabled = true then some (x, u) else none

/-- `_require_password_changed`. -/
def requirePasswordChanged (u : OperatorUserRecord) : Except OperatorFailure Unit :=
  require (u.mustChangePassword = false) .passwordChangeRequired

/-- `_require_action`. -/
def requireAction (role : OperatorRole) (action : OperatorAction) : Except OperatorFailure Unit :=
  require (roleAllows role action = true) .forbidden

/-- `_audit`. -/
def audit (s : OperatorState) (d : OperatorDraws) (workspaceId : Uuid)
    (actor : OperatorUserRecord) (eventType targetType : String) (targetId : Uuid)
    (details : Document) (now : Time) : Except OperatorFailure OperatorState := do
  let audit ← orThrow (s.audit.insert
    { id := d.auditId
      workspaceId := workspaceId
      actorUserId := actor.id
      actorUsername := actor.username
      eventType := eventType
      targetType := targetType
      targetId := targetId
      details := details
      createdAt := now }) .integrity
  return { s with audit }

/-- `UPDATE operator_sessions SET revoked_at`, over the rows that match
and are not revoked. -/
def revoke (s : OperatorState) (matching : OperatorSessionRecord → Bool) (now : Time) :
    Except OperatorFailure OperatorState :=
  (s.sessions.rows.filter fun x => matching x && x.revokedAt.isNone).foldlM (fun s x => do
    let sessions ← orThrow (s.sessions.update { x with revokedAt := some now }) .integrity
    return { s with sessions }) s

-- ==== operations

/-- `bootstrap_first_owner`. -/
def bootstrapFirstOwner (d : OperatorDraws) (now : Time) (username password : String)
    (s : OperatorState) : Except OperatorFailure (OperatorUser × OperatorState) := do
  let normalized ← normalizeUsername env username
  validatePassword env password
  let workspaceId ← lockWorkspace s
  require ((s.users.rows.any fun u => decide (u.workspaceId = workspaceId)) = false)
    .bootstrapAlreadyCompleted
  let record : OperatorUserRecord :=
    { id := d.userId
      workspaceId := workspaceId
      username := normalized
      role := .owner
      passwordHash := env.passwordHash d.salt password
      enabled := true
      mustChangePassword := false
      createdAt := now
      updatedAt := now }
  let users ← orThrow (s.users.insert record) .integrity
  let s ← audit { s with users } d workspaceId record "operator.owner_bootstrapped"
    "operator_user" record.id [] now
  return (record.document, s)

/-- `_record_login_failure`: the throttle row after one more failure. -/
def loginFailure (userId : Uuid) (now : Time) :
    Option OperatorLoginThrottleRecord → OperatorLoginThrottleRecord
  | none =>
    { operatorUserId := userId
      failedAttempts := 1
      windowStartedAt := now
      lockedUntil := none }
  | some throttle =>
    let throttle := if loginFailureWindow ≤ now - throttle.windowStartedAt then
        { throttle with failedAttempts := 0, windowStartedAt := now, lockedUntil := none }
      else throttle
    let throttle := { throttle with
      failedAttempts := min (throttle.failedAttempts + 1) loginFailureLimit }
    if loginFailureLimit ≤ throttle.failedAttempts then
      { throttle with lockedUntil := some (now + loginLockDuration) }
    else throttle

/-- The user of a name. The name is looked up in every workspace; there
is one. -/
def userByName (s : OperatorState) (username : String) : Option OperatorUserRecord :=
  s.users.rows.find? fun u => decide (u.username = username)

/-- `login`, once the name is accepted and its user found. -/
def loginUser (d : OperatorDraws) (now : Time) (user : OperatorUserRecord) (password : String)
    (s : OperatorState) :
    Except OperatorFailure (Option IssuedOperatorSession × OperatorState) := do
  let throttle := s.throttles.get? user.id
  let matching := env.passwordMatches password user.passwordHash
  if (throttle.bind (·.lockedUntil)).any (fun until' => decide (now < until')) then
    return (none, s)
  else if user.enabled = false ∨ matching = false then
    if user.enabled then
      let row := loginFailure user.id now throttle
      let throttles ← orThrow
        (if throttle.isNone then s.throttles.insert row else s.throttles.update row) .integrity
      return (none, { s with throttles })
    else return (none, s)
  else
    let s := { s with throttles := s.throttles.delete user.id }
    let expiresAt := now + env.sessionTtl
    let sessions ← orThrow (s.sessions.insert
      { id := d.sessionId
        operatorUserId := user.id
        tokenDigest := env.sha256 d.token
        createdAt := now
        expiresAt := expiresAt
        revokedAt := none }) .integrity
    let s ← audit { s with sessions } d user.workspaceId user "operator.login_succeeded"
      "operator_user" user.id [] now
    return (some ⟨d.token, expiresAt, user.principal expiresAt⟩, s)

/-- `login`. A name that is not accepted, or unknown, is answered like a
wrong password. -/
def login (d : OperatorDraws) (now : Time) (username password : String) (s : OperatorState) :
    Except OperatorFailure (Option IssuedOperatorSession × OperatorState) :=
  match normalizeUsername env username with
  | .error _ => return (none, s)
  | .ok normalized =>
    match userByName s normalized with
    | none => return (none, s)
    | some user => loginUser env d now user password s

/-- `authenticate`. -/
def authenticate (now : Time) (token : Option String) (s : OperatorState) :
    Option OperatorPrincipal := do
  let token ← token
  if token = "" then none
  else
    let (x, u) ← sessionPair s (env.sha256 token) now
    return u.principal x.expiresAt

/-- `logout`. -/
def logout (d : OperatorDraws) (now : Time) (token : Option String) (s : OperatorState) :
    Except OperatorFailure OperatorState := do
  match token with
  | none => return s
  | some token =>
    if token = "" then return s
    else match sessionPair s (env.sha256 token) now with
      | none => return s
      | some (x, user) =>
        let sessions ← orThrow (s.sessions.update { x with revokedAt := some now })
          .integrity
        audit { s with sessions } d user.workspaceId user "operator.logout"
          "operator_session" x.id [] now

/-- The live session and the user behind a token. -/
def actorOf (now : Time) (token : String) (s : OperatorState) :
    Except OperatorFailure (OperatorSessionRecord × OperatorUserRecord) :=
  orThrow (sessionPair s (env.sha256 token) now) .sessionInvalid

/-- The document of a role, as the audit shows it. -/
def roleText : OperatorRole → String
  | .owner => "OWNER"
  | .admin => "ADMIN"
  | .operator => "OPERATOR"
  | .viewer => "VIEWER"

/-- `create_user`: the user and the temporary password. -/
def createUser (d : OperatorDraws) (now : Time) (token username : String) (role : OperatorRole)
    (s : OperatorState) :
    Except OperatorFailure ((OperatorUser × String) × OperatorState) := do
  let normalized ← normalizeUsername env username
  let workspaceId ← lockWorkspace s
  let (_, actor) ← actorOf env now token s
  requirePasswordChanged actor
  requireAction actor.role (managingAction role.privileged)
  let record : OperatorUserRecord :=
    { id := d.userId
      workspaceId := workspaceId
      username := normalized
      role := role
      passwordHash := env.passwordHash d.salt d.temporaryPassword
      enabled := true
      mustChangePassword := true
      createdAt := now
      updatedAt := now }
  let users ← orThrow (s.users.insert record) .integrity
  let s ← audit { s with users } d workspaceId actor "operator.user_created" "operator_user"
    record.id [("role", .str (roleText role))] now
  return ((record.document, d.temporaryPassword), s)

/-- The enabled owners of a workspace. -/
def enabledOwners (users : Table operatorUsers) (workspaceId : Uuid) : List OperatorUserRecord :=
  users.rows.filter fun u => decide (u.workspaceId = workspaceId) && decide (u.role = .owner)
    && u.enabled

/-- The sessions of a user who has just been disabled are revoked. -/
def revokeDisabled (s : OperatorState) (target changed : OperatorUserRecord) (now : Time) :
    Except OperatorFailure OperatorState :=
  if target.enabled = true ∧ changed.enabled = false then
    revoke s (fun x => decide (x.operatorUserId = target.id)) now
  else return s

/-- `update_user`. The last enabled owner is looked for after the change,
in the whole table. -/
def updateUser (d : OperatorDraws) (now : Time) (token : String) (userId : Uuid)
    (role : Option OperatorRole) (enabled : Option Bool) (s : OperatorState) :
    Except OperatorFailure (OperatorUser × OperatorState) := do
  require (¬ (role = none ∧ enabled = none)) .userChangeRequired
  let workspaceId ← lockWorkspace s
  let (_, actor) ← actorOf env now token s
  requirePasswordChanged actor
  let target ← orThrow ((s.users.get? userId).filter
    fun u => decide (u.workspaceId = workspaceId)) .userNotFound
  requireAction actor.role
    (managingAction (target.role.privileged || role.any (·.privileged)))
  let changed := { target with
    role := role.getD target.role
    enabled := enabled.getD target.enabled
    updatedAt := now }
  let users ← orThrow (s.users.update changed) .integrity
  require ((enabledOwners users workspaceId).length ≠ 0) .lastEnabledOwnerRequired
  let s ← revokeDisabled { s with users } target changed now
  let s ← audit s d workspaceId actor "operator.user_updated" "operator_user" target.id
    [("role_changed", .bool (decide (target.role ≠ changed.role))),
      ("enabled_changed", .bool (decide (target.enabled ≠ changed.enabled)))] now
  return (changed.document, s)

/-- `change_password`: every other session of the user is revoked. -/
def changePassword (d : OperatorDraws) (now : Time) (token newPassword : String)
    (s : OperatorState) : Except OperatorFailure (OperatorPrincipal × OperatorState) := do
  validatePassword env newPassword
  let (x, user) ← actorOf env now token s
  let changed := { user with
    passwordHash := env.passwordHash d.salt newPassword
    mustChangePassword := false
    updatedAt := now }
  let users ← orThrow (s.users.update changed) .integrity
  let s ← revoke { s with users }
    (fun y => decide (y.operatorUserId = user.id) && decide (y.id ≠ x.id)) now
  let s ← audit s d user.workspaceId user "operator.password_changed" "operator_user" user.id
    [] now
  return (changed.principal x.expiresAt, s)

-- ==== machine

/-- The operations, with their arguments. -/
inductive OperatorOp where
  | bootstrapFirstOwner (username password : String)
  | login (username password : String)
  | logout (token : Option String)
  | createUser (token username : String) (role : OperatorRole)
  | updateUser (token : String) (userId : Uuid) (role : Option OperatorRole)
      (enabled : Option Bool)
  | changePassword (token newPassword : String)

/-- One call: when, with which draws, what. -/
structure OperatorCall where
  now : Time
  draws : OperatorDraws
  op : OperatorOp

/-- The token the call is made with. -/
def OperatorOp.token? : OperatorOp → Option String
  | .bootstrapFirstOwner _ _ | .login _ _ => none
  | .logout token => token
  | .createUser token _ _ | .updateUser token _ _ _ | .changePassword token _ => some token

/-- The state a call commits, or the error it raises. -/
def OperatorCall.outcome (call : OperatorCall) (s : OperatorState) : Except OperatorFailure
  OperatorState :=
  match call.op with
  | .bootstrapFirstOwner username password =>
    Prod.snd <$> OperatorAuth.bootstrapFirstOwner env call.draws call.now username password s
  | .login username password =>
    Prod.snd <$> OperatorAuth.login env call.draws call.now username password s
  | .logout token => OperatorAuth.logout env call.draws call.now token s
  | .createUser token username role =>
    Prod.snd <$> OperatorAuth.createUser env call.draws call.now token username role s
  | .updateUser token userId role enabled =>
    Prod.snd <$> OperatorAuth.updateUser env call.draws call.now token userId role enabled s
  | .changePassword token newPassword =>
    Prod.snd <$> OperatorAuth.changePassword env call.draws call.now token newPassword s

/-- Any calls in any order, from empty tables. -/
def operatorMachine : Machine OperatorState OperatorCall where
  init s := ∃ workspace, s = ⟨workspace, .empty _, .empty _, .empty _, .empty _⟩
  enabled _ _ := True
  step s call := commit (call.outcome env s) s

end OperatorAuth

end ThreadsPlatform
