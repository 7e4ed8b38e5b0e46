/-
The operator transactions, statement by statement.

`login` locks the user row before it looks at it. `update_user` locks
the workspace, then the caller's session in share mode, then the target;
the flush before the count writes it, and the sessions of a user who is
being disabled are revoked last. `change_password` locks only the
caller's session; its first write to the user row is the flush before
the revoking UPDATE, and takes the lock there.

A revoking UPDATE sees the sessions that are committed when it begins.
It then goes from row to row, waiting where one is locked, and looks
again at each row it gets. The row a share lock is for is looked at
again too; the user row that was joined to it is not.

What a transaction has written is its own until it commits.

`log` and `births` are not in the database. `log` lists the transactions
that have disabled a user or changed a password; `births` says how many
there were when a session's login executed its first statement.
-/
import ThreadsPlatform.Infrastructure.OperatorAuth
import ThreadsPlatform.Relational.LockedTransactions

namespace ThreadsPlatform.OperatorAuth

open Relational Table

/-- The sessions of a user were revoked, one apart. -/
structure Revocation where
  userId : Uuid
  spared : Option Uuid
  deriving DecidableEq

/-- What is committed, with its history. -/
structure AuthDb where
  state : OperatorState
  log : List Revocation
  births : Uuid → Nat

/-- The rows that are locked. -/
inductive AuthRow where
  | workspace
  | user (id : Uuid)
  | session (id : Uuid)
  deriving DecidableEq

/-- Where a transaction is: between which statements, with what it has
read and written. -/
inductive AuthPoint where
  | begun (call : OperatorCall)
  -- `login`
  | loginLocked (call : OperatorCall) (user : OperatorUserRecord) (seen : Nat)
  | loginChecked (call : OperatorCall) (user : OperatorUserRecord) (seen : Nat)
      (throttle : Option OperatorLoginThrottleRecord)
  | loginCleared (call : OperatorCall) (user : OperatorUserRecord) (seen : Nat)
  -- the others
  | workspaceLocked (call : OperatorCall) (workspaceId : Uuid)
  | found (call : OperatorCall) (workspaceId : Option Uuid) (x : OperatorSessionRecord)
      (actor : OperatorUserRecord)
  | sessionLocked (call : OperatorCall) (workspaceId : Option Uuid) (x : OperatorSessionRecord)
      (actor : OperatorUserRecord)
  | targetLocked (call : OperatorCall) (workspaceId : Uuid) (x : OperatorSessionRecord)
      (actor target : OperatorUserRecord)
  | userWritten (call : OperatorCall) (workspaceId : Option Uuid) (x : OperatorSessionRecord)
      (actor old changed : OperatorUserRecord)
  | ownersCounted (call : OperatorCall) (workspaceId : Option Uuid) (x : OperatorSessionRecord)
      (actor old changed : OperatorUserRecord)
  | revoking (call : OperatorCall) (workspaceId : Option Uuid) (x : OperatorSessionRecord)
      (actor old changed : OperatorUserRecord) (todo done : List Uuid)
  | loggedOut (call : OperatorCall) (x : OperatorSessionRecord) (user : OperatorUserRecord)

/-- The workspace lock, where it was taken. -/
def workspaceRow (workspaceId : Option Uuid) : List AuthRow :=
  if workspaceId.isSome then [.workspace] else []

/-- The locks a point holds. -/
def AuthPoint.holds : AuthPoint → Held AuthRow
  | .begun _ => .none
  | .loginLocked _ user _ | .loginChecked _ user _ _ | .loginCleared _ user _ =>
    ⟨[.user user.id], []⟩
  | .workspaceLocked _ _ => ⟨[.workspace], []⟩
  | .found _ workspaceId _ _ => ⟨workspaceRow workspaceId, []⟩
  | .sessionLocked _ workspaceId x _ => ⟨workspaceRow workspaceId, [.session x.id]⟩
  | .targetLocked _ _ x _ target => ⟨[.workspace, .user target.id], [.session x.id]⟩
  | .userWritten _ workspaceId x _ old _ | .ownersCounted _ workspaceId x _ old _ =>
    ⟨.user old.id :: workspaceRow workspaceId, [.session x.id]⟩
  | .revoking _ workspaceId x _ old _ _ done =>
    ⟨.user old.id :: workspaceRow workspaceId ++ done.map .session, [.session x.id]⟩
  | .loggedOut _ x _ => ⟨[.session x.id], []⟩

section Statements

variable (env : OperatorCrypto)

/-- `SET revoked_at` on the rows with the ids. -/
def revokeRows (sessions : Table operatorSessions) (ids : List Uuid) (now : Time) :
    Table operatorSessions :=
  sessions.mapRows (fun x => if ids.contains x.id then { x with revokedAt := some now } else x)
    (fun x => by dsimp only [operatorSessions]; split <;> rfl)
    (fun x => rfl)
    (fun a b => by dsimp only [operatorSessions]; split <;> split <;> rfl)

/-- The sessions a revoking UPDATE begins with. -/
def unrevoked (s : OperatorState) (matching : OperatorSessionRecord → Bool) : List Uuid :=
  (s.sessions.rows.filter fun x => matching x && x.revokedAt.isNone).map (·.id)

/-- The flush of a changed user: the columns that were set, on the row as
it is. -/
def writeUser (call : OperatorCall) (users : Table operatorUsers) (changed : OperatorUserRecord) :
    Option (Table operatorUsers) :=
  (users.get? changed.id).bind fun row =>
    match call.op with
    | .updateUser _ _ _ _ =>
      users.update { row with
        role := changed.role, enabled := changed.enabled, updatedAt := changed.updatedAt }
    | .changePassword _ _ =>
      users.update { row with
        passwordHash := changed.passwordHash
        mustChangePassword := changed.mustChangePassword
        updatedAt := changed.updatedAt }
    | _ => none

/-- What the commit of a change adds to the history. -/
def revocation (call : OperatorCall) (x : OperatorSessionRecord)
    (old changed : OperatorUserRecord) : List Revocation :=
  match call.op with
  | .updateUser _ _ _ _ =>
    if old.enabled = true ∧ changed.enabled = false then [⟨old.id, none⟩] else []
  | .changePassword _ _ => [⟨old.id, some x.id⟩]
  | _ => []

/-- The SELECT of `_session_pair`. -/
def lookUp (db : AuthDb) (call : OperatorCall) (workspaceId : Option Uuid) (token : String) :
    TxTurn AuthDb AuthPoint :=
  match sessionPair db.state (env.sha256 token) call.now with
  | none => .ends
  | some (x, actor) => .goes (.found call workspaceId x actor)

/-- A call's first statement. -/
def firstStatement (db : AuthDb) (call : OperatorCall) : TxTurn AuthDb AuthPoint :=
  match call.op with
  | .login username _ =>
    match normalizeUsername env username with
    | .error _ => .ends
    | .ok name =>
      match userByName db.state name with
      | none => .ends
      | some user => .goes (.loginLocked call user db.log.length)
  | .logout token =>
    match token with
    | none => .ends
    | some token => if token = "" then .ends else lookUp env db call none token
  | .changePassword token newPassword =>
    match validatePassword env newPassword with
    | .error _ => .ends
    | .ok _ => lookUp env db call none token
  | .updateUser _ _ role enabled =>
    if role = none ∧ enabled = none then .ends
    else match db.state.workspace with
      | none => .ends
      | some workspaceId => .goes (.workspaceLocked call workspaceId)
  | .bootstrapFirstOwner _ _ | .createUser _ _ _ =>
    match db.state.workspace with
    | none => .ends
    | some workspaceId => .goes (.workspaceLocked call workspaceId)

/-- `login` has read the throttle, locked with the user. -/
def checkLogin (db : AuthDb) (call : OperatorCall) (user : OperatorUserRecord) (seen : Nat)
    (throttle : Option OperatorLoginThrottleRecord) : TxTurn AuthDb AuthPoint :=
  match call.op with
  | .login _ password =>
    let matching := env.passwordMatches password user.passwordHash
    if (throttle.bind (·.lockedUntil)).any (fun until' => decide (call.now < until')) then .ends
    else if user.enabled = false ∨ matching = false then
      if user.enabled then
        let row := loginFailure user.id call.now throttle
        match if throttle.isNone then db.state.throttles.insert row
          else db.state.throttles.update row with
        | none => .ends
        | some throttles => .commits { db with state := { db.state with throttles } }
      else .ends
    else .goes (.loginCleared call user seen)
  | _ => .ends

/-- `login` commits: the session is inserted. -/
def commitLogin (db : AuthDb) (call : OperatorCall) (user : OperatorUserRecord) (seen : Nat) :
    TxTurn AuthDb AuthPoint :=
  match db.state.sessions.insert
    { id := call.draws.sessionId
      operatorUserId := user.id
      tokenDigest := env.sha256 call.draws.token
      createdAt := call.now
      expiresAt := call.now + env.sessionTtl
      revokedAt := none } with
  | none => .ends
  | some sessions =>
    match audit { db.state with throttles := db.state.throttles.delete user.id, sessions }
      call.draws user.workspaceId user "operator.login_succeeded" "operator_user" user.id []
      call.now with
    | .error _ => .ends
    | .ok state => .commits
        { db with
          state := state
          births := Function.update db.births call.draws.sessionId seen }

/-- The statement after the caller's session is locked. -/
def withSession (db : AuthDb) (call : OperatorCall) (workspaceId : Option Uuid)
    (x : OperatorSessionRecord) (actor : OperatorUserRecord) : TxTurn AuthDb AuthPoint :=
  match call.op with
  | .updateUser _ userId _ _ =>
    match workspaceId with
    | none => .ends
    | some workspaceId =>
      if actor.mustChangePassword then .ends
      else match (db.state.users.get? userId).filter
          fun u => decide (u.workspaceId = workspaceId) with
        | none => .ends
        | some target =>
          -- an object that is loaded already is not read again
          .goes (.targetLocked call workspaceId x actor
            (if target.id = actor.id then actor else target))
  | .changePassword _ newPassword =>
    .goes (.userWritten call workspaceId x actor actor
      { actor with
        passwordHash := env.passwordHash call.draws.salt newPassword
        mustChangePassword := false
        updatedAt := call.now })
  | .logout _ => .goes (.loggedOut call x actor)
  | _ => .ends

/-- `update_user` has locked its target: the check, and the flush. -/
def writeTarget (call : OperatorCall) (workspaceId : Uuid) (x : OperatorSessionRecord)
    (actor target : OperatorUserRecord) : TxTurn AuthDb AuthPoint :=
  match call.op with
  | .updateUser _ _ role enabled =>
    match requireAction actor.role
      (managingAction (target.role.privileged || role.any (·.privileged))) with
    | .error _ => .ends
    | .ok _ => .goes (.userWritten call (some workspaceId) x actor target
        { target with
          role := role.getD target.role
          enabled := enabled.getD target.enabled
          updatedAt := call.now })
  | _ => .ends

/-- After the user is written: `update_user` counts the owners, with its
own change; `change_password` begins to revoke. -/
def afterWrite (db : AuthDb) (call : OperatorCall) (workspaceId : Option Uuid)
    (x : OperatorSessionRecord) (actor old changed : OperatorUserRecord) :
    TxTurn AuthDb AuthPoint :=
  match call.op with
  | .updateUser _ _ _ _ =>
    match writeUser call db.state.users changed, workspaceId with
    | some users, some id =>
      if (enabledOwners users id).length = 0 then .ends
      else .goes (.ownersCounted call workspaceId x actor old changed)
    | _, _ => .ends
  | .changePassword _ _ =>
    .goes (.revoking call workspaceId x actor old changed
      (unrevoked db.state fun y => decide (y.operatorUserId = old.id) && decide (y.id ≠ x.id))
      [])
  | _ => .ends

/-- The revoking UPDATE of `update_user` begins, if there is one. -/
def beginRevoking (db : AuthDb) (call : OperatorCall) (workspaceId : Option Uuid)
    (x : OperatorSessionRecord) (actor old changed : OperatorUserRecord) :
    TxTurn AuthDb AuthPoint :=
  .goes (.revoking call workspaceId x actor old changed
    (if old.enabled = true ∧ changed.enabled = false then
      unrevoked db.state fun y => decide (y.operatorUserId = old.id) else []) [])

/-- The audit event of a change. -/
def auditChange (s : OperatorState) (call : OperatorCall) (workspaceId : Option Uuid)
    (actor old changed : OperatorUserRecord) : Except OperatorFailure OperatorState :=
  match call.op with
  | .updateUser _ _ _ _ =>
    audit s call.draws (workspaceId.getD actor.workspaceId) actor "operator.user_updated"
      "operator_user" old.id
      [("role_changed", .bool (decide (old.role ≠ changed.role))),
        ("enabled_changed", .bool (decide (old.enabled ≠ changed.enabled)))] call.now
  | _ =>
    audit s call.draws actor.workspaceId actor "operator.password_changed" "operator_user"
      actor.id [] call.now

/-- A change commits. -/
def commitChange (db : AuthDb) (call : OperatorCall) (workspaceId : Option Uuid)
    (x : OperatorSessionRecord) (actor old changed : OperatorUserRecord) (done : List Uuid) :
    TxTurn AuthDb AuthPoint :=
  match writeUser call db.state.users changed with
  | none => .ends
  | some users =>
    match auditChange
      { db.state with users, sessions := revokeRows db.state.sessions done call.now }
      call workspaceId actor old changed with
    | .error _ => .ends
    | .ok state => .commits
        { db with state := state, log := db.log ++ revocation call x old changed }

/-- `logout` commits. -/
def commitLogout (db : AuthDb) (call : OperatorCall) (x : OperatorSessionRecord)
    (user : OperatorUserRecord) : TxTurn AuthDb AuthPoint :=
  match audit { db.state with sessions := revokeRows db.state.sessions [x.id] call.now }
    call.draws user.workspaceId user "operator.logout" "operator_session" x.id [] call.now with
  | .error _ => .ends
  | .ok state => .commits { db with state := state }

/-- The next statement. -/
def turn (db : AuthDb) : AuthPoint → TxTurn AuthDb AuthPoint
  | .begun call => firstStatement env db call
  | .loginLocked call user seen =>
    .goes (.loginChecked call user seen (db.state.throttles.get? user.id))
  | .loginChecked call user seen throttle => checkLogin env db call user seen throttle
  | .loginCleared call user seen => commitLogin env db call user seen
  | .workspaceLocked call workspaceId =>
    match call.op with
    | .updateUser token _ _ _ => lookUp env db call (some workspaceId) token
    | .bootstrapFirstOwner _ _ | .createUser _ _ _ =>
      match call.outcome env db.state with
      | .error _ => .ends
      | .ok state => .commits { db with state := state }
    | _ => .ends
  | .found call workspaceId x actor =>
    match db.state.sessions.get? x.id with
    | none => .ends
    | some y => if y.revokedAt = none ∧ call.now < y.expiresAt then
        .goes (.sessionLocked call workspaceId y actor) else .ends
  | .sessionLocked call workspaceId x actor => withSession env db call workspaceId x actor
  | .targetLocked call workspaceId x actor target => writeTarget call workspaceId x actor target
  | .userWritten call workspaceId x actor old changed =>
    afterWrite db call workspaceId x actor old changed
  | .ownersCounted call workspaceId x actor old changed =>
    beginRevoking db call workspaceId x actor old changed
  | .revoking call workspaceId x actor old changed (id :: todo) done =>
    if (db.state.sessions.get? id).any (fun y => y.revokedAt.isNone) then
      .goes (.revoking call workspaceId x actor old changed todo (id :: done))
    else .goes (.revoking call workspaceId x actor old changed todo done)
  | .revoking call workspaceId x actor old changed [] done =>
    commitChange db call workspaceId x actor old changed done
  | .loggedOut call x user => commitLogout db call x user

/-- The operator transactions. -/
def authProgram : TxProgram AuthDb AuthPoint OperatorCall AuthRow where
  start := .begun
  turn := turn env
  holds := AuthPoint.holds

end Statements

end ThreadsPlatform.OperatorAuth
