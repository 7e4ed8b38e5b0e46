/-
Revoked operator sessions stay revoked, whatever runs beside.

The user row is what orders things. A login holds it from its first
statement to its end; whoever revokes the sessions of a user holds it
from before the revoking UPDATE begins to the commit. So the sessions
that the UPDATE does not see are of logins that have not begun, and a
login that has begun is over before a revocation of its user commits.

`Sound` is about what is committed: a session that was born before a
revocation of its user is revoked, unless it was the one that was
spared. `Holding` is what a transaction knows in between: a login that
no revocation of its user was logged since it began, a revocation that
every session of its user is revoked or on one of its two lists.
-/
import ThreadsPlatform.Infrastructure.OperatorStatements
import ThreadsPlatform.Proofs.OperatorPrivilege

namespace ThreadsPlatform.OperatorAuth

open Relational Table

variable {env : OperatorCrypto} {db db' : AuthDb} {call : OperatorCall} {now : Time}
  {x y : OperatorSessionRecord} {actor old changed user : OperatorUserRecord} {s s' : OperatorState}
  {next point : AuthPoint} {ids : List Uuid} {seen : Nat} {d : OperatorDraws}
  {target : OperatorUserRecord} {workspaceId : Option Uuid} {token username : String}
  {T : Table operatorSessions}

-- ==== invariants

/-- Every session born before a revocation of its user is revoked, but
for the one that was spared. -/
def Sound (db : AuthDb) : Prop :=
  ∀ (n : Nat) e x, db.log[n]? = some e → db.state.sessions.get? x.id = some x →
    x.operatorUserId = e.userId → db.births x.id ≤ n → e.spared ≠ some x.id →
    x.revokedAt ≠ none

/-- No revocation of the user was logged since. -/
def Unrevoked (db : AuthDb) (userId : Uuid) (seen : Nat) : Prop :=
  ∀ (n : Nat) e, db.log[n]? = some e → e.userId = userId → n < seen

/-- What a transaction knows between its statements. -/
def Holding (db : AuthDb) : AuthPoint → Prop
  | .loginLocked _ user seen | .loginChecked _ user seen _ | .loginCleared _ user seen =>
    Unrevoked db user.id seen
  | .ownersCounted call _ _ _ _ _ => ∃ token userId role enabled,
      call.op = .updateUser token userId role enabled
  | .revoking call _ x _ old changed todo done =>
    ∀ e ∈ revocation call x old changed, ∀ y, db.state.sessions.get? y.id = some y →
      y.operatorUserId = e.userId → e.spared ≠ some y.id →
      y.revokedAt ≠ none ∨ y.id ∈ todo ∨ y.id ∈ done
  | _ => True

theorem revocation_user {e : Revocation} (h : e ∈ revocation call x old changed) :
    e.userId = old.id := by
  unfold revocation at h
  split at h
  · split at h
    · rw [List.mem_singleton.mp h]
    · cases h
  · rw [List.mem_singleton.mp h]
  · cases h

-- ==== bulk rows

theorem get?_revokeRows {k : Uuid} : (revokeRows T ids now).get? k = (T.get? k).map fun x =>
      if ids.contains x.id then { x with revokedAt := some now } else x :=
  get?_mapRows

/-- A row after some were revoked: one of before, revoked if it was or if
it was meant. -/
theorem revokeRows_row (h : (revokeRows T ids now).get? x.id = some x) :
    ∃ x0, T.get? x0.id = some x0 ∧ x0.id = x.id ∧ x0.operatorUserId = x.operatorUserId
      ∧ (x0.revokedAt ≠ none → x.revokedAt ≠ none) ∧ (x.id ∈ ids → x.revokedAt ≠ none) := by
  rw [get?_revokeRows, Option.map_eq_some_iff] at h
  obtain ⟨x0, hx0, heq⟩ := h
  have hid : x0.id = x.id := key_of_get? hx0
  refine ⟨x0, hid.symm ▸ hx0, hid, ?_⟩
  split at heq
  · rw [← heq]
    exact ⟨rfl, fun _ => by simp, fun _ => by simp⟩
  · rename_i hnot
    rw [List.contains_iff_mem, hid] at hnot
    rw [← heq]
    exact ⟨rfl, fun h => h, fun hin => absurd (heq ▸ hid ▸ hin) hnot⟩

theorem mem_unrevoked {matching : OperatorSessionRecord → Bool}
    (hy : s.sessions.get? y.id = some y) (hmatch : matching y = true)
    (hlive : y.revokedAt = none) : y.id ∈ unrevoked s matching := by
  unfold unrevoked
  refine List.mem_map.mpr ⟨y, List.mem_filter.mpr ⟨mem_rows_iff.mpr hy, ?_⟩, rfl⟩
  simp [hmatch, hlive]

-- ==== commits

/-- What a commit does to the sessions and their history. -/
inductive CommitEffect (point : AuthPoint) (db db' : AuthDb) : Prop
  | quiet (sessions : db'.state.sessions = db.state.sessions) (log : db'.log = db.log)
      (births : db'.births = db.births)
  | issued (call : OperatorCall) (user : OperatorUserRecord) (seen : Nat)
      (z : OperatorSessionRecord) (at_ : point = .loginCleared call user seen)
      (fresh : db.state.sessions.get? z.id = none)
      (put : Put db.state.sessions z db'.state.sessions) (owner : z.operatorUserId = user.id)
      (log : db'.log = db.log) (births : db'.births = Function.update db.births z.id seen)
  | revoked (ids : List Uuid) (now : Time) (es : List Revocation)
      (sessions : db'.state.sessions = revokeRows db.state.sessions ids now)
      (log : db'.log = db.log ++ es) (births : db'.births = db.births)
      (cause : es = [] ∨ ∃ call workspaceId x actor old changed,
        point = .revoking call workspaceId x actor old changed [] ids
          ∧ es = revocation call x old changed)

theorem audit_sessions {workspaceId targetId : Uuid} {eventType targetType : String}
    {details : Document}
    (h : audit s d workspaceId actor eventType targetType targetId details now = .ok s') :
    s'.sessions = s.sessions := by
  simp only [audit, steps_ok] at h
  obtain ⟨_, -, rfl⟩ := h
  rfl

theorem bootstrap_sessions {password : String} {u : OperatorUser}
    (h : bootstrapFirstOwner env d now username password s = .ok (u, s')) :
    s'.sessions = s.sessions := by
  simp only [bootstrapFirstOwner, steps_ok] at h
  obtain ⟨_, -, -, -, _, -, -, _, -, s1, haudit, -, rfl⟩ := h
  have hsame := audit_sessions haudit
  exact hsame

theorem createUser_sessions {role : OperatorRole} {answer : OperatorUser × String}
    (h : createUser env d now token username role s = .ok (answer, s')) :
    s'.sessions = s.sessions := by
  simp only [createUser, requirePasswordChanged, requireAction, steps_ok, Prod.exists] at h
  obtain ⟨_, -, _, -, _, _, -, -, -, _, -, s1, haudit, -, rfl⟩ := h
  have hsame := audit_sessions haudit
  exact hsame

theorem commitLogin_effect (h : commitLogin env db call user seen = .commits db') :
    CommitEffect (.loginCleared call user seen) db db' := by
  unfold commitLogin at h
  split at h
  · cases h
  · rename_i sessions hinsert
    split at h
    · cases h
    · rename_i state haudit
      cases h
      have hsame : state.sessions = sessions := audit_sessions haudit
      have hput := insert_put hinsert
      rw [← hsame] at hput
      exact .issued call user seen _ rfl (insert_fresh hinsert) hput rfl rfl rfl

theorem commitChange_effect {done : List Uuid}
    (h : commitChange db call workspaceId x actor old changed done = .commits db') :
    CommitEffect (.revoking call workspaceId x actor old changed [] done) db db' := by
  unfold commitChange at h
  split at h
  · cases h
  · split at h
    · cases h
    · rename_i state haudit
      cases h
      have hsame : state.sessions = revokeRows db.state.sessions done call.now := by
        unfold auditChange at haudit
        split at haudit
        · exact audit_sessions haudit
        · exact audit_sessions haudit
      exact .revoked done call.now _ hsame rfl rfl
        (.inr ⟨call, workspaceId, x, actor, old, changed, rfl, rfl⟩)

theorem commitLogout_effect (h : commitLogout db call x user = .commits db') :
    CommitEffect (.loggedOut call x user) db db' := by
  unfold commitLogout at h
  split at h
  · cases h
  · rename_i state haudit
    cases h
    have hsame : state.sessions = revokeRows db.state.sessions [x.id] call.now :=
      audit_sessions haudit
    exact .revoked [x.id] call.now [] hsame (List.append_nil _).symm rfl (.inl rfl)

theorem checkLogin_effect {throttle : Option OperatorLoginThrottleRecord}
    (h : checkLogin env db call user seen throttle = .commits db') : CommitEffect point db db' := by
  unfold checkLogin at h
  split at h
  · dsimp only at h
    split at h
    · cases h
    · split at h
      · split at h
        · split at h
          · cases h
          · cases h
            exact .quiet rfl rfl rfl
        · cases h
      · cases h
  · cases h

/-- The turn of a point does not commit. -/
def TxTurn.Open (t : TxTurn AuthDb AuthPoint) : Prop := ∀ db', t ≠ .commits db'

theorem open_goes : TxTurn.Open (.goes next) := fun _ h => by cases h

theorem open_ends : TxTurn.Open .ends := fun _ h => by cases h

theorem lookUp_open : TxTurn.Open (lookUp env db call workspaceId token) := by
  unfold lookUp
  split
  · exact open_ends
  · exact open_goes

theorem firstStatement_open : TxTurn.Open (firstStatement env db call) := by
  unfold firstStatement
  repeat' split
  all_goals first
    | exact open_ends
    | exact open_goes
    | exact lookUp_open

theorem withSession_open : TxTurn.Open (withSession env db call workspaceId x actor) := by
  unfold withSession
  repeat' split
  all_goals first
    | exact open_ends
    | exact open_goes

theorem writeTarget_open {workspaceId : Uuid} :
    TxTurn.Open (writeTarget call workspaceId x actor target) := by
  unfold writeTarget
  repeat' split
  all_goals first
    | exact open_ends
    | exact open_goes

theorem afterWrite_open : TxTurn.Open (afterWrite db call workspaceId x actor old changed) := by
  unfold afterWrite
  repeat' split
  all_goals first
    | exact open_ends
    | exact open_goes

theorem commit_effect (h : turn env db point = .commits db') : CommitEffect point db db' := by
  cases point with
  | begun call => exact absurd h (firstStatement_open db')
  | loginLocked call user seen => cases h
  | loginChecked call user seen throttle => exact checkLogin_effect h
  | loginCleared call user seen => exact commitLogin_effect h
  | workspaceLocked call workspaceId =>
    simp only [turn] at h
    cases hop : call.op <;> rw [hop] at h <;> dsimp only at h
    case updateUser => exact absurd h (lookUp_open db')
    case bootstrapFirstOwner =>
      split at h
      · cases h
      · rename_i state hcall
        cases h
        simp only [OperatorCall.outcome, hop, map_eq_ok, Prod.exists] at hcall
        obtain ⟨_, _, hcall, rfl⟩ := hcall
        exact .quiet (bootstrap_sessions hcall) rfl rfl
    case createUser =>
      split at h
      · cases h
      · rename_i state hcall
        cases h
        simp only [OperatorCall.outcome, hop, map_eq_ok, Prod.exists] at hcall
        obtain ⟨_, _, _, hcall, rfl⟩ := hcall
        exact .quiet (createUser_sessions hcall) rfl rfl
    all_goals cases h
  | found call workspaceId x actor =>
    simp only [turn] at h
    split at h
    · cases h
    · split at h <;> cases h
  | sessionLocked call workspaceId x actor => exact absurd h (withSession_open db')
  | targetLocked call workspaceId x actor target => exact absurd h (writeTarget_open db')
  | userWritten call workspaceId x actor old changed => exact absurd h (afterWrite_open db')
  | ownersCounted call workspaceId x actor old changed => cases h
  | revoking call workspaceId x actor old changed todo done =>
    cases todo with
    | nil => exact commitChange_effect h
    | cons id todo =>
      simp only [turn] at h
      split at h <;> cases h
  | loggedOut call x user => exact commitLogout_effect h

-- ==== preserved

theorem Sound.commit (h : Sound db) (hpoint : Holding db point) (he : CommitEffect point db db') :
    Sound db' := by
  intro n e x hn hx huser hbirth hspared
  cases he with
  | quiet hsessions hlog hbirths =>
    rw [hlog] at hn
    rw [hsessions] at hx
    rw [hbirths] at hbirth
    exact h n e x hn hx huser hbirth hspared
  | issued call user seen z hat hfresh hput howner hlog hbirths =>
    subst hat
    rw [hlog] at hn
    rw [hbirths] at hbirth
    rcases hput.cases hx with ⟨-, rfl⟩ | ⟨hne, hold⟩
    · -- the new session: its login began after every revocation
      rw [Function.update_self] at hbirth
      have hlt := hpoint n e hn (huser.symm.trans howner)
      omega
    · have hne : x.id ≠ z.id := hne
      rw [Function.update_of_ne hne] at hbirth
      exact h n e x hn hold huser hbirth hspared
  | revoked ids now es hsessions hlog hbirths hcause =>
    rw [hsessions] at hx
    rw [hbirths] at hbirth
    obtain ⟨x0, hx0, hid, hsame, hstays, hmeant⟩ := revokeRows_row hx
    rw [hlog] at hn
    by_cases hlt : n < db.log.length
    · rw [List.getElem?_append_left hlt] at hn
      refine hstays (h n e x0 hn hx0 (hsame.trans huser) ?_ ?_)
      · rw [hid]
        exact hbirth
      · rw [hid]
        exact hspared
    · -- the revocation that commits
      rw [List.getElem?_append_right (not_lt.mp hlt)] at hn
      have he := List.mem_of_getElem? hn
      rcases hcause with rfl | ⟨call, workspaceId, x', actor, old, changed, rfl, rfl⟩
      · cases he
      · rcases hpoint e he x0 hx0 (hsame.trans huser) (by rw [hid]; exact hspared) with
          hrevoked | htodo | hdone
        · exact hstays hrevoked
        · cases htodo
        · exact hmeant (hid ▸ hdone)

theorem Unrevoked.commit {userId : Uuid} (h : Unrevoked db userId seen)
    (hlock : .user userId ∉ point.holds.exclusive) (he : CommitEffect point db db') :
    Unrevoked db' userId seen := by
  intro n e hn huser
  cases he with
  | quiet _ hlog _ => exact h n e (hlog ▸ hn) huser
  | issued _ _ _ _ _ _ _ _ hlog _ => exact h n e (hlog ▸ hn) huser
  | revoked ids now es _ hlog _ hcause =>
    rw [hlog] at hn
    by_cases hlt : n < db.log.length
    · rw [List.getElem?_append_left hlt] at hn
      exact h n e hn huser
    · rw [List.getElem?_append_right (not_lt.mp hlt)] at hn
      have he := List.mem_of_getElem? hn
      rcases hcause with rfl | ⟨call, workspaceId, x', actor, old, changed, rfl, rfl⟩
      · cases he
      · refine absurd ?_ hlock
        rw [← huser, revocation_user he]
        exact (.head _)

theorem Holding.commit {other : AuthPoint} (h : Holding db other)
    (hfree : point.holds.conflicts other.holds = false) (he : CommitEffect point db db') :
    Holding db' other := by
  have hapart {k : AuthRow} (hk : k ∈ other.holds.exclusive) : k ∉ point.holds.exclusive :=
    fun hpoint => Held.not_exclusive_of_conflicts hfree hpoint hk
  cases other with
  | loginLocked | loginChecked | loginCleared =>
    exact Unrevoked.commit h (hapart List.mem_cons_self) he
  | ownersCounted call workspaceId x actor old changed => exact h
  | revoking call workspaceId x actor old changed todo done =>
    intro e hmem y hy huser hspared
    cases he with
    | quiet hsessions _ _ => exact h e hmem y (hsessions ▸ hy) huser hspared
    | issued call' user seen z hat hfresh hput howner _ _ =>
      rcases hput.cases hy with ⟨-, rfl⟩ | ⟨-, hold⟩
      · -- a login of the same user would hold the row
        subst hat
        refine absurd ?_ (hapart (k := .user old.id) List.mem_cons_self)
        rw [← revocation_user hmem, ← huser, howner]
        exact List.mem_cons_self
      · exact h e hmem y hold huser hspared
    | revoked ids now es hsessions _ _ _ =>
      rw [hsessions] at hy
      obtain ⟨y0, hy0, hid, hsame, hstays, -⟩ := revokeRows_row hy
      have hbefore := h e hmem y0 hy0 (hsame.trans huser) (by rw [hid]; exact hspared)
      rw [hid] at hbefore
      exact hbefore.imp_left hstays
  | _ => trivial

/-- What every point but those of a login or a revocation knows: nothing. -/
def AuthPoint.plain : AuthPoint → Prop
  | .loginLocked _ _ _ | .loginChecked _ _ _ _ | .loginCleared _ _ _
  | .ownersCounted _ _ _ _ _ _ | .revoking _ _ _ _ _ _ _ _ => False
  | _ => True

theorem Holding.plain (h : point.plain) : Holding db point := by
  cases point <;> trivial

theorem lookUp_goes (h : lookUp env db call workspaceId token = .goes next) : next.plain := by
  unfold lookUp at h
  split at h
  · cases h
  · cases h
    trivial

theorem firstStatement_goes (h : firstStatement env db call = .goes next) : Holding db next := by
  unfold firstStatement at h
  repeat' split at h
  all_goals first
    | (cases h; done)
    | exact .plain (lookUp_goes h)
    | (cases h; exact .plain trivial)
    | skip
  -- a login sees the log as it is
  cases h
  intro n e hn _
  exact (List.getElem?_eq_some_iff.mp hn).1

theorem withSession_goes (h : withSession env db call workspaceId x actor = .goes next) :
    next.plain := by
  unfold withSession at h
  repeat' split at h
  all_goals first
    | (cases h; done)
    | (cases h; trivial)

theorem writeTarget_goes {workspaceId : Uuid}
    (h : writeTarget call workspaceId x actor target = .goes next) : next.plain := by
  unfold writeTarget at h
  repeat' split at h
  all_goals first
    | (cases h; done)
    | (cases h; trivial)

theorem afterWrite_goes (h : afterWrite db call workspaceId x actor old changed = .goes next) :
    Holding db next := by
  unfold afterWrite at h
  split at h
  · rename_i hop
    split at h
    · split at h
      · cases h
      · cases h
        exact ⟨_, _, _, _, hop⟩
    · cases h
  · rename_i hop
    cases h
    intro e hmem y hy huser hspared
    have huser' := revocation_user hmem
    by_cases hlive : y.revokedAt = none
    · refine .inr (.inl (mem_unrevoked hy ?_ hlive))
      unfold revocation at hmem
      rw [hop] at hmem
      obtain rfl := List.mem_singleton.mp hmem
      simp only [checks_hold]
      exact ⟨huser, fun heq => hspared (by rw [heq])⟩
    · exact .inl hlive
  · cases h

theorem beginRevoking_goes
    (hop : ∃ token userId role enabled, call.op = .updateUser token userId role enabled)
    (h : beginRevoking db call workspaceId x actor old changed = .goes next) : Holding db next := by
  obtain ⟨token, userId, role, enabled, hop⟩ := hop
  cases h
  intro e hmem y hy huser hspared
  by_cases hlive : y.revokedAt = none
  · refine .inr (.inl ?_)
    unfold revocation at hmem
    rw [hop] at hmem
    dsimp only at hmem
    split at hmem
    · rename_i hdisabled
      obtain rfl := List.mem_singleton.mp hmem
      rw [if_pos hdisabled]
      exact mem_unrevoked hy (by simpa using huser) hlive
    · cases hmem
  · exact .inl hlive

theorem Holding.goes (h : Holding db point) (hturn : turn env db point = .goes next) :
    Holding db next := by
  cases point with
  | begun call => exact firstStatement_goes hturn
  | loginLocked call user seen =>
    cases hturn
    exact h
  | loginChecked call user seen throttle =>
    simp only [turn, checkLogin] at hturn
    repeat' split at hturn
    all_goals first
      | (cases hturn; done)
      | (cases hturn; exact h)
  | loginCleared call user seen =>
    simp only [turn, commitLogin] at hturn
    repeat' split at hturn
    all_goals cases hturn
  | workspaceLocked call workspaceId =>
    simp only [turn] at hturn
    repeat' split at hturn
    all_goals first
      | cases hturn
      | exact .plain (lookUp_goes hturn)
  | found call workspaceId x actor =>
    simp only [turn] at hturn
    repeat' split at hturn
    all_goals first
      | (cases hturn; done)
      | (cases hturn; trivial)
  | sessionLocked call workspaceId x actor => exact .plain (withSession_goes hturn)
  | targetLocked call workspaceId x actor target => exact .plain (writeTarget_goes hturn)
  | userWritten call workspaceId x actor old changed => exact afterWrite_goes hturn
  | ownersCounted call workspaceId x actor old changed => exact beginRevoking_goes h hturn
  | revoking call workspaceId x actor old changed todo done =>
    cases todo with
    | nil =>
      simp only [turn, commitChange] at hturn
      repeat' split at hturn
      all_goals cases hturn
    | cons id todo =>
      simp only [turn] at hturn
      split at hturn
      · cases hturn
        intro e hmem y hy huser hspared
        rcases h e hmem y hy huser hspared with hrevoked | htodo | hdone
        · exact .inl hrevoked
        · rcases List.mem_cons.mp htodo with hid | htodo
          · exact .inr (.inr (List.mem_cons.mpr (.inl hid)))
          · exact .inr (.inl htodo)
        · exact .inr (.inr (.tail _ hdone))
      · rename_i hskip
        cases hturn
        intro e hmem y hy huser hspared
        rcases h e hmem y hy huser hspared with hrevoked | htodo | hdone
        · exact .inl hrevoked
        · rcases List.mem_cons.mp htodo with hid | htodo
          · -- the row it came to was revoked meanwhile
            rw [← hid, hy] at hskip
            refine .inl fun hlive => hskip ?_
            simp [hlive]
          · exact .inr (.inl htodo)
        · exact .inr (.inr hdone)
  | loggedOut call x user =>
    simp only [turn, commitLogout] at hturn
    repeat' split at hturn
    all_goals cases hturn

/-- The operator transactions keep revoked what they revoke. -/
theorem authProgram_upholds (env : OperatorCrypto) : (authProgram env).Upholds Sound Holding where
  start _ _ _ := trivial
  unlocked _ := rfl
  goes _ _ _ _ h hturn := h.goes hturn
  commits _ _ _ hdb h hturn := hdb.commit h (commit_effect hturn)
  stable _ _ _ _ _ _ hturn hother hfree := hother.commit hfree (commit_effect hturn)

-- ==== the sessions

theorem authenticate_revoked (hx : x ∈ s.sessions.rows) (hrevoked : x.revokedAt ≠ none)
    (htoken : env.sha256 token = x.tokenDigest) : authenticate env now (some token) s = none := by
  have hpair : sessionPair s (env.sha256 token) now = none := by
    cases hpair : sessionPair s (env.sha256 token) now with
    | none => rfl
    | some pair =>
      obtain ⟨y, u⟩ := pair
      obtain ⟨hy, hdigest, -, hlive, -⟩ := sessionPair_some hpair
      -- a digest is unique
      have hsame : x = y := by
        by_contra hne
        have hclash := s.sessions.apart x hx y hy ?_
        · simp only [operatorSessions, decide_eq_false_iff_not] at hclash
          exact hclash (htoken.symm.trans hdigest.symm)
        · intro hid
          have hid : x.id = y.id := hid
          have hxs := mem_rows_iff.mp hx
          have hys := mem_rows_iff.mp hy
          have heq : operatorSessions.key x = operatorSessions.key y := hid
          rw [heq] at hxs
          exact hne (Option.mem_unique hxs hys)
      exact absurd (hsame ▸ hlive) hrevoked
  unfold authenticate
  simp only [Option.bind_eq_bind, Option.bind_some]
  split
  · rfl
  · rw [hpair]
    rfl

/-- In every interleaving: once a transaction that disables a user, or
changes a password, has committed as the `n`th of its kind, no session of
the user whose login had executed its first statement by then ever
authenticates, but for the one the password was changed with. -/
theorem revoked_sessions_refused (env : OperatorCrypto) (start : OperatorState)
    (births : Uuid → Nat) (R : TxRun Nat AuthDb AuthPoint)
    (h : ((authProgram env).machine ⟨start, [], births⟩).Reachable (fun _ _ => True) R)
    (n : Nat) (e : Revocation) (hn : R.db.log[n]? = some e) (x : OperatorSessionRecord)
    (hx : x ∈ R.db.state.sessions.rows) (huser : x.operatorUserId = e.userId)
    (hbirth : R.db.births x.id ≤ n) (hspared : e.spared ≠ some x.id) (now : Time)
    (token : String) (htoken : env.sha256 token = x.tokenDigest) :
    authenticate env now (some token) R.db.state = none := by
  have hsound : Sound R.db := by
    refine ((authProgram_upholds env).reachable ?_ h).db
    intro n e x hn
    simp at hn
  exact authenticate_revoked hx
    (hsound n e x hn (mem_rows_iff.mp hx) huser hbirth hspared) htoken

-- ==== example

namespace SessionSample

open OperatorSample

/-- A login that has to wait. -/
def lateLogin : OperatorCall :=
  let call := nth 8 (.login "second" "another-password")
  { call with draws := { call.draws with token := "late-token" } }

abbrev system : Machine (TxRun Nat AuthDb AuthPoint) (TxEvent Nat OperatorCall) :=
  (authProgram library).machine ⟨after delegated, [], fun _ => 0⟩

def opened : TxRun Nat AuthDb AuthPoint := ⟨⟨after delegated, [], fun _ => 0⟩, ∅⟩

/-- The login begins while the owner holds the row of the ADMIN. -/
def waiting : List (TxEvent Nat OperatorCall) :=
  [.start 2 (nth 6 (.updateUser "owner-token" 30 none (some false))),
    .run 2, .run 2, .run 2, .run 2, .start 1 lateLogin, .run 1]

/-- The ADMIN is disabled. -/
def disabling : List (TxEvent Nat OperatorCall) := [.run 2, .run 2, .run 2, .run 1, .run 2, .run 2]

/-- The ADMIN is enabled again, and the login gets the row. -/
def enabling : List (TxEvent Nat OperatorCall) :=
  [.start 3 (nth 7 (.updateUser "owner-token" 30 none (some true))),
    .run 3, .run 3, .run 3, .run 3, .run 3, .run 3, .run 3, .run 3, .run 1, .run 1, .run 1, .run 1]

/-- A transaction begins under a name of its own. -/
def named (R : TxRun Nat AuthDb AuthPoint) : TxEvent Nat OperatorCall → Bool
  | .start t _ => (R.txs.lookup t).isNone
  | _ => true

theorem named_enabled (R : TxRun Nat AuthDb AuthPoint) (e : TxEvent Nat OperatorCall)
    (h : named R e = true) : system.enabled R e := by
  rintro t call rfl
  exact Option.isNone_iff_eq_none.mp h

theorem reachable_runs {events : List (TxEvent Nat OperatorCall)}
    (h : system.checks named events opened = true) :
    system.Reachable (fun _ _ => True) (system.runs events opened) :=
  .runs (fun R e _ hok => ⟨named_enabled R e hok, trivial⟩) (.init rfl) h

end SessionSample

open SessionSample OperatorSample in
theorem revoked_sessions_refused_admin :
    authenticate library 8 (some "admin-token")
      (system.runs (waiting ++ disabling ++ enabling) opened).db.state = none := by
  have hreach : system.Reachable (fun _ _ => True)
      (system.runs (waiting ++ disabling ++ enabling) opened) :=
    reachable_runs (by decide)
  have hlog : (system.runs (waiting ++ disabling ++ enabling) opened).db.log[0]?
      = some ⟨30, none⟩ := by decide
  have hsome : ∃ x ∈ (system.runs (waiting ++ disabling ++ enabling) opened).db.state.sessions.rows,
      x.operatorUserId = 30
        ∧ (system.runs (waiting ++ disabling ++ enabling) opened).db.births x.id ≤ 0
        ∧ library.sha256 "admin-token" = x.tokenDigest := by decide
  generalize system.runs (waiting ++ disabling ++ enabling) opened = R at *
  obtain ⟨x, hx, huser, hbirth, htoken⟩ := hsome
  exact revoked_sessions_refused library _ _ R hreach 0 _ hlog x hx huser hbirth (by simp) 8 _
    htoken

open SessionSample OperatorSample in
/-- A login that waits for the row while its user is disabled, and gets it
after the user was enabled again, is let in. -/
theorem waiting_login_admitted :
    system.Reachable (fun _ _ => True) (system.runs (waiting ++ disabling ++ enabling) opened)
      ∧ ((system.runs waiting opened).txs.lookup 1).isSome
      ∧ (system.runs waiting opened).db.log = []
      ∧ (system.runs (waiting ++ disabling) opened).db.log = [⟨30, none⟩]
      ∧ (authenticate library 8 (some lateLogin.draws.token)
          (system.runs (waiting ++ disabling ++ enabling) opened).db.state).map (·.userId)
        = some 30 :=
  ⟨reachable_runs (by decide), by decide, by decide, by decide,
    by decide⟩

end ThreadsPlatform.OperatorAuth
