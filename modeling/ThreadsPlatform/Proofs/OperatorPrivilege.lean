/-
Operator privilege is closed.

`UserChange` says what a committed call does to the user table. There
are five ways: nothing, the bootstrap, a new user, a changed user and a
changed password. The rest follows from it. Users exist only after the
bootstrap, which asks that there is none; from then on an enabled OWNER
is left by every change, since `update_user` counts them afterwards; and
whoever makes or touches an OWNER or ADMIN is allowed to
MANAGE_OWNER_ADMIN, which is an OWNER's.
-/
import ThreadsPlatform.Infrastructure.OperatorAuth

namespace ThreadsPlatform.OperatorAuth

open Relational Table

variable {env : OperatorCrypto} {d : OperatorDraws} {now : Time} {s s' : OperatorState}
  {call : OperatorCall} {token : String} {past : List (OperatorState × OperatorCall)}
  {role : OperatorRole} {x : OperatorSessionRecord} {u u' : OperatorUserRecord}
  {password username : String}

-- ==== actors

/-- The token is that of a session, live or not, of the user. -/
def ActsFor (env : OperatorCrypto) (s : OperatorState) (token : String) (u : OperatorUserRecord) :
    Prop :=
  ∃ x ∈ s.sessions.rows, x.tokenDigest = env.sha256 token ∧ s.users.get? x.operatorUserId = some u

theorem sessionPair_some {digest : String} (h : sessionPair s digest now = some (x, u)) :
    x ∈ s.sessions.rows ∧ x.tokenDigest = digest ∧ s.users.get? x.operatorUserId = some u
      ∧ x.revokedAt = none ∧ now < x.expiresAt ∧ u.enabled = true := by
  unfold sessionPair at h
  simp only [Option.bind_eq_bind, Option.bind_eq_some_iff] at h
  obtain ⟨y, hy, v, hv, h⟩ := h
  split at h
  case isFalse => cases h
  case isTrue hlive =>
    cases h
    exact ⟨List.mem_of_find?_eq_some hy, by simpa using List.find?_some hy, hv, hlive⟩

theorem actsFor_of_actorOf (h : actorOf env now token s = .ok (x, u)) : ActsFor env s token u := by
  unfold actorOf at h
  rw [orThrow_eq_ok] at h
  obtain ⟨hx, hdigest, hu, -⟩ := sessionPair_some h
  exact ⟨x, hx, hdigest, hu⟩

theorem ActsFor.not_empty {p : Prop} (h : ActsFor env s token u) : ¬ (s.users.rows = [] ∧ p) := by
  rintro ⟨hempty, -⟩
  obtain ⟨x, -, -, hu⟩ := h
  have hu := mem_of_get? hu
  rw [hempty] at hu
  cases hu

-- ==== what a call can change

/-- What a committed call does to the user table. -/
inductive UserChange (env : OperatorCrypto) (call : OperatorCall) (s s' : OperatorState) : Prop
  | kept (op : ∀ username password, call.op ≠ .bootstrapFirstOwner username password)
      (h : s'.users = s.users)
  | bootstrapped (workspaceId : Uuid) (u : OperatorUserRecord)
      (op : ∃ username password, call.op = .bootstrapFirstOwner username password)
      (workspace : s.workspace = some workspaceId)
      (first : ∀ v ∈ s.users.rows, v.workspaceId ≠ workspaceId)
      (owner : u.workspaceId = workspaceId ∧ u.role = .owner ∧ u.enabled = true)
      (put : Put s.users u s'.users)
  | created (token : String) (actor u : OperatorUserRecord) (op : call.op.token? = some token)
      (acts : ActsFor env s token actor)
      (allowed : u.role.privileged = true → actor.role = .owner)
      (workspace : s.workspace = some u.workspaceId)
      (fresh : s.users.get? u.id = none) (put : Put s.users u s'.users)
  | changed (token : String) (actor u u' : OperatorUserRecord)
      (op : call.op.token? = some token) (acts : ActsFor env s token actor)
      (allowed : u.role.privileged = true ∨ u'.role.privileged = true → actor.role = .owner)
      (same : u'.id = u.id ∧ u'.workspaceId = u.workspaceId)
      (stored : s.users.get? u.id = some u) (put : Put s.users u' s'.users)
      (left : ∃ o ∈ s'.users.rows, o.role = .owner ∧ o.enabled = true)
  | password (u u' : OperatorUserRecord)
      (op : ∀ username password,
        call.op ≠ .bootstrapFirstOwner username password) (stored : s.users.get? u.id = some u)
      (same : u'.id = u.id ∧ u'.workspaceId = u.workspaceId ∧ u'.role = u.role
        ∧ u'.enabled = u.enabled)
      (put : Put s.users u' s'.users)

theorem audit_users {workspaceId targetId : Uuid} {actor : OperatorUserRecord}
    {eventType targetType : String} {details : Document}
    (h : audit s d workspaceId actor eventType targetType targetId details now = .ok s') :
    s'.users = s.users ∧ s'.workspace = s.workspace := by
  simp only [audit, steps_ok] at h
  obtain ⟨_, -, rfl⟩ := h
  exact ⟨rfl, rfl⟩

theorem revoke_users {matching : OperatorSessionRecord → Bool}
    (h : revoke s matching now = .ok s') : s'.users = s.users ∧ s'.workspace = s.workspace := by
  refine foldlM_invariant (fun _ t => t.users = s.users ∧ t.workspace = s.workspace) ?_ ⟨rfl, rfl⟩ h
  rintro x xs t t' hP hstep
  simp only [steps_ok] at hstep
  obtain ⟨_, -, rfl⟩ := hstep
  exact hP

theorem revokeDisabled_users {target changed : OperatorUserRecord}
    (h : revokeDisabled s target changed now = .ok s') :
    s'.users = s.users ∧ s'.workspace = s.workspace := by
  unfold revokeDisabled at h
  split at h
  · exact revoke_users h
  · rw [pure_eq_ok] at h
    exact ⟨h ▸ rfl, h ▸ rfl⟩

theorem bootstrap_change {u : OperatorUser} (hop : call.op = .bootstrapFirstOwner username password)
    (h : bootstrapFirstOwner env d now username password s = .ok (u, s')) :
    UserChange env call s s' ∧ s'.workspace = s.workspace := by
  simp only [bootstrapFirstOwner, lockWorkspace, steps_ok] at h
  obtain ⟨name, -, -, -, workspaceId, hworkspace, hfirst, users, hinsert, s1, haudit, -, rfl⟩ := h
  have husers : s1.users = users := (audit_users haudit).1
  have hput := insert_put hinsert
  rw [← husers] at hput
  refine ⟨.bootstrapped workspaceId _ ⟨username, password, hop⟩ hworkspace ?_ ?_ hput,
    (audit_users haudit).2⟩
  case refine_2 => exact ⟨rfl, rfl, rfl⟩
  intro v hv heq
  rw [List.any_eq_false] at hfirst
  exact hfirst v hv (by simpa using heq)

theorem login_change {answer : Option IssuedOperatorSession}
    (h : login env d now username password s = .ok (answer, s')) :
    s'.users = s.users ∧ s'.workspace = s.workspace := by
  unfold login at h
  split at h
  · rw [pure_eq_ok] at h
    cases h
    exact ⟨rfl, rfl⟩
  · split at h
    · rw [pure_eq_ok] at h
      cases h
      exact ⟨rfl, rfl⟩
    · unfold loginUser at h
      dsimp only at h
      split at h
      · rw [pure_eq_ok] at h
        cases h
        exact ⟨rfl, rfl⟩
      · split at h
        · split at h
          · simp only [steps_ok] at h
            obtain ⟨_, -, -, rfl⟩ := h
            exact ⟨rfl, rfl⟩
          · rw [pure_eq_ok] at h
            cases h
            exact ⟨rfl, rfl⟩
        · simp only [steps_ok] at h
          obtain ⟨_, -, s1, haudit, -, rfl⟩ := h
          have hsame := audit_users haudit
          exact hsame

theorem logout_change {token : Option String} (h : logout env d now token s = .ok s') :
    s'.users = s.users ∧ s'.workspace = s.workspace := by
  unfold logout at h
  cases token with
  | none =>
    rw [pure_eq_ok] at h
    exact ⟨h ▸ rfl, h ▸ rfl⟩
  | some token =>
    dsimp only at h
    split at h
    · rw [pure_eq_ok] at h
      exact ⟨h ▸ rfl, h ▸ rfl⟩
    · split at h
      · rw [pure_eq_ok] at h
        exact ⟨h ▸ rfl, h ▸ rfl⟩
      · simp only [bind_eq_ok] at h
        obtain ⟨_, -, haudit⟩ := h
        have hsame := audit_users haudit
        exact hsame

theorem owner_of_managing {privileged : Bool}
    (h : roleAllows role (managingAction privileged) = true) (hprivileged : privileged = true) :
    role = .owner := by
  rw [hprivileged] at h
  exact roleAllows_manageOwnerAdmin.mp h

theorem createUser_change {answer : OperatorUser × String} (hop : call.op.token? = some token)
    (h : createUser env d now token username role s = .ok (answer, s')) :
    UserChange env call s s' ∧ s'.workspace = s.workspace := by
  simp only [createUser, lockWorkspace, requirePasswordChanged, requireAction, steps_ok,
    Prod.exists] at h
  obtain ⟨name, -, workspaceId, hworkspace, x, actor, hactor, -, hallowed, users, hinsert, s1,
    haudit, -, rfl⟩ := h
  have husers : s1.users = users := (audit_users haudit).1
  have hput := insert_put hinsert
  rw [← husers] at hput
  exact ⟨.created token actor _ hop (actsFor_of_actorOf hactor)
    (owner_of_managing hallowed) hworkspace (insert_fresh hinsert) hput, (audit_users haudit).2⟩

theorem updateUser_change {userId : Uuid} {role : Option OperatorRole} {enabled : Option Bool}
    {answer : OperatorUser} (hop : call.op.token? = some token)
    (h : updateUser env d now token userId role enabled s = .ok (answer, s')) :
    UserChange env call s s' ∧ s'.workspace = s.workspace := by
  simp only [updateUser, lockWorkspace, requirePasswordChanged, requireAction, steps_ok,
    Prod.exists] at h
  obtain ⟨-, workspaceId, hworkspace, x, actor, hactor, -, target, htarget, hallowed, users,
    hupdate, howners, s1, hrevoke, s2, haudit, -, rfl⟩ := h
  obtain ⟨hstored, -⟩ := Option.filter_eq_some_iff.mp htarget
  have hid : target.id = userId := key_of_get? hstored
  have hrevoked := revokeDisabled_users hrevoke
  have husers : s2.users = users := (audit_users haudit).1.trans hrevoked.1
  have hput := update_put hupdate
  rw [← husers] at hput
  refine ⟨.changed token actor target _ hop (actsFor_of_actorOf hactor) (fun hprivileged => ?_)
    ?_ (hid ▸ hstored) hput ?_, (audit_users haudit).2.trans hrevoked.2⟩
  · refine owner_of_managing hallowed ?_
    rcases hprivileged with hold | hnew
    · rw [hold, Bool.true_or]
    · cases role with
      | none => rw [Bool.or_eq_true]; exact .inl hnew
      | some role => rw [Bool.or_eq_true]; exact .inr hnew
  · exact ⟨rfl, rfl⟩
  · obtain ⟨o, ho⟩ := List.exists_mem_of_length_pos (Nat.pos_of_ne_zero howners)
    unfold enabledOwners at ho
    simp only [List.mem_filter, checks_hold] at ho
    exact ⟨o, husers ▸ ho.1, ho.2.1.2, ho.2.2⟩

theorem changePassword_change {newPassword : String} {answer : OperatorPrincipal}
    (hop : ∀ username password, call.op ≠ .bootstrapFirstOwner username password)
    (h : changePassword env d now token newPassword s = .ok (answer, s')) :
    UserChange env call s s' ∧ s'.workspace = s.workspace := by
  simp only [changePassword, actorOf, steps_ok, Prod.exists] at h
  obtain ⟨-, -, x, user, hpair, users, hupdate, s1, hrevoke, s2, haudit, -, rfl⟩ := h
  obtain ⟨-, -, hstored, -⟩ := sessionPair_some hpair
  have hid : user.id = x.operatorUserId := key_of_get? hstored
  obtain ⟨husers1, hsame1⟩ := revoke_users hrevoke
  have husers : s2.users = users := (audit_users haudit).1.trans husers1
  have hput := update_put hupdate
  rw [← husers] at hput
  refine ⟨.password user _ hop (hid ▸ hstored) ?_ hput, (audit_users haudit).2.trans hsame1⟩
  exact ⟨rfl, rfl, rfl, rfl⟩

theorem outcome_change (h : call.outcome env s = .ok s') :
    UserChange env call s s' ∧ s'.workspace = s.workspace := by
  unfold OperatorCall.outcome at h
  cases hop : call.op <;> simp only [hop, map_eq_ok, Prod.exists] at h
  case bootstrapFirstOwner =>
    obtain ⟨_, _, h, rfl⟩ := h
    exact bootstrap_change hop h
  case login =>
    obtain ⟨_, _, h, rfl⟩ := h
    exact ⟨.kept (by simp [hop]) (login_change h).1, (login_change h).2⟩
  case logout => exact ⟨.kept (by simp [hop]) (logout_change h).1, (logout_change h).2⟩
  case createUser =>
    obtain ⟨_, _, _, h, rfl⟩ := h
    exact createUser_change (by rw [hop]; rfl) h
  case updateUser =>
    obtain ⟨_, _, h, rfl⟩ := h
    exact updateUser_change (by rw [hop]; rfl) h
  case changePassword =>
    obtain ⟨_, _, h, rfl⟩ := h
    exact changePassword_change (by simp [hop]) h

-- ==== the owner

/-- There is an enabled OWNER. -/
def HasOwner (s : OperatorState) : Prop :=
  ∃ u ∈ s.users.rows, u.role = .owner ∧ u.enabled = true

/-- The call is a bootstrap that succeeds. -/
def bootstraps (env : OperatorCrypto) (s : OperatorState) (call : OperatorCall) : Bool :=
  match call.op with
  | .bootstrapFirstOwner _ _ => (call.outcome env s).isOk
  | _ => false

/-- Before the bootstrap there is no user; after it there is an owner. -/
structure Bootstrapped (env : OperatorCrypto) (past : List (OperatorState × OperatorCall))
    (s : OperatorState) : Prop where
  local_ : ∀ u ∈ s.users.rows, s.workspace = some u.workspaceId
  stage : (s.users.rows = [] ∧ past.countP (fun p => bootstraps env p.1 p.2) = 0)
    ∨ (HasOwner s ∧ past.countP (fun p => bootstraps env p.1 p.2) = 1)

theorem HasOwner.put (h : HasOwner s) (hput : Put s.users u' s'.users)
    (hstored : s.users.get? u.id = some u) (hid : u'.id = u.id) (hrole : u'.role = u.role)
    (henabled : u'.enabled = u.enabled) : HasOwner s' := by
  obtain ⟨o, ho, hrest⟩ := h
  have ho : s.users.get? o.id = some o := mem_rows_iff.mp ho
  have hkey : operatorUsers.key u' = u.id := hid
  by_cases hsame : o.id = u.id
  · have heq : o = u := Option.mem_unique (hsame ▸ ho) hstored
    refine ⟨u', mem_rows_iff.mpr ?_, ?_⟩
    · exact hput.get?_self
    · rw [hrole, henabled, ← heq]
      exact hrest
  · refine ⟨o, mem_rows_iff.mpr ?_, hrest⟩
    exact (hput.get?_ne (by rw [hkey]; exact hsame)).trans ho

theorem bootstraps_iff : bootstraps env s call = true ↔
    (∃ username password, call.op = .bootstrapFirstOwner username password)
      ∧ ∃ s', call.outcome env s = .ok s' := by
  unfold bootstraps
  cases hop : call.op <;> simp [Except.isOk, Except.toBool]
  cases call.outcome env s <;> simp

theorem Bootstrapped.step (h : Bootstrapped env past s) : Bootstrapped env ((s, call) :: past)
      (commit (call.outcome env s) s) := by
  have hcount := List.countP_cons (p := fun p => bootstraps env p.1 p.2) (a := (s,
    call)) (l := past)
  cases hcall : call.outcome env s with
  | error e =>
    have hnot : bootstraps env s call = false := by
      rw [Bool.eq_false_iff, ne_eq, bootstraps_iff, hcall]
      rintro ⟨-, _, hok⟩
      cases hok
    rw [hnot] at hcount
    simp only [commit_error]
    refine ⟨h.local_, ?_⟩
    rw [hcount]
    exact h.stage
  | ok s' =>
    simp only [commit_ok]
    obtain ⟨hchange, hworkspace⟩ := outcome_change hcall
    -- a call that is no bootstrap leaves the count alone
    have hother (hop : ∀ username password, call.op ≠ .bootstrapFirstOwner username password) :
        List.countP (fun p => bootstraps env p.1 p.2) ((s, call) :: past)
          = List.countP (fun p => bootstraps env p.1 p.2) past := by
      have hnot : bootstraps env s call = false := by
        rw [Bool.eq_false_iff, ne_eq, bootstraps_iff]
        rintro ⟨⟨username, password, heq⟩, -⟩
        exact hop username password heq
      rw [hcount, hnot]
      rfl
    have htoken {token : String} (hop : call.op.token? = some token) (username password : String) :
        call.op ≠ .bootstrapFirstOwner username password := by
      intro heq
      rw [heq] at hop
      cases hop
    cases hchange with
    | kept hop husers =>
      refine ⟨by rw [husers, hworkspace]; exact h.local_, ?_⟩
      rw [hother hop, HasOwner, husers]
      exact h.stage
    | bootstrapped workspaceId u hop hspace hfirst howner hput =>
      have hempty : s.users.rows = [] := by
        refine List.eq_nil_iff_forall_not_mem.mpr fun v hv => hfirst v hv ?_
        exact Option.mem_unique (h.local_ v hv) hspace
      have hcount0 : past.countP (fun p => bootstraps env p.1 p.2) = 0 := by
        rcases h.stage with ⟨-, hzero⟩ | ⟨⟨o, ho, -⟩, -⟩
        · exact hzero
        · rw [hempty] at ho
          cases ho
      have hyes : bootstraps env s call = true := bootstraps_iff.mpr ⟨hop, s', hcall⟩
      refine ⟨fun v hv => ?_, .inr ⟨⟨u, mem_rows_iff.mpr hput.get?_self, howner.2⟩, ?_⟩⟩
      · rcases hput.cases (mem_rows_iff.mp hv) with ⟨-, rfl⟩ | ⟨-, hold⟩
        · rw [hworkspace, howner.1]
          exact hspace
        · have hv : v ∈ s.users.rows := mem_rows_iff.mpr hold
          rw [hempty] at hv
          cases hv
      · rw [hcount, hcount0, hyes]
        rfl
    | created token actor u hop hacts hallowed hspace hfresh hput =>
      refine ⟨fun v hv => ?_, .inr ?_⟩
      · rcases hput.cases (mem_rows_iff.mp hv) with ⟨-, rfl⟩ | ⟨-, hold⟩
        · exact hworkspace.trans hspace
        · exact hworkspace.trans (h.local_ v (mem_rows_iff.mpr hold))
      · rw [hother (htoken hop)]
        obtain ⟨⟨o, ho, hrest⟩, hone⟩ := h.stage.resolve_left (hacts.not_empty)
        exact ⟨⟨o, mem_rows_iff.mpr (hput.get?_of_fresh hfresh (mem_rows_iff.mp ho)), hrest⟩, hone⟩
    | changed token actor u u' hop hacts hallowed hsame hstored hput hleft =>
      refine ⟨fun v hv => ?_, .inr ⟨hleft, ?_⟩⟩
      · rcases hput.cases (mem_rows_iff.mp hv) with ⟨-, rfl⟩ | ⟨-, hold⟩
        · rw [hworkspace, hsame.2]
          exact h.local_ u (mem_rows_iff.mpr hstored)
        · exact hworkspace.trans (h.local_ v (mem_rows_iff.mpr hold))
      · rw [hother (htoken hop)]
        exact (h.stage.resolve_left hacts.not_empty).2
    | password u u' hop hstored hsame hput =>
      have hnonempty : ¬ (s.users.rows = []
          ∧ past.countP (fun p => bootstraps env p.1 p.2) = 0) := by
        rintro ⟨hempty, -⟩
        have hu : u ∈ s.users.rows := mem_rows_iff.mpr hstored
        rw [hempty] at hu
        cases hu
      obtain ⟨howner, hone⟩ := h.stage.resolve_left hnonempty
      refine ⟨fun v hv => ?_, .inr ⟨howner.put hput hstored hsame.1 hsame.2.2.1 hsame.2.2.2,
        (hother hop).trans hone⟩⟩
      rcases hput.cases (mem_rows_iff.mp hv) with ⟨-, rfl⟩ | ⟨-, hold⟩
      · rw [hworkspace, hsame.2.1]
        exact h.local_ u (mem_rows_iff.mpr hstored)
      · exact hworkspace.trans (h.local_ v (mem_rows_iff.mpr hold))

theorem Bootstrapped.history (h : (operatorMachine env).History past s) :
    Bootstrapped env past s := by
  refine h.invariant ?_ fun _ _ _ _ hP _ => hP.step
  rintro _ ⟨workspace, rfl⟩
  exact ⟨fun u hu => absurd hu List.not_mem_nil, .inl ⟨rfl, rfl⟩⟩

-- ==== privilege

/-- Nobody becomes an OWNER or ADMIN, and who is one keeps role and
flag. -/
structure PrivilegesKept (s s' : OperatorState) : Prop where
  made : ∀ u', s'.users.get? u'.id = some u' → u'.role.privileged = true →
    ∃ u, s.users.get? u'.id = some u ∧ u.role = u'.role
  touched : ∀ u, s.users.get? u.id = some u → u.role.privileged = true →
    ∃ u', s'.users.get? u.id = some u' ∧ u'.role = u.role ∧ u'.enabled = u.enabled

theorem PrivilegesKept.refl : PrivilegesKept s s :=
  ⟨fun u hu _ => ⟨u, hu, rfl⟩, fun u hu _ => ⟨u, hu, rfl, rfl⟩⟩

/-- A user is written, whose role and flag matter to nobody: neither the
old nor the new role is privileged, or nothing of them changes. -/
theorem PrivilegesKept.put (hstored : s.users.get? u.id = some u) (hid : u'.id = u.id)
    (hput : Put s.users u' s'.users) (h : (u.role.privileged = false ∧ u'.role.privileged = false)
      ∨ (u'.role = u.role ∧ u'.enabled = u.enabled)) : PrivilegesKept s s' := by
  have hkey : operatorUsers.key u' = u.id := hid
  constructor
  · intro v hv hprivileged
    rcases hput.cases hv with ⟨hvid, rfl⟩ | ⟨-, hold⟩
    · rcases h with ⟨-, hplain⟩ | ⟨hrole, -⟩
      · rw [hplain] at hprivileged
        cases hprivileged
      · exact ⟨u, by rw [hid]; exact hstored, hrole.symm⟩
    · exact ⟨v, hold, rfl⟩
  · intro v hv hprivileged
    by_cases hvid : v.id = u.id
    · rw [hvid] at hv
      obtain rfl := Option.mem_unique hv hstored
      rcases h with ⟨hplain, -⟩ | ⟨hrole, henabled⟩
      · rw [hplain] at hprivileged
        cases hprivileged
      · have hself := hput.get?_self
        rw [hkey] at hself
        exact ⟨u', hself, hrole, henabled⟩
    · exact ⟨v, (hput.get?_ne (by rw [hkey]; exact hvid)).trans hv, rfl, rfl⟩

theorem privileges_kept (hop : call.op.token? = some token)
    (hactor : ∀ u, ActsFor env s token u → u.role ≠ .owner) :
    PrivilegesKept s (commit (call.outcome env s) s) := by
  cases hcall : call.outcome env s with
  | error e => exact .refl
  | ok s' =>
    simp only [commit_ok]
    have hplain {role : OperatorRole} {u : OperatorUserRecord} {token' : String}
        (hop' : call.op.token? = some token') (hacts : ActsFor env s token' u)
        (h : role.privileged = true → u.role = .owner) : role.privileged = false := by
      obtain rfl := Option.mem_unique hop hop'
      exact Bool.eq_false_iff.mpr fun hprivileged => hactor u hacts (h hprivileged)
    cases (outcome_change hcall).1 with
    | kept _ husers =>
      refine ⟨fun u hu _ => ⟨u, husers ▸ hu, rfl⟩, fun u hu _ => ⟨u, husers ▸ hu, rfl, rfl⟩⟩
    | bootstrapped _ u hboot _ _ _ _ =>
      obtain ⟨username, password, heq⟩ := hboot
      rw [heq] at hop
      cases hop
    | created token' actor u hop' hacts hallowed _ hfresh hput =>
      have hu := hplain hop' hacts hallowed
      constructor
      · intro v hv hprivileged
        rcases hput.cases hv with ⟨-, rfl⟩ | ⟨-, hold⟩
        · rw [hu] at hprivileged
          cases hprivileged
        · exact ⟨v, hold, rfl⟩
      · intro v hv _
        exact ⟨v, hput.get?_of_fresh hfresh hv, rfl, rfl⟩
    | changed token' actor u u' hop' hacts hallowed hsame hstored hput _ =>
      exact .put hstored hsame.1 hput (.inl ⟨hplain hop' hacts fun h => hallowed (.inl h),
          hplain hop' hacts fun h => hallowed (.inr h)⟩)
    | password u u' _ hstored hsame hput =>
      exact .put hstored hsame.1 hput (.inr hsame.2.2)

/-- Along every history: the bootstrap succeeds at most once, and after
it there is an enabled OWNER; and no call made with a session of a user
who is not an OWNER makes or touches an OWNER or ADMIN. -/
theorem operator_privilege_closed (env : OperatorCrypto)
    (past : List (OperatorState × OperatorCall)) (s : OperatorState)
    (h : (operatorMachine env).History past s) :
    past.countP (fun p => bootstraps env p.1 p.2) ≤ 1
      ∧ (past.any (fun p => bootstraps env p.1 p.2) = true → HasOwner s)
      ∧ ∀ call token, call.op.token? = some token →
        (∀ u, ActsFor env s token u → u.role ≠ .owner) →
        PrivilegesKept s ((operatorMachine env).step s call) := by
  have hboot := Bootstrapped.history h
  refine ⟨?_, fun hany => ?_, fun call token hop hactor => privileges_kept hop hactor⟩
  · rcases hboot.stage with ⟨-, hcount⟩ | ⟨-, hcount⟩ <;> omega
  · rcases hboot.stage with ⟨-, hcount⟩ | ⟨howner, -⟩
    · rw [List.countP_eq_zero] at hcount
      obtain ⟨p, hp, hyes⟩ := List.any_eq_true.mp hany
      exact absurd hyes (hcount p hp)
    · exact howner

-- ==== sample

namespace OperatorSample

/-- A library small enough to compute with. -/
def library : OperatorCrypto where
  strip := fun text => text
  casefold := fun text => text
  sha256 := fun token => token
  passwordHash := fun _ password => password
  passwordMatches := fun password encoded => password == encoded
  sessionTtl := 1000

/-- The `n`th call. -/
def nth (n : Nat) (op : OperatorOp) : OperatorCall where
  now := n
  draws :=
    { userId := .ofNat _ (10 * n)
      sessionId := .ofNat _ (10 * n + 1)
      auditId := .ofNat _ (10 * n + 2)
      token := if n = 2 then "owner-token" else "admin-token"
      temporaryPassword := "temporary-password"
      salt := "" }
  op := op

/-- The first owner makes an ADMIN, who logs in and changes the temporary
password. -/
def delegated : List OperatorCall := [nth 1 (.bootstrapFirstOwner "first" "a-long-password"),
    nth 2 (.login "first" "a-long-password"), nth 3 (.createUser "owner-token" "second" .admin),
    nth 4 (.login "second" "temporary-password"),
    nth 5 (.changePassword "admin-token" "another-password")]

def start : OperatorState := ⟨some 7, .empty _, .empty _, .empty _, .empty _⟩

def after (calls : List OperatorCall) : OperatorState := (operatorMachine library).runs calls start

/-- The ADMIN tries to make an OWNER, and to demote the first one. -/
def attempts : List OperatorCall := [nth 6 (.createUser "admin-token" "third" .owner),
    nth 7 (.updateUser "admin-token" 10 (some .viewer) none)]

end OperatorSample

open OperatorSample in
theorem operator_privilege_closed_admin :
    HasOwner (OperatorSample.after delegated)
      ∧ ∀ call ∈ attempts, PrivilegesKept (OperatorSample.after delegated)
        ((operatorMachine library).step (OperatorSample.after delegated)
          call) := by
  have hclosed := operator_privilege_closed library _
    (OperatorSample.after delegated)
    (.step (.step (.step (.step (.step (.init ⟨some 7, rfl⟩) trivial) trivial) trivial) trivial)
      trivial)
  refine ⟨hclosed.2.1 (by decide), fun call hcall => ?_⟩
  have htoken : call.op.token? = some "admin-token" := by
    revert call
    decide
  refine hclosed.2.2 call _ htoken ?_
  rintro u ⟨x, hx, hdigest, hu⟩
  have hall : ∀ x ∈ (OperatorSample.after delegated).sessions.rows,
      x.tokenDigest = library.sha256 "admin-token" →
      ∀ u ∈ (OperatorSample.after delegated).users.rows,
        u.id = x.operatorUserId → u.role ≠ .owner := by decide
  exact hall x hx hdigest u (mem_of_get? hu) (key_of_get? hu)

end ThreadsPlatform.OperatorAuth
