/-
A lost lease stays lost.

A token is issued with the attempt of a claim and never issued again:
`lease_token` is UNIQUE over attempts, and attempts are never deleted.
It owns at most one job, the one whose RUNNING attempt carries it.

`Tagged τ P` says that the token was issued and that the job it owns, if
any, has the property `P`. A claim brings another token, and everything
but a renewal or a checkpoint clears the lease of the job it touches, so
the property lasts when those two keep it. `Fenced` is the case that
matters here: no job is owned by the token now. A renewal needs a live
owner, so that holds for the rest of the run, and under it each of the
six operations an owner may ask for is refused.
-/
import ThreadsPlatform.Proofs.Attempts

namespace ThreadsPlatform

open Relational Table WorkerJobService

variable {cfg : Settings} {call : Call} {s s' s₀ : State} {t : Time} {j j' : WorkerJob}
  {a b : WorkerJobAttempt} {w τ jobId : Uuid}

-- ==== tokens

/-- At most one worker and token own a job at an instant. -/
theorem WorkerJob.ownsLease_unique {w' τ' : Uuid} (h : j.ownsLease w τ t = true)
    (h' : j.ownsLease w' τ' t = true) : w = w' ∧ τ = τ' := by
  obtain ⟨-, hw, hτ, -⟩ := WorkerJob.ownsLease_iff.mp h
  obtain ⟨-, hw', hτ', -⟩ := WorkerJob.ownsLease_iff.mp h'
  rw [hw] at hw'
  rw [hτ] at hτ'
  injection hw' with hw'
  injection hτ' with hτ'
  exact ⟨hw', hτ'⟩

/-- Who owns a lease owned it at every earlier instant of the same
state. -/
theorem WorkerJob.ownsLease_earlier {t' : Time} (ht : t ≤ t')
    (h : j.ownsLease w τ t' = true) : j.ownsLease w τ t = true := by
  rw [WorkerJob.ownsLease_iff] at h ⊢
  obtain ⟨hr, hw, hτ, e, he, hlt⟩ := h
  exact ⟨hr, hw, hτ, e, he, lt_of_le_of_lt ht hlt⟩

theorem attempt_eq_of_token {A : Table workerJobAttempts} (ha : A.get? a.id = some a)
    (hb : A.get? b.id = some b) (htoken : a.leaseToken = b.leaseToken) : a = b := by
  by_cases hid : a.id = b.id
  · rw [hid, hb] at ha
    injection ha with ha
    exact ha.symm
  · have hclash := clash_of_get? ha hb hid
    simp [workerJobAttempts, htoken] at hclash

/-- Some attempt carries the token. -/
def Issued (A : Table workerJobAttempts) (τ : Uuid) : Prop :=
  ∃ a, A.get? a.id = some a ∧ a.leaseToken = τ

/-- Closing attempts and opening new ones forgets no token. -/
theorem Issued.claimed {A A1 A' : Table workerJobAttempts} (h : Issued A τ)
    (hquiet : Quiesced jobId A A1) (hfresh : A1.get? a.id = none) (hput : Put A1 a A') :
    Issued A' τ ∧ a.leaseToken ≠ τ := by
  obtain ⟨b, hb, htoken⟩ := h
  obtain ⟨b', hb', hends⟩ := hquiet.evolves.forward hb
  have hne : b'.id ≠ a.id := by
    intro hid
    rw [← hends.id, hid, hfresh] at hb'
    cases hb'
  have hkept : A'.get? b'.id = some b' := by
    rw [hput.get?_ne hne, hends.id]
    exact hb'
  refine ⟨⟨b', hkept, hends.leaseToken.trans htoken⟩, ?_⟩
  intro heq
  have hself : A'.get? a.id = some a := hput.get?_self
  have hba := attempt_eq_of_token hkept hself ((hends.leaseToken.trans htoken).trans heq.symm)
  exact hne (congrArg WorkerJobAttempt.id hba)

-- ==== tags

/-- The token was issued, and whichever job carries it has a property. -/
structure Tagged (τ : Uuid) (P : WorkerJob → Prop) (s : State) : Prop where
  agree : AttemptsAgree s.jobs s.attempts
  issued : Issued s.attempts τ
  tagged : ∀ j, s.jobs.get? j.id = some j → j.leaseToken = some τ → P j

/-- Writing one job that, if it carries the token, has the property. -/
theorem tagged_put {J J' : Table workerJobs} {P : WorkerJob → Prop}
    (h : ∀ j, J.get? j.id = some j → j.leaseToken = some τ → P j) (hput : Put J j' J')
    (hnew : j'.leaseToken = some τ → P j') :
    ∀ j, J'.get? j.id = some j → j.leaseToken = some τ → P j := by
  intro j hj
  rcases hput.cases hj with ⟨-, rfl⟩ | ⟨-, hold⟩
  · exact hnew
  · exact h j hold

/-- A token is never issued again, so a property of the jobs that carry
it lasts when renewals and checkpoints keep it. -/
theorem Tagged.effect {P : WorkerJob → Prop}
    (htouch : ∀ {s j j' w τ' J L}, JobTouched call s j j' w τ' J L →
      j.leaseToken = some τ → P j → P j')
    (h : Tagged τ P s) (he : Effect cfg call s₀ s s') : Tagged τ P s' := by
  have hagree := h.agree.effect he
  cases he with
  | jobAdded hadd =>
    refine ⟨hagree, h.issued, tagged_put h.tagged hadd.put fun htoken => ?_⟩
    -- a queued job carries no token
    have hcheck := check_of_get? (hadd.put.get?_self)
    have hnone := (WorkerJob.lease_none_of_check hcheck (by rw [hadd.queued]; decide)).2.1
    rw [hnone] at htoken
    cases htoken
  | jobClaimed hclaim =>
    obtain ⟨A1, hquiet, hfresh, hput⟩ := hclaim.quiesced h.agree
    obtain ⟨hissued, hne⟩ := h.issued.claimed hquiet hfresh hput
    refine ⟨hagree, hissued, tagged_put h.tagged hclaim.jobs fun htoken => ?_⟩
    injection htoken with htoken
    exact absurd htoken hne
  | jobTouched htouched =>
    refine ⟨hagree, h.issued, tagged_put h.tagged htouched.jobs fun htoken => ?_⟩
    rw [htouched.leaseToken] at htoken
    exact htouch htouched htoken (h.tagged _ htouched.stored htoken)
  | jobMoved hmove =>
    obtain ⟨b, hb, htoken⟩ := h.issued
    obtain ⟨b', hb', hends⟩ := (hmove.quiesced h.agree).evolves.forward hb
    refine ⟨hagree, ⟨b', hends.id ▸ hb', hends.leaseToken.trans htoken⟩,
      tagged_put h.tagged hmove.jobs fun htoken => ?_⟩
    rw [hmove.leaves.leaseToken] at htoken
    cases htoken
  | _ => exact ⟨hagree, h.issued, h.tagged⟩

-- ==== fencing

/-- The token was issued, and owns no job at the instant. -/
def Fenced (τ : Uuid) (t : Time) : State → Prop :=
  Tagged τ fun j => ∀ w, j.ownsLease w τ t = false

theorem Fenced.wait {t' : Time} (ht : t ≤ t') (h : Fenced τ t s) : Fenced τ t' s := by
  refine ⟨h.agree, h.issued, ?_⟩
  intro j hj htoken w
  rw [Bool.eq_false_iff]
  intro howns
  have hearlier := WorkerJob.ownsLease_earlier ht howns
  rw [h.tagged j hj htoken w] at hearlier
  cases hearlier

/-- Every effect leaves a lost token lost: a renewal or a checkpoint
needs a live owner. -/
theorem Fenced.effect (h : Fenced τ call.now s) (he : Effect cfg call s₀ s s') :
    Fenced τ call.now s' := by
  refine Tagged.effect ?_ h he
  intro s j j' w τ' J L htouched htoken hunowned
  have howned := htouched.owned
  rw [(WorkerJob.ownsLease_iff.mp howned).2.2.1] at htoken
  injection htoken with htoken
  rw [htoken, hunowned] at howned
  cases howned

theorem Fenced.continues {t' : Time} (h : Fenced τ t s) (hc : ContinuesTo cfg t s t' s') :
    Fenced τ t' s' :=
  hc.of_effects h (fun ht h => h.wait ht) fun _ _ _ _ h he => h.effect he

-- ==== the refusal

/-- The lease token an owner presents. -/
def Op.leaseToken? : Op → Option Uuid
  | .renew _ _ leaseToken | .checkpoint _ _ leaseToken _
  | .acknowledgeCancel _ _ leaseToken _ _ _ | .complete _ _ leaseToken _
  | .fail _ _ leaseToken _ _ _ | .requestIntervention _ _ leaseToken _ _ => some leaseToken
  | _ => none

/-- The account's lease a renewal extends is the job's own. -/
theorem owns_of_renewed {held : Bool} {now : Time} {s1 : State}
    (h : renewAccountCoordination now s j = .ok (held, s1)) (hheld : held = true) :
    ownsAccountCoordination now s j = true := by
  subst hheld
  unfold renewAccountCoordination at h
  unfold ownsAccountCoordination
  split at h
  case h_1 hnone => rfl
  case h_2 a ha =>
    by_cases hshared : j.operationClass.requiresExclusiveAccountCoordination = false
    · simp [hshared]
    · rw [if_neg hshared] at h ⊢
      split at h
      · simp only [steps_ok] at h
        cases h.1
      case h_2 g hg =>
        rcases State.moveLeaseExpiry_ok h with ⟨hfalse, -, -⟩ | ⟨-, L, -, row, hrow, hheld, -⟩
        · cases hfalse
        · show s.leaseOwned a .workerJob (Uuid.str j.id) g now = true
          unfold State.leaseOwned
          rw [hrow]
          exact hheld

/-- Each of the six commits only for a live owner, whose job has what it
needs of the account's lease. -/
theorem owned_of_outcome (hop : call.op.leaseToken? = some τ) (h : call.outcome cfg s = .ok s') :
    ∃ j w, s.jobs.get? j.id = some j ∧ j.ownsLease w τ call.now = true
      ∧ ownsAccountCoordination call.now s j = true := by
  unfold Call.outcome at h
  cases hcall : call.op <;> rw [hcall] at hop <;> simp only [Op.leaseToken?] at hop <;>
    try cases hop
  all_goals
    simp only [hcall, map_eq_ok, Prod.exists] at h
    obtain ⟨_, _, h, -⟩ := h
  case renew =>
    simp only [renew, steps_ok] at h
    obtain ⟨j, hj, _, hsome, _, rfl, ⟨held, s1⟩, hlease, hheld, -⟩ := h
    obtain ⟨howns, -, rfl⟩ := WorkerJob.renew_some hsome
    have hcoordinated := owns_of_renewed hlease hheld
    exact ⟨j, _, (lockedJob_ok hj).2, howns, hcoordinated⟩
  case checkpoint =>
    simp only [checkpoint, steps_ok] at h
    obtain ⟨j, hj, _, hsome, _, rfl, hcoordinated, -⟩ := h
    obtain ⟨howns, -, rfl⟩ := WorkerJob.saveCheckpoint_some hsome
    exact ⟨j, _, (lockedJob_ok hj).2, howns, hcoordinated⟩
  case acknowledgeCancel =>
    simp only [acknowledgeCancel, steps_ok] at h
    obtain ⟨j, hj, howns, -, ⟨-, hread, -⟩, -⟩ := h
    refine ⟨j, _, (lockedJob_ok hj).2, howns, ?_⟩
    -- only READ jobs are cancelled, and they need no account lease
    unfold ownsAccountCoordination
    rw [hread]
    split <;> rfl
  case complete =>
    simp only [complete, steps_ok] at h
    obtain ⟨j, hj, hcoordinated, _, hsome, _, rfl, -⟩ := h
    exact ⟨j, _, (lockedJob_ok hj).2, (WorkerJob.complete_some hsome).1, hcoordinated⟩
  case fail =>
    simp only [fail, steps_ok] at h
    obtain ⟨j, hj, hcoordinated, _, hsome, _, rfl, -⟩ := h
    exact ⟨j, _, (lockedJob_ok hj).2, (WorkerJob.fail_some hsome).1, hcoordinated⟩
  case requestIntervention =>
    simp only [requestIntervention, steps_ok] at h
    obtain ⟨-, j, hj, hcoordinated, _, hsome, _, rfl, -⟩ := h
    exact ⟨j, _, (lockedJob_ok hj).2, (WorkerJob.requireIntervention_some hsome).1, hcoordinated⟩

theorem step_of_refused (h : ∀ s', call.outcome cfg s ≠ .ok s') :
    (∃ e, call.outcome cfg s = .error e) ∧ (machine cfg).step s call = s := by
  cases houtcome : call.outcome cfg s with
  | error e =>
    refine ⟨⟨e, rfl⟩, ?_⟩
    show commit (call.outcome cfg s) s = s
    rw [houtcome, commit_error]
  | ok s' => exact absurd houtcome (h s')

/-- Whoever presents a lost token is refused, and changes nothing. -/
theorem Fenced.refused (h : Fenced τ t s) (ht : t ≤ call.now) (hop : call.op.leaseToken? = some τ) :
    (∃ e, call.outcome cfg s = .error e) ∧ (machine cfg).step s call = s := by
  refine step_of_refused fun s' houtcome => ?_
  obtain ⟨j, w, hj, howns, -⟩ := owned_of_outcome hop houtcome
  have htoken := (WorkerJob.ownsLease_iff.mp howns).2.2.1
  rw [(h.wait ht).tagged j hj htoken w] at howns
  cases howns

-- ==== the result

/-- The attempt's token has lost its job: the attempt has ended, or the
job now has another token, or its lease has expired. -/
def LeaseLost (t : Time) (s : State) (a : WorkerJobAttempt) : Prop :=
  a.status ≠ .running ∨ ∃ j ∈ s.jobs.rows, j.id = a.workerJobId
    ∧ (j.leaseToken ≠ some a.leaseToken ∨ ∃ e, j.leaseExpiresAt = some e ∧ e ≤ t)

theorem LeaseLost.fenced (hagree : AttemptsAgree s.jobs s.attempts)
    (ha : s.attempts.get? a.id = some a) (h : LeaseLost t s a) : Fenced a.leaseToken t s := by
  refine ⟨hagree, ⟨a, ha, rfl⟩, ?_⟩
  intro j hj _ w
  rw [Bool.eq_false_iff]
  intro howns
  obtain ⟨hr, -, htoken, e, he, hlt⟩ := WorkerJob.ownsLease_iff.mp howns
  -- the owned job's running attempt is the one that carries the token
  obtain ⟨b, hb, hbjob, hbr⟩ := hagree.attempted j hj hr
  obtain ⟨j1, hj1, -, -, -, hbtoken⟩ := hagree.running b hb hbr
  rw [hbjob, hj] at hj1
  cases hj1
  rw [htoken] at hbtoken
  injection hbtoken with hbtoken
  have hab := attempt_eq_of_token ha hb hbtoken
  subst hab
  rcases h with hended | ⟨j2, hj2, hid, hlost⟩
  · exact hended hbr
  · have hstored : s.jobs.get? j2.id = some j2 := mem_rows_iff.mp hj2
    rw [hid, hbjob, hj] at hstored
    cases hstored
    rcases hlost with hother | ⟨e', he', hle⟩
    · exact hother htoken
    · rw [he] at he'
      cases he'
      exact absurd hlt (not_lt.mpr hle)

/-- Lease fencing: a job has at most one owner at an instant, and a
token that has lost its job is refused for the rest of the run. -/
theorem lease_fencing (h : ReachableAt cfg t s) :
    (∀ j ∈ s.jobs.rows, ∀ u w τ w' τ', j.ownsLease w τ u = true →
      j.ownsLease w' τ' u = true → w = w' ∧ τ = τ')
    ∧ ∀ a ∈ s.attempts.rows, LeaseLost t s a →
      ∀ t' s', ContinuesTo cfg t s t' s' → ∀ call : Call, t' ≤ call.now →
        call.op.leaseToken? = some a.leaseToken →
        (∃ e, call.outcome cfg s' = .error e) ∧ (machine cfg).step s' call = s' := by
  refine ⟨fun j _ u w τ w' τ' => WorkerJob.ownsLease_unique, ?_⟩
  intro a ha hlost t' s' hc call ht hop
  have hfenced := hlost.fenced (AttemptsAgree.reachable h.reachable) (mem_rows_iff.mp ha)
  exact (hfenced.continues hc).refused ht hop

open Sample in
/-- The first worker of `reclaimedRun` reports after it lost the job:
its lease had lapsed, and the job was claimed again. -/
theorem lease_fencing_reclaimed : (machine settings).step (after reclaimedRun)
        (Sample.call 5 101 (.complete 200 2 301 [])) = after reclaimedRun := by
  obtain ⟨a, ha, htoken, hended⟩ : ∃ a ∈ (after reclaimedRun).attempts.rows,
      a.leaseToken = 301 ∧ a.status ≠ .running := by decide +kernel
  have hat := reachableAt (by decide : admitted reclaimedRun = true)
  exact ((lease_fencing hat).2 a ha (.inl hended) _ _ .refl
    (Sample.call 5 101 (.complete 200 2 301 [])) (by decide) (by rw [htoken]; rfl)).2

end ThreadsPlatform
