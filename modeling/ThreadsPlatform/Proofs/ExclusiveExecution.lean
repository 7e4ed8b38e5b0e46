/-
The account's lease decides who executes.

`AccountLease` relates every execution to the row of its account. Here
that is put to use: two live executions of one account have one row, and
so are the same; and an execution the row has left behind is refused
whatever it reports, since every report compares generations.

# Left behind

A job's execution is known by its lease token, an API execution by its
claim. A claim carries its generation. A token does not, but the job it
owns keeps account and generation for as long as it carries the token
(`Tagged`), so the comparison is with the generation the token was
issued under.
-/
import ThreadsPlatform.Proofs.AccountLease
import ThreadsPlatform.Proofs.Fencing

namespace ThreadsPlatform

open Relational Table Relational.FencedLease WorkerJobService CommandRuntime

variable {cfg : Settings} {call : Call} {s s' s₀ : State} {t t' u now : Time} {j : WorkerJob}
  {c : Command} {κ : ExecutionClaim} {a τ : Uuid} {g : Int}
  {ownerType : AccountExecutionOwnerType} {ownerId : String}

-- ==== generations

/-- An effect takes the lease of one account, moves its expiry, or
leaves the leases alone. -/
theorem Effect.advances (he : Effect cfg call s₀ s s') (b : Uuid) :
    Advances (leaseAt s.accountLeases b) (leaseAt s'.accountLeases b) := by
  cases he with
  | jobClaimed h =>
    rcases h.lease with ⟨a, n, -, -, htaken⟩ | ⟨-, rfl⟩
    · exact htaken.takenAt.advances b
    · exact .refl _
  | leaseBumped h =>
    obtain ⟨x, htaken⟩ := h.takenAt
    exact htaken.advances b
  | jobTouched h =>
    rcases h.lease with ⟨-, rfl⟩ | ⟨expiry, -, ⟨-, rfl⟩ | ⟨a, g, -, -, hmoved⟩⟩
    · exact .refl _
    · exact .refl _
    · exact hmoved.movedAt.advances b
  | jobMoved h =>
    rcases h.lease with rfl | ⟨a, g, -, -, hmoved⟩
    · exact .refl _
    · exact hmoved.movedAt.advances b
  | commandMoved h =>
    rcases h.lease with rfl | ⟨κ, -, -, g, -, hmoved⟩
    · exact .refl _
    · exact hmoved.movedAt.advances b
  | commandClaimed h =>
    rcases h.lease with ⟨-, n, -, htaken⟩ | ⟨-, -, rfl⟩
    · exact htaken.takenAt.advances b
    · exact .refl _
  | commandTouched h =>
    rcases h.lease with ⟨-, rfl⟩ | ⟨expiry, -, ⟨-, rfl⟩ | ⟨g, -, hmoved⟩⟩
    · exact .refl _
    · exact .refl _
    · exact hmoved.movedAt.advances b
  | _ => exact .refl _

/-- Along a run the generation of an account does not decrease. -/
theorem ContinuesTo.advances (h : ContinuesTo cfg t s t' s') (b : Uuid) :
    Advances (leaseAt s.accountLeases b) (leaseAt s'.accountLeases b) :=
  h.of_effects (I := fun _ s' => Advances (leaseAt s.accountLeases b) (leaseAt s'.accountLeases b))
    (.refl _) (fun _ hs => hs) fun _ _ _ _ hs he => hs.trans (he.advances b)

theorem ContinuesTo.row_advances {row : AccountExecutionLease} (h : ContinuesTo cfg t s t' s')
    (hrow : row ∈ s.accountLeases.rows) :
    ∃ row' ∈ s'.accountLeases.rows, row'.accountId = row.accountId
      ∧ (row.fencingGeneration < row'.fencingGeneration
        ∨ (row'.fencingGeneration = row.fencingGeneration
          ∧ row'.ownerType = row.ownerType ∧ row'.ownerId = row.ownerId)) := by
  obtain ⟨x', hx', hadvances⟩ := h.advances row.accountId _ (leaseAt_of_mem hrow)
  obtain ⟨row', hrow', haccount, rfl⟩ := mem_of_leaseAt hx'
  refine ⟨row', hrow', haccount, hadvances.imp id ?_⟩
  rintro ⟨hgen, howner⟩
  injection howner with htype hid
  exact ⟨hgen, htype, hid⟩

/-- Whoever acquires an account's lease finds it lapsed, and has it
under a generation above the last. -/
theorem tryAcquire_raises {operationClass : OperationClass} {expiry : Time}
    (h : s.tryAcquire a ownerType ownerId operationClass now expiry = .ok (some g, s')) :
    (∃ row ∈ s'.accountLeases.rows, row.accountId = a ∧ row.ownerType = ownerType
      ∧ row.ownerId = ownerId ∧ row.fencingGeneration = g ∧ row.leaseExpiresAt = expiry)
    ∧ ∀ row ∈ s.accountLeases.rows, row.accountId = a →
      row.leaseExpiresAt ≤ now ∧ row.fencingGeneration < g := by
  rcases State.tryAcquire_ok h with ⟨hnone, -, -⟩ | ⟨n, L, hsome, rfl, htaken⟩
  · cases hnone
  · cases hsome
    obtain ⟨row, hput, haccount, hrest⟩ := htaken.put
    refine ⟨⟨row, mem_rows_iff.mpr hput.get?_self, haccount, hrest⟩, ?_⟩
    intro old hold hid
    exact htaken.free old (hid ▸ mem_rows_iff.mp hold)

-- ==== jobs

/-- The generation was issued with the token: the job that carries the
token runs for the account under it. -/
def IssuedUnder (τ a : Uuid) (g : Int) : State → Prop :=
  Tagged τ fun j => j.accountId = some a ∧ j.accountCoordinationGeneration = some g

theorem IssuedUnder.start (hagree : AttemptsAgree s.jobs s.attempts)
    (hj : s.jobs.get? j.id = some j) (htoken : j.leaseToken = some τ)
    (haccount : j.accountId = some a) (hg : j.accountCoordinationGeneration = some g) :
    IssuedUnder τ a g s := by
  have hattempt : ∀ j2, s.jobs.get? j2.id = some j2 → j2.leaseToken = some τ →
      ∃ b, s.attempts.get? b.id = some b ∧ b.workerJobId = j2.id ∧ b.leaseToken = τ := by
    intro j2 hj2 htoken2
    have hr : j2.status = .running := by
      by_contra hidle
      rw [(WorkerJob.lease_none_of_check (check_of_get? hj2) hidle).2.1] at htoken2
      cases htoken2
    obtain ⟨b, hb, hjob, hbr⟩ := hagree.attempted j2 hj2 hr
    obtain ⟨j3, hj3, -, -, -, hbtoken⟩ := hagree.running b hb hbr
    rw [hjob, hj2] at hj3
    cases hj3
    rw [htoken2] at hbtoken
    injection hbtoken with hbtoken
    exact ⟨b, hb, hjob, hbtoken.symm⟩
  obtain ⟨b, hb, hjob, hbtoken⟩ := hattempt j hj htoken
  refine ⟨hagree, ⟨b, hb, hbtoken⟩, ?_⟩
  intro j2 hj2 htoken2
  obtain ⟨b2, hb2, hjob2, hbtoken2⟩ := hattempt j2 hj2 htoken2
  have hbb := attempt_eq_of_token hb hb2 (hbtoken.trans hbtoken2.symm)
  rw [← hjob2, ← hbb, hjob, hj] at hj2
  injection hj2 with hj2
  rw [← hj2]
  exact ⟨haccount, hg⟩

/-- Renewals and checkpoints keep account and generation. -/
theorem IssuedUnder.continues (h : IssuedUnder τ a g s) (hc : ContinuesTo cfg t s t' s') :
    IssuedUnder τ a g s' := by
  refine hc.of_effects (I := fun _ => IssuedUnder τ a g) h (fun _ hs => hs) ?_
  intro call s u u' hu he
  refine Tagged.effect ?_ hu he
  intro s j j' w τ' J L htouched _ ⟨haccount, hg⟩
  exact ⟨htouched.same.accountId.trans haccount, htouched.generation.trans hg⟩

theorem leaseOwned_current (h : s.leaseOwned a ownerType ownerId g now = true) :
    ∃ row, s.accountLeases.get? a = some row ∧ row.fencingGeneration = g := by
  unfold State.leaseOwned at h
  rw [Option.any_eq_true] at h
  obtain ⟨row, hrow, hheld⟩ := h
  simp only [AccountExecutionLease.heldBy, checks_hold] at hheld
  exact ⟨row, hrow, hheld.1.2⟩

/-- Whoever presents a token of a generation that has passed is refused. -/
theorem IssuedUnder.refused (h : IssuedUnder τ a g s)
    (hpassed : ∀ row, s.accountLeases.get? a = some row → row.fencingGeneration ≠ g)
    (hop : call.op.leaseToken? = some τ) :
    (∃ e, call.outcome cfg s = .error e) ∧ (machine cfg).step s call = s := by
  refine step_of_refused fun s' houtcome => ?_
  obtain ⟨j, w, hj, howns, hcoordinated⟩ := owned_of_outcome hop houtcome
  have htoken := (WorkerJob.ownsLease_iff.mp howns).2.2.1
  obtain ⟨haccount, hg⟩ := h.tagged j hj htoken
  -- a job with a generation is an exclusive one
  have hexclusive := (WorkerJob.fence_of_check (check_of_get? hj) hg).2
  unfold WorkerJob.requiresCoordination at hexclusive
  rw [haccount] at hexclusive
  have hclass : j.operationClass.requiresExclusiveAccountCoordination = true := hexclusive
  have howned : s.leaseOwned a .workerJob (Uuid.str j.id) g call.now = true := by
    unfold ownsAccountCoordination at hcoordinated
    rw [haccount, hg, hclass] at hcoordinated
    exact hcoordinated
  obtain ⟨row, hrow, hgen⟩ := leaseOwned_current howned
  exact hpassed row hrow hgen

-- ==== claims

/-- No claim of a generation that has passed owns the account. -/
theorem ownsAccountExecution_passed (hg : κ.accountCoordinationGeneration = some g)
    (hpassed : ∀ row, s.accountLeases.get? κ.accountId = some row → row.fencingGeneration ≠ g) :
    ownsAccountExecution now s κ = false := by
  rw [Bool.eq_false_iff]
  intro howns
  unfold ownsAccountExecution at howns
  rw [hg] at howns
  obtain ⟨row, hrow, hgen⟩ := leaseOwned_current howns
  exact hpassed row hrow hgen

/-- An execution that has lost the account finishes nothing. -/
theorem ownedExecution_lost (h : ownsAccountExecution now s κ = false) :
    ∃ answer, ownedExecution now κ s = .inl answer := by
  unfold ownedExecution
  split
  · rw [if_pos (.inr h)]
    exact ⟨_, rfl⟩
  · exact ⟨_, rfl⟩

/-- A heartbeat moves the account's lease, or is refused. -/
theorem heartbeat_leased {answer : Unit} (hg : κ.accountCoordinationGeneration = some g)
    (h : heartbeat cfg call.now κ s = .ok (answer, s')) :
    ∃ row, s.accountLeases.get? κ.accountId = some row ∧ row.fencingGeneration = g := by
  simp only [heartbeat, steps_ok] at h
  obtain ⟨⟨updated, s1⟩, hupdate, ⟨renewed, s2⟩, hrenew, ⟨-, hrenewed⟩, -⟩ := h
  have hleases : s1.accountLeases = s.accountLeases := by
    rcases updateIfLeased_ok hupdate with ⟨-, rfl⟩ | ⟨-, c, C, -, -, -, rfl, -⟩ <;> rfl
  unfold renewAccountExecution at hrenew
  rw [hg] at hrenew
  rcases State.moveLeaseExpiry_ok hrenew with ⟨hfalse, -, -⟩ | ⟨-, L, -, row, hrow, hheld, -⟩
  · rw [hfalse] at hrenewed
    cases hrenewed
  · rw [hleases] at hrow
    simp only [AccountExecutionLease.heldBy, checks_hold] at hheld
    exact ⟨row, hrow, hheld.1.2⟩

/-- Whoever presents a claim of a generation that has passed changes
nothing. -/
theorem claim_passed (hg : κ.accountCoordinationGeneration = some g)
    (hpassed : ∀ row, s.accountLeases.get? κ.accountId = some row → row.fencingGeneration ≠ g)
    (hop : call.op.claim? = some κ) : (machine cfg).step s call = s := by
  have hlost : ownsAccountExecution call.now s κ = false := ownsAccountExecution_passed hg hpassed
  obtain ⟨answer, hanswer⟩ := ownedExecution_lost hlost
  show commit (call.outcome cfg s) s = s
  unfold Call.outcome
  cases hcall : call.op <;> rw [hcall] at hop <;> simp only [Op.claim?] at hop <;>
    cases hop <;> dsimp only
  case persistCheckpoint =>
    rw [persistCheckpoint, if_pos hlost]
    rfl
  case heartbeat =>
    cases hbeat : heartbeat cfg call.now κ s with
    | error e => rfl
    | ok answer =>
      obtain ⟨row, hrow, hgen⟩ := heartbeat_leased hg hbeat
      exact absurd hgen (hpassed row hrow)
  case finishSuccess =>
    rw [finishSuccess, hanswer]
    rfl
  case finishFailure =>
    rw [finishFailure, hanswer]
    rfl

-- ==== the result

/-- What may execute under an account's exclusive lease. -/
inductive Execution where
  | job (j : WorkerJob)
  | command (c : Command)

/-- The execution is an exclusive one of the account, and its own lease
is unexpired at an instant. -/
def Execution.Live (cfg : Settings) (s : State) (u : Time) (a : Uuid) : Execution → Prop
  | .job j => j ∈ s.jobs.rows ∧ j.status = .running ∧ j.accountId = some a
      ∧ j.operationClass ≠ .read ∧ ∃ e, j.leaseExpiresAt = some e ∧ u < e
  | .command c => c ∈ s.commands.rows ∧ c.status = .processing ∧ c.accountId = a
      ∧ cfg.exclusive c.commandType = true ∧ ∃ e, c.executionLeaseExpiresAt = some e ∧ u < e

theorem ExecutionsHold.job_current (h : ExecutionsHold cfg u s)
    (hlive : (Execution.job j).Live cfg s u a) :
    ∃ g e, j.accountCoordinationGeneration = some g ∧ j.leaseExpiresAt = some e
      ∧ leaseAt s.accountLeases a = some ⟨(.workerJob, Uuid.str j.id), g, e⟩ := by
  obtain ⟨hj, hr, haccount, hclass, e0, he0, hlt⟩ := hlive
  have hexclusive : j.requiresCoordination = true := by
    unfold WorkerJob.requiresCoordination
    rw [haccount]
    cases hop : j.operationClass with
    | read => exact absurd hop hclass
    | mutation | session | background => rfl
  obtain ⟨b, g, e, hb, hg, he, hold⟩ := h.jobs.held j (mem_rows_iff.mp hj) ⟨hr, hexclusive⟩
  rw [haccount] at hb
  injection hb with hb
  rw [he0] at he
  injection he with he
  subst hb he
  exact ⟨g, e0, hg, he0, hold.current hlt⟩

/-- The claim of a live Command is the owner in the account's row. -/
theorem ExecutionsHold.command_current (h : ExecutionsHold cfg u s)
    (hlive : (Execution.command c).Live cfg s u a) :
    ∃ κ ∈ s.claims, κ.commandId = c.commandId ∧ κ.accountId = a
      ∧ ∃ g e, κ.accountCoordinationGeneration = some g
        ∧ leaseAt s.accountLeases a = some ⟨(.command, Uuid.str κ.attemptId), g, e⟩ := by
  obtain ⟨hc, hp, rfl, hclass, e0, he0, hlt⟩ := hlive
  have hstored : s.commands.get? c.commandId = some c := mem_rows_iff.mp hc
  obtain ⟨κ, hκ, hid, g, e, hg, he, hold⟩ := h.commands.held c hstored hp hclass
  rw [he0] at he
  cases he
  obtain ⟨c2, hc2, haccount, -⟩ := h.commands.issued κ hκ
  rw [hid, hstored] at hc2
  cases hc2
  exact ⟨κ, hκ, hid, haccount, g, e0, hg, hold.current hlt⟩

/-- Two live executions of an account are the same: they are the owner
of one row, under one generation. -/
theorem ExecutionsHold.alone (h : ExecutionsHold cfg u s) {x y : Execution}
    (hx : x.Live cfg s u a) (hy : y.Live cfg s u a) : x = y := by
  cases x with
  | job j =>
    obtain ⟨g, e, hg, -, hrow⟩ := h.job_current hx
    cases y with
    | job j2 =>
      obtain ⟨g2, e2, hg2, -, hrow2⟩ := h.job_current hy
      rw [hrow] at hrow2
      injection hrow2 with hrow2
      injection hrow2 with _ hgen _
      subst hgen
      have hj : s.jobs.get? j.id = some j := mem_rows_iff.mp hx.1
      have hj2 : s.jobs.get? j2.id = some j2 := mem_rows_iff.mp hy.1
      have hid := h.jobs.distinct j j2 hj hj2 (WorkerJob.fence_of_check (check_of_get? hj) hg)
        (WorkerJob.fence_of_check (check_of_get? hj2) hg2)
        (hx.2.2.1.trans hy.2.2.1.symm) (hg.trans hg2.symm)
      rw [hid, hj2] at hj
      injection hj with hj
      rw [hj]
    | command c =>
      obtain ⟨κ, -, -, -, g2, e2, -, hrow2⟩ := h.command_current hy
      rw [hrow] at hrow2
      injection hrow2 with hrow2
      injection hrow2 with howner _ _
      injection howner with htype _
      cases htype
  | command c =>
    obtain ⟨κ, hκ, hid, haccount, g, e, hg, hrow⟩ := h.command_current hx
    cases y with
    | job j =>
      obtain ⟨g2, e2, -, -, hrow2⟩ := h.job_current hy
      rw [hrow] at hrow2
      injection hrow2 with hrow2
      injection hrow2 with howner _ _
      injection howner with htype _
      cases htype
    | command c2 =>
      obtain ⟨κ2, hκ₂, hid2, haccount2, g2, e2, hg2, hrow2⟩ := h.command_current hy
      rw [hrow] at hrow2
      injection hrow2 with hrow2
      injection hrow2 with _ hgen _
      subst hgen
      have hκκ := h.commands.distinct κ hκ κ2 hκ₂ g hg hg2 (haccount.trans haccount2.symm)
      have hc : s.commands.get? c.commandId = some c := mem_rows_iff.mp hx.1
      have hc2 : s.commands.get? c2.commandId = some c2 := mem_rows_iff.mp hy.1
      rw [← hid, hκκ, hid2, hc2] at hc
      injection hc with hc
      rw [hc]

theorem ExecutionsHold.recorded (h : ExecutionsHold cfg u s)
    (hlive : (Execution.job j).Live cfg s u a) :
    ∃ row ∈ s.accountLeases.rows, row.accountId = a ∧ row.ownerType = .workerJob
      ∧ row.ownerId = Uuid.str j.id
      ∧ j.accountCoordinationGeneration = some row.fencingGeneration
      ∧ j.leaseExpiresAt = some row.leaseExpiresAt := by
  obtain ⟨g, e, hg, he, hlease⟩ := h.job_current hlive
  obtain ⟨row, hrow, haccount, hx⟩ := mem_of_leaseAt hlease
  injection hx with howner hgen hexpiry
  injection howner with htype hid
  subst hgen hexpiry
  exact ⟨row, hrow, haccount, htype, hid, hg, he⟩

/-- What the accounts' leases give, in a state reached at time `t`. -/
structure AccountExclusive (cfg : Settings) (t : Time) (s : State) : Prop where
  /-- One execution of an account is live at an instant. -/
  alone : ∀ u, t ≤ u → ∀ a x y, Execution.Live cfg s u a x → Execution.Live cfg s u a y → x = y
  /-- A live job is in its account's row, with its generation and expiry. -/
  recorded : ∀ u, t ≤ u → ∀ a j, Execution.Live cfg s u a (.job j) →
    ∃ row ∈ s.accountLeases.rows, row.accountId = a ∧ row.ownerType = .workerJob
      ∧ row.ownerId = Uuid.str j.id
      ∧ j.accountCoordinationGeneration = some row.fencingGeneration
      ∧ j.leaseExpiresAt = some row.leaseExpiresAt
  /-- The generation of an account never decreases, and passes to no
  other owner. -/
  monotone : ∀ t' s', ContinuesTo cfg t s t' s' → ∀ row ∈ s.accountLeases.rows,
    ∃ row' ∈ s'.accountLeases.rows, row'.accountId = row.accountId
      ∧ (row.fencingGeneration < row'.fencingGeneration
        ∨ (row'.fencingGeneration = row.fencingGeneration
          ∧ row'.ownerType = row.ownerType ∧ row'.ownerId = row.ownerId))
  /-- A worker whose job's generation has passed is refused. -/
  staleJob : ∀ j ∈ s.jobs.rows, ∀ a g τ, j.accountId = some a →
    j.accountCoordinationGeneration = some g → j.leaseToken = some τ →
    ∀ t' s', ContinuesTo cfg t s t' s' →
      (∀ row ∈ s'.accountLeases.rows, row.accountId = a → row.fencingGeneration ≠ g) →
      ∀ call : Call, call.op.leaseToken? = some τ →
        (∃ e, call.outcome cfg s' = .error e) ∧ (machine cfg).step s' call = s'
  /-- An API executor whose claim's generation has passed changes
  nothing. -/
  staleClaim : ∀ κ ∈ s.claims, ∀ g, κ.accountCoordinationGeneration = some g →
    ∀ t' s', ContinuesTo cfg t s t' s' →
      (∀ row ∈ s'.accountLeases.rows, row.accountId = κ.accountId → row.fencingGeneration ≠ g) →
      ∀ call : Call, call.op.claim? = some κ → (machine cfg).step s' call = s'

theorem rows_of_get? {P : AccountExecutionLease → Prop}
    (h : ∀ row ∈ s.accountLeases.rows, row.accountId = a → P row) :
    ∀ row, s.accountLeases.get? a = some row → P row := by
  intro row hrow
  have hkey : row.accountId = a := key_of_get? hrow
  rw [← hkey] at hrow
  exact h row (mem_rows_iff.mpr hrow) hkey

/-- Exclusive account execution: in every state of every run, and every
acquisition raises the generation. -/
theorem exclusive_account_execution (h : ReachableAt cfg t s) :
    AccountExclusive cfg t s
    ∧ ∀ (s₁ s₂ : State) accountId ownerType ownerId operationClass now expiry g,
      s₁.tryAcquire accountId ownerType ownerId operationClass now expiry = .ok (some g, s₂) →
      (∃ row ∈ s₂.accountLeases.rows, row.accountId = accountId ∧ row.ownerType = ownerType
        ∧ row.ownerId = ownerId ∧ row.fencingGeneration = g ∧ row.leaseExpiresAt = expiry)
      ∧ ∀ row ∈ s₁.accountLeases.rows, row.accountId = accountId →
        row.leaseExpiresAt ≤ now ∧ row.fencingGeneration < g := by
  have hholds : ∀ u, t ≤ u → ExecutionsHold cfg u s := by
    intro u hu
    have hheld := ExecutionsHold.reachableAt h
    exact ⟨hheld.jobs.wait hu, hheld.commands.wait hu⟩
  refine ⟨⟨fun u hu a x y => (hholds u hu).alone, fun u hu a j => (hholds u hu).recorded,
    fun t' s' hc row => hc.row_advances, ?_, ?_⟩, fun s₁ s₂ _ _ _ _ _ _ _ => tryAcquire_raises⟩
  · intro j hj a g τ haccount hg htoken t' s' hc hpassed call hop
    have hissued := IssuedUnder.start (AttemptsAgree.reachable h.reachable)
      (mem_rows_iff.mp hj) htoken haccount hg
    exact (hissued.continues hc).refused (rows_of_get? hpassed) hop
  · intro κ _ g hg t' s' _ hpassed call hop
    exact claim_passed hg (rows_of_get? hpassed) hop

/-- Two publications of account 1. The first worker's lease lapses, and
the second job takes the account. -/
def lapsedRun : List Call := [Sample.call 1 0 (.receive (Sample.publish "first" 0 none)),
    Sample.call 2 1 (.receive (Sample.publish "second" 1 none)),
    Sample.call 3 1 (.process "first"), Sample.call 4 2 (.process "second"),
    Sample.call 5 3 (.claimNext 2), Sample.call 6 70 (.claimNext 2)]

open Sample in
/-- After `lapsedRun` both jobs are RUNNING. The second is the owner in
the account's row; the first, under generation 1, is refused. -/
theorem exclusive_account_execution_lapsed :
    (∃ row ∈ (after lapsedRun).accountLeases.rows, row.accountId = 1
      ∧ row.ownerType = .workerJob ∧ row.ownerId = Uuid.str 400)
    ∧ (∃ e, (Sample.call 7 71 (.complete 300 2 501 [])).outcome settings
        (after lapsedRun) = .error e)
    ∧ (machine settings).step (after lapsedRun)
        (Sample.call 7 71 (.complete 300 2 501 [])) = after lapsedRun := by
  have hat := reachableAt (by decide +kernel : admitted lapsedRun = true)
  have hexclusive := (exclusive_account_execution hat).1
  obtain ⟨j₂, hj₂, hid₂, hr₂, haccount₂, hclass₂, he₂⟩ :
      ∃ j ∈ (after lapsedRun).jobs.rows, j.id = 400 ∧ j.status = .running
        ∧ j.accountId = some 1 ∧ j.operationClass ≠ .read ∧ j.leaseExpiresAt = some 130 := by
    decide +kernel
  obtain ⟨row, hrow, haccount, htype, howner, -⟩ := hexclusive.recorded 71 (by decide) 1 j₂
    ⟨hj₂, hr₂, haccount₂, hclass₂, 130, he₂, by decide⟩
  rw [hid₂] at howner
  refine ⟨⟨row, hrow, haccount, htype, howner⟩, ?_⟩
  obtain ⟨j, hj, haccount, hg, htoken⟩ : ∃ j ∈ (after lapsedRun).jobs.rows,
      j.accountId = some 1 ∧ j.accountCoordinationGeneration = some 1
      ∧ j.leaseToken = some 501 := by
    decide +kernel
  refine hexclusive.staleJob j hj 1 1 501 haccount hg htoken _ _ .refl ?_ _ rfl
  decide +kernel

end ThreadsPlatform
