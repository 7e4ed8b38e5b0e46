/-
One exclusive execution per account.

An exclusive operation of an account runs as a WorkerJob or as a local
API execution of a Command. Each keeps a lease of its own, in its own
row, and takes the account's lease (`FencedLease`) besides. The two
expiries move together only because every path that moves one moves the
other: a claim, a renewal, a heartbeat. `JobsHold` and `CommandsHold`
say that they do.

# Who is who

The account's row names a job by its id and an API execution by its
attempt. What tells executions apart is the generation: it is above
every earlier one when it is taken, so no two executions of an account
share one (`distinct`), whatever identifiers were drawn.
-/
import ThreadsPlatform.Application.Runs
import ThreadsPlatform.Effects.Refinement
import ThreadsPlatform.Relational.FencedLease

namespace ThreadsPlatform

open Relational Table Relational.FencedLease

variable {cfg : Settings} {call : Call} {s s' s0 : State} {t now e e' expiry : Time}
  {J J' : Table workerJobs} {C C' : Table commands} {L L' : Table accountExecutionLeases}
  {K : List ExecutionClaim} {j j' j₂ : WorkerJob} {c c' : Command} {κ : ExecutionClaim} {a b : Uuid}
  {g n : Int} {owner : AccountExecutionOwnerType × String} {ownerType : AccountExecutionOwnerType}
  {ownerId : String} {row : AccountExecutionLease}
  {x : FencedLease (AccountExecutionOwnerType × String) Time} {CA : Table commandAttempts}
  {D : Table integrationDeliveries} {O : Table outboxEvents} {A : Table workerJobAttempts}
  {R : Table workerJobCancelRequests} {w : Uuid}

-- ==== the account's lease

/-- The row of an account as a lease. -/
def AccountExecutionLease.lease (row : AccountExecutionLease) :
    FencedLease (AccountExecutionOwnerType × String) Time where
  owner := (row.ownerType, row.ownerId)
  generation := row.fencingGeneration
  expiry := row.leaseExpiresAt

/-- The lease of an account, once anyone has taken it. -/
def leaseAt (L : Table accountExecutionLeases) (a : Uuid) :
    Option (FencedLease (AccountExecutionOwnerType × String) Time) :=
  (L.get? a).map (·.lease)

theorem leaseAt_some (h : leaseAt L a = some x) : ∃ row, L.get? a = some row ∧ row.lease = x := by
  unfold leaseAt at h
  rwa [Option.map_eq_some_iff] at h

theorem mem_of_leaseAt (h : leaseAt L a = some x) :
    ∃ row ∈ L.rows, row.accountId = a ∧ row.lease = x := by
  obtain ⟨row, hrow, hx⟩ := leaseAt_some h
  have hid : row.accountId = a := key_of_get? hrow
  subst hid
  exact ⟨row, mem_rows_iff.mpr hrow, rfl, hx⟩

theorem leaseAt_of_mem (h : row ∈ L.rows) : leaseAt L row.accountId = some row.lease := by
  have hrow : L.get? row.accountId = some row := mem_rows_iff.mp h
  rw [leaseAt, hrow]
  rfl

/-- Writing one account's row leaves the other accounts alone. -/
theorem leaseAt_put (hput : Put L row L') :
    leaseAt L' row.accountId = some row.lease
      ∧ ∀ b, b ≠ row.accountId → leaseAt L' b = leaseAt L b := by
  have hself : L'.get? row.accountId = some row := hput.get?_self
  refine ⟨?_, fun b hb => ?_⟩
  · rw [leaseAt, hself]
    rfl
  · rw [leaseAt, leaseAt, hput.get?_ne hb]

/-- A lapsed lease is taken; the other accounts' stay. -/
structure TakenAt (now : Time) (a : Uuid) (L L' : Table accountExecutionLeases)
    (x : FencedLease (AccountExecutionOwnerType × String) Time) : Prop where
  free : ∀ y, leaseAt L a = some y → y.expiry ≤ now ∧ y.generation < x.generation
  now : leaseAt L' a = some x
  others : ∀ b, b ≠ a → leaseAt L' b = leaseAt L b

/-- The owner of a live lease moves its expiry. -/
structure MovedAt (now : Time) (a : Uuid) (owner : AccountExecutionOwnerType × String) (g : Int)
    (expiry : Time) (L L' : Table accountExecutionLeases) : Prop where
  held : ∃ e, now < e ∧ leaseAt L a = some ⟨owner, g, e⟩
  now : leaseAt L' a = some ⟨owner, g, expiry⟩
  others : ∀ b, b ≠ a → leaseAt L' b = leaseAt L b

theorem takenAt_of_put {row : AccountExecutionLease} (hput : Put L row L')
    (hfree : ∀ r, L.get? row.accountId = some r →
      r.leaseExpiresAt ≤ now ∧ r.fencingGeneration < row.fencingGeneration) :
    TakenAt now row.accountId L L' row.lease where
  free := by
    intro y hy
    obtain ⟨r, hr, rfl⟩ := leaseAt_some hy
    exact hfree r hr
  now := (leaseAt_put hput).1
  others := (leaseAt_put hput).2

theorem LeaseTaken.takenAt (h : LeaseTaken a ownerType ownerId g now expiry L L') :
    TakenAt now a L L' ⟨(ownerType, ownerId), g, expiry⟩ := by
  obtain ⟨row, hput, rfl, rfl, rfl, rfl, rfl⟩ := h.put
  exact takenAt_of_put hput h.free

theorem LeaseBumped.takenAt (h : LeaseBumped a now L L') : ∃ x, TakenAt now a L L' x := by
  obtain ⟨hlapsed, row, hput, rfl, -, hgen⟩ := h
  exact ⟨row.lease, takenAt_of_put hput fun r hr => ⟨hlapsed r hr, hgen r hr⟩⟩

theorem LeaseMoved.movedAt (h : LeaseMoved a ownerType ownerId g now expiry L L') :
    MovedAt now a (ownerType, ownerId) g expiry L L' := by
  obtain ⟨row, hrow, hheld, hput⟩ := h
  have hid : row.accountId = a := key_of_get? hrow
  subst hid
  simp only [AccountExecutionLease.heldBy, checks_hold] at hheld
  obtain ⟨⟨⟨rfl, rfl⟩, rfl⟩, hlive⟩ := hheld
  obtain ⟨hself, hothers⟩ := leaseAt_put hput
  refine ⟨⟨row.leaseExpiresAt, hlive, ?_⟩, hself, hothers⟩
  rw [leaseAt, hrow]
  rfl

-- ---- what is preserved

theorem TakenAt.advances {x} (h : TakenAt now a L L' x) (b : Uuid) :
    Advances (leaseAt L b) (leaseAt L' b) := by
  by_cases hb : b = a
  · rw [hb, h.now]
    exact (Step.take h.free).advances
  · rw [h.others b hb]
    exact .refl _

theorem MovedAt.advances (h : MovedAt now a owner g expiry L L') (b : Uuid) :
    Advances (leaseAt L b) (leaseAt L' b) := by
  by_cases hb : b = a
  · obtain ⟨e, hlive, hheld⟩ := h.held
    rw [hb, hheld, h.now]
    exact (Step.move expiry hlive).advances
  · rw [h.others b hb]
    exact .refl _

/-- Taking a lease disturbs no execution: those it leaves behind had
lapsed. -/
theorem TakenAt.keeps {x o m} (h : TakenAt now a L L' x) (hold : Holds now (leaseAt L b) o m e) :
    Holds now (leaseAt L' b) o m e := by
  by_cases hb : b = a
  · rw [hb] at hold ⊢
    rw [h.now]
    exact (hold.superseded h.free).1
  · rw [h.others b hb]
    exact hold

/-- An execution of the account is behind the one that takes the lease. -/
theorem TakenAt.generation_lt {x o m} (h : TakenAt now a L L' x)
    (hold : Holds now (leaseAt L a) o m e) : m < x.generation :=
  (hold.superseded h.free).2

theorem MovedAt.keeps {o m} (h : MovedAt now a owner g expiry L L')
    (hother : b = a → m = g → owner ≠ o) (hold : Holds now (leaseAt L b) o m e) :
    Holds now (leaseAt L' b) o m e := by
  by_cases hb : b = a
  · obtain ⟨e0, -, hheld⟩ := h.held
    rw [hb, hheld] at hold
    rw [hb, h.now]
    exact hold.moved fun hgen => hother hb hgen.symm
  · rw [h.others b hb]
    exact hold

/-- The execution that moves the expiry counts on the new one. -/
theorem MovedAt.renews {o} (h : MovedAt now a owner g expiry L L')
    (hold : Holds now (leaseAt L a) o g e) : Holds now (leaseAt L' a) o g expiry := by
  obtain ⟨e0, -, hheld⟩ := h.held
  rw [hheld] at hold
  rw [h.now]
  exact hold.renewed rfl

-- ==== jobs

/-- The job runs under the account's lease. -/
def WorkerJob.Exclusive (j : WorkerJob) : Prop :=
  j.status = .running ∧ j.requiresCoordination = true

/-- The job's own lease, and the account's under the job's generation. -/
def JobHolds (t : Time) (L : Table accountExecutionLeases) (j : WorkerJob) : Prop :=
  ∃ a g e, j.accountId = some a ∧ j.accountCoordinationGeneration = some g
    ∧ j.leaseExpiresAt = some e ∧ Holds t (leaseAt L a) (.workerJob, Uuid.str j.id) g e

structure JobsHold (t : Time) (J : Table workerJobs) (L : Table accountExecutionLeases) :
    Prop where
  held : ∀ j, J.get? j.id = some j → j.Exclusive → JobHolds t L j
  distinct : ∀ j₁ j₂, J.get? j₁.id = some j₁ → J.get? j₂.id = some j₂ → j₁.Exclusive →
    j₂.Exclusive → j₁.accountId = j₂.accountId →
    j₁.accountCoordinationGeneration = j₂.accountCoordinationGeneration → j₁.id = j₂.id

theorem JobHolds.taken {x} (h : JobHolds now L j) (htaken : TakenAt now a L L' x) :
    JobHolds now L' j := by
  obtain ⟨b, m, e, hb, hm, he, hold⟩ := h
  exact ⟨b, m, e, hb, hm, he, htaken.keeps hold⟩

/-- Another execution moves the expiry: a Command's, or that of a job of
another account or generation. -/
theorem JobHolds.moved (h : JobHolds now L j) (hmoved : MovedAt now a owner g expiry L L')
    (hother : owner.1 = .workerJob → j.accountId = some a →
      j.accountCoordinationGeneration ≠ some g) : JobHolds now L' j := by
  obtain ⟨b, m, e, hb, hm, he, hold⟩ := h
  refine ⟨b, m, e, hb, hm, he, hmoved.keeps ?_ hold⟩
  rintro rfl rfl rfl
  exact hother rfl hb hm

theorem JobsHold.wait (ht : t ≤ now) (h : JobsHold t J L) : JobsHold now J L := by
  refine ⟨fun j hj hx => ?_, h.distinct⟩
  obtain ⟨a, g, e, ha, hg, he, hold⟩ := h.held j hj hx
  exact ⟨a, g, e, ha, hg, he, hold.wait ht⟩

theorem JobsHold.leases (h : JobsHold t J L)
    (hkept : ∀ j, J.get? j.id = some j → JobHolds t L j → JobHolds t L' j) :
    JobsHold t J L' :=
  ⟨fun j hj hx => hkept j hj (h.held j hj hx), h.distinct⟩

/-- One job and its account's lease are written together. -/
theorem JobsHold.put (h : JobsHold t J L) (hput : Put J j' J')
    (hothers : ∀ j₂, J.get? j₂.id = some j₂ → j₂.id ≠ j'.id → j₂.Exclusive →
      JobHolds t L j₂ → JobHolds t L' j₂)
    (hnew : j'.Exclusive → JobHolds t L' j' ∧ ∀ j₂, J.get? j₂.id = some j₂ → j₂.id ≠ j'.id →
      j₂.Exclusive → j₂.accountId = j'.accountId →
      j₂.accountCoordinationGeneration ≠ j'.accountCoordinationGeneration) :
    JobsHold t J' L' := by
  constructor
  · intro j₂ hj2 hx2
    rcases hput.cases hj2 with ⟨-, rfl⟩ | ⟨hne, hj2⟩
    · exact (hnew hx2).1
    · exact hothers j₂ hj2 hne hx2 (h.held j₂ hj2 hx2)
  · intro j1 j₂ hj1 hj2 hx1 hx2 haccount hgen
    rcases hput.cases hj1 with ⟨-, rfl⟩ | ⟨hne1, hj1⟩
    · rcases hput.cases hj2 with ⟨-, rfl⟩ | ⟨hne2, hj2⟩
      · rfl
      · exact absurd hgen.symm ((hnew hx1).2 j₂ hj2 hne2 hx2 haccount.symm)
    · rcases hput.cases hj2 with ⟨-, rfl⟩ | ⟨-, hj2⟩
      · exact absurd hgen ((hnew hx2).2 j1 hj1 hne1 hx1 haccount)
      · exact h.distinct j1 j₂ hj1 hj2 hx1 hx2 haccount hgen

/-- A job's own move of its account's lease disturbs no other job. -/
theorem JobsHold.others_moved (h : JobsHold now J L) (hj : J.get? j.id = some j)
    (haccount : j.accountId = some a) (hgen : j.accountCoordinationGeneration = some g)
    (hmoved : MovedAt now a owner g expiry L L') (hj2 : J.get? j₂.id = some j₂)
    (hne : j₂.id ≠ j.id) (hx2 : j₂.Exclusive) (hold : JobHolds now L j₂) :
    JobHolds now L' j₂ := by
  refine hold.moved hmoved fun _ haccount2 hgen2 => hne ?_
  have hx : j.Exclusive := WorkerJob.fence_of_check (check_of_get? hj) hgen
  exact h.distinct j₂ j hj2 hj hx2 hx (haccount2.trans haccount.symm) (hgen2.trans hgen.symm)

theorem JobsHold.jobClaimed {att : WorkerJobAttempt} {m : Option Int}
    (h : JobsHold call.now s.jobs s.accountLeases)
    (hclaimed : JobClaimed call s j att w expiry m J A R L) : JobsHold call.now J L := by
  have hsame : j.SameJob (j.claimed w call.now expiry att.leaseToken m) :=
    WorkerJob.sameJob_claimed
  rcases hclaimed.lease with ⟨a, n, haccount, rfl, htaken⟩ | ⟨hshared, rfl⟩
  · have htaken := htaken.takenAt
    refine h.put hclaimed.jobs (fun j₂ _ _ _ hold => hold.taken htaken) fun _ => ⟨?_, ?_⟩
    · refine ⟨a, n, expiry, haccount, rfl, rfl, ?_⟩
      rw [htaken.now]
      exact holds_taken
    · -- every earlier generation of the account is below the new one
      intro j₂ hj2 _ hx2 haccount2 hgen2
      obtain ⟨b, m, e, hb, hm, -, hold⟩ := h.held j₂ hj2 hx2
      have hab : b = a := by
        have hsome := hb.symm.trans (haccount2.trans haccount)
        injection hsome
      subst hab
      have hlt : m < n := htaken.generation_lt hold
      have hmn : m = n := by
        have hsome := hm.symm.trans hgen2
        injection hsome
      omega
  · refine h.put hclaimed.jobs (fun _ _ _ _ hold => hold) fun hx => ?_
    have hcoordinated := hx.2
    rw [hsame.requiresCoordination, hshared] at hcoordinated
    cases hcoordinated

theorem JobsHold.jobTouched {τ : Uuid} (h : JobsHold call.now s.jobs s.accountLeases)
    (htouched : JobTouched call s j j' w τ J L) : JobsHold call.now J L := by
  have hx : j'.Exclusive → j.Exclusive := by
    rintro ⟨hrunning, hcoordinated⟩
    rw [htouched.status] at hrunning
    rw [htouched.same.requiresCoordination] at hcoordinated
    exact ⟨hrunning, hcoordinated⟩
  -- the touched job keeps its account and its generation
  have hdistinct : j'.Exclusive → ∀ j₂, s.jobs.get? j₂.id = some j₂ → j₂.id ≠ j'.id →
      j₂.Exclusive → j₂.accountId = j'.accountId →
      j₂.accountCoordinationGeneration ≠ j'.accountCoordinationGeneration := by
    intro hx' j₂ hj2 hne hx2 haccount hgen
    rw [htouched.same.accountId] at haccount
    rw [htouched.generation] at hgen
    rw [htouched.same.id] at hne
    exact hne (h.distinct j₂ j hj2 htouched.stored hx2 (hx hx') haccount hgen)
  rcases htouched.lease with ⟨hexpiry, rfl⟩ | ⟨expiry, hexpiry, ⟨hshared, rfl⟩ | hmoved⟩
  · refine h.put htouched.jobs (fun _ _ _ _ hold => hold) fun hx' => ⟨?_, hdistinct hx'⟩
    obtain ⟨a, g, e, ha, hg, he, hold⟩ := h.held j htouched.stored (hx hx')
    refine ⟨a, g, e, htouched.same.accountId.trans ha, htouched.generation.trans hg,
      hexpiry.trans he, ?_⟩
    rw [htouched.same.id]
    exact hold
  · refine h.put htouched.jobs (fun _ _ _ _ hold => hold) fun hx' => ?_
    have hcoordinated := (hx hx').2
    rw [hshared] at hcoordinated
    cases hcoordinated
  · obtain ⟨a, g, ha, hg, hmoved⟩ := hmoved
    have hmoved := hmoved.movedAt
    refine h.put htouched.jobs ?_ fun hx' => ⟨?_, hdistinct hx'⟩
    · intro j₂ hj2 hne hx2 hold
      rw [htouched.same.id] at hne
      exact h.others_moved htouched.stored ha hg hmoved hj2 hne hx2 hold
    · obtain ⟨b, m, e, hb, hm, -, hold⟩ := h.held j htouched.stored (hx hx')
      rw [ha] at hb
      rw [hg] at hm
      injection hb with hb
      injection hm with hm
      subst hb hm
      refine ⟨a, g, expiry, htouched.same.accountId.trans ha, htouched.generation.trans hg,
        hexpiry, ?_⟩
      rw [htouched.same.id]
      exact hmoved.renews hold

/-- A job that leaves gives the account's lease back, if it has it. -/
theorem JobsHold.jobMoved {outcome : WorkerJobAttemptStatus}
    (h : JobsHold call.now s.jobs s.accountLeases)
    (hmoved : JobMoved call s0 s j j' outcome J A R C O D L) : JobsHold call.now J L := by
  have hidle : ¬ j'.Exclusive := fun hx => hmoved.leaves.status hx.1
  rcases hmoved.lease with rfl | ⟨a, g, ha, hg, hlease⟩
  · exact h.put hmoved.jobs (fun _ _ _ _ hold => hold) fun hx => absurd hx hidle
  · refine h.put hmoved.jobs ?_ fun hx => absurd hx hidle
    intro j₂ hj2 hne hx2 hold
    rw [hmoved.leaves.id] at hne
    exact h.others_moved hmoved.stored ha hg hlease.movedAt hj2 hne hx2 hold

-- ==== commands

/-- The Command's execution lease, and the account's under the
generation of the claim it was given out with. -/
def CommandHolds (t : Time) (L : Table accountExecutionLeases) (c : Command)
    (κ : ExecutionClaim) : Prop :=
  κ.commandId = c.commandId ∧ ∃ g e, κ.accountCoordinationGeneration = some g
    ∧ c.executionLeaseExpiresAt = some e
    ∧ Holds t (leaseAt L c.accountId) (.command, Uuid.str κ.attemptId) g e

structure CommandsHold (cfg : Settings) (t : Time) (C : Table commands)
    (L : Table accountExecutionLeases) (K : List ExecutionClaim) : Prop where
  issued : ∀ κ ∈ K, ∃ c, C.get? κ.commandId = some c ∧ κ.accountId = c.accountId
    ∧ (κ.accountCoordinationGeneration = none → cfg.exclusive c.commandType = false)
  bounded : ∀ κ ∈ K, ∀ g, κ.accountCoordinationGeneration = some g →
    ∃ x, leaseAt L κ.accountId = some x ∧ g ≤ x.generation
  distinct : ∀ κ₁ ∈ K, ∀ κ₂ ∈ K, ∀ g, κ₁.accountCoordinationGeneration = some g →
    κ₂.accountCoordinationGeneration = some g → κ₁.accountId = κ₂.accountId → κ₁ = κ₂
  held : ∀ c, C.get? c.commandId = some c → c.status = .processing →
    cfg.exclusive c.commandType = true → ∃ κ ∈ K, CommandHolds t L c κ

theorem CommandHolds.taken {x} (h : CommandHolds now L c κ) (htaken : TakenAt now a L L' x) :
    CommandHolds now L' c κ := by
  obtain ⟨hid, g, e, hg, he, hold⟩ := h
  exact ⟨hid, g, e, hg, he, htaken.keeps hold⟩

/-- Another execution moves the expiry: a job's, or that of a claim of
another account or generation. -/
theorem CommandHolds.moved (h : CommandHolds now L c κ) (hmoved : MovedAt now a owner g expiry L L')
    (hother : owner.1 = .command → c.accountId = a →
      κ.accountCoordinationGeneration ≠ some g) : CommandHolds now L' c κ := by
  obtain ⟨hid, m, e, hm, he, hold⟩ := h
  refine ⟨hid, m, e, hm, he, hmoved.keeps ?_ hold⟩
  rintro haccount rfl rfl
  exact hother rfl haccount hm

theorem CommandsHold.wait (ht : t ≤ now) (h : CommandsHold cfg t C L K) :
    CommandsHold cfg now C L K := by
  refine ⟨h.issued, h.bounded, h.distinct, fun c hc hp hx => ?_⟩
  obtain ⟨κ, hκ, hid, g, e, hg, he, hold⟩ := h.held c hc hp hx
  exact ⟨κ, hκ, hid, g, e, hg, he, hold.wait ht⟩

theorem CommandsHold.bounded_of_advances (h : CommandsHold cfg t C L K)
    (hadvances : ∀ b, Advances (leaseAt L b) (leaseAt L' b)) (hκ : κ ∈ K)
    (hg : κ.accountCoordinationGeneration = some g) :
    ∃ x, leaseAt L' κ.accountId = some x ∧ g ≤ x.generation := by
  obtain ⟨x, hx, hle⟩ := h.bounded κ hκ g hg
  obtain ⟨x', hx', hadv⟩ := hadvances κ.accountId x hx
  refine ⟨x', hx', ?_⟩
  rcases hadv with hlt | ⟨heq, -⟩ <;> omega

theorem CommandsHold.leases (h : CommandsHold cfg t C L K)
    (hadvances : ∀ b, Advances (leaseAt L b) (leaseAt L' b))
    (hkept : ∀ c κ, κ ∈ K → CommandHolds t L c κ → CommandHolds t L' c κ) :
    CommandsHold cfg t C L' K := by
  refine ⟨h.issued, fun κ hκ g hg => h.bounded_of_advances hadvances hκ hg, h.distinct, ?_⟩
  intro c hc hp hx
  obtain ⟨κ, hκ, hold⟩ := h.held c hc hp hx
  exact ⟨κ, hκ, hkept c κ hκ hold⟩

/-- A Command is written and keeps its type and account. -/
theorem CommandsHold.issued_put (h : CommandsHold cfg t C L K) (hc : C.get? c.commandId = some c)
    (hsame : c.SameCommand c') (hput : Put C c' C') (hκ : κ ∈ K) :
    ∃ c, C'.get? κ.commandId = some c ∧ κ.accountId = c.accountId
      ∧ (κ.accountCoordinationGeneration = none → cfg.exclusive c.commandType = false) := by
  obtain ⟨c2, hc2, haccount, hshared⟩ := h.issued κ hκ
  have hkey : commands.key c' = c.commandId := hsame.commandId
  by_cases hid : κ.commandId = c.commandId
  · rw [hid, hc] at hc2
    cases hc2
    refine ⟨c', ?_, haccount.trans hsame.accountId.symm, ?_⟩
    · rw [hid, ← hkey]
      exact hput.get?_self
    · rw [hsame.commandType]
      exact hshared
  · refine ⟨c2, ?_, haccount, hshared⟩
    rw [hput.get?_ne (hkey ▸ hid)]
    exact hc2

/-- One Command and its account's lease are written together. -/
theorem CommandsHold.put (h : CommandsHold cfg t C L K) (hc : C.get? c.commandId = some c)
    (hsame : c.SameCommand c') (hput : Put C c' C')
    (hadvances : ∀ b, Advances (leaseAt L b) (leaseAt L' b))
    (hothers : ∀ c2 κ2, C.get? c2.commandId = some c2 → c2.commandId ≠ c.commandId → κ2 ∈ K →
      CommandHolds t L c2 κ2 → CommandHolds t L' c2 κ2)
    (hself : c'.status = .processing → cfg.exclusive c'.commandType = true →
      ∃ κ ∈ K, CommandHolds t L' c' κ) : CommandsHold cfg t C' L' K := by
  refine ⟨fun κ hκ => h.issued_put hc hsame hput hκ,
    fun κ hκ g hg => h.bounded_of_advances hadvances hκ hg, h.distinct, ?_⟩
  intro c2 hc2 hp hx
  rcases hput.cases hc2 with ⟨-, rfl⟩ | ⟨hne, hc2⟩
  · exact hself hp hx
  · have hne : c2.commandId ≠ c.commandId := by
      rw [← hsame.commandId]
      exact hne
    obtain ⟨κ, hκ, hold⟩ := h.held c2 hc2 hp hx
    exact ⟨κ, hκ, hothers c2 κ hc2 hne hκ hold⟩

/-- An executor's own move of its account's lease disturbs no other
Command: no two claims of an account share a generation. -/
theorem CommandsHold.others_moved {c2 : Command} {κ2 : ExecutionClaim}
    (h : CommandsHold cfg now C L K) (hκ : κ ∈ K)
    (hg : κ.accountCoordinationGeneration = some g)
    (hmoved : MovedAt now κ.accountId owner g expiry L L')
    (hc2 : C.get? c2.commandId = some c2) (hne : c2.commandId ≠ κ.commandId) (hκ₂ : κ2 ∈ K)
    (hold : CommandHolds now L c2 κ2) : CommandHolds now L' c2 κ2 := by
  refine hold.moved hmoved fun _ haccount hg2 => hne ?_
  obtain ⟨c3, hc3, haccount3, -⟩ := h.issued κ2 hκ₂
  rw [hold.1, hc2] at hc3
  injection hc3 with hc3
  rw [← hc3] at haccount3
  have hsame : κ2 = κ := h.distinct κ2 hκ₂ κ hκ g hg2 hg (haccount3.trans haccount)
  rw [← hsame]
  exact hold.1.symm

theorem CommandsHold.commandAdded (h : CommandsHold cfg t s.commands L K)
    (hadd : CommandAdded call s c C O D) : CommandsHold cfg t C L K := by
  refine ⟨?_, h.bounded, h.distinct, ?_⟩
  · intro κ hκ
    obtain ⟨c2, hc2, hrest⟩ := h.issued κ hκ
    exact ⟨c2, hadd.put.get?_of_fresh hadd.fresh hc2, hrest⟩
  · intro c2 hc2 hp hx
    rcases hadd.put.cases hc2 with ⟨-, rfl⟩ | ⟨-, hc2⟩
    · rcases hadd.status with hs | hs | hs <;> rw [hs] at hp <;> cases hp
    · exact h.held c2 hc2 hp hx

section

variable (h : CommandsHold cfg call.now s.commands s.accountLeases s.claims)

include h

theorem CommandsHold.commandMoved (hmoved : CommandMoved cfg call s c c' CA C O D L) :
    CommandsHold cfg call.now C L s.claims := by
  rcases hmoved.lease with rfl | ⟨κ, hκ, hid, g, hg, hlease⟩
  · exact h.put hmoved.put.stored hmoved.put.same hmoved.put.put (fun _ => .refl _)
      (fun _ _ _ _ _ hold => hold) fun hp => absurd hp hmoved.status
  · have hlease := hlease.movedAt
    refine h.put hmoved.put.stored hmoved.put.same hmoved.put.put hlease.advances ?_
      fun hp => absurd hp hmoved.status
    intro c2 κ2 hc2 hne hκ₂ hold
    rw [← hid] at hne
    exact h.others_moved hκ hg hlease hc2 hne hκ₂ hold

theorem CommandsHold.commandTouched (htouched : CommandTouched call s c c' κ C L) :
    CommandsHold cfg call.now C L s.claims := by
  have hsame := htouched.put.same
  obtain ⟨c0, hc0, haccount, hshared⟩ := h.issued κ htouched.claim
  rw [htouched.commandId, htouched.put.stored] at hc0
  cases hc0
  rcases htouched.lease with ⟨hexpiry, rfl⟩ | ⟨expiry, hexpiry, ⟨hnone, rfl⟩ | ⟨g, hg, hlease⟩⟩
  · -- a checkpoint
    refine h.put htouched.put.stored hsame htouched.put.put (fun _ => .refl _)
      (fun _ _ _ _ _ hold => hold) fun _ hx => ?_
    rw [hsame.commandType] at hx
    obtain ⟨κ2, hκ₂, hid, m, e, hm, he, hold⟩ :=
      h.held c htouched.put.stored htouched.processing hx
    refine ⟨κ2, hκ₂, hid.trans hsame.commandId.symm, m, e, hm, hexpiry.trans he, ?_⟩
    rw [hsame.accountId]
    exact hold
  · -- a renewal without the account's lease
    refine h.put htouched.put.stored hsame htouched.put.put (fun _ => .refl _)
      (fun _ _ _ _ _ hold => hold) fun _ hx => ?_
    rw [hsame.commandType, hshared hnone] at hx
    cases hx
  · have hlease := hlease.movedAt
    refine h.put htouched.put.stored hsame htouched.put.put hlease.advances ?_ fun _ hx => ?_
    · intro c2 κ2 hc2 hne hκ₂ hold
      rw [← htouched.commandId] at hne
      exact h.others_moved htouched.claim hg hlease hc2 hne hκ₂ hold
    · rw [hsame.commandType] at hx
      obtain ⟨κ2, hκ₂, hid, m, e, hm, he, hold⟩ :=
        h.held c htouched.put.stored htouched.processing hx
      -- the Command is live, so the account's lease is its own
      obtain ⟨e1, he1, hlive⟩ := htouched.live
      rw [he] at he1
      cases he1
      obtain ⟨e2, -, hheld⟩ := hlease.held
      have hcurrent := hold.current hlive
      rw [← haccount, hheld] at hcurrent
      injection hcurrent with hcurrent
      injection hcurrent with _ hgen _
      subst hgen
      refine ⟨κ2, hκ₂, hid.trans hsame.commandId.symm, g, expiry, hm, hexpiry, ?_⟩
      rw [hsame.accountId, ← haccount]
      rw [← haccount] at hold
      exact hlease.renews hold

/-- A new claim, of a generation no other claim of its account has. -/
theorem CommandsHold.commandClaimed {a : CommandAttempt} {RD : Table commandRouteDecisions}
    (hclaimed : CommandClaimed cfg call s0 s c c' κ a expiry CA RD C L) :
    CommandsHold cfg call.now C L (κ :: s.claims) := by
  have hsame := hclaimed.put.same
  have hstored : C.get? κ.commandId = some c' := by
    have hkey : commands.key c' = κ.commandId := hsame.commandId.trans hclaimed.commandId.symm
    rw [← hkey]
    exact hclaimed.put.put.get?_self
  -- what the account's lease does, and what the claim says of it
  obtain ⟨hadvances, hkept, hbound, hfresh, hshared, hholds⟩ :
      (∀ b, Advances (leaseAt s.accountLeases b) (leaseAt L b))
      ∧ (∀ c2 κ2, CommandHolds call.now s.accountLeases c2 κ2 → CommandHolds call.now L c2 κ2)
      ∧ (∀ g, κ.accountCoordinationGeneration = some g →
        ∃ x, leaseAt L κ.accountId = some x ∧ g ≤ x.generation)
      ∧ (∀ κ2 ∈ s.claims, κ2.accountId = κ.accountId → ∀ g,
        κ.accountCoordinationGeneration = some g → κ2.accountCoordinationGeneration ≠ some g)
      ∧ (κ.accountCoordinationGeneration = none → cfg.exclusive c.commandType = false)
      ∧ (cfg.exclusive c.commandType = true → CommandHolds call.now L c' κ) := by
    rcases hclaimed.lease with ⟨-, n, hn, htaken⟩ | ⟨hshared, hnone, rfl⟩
    · have htaken := htaken.takenAt
      refine ⟨htaken.advances, fun _ _ hold => hold.taken htaken, ?_, ?_, ?_, fun _ => ?_⟩
      · intro g hg
        rw [hn] at hg
        injection hg with hg
        refine ⟨_, by rw [hclaimed.accountId]; exact htaken.now, ?_⟩
        show g ≤ n
        omega
      · intro κ2 hκ₂ haccount g hg hg2
        obtain ⟨x, hx, hle⟩ := h.bounded κ2 hκ₂ g hg2
        rw [haccount, hclaimed.accountId] at hx
        have hlt : x.generation < n := (htaken.free x hx).2
        rw [hn] at hg
        injection hg with hg
        omega
      · intro hnone
        rw [hn] at hnone
        cases hnone
      · refine ⟨hclaimed.commandId.trans hsame.commandId.symm, n, expiry, hn,
          hclaimed.leaseExpiresAt, ?_⟩
        rw [hsame.accountId, htaken.now]
        exact holds_taken
    · refine ⟨fun _ => .refl _, fun _ _ hold => hold, ?_, ?_, fun _ => hshared, ?_⟩
      · intro g hg
        rw [hnone] at hg
        cases hg
      · intro κ2 _ _ g hg
        rw [hnone] at hg
        cases hg
      · intro hx
        rw [hshared] at hx
        cases hx
  constructor
  · intro κ2 hκ₂
    rcases List.mem_cons.mp hκ₂ with rfl | hκ₂
    · refine ⟨c', hstored, hclaimed.accountId.trans hsame.accountId.symm, ?_⟩
      rw [hsame.commandType]
      exact hshared
    · exact h.issued_put hclaimed.put.stored hsame hclaimed.put.put hκ₂
  · intro κ2 hκ₂ g hg
    rcases List.mem_cons.mp hκ₂ with rfl | hκ₂
    · exact hbound g hg
    · exact h.bounded_of_advances hadvances hκ₂ hg
  · intro κ1 hκ₁ κ2 hκ₂ g hg1 hg2 haccount
    rcases List.mem_cons.mp hκ₁ with rfl | hold1
    · rcases List.mem_cons.mp hκ₂ with rfl | hold2
      · rfl
      · exact absurd hg2 (hfresh κ2 hold2 haccount.symm g hg1)
    · rcases List.mem_cons.mp hκ₂ with rfl | hold2
      · exact absurd hg1 (hfresh κ1 hold1 haccount g hg2)
      · exact h.distinct κ1 hold1 κ2 hold2 g hg1 hg2 haccount
  · intro c2 hc2 hp hx
    rcases hclaimed.put.put.cases hc2 with ⟨-, rfl⟩ | ⟨-, hc2⟩
    · rw [hsame.commandType] at hx
      exact ⟨κ, .head _, hholds hx⟩
    · obtain ⟨κ2, hκ₂, hold⟩ := h.held c2 hc2 hp hx
      exact ⟨κ2, .tail _ hκ₂, hkept c2 κ2 hold⟩

theorem CommandsHold.jobLease
    (hlease : L = s.accountLeases ∨ ∃ a id g expiry,
      MovedAt call.now a (.workerJob, id) g expiry s.accountLeases L) :
    CommandsHold cfg call.now s.commands L s.claims := by
  rcases hlease with rfl | ⟨a, id, g, expiry, hmoved⟩
  · exact h
  · refine h.leases hmoved.advances fun c κ _ hold => hold.moved hmoved fun hcommand => ?_
    cases hcommand

end

theorem CommandsHold.follows {status : WorkerJobStatus} (h : CommandsHold cfg now s.commands L K)
    (hfollows : CommandFollows s j status C O D) : CommandsHold cfg now C L K := by
  rcases hfollows with ⟨-, rfl, -, -⟩ | ⟨c, -, -, -, ⟨-, rfl, -, -⟩ | ⟨c', hput, hstatus⟩⟩
  · exact h
  · exact h
  · refine h.put hput.stored hput.same hput.put (fun _ => .refl _)
      (fun _ _ _ _ _ hold => hold) fun hp => ?_
    rw [hstatus] at hp
    cases status <;> cases hp

-- ==== every effect

/-- Jobs, Commands and the accounts' leases agree on who executes. -/
structure ExecutionsHold (cfg : Settings) (t : Time) (s : State) : Prop where
  jobs : JobsHold t s.jobs s.accountLeases
  commands : CommandsHold cfg t s.commands s.accountLeases s.claims

open CommandsHold

theorem ExecutionsHold.effect (h : ExecutionsHold cfg call.now s)
    (he : Effect cfg call s0 s s') : ExecutionsHold cfg call.now s' := by
  cases he with
  | aside | decided _ | requestsSettled _ | requestAdded _ | preemptionsSettled _
  | preemptionAdded _ =>
    exact ⟨h.jobs, h.commands⟩
  | jobAdded hadd =>
    refine ⟨h.jobs.put hadd.put (fun _ _ _ _ hold => hold) fun hx => ?_, h.commands⟩
    have hrunning := hx.1
    rw [hadd.queued] at hrunning
    cases hrunning
  | jobClaimed hclaimed =>
    refine ⟨JobsHold.jobClaimed h.jobs hclaimed, ?_⟩
    rcases hclaimed.lease with ⟨a, n, -, -, htaken⟩ | ⟨-, rfl⟩
    · have htaken := htaken.takenAt
      exact h.commands.leases htaken.advances fun c κ _ hold => hold.taken htaken
    · exact h.commands
  | leaseBumped hbumped =>
    obtain ⟨x, htaken⟩ := hbumped.takenAt
    exact ⟨h.jobs.leases fun j _ hold => hold.taken htaken,
      h.commands.leases htaken.advances fun c κ _ hold => hold.taken htaken⟩
  | jobTouched htouched =>
    refine ⟨JobsHold.jobTouched (s := s) h.jobs htouched, jobLease (s := s) h.commands ?_⟩
    rcases htouched.lease with ⟨-, rfl⟩ | ⟨expiry, -, ⟨-, rfl⟩ | ⟨a, g, -, -, hmoved⟩⟩
    · exact .inl rfl
    · exact .inl rfl
    · exact .inr ⟨a, _, g, expiry, hmoved.movedAt⟩
  | jobMoved hmoved =>
    have hcommands := jobLease (s := s) h.commands
      (hmoved.lease.imp id fun ⟨a, g, _, _, hlease⟩ => ⟨a, _, g, _, hlease.movedAt⟩)
    exact ⟨JobsHold.jobMoved h.jobs hmoved, follows hcommands hmoved.command⟩
  | commandAdded hadd =>
    exact ⟨h.jobs, commandAdded h.commands hadd⟩
  | commandMoved hmoved =>
    refine ⟨?_, commandMoved (s := s) h.commands hmoved⟩
    rcases hmoved.lease with rfl | ⟨κ, -, -, g, -, hlease⟩
    · exact h.jobs
    · exact h.jobs.leases fun j _ hold => hold.moved hlease.movedAt (fun hjob => by cases hjob)
  | commandClaimed hclaimed =>
    refine ⟨?_, commandClaimed h.commands hclaimed⟩
    rcases hclaimed.lease with ⟨-, n, -, htaken⟩ | ⟨-, -, rfl⟩
    · exact h.jobs.leases fun j _ hold => hold.taken htaken.takenAt
    · exact h.jobs
  | commandTouched htouched =>
    refine ⟨?_, commandTouched (s := s) h.commands htouched⟩
    rcases htouched.lease with ⟨-, rfl⟩ | ⟨expiry, -, ⟨-, rfl⟩ | ⟨g, -, hlease⟩⟩
    · exact h.jobs
    · exact h.jobs
    · exact h.jobs.leases fun j _ hold => hold.moved hlease.movedAt (fun hjob => by cases hjob)

theorem ExecutionsHold.reachableAt (h : ReachableAt cfg t s) : ExecutionsHold cfg t s := by
  refine h.of_effects ?_ ?_ fun _ _ _ _ hu he => hu.effect he
  · intro t W
    constructor <;> constructor <;> simp [State.initial]
  · intro t t' s ht hs
    exact ⟨hs.jobs.wait ht, hs.commands.wait ht⟩

end ThreadsPlatform
