/-
No blind replay of ambiguous work.

A job whose outcome may be unknown (RECONCILIATION_REQUIRED) is not
claimed twice on its own: between two attempts an operator confirms that
it is safe. `retry_authorized_by_operator` carries that confirmation to
the next claim, which clears it.

# The flag and the past

The flag is a column; the confirmation is an event. `Replayable` says
that every job an attempt would repeat carries the flag, and that a
running job never does. `Authorized` reads the event off the run: a
requeue some calls ago, after the attempt it follows had ended, and
since then nobody has claimed the job.

One call is compared with the state it starts from (`Repeating`), effect
by effect; the past grows by one call at a time.
-/
import ThreadsPlatform.Proofs.Attempts

namespace ThreadsPlatform

open Relational Table

variable {cfg : Settings} {call : Call} {s s' s₀ : State} {j j' j₀ : WorkerJob}
  {a : WorkerJobAttempt} {past : List (State × Call)} {g : Option Int}
  {L : Table accountExecutionLeases} {A : Table workerJobAttempts}
  {R : Table workerJobCancelRequests} {J J' : Table workerJobs} {expiry : Time} {jobId w τ : Uuid}

-- ==== the jobs

/-- The job waits for an attempt that repeats ambiguous work. -/
def WorkerJob.Repeats (j : WorkerJob) : Prop :=
  (j.status = .queued ∨ j.status = .failedRetryable) ∧ 0 < j.attemptCount
    ∧ j.retrySafety = .reconciliationRequired

/-- Such a job carries the operator's authorization; a running one has
used it up. -/
structure WorkerJob.Replayable (j : WorkerJob) : Prop where
  marked : j.Repeats → j.retryAuthorizedByOperator = true
  consumed : j.status = .running → j.retryAuthorizedByOperator = false

-- ==== one call

/-- What one call, made in `s₀`, has done to a job so far. -/
structure Traced (call : Call) (s₀ : State) (j : WorkerJob) : Prop extends j.Replayable where
  since : j.Repeats → ∃ j₀, s₀.jobs.get? j.id = some j₀ ∧ j₀.attemptCount = j.attemptCount
    ∧ (j₀.Repeats ∨ Requeues call s₀ j₀)
  ambiguous : ∀ j₀, s₀.jobs.get? j.id = some j₀ → j₀.retrySafety = .reconciliationRequired →
    j.retrySafety = .reconciliationRequired
  counted : ∀ j₀, s₀.jobs.get? j.id = some j₀ → j₀.attemptCount ≤ j.attemptCount

/-- Only a claim opens an attempt, and of ambiguous work only the first
one or one that repeats. -/
structure Opened (call : Call) (s₀ : State) (a : WorkerJobAttempt) : Prop where
  op : ∃ w, call.op = .claimNext w
  later : ∀ j₀, s₀.jobs.get? a.workerJobId = some j₀ → j₀.attemptCount < a.attemptNumber
  replay : ∀ j₀, s₀.jobs.get? a.workerJobId = some j₀ →
    j₀.retrySafety = .reconciliationRequired → a.attemptNumber = 1 ∨ j₀.Repeats

/-- The attempt is an old one of the same job, or the call opened it. -/
def Known (call : Call) (s₀ : State) (a : WorkerJobAttempt) : Prop :=
  (∃ a₀, s₀.attempts.get? a.id = some a₀ ∧ a₀.workerJobId = a.workerJobId) ∨ Opened call s₀ a

/-- The state in the middle of a call, compared with its start. -/
structure Repeating (call : Call) (s₀ s : State) : Prop where
  agree : AttemptsAgree s.jobs s.attempts
  kept : ∀ k, s.jobs.get? k = none → s₀.jobs.get? k = none
  jobs : ∀ j, s.jobs.get? j.id = some j → Traced call s₀ j
  attempts : ∀ a, s.attempts.get? a.id = some a → Known call s₀ a

theorem Repeating.start (hagree : AttemptsAgree s.jobs s.attempts)
    (h : ∀ j, s.jobs.get? j.id = some j → j.Replayable) : Repeating call s s := by
  refine ⟨hagree, fun _ hk => hk, ?_, ?_⟩
  · intro j hj
    refine ⟨h j hj, fun hrepeats => ⟨j, hj, rfl, .inl hrepeats⟩, ?_, ?_⟩
    · intro j₀ hj0 hambiguous
      rw [hj] at hj0
      injection hj0 with hj0
      rw [hj0]
      exact hambiguous
    · intro j₀ hj0
      rw [hj] at hj0
      injection hj0 with hj0
      exact Int.le_of_eq (congrArg WorkerJob.attemptCount hj0.symm)
  · intro a ha
    exact .inl ⟨a, ha, rfl⟩

theorem kept_put {J0 : Table workerJobs} (h : ∀ k, J.get? k = none → J0.get? k = none)
    (hput : Put J j J') : ∀ k, J'.get? k = none → J0.get? k = none := by
  intro k hk
  by_cases hkey : k = workerJobs.key j
  · rw [hkey, hput.get?_self] at hk
    cases hk
  · rw [hput.get?_ne hkey] at hk
    exact h k hk

theorem traced_put (h : ∀ j, J.get? j.id = some j → Traced call s₀ j) (hput : Put J j' J')
    (hnew : Traced call s₀ j') : ∀ j, J'.get? j.id = some j → Traced call s₀ j := by
  intro j hj
  rcases hput.cases hj with ⟨-, rfl⟩ | ⟨-, hold⟩
  · exact hnew
  · exact h j hold

theorem known_quiesced {A' : Table workerJobAttempts}
    (h : ∀ a, A.get? a.id = some a → Known call s₀ a) (hquiet : Quiesced jobId A A') :
    ∀ a, A'.get? a.id = some a → Known call s₀ a := by
  intro a ha
  obtain ⟨a0, ha0, hends⟩ := hquiet.evolves.backward ha
  rw [hends.id] at ha0
  unfold Known
  rw [hends.id, hends.workerJobId]
  rcases h a0 ha0 with hkept | ⟨hop, hlater, hreplay⟩
  · exact .inl hkept
  · rw [← hends.workerJobId, ← hends.attemptNumber] at hlater hreplay
    exact .inr ⟨hop, hlater, hreplay⟩

theorem Traced.added {RD : Table commandRouteDecisions} (hadd : JobAdded call s₀ s j J RD)
    (hnew : s₀.jobs.get? j.id = none) : Traced call s₀ j := by
  have hidle : ¬ j.Repeats := by
    rintro ⟨-, hcount, -⟩
    rw [hadd.attemptCount] at hcount
    omega
  refine ⟨⟨fun hr => absurd hr hidle, ?_⟩, fun hr => absurd hr hidle, ?_, ?_⟩
  · intro hrunning
    rw [hadd.queued] at hrunning
    cases hrunning
  · intro j₀ hj0
    rw [hnew] at hj0
    cases hj0
  · intro j₀ hj0
    rw [hnew] at hj0
    cases hj0

/-- A job that keeps its status, its attempts and its safety. -/
theorem Traced.touched (h : Traced call s₀ j) (htouched : JobTouched call s j j' w τ J L) :
    Traced call s₀ j' := by
  have hrepeats : j'.Repeats → j.Repeats := by
    rintro ⟨hstatus, hcount, hambiguous⟩
    rw [htouched.status] at hstatus
    rw [htouched.attemptCount] at hcount
    rw [htouched.retrySafety] at hambiguous
    exact ⟨hstatus, hcount, hambiguous⟩
  refine ⟨⟨fun hr => htouched.authorized.trans (h.marked (hrepeats hr)), ?_⟩, ?_, ?_, ?_⟩
  · intro hrunning
    rw [htouched.status] at hrunning
    exact htouched.authorized.trans (h.consumed hrunning)
  · intro hr
    rw [htouched.same.id, htouched.attemptCount]
    exact h.since (hrepeats hr)
  · rw [htouched.same.id, htouched.retrySafety]
    exact h.ambiguous
  · rw [htouched.same.id, htouched.attemptCount]
    exact h.counted

theorem Traced.claimed {now : Time} (h : Traced call s₀ j) :
    Traced call s₀ (j.claimed w now expiry τ g) := by
  have hidle : ¬ (j.claimed w now expiry τ g).Repeats := by
    rintro ⟨hstatus | hstatus, -⟩ <;> cases hstatus
  refine ⟨⟨fun hr => absurd hr hidle, fun _ => rfl⟩, fun hr => absurd hr hidle, h.ambiguous, ?_⟩
  intro j₀ hj0
  have hle : j₀.attemptCount ≤ j.attemptCount := h.counted j₀ hj0
  show j₀.attemptCount ≤ j.attemptCount + 1
  omega

/-- What the claim of a job says of the state the call started in. -/
theorem Traced.opened (h : Traced call s₀ j) (hclaimed : JobClaimed call s j a w expiry g J A R L) :
    Opened call s₀ a := by
  have hnumber := hclaimed.attemptNumber
  refine ⟨⟨w, hclaimed.op⟩, ?_, ?_⟩ <;> rw [hclaimed.workerJobId] <;> intro j₀ hj0
  · have hle := h.counted j₀ hj0
    omega
  · intro hambiguous0
    have hambiguous := h.ambiguous j₀ hj0 hambiguous0
    have hnonneg := (WorkerJob.attemptCount_of_check (check_of_get? hclaimed.stored)).1
    by_cases hcount : 0 < j.attemptCount
    · right
      have hwaits : j.status = .queued ∨ j.status = .failedRetryable := by
        rcases hclaimed.claimable.status with hqueued | hretryable | hrunning
        · exact .inl hqueued
        · exact .inr hretryable
        · -- `claim` refuses a lapsed job that carries no authorization
          rcases hclaimed.claimable.reconciled hrunning with hsafe | hmarked
          · rw [hambiguous] at hsafe
            cases hsafe
          · rw [h.consumed hrunning] at hmarked
            cases hmarked
      obtain ⟨j1, hj1, -, hrepeats1 | hrequeues⟩ := h.since ⟨hwaits, hcount, hambiguous⟩
      · rw [hj0] at hj1
        injection hj1 with hj1
        rw [hj1]
        exact hrepeats1
      · obtain ⟨-, -, i, by', iv, hop, -⟩ := hrequeues
        rw [hclaimed.op] at hop
        cases hop
    · left
      omega

/-- A job that leaves waits for no repetition, or the call requeues it. -/
theorem Traced.moved {outcome : WorkerJobAttemptStatus} {C : Table commands}
    {O : Table outboxEvents} {D : Table integrationDeliveries} (h : Traced call s₀ j)
    (hmoved : JobMoved call s₀ s j j' outcome J A R C O D L) : Traced call s₀ j' := by
  have hreplayed : j'.Repeats → j'.retryAuthorizedByOperator = true ∧ Requeues call s₀ j := by
    rintro ⟨hstatus, -, hambiguous⟩
    rcases hmoved.replayed hstatus with hsafe | hrequeued
    · rw [hsafe] at hambiguous
      cases hambiguous
    · exact hrequeued
  refine ⟨⟨fun hr => (hreplayed hr).1, fun hr => absurd hr hmoved.leaves.status⟩, ?_, ?_, ?_⟩
  · intro hr
    obtain ⟨-, hrequeues⟩ := hreplayed hr
    rw [hmoved.leaves.id, hmoved.leaves.attemptCount]
    exact ⟨j, hrequeues.1, rfl, .inr hrequeues⟩
  · rw [hmoved.leaves.id]
    exact fun j₀ hj0 hambiguous => hmoved.ambiguous (h.ambiguous j₀ hj0 hambiguous)
  · rw [hmoved.leaves.id, hmoved.leaves.attemptCount]
    exact h.counted

theorem Repeating.effect (h : Repeating call s₀ s) (he : Effect cfg call s₀ s s') :
    Repeating call s₀ s' := by
  have hagree := h.agree.effect he
  cases he with
  | jobAdded hadd =>
    refine ⟨hagree, kept_put h.kept hadd.put, traced_put h.jobs hadd.put ?_, h.attempts⟩
    exact .added hadd (h.kept _ hadd.fresh)
  | jobClaimed hclaimed =>
    have htraced := h.jobs _ hclaimed.stored
    obtain ⟨A1, hquiet, hfresh, hput⟩ := hclaimed.quiesced h.agree
    refine ⟨hagree, kept_put h.kept hclaimed.jobs,
      traced_put h.jobs hclaimed.jobs htraced.claimed, ?_⟩
    intro a2 ha2
    rcases hput.cases ha2 with ⟨-, rfl⟩ | ⟨-, hold⟩
    · exact .inr (htraced.opened hclaimed)
    · exact known_quiesced h.attempts hquiet a2 hold
  | jobTouched htouched =>
    exact ⟨hagree, kept_put h.kept htouched.jobs,
      traced_put h.jobs htouched.jobs ((h.jobs _ htouched.stored).touched htouched), h.attempts⟩
  | jobMoved hmoved =>
    exact ⟨hagree, kept_put h.kept hmoved.jobs,
      traced_put h.jobs hmoved.jobs ((h.jobs _ hmoved.stored).moved hmoved),
      known_quiesced h.attempts (hmoved.quiesced h.agree)⟩
  | _ => exact ⟨hagree, h.kept, h.jobs, h.attempts⟩

/-- The state after a call, compared with the state before it. -/
theorem Repeating.step (hen : (machine cfg).enabled s call)
    (hagree : AttemptsAgree s.jobs s.attempts)
    (h : ∀ j, s.jobs.get? j.id = some j → j.Replayable) :
    Repeating call s ((machine cfg).step s call) :=
  step_of_effects (fun _ _ ht he => ht.effect he) hen (.start hagree h)
-- ==== the past

/-- A committed call of the past requeued the job; every attempt the job
has had by now had ended by then. -/
def Authorized (cfg : Settings) (past : List (State × Call)) (s : State) (jobId : Uuid) : Prop :=
  ∃ s₁ call₁ j₁ s₂, (s₁, call₁) ∈ past ∧ j₁.id = jobId ∧ Requeues call₁ s₁ j₁
    ∧ call₁.outcome cfg s₁ = .ok s₂
    ∧ ∀ a ∈ s.attempts.rows, a.workerJobId = jobId →
      ∃ a₁, s₁.attempts.get? a.id = some a₁ ∧ a₁.status ≠ .running

/-- A job about to repeat was authorized after its last attempt. -/
structure Careful (cfg : Settings) (past : List (State × Call)) (s : State) : Prop where
  agree : AttemptsAgree s.jobs s.attempts
  replayable : ∀ j, s.jobs.get? j.id = some j → j.Replayable
  authorized : ∀ j, s.jobs.get? j.id = some j → j.Repeats → Authorized cfg past s j.id

theorem Requeues.committed (hrequeues : Requeues call s j₀) (hid : j.id = j₀.id)
    (hj : ((machine cfg).step s call).jobs.get? j.id = some j)
    (hmoved : j.status ≠ .waitingIntervention) : ∃ s', call.outcome cfg s = .ok s' := by
  obtain ⟨hj0, hstatus, -⟩ := hrequeues
  change (commit (call.outcome cfg s) s).jobs.get? j.id = some j at hj
  cases hout : call.outcome cfg s with
  | ok s' => exact ⟨s', rfl⟩
  | error e =>
    rw [hout, commit_error, hid, hj0] at hj
    injection hj with hj
    rw [hj] at hstatus
    exact absurd hstatus hmoved

/-- Of a job that counts no more attempts than before, no attempt is
new. -/
theorem Repeating.old (h : Repeating call s₀ s) (hj : s.jobs.get? j.id = some j)
    (hj0 : s₀.jobs.get? j.id = some j₀) (hcount : j₀.attemptCount = j.attemptCount)
    (ha : s.attempts.get? a.id = some a) (hjob : a.workerJobId = j.id) :
    ∃ a0, s₀.attempts.get? a.id = some a0 ∧ a0.workerJobId = j.id := by
  rcases h.attempts a ha with ⟨a0, ha0, hjob0⟩ | hopened
  · exact ⟨a0, ha0, hjob0.trans hjob⟩
  · obtain ⟨j1, hj1, -, hle⟩ := h.agree.counted a ha
    rw [hjob, hj] at hj1
    cases hj1
    have hlt := hopened.later j₀ (hjob ▸ hj0)
    omega

theorem Careful.step (h : Careful cfg past s) (hen : (machine cfg).enabled s call) :
    Careful cfg ((s, call) :: past) ((machine cfg).step s call) := by
  have hcall : Repeating call s ((machine cfg).step s call) :=
    .step hen h.agree h.replayable
  refine ⟨hcall.agree, fun j hj => (hcall.jobs j hj).toReplayable, ?_⟩
  intro j hj hrepeats
  obtain ⟨j₀, hj0, hcount, hcase⟩ := (hcall.jobs j hj).since hrepeats
  have hid : j₀.id = j.id := key_of_get? hj0
  have hold : ∀ a ∈ ((machine cfg).step s call).attempts.rows, a.workerJobId = j.id →
      ∃ a0, s.attempts.get? a.id = some a0 ∧ a0.workerJobId = j.id :=
    fun a ha hjob => hcall.old hj hj0 hcount (mem_rows_iff.mp ha) hjob
  rw [← hid] at hj0
  rcases hcase with hrepeats0 | hrequeues
  · -- nobody has claimed the job since
    obtain ⟨s1, call1, j1, s2, hpast, hid1, hrequeues, hok, hended⟩ :=
      h.authorized j₀ hj0 hrepeats0
    refine ⟨s1, call1, j1, s2, .tail _ hpast, hid1.trans hid, hrequeues, hok, ?_⟩
    intro a ha hjob
    obtain ⟨a0, ha0, hjob0⟩ := hold a ha hjob
    have hkey : a0.id = a.id := key_of_get? ha0
    rw [← hkey] at ha0 ⊢
    exact hended a0 (mem_rows_iff.mpr ha0) (hjob0.trans hid.symm)
  · -- this call requeued it, suspended and so between two attempts
    have hmoved : j.status ≠ .waitingIntervention := by
      intro hwaiting
      rcases hrepeats.1 with hstatus | hstatus <;> rw [hwaiting] at hstatus <;> cases hstatus
    obtain ⟨s2, hok⟩ := hrequeues.committed hid.symm hj hmoved
    refine ⟨s, call, j₀, s2, .head _, hid, hrequeues, hok, ?_⟩
    intro a ha hjob
    obtain ⟨a0, ha0, hjob0⟩ := hold a ha hjob
    have hkey : a0.id = a.id := key_of_get? ha0
    rw [← hkey] at ha0 ⊢
    refine ⟨a0, ha0, h.agree.not_running hj0 ?_ ha0 (hjob0.trans hid.symm)⟩
    rw [hrequeues.2.1]
    decide

theorem Careful.of_history (h : (machine cfg).History past s) : Careful cfg past s := by
  refine h.invariant ?_ fun _ _ _ _ hs hen => hs.step hen
  rintro s ⟨W, rfl⟩
  have hinit : Reachable cfg (.initial W) := .init ⟨W, rfl⟩
  refine ⟨AttemptsAgree.reachable hinit, ?_, ?_⟩
  · intro j hj
    simp [State.initial] at hj
  · intro j hj
    simp [State.initial] at hj

-- ==== the claim

/-- An attempt of the job that the call opens. -/
def Opens (cfg : Settings) (s : State) (call : Call) (jobId : Uuid) (a : WorkerJobAttempt) :
    Prop :=
  ((machine cfg).step s call).attempts.get? a.id = some a ∧ s.attempts.get? a.id = none
    ∧ a.workerJobId = jobId

theorem Careful.opened (h : Careful cfg past s) (hen : (machine cfg).enabled s call)
    (ha : Opens cfg s call jobId a) : Opened call s a := by
  have hcall : Repeating call s ((machine cfg).step s call) :=
    .step hen h.agree h.replayable
  obtain ⟨hstored, hnew, -⟩ := ha
  rcases hcall.attempts a hstored with ⟨a0, ha0, -⟩ | hopened
  · rw [hnew] at ha0
    cases ha0
  · exact hopened

/-- Of a job with an ambiguous outcome, a call opens the first attempt,
or one that an operator authorized after all attempts before it. While
it waits to be repeated it carries the flag; while it runs, lapsed or
not, no attempt is opened. -/
theorem no_blind_replay (h : (machine cfg).History past s)
    (hen : (machine cfg).enabled s call) (hj : s.jobs.get? j.id = some j)
    (hambiguous : j.retrySafety = .reconciliationRequired) :
    (∀ a, Opens cfg s call j.id a → a.attemptNumber = 1 ∨ Authorized cfg past s j.id)
      ∧ ((j.status = .queued ∨ j.status = .failedRetryable) → 0 < j.attemptCount →
        j.retryAuthorizedByOperator = true)
      ∧ (j.status = .running → ∀ a, ¬ Opens cfg s call j.id a) := by
  have hcareful := Careful.of_history h
  refine ⟨?_, ?_, ?_⟩
  · intro a ha
    rcases (hcareful.opened hen ha).replay j (ha.2.2 ▸ hj) hambiguous with hfirst | hrepeats
    · exact .inl hfirst
    · exact .inr (hcareful.authorized j hj hrepeats)
  · intro hwaits hcount
    exact (hcareful.replayable j hj).marked ⟨hwaits, hcount, hambiguous⟩
  · intro hrunning a ha
    have hopened := hcareful.opened hen ha
    rcases hopened.replay j (ha.2.2 ▸ hj) hambiguous with hfirst | ⟨hwaits, -⟩
    · -- a running job has had an attempt
      obtain ⟨b, hb, hjob, -⟩ := hcareful.agree.attempted j hj hrunning
      obtain ⟨j₂, hj₂, hone, hle⟩ := hcareful.agree.counted b hb
      rw [hjob, hj] at hj₂
      cases hj₂
      have hlt := hopened.later j (ha.2.2 ▸ hj)
      omega
    · rcases hwaits with hstatus | hstatus <;> rw [hrunning] at hstatus <;> cases hstatus

/-- A publish job is claimed, suspended, and requeued as safe. -/
def requeuedRun : List Call := [Sample.call 1 0 (.receive (Sample.publish "publish" 0 none)),
    Sample.call 2 1 (.processNext []), Sample.call 3 2 (.claimNext 2),
    Sample.call 4 3 (.requestIntervention 200 2 301 "LOGIN_REQUIRED" "LOGIN"),
    Sample.call 5 4 (.resolveIntervention 405 true true "operator")]

open Sample in
theorem no_blind_replay_requeued :
    ∃ a, Opens settings (after requeuedRun) (Sample.call 6 5 (.claimNext 2)) 200 a
      ∧ a.attemptNumber = 2
      ∧ Authorized settings (Sample.past requeuedRun) (after requeuedRun) 200 := by
  have hpast := history (by decide : admitted requeuedRun = true)
  obtain ⟨j, hj, hid, hambiguous⟩ : ∃ j ∈ (after requeuedRun).jobs.rows,
      j.id = 200 ∧ j.retrySafety = .reconciliationRequired := by decide +kernel
  obtain ⟨a, ha, hnew, hjob, hsecond⟩ :
      ∃ a ∈ ((machine settings).step (after requeuedRun)
          (Sample.call 6 5 (.claimNext 2))).attempts.rows,
        (after requeuedRun).attempts.get? a.id = none ∧ a.workerJobId = 200
          ∧ a.attemptNumber = 2 := by decide +kernel
  have hopens : Opens settings (after requeuedRun)
      (Sample.call 6 5 (.claimNext 2)) 200 a := ⟨mem_rows_iff.mp ha, hnew, hjob⟩
  have hen : (machine settings).enabled (after requeuedRun)
      (Sample.call 6 5 (.claimNext 2)) := fun _ hclaim => by cases hclaim
  have hcareful := no_blind_replay hpast hen (mem_rows_iff.mp hj) hambiguous
  rw [hid] at hcareful
  refine ⟨a, hopens, hsecond, ?_⟩
  rcases hcareful.1 a hopens with hfirst | hauthorized
  · omega
  · exact hauthorized

end ThreadsPlatform
