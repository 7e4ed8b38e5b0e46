/-
What `recover_expired` makes of a lapsed job with an unknown outcome.

The cascade asks about the deadline first, then about the attempts, and
only then whether the outcome may be unknown. A RECONCILIATION_REQUIRED
job that lapses in its last attempt is therefore closed as FAILED_FINAL,
and with it the Command; in any earlier attempt it is suspended, with an
open intervention.

A batch handles its jobs one after the other. Each leaves the others'
rows, Commands and interventions alone, since no two jobs have one
Command.
-/
import ThreadsPlatform.Application.Runs
import ThreadsPlatform.Effects.WorkerJobs

namespace ThreadsPlatform

open Relational Table WorkerJobService

variable {cfg : Settings} {d : Draws} {now : Time} {s s' t t' : State} {j j' k : WorkerJob}
  {id : Uuid} {commandId : String} {C : Table commands} {D : Table integrationDeliveries}
  {O : Table outboxEvents}

-- ==== suspended

/-- The job and its Command wait for an operator, who has an open
intervention to resolve. -/
def Suspended (s : State) (id : Uuid) : Prop :=
  ∃ j, s.jobs.get? id = some j ∧ j.status = .waitingIntervention
    ∧ (∃ i, s.interventions.get? i.id = some i ∧ i.workerJobId = id ∧ i.status = .open)
    ∧ ∀ commandId, j.commandId = some commandId →
      ∃ c, s.commands.get? commandId = some c ∧ c.status = .waitingIntervention

/-- What the recovery of `k` leaves alone: other jobs, their Commands and
their interventions. -/
structure LeavesOthers (k : WorkerJob) (s s' : State) : Prop where
  jobs : ∀ id, id ≠ k.id → s'.jobs.get? id = s.jobs.get? id
  commands : ∀ commandId, k.commandId ≠ some commandId →
    s'.commands.get? commandId = s.commands.get? commandId
  interventions : ∀ i, s.interventions.get? i.id = some i → i.workerJobId ≠ k.id →
    s'.interventions.get? i.id = some i

theorem Suspended.others (h : Suspended s id) (hk : LeavesOthers k s s') (hne : id ≠ k.id)
    (hcommand : ∀ j, s.jobs.get? id = some j → j.commandId = none ∨ k.commandId ≠ j.commandId) :
    Suspended s' id := by
  obtain ⟨j, hj, hstatus, ⟨i, hi, hjob, hopen⟩, hc⟩ := h
  refine ⟨j, (hk.jobs id hne).trans hj, hstatus, ⟨i, hk.interventions i hi ?_, hjob, hopen⟩,
    fun commandId hlink => ?_⟩
  · rw [hjob]
    exact hne
  · obtain ⟨c, hcmd, hwaits⟩ := hc commandId hlink
    refine ⟨c, (hk.commands commandId ?_).trans hcmd, hwaits⟩
    rcases hcommand j hj with hnone | hother
    · rw [hnone] at hlink
      cases hlink
    · rw [← hlink]
      exact hother

-- ==== Commands

theorem CommandFollows.others {status : WorkerJobStatus} (h : CommandFollows s j status C O D)
    (hne : j.commandId ≠ some commandId) : C.get? commandId = s.commands.get? commandId := by
  rcases h with ⟨-, rfl, -⟩ | ⟨c, hlink, -, -, ⟨-, rfl, -⟩ | ⟨c', hput, -⟩⟩
  · rfl
  · rfl
  · refine hput.put.get?_ne fun heq => hne ?_
    have hkey : commandId = c'.commandId := heq
    rw [hkey, hput.same.commandId]
    exact hlink

theorem CommandFollows.status {status : WorkerJobStatus} (h : CommandFollows s j status C O D)
    (hretry : status ≠ .failedRetryable) (hlink : j.commandId = some commandId) :
    ∃ c, C.get? commandId = some c ∧ c.status = status.commandStatus := by
  rcases h with ⟨hnone | hretrying, -⟩ | ⟨c, hlink', hc, -, ⟨hstatus, rfl, -⟩ | ⟨c', hput, hstatus⟩⟩
  · rw [hnone] at hlink
    cases hlink
  · exact absurd hretrying hretry
  · obtain rfl := Option.mem_unique hlink' hlink
    exact ⟨c, hc, hstatus⟩
  · obtain rfl := Option.mem_unique hlink' hlink
    refine ⟨c', ?_, hstatus⟩
    have hself := hput.put.get?_self
    rwa [show commands.key c' = c.commandId from hput.same.commandId] at hself

-- ==== one job

/-- What one job's recovery does to the job, as far as it matters here. -/
structure Recovered (now : Time) (j : WorkerJob) (s' : State) : Prop where
  expired : j.beforeDeadline now = false →
    ∃ j', s'.jobs.get? j.id = some j' ∧ j'.status = .expired
  exhausted : j.beforeDeadline now = true → j.maxAttempts ≤ j.attemptCount →
    ∃ j', s'.jobs.get? j.id = some j' ∧ j'.status = .failedFinal
      ∧ ∀ commandId, j.commandId = some commandId →
        ∃ c, s'.commands.get? commandId = some c ∧ c.status = .failedFinal
  ambiguous : j.beforeDeadline now = true → j.attemptCount < j.maxAttempts →
    j.status = .running → j.retrySafety = .reconciliationRequired →
    Suspended s' j.id ∧ ∀ j', s'.jobs.get? j.id = some j' → j'.commandId = j.commandId

theorem recoverJob_recovered (h : recoverJob cfg d now s j = .ok s') :
    Recovered now j s' ∧ LeavesOthers j s s' := by
  obtain ⟨R, -, ⟨j', _, J, A, I, C, O, D, L, hjob, hend⟩ | ⟨⟨hdeadline, hcount⟩, hlost, hend⟩⟩ :=
    recoverJob_cases h
  · obtain ⟨P, R', rfl, -⟩ := endPreemptor_ok hend
    have hself : J.get? j.id = some j' := hjob.leaves.id ▸ hjob.jobs.get?_self
    have hcommand := fun commandId (hlink : j.commandId = some commandId) =>
      hjob.command.status hjob.idle.2 hlink
    refine ⟨?_, hjob.leaves.toSameJob.put_frame hjob.jobs,
      fun _ hne => hjob.command.others hne, hjob.interventions⟩
    rcases hjob.reason with ⟨hdeadline, hstatus⟩ | ⟨hdeadline, hcount, hstatus⟩
      | ⟨⟨hdeadline, hcount⟩, hstatus, hopen⟩ <;> rw [hstatus] at hcommand
    · have hnot (hbefore : j.beforeDeadline now = true) : False := by
        rw [hdeadline] at hbefore
        cases hbefore
      exact ⟨fun _ => ⟨j', hself, hstatus⟩, fun hbefore => (hnot hbefore).elim,
        fun hbefore => (hnot hbefore).elim⟩
    · exact ⟨fun hpast => absurd hpast hdeadline, fun _ _ => ⟨j', hself, hstatus, hcommand⟩,
        fun _ hlt => absurd hlt (not_lt.mpr hcount)⟩
    · refine ⟨fun hpast => absurd hpast hdeadline, fun _ hle => absurd hle hcount,
        fun _ _ _ _ => ⟨⟨j', hself, hstatus, hopen, fun commandId hlink => ?_⟩, fun j2 hj2 => ?_⟩⟩
      · exact hcommand commandId (hjob.leaves.commandId.symm.trans hlink)
      · obtain rfl := Option.mem_unique hself hj2
        exact hjob.leaves.commandId
  · obtain ⟨P, R', rfl, -⟩ := endPreemptor_ok hend
    exact ⟨⟨fun hpast => absurd hpast hdeadline, fun _ hle => absurd hle hcount,
      fun _ _ hrunning hambiguous => absurd ⟨hrunning, hambiguous⟩ hlost⟩,
      fun _ _ => rfl, fun _ _ => rfl, fun _ hi _ => hi⟩

-- ==== the batch

/-- What is known of `j` in the loop of `recover_expired`, with `ks` still
to come of the jobs `all` that were selected in `s`. -/
structure Lapsing (now : Time) (s : State) (j : WorkerJob) (all ks : List WorkerJob)
    (t : State) : Prop where
  listed : ∀ k ∈ ks, k ∈ all ∧ s.jobs.get? k.id = some k
  nodup : (ks.map (·.id)).Nodup
  stored : ∀ k ∈ ks, t.jobs.get? k.id = some k
  handled : j ∈ all → j ∉ ks → Recovered now j t
  skipped : j ∉ all → t.jobs.get? j.id = some j

/-- Recovering another job changes nothing for `j`. -/
theorem Recovered.others (h : Recovered now j t) (hk : LeavesOthers k t t') (hne : j.id ≠ k.id)
    (hcommand : j.commandId = none ∨ k.commandId ≠ j.commandId) : Recovered now j t' := by
  constructor
  · intro hpast
    obtain ⟨j', hj', hstatus⟩ := h.expired hpast
    exact ⟨j', (hk.jobs j.id hne).trans hj', hstatus⟩
  · intro hbefore hle
    obtain ⟨j', hj', hstatus, hc⟩ := h.exhausted hbefore hle
    refine ⟨j', (hk.jobs j.id hne).trans hj', hstatus, fun commandId hlink => ?_⟩
    obtain ⟨c, hcmd, hfinal⟩ := hc commandId hlink
    refine ⟨c, (hk.commands commandId ?_).trans hcmd, hfinal⟩
    rcases hcommand with hnone | hother
    · rw [hnone] at hlink
      cases hlink
    · rw [← hlink]
      exact hother
  · intro hbefore hlt hrunning hambiguous
    obtain ⟨hsuspended, hlink⟩ := h.ambiguous hbefore hlt hrunning hambiguous
    refine ⟨hsuspended.others hk hne fun j' hj' => ?_, fun j' hj' => ?_⟩
    · rw [hlink j' hj']
      exact hcommand
    · exact hlink j' ((hk.jobs j.id hne).symm.trans hj')

theorem Lapsing.step {all ks : List WorkerJob} (hj : s.jobs.get? j.id = some j)
    (h : Lapsing now s j all (k :: ks) t) (hone : recoverJob cfg d now t k = .ok t') :
    Lapsing now s j all ks t' := by
  obtain ⟨hrecovered, hothers⟩ := recoverJob_recovered hone
  have hnodup := List.nodup_cons.mp h.nodup
  have hk := (h.listed k (.head _)).2
  -- no two jobs have one Command
  have happart (hne : j.id ≠ k.id) : j.commandId = none ∨ k.commandId ≠ j.commandId := by
    have hclash := clash_of_get? hj hk hne
    simp only [workerJobs, Bool.and_eq_false_iff, decide_eq_false_iff_not] at hclash
    rcases hclash with hnone | hother
    · exact .inl (by simpa using hnone)
    · exact .inr fun heq => hother heq.symm
  refine ⟨fun k' hk' => h.listed k' (.tail _ hk'), hnodup.2, fun k' hk' => ?_,
    fun hall hnotin => ?_, fun hnotall => ?_⟩
  · refine (hothers.jobs k'.id fun heq => hnodup.1 ?_).trans (h.stored k' (.tail _ hk'))
    exact List.mem_map.mpr ⟨k', hk', heq⟩
  · by_cases hid : j.id = k.id
    · rw [hid] at hj
      obtain rfl := Option.mem_unique hj hk
      exact hrecovered
    · refine (h.handled hall fun hmem => ?_).others hothers hid (happart hid)
      rcases List.mem_cons.mp hmem with rfl | hin
      · exact hid rfl
      · exact hnotin hin
  · have hid : j.id ≠ k.id := by
      intro heq
      rw [heq] at hj
      obtain rfl := Option.mem_unique hj hk
      exact hnotall (h.listed j (.head _)).1
    exact (hothers.jobs j.id hid).trans (h.skipped hnotall)

theorem recoverExpired_lapsing {limit n : Nat} (hj : s.jobs.get? j.id = some j)
    (h : recoverExpired cfg d now limit s = .ok (n, s')) :
    Lapsing now s j (s.listExpiredForUpdate now limit d.rowOrder) [] s' := by
  simp only [recoverExpired, steps_ok] at h
  obtain ⟨t, hloop, -, rfl⟩ := h
  exact foldlM_invariant (Lapsing now s j (s.listExpiredForUpdate now limit d.rowOrder))
    (fun _ _ _ _ hP hone => hP.step hj hone)
    ⟨fun k hk => ⟨hk, (mem_listExpired hk).1⟩, nodup_listExpired,
      fun k hk => (mem_listExpired hk).1, fun hall hnot => absurd hall hnot, fun _ => hj⟩ hloop

/-- A RUNNING job with an unknown outcome whose lease has lapsed before its
deadline: `recover_expired` suspends it, with its Command and an open
intervention, exactly when it selects the job and an attempt is left. When
none is left the job and its Command are FAILED_FINAL. -/
theorem lapsed_job_suspended_iff (cfg : Settings) (d : Draws) (now : Time) (limit n : Nat)
    (s s' : State) (j : WorkerJob) (hj : s.jobs.get? j.id = some j)
    (hrunning : j.status = .running) (hambiguous : j.retrySafety = .reconciliationRequired)
    (hlapsed : ∃ expiry, j.leaseExpiresAt = some expiry ∧ expiry ≤ now)
    (hdeadline : j.beforeDeadline now = true)
    (h : recoverExpired cfg d now limit s = .ok (n, s')) :
    (Suspended s' j.id ↔ j ∈ s.listExpiredForUpdate now limit d.rowOrder
        ∧ j.attemptCount < j.maxAttempts)
      ∧ (j ∈ s.listExpiredForUpdate now limit d.rowOrder → j.maxAttempts ≤ j.attemptCount →
        ∃ j', s'.jobs.get? j.id = some j' ∧ j'.status = .failedFinal
          ∧ ∀ commandId, j.commandId = some commandId →
            ∃ c, s'.commands.get? commandId = some c ∧ c.status = .failedFinal) := by
  have hdone := recoverExpired_lapsing hj h
  have hhandled (hall : j ∈ s.listExpiredForUpdate now limit d.rowOrder) :
      Recovered now j s' := hdone.handled hall (by simp)
  refine ⟨⟨fun hsuspended => ?_, fun hselected => ?_⟩, fun hall hle =>
    (hhandled hall).exhausted hdeadline hle⟩
  · obtain ⟨j', hj', hstatus, -⟩ := hsuspended
    by_cases hall : j ∈ s.listExpiredForUpdate now limit d.rowOrder
    · refine ⟨hall, not_le.mp fun hle => ?_⟩
      obtain ⟨j₂, hj₂, hfinal, -⟩ := (hhandled hall).exhausted hdeadline hle
      obtain rfl := Option.mem_unique hj' hj₂
      rw [hstatus] at hfinal
      cases hfinal
    · obtain rfl := Option.some.inj (hj'.symm.trans (hdone.skipped hall))
      rw [hstatus] at hrunning
      cases hrunning
  · exact ((hhandled hselected.1).ambiguous hdeadline hselected.2 hrunning hambiguous).1

-- ==== sample

/-- A publish job is suspended and requeued twice, and claimed a third
time. -/
def lastAttemptRun : List Call := [Sample.call 1 0 (.receive (Sample.publish "publish" 0 none)),
    Sample.call 2 1 (.processNext []), Sample.call 3 2 (.claimNext 2),
    Sample.call 4 3 (.requestIntervention 200 2 301 "LOGIN_REQUIRED" "LOGIN"),
    Sample.call 5 4 (.resolveIntervention 405 true true "operator"), Sample.call 6 5 (.claimNext 2),
    Sample.call 7 6 (.requestIntervention 200 2 601 "LOGIN_REQUIRED" "LOGIN"),
    Sample.call 8 7 (.resolveIntervention 705 true true "operator"), Sample.call 9 8 (.claimNext 2)]

/-- Its lease lapses, and it is recovered. -/
def lastAttemptRecovery : Call := Sample.call 10 100 (.recoverExpired 50)

open Sample in
/-- The third attempt's outcome is unknown, and yet the job and its Command
end as FAILED_FINAL. -/
theorem lapsed_last_attempt_final :
    Reachable settings (after lastAttemptRun)
      ∧ (∃ j ∈ (after lastAttemptRun).jobs.rows, j.id = 200 ∧ j.status = .running
        ∧ j.retrySafety = .reconciliationRequired ∧ j.leaseExpiresAt = some 68
        ∧ j.beforeDeadline 100 = true)
      ∧ (∃ j ∈ (after (lastAttemptRun ++ [lastAttemptRecovery])).jobs.rows,
        j.id = 200 ∧ j.status = .failedFinal)
      ∧ ∃ c ∈ (after (lastAttemptRun ++ [lastAttemptRecovery])).commands.rows,
        c.commandId = "publish" ∧ c.status = .failedFinal :=
  ⟨reachable (by decide +kernel), by decide +kernel, by decide +kernel, by decide +kernel⟩

/-- The same job, lapsed in its first attempt. -/
def firstAttemptRun : List Call := lastAttemptRun.take 3

open Sample in
theorem lapsed_job_suspended_iff_first :
    ∃ s', recoverExpired settings (draws 10) 100 50 (after firstAttemptRun) = .ok (1, s')
      ∧ Suspended s' 200 := by
  obtain ⟨j, hj, hid, hrunning, hambiguous, hexpiry, hdeadline, hselected, hleft⟩ :
      ∃ j ∈ (after firstAttemptRun).jobs.rows, j.id = 200 ∧ j.status = .running
        ∧ j.retrySafety = .reconciliationRequired ∧ j.leaseExpiresAt = some 62
        ∧ j.beforeDeadline 100 = true
        ∧ j ∈ (after firstAttemptRun).listExpiredForUpdate 100 50
          (draws 10).rowOrder
        ∧ j.attemptCount < j.maxAttempts := by decide +kernel
  have hok : ((recoverExpired settings (draws 10) 100 50
      (after firstAttemptRun)).toOption.map (·.1)) = some 1 := by decide +kernel
  obtain ⟨⟨n, s'⟩, hrun, hn⟩ := Option.map_eq_some_iff.mp hok
  have hrun' : recoverExpired settings (draws 10) 100 50
      (after firstAttemptRun) = .ok (n, s') := by
    cases hcall : recoverExpired settings (draws 10) 100 50
        (after firstAttemptRun) with
    | error => rw [hcall] at hrun; cases hrun
    | ok result => rw [hcall] at hrun; cases hrun; rfl
  obtain rfl : n = 1 := hn
  refine ⟨s', hrun', ?_⟩
  have hiff := lapsed_job_suspended_iff settings (draws 10) 100 50 1 _ s' j
    (mem_rows_iff.mp hj) hrunning hambiguous ⟨62, hexpiry, by decide⟩ hdeadline hrun'
  rw [hid] at hiff
  exact hiff.1.mpr ⟨hselected, hleft⟩

end ThreadsPlatform
