/-
`process` on a Command whose job is at work.

The router is told of an existing job and answers with a wait, so the
Command should stay with its job whatever else has changed. Two things
come first. A Command at its deadline expires before anyone looks for a
job, and a job that needs reconciliation is answered with
WAITING_INTERVENTION even while it is RUNNING. `routedStatus` is where
the step leaves the Command; it is the job's own status exactly when
`RoutingSafe` holds (`job_authoritative_iff`). Otherwise the job goes on
with a Command that has left it, and its worker's report or its recovery
fails (`process_abandons_job`).
-/
import ThreadsPlatform.Proofs.Conflicts

namespace ThreadsPlatform

open Relational Table WorkerJobService CommandRuntime

variable {cfg : Settings} {d : Draws} {now : Time} {s s' : State} {j : WorkerJob}
  {c : Command} {outcome : RoutingOutcome}

-- ==== the router

theorem Policies.decide_existing {policies : Policies} {commandType : String}
    {mode : AccountExecutionMode} {e : CapabilityEvidence}
    (hjob : e.existingWorkerJob = some j) :
    (policies.decide commandType mode e).target =
      if policies.policyFor commandType = none then .unsupported
      else if j.status = .waitingIntervention ∨ j.retrySafety = .reconciliationRequired then
        .waitingIntervention
      else .waitingExecution := by
  unfold Policies.decide
  cases hp : policies.policyFor commandType with
  | none => rfl
  | some p =>
    rw [hjob]
    simp only [reduceCtorEq, if_false]
    split <;> rfl

/-- Where the routing step leaves the Command of an unfinished job. -/
def routedStatus (cfg : Settings) (now : Time) (c : Command) (j : WorkerJob) : CommandStatus :=
  if c.status ≠ .waitingExecution then c.status
  else if c.deadlineReached now then .expired
  else if cfg.policies.policyFor c.commandType = none then .failedFinal
  else if j.status = .waitingIntervention ∨ j.retrySafety = .reconciliationRequired then
    .waitingIntervention
  else .waitingExecution

-- ==== the routing step

/-- The step has left the Command in this status, and the jobs alone. -/
def LeftAt (s s' : State) (commandId : String) (status : CommandStatus) : Prop :=
  s'.jobs = s.jobs ∧ ∃ c', s'.commands.get? commandId = some c' ∧ c'.status = status

theorem leftAt_of_stored {s0 : State} {target : CommandStatus}
    (h : CommandStored c target s0 s') (hjobs : s0.jobs = s.jobs) :
    LeftAt s s' c.commandId target := by
  obtain ⟨c', C, O, D, rfl, hput, hstatus⟩ := h
  have hkey : commands.key c' = c.commandId := hput.same.commandId
  exact ⟨hjobs, c', hkey ▸ hput.put.get?_self, hstatus⟩

theorem routeAndClaim_linked {n : Int} (hc : s.commands.get? c.commandId = some c)
    (hwaits : c.status = .waitingExecution) (hlive : c.deadlineReached now = false)
    (hj : s.jobs.get? j.id = some j) (hlink : j.commandId = some c.commandId)
    (h : routeAndClaim cfg d now s c n = .ok (outcome, s')) :
    LeftAt s s' c.commandId (routedStatus cfg now c j) := by
  simp only [routeAndClaim, steps_ok] at h
  obtain ⟨account, -, s1, h1, h⟩ := h
  have hexisting : (evidence cfg now s c account n).existingWorkerJob = some j :=
    State.jobForCommand?_some hj hlink
  generalize hroute : cfg.policies.decide c.commandType account.executionMode
    (evidence cfg now s c account n) = route at h1 h
  have htarget : route.target = if cfg.policies.policyFor c.commandType = none then .unsupported
      else if j.status = .waitingIntervention ∨ j.retrySafety = .reconciliationRequired then
        .waitingIntervention
      else .waitingExecution := by
    rw [← hroute]
    exact Policies.decide_existing hexisting
  -- it is a wait or a refusal, so nothing replaces it
  have hno : ¬ (route.target = .workerJob ∧ (cfg.workerJobService = false
      ∨ cfg.policies.policyFor c.commandType = none)) := by
    rintro ⟨hjob, -⟩
    rw [htarget] at hjob
    split at hjob
    · cases hjob
    · split at hjob <;> cases hjob
  rw [if_neg hno] at h1 h
  obtain ⟨RD, rfl, -⟩ := addDecision_ok h1
  unfold routedStatus
  rw [if_neg (not_not.mpr hwaits), hlive, if_neg Bool.false_ne_true]
  rw [htarget] at h
  by_cases hpolicy : cfg.policies.policyFor c.commandType = none
  · rw [if_pos hpolicy] at h ⊢
    have hstored := endUnsupported_ok (s := { s with routeDecisions := RD }) hc h
    rw [hwaits, if_neg (by decide)] at hstored
    exact leftAt_of_stored hstored rfl
  · rw [if_neg hpolicy] at h ⊢
    by_cases hsuspend : j.status = .waitingIntervention ∨ j.retrySafety = .reconciliationRequired
    · rw [if_pos hsuspend] at h ⊢
      have hstored := holdForIntervention_ok (s := { s with routeDecisions := RD }) hc h
      exact leftAt_of_stored hstored rfl
    · rw [if_neg hsuspend] at h ⊢
      have hstored := deferExecution_ok (s := { s with routeDecisions := RD }) hc h
      exact leftAt_of_stored hstored rfl

/-- `process` on the Command of a job. -/
theorem process_linked (hc : s.commands.get? c.commandId = some c)
    (hdelegated : c.status.delegated = true) (hj : s.jobs.get? j.id = some j)
    (hlink : j.commandId = some c.commandId)
    (h : process cfg d now c.commandId s = .ok (outcome, s')) :
    LeftAt s s' c.commandId (routedStatus cfg now c j) := by
  simp only [process, steps_ok, hc, Option.some.injEq] at h
  obtain ⟨_, rfl, h⟩ := h
  unfold claimLocked at h
  by_cases hwaits : c.status = .waitingExecution
  · simp only [hwaits, CommandStatus.terminal, reduceCtorEq, Bool.false_eq_true, or_self,
      if_false] at h
    unfold claimUnheld at h
    split at h
    case isTrue hdeadline =>
      have hprevious : Previous s c none := by
        show c.status ≠ .processing
        rw [hwaits]
        decide
      obtain ⟨CA, -, hstored⟩ := expireCommand_ok hc hprevious h
      have hrouted : routedStatus cfg now c j = .expired := by
        unfold routedStatus
        rw [if_neg (not_not.mpr hwaits), if_pos hdeadline]
      rw [hrouted]
      exact leftAt_of_stored hstored rfl
    case isFalse hlive =>
      rw [Bool.not_eq_true] at hlive
      simp only [hwaits, reduceCtorEq, false_and, if_false, validateAndRoute] at h
      exact routeAndClaim_linked hc hwaits hlive hj hlink h
  · -- settled: the step answers with the Command as it is
    have hsettled : c.status.terminal = true ∨ c.status = .waitingIntervention := by
      simp only [CommandStatus.delegated, Bool.or_eq_true, decide_eq_true_eq] at hdelegated
      rcases hdelegated with (hw | hi) | ht
      · exact absurd hw hwaits
      · exact .inr hi
      · exact .inl ht
    rw [if_pos hsettled, pure_eq_ok, Prod.mk.injEq] at h
    obtain ⟨-, rfl⟩ := h
    have hrouted : routedStatus cfg now c j = c.status := by
      unfold routedStatus
      rw [if_pos hwaits]
    exact ⟨rfl, c, hc, hrouted.symm⟩

-- ==== authority

/-- The Command waits with its job, or waits for it before the deadline,
under a known policy, and the job is safe to retry or itself suspended. -/
def RoutingSafe (cfg : Settings) (now : Time) (c : Command) (j : WorkerJob) : Prop :=
  (c.status = .waitingIntervention ∧ j.status = .waitingIntervention)
    ∨ (c.status = .waitingExecution ∧ c.deadlineReached now = false
      ∧ cfg.policies.policyFor c.commandType ≠ none
      ∧ (j.status = .waitingIntervention ∨ j.retrySafety = .safeToRetry))

theorem routedStatus_iff (hopen : j.status.terminal = false) :
    routedStatus cfg now c j = j.status.commandStatus ↔ RoutingSafe cfg now c j := by
  have hwaits := WorkerJobStatus.commandStatus_waits hopen
  unfold routedStatus RoutingSafe
  by_cases hexecution : c.status = .waitingExecution
  · rw [if_neg (not_not.mpr hexecution), hexecution]
    simp only [reduceCtorEq, false_and, false_or, true_and]
    by_cases hdeadline : c.deadlineReached now = true
    · rw [if_pos hdeadline, hdeadline]
      rcases hwaits with hwaits | hwaits <;> simp [hwaits]
    · rw [if_neg hdeadline]
      rw [Bool.not_eq_true] at hdeadline
      by_cases hpolicy : cfg.policies.policyFor c.commandType = none
      · rw [if_pos hpolicy]
        rcases hwaits with hwaits | hwaits <;> simp [hwaits, hpolicy]
      · rw [if_neg hpolicy]
        cases hstatus : j.status <;> cases hsafety : j.retrySafety <;>
          simp_all [WorkerJobStatus.commandStatus, WorkerJobStatus.terminal]
  · rw [if_pos hexecution]
    by_cases hsuspended : c.status = .waitingIntervention
    · rw [hsuspended]
      cases hstatus : j.status <;> simp_all [WorkerJobStatus.commandStatus]
    · -- a finished Command goes with no unfinished job
      have hne : c.status ≠ j.status.commandStatus := by
        rcases hwaits with hwaits | hwaits <;> rw [hwaits] <;> assumption
      simp [hexecution, hsuspended, hne]

/-- The job is still the authority on its Command: the Command has the
status that goes with the job's, and neither the worker's report, nor its
acknowledgement of a cancellation, nor recovery finds it out of place. -/
structure Authoritative (cfg : Settings) (s : State) (j : WorkerJob) (commandId : String) :
    Prop where
  job : j ∈ s.jobs.rows
  command : ∃ c, s.commands.get? commandId = some c ∧ c.status = j.status.commandStatus
  complete : ∀ d now w τ result, NoMismatch (complete cfg d now j.id w τ result s)
  acknowledge : ∀ d now w τ requestId generation phase,
    NoMismatch (acknowledgeCancel cfg d now j.id w τ requestId generation phase s)
  recover : ∀ d now, NoMismatch (recoverJob cfg d now s j)

/-- An existing WorkerJob stays authoritative over its Command, when
`process` runs on it, exactly when the routing step is safe. -/
theorem job_authoritative_iff (hreach : Reachable cfg s) (hj : j ∈ s.jobs.rows)
    (hopen : j.status.terminal = false) (hc : c ∈ s.commands.rows)
    (hlink : j.commandId = some c.commandId)
    (h : process cfg d now c.commandId s = .ok (outcome, s')) :
    Authoritative cfg s' j c.commandId ↔ RoutingSafe cfg now c j := by
  have hj := mem_rows_iff.mp hj
  have hc : s.commands.get? c.commandId = some c := mem_rows_iff.mp hc
  have hdelegated : c.status.delegated = true :=
    (delegated_of_reachable hreach).command hj hlink hc
  obtain ⟨hjobs, c', hc', hstatus⟩ := process_linked hc hdelegated hj hlink h
  have hj' : s'.jobs.get? j.id = some j := hjobs ▸ hj
  rw [← routedStatus_iff hopen]
  constructor
  · intro hauth
    obtain ⟨c₂, hc₂, hmatch⟩ := hauth.command
    rw [hc'] at hc₂
    injection hc₂ with hc₂
    rw [← hstatus, hc₂]
    exact hmatch
  · intro hmatch
    rw [hmatch] at hstatus
    have hat : CommandAt s'.commands j j.status.commandStatus := by
      intro c₂ hlink₂ hc₂
      rw [hlink] at hlink₂
      injection hlink₂ with hlink₂
      rw [← hlink₂, hc'] at hc₂
      injection hc₂ with hc₂
      rw [← hc₂]
      exact hstatus
    have hpaired : JobPaired s' j.id := by
      intro j₂ hj₂
      rw [hj'] at hj₂
      injection hj₂ with hj₂
      exact hj₂ ▸ hat
    exact
      { job := mem_rows_iff.mpr hj'
        command := ⟨c', hc', hstatus⟩
        complete := fun _ _ _ _ _ => complete_noMismatch hpaired
        acknowledge := fun _ _ _ _ _ _ _ => acknowledgeCancel_noMismatch hpaired
        recover := fun _ _ => recoverJob_noMismatch hat hopen }

/-- A browse Command, claimed. -/
def claimedRun : List Call := [Sample.call 1 0 (.receive (Sample.browse "browse" 0 (some 50))),
    Sample.call 2 1 (.processNext []), Sample.call 3 2 (.claimNext 2)]

open Sample in
theorem job_authoritative_iff_claimed :
    ∃ j ∈ (after claimedRun).jobs.rows, j.status = .running
      ∧ ∃ outcome s', process settings (draws 4) 3 "browse"
          (after claimedRun) = .ok (outcome, s')
        ∧ Authoritative settings s' j "browse" := by
  have hreach := reachable (by decide : admitted claimedRun = true)
  obtain ⟨j, hj, hstatus, hsafety, hlink⟩ : ∃ j ∈ (after claimedRun).jobs.rows,
      j.status = .running ∧ j.retrySafety = .safeToRetry ∧ j.commandId = some "browse" := by
    decide +kernel
  obtain ⟨c, hc, hid, hwaits, hlive, hpolicy⟩ : ∃ c ∈ (after claimedRun).commands.rows,
      c.commandId = "browse" ∧ c.status = .waitingExecution ∧ c.deadlineReached 3 = false
      ∧ settings.policies.policyFor c.commandType ≠ none := by
    decide +kernel
  have hok : (process settings (draws 4) 3 "browse" (after claimedRun)).toOption.any
      (fun _ => true) = true := by decide +kernel
  obtain ⟨⟨outcome, s'⟩, hprocess, -⟩ := ok_of_any hok
  refine ⟨j, hj, hstatus, outcome, s', hprocess, ?_⟩
  rw [← hid] at hprocess hlink ⊢
  refine (job_authoritative_iff hreach hj (by rw [hstatus]; rfl) hc hlink hprocess).mpr ?_
  exact .inr ⟨hwaits, hlive, hpolicy, .inr hsafety⟩

/-- The browse Command is processed again at its deadline, while its job
runs under a live lease. -/
def overdueRun : List Call :=
  claimedRun ++ [Sample.call 4 50 (.process "browse")]

/-- A publishing Command is processed again while its job runs; a
mutation's job needs reconciliation. -/
def reroutedRun : List Call := [Sample.call 1 0 (.receive (Sample.publish "publish" 0 (some 50))),
    Sample.call 2 1 (.processNext []), Sample.call 3 2 (.claimNext 2),
    Sample.call 4 3 (.process "publish")]

open Sample in
/-- At its deadline the Command expires under its running job, and then
neither the worker nor recovery can finish the job. A mutation's Command
is suspended under its running job, and the worker cannot finish it. -/
theorem process_abandons_job : (Reachable settings (after overdueRun)
      ∧ (∃ j ∈ (after overdueRun).jobs.rows, j.status = .running ∧ j.commandId = some "browse")
      ∧ (∃ c ∈ (after overdueRun).commands.rows, c.commandId = "browse" ∧ c.status = .expired)
      ∧ raised overdueRun (call 5 51 (.complete 200 2 301 []))
        = some (.control .commandStateConflict)
      ∧ raised overdueRun (call 5 51 (.recoverExpired 10)) = some (.control .commandStateConflict))
    ∧ Reachable settings (after reroutedRun)
      ∧ (∃ j ∈ (after reroutedRun).jobs.rows, j.status = .running ∧ j.commandId = some "publish")
      ∧ (∃ c ∈ (after reroutedRun).commands.rows, c.commandId = "publish"
        ∧ c.status = .waitingIntervention)
      ∧ raised reroutedRun (call 5 4 (.complete 200 2 301 []))
        = some (.invalidTransition .waitingIntervention .succeeded) := by
  have hoverdue : admitted overdueRun = true := by decide
  have hrerouted : admitted reroutedRun = true := by decide
  refine ⟨⟨reachable hoverdue, ?_⟩, reachable hrerouted, ?_⟩
  · decide +kernel
  · decide +kernel

end ThreadsPlatform
