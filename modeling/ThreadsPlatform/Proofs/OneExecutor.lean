/-
A Command is executed by one kind of executor.

# Who has had a Command

A route decision that names an executor is stored in the transaction
that hands the Command over: a worker's together with the job
(`ExecutorsAgree.worker`), the API's together with the attempt (`api`).
So the decisions, the jobs and the attempts tell one story, and the
router, which reads the executor off the decisions and the number of
attempts off the attempts, sees it.

A job is given out for a Command without attempts, an attempt for a
Command without a job (`single`). The first is the router's doing, not
`enqueue`'s: a job enqueued by hand is for whatever Command the caller
names, as long as it waits. Such a call is the one way to both.

# Statuses

Only a Command that has been executed is retried (`retried`), so a
Command without attempts is VALIDATED or WAITING_EXECUTION when it is
routed. That is what `enqueue_in_transaction` demands.
-/
import ThreadsPlatform.Proofs.ApiExecution

namespace ThreadsPlatform

open Relational Table CommandRuntime

variable {cfg : Settings} {call : Call} {s s' s₀ : State} {j j' : WorkerJob} {c c' : Command}
  {a : CommandAttempt} {κ : ExecutionClaim} {J J' : Table workerJobs} {C C' : Table commands}
  {CA CA' : Table commandAttempts} {RD RD' : Table commandRouteDecisions}

-- ==== the invariant

/-- Decisions, jobs and attempts name one kind of executor. -/
structure ExecutorsAgree (J : Table workerJobs) (C : Table commands)
    (CA : Table commandAttempts) (RD : Table commandRouteDecisions) : Prop where
  worker : ∀ d, RD.get? d.id = some d → d.executor = some .worker →
    ∃ j, J.get? j.id = some j ∧ j.commandId = some d.commandId
  api : ∀ d, RD.get? d.id = some d → d.executor = some .api → 0 < countOf CA d.commandId
  single : ∀ j commandId, J.get? j.id = some j → j.commandId = some commandId →
    countOf CA commandId = 0
  retried : ∀ c, C.get? c.commandId = some c → c.status = .failedRetryable →
    0 < countOf CA c.commandId

/-- A job keeps its Command. -/
def SameLink (j j' : WorkerJob) : Prop :=
  j'.id = j.id ∧ j'.commandId = j.commandId

theorem SameLink.refl (j : WorkerJob) : SameLink j j := ⟨rfl, rfl⟩

theorem SameLink.evolves (hj : J.get? j.id = some j) (hput : Put J j' J')
    (hsame : SameLink j j') : Evolves SameLink J J' := by
  refine hput.evolves SameLink.refl ?_ hsame
  rw [show workerJobs.key j' = j.id from hsame.1]
  exact hj

section

variable (h : ExecutorsAgree J C CA RD)

include h

theorem ExecutorsAgree.jobs (hJ : Evolves SameLink J J') : ExecutorsAgree J' C CA RD := by
  refine ⟨fun d hd hworker => ?_, h.api, fun j' commandId hj' hlink => ?_, h.retried⟩
  · obtain ⟨j, hj, hlink⟩ := h.worker d hd hworker
    obtain ⟨j', hj', hsame⟩ := hJ.forward hj
    exact ⟨j', hsame.1 ▸ hj', hsame.2.trans hlink⟩
  · obtain ⟨j, hj, hsame⟩ := hJ.backward hj'
    have hid : j.id = j'.id := hsame.1.symm
    exact h.single j commandId (hid ▸ hj) (hsame.2 ▸ hlink)

/-- A Command is written that is not retried, or has been executed. -/
theorem ExecutorsAgree.commandPut (hput : Put C c' C')
    (hretried : c'.status = .failedRetryable → 0 < countOf CA c'.commandId) :
    ExecutorsAgree J C' CA RD := by
  refine ⟨h.worker, h.api, h.single, fun c hc hstatus => ?_⟩
  rcases hput.cases hc with ⟨-, rfl⟩ | ⟨-, hc⟩
  · exact hretried hstatus
  · exact h.retried c hc hstatus

theorem ExecutorsAgree.attempts
    (hcount : ∀ commandId, countOf CA' commandId = countOf CA commandId) :
    ExecutorsAgree J C CA' RD := by
  refine ⟨h.worker, fun d hd hexecutor => ?_, fun j commandId hj hlink => ?_, fun c hc hst => ?_⟩
  · rw [hcount]
    exact h.api d hd hexecutor
  · rw [hcount]
    exact h.single j commandId hj hlink
  · rw [hcount]
    exact h.retried c hc hst

theorem ExecutorsAgree.decided {commandId : String} (hadded : DecisionAdded RD commandId none RD') :
    ExecutorsAgree J C CA RD' := by
  obtain ⟨new, -, hput, -, hnone⟩ := hadded
  refine ⟨fun d hd hexecutor => ?_, fun d hd hexecutor => ?_, h.single, h.retried⟩
  · rcases hput.cases hd with ⟨-, rfl⟩ | ⟨-, hd⟩
    · rw [hnone] at hexecutor
      cases hexecutor
    · exact h.worker d hd hexecutor
  · rcases hput.cases hd with ⟨-, rfl⟩ | ⟨-, hd⟩
    · rw [hnone] at hexecutor
      cases hexecutor
    · exact h.api d hd hexecutor

theorem ExecutorsAgree.jobAdded (hput : Put J j J') (hfresh : J.get? j.id = none)
    (hnone : ∀ commandId, j.commandId = some commandId → countOf CA commandId = 0)
    (hdecision : RD' = RD ∨ ∃ commandId, j.commandId = some commandId
      ∧ DecisionAdded RD commandId (some .worker) RD') : ExecutorsAgree J' C CA RD' := by
  have hjobs : ∀ {j2}, J.get? j2.id = some j2 → J'.get? j2.id = some j2 :=
    fun hj2 => hput.get?_of_fresh hfresh hj2
  have hold : ∀ d, RD.get? d.id = some d → d.executor = some .worker →
      ∃ j, J'.get? j.id = some j ∧ j.commandId = some d.commandId := by
    intro d hd hexecutor
    obtain ⟨j2, hj2, hlink⟩ := h.worker d hd hexecutor
    exact ⟨j2, hjobs hj2, hlink⟩
  have hsingle : ∀ j2 commandId, J'.get? j2.id = some j2 → j2.commandId = some commandId →
      countOf CA commandId = 0 := by
    intro j2 commandId hj2 hlink
    rcases hput.cases hj2 with ⟨-, rfl⟩ | ⟨-, hj2⟩
    · exact hnone commandId hlink
    · exact h.single j2 commandId hj2 hlink
  rcases hdecision with rfl | ⟨commandId, hlink, new, -, hRD, hcommand, hworker⟩
  · exact ⟨hold, h.api, hsingle, h.retried⟩
  · refine ⟨fun d hd hexecutor => ?_, fun d hd hexecutor => ?_, hsingle, h.retried⟩
    · rcases hRD.cases hd with ⟨-, rfl⟩ | ⟨-, hd⟩
      · exact ⟨j, hput.get?_self, hcommand ▸ hlink⟩
      · exact hold d hd hexecutor
    · rcases hRD.cases hd with ⟨-, rfl⟩ | ⟨-, hd⟩
      · rw [hworker] at hexecutor
        cases hexecutor
      · exact h.api d hd hexecutor

end

/-- An attempt joins, with its decision, for a Command without a job. -/
theorem ExecutorsAgree.claimed {CA1 : Table commandAttempts} {commandId : String}
    (h : ExecutorsAgree J C CA1 RD) (hput : Put CA1 a CA) (hfresh : CA1.get? a.id = none)
    (hattempt : a.commandId = commandId)
    (hunlinked : ∀ j ∈ J.rows, j.commandId ≠ some commandId)
    (hdecision : DecisionAdded RD commandId (some .api) RD') : ExecutorsAgree J C CA RD' := by
  obtain ⟨new, -, hRD, hcommand, hapi⟩ := hdecision
  have hcount := countOf_put hput hfresh
  refine ⟨fun d hd hexecutor => ?_, fun d hd hexecutor => ?_, fun j id hj hlink => ?_,
    fun c hc hst => ?_⟩
  · rcases hRD.cases hd with ⟨-, rfl⟩ | ⟨-, hd⟩
    · rw [hapi] at hexecutor
      cases hexecutor
    · exact h.worker d hd hexecutor
  · rw [hcount]
    rcases hRD.cases hd with ⟨-, rfl⟩ | ⟨-, hd⟩
    · rw [hcommand, if_pos hattempt, countOf]
      omega
    · have hpos := h.api d hd hexecutor
      split <;> omega
  · have hother : id ≠ commandId := by
      rintro rfl
      exact hunlinked j (mem_rows_iff.mpr hj) hlink
    rw [hcount, if_neg (hattempt ▸ hother.symm), h.single j id hj hlink]
    rfl
  · have hpos := h.retried c hc hst
    rw [hcount]
    split <;> omega

-- ==== the effects

/-- A call that hands nothing to a worker but a Command without API
attempts. Only `enqueue` can name another one. -/
def EnqueuesUnattempted (s : State) (call : Call) : Prop :=
  ∀ request commandId, call.op = .enqueue request → request.commandId = some commandId →
    s.attemptCountFor commandId = 0

theorem ExecutorsAgree.initial (W : Surroundings) :
    ExecutorsAgree (State.initial W).jobs (State.initial W).commands
      (State.initial W).commandAttempts (State.initial W).routeDecisions := by
  refine ⟨?_, ?_, ?_, ?_⟩
  · intro d hd
    cases hd
  · intro d hd
    cases hd
  · intro j commandId hj
    cases hj
  · intro c hc
    cases hc

theorem Attempted.counted (h : Attempted cfg C CA) (hc : C.get? c.commandId = some c)
    (hprocessing : c.status = .processing) : 0 < countOf CA c.commandId := by
  obtain ⟨a, ha, hcommand, -⟩ := h.processing c hc hprocessing
  have hmem : a ∈ attemptsOf CA c.commandId := mem_attemptsOf.mpr ⟨ha, hcommand⟩
  have hpos := List.length_pos_of_mem hmem
  rw [countOf]
  omega

/-- A Command put where it may go is retried only after an execution. -/
theorem CommandPut.retried {O O' : Table outboxEvents} {D D' : Table integrationDeliveries}
    (hput : CommandPut c c' C O D C' O' D') (h : ExecutorsAgree J C CA RD)
    (hattempted : Attempted cfg C CA) (hstatus : c'.status = .failedRetryable) :
    0 < countOf CA c'.commandId := by
  rw [hput.same.commandId]
  rcases hput.allowed with hvalid | ⟨hsame, -⟩
  · refine hattempted.counted hput.stored ?_
    rw [hstatus] at hvalid
    cases hc : c.status <;> rw [hc] at hvalid <;> first | rfl | cases hvalid
  · exact h.retried c hput.stored (hsame ▸ hstatus)

theorem WorkerJobStatus.commandStatus_ne_failedRetryable (status : WorkerJobStatus) :
    status.commandStatus ≠ .failedRetryable := by
  cases status <;> decide

/-- The invariant, with the numbering of the attempts it rests on. -/
structure ExecutorInv (cfg : Settings) (s : State) : Prop where
  execution : ExecutionAgree cfg s
  executors : ExecutorsAgree s.jobs s.commands s.commandAttempts s.routeDecisions

theorem ExecutorsAgree.jobMoved {outcome : WorkerJobAttemptStatus} {A : Table workerJobAttempts}
    {R : Table workerJobCancelRequests} {O : Table outboxEvents}
    {D : Table integrationDeliveries} {L : Table accountExecutionLeases}
    (h : ExecutorsAgree s.jobs s.commands s.commandAttempts s.routeDecisions)
    (hmoved : JobMoved call s₀ s j j' outcome J A R C O D L) :
    ExecutorsAgree J C s.commandAttempts s.routeDecisions := by
  have hJ : Evolves SameLink s.jobs J :=
    SameLink.evolves hmoved.stored hmoved.jobs ⟨hmoved.leaves.id, hmoved.leaves.commandId⟩
  rcases hmoved.command with ⟨-, rfl, -, -⟩ | ⟨c, -, -, -, ⟨-, rfl, -, -⟩ | ⟨c', hput, hst⟩⟩
  · exact h.jobs hJ
  · exact h.jobs hJ
  · refine (h.jobs hJ).commandPut hput.put fun hretried => ?_
    exact absurd (hst.symm.trans hretried) (WorkerJobStatus.commandStatus_ne_failedRetryable _)

theorem ExecutorInv.jobAdded (h : ExecutorInv cfg s) (hallow : EnqueuesUnattempted s₀ call)
    (hadd : JobAdded call s₀ s j J RD) : ExecutorsAgree J s.commands s.commandAttempts RD := by
  have hagree := h.executors
  rcases hadd.routed with ⟨rfl, hCA, request, hop, hrequest⟩ | ⟨commandId, hlink, hrouted⟩
  · refine hagree.jobAdded hadd.put hadd.fresh (fun commandId hlink => ?_) (.inl rfl)
    have hnone := hallow request commandId hop (hrequest.trans hlink)
    rw [hCA]
    exact hnone
  · refine hagree.jobAdded hadd.put hadd.fresh (fun id hid => ?_)
      (.inr ⟨commandId, hlink, hrouted.decision⟩)
    obtain rfl := Option.mem_unique hlink hid
    rcases hrouted.first with hnone | ⟨d, hd, hcommand, hworker⟩
    · exact hnone
    · -- a worker has had it, so it has a job
      obtain ⟨j2, hj2, hlink2⟩ := hagree.worker d (mem_rows_iff.mp hd) hworker
      exact absurd (hcommand ▸ hlink2) (hrouted.unlinked j2 (mem_rows_iff.mpr hj2))

theorem ExecutorInv.effect (hallow : EnqueuesUnattempted s₀ call) (h : ExecutorInv cfg s)
    (he : Effect cfg call s₀ s s') : ExecutorInv cfg s' := by
  refine ⟨h.execution.effect he, ?_⟩
  have hagree := h.executors
  have hattempted := h.execution.attempted
  cases he with
  | aside | requestsSettled _ | requestAdded _ | preemptionsSettled _ | preemptionAdded _
  | leaseBumped _ => exact hagree
  | decided hadded => exact hagree.decided hadded
  | jobAdded hadd => exact h.jobAdded hallow hadd
  | jobClaimed hclaimed =>
    exact hagree.jobs (SameLink.evolves hclaimed.stored hclaimed.jobs ⟨rfl, rfl⟩)
  | jobTouched htouched =>
    exact hagree.jobs (SameLink.evolves htouched.stored htouched.jobs
      ⟨htouched.same.id, htouched.same.commandId⟩)
  | jobMoved hmoved => exact hagree.jobMoved hmoved
  | commandAdded hadd =>
    refine hagree.commandPut hadd.put fun hretried => ?_
    rcases hadd.status with hst | hst | hst <;> rw [hst] at hretried <;> cases hretried
  | commandMoved hmoved =>
    have hcloses := hattempted.closes hmoved.put.stored hmoved.attempts
    have hcount := countOf_evolves hcloses.evolves
    refine (hagree.attempts hcount).commandPut hmoved.put.put fun hretried => ?_
    rw [hcount]
    exact hmoved.put.retried hagree hattempted hretried
  | commandClaimed hclaimed =>
    obtain ⟨CA1, hclosed, hfresh, hCA⟩ := hclaimed.attempts
    have hcloses := hattempted.closes hclaimed.put.stored hclosed
    have hclosed := hagree.attempts (countOf_evolves hcloses.evolves)
    refine (hclosed.claimed hCA hfresh hclaimed.attemptOf hclaimed.unlinked
      hclaimed.decision).commandPut hclaimed.put.put fun hretried => ?_
    rw [hclaimed.status] at hretried
    cases hretried
  | commandTouched htouched =>
    refine hagree.commandPut htouched.put.put fun hretried => ?_
    rw [htouched.status] at hretried
    cases hretried

theorem ExecutorInv.reachable (h : (machine cfg).Reachable EnqueuesUnattempted s) :
    ExecutorInv cfg s :=
  Allowed.of_effects (fun W => ⟨ExecutionAgree.initial W, ExecutorsAgree.initial W⟩)
    (fun _ _ _ _ hallow ht he => ht.effect hallow he) h

end ThreadsPlatform
