/-
What the platform has recorded it keeps.

Jobs, Commands, their attempts, cancel requests, preemptions and the
events of the outbox are joined by new rows, never deleted. A later state
still has every row of an earlier one: with its identity, as it was if it
was over, an open attempt closed at most once, a settled request never
pending again, the status of a Command moved along the transition table,
an event unchanged; what its delivery writes is not part of this machine.
-/
import ThreadsPlatform.Proofs.ApiExecution
import ThreadsPlatform.Proofs.Conflicts
import ThreadsPlatform.Proofs.Results
import ThreadsPlatform.Proofs.StaleClaim

namespace ThreadsPlatform

open Relational Table

variable {cfg : Settings} {call : Call} {s s' s0 : State} {j j' : WorkerJob} {c c' : Command}

-- ==== rows

/-- A later version of a job. -/
structure WorkerJob.Ages (j j' : WorkerJob) : Prop extends j.SameJob j' where
  attemptCount : j.attemptCount ≤ j'.attemptCount
  finished : j.status.terminal = true → j' = j

/-- A later version of a Command. -/
structure Command.Ages (c c' : Command) : Prop extends c.SameCommand c' where
  path : Relation.ReflTransGen (fun a b => validTransition a b = true) c.status c'.status
  finished : c.status.terminal = true → c' = c

/-- A later version of a job's attempt. -/
def WorkerJobAttempt.Ages : WorkerJobAttempt → WorkerJobAttempt → Prop :=
  ClosesOnce (·.status = .running) fun a a' => ∃ outcome now code, a' = a.close outcome now code

/-- A later version of a Command's attempt. -/
def CommandAttempt.Ages : CommandAttempt → CommandAttempt → Prop :=
  ClosesOnce (·.status = .processing) fun a a' =>
    ∃ outcome now code, a' = a.close outcome now code

theorem WorkerJob.Ages.refl (j : WorkerJob) : j.Ages j :=
  ⟨.refl j, le_refl _, fun _ => rfl⟩

theorem WorkerJob.Ages.trans {j1 : WorkerJob} (h : j.Ages j1) (h' : j1.Ages j') : j.Ages j' := by
  refine ⟨h.toSameJob.trans h'.toSameJob, h.attemptCount.trans h'.attemptCount, fun hterminal => ?_⟩
  obtain rfl := h.finished hterminal
  exact h'.finished hterminal

theorem Command.Ages.refl (c : Command) : c.Ages c :=
  ⟨.refl c, .refl, fun _ => rfl⟩

theorem Command.Ages.trans {c1 : Command} (h : c.Ages c1) (h' : c1.Ages c') : c.Ages c' := by
  refine ⟨?_, h.path.trans h'.path, fun hterminal => ?_⟩
  · obtain ⟨⟨⟩, -, -⟩ := h
    obtain ⟨⟨⟩, -, -⟩ := h'
    constructor <;> simp_all only
  · obtain rfl := h.finished hterminal
    exact h'.finished hterminal

-- ==== one effect

/-- An unfinished job is written over. -/
theorem JobsGrow.put {J J' : Table workerJobs} (hj : J.get? j.id = some j)
    (hopen : j.status.terminal = false) (hsame : j.SameJob j')
    (hcount : j.attemptCount ≤ j'.attemptCount) (hput : Put J j' J') :
    Grows WorkerJob.Ages J J' := by
  refine hput.ages .refl hj hsame.id ⟨hsame, hcount, fun hterminal => ?_⟩
  rw [hopen] at hterminal
  cases hterminal

theorem Effect.jobs_grow (h : Effect cfg call s0 s s') : Grows WorkerJob.Ages s.jobs s'.jobs := by
  cases h with
  | jobAdded h => exact h.put.joins .refl h.fresh
  | jobClaimed h =>
    refine JobsGrow.put h.stored ?_ WorkerJob.sameJob_claimed
      (Int.le_add_one (le_refl _)) h.jobs
    rcases h.claimable.status with hstatus | hstatus | hstatus <;> rw [hstatus] <;> rfl
  | jobTouched h =>
    refine JobsGrow.put h.stored ?_ h.same h.attemptCount.ge h.jobs
    rw [(WorkerJob.ownsLease_iff.mp h.owned).1]
    rfl
  | jobMoved h =>
    exact JobsGrow.put h.stored h.unfinished h.leaves.toSameJob
      h.leaves.attemptCount.ge h.jobs
  | _ => exact .refl .refl

theorem AttemptClosed.grows {jobId : Uuid} {outcome : WorkerJobAttemptStatus} {now : Time}
    {A : Table workerJobAttempts} (h : AttemptClosed now s jobId outcome A)
    (hne : outcome ≠ .running) : Grows WorkerJobAttempt.Ages s.attempts A := by
  rcases h with ⟨-, rfl⟩ | ⟨a, code, ha, hput⟩
  · exact .refl .refl
  · obtain ⟨hget, -, hrunning⟩ := State.runningAttempt?_some ha
    exact hput.ages .refl hget rfl (.inr ⟨hrunning, hne, _, _, _, rfl⟩)

theorem Effect.attempts_grow (h : Effect cfg call s0 s s') :
    Grows WorkerJobAttempt.Ages s.attempts s'.attempts := by
  cases h with
  | jobClaimed h =>
    obtain ⟨A, hclosed, hfresh, hput⟩ := h.attempts
    refine Grows.trans .trans ?_ (hput.joins .refl hfresh)
    rcases hclosed with ⟨-, hclosed⟩ | ⟨-, rfl⟩
    · exact hclosed.grows (by decide)
    · exact .refl .refl
  | jobMoved h =>
    rcases h.ending with ⟨-, rfl, -⟩ | ⟨hclosed, -⟩
    · exact .refl .refl
    · exact hclosed.grows h.outcome_closed
  | _ => exact .refl .refl

theorem Effect.requests_grow (h : Effect cfg call s0 s s') :
    Grows WorkerJobCancelRequest.Settles s.cancelRequests s'.cancelRequests := by
  cases h with
  | requestsSettled h => exact h.grows
  | requestAdded h =>
    obtain ⟨R, hsettle, hfresh, hput⟩ := h.put
    exact hsettle.grows.trans .trans (hput.joins .refl hfresh)
  | jobClaimed h =>
    rcases h.requests with ⟨-, hclosed⟩ | ⟨-, rfl⟩
    · exact hclosed.1.grows
    · exact .refl .refl
  | jobMoved h =>
    rcases h.ending with ⟨-, -, rfl⟩ | ⟨-, hclosed⟩
    · exact .refl .refl
    · exact hclosed.1.grows
  | _ => exact .refl .refl

theorem Effect.preemptions_grow (h : Effect cfg call s0 s s') :
    Grows WorkerJobPreemption.Settles s.preemptions s'.preemptions := by
  cases h with
  | preemptionsSettled h => exact h.grows
  | preemptionAdded h => exact h.put.joins .refl h.fresh
  | _ => exact .refl .refl

theorem CommandPut.grows {C C' : Table commands} {O O' : Table outboxEvents}
    {D D' : Table integrationDeliveries} (h : CommandPut c c' C O D C' O' D') :
    Grows Command.Ages C C' := by
  refine h.put.ages .refl h.stored h.same.commandId ⟨h.same, ?_, fun hterminal => ?_⟩
  · rcases h.allowed with hvalid | ⟨hstatus, -⟩
    · exact .single hvalid
    · rw [hstatus]
  · rw [h.unfinished] at hterminal
    cases hterminal

theorem Effect.commands_grow (h : Effect cfg call s0 s s') :
    Grows Command.Ages s.commands s'.commands := by
  cases h with
  | jobMoved h =>
    rcases h.command with ⟨-, rfl, -⟩ | ⟨c, -, -, -, ⟨-, rfl, -⟩ | ⟨c', hput, -⟩⟩
    · exact .refl .refl
    · exact .refl .refl
    · exact hput.grows
  | commandAdded h => exact h.put.joins .refl h.fresh
  | commandMoved h | commandClaimed h | commandTouched h => exact h.put.grows
  | _ => exact .refl .refl

theorem ExecutionClosed.grows {now : Time} {CA : Table commandAttempts}
    (h : ExecutionClosed now s c CA) : Grows CommandAttempt.Ages s.commandAttempts CA := by
  rcases h with ⟨-, rfl⟩ | ⟨-, a, outcome, code, ha, hne, hput⟩
  · exact .refl .refl
  · obtain ⟨hget, -, hrunning⟩ := processingAttempt?_some ha
    exact hput.ages .refl hget rfl (.inr ⟨hrunning, hne, _, _, _, rfl⟩)

theorem Effect.commandAttempts_grow (h : Effect cfg call s0 s s') :
    Grows CommandAttempt.Ages s.commandAttempts s'.commandAttempts := by
  cases h with
  | commandMoved h => exact h.attempts.grows
  | commandClaimed h =>
    obtain ⟨CA, hclosed, hfresh, hput⟩ := h.attempts
    exact hclosed.grows.trans .trans (hput.joins .refl hfresh)
  | _ => exact .refl .refl

/-- An event joins the outbox only when a Command ends. -/
theorem ResultStored.grows {O O' : Table outboxEvents} {D D' : Table integrationDeliveries}
    (h : if c.status.terminal then ResultStored c O D O' D' else O' = O ∧ D' = D) :
    Grows Eq O O' := by
  split at h
  · obtain ⟨e, δ, hfresh, hput, -⟩ := h.event
    exact hput.joins Eq.refl hfresh
  · rw [h.1]
    exact .refl Eq.refl

theorem Effect.outbox_grows (h : Effect cfg call s0 s s') :
    Grows Eq s.outboxEvents s'.outboxEvents := by
  cases h with
  | jobMoved h =>
    rcases h.command with ⟨-, -, rfl, -⟩ | ⟨c, -, -, -, ⟨-, -, rfl, -⟩ | ⟨c', hput, -⟩⟩
    · exact .refl Eq.refl
    · exact .refl Eq.refl
    · exact ResultStored.grows hput.result
  | commandAdded h => exact ResultStored.grows h.result
  | commandMoved h => exact ResultStored.grows h.put.result
  | _ => exact .refl Eq.refl

-- ==== runs

theorem Later.grows {κ ρ : Type} [DecidableEq κ] {S : Schema κ ρ} {rel : ρ → ρ → Prop}
    (h : Later cfg s s') (table : State → Table S) (hrefl : ∀ r, rel r r)
    (htrans : ∀ {a b c}, rel a b → rel b c → rel a c)
    (heffect : ∀ {call s0 s s'}, Effect cfg call s0 s s' → Grows rel (table s) (table s')) :
    Grows rel (table s) (table s') :=
  h.of_effects (I := fun t => Grows rel (table s) (table t)) (.refl hrefl)
    fun _ _ _ _ hs he => hs.trans htrans (heffect he)

/-- Whatever calls follow, in whatever order, nothing recorded is lost,
reopened or rewritten. -/
theorem history_kept (h : Later cfg s s') :
    Grows WorkerJob.Ages s.jobs s'.jobs ∧ Grows WorkerJobAttempt.Ages s.attempts s'.attempts
      ∧ Grows WorkerJobCancelRequest.Settles s.cancelRequests s'.cancelRequests
      ∧ Grows WorkerJobPreemption.Settles s.preemptions s'.preemptions
      ∧ Grows Command.Ages s.commands s'.commands
      ∧ Grows CommandAttempt.Ages s.commandAttempts s'.commandAttempts
      ∧ Grows Eq s.outboxEvents s'.outboxEvents :=
  ⟨h.grows (·.jobs) .refl .trans Effect.jobs_grow,
    h.grows (·.attempts) .refl .trans Effect.attempts_grow,
    h.grows (·.cancelRequests) .refl .trans Effect.requests_grow,
    h.grows (·.preemptions) .refl .trans Effect.preemptions_grow,
    h.grows (·.commands) .refl .trans Effect.commands_grow,
    h.grows (·.commandAttempts) .refl .trans Effect.commandAttempts_grow,
    h.grows (·.outboxEvents) Eq.refl .trans Effect.outbox_grows⟩

theorem history_kept_checkpointed :
    Grows WorkerJob.Ages (Sample.after awaitedRun).jobs checkpointedState.jobs :=
  (history_kept (.step .refl (Nat.le_refl 0) fun _ hclaim => by cases hclaim)).1

-- ==== what the CRM is told

/-- The CRM hears of a Command that has a job once the job is over, hears
how it ended, and neither the job nor the event changes after that. -/
theorem outcome_reported (h : (machine cfg).Reachable Unrouted s) (hj : s.jobs.get? j.id = some j)
    {commandId : String} (hlink : j.commandId = some commandId) :
    (j.status.terminal = true ↔ ∃ e ∈ s.outboxEvents.rows, e.aggregateId = commandId)
      ∧ ∀ e ∈ s.outboxEvents.rows, e.aggregateId = commandId →
        e.payload.status = j.status.commandStatus
          ∧ ∀ s', Later cfg s s' →
            s'.jobs.get? j.id = some j ∧ s'.outboxEvents.get? e.id = some e := by
  obtain ⟨c, hc, hpaired⟩ := paired_of_reachable h j hj commandId hlink
  obtain rfl : c.commandId = commandId := key_of_get? hc
  have hagree := ResultsAgree.reachable (h.mono fun _ _ _ => trivial)
  have hterminal : c.status.terminal = j.status.terminal := by
    rw [hpaired]
    cases j.status <;> rfl
  have htold : ∀ e ∈ s.outboxEvents.rows, e.aggregateId = c.commandId →
      c.status.terminal = true ∧ e.payload.status = c.status := by
    intro e he hof
    obtain ⟨-, c', hc', hover, hstatus, -⟩ := hagree.finished e (mem_rows_iff.mp he)
    rw [hof, hc] at hc'
    cases hc'
    exact ⟨hover, hstatus⟩
  refine ⟨⟨fun hover => ?_, fun hevent => ?_⟩, fun e he hof => ?_⟩
  · obtain ⟨e, -, he, hof, -⟩ := hagree.recorded c hc (hterminal.trans hover)
    exact ⟨e, mem_rows_iff.mpr he, hof⟩
  · obtain ⟨e, he, hof⟩ := hevent
    exact hterminal ▸ (htold e he hof).1
  · obtain ⟨hover, hstatus⟩ := htold e he hof
    refine ⟨hstatus.trans hpaired, fun s' hlater => ?_⟩
    obtain ⟨j', hj', hages⟩ := hlater.grows (·.jobs) .refl .trans Effect.jobs_grow j.id j hj
    obtain ⟨_, he', rfl⟩ := hlater.grows (·.outboxEvents) Eq.refl .trans Effect.outbox_grows
      e.id e (mem_rows_iff.mp he)
    rw [hj', hages.finished (hterminal ▸ hover)]
    exact ⟨rfl, he'⟩

open Sample in
/-- The worker asks for an operator: nothing is told yet. -/
theorem outcome_reported_suspended : ¬ ∃ e ∈ (after suspendedRun).outboxEvents.rows,
    e.aggregateId = "browse" := by
  obtain ⟨j, hj, hopen, hlink⟩ : ∃ j ∈ (after suspendedRun).jobs.rows,
      j.status.terminal = false ∧ j.commandId = some "browse" := by decide +kernel
  rw [← (outcome_reported suspendedRun_unrouted (mem_rows_iff.mp hj) hlink).1, hopen]
  exact Bool.false_ne_true

end ThreadsPlatform
