/-
What each helper of the two services reads and writes.

Every lemma here has one shape: if the helper commits, the state
afterwards is the old one with these tables replaced, and the new
tables stand in this relation to the old. The operations' proofs cite
these and never unfold a helper.
-/
import ThreadsPlatform.Effects.Basic

namespace ThreadsPlatform

open Relational Table

variable {target : CommandStatus} {payload : Document} {priority version : Int}
  {ps : List WorkerJobPreemption} {result : Option Document} {g : Option Int} {code : Option String}
  {deadlineAt retryAt : Option Time} {commandId commandType correlationId reason : String}
  {L L₁ : Table accountExecutionLeases} {C : Table commands} {R : Table workerJobCancelRequests}
  {createdAt receivedAt : Time} {id : Uuid} {a : WorkerJobAttempt}
  {outcome : WorkerJobAttemptStatus} {r' : WorkerJobCancelRequest} {p : WorkerJobPreemption}
  {status : WorkerJobPreemptionStatus}

-- ==== row writes

section Rows

variable {κ ρ : Type} [DecidableEq κ] {S : Schema κ ρ} {t t' : Table S} {r : ρ}

theorem addRow_ok (h : addRow t r = .ok t') : t.get? (S.key r) = none ∧ Put t r t' := by
  unfold addRow at h
  rw [orThrow_eq_ok] at h
  exact ⟨insert_fresh h, insert_put h⟩

theorem updateRow_ok (h : updateRow t r = .ok t') :
    (∃ r0, t.get? (S.key r) = some r0) ∧ Put t r t' := by
  unfold updateRow at h
  rw [orThrow_eq_ok] at h
  exact ⟨update_present h, update_put h⟩

end Rows

theorem WorkerJob.SameJob.put_frame {j j' : WorkerJob} {J J' : Table workerJobs}
    (h : j.SameJob j') (hJ : Put J j' J') (k : Uuid) (hk : k ≠ j.id) :
    J'.get? k = J.get? k := by
  refine hJ.get?_ne ?_
  show k ≠ j'.id
  rw [h.id]
  exact hk

-- ==== queries

namespace State

variable {s : State} {jobId : Uuid} {r : WorkerJobCancelRequest}

theorem runningAttempt?_some (h : s.runningAttempt? jobId = some a) :
    s.attempts.get? a.id = some a ∧ a.workerJobId = jobId ∧ a.status = .running := by
  have hmem := firstBy_mem _ h
  simp only [List.mem_filter, checks_hold] at hmem
  exact ⟨mem_rows_iff.mp hmem.1, hmem.2⟩

theorem runningAttempt?_none (h : s.runningAttempt? jobId = none)
    (ha : s.attempts.get? a.id = some a) (hj : a.workerJobId = jobId) : a.status ≠ .running := by
  intro hr
  have hempty := (firstBy_eq_none _).mp h
  have hmem : a ∈ s.attempts.rows.filter fun a => decide (a.workerJobId = jobId)
      && decide (a.status = .running) := by
    simp [List.mem_filter, mem_rows_iff.mpr ha, hj, hr]
  rw [hempty] at hmem
  cases hmem

theorem pendingFor?_some (h : s.pendingFor? jobId = some r) :
    s.cancelRequests.get? r.id = some r ∧ r.workerJobId = jobId ∧ r.status = .pending := by
  have hmem := firstBy_mem _ h
  simp only [List.mem_filter, checks_hold] at hmem
  exact ⟨mem_rows_iff.mp hmem.1, hmem.2⟩

/-- A job with a pending request has a first pending request. -/
theorem pendingFor?_of_pending (hr : s.cancelRequests.get? r.id = some r)
    (hj : r.workerJobId = jobId) (hp : r.status = .pending) :
    ∃ r', s.pendingFor? jobId = some r' := by
  refine firstBy_of_mem _ (r := r) ?_
  simp [List.mem_filter, mem_rows_iff.mpr hr, hj, hp]

private theorem le_foldl_max (ns : List Int) :
    ∀ m : Int, m ≤ ns.foldl max m ∧ ∀ n ∈ ns, n ≤ ns.foldl max m := by
  induction ns with
  | nil => intro m; simp
  | cons n ns ih =>
    intro m
    obtain ⟨hm, hns⟩ := ih (max m n)
    rw [List.foldl_cons]
    refine ⟨by omega, ?_⟩
    intro k hk
    rcases List.mem_cons.mp hk with rfl | hk
    · omega
    · exact hns k hk

/-- `latest_generation` bounds every generation of the job. -/
theorem le_latestGeneration (hr : r ∈ s.cancelRequests.rows) (hj : r.workerJobId = jobId) :
    r.generation ≤ s.latestGeneration jobId := by
  refine (le_foldl_max _ 0).2 _ (List.mem_map.mpr ⟨r, ?_, rfl⟩)
  simp [List.mem_filter, hr, hj]

theorem latestGeneration_nonneg (jobId : Uuid) : 0 ≤ s.latestGeneration jobId :=
  (le_foldl_max _ 0).1

theorem mem_listWaiting {which : WorkerJobPreemption → Bool} :
    p ∈ s.listWaiting which
      ↔ s.preemptions.get? p.id = some p ∧ which p = true ∧ p.status = .waitingForQuiescence := by
  unfold listWaiting
  rw [List.mem_insertionSort, List.mem_filter, mem_rows_iff, Bool.and_eq_true, decide_eq_true_eq]
  rfl

theorem mem_listRunningBrowser {accountId : Uuid} {j : WorkerJob} :
    j ∈ s.listRunningBrowserForAccount accountId
      ↔ s.jobs.get? j.id = some j ∧ j.accountId = some accountId ∧ j.isBrowserProfile = true
        ∧ j.status = .running := by
  unfold listRunningBrowserForAccount WorkerJob.isBrowserProfile
  rw [List.mem_insertionSort, List.mem_filter, mem_rows_iff]
  simp only [checks_hold]
  constructor
  · rintro ⟨hj, ⟨⟨ha, hb⟩, hc⟩, hd⟩
    exact ⟨hj, ha, ⟨⟨by rw [ha]; rfl, hb⟩, hc⟩, hd⟩
  · rintro ⟨hj, ha, ⟨⟨-, hb⟩, hc⟩, hd⟩
    exact ⟨hj, ⟨⟨ha, hb⟩, hc⟩, hd⟩

theorem jobForCommand?_none (h : s.jobForCommand? commandId = none) :
    ∀ j ∈ s.jobs.rows, j.commandId ≠ some commandId := by
  intro j hj
  have hno := List.find?_eq_none.mp h j hj
  simpa using hno

/-- A job linked to the Command is the one the query finds. -/
theorem jobForCommand?_some {j : WorkerJob} (hj : s.jobs.get? j.id = some j)
    (hc : j.commandId = some commandId) : s.jobForCommand? commandId = some j := by
  cases h : s.jobForCommand? commandId with
  | none => exact absurd hc (jobForCommand?_none h j (mem_rows_iff.mpr hj))
  | some j' =>
    have hmem := List.mem_of_find?_eq_some h
    have hcj' : j'.commandId = some commandId := by
      simpa using List.find?_some h
    have hj' : s.jobs.get? j'.id = some j' := mem_rows_iff.mp hmem
    by_cases hid : j'.id = j.id
    · rw [hid, hj] at hj'
      exact hj'.symm
    · -- two rows linked to one Command break the UNIQUE constraint
      have hclash := clash_of_get? hj' hj hid
      simp [workerJobs, hcj', hc] at hclash

end State

-- ==== commands

namespace Command

variable {c c' : Command}

theorem SameCommand.refl (c : Command) : c.SameCommand c := by
  constructor <;> rfl

theorem transition_ok {now : Time} (h : c.transition target now code result retryAt = .ok c') :
    validTransition c.status target = true ∧ c'.status = target ∧ c.SameCommand c'
      ∧ c'.executionLeaseToken = c.executionLeaseToken
      ∧ c'.executionLeaseExpiresAt = c.executionLeaseExpiresAt
      ∧ c'.checkpoint = c.checkpoint := by
  simp only [transition, steps_ok] at h
  obtain ⟨hvalid, -, -, -, rfl⟩ := h
  exact ⟨hvalid, rfl, by constructor <;> rfl, rfl, rfl, rfl⟩

theorem reclaim_ok {now : Time} (h : c.reclaim now = .ok c') :
    c.status = .processing ∧ c'.status = c.status ∧ c.SameCommand c'
      ∧ c'.checkpoint = c.checkpoint := by
  simp only [reclaim, steps_ok] at h
  obtain ⟨hs, -, rfl⟩ := h
  exact ⟨hs, rfl, by constructor <;> rfl, rfl⟩

theorem create_ok {accountId : Uuid}
    (h : create id commandId correlationId accountId commandType payload version priority
      createdAt receivedAt deadlineAt = .ok c) :
    c.commandId = commandId ∧ c.status = .received ∧ c.accountId = accountId
      ∧ c.checkpoint = none := by
  simp only [create, steps_ok] at h
  obtain ⟨-, -, rfl⟩ := h
  exact ⟨rfl, rfl, rfl, rfl⟩

theorem postInit_named (h : c.postInit = .ok ()) :
    notBlank c.commandId = true ∧ notBlank c.commandType = true := by
  simp only [postInit, steps_ok] at h
  exact ⟨h.1.1, h.2.1.1⟩

/-- A new Command has its texts, and the payload it was given. -/
theorem create_named {accountId : Uuid}
    (h : create id commandId correlationId accountId commandType payload version priority
      createdAt receivedAt deadlineAt = .ok c) :
    (notBlank c.commandId = true ∧ notBlank c.commandType = true)
      ∧ c.commandType = commandType ∧ c.payload = payload := by
  simp only [create, steps_ok] at h
  obtain ⟨⟨⟩, hinit, rfl⟩ := h
  exact ⟨postInit_named hinit, rfl, rfl⟩

theorem not_terminal_of_validTransition {source : CommandStatus}
    (h : validTransition source target = true) : source.terminal = false := by
  cases source <;> cases target <;> first | rfl | cases h

end Command

theorem CommandPut.unfinished {c c' : Command} {C' : Table commands} {O O' : Table outboxEvents}
    {D D' : Table integrationDeliveries} (h : CommandPut c c' C O D C' O' D') :
    c.status.terminal = false := by
  rcases h.allowed with hvalid | ⟨-, hopen⟩
  · exact Command.not_terminal_of_validTransition hvalid
  · exact hopen

/-- The result of a Command is stored with its delivery. -/
theorem enqueueCommandResult_ok {s s' : State} {c : Command} {now : Time}
    {lifetime : Duration} {destination : String} {d : Draws}
    (h : enqueueCommandResult s c now lifetime destination d = .ok s') :
    ∃ O D, s' = { s with outboxEvents := O, deliveries := D }
      ∧ ResultStored c s.outboxEvents s.deliveries O D := by
  simp only [enqueueCommandResult, steps_ok] at h
  obtain ⟨-, -, O, hO, D, hD, rfl⟩ := h
  refine ⟨O, D, rfl, ⟨_, _, (addRow_ok hO).1, (addRow_ok hO).2, (addRow_ok hD).1,
    (addRow_ok hD).2, rfl, rfl, rfl, rfl, rfl, rfl⟩⟩

/-- A transition of a stored Command that does not end it. -/
theorem commandPut_open {s : State} {c c' : Command} {now : Time}
    (hc : s.commands.get? c.commandId = some c)
    (ht : c.transition target now code result retryAt = .ok c') (hopen : target.terminal = false)
    (hC : updateRow s.commands c' = .ok C) :
    CommandPut c c' s.commands s.outboxEvents s.deliveries C s.outboxEvents s.deliveries := by
  obtain ⟨hvalid, hstatus, hsame, -, -, hcheckpoint⟩ := Command.transition_ok ht
  refine ⟨hc, hsame, .inl (hstatus ▸ hvalid), (updateRow_ok hC).2, .inl hcheckpoint, ?_⟩
  rw [hstatus, hopen]
  exact ⟨rfl, rfl⟩

namespace WorkerJobService

variable {cfg : Settings} {d : Draws} {now : Time} {s s' : State} {j : WorkerJob} {jobId : Uuid}
  {r : WorkerJobCancelRequest}

theorem commandForJob_ok {command : Option Command} (h : commandForJob s j = .ok command) :
    (j.commandId = none ∧ command = none) ∨ ∃ c, j.commandId = some c.commandId ∧ command = some c
        ∧ s.commands.get? c.commandId = some c := by
  unfold commandForJob at h
  split at h
  case h_1 hnone =>
    rw [pure_eq_ok] at h
    exact .inl ⟨hnone, h.symm⟩
  case h_2 commandId hsome =>
    simp only [steps_ok] at h
    obtain ⟨c, hc, rfl⟩ := h
    have hid : c.commandId = commandId := key_of_get? hc
    exact .inr ⟨c, by rw [hsome, hid], rfl, by rw [hid]; exact hc⟩

theorem setCommandWaitingIntervention_ok (h : setCommandWaitingIntervention now s j = .ok s') :
    ∃ C, s' = { s with commands := C }
      ∧ CommandFollows s j .waitingIntervention C s.outboxEvents s.deliveries := by
  simp only [setCommandWaitingIntervention, bind_eq_ok] at h
  obtain ⟨command, hcommand, h⟩ := h
  rcases commandForJob_ok hcommand with ⟨hnone, rfl⟩ | ⟨c, hlink, rfl, hc⟩
  · cases h
    exact ⟨s.commands, rfl, .inl ⟨.inl hnone, rfl, rfl, rfl⟩⟩
  · dsimp only at h
    split at h
    case isTrue hwaiting =>
      simp only [steps_ok] at h
      obtain ⟨c', ht, C, hC, rfl⟩ := h
      refine ⟨C, rfl, .inr ⟨c, hlink, hc, .inl hwaiting, .inr ⟨c', ?_, ?_⟩⟩⟩
      · exact commandPut_open hc ht rfl hC
      · exact (Command.transition_ok ht).2.1
    · simp only [steps_ok] at h
      obtain ⟨hwaiting, rfl⟩ := h
      exact ⟨s.commands, rfl, .inr ⟨c, hlink, hc, .inr hwaiting, .inl ⟨hwaiting, rfl, rfl, rfl⟩⟩⟩

theorem setCommandWaitingExecution_ok (h : setCommandWaitingExecution now s j = .ok s') :
    ∃ C, s' = { s with commands := C }
      ∧ CommandFollows s j .queued C s.outboxEvents s.deliveries := by
  simp only [setCommandWaitingExecution, bind_eq_ok] at h
  obtain ⟨command, hcommand, h⟩ := h
  rcases commandForJob_ok hcommand with ⟨hnone, rfl⟩ | ⟨c, hlink, rfl, hc⟩
  · cases h
    exact ⟨s.commands, rfl, .inl ⟨.inl hnone, rfl, rfl, rfl⟩⟩
  · dsimp only at h
    split at h
    case isTrue hwaiting =>
      simp only [steps_ok] at h
      obtain ⟨c', ht, C, hC, rfl⟩ := h
      refine ⟨C, rfl, .inr ⟨c, hlink, hc, .inr hwaiting, .inr ⟨c', ?_, ?_⟩⟩⟩
      · exact commandPut_open hc ht rfl hC
      · exact (Command.transition_ok ht).2.1
    · simp only [steps_ok] at h
      obtain ⟨hwaiting, rfl⟩ := h
      exact ⟨s.commands, rfl, .inr ⟨c, hlink, hc, .inl hwaiting, .inl ⟨hwaiting, rfl, rfl, rfl⟩⟩⟩

/-- `_finalize_command` ends the Command the way the job ended. -/
theorem finalizeCommand_ok (status : WorkerJobStatus) (htarget : target = status.commandStatus)
    (hterminal : target.terminal = true)
    (h : finalizeCommand cfg d now s j target result code = .ok s') :
    ∃ C O D, s' = { s with commands := C, outboxEvents := O, deliveries := D }
      ∧ CommandFollows s j status C O D := by
  simp only [finalizeCommand, bind_eq_ok] at h
  obtain ⟨command, hcommand, h⟩ := h
  rcases commandForJob_ok hcommand with ⟨hnone, rfl⟩ | ⟨c, hlink, rfl, hc⟩
  · cases h
    exact ⟨s.commands, s.outboxEvents, s.deliveries, rfl, .inl ⟨.inl hnone, rfl, rfl, rfl⟩⟩
  · simp only [steps_ok] at h
    obtain ⟨hwaiting, c', ht, C, hC, h⟩ := h
    obtain ⟨O, D, rfl, hresult⟩ := enqueueCommandResult_ok h
    obtain ⟨hvalid, hstatus, hsame, -, -, hcheckpoint⟩ := Command.transition_ok ht
    refine ⟨C, O, D, rfl, .inr ⟨c, hlink, hc, hwaiting, .inr ⟨c', ⟨hc, hsame,
      .inl (hstatus ▸ hvalid), (updateRow_ok hC).2, .inl hcheckpoint, ?_⟩, hstatus.trans htarget⟩⟩⟩
    rw [hstatus, hterminal]
    exact hresult

/-- There is an open intervention afterwards, and none is lost. -/
theorem addIntervention_ok {workerId : Option Uuid} {kind detail : String}
    (h : addIntervention d now s j workerId kind detail = .ok s') :
    ∃ I, s' = { s with interventions := I }
      ∧ (∃ i, I.get? i.id = some i ∧ i.workerJobId = j.id ∧ i.status = .open)
      ∧ ∀ i, s.interventions.get? i.id = some i → I.get? i.id = some i := by
  unfold addIntervention at h
  split at h
  · rename_i i hi
    cases h
    have hmem := List.mem_of_find?_eq_some hi
    have hfound := List.find?_some hi
    simp only [checks_hold] at hfound
    exact ⟨s.interventions, rfl, ⟨i, mem_rows_iff.mp hmem, hfound⟩, fun _ h => h⟩
  · simp only [steps_ok] at h
    obtain ⟨i, hi, I, hI, rfl⟩ := h
    simp only [WorkerIntervention.create, steps_ok] at hi
    obtain ⟨-, rfl⟩ := hi
    obtain ⟨hfresh, hput⟩ := addRow_ok hI
    have hself := hput.get?_self
    refine ⟨I, rfl, ⟨{ id := d.interventionId j.id, workerJobId := j.id, .. }, hself, rfl, rfl⟩,
      fun i' hi' => hput.get?_of_fresh hfresh hi'⟩

theorem cancelIntervention_ok (h : cancelIntervention now s jobId = .ok s') :
    ∃ I, s' = { s with interventions := I }
      ∧ ∀ i, s.interventions.get? i.id = some i → i.workerJobId ≠ jobId → I.get? i.id = some i := by
  unfold cancelIntervention at h
  split at h
  · cases h
    exact ⟨s.interventions, rfl, fun _ h _ => h⟩
  · rename_i i0 hi0
    simp only [steps_ok] at h
    obtain ⟨I, hI, rfl⟩ := h
    refine ⟨I, rfl, fun i hi hjob => ((updateRow_ok hI).2.get?_ne fun heq => hjob ?_).trans hi⟩
    have hstored := mem_rows_iff.mp (List.mem_of_find?_eq_some hi0)
    have hfound := List.find?_some hi0
    simp only [checks_hold] at hfound
    have hkey : i.id = i0.id := heq
    rw [hkey] at hi
    obtain rfl := Option.mem_unique hi hstored
    exact hfound.1

-- ---- cancel requests

theorem supersede_settles (h : r.supersede now reason = .ok r') :
    r.Settles r' ∧ r'.status ≠ .pending := by
  simp only [WorkerJobCancelRequest.supersede, steps_ok] at h
  obtain ⟨hp, -, rfl⟩ := h
  exact ⟨⟨rfl, rfl, rfl, rfl, rfl, fun _ => hp⟩, by simp⟩

theorem acknowledge_settles {phase : String} (h : r.acknowledge now phase = .ok r') :
    r.Settles r' ∧ r'.status ≠ .pending := by
  simp only [WorkerJobCancelRequest.acknowledge, steps_ok] at h
  obtain ⟨hp, -, rfl⟩ := h
  exact ⟨⟨rfl, rfl, rfl, rfl, rfl, fun _ => hp⟩, by simp⟩

/-- Writing the settled form of a job's pending request leaves the other
jobs' alone. -/
theorem others_of_update {r2 : WorkerJobCancelRequest} (hr : s.pendingFor? jobId = some r)
    (hsettle : r.Settles r') (hR : updateRow s.cancelRequests r' = .ok R)
    (hr2 : s.cancelRequests.get? r2.id = some r2) (hjob : r2.workerJobId ≠ jobId) :
    R.get? r2.id = some r2 := by
  obtain ⟨hstored, hjob', -⟩ := State.pendingFor?_some hr
  rw [(updateRow_ok hR).2.get?_ne]
  · exact hr2
  · intro hid
    have hid : r2.id = r.id := hid.trans hsettle.id
    rw [hid, hstored] at hr2
    injection hr2 with hr2
    exact hjob (hr2 ▸ hjob')

theorem requestClosed_of_update (hr : s.pendingFor? jobId = some r) (hsettle : r.Settles r')
    (hdone : r'.status ≠ .pending) (hR : updateRow s.cancelRequests r' = .ok R) :
    RequestClosed s jobId R := by
  have hput := (updateRow_ok hR).2
  have hkey : workerJobCancelRequests.key r' = r.id := hsettle.id
  refine ⟨hput.evolves .refl ?_ hsettle, ?_, fun _ => others_of_update hr hsettle hR⟩
  · rw [hkey]
    exact (State.pendingFor?_some hr).1
  · intro r2 hr2
    rw [hr] at hr2
    cases hr2
    exact ⟨r', hkey ▸ hput.get?_self, hdone⟩

theorem supersedePendingCancel_ok (h : supersedePendingCancel now s jobId reason = .ok s') :
    ∃ R, s' = { s with cancelRequests := R } ∧ RequestClosed s jobId R := by
  unfold supersedePendingCancel at h
  split at h
  case h_1 hnone =>
    rw [pure_eq_ok] at h
    refine ⟨s.cancelRequests, h.symm, .refl .refl _, ?_, fun _ hr _ => hr⟩
    intro r hr
    rw [hnone] at hr
    cases hr
  case h_2 r hr =>
    simp only [steps_ok] at h
    obtain ⟨r', hr', R, hR, rfl⟩ := h
    obtain ⟨hsettle, hdone⟩ := supersede_settles hr'
    exact ⟨R, rfl, requestClosed_of_update hr hsettle hdone hR⟩

theorem validateCancelTarget_ok (h : validateCancelTarget now s j = .ok a) :
    j.status = .running ∧ s.runningAttempt? j.id = some a := by
  simp only [validateCancelTarget, runningAttempt, steps_ok] at h
  obtain ⟨hr, -, -, -, a', ha, -, -, -, rfl⟩ := h
  exact ⟨hr, ha⟩

theorem requestCancel_add_ok {R1 : Table workerJobCancelRequests}
    (hstored : s.jobs.get? j.id = some j) (hrunning : j.status = .running)
    (ha : s.runningAttempt? j.id = some a)
    (hstale : ∀ p, s.pendingFor? j.id = some p → p.targetAttemptId ≠ a.id)
    (hsettle : RequestsSettle s.cancelRequests R1)
    (hothers : ∀ r2, s.cancelRequests.get? r2.id = some r2 → r2.workerJobId ≠ j.id →
      R1.get? r2.id = some r2)
    (h : requestCancelInTransaction.add d now j reason { s with cancelRequests := R1 } a
      = .ok (r, s')) : ∃ R, s' = { s with cancelRequests := R } ∧ RequestAdded s j a r R := by
  simp only [requestCancelInTransaction.add, WorkerJobCancelRequest.create, bind_eq_ok,
    require_eq_ok, pure_eq_ok, exists_const] at h
  obtain ⟨_, ⟨-, -, rfl⟩, R, hR, h⟩ := h
  injection h with hr hs
  subst hr hs
  obtain ⟨hfresh, hput⟩ := addRow_ok hR
  refine ⟨R, rfl, ⟨hstored, hrunning, ha, hstale, ?_, rfl, rfl, rfl, ⟨R1, hsettle, hfresh,
    hput⟩, fun r2 hr2 hjob => hput.get?_of_fresh hfresh (hothers r2 hr2 hjob)⟩⟩
  intro r2 hr2 hj
  -- the settled table has a row with the same generation
  obtain ⟨r3, hr3, hs3⟩ := hsettle.forward (mem_rows_iff.mp hr2)
  have hle := State.le_latestGeneration (s := { s with cancelRequests := R1 })
    (mem_of_get? hr3) (hs3.workerJobId.trans hj)
  have hgen := hs3.generation
  dsimp only at hle ⊢
  omega

/-- `_request_cancel_in_transaction` finds the request that is already
pending against the running attempt, or adds one. -/
theorem requestCancelInTransaction_ok (hstored : s.jobs.get? j.id = some j)
    (h : requestCancelInTransaction d now s j reason = .ok (r, s')) :
    ∃ R, s' = { s with cancelRequests := R }
      ∧ (R = s.cancelRequests ∨ ∃ a, RequestAdded s j a r R) := by
  simp only [requestCancelInTransaction, steps_ok] at h
  obtain ⟨-, a, ha, h⟩ := h
  obtain ⟨hrunning, ha⟩ := validateCancelTarget_ok ha
  split at h
  case h_1 hnone =>
    obtain ⟨R, rfl, hadd⟩ := requestCancel_add_ok hstored hrunning ha
      (fun p hp => by rw [hnone] at hp; cases hp) (.refl .refl _) (fun _ hr2 _ => hr2) h
    exact ⟨R, rfl, .inr ⟨a, hadd⟩⟩
  case h_2 pending hpending =>
    split at h
    · rw [pure_eq_ok] at h
      injection h with _ hs
      exact ⟨s.cancelRequests, hs.symm, .inl rfl⟩
    case isFalse hstale =>
      simp only [bind_eq_ok] at h
      obtain ⟨p', hp', R1, hR1, h⟩ := h
      obtain ⟨hsettle, hdone⟩ := supersede_settles hp'
      obtain ⟨R, rfl, hadd⟩ := requestCancel_add_ok hstored hrunning ha
        (fun p hp => by rw [hpending] at hp; injection hp with hp; exact hp ▸ hstale)
        (requestClosed_of_update hpending hsettle hdone hR1).1
        (fun _ => others_of_update hpending hsettle hR1) h
      exact ⟨R, rfl, .inr ⟨a, hadd⟩⟩

/-- The same for a preemption, which goes on without a request where the
job refuses one. -/
theorem requestPreemptionCancel_ok {r : Option WorkerJobCancelRequest}
    (hstored : s.jobs.get? j.id = some j)
    (h : requestPreemptionCancel d now s j = .ok (r, s')) :
    ∃ R, s' = { s with cancelRequests := R }
      ∧ (R = s.cancelRequests ∨ ∃ a r', RequestAdded s j a r' R) := by
  unfold requestPreemptionCancel at h
  split at h
  case h_1 request s1 hok =>
    injection h with h
    injection h with _ hs
    subst hs
    obtain ⟨R, rfl, hR⟩ := requestCancelInTransaction_ok hstored hok
    exact ⟨R, rfl, hR.imp id fun ⟨a, ha⟩ => ⟨a, _, ha⟩⟩
  · injection h with h
    injection h with _ hs
    exact ⟨s.cancelRequests, hs.symm, .inl rfl⟩
  · cases h

-- ---- preemptions

theorem resolve_settles {p' : WorkerJobPreemption} (h : p.resolve status now reason = .ok p') :
    p.Settles p' ∧ p'.status = status := by
  simp only [WorkerJobPreemption.resolve, steps_ok] at h
  obtain ⟨hw, -, rfl⟩ := h
  exact ⟨⟨rfl, rfl, rfl, rfl, fun _ => hw⟩, rfl⟩

/-- A loop that resolves stored preemptions: each of them ends, the
others stay as they are. -/
theorem resolveAll_ok (hstatus : status ≠ .waitingForQuiescence)
    (hps : ∀ p ∈ ps, s.preemptions.get? p.id = some p) (h : ps.foldlM (fun s preemption => do
        let preemption ← preemption.resolve status now reason
        let preemptions ← updateRow s.preemptions preemption
        return { s with preemptions }) s = .ok s') :
    ∃ P, s' = { s with preemptions := P } ∧ PreemptionsSettle s.preemptions P
      ∧ (∀ p ∈ ps, ∃ p', P.get? p.id = some p' ∧ p'.status ≠ .waitingForQuiescence)
      ∧ ∀ k, (∀ p ∈ ps, p.id ≠ k) → P.get? k = s.preemptions.get? k := by
  -- with `qs` still to come, every other preemption of `ps` has ended
  have hinv := foldlM_invariant
    (fun qs t => ∃ P, t = { s with preemptions := P } ∧ PreemptionsSettle s.preemptions P
      ∧ (∀ q ∈ qs, q ∈ ps)
      ∧ (∀ p ∈ ps, p ∈ qs ∨ ∃ p', P.get? p.id = some p' ∧ p'.status ≠ .waitingForQuiescence)
      ∧ ∀ k, (∀ p ∈ ps, p.id ≠ k) → P.get? k = s.preemptions.get? k)
    ?_ ⟨s.preemptions, rfl, .refl .refl _, fun _ hq => hq, fun _ hp => .inl hp, fun _ _ => rfl⟩ h
  · obtain ⟨P, hs, hsettle, -, hended, hrest⟩ := hinv
    refine ⟨P, hs, hsettle, fun p hp => ?_, hrest⟩
    rcases hended p hp with hnil | hdone
    · cases hnil
    · exact hdone
  · rintro q qs t t' ⟨P, rfl, hsettle, hsub, hended, hrest⟩ hstep
    simp only [steps_ok] at hstep
    obtain ⟨q', hq', P', hP', rfl⟩ := hstep
    obtain ⟨hqq', hq'status⟩ := resolve_settles hq'
    have hput := (updateRow_ok hP').2
    have hkey : workerJobPreemptions.key q' = q.id := hqq'.id
    have hq : q ∈ ps := hsub q (.head _)
    obtain ⟨r0, hr0, hqr0⟩ := hsettle.forward (hps q hq)
    have hr₀q' : r0.Settles q' :=
      ⟨hqq'.id.trans hqr0.id.symm, hqq'.accountId.trans hqr0.accountId.symm,
        hqq'.preemptorWorkerJobId.trans hqr0.preemptorWorkerJobId.symm,
        hqq'.victimWorkerJobId.trans hqr0.victimWorkerJobId.symm,
        fun hw => absurd (hq'status ▸ hw) hstatus⟩
    refine ⟨P', rfl, hsettle.trans .trans (hput.evolves .refl (hkey ▸ hr0) hr₀q'),
      fun x hx => hsub x (.tail _ hx), ?_, ?_⟩
    · intro p hp
      by_cases hpq : p.id = q.id
      · exact .inr ⟨q', by rw [hpq, ← hkey]; exact hput.get?_self, hq'status ▸ hstatus⟩
      · rcases hended p hp with hmem | ⟨p', hp', hdone⟩
        · rcases List.mem_cons.mp hmem with rfl | hmem
          · exact absurd rfl hpq
          · exact .inl hmem
        · exact .inr ⟨p', by rw [hput.get?_ne (hkey ▸ hpq)]; exact hp', hdone⟩
    · intro k hk
      rw [hput.get?_ne (hkey ▸ (hk q hq).symm)]
      exact hrest k hk

theorem satisfyPreemptionsForVictim_ok
    (h : satisfyPreemptionsForVictim now s jobId reason = .ok s') :
    ∃ P, s' = { s with preemptions := P } ∧ PreemptionsSettle s.preemptions P
      ∧ ∀ p ∈ P.rows, p.status = .waitingForQuiescence → p.victimWorkerJobId ≠ jobId := by
  obtain ⟨P, rfl, hsettle, hended, -⟩ := resolveAll_ok (by decide)
    (fun p hp => (State.mem_listWaiting.mp hp).1) h
  refine ⟨P, rfl, hsettle, ?_⟩
  intro p hp hw hv
  obtain ⟨p0, hp0, hsp⟩ := hsettle.backward (mem_rows_iff.mp hp)
  have hid : p0.id = p.id := hsp.id.symm
  have hmem : p0 ∈ s.listWaitingForVictim jobId := by
    refine State.mem_listWaiting.mpr ⟨by rw [hid]; exact hp0, ?_, hsp.waiting hw⟩
    simpa using hsp.victimWorkerJobId.symm.trans hv
  obtain ⟨p', hp', hdone⟩ := hended p0 hmem
  have hpP : P.get? p.id = some p := mem_rows_iff.mp hp
  rw [hid, hpP] at hp'
  injection hp' with hp'
  exact hdone (hp' ▸ hw)

theorem supersedePreemptionsForPreemptor_ok
    (h : supersedePreemptionsForPreemptor now s jobId = .ok s') :
    ∃ P R, s' = { s with preemptions := P, cancelRequests := R }
      ∧ PreemptionsSettle s.preemptions P ∧ RequestsSettle s.cancelRequests R := by
  simp only [supersedePreemptionsForPreemptor, bind_eq_ok] at h
  obtain ⟨s1, h1, h2⟩ := h
  obtain ⟨P, rfl, hP, -, -⟩ := resolveAll_ok (by decide)
    (fun p hp => (State.mem_listWaiting.mp hp).1) h1
  have hloop := foldlM_invariant
    (fun _ t => ∃ R, t = { s with preemptions := P, cancelRequests := R }
      ∧ RequestsSettle s.cancelRequests R) ?_ ⟨s.cancelRequests, rfl, .refl .refl _⟩ h2
  · obtain ⟨R, rfl, hR⟩ := hloop
    exact ⟨P, R, rfl, hP, hR⟩
  · rintro v vs t t' ⟨R, rfl, hR⟩ hstep
    split at hstep
    · obtain ⟨R', rfl, hR'⟩ := supersedePendingCancel_ok hstep
      exact ⟨R', rfl, hR.trans .trans hR'.1⟩
    · rw [pure_eq_ok] at hstep
      exact ⟨R, hstep.symm, hR⟩

theorem endPreemptor_ok (h : endPreemptor now s j = .ok s') :
    ∃ P R, s' = { s with preemptions := P, cancelRequests := R }
      ∧ PreemptionsSettle s.preemptions P ∧ RequestsSettle s.cancelRequests R := by
  unfold endPreemptor at h
  split at h
  · exact supersedePreemptionsForPreemptor_ok h
  · rw [pure_eq_ok] at h
    exact ⟨s.preemptions, s.cancelRequests, h.symm, .refl .refl _, .refl .refl _⟩

/-- Linking a request to a preemption as stored, or as stored but for
its link. -/
theorem linkCancelRequest_ok {p0 : WorkerJobPreemption} (hp0 : s.preemptions.get? p.id = some p0)
    (hsettle : p0.Settles p) (h : linkCancelRequest s p r = .ok s') :
    ∃ P, s' = { s with preemptions := P } ∧ PreemptionsSettle s.preemptions P ∧ (P = s.preemptions
        ∨ Put s.preemptions { p with cancelRequestId := some r.id } P) := by
  unfold linkCancelRequest at h
  split at h
  · rw [pure_eq_ok] at h
    exact ⟨s.preemptions, h.symm, .refl .refl _, .inl rfl⟩
  · simp only [steps_ok] at h
    obtain ⟨P, hP, rfl⟩ := h
    have hput := (updateRow_ok hP).2
    refine ⟨P, rfl, hput.evolves .refl hp0 ?_, .inr hput⟩
    exact ⟨hsettle.id, hsettle.accountId, hsettle.preemptorWorkerJobId,
      hsettle.victimWorkerJobId, hsettle.waiting⟩

theorem linkAll_ok
    (hps : ∀ p ∈ ps, s.preemptions.get? p.id = some p ∧ p.status = .waitingForQuiescence)
    (h : ps.foldlM (fun s p => linkCancelRequest s p r) s = .ok s') :
    ∃ P, s' = { s with preemptions := P } ∧ PreemptionsSettle s.preemptions P := by
  -- the rows still to come are stored but for their links
  have hloop := foldlM_invariant
    (fun qs t => ∃ P, t = { s with preemptions := P } ∧ PreemptionsSettle s.preemptions P
      ∧ ∀ q ∈ qs, q.status = .waitingForQuiescence ∧ ∃ q0, P.get? q.id = some q0 ∧ q0.Settles q)
    ?_ ⟨s.preemptions, rfl, .refl .refl _, fun q hq => ⟨(hps q hq).2, q, (hps q hq).1, .refl q⟩⟩ h
  · obtain ⟨P, rfl, hP, -⟩ := hloop
    exact ⟨P, rfl, hP⟩
  · rintro q qs t t' ⟨P, rfl, hP, hrest⟩ hstep
    obtain ⟨hqw, q0, hq0, hsettle⟩ := hrest q (.head _)
    obtain ⟨P', rfl, hP', hput⟩ := linkCancelRequest_ok hq0 hsettle hstep
    refine ⟨P', rfl, hP.trans .trans hP', ?_⟩
    intro x hx
    obtain ⟨hxw, x0, hx0, hxs⟩ := hrest x (.tail _ hx)
    refine ⟨hxw, ?_⟩
    rcases hput with rfl | hput
    · exact ⟨x0, hx0, hxs⟩
    · by_cases hid : x.id = q.id
      · -- two loaded rows of one id are the same preemption
        refine ⟨_, by rw [hid]; exact hput.get?_self, ?_⟩
        rw [hid, hq0] at hx0
        cases hx0
        exact ⟨hxs.id.trans hsettle.id.symm, hxs.accountId.trans hsettle.accountId.symm,
          hxs.preemptorWorkerJobId.trans hsettle.preemptorWorkerJobId.symm,
          hxs.victimWorkerJobId.trans hsettle.victimWorkerJobId.symm, fun _ => hqw⟩
      · exact ⟨x0, by rw [hput.get?_ne hid]; exact hx0, hxs⟩

end WorkerJobService

-- ==== account leases

namespace State

variable {s s' : State} {accountId : Uuid} {ownerType : AccountExecutionOwnerType}
  {ownerId : String} {now expiry : Time}

theorem tryAcquire_ok {operationClass : OperationClass}
    (h : s.tryAcquire accountId ownerType ownerId operationClass now expiry = .ok (g, s')) :
    (g = none ∧ s' = s ∧ s.leaseActive accountId now = true)
      ∨ ∃ n L, g = some n ∧ s' = { s with accountLeases := L }
        ∧ LeaseTaken accountId ownerType ownerId n now expiry s.accountLeases L := by
  simp only [tryAcquire, steps_ok] at h
  obtain ⟨-, -, h⟩ := h
  split at h
  case h_1 hnone =>
    simp only [steps_ok] at h
    obtain ⟨L, hL, rfl, rfl⟩ := h
    refine .inr ⟨1, L, rfl, rfl, Int.le_refl 1, ?_, _, (addRow_ok hL).2, rfl, rfl, rfl, rfl, rfl⟩
    intro row hrow
    rw [hnone] at hrow
    cases hrow
  case h_2 row hrow =>
    split at h
    case isTrue hheld =>
      simp only [steps_ok] at h
      refine .inl ⟨h.1.symm, h.2.symm, ?_⟩
      simp [leaseActive, hrow, hheld]
    case isFalse hexpired =>
      simp only [steps_ok] at h
      obtain ⟨L, hL, rfl, rfl⟩ := h
      have hgeneration : 0 ≤ row.fencingGeneration := by
        have hcheck : row.checkConstraints = true := check_of_get? hrow
        simp only [AccountExecutionLease.checkConstraints, checks_hold] at hcheck
        exact hcheck.1
      refine .inr ⟨_, L, rfl, rfl, by omega, ?_, _, (updateRow_ok hL).2, rfl, rfl, rfl, rfl, rfl⟩
      intro row' hrow'
      rw [hrow] at hrow'
      cases hrow'
      exact ⟨not_lt.mp hexpired, by omega⟩

theorem moveLeaseExpiry_ok {g : Int} {moved : Bool}
    (h : s.moveLeaseExpiry accountId ownerType ownerId g now expiry = .ok (moved, s')) :
    (moved = false ∧ s' = s ∧ ∀ row, s.accountLeases.get? accountId = some row →
        row.heldBy ownerType ownerId g now = false)
      ∨ (moved = true ∧ ∃ L, s' = { s with accountLeases := L }
        ∧ LeaseMoved accountId ownerType ownerId g now expiry s.accountLeases L) := by
  unfold moveLeaseExpiry at h
  split at h
  case h_1 hnone =>
    simp only [steps_ok] at h
    refine .inl ⟨h.1.symm, h.2.symm, ?_⟩
    intro row hrow
    rw [hnone] at hrow
    cases hrow
  case h_2 row hrow =>
    split at h
    case isTrue hheld =>
      simp only [steps_ok] at h
      refine .inl ⟨h.1.symm, h.2.symm, ?_⟩
      intro row' hrow'
      rw [hrow] at hrow'
      injection hrow' with hrow'
      exact hrow' ▸ hheld
    case isFalse hheld =>
      simp only [steps_ok] at h
      obtain ⟨L, hL, rfl, rfl⟩ := h
      exact .inr ⟨rfl, L, rfl, row, hrow, by simpa using hheld, (updateRow_ok hL).2⟩

end State

theorem LeaseTaken.bumped {accountId : Uuid} {ownerType : AccountExecutionOwnerType}
    {ownerId : String} {g : Int} {now expiry : Time} {L2 : Table accountExecutionLeases}
    (h : LeaseTaken accountId ownerType ownerId g now expiry L L₁)
    (h' : LeaseMoved accountId ownerType ownerId g now now L₁ L2) :
    LeaseBumped accountId now L L2 := by
  obtain ⟨row, hput, rfl, -, -, rfl, -⟩ := h.put
  obtain ⟨row', hrow', -, hput'⟩ := h'
  have hself : L₁.get? row.accountId = some row := hput.get?_self
  rw [hself] at hrow'
  cases hrow'
  exact ⟨fun r hr => (h.free r hr).1, { row with leaseExpiresAt := now, updatedAt := now },
    hput.overwrite hput' rfl, rfl, le_refl now, fun r hr => (h.free r hr).2⟩

theorem LeaseTaken.held {accountId : Uuid} {ownerType : AccountExecutionOwnerType}
    {ownerId : String} {g : Int} {now expiry : Time}
    (h : LeaseTaken accountId ownerType ownerId g now expiry L L₁) (hlt : now < expiry) :
    ∃ row, L₁.get? accountId = some row ∧ row.heldBy ownerType ownerId g now = true := by
  obtain ⟨row, hput, rfl, rfl, rfl, rfl, rfl⟩ := h.put
  refine ⟨row, hput.get?_self, ?_⟩
  simp [AccountExecutionLease.heldBy, hlt]

namespace WorkerJobService

variable {cfg : Settings} {d : Draws} {now : Time} {s s' : State} {j : WorkerJob} {jobId : Uuid}

theorem releaseAccountCoordination_ok (h : releaseAccountCoordination now s j g = .ok s') :
    ∃ L, s' = { s with accountLeases := L }
      ∧ ((L = s.accountLeases ∧ ∀ accountId n row, j.accountId = some accountId → g = some n →
          s.accountLeases.get? accountId = some row →
          row.heldBy .workerJob (Uuid.str j.id) n now = false)
        ∨ ∃ accountId n, j.accountId = some accountId ∧ g = some n
          ∧ LeaseMoved accountId .workerJob (Uuid.str j.id) n now now s.accountLeases L) := by
  unfold releaseAccountCoordination at h
  split at h
  case h_1 accountId n haccount =>
    simp only [steps_ok] at h
    obtain ⟨⟨moved, s1⟩, h1, rfl⟩ := h
    rcases State.moveLeaseExpiry_ok h1 with ⟨-, rfl, hfree⟩ | ⟨-, L, rfl, hmoved⟩
    · refine ⟨s1.accountLeases, rfl, .inl ⟨rfl, ?_⟩⟩
      intro a m row ha hm hrow
      rw [haccount] at ha
      injection ha with ha
      injection hm with hm
      subst ha hm
      exact hfree row hrow
    · exact ⟨L, rfl, .inr ⟨accountId, n, haccount, rfl, hmoved⟩⟩
  case h_2 hno =>
    rw [pure_eq_ok] at h
    refine ⟨s.accountLeases, h.symm, .inl ⟨rfl, ?_⟩⟩
    intro a m row ha hm
    exact absurd hm (hno a m ha)

theorem acquireCoordination_ok {acquired : Option (Option Int)}
    (h : acquireCoordination cfg now s j = .ok (acquired, s')) :
    (acquired = none ∧ s' = s) ∨ (acquired = some none ∧ s' = s ∧ j.requiresCoordination = false)
      ∨ ∃ accountId n L, acquired = some (some n) ∧ j.requiresCoordination = true
        ∧ j.accountId = some accountId ∧ s' = { s with accountLeases := L }
        ∧ LeaseTaken accountId .workerJob (Uuid.str j.id) n now (now + cfg.leaseDuration)
          s.accountLeases L := by
  unfold acquireCoordination at h
  split at h
  case h_1 hnone =>
    simp only [steps_ok] at h
    refine .inr (.inl ⟨h.1.symm, h.2.symm, ?_⟩)
    simp [WorkerJob.requiresCoordination, hnone]
  case h_2 accountId hsome =>
    split at h
    case isTrue hread =>
      simp only [steps_ok] at h
      refine .inr (.inl ⟨h.1.symm, h.2.symm, ?_⟩)
      simp [WorkerJob.requiresCoordination, hread]
    case isFalse hexclusive =>
      simp only [steps_ok] at h
      obtain ⟨⟨g, s1⟩, h1, rfl, rfl⟩ := h
      rcases State.tryAcquire_ok h1 with ⟨rfl, rfl, -⟩ | ⟨n, L, rfl, rfl, htaken⟩
      · exact .inl ⟨rfl, rfl⟩
      · refine .inr (.inr ⟨accountId, n, L, rfl, ?_, hsome, rfl, htaken⟩)
        simpa [WorkerJob.requiresCoordination, hsome] using hexclusive

theorem renewAccountCoordination_ok {held : Bool}
    (h : renewAccountCoordination now s j = .ok (held, s')) (hheld : held = true) :
    ∃ L, s' = { s with accountLeases := L }
      ∧ ((j.requiresCoordination = false ∧ L = s.accountLeases)
        ∨ ∃ accountId n, j.accountId = some accountId ∧ j.accountCoordinationGeneration = some n
          ∧ LeaseMoved accountId .workerJob (Uuid.str j.id) n now (j.leaseExpiresAt.getD now)
            s.accountLeases L) := by
  subst hheld
  unfold renewAccountCoordination at h
  split at h
  case h_1 hnone =>
    simp only [steps_ok] at h
    refine ⟨s.accountLeases, h.2.symm, .inl ⟨?_, rfl⟩⟩
    simp [WorkerJob.requiresCoordination, hnone]
  case h_2 accountId hsome =>
    split at h
    case isTrue hread =>
      simp only [steps_ok] at h
      refine ⟨s.accountLeases, h.2.symm, .inl ⟨?_, rfl⟩⟩
      simp [WorkerJob.requiresCoordination, hread]
    · split at h
      · simp only [steps_ok] at h
        cases h.1
      case h_2 n hn =>
        rcases State.moveLeaseExpiry_ok h with ⟨hfalse, -, -⟩ | ⟨-, L, rfl, hmoved⟩
        · cases hfalse
        · exact ⟨L, rfl, .inr ⟨accountId, n, hsome, hn, hmoved⟩⟩

-- ==== attempts and jobs

theorem storeJob_ok (h : storeJob s j = .ok s') :
    ∃ J, s' = { s with jobs := J } ∧ Put s.jobs j J := by
  simp only [storeJob, steps_ok] at h
  obtain ⟨J, hJ, rfl⟩ := h
  exact ⟨J, rfl, (updateRow_ok hJ).2⟩

theorem closeAttempt_ok (ha : s.runningAttempt? jobId = some a)
    (h : closeAttempt now s a outcome code = .ok s') :
    ∃ A, s' = { s with attempts := A } ∧ AttemptClosed now s jobId outcome A := by
  simp only [closeAttempt, steps_ok] at h
  obtain ⟨A, hA, rfl⟩ := h
  exact ⟨A, rfl, .inr ⟨a, code, ha, (updateRow_ok hA).2⟩⟩

theorem closeAttempt?_ok {code : String}
    (h : closeAttempt? now s (s.runningAttempt? jobId) outcome code = .ok s') :
    ∃ A, s' = { s with attempts := A } ∧ AttemptClosed now s jobId outcome A := by
  unfold closeAttempt? at h
  split at h
  case h_1 hnone =>
    rw [pure_eq_ok] at h
    exact ⟨s.attempts, h.symm, .inl ⟨hnone, rfl⟩⟩
  case h_2 a ha => exact closeAttempt_ok ha h

/-- `worker_jobs.claim` refuses, or claims and abandons what a lapsed
lease left running. -/
theorem claimJob_ok {w τ : Uuid} {expiry : Time} {claimed : Option WorkerJob}
    (h : s.claimJob jobId w now expiry τ g = .ok (claimed, s')) :
    (claimed = none ∧ s' = s)
      ∨ ∃ j J A, s.jobs.get? jobId = some j ∧ claimed = some (j.claimed w now expiry τ g)
        ∧ j.Claimable w now expiry g ∧ s' = { s with jobs := J, attempts := A }
        ∧ Put s.jobs (j.claimed w now expiry τ g) J
        ∧ ((j.status = .running ∧ AttemptClosed now s j.id .abandoned A)
          ∨ (j.status ≠ .running ∧ A = s.attempts)) := by
  unfold State.claimJob at h
  split at h
  · simp only [steps_ok] at h
    exact .inl ⟨h.1.symm, h.2.symm⟩
  case h_2 j hj =>
    split at h
    · simp only [steps_ok] at h
      exact .inl ⟨h.1.symm, h.2.symm⟩
    case h_2 j' hclaim =>
      obtain ⟨hclaimable, rfl⟩ := WorkerJob.claim_ok hclaim
      split at h
      case isTrue hrunning =>
        simp only [State.abandonRunningAttempt, steps_ok] at h
        obtain ⟨s1, h1, J, hJ, rfl, rfl⟩ := h
        split at h1
        case h_1 hnone =>
          cases h1
          exact .inr ⟨j, J, s.attempts, hj, rfl, hclaimable, rfl, (updateRow_ok hJ).2,
            .inl ⟨hrunning, .inl ⟨hnone, rfl⟩⟩⟩
        case h_2 a ha =>
          simp only [steps_ok] at h1
          obtain ⟨A, hA, rfl⟩ := h1
          exact .inr ⟨j, J, A, hj, rfl, hclaimable, rfl, (updateRow_ok hJ).2,
            .inl ⟨hrunning, .inr ⟨a, _, ha, (updateRow_ok hA).2⟩⟩⟩
      case isFalse hidle =>
        simp only [steps_ok] at h
        obtain ⟨s1, rfl, J, hJ, rfl, rfl⟩ := h
        exact .inr ⟨j, J, s.attempts, hj, rfl, hclaimable, rfl, (updateRow_ok hJ).2,
          .inr ⟨hidle, rfl⟩⟩

end WorkerJobService

end ThreadsPlatform
