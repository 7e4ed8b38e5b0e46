/-
Routing returns.

`process_next` takes the first ready Command and routes it. Nothing on
that path raises in a reachable state: the Command can take every
transition the chosen target asks of it, the attempt and the job it may
get clash with none, and a HIGH priority job's arbitration finds the
browser jobs, attempts and cancel requests in the agreement it assumes.

What the path takes from outside is said in `RoutingEnvironment`: fresh
identifiers, an account row for every Command (a foreign key), and the
shipped policies. Payloads are dumps of their models, so a job's input
is a document the job accepts.
-/
import ThreadsPlatform.Application.BrowserPayloads
import ThreadsPlatform.Effects.Returns
import ThreadsPlatform.Proofs.Cancellation
import ThreadsPlatform.Proofs.OneExecutor

namespace ThreadsPlatform

open Relational Table

variable {cfg : Settings} {d : Draws} {now : Time} {s s' t t' : State} {j : WorkerJob}
  {c c' : Command} {p : BusinessCapabilityPolicy} {decision : CapabilityRouteDecision}
  {js : List WorkerJob} {commandType reason : String} {RD : Table commandRouteDecisions}
  {C C' : Table commands} {accountId : Uuid} {preemptor x : WorkerJob}

namespace WorkerJobService

-- ==== arbitration

theorem validateCancelTarget_control :
    Avoids (fun e => ∀ code, e ≠ .control code) (validateCancelTarget now s j) := by
  simp [validateCancelTarget, runningAttempt, validateMaterializedActivityLink]

/-- The requests after a cancellation was asked for: one more at most,
under the drawn identifier. -/
def AsksOnce (d : Draws) (j : WorkerJob) (s s' : State) : Prop :=
  ∃ R, s' = { s with cancelRequests := R }
    ∧ ∀ k, k ≠ d.cancelRequestId j.id → R.get? k = s.cancelRequests.get? k

/-- A request against the running attempt, where none is PENDING. -/
theorem requestCancel_add_yields {a : WorkerJobAttempt} (hreason : isBoundedCode reason = true)
    (hnumber : 1 ≤ a.attemptNumber) (hnone : s.pendingFor? j.id = none)
    (hfresh : s.cancelRequests.get? (d.cancelRequestId j.id) = none) :
    Yields (fun r => AsksOnce d j s r.2) (requestCancelInTransaction.add d now j reason s a) := by
  have hgeneration : 0 ≤ s.latestGeneration j.id := State.latestGeneration_nonneg j.id
  refine .bind (.bind (.require ⟨by omega, hnumber⟩) fun _ _ =>
    .bind (.require hreason) fun _ _ => .pure rfl) fun r hr => ?_
  subst hr
  refine .bind (addRow_yields hfresh ?_ fun x hx => ?_) fun R hR =>
    .pure ⟨R, rfl, fun k hk => hR.get?_ne hk⟩
  · simp only [workerJobCancelRequests, WorkerJobCancelRequest.checkConstraints, hreason,
    checks_hold]
    exact ⟨⟨⟨⟨by omega, by omega⟩, trivial⟩, ⟨⟨rfl, rfl⟩, rfl⟩, rfl⟩, rfl⟩
  · -- the generation is new, and nothing else is PENDING for the job
    by_cases hjob : x.workerJobId = j.id
    · have hle := State.le_latestGeneration hx hjob
      have hidle : x.status ≠ .pending := by
        intro hpending
        obtain ⟨p, hp⟩ := State.pendingFor?_of_pending (mem_rows_iff.mp hx) hjob hpending
        rw [hnone] at hp
        cases hp
      have hne : x.generation ≠ s.latestGeneration j.id + 1 := by omega
      simp [workerJobCancelRequests, hidle, hne, Ne.symm hne]
    · simp [workerJobCancelRequests, hjob, Ne.symm hjob]

/-- A cancellation is refused with a code, or asked for once: a PENDING
request already aims at the attempt that runs. -/
theorem requestCancelInTransaction_cases (hagree : AttemptsAgree s.jobs s.attempts)
    (hcancel : CancelAgree s.attempts s.cancelRequests) (hreason : isBoundedCode reason = true)
    (hfresh : s.cancelRequests.get? (d.cancelRequestId j.id) = none) :
    (∃ code, requestCancelInTransaction d now s j reason = .error (.control code))
      ∨ Yields (fun r => AsksOnce d j s r.2) (requestCancelInTransaction d now s j reason) := by
  cases htarget : validateCancelTarget now s j with
  | error e =>
    obtain ⟨code, rfl⟩ : ∃ code, e = .control code := by
      by_contra hnone
      exact validateCancelTarget_control e htarget fun code he => hnone ⟨code, he⟩
    refine .inl ⟨code, ?_⟩
    unfold requestCancelInTransaction
    rw [bind_eq_error]
    refine .inr ⟨(), require_eq_ok.mpr hreason, ?_⟩
    rw [bind_eq_error]
    exact .inl htarget
  | ok a =>
    refine .inr (.bind (.require hreason) fun _ _ => .bind ⟨a, htarget, rfl⟩ fun a' ha' => ?_)
    subst ha'
    obtain ⟨-, ha⟩ := validateCancelTarget_ok htarget
    obtain ⟨hstored, hajob, hrunning⟩ := State.runningAttempt?_some ha
    split
    case h_1 hnone =>
      obtain ⟨-, -, hnumber, -⟩ := hagree.counted a hstored
      exact requestCancel_add_yields hreason hnumber hnone hfresh
    case h_2 pending hpending =>
      obtain ⟨hp, hpjob, hppending⟩ := State.pendingFor?_some hpending
      obtain ⟨b, hb, hbrunning, hbjob, haim, -⟩ := hcancel.target pending hp hppending
      have hba : b = a := hagree.running_unique hb hbrunning hstored hrunning
        (hbjob.trans (hpjob.trans hajob.symm))
      rw [if_pos (haim.trans (by rw [hba]))]
      exact .pure ⟨s.cancelRequests, rfl, fun _ _ => rfl⟩

theorem requestPreemptionCancel_yields (hagree : AttemptsAgree s.jobs s.attempts)
    (hcancel : CancelAgree s.attempts s.cancelRequests) (hj : s.jobs.get? j.id = some j)
    (hfresh : s.cancelRequests.get? (d.cancelRequestId j.id) = none) :
    Yields (fun r => AsksOnce d j s r.2 ∧ CancelAgree r.2.attempts r.2.cancelRequests)
      (requestPreemptionCancel d now s j) := by
  have hasked : Yields (fun r => AsksOnce d j s r.2) (requestPreemptionCancel d now s j) := by
    unfold requestPreemptionCancel
    rcases requestCancelInTransaction_cases hagree hcancel
      (show isBoundedCode "HIGH_PRIORITY_PREEMPTION" = true by decide) hfresh with
      ⟨code, hcode⟩ | ⟨⟨r, s1⟩, hok, hasks⟩
    · rw [hcode]
      exact ⟨_, rfl, s.cancelRequests, rfl, fun _ _ => rfl⟩
    · rw [hok]
      exact ⟨_, rfl, hasks⟩
  refine hasked.of_ok fun r hr => ?_
  obtain ⟨R, hs, hR⟩ := requestPreemptionCancel_ok hj hr
  rw [hs]
  rcases hR with rfl | ⟨a, r', hadded⟩
  · exact hcancel
  · exact CancelAgree.requestAdded (s := s) hagree hcancel hadded

/-- The preemption of a pair, stored or new under the drawn identifier. -/
theorem addPreemptionIfAbsent_yields {p : WorkerJobPreemption}
    (hcheck : p.checkConstraints = true) (hfresh : s.preemptions.get? p.id = none) :
    Yields (fun r => r.2.preemptions.get? r.1.id = some r.1 ∧ ∃ P, r.2 = { s with preemptions := P }
          ∧ ∀ k, k ≠ p.id → P.get? k = s.preemptions.get? k)
      (addPreemptionIfAbsent s p) := by
  unfold addPreemptionIfAbsent
  split
  case h_1 stored hstored =>
    exact .pure ⟨mem_rows_iff.mp (List.mem_of_find?_eq_some hstored), s.preemptions, rfl,
      fun _ _ => rfl⟩
  case h_2 hnone =>
    refine .bind (addRow_yields hfresh hcheck fun x hx => ?_) fun P hP =>
      .pure ⟨hP.get?_self, P, rfl, fun k hk => hP.get?_ne hk⟩
    have hpair := List.find?_eq_none.mp hnone x hx
    simp only [checks_hold, not_and] at hpair
    simp only [workerJobPreemptions, Bool.and_eq_false_iff, decide_eq_false_iff_not]
    by_cases hpreemptor : x.preemptorWorkerJobId = p.preemptorWorkerJobId
    · exact ⟨.inr (hpair hpreemptor), .inr (Ne.symm (hpair hpreemptor))⟩
    · exact ⟨.inl hpreemptor, .inl (Ne.symm hpreemptor)⟩

theorem linkCancelRequest_yields {p : WorkerJobPreemption} {r : WorkerJobCancelRequest}
    (hp : s.preemptions.get? p.id = some p) :
    Yields (fun s' => ∃ P, s' = { s with preemptions := P }
        ∧ ∀ k, k ≠ p.id → P.get? k = s.preemptions.get? k) (linkCancelRequest s p r) := by
  unfold linkCancelRequest
  split
  · exact .pure ⟨s.preemptions, rfl, fun _ _ => rfl⟩
  · have hcheck : p.checkConstraints = true := check_of_get? hp
    exact .bind (updateRow_yields hp hcheck fun x => ⟨id, id⟩) fun P hP =>
      .pure ⟨P, rfl, fun k hk => hP.get?_ne hk⟩

/-- The identifiers drawn for the jobs are different, and unused. -/
structure DrawsFor (d : Draws) (js : List WorkerJob) (t : State) : Prop where
  preemptionId : ∀ x ∈ js, t.preemptions.get? (d.preemptionId x.id) = none
  cancelRequestId : ∀ x ∈ js, t.cancelRequests.get? (d.cancelRequestId x.id) = none
  nodup : (js.map (·.id)).Nodup
  preemptionIds : ∀ x y, d.preemptionId x = d.preemptionId y → x = y
  cancelRequestIds : ∀ x y, d.cancelRequestId x = d.cancelRequestId y → x = y

/-- Using those of the first job leaves those of the others. -/
theorem DrawsFor.tail (h : DrawsFor d (x :: js) t)
    (hpreemption : ∀ k, k ≠ d.preemptionId x.id → t.preemptions.get? k = none →
      t'.preemptions.get? k = none)
    (hrequest : ∀ k, k ≠ d.cancelRequestId x.id → t.cancelRequests.get? k = none →
      t'.cancelRequests.get? k = none) : DrawsFor d js t' := by
  have hnodup := h.nodup
  rw [List.map_cons, List.nodup_cons] at hnodup
  have hother : ∀ y ∈ js, y.id ≠ x.id := fun y hy heq =>
    hnodup.1 (heq ▸ List.mem_map.mpr ⟨y, hy, rfl⟩)
  refine ⟨fun y hy => ?_, fun y hy => ?_, hnodup.2, h.preemptionIds, h.cancelRequestIds⟩
  · exact hpreemption _ (fun heq => hother y hy (h.preemptionIds _ _ heq))
      (h.preemptionId y (.tail _ hy))
  · exact hrequest _ (fun heq => hother y hy (h.cancelRequestIds _ _ heq))
      (h.cancelRequestId y (.tail _ hy))

/-- In the arbitration with the jobs `js` still to come. -/
structure Arbitrating (d : Draws) (s : State) (js : List WorkerJob) (t : State) : Prop where
  frame : Arbitrates s t
  cancel : CancelAgree t.attempts t.cancelRequests
  stored : ∀ x ∈ js, s.jobs.get? x.id = some x
  draws : DrawsFor d js t

theorem Arbitrates.attempts (h : Arbitrates s t) : t.attempts = s.attempts := by
  obtain ⟨P, R, rfl⟩ := h
  rfl

theorem Arbitrating.step (hagree : AttemptsAgree s.jobs s.attempts)
    (h : Arbitrating d s (x :: js) t) :
    Yields (Arbitrating d s js) (arbitrateCandidate d now preemptor accountId t x) := by
  have hx : t.jobs.get? x.id = some x := by
    rw [h.frame.jobs]
    exact h.stored x (.head _)
  have hagree' : AttemptsAgree t.jobs t.attempts := by
    rw [h.frame.jobs, h.frame.attempts]
    exact hagree
  have hstored : ∀ y ∈ js, s.jobs.get? y.id = some y :=
    fun y hy => h.stored y (.tail _ hy)
  have hskip : Arbitrating d s js t :=
    ⟨h.frame, h.cancel, hstored, h.draws.tail (fun _ _ hk => hk) fun _ _ hk => hk⟩
  unfold arbitrateCandidate
  split
  · exact .pure hskip
  case isFalse hlower =>
    refine .bind (.orThrow hx rfl) fun victim hvictim => ?_
    subst hvictim
    split
    · exact .pure hskip
    · have hne : preemptor.id ≠ x.id := fun heq => hlower (.inl heq.symm)
      refine .bind (.bind (.require hne) fun _ _ => .pure rfl) fun p hp => ?_
      subst hp
      refine .bind (addPreemptionIfAbsent_yields ?_ (h.draws.preemptionId x (.head _)))
        fun r hr => ?_
      · simp [WorkerJobPreemption.checkConstraints, hne]
      obtain ⟨stored, t1⟩ := r
      obtain ⟨hstored1, P, rfl, hP⟩ := hr
      have hframe1 : Arbitrates s { t with preemptions := P } :=
        h.frame.trans ⟨P, t.cancelRequests, rfl⟩
      have hnone : ∀ k, k ≠ d.preemptionId x.id → t.preemptions.get? k = none →
          P.get? k = none := fun k hk hfresh => (hP k hk).trans hfresh
      have hadded : Arbitrating d s js { t with preemptions := P } :=
        ⟨hframe1, h.cancel, hstored, h.draws.tail hnone fun _ _ hk => hk⟩
      dsimp only
      split
      · exact .pure hadded
      · split
        · exact .pure hadded
        · have hasked : Yields _ (requestPreemptionCancel d now { t with preemptions := P } x) :=
            requestPreemptionCancel_yields hagree' h.cancel hx (h.draws.cancelRequestId x (.head _))
          refine hasked.bind fun r hr => ?_
          obtain ⟨request, t2⟩ := r
          obtain ⟨⟨R, rfl, hR⟩, hcancel⟩ := hr
          have hframe2 : Arbitrates s { t with preemptions := P, cancelRequests := R } :=
            hframe1.trans ⟨P, R, rfl⟩
          have hnone2 : ∀ k, k ≠ d.cancelRequestId x.id → t.cancelRequests.get? k = none →
              R.get? k = none := fun k hk hfresh => (hR k hk).trans hfresh
          cases request with
          | none => exact .pure ⟨hframe2, hcancel, hstored, h.draws.tail hnone hnone2⟩
          | some request =>
            have hlinked : Yields _ (linkCancelRequest
                { t with preemptions := P, cancelRequests := R } stored request) :=
              linkCancelRequest_yields hstored1
            refine hlinked.mono fun t3 ht3 => ?_
            obtain ⟨P', rfl, hP'⟩ := ht3
            refine ⟨hframe2.trans ⟨P', R, rfl⟩, hcancel, hstored,
              h.draws.tail (fun k hk hfresh => ?_) hnone2⟩
            have hfresh' := hnone k hk hfresh
            refine (hP' k fun heq => ?_).trans hfresh'
            rw [heq] at hfresh'
            cases hfresh'.symm.trans hstored1

theorem nodup_listRunningBrowser :
    ((s.listRunningBrowserForAccount accountId).map (·.id)).Nodup := by
  unfold State.listRunningBrowserForAccount
  rw [((List.perm_insertionSort _ _).map _).nodup_iff]
  exact List.Nodup.sublist (List.filter_sublist.map _) s.jobs.keysNodup

theorem arbitrateHighPriorityJob_yields (hagree : AttemptsAgree s.jobs s.attempts)
    (hcancel : CancelAgree s.attempts s.cancelRequests)
    (hdraws : DrawsFor d (s.listRunningBrowserForAccount accountId) s) :
    Yields (Arbitrates s) (arbitrateHighPriorityJob d now s preemptor accountId) := by
  unfold arbitrateHighPriorityJob
  split
  · exact .pure (.refl s)
  · have hloop := Yields.foldlM (Arbitrating d s) (fun x js t ht => ht.step hagree)
      (f := arbitrateCandidate d now preemptor accountId)
      ⟨.refl s, hcancel, fun x hx => (State.mem_listRunningBrowser.mp hx).1, hdraws⟩
    exact hloop.mono fun t ht => ht.frame

-- ==== enqueue

/-- The identifiers drawn for a job, and for what its arbitration asks,
occur in no row. -/
structure JobFresh (d : Draws) (s : State) : Prop where
  jobId : s.jobs.get? d.jobId = none
  preemptionId : ∀ x, s.preemptions.get? (d.preemptionId x) = none
  cancelRequestId : ∀ x, s.cancelRequests.get? (d.cancelRequestId x) = none
  preemptionIds : ∀ x y, d.preemptionId x = d.preemptionId y → x = y
  cancelRequestIds : ∀ x y, d.cancelRequestId x = d.cancelRequestId y → x = y

theorem moveToWaitingExecution_yields (hc : s.commands.get? c.commandId = some c) :
    Yields (fun s' => ∃ C, s' = { s with commands := C })
      (moveToWaitingExecution now s (some c)) := by
  unfold moveToWaitingExecution
  dsimp only
  split
  case isTrue hvalidated =>
    refine .bind (Command.transition_yields (by rw [hvalidated]; rfl) (fun h => by cases h)
      (by decide)) fun c' hc' => ?_
    have hlease : c'.executionLeaseToken.isNone = c'.executionLeaseExpiresAt.isNone := by
      rw [hc'.2.2.1, hc'.2.2.2]
      exact Command.lease_pair hc
    exact (CommandRuntime.storeCommand_yields hc hc'.2.1 hlease).mono fun s' hs' =>
      hs'.imp fun C hC => hC.1
  · exact .pure ⟨s.commands, rfl⟩

/-- The decision just stored is the latest that names an executor. -/
theorem latestExecution_trusted {commandId : String} (hput : Put s.routeDecisions decision RD)
    (hcommand : decision.commandId = commandId) (hexecutor : decision.executor = some .worker)
    (hfirst : ∀ x, s.routeDecisions.get? x.id = some x → x.commandId = commandId →
      x.executor = none) :
    ({ s with routeDecisions := RD } : State).latestExecution? commandId = some decision := by
  have hmem : decision ∈ RD.rows.filter fun x =>
      decide (x.commandId = commandId) && x.executor.isSome := by
    rw [List.mem_filter, hexecutor]
    exact ⟨mem_of_get? hput.get?_self, by simp [hcommand]⟩
  obtain ⟨latest, hlatest⟩ := firstBy_of_mem State.decidedAfter hmem
  have hfound := firstBy_mem _ hlatest
  rw [List.mem_filter, Bool.and_eq_true, decide_eq_true_eq] at hfound
  obtain ⟨hrow, hid, hsome⟩ := hfound
  have hstored : RD.get? latest.id = some latest := mem_rows_iff.mp hrow
  rcases hput.cases hstored with ⟨-, rfl⟩ | ⟨-, hold⟩
  · exact hlatest
  · rw [hfirst latest hold hid] at hsome
    cases hsome

/-- A request for a Command of an account with a worker. -/
structure EnqueueRequest.LinksTo (req : EnqueueRequest) (c : Command)
    (assignment : AccountWorkerAssignment) : Prop where
  commandId : req.commandId = some c.commandId
  accountId : req.accountId = some c.accountId
  assignedWorkerId : req.assignedWorkerId = some assignment.workerId
  affinity : req.accountAffinityRequired = some true
  priority : req.priority = c.priority
  scheduledAt : req.scheduledAt = none
  deadlineAt : req.deadlineAt = c.deadlineAt
  capability : notBlank req.capabilityName = true ∧ 1 ≤ req.capabilityVersion
  maxAttempts : 1 ≤ req.maxAttempts

/-- The route a HIGH priority job has to come from. -/
def Trusts (s : State) (c : Command) (req : EnqueueRequest) : Prop :=
  (s.latestExecution? c.commandId).any (fun route =>
    decide (route.target = .workerJob) && decide (route.executor = some .worker)
      && decide (route.capabilityName = req.capabilityName)
      && decide (route.capabilityVersion = req.capabilityVersion)
      && decide (route.accountId = c.accountId)
      && decide (route.operationClass = req.operationClass)) = true

theorem Trusts.of_latest {req : EnqueueRequest}
    (hlatest : s.latestExecution? c.commandId = some decision)
    (htarget : decision.target = .workerJob) (hexecutor : decision.executor = some .worker)
    (hname : decision.capabilityName = req.capabilityName)
    (hversion : decision.capabilityVersion = req.capabilityVersion)
    (haccount : decision.accountId = c.accountId)
    (hclass : decision.operationClass = req.operationClass) : Trusts s c req := by
  unfold Trusts
  rw [hlatest, Option.any_some]
  simp only [checks_hold]
  exact ⟨⟨⟨⟨⟨htarget, hexecutor⟩, hname⟩, hversion⟩, haccount⟩, hclass⟩

section NewJob

variable {req : EnqueueRequest} {assignment : AccountWorkerAssignment}

theorem beforeDeadline_of_inTime (hdeadline : c.deadlineReached now = false) :
    c.deadlineAt.all (fun t => decide (now < t)) = true := by
  unfold Command.deadlineReached at hdeadline
  cases hat : c.deadlineAt with
  | none => rfl
  | some t => simpa [hat] using hdeadline

theorem newJob_postInit (hreq : req.LinksTo c assignment)
    (hdeadline : c.deadlineReached now = false) (hnamed : notBlank c.commandId = true)
    (hinput : validateDocument cfg.urlsplit (some (req.inputData.getD [])) = .ok ()) :
    (newJob d now req (some c.accountId) (some assignment.workerId) true
      c.deadlineAt).postInit cfg.urlsplit = .ok () := by
  have hmax := hreq.maxAttempts
  have htime : (newJob d now req (some c.accountId) (some assignment.workerId) true
      c.deadlineAt).beforeDeadline (req.scheduledAt.getD now) = true := by
    rw [hreq.scheduledAt]
    exact beforeDeadline_of_inTime hdeadline
  simp only [WorkerJob.postInit, bind_eq_ok, require_eq_ok]
  refine ⟨(), hreq.capability, (), ?_, (), fun _ => ⟨rfl, rfl⟩, (), ?_, (), htime, (),
    .inr ⟨rfl, rfl, rfl⟩, (), fun h => ?_, (), fun h => ?_, (), rfl, (), hinput, (), rfl, rfl⟩
  · change req.commandId.all notBlank = true
    rw [hreq.commandId]
    exact hnamed
  · exact ⟨hmax, Int.le_refl 0, Int.le_trans (show (0 : Int) ≤ 1 by decide) hmax⟩
  · cases h
  · cases h

/-- The table takes it, as the job of a Command without one. -/
theorem newJob_yields (hreq : req.LinksTo c assignment)
    (hdeadline : c.deadlineReached now = false) (hfresh : s.jobs.get? d.jobId = none)
    (hunlinked : ∀ j ∈ s.jobs.rows, j.commandId ≠ some c.commandId) :
    Yields (fun J => Put s.jobs (newJob d now req (some c.accountId) (some assignment.workerId)
        true c.deadlineAt) J)
      (addRow s.jobs (newJob d now req (some c.accountId) (some assignment.workerId) true
        c.deadlineAt)) := by
  have hmax := hreq.maxAttempts
  have hversion := hreq.capability.2
  have htime := beforeDeadline_of_inTime hdeadline
  refine addRow_yields hfresh ?_ fun x hx => ?_
  · simp only [workerJobs, WorkerJob.checkConstraints, WorkerJob.beforeDeadline, newJob,
      hreq.scheduledAt, Option.getD_none, htime]
    simp
    omega
  · have hne := hunlinked x hx
    simp only [workerJobs, newJob, hreq.commandId, Option.isSome_some, Bool.true_and,
      Bool.and_eq_false_iff, decide_eq_false_iff_not]
    exact ⟨.inr hne, Ne.symm hne⟩

/-- The arbitration of a HIGH priority job, from the route just stored. -/
theorem arbitrateForCommand_yields (htrusts : c.priority = 100 → Trusts s c req)
    (haccount : (s.account? c.accountId).isSome = true)
    (hagree : AttemptsAgree s.jobs s.attempts) (hcancel : CancelAgree s.attempts s.cancelRequests)
    (hdraws : DrawsFor d (s.listRunningBrowserForAccount c.accountId) s) :
    Yields (Arbitrates s) (arbitrateForCommand d now s (some c)
      (newJob d now req (some c.accountId) (some assignment.workerId) true c.deadlineAt)) := by
  unfold arbitrateForCommand
  dsimp only
  split
  · exact .pure (.refl s)
  case isFalse hhigh =>
    refine .bind (.require (htrusts (not_not.mp hhigh))) fun _ _ =>
      .bind (.require rfl) fun _ _ => .bind (.orThrow rfl rfl) fun accountId hid => ?_
    subst hid
    split
    · exact .bind (.require haccount) fun _ _ => arbitrateHighPriorityJob_yields hagree hcancel
        hdraws
    · exact .pure (.refl s)

end NewJob

theorem enqueueInTransaction_yields {req : EnqueueRequest} {assignment : AccountWorkerAssignment}
    (hreq : req.LinksTo c assignment)
    (hblocked : (cfg.workerPolicies.policyFor req.capabilityName).bind (·.blockedReasonCode) = none)
    (hc : s.commands.get? c.commandId = some c)
    (hready : c.status = .validated ∨ c.status = .waitingExecution)
    (hdeadline : c.deadlineReached now = false) (hnamed : notBlank c.commandId = true)
    (hassigned : s.activeAssignment? c.accountId = some assignment)
    (hinput : validateDocument cfg.urlsplit (some (req.inputData.getD [])) = .ok ())
    (hfresh : JobFresh d s)
    (hunlinked : ∀ j ∈ s.jobs.rows, j.commandId ≠ some c.commandId)
    (htrusts : c.priority = 100 → Trusts s c req)
    (haccount : (s.account? c.accountId).isSome = true)
    (hagree : AttemptsAgree s.jobs s.attempts)
    (hcancel : CancelAgree s.attempts s.cancelRequests) :
    Yields (fun r => r.2.routeDecisions = s.routeDecisions)
      (enqueueInTransaction cfg d now req s) := by
  have hfree : Yields (fun _ => True) (ensureCapabilityNotBlocked cfg req.capabilityName) := by
    unfold ensureCapabilityNotBlocked
    rw [hblocked]
    exact .pure trivial
  have hlink : Yields (fun command => command = some c) (commandToLink now s req) := by
    unfold commandToLink
    rw [hreq.commandId]
    refine .bind (.orThrow hc rfl) fun x hx => ?_
    subst hx
    exact .bind (.require hready) fun _ _ => .bind (.require hdeadline) fun _ _ =>
      .bind (.require hreq.priority) fun _ _ => .bind (.require (.inr hreq.accountId))
      fun _ _ => .pure rfl
  refine hfree.bind fun _ _ => hlink.bind fun command hcommand => ?_
  subst hcommand
  have haccountId : ((some c).map (·.accountId)).or req.accountId = some c.accountId := rfl
  have hdeadlineAt : req.deadlineAt.or ((some c).bind (·.deadlineAt)) = c.deadlineAt := by
    rw [hreq.deadlineAt, Option.bind_some, Option.or_self]
  have hassignment : (some c.accountId).bind s.activeAssignment? = some assignment := hassigned
  simp only [haccountId, hdeadlineAt, hassignment, hreq.affinity, Option.getD_some]
  have hworker : Yields (fun worker => worker = some assignment.workerId)
      (workerToAssign req (some assignment) true) :=
    .bind (.orThrow rfl rfl) fun x hx => by
      subst hx
      exact .bind (.require (.inr hreq.assignedWorkerId)) fun _ _ => .pure rfl
  refine hworker.bind fun worker hworker => ?_
  subst hworker
  have hbuilt : Yields (fun _ => True) ((newJob d now req (some c.accountId)
      (some assignment.workerId) true c.deadlineAt).postInit cfg.urlsplit) :=
    ⟨(), newJob_postInit hreq hdeadline hnamed hinput, trivial⟩
  refine hbuilt.bind fun _ _ => ?_
  refine .bind (moveToWaitingExecution_yields hc) fun s1 hs1 => ?_
  obtain ⟨C, rfl⟩ := hs1
  refine .bind (newJob_yields hreq hdeadline hfresh.jobId hunlinked) fun J hJ => ?_
  have harbitrated : Yields _ (arbitrateForCommand d now { s with commands := C, jobs := J }
      (some c) (newJob d now req (some c.accountId) (some assignment.workerId) true
        c.deadlineAt)) :=
    arbitrateForCommand_yields htrusts haccount (hagree.jobJoins hJ hfresh.jobId rfl rfl) hcancel
      ⟨fun x _ => hfresh.preemptionId x.id, fun x _ => hfresh.cancelRequestId x.id,
        nodup_listRunningBrowser, hfresh.preemptionIds, hfresh.cancelRequestIds⟩
  refine harbitrated.bind fun s2 hs2 => ?_
  obtain ⟨P, R, rfl⟩ := hs2
  exact .pure rfl

end WorkerJobService

-- ==== routes

open WorkerJobService CommandRuntime

/-- The platform as shipped: the router and the job service share the
default policies, results have a destination, and `urlsplit` finds no
credentials in a reference. -/
structure Shipped (cfg : Settings) : Prop where
  policies : cfg.policies = businessCapabilities
  workerPolicies : cfg.workerPolicies = businessCapabilities
  crm : notBlank cfg.crmDestination = true
  urlsplit : ∀ value, IsRef value → cfg.urlsplit value = .plain

/-- A policy whose capability is its command type, open, and the same to
a worker. -/
structure BusinessCapabilityPolicy.Uniform (p : BusinessCapabilityPolicy) : Prop where
  capabilityName : p.capabilityName = p.commandType
  capabilityVersion : p.capabilityVersion = 1
  blockedReasonCode : p.blockedReasonCode = none
  workerCapabilityName : textOr p.workerCapabilityName p.capabilityName = p.commandType
  workerCapabilityVersion : p.workerCapabilityVersion.getD p.capabilityVersion = 1

theorem uniform_of_mem : ∀ p ∈ businessCapabilities, p.Uniform := by
  have hall : ∀ p ∈ businessCapabilities, p.capabilityName = p.commandType
      ∧ p.capabilityVersion = 1 ∧ p.blockedReasonCode = none
      ∧ textOr p.workerCapabilityName p.capabilityName = p.commandType
      ∧ p.workerCapabilityVersion.getD p.capabilityVersion = 1 := by decide
  intro p hp
  obtain ⟨h1, h2, h3, h4, h5⟩ := hall p hp
  exact ⟨h1, h2, h3, h4, h5⟩

theorem Shipped.policyFor (hcfg : Shipped cfg) (h : cfg.policies.policyFor commandType = some p) :
    p.commandType = commandType ∧ p.Uniform := by
  rw [hcfg.policies] at h
  exact ⟨by simpa using List.find?_some h, uniform_of_mem p (List.mem_of_find?_eq_some h)⟩

theorem chooseExecutor_reason (p : BusinessCapabilityPolicy) (mode : AccountExecutionMode)
    (e : CapabilityEvidence) : notBlank (chooseExecutor p mode e).2.2 = true := by
  unfold chooseExecutor
  cases mode <;> dsimp only <;> repeat' split
  all_goals decide

/-- What a decision stores of a route is never blank. -/
structure Route.Texts (route : Route) : Prop where
  capabilityName : notBlank route.capabilityName = true
  capabilityVersion : 1 ≤ route.capabilityVersion
  reasonCode : notBlank route.reasonCode = true

theorem decision_texts {target : RouteTarget} {executor : Option CapabilityExecutor}
    (hp : p.Uniform) (hnamed : notBlank p.commandType = true) (hreason : notBlank reason = true) :
    (p.decision target executor reason).Texts := by
  refine ⟨?_, ?_, hreason⟩
  · change notBlank p.capabilityName = true
    rw [hp.capabilityName]
    exact hnamed
  · change 1 ≤ p.capabilityVersion
    rw [hp.capabilityVersion]

theorem Shipped.decide_texts {mode : AccountExecutionMode} {e : CapabilityEvidence}
    (hcfg : Shipped cfg) (hnamed : notBlank commandType = true) :
    (cfg.policies.decide commandType mode e).Texts := by
  unfold Policies.decide
  cases hp : cfg.policies.policyFor commandType with
  | none => exact ⟨hnamed, Int.le_refl 1, show notBlank "UNSUPPORTED_CAPABILITY" = true by decide⟩
  | some p =>
    obtain ⟨htype, hp⟩ := hcfg.policyFor hp
    rw [← htype] at hnamed
    have htexts : ∀ {target executor reason}, notBlank reason = true →
        (p.decision target executor reason).Texts := fun hr => decision_texts hp hnamed hr
    dsimp only
    rw [hp.blockedReasonCode]
    have hchosen := chooseExecutor_reason p mode e
    generalize chooseExecutor p mode e = choice at hchosen
    obtain ⟨target, executor, reason⟩ := choice
    dsimp only at hchosen ⊢
    repeat' split
    all_goals first
      | exact htexts (by decide)
      | exact htexts hchosen

/-- The route `_route_and_claim` follows: the router's, or a wait where
there is no job service to give the Command to. -/
def routeOf (cfg : Settings) (now : Time) (s : State) (c : Command) (account : ThreadsAccount)
    (n : Int) : Route :=
  let route := cfg.policies.decide c.commandType account.executionMode
    (evidence cfg now s c account n)
  if route.target = .workerJob ∧ (cfg.workerJobService = false
      ∨ cfg.policies.policyFor c.commandType = none) then
    { route with
      target := .waitingExecution
      executor := none
      reasonCode := "WORKER_JOB_SERVICE_UNAVAILABLE" }
  else route

/-- The identifiers a call draws occur in no row. They are random UUIDs. -/
structure DrawsFresh (d : Draws) (s : State) : Prop extends ResultFresh d s, JobFresh d s where
  attemptId : s.commandAttempts.get? d.attemptId = none
  routeDecisionId : s.routeDecisions.get? d.routeDecisionId = none

/-- A Command at the routing step, in the surroundings it needs. -/
structure RoutingReady (d : Draws) (now : Time) (s : State) (c : Command) (n : Int) : Prop where
  stored : s.commands.get? c.commandId = some c
  routable : Routable c.status
  inTime : c.deadlineReached now = false
  named : notBlank c.commandId = true ∧ notBlank c.commandType = true
  typed : TypedPayload c.commandType c.payload
  account : (s.account? c.accountId).isSome = true
  counted : n = countOf s.commandAttempts c.commandId
  numbered : Numbered (numbersOf s.commandAttempts c.commandId)
  executed : c.status = .processing → 0 < n
  executors : ExecutorsAgree s.jobs s.commands s.commandAttempts s.routeDecisions
  attempts : AttemptsAgree s.jobs s.attempts
  cancel : CancelAgree s.attempts s.cancelRequests
  fresh : DrawsFresh d s

section Ready

variable {n : Int} {account : ThreadsAccount}

theorem routeOf_texts (hcfg : Shipped cfg) (hnamed : notBlank c.commandType = true) :
    (routeOf cfg now s c account n).Texts := by
  unfold routeOf
  dsimp only
  have htexts : (cfg.policies.decide c.commandType account.executionMode
    (evidence cfg now s c account n)).Texts := hcfg.decide_texts hnamed
  split
  · exact ⟨htexts.capabilityName, htexts.capabilityVersion,
      show notBlank "WORKER_JOB_SERVICE_UNAVAILABLE" = true by decide⟩
  · exact htexts

/-- A route with an executor is the router's, and granted. -/
theorem routeOf_grants (h : (routeOf cfg now s c account n).target = .workerJob
      ∨ (routeOf cfg now s c account n).target = .localApi) :
    (routeOf cfg now s c account n).executor = (routeOf cfg now s c account n).target.executor
      ∧ (routeOf cfg now s c account n).Grants cfg.policies c.commandType
        (evidence cfg now s c account n) := by
  unfold routeOf at h ⊢
  dsimp only at h ⊢
  split at h
  · rcases h with h | h <;> cases h
  case isFalse hservice =>
    rw [if_neg hservice]
    obtain ⟨hexecutor, hgrants⟩ := cfg.policies.decide_spec c.commandType account.executionMode
      (evidence cfg now s c account n)
    refine ⟨hexecutor, hgrants ?_⟩
    rw [hexecutor]
    rcases h with h | h <;> rw [h] <;> exact Option.some_ne_none _

/-- No executor has had a Command without a job and without attempts. -/
theorem RoutingReady.undecided (h : RoutingReady d now s c n) (hn : n = 0)
    (hunlinked : ∀ j ∈ s.jobs.rows, j.commandId ≠ some c.commandId) :
    ∀ x, s.routeDecisions.get? x.id = some x → x.commandId = c.commandId → x.executor = none := by
  intro x hx hcommand
  cases hexecutor : x.executor with
  | none => rfl
  | some executor =>
    exfalso
    cases executor with
    | worker =>
      obtain ⟨j, hj, hlink⟩ := h.executors.worker x hx hexecutor
      exact hunlinked j (mem_rows_iff.mpr hj) (hcommand ▸ hlink)
    | api =>
      have hpos := h.executors.api x hx hexecutor
      rw [hcommand, ← h.counted] at hpos
      omega

theorem RoutingReady.worker (h : RoutingReady d now s c n)
    (htarget : (routeOf cfg now s c account n).target = .workerJob) :
    (∀ j ∈ s.jobs.rows, j.commandId ≠ some c.commandId) ∧ n = 0
      ∧ (c.status = .validated ∨ c.status = .waitingExecution) := by
  obtain ⟨hexecutor, hgrants⟩ := routeOf_grants (.inl htarget)
  rw [htarget] at hexecutor
  have hunlinked := State.jobForCommand?_none hgrants.unlinked
  have hn : n = 0 := by
    have hnonneg : 0 ≤ countOf s.commandAttempts c.commandId := Int.natCast_nonneg _
    have hcounted := h.counted
    by_contra hne
    have hpos : 0 < n := by omega
    obtain ⟨x, hx, hcommand, hworker⟩ :=
      evidence_previous_worker ((hgrants.repeated hpos).trans hexecutor)
    obtain ⟨j, hj, hlink⟩ := h.executors.worker x (mem_rows_iff.mp hx) hworker
    exact hunlinked j (mem_rows_iff.mpr hj) (hcommand ▸ hlink)
  refine ⟨hunlinked, hn, ?_⟩
  rcases h.routable with hst | hst | hst | hst
  · exact .inl hst
  · exact .inr hst
  · have hpos := h.executed hst
    omega
  · have hpos := h.executors.retried c h.stored hst
    rw [← h.counted] at hpos
    omega

theorem RoutingReady.enqueueWorkerJob_yields (hcfg : Shipped cfg) (h : RoutingReady d now s c n)
    (htarget : (routeOf cfg now s c account n).target = .workerJob)
    (hpolicy : cfg.policies.policyFor c.commandType = some p)
    (hput : Put s.routeDecisions (routeDecision now d.routeDecisionId c account.executionMode n
      (routeOf cfg now s c account n)) RD) :
    Yields (fun r => KeepsRoutes { s with routeDecisions := RD } r.2)
      (enqueueWorkerJob cfg d now { s with routeDecisions := RD } c p
        (routeOf cfg now s c account n)) := by
  obtain ⟨hunlinked, hn, hready⟩ := h.worker htarget
  obtain ⟨hexecutor, hgrants⟩ := routeOf_grants (.inl htarget)
  obtain ⟨p', hpolicy', -, hroute⟩ := hgrants.policy
  obtain rfl := Option.mem_unique hpolicy' hpolicy
  obtain ⟨htype, huniform⟩ := hcfg.policyFor hpolicy
  -- the router saw an assignment
  obtain ⟨assignment, hassigned⟩ : ∃ assignment,
      s.activeAssignment? c.accountId = some assignment :=
    Option.isSome_iff_exists.mp (hgrants.assigned htarget)
  have hworker : (routeOf cfg now s c account n).executor = some .worker := by
    rw [hexecutor, htarget]
    rfl
  have hlatest : ({ s with routeDecisions := RD } : State).latestExecution? c.commandId = _ :=
    latestExecution_trusted hput rfl hworker (h.undecided hn hunlinked)
  have hname : (routeOf cfg now s c account n).capabilityName = c.commandType := by
    rw [hroute, ← htype]
    exact huniform.capabilityName
  have hversion : (routeOf cfg now s c account n).capabilityVersion = 1 := by
    rw [hroute]
    exact huniform.capabilityVersion
  have hjobName : textOr p'.workerCapabilityName p'.capabilityName = c.commandType :=
    huniform.workerCapabilityName.trans htype
  refine .bind (workerJobInput_typed h.typed hcfg.urlsplit) fun input hinput => ?_
  refine .bind (enqueueInTransaction_yields ?_ ?_ h.stored hready h.inTime h.named.1 hassigned
    hinput { h.fresh.toJobFresh with } hunlinked ?_ h.account h.attempts h.cancel) fun r hr => ?_
  · refine ⟨rfl, rfl, ?_, rfl, rfl, rfl, rfl, ⟨?_, ?_⟩, show (1 : Int) ≤ 3 by decide⟩
    · change (s.activeAssignment? c.accountId).map (·.workerId) = some assignment.workerId
      rw [hassigned]
      rfl
    · exact hjobName ▸ h.named.2
    · change 1 ≤ p'.workerCapabilityVersion.getD p'.capabilityVersion
      rw [huniform.workerCapabilityVersion]
  · dsimp only
    rw [hjobName, hcfg.workerPolicies, ← hcfg.policies, hpolicy]
    exact huniform.blockedReasonCode
  · exact fun _ => .of_latest hlatest htarget hworker (hname.trans hjobName.symm)
      (hversion.trans huniform.workerCapabilityVersion.symm) rfl rfl
  · exact .pure hr

theorem RoutingReady.numbered_next (h : RoutingReady d now s c n) :
    ∀ a ∈ s.commandAttempts.rows, a.commandId = c.commandId → a.attemptNumber ≠ n + 1 := by
  intro a ha hcommand hnumber
  have hmem : a.attemptNumber ∈ numbersOf s.commandAttempts c.commandId :=
    List.mem_map.mpr ⟨a, mem_attemptsOf.mpr ⟨mem_rows_iff.mp ha, hcommand⟩, rfl⟩
  have hle := (mem_upTo.mp (h.numbered.subset hmem)).2
  have hcounted := h.counted
  rw [countOf_eq_length] at hcounted
  omega

/-- The router gives an exclusive operation out on a free account only. -/
theorem routeOf_lease_free (htarget : (routeOf cfg now s c account n).target = .localApi)
    (hexclusive :
      (routeOf cfg now s c account n).operationClass.requiresExclusiveAccountCoordination = true) :
    s.leaseActive c.accountId now = false := by
  obtain ⟨-, hgrants⟩ := routeOf_grants (.inr htarget)
  obtain ⟨p, hp, -, hroute⟩ := hgrants.policy
  have hbusy := hgrants.coordinated hexclusive
  have hclass : cfg.exclusive c.commandType = true := by
    rw [Settings.exclusive, hp, Option.any_some]
    rw [hroute] at hexclusive
    exact hexclusive
  change (cfg.exclusive c.commandType && s.leaseActive c.accountId now) = false at hbusy
  rwa [hclass, Bool.true_and] at hbusy

theorem RoutingReady.routeAndClaim_yields (hcfg : Shipped cfg) (h : RoutingReady d now s c n)
    (haccount : s.account? c.accountId = some account) :
    Yields (fun r => Put s.routeDecisions (routeDecision now d.routeDecisionId c
        account.executionMode n (routeOf cfg now s c account n)) r.2.routeDecisions)
      (routeAndClaim cfg d now s c n) := by
  have htexts : (routeOf cfg now s c account n).Texts := routeOf_texts hcfg h.named.2
  have hcount : 0 ≤ n := by
    rw [h.counted]
    exact Int.natCast_nonneg _
  refine .bind (.orThrow haccount rfl) fun x hx => ?_
  subst hx
  refine .bind (addDecision_yields h.fresh.routeDecisionId h.named.1
    ⟨htexts.capabilityName, htexts.capabilityVersion⟩ hcount htexts.reasonCode) fun s1 hs1 => ?_
  obtain ⟨RD, rfl, hRD⟩ := hs1
  change Put s.routeDecisions (routeDecision now d.routeDecisionId c account.executionMode n
    (routeOf cfg now s c account n)) RD at hRD
  -- what is left keeps the decisions
  have hkept : ∀ r : RoutingOutcome × State, KeepsRoutes { s with routeDecisions := RD } r.2 →
        Put s.routeDecisions (routeDecision now d.routeDecisionId c account.executionMode n
          (routeOf cfg now s c account n)) r.2.routeDecisions := by
    intro r hr
    rw [show r.2.routeDecisions = RD from hr]
    exact hRD
  refine Yields.mono ?_ hkept
  have hc : ({ s with routeDecisions := RD } : State).commands.get? c.commandId = some c :=
    h.stored
  split
  · exact endUnsupported_yields hc h.routable { h.fresh.toResultFresh with } h.named.1 hcfg.crm
  · exact holdForIntervention_yields hc h.routable
  · exact deferExecution_yields hc h.routable
  case h_4 htarget =>
    split
    case h_1 p hp => exact h.enqueueWorkerJob_yields hcfg htarget hp hRD
    case h_2 hnone =>
      obtain ⟨-, hgrants⟩ := routeOf_grants (.inl htarget)
      obtain ⟨p, hp, -⟩ := hgrants.policy
      rw [hp] at hnone
      cases hnone
  case h_5 htarget =>
    exact claimLocalApi_yields hc h.routable h.inTime h.named.1 hcount h.fresh.attemptId
      h.numbered_next (routeOf_lease_free htarget)

end Ready

-- ==== process_next

/-- The status a Command is routed in: a RECEIVED one is validated
first. -/
def Command.routedFrom (c : Command) : CommandStatus :=
  if c.status = .received then .validated else c.status

/-- The status a target asks of a Command. -/
def RouteTarget.commandStatus (source : CommandStatus) : RouteTarget → CommandStatus
  | .unsupported => if source = .validated then .rejected else .failedFinal
  | .waitingIntervention => .waitingIntervention
  | .waitingExecution | .workerJob => .waitingExecution
  | .localApi => .processing

/-- A target the Command can take: along the transition table or in
place. A job is only for a Command that waits and has not been
attempted. -/
structure Chooses (s : State) (c : Command) (target : RouteTarget) : Prop where
  valid : validTransition c.routedFrom (target.commandStatus c.routedFrom) = true
    ∨ target.commandStatus c.routedFrom = c.routedFrom
  worker : target = .workerJob → (c.routedFrom = .validated ∨ c.routedFrom = .waitingExecution)
    ∧ s.attemptCountFor c.commandId = 0

/-- At most one decision is stored, and it is one the Command can take. -/
def Decides (s : State) (c : Command) (s' : State) : Prop :=
  KeepsRoutes s s' ∨ ∃ decision, Put s.routeDecisions decision s'.routeDecisions
    ∧ decision.commandId = c.commandId ∧ Chooses s c decision.target

theorem target_valid {source : CommandStatus} (h : Routable source) (target : RouteTarget) :
    validTransition source (target.commandStatus source) = true
      ∨ target.commandStatus source = source := by
  rcases h with rfl | rfl | rfl | rfl <;> cases target <;> decide

/-- Commands as they are stored: with their texts, and with a typed
payload unless they were refused. -/
def CommandsTyped (C : Table commands) : Prop :=
  ∀ c, C.get? c.commandId = some c → (notBlank c.commandId = true ∧ notBlank c.commandType = true)
    ∧ (c.status ≠ .rejected → TypedPayload c.commandType c.payload)

/-- What routing needs of the state it starts in. -/
structure RoutingState (cfg : Settings) (s : State) : Prop where
  executors : ExecutorInv cfg s
  attempts : AttemptsAgree s.jobs s.attempts
  cancel : CancelAgree s.attempts s.cancelRequests
  typed : CommandsTyped s.commands

/-- What routing takes from outside: fresh identifiers, and an account
for every Command. -/
structure RoutingEnvironment (s : State) (d : Draws) : Prop where
  fresh : DrawsFresh d s
  accounts : ∀ c ∈ s.commands.rows, (s.account? c.accountId).isSome = true

section Claiming

variable {previous : Option CommandAttempt} {CA : Table commandAttempts}

/-- A Command `process_next` may route, with the execution it was in
closed in `CA`. -/
structure Claimable (cfg : Settings) (d : Draws) (now : Time) (s : State) (c : Command)
    (CA : Table commandAttempts) : Prop where
  state : RoutingState cfg s
  environment : RoutingEnvironment s d
  stored : s.commands.get? c.commandId = some c
  ready : c.status = .received ∨ Routable c.status
  inTime : c.deadlineReached now = false
  closed : Evolves CommandAttempt.Ends s.commandAttempts CA

theorem Claimable.freshAttempt (h : Claimable cfg d now s c CA) :
    CA.get? d.attemptId = none := by
  cases hfound : CA.get? d.attemptId with
  | none => rfl
  | some a =>
    obtain ⟨a0, ha0, -⟩ := h.closed.backward hfound
    rw [h.environment.fresh.attemptId] at ha0
    cases ha0

theorem Claimable.routing (h : Claimable cfg d now s c CA) (hsame : c.SameCommand c')
    (hC : C.get? c'.commandId = some c') (hroutable : Routable c'.status)
    (hprocessing : c'.status = .processing → c.status = .processing)
    (hagree : ExecutorsAgree s.jobs C s.commandAttempts s.routeDecisions) :
    RoutingReady d now { s with commandAttempts := CA, commands := C } c'
      (s.attemptCountFor c.commandId) := by
  have hcount := countOf_evolves h.closed
  have hattempted := h.state.executors.execution.attempted
  obtain ⟨hnamed, htyped⟩ := h.state.typed c h.stored
  have haccepted : c.status ≠ .rejected := by
    rcases h.ready with hst | hst | hst | hst | hst <;> rw [hst] <;> decide
  have haccount := h.environment.accounts c (mem_rows_iff.mpr h.stored)
  refine
    { stored := hC
      routable := hroutable
      inTime := ?_
      named := ?_
      typed := ?_
      account := ?_
      counted := ?_
      numbered := (hattempted.numbered c'.commandId).perm (numbersOf_evolves h.closed _)
      executed := fun hst => hattempted.counted h.stored (hprocessing hst)
      executors := hagree.attempts hcount
      attempts := h.state.attempts
      cancel := h.state.cancel
      fresh := { h.environment.fresh with attemptId := h.freshAttempt } }
  · have hinTime := h.inTime
    unfold Command.deadlineReached at hinTime ⊢
    rw [hsame.deadlineAt]
    exact hinTime
  · rw [hsame.commandId, hsame.commandType]
    exact hnamed
  · rw [hsame.commandType, hsame.payload]
    exact htyped haccepted
  · rw [hsame.accountId]
    exact haccount
  · rw [hsame.commandId]
    exact (hcount c.commandId).symm

/-- One decision, for the status the Command is routed in. -/
theorem RoutingReady.decides
    (h : RoutingReady d now { s with commandAttempts := CA, commands := C } c'
      (s.attemptCountFor c.commandId)) (hcfg : Shipped cfg) (hsame : c.SameCommand c')
    (hfrom : c.routedFrom = c'.status) :
    Yields (fun r => Decides s c r.2) (routeAndClaim cfg d now
      { s with commandAttempts := CA, commands := C } c' (s.attemptCountFor c.commandId)) := by
  obtain ⟨account, haccount⟩ := Option.isSome_iff_exists.mp h.account
  refine (h.routeAndClaim_yields hcfg haccount).mono fun r hr => .inr ⟨_, hr, hsame.commandId, ?_⟩
  refine ⟨?_, fun htarget => ?_⟩
  · rw [hfrom]
    exact target_valid h.routable _
  · obtain ⟨-, hn, hready⟩ := h.worker htarget
    rw [hfrom]
    exact ⟨hready, hn⟩

theorem validateAndRoute_yields (hcfg : Shipped cfg) (h : Claimable cfg d now s c CA) :
    Yields (fun r => Decides s c r.2) (validateAndRoute cfg d now
      { s with commandAttempts := CA } c (s.attemptCountFor c.commandId)) := by
  unfold validateAndRoute
  split
  case isTrue hreceived =>
    refine .bind (Command.transition_yields (by rw [hreceived]; rfl) (fun h => by cases h)
      (by decide)) fun c' hc' => ?_
    obtain ⟨hstatus, hsame, htoken, hexpiry⟩ := hc'
    have hlease : c'.executionLeaseToken.isNone = c'.executionLeaseExpiresAt.isNone := by
      rw [htoken, hexpiry]
      exact Command.lease_pair h.stored
    have hc : ({ s with commandAttempts := CA } : State).commands.get? c.commandId = some c :=
      h.stored
    refine .bind (storeCommand_yields hc hsame hlease) fun s1 hs1 => ?_
    obtain ⟨C, rfl, hput⟩ := hs1
    have hagree := h.state.executors.executors.commandPut hput fun hretried => by
      rw [hstatus] at hretried
      cases hretried
    have hready := h.routing hsame hput.get?_self (.inl hstatus)
      (fun hst => by rw [hstatus] at hst; cases hst) hagree
    refine hready.decides hcfg hsame ?_
    rw [Command.routedFrom, if_pos hreceived, hstatus]
  case isFalse hother =>
    have hroutable := h.ready.resolve_left hother
    have hready := h.routing (.refl c) h.stored hroutable (fun hst => hst)
      h.state.executors.executors
    refine hready.decides hcfg (.refl c) ?_
    rw [Command.routedFrom, if_neg hother]

theorem claimUnheld_yields (hcfg : Shipped cfg) (hstate : RoutingState cfg s)
    (henvironment : RoutingEnvironment s d) (hc : s.commands.get? c.commandId = some c)
    (hready : c.status = .received ∨ Routable c.status) (hprevious : Previous s c previous) :
    Yields (fun r => Decides s c r.2) (claimUnheld cfg d now c previous s) := by
  have hnamed := (hstate.typed c hc).1.1
  have hstored : ∀ a, previous = some a → s.commandAttempts.get? a.id = some a := by
    rintro a rfl
    exact (processingAttempt?_some hprevious.2).1
  unfold claimUnheld
  split
  · have hvalid : validTransition c.status .expired = true := by
      rcases hready with hst | hst | hst | hst | hst <;> rw [hst] <;> rfl
    exact (expireCommand_yields hc hvalid hstored henvironment.fresh.toResultFresh hnamed
      hcfg.crm).mono fun r hr => .inl hr
  case isFalse hinTime =>
    rw [Bool.not_eq_true] at hinTime
    split
    · exact .pure (.inl rfl)
    · split
      · exact validateAndRoute_yields hcfg
          ⟨hstate, henvironment, hc, hready, hinTime, .refl CommandAttempt.Ends.refl _⟩
      case h_2 a =>
        dsimp only
        split
        · exact (exhaustCommand_yields hc hprevious.1 (hstored a rfl)
            henvironment.fresh.toResultFresh hnamed hcfg.crm).mono fun r hr => .inl hr
        · refine .bind (closeAttempt_yields (hstored a rfl)) fun s1 hs1 => ?_
          obtain ⟨CA, rfl, hCA⟩ := hs1
          have hclosed := hstate.executors.execution.attempted.closes hc
            (hprevious.closed (by decide) hCA)
          exact validateAndRoute_yields hcfg
            ⟨hstate, henvironment, hc, hready, hinTime, hclosed.evolves⟩

/-- A PROCESSING Command has the attempt a take-over closes. -/
theorem processingAttempt?_of_processing (hstate : RoutingState cfg s)
    (hc : s.commands.get? c.commandId = some c) (hprocessing : c.status = .processing) :
    ∃ a, s.processingAttempt? c.commandId = some a := by
  obtain ⟨a, ha, hcommand, hrunning⟩ :=
    hstate.executors.execution.attempted.processing c hc hprocessing
  refine firstBy_of_mem _ (r := a) ?_
  simp only [List.mem_filter, checks_hold]
  exact ⟨mem_rows_iff.mpr ha, hcommand, hrunning⟩

theorem claimLocked_yields (hcfg : Shipped cfg) (hstate : RoutingState cfg s)
    (henvironment : RoutingEnvironment s d) (hc : s.commands.get? c.commandId = some c)
    (hready : c.status = .received ∨ Routable c.status) :
    Yields (fun r => Decides s c r.2) (claimLocked cfg d now c s) := by
  unfold claimLocked
  split
  · exact .pure (.inl rfl)
  · split
    case isTrue hprocessing =>
      split
      · exact .pure (.inl rfl)
      · obtain ⟨a, ha⟩ := processingAttempt?_of_processing hstate hc hprocessing
        refine .bind (.orThrow ha rfl) fun a' ha' => ?_
        subst ha'
        have hprevious : Previous s c (some a) := ⟨hprocessing, ha⟩
        exact claimUnheld_yields hcfg hstate henvironment hc hready hprevious
    case isFalse hidle =>
      have hprevious : Previous s c none := hidle
      exact claimUnheld_yields hcfg hstate henvironment hc hready hprevious

theorem processNext_yields {excluded : List String} (hcfg : Shipped cfg)
    (hstate : RoutingState cfg s) (henvironment : RoutingEnvironment s d) :
    Yields (fun r => KeepsRoutes s r.2 ∨ ∃ c, s.nextReady? now excluded = some c ∧ Decides s c r.2)
      (processNext cfg d now excluded s) := by
  unfold processNext
  split
  · exact .pure (.inl rfl)
  case h_2 c hnext =>
    have hc := (nextReady_unlinked hnext).1
    have hready : c.status = .received ∨ Routable c.status := by
      have hmem := firstBy_mem _ hnext
      simp only [List.mem_filter, State.readyForUpdate, checks_hold, Bool.or_eq_true] at hmem
      obtain ⟨-, ((hst | ⟨hst, -⟩) | ⟨hst, -⟩) | ⟨hst, -⟩, -⟩ := hmem
      · exact .inl hst
      · exact .inr (.inr (.inr (.inr hst)))
      · exact .inr (.inr (.inr (.inl hst)))
      · exact .inr (.inr (.inl hst))
    exact .bind (claimLocked_yields hcfg hstate henvironment hc hready) fun r hr =>
      .pure (.inr ⟨c, hnext, hr⟩)

end Claiming

-- ==== runs

/-- The payload a call brings is a dump of its type's model. -/
def Op.Typed (op : Op) : Prop :=
  ∀ commandType payload, op.payload? = some (commandType, payload) →
    TypedPayload commandType payload

/-- The calls of the platform: payloads come through their models, and a
job enqueued by hand is for no Command that was attempted. -/
def Routed (s : State) (call : Call) : Prop :=
  EnqueuesUnattempted s call ∧ call.op.Typed

theorem CommandsTyped.put (h : CommandsTyped C) (hc : C.get? c.commandId = some c)
    (hput : Put C c' C') (hsame : c.SameCommand c') (haccepted : c.status ≠ .rejected) :
    CommandsTyped C' := by
  intro c2 hc2
  rcases hput.cases hc2 with ⟨-, rfl⟩ | ⟨-, hc2⟩
  · rw [hsame.commandId, hsame.commandType, hsame.payload]
    exact ⟨(h c hc).1, fun _ => (h c hc).2 haccepted⟩
  · exact h c2 hc2

theorem CommandsTyped.commandPut {O O' : Table outboxEvents} {D D' : Table integrationDeliveries}
    (h : CommandsTyped C) (hput : CommandPut c c' C O D C' O' D') : CommandsTyped C' := by
  refine h.put hput.stored hput.put hput.same fun hrejected => ?_
  have hopen := hput.unfinished
  rw [hrejected] at hopen
  cases hopen

theorem CommandsTyped.effect {call : Call} {s0 : State} (htyped : call.op.Typed)
    (h : CommandsTyped s.commands) (he : Effect cfg call s0 s s') : CommandsTyped s'.commands := by
  cases he with
  | jobMoved hmoved =>
    rcases hmoved.command with ⟨-, hC, -, -⟩ | ⟨c, -, -, -, ⟨-, hC, -, -⟩ | ⟨c', hput, -⟩⟩
    · exact hC ▸ h
    · exact hC ▸ h
    · exact h.commandPut hput
  | commandAdded hadd =>
    intro c2 hc2
    rcases hadd.put.cases hc2 with ⟨-, rfl⟩ | ⟨-, hc2⟩
    · exact ⟨hadd.named, fun haccepted => htyped _ _ (hadd.payload.resolve_left haccepted)⟩
    · exact h c2 hc2
  | commandMoved hmoved => exact h.commandPut hmoved.put
  | commandClaimed hclaimed => exact h.commandPut hclaimed.put
  | commandTouched htouched => exact h.commandPut htouched.put
  | _ => exact h

theorem RoutingState.reachable (h : (machine cfg).Reachable Routed s) : RoutingState cfg s := by
  have hany : Reachable cfg s := h.mono fun _ _ _ => trivial
  refine ⟨.reachable (h.mono fun _ _ hallow => hallow.1), .reachable hany, .reachable hany, ?_⟩
  exact Allowed.of_effects (I := fun s => CommandsTyped s.commands)
    (fun W c hc => by cases hc) (fun _ _ _ _ hallow ht he => ht.effect hallow.2 he) h

-- ==== the theorem

/-- No Command ever has an API attempt and a job, and `process_next`
returns, having stored decisions the Command it took can follow. -/
theorem one_kind_of_executor (h : (machine cfg).Reachable Routed s) :
    (∀ j ∈ s.jobs.rows, ∀ a ∈ s.commandAttempts.rows, j.commandId ≠ some a.commandId)
      ∧ ∀ d now excluded, Shipped cfg → RoutingEnvironment s d →
        ∃ outcome s', processNext cfg d now excluded s = .ok (outcome, s')
          ∧ ∀ decision ∈ s'.routeDecisions.rows, decision ∈ s.routeDecisions.rows
            ∨ ∃ c, s.nextReady? now excluded = some c ∧ decision.commandId = c.commandId
              ∧ Chooses s c decision.target := by
  have hstate := RoutingState.reachable h
  refine ⟨fun j hj a ha hlink => ?_, fun d now excluded hcfg henvironment => ?_⟩
  · have hnone := hstate.executors.executors.single j _ (mem_rows_iff.mp hj) hlink
    have hmem : a ∈ attemptsOf s.commandAttempts a.commandId :=
      mem_attemptsOf.mpr ⟨mem_rows_iff.mp ha, rfl⟩
    have hpos := List.length_pos_of_mem hmem
    rw [countOf] at hnone
    omega
  · have hyields : Yields _ (processNext cfg d now excluded s) :=
      processNext_yields hcfg hstate henvironment
    obtain ⟨⟨outcome, s'⟩, hok, hdecides⟩ := hyields
    refine ⟨outcome, s', hok, fun decision hmem => ?_⟩
    have hkept : KeepsRoutes s s' → decision ∈ s.routeDecisions.rows := fun hsame => by
      rw [← show s'.routeDecisions = s.routeDecisions from hsame]
      exact hmem
    rcases hdecides with hsame | ⟨c, hnext, hsame | ⟨new, hput, hcommand, hchooses⟩⟩
    · exact .inl (hkept hsame)
    · exact .inl (hkept hsame)
    · have hstored : s'.routeDecisions.get? decision.id = some decision := mem_rows_iff.mp hmem
      rcases hput.cases hstored with ⟨-, rfl⟩ | ⟨-, hold⟩
      · exact .inr ⟨c, hnext, hcommand, hchooses⟩
      · exact .inl (mem_rows_iff.mpr hold)

/-- A browse Command of a browser-only account is received. -/
def browseRun : List Call := [Sample.call 1 0 (.receive (Sample.browse "browse" 0 (some 500)))]

/-- The identifiers of the call that routes it. -/
def routingDraws : Draws := { Sample.draws 2 with preemptionId := id, cancelRequestId := id }

theorem shipped_settings : Shipped Sample.settings := ⟨rfl, rfl, by decide, fun _ _ => rfl⟩

open Sample in
theorem routed_browseRun : (machine settings).Reachable Routed (after browseRun) := by
  refine Allowed.run (t := 0) (.init ⟨world, rfl⟩) (by decide) ?_
  intro call hcall s
  rw [browseRun, List.mem_singleton] at hcall
  subst hcall
  refine ⟨fun request commandId hop => (by cases hop), fun commandType payload hpayload => ?_⟩
  cases hpayload
  intro model hmodel
  cases hmodel
  exact ⟨fun value => if value = .int 3 then some 3 else none, [("max_items", .int 3)], by decide⟩

theorem environment_browseRun : RoutingEnvironment (Sample.after browseRun) routingDraws where
  fresh :=
    { eventId := fun _ => rfl
      deliveredEvent := fun _ delivery h => by cases h
      deliveryId := fun _ => rfl
      jobId := rfl
      preemptionId := fun _ => rfl
      cancelRequestId := fun _ => rfl
      preemptionIds := fun _ _ h => h
      cancelRequestIds := fun _ _ h => h
      attemptId := rfl
      routeDecisionId := rfl }
  accounts := by decide

open Sample in
/-- It is routed to a worker: VALIDATED, and not attempted. -/
theorem one_kind_of_executor_browse :
    ∃ outcome s', processNext settings routingDraws 1 [] (after browseRun) = .ok (outcome, s')
      ∧ ∃ decision ∈ s'.routeDecisions.rows, ∃ c, decision.commandId = c.commandId
        ∧ decision.target = .workerJob ∧ Chooses (after browseRun) c .workerJob := by
  obtain ⟨-, hreturns⟩ := one_kind_of_executor routed_browseRun
  obtain ⟨outcome, s', hok, hdecisions⟩ :=
    hreturns routingDraws 1 [] shipped_settings environment_browseRun
  have hrouted : (processNext settings routingDraws 1 []
      (after browseRun)).toOption.any (fun r => r.2.routeDecisions.rows.any
        fun x => decide (x.target = .workerJob)) = true := by decide +kernel
  rw [hok] at hrouted
  obtain ⟨decision, hmem, htarget⟩ := List.any_eq_true.mp hrouted
  rw [decide_eq_true_eq] at htarget
  rcases hdecisions decision hmem with hold | ⟨c, -, hcommand, hchooses⟩
  · cases hold
  · exact ⟨outcome, s', hok, decision, hmem, c, hcommand, htarget, htarget ▸ hchooses⟩

-- ---- by hand

/-- A claim of the API executor of "post". -/
def failedClaim : ExecutionClaim where
  commandId := "post"
  accountId := 1
  leaseToken := 301
  attemptNumber := 1
  attemptId := 302
  accountCoordinationGeneration := some 1

/-- The account may use both executors, but no handler is left. -/
def hybridWorld : Surroundings :=
  { Sample.world with accounts := [{ id := 1, status := .active, executionMode := .hybrid }] }

/-- A job for "post", asked for by hand. -/
def manualRequest : EnqueueRequest where
  capabilityName := "threads.publish_text"
  capabilityVersion := 1
  commandId := some "post"
  accountId := some 1
  assignedWorkerId := none
  accountAffinityRequired := none
  priority := 0
  preemptible := false
  scheduledAt := none
  deadlineAt := none
  maxAttempts := 3
  retrySafety := .reconciliationRequired
  operationClass := .mutation
  inputData := none

/-- "post" fails at the API and will be retried. Its handler is gone by
then, so it waits, and a job is enqueued for it by hand. -/
def manualRun : List Call := [Sample.call 1 0 (.surroundings Sample.apiWorld),
    Sample.call 2 1 (.receive (Sample.publish "post" 1 none)), Sample.call 3 2 (.processNext []),
    Sample.call 4 3 (.finishFailure failedClaim "TRANSIENT" true none fun low _ => low),
    Sample.call 5 4 (.surroundings hybridWorld), Sample.call 6 40 (.processNext []),
    Sample.call 7 41 (.enqueue manualRequest)]

open Sample in
/-- `enqueue` looks at the Command's status, not at its attempts. -/
theorem enqueue_by_hand_gives_both : ∃ s, Reachable settings s
    ∧ ∃ j ∈ s.jobs.rows, ∃ a ∈ s.commandAttempts.rows, j.commandId = some a.commandId :=
  ⟨after manualRun, reachable (by decide +kernel), by decide +kernel⟩

end ThreadsPlatform
