/-
Every committed `CommandRuntime` operation is a sequence of effects.

The route of a Command ends in one of three effects: the Command moves,
a job is enqueued for it, or an executor claims it. What the executor
does later touches the Command it claimed or moves it. Everything else
these operations write (decisions, attempts, content) is `aside`.
-/
import ThreadsPlatform.Effects.WorkerJobs

namespace ThreadsPlatform

open Relational Table

variable {a : CommandAttempt} {envelope : CommandEnvelope} {answer : CommandExecutionResult}
  {target : CommandStatus} {κ : ExecutionClaim} {n : Int} {excluded : List String}
  {previous : Option CommandAttempt} {retryAfter : Option Duration} {g : Option Int}
  {code : Option String} {retryAt : Option Time} {jitter : Rat → Rat → Rat} {route : Route}
  {outcome : RoutingOutcome} {reason : String} {C : Table commands} {account : ThreadsAccount}

-- ==== routing

/-- The executor a target goes with. -/
def RouteTarget.executor : RouteTarget → Option CapabilityExecutor
  | .localApi => some .api
  | .workerJob => some .worker
  | _ => none

theorem chooseExecutor_executor (p : BusinessCapabilityPolicy) (mode : AccountExecutionMode)
    (e : CapabilityEvidence) :
    (chooseExecutor p mode e).2.1 = (chooseExecutor p mode e).1.executor := by
  unfold chooseExecutor
  cases mode <;> dsimp only <;> repeat' split
  all_goals rfl

theorem chooseExecutor_assigned {p : BusinessCapabilityPolicy} {mode : AccountExecutionMode}
    {e : CapabilityEvidence} (h : (chooseExecutor p mode e).1 = .workerJob) :
    e.workerAssigned = true := by
  unfold chooseExecutor at h
  cases mode <;> dsimp only at h <;> repeat' split at h
  all_goals simp_all

/-- A route that names an executor: the Command has no job, its policy
allows it, the account is free if it has to be, and the executor is the
one the Command has been given before. -/
structure Route.Grants (route : Route) (policies : Policies) (commandType : String)
    (e : CapabilityEvidence) : Prop where
  unlinked : e.existingWorkerJob = none
  policy : ∃ p, policies.policyFor commandType = some p ∧ p.blockedReasonCode = none
    ∧ route = p.decision route.target route.executor route.reasonCode
  coordinated : route.operationClass.requiresExclusiveAccountCoordination = true →
    e.accountMutationBusy = false
  repeated : 0 < e.attemptCount → e.previousExecutor = route.executor
  assigned : route.target = .workerJob → e.workerAssigned = true

/-- What `decide` answers: an executor and its target go together, and a
route with an executor is granted. -/
theorem Policies.decide_spec (policies : Policies) (commandType : String)
    (mode : AccountExecutionMode) (e : CapabilityEvidence) :
    (policies.decide commandType mode e).executor
        = (policies.decide commandType mode e).target.executor
      ∧ ((policies.decide commandType mode e).executor ≠ none →
        (policies.decide commandType mode e).Grants policies commandType e) := by
  unfold Policies.decide
  cases hp : policies.policyFor commandType with
  | none => exact ⟨rfl, fun h => absurd rfl h⟩
  | some p =>
    cases hj : e.existingWorkerJob with
    | some job =>
      dsimp only
      split
      · exact ⟨rfl, fun h => absurd rfl h⟩
      · exact ⟨rfl, fun h => absurd rfl h⟩
    | none =>
      dsimp only
      cases hblocked : p.blockedReasonCode with
      | some reason => exact ⟨rfl, fun h => absurd rfl h⟩
      | none =>
        dsimp only
        split
        · exact ⟨rfl, fun h => absurd rfl h⟩
        split
        · exact ⟨rfl, fun h => absurd rfl h⟩
        split
        · exact ⟨rfl, fun h => absurd rfl h⟩
        split
        · exact ⟨rfl, fun h => absurd rfl h⟩
        case isFalse hfree =>
        split
        · exact ⟨rfl, fun h => absurd rfl h⟩
        split
        · exact ⟨rfl, fun h => absurd rfl h⟩
        case isFalse hsame =>
          refine ⟨chooseExecutor_executor p mode e, fun hexecutor => ?_⟩
          have htarget : (chooseExecutor p mode e).1 = .localApi
              ∨ (chooseExecutor p mode e).1 = .workerJob := by
            have hgoes := chooseExecutor_executor p mode e
            change (chooseExecutor p mode e).2.1 ≠ none at hexecutor
            rw [hgoes] at hexecutor
            cases htarget : (chooseExecutor p mode e).1 <;> rw [htarget] at hexecutor
            case localApi => exact .inl rfl
            case workerJob => exact .inr rfl
            all_goals exact absurd rfl hexecutor
          refine ⟨hj, ⟨p, hp, hblocked, rfl⟩, ?_, ?_, chooseExecutor_assigned⟩
          · intro hexclusive
            change p.operationClass.requiresExclusiveAccountCoordination = true at hexclusive
            simpa [hexclusive] using hfree
          · intro hcount
            by_contra hne
            refine hsame ⟨hcount, htarget, .inr fun heq => hne ?_⟩
            exact heq.symm

namespace CommandRuntime

variable {cfg : Settings} {call : Call} {d : Draws} {now : Time} {s₀ s s' : State}
  {c c' : Command} {CA : Table commandAttempts} {RD : Table commandRouteDecisions}

theorem addDecision_ok {decision : CapabilityRouteDecision}
    (h : addDecision s decision = .ok s') : ∃ RD, s' = { s with routeDecisions := RD }
      ∧ DecisionAdded s.routeDecisions decision.commandId decision.executor RD := by
  simp only [addDecision, steps_ok] at h
  obtain ⟨-, -, RD, hRD, rfl⟩ := h
  obtain ⟨hfresh, hput⟩ := addRow_ok hRD
  exact ⟨RD, rfl, decision, hfresh, hput, rfl, rfl⟩

theorem closeAttempt_ok {outcome : AttemptStatus} (h : closeAttempt now s a outcome code = .ok s') :
    ∃ CA, s' = { s with commandAttempts := CA }
      ∧ Put s.commandAttempts (a.close outcome now code) CA := by
  simp only [closeAttempt, steps_ok] at h
  obtain ⟨CA, hCA, rfl⟩ := h
  exact ⟨CA, rfl, (updateRow_ok hCA).2⟩

theorem storeCommand_ok (h : storeCommand s c = .ok s') :
    ∃ C, s' = { s with commands := C } ∧ Put s.commands c C := by
  simp only [storeCommand, steps_ok] at h
  obtain ⟨C, hC, rfl⟩ := h
  exact ⟨C, rfl, (updateRow_ok hC).2⟩

-- ---- writing a Command

theorem sameCommand_clear (h : c.SameCommand c') : c.SameCommand c'.clearExecutionLease := by
  obtain ⟨h1, h2, h3, h4, h5, h6, h7, h8, h9, h10, h11⟩ := h
  exact ⟨h1, h2, h3, h4, h5, h6, h7, h8, h9, h10, h11⟩

open Command

theorem finishCommand_ok {result : Option Document} {s1 : State}
    (hc : s.commands.get? c.commandId = some c)
    (ht : c.transition target now code result retryAt = .ok c') (hterminal : target.terminal = true)
    (h1 : storeCommand s c'.clearExecutionLease = .ok s1)
    (h2 : enqueueResult cfg d now s1 c'.clearExecutionLease = .ok s') :
    ∃ C O D, s' = { s with commands := C, outboxEvents := O, deliveries := D }
      ∧ CommandPut c c'.clearExecutionLease s.commands s.outboxEvents s.deliveries C O D
      ∧ c'.clearExecutionLease.status = target := by
  obtain ⟨C, rfl, hput⟩ := storeCommand_ok h1
  obtain ⟨O, D, rfl, hresult⟩ := enqueueCommandResult_ok h2
  obtain ⟨hvalid, hstatus, hsame, -, -, hcheckpoint⟩ := transition_ok ht
  refine ⟨C, O, D, rfl, ⟨hc, sameCommand_clear hsame, .inl ?_, hput, .inl hcheckpoint, ?_⟩, hstatus⟩
  · rw [show c'.clearExecutionLease.status = target from hstatus]
    exact hvalid
  · rw [show c'.clearExecutionLease.status = target from hstatus, hterminal]
    exact hresult

theorem commandPut_waiting (hc : s.commands.get? c.commandId = some c) (hsame : c.SameCommand c')
    (hallowed : validTransition c.status c'.status = true
      ∨ (c'.status = c.status ∧ c.status.terminal = false)) (hopen : c'.status.terminal = false)
    (hput : Put s.commands c' C) (hcheckpoint : c'.checkpoint = c.checkpoint
      ∨ (c.status = .processing ∧ c'.status = .processing)) :
    CommandPut c c' s.commands s.outboxEvents s.deliveries C s.outboxEvents s.deliveries := by
  refine ⟨hc, hsame, hallowed, hput, hcheckpoint, ?_⟩
  rw [hopen]
  exact ⟨rfl, rfl⟩

/-- The Command has no job, or the call is `process`. -/
def Unclaimed (call : Call) (s : State) (c : Command) : Prop :=
  c.status.delegated = true → (∃ id, call.op = .process id)
    ∨ ∀ j ∈ s.jobs.rows, j.commandId ≠ some c.commandId

/-- The Command alone is written, to a new status. -/
def CommandStored (c : Command) (target : CommandStatus) (s s' : State) : Prop :=
  ∃ c' C O D, s' = { s with commands := C, outboxEvents := O, deliveries := D }
    ∧ CommandPut c c' s.commands s.outboxEvents s.deliveries C O D ∧ c'.status = target

theorem CommandStored.effects (h : CommandStored c target { s with commandAttempts := CA } s')
    (hfree : Unclaimed call s c) (hclosed : ExecutionClosed call.now s c CA)
    (hlapsed : c.status = .processing →
      c.executionLeaseExpiresAt.all (fun e => decide (e ≤ call.now)) = true)
    (hretried : c.status = .processing → target.terminal = false →
      s.attemptCountFor c.commandId < cfg.retryPolicy.maxAttempts) (hne : target ≠ .processing) :
    Effects cfg call s₀ s s' := by
  obtain ⟨c', C, O, D, rfl, hput, rfl⟩ := h
  exact .single (.commandMoved ⟨hput, hne, hclosed, fun hprocessing => .inl (hlapsed hprocessing),
      fun hprocessing hopen => .inl (hretried hprocessing hopen), hfree, .inl rfl⟩)

section

variable (hc : s.commands.get? c.commandId = some c)

include hc

theorem endUnsupported_ok (h : endUnsupported cfg d now s c reason = .ok (outcome, s')) :
    CommandStored c (if c.status = .validated then .rejected else .failedFinal) s s' := by
  simp only [endUnsupported, steps_ok] at h
  obtain ⟨c', ht, s1, h1, s2, h2, -, rfl⟩ := h
  obtain ⟨C, O, D, rfl, hput, hstatus⟩ := finishCommand_ok hc ht (by split <;> rfl) h1 h2
  exact ⟨_, C, O, D, rfl, hput, hstatus⟩

theorem storeWaiting_ok (ht : c.transition target now code none none = .ok c')
    (hopen : target.terminal = false) (h : storeCommand s c'.clearExecutionLease = .ok s') :
    CommandStored c target s s' := by
  obtain ⟨C, rfl, hput⟩ := storeCommand_ok h
  obtain ⟨hvalid, hstatus, hsame, -, -, hcheckpoint⟩ := transition_ok ht
  have hstatus' : c'.clearExecutionLease.status = target := hstatus
  refine ⟨_, C, _, _, rfl, commandPut_waiting hc (sameCommand_clear hsame) (.inl ?_) ?_ hput
    (.inl hcheckpoint), hstatus'⟩
  · rw [hstatus']
    exact hvalid
  · rw [hstatus']
    exact hopen

theorem holdForIntervention_ok (h : holdForIntervention now s c reason = .ok (outcome, s')) :
    CommandStored c .waitingIntervention s s' := by
  simp only [holdForIntervention, steps_ok] at h
  obtain ⟨c', ht, s1, h1, -, rfl⟩ := h
  exact storeWaiting_ok hc ht rfl h1

theorem deferExecution_ok (h : deferExecution now s c reason = .ok (outcome, s')) :
    CommandStored c .waitingExecution s s' := by
  unfold deferExecution at h
  split at h
  case isTrue hwaiting =>
    simp only [steps_ok] at h
    obtain ⟨_, rfl, s1, h1, -, rfl⟩ := h
    obtain ⟨C, rfl, hput⟩ := storeCommand_ok h1
    have hstatus' : c.clearExecutionLease.status = .waitingExecution := hwaiting
    refine ⟨_, C, _, _, rfl, commandPut_waiting hc (sameCommand_clear (.refl c))
      (.inr ⟨rfl, ?_⟩) ?_ hput (.inl rfl), hstatus'⟩
    · rw [hwaiting]
      rfl
    · rw [hstatus']
      rfl
  · simp only [steps_ok] at h
    obtain ⟨c', ht, s1, h1, -, rfl⟩ := h
    exact storeWaiting_ok hc ht rfl h1

end

/-- The attempt of the execution the Command is in, if it is in one. -/
def Previous (s : State) (c : Command) : Option CommandAttempt → Prop
  | none => c.status ≠ .processing
  | some a => c.status = .processing ∧ s.processingAttempt? c.commandId = some a

theorem Previous.closed {outcome : AttemptStatus} (h : Previous s c (some a))
    (houtcome : outcome ≠ .processing)
    (hput : Put s.commandAttempts (a.close outcome now code) CA) : ExecutionClosed now s c CA :=
  .inr ⟨h.1, a, outcome, code, h.2, houtcome, hput⟩

theorem expireCommand_ok (hc : s.commands.get? c.commandId = some c)
    (hprevious : Previous s c previous)
    (h : expireCommand cfg d now s c previous = .ok (outcome, s')) :
    ∃ CA, ExecutionClosed now s c CA
      ∧ CommandStored c .expired { s with commandAttempts := CA } s' := by
  unfold expireCommand at h
  split at h <;> simp only [steps_ok] at h
  case h_1 a =>
    obtain ⟨s1, h1, c', ht, s2, h2, s3, h3, -, rfl⟩ := h
    obtain ⟨CA, rfl, hCA⟩ := closeAttempt_ok h1
    obtain ⟨C, O, D, rfl, hput, hstatus⟩ :=
      finishCommand_ok (s := { s with commandAttempts := CA }) hc ht rfl h2 h3
    exact ⟨CA, hprevious.closed (by decide) hCA, _, C, O, D, rfl, hput, hstatus⟩
  · obtain ⟨_, rfl, c', ht, s2, h2, s3, h3, -, rfl⟩ := h
    obtain ⟨C, O, D, rfl, hput, hstatus⟩ := finishCommand_ok hc ht rfl h2 h3
    exact ⟨s.commandAttempts, .inl ⟨hprevious, rfl⟩, _, C, O, D, rfl, hput, hstatus⟩

theorem exhaustCommand_ok {previous : CommandAttempt} (hc : s.commands.get? c.commandId = some c)
    (hprevious : Previous s c (some previous))
    (h : exhaustCommand cfg d now s c previous = .ok (outcome, s')) :
    ∃ CA, ExecutionClosed now s c CA
      ∧ CommandStored c .failedFinal { s with commandAttempts := CA } s' := by
  simp only [exhaustCommand, steps_ok] at h
  obtain ⟨s1, h1, c', ht, s2, h2, s3, h3, -, rfl⟩ := h
  obtain ⟨CA, rfl, hCA⟩ := closeAttempt_ok h1
  obtain ⟨C, O, D, rfl, hput, hstatus⟩ :=
    finishCommand_ok (s := { s with commandAttempts := CA }) hc ht rfl h2 h3
  exact ⟨CA, hprevious.closed (by decide) hCA, _, C, O, D, rfl, hput, hstatus⟩

/-- A Command as `_route_and_claim` sees it. -/
def Routable (status : CommandStatus) : Prop :=
  status = .validated ∨ status = .waitingExecution ∨ status = .processing
    ∨ status = .failedRetryable

/-- A Command ready to be routed for the `n + 1`st time: no execution
holds it, and the one that lapsed, if any, is closed in `CA`. -/
structure AtRouting (cfg : Settings) (call : Call) (s₀ s : State) (c : Command) (n : Int)
    (CA : Table commandAttempts) : Prop where
  first : s.claims = s₀.claims
  stored : s.commands.get? c.commandId = some c
  free : Unclaimed call s c
  lapsed : c.status = .processing →
    c.executionLeaseExpiresAt.all (fun e => decide (e ≤ call.now)) = true
  closed : ExecutionClosed call.now s c CA
  counted : n = s.attemptCountFor c.commandId
  retries : c.status = .processing → n < cfg.retryPolicy.maxAttempts

/-- The Command is settled, or waits, under a route with no executor. -/
theorem AtRouting.stored_effects (hready : AtRouting cfg call s₀ s c n CA)
    (hdecision : DecisionAdded s.routeDecisions c.commandId none RD)
    (h : CommandStored c target { s with commandAttempts := CA, routeDecisions := RD } s')
    (hne : target ≠ .processing) : Effects cfg call s₀ s s' := by
  refine .head (.decided hdecision) ?_
  refine CommandStored.effects h hready.free hready.closed
    hready.lapsed (fun hprocessing _ => ?_) hne
  have hcount := hready.retries hprocessing
  rw [hready.counted] at hcount
  exact hcount

-- ---- local API claims

/-- The claim an execution starts with. -/
def executionClaim (d : Draws) (c : Command) (a : CommandAttempt) (g : Option Int) :
    ExecutionClaim where
  commandId := c.commandId
  accountId := c.accountId
  leaseToken := d.leaseToken
  attemptNumber := a.attemptNumber
  attemptId := a.id
  accountCoordinationGeneration := g

theorem startExecution_ok (hc : s.commands.get? c.commandId = some c)
    (h : startExecution cfg d now s c a g = .ok (outcome, s')) :
    ∃ c' CA C, s' = { s with
        commandAttempts := CA, commands := C, claims := executionClaim d c a g :: s.claims }
      ∧ CommandPut c c' s.commands s.outboxEvents s.deliveries C s.outboxEvents s.deliveries
      ∧ c'.status = .processing ∧ c'.executionLeaseToken = some d.leaseToken
      ∧ c'.executionLeaseExpiresAt = some (now + cfg.executionLeaseDuration)
      ∧ c'.checkpoint = c.checkpoint
      ∧ s.commandAttempts.get? a.id = none ∧ Put s.commandAttempts a CA := by
  obtain ⟨c1, hsame, hcheckpoint, hallowed, hstatus, h⟩ : ∃ c1, c.SameCommand c1
      ∧ c1.checkpoint = c.checkpoint
      ∧ (validTransition c.status c1.status = true
        ∨ (c1.status = c.status ∧ c.status.terminal = false))
      ∧ c1.status = .processing
      ∧ ∃ CA s1, addRow s.commandAttempts a = .ok CA
        ∧ storeCommand { s with commandAttempts := CA } { c1 with
          executionLeaseToken := some d.leaseToken
          executionLeaseExpiresAt := some (now + cfg.executionLeaseDuration) } = .ok s1
        ∧ s' = { s1 with claims := executionClaim d c1 a g :: s1.claims } := by
    unfold startExecution at h
    split at h
    · simp only [steps_ok] at h
      obtain ⟨c1, hreclaim, CA, hCA, s1, h1, -, rfl⟩ := h
      obtain ⟨hprocessing, hstatus, hsame, hcheckpoint⟩ := reclaim_ok hreclaim
      exact ⟨c1, hsame, hcheckpoint, .inr ⟨hstatus, by rw [hprocessing]; rfl⟩,
        hstatus.trans hprocessing, CA, s1, hCA, h1, rfl⟩
    · simp only [steps_ok] at h
      obtain ⟨c1, ht, CA, hCA, s1, h1, -, rfl⟩ := h
      obtain ⟨hvalid, hstatus, hsame, -, -, hcheckpoint⟩ := transition_ok ht
      exact ⟨c1, hsame, hcheckpoint, .inl (hstatus ▸ hvalid), hstatus, CA, s1, hCA, h1, rfl⟩
  obtain ⟨CA, s1, hCA, h1, rfl⟩ := h
  obtain ⟨C, rfl, hput⟩ := storeCommand_ok h1
  have hclaim : executionClaim d c1 a g = executionClaim d c a g := by
    unfold executionClaim
    rw [hsame.commandId, hsame.accountId]
  rw [hclaim]
  refine ⟨{ c1 with
      executionLeaseToken := some d.leaseToken
      executionLeaseExpiresAt := some (now + cfg.executionLeaseDuration) }, CA, C, rfl,
    commandPut_waiting hc ?_ hallowed ?_ hput (.inl hcheckpoint), hstatus, rfl, rfl,
    hcheckpoint, addRow_ok hCA⟩
  · obtain ⟨h1, h2, h3, h4, h5, h6, h7, h8, h9, h10, h11⟩ := hsame
    exact ⟨h1, h2, h3, h4, h5, h6, h7, h8, h9, h10, h11⟩
  · rw [hstatus]
    rfl

theorem startExecution_effects {L : Table accountExecutionLeases}
    (hready : AtRouting cfg call s₀ s c n CA)
    (hdecision : DecisionAdded s.routeDecisions c.commandId (some .api) RD)
    (hunlinked : ∀ j ∈ s.jobs.rows, j.commandId ≠ some c.commandId)
    (ha : a.commandId = c.commandId ∧ a.attemptNumber = n + 1 ∧ a.status = .processing)
    (hlease : (cfg.exclusive c.commandType = true ∧ ∃ n, g = some n
        ∧ LeaseTaken c.accountId .command (Uuid.str a.id) n call.now
          (call.now + cfg.executionLeaseDuration) s.accountLeases L)
      ∨ (cfg.exclusive c.commandType = false ∧ g = none ∧ L = s.accountLeases))
    (h : startExecution cfg call.draws call.now
      { s with commandAttempts := CA, routeDecisions := RD, accountLeases := L } c a g
      = .ok (outcome, s')) : Effects cfg call s₀ s s' := by
  obtain ⟨c', CA', C, rfl, hput, hstatus, htoken, hexpiry, hcheckpoint, hfresh, hCA⟩ :=
    startExecution_ok (s := { s with
      commandAttempts := CA, routeDecisions := RD, accountLeases := L }) hready.stored h
  have hclaimed : CommandClaimed cfg call s₀ s c c' (executionClaim call.draws c a g) a
      (call.now + cfg.executionLeaseDuration) CA' RD C L :=
    { first := hready.first
      put := hput
      unlinked := hunlinked
      status := hstatus
      lapsed := hready.lapsed
      leaseToken := htoken
      leaseExpiresAt := hexpiry
      commandId := rfl
      accountId := rfl
      checkpoint := hcheckpoint
      token := rfl
      attemptId := rfl
      claimNumber := rfl
      attemptOf := ha.1
      attemptNumber := ha.2.1.trans (by rw [hready.counted])
      attemptStatus := ha.2.2
      attempts := ⟨CA, hready.closed, hfresh, hCA⟩
      retried := fun hprocessing => hready.counted ▸ hready.retries hprocessing
      decision := hdecision
      lease := hlease }
  exact .single (.commandClaimed hclaimed)

theorem claimLocalApi_effects (hready : AtRouting cfg call s₀ s c n CA)
    (hdecision : DecisionAdded s.routeDecisions c.commandId (some .api) RD)
    (hunlinked : ∀ j ∈ s.jobs.rows, j.commandId ≠ some c.commandId)
    (hclass : cfg.exclusive c.commandType
      = route.operationClass.requiresExclusiveAccountCoordination)
    (hidle : cfg.exclusive c.commandType = true → s.leaseActive c.accountId call.now = false)
    (h : claimLocalApi cfg call.draws call.now
      { s with commandAttempts := CA, routeDecisions := RD } c account n route
      = .ok (outcome, s')) : Effects cfg call s₀ s s' := by
  simp only [claimLocalApi, CommandAttempt.create, steps_ok] at h
  obtain ⟨a, ⟨-, ha⟩, h⟩ := h
  have hattempt : a.commandId = c.commandId ∧ a.attemptNumber = n + 1 ∧ a.status = .processing := by
    rw [← ha]
    exact ⟨rfl, rfl, rfl⟩
  split at h
  case isTrue hexclusive =>
    rw [hexclusive] at hclass
    simp only [bind_eq_ok] at h
    obtain ⟨⟨g, s1⟩, hacquire, h⟩ := h
    rcases State.tryAcquire_ok hacquire with ⟨rfl, rfl, hactive⟩ | ⟨m, L, rfl, rfl, htaken⟩
    · -- the route would have been a wait
      have hbusy : s.leaseActive c.accountId call.now = true := hactive
      rw [hidle hclass] at hbusy
      cases hbusy
    · exact startExecution_effects hready hdecision hunlinked hattempt
        (.inl ⟨hclass, m, rfl, htaken⟩) h
  case isFalse hshared =>
    rw [Bool.not_eq_true] at hshared
    rw [hshared] at hclass
    exact startExecution_effects hready hdecision hunlinked hattempt (.inr ⟨hclass, rfl, rfl⟩) h

theorem evidence_previous_worker
    (h : (evidence cfg now s c account n).previousExecutor = some .worker) :
    ∃ decision ∈ s.routeDecisions.rows, decision.commandId = c.commandId
      ∧ decision.executor = some .worker := by
  simp only [evidence] at h
  split at h
  case h_1 decision hdecision =>
    have hmem := firstBy_mem _ hdecision
    simp only [List.mem_filter, checks_hold] at hmem
    exact ⟨decision, hmem.1, hmem.2.1, h⟩
  · split at h <;> cases h

/-- The job of a Command routed to a worker. The Command is in no
execution, since a PROCESSING one cannot be linked. -/
theorem enqueueWorkerJob_effects {policy : BusinessCapabilityPolicy}
    (hready : AtRouting cfg call s₀ s c n CA) (hrouted : RoutedToWorker s c.commandId RD)
    (h : enqueueWorkerJob cfg call.draws call.now
      { s with commandAttempts := CA, routeDecisions := RD } c policy route
      = .ok (outcome, s')) : Effects cfg call s₀ s s' := by
  simp only [enqueueWorkerJob, steps_ok] at h
  obtain ⟨_, _, ⟨job, s2⟩, h2, -, rfl⟩ := h
  have hidle : c.status ≠ .processing := by
    intro hprocessing
    simp only [WorkerJobService.enqueueInTransaction, bind_eq_ok] at h2
    obtain ⟨-, -, command, hcommand, -⟩ := h2
    rcases WorkerJobService.commandToLink_ok hcommand with ⟨hnone, -⟩ | ⟨c2, hsome, -, hc2, hst⟩
    · cases hnone
    · injection hsome with hsome
      rw [← hsome] at hc2
      have hsame : c2 = c := Option.mem_unique hc2 hready.stored
      rw [hsame, hprocessing] at hst
      rcases hst with hst | hst <;> cases hst
  have hCA : CA = s.commandAttempts := by
    rcases hready.closed with ⟨-, hCA⟩ | ⟨hprocessing, -⟩
    · exact hCA
    · exact absurd hprocessing hidle
  subst hCA
  exact (WorkerJobService.enqueueInTransaction_effects (.inr ⟨c.commandId, rfl, hrouted⟩) h2).1

/-- The routing step, on a Command whose execution lease, if it has one,
has lapsed. -/
theorem routeAndClaim_effects (hready : AtRouting cfg call s₀ s c n CA)
    (h : routeAndClaim cfg call.draws call.now { s with commandAttempts := CA } c n
      = .ok (outcome, s')) : Effects cfg call s₀ s s' := by
  simp only [routeAndClaim, steps_ok] at h
  obtain ⟨account, -, s1, h1, h⟩ := h
  obtain ⟨hexecutor, hgrants⟩ := cfg.policies.decide_spec c.commandType account.executionMode
    (evidence cfg call.now { s with commandAttempts := CA } c account n)
  generalize cfg.policies.decide c.commandType account.executionMode
    (evidence cfg call.now { s with commandAttempts := CA } c account n) = route
    at h1 h hexecutor hgrants
  -- the wait recorded in place of a WORKER_JOB route has no executor either
  generalize hroute' : (if route.target = .workerJob ∧ (cfg.workerJobService = false
      ∨ cfg.policies.policyFor c.commandType = none) then
    { route with
      target := RouteTarget.waitingExecution
      executor := none
      reasonCode := "WORKER_JOB_SERVICE_UNAVAILABLE" } else route) = route' at h1 h
  have hsame : route' = route ∨ (route'.target = .waitingExecution ∧ route'.executor = none) := by
    rw [← hroute']
    split
    · exact .inr ⟨rfl, rfl⟩
    · exact .inl rfl
  have hexecutor' : route'.executor = route'.target.executor := by
    rcases hsame with hsame | ⟨htarget, hnone⟩
    · rw [hsame, hexecutor]
    · rw [htarget, hnone]
      rfl
  obtain ⟨RD, rfl, hdecision⟩ := addDecision_ok h1
  change DecisionAdded s.routeDecisions c.commandId route'.executor RD at hdecision
  rw [hexecutor'] at hdecision
  split at h
  case h_1 htarget =>
    rw [htarget] at hdecision
    refine hready.stored_effects hdecision (endUnsupported_ok hready.stored h) ?_
    split <;> decide
  case h_2 htarget =>
    rw [htarget] at hdecision
    exact hready.stored_effects hdecision (holdForIntervention_ok hready.stored h) (by decide)
  case h_3 htarget =>
    rw [htarget] at hdecision
    exact hready.stored_effects hdecision (deferExecution_ok hready.stored h) (by decide)
  case h_4 htarget =>
    rw [htarget] at hdecision
    obtain rfl : route' = route := by
      refine hsame.resolve_right ?_
      rw [htarget]
      exact fun hwait => by cases hwait.1
    rw [htarget] at hexecutor
    have hgrant := hgrants (by rw [hexecutor]; exact Option.some_ne_none _)
    have hrouted : RoutedToWorker s c.commandId RD := by
      refine ⟨State.jobForCommand?_none hgrant.unlinked, ?_, hdecision⟩
      by_cases hcount : 0 < n
      · exact .inr (evidence_previous_worker ((hgrant.repeated hcount).trans hexecutor))
      · have hlength : 0 ≤ s.attemptCountFor c.commandId := Int.natCast_nonneg _
        rw [hready.counted] at hcount
        exact .inl (by omega)
    split at h
    case h_1 policy hpolicy => exact enqueueWorkerJob_effects hready hrouted h
    · cases h
  case h_5 htarget =>
    rw [htarget] at hdecision
    obtain rfl : route' = route := by
      refine hsame.resolve_right ?_
      rw [htarget]
      exact fun hwait => by cases hwait.1
    rw [htarget] at hexecutor
    have hgrant := hgrants (by rw [hexecutor]; exact Option.some_ne_none _)
    obtain ⟨p, hp, -, hroute⟩ := hgrant.policy
    have hclass : cfg.exclusive c.commandType
        = route'.operationClass.requiresExclusiveAccountCoordination := by
      rw [hroute, Settings.exclusive, hp]
      rfl
    refine claimLocalApi_effects hready hdecision (State.jobForCommand?_none hgrant.unlinked)
      hclass ?_ h
    intro hexclusive
    have hbusy := hgrant.coordinated (hclass.symm.trans hexclusive)
    change (cfg.exclusive c.commandType && s.leaseActive c.accountId call.now) = false at hbusy
    rwa [hexclusive, Bool.true_and] at hbusy

theorem validateAndRoute_effects (hready : AtRouting cfg call s₀ s c n CA)
    (h : validateAndRoute cfg call.draws call.now { s with commandAttempts := CA } c n
      = .ok (outcome, s')) : Effects cfg call s₀ s s' := by
  unfold validateAndRoute at h
  split at h
  case isTrue hreceived =>
    simp only [bind_eq_ok] at h
    obtain ⟨c', ht, s1, h1, h⟩ := h
    obtain ⟨C, rfl, hput⟩ := storeCommand_ok h1
    obtain ⟨hvalid, hstatus, hsame, -, -, hcheckpoint⟩ := transition_ok ht
    have hidle : c.status ≠ .processing := by
      rw [hreceived]
      decide
    have hidle' : c'.status ≠ .processing := by
      rw [hstatus]
      decide
    have hCA : CA = s.commandAttempts := by
      rcases hready.closed with ⟨-, hCA⟩ | ⟨hprocessing, -⟩
      · exact hCA
      · exact absurd hprocessing hidle
    subst hCA
    have hmoved : CommandMoved cfg call s c c' s.commandAttempts C s.outboxEvents s.deliveries
        s.accountLeases :=
      { put := commandPut_waiting hready.stored hsame (.inl (hstatus ▸ hvalid))
          (by rw [hstatus]; rfl) hput (.inl hcheckpoint)
        status := hidle'
        attempts := .inl ⟨hidle, rfl⟩
        held := fun hprocessing => absurd hprocessing hidle
        retried := fun hprocessing => absurd hprocessing hidle
        linked := hready.free
        lease := .inl rfl }
    have hready' : AtRouting cfg call s₀ { s with commands := C } c' n s.commandAttempts :=
      { first := hready.first
        stored := hput.get?_self
        free := by
          rw [Unclaimed, hstatus]
          exact fun h => by cases h
        lapsed := fun hprocessing => absurd hprocessing hidle'
        closed := .inl ⟨hidle', rfl⟩
        counted := by rw [hsame.commandId]; exact hready.counted
        retries := fun hprocessing => absurd hprocessing hidle' }
    exact .head (.commandMoved hmoved) (routeAndClaim_effects hready' h)
  · exact routeAndClaim_effects hready h

theorem claimUnheld_effects (hfirst : s.claims = s₀.claims)
    (hc : s.commands.get? c.commandId = some c) (hfree : Unclaimed call s c)
    (hlapsed : c.status = .processing →
      c.executionLeaseExpiresAt.all (fun e => decide (e ≤ call.now)) = true)
    (hprevious : Previous s c previous)
    (h : claimUnheld cfg call.draws call.now c previous s = .ok (outcome, s')) :
    Effects cfg call s₀ s s' := by
  unfold claimUnheld at h
  split at h
  · obtain ⟨CA, hclosed, hstored⟩ := expireCommand_ok hc hprevious h
    exact hstored.effects hfree hclosed hlapsed (fun _ h => by cases h) (by decide)
  · split at h
    · simp only [steps_ok] at h
      exact h.2 ▸ .refl
    · split at h
      · have hready : AtRouting cfg call s₀ s c (s.attemptCountFor c.commandId) s.commandAttempts :=
          ⟨hfirst, hc, hfree, hlapsed, .inl ⟨hprevious, rfl⟩, rfl,
            fun hprocessing => absurd hprocessing hprevious⟩
        exact validateAndRoute_effects hready h
      case h_2 a =>
        dsimp only at h
        split at h
        · obtain ⟨CA, hclosed, hstored⟩ := exhaustCommand_ok hc hprevious h
          exact hstored.effects hfree hclosed hlapsed (fun _ h => by cases h) (by decide)
        case isFalse hmore =>
          simp only [bind_eq_ok] at h
          obtain ⟨s1, h1, h⟩ := h
          obtain ⟨CA, rfl, hCA⟩ := closeAttempt_ok h1
          exact validateAndRoute_effects ⟨hfirst, hc, hfree, hlapsed,
            hprevious.closed (by decide) hCA, rfl, fun _ => by omega⟩ h

theorem claimLocked_effects (hfirst : s.claims = s₀.claims)
    (hc : s.commands.get? c.commandId = some c) (hfree : Unclaimed call s c)
    (h : claimLocked cfg call.draws call.now c s = .ok (outcome, s')) :
    Effects cfg call s₀ s s' := by
  unfold claimLocked at h
  split at h
  · simp only [steps_ok] at h
    exact h.2 ▸ .refl
  · split at h
    case isTrue hprocessing =>
      split at h
      · simp only [steps_ok] at h
        exact h.2 ▸ .refl
      case isFalse hlapsed =>
        simp only [steps_ok] at h
        obtain ⟨a, ha, h⟩ := h
        have hprevious : Previous s c (some a) := ⟨hprocessing, ha⟩
        refine claimUnheld_effects hfirst hc hfree (fun _ => ?_) hprevious h
        cases he : c.executionLeaseExpiresAt with
        | none => rfl
        | some e => simpa [he] using hlapsed
    case isFalse hidle =>
      have hprevious : Previous s c none := hidle
      exact claimUnheld_effects hfirst hc hfree (fun hprocessing => absurd hprocessing hidle)
        hprevious h

theorem process_effects {id : String} (hop : call.op = .process id)
    (h : process cfg call.draws call.now id s = .ok (outcome, s')) : Effects cfg call s s s' := by
  simp only [process, steps_ok] at h
  obtain ⟨c, hc, h⟩ := h
  have hid : c.commandId = id := key_of_get? hc
  exact claimLocked_effects rfl (hid ▸ hc) (fun _ => .inl ⟨id, hop⟩) h

/-- The Command `process_next` picks is stored; if it waits, no job is
linked to it. -/
theorem nextReady_unlinked {now : Time} (h : s.nextReady? now excluded = some c) :
    s.commands.get? c.commandId = some c
      ∧ (c.status.delegated = true → ∀ j ∈ s.jobs.rows, j.commandId ≠ some c.commandId) := by
  have hmem := firstBy_mem _ h
  simp only [List.mem_filter, Bool.and_eq_true] at hmem
  obtain ⟨hrow, hready, -⟩ := hmem
  refine ⟨mem_rows_iff.mp hrow, fun hdelegated => ?_⟩
  refine State.jobForCommand?_none ?_
  simp only [State.readyForUpdate, Bool.or_eq_true, checks_hold,
    Option.isNone_iff_eq_none] at hready
  rcases hready with ((hst | ⟨hst, -⟩) | ⟨hst, -⟩) | ⟨-, hnone⟩
  · rw [hst] at hdelegated
    cases hdelegated
  · rw [hst] at hdelegated
    cases hdelegated
  · rw [hst] at hdelegated
    cases hdelegated
  · exact hnone

theorem processNext_effects {outcome : Option RoutingOutcome}
    (h : processNext cfg call.draws call.now excluded s = .ok (outcome, s')) :
    Effects cfg call s s s' := by
  unfold processNext at h
  split at h
  · simp only [steps_ok] at h
    exact h.2 ▸ .refl
  case h_2 c hready =>
    simp only [steps_ok] at h
    obtain ⟨⟨o, s1⟩, h1, -, rfl⟩ := h
    obtain ⟨hc, hunlinked⟩ := nextReady_unlinked hready
    exact claimLocked_effects rfl hc (fun hd => .inr (hunlinked hd)) h1

-- ==== receiving

/-- A received Command is new, refused or too late; exactly the last two
are complete. -/
theorem receivedCommand_ok {d : Draws} {now : Time}
    (h : receivedCommand cfg d now envelope = .ok c) :
    c.checkpoint = none ∧ ((c.status = .received ∧ c.completedAt = none)
      ∨ ((c.status = .rejected ∨ c.status = .expired) ∧ c.completedAt = some now)) := by
  simp only [receivedCommand, create, steps_ok] at h
  obtain ⟨c0, ⟨-, -, rfl⟩, h⟩ := h
  split at h
  · simp only [transition, steps_ok] at h
    obtain ⟨-, -, -, -, rfl⟩ := h
    exact ⟨rfl, .inr ⟨.inl rfl, rfl⟩⟩
  · split at h
    · simp only [transition, steps_ok] at h
      obtain ⟨-, -, -, -, rfl⟩ := h
      exact ⟨rfl, .inr ⟨.inr rfl, rfl⟩⟩
    · cases h
      exact ⟨rfl, .inl ⟨rfl, rfl⟩⟩

/-- A received Command has its texts, and the typed payload unless it is
refused. -/
theorem receivedCommand_named {d : Draws} {now : Time}
    (h : receivedCommand cfg d now envelope = .ok c) :
    (notBlank c.commandId = true ∧ notBlank c.commandType = true)
      ∧ (c.status = .rejected ∨ (Op.receive envelope).payload? = some (c.commandType, c.payload))
    := by
  simp only [receivedCommand, bind_eq_ok] at h
  obtain ⟨c0, hcreate, h⟩ := h
  obtain ⟨hnamed, htype, hpayload⟩ := create_named hcreate
  split at h
  · obtain ⟨-, hstatus, hsame, -⟩ := transition_ok h
    rw [hsame.commandId, hsame.commandType]
    exact ⟨hnamed, .inl hstatus⟩
  case h_2 haccepted =>
    rw [if_pos haccepted] at hpayload
    have htyped : (Op.receive envelope).payload? = some (c0.commandType, c0.payload) := by
      rw [htype, hpayload, Op.payload?]
      cases htyped : envelope.typedPayload with
      | none =>
        unfold rejectionCode at haccepted
        rw [if_pos htyped] at haccepted
        repeat' split at haccepted
        all_goals cases haccepted
      | some payload => rfl
    split at h
    · obtain ⟨-, -, hsame, -⟩ := transition_ok h
      rw [hsame.commandId, hsame.commandType, hsame.payload]
      exact ⟨hnamed, .inr htyped⟩
    · cases h
      exact ⟨hnamed, .inr htyped⟩

theorem receive_effects {receipt : CommandReceipt} (hop : call.op = .receive envelope)
    (h : receive cfg call.draws call.now envelope s = .ok (receipt, s')) :
    Effects cfg call s₀ s s' := by
  simp only [receive, steps_ok] at h
  obtain ⟨c, hc, -, h⟩ := h
  split at h
  case h_1 existing hexisting =>
    simp only [steps_ok] at h
    obtain ⟨-, -, rfl⟩ := h
    exact .refl
  case h_2 hfresh =>
    simp only [bind_eq_ok] at h
    obtain ⟨C, hC, h⟩ := h
    have hput := (addRow_ok hC).2
    obtain ⟨hcheckpoint, hreceived⟩ := receivedCommand_ok hc
    obtain ⟨hnamed, hpayload⟩ := receivedCommand_named hc
    rw [← hop] at hpayload
    rcases hreceived with ⟨hstatus, hopen⟩ | ⟨hstatus, hdone⟩
    · simp only [hopen, Option.isSome_none, Bool.false_eq_true, if_false, steps_ok] at h
      obtain ⟨_, rfl, -, rfl⟩ := h
      have hadded : CommandAdded call s c C s.outboxEvents s.deliveries :=
        ⟨hfresh, hput, .inl hstatus, hnamed, hpayload, hcheckpoint, by rw [hstatus]; exact ⟨rfl,
          rfl⟩⟩
      exact .single (.commandAdded hadded)
    · simp only [hdone, Option.isSome_some, if_true, steps_ok] at h
      obtain ⟨s1, h1, -, rfl⟩ := h
      obtain ⟨O, D, rfl, hresult⟩ := enqueueCommandResult_ok h1
      have hterminal : c.status.terminal = true := by
        rcases hstatus with hst | hst <;> rw [hst] <;> rfl
      have hadded : CommandAdded call s c C O D :=
        ⟨hfresh, hput, .inr hstatus, hnamed, hpayload, hcheckpoint,
          by rw [hterminal]; exact hresult⟩
      exact .single (.commandAdded hadded)

theorem dispatch_effects {commandId correlationId commandType : String} {accountId : Uuid}
    {payload : Document} {priority : Int} {added : Bool}
    (hop : call.op = .dispatch commandId correlationId accountId commandType payload priority)
    (h : dispatch call.draws call.now commandId correlationId accountId commandType payload
      priority s = .ok (added, s')) : Effects cfg call s₀ s s' := by
  simp only [dispatch, bind_eq_ok] at h
  obtain ⟨c, hc, h⟩ := h
  obtain ⟨hid, hstatus, -, hcheckpoint⟩ := create_ok hc
  obtain ⟨hnamed, htype, hpayload⟩ := create_named hc
  split at h
  · simp only [steps_ok] at h
    exact h.2 ▸ .refl
  case h_2 hfresh =>
    simp only [steps_ok] at h
    obtain ⟨C, hC, -, rfl⟩ := h
    have hadded : CommandAdded call s c C s.outboxEvents s.deliveries :=
      ⟨by rw [hid]; exact hfresh, (addRow_ok hC).2, .inl hstatus, hnamed,
        .inr (by rw [hop, htype, hpayload]; rfl), hcheckpoint, by rw [hstatus]; exact ⟨rfl, rfl⟩⟩
    exact .single (.commandAdded hadded)

-- ==== local execution

theorem executionLeased_iff {now : Time} {τ : Uuid} :
    executionLeased now c τ = true ↔ c.status = .processing ∧ c.executionLeaseToken = some τ
      ∧ ∃ e, c.executionLeaseExpiresAt = some e ∧ now < e := by
  unfold executionLeased
  simp only [checks_hold, and_assoc]
  cases c.executionLeaseExpiresAt <;> simp

theorem updateIfLeased_ok {change : Command → Command} {updated : Bool}
    (h : updateIfLeased now κ change s = .ok (updated, s')) :
    (updated = false ∧ s' = s) ∨ (updated = true ∧ ∃ c C,
      s.commands.get? c.commandId = some c ∧ κ.commandId = c.commandId
      ∧ executionLeased now c κ.leaseToken = true
      ∧ s' = { s with commands := C } ∧ Put s.commands (change c) C) := by
  unfold updateIfLeased at h
  split at h
  · simp only [steps_ok] at h
    exact .inl ⟨h.1.symm, h.2.symm⟩
  case h_2 c hc =>
    have hid : c.commandId = κ.commandId := key_of_get? hc
    split at h
    · simp only [steps_ok] at h
      exact .inl ⟨h.1.symm, h.2.symm⟩
    case isFalse hleased =>
      simp only [steps_ok] at h
      obtain ⟨s1, h1, hupdated, rfl⟩ := h
      obtain ⟨C, rfl, hput⟩ := storeCommand_ok h1
      exact .inr ⟨hupdated.symm, c, C, hid ▸ hc, hid.symm, by simpa using hleased, rfl, hput⟩

theorem persistCheckpoint_effects {data : Document} {saved : Bool}
    (hop : call.op = .persistCheckpoint κ data) (hκ : κ ∈ s.claims)
    (h : persistCheckpoint call.now κ data s = .ok (saved, s')) : Effects cfg call s₀ s s' := by
  unfold persistCheckpoint at h
  split at h
  · simp only [steps_ok] at h
    exact h.2 ▸ .refl
  · rcases updateIfLeased_ok h with ⟨-, rfl⟩ | ⟨-, c, C, hc, hid, hleased, rfl, hput⟩
    · exact .refl
    · obtain ⟨hprocessing, htoken, hlive⟩ := executionLeased_iff.mp hleased
      have hcommand : CommandPut c { c with checkpoint := some data } s.commands
          s.outboxEvents s.deliveries C s.outboxEvents s.deliveries :=
        commandPut_waiting hc (by constructor <;> rfl)
          (.inr ⟨rfl, by rw [hprocessing]; rfl⟩) (by rw [hprocessing]; rfl) hput
          (.inr ⟨hprocessing, hprocessing⟩)
      exact .single (.commandTouched ⟨hcommand, by rw [hop]; rfl, hκ, hid,
        htoken, .inr ⟨data, hop, rfl⟩, hprocessing, hprocessing, hlive, rfl, .inl ⟨rfl, rfl⟩⟩)

theorem renewAccountExecution_ok {renewed : Bool}
    (h : renewAccountExecution cfg now s κ = .ok (renewed, s')) (hrenewed : renewed = true) :
    ∃ L, s' = { s with accountLeases := L }
      ∧ ((κ.accountCoordinationGeneration = none ∧ L = s.accountLeases)
        ∨ ∃ generation, κ.accountCoordinationGeneration = some generation
          ∧ LeaseMoved κ.accountId .command (Uuid.str κ.attemptId) generation now
            (now + cfg.executionLeaseDuration) s.accountLeases L) := by
  subst hrenewed
  unfold renewAccountExecution at h
  split at h
  case h_1 hnone =>
    simp only [steps_ok] at h
    exact ⟨s.accountLeases, h.2.symm, .inl ⟨hnone, rfl⟩⟩
  case h_2 generation hsome =>
    rcases State.moveLeaseExpiry_ok h with ⟨hfalse, -, -⟩ | ⟨-, L, rfl, hmoved⟩
    · cases hfalse
    · exact ⟨L, rfl, .inr ⟨generation, hsome, hmoved⟩⟩

theorem heartbeat_effects {u : Unit} (hclaim : call.op.claim? = some κ) (hκ : κ ∈ s.claims)
    (h : heartbeat cfg call.now κ s = .ok (u, s')) : Effects cfg call s₀ s s' := by
  simp only [heartbeat, steps_ok] at h
  obtain ⟨⟨renewed, s1⟩, h1, ⟨accountRenewed, s2⟩, h2, ⟨hrenewed, haccount⟩, -, rfl⟩ := h
  rcases updateIfLeased_ok h1 with ⟨hfalse, -⟩ | ⟨-, c, C, hc, hid, hleased, rfl, hput⟩
  · rw [hfalse] at hrenewed
    cases hrenewed
  · obtain ⟨L, rfl, hL⟩ := renewAccountExecution_ok h2 haccount
    obtain ⟨hprocessing, htoken, hlive⟩ := executionLeased_iff.mp hleased
    have hcommand : CommandPut c
        { c with executionLeaseExpiresAt := some (call.now + cfg.executionLeaseDuration) }
        s.commands s.outboxEvents s.deliveries C s.outboxEvents s.deliveries :=
      commandPut_waiting hc (by constructor <;> rfl)
        (.inr ⟨rfl, by rw [hprocessing]; rfl⟩) (by rw [hprocessing]; rfl) hput (.inl rfl)
    exact .single (.commandTouched ⟨hcommand, hclaim, hκ, hid, htoken, .inl rfl,
      hprocessing, hprocessing, hlive, rfl, .inr ⟨_, rfl, hL⟩⟩)

theorem releaseAccountExecution_ok (h : releaseAccountExecution call.now s κ = .ok s') :
    ∃ L, s' = { s with accountLeases := L }
      ∧ (L = s.accountLeases ∨ ∃ generation, κ.accountCoordinationGeneration = some generation
        ∧ LeaseMoved κ.accountId .command (Uuid.str κ.attemptId) generation call.now call.now
          s.accountLeases L) := by
  unfold releaseAccountExecution at h
  split at h
  · rw [pure_eq_ok] at h
    exact ⟨s.accountLeases, h.symm, .inl rfl⟩
  case h_2 generation hsome =>
    simp only [steps_ok] at h
    obtain ⟨⟨released, s1⟩, h1, hreleased, rfl⟩ := h
    rcases State.moveLeaseExpiry_ok h1 with ⟨-, rfl, -⟩ | ⟨-, L, rfl, hmoved⟩
    · exact ⟨s1.accountLeases, rfl, .inl rfl⟩
    · exact ⟨L, rfl, .inr ⟨generation, hsome, hmoved⟩⟩

theorem ownedExecution_inr {now : Time} (h : ownedExecution now κ s = .inr (c, a)) :
    s.commands.get? c.commandId = some c ∧ κ.commandId = c.commandId
      ∧ c.status = .processing ∧ s.processingAttempt? c.commandId = some a
      ∧ a.attemptNumber = κ.attemptNumber ∧ c.executionLeaseToken = some κ.leaseToken := by
  unfold ownedExecution at h
  split at h
  case h_1 c0 a0 hc ha =>
    split at h
    · cases h
    case isFalse howned =>
      injection h with h
      rw [Prod.mk.injEq] at h
      obtain ⟨rfl, rfl⟩ := h
      have hid : c0.commandId = κ.commandId := key_of_get? hc
      simp only [not_or, Bool.not_eq_false, ownsClaim, checks_hold] at howned
      obtain ⟨hprocessing, htoken, -⟩ := executionLeased_iff.mp howned.1.2
      exact ⟨hid ▸ hc, hid.symm, hprocessing, hid ▸ ha, howned.1.1, htoken⟩
  · cases h

theorem nextAttemptAt_some {p : RetryPolicy} {deadline retryAt : Time}
    (h : p.nextAttemptAt n now deadline retryAfter jitter = .ok (some retryAt)) :
    n < p.maxAttempts := by
  simp only [RetryPolicy.nextAttemptAt, steps_ok] at h
  obtain ⟨-, h⟩ := h
  split at h
  · rw [pure_eq_ok] at h
    cases h
  case isFalse hmore => omega

section

variable (hclaim : call.op.claim? = some κ) (hκ : κ ∈ s.claims)

include hclaim hκ

/-- The Command of a finished execution moves, and gives the account's
lease back. -/
theorem executed_effects {O : Table outboxEvents} {D : Table integrationDeliveries}
    (howned : ownedExecution now κ s = .inr (c, a)) (hclosed : ExecutionClosed call.now s c CA)
    (hput : CommandPut c c' s.commands s.outboxEvents s.deliveries C O D)
    (hstatus : c'.status ≠ .processing)
    (hretried : c'.status.terminal = false → κ.attemptNumber < cfg.retryPolicy.maxAttempts)
    (h : releaseAccountExecution call.now { s with
      commandAttempts := CA, commands := C, outboxEvents := O, deliveries := D } κ = .ok s') :
    Effects cfg call s₀ s s' := by
  obtain ⟨-, hid, hprocessing, ha, hnumber, htoken⟩ := ownedExecution_inr howned
  obtain ⟨L, rfl, hL⟩ := releaseAccountExecution_ok h
  refine .single (.commandMoved ⟨hput, hstatus, hclosed,
    fun _ => .inr ⟨κ, hclaim, htoken⟩, fun _ hopen => .inr ?_, fun hdelegated => ?_, ?_⟩)
  · exact ⟨a, ha, hnumber ▸ hretried hopen⟩
  · rw [hprocessing] at hdelegated
    cases hdelegated
  · exact hL.imp id fun hmoved => ⟨κ, hκ, hid, hmoved⟩

theorem finishSuccess_effects {output : CommandExecutionOutput}
    (h : finishSuccess cfg call.draws call.now κ output s = .ok (answer, s')) :
    Effects cfg call s₀ s s' := by
  unfold finishSuccess at h
  split at h
  · simp only [steps_ok] at h
    exact h.2 ▸ .refl
  case h_2 c a howned =>
    simp only [steps_ok] at h
    obtain ⟨P, -, Q, -, S, -, c', ht, s1, h1, s2, h2, s3, h3, s4, h4, -, rfl⟩ := h
    obtain ⟨hc, -, hprocessing, ha, -, -⟩ := ownedExecution_inr howned
    have hprevious : Previous s c (some a) := ⟨hprocessing, ha⟩
    obtain ⟨CA, rfl, hCA⟩ := closeAttempt_ok h1
    obtain ⟨C, O, D, rfl, hput, hstatus⟩ := finishCommand_ok (s := { s with
      commandAttempts := CA, posts := P, replies := Q, syncStates := S }) hc ht rfl h2 h3
    refine .head (.aside s.interventions P Q S s.surroundings (.inl rfl)) ?_
    refine executed_effects (s := { s with posts := P, replies := Q, syncStates := S }) hclaim hκ
      howned (hprevious.closed (by decide) hCA) hput (by rw [hstatus]; decide) ?_ h4
    rw [hstatus]
    exact fun hopen => by cases hopen

theorem recordFailure_effects {code : String} (howned : ownedExecution call.now κ s = .inr (c, a))
    (hretry : retryAt ≠ none → κ.attemptNumber < cfg.retryPolicy.maxAttempts)
    (h : recordFailure cfg call.draws call.now κ code retryAt c a s = .ok (answer, s')) :
    Effects cfg call s₀ s s' := by
  simp only [recordFailure, bind_eq_ok] at h
  obtain ⟨c', ht, s1, h1, s2, h2, h⟩ := h
  obtain ⟨hc, -, hprocessing, ha, -, -⟩ := ownedExecution_inr howned
  have hprevious : Previous s c (some a) := ⟨hprocessing, ha⟩
  obtain ⟨CA, rfl, hCA⟩ := closeAttempt_ok h1
  have hstatus : c'.clearExecutionLease.status
      = if retryAt = none then .failedFinal else .failedRetryable :=
    (transition_ok ht).2.1
  cases retryAt with
  | none =>
    simp only [if_true] at hstatus
    simp only [hstatus, if_true, steps_ok] at h
    obtain ⟨s3, h3, s4, h4, -, rfl⟩ := h
    obtain ⟨C, O, D, rfl, hput, -⟩ :=
      finishCommand_ok (s := { s with commandAttempts := CA }) hc ht rfl h2 h3
    refine executed_effects hclaim hκ howned (hprevious.closed (by decide) hCA) hput
      (by rw [hstatus]; decide) ?_ h4
    rw [hstatus]
    exact fun hopen => by cases hopen
  | some at' =>
    simp only [reduceCtorEq, if_false] at hstatus
    simp only [hstatus, reduceCtorEq, if_false, steps_ok] at h
    obtain ⟨_, rfl, s4, h4, -, rfl⟩ := h
    obtain ⟨C, rfl, hput⟩ := storeCommand_ok h2
    obtain ⟨hvalid, htarget, hsame, -, -, hcheckpoint⟩ := transition_ok ht
    have hcommand := commandPut_waiting hc (sameCommand_clear hsame)
      (.inl (htarget ▸ hvalid)) (by rw [hstatus]; rfl) hput (.inl hcheckpoint)
    exact executed_effects hclaim hκ howned (hprevious.closed (by simp) hCA) hcommand
      (by rw [hstatus]; decide) (fun _ => hretry (Option.some_ne_none _)) h4

theorem finishFailure_effects {code : String} {retryable : Bool}
    (h : finishFailure cfg call.draws call.now κ code retryable retryAfter jitter s
      = .ok (answer, s')) : Effects cfg call s₀ s s' := by
  unfold finishFailure at h
  split at h
  · simp only [steps_ok] at h
    exact h.2 ▸ .refl
  case h_2 c a howned =>
    dsimp only at h
    split at h
    · simp only [bind_eq_ok] at h
      obtain ⟨retryAt, hretry, h⟩ := h
      refine recordFailure_effects hclaim hκ howned (fun hsome => ?_) h
      obtain ⟨at', rfl⟩ := Option.ne_none_iff_exists'.mp hsome
      exact nextAttemptAt_some hretry
    · exact recordFailure_effects hclaim hκ howned (fun hnone => absurd rfl hnone) h

end

end CommandRuntime

end ThreadsPlatform
