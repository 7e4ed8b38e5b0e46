/-
When the writes of a transaction go through.

The effects say what a committed operation did. Here it is the other
way around: a row of a fresh key that clashes with nothing is inserted,
an update that keeps what the constraints read of a row is accepted, and
from these two on, each step of the routing path returns. What it
returns is said in the shape the effect lemmas use.
-/
import ThreadsPlatform.Effects.CommandRuntime

namespace ThreadsPlatform

open Relational Table

variable {a : CommandAttempt} {code : Option String} {reason : String}

-- ==== rows

section Rows

variable {κ ρ : Type} [DecidableEq κ] {S : Schema κ ρ} {t : Table S} {r r₀ : ρ}

theorem addRow_yields (hfresh : t.get? (S.key r) = none) (hcheck : S.check r = true)
    (hclash : ∀ x ∈ t.rows, S.clash x r = false ∧ S.clash r x = false) :
    Yields (fun t' => Put t r t') (addRow t r) := by
  have hfits : t.fits r = true := by
    unfold fits
    rw [hcheck, Bool.true_and, List.all_eq_true]
    intro x hx
    obtain ⟨h1, h2⟩ := hclash x hx
    simp [h1, h2]
  obtain ⟨t', ht'⟩ := insert_isSome hfresh hfits
  exact .orThrow ht' (insert_put ht')

/-- UPDATE of a row by one that clashes with no more than it did. -/
theorem updateRow_yields (hstored : t.get? (S.key r) = some r₀) (hcheck : S.check r = true)
    (hclash : ∀ x, (S.clash x r = true → S.clash x r₀ = true)
      ∧ (S.clash r x = true → S.clash r₀ x = true)) :
    Yields (fun t' => Put t r t') (updateRow t r) := by
  have hkey : S.key r₀ = S.key r := key_of_get? hstored
  have hmem := mem_of_get? hstored
  have hfits : t.fits r = true := by
    unfold fits
    rw [hcheck, Bool.true_and, List.all_eq_true]
    intro x hx
    by_cases hx' : S.key x = S.key r
    · simp [hx']
    · have h1 := t.apart x hx r₀ hmem (hkey ▸ hx')
      have h2 := t.apart r₀ hmem x hx (hkey ▸ Ne.symm hx')
      have h1' : S.clash x r = false := by
        rw [← Bool.not_eq_true]
        intro hc
        rw [(hclash x).1 hc] at h1
        cases h1
      have h2' : S.clash r x = false := by
        rw [← Bool.not_eq_true]
        intro hc
        rw [(hclash x).2 hc] at h2
        cases h2
      simp [h1', h2']
  obtain ⟨t', ht'⟩ := update_isSome hstored hfits
  exact .orThrow ht' (update_put ht')

end Rows

-- ==== account leases

theorem Uuid.notBlank_str (u : Uuid) : notBlank (Uuid.str u) = true := by
  simp only [notBlank, Uuid.str, List.any_eq_true]
  refine ⟨'-', ?_, rfl⟩
  simp

theorem State.tryAcquire_yields {s : State} {accountId : Uuid}
    {ownerType : AccountExecutionOwnerType} {ownerId : String} {operationClass : OperationClass}
    {now expiry : Time} (hclass : operationClass ≠ .read) (howner : notBlank ownerId = true)
    (hexpiry : now < expiry) (hfree : s.leaseActive accountId now = false) :
    Yields (fun r => ∃ g L, r = (some g, { s with accountLeases := L }))
      (s.tryAcquire accountId ownerType ownerId operationClass now expiry) := by
  refine .bind (.require hclass) fun _ _ => .bind (.require ⟨howner, hexpiry⟩) fun _ _ => ?_
  split
  case h_1 hnone =>
    refine .bind (addRow_yields hnone ?_ fun x _ => ⟨rfl, rfl⟩) fun L _ => .pure ⟨1, L, rfl⟩
    simp [accountExecutionLeases, AccountExecutionLease.checkConstraints, hclass]
  case h_2 row hrow =>
    have hlapsed : ¬ now < row.leaseExpiresAt := by
      simpa [State.leaseActive, hrow] using hfree
    have hcheck : row.checkConstraints = true := check_of_get? hrow
    simp only [AccountExecutionLease.checkConstraints, checks_hold] at hcheck
    rw [if_neg hlapsed]
    refine .bind (updateRow_yields hrow ?_ fun x => ⟨id, id⟩)
      fun L _ => .pure ⟨row.fencingGeneration + 1, L, rfl⟩
    simp only [accountExecutionLeases, AccountExecutionLease.checkConstraints, checks_hold]
    exact ⟨by omega, hclass⟩

-- ==== Commands

namespace Command

variable {c c' : Command} {target : CommandStatus} {now : Time}

theorem transition_yields {result : Option Document} {retryAt : Option Time}
    (hvalid : validTransition c.status target = true)
    (hdeadline : target = .processing → c.deadlineReached now = false)
    (hretry : target ≠ .failedRetryable) :
    Yields (fun c' => c'.status = target ∧ c.SameCommand c'
        ∧ c'.executionLeaseToken = c.executionLeaseToken
        ∧ c'.executionLeaseExpiresAt = c.executionLeaseExpiresAt)
      (c.transition target now code result retryAt) := by
  refine .bind (.require hvalid) fun _ _ => .bind (.require hdeadline) fun _ _ =>
    .bind (.require fun h => absurd h hretry) fun _ _ =>
    .bind (.require fun h => absurd h hretry) fun _ _ => .pure ⟨rfl, ?_, rfl, rfl⟩
  constructor <;> rfl

theorem reclaim_yields (hprocessing : c.status = .processing)
    (hdeadline : c.deadlineReached now = false) :
    Yields (fun c' => c'.status = .processing ∧ c.SameCommand c') (c.reclaim now) := by
  refine .bind (.require hprocessing) fun _ _ => .bind (.require hdeadline) fun _ _ =>
    .pure ⟨hprocessing, ?_⟩
  constructor <;> rfl

theorem lease_pair {C : Table commands} {k : String} (hc : C.get? k = some c) :
    c.executionLeaseToken.isNone = c.executionLeaseExpiresAt.isNone := by
  have hcheck : c.checkConstraints = true := check_of_get? hc
  simp only [checkConstraints, checks_hold] at hcheck
  exact hcheck.2

end Command

namespace CommandRuntime

variable {cfg : Settings} {d : Draws} {now : Time} {s s' : State} {c c' : Command}

/-- A stored Command is written in place, its lease pair kept whole. -/
theorem storeCommand_yields (hc : s.commands.get? c.commandId = some c) (hsame : c.SameCommand c')
    (hlease : c'.executionLeaseToken.isNone = c'.executionLeaseExpiresAt.isNone) :
    Yields (fun s' => ∃ C, s' = { s with commands := C } ∧ Put s.commands c' C)
      (storeCommand s c') := by
  have hcheck : c.checkConstraints = true := check_of_get? hc
  simp only [Command.checkConstraints, Bool.and_eq_true] at hcheck
  have hstored : s.commands.get? (commands.key c') = some c := by
    rw [show commands.key c' = c.commandId from hsame.commandId]
    exact hc
  have hput : Yields (fun C => Put s.commands c' C) (updateRow s.commands c') := by
    refine updateRow_yields hstored ?_ ?_
    · change c'.checkConstraints = true
      rw [Command.checkConstraints, hsame.priority, hcheck.1, Bool.true_and, decide_eq_true_eq]
      exact hlease
    · intro x
      simp only [commands, hsame.id]
      exact ⟨id, id⟩
  exact hput.bind fun C hC => .pure ⟨C, rfl, hC⟩

/-- The identifiers drawn for a result occur in no row. -/
structure ResultFresh (d : Draws) (s : State) : Prop where
  eventId : ∀ commandId, s.outboxEvents.get? (d.eventId commandId) = none
  deliveredEvent : ∀ commandId, ∀ delivery ∈ s.deliveries.rows,
    delivery.eventId ≠ d.eventId commandId
  deliveryId : ∀ commandId, s.deliveries.get? (d.deliveryId commandId) = none

/-- The result of a Command is stored under fresh identifiers. -/
theorem enqueueResult_yields (hfresh : ResultFresh d s) (hnamed : notBlank c.commandId = true)
    (hcrm : notBlank cfg.crmDestination = true) :
    Yields (fun s' => ∃ O D, s' = { s with outboxEvents := O, deliveries := D })
      (enqueueResult cfg d now s c) := by
  refine .bind (.require hnamed) fun _ _ => .bind (.require hcrm) fun _ _ => ?_
  refine .bind (addRow_yields (hfresh.eventId c.commandId) rfl fun x _ => ⟨rfl, rfl⟩) fun O _ => ?_
  refine .bind (addRow_yields (hfresh.deliveryId c.commandId) rfl fun x hx => ?_)
    fun D _ => .pure ⟨O, D, rfl⟩
  have hne := hfresh.deliveredEvent c.commandId x hx
  simp only [integrationDeliveries, commandResultDelivery, commandResultEvent,
    Bool.and_eq_false_iff, decide_eq_false_iff_not]
  exact ⟨.inl hne, .inl (Ne.symm hne)⟩

theorem closeAttempt_yields {outcome : AttemptStatus} (ha : s.commandAttempts.get? a.id = some a) :
    Yields (fun s' => ∃ CA, s' = { s with commandAttempts := CA }
        ∧ Put s.commandAttempts (a.close outcome now code) CA)
      (closeAttempt now s a outcome code) := by
  have hput : Yields (fun CA => Put s.commandAttempts (a.close outcome now code) CA)
      (updateRow s.commandAttempts (a.close outcome now code)) :=
    updateRow_yields ha rfl fun x => ⟨id, id⟩
  exact hput.bind fun CA hCA => .pure ⟨CA, rfl, hCA⟩

-- ---- one Command moves

/-- Nothing but Commands, attempts and results is written. -/
def KeepsRoutes (s s' : State) : Prop :=
  s'.routeDecisions = s.routeDecisions

section

variable (hc : s.commands.get? c.commandId = some c)

include hc

theorem finishCommand_yields {target : CommandStatus}
    (hvalid : validTransition c.status target = true) (hterminal : target.terminal = true)
    (hfresh : ResultFresh d s) (hnamed : notBlank c.commandId = true)
    (hcrm : notBlank cfg.crmDestination = true) :
    Yields (fun r : RoutingOutcome × State => KeepsRoutes s r.2) (do
      let command ← c.transition target now code none none
      let command := command.clearExecutionLease
      let s ← storeCommand s command
      let s ← enqueueResult cfg d now s command
      return (settled command, s)) := by
  refine .bind (Command.transition_yields hvalid ?_ ?_) fun c' hc' => ?_
  · rintro rfl
    cases hterminal
  · rintro rfl
    cases hterminal
  · have hsame := sameCommand_clear hc'.2.1
    refine .bind (storeCommand_yields hc hsame rfl) fun s1 hs1 => ?_
    obtain ⟨C, rfl, -⟩ := hs1
    have hfresh' : ResultFresh d { s with commands := C } := { hfresh with }
    refine .bind (enqueueResult_yields hfresh' (hsame.commandId ▸ hnamed) hcrm) fun s2 hs2 => ?_
    obtain ⟨O, D, rfl⟩ := hs2
    exact .pure rfl

theorem endUnsupported_yields (hroutable : Routable c.status) (hfresh : ResultFresh d s)
    (hnamed : notBlank c.commandId = true) (hcrm : notBlank cfg.crmDestination = true) :
    Yields (fun r => KeepsRoutes s r.2) (endUnsupported cfg d now s c reason) := by
  refine finishCommand_yields hc ?_ ?_ hfresh hnamed hcrm
  · rcases hroutable with h | h | h | h <;> rw [h] <;> rfl
  · split <;> rfl

theorem holdForIntervention_yields (hroutable : Routable c.status) :
    Yields (fun r => KeepsRoutes s r.2) (holdForIntervention now s c reason) := by
  have hvalid : validTransition c.status .waitingIntervention = true := by
    rcases hroutable with h | h | h | h <;> rw [h] <;> rfl
  refine .bind (Command.transition_yields hvalid (fun h => by cases h) (by decide)) fun c' hc' => ?_
  refine .bind (storeCommand_yields hc (sameCommand_clear hc'.2.1) rfl) fun s1 hs1 => ?_
  obtain ⟨C, rfl, -⟩ := hs1
  exact .pure rfl

theorem deferExecution_yields (hroutable : Routable c.status) :
    Yields (fun r => KeepsRoutes s r.2) (deferExecution now s c reason) := by
  unfold deferExecution
  split
  · refine .bind (.pure rfl) fun c' hc' => ?_
    subst hc'
    refine .bind (storeCommand_yields hc (sameCommand_clear (.refl c)) rfl) fun s1 hs1 => ?_
    obtain ⟨C, rfl, -⟩ := hs1
    exact .pure rfl
  case isFalse hother =>
    have hvalid : validTransition c.status .waitingExecution = true := by
      rcases hroutable with h | h | h | h
      · rw [h]; rfl
      · exact absurd h hother
      · rw [h]; rfl
      · rw [h]; rfl
    refine .bind (Command.transition_yields hvalid (fun h => by cases h) (by decide))
      fun c' hc' => ?_
    refine .bind (storeCommand_yields hc (sameCommand_clear hc'.2.1) rfl) fun s1 hs1 => ?_
    obtain ⟨C, rfl, -⟩ := hs1
    exact .pure rfl

theorem expireCommand_yields {previous : Option CommandAttempt}
    (hvalid : validTransition c.status .expired = true)
    (hprevious : ∀ a, previous = some a → s.commandAttempts.get? a.id = some a)
    (hfresh : ResultFresh d s) (hnamed : notBlank c.commandId = true)
    (hcrm : notBlank cfg.crmDestination = true) :
    Yields (fun r => KeepsRoutes s r.2) (expireCommand cfg d now s c previous) := by
  unfold expireCommand
  split
  case h_1 a =>
    refine .bind (closeAttempt_yields (hprevious a rfl)) fun s1 hs1 => ?_
    obtain ⟨CA, rfl, -⟩ := hs1
    have hfresh' : ResultFresh d { s with commandAttempts := CA } := { hfresh with }
    have hc' : ({ s with commandAttempts := CA } : State).commands.get? c.commandId = some c := hc
    exact finishCommand_yields hc' hvalid rfl hfresh' hnamed hcrm
  · refine .bind (.pure rfl) fun s1 hs1 => ?_
    subst hs1
    exact finishCommand_yields hc hvalid rfl hfresh hnamed hcrm

theorem exhaustCommand_yields (hprocessing : c.status = .processing)
    (ha : s.commandAttempts.get? a.id = some a) (hfresh : ResultFresh d s)
    (hnamed : notBlank c.commandId = true) (hcrm : notBlank cfg.crmDestination = true) :
    Yields (fun r => KeepsRoutes s r.2) (exhaustCommand cfg d now s c a) := by
  refine .bind (closeAttempt_yields ha) fun s1 hs1 => ?_
  obtain ⟨CA, rfl, -⟩ := hs1
  have hfresh' : ResultFresh d { s with commandAttempts := CA } := { hfresh with }
  have hc' : ({ s with commandAttempts := CA } : State).commands.get? c.commandId = some c := hc
  exact finishCommand_yields hc' (by rw [hprocessing]; rfl) rfl hfresh' hnamed hcrm

-- ---- API claims

/-- An attempt joins and the Command goes to PROCESSING. -/
theorem startExecution_yields {g : Option Int} (hroutable : Routable c.status)
    (hdeadline : c.deadlineReached now = false) (hfresh : s.commandAttempts.get? a.id = none)
    (hnew : ∀ x ∈ s.commandAttempts.rows, x.commandId = a.commandId →
      x.attemptNumber ≠ a.attemptNumber) :
    Yields (fun r => KeepsRoutes s r.2) (startExecution cfg d now s c a g) := by
  have hrest : ∀ c', c.SameCommand c' →
      Yields (fun r : RoutingOutcome × State => KeepsRoutes s r.2) (do
        let command := { c' with
          executionLeaseToken := some d.leaseToken
          executionLeaseExpiresAt := some (now + cfg.executionLeaseDuration) }
        let commandAttempts ← addRow s.commandAttempts a
        let s ← storeCommand { s with commandAttempts } command
        let claim : ExecutionClaim :=
          { commandId := command.commandId
            accountId := command.accountId
            leaseToken := d.leaseToken
            attemptNumber := a.attemptNumber
            attemptId := a.id
            accountCoordinationGeneration := g }
        return (.claimed claim, { s with claims := claim :: s.claims })) := by
    intro c' hsame
    refine .bind (addRow_yields hfresh rfl fun x hx => ?_) fun CA _ => ?_
    · have hne := hnew x hx
      simp only [commandAttempts, Bool.and_eq_false_iff, decide_eq_false_iff_not]
      by_cases hcommand : x.commandId = a.commandId
      · exact ⟨.inr (hne hcommand), .inr (Ne.symm (hne hcommand))⟩
      · exact ⟨.inl hcommand, .inl (Ne.symm hcommand)⟩
    · have hc' : ({ s with commandAttempts := CA } : State).commands.get? c.commandId = some c :=
        hc
      refine .bind (storeCommand_yields hc' ⟨hsame.id, hsame.commandId, hsame.correlationId,
        hsame.accountId, hsame.commandType, hsame.payload, hsame.protocolVersion, hsame.priority,
        hsame.createdAt, hsame.receivedAt, hsame.deadlineAt⟩ rfl) fun s1 hs1 => ?_
      obtain ⟨C, rfl, -⟩ := hs1
      exact .pure rfl
  unfold startExecution
  split
  case isTrue hprocessing =>
    exact .bind (Command.reclaim_yields hprocessing hdeadline) fun c' hc' => hrest c' hc'.2
  case isFalse hother =>
    have hvalid : validTransition c.status .processing = true := by
      rcases hroutable with h | h | h | h
      · rw [h]; rfl
      · rw [h]; rfl
      · exact absurd h hother
      · rw [h]; rfl
    exact .bind (Command.transition_yields hvalid (fun _ => hdeadline) (by decide))
      fun c' hc' => hrest c' hc'.2.1

theorem claimLocalApi_yields {account : ThreadsAccount} {n : Int} {route : Route}
    (hroutable : Routable c.status) (hdeadline : c.deadlineReached now = false)
    (hnamed : notBlank c.commandId = true) (hn : 0 ≤ n)
    (hfresh : s.commandAttempts.get? d.attemptId = none)
    (hnew : ∀ x ∈ s.commandAttempts.rows, x.commandId = c.commandId → x.attemptNumber ≠ n + 1)
    (hfree : route.operationClass.requiresExclusiveAccountCoordination = true →
      s.leaseActive c.accountId now = false) :
    Yields (fun r => KeepsRoutes s r.2) (claimLocalApi cfg d now s c account n route) := by
  refine .bind (.bind (.require ⟨hnamed, by omega⟩) fun _ _ => .pure rfl) fun a ha => ?_
  subst ha
  split
  case isTrue hexclusive =>
    have hclass : route.operationClass ≠ .read := by
      intro hread
      rw [hread] at hexclusive
      cases hexclusive
    refine .bind (State.tryAcquire_yields hclass (Uuid.notBlank_str _) ?_ (hfree hexclusive))
      fun r hr => ?_
    · have hpos := cfg.executionLeaseDuration_pos
      exact lt_add_of_pos_right now hpos
    · obtain ⟨g, L, rfl⟩ := hr
      have hc' : ({ s with accountLeases := L } : State).commands.get? c.commandId = some c := hc
      exact startExecution_yields hc' hroutable hdeadline hfresh hnew
  · exact startExecution_yields hc hroutable hdeadline hfresh hnew

end

theorem addDecision_yields {decision : CapabilityRouteDecision}
    (hfresh : s.routeDecisions.get? decision.id = none)
    (hcommand : notBlank decision.commandId = true)
    (hcapability : notBlank decision.capabilityName = true ∧ 1 ≤ decision.capabilityVersion)
    (hcount : 0 ≤ decision.attemptCount) (hreason : notBlank decision.reasonCode = true) :
    Yields (fun s' => ∃ RD, s' = { s with routeDecisions := RD }
      ∧ Put s.routeDecisions decision RD) (addDecision s decision) := by
  refine .bind (.require ⟨hcommand, hcapability.1⟩) fun _ _ =>
    .bind (.require ⟨hcapability.2, hcount, hreason⟩) fun _ _ => ?_
  refine .bind (addRow_yields hfresh ?_ fun x _ => ⟨rfl, rfl⟩) fun RD hRD => .pure ⟨RD, rfl, hRD⟩
  change decision.checkConstraints = true
  simp only [CapabilityRouteDecision.checkConstraints, checks_hold]
  exact ⟨by omega, hcount⟩

end CommandRuntime

end ThreadsPlatform
