/-
What a routing step has written when it hands out a claim, and what it
takes to end the execution again.

The effects of `process_next` say what any routing step may do. Here the
step is known to have answered with a claim, which it does in one place
only: the Command is PROCESSING under the claim's token, its lease and
the account's run from the time the step was given.

From then on the execution is the claim's: until the lease ends, no
transaction but the claim's own touches the Command.
-/
import ThreadsPlatform.Effects.Refinement

namespace ThreadsPlatform

open Relational Table CommandRuntime

variable {cfg : Settings} {call : Call} {d : Draws} {now : Time} {s s' s₀ : State}
  {c c₀ : Command} {κ : ExecutionClaim}

-- ==== handing it out

/-- The Command as the claim found it, and what the claim has made of it. -/
structure Started (cfg : Settings) (d : Draws) (now : Time) (c : Command) (κ : ExecutionClaim)
    (s' : State) : Prop where
  commandId : κ.commandId = c.commandId
  accountId : κ.accountId = c.accountId
  token : κ.leaseToken = d.leaseToken
  claims : κ ∈ s'.claims
  command : ∃ c', s'.commands.get? c.commandId = some c' ∧ c'.status = .processing
    ∧ c'.deadlineAt = c.deadlineAt ∧ c'.checkpoint = c.checkpoint
    ∧ c'.executionLeaseToken = some κ.leaseToken
    ∧ c'.executionLeaseExpiresAt = some (now + cfg.executionLeaseDuration)
  account : ∀ generation, κ.accountCoordinationGeneration = some generation →
    ∃ row, s'.accountLeases.get? κ.accountId = some row
      ∧ row.leaseExpiresAt = now + cfg.executionLeaseDuration

/-- The same claim, of the Command as it was before it was validated. -/
theorem Started.of_same (h : Started cfg d now c κ s') (hsame : c₀.SameCommand c)
    (hcheckpoint : c.checkpoint = c₀.checkpoint) : Started cfg d now c₀ κ s' := by
  obtain ⟨c', hc', hstatus, hdeadline, hkept, hlease⟩ := h.command
  exact
    { commandId := h.commandId.trans hsame.commandId
      accountId := h.accountId.trans hsame.accountId
      token := h.token
      claims := h.claims
      command := ⟨c', hsame.commandId ▸ hc', hstatus, hdeadline.trans hsame.deadlineAt,
        hkept.trans hcheckpoint, hlease⟩
      account := h.account }

section

variable (hc : s.commands.get? c.commandId = some c)

include hc

theorem startExecution_started {a : CommandAttempt} {g : Option Int}
    (hlease : ∀ generation, g = some generation →
      ∃ row, s.accountLeases.get? c.accountId = some row
      ∧ row.leaseExpiresAt = now + cfg.executionLeaseDuration)
    (h : startExecution cfg d now s c a g = .ok (.claimed κ, s')) : Started cfg d now c κ s' := by
  have hκ : κ = executionClaim d c a g := by
    unfold startExecution at h
    split at h <;> simp only [steps_ok, RoutingOutcome.claimed.injEq]
      at h
    · obtain ⟨c1, hreclaim, -, -, -, -, rfl, -⟩ := h
      have hsame := (Command.reclaim_ok hreclaim).2.2.1
      simp only [executionClaim, hsame.commandId, hsame.accountId]
    · obtain ⟨c1, ht, -, -, -, -, rfl, -⟩ := h
      have hsame := (Command.transition_ok ht).2.2.1
      simp only [executionClaim, hsame.commandId, hsame.accountId]
  obtain ⟨c', CA, C, rfl, hput, hstatus, htoken, hexpiry, hcheckpoint, -, -⟩ :=
    startExecution_ok hc h
  have hkey : commands.key c' = c.commandId := hput.same.commandId
  subst hκ
  exact
    { commandId := rfl
      accountId := rfl
      token := rfl
      claims := .head _
      command := ⟨c', hkey ▸ hput.put.get?_self, hstatus, hput.same.deadlineAt, hcheckpoint,
        htoken, hexpiry⟩
      account := hlease }

theorem claimLocalApi_started {account : ThreadsAccount} {n : Int} {route : Route}
    (h : claimLocalApi cfg d now s c account n route = .ok (.claimed κ, s')) :
    Started cfg d now c κ s' := by
  simp only [claimLocalApi, bind_eq_ok] at h
  obtain ⟨a, -, h⟩ := h
  split at h
  · simp only [bind_eq_ok] at h
    obtain ⟨⟨g, s1⟩, hacquire, h⟩ := h
    rcases State.tryAcquire_ok hacquire with ⟨rfl, rfl, -⟩ | ⟨m, L, rfl, rfl, htaken⟩
    · simp only [deferExecution, bind_eq_ok] at h
      obtain ⟨_, -, h⟩ := h
      split at h <;> simp only [steps_ok, settled, reduceCtorEq, false_and, and_false,
        exists_false] at h
    · obtain ⟨row, hput, haccount, -, -, -, hexpiry⟩ := htaken.put
      refine startExecution_started (s := { s with accountLeases := L }) hc (fun _ _ => ?_) h
      have hkey : accountExecutionLeases.key row = c.accountId := haccount
      exact ⟨row, hkey ▸ hput.get?_self, hexpiry⟩
  · exact startExecution_started hc (fun _ hnone => by cases hnone) h

theorem routeAndClaim_started {n : Int} (h : routeAndClaim cfg d now s c n = .ok (.claimed κ, s')) :
    Started cfg d now c κ s' := by
  simp only [routeAndClaim, steps_ok] at h
  obtain ⟨account, -, s1, h1, h⟩ := h
  obtain ⟨RD, rfl, -⟩ := addDecision_ok h1
  split at h
  · simp only [endUnsupported, steps_ok, settled, reduceCtorEq, false_and, and_false,
    exists_false] at h
  · simp only [holdForIntervention, steps_ok, settled, reduceCtorEq, false_and,
    and_false, exists_false] at h
  · unfold deferExecution at h
    split at h <;> simp only [steps_ok, settled, reduceCtorEq, false_and, and_false,
      exists_false] at h
  · split at h
    · simp only [enqueueWorkerJob, steps_ok, reduceCtorEq, false_and, and_false,
      exists_false] at h
    · cases h
  · exact claimLocalApi_started (s := { s with routeDecisions := RD }) hc h

theorem validateAndRoute_started {n : Int}
    (h : validateAndRoute cfg d now s c n = .ok (.claimed κ, s')) : Started cfg d now c κ s' := by
  unfold validateAndRoute at h
  split at h
  · simp only [bind_eq_ok] at h
    obtain ⟨c', ht, s1, h1, h⟩ := h
    obtain ⟨C, rfl, hput⟩ := storeCommand_ok h1
    obtain ⟨-, -, hsame, -, -, hcheckpoint⟩ := Command.transition_ok ht
    have hc' : ({ s with commands := C } : State).commands.get? c'.commandId = some c' :=
      hput.get?_self
    exact (routeAndClaim_started hc' h).of_same hsame hcheckpoint
  · exact routeAndClaim_started hc h

/-- The Command was in no live execution and before its deadline. -/
theorem claimLocked_started (h : claimLocked cfg d now c s = .ok (.claimed κ, s')) :
    Started cfg d now c κ s' ∧ (c.status = .processing →
        c.executionLeaseExpiresAt.any (fun e => decide (now < e)) = false) := by
  have hunheld : ∀ {previous}, claimUnheld cfg d now c previous s
      = .ok (.claimed κ, s') → Started cfg d now c κ s' := by
    intro previous h
    unfold claimUnheld at h
    split at h
    · unfold expireCommand at h
      split at h <;> simp only [steps_ok, settled, reduceCtorEq, false_and, and_false,
        exists_false] at h
    · split at h
      · simp only [pure_eq_ok, settled, Prod.mk.injEq, reduceCtorEq, false_and] at h
      · split at h
        · exact validateAndRoute_started hc h
        · dsimp only at h
          split at h
          · simp only [exhaustCommand, steps_ok, settled, reduceCtorEq, false_and,
            and_false, exists_false] at h
          · simp only [bind_eq_ok] at h
            obtain ⟨s1, h1, h⟩ := h
            obtain ⟨CA, rfl, -⟩ := closeAttempt_ok h1
            exact validateAndRoute_started (s := { s with commandAttempts := CA }) hc h
  unfold claimLocked at h
  split at h
  · simp only [pure_eq_ok, settled, Prod.mk.injEq, reduceCtorEq, false_and] at h
  · split at h
    · split at h
      · simp only [pure_eq_ok, settled, Prod.mk.injEq, reduceCtorEq, false_and] at h
      case isFalse hlapsed =>
        simp only [steps_ok] at h
        obtain ⟨a, -, h⟩ := h
        exact ⟨hunheld h, fun _ => by simpa using hlapsed⟩
    case isFalse hidle => exact ⟨hunheld h, fun hp => absurd hp hidle⟩

end

theorem processNext_started {excluded : List String}
    (h : processNext cfg d now excluded s = .ok (some (.claimed κ), s')) :
    ∃ c, s.nextReady? now excluded = some c ∧ s.commands.get? c.commandId = some c
      ∧ Started cfg d now c κ s'
      ∧ (c.status = .processing →
        c.executionLeaseExpiresAt.any (fun e => decide (now < e)) = false) := by
  unfold processNext at h
  split at h
  · simp [pure_eq_ok] at h
  case h_2 c hready =>
    simp only [steps_ok, Option.some.injEq] at h
    obtain ⟨⟨o, s1⟩, h1, rfl, rfl⟩ := h
    have hc := (nextReady_unlinked hready).1
    exact ⟨c, hready, hc, claimLocked_started hc h1⟩

-- ==== and holding it

/-- The Command is executed, under the token, until the lease ends. -/
def HeldUntil (s : State) (commandId : String) (τ : Uuid) (leaseEnd : Time) : Prop :=
  ∃ c, s.commands.get? commandId = some c ∧ c.status = .processing
    ∧ c.executionLeaseToken = some τ ∧ c.executionLeaseExpiresAt = some leaseEnd

theorem Started.heldUntil (h : Started cfg d now c κ s') :
    HeldUntil s' κ.commandId κ.leaseToken (now + cfg.executionLeaseDuration) := by
  obtain ⟨c', hc', hstatus, -, -, htoken, hexpiry⟩ := h.command
  exact ⟨c', h.commandId ▸ hc', hstatus, htoken, hexpiry⟩

/-- A live execution is left alone by every effect of a call that does
not present its claim. -/
theorem Effect.command_kept (he : Effect cfg call s₀ s s')
    (hc : s.commands.get? c.commandId = some c) (hprocessing : c.status = .processing)
    (hlive : c.executionLeaseExpiresAt.all (fun e => decide (e ≤ call.now)) = false)
    (hother : ∀ κ, call.op.claim? = some κ → c.executionLeaseToken ≠ some κ.leaseToken) :
    s'.commands.get? c.commandId = some c := by
  -- a Command that is written is another one
  have hkept : ∀ {c1 c' : Command} {C : Table commands}, s.commands.get? c1.commandId = some c1 →
      c1.SameCommand c' → Put s.commands c' C → c1 ≠ c → C.get? c.commandId = some c := by
    intro c1 c' C hc1 hsame hput hne
    refine (hput.get?_ne fun hkey => hne ?_).trans hc
    have hid : c.commandId = c1.commandId := hkey.trans hsame.commandId
    rw [← hid, hc] at hc1
    exact Option.some.inj hc1.symm
  cases he with
  | jobMoved hmoved =>
    rcases hmoved.command with ⟨-, rfl, -, -⟩ | ⟨c1, -, -, hwaits, ⟨-, rfl, -, -⟩ | ⟨c', hput, -⟩⟩
    · exact hc
    · exact hc
    · refine hkept hput.stored hput.same hput.put ?_
      rintro rfl
      rcases hwaits with hst | hst <;> rw [hprocessing] at hst <;> cases hst
  | commandAdded hadd => exact hadd.put.get?_of_fresh hadd.fresh hc
  | commandMoved hmoved =>
    refine hkept hmoved.put.stored hmoved.put.same hmoved.put.put ?_
    rintro rfl
    rcases hmoved.held hprocessing with hlapsed | ⟨κ, hκ, htoken⟩
    · exact Bool.false_ne_true (hlive.symm.trans hlapsed)
    · exact hother κ hκ htoken
  | commandClaimed hclaimed =>
    refine hkept hclaimed.put.stored hclaimed.put.same hclaimed.put.put ?_
    rintro rfl
    exact Bool.false_ne_true (hlive.symm.trans (hclaimed.lapsed hprocessing))
  | commandTouched htouched =>
    refine hkept htouched.put.stored htouched.put.same htouched.put.put ?_
    rintro rfl
    exact hother _ htouched.op htouched.token
  | _ => exact hc

theorem HeldUntil.step {commandId : String} {τ : Uuid} {leaseEnd : Time}
    (h : HeldUntil s commandId τ leaseEnd) (hen : (machine cfg).enabled s call)
    (hlive : call.now < leaseEnd)
    (hother : ∀ κ, call.op.claim? = some κ → κ.leaseToken ≠ τ) :
    HeldUntil ((machine cfg).step s call) commandId τ leaseEnd := by
  obtain ⟨c, hc, hprocessing, htoken, hexpiry⟩ := h
  have hid : c.commandId = commandId := key_of_get? hc
  have hkept : ((machine cfg).step s call).commands.get? c.commandId = some c := by
    refine step_of_effects (fun t t' ht he => he.command_kept ht hprocessing ?_ ?_) hen (hid ▸ hc)
    · rw [hexpiry, Option.all_some, decide_eq_false_iff_not, not_le]
      exact hlive
    · intro κ hκ heq
      exact hother κ hκ (Option.mem_unique heq htoken)
  exact ⟨c, hid ▸ hkept, hprocessing, htoken, hexpiry⟩

end ThreadsPlatform
