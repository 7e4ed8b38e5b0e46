/-
The age of a tick.

`process_next` writes leases and looks at the deadline with the time it
is given, and a scheduler gives it the time of the tick. The handler,
the heartbeat and every other scheduler go by the clock. What the claim
is worth is therefore decided by the age of the tick: at a clock `t`
the leases it wrote are live exactly while `t` is before the tick's
time and the lease duration together, and the deadline is one for `t`.

# What follows for two schedulers

A live execution is left alone by everyone but its claim
(`HeldUntil.step`). So if every claim is made under leases that are live
when it is made, and every execution is renewed or over before its lease
ends, two schedulers never execute one Command. Neither can be dropped:
`overdue_tick_executes_twice` is a run in which the first fails.
-/
import ThreadsPlatform.Application.Scheduler
import ThreadsPlatform.Effects.Claims
import ThreadsPlatform.Proofs.ApiExecution

namespace ThreadsPlatform

open Relational Table CommandRuntime

variable {cfg : Settings} {call : Call} {d : Draws} {now t : Time} {s s' s₀ : State}
  {c : Command} {κ κ' : ExecutionClaim} {S : Schedulers} {e : SchedulerEvent} {p : Nat}
  {tick : Tick} {leaseEnd : Time}

-- ==== one claim

/-- At the clock `t` the execution has live leases and time left. -/
structure StartsInTime (s' : State) (κ : ExecutionClaim) (t : Time) : Prop where
  lease : ∃ c', s'.commands.get? κ.commandId = some c'
    ∧ c'.executionLeaseExpiresAt.any (fun e => decide (t < e)) = true
    ∧ c'.deadlineReached t = false
  account : ∀ generation, κ.accountCoordinationGeneration = some generation →
    s'.leaseActive κ.accountId t = true

theorem Started.inTime_iff (h : Started cfg d now c κ s') :
    StartsInTime s' κ t ↔ t < now + cfg.executionLeaseDuration ∧ c.deadlineReached t = false := by
  obtain ⟨c', hc', -, hdeadline, -, -, hexpiry⟩ := h.command
  have hsame : c'.deadlineReached t = c.deadlineReached t := by
    unfold Command.deadlineReached
    rw [hdeadline]
  constructor
  · rintro ⟨⟨c2, hc2, hlive, htime⟩, -⟩
    rw [h.commandId] at hc2
    obtain rfl := Option.mem_unique hc2 hc'
    rw [hexpiry, Option.any_some, decide_eq_true_eq] at hlive
    exact ⟨hlive, hsame ▸ htime⟩
  · rintro ⟨hlive, htime⟩
    refine ⟨⟨c', h.commandId ▸ hc', ?_, hsame.trans htime⟩, fun generation hg => ?_⟩
    · rw [hexpiry, Option.any_some, decide_eq_true_eq]
      exact hlive
    · obtain ⟨row, hrow, hend⟩ := h.account generation hg
      unfold State.leaseActive
      rw [hrow, Option.any_some, decide_eq_true_eq, hend]
      exact hlive

-- ==== the executor's own

theorem heartbeat_held {u : Unit} (h : heartbeat cfg now κ s = .ok (u, s')) :
    HeldUntil s' κ.commandId κ.leaseToken (now + cfg.executionLeaseDuration) := by
  simp only [heartbeat, steps_ok] at h
  obtain ⟨⟨renewed, s1⟩, h1, ⟨accountRenewed, s2⟩, h2, ⟨hrenewed, haccount⟩, -, rfl⟩ := h
  rcases updateIfLeased_ok h1 with ⟨hfalse, -⟩ | ⟨-, c, C, hc, hid, hleased, rfl, hput⟩
  · exact absurd (hfalse.symm.trans hrenewed) Bool.false_ne_true
  · obtain ⟨L, rfl, -⟩ := renewAccountExecution_ok h2 haccount
    obtain ⟨hprocessing, htoken, -⟩ := executionLeased_iff.mp hleased
    refine ⟨{ c with executionLeaseExpiresAt := some (now + cfg.executionLeaseDuration) },
      ?_, hprocessing, htoken, rfl⟩
    rw [hid]
    exact hput.get?_self

theorem HeldUntil.persistCheckpoint {data : Document} {saved : Bool}
    (h : HeldUntil s κ.commandId κ.leaseToken leaseEnd)
    (hsave : persistCheckpoint now κ data s = .ok (saved, s')) :
    HeldUntil s' κ.commandId κ.leaseToken leaseEnd := by
  unfold CommandRuntime.persistCheckpoint at hsave
  split at hsave
  · simp only [steps_ok] at hsave
    exact hsave.2 ▸ h
  · rcases updateIfLeased_ok hsave with ⟨-, rfl⟩ | ⟨-, c, C, hc, hid, -, rfl, hput⟩
    · exact h
    · obtain ⟨c0, hc0, hprocessing, htoken, hexpiry⟩ := h
      obtain rfl := Option.mem_unique (hid ▸ hc0) hc
      refine ⟨{ c0 with checkpoint := some data }, ?_, hprocessing, htoken, hexpiry⟩
      rw [hid]
      exact hput.get?_self

theorem claims_kept (hen : (machine cfg).enabled s call) (hκ : κ ∈ s.claims) :
    κ ∈ ((machine cfg).step s call).claims := by
  refine step_of_effects (I := fun t => κ ∈ t.claims) (fun t t' ht he => ?_) hen hκ
  cases he with
  | commandClaimed _ => exact .tail _ ht
  | _ => exact ht

theorem TokensDiffer.step (h : TokensDiffer s) (hen : (machine cfg).enabled s call)
    (hnew : DrawsNewToken s call) : TokensDiffer ((machine cfg).step s call) :=
  step_of_effects (fun _ _ ht he => ht.effect hnew he) hen h

-- ==== two schedulers

/-- A scheduler that takes the next Command is, by the clock, still
within the lease its tick would write and before the Command's
deadline. -/
def TakesInTime (cfg : Settings) (S : Schedulers) (e : SchedulerEvent) : Prop :=
  ∀ p tick, e.action = .processNext p → S.phase p = .selecting tick →
    e.clock < tick.occurredAt + cfg.executionLeaseDuration
    ∧ ∀ c, S.state.nextReady? tick.occurredAt tick.attempted = some c →
      c.deadlineReached e.clock = false

/-- Every execution under way was renewed before its lease ended. -/
def Punctual (S : Schedulers) (e : SchedulerEvent) : Prop :=
  ∀ p tick κ leaseEnd, S.phase p = .executing tick κ leaseEnd → e.clock < leaseEnd

/-- The transaction of the event draws a new lease token. -/
def EventDrawsNewToken (S : Schedulers) (e : SchedulerEvent) : Prop :=
  ∀ call, S.call? e = some call → DrawsNewToken S.state call

/-- The steps of a run in which nothing is overdue. -/
def InTime (cfg : Settings) (S : Schedulers) (e : SchedulerEvent) : Prop :=
  TakesInTime cfg S e ∧ Punctual S e ∧ EventDrawsNewToken S e

/-- Every execution under way has its Command, and its Command for
itself. -/
structure ExecutionsApart (S : Schedulers) : Prop where
  tokens : TokensDiffer S.state
  ticks : ∀ p tick, S.phase p = .selecting tick → tick.occurredAt ≤ S.clock
  running : ∀ p tick κ leaseEnd, S.phase p = .executing tick κ leaseEnd →
    tick.occurredAt ≤ S.clock ∧ κ ∈ S.state.claims
      ∧ HeldUntil S.state κ.commandId κ.leaseToken leaseEnd
  apart : ∀ p q tick κ leaseEnd tick' κ' leaseEnd', S.phase p = .executing tick κ leaseEnd →
    S.phase q = .executing tick' κ' leaseEnd' → κ.commandId = κ'.commandId → p = q

theorem ExecutionsApart.tokens_ne (h : ExecutionsApart S) {q : Nat} {tick' : Tick}
    {leaseEnd' : Time} (hp : S.phase p = .executing tick κ leaseEnd)
    (hq : S.phase q = .executing tick' κ' leaseEnd') (hne : p ≠ q) :
    κ'.leaseToken ≠ κ.leaseToken := by
  intro htoken
  have hκ := (h.running p tick κ leaseEnd hp).2.1
  have hκ' := (h.running q tick' κ' leaseEnd' hq).2.1
  have hsame := h.tokens κ' hκ' κ hκ htoken
  exact hne (h.apart p q tick κ leaseEnd tick' κ' leaseEnd' hp hq (hsame ▸ rfl))

open Schedulers

/-- What the transaction of an event is: read no later than the clock,
presenting at most the claim of the scheduler that acts, or one nobody
executes. -/
theorem ExecutionsApart.call_spec (h : ExecutionsApart S) (hen : (schedulers cfg).enabled S e)
    (hcall : S.call? e = some call) :
    call.now ≤ e.clock ∧ (machine cfg).enabled S.state call ∧ ∀ κ, call.op.claim? = some κ →
        (∃ p tick leaseEnd, e.action.scheduler? = some p ∧ S.phase p = .executing tick κ leaseEnd)
        ∨ (∀ p tick leaseEnd, S.phase p ≠ .executing tick κ leaseEnd) := by
  have hexecution : ∀ {p} {op : ExecutionClaim → Op}, e.action.scheduler? = some p →
      (∀ κ, (op κ).claim? = some κ) →
      call?.execution S e p op = some call → call.now ≤ e.clock
      ∧ (machine cfg).enabled S.state call ∧ ∀ κ, call.op.claim? = some κ →
        (∃ p tick leaseEnd, e.action.scheduler? = some p ∧ S.phase p = .executing tick κ leaseEnd)
        ∨ (∀ p tick leaseEnd, S.phase p ≠ .executing tick κ leaseEnd) := by
    intro p op hp hop hcall
    unfold call?.execution at hcall
    split at hcall
    case h_1 tick κ leaseEnd hphase =>
      injection hcall with hcall
      subst hcall
      have hclaim : ∀ κ2, (op κ).claim? = some κ2 → κ = κ2 :=
        fun κ2 hκ₂ => Option.mem_unique (hop κ) hκ₂
      refine ⟨le_refl _, fun κ2 hκ₂ => ?_, fun κ2 hκ₂ => .inl ⟨p, tick, leaseEnd, hp, ?_⟩⟩
      · exact hclaim κ2 hκ₂ ▸ (h.running p tick κ leaseEnd hphase).2.1
      · exact hclaim κ2 hκ₂ ▸ hphase
    · cases hcall
  unfold call? at hcall
  cases haction : e.action <;> rw [haction] at hcall hexecution <;> dsimp only at hcall
  case start | crash => cases hcall
  case processNext p =>
    split at hcall
    case h_1 tick hphase =>
      split at hcall
      · cases hcall
      · injection hcall with hcall
        subst hcall
        refine ⟨le_trans (h.ticks p tick hphase) hen.1, ?_, ?_⟩ <;> intro κ hκ <;> cases hκ
    · cases hcall
  case other call' =>
    injection hcall with hcall
    subst hcall
    obtain ⟨hnow, hclaims⟩ := hen.2 call' haction
    exact ⟨hnow, fun κ hκ => (hclaims κ hκ).1, fun κ hκ => .inr (hclaims κ hκ).2⟩
  all_goals exact hexecution rfl (fun _ => rfl) hcall

/-- How a scheduler comes to be executing: it has just claimed, it has
renewed its lease, or it was and its transaction changed neither. -/
theorem phaseAfter_executing (hp : e.action.scheduler? = some p)
    (h : S.phaseAfter cfg e p = .executing tick κ leaseEnd) :
    (∃ tick0 s', e.action = .processNext p ∧ S.phase p = .selecting tick0 ∧ tick0.rounds ≠ 0
      ∧ tick.occurredAt = tick0.occurredAt
      ∧ leaseEnd = tick0.occurredAt + cfg.executionLeaseDuration
      ∧ processNext cfg e.draws tick0.occurredAt tick0.attempted S.state
        = .ok (some (.claimed κ), s'))
    ∨ (∃ leaseEnd0 result, e.action = .heartbeat p ∧ S.phase p = .executing tick κ leaseEnd0
      ∧ leaseEnd = e.clock + cfg.executionLeaseDuration
      ∧ heartbeat cfg e.clock κ S.state = .ok result)
    ∨ (S.phase p = .executing tick κ leaseEnd ∧ (S.call? e = none
      ∨ (∃ data, e.action = .checkpoint p data)
      ∨ ∃ output error, e.action = .succeed p output
        ∧ finishSuccess cfg e.draws e.clock κ output S.state = .error error)) := by
  unfold phaseAfter at h
  cases hphase : S.phase p with
  | idle => cases haction : e.action <;> simp [hphase, haction] at h
  | selecting tick0 =>
    cases haction : e.action <;> simp only [hphase, haction, reduceCtorEq] at h
    case processNext p' =>
      obtain rfl : p' = p := by simpa [haction, SchedulerAction.scheduler?] using hp
      unfold afterProcessNext at h
      split at h
      · cases h
      case h_2 rounds hrounds =>
        dsimp only at h
        split at h
        case h_1 | h_2 => cases h
        case h_3 κ1 s' hclaimed =>
          cases h
          exact .inl ⟨tick0, s', rfl, rfl, by omega, rfl, rfl, hclaimed⟩
        case h_4 | h_5 =>
          unfold Tick.leave at h
          split at h <;> cases h
  | executing tick0 κ0 leaseEnd0 =>
    refine .inr ?_
    cases haction : e.action <;> simp only [hphase, haction, reduceCtorEq] at h
    all_goals
      try obtain rfl : _ = p := by simpa [haction, SchedulerAction.scheduler?] using hp
      unfold afterExecution at h
      rw [haction] at h
      dsimp only at h
    case start =>
      cases h
      refine .inr ⟨rfl, .inl ?_⟩
      unfold call?
      rw [haction]
    case processNext =>
      cases h
      refine .inr ⟨rfl, .inl ?_⟩
      unfold call?
      rw [haction]
      dsimp only
      rw [hphase]
    case heartbeat =>
      split at h
      case h_1 result hbeat =>
        cases h
        exact .inl ⟨leaseEnd0, result, rfl, rfl, rfl, hbeat⟩
      · unfold Tick.leave at h
        split at h <;> cases h
    case checkpoint data =>
      split at h
      · unfold Tick.leave at h
        split at h <;> cases h
      case h_2 | h_3 =>
        cases h
        exact .inr ⟨rfl, .inr (.inl ⟨data, rfl⟩)⟩
    case succeed output =>
      split at h
      · unfold Tick.leave at h
        split at h <;> cases h
      case h_2 hconflict =>
        cases h
        exact .inr ⟨rfl, .inr (.inr ⟨output, _, rfl, hconflict⟩)⟩
      · cases h
    case fail =>
      split at h
      · unfold Tick.leave at h
        split at h <;> cases h
      · cases h
    case other =>
      rw [haction] at hp
      cases hp

theorem step_state (cfg : Settings) (S : Schedulers) (e : SchedulerEvent) :
    ((schedulers cfg).step S e).state
      = ((S.call? e).map ((machine cfg).step S.state)).getD S.state := rfl

/-- The execution of a scheduler that does not act goes on. -/
theorem ExecutionsApart.others (h : ExecutionsApart S) (hen : (schedulers cfg).enabled S e)
    (hpunctual : Punctual S e) (hphase : S.phase p = .executing tick κ leaseEnd)
    (hidle : e.action.scheduler? ≠ some p) :
    HeldUntil ((schedulers cfg).step S e).state κ.commandId κ.leaseToken leaseEnd := by
  obtain ⟨-, hκ, hheld⟩ := h.running p tick κ leaseEnd hphase
  rw [step_state]
  cases hcall : S.call? e with
  | none => exact hheld
  | some call =>
    obtain ⟨hnow, henabled, hclaims⟩ := h.call_spec hen hcall
    refine hheld.step henabled (lt_of_le_of_lt hnow (hpunctual p tick κ leaseEnd hphase)) ?_
    intro κ' hκ' htoken
    rcases hclaims κ' hκ' with ⟨q, tick', leaseEnd', hq, hphase'⟩ | hnobody
    · refine h.tokens_ne hphase hphase' ?_ htoken
      rintro rfl
      exact hidle hq
    · have hsame := h.tokens κ' (henabled κ' hκ') κ hκ htoken
      exact hnobody p tick leaseEnd (hsame ▸ hphase)

/-- So does that of the scheduler that acts, if it is executing
afterwards; a new one is of a Command nobody executes. -/
theorem ExecutionsApart.acting (h : ExecutionsApart S) (hen : (schedulers cfg).enabled S e)
    (hin : InTime cfg S e) (hp : e.action.scheduler? = some p)
    (hafter : S.phaseAfter cfg e p = .executing tick κ leaseEnd) :
    tick.occurredAt ≤ e.clock ∧ κ ∈ ((schedulers cfg).step S e).state.claims
      ∧ HeldUntil ((schedulers cfg).step S e).state κ.commandId κ.leaseToken leaseEnd
      ∧ ∀ q tick' κ' leaseEnd', S.phase q = .executing tick' κ' leaseEnd' →
        κ.commandId = κ'.commandId → p = q := by
  have hclaimed : ∀ {tick0 leaseEnd0}, S.phase p = .executing tick0 κ leaseEnd0 →
      κ ∈ ((schedulers cfg).step S e).state.claims
      ∧ ∀ q tick' κ' leaseEnd', S.phase q = .executing tick' κ' leaseEnd' →
        κ.commandId = κ'.commandId → p = q := by
    intro tick0 leaseEnd0 hphase
    refine ⟨?_, fun q tick' κ' leaseEnd' => h.apart p q tick0 κ leaseEnd0 tick' κ' leaseEnd' hphase⟩
    obtain ⟨-, hκ, -⟩ := h.running p tick0 κ leaseEnd0 hphase
    rw [step_state]
    cases hcall : S.call? e with
    | none => exact hκ
    | some call => exact claims_kept (h.call_spec hen hcall).2.1 hκ
  rcases phaseAfter_executing hp hafter with
    ⟨tick0, s', haction, hphase, hrounds, htick, rfl, hnext⟩
    | ⟨leaseEnd0, result, haction, hphase, rfl, hbeat⟩ | ⟨hphase, hcall⟩
  · -- a new claim
    have hcall : S.call? e = some ⟨tick0.occurredAt, e.draws, .processNext tick0.attempted⟩ := by
      unfold call?
      rw [haction]
      dsimp only
      rw [hphase]
      dsimp only
      rw [if_neg hrounds]
    have hstate : ((schedulers cfg).step S e).state = s' := by
      rw [step_state, hcall]
      show commit (Call.outcome cfg ⟨tick0.occurredAt, e.draws, .processNext tick0.attempted⟩
        S.state) S.state = s'
      simp only [Call.outcome]
      rw [hnext]
      rfl
    have hold := le_trans (h.ticks p tick0 hphase) hen.1
    obtain ⟨c, -, hc, hstarted, hfree⟩ := processNext_started hnext
    rw [hstate]
    refine ⟨htick ▸ hold, hstarted.claims, hstarted.heldUntil, ?_⟩
    intro q tick' κ' leaseEnd' hq hsame
    -- a live execution is not taken over
    obtain ⟨-, -, c', hc', hprocessing, -, hexpiry⟩ := h.running q tick' κ' leaseEnd' hq
    rw [← hsame, hstarted.commandId] at hc'
    obtain rfl := Option.mem_unique hc' hc
    have hlapsed := hfree hprocessing
    rw [hexpiry, Option.any_some, decide_eq_false_iff_not, not_lt] at hlapsed
    have hlive := hin.2.1 q tick' κ' leaseEnd' hq
    exact absurd (lt_of_lt_of_le hlive hlapsed) (not_lt.mpr hold)
  · obtain ⟨hκ, hapart⟩ := hclaimed hphase
    refine ⟨le_trans (h.running p tick κ leaseEnd0 hphase).1 hen.1, hκ, ?_, hapart⟩
    have hcall : S.call? e = some ⟨e.clock, e.draws, .heartbeat κ⟩ := by
      unfold call?
      rw [haction]
      dsimp only [call?.execution]
      rw [hphase]
    have hstate : ((schedulers cfg).step S e).state = result.2 := by
      rw [step_state, hcall]
      show commit (Call.outcome cfg ⟨e.clock, e.draws, .heartbeat κ⟩ S.state) S.state = result.2
      simp only [Call.outcome]
      rw [hbeat]
      rfl
    rw [hstate]
    exact heartbeat_held hbeat
  · obtain ⟨hκ, hapart⟩ := hclaimed hphase
    obtain ⟨htick, -, hheld⟩ := h.running p tick κ leaseEnd hphase
    refine ⟨le_trans htick hen.1, hκ, ?_, hapart⟩
    rw [step_state]
    rcases hcall with hnone | ⟨data, haction⟩ | ⟨output, error, haction, hfinish⟩
    · rw [hnone]
      exact hheld
    · have hcall : S.call? e = some ⟨e.clock, e.draws, .persistCheckpoint κ data⟩ := by
        unfold call?
        rw [haction]
        dsimp only [call?.execution]
        rw [hphase]
      rw [hcall]
      show HeldUntil (commit (Call.outcome cfg
        ⟨e.clock, e.draws, .persistCheckpoint κ data⟩ S.state) S.state) _ _ _
      simp only [Call.outcome]
      cases hsave : persistCheckpoint e.clock κ data S.state with
      | error _ => exact hheld
      | ok result => exact hheld.persistCheckpoint hsave
    · have hcall : S.call? e = some ⟨e.clock, e.draws, .finishSuccess κ output⟩ := by
        unfold call?
        rw [haction]
        dsimp only [call?.execution]
        rw [hphase]
      rw [hcall]
      show HeldUntil (commit (Call.outcome cfg
        ⟨e.clock, e.draws, .finishSuccess κ output⟩ S.state) S.state) _ _ _
      simp only [Call.outcome]
      rw [hfinish]
      exact hheld

/-- A tick that is between two Commands is no younger than before. -/
theorem phaseAfter_selecting (h : ExecutionsApart S) (hen : (schedulers cfg).enabled S e)
    (hafter : S.phaseAfter cfg e p = .selecting tick) : tick.occurredAt ≤ e.clock := by
  have hleave : ∀ {tick0 : Tick} {commandId}, tick0.leave commandId = .selecting tick →
      tick.occurredAt = tick0.occurredAt := by
    intro tick0 commandId hleave
    unfold Tick.leave at hleave
    split at hleave
    · cases hleave
    · rw [Phase.selecting.injEq] at hleave
      rw [← hleave]
  unfold phaseAfter at hafter
  cases hphase : S.phase p with
  | idle =>
    cases haction : e.action <;>
      simp [hphase, haction, Phase.selecting.injEq] at hafter
    rw [← hafter]
  | selecting tick0 =>
    have hold := le_trans (h.ticks p tick0 hphase) hen.1
    cases haction : e.action <;>
      simp [hphase, haction, Phase.selecting.injEq] at hafter
    case processNext =>
      unfold afterProcessNext at hafter
      split at hafter
      · cases hafter
      · dsimp only at hafter
        split at hafter
        case h_1 | h_2 | h_3 => cases hafter
        case h_4 | h_5 => exact hleave hafter ▸ hold
    all_goals exact hafter ▸ hold
  | executing tick0 κ0 leaseEnd0 =>
    have hold := le_trans (h.running p tick0 κ0 leaseEnd0 hphase).1 hen.1
    cases haction : e.action <;> simp only [hphase, haction, reduceCtorEq] at hafter
    all_goals
      unfold afterExecution at hafter
      rw [haction] at hafter
      dsimp only at hafter
    case start | processNext | other => cases hafter
    -- the heartbeat, the checkpoint or the report left the loop
    all_goals
      split at hafter
      all_goals first
        | cases hafter
        | exact hleave hafter ▸ hold

theorem ExecutionsApart.step (h : ExecutionsApart S) (hen : (schedulers cfg).enabled S e)
    (hin : InTime cfg S e) : ExecutionsApart ((schedulers cfg).step S e) := by
  -- the phase of a scheduler afterwards: it acted, or it is what it was
  have hphase : ∀ p, (e.action.scheduler? = some p
        ∧ ((schedulers cfg).step S e).phase p = S.phaseAfter cfg e p)
      ∨ (e.action.scheduler? ≠ some p ∧ ((schedulers cfg).step S e).phase p = S.phase p) := by
    intro p
    simp only [schedulers]
    cases hacts : e.action.scheduler? with
    | none => exact .inr ⟨by simp, rfl⟩
    | some p' =>
      dsimp only
      by_cases hp : p' = p
      · subst hp
        exact .inl ⟨rfl, Function.update_self ..⟩
      · exact .inr ⟨fun heq => hp (Option.some.inj heq),
          Function.update_of_ne (fun heq => hp heq.symm) ..⟩
  refine ⟨?_, ?_, ?_, ?_⟩
  · rw [step_state]
    cases hcall : S.call? e with
    | none => exact h.tokens
    | some call => exact h.tokens.step (h.call_spec hen hcall).2.1 (hin.2.2 call hcall)
  · intro p tick htick
    show tick.occurredAt ≤ e.clock
    rcases hphase p with ⟨-, hafter⟩ | ⟨-, hkept⟩
    · exact phaseAfter_selecting h hen (hafter.symm.trans htick)
    · exact le_trans (h.ticks p tick (hkept.symm.trans htick)) hen.1
  · intro p tick κ leaseEnd hexec
    rcases hphase p with ⟨hp, hafter⟩ | ⟨hidle, hkept⟩
    · obtain ⟨htick, hκ, hheld, -⟩ := h.acting hen hin hp (hafter.symm.trans hexec)
      exact ⟨htick, hκ, hheld⟩
    · have hold := hkept.symm.trans hexec
      obtain ⟨htick, hκ, -⟩ := h.running p tick κ leaseEnd hold
      refine ⟨le_trans htick hen.1, ?_, h.others hen hin.2.1 hold hidle⟩
      rw [step_state]
      cases hcall : S.call? e with
      | none => exact hκ
      | some call => exact claims_kept (h.call_spec hen hcall).2.1 hκ
  · intro p q tick κ leaseEnd tick' κ' leaseEnd' hp hq hsame
    rcases hphase p with ⟨hacts, hafter⟩ | ⟨-, hkept⟩ <;>
      rcases hphase q with ⟨hacts', hafter'⟩ | ⟨-, hkept'⟩
    · exact Option.mem_unique hacts hacts'
    · exact (h.acting hen hin hacts (hafter.symm.trans hp)).2.2.2 q tick' κ' leaseEnd'
        (hkept'.symm.trans hq) hsame
    · exact ((h.acting hen hin hacts' (hafter'.symm.trans hq)).2.2.2 p tick κ leaseEnd
        (hkept.symm.trans hp) hsame.symm).symm
    · exact h.apart p q tick κ leaseEnd tick' κ' leaseEnd' (hkept.symm.trans hp)
        (hkept'.symm.trans hq) hsame

theorem ExecutionsApart.reachable (h : (schedulers cfg).Reachable (InTime cfg) S) :
    ExecutionsApart S := by
  refine h.invariant ?_ fun S e hS hen hin => hS.step hen hin
  rintro S ⟨⟨W, hstate⟩, hphase⟩
  refine ⟨?_, ?_, ?_, ?_⟩
  · rw [hstate]
    intro κ hκ
    cases hκ
  · intro p tick htick
    rw [hphase] at htick
    cases htick
  · intro p tick κ leaseEnd hexec
    rw [hphase] at hexec
    cases hexec
  · intro p q tick κ leaseEnd tick' κ' leaseEnd' hexec
    rw [hphase] at hexec
    cases hexec

/-- A claim made at the clock `t` by a `process_next` that was given the
time `T` starts in time exactly if `t` is within the lease counted from
`T`, and before the deadline; and in a run in which that is so, and no
lease ends under an execution, two schedulers never execute one
Command. -/
theorem claims_start_in_time (cfg : Settings) :
    (∀ {s d T t excluded c κ s'}, T ≤ t → s.nextReady? T excluded = some c →
      processNext cfg d T excluded s = .ok (some (.claimed κ), s') →
      (StartsInTime s' κ t ↔
        t < T + cfg.executionLeaseDuration ∧ c.deadlineReached t = false))
    ∧ ∀ {S}, (schedulers cfg).Reachable (InTime cfg) S →
      ∀ p q tick κ leaseEnd tick' κ' leaseEnd', S.phase p = .executing tick κ leaseEnd →
        S.phase q = .executing tick' κ' leaseEnd' → κ.commandId = κ'.commandId → p = q := by
  refine ⟨?_, fun hS => (ExecutionsApart.reachable hS).apart⟩
  intro s d T t excluded c κ s' _ hc h
  obtain ⟨c₂, hc₂, -, hstarted, -⟩ := processNext_started h
  obtain rfl := Option.mem_unique hc₂ hc
  exact hstarted.inTime_iff

-- ---- an old tick

/-- What the machine asks of an event of a sample run: the clock does not
go back, and transactions beside the schedulers present no claim. -/
def eventAdmitted (S : Schedulers) (e : SchedulerEvent) : Bool :=
  decide (S.clock ≤ e.clock) && match e.action with
    | .other call => decide (call.now ≤ e.clock) && call.op.claim?.isNone
    | _ => true

theorem enabled_of_eventAdmitted (h : eventAdmitted S e = true) : (schedulers cfg).enabled S e := by
  simp only [eventAdmitted, checks_hold] at h
  refine ⟨h.1, fun call haction => ?_⟩
  have hcall := h.2
  rw [haction] at hcall
  simp only [checks_hold, Option.isNone_iff_eq_none] at hcall
  refine ⟨hcall.1, fun κ hκ => ?_⟩
  rw [hcall.2] at hκ
  cases hκ

namespace Sample

/-- Schedulers that have not started. -/
def idleSchedulers : Schedulers where
  state := .initial world
  clock := 0
  phase := fun _ => .idle

/-- The `n`th event of a sample run. -/
def event (n : Nat) (clock : Time) (action : SchedulerAction) : SchedulerEvent :=
  ⟨clock, draws n, action⟩

/-- The `n`th event, a transaction beside the schedulers. -/
def beside (n : Nat) (now : Time) (op : Op) : SchedulerEvent :=
  event n now (.other (Sample.call n now op))

end Sample

/-- Account 3 beside account 1, both in API mode. -/
def twoAccounts : Surroundings := { Sample.apiWorld with
    accounts := [1, 3].map fun id => { id, status := .active, executionMode := .apiOnly } }

/-- Two Commands of two accounts wait. Scheduler 0 executes the first for 44 seconds,
renewing its lease; then, still in the tick of second 1, it claims the
second. -/
def overdueTick : List SchedulerEvent := [Sample.beside 1 0 (.surroundings twoAccounts),
    Sample.beside 2 0 (.receive (Sample.publish "first" 0 none)),
    Sample.beside 3 0 (.receive { Sample.publish "second" 0 none with accountId := 3 }),
    Sample.event 4 1 (.start 0 10), Sample.event 5 1 (.processNext 0),
    Sample.event 6 20 (.heartbeat 0), Sample.event 7 40 (.heartbeat 0),
    Sample.event 8 45 (.succeed 0 { result := [], posts := [], replies := [], syncStates := [] }),
    Sample.event 9 45 (.processNext 0)]

/-- Scheduler 1 starts a tick of its own. -/
def nextTick : List SchedulerEvent :=
  [Sample.event 10 46 (.start 1 10), Sample.event 11 46 (.processNext 1)]

/-- The claim scheduler 0 made of the second Command. -/
def overdueClaim : ExecutionClaim where
  commandId := "second"
  accountId := 3
  leaseToken := 901
  attemptNumber := 1
  attemptId := 902
  accountCoordinationGeneration := some 1

open Sample in
/-- Its leases ended at second 31. The next tick of another scheduler
claims the Command again, and both execute it. -/
theorem overdue_tick_executes_twice :
    ∃ S S', (schedulers settings).Reachable (fun _ _ => True) S
      ∧ S.clock = 45 ∧ S.phase 0 = .executing ⟨1, ["first"], 8⟩ overdueClaim 31
      ∧ ¬ StartsInTime S.state overdueClaim 45
      ∧ (schedulers settings).Reachable (fun _ _ => True) S'
      ∧ S'.phase 0 = .executing ⟨1, ["first"], 8⟩ overdueClaim 31
      ∧ ∃ tick κ leaseEnd, S'.phase 1 = .executing tick κ leaseEnd ∧ κ.commandId = "second" := by
  have hstart : (schedulers settings).Reachable (fun _ _ => True)
      idleSchedulers := .init ⟨⟨world, rfl⟩, rfl⟩
  have hok : ∀ S e, (schedulers settings).Reachable (fun _ _ => True) S →
      eventAdmitted S e = true → (schedulers settings).enabled S e ∧ True :=
    fun S e _ h => ⟨enabled_of_eventAdmitted h, trivial⟩
  refine ⟨(schedulers settings).runs overdueTick idleSchedulers,
    (schedulers settings).runs (overdueTick ++ nextTick) idleSchedulers,
    hstart.runs hok (by decide), by decide, by decide, ?_,
    hstart.runs hok (by decide), by decide,
    ⟨46, [], 9⟩, ⟨"second", 3, 1101, 2, 1102, some 2⟩, 76, by decide, rfl⟩
  rintro ⟨⟨c, hc, hlive, -⟩, -⟩
  have hdead : (((schedulers settings).runs overdueTick
      idleSchedulers).state.commands.get? "second").all
      (fun c => !c.executionLeaseExpiresAt.any fun e => decide (45 < e)) = true := by
    decide
  rw [show overdueClaim.commandId = "second" from rfl] at hc
  rw [hc, Option.all_some, hlive] at hdead
  cases hdead

/-- An event in time, in a state without claims: all that can be late
there is a new one. -/
def eventInTime (cfg : Settings) (S : Schedulers) (e : SchedulerEvent) : Bool :=
  eventAdmitted S e && S.state.claims.isEmpty && match e.action with
    | .processNext p =>
      match S.phase p with
      | .selecting tick => decide (e.clock < tick.occurredAt + cfg.executionLeaseDuration)
          && (S.state.nextReady? tick.occurredAt tick.attempted).all
            (fun c => !c.deadlineReached e.clock)
      | _ => true
    | _ => true

theorem inTime_of_eventInTime (hS : (schedulers cfg).Reachable (InTime cfg) S)
    (h : eventInTime cfg S e = true) : (schedulers cfg).enabled S e ∧ InTime cfg S e := by
  simp only [eventInTime, Bool.and_eq_true, List.isEmpty_iff] at h
  obtain ⟨⟨hadmitted, hclaims⟩, htakes⟩ := h
  refine ⟨enabled_of_eventAdmitted hadmitted, ?_, ?_, ?_⟩
  · intro p tick haction hphase
    rw [haction] at htakes
    dsimp only at htakes
    rw [hphase] at htakes
    simp only [checks_hold] at htakes
    refine ⟨htakes.1, fun c hc => ?_⟩
    have hall := htakes.2
    rw [hc, Option.all_some, Bool.not_eq_true'] at hall
    exact hall
  · intro p tick κ leaseEnd hphase
    have hκ := ((ExecutionsApart.reachable hS).running p tick κ leaseEnd hphase).2.1
    rw [hclaims] at hκ
    cases hκ
  · intro call _ κ hκ
    rw [hclaims] at hκ
    cases hκ

/-- One Command waits, and scheduler 0 has started a tick. -/
def freshTick : List SchedulerEvent := [Sample.beside 1 0 (.surroundings Sample.apiWorld),
    Sample.beside 2 0 (.receive (Sample.publish "first" 0 (some 500))),
    Sample.event 3 1 (.start 0 10)]

/-- The state it takes the Command in. -/
def freshState : State := ((schedulers Sample.settings).runs freshTick Sample.idleSchedulers).state

/-- Whether an outcome hands out a claim. -/
def RoutingOutcome.isClaimed : RoutingOutcome → Bool
  | .claimed _ => true
  | _ => false

open Sample in
/-- A claim made a second into its tick starts in time, and the scheduler
has the Command for itself. -/
theorem claims_start_in_time_fresh_tick : (∃ κ s', processNext settings (draws 4) 1 [] freshState
        = .ok (some (.claimed κ), s') ∧ StartsInTime s' κ 2)
    ∧ ∃ (S : Schedulers) (tick : Tick) (κ : ExecutionClaim) (leaseEnd : Time),
      S.phase 0 = .executing tick κ leaseEnd
      ∧ ∀ q tick' κ' leaseEnd', S.phase q = .executing tick' κ' leaseEnd' →
        κ.commandId = κ'.commandId → 0 = q := by
  constructor
  · have hclaimed : (processNext settings (draws 4) 1 [] freshState).toOption.any
        (fun r => r.1.any RoutingOutcome.isClaimed) = true := by decide
    have hready : (freshState.nextReady? 1 []).any (fun c => !c.deadlineReached 2) = true := by
      decide
    obtain ⟨⟨_ | _ | _ | κ, s'⟩, h, hclaimed⟩ := ok_of_any hclaimed
    case some.claimed =>
      obtain ⟨c, hc, hready⟩ := (Option.any_eq_true _ _).mp hready
      refine ⟨κ, s', h, ?_⟩
      rw [(claims_start_in_time settings).1 (by decide) hc h]
      exact ⟨by decide, by simpa using hready⟩
    all_goals cases hclaimed
  · have hstart : (schedulers settings).Reachable (InTime settings)
        idleSchedulers := .init ⟨⟨world, rfl⟩, rfl⟩
    have hreach := hstart.runs (fun S e => inTime_of_eventInTime)
      (by decide : (schedulers settings).checks (eventInTime settings)
        (freshTick ++ [event 4 2 (.processNext 0)]) idleSchedulers = true)
    refine ⟨_, ⟨1, [], 9⟩, ⟨"first", 1, 401, 1, 402, some 1⟩, 31, ?_,
      fun q tick' κ' leaseEnd' => (claims_start_in_time settings).2 hreach 0 q ⟨1, [], 9⟩
        ⟨"first", 1, 401, 1, 402, some 1⟩ 31 tick' κ' leaseEnd' ?_⟩
    all_goals decide

end ThreadsPlatform
