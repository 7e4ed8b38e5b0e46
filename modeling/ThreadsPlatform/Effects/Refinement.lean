/-
The machine refines its effects.

`outcome_effects` collects the operations: whatever a call commits, it
got there by effects. An invariant is therefore proved once per effect
and holds along every run; the rules below say so for runs under a side
condition, for runs with a clock, and for the rest of a run.
-/
import ThreadsPlatform.Effects.CommandRuntime

namespace ThreadsPlatform

open Relational WorkerJobService CommandRuntime

variable {cfg : Settings} {call : Call} {s s' : State} {s₀ : State} {I : State → Prop} {t : Time}

theorem outcome_effects (hen : (machine cfg).enabled s call)
    (h : call.outcome cfg s = .ok s') : Effects cfg call s s s' := by
  unfold Call.outcome at h
  cases hop : call.op <;> simp only [hop, map_eq_ok, Prod.exists] at h
  case surroundings W =>
    cases h
    exact .single (.aside s.interventions s.posts s.replies s.syncStates W (.inr ⟨W, hop⟩))
  all_goals obtain ⟨_, _, h, rfl⟩ := h
  case enqueue => exact enqueue_effects hop h
  case claimNext => exact claimNext_effects hop h
  case renew => exact renew_effects h
  case checkpoint => exact checkpoint_effects hop h
  case requestCancel => exact requestCancel_effects h
  case acknowledgeCancel => exact acknowledgeCancel_effects hop h
  case complete => exact complete_effects h
  case fail => exact fail_effects h
  case requestIntervention => exact requestIntervention_effects h
  case resolveIntervention => exact resolveIntervention_effects hop h
  case reconcile => exact reconcile_effects h
  case recoverExpired => exact recoverExpired_effects hop h
  case receive => exact receive_effects hop h
  case dispatch => exact dispatch_effects hop h
  case process => exact process_effects hop h
  case processNext => exact processNext_effects h
  -- an API executor presents a claim it was given
  all_goals have hκ := hen _ (by rw [hop]; rfl)
  case persistCheckpoint => exact persistCheckpoint_effects hop hκ h
  case heartbeat => exact heartbeat_effects (by rw [hop]; rfl) hκ h
  case finishSuccess => exact finishSuccess_effects (by rw [hop]; rfl) hκ h
  case finishFailure => exact finishFailure_effects (by rw [hop]; rfl) hκ h

theorem Effects.invariant (heffect : ∀ t t', I t → Effect cfg call s₀ t t' → I t')
    (h : Effects cfg call s₀ s s') (hs : I s) : I s' := by
  induction h with
  | refl => exact hs
  | tail _ he ih => exact heffect _ _ ih he

theorem step_of_effects (heffect : ∀ t t', I t → Effect cfg call s t t' → I t')
    (hen : (machine cfg).enabled s call) (hs : I s) : I ((machine cfg).step s call) := by
  show I (commit (call.outcome cfg s) s)
  cases h : call.outcome cfg s with
  | error e => exact hs
  | ok s' => exact Effects.invariant heffect (outcome_effects hen h) hs

/-- The two services leave accounts, workers and the rest of their
surroundings alone. -/
theorem step_surroundings (hen : (machine cfg).enabled s call)
    (hop : ∀ next, call.op ≠ .surroundings next) :
    ((machine cfg).step s call).surroundings = s.surroundings := by
  refine step_of_effects (I := fun t => t.surroundings = s.surroundings) ?_ hen rfl
  intro t t' ht he
  cases he with
  | aside I P Q S W hW =>
    rcases hW with rfl | ⟨next, hnext⟩
    · exact ht
    · exact absurd hnext (hop next)
  | _ => exact ht

/-- The invariant rule, for runs whose every call meets `allow`. -/
theorem Allowed.of_effects {allow : State → Call → Prop} (hinit : ∀ W, I (.initial W))
    (heffect : ∀ call s t t', allow s call → I t → Effect cfg call s t t' → I t')
    (h : (machine cfg).Reachable allow s) : I s := by
  refine h.invariant ?_ fun s call hs hen hallow =>
    step_of_effects (fun t t' ht => heffect call s t t' hallow ht) hen hs
  rintro s ⟨W, rfl⟩
  exact hinit W

theorem Reachable.of_effects (hinit : ∀ W, I (.initial W))
    (heffect : ∀ call s t t', I t → Effect cfg call s t t' → I t') (h : Reachable cfg s) : I s :=
  Allowed.of_effects hinit (fun call s t t' _ => heffect call s t t') h

/-- The invariant rule, for a property that survives waiting. -/
theorem ReachableAt.of_effects {I : Time → State → Prop} (hinit : ∀ t W, I t (.initial W))
    (hwait : ∀ {t t' s}, t ≤ t' → I t s → I t' s)
    (heffect : ∀ call s u u', I call.now u → Effect cfg call s u u' → I call.now u')
    (h : ReachableAt cfg t s) : I t s := by
  refine Machine.TimedReachable.invariant ?_ ?_ h
  · rintro t s ⟨W, rfl⟩
    exact hinit t W
  · intro t s call hs ht hen
    exact step_of_effects (heffect call s) hen (hwait ht hs)

theorem ContinuesTo.of_effects {I : Time → State → Prop} {t0 : Time} (hstart : I t0 s₀)
    (hwait : ∀ {t t' s}, t ≤ t' → I t s → I t' s)
    (heffect : ∀ call s u u', I call.now u → Effect cfg call s u u' → I call.now u')
    (h : ContinuesTo cfg t0 s₀ t s) : I t s := by
  refine Machine.Continues.invariant hstart ?_ h
  intro t s call hs ht hen
  exact step_of_effects (heffect call s) hen (hwait ht hs)

theorem Later.of_effects (hstart : I s₀)
    (heffect : ∀ call s t t', I t → Effect cfg call s t t' → I t') (h : Later cfg s₀ s) : I s := by
  refine Machine.Continues.invariant (I := fun _ => I) hstart ?_ h
  intro _ s call hs _ hen
  exact step_of_effects (heffect call s) hen hs

theorem ReachableAt.reachable (h : ReachableAt cfg t s) : Reachable cfg s :=
  h.untimed

end ThreadsPlatform
