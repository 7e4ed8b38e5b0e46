/-
How often the sink is called for one delivery.

A worker calls the sink at most once for a claim, and every claim counts
in the row's attempt count. The policy looks at that count only when the
sink was unavailable: a delivery whose worker crashed, or whose sink
raised something else, is claimed again once its lease has expired.

# Where the bound holds

A claim without a call, of a worker that crashed first, costs nothing. So
what matters when such a row is claimed again are the calls made so far
and those that claims under way may still make (`waiting`): as long as
these are below the bound then (`Spares`), the calls stay within it.
-/
import Mathlib.Algebra.Order.BigOperators.Group.Finset
import ThreadsPlatform.Effects.CommandRuntime
import ThreadsPlatform.Proofs.OutboxDelivery

namespace ThreadsPlatform

open Relational Table

namespace DeliveryPhase

/-- The claim is made, and the sink not called yet. -/
def awaits (k : Uuid) : DeliveryPhase → Bool
  | .claimed _ claim => decide (claim.deliveryId = k)
  | _ => false

/-- The delivery is to be tried again. -/
def retries : DeliveryPhase → Bool
  | .settling _ _ (.unavailable _ (some _)) => true
  | _ => false

/-- With the row's token, the claim has the row's count, and a retry was
within the bound. -/
def Knows (n : Int) (k : Uuid) (d : IntegrationDelivery) (phase : DeliveryPhase) : Prop :=
  ∀ c, phase.claim? = some c → c.deliveryId = k → d.leaseToken = some c.leaseToken →
    d.attemptCount = c.attemptCount ∧ (phase.retries = true → d.attemptCount < n)

theorem knows_of_idle {n : Int} {k : Uuid} {d : IntegrationDelivery} {phase : DeliveryPhase}
    (h : phase.claim? = none) : phase.Knows n k d := by
  intro c hc
  rw [h] at hc
  cases hc

end DeliveryPhase

namespace Outbox

variable {cfg : Nat → DeliverySettings} {O O' : Outbox} {i : OutboxStep} {k : Uuid} {w : Nat}
  {n : Int} {calls calls' : Nat} {past : List (Outbox × OutboxStep)} {phase : DeliveryPhase}

/-- A step calls the sink for a delivery: the deadline has not passed, and
the payload is accepted. -/
def callsSink (k : Uuid) (O : Outbox) : OutboxStep → Bool
  | .sink _ .invalidPayload => false
  | .sink w _ =>
    match O.workers w with
    | .claimed _ claim => decide (claim.deliveryId = k)
        && !claim.deliveryDeadlineAt.any fun deadline => decide (deadline ≤ claim.now)
    | _ => false
  | _ => false

/-- Only a worker that awaits the call makes it. -/
theorem callsSink_le (outcome : SinkOutcome) :
    (O.callsSink k (.sink w outcome)).toNat ≤ ((O.workers w).awaits k).toNat := by
  refine Bool.toNat_le_toNat fun h => ?_
  cases hw : O.workers w with
  | claimed batch claim =>
    cases outcome with
    | invalidPayload => cases h
    | _ =>
      simp only [callsSink, hw, Bool.and_eq_true] at h
      exact h.1
  | _ => cases outcome <;> simp only [callsSink, hw] at h <;> cases h

/-- The calls of a run for a delivery. -/
def sinkCalls (k : Uuid) (past : List (Outbox × OutboxStep)) : Nat :=
  (past.map fun p => (p.1.callsSink k p.2).toNat).sum

/-- The step claims the delivery from a worker that abandoned it. -/
def reclaims (cfg : Nat → DeliverySettings) (k : Uuid) (O : Outbox) : OutboxStep → Bool
  | .claim w _ now locked =>
    match O.workers w with
    | .looping batch =>
      (firstBy deliveryBefore (O.claimable (cfg w).destination now batch.attempted locked)).any
        fun d => decide (d.id = k ∧ d.status = .processing)
    | _ => false
  | _ => false

/-- The attempts the row of a delivery counts. -/
def attempts (k : Uuid) (O : Outbox) : Int := (O.deliveries.get? k).elim 0 (·.attemptCount)

/-- The workers, among some, that are about to call. -/
def waiting (k : Uuid) (f : Nat → DeliveryPhase) (W : Finset Nat) : Nat :=
  ∑ v ∈ W, ((f v).awaits k).toNat

/-- Whenever the delivery was claimed from a worker that abandoned it, the
calls before, with those of the workers about to call, were below the
bound. -/
def Spares (cfg : Nat → DeliverySettings) (n : Int) (k : Uuid) : List (Outbox × OutboxStep) → Prop
  | [] => True
  | p :: past => (p.1.reclaims cfg k p.2 = true →
      ∀ W, ((sinkCalls k past + waiting k p.1.workers W : Nat) : Int) < n) ∧ Spares cfg n k past

/-- One worker changes. -/
theorem waiting_update (k : Uuid) (phase : DeliveryPhase) (f : Nat → DeliveryPhase)
    (W : Finset Nat) :
    waiting k (Function.update f w phase) W + ((f w).awaits k).toNat
      ≤ waiting k f (insert w W) + (phase.awaits k).toNat := by
  have hle : waiting k (Function.update f w phase) W
      ≤ waiting k (Function.update f w phase) (insert w W) :=
    Finset.sum_le_sum_of_subset (Finset.subset_insert w W)
  have hsame : waiting k (Function.update f w phase) (W.erase w) = waiting k f (W.erase w) := by
    refine Finset.sum_congr rfl fun v hv => ?_
    rw [Function.update_of_ne (Finset.ne_of_mem_erase hv)]
  have hsplit (g : Nat → DeliveryPhase) :
      waiting k g (insert w W) = ((g w).awaits k).toNat + waiting k g (W.erase w) := by
    rw [waiting, ← Finset.insert_erase (Finset.mem_insert_self w W),
      Finset.sum_insert (Finset.notMem_erase _ _), Finset.erase_insert_eq_erase]
    rfl
  rw [hsplit, hsame, Function.update_self] at hle
  rw [hsplit]
  omega

/-- A claim is one call more, at most. -/
theorem claims_update (f : Nat → DeliveryPhase) (W : Finset Nat) :
    ((calls + waiting k (Function.update f w phase) W : Nat) : Int)
      ≤ ((calls + waiting k f (insert w W) : Nat) : Int) + 1 := by
  have hchange := waiting_update (w := w) k phase f W
  have hone := Bool.toNat_le (phase.awaits k)
  omega

-- ==== the invariant

/-- Calls, and claims without one yet, are counted by the row and within
the bound; the count is below it while the row waits. -/
structure Within (n : Int) (k : Uuid) (calls : Nat) (O : Outbox) : Prop where
  counted : ∀ W, ((calls + waiting k O.workers W : Nat) : Int) ≤ O.attempts k
  bounded : ∀ W, ((calls + waiting k O.workers W : Nat) : Int) ≤ n
  below : ∀ d, O.deliveries.get? k = some d →
    d.status = .pending ∨ d.status = .failedRetryable → d.attemptCount < n
  known : ∀ v d, O.deliveries.get? k = some d → (O.workers v).Knows n k d

/-- A worker goes on without a claim, and may have called. -/
theorem calls_update (hawaits : phase.awaits k = false)
    (hcalls : calls' ≤ calls + ((O.workers w).awaits k).toNat) (W : Finset Nat) :
    ((calls' + waiting k (Function.update O.workers w phase) W : Nat) : Int)
      ≤ ((calls + waiting k O.workers (insert w W) : Nat) : Int) := by
  have hchange := waiting_update (w := w) k phase O.workers W
  rw [hawaits, Bool.toNat_false] at hchange
  omega

/-- The row is as it was. -/
theorem Within.goes (h : Within n k calls O)
    (hworkers : O'.workers = Function.update O.workers w phase)
    (hawaits : phase.awaits k = false)
    (hcalls : calls' ≤ calls + ((O.workers w).awaits k).toNat)
    (hrow : O'.deliveries.get? k = O.deliveries.get? k)
    (hknows : ∀ d, O.deliveries.get? k = some d → phase.Knows n k d) : Within n k calls' O' := by
  refine ⟨fun W => ?_, fun W => ?_, by rw [hrow]; exact h.below, fun v d hd => ?_⟩
  · rw [hworkers, attempts, hrow]
    exact (calls_update hawaits hcalls W).trans (h.counted (insert w W))
  · rw [hworkers]
    exact (calls_update hawaits hcalls W).trans (h.bounded (insert w W))
  · rw [hrow] at hd
    rw [hworkers, Function.update_apply]
    split
    · exact hknows d hd
    · exact h.known v d hd

/-- A worker stops, or goes on to its next claim. -/
theorem Within.idles (h : Within n k calls O)
    (hworkers : O'.workers = Function.update O.workers w phase)
    (hclaim : phase.claim? = none)
    (hcalls : calls' ≤ calls + ((O.workers w).awaits k).toNat)
    (hdeliveries : O'.deliveries = O.deliveries) : Within n k calls' O' := by
  refine h.goes hworkers ?_ hcalls (by rw [hdeliveries]) fun d _ => DeliveryPhase.knows_of_idle
    hclaim
  cases phase with
  | claimed => cases hclaim
  | idle | looping | settling => rfl

-- ==== steps

theorem Within.enqueued (h : Within n k calls O) (hn : 1 ≤ n) {c : Command}
    {eventId deliveryId : Uuid} {destination : String} {now : Time} {lifetime : Duration}
    (he : O.enqueue c eventId deliveryId destination now lifetime = .ok O') :
    Within n k calls O' := by
  simp only [enqueue, bind_eq_ok, require_eq_ok, pure_eq_ok] at he
  obtain ⟨-, -, -, -, events, -, deliveries, hdeliveries, rfl⟩ := he
  obtain ⟨hnew, hput⟩ := addRow_ok hdeliveries
  have hcount : attempts k { O with events, deliveries } = O.attempts k := by
    simp only [attempts]
    by_cases hk : k = deliveryId
    · rw [hk, show O.deliveries.get? deliveryId = none from hnew,
        show deliveries.get? deliveryId = some _ from hput.get?_self]
      rfl
    · rw [hput.get?_ne hk]
  refine ⟨fun W => hcount ▸ h.counted W, h.bounded, fun d hd hwaits => ?_, fun v d hd => ?_⟩
  · rcases hput.cases hd with ⟨-, rfl⟩ | ⟨-, hold⟩
    · exact Int.lt_of_lt_of_le (show (0 : Int) < 1 by decide) hn
    · exact h.below d hold hwaits
  · rcases hput.cases hd with ⟨-, rfl⟩ | ⟨-, hold⟩
    · intro c _ _ ht
      cases ht
    · exact h.known v d hold

/-- A claim raises the count, and is below the bound before. -/
theorem Within.claimed (h : Within n k calls O) (hO : O.Sound) {settings : DeliverySettings}
    {batch : DeliveryBatch} {token : Uuid} {now : Time} {locked : Uuid → Bool}
    (hfresh : token ∉ O.tokens)
    (hspares : ∀ d, firstBy deliveryBefore
      (O.claimable settings.destination now batch.attempted locked) = some d →
      d.id = k ∧ d.status = .processing →
        ∀ W, ((calls + waiting k O.workers W : Nat) : Int) < n) :
    Within n k calls ({ O with tokens := token :: O.tokens }.claim settings w batch token now
      locked) := by
  unfold claim
  split
  · exact h.idles rfl rfl (Nat.le_add_right _ _) rfl
  case h_2 d hfirst =>
    obtain ⟨hd, hopen, -⟩ := mem_claimable (firstBy_mem deliveryBefore hfirst)
    dsimp only
    split
    · exact h.idles rfl rfl (Nat.le_add_right _ _) rfl
    case h_2 deliveries hupdate =>
      have hput : Put O.deliveries _ deliveries := update_put hupdate
      by_cases hk : k = d.id
      case neg =>
        refine h.goes rfl (decide_eq_false (Ne.symm hk)) (Nat.le_add_right _ _) (hput.get?_ne hk) ?_
        intro r _ c hc hid
        cases hc
        exact absurd hid.symm hk
      case pos =>
        subst hk
        have hself : deliveries.get? d.id = some _ := hput.get?_self
        have hcounted : ∀ W, ((calls + waiting d.id O.workers W : Nat) : Int) ≤ d.attemptCount := by
          have hcounted := h.counted
          rw [attempts, hd] at hcounted
          exact hcounted
        have hbelow : ∀ W, ((calls + waiting d.id O.workers W : Nat) : Int) < n := by
          intro W
          cases hstatus : d.status with
          | processing => exact hspares d hfirst ⟨rfl, hstatus⟩ W
          | pending => exact (hcounted W).trans_lt (h.below d hd (.inl hstatus))
          | failedRetryable => exact (hcounted W).trans_lt (h.below d hd (.inr hstatus))
          | delivered | failedFinal =>
            rw [hstatus] at hopen
            cases hopen
        refine ⟨fun W => ?_, fun W => ?_, fun r hr hwaits => ?_, fun v r hr c hc _ ht => ?_⟩
        · -- one more claim, and one more attempt
          have hself' : attempts d.id { O with deliveries } = d.attemptCount + 1 := by
            rw [attempts, hself]
            rfl
          exact Int.le_trans (Int.le_trans (claims_update O.workers W)
            (Int.add_le_add_right (hcounted (insert w W)) 1)) hself'.ge
        · exact Int.le_trans (claims_update O.workers W) (hbelow (insert w W))
        · obtain rfl := Option.mem_unique hself hr
          rcases hwaits with hwaits | hwaits <;> cases hwaits
        · obtain rfl := Option.mem_unique hself hr
          rcases claim_setWorker hc with ⟨rfl, hnew⟩ | ⟨-, hold⟩
          · cases hnew
            refine ⟨rfl, fun hretries => ?_⟩
            simp only [setWorker, Function.update_self] at hretries
            cases hretries
          · exact absurd (Option.some.inj ht ▸ (hO.claims v c hold).1) hfresh

/-- A verdict leaves the count alone. -/
theorem Within.settled (h : Within n k calls O) {claim : DeliveryClaim}
    {verdict : DeliveryVerdict} {delivered : Bool} {batch next : DeliveryBatch}
    (hw : O.workers w = .settling batch claim verdict)
    (hs : O.settle claim verdict = .ok (O', delivered)) :
    Within n k calls (O'.setWorker w (.looping next)) := by
  unfold settle at hs
  split at hs
  · cases hs
    exact h.idles rfl rfl (Nat.le_add_right _ _) rfl
  case h_2 d hd =>
    split at hs
    · cases hs
      exact h.idles rfl rfl (Nat.le_add_right _ _) rfl
    case isFalse hlive =>
      have hlive := not_not.mp hlive
      simp only [bind_eq_ok] at hs
      obtain ⟨deliveries, hdeliveries, hs⟩ := hs
      obtain ⟨hworkers, rfl⟩ : O'.workers = O.workers ∧ O'.deliveries = deliveries := by
        split at hs
        · cases hs
          exact ⟨rfl, rfl⟩
        · simp only [steps_ok] at hs
          obtain ⟨_, _, _, _, rfl, -⟩ := hs
          exact ⟨rfl, rfl⟩
      have hput := (updateRow_ok hdeliveries).2
      obtain ⟨hid, -, -, htoken⟩ := row_spec verdict claim.now d
      have hcount : (verdict.row claim.now d).attemptCount = d.attemptCount := by
        rcases verdict with _ | ⟨_, _ | _⟩ | _ <;> rfl
      have hkey : (verdict.row claim.now d).id = claim.deliveryId := hid.trans (key_of_get? hd)
      by_cases hk : k = claim.deliveryId
      case neg =>
        refine h.goes (by rw [setWorker, hworkers]) rfl (Nat.le_add_right _ _) ?_
          fun r _ => DeliveryPhase.knows_of_idle rfl
        exact hput.get?_ne fun heq => hk (heq.trans hkey)
      case pos =>
        subst hk
        have hself : O'.deliveries.get? claim.deliveryId = some (verdict.row claim.now d) := by
          rw [← hkey]
          exact hput.get?_self
        -- the token is gone, so nobody knows anything of the row
        have hcalls : ∀ W, ((calls + waiting claim.deliveryId
            (O'.setWorker w (.looping next)).workers W : Nat) : Int)
            ≤ ((calls + waiting claim.deliveryId O.workers (insert w W) : Nat) : Int) := by
          rw [setWorker, hworkers]
          exact calls_update rfl (Nat.le_add_right _ _)
        refine ⟨fun W => ?_, fun W => ?_, fun r hr hwaits => ?_, fun v r hr c _ _ ht => ?_⟩
        · have hcounted := (hcalls W).trans (h.counted (insert w W))
          rw [attempts, hd] at hcounted
          rw [attempts, show (O'.setWorker w (.looping next)).deliveries = O'.deliveries from rfl,
            hself, Option.elim_some, hcount]
          exact hcounted
        · exact (hcalls W).trans (h.bounded (insert w W))
        · obtain rfl := Option.mem_unique hself hr
          rw [hcount]
          have hretries : (O.workers w).retries = true := by
            rw [hw]
            rcases verdict with _ | ⟨_, _ | _⟩ | _
            case unavailable.some => rfl
            all_goals rcases hwaits with hwaits | hwaits <;> cases hwaits
          exact (h.known w d hd claim (by rw [hw]; rfl) rfl hlive).2 hretries
        · obtain rfl := Option.mem_unique hself hr
          rw [htoken] at ht
          cases ht

/-- A retry was within the policy. -/
theorem verdict_retries {settings : DeliverySettings} {claim : DeliveryClaim}
    {outcome : SinkOutcome} {code : String} {at_ : Time}
    (h : verdict? settings claim outcome = some (.unavailable code (some at_))) :
    claim.attemptCount < settings.retryPolicy.maxAttempts := by
  unfold verdict? at h
  split at h
  · cases h
  · dsimp only at h
    split at h
    case h_3 =>
      split at h
      case h_1 hnext =>
        cases h
        exact CommandRuntime.nextAttemptAt_some hnext
      case h_2 => cases h
    all_goals cases h

theorem Within.after (h : Within n k calls O) (hO : O.Sound)
    (hn : ∀ w, (cfg w).retryPolicy.maxAttempts ≤ n) (hen : (outboxDelivery cfg).enabled O i)
    (hspares : O.reclaims cfg k i = true →
      ∀ W, ((calls + waiting k O.workers W : Nat) : Int) < n) :
    Within n k (calls + (O.callsSink k i).toNat) (O.after cfg i) := by
  have hidles {w : Nat} {phase : DeliveryPhase} (hclaim : phase.claim? = none) :
      Within n k calls (O.setWorker w phase) := h.idles rfl hclaim (Nat.le_add_right _ _) rfl
  cases i with
  | enqueue c eventId deliveryId destination now lifetime =>
    simp only [Outbox.after]
    split
    case h_1 he => exact h.enqueued (Int.le_trans (cfg 0).retryPolicy.maxAttempts_pos (hn 0)) he
    · exact h
  | start w limit =>
    simp only [Outbox.after]
    split
    · split
      · exact hidles rfl
      · exact h
    · exact h
  | claim w token now locked =>
    simp only [Outbox.after]
    split
    case h_1 batch hw =>
      split
      · exact hidles rfl
      · refine h.claimed hO (hen w token now locked rfl) fun d hfirst hreclaims => ?_
        simp only [reclaims, hw, hfirst, Option.any_some, decide_eq_true_eq] at hspares
        exact hspares hreclaims
    · exact h
  | sink w outcome =>
    have hcalled := Nat.add_le_add_left (callsSink_le (k := k) (O := O) (w := w) outcome) calls
    simp only [Outbox.after]
    split
    case h_1 batch claim hw =>
      split
      case h_1 verdict hverdict =>
        refine h.goes rfl rfl hcalled rfl fun d hd c hc hid ht => ?_
        cases hc
        have hknown := (h.known w d hd claim (by rw [hw]; rfl) hid ht).1
        refine ⟨hknown, fun hretries => ?_⟩
        rcases verdict with _ | ⟨code, _ | at_⟩ | _
        case unavailable.some =>
          exact hknown ▸ Int.lt_of_lt_of_le (verdict_retries hverdict) (hn w)
        all_goals cases hretries
      · exact h.idles rfl rfl hcalled rfl
    case h_2 hother =>
      have hidle : (O.workers w).awaits k = false := by
        cases hw : O.workers w with
        | claimed batch claim => exact absurd hw (hother batch claim)
        | idle | looping | settling => rfl
      rw [hidle] at hcalled
      rwa [le_antisymm hcalled (Nat.le_add_right _ _)]
  | settle w =>
    simp only [Outbox.after]
    split
    case h_1 batch claim verdict hw =>
      split
      case h_1 hs => exact h.settled hw hs
      · exact hidles rfl
    · exact h
  | crash w => exact hidles rfl

theorem Within.history (hn : ∀ w, (cfg w).retryPolicy.maxAttempts ≤ n)
    (h : (outboxDelivery cfg).History past O) (hspares : Spares cfg n k past) :
    Within n k (sinkCalls k past) O := by
  induction h with
  | init hO =>
    obtain rfl : _ = Outbox.empty := hO
    have hnone (W) : waiting k Outbox.empty.workers W = 0 := Finset.sum_const_zero
    refine ⟨fun W => ?_, fun W => ?_, ?_, ?_⟩
    · rw [hnone]
      exact Int.le_refl 0
    · rw [hnone]
      have hpos : 1 ≤ n := Int.le_trans (cfg 0).retryPolicy.maxAttempts_pos (hn 0)
      exact Int.le_trans (show (0 : Int) ≤ 1 by decide) hpos
    · intro d hd
      cases hd
    · intro v d hd
      cases hd
  | step hpast hen ih =>
    have hwithin := (ih hspares.2).after (Sound.reachable hpast.reachable) hn hen hspares.1
    rw [sinkCalls, List.map_cons, List.sum_cons, Nat.add_comm]
    exact hwithin

end Outbox

open Outbox in
/-- In every run in which an abandoned delivery is claimed again only while
the calls made, and still to be made, are below the bound, with crashes
and unexpected errors anywhere, the sink is called for it within every
policy's attempts. -/
theorem delivery_attempts_bounded (cfg : Nat → DeliverySettings) (n : Int)
    (hn : ∀ w, (cfg w).retryPolicy.maxAttempts ≤ n) (k : Uuid)
    (past : List (Outbox × OutboxStep)) (O : Outbox) (h : (outboxDelivery cfg).History past O)
    (hspares : Spares cfg n k past) : (sinkCalls k past : Int) ≤ n :=
  Int.le_trans (Int.ofNat_le.mpr (Nat.le_add_right _ _)) ((Within.history hn h hspares).bounded ∅)

-- ==== samples

namespace OutboxSample

/-- A policy of one attempt. -/
def onceSettings : DeliverySettings := { settings with retryPolicy := { settings.retryPolicy with
    maxAttempts := 1
    maxAttempts_pos := by decide } }

/-- The sink raises, the lease expires, and the sink raises again. -/
def raisedTwice : List OutboxStep :=
  [.enqueue command 3 4 "crm" 0 86400000000, .start 0 5, .claim 0 10 0 (fun _ => false),
    .sink 0 .raised, .start 0 5, .claim 0 11 120000000 (fun _ => false), .sink 0 .raised]

/-- The worker crashes before the call, and claims the delivery again. -/
def crashedOnce : List OutboxStep :=
  [.enqueue command 3 4 "crm" 0 86400000000, .start 0 5, .claim 0 10 0 (fun _ => false),
    .crash 0, .start 0 5, .claim 0 11 120000000 (fun _ => false), .sink 0 .raised]

end OutboxSample

open OutboxSample Outbox in
/-- A delivery is attempted past `max_attempts`. -/
theorem abandoned_delivery_overruns :
    ∃ past O, (outboxDelivery fun _ => onceSettings).History past O
      ∧ onceSettings.retryPolicy.maxAttempts < sinkCalls 4 past :=
  ⟨_, _, Machine.History.runs (fun _ _ => enabled_of_freshTokens) (.init rfl)
    (by decide : (outboxDelivery fun _ => onceSettings).checks freshTokens raisedTwice
      .empty = true), by decide⟩

open OutboxSample Outbox in
/-- The claim that was abandoned made no call, so one is left. -/
theorem delivery_attempts_bounded_crashed :
    (sinkCalls 4 ((outboxDelivery fun _ => onceSettings).trace crashedOnce [] .empty) : Int)
      ≤ 1 := by
  refine delivery_attempts_bounded (fun _ => onceSettings) 1 (fun _ => Int.le_refl 1) 4 _ _
    (Machine.History.runs (fun _ _ => enabled_of_freshTokens) (.init rfl) (by decide :
      (outboxDelivery fun _ => onceSettings).checks freshTokens crashedOnce .empty = true)) ?_
  -- only the second claim takes an abandoned row
  refine ⟨(absurd · Bool.false_ne_true), fun _ W => ?_, (absurd · Bool.false_ne_true),
    (absurd · Bool.false_ne_true), (absurd · (by decide)), (absurd · Bool.false_ne_true),
    (absurd · Bool.false_ne_true), trivial⟩
  refine Int.ofNat_lt.mpr (Nat.lt_one_iff.mpr (Nat.add_eq_zero_iff.mpr ⟨by decide, ?_⟩))
  refine Finset.sum_eq_zero fun v _ => ?_
  cases v with
  | zero => rfl
  | succ v => rfl

end ThreadsPlatform
