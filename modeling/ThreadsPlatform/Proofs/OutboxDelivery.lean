/-
Outbox delivery settles once.

A row has a lease token exactly while it is PROCESSING, and no token is
drawn twice. So a worker that finds its own token finds the row as it
left it, and a row that is DELIVERED or FAILED_FINAL has no token any
worker could find. The event's status is written in the transaction that
writes the delivery's, under the delivery's row lock, and every delivery
has an event of its own: the two agree in every state.
-/
import ThreadsPlatform.Application.OutboxDelivery
import ThreadsPlatform.Effects.Helpers

namespace ThreadsPlatform

open Relational Table

variable {c : DeliveryClaim} {phase : DeliveryPhase} {i : OutboxStep} {destination : String}
  {now : Time} {k' : Uuid} {locked : Uuid → Bool}

-- ==== status

/-- The status of the event of a delivery. -/
def DeliveryStatus.event : DeliveryStatus → OutboxStatus
  | .delivered => .delivered
  | .failedFinal => .failedFinal
  | _ => .pending

/-- Never attempted again. -/
def DeliveryStatus.settled : DeliveryStatus → Bool
  | .delivered | .failedFinal => true
  | _ => false

/-- The worker that takes a step. -/
def OutboxStep.worker? : OutboxStep → Option Nat
  | .enqueue _ _ _ _ _ _ => none
  | .start w _ | .claim w _ _ _ | .sink w _ | .settle w | .crash w => some w

/-- At most `limit` deliveries are attempted, each once. -/
structure DeliveryBatch.Bounded (b : DeliveryBatch) : Prop where
  nodup : b.attempted.Nodup
  rounds : b.attempted.length + b.rounds ≤ b.limit

namespace Outbox

-- ==== a step

/-- All that a step can do. -/
inductive Moves (O : Outbox) : Outbox → Prop
  | stay : Moves O O
  /-- A worker goes on, without a new claim. -/
  | goes {w : Nat} {phase : DeliveryPhase}
      (hclaim : ∀ c, phase.claim? = some c → (O.workers w).claim? = some c)
      (hbatch : ∀ b, phase.batch? = some b → b.Bounded) : Moves O (O.setWorker w phase)
  | enqueued {e : OutboxEvent} {d : IntegrationDelivery} {events : Table outboxEvents}
      {deliveries : Table integrationDeliveries} (hevent : O.events.get? e.id = none)
      (hdelivery : O.deliveries.get? d.id = none) (hid : d.eventId = e.id)
      (hpending : e.status = .pending) (hstatus : d.status = .pending)
      (htoken : d.leaseToken = none) (hevents : Put O.events e events)
      (hdeliveries : Put O.deliveries d deliveries) : Moves O { O with events, deliveries }
  /-- A token is drawn, and there is nothing to claim. -/
  | drew {w : Nat} {token : Uuid} :
      Moves O ({ O with tokens := token :: O.tokens }.setWorker w .idle)
  | claimed {w : Nat} {token : Uuid} {d row : IntegrationDelivery} {phase : DeliveryPhase}
      {claim : DeliveryClaim} {deliveries : Table integrationDeliveries}
      (hd : O.deliveries.get? d.id = some d) (hopen : d.status.settled = false)
      (hid : row.id = d.id) (hevent : row.eventId = d.eventId) (hstatus : row.status = .processing)
      (htoken : row.leaseToken = some token) (hput : Put O.deliveries row deliveries)
      (hfresh : token ∉ O.tokens) (hphase : phase.claim? = some claim)
      (hclaim : claim.deliveryId = d.id ∧ claim.eventId = d.eventId ∧ claim.leaseToken = token)
      (hbatch : ∀ b, phase.batch? = some b → b.Bounded) :
      Moves O ({ O with tokens := token :: O.tokens, deliveries }.setWorker w phase)
  | settled {w : Nat} {claim : DeliveryClaim} {d row : IntegrationDelivery}
      {phase : DeliveryPhase} {deliveries : Table integrationDeliveries}
      {events : Table outboxEvents} (hclaim : (O.workers w).claim? = some claim)
      (hd : O.deliveries.get? claim.deliveryId = some d)
      (hlive : d.leaseToken = some claim.leaseToken) (hid : row.id = d.id)
      (hevent : row.eventId = d.eventId) (hstatus : row.status ≠ .processing)
      (htoken : row.leaseToken = none) (hput : Put O.deliveries row deliveries)
      (hevents : (row.status.event = .pending ∧ events = O.events)
        ∨ ∃ e e', O.events.get? claim.eventId = some e ∧ e'.id = e.id
          ∧ e'.status = row.status.event ∧ Put O.events e' events)
      (hphase : phase.claim? = none) (hbatch : ∀ b, phase.batch? = some b → b.Bounded) :
      Moves O ({ O with events, deliveries }.setWorker w phase)

variable {cfg : Nat → DeliverySettings} {O O' : Outbox} {w : Nat}

/-- Every worker keeps to its limit. -/
def Batched (O : Outbox) : Prop :=
  ∀ w b, (O.workers w).batch? = some b → b.Bounded

theorem enqueue_moves {c : Command} {eventId deliveryId : Uuid} {lifetime : Duration}
    (h : O.enqueue c eventId deliveryId destination now lifetime = .ok O') : Moves O O' := by
  simp only [enqueue, bind_eq_ok, require_eq_ok, pure_eq_ok] at h
  obtain ⟨-, -, -, -, events, hevents, deliveries, hdeliveries, rfl⟩ := h
  obtain ⟨hevent, hput⟩ := addRow_ok hevents
  obtain ⟨hdelivery, hput'⟩ := addRow_ok hdeliveries
  exact .enqueued hevent hdelivery rfl rfl rfl rfl hput hput'

/-- A claimed row was open, and not attempted before in this batch. -/
theorem mem_claimable {exclude : List Uuid} {d : IntegrationDelivery}
    (h : d ∈ O.claimable destination now exclude locked) :
    O.deliveries.get? d.id = some d ∧ d.status.settled = false ∧ d.id ∉ exclude := by
  simp only [claimable, List.mem_filter, checks_hold, Bool.not_eq_true'] at h
  obtain ⟨hmem, ⟨⟨-, hdue⟩, hexclude⟩, -⟩ := h
  refine ⟨get?_eq_some_iff.mpr ⟨hmem, rfl⟩, ?_, hexclude⟩
  cases hstatus : d.status <;> simp [IntegrationDelivery.dueOrAbandoned, hstatus] at hdue <;> rfl

/-- A claim takes an open row under a fresh token. -/
theorem claim_moves {settings : DeliverySettings} {batch : DeliveryBatch} {token : Uuid}
    (hbatch : batch.Bounded) (hrounds : batch.rounds ≠ 0) (hfresh : token ∉ O.tokens) :
    Moves O ({ O with tokens := token :: O.tokens }.claim settings w batch token now locked) := by
  unfold claim
  split
  · exact .drew
  rename_i d hfirst
  obtain ⟨hd, hopen, hexclude⟩ := mem_claimable (firstBy_mem deliveryBefore hfirst)
  dsimp only
  split
  · exact .drew
  rename_i deliveries hupdate
  refine .claimed hd hopen ?_ ?_ ?_ ?_ (update_put hupdate) hfresh rfl ⟨rfl, rfl, rfl⟩ ?_
  iterate 4 rfl
  rintro b hb
  cases hb
  have hbound := hbatch.rounds
  refine ⟨List.nodup_cons.mpr ⟨hexclude, hbatch.nodup⟩, ?_⟩
  simp only [List.length_cons]
  omega

/-- The three verdicts release the row, and say the same of both rows. -/
theorem row_spec (verdict : DeliveryVerdict) (now : Time) (d : IntegrationDelivery) :
    (verdict.row now d).id = d.id ∧ (verdict.row now d).eventId = d.eventId
      ∧ (verdict.row now d).status ≠ .processing ∧ (verdict.row now d).leaseToken = none := by
  rcases verdict with _ | ⟨_, _ | _⟩ | _ <;> simp [DeliveryVerdict.row]

/-- A verdict is written only while the token is still the row's. -/
theorem settle_moves {claim : DeliveryClaim} {verdict : DeliveryVerdict} {delivered : Bool}
    (hclaim : (O.workers w).claim? = some claim) (hphase : phase.claim? = none)
    (hbatch : ∀ b, phase.batch? = some b → b.Bounded)
    (h : O.settle claim verdict = .ok (O', delivered)) : Moves O (O'.setWorker w phase) := by
  have hgoes : Moves O (O.setWorker w phase) :=
    .goes (fun c hc => by rw [hphase] at hc; cases hc) hbatch
  unfold settle at h
  split at h
  · cases h
    exact hgoes
  rename_i d hd
  split at h
  · cases h
    exact hgoes
  rename_i hlive
  obtain ⟨hid, hevent, hstatus, htoken⟩ := row_spec verdict claim.now d
  simp only [bind_eq_ok] at h
  obtain ⟨deliveries, hdeliveries, h⟩ := h
  have hput := (updateRow_ok hdeliveries).2
  split at h
  · cases h
    exact .settled hclaim hd (Decidable.not_not.mp hlive) hid hevent hstatus htoken hput
      (.inl ⟨rfl, rfl⟩) hphase hbatch
  · rename_i hnot
    simp only [steps_ok] at h
    obtain ⟨e, he, events, hevents, rfl, -⟩ := h
    refine .settled hclaim hd (Decidable.not_not.mp hlive) hid hevent hstatus htoken hput
      (.inr ⟨e, _, he, ?_, ?_, (updateRow_ok hevents).2⟩) hphase hbatch
    · rcases verdict with _ | ⟨_, _ | _⟩ | _ <;> rfl
    · rcases verdict with _ | ⟨_, _ | _⟩ | _
      · rfl
      · rfl
      · exact absurd rfl (hnot _ _)
      · rfl

theorem after_moves (hbatched : O.Batched) (hen : (outboxDelivery cfg).enabled O i) :
    Moves O (O.after cfg i) := by
  have hidle {w : Nat} : Moves O (O.setWorker w .idle) :=
    .goes (fun _ h => by cases h) fun _ h => by cases h
  cases i with
  | enqueue c eventId deliveryId destination now lifetime =>
    simp only [after]
    split
    · rename_i h
      exact enqueue_moves h
    · exact .stay
  | start w limit =>
    simp only [after]
    split
    · split
      · refine .goes (fun _ h => by cases h) fun b hb => ?_
        cases hb
        exact ⟨List.nodup_nil, by simp⟩
      · exact .stay
    · exact .stay
  | claim w token now locked =>
    simp only [after]
    split
    · rename_i batch hw
      split
      · exact hidle
      · rename_i hrounds
        exact claim_moves (hbatched w batch (by rw [hw]; rfl)) hrounds (hen w token now locked rfl)
    · exact .stay
  | sink w outcome =>
    simp only [after]
    split
    · rename_i batch claim hw
      split
      · refine .goes (fun c hc => ?_) fun b hb => ?_
        · rw [hw]
          exact hc
        · refine hbatched w b ?_
          rw [hw]
          exact hb
      · exact hidle
    · exact .stay
  | settle w =>
    simp only [after]
    split
    · rename_i batch claim verdict hw
      split
      · rename_i h
        refine settle_moves (by rw [hw]; rfl) rfl (fun b hb => ?_) h
        cases hb
        have hbound := hbatched w batch (by rw [hw]; rfl)
        exact ⟨hbound.nodup, hbound.rounds⟩
      · exact hidle
    · exact .stay
  | crash w => exact hidle

-- ==== the invariant

/-- The two tables agree, and tokens are what they say. -/
structure Sound (O : Outbox) : Prop where
  batched : O.Batched
  paired : ∀ k d, O.deliveries.get? k = some d →
    ∃ e, O.events.get? d.eventId = some e ∧ e.status = d.status.event
  single : ∀ k k' d d', O.deliveries.get? k = some d → O.deliveries.get? k' = some d' →
    d.eventId = d'.eventId → k = k'
  leased : ∀ k d t, O.deliveries.get? k = some d → d.leaseToken = some t →
    d.status = .processing ∧ t ∈ O.tokens
  claims : ∀ w c, (O.workers w).claim? = some c → c.leaseToken ∈ O.tokens
    ∧ ∃ d, O.deliveries.get? c.deliveryId = some d ∧ d.eventId = c.eventId
  unique : ∀ w w' c c', (O.workers w).claim? = some c → (O.workers w').claim? = some c' →
    c.leaseToken = c'.leaseToken → w = w'

theorem claim_setWorker {v : Nat} (h : ((O.setWorker w phase).workers v).claim? = some c) :
    (v = w ∧ phase.claim? = some c) ∨ (v ≠ w ∧ (O.workers v).claim? = some c) := by
  simp only [setWorker, Function.update_apply] at h
  split at h
  · rename_i hv
    exact .inl ⟨hv, h⟩
  · rename_i hv
    exact .inr ⟨hv, h⟩

theorem Batched.setWorker (h : O.Batched) (hphase : ∀ b, phase.batch? = some b → b.Bounded) :
    (O.setWorker w phase).Batched := by
  intro v b hb
  simp only [Outbox.setWorker, Function.update_apply] at hb
  split at hb
  · exact hphase b hb
  · exact h v b hb

theorem Sound.workers (h : O.Sound) (hbatched : O'.Batched)
    (hevents : O'.events = O.events) (hdeliveries : O'.deliveries = O.deliveries)
    (htokens : ∀ t ∈ O.tokens, t ∈ O'.tokens)
    (hclaims : ∀ v c, (O'.workers v).claim? = some c → (O.workers v).claim? = some c) :
    O'.Sound where
  batched := hbatched
  paired := by rw [hevents, hdeliveries]; exact h.paired
  single := by rw [hdeliveries]; exact h.single
  leased k d t hd ht := by
    rw [hdeliveries] at hd
    exact ⟨(h.leased k d t hd ht).1, htokens t (h.leased k d t hd ht).2⟩
  claims v c hc := by
    rw [hdeliveries]
    exact ⟨htokens _ (h.claims v c (hclaims v c hc)).1, (h.claims v c (hclaims v c hc)).2⟩
  unique v v' c c' hc hc' := h.unique v v' c c' (hclaims v c hc) (hclaims v' c' hc')

theorem Sound.enqueued (h : O.Sound) {e : OutboxEvent} {d : IntegrationDelivery}
    {events : Table outboxEvents} {deliveries : Table integrationDeliveries}
    (hevent : O.events.get? e.id = none) (hdelivery : O.deliveries.get? d.id = none)
    (hid : d.eventId = e.id) (hpending : e.status = .pending) (hstatus : d.status = .pending)
    (htoken : d.leaseToken = none) (hevents : Put O.events e events)
    (hdeliveries : Put O.deliveries d deliveries) :
    ({ O with events, deliveries } : Outbox).Sound := by
  -- an old delivery has an old event, so never the new one
  have hother {k : Uuid} {r : IntegrationDelivery} (hr : O.deliveries.get? k = some r) :
      r.eventId ≠ e.id := by
    obtain ⟨e0, he0, -⟩ := h.paired k r hr
    intro heq
    rw [heq, hevent] at he0
    cases he0
  refine ⟨h.batched, fun k r hr => ?_, fun k k' r r' hr hr' heq => ?_, fun k r t hr ht => ?_,
    fun v c hc => ?_, h.unique⟩
  · rcases hdeliveries.cases hr with ⟨rfl, rfl⟩ | ⟨-, hold⟩
    · refine ⟨e, ?_, by rw [hpending, hstatus]; rfl⟩
      rw [hid]
      exact hevents.get?_self
    · obtain ⟨e0, he0, hsame⟩ := h.paired k r hold
      exact ⟨e0, hevents.get?_of_fresh hevent he0, hsame⟩
  · rcases hdeliveries.cases hr with ⟨rfl, rfl⟩ | ⟨-, hold⟩
    · rcases hdeliveries.cases hr' with ⟨rfl, rfl⟩ | ⟨-, hold'⟩
      · rfl
      · exact absurd (heq.symm.trans hid) (hother hold')
    · rcases hdeliveries.cases hr' with ⟨rfl, rfl⟩ | ⟨-, hold'⟩
      · exact absurd (heq.trans hid) (hother hold)
      · exact h.single k k' r r' hold hold' heq
  · rcases hdeliveries.cases hr with ⟨rfl, rfl⟩ | ⟨-, hold⟩
    · rw [htoken] at ht
      cases ht
    · exact h.leased k r t hold ht
  · obtain ⟨htok, r, hr, hrest⟩ := h.claims v c hc
    exact ⟨htok, r, hdeliveries.get?_of_fresh hdelivery hr, hrest⟩

section Rewritten

variable {k : Uuid} {d row r : IntegrationDelivery} {deliveries : Table integrationDeliveries}
  (hd : O.deliveries.get? k = some d) (hid : row.id = d.id) (hevent : row.eventId = d.eventId)
  (hput : Put O.deliveries row deliveries)

include hd hid hput

/-- A rewritten row keeps its key and its event, and so does every other. -/
theorem rewritten_back (hr : deliveries.get? k' = some r) :
    (k' = k ∧ r = row) ∨ (k' ≠ k ∧ O.deliveries.get? k' = some r) := by
  have hkey : integrationDeliveries.key row = k := hid.trans (key_of_get? hd)
  rcases hput.cases hr with ⟨rfl, rfl⟩ | ⟨hne, hold⟩
  · exact .inl ⟨hkey, rfl⟩
  · exact .inr ⟨hkey ▸ hne, hold⟩

include hevent

theorem rewritten_single (h : O.Sound) : ∀ k1 k2 d1 d2, deliveries.get? k1 = some d1 →
    deliveries.get? k2 = some d2 → d1.eventId = d2.eventId → k1 = k2 := by
  have hback {k' : Uuid} {r : IntegrationDelivery} (hr : deliveries.get? k' = some r) :
      ∃ r0, O.deliveries.get? k' = some r0 ∧ r0.eventId = r.eventId := by
    rcases rewritten_back hd hid hput hr with ⟨rfl, rfl⟩ | ⟨-, hold⟩
    · exact ⟨d, hd, hevent.symm⟩
    · exact ⟨r, hold, rfl⟩
  intro k1 k2 d1 d2 h1 h2 heq
  obtain ⟨r1, hr1, he1⟩ := hback h1
  obtain ⟨r2, hr2, he2⟩ := hback h2
  exact h.single k1 k2 r1 r2 hr1 hr2 (he1.trans (heq.trans he2.symm))

theorem rewritten_forward {r0 : IntegrationDelivery} (hr : O.deliveries.get? k' = some r0) :
    ∃ r, deliveries.get? k' = some r ∧ r.eventId = r0.eventId := by
  have hkey : integrationDeliveries.key row = k := hid.trans (key_of_get? hd)
  by_cases hk : k' = k
  · subst hk
    obtain rfl := Option.mem_unique hd hr
    exact ⟨row, hkey ▸ hput.get?_self, hevent⟩
  · exact ⟨r0, (hput.get?_ne (by rw [hkey]; exact hk)).trans hr, rfl⟩

end Rewritten

/-- Every move keeps the tables in agreement. -/
theorem Sound.moves (h : O.Sound) (hmoves : Moves O O') : O'.Sound := by
  cases hmoves with
  | stay => exact h
  | goes hclaim hbatch =>
    refine h.workers (h.batched.setWorker hbatch) rfl rfl (fun _ ht => ht) fun v c hc => ?_
    rcases claim_setWorker hc with ⟨rfl, hphase⟩ | ⟨-, hold⟩
    · exact hclaim c hphase
    · exact hold
  | drew =>
    refine h.workers (Batched.setWorker h.batched fun _ hb => by cases hb) rfl rfl
      (fun _ ht => .tail _ ht) fun v c hc => ?_
    rcases claim_setWorker hc with ⟨-, hphase⟩ | ⟨-, hold⟩
    · cases hphase
    · exact hold
  | enqueued hevent hdelivery hid hpending hstatus htoken hevents hdeliveries =>
    exact h.enqueued hevent hdelivery hid hpending hstatus htoken hevents hdeliveries
  | @claimed w token d row phase claim deliveries hd hopen hid hevent hstatus htoken hput hfresh
      hphase hclaim hbatch =>
    refine ⟨Batched.setWorker h.batched hbatch, fun k r hr => ?_,
      rewritten_single hd hid hevent hput h, fun k r t hr ht => ?_, fun v c hc => ?_,
      fun v v' c c' hc hc' heq => ?_⟩
    · rcases rewritten_back hd hid hput hr with ⟨rfl, rfl⟩ | ⟨-, hold⟩
      · obtain ⟨e, he, hsame⟩ := h.paired _ d hd
        refine ⟨e, hevent ▸ he, ?_⟩
        rw [hsame, hstatus]
        cases hd' : d.status <;> rw [hd'] at hopen <;> first | rfl | cases hopen
      · exact h.paired k r hold
    · rcases rewritten_back hd hid hput hr with ⟨rfl, rfl⟩ | ⟨-, hold⟩
      · obtain rfl := Option.mem_unique htoken ht
        exact ⟨hstatus, .head _⟩
      · exact ⟨(h.leased k r t hold ht).1, .tail _ (h.leased k r t hold ht).2⟩
    · rcases claim_setWorker hc with ⟨rfl, hown⟩ | ⟨-, hold⟩
      · obtain rfl := Option.mem_unique hphase hown
        obtain ⟨r, hr, hsame⟩ := rewritten_forward hd hid hevent hput hd
        refine ⟨hclaim.2.2 ▸ .head _, r, hclaim.1 ▸ hr, hsame.trans hclaim.2.1.symm⟩
      · obtain ⟨htok, r0, hr0, hrest⟩ := h.claims v c hold
        obtain ⟨r, hr, hsame⟩ := rewritten_forward hd hid hevent hput hr0
        exact ⟨.tail _ htok, r, hr, hsame.trans hrest⟩
    · -- a claim held before has an older token than the one drawn
      have hdrawn {v : Nat} {c : DeliveryClaim} (hc : (O.workers v).claim? = some c) :
          c.leaseToken ≠ claim.leaseToken := fun heq =>
        hfresh (hclaim.2.2 ▸ heq ▸ (h.claims v c hc).1)
      rcases claim_setWorker hc with ⟨rfl, hown⟩ | ⟨-, hold⟩ <;>
        rcases claim_setWorker hc' with ⟨rfl, hown'⟩ | ⟨-, hold'⟩
      · rfl
      · obtain rfl := Option.mem_unique hphase hown
        exact absurd heq.symm (hdrawn hold')
      · obtain rfl := Option.mem_unique hphase hown'
        exact absurd heq (hdrawn hold)
      · exact h.unique v v' c c' hold hold' heq
  | @settled w claim d row phase deliveries events hclaim hd hlive hid hevent hstatus htoken hput
      hevents hphase hbatch =>
    have hold {v : Nat} {c : DeliveryClaim}
        (hc : (({ O with events, deliveries } : Outbox).setWorker w phase |>.workers v).claim?
          = some c) : (O.workers v).claim? = some c := by
      rcases claim_setWorker hc with ⟨-, hown⟩ | ⟨-, hold⟩
      · rw [hphase] at hown
        cases hown
      · exact hold
    have hsame : d.eventId = claim.eventId := by
      obtain ⟨-, r, hr, hrest⟩ := h.claims w claim hclaim
      obtain rfl := Option.mem_unique hd hr
      exact hrest
    refine ⟨Batched.setWorker h.batched hbatch, fun k r hr => ?_,
      rewritten_single hd hid hevent hput h, fun k r t hr ht => ?_, fun v c hc => ?_,
      fun v v' c c' hc hc' => h.unique v v' c c' (hold hc) (hold hc')⟩
    · rcases rewritten_back hd hid hput hr with ⟨rfl, rfl⟩ | ⟨hne, hkept⟩
      · obtain ⟨e, he, hstatus'⟩ := h.paired _ d hd
        rcases hevents with ⟨hpending, rfl⟩ | ⟨e0, e', he0, hide, hstatuse, hpute⟩
        · refine ⟨e, hevent ▸ he, ?_⟩
          rw [hstatus', (h.leased _ d _ hd hlive).1, hpending]
          rfl
        · refine ⟨e', ?_, hstatuse⟩
          have hkey : outboxEvents.key e' = r.eventId :=
            hide.trans ((key_of_get? he0).trans (hsame.symm.trans hevent.symm))
          exact hkey ▸ hpute.get?_self
      · obtain ⟨e, he, hstatus'⟩ := h.paired k r hkept
        rcases hevents with ⟨-, rfl⟩ | ⟨e0, e', he0, hide, -, hpute⟩
        · exact ⟨e, he, hstatus'⟩
        · refine ⟨e, (hpute.get?_ne ?_).trans he, hstatus'⟩
          intro heq
          have hkey : outboxEvents.key e' = d.eventId :=
            hide.trans ((key_of_get? he0).trans hsame.symm)
          exact hne (h.single k claim.deliveryId r d hkept hd (heq.trans hkey))
    · rcases rewritten_back hd hid hput hr with ⟨rfl, rfl⟩ | ⟨-, hkept⟩
      · rw [htoken] at ht
        cases ht
      · exact h.leased k r t hkept ht
    · obtain ⟨htok, r0, hr0, hrest⟩ := h.claims v c (hold hc)
      obtain ⟨r, hr, hsame'⟩ := rewritten_forward hd hid hevent hput hr0
      exact ⟨htok, r, hr, hsame'.trans hrest⟩

theorem Sound.reachable (h : (outboxDelivery cfg).Reachable (fun _ _ => True) O) : O.Sound := by
  refine h.invariant ?_ fun O i hO hen _ => hO.moves (after_moves hO.batched hen)
  rintro O rfl
  exact ⟨fun _ _ h => (by cases h), fun _ _ h => (by cases h), fun _ _ _ _ h => (by cases h),
    fun _ _ _ h => (by cases h), fun _ _ h => (by cases h), fun _ _ _ _ h => (by cases h)⟩

/-- A row that is DELIVERED or FAILED_FINAL stays as it is. -/
theorem Sound.settled_kept (h : O.Sound) (hmoves : Moves O O') {k : Uuid}
    {d : IntegrationDelivery} (hd : O.deliveries.get? k = some d)
    (hsettled : d.status.settled = true) : O'.deliveries.get? k = some d := by
  cases hmoves with
  | stay | goes | drew => exact hd
  | enqueued _ hdelivery _ _ _ _ _ hdeliveries => exact hdeliveries.get?_of_fresh hdelivery hd
  | @claimed _ _ d' row _ _ _ hd' hopen hid _ _ _ hput =>
    refine (hput.get?_ne fun heq => ?_).trans hd
    have hkey : k = d'.id := heq.trans hid
    obtain rfl := Option.some.inj (hd.symm.trans (hkey ▸ hd'))
    rw [hopen] at hsettled
    cases hsettled
  | @settled _ claim d' row _ _ _ _ hd' hlive hid _ _ _ hput =>
    refine (hput.get?_ne fun heq => ?_).trans hd
    have hkey : k = claim.deliveryId := heq.trans (hid.trans (key_of_get? hd'))
    obtain rfl := Option.some.inj (hd.symm.trans (hkey ▸ hd'))
    rw [(h.leased _ d _ hd' hlive).1] at hsettled
    cases hsettled

theorem replaced_writes_nothing (hclaim : (O.workers w).claim? = some c)
    (hreplaced : ∀ d, O.deliveries.get? c.deliveryId = some d → d.leaseToken ≠ some c.leaseToken)
    (hi : i.worker? = some w) :
    (O.after cfg i).deliveries = O.deliveries ∧ (O.after cfg i).events = O.events := by
  cases i with
  | enqueue => cases hi
  | start | sink =>
    cases hi
    simp only [after]
    split
    · split <;> exact ⟨rfl, rfl⟩
    · exact ⟨rfl, rfl⟩
  | claim v token now locked =>
    cases hi
    simp only [after]
    split
    · rename_i hw
      rw [hw] at hclaim
      cases hclaim
    · exact ⟨rfl, rfl⟩
  | settle v =>
    cases hi
    simp only [after]
    split
    · rename_i batch claim verdict hw
      rw [hw] at hclaim
      obtain rfl := Option.some.inj hclaim
      have hnothing : O.settle claim verdict = .ok (O, false) := by
        unfold settle
        split
        · rfl
        · rename_i d hd
          exact if_pos (hreplaced d hd)
      rw [hnothing]
      exact ⟨rfl, rfl⟩
    · exact ⟨rfl, rfl⟩
  | crash v => exact ⟨rfl, rfl⟩

end Outbox

open Outbox in
/-- In every interleaving, with crashes and lease expiry anywhere: at most
one worker holds a delivery's live token; DELIVERED and FAILED_FINAL are
never left; the event is DELIVERED, FAILED_FINAL or PENDING exactly when
its delivery is DELIVERED, FAILED_FINAL or neither; a worker whose token
was replaced writes nothing; and a call attempts at most `limit`
deliveries, each at most once. -/
theorem outbox_settles_once (cfg : Nat → DeliverySettings) (O : Outbox)
    (h : (outboxDelivery cfg).Reachable (fun _ _ => True) O) :
    (∀ w w' c c' d, (O.workers w).claim? = some c → (O.workers w').claim? = some c' →
        O.deliveries.get? c.deliveryId = some d → O.deliveries.get? c'.deliveryId = some d →
        d.leaseToken = some c.leaseToken → d.leaseToken = some c'.leaseToken → w = w')
      ∧ (∀ i, (outboxDelivery cfg).enabled O i → ∀ k d, O.deliveries.get? k = some d →
        d.status = .delivered ∨ d.status = .failedFinal →
        (O.after cfg i).deliveries.get? k = some d)
      ∧ (∀ k d, O.deliveries.get? k = some d → ∃ e, O.events.get? d.eventId = some e
        ∧ (e.status = .delivered ↔ d.status = .delivered)
        ∧ (e.status = .failedFinal ↔ d.status = .failedFinal)
        ∧ (e.status = .pending ↔ d.status ≠ .delivered ∧ d.status ≠ .failedFinal))
      ∧ (∀ w c d, (O.workers w).claim? = some c → O.deliveries.get? c.deliveryId = some d →
        d.leaseToken ≠ some c.leaseToken → ∀ i, i.worker? = some w →
        (O.after cfg i).deliveries = O.deliveries ∧ (O.after cfg i).events = O.events)
      ∧ ∀ w b, (O.workers w).batch? = some b →
        b.attempted.Nodup ∧ b.attempted.length ≤ b.limit := by
  have hO := Sound.reachable h
  refine ⟨fun w w' c c' d hc hc' _ _ ht ht' => ?_, fun i hen k d hd hstatus => ?_,
    fun k d hd => ?_, fun w c d hc hd hne i hi => ?_, fun w b hb => ?_⟩
  · exact hO.unique w w' c c' hc hc' (Option.mem_unique ht ht')
  · refine hO.settled_kept (after_moves hO.batched hen) hd ?_
    rcases hstatus with hstatus | hstatus <;> rw [hstatus] <;> rfl
  · obtain ⟨e, he, hsame⟩ := hO.paired k d hd
    refine ⟨e, he, ?_⟩
    rw [hsame]
    cases d.status <;> decide
  · refine replaced_writes_nothing hc (fun d' hd' => ?_) hi
    obtain rfl := Option.mem_unique hd hd'
    exact hne
  · have hbound := hO.batched w b hb
    exact ⟨hbound.nodup, Nat.le_trans (Nat.le_add_right _ _) hbound.rounds⟩

-- ==== sample

namespace OutboxSample

/-- The defaults of the constructor. -/
def settings : DeliverySettings where
  retryPolicy := {
    maxAttempts := 10
    baseDelay := 2000000
    maxDelay := 600000000
    jitterRatio := 1 / 5
    maxAttempts_pos := by decide
    baseDelay_pos := by decide
    baseDelay_le := by decide
    jitterRatio_nonneg := by decide +kernel
    jitterRatio_le_one := by decide +kernel }
  leaseDuration := 120000000
  destination := "crm"
  leaseDuration_pos := by decide

/-- A Command that was rejected. -/
def command : Command where
  id := 1
  commandId := "command-1"
  correlationId := "correlation-1"
  accountId := 2
  commandType := "threads.publish_text"
  payload := []
  protocolVersion := 1
  priority := 0
  status := .rejected
  createdAt := 0
  receivedAt := 0
  deadlineAt := none
  nextRetryAt := none
  validatedAt := none
  startedAt := none
  completedAt := some 0
  result := none
  errorCode := some "COMMAND_DEADLINE_EXCEEDED"
  executionLeaseToken := none
  executionLeaseExpiresAt := none
  checkpoint := none

/-- A worker is slow, its lease expires, another delivers, and the slow one
comes back. -/
def reclaimed : List OutboxStep :=
  [.enqueue command 3 4 "crm" 0 86400000000, .start 0 5, .claim 0 10 0 (fun _ => false),
    .start 1 5, .claim 1 11 120000000 (fun _ => false), .sink 1 (.delivered "remote-1"),
    .settle 1, .sink 0 (.unavailable "CRM_UNAVAILABLE" none fun low _ => low), .settle 0]

/-- A check that every token is fresh. -/
def freshTokens (O : Outbox) : OutboxStep → Bool
  | .claim _ token _ _ => !O.tokens.contains token
  | _ => true

theorem enabled_of_freshTokens {cfg : Nat → DeliverySettings} {O : Outbox}
    (h : freshTokens O i = true) : (outboxDelivery cfg).enabled O i := by
  rintro w token now locked rfl
  simpa [freshTokens] using h

end OutboxSample

open OutboxSample in
theorem outbox_settles_once_reclaimed :
    (((outboxDelivery fun _ => settings).runs reclaimed .empty).deliveries.get? 4).map
        (·.status) = some .delivered
      ∧ ∃ e, ((outboxDelivery fun _ => settings).runs reclaimed .empty).events.get? 3 = some e
        ∧ e.status = .delivered := by
  have hrun : (outboxDelivery fun _ => settings).Reachable (fun _ _ => True)
      ((outboxDelivery fun _ => settings).runs reclaimed .empty) :=
    Machine.Reachable.runs (fun _ _ _ h => ⟨enabled_of_freshTokens h, trivial⟩) (.init rfl)
      (by decide :
        (outboxDelivery fun _ => settings).checks freshTokens reclaimed .empty = true)
  have hdelivered : (((outboxDelivery fun _ => settings).runs reclaimed .empty).deliveries.get?
      4).map (fun d => (d.eventId, d.status)) = some (3, .delivered) := by decide +kernel
  obtain ⟨d, hd, hpair⟩ := Option.map_eq_some_iff.mp hdelivered
  obtain ⟨hevent, hstatus⟩ := Prod.mk.inj hpair
  obtain ⟨e, he, hiff, -⟩ := (outbox_settles_once _ _ hrun).2.2.1 4 d hd
  rw [hd, Option.map_some, hstatus]
  exact ⟨rfl, e, hevent ▸ he, hiff.mpr hstatus⟩

end ThreadsPlatform
