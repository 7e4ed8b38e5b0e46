/-
Who may withdraw a cancel request.

A job has one PENDING request per attempt. An operator asks for it with
`request_cancel`; a HIGH priority job that wants the profile asks for it
too, and where there is a request already it is the same one. The row
does not say who asked first.

When a preemptor ends, its waits end, and a victim nobody waits for any
more loses its request. That is the right thing for a request made for
a preemption. An operator's request goes the same way
(`operator_request_withdrawn`): what decides is only whether the call
ends the last job that waits for the victim (`Withdraws`).
-/
import ThreadsPlatform.Proofs.Cancellation
import ThreadsPlatform.Proofs.LapsedJobs

namespace ThreadsPlatform

open Relational Table WorkerJobService

variable {cfg : Settings} {call : Call} {d : Draws} {now : Time} {s s' s₀ t t' : State}
  {j k : WorkerJob} {r : WorkerJobCancelRequest} {id victim : Uuid} {limit n : Nat}
  {A A' : Table workerJobAttempts} {R : Table workerJobCancelRequests} {gone : Uuid → Prop}

-- ==== waits

/-- The preemption waits for the victim to stop. -/
def Waits (P : Table workerJobPreemptions) (victim : Uuid) (p : WorkerJobPreemption) : Prop :=
  P.get? p.id = some p ∧ p.status = .waitingForQuiescence ∧ p.victimWorkerJobId = victim

/-- The request is still PENDING. -/
def StillPending (R : Table workerJobCancelRequests) (id : Uuid) : Prop :=
  ∃ r, R.get? id = some r ∧ r.status = .pending

theorem StillPending.before {R' : Table workerJobCancelRequests} (hsettle : RequestsSettle R R')
    (h : StillPending R' id) : StillPending R id := by
  obtain ⟨r', hr', hpending⟩ := h
  obtain ⟨r, hr, hrel⟩ := hsettle.backward hr'
  exact ⟨r, hr, hrel.pending hpending⟩

theorem isEmpty_listWaitingForVictim :
    (s.listWaitingForVictim victim).isEmpty = true ↔ ∀ p, ¬ Waits s.preemptions victim p := by
  rw [List.isEmpty_iff, List.eq_nil_iff_forall_not_mem]
  refine forall_congr' fun p => not_congr ?_
  unfold State.listWaitingForVictim
  rw [State.mem_listWaiting, decide_eq_true_eq]
  exact and_congr_right' and_comm

-- ==== the end of a preemptor

/-- What the end of the job `k` does to the request `r`: it goes with the
last of the waits for its job. -/
structure PreemptorEnded (k : Uuid) (r : WorkerJobCancelRequest) (s s' : State) : Prop where
  kept : (∀ p, Waits s.preemptions r.workerJobId p → p.preemptorWorkerJobId ≠ k)
      ∨ (∃ p, Waits s'.preemptions r.workerJobId p) →
    s'.cancelRequests.get? r.id = some r
  lost : (∃ p, Waits s.preemptions r.workerJobId p ∧ p.preemptorWorkerJobId = k) →
    (∀ p, ¬ Waits s'.preemptions r.workerJobId p) → ¬ StillPending s'.cancelRequests r.id

theorem mem_listWaitingForPreemptor {p : WorkerJobPreemption} :
    p ∈ s.listWaitingForPreemptor id ↔ s.preemptions.get? p.id = some p
      ∧ p.preemptorWorkerJobId = id ∧ p.status = .waitingForQuiescence := by
  unfold State.listWaitingForPreemptor
  rw [State.mem_listWaiting, decide_eq_true_eq]

theorem waits_of_resolved {P : Table workerJobPreemptions}
    (hdone : ∀ p ∈ s.listWaitingForPreemptor id,
      ∃ p', P.get? p.id = some p' ∧ p'.status ≠ .waitingForQuiescence)
    (hrest : ∀ k, (∀ p ∈ s.listWaitingForPreemptor id, p.id ≠ k) →
      P.get? k = s.preemptions.get? k) (p : WorkerJobPreemption) :
    Waits P victim p ↔ Waits s.preemptions victim p ∧ p.preemptorWorkerJobId ≠ id := by
  constructor
  · intro h
    have hother : ∀ q ∈ s.listWaitingForPreemptor id, q.id ≠ p.id := by
      intro q hq heq
      obtain ⟨q', hq', hover⟩ := hdone q hq
      rw [heq] at hq'
      obtain rfl := Option.mem_unique h.1 hq'
      exact hover h.2.1
    have hp : s.preemptions.get? p.id = some p := (hrest p.id hother).symm.trans h.1
    refine ⟨⟨hp, h.2⟩, fun hmine => hother p ?_ rfl⟩
    exact mem_listWaitingForPreemptor.mpr ⟨hp, hmine, h.2.1⟩
  · rintro ⟨h, hother⟩
    refine ⟨(hrest p.id fun q hq heq => hother ?_).trans h.1, h.2⟩
    obtain ⟨hq, hmine, -⟩ := mem_listWaitingForPreemptor.mp hq
    rw [heq] at hq
    obtain rfl := Option.mem_unique h.1 hq
    exact hmine

theorem supersedePreemptions_waits (h : supersedePreemptionsForPreemptor now s id = .ok s')
    (victim : Uuid) (p : WorkerJobPreemption) : Waits s'.preemptions victim p
      ↔ Waits s.preemptions victim p ∧ p.preemptorWorkerJobId ≠ id := by
  simp only [supersedePreemptionsForPreemptor, bind_eq_ok] at h
  obtain ⟨s1, h1, h2⟩ := h
  obtain ⟨P, rfl, -, hdone, hrest⟩ := resolveAll_ok (by decide)
    (fun p hp => (mem_listWaitingForPreemptor.mp hp).1) h1
  -- the second loop leaves the preemptions alone
  have hsame := foldlM_invariant (fun _ t => t.preemptions = P) ?_ rfl h2
  · rw [hsame]
    exact waits_of_resolved hdone hrest p
  · rintro v vs t t' hP hstep
    split at hstep
    · obtain ⟨R, rfl, -⟩ := supersedePendingCancel_ok hstep
      exact hP
    · rw [pure_eq_ok] at hstep
      exact hstep ▸ hP

/-- In the loop over the victims of a preemptor that has ended, with `vs`
still to come of `all`. -/
structure Withdrawing (r : WorkerJobCancelRequest) (s : State) (all vs : List Uuid) (t : State) :
    Prop where
  state : ∃ R, t = { s with cancelRequests := R } ∧ RequestsSettle s.cancelRequests R
  nodup : vs.Nodup
  listed : ∀ v ∈ vs, v ∈ all
  kept : (r.workerJobId ∈ vs ∨ r.workerJobId ∉ all
      ∨ ∃ p, Waits s.preemptions r.workerJobId p) → t.cancelRequests.get? r.id = some r
  lost : r.workerJobId ∈ all → r.workerJobId ∉ vs →
    (∀ p, ¬ Waits s.preemptions r.workerJobId p) → ¬ StillPending t.cancelRequests r.id

theorem Withdrawing.step {all vs : List Uuid} {v : Uuid} (hagree : CancelAgree A s.cancelRequests)
    (hp : r.status = .pending) (h : Withdrawing r s all (v :: vs) t)
    (hstep : (if (t.listWaitingForVictim v).isEmpty then
      supersedePendingCancel now t v "PREEMPTION_NO_LONGER_PENDING" else return t) = .ok t') :
    Withdrawing r s all vs t' := by
  obtain ⟨R, rfl, hR⟩ := h.state
  have hnodup := List.nodup_cons.mp h.nodup
  have hlisted : ∀ u ∈ vs, u ∈ all := fun u hu => h.listed u (List.mem_cons_of_mem _ hu)
  split at hstep
  case isFalse hempty =>
    cases hstep
    have hwaits : ∃ p, Waits s.preemptions v p := by
      by_contra hnone
      exact hempty (isEmpty_listWaitingForVictim.mpr (not_exists.mp hnone))
    refine ⟨⟨R, rfl, hR⟩, hnodup.2, hlisted, fun hkept => h.kept ?_, fun hall hnot hnone => ?_⟩
    · exact hkept.imp_left (List.mem_cons_of_mem _)
    · refine h.lost hall (fun hmem => ?_) hnone
      rcases List.mem_cons.mp hmem with rfl | hin
      · exact hwaits.elim hnone
      · exact hnot hin
  case isTrue hempty =>
    obtain ⟨R', rfl, hsettle, hclosed, hothers⟩ := supersedePendingCancel_ok hstep
    have hnone : ∀ p, ¬ Waits s.preemptions v p := isEmpty_listWaitingForVictim.mp hempty
    refine ⟨⟨R', rfl, hR.trans .trans hsettle⟩, hnodup.2, hlisted, fun hkept => ?_,
      fun hall hnot hnone => ?_⟩
    · -- the victim whose request goes is another one
      have hne : r.workerJobId ≠ v := by
        rintro rfl
        rcases hkept with hin | hnot | ⟨p, hwaits⟩
        · exact hnodup.1 hin
        · exact hnot (h.listed _ List.mem_cons_self)
        · exact hnone p hwaits
      exact hothers r (h.kept (hkept.imp_left (List.mem_cons_of_mem _))) hne
    · by_cases hv : r.workerJobId = v
      · have hstored := h.kept (Or.inl (hv ▸ List.mem_cons_self))
        have hfound := (hagree.settle hR).pendingFor?
          (s := { s with attempts := A, cancelRequests := R }) hstored hp
        rw [hv] at hfound
        obtain ⟨r', hr', hdone⟩ := hclosed r hfound
        rintro ⟨r2, hr2, hpending⟩
        obtain rfl : r' = r2 := Option.mem_unique hr' hr2
        exact hdone hpending
      · refine fun hpending => h.lost hall (fun hmem => ?_) hnone (hpending.before hsettle)
        exact (List.mem_cons.mp hmem).elim hv hnot

theorem supersedePreemptions_ended (hagree : CancelAgree A s.cancelRequests)
    (hr : s.cancelRequests.get? r.id = some r) (hp : r.status = .pending)
    (h : supersedePreemptionsForPreemptor now s id = .ok s') : PreemptorEnded id r s s' := by
  simp only [supersedePreemptionsForPreemptor, bind_eq_ok] at h
  obtain ⟨s1, h1, h2⟩ := h
  obtain ⟨P, rfl, -, -, -⟩ := resolveAll_ok (by decide)
    (fun p hp => (mem_listWaitingForPreemptor.mp hp).1) h1
  have hloop := foldlM_invariant (Withdrawing r { s with preemptions := P }
      ((s.listWaitingForPreemptor id).map (·.victimWorkerJobId)).dedup)
    (fun _ _ _ _ hP hstep => hP.step hagree hp hstep)
    ⟨⟨s.cancelRequests, rfl, .refl .refl _⟩, List.nodup_dedup _, fun _ hv => hv, fun _ => hr,
      fun hall hnot => absurd hall hnot⟩ h2
  have hvictims : r.workerJobId ∈ ((s.listWaitingForPreemptor id).map (·.victimWorkerJobId)).dedup
        ↔ ∃ p, Waits s.preemptions r.workerJobId p ∧ p.preemptorWorkerJobId = id := by
    rw [List.mem_dedup, List.mem_map]
    refine exists_congr fun p => ?_
    rw [mem_listWaitingForPreemptor]
    constructor
    · rintro ⟨⟨hp, hmine, hw⟩, hv⟩
      exact ⟨⟨hp, hw, hv⟩, hmine⟩
    · rintro ⟨⟨hp, hw, hv⟩, hmine⟩
      exact ⟨⟨hp, hmine, hw⟩, hv⟩
  obtain ⟨R, rfl, hR⟩ := hloop.state
  refine ⟨fun hkept => hloop.kept (.inr ?_), fun hmine hnone =>
    hloop.lost (hvictims.mpr hmine) (by simp) hnone⟩
  refine hkept.imp_left fun hother hin => ?_
  obtain ⟨p, hwait, hmine⟩ := hvictims.mp hin
  exact hother p hwait hmine

-- ==== the calls that end jobs

/-- `recover_expired` ends the job: its deadline has passed, or its last
attempt is gone. -/
def WorkerJob.over (j : WorkerJob) (now : Time) : Prop :=
  j.beforeDeadline now = false ∨ j.maxAttempts ≤ j.attemptCount

/-- The call ends the job without a report of its worker. -/
def Ends (call : Call) (s : State) (id : Uuid) : Prop :=
  match call.op with
  | .recoverExpired limit =>
    ∃ j ∈ s.listExpiredForUpdate call.now limit call.draws.rowOrder, j.id = id ∧ j.over call.now
  | .resolveIntervention interventionId requeue _ _ =>
    requeue = false ∧ ∃ i, s.interventions.get? interventionId = some i ∧ i.workerJobId = id
  | _ => False

/-- The call ends every job that waits for the victim, and there is one. -/
def Withdraws (call : Call) (s : State) (victim : Uuid) : Prop :=
  (∃ p, Waits s.preemptions victim p)
    ∧ ∀ p, Waits s.preemptions victim p → Ends call s p.preemptorWorkerJobId

/-- What a call that ends the jobs `gone` does to the request `r`. -/
structure JobsEnded (gone : Uuid → Prop) (r : WorkerJobCancelRequest) (s t : State) : Prop where
  waits : ∀ p, Waits t.preemptions r.workerJobId p
    ↔ Waits s.preemptions r.workerJobId p ∧ ¬ gone p.preemptorWorkerJobId
  kept : (∀ p, ¬ Waits s.preemptions r.workerJobId p)
      ∨ (∃ p, Waits t.preemptions r.workerJobId p) → t.cancelRequests.get? r.id = some r
  lost : (∃ p, Waits s.preemptions r.workerJobId p) →
    (∀ p, ¬ Waits t.preemptions r.workerJobId p) → ¬ StillPending t.cancelRequests r.id

theorem JobsEnded.none (hr : t.cancelRequests.get? r.id = some r)
    (hsame : t.preemptions = s.preemptions) (hgone : ∀ id, ¬ gone id) : JobsEnded gone r s t := by
  refine ⟨fun p => ?_, fun _ => hr, fun hex hnone => ?_⟩
  · rw [hsame]
    exact (and_iff_left (hgone _)).symm
  · rw [hsame] at hnone
    exact (hex.elim hnone).elim

theorem JobsEnded.add {gone' : Uuid → Prop} (h : JobsEnded gone r s t)
    (hgone : ∀ k, gone' k ↔ gone k ∨ k = id)
    (hend : t.cancelRequests.get? r.id = some r → PreemptorEnded id r t t')
    (hwaits : ∀ p, Waits t'.preemptions r.workerJobId p
      ↔ Waits t.preemptions r.workerJobId p ∧ p.preemptorWorkerJobId ≠ id)
    (hsettle : RequestsSettle t.cancelRequests t'.cancelRequests) : JobsEnded gone' r s t' := by
  refine ⟨fun p => ?_, fun hkept => ?_, fun hex hnone => ?_⟩
  · rw [hwaits, h.waits, hgone, not_or, and_assoc]
  · rcases hkept with hnone | ⟨p, hp⟩
    · have hstored := h.kept (.inl hnone)
      exact (hend hstored).kept (.inl fun p hp => absurd ((h.waits p).mp hp).1 (hnone p))
    · have hstored := h.kept (.inr ⟨p, ((hwaits p).mp hp).1⟩)
      exact (hend hstored).kept (.inr ⟨p, hp⟩)
  · by_cases hwaiting : ∃ p, Waits t.preemptions r.workerJobId p
    · obtain ⟨p, hp⟩ := hwaiting
      refine (hend (h.kept (.inr ⟨p, hp⟩))).lost ⟨p, hp, ?_⟩ hnone
      by_contra hother
      exact hnone p ((hwaits p).mpr ⟨hp, hother⟩)
    · exact fun hpending => h.lost hex (not_exists.mp hwaiting) (hpending.before hsettle)

/-- The request is lost exactly with the last wait for its job. -/
theorem JobsEnded.pending_iff (hp : r.status = .pending) (h : JobsEnded gone r s t) :
    StillPending t.cancelRequests r.id ↔ ¬ ((∃ p, Waits s.preemptions r.workerJobId p)
        ∧ ∀ p, Waits s.preemptions r.workerJobId p → gone p.preemptorWorkerJobId) := by
  constructor
  · rintro hpending ⟨hex, hall⟩
    exact h.lost hex (fun p hwaits => ((h.waits p).mp hwaits).2 (hall p ((h.waits p).mp hwaits).1))
      hpending
  · intro hnot
    refine ⟨r, h.kept ?_, hp⟩
    by_cases hex : ∃ p, Waits s.preemptions r.workerJobId p
    · have hsome := fun hall => hnot ⟨hex, hall⟩
      simp only [imp_false, not_forall, exists_prop] at hsome
      obtain ⟨p, hwaits, hleft⟩ := hsome
      exact .inr ⟨p, (h.waits p).mpr ⟨hwaits, hleft⟩⟩
    · exact .inl (not_exists.mp hex)

-- ---- recovery

theorem endPreemptor_cases (hleaves : j.Leaves k) (h : endPreemptor now s k = .ok s') :
    (k.status.terminal = true ∧ supersedePreemptionsForPreemptor now s j.id = .ok s')
      ∨ (k.status.terminal = false ∧ s' = s) := by
  unfold endPreemptor at h
  split at h
  case isTrue hterminal => exact .inl ⟨hterminal, hleaves.id ▸ h⟩
  case isFalse hopen =>
    rw [pure_eq_ok] at h
    exact .inr ⟨Bool.eq_false_iff.mpr hopen, h.symm⟩

/-- One recovered job: its own request is closed; if it is over, its
preemptions end. -/
theorem recoverJob_preemptor (hopen : j.status.terminal = false)
    (h : recoverJob cfg d now s j = .ok s') :
    ∃ t, t.preemptions = s.preemptions ∧ RequestClosed s j.id t.cancelRequests
      ∧ ((j.over now ∧ supersedePreemptionsForPreemptor now t j.id = .ok s')
        ∨ (¬ j.over now ∧ s' = t)) := by
  obtain ⟨R, hR, ⟨j', outcome, J, A, I, C, O, D, L, hjob, hend⟩ | ⟨hnot, -, hend⟩⟩ :=
    recoverJob_cases h
  · rcases endPreemptor_cases hjob.leaves hend with ⟨hover, hend⟩ | ⟨hopen, rfl⟩
    · exact ⟨_, by rfl, hR, .inl ⟨hjob.terminal_iff.mp hover, hend⟩⟩
    · refine ⟨_, by rfl, hR, .inr ⟨fun hover => ?_, rfl⟩⟩
      rw [hjob.terminal_iff.mpr hover] at hopen
      cases hopen
  · unfold endPreemptor at hend
    rw [hopen, if_neg Bool.false_ne_true, pure_eq_ok] at hend
    exact ⟨{ s with cancelRequests := R }, rfl, hR, .inr ⟨not_or.mpr hnot, hend.symm⟩⟩

/-- In the loop of `recover_expired`, with `ks` still to come of the jobs
`all`, none of them the request's own. -/
structure Recalling (now : Time) (r : WorkerJobCancelRequest) (s : State)
    (all ks : List WorkerJob) (t : State) : Prop where
  split : ∃ done, all = done ++ ks ∧ JobsEnded (fun id => ∃ k ∈ done, k.id = id ∧ k.over now) r s t
  settled : RequestsSettle s.cancelRequests t.cancelRequests

theorem Recalling.step {all ks : List WorkerJob} (hagree : CancelAgree A s.cancelRequests)
    (hp : r.status = .pending) (hall : ∀ k ∈ all, k.status.terminal = false ∧ k.id ≠ r.workerJobId)
    (h : Recalling now r s all (k :: ks) t) (hstep : recoverJob cfg d now t k = .ok t') :
    Recalling now r s all ks t' := by
  obtain ⟨done, hsplit, hended⟩ := h.split
  obtain ⟨hopen, hother⟩ := hall k (by rw [hsplit]; simp)
  obtain ⟨u, hsame, ⟨hsettle, -, hothers⟩, hend⟩ := recoverJob_preemptor hopen hstep
  have hstored (hr : t.cancelRequests.get? r.id = some r) : u.cancelRequests.get? r.id = some r :=
    hothers r hr (Ne.symm hother)
  have hagree' := (hagree.settle h.settled).settle hsettle
  have hsplit' : all = (done ++ [k]) ++ ks := by rw [hsplit]; simp
  -- up to the end of its preemptions the job has changed nothing here
  have hmid : JobsEnded (fun id => ∃ k ∈ done, k.id = id ∧ k.over now) r s u := by
    refine ⟨fun p => ?_, fun hkept => hstored (hended.kept ?_), fun hex hnone hpending => ?_⟩
    · rw [hsame]
      exact hended.waits p
    · rwa [hsame] at hkept
    · rw [hsame] at hnone
      exact hended.lost hex hnone (hpending.before hsettle)
  rcases hend with ⟨hover, hend⟩ | ⟨hnot, rfl⟩
  · obtain ⟨P, R, hu, -, hR⟩ := supersedePreemptionsForPreemptor_ok hend
    have hsettle' : RequestsSettle u.cancelRequests t'.cancelRequests := by rw [hu]; exact hR
    refine ⟨⟨done ++ [k], hsplit', hmid.add (fun id => ?_)
      (fun hr => supersedePreemptions_ended hagree' hr hp hend)
      (supersedePreemptions_waits hend _) hsettle'⟩,
      (h.settled.trans .trans hsettle).trans .trans hsettle'⟩
    simp [hover, or_and_right, exists_or, eq_comm]
  · refine ⟨⟨done ++ [k], hsplit', ?_⟩, h.settled.trans .trans hsettle⟩
    simpa [hnot] using hmid

theorem recoverExpired_ended (hagree : CancelAgree A s.cancelRequests)
    (hr : s.cancelRequests.get? r.id = some r) (hp : r.status = .pending)
    (hother : ∀ k ∈ s.listExpiredForUpdate now limit d.rowOrder, k.id ≠ r.workerJobId)
    (h : recoverExpired cfg d now limit s = .ok (n, s')) :
    JobsEnded (fun id => ∃ k ∈ s.listExpiredForUpdate now limit d.rowOrder,
      k.id = id ∧ k.over now) r s s' := by
  simp only [recoverExpired, steps_ok] at h
  obtain ⟨t, hloop, -, rfl⟩ := h
  have hall : ∀ k ∈ s.listExpiredForUpdate now limit d.rowOrder,
      k.status.terminal = false ∧ k.id ≠ r.workerJobId :=
    fun k hk => ⟨not_terminal_of_expired (mem_listExpired hk).2, hother k hk⟩
  obtain ⟨⟨done, hdone, hended⟩, -⟩ := foldlM_invariant
    (Recalling now r s (s.listExpiredForUpdate now limit d.rowOrder))
    (fun _ _ _ _ hP hone => hP.step hagree hp hall hone)
    ⟨⟨[], rfl, .none hr rfl (by simp)⟩, .refl .refl _⟩ hloop
  rw [List.append_nil] at hdone
  rw [hdone]
  exact hended

-- ---- interventions

theorem resolveIntervention_ended {interventionId : Uuid} {requeue confirmed : Bool}
    {resolvedBy : String} {answer : WorkerJob} (hagree : CancelAgree A s.cancelRequests)
    (hr : s.cancelRequests.get? r.id = some r) (hp : r.status = .pending)
    (h : resolveIntervention cfg d now interventionId requeue confirmed resolvedBy s
      = .ok (answer, s')) :
    JobsEnded (fun id => requeue = false ∧ ∃ i, s.interventions.get? interventionId = some i
      ∧ i.workerJobId = id) r s s' := by
  simp only [resolveIntervention, steps_ok] at h
  obtain ⟨i, hi, -, j, hj, h⟩ := h
  obtain ⟨hid, hj⟩ := lockedJob_ok hj
  split at h <;> simp only [steps_ok, throw_eq_ok, false_and, exists_false] at h
  rename_i _ j' hj'
  obtain ⟨_, rfl, I, hI, s1, h1, h⟩ := h
  have hleaves := (WorkerJob.resolveIntervention_ok hj').leaves (check_of_get? hj)
  obtain ⟨J, rfl, -⟩ := storeJob_ok h1
  cases requeue with
  | true =>
    simp only [if_true, steps_ok] at h
    obtain ⟨s2, h2, -, rfl⟩ := h
    obtain ⟨C, rfl, -⟩ := setCommandWaitingExecution_ok h2
    exact .none hr rfl (by simp)
  | false =>
    simp only [Bool.false_eq_true, if_false, steps_ok] at h
    obtain ⟨s2, h2, s3, h3, -, rfl⟩ := h
    obtain ⟨C, O, D, rfl, -⟩ := finalizeCommand_ok .failedFinal rfl rfl h2
    have hkey : j'.id = i.workerJobId := hleaves.id.trans hid
    rw [hkey] at h3
    have hbefore : JobsEnded (fun _ => False) r s { s with
        interventions := I, jobs := J, commands := C, outboxEvents := O, deliveries := D } :=
      .none hr rfl (fun _ h => h)
    obtain ⟨P, R, hs, -, hR⟩ := supersedePreemptionsForPreemptor_ok h3
    refine hbefore.add (fun id => ?_)
      (fun hr => supersedePreemptions_ended hagree hr hp h3) (supersedePreemptions_waits h3 _)
      (by rw [hs]; exact hR)
    simp [hi, eq_comm]

-- ---- all other calls

/-- The attempt a request aims at is closed. -/
def TargetClosed (A : Table workerJobAttempts) (r : WorkerJobCancelRequest) : Prop :=
  ∃ a, A.get? r.targetAttemptId = some a ∧ a.status ≠ .running

theorem TargetClosed.evolves (hends : Evolves WorkerJobAttempt.Ends A A') (h : TargetClosed A r) :
    TargetClosed A' r := by
  obtain ⟨a, ha, hover⟩ := h
  obtain ⟨a', ha', hrel⟩ := hends.forward ha
  refine ⟨a', ha', ?_⟩
  rcases hrel.ended with rfl | ⟨hclosed, -⟩
  · exact hover
  · exact hclosed

/-- A request PENDING against an attempt that is closed: the attempt is
over. -/
theorem TargetClosed.quiesced (hagree : CancelAgree A R) (hr : R.get? r.id = some r)
    (hp : r.status = .pending) (hquiet : Quiesced r.workerJobId A A') : TargetClosed A' r := by
  obtain ⟨a, ha, -, hjob, hid, -⟩ := hagree.target r hr hp
  obtain ⟨a', ha', hrel⟩ := hquiet.evolves.forward ha
  refine ⟨a', hid ▸ ha', hquiet.quiet a' ?_ (hrel.workerJobId.trans hjob)⟩
  rw [hrel.id]
  exact ha'

theorem request_kept_or_over (hagree : AttemptsAgree s.jobs s.attempts)
    (hcancel : CancelAgree s.attempts s.cancelRequests) (hp : r.status = .pending)
    (hends : call.op.endsJobs = false)
    (hlive : ∀ j, s₀.jobs.get? r.workerJobId = some j → j.lapsed call.now = false)
    (he : Effect cfg call s₀ s s')
    (h : s.cancelRequests.get? r.id = some r ∨ TargetClosed s.attempts r) :
    s'.cancelRequests.get? r.id = some r ∨ TargetClosed s'.attempts r := by
  -- a job that leaves its attempt takes its own request with it
  have hquiet : ∀ {jobId A} {R : Table workerJobCancelRequests}, Quiesced jobId s.attempts A →
      (∀ r2, s.cancelRequests.get? r2.id = some r2 → r2.workerJobId ≠ jobId →
        R.get? r2.id = some r2) →
      R.get? r.id = some r ∨ TargetClosed A r := by
    intro jobId A R hquiet hothers
    rcases h with hr | hover
    · by_cases hjob : r.workerJobId = jobId
      · exact .inr (.quiesced hcancel hr hp (hjob ▸ hquiet))
      · exact .inl (hothers r hr hjob)
    · exact .inr (hover.evolves hquiet.evolves)
  cases he with
  | requestsSettled hsettle hcause =>
    rcases hcause with hop | ⟨j, hj, hlapsed, -, -, hothers⟩
    · rw [hends] at hop
      cases hop
    · refine h.imp_left fun hr => hothers r hr fun hjob => ?_
      rw [hlive j (hjob ▸ hj)] at hlapsed
      cases hlapsed
  | requestAdded hadd =>
    refine h.imp_left fun hr => hadd.others r hr fun hjob => ?_
    obtain ⟨a, ha, harunning, hajob, haim, -⟩ := hcancel.target r hr hp
    obtain ⟨hb, hbjob, hbrunning⟩ := State.runningAttempt?_some hadd.attempt
    have hsame := hagree.running_unique ha harunning hb hbrunning
      (hajob.trans (hjob.trans hbjob.symm))
    have hfound := hcancel.pendingFor? hr hp
    rw [hjob] at hfound
    exact hadd.stale r hfound (hsame ▸ haim)
  | jobClaimed hclaim =>
    obtain ⟨A1, hquiesced, hfresh, hput⟩ := hclaim.quiesced hagree
    refine (hquiet hquiesced ?_).imp_right ?_
    · rcases hclaim.requests with ⟨-, hclosed⟩ | ⟨-, rfl⟩
      · exact hclosed.2.2
      · exact fun _ hr _ => hr
    · rintro ⟨a, ha, hover⟩
      have hid : a.id = r.targetAttemptId := key_of_get? ha
      exact ⟨a, hid ▸ hput.get?_of_fresh hfresh (hid.symm ▸ ha), hover⟩
  | jobMoved hmove =>
    refine hquiet (hmove.quiesced hagree) ?_
    rcases hmove.ending with ⟨-, -, rfl⟩ | ⟨-, hclosed⟩
    · exact fun _ hr _ => hr
    · exact hclosed.2.2
  | _ => exact h

-- ==== the claim

/-- The machine, with Commands of any priority and deadline stored
already. `dispatch` gives its Commands no deadline, so that a preemptor
it makes never ends before its victim; whoever stores a HIGH priority
Command otherwise may set one. -/
def servingMachine (cfg : Settings) : Machine State Call :=
  { machine cfg with init := fun s => ∃ W C, s = { State.initial W with commands := C } }

/-- Reachable by any calls, from any stored Commands. -/
def Served (cfg : Settings) : State → Prop := (servingMachine cfg).Reachable fun _ _ => True

open Machine.Reachable

theorem Served.agree (h : Served cfg s) :
    AttemptsAgree s.jobs s.attempts ∧ CancelAgree s.attempts s.cancelRequests := by
  refine invariant (I := fun s => AttemptsAgree s.jobs s.attempts
    ∧ CancelAgree s.attempts s.cancelRequests) ?_ ?_ h
  · rintro _ ⟨W, C, rfl⟩
    refine ⟨?_, ?_⟩
    · constructor <;> intro _ hrow <;> cases hrow
    · constructor
      · intro _ hrow
        cases hrow
      · intro _ _ hrow
        cases hrow
  · intro s call hs hen _
    exact step_of_effects (I := fun s => AttemptsAgree s.jobs s.attempts
      ∧ CancelAgree s.attempts s.cancelRequests)
      (fun _ _ h he => ⟨h.1.effect he, h.2.effect h.1 he⟩) hen hs

/-- The call ends the attempt the request aims at, or finds its lease
lapsed. -/
def EndsAttempt (cfg : Settings) (call : Call) (s : State) (r : WorkerJobCancelRequest) : Prop :=
  (∃ j, s.jobs.get? r.workerJobId = some j ∧ j.lapsed call.now = true)
    ∨ ∃ s', call.outcome cfg s = .ok s' ∧ TargetClosed s'.attempts r

/-- The operator's `request_cancel` made the request. -/
structure AskedByOperator (cfg : Settings) (s₁ : State) (call : Call) (s₂ : State)
    (r : WorkerJobCancelRequest) : Prop where
  served : Served cfg s₁
  asked : ∃ reason, call.op = .requestCancel r.workerJobId reason
  committed : call.outcome cfg s₁ = .ok s₂
  made : s₁.cancelRequests.get? r.id = none ∧ s₂.cancelRequests.get? r.id = some r
  pending : r.status = .pending

theorem attempt_stored_effect {jobId : Uuid} (hagree : AttemptsAgree s.jobs s.attempts)
    (he : Effect cfg call s₀ s s')
    (h : ∃ a, s.attempts.get? id = some a ∧ a.workerJobId = jobId) :
    ∃ a, s'.attempts.get? id = some a ∧ a.workerJobId = jobId := by
  obtain ⟨a, ha, hjob⟩ := h
  cases he with
  | jobClaimed hclaim =>
    obtain ⟨A1, hquiesced, hfresh, hput⟩ := hclaim.quiesced hagree
    obtain ⟨a', ha', hrel⟩ := hquiesced.evolves.forward ha
    have hid : a'.id = id := key_of_get? ha'
    exact ⟨a', hid ▸ hput.get?_of_fresh hfresh (hid.symm ▸ ha'), hrel.workerJobId.trans hjob⟩
  | jobMoved hmove =>
    obtain ⟨a', ha', hrel⟩ := (hmove.quiesced hagree).evolves.forward ha
    exact ⟨a', ha', hrel.workerJobId.trans hjob⟩
  | _ => exact ⟨a, ha, hjob⟩

theorem CancelAgree.running (hagree : AttemptsAgree s.jobs s.attempts)
    (hcancel : CancelAgree s.attempts s.cancelRequests)
    (hr : s.cancelRequests.get? r.id = some r) (hp : r.status = .pending) :
    ∃ j, s.jobs.get? r.workerJobId = some j ∧ j.status = .running := by
  obtain ⟨a, ha, harunning, hjob, -⟩ := hcancel.target r hr hp
  obtain ⟨j, hj, hrunning, -⟩ := hagree.running a ha harunning
  exact ⟨j, hjob ▸ hj, hrunning⟩

/-- A victim that is selected by `recover_expired` ends its attempt. -/
theorem endsAttempt_of_selected (hs : Served cfg s) (hr : s.cancelRequests.get? r.id = some r)
    (hp : r.status = .pending) (hen : (machine cfg).enabled s call)
    (hcommit : call.outcome cfg s = .ok s')
    (h : recoverExpired cfg call.draws call.now limit s = .ok (n, s'))
    (hj : j ∈ s.listExpiredForUpdate call.now limit call.draws.rowOrder)
    (hvictim : j.id = r.workerJobId) : EndsAttempt cfg call s r := by
  obtain ⟨hagree, hcancel⟩ := hs.agree
  obtain ⟨hstored, hexpired⟩ := mem_listExpired hj
  by_cases hlapsed : j.lapsed call.now = true
  · exact .inl ⟨j, hvictim ▸ hstored, hlapsed⟩
  refine .inr ⟨s', hcommit, ?_⟩
  obtain ⟨j2, hj2, hrunning⟩ := CancelAgree.running hagree hcancel hr hp
  rw [← hvictim] at hj2
  obtain rfl := Option.mem_unique hstored hj2
  -- a live job is selected for its deadline, and expires
  have hpast : j.beforeDeadline call.now = false := by
    have hnot : (j.leaseExpiresAt.any fun e => decide (e ≤ call.now)) = false :=
      Bool.eq_false_iff.mpr hlapsed
    simp only [State.expiredForUpdate, hrunning, hnot] at hexpired
    cases hd : j.deadlineAt <;> simp [hd, WorkerJob.beforeDeadline] at hexpired ⊢
    exact hexpired
  obtain ⟨j', hj', hstatus⟩ :=
    ((recoverExpired_lapsing hstored h).handled hj (by simp)).expired hpast
  obtain ⟨hagree', a, ha, hjob⟩ : AttemptsAgree s'.jobs s'.attempts
      ∧ ∃ a, s'.attempts.get? r.targetAttemptId = some a ∧ a.workerJobId = r.workerJobId := by
    refine Effects.invariant (I := fun t => AttemptsAgree t.jobs t.attempts
      ∧ ∃ a, t.attempts.get? r.targetAttemptId = some a ∧ a.workerJobId = r.workerJobId)
      (fun t t' hI he => ⟨hI.1.effect he, attempt_stored_effect hI.1 he hI.2⟩)
      (outcome_effects hen hcommit) ⟨hagree, ?_⟩
    obtain ⟨a, ha, -, hjob, hid, -⟩ := hcancel.target r hr hp
    exact ⟨a, hid ▸ ha, hjob⟩
  refine ⟨a, ha, ?_⟩
  have hkey : j'.id = j.id := key_of_get? hj'
  rw [← hkey] at hj'
  rw [← key_of_get? ha] at ha
  exact hagree'.not_running hj' (by rw [hstatus]; decide) ha
    (hjob.trans (hvictim.symm.trans hkey.symm))

/-- One call, and one PENDING request whose attempt goes on. -/
theorem request_kept_iff (hs : Served cfg s) (hr : s.cancelRequests.get? r.id = some r)
    (hp : r.status = .pending) (hen : (machine cfg).enabled s call)
    (h : call.outcome cfg s = .ok s') (hlive : ¬ EndsAttempt cfg call s r) :
    (s'.cancelRequests.get? r.id = some r ↔ ¬ Withdraws call s r.workerJobId)
      ∧ (s'.cancelRequests.get? r.id ≠ some r → ∀ p, ¬ Waits s'.preemptions r.workerJobId p) := by
  obtain ⟨hagree, hcancel⟩ := hs.agree
  -- the two calls that end jobs, by the jobs they end
  have hended : ∀ gone : Uuid → Prop, JobsEnded gone r s s' → (∀ id, Ends call s id ↔ gone id) →
      (s'.cancelRequests.get? r.id = some r ↔ ¬ Withdraws call s r.workerJobId)
        ∧ (s'.cancelRequests.get? r.id ≠ some r → ∀ p, ¬ Waits s'.preemptions r.workerJobId p) := by
    intro gone hgone hiff
    refine ⟨⟨fun hkept hwithdraws => ?_, fun hnot => ?_⟩, fun hlost p hwaits =>
      hlost (hgone.kept (.inr ⟨p, hwaits⟩))⟩
    · refine (hgone.pending_iff hp).mp ⟨r, hkept, hp⟩ ⟨hwithdraws.1, fun p hwaits => ?_⟩
      exact (hiff _).mp (hwithdraws.2 p hwaits)
    · refine hgone.kept ?_
      by_contra hnone
      obtain ⟨hex, hnone⟩ := not_or.mp hnone
      refine hnot ⟨not_forall_not.mp hex, fun p hwaits => (hiff _).mpr ?_⟩
      by_contra hleft
      exact hnone ⟨p, (hgone.waits p).mpr ⟨hwaits, hleft⟩⟩
  have hop : (∃ limit, call.op = .recoverExpired limit)
      ∨ (∃ interventionId requeue confirmed resolvedBy,
        call.op = .resolveIntervention interventionId requeue confirmed resolvedBy)
      ∨ call.op.endsJobs = false := by
    cases call.op <;> simp [Op.endsJobs]
  rcases hop with ⟨limit, hop⟩ | ⟨interventionId, requeue, confirmed, resolvedBy, hop⟩ | hends
  · have hrun := h
    simp only [Call.outcome, hop, map_eq_ok, Prod.exists] at hrun
    obtain ⟨n, _, hrun, rfl⟩ := hrun
    refine hended _ (recoverExpired_ended hcancel hr hp (fun k hk hvictim => hlive ?_) hrun)
      fun id => ?_
    · exact endsAttempt_of_selected hs hr hp hen h hrun hk hvictim
    · unfold Ends
      rw [hop]
  · have hrun := h
    simp only [Call.outcome, hop, map_eq_ok, Prod.exists] at hrun
    obtain ⟨_, _, hrun, rfl⟩ := hrun
    refine hended _ (resolveIntervention_ended hcancel hr hp hrun) fun id => ?_
    unfold Ends
    rw [hop]
  · have hkept : s'.cancelRequests.get? r.id = some r := by
      have hinv := Effects.invariant (I := fun t => AttemptsAgree t.jobs t.attempts
        ∧ CancelAgree t.attempts t.cancelRequests
        ∧ (t.cancelRequests.get? r.id = some r ∨ TargetClosed t.attempts r))
        (fun t t' hI he => ⟨hI.1.effect he, hI.2.1.effect hI.1 he,
          request_kept_or_over hI.1 hI.2.1 hp hends (fun j hj => ?_) he hI.2.2⟩)
        (outcome_effects hen h) ⟨hagree, hcancel, .inl hr⟩
      · exact hinv.2.2.resolve_right fun hover => hlive (.inr ⟨s', h, hover⟩)
      · exact Bool.eq_false_iff.mpr fun hlapsed => hlive (.inl ⟨j, hj, hlapsed⟩)
    have hnone : ∀ id, ¬ Ends call s id := by
      intro id hend
      unfold Ends at hend
      split at hend
      case h_1 hop => rw [hop] at hends; cases hends
      case h_2 hop => rw [hop] at hends; cases hends
      · exact hend
    refine ⟨iff_of_true hkept ?_, fun hlost => absurd hkept hlost⟩
    rintro ⟨⟨p, hwaits⟩, hall⟩
    exact hnone _ (hall p hwaits)

/-- An operator's request stays PENDING through every run in which no
call ends its attempt and none ends the last job that waits for its
victim. Any PENDING request whose attempt goes on is lost exactly with
that job, and never while another one waits. -/
theorem cancel_request_withdrawn_iff (cfg : Settings) :
    (∀ s₁ s₂ call r, AskedByOperator cfg s₁ call s₂ r →
      ∀ s, ((machine cfg).startingAt s₂).Reachable
          (fun s call => ¬ EndsAttempt cfg call s r ∧ ¬ Withdraws call s r.workerJobId) s →
        s.cancelRequests.get? r.id = some r)
      ∧ ∀ s s' call r, Served cfg s → s.cancelRequests.get? r.id = some r →
        r.status = .pending → (machine cfg).enabled s call → call.outcome cfg s = .ok s' →
        ¬ EndsAttempt cfg call s r →
        (s'.cancelRequests.get? r.id = some r ↔ ¬ Withdraws call s r.workerJobId)
          ∧ (s'.cancelRequests.get? r.id ≠ some r →
            ∀ p, ¬ Waits s'.preemptions r.workerJobId p) := by
  refine ⟨?_, fun s s' call r hs hr hp hen h hlive => request_kept_iff hs hr hp hen h hlive⟩
  intro s₁ s₂ call₁ r hasked s hreach
  have hs₂ : Served cfg s₂ := by
    have hen : (machine cfg).enabled s₁ call₁ := by
      obtain ⟨reason, hop⟩ := hasked.asked
      intro claim hclaim
      rw [hop] at hclaim
      cases hclaim
    have hstep := Machine.Reachable.step hasked.served hen trivial
    rwa [show (servingMachine cfg).step s₁ call₁ = s₂ by
      simp only [servingMachine, machine, hasked.committed, commit]] at hstep
  refine (Machine.Reachable.after
    (I := fun s => Served cfg s ∧ s.cancelRequests.get? r.id = some r)
    ⟨hs₂, hasked.made.2⟩ ?_ hreach).2
  rintro t call ⟨ht, hr⟩ hen ⟨hlive, hkeep⟩
  refine ⟨.step ht hen trivial, ?_⟩
  show (commit (call.outcome cfg t) t).cancelRequests.get? r.id = some r
  cases hcall : call.outcome cfg t with
  | error e => exact hr
  | ok t' => exact (request_kept_iff ht hr hasked.pending hen hcall hlive).1.mpr hkeep

-- ==== sample

namespace SharedSample

/-- A HIGH priority Command with a deadline. -/
def high : Command where
  id := 9
  commandId := "high"
  correlationId := "correlation"
  accountId := 1
  commandType := "threads.browser.feed.browse"
  payload := [("max_items", .int 3)]
  protocolVersion := 1
  priority := 100
  status := .received
  createdAt := 0
  receivedAt := 0
  deadlineAt := some 20
  nextRetryAt := none
  validatedAt := none
  startedAt := none
  completedAt := none
  result := none
  errorCode := none
  executionLeaseToken := none
  executionLeaseExpiresAt := none
  checkpoint := none

def stored : State := { State.initial Sample.world with
    commands :=
      { rows := [high]
        keysNodup := by decide
        checked := by decide
        apart := by decide } }

/-- An activity's job is claimed. -/
def claimed : List Call := [Sample.call 1 0 (Sample.dispatch Sample.activityCommand (-100)),
    Sample.call 2 1 (.process Sample.activityCommand), Sample.call 3 2 (.claimNext 2)]

/-- An operator asks for its cancellation. -/
def asked : Call := Sample.call 4 3 (.requestCancel 200 "OPERATOR")

/-- The HIGH priority job arrives and shares the request; its deadline
passes. -/
def expired : List Call :=
  [Sample.call 5 4 (.process "high"), Sample.call 6 30 (.recoverExpired 10)]

def after (calls : List Call) : State := run Sample.settings calls stored

theorem served {calls : List Call} (h : calls.all (fun call => call.op.claim?.isNone) = true) :
    Served Sample.settings (after calls) := by
  refine List.foldlRecOn calls _ (.init ⟨Sample.world, _, rfl⟩) fun s hs call hcall => ?_
  refine step hs (fun claim hclaim => ?_) trivial
  have hnone := List.all_eq_true.mp h call hcall
  rw [hclaim] at hnone
  cases hnone

open Sample in
theorem committed (calls : List Call) (call : Call)
    (h : (call.outcome settings (after calls)).isOk = true) :
    call.outcome settings (after calls) = .ok (after (calls ++ [call])) := by
  have hstep : after (calls ++ [call]) = commit (call.outcome settings (after calls))
      (after calls) := List.foldl_append
  cases hcall : call.outcome settings (after calls) with
  | error e =>
    rw [hcall] at h
    cases h
  | ok s' => rw [hstep, hcall, commit]

end SharedSample

open SharedSample

/-- An operator asks for the cancellation, a HIGH priority job shares the
request and expires: the request is SUPERSEDED, with the attempt RUNNING
and its lease live. -/
theorem operator_request_withdrawn :
    ∃ r, AskedByOperator Sample.settings (SharedSample.after claimed) asked
        (SharedSample.after (claimed ++ [asked])) r
      ∧ (∃ r' ∈ (SharedSample.after (claimed ++ [asked] ++ expired)).cancelRequests.rows,
        r'.id = r.id ∧ r'.status = .superseded)
      ∧ (∃ a ∈ (SharedSample.after (claimed ++ [asked] ++ expired)).attempts.rows,
        a.id = r.targetAttemptId ∧ a.status = .running)
      ∧ ∃ j ∈ (SharedSample.after (claimed ++ [asked] ++ expired)).jobs.rows,
        j.id = r.workerJobId ∧ j.lapsed 30 = false := by
  obtain ⟨r, hr, hpending, hvictim, hnew, hafter⟩ :
      ∃ r ∈ (SharedSample.after (claimed ++ [asked])).cancelRequests.rows, r.status = .pending
        ∧ r.workerJobId = 200
        ∧ (SharedSample.after claimed).cancelRequests.get? r.id = none
        ∧ (∃ r' ∈ (SharedSample.after (claimed ++ [asked] ++ expired)).cancelRequests.rows,
          r'.id = r.id ∧ r'.status = .superseded)
        ∧ (∃ a ∈ (SharedSample.after (claimed ++ [asked] ++ expired)).attempts.rows,
          a.id = r.targetAttemptId ∧ a.status = .running)
        ∧ ∃ j ∈ (SharedSample.after (claimed ++ [asked] ++ expired)).jobs.rows,
          j.id = r.workerJobId ∧ j.lapsed 30 = false := by decide +kernel
  refine ⟨r, ⟨served (by decide), ⟨"OPERATOR", by rw [hvictim]; rfl⟩,
    committed _ _ (by decide +kernel), ⟨hnew, mem_rows_iff.mp hr⟩, hpending⟩, hafter⟩

/-- The recovery above ends the last job that waits for the victim. -/
theorem cancel_request_withdrawn_iff_expired :
    Withdraws (Sample.call 6 30 (.recoverExpired 10))
      (SharedSample.after (claimed ++ [asked] ++ expired.take 1)) 200 := by
  obtain ⟨r, hr, hpending, hvictim, hlost, hrunning, hlive⟩ :
      ∃ r ∈ (SharedSample.after (claimed ++ [asked] ++ expired.take 1)).cancelRequests.rows,
        r.status = .pending ∧ r.workerJobId = 200
        ∧ r ∉ (SharedSample.after (claimed ++ [asked] ++ expired)).cancelRequests.rows
        ∧ (∀ a ∈ (SharedSample.after (claimed ++ [asked] ++ expired)).attempts.rows,
          a.id = r.targetAttemptId → a.status = .running)
        ∧ ∀ j ∈ (SharedSample.after (claimed ++ [asked] ++ expired.take 1)).jobs.rows,
          j.id = r.workerJobId → j.lapsed 30 = false := by decide +kernel
  have hcommit := committed (claimed ++ [asked] ++ expired.take 1)
    (Sample.call 6 30 (.recoverExpired 10)) (by decide +kernel)
  have hserved := served (show (claimed ++ [asked] ++ expired.take 1).all
    (fun call => call.op.claim?.isNone) = true by decide)
  rw [show claimed ++ [asked] ++ expired.take 1 ++ [Sample.call 6 30 (.recoverExpired 10)]
    = claimed ++ [asked] ++ expired from rfl] at hcommit
  generalize SharedSample.after (claimed ++ [asked] ++ expired.take 1) = s at *
  generalize SharedSample.after (claimed ++ [asked] ++ expired) = t at *
  have hgone : ¬ EndsAttempt Sample.settings (Sample.call 6 30 (.recoverExpired 10)) s r := by
    rintro (⟨j, hj, hlapsed⟩ | ⟨s', hs', a, ha, hover⟩)
    · exact Bool.false_ne_true ((hlive j (mem_of_get? hj) (key_of_get? hj)).symm.trans hlapsed)
    · rw [hcommit] at hs'
      cases hs'
      exact hover (hrunning a (mem_of_get? ha) (key_of_get? ha))
  have hiff := ((cancel_request_withdrawn_iff Sample.settings).2 s t _ r hserved
    (mem_rows_iff.mp hr) hpending (fun _ hclaim => by cases hclaim) hcommit hgone).1
  rw [hvictim] at hiff
  by_contra hnot
  exact hlost (mem_of_get? (hiff.mpr hnot))

end ThreadsPlatform
