/-
A due activity becomes at most one Command.

A Command of an activity is there exactly when its row is MATERIALIZED,
and says what the row's snapshot says. A batch marks rows that are
PENDING, each once, and none whose plan is PAUSED when it is locked,
whatever the selection saw.
-/
import ThreadsPlatform.Proofs.InternalIds

namespace ThreadsPlatform

open Relational Table

variable {lax : Json → Option Int} {M M₀ M' : Dispatchers} {a a' : ActivityOccurrence}

/-- The Command is what the activity's snapshot says. -/
structure ActivityOccurrence.Makes (lax : Json → Option Int) (a : ActivityOccurrence)
    (c : Command) : Prop where
  payload : a.payload lax = .ok c.payload
  commandId : c.commandId = activityCommandId a.id
  commandType : c.commandType = a.activityTypeSnapshot
  accountId : c.accountId = a.accountId
  priority : c.priority = a.priority.workerJobPriority

/-- A row that was marked, if anything. -/
def ActivityOccurrence.Marks (a a' : ActivityOccurrence) : Prop :=
  a' = { a with
    materializationStatus := a'.materializationStatus
    commandId := a'.commandId
    materializationAt := a'.materializationAt
    materializationReason := a'.materializationReason }

/-- The rest of the platform makes no Command of an activity, and leaves
what those there are say. -/
def State.KeepsActivities (s next : State) : Prop :=
  (∀ u c', next.commands.get? (activityCommandId u) = some c' →
      ∃ c, s.commands.get? (activityCommandId u) = some c)
    ∧ ∀ u c, s.commands.get? (activityCommandId u) = some c →
      ∃ c', next.commands.get? (activityCommandId u) = some c' ∧ c.SameCommand c'

/-- Batches of any schedulers, with plans that change and activities that
are generated in between. -/
def activityBatches (lax : Json → Option Int) : Machine Dispatchers ActivityEvent where
  init M := ∃ surroundings,
    M = ⟨⟨.initial surroundings, .empty _, .empty _⟩, .empty _, fun _ => none⟩
  enabled M e := ∀ next, e = .others next → M.syncs.base.KeepsActivities next
  step := Dispatchers.afterActivity lax

/-- The Command of an activity, if there is one. -/
def Dispatchers.command? (M : Dispatchers) (u : Uuid) : Option Command :=
  M.syncs.base.commands.get? (activityCommandId u)

/-- The rows and the Commands agree. -/
structure Materialized (lax : Json → Option Int) (M : Dispatchers) : Prop where
  owned : ∀ u c, M.command? u = some c →
    ∃ a, M.activities.get? u = some a ∧ a.materializationStatus = .materialized
  made : ∀ u a, M.activities.get? u = some a → a.materializationStatus = .materialized →
    a.commandId = some (activityCommandId u) ∧ ∃ c, M.command? u = some c ∧ a.Makes lax c

/-- A batch keeps the snapshots, and the rows that are not PENDING or
whose plan is PAUSED. -/
structure Batch (lax : Json → Option Int) (M₀ : Dispatchers) (xs : List ActivityOccurrence)
    (M : Dispatchers) : Prop where
  agree : Materialized lax M
  plans : M.plans = M₀.plans
  nodup : (xs.map (·.id)).Nodup
  rows : ∀ x ∈ xs, M.activities.get? x.id = some x ∧ x.materializationStatus = .pending
  marks : ∀ k r, M₀.activities.get? k = some r → ∃ r', M.activities.get? k = some r'
    ∧ r.Marks r' ∧ (r.materializationStatus ≠ .pending ∨ M₀.plans r.planId = some .paused →
      r' = r)

/-- A row without a Command is marked; if it becomes MATERIALIZED, its
Command is made with it. -/
theorem Materialized.put (h : Materialized lax M) (hput : Put M.activities a' M'.activities)
    (hid : a'.id = a.id)
    (hothers : ∀ u ≠ a.id, M'.command? u = M.command? u)
    (hown : ∀ c, M'.command? a.id = some c → a'.materializationStatus = .materialized)
    (hmade : a'.materializationStatus = .materialized → a'.commandId = some (activityCommandId a.id)
        ∧ ∃ c, M'.command? a.id = some c ∧ a'.Makes lax c) : Materialized lax M' := by
  have hkey : activityOccurrences.key a' = a.id := hid
  refine ⟨fun u c hc => ?_, fun u r hr hstatus => ?_⟩
  · by_cases hu : u = a.id
    · subst hu
      exact ⟨a', hkey ▸ hput.get?_self, hown c hc⟩
    · rw [hothers u hu] at hc
      obtain ⟨r, hr, hstatus⟩ := h.owned u c hc
      exact ⟨r, (hput.get?_ne (hkey ▸ hu)).trans hr, hstatus⟩
  · rcases hput.cases hr with ⟨rfl, rfl⟩ | ⟨hne, hold⟩
    · rw [hkey]
      exact hmade hstatus
    · rw [hothers u (hkey ▸ hne)]
      exact h.made u r hold hstatus

/-- What one activity's turn does. -/
structure Turned (lax : Json → Option Int) (M : Dispatchers) (a : ActivityOccurrence)
    (M' : Dispatchers) : Prop where
  agree : Materialized lax M'
  plans : M'.plans = M.plans
  paused : M.plans a.planId = some .paused → M' = M
  others : ∀ k ≠ a.id, M'.activities.get? k = M.activities.get? k
  marked : ∃ a', M'.activities.get? a.id = some a' ∧ a.Marks a'

open Dispatchers

theorem materializeOne_turned {draws : Uuid → Draws} {now : Time} (h : Materialized lax M)
    (ha : M.activities.get? a.id = some a) (hpending : a.materializationStatus = .pending)
    (hM : materializeOne lax draws now M a = .ok M') : Turned lax M a M' := by
  have hfree : M.command? a.id = none := by
    cases hc : M.command? a.id with
    | none => rfl
    | some c =>
      obtain ⟨r, hr, hstatus⟩ := h.owned _ c hc
      obtain rfl := Option.mem_unique ha hr
      rw [hpending] at hstatus
      cases hstatus
  have hskip {reason : String} (hplan : M.plans a.planId ≠ some .paused)
      (hM : M.updateMaterialization (a.markNonMaterializable reason now) = .ok M') :
      Turned lax M a M' := by
    obtain ⟨hsyncs, hplans, hput⟩ := updateMaterialization_put hM ha rfl
    have hcommands (u : Uuid) : M'.command? u = M.command? u := by
      unfold command?
      rw [hsyncs]
    refine ⟨h.put hput rfl (fun u _ => hcommands u) (fun c hc => ?_) fun hstatus => ?_, hplans,
      fun hpaused => absurd hpaused hplan, fun k hk => hput.get?_ne hk, _, hput.get?_self, rfl⟩
    · rw [hcommands, hfree] at hc
      cases hc
    · cases hstatus
  unfold materializeOne at hM
  split at hM
  · cases hM
  · cases hM
    exact ⟨h, rfl, fun _ => rfl, fun _ _ => rfl, a, ha, rfl⟩
  case h_3 hplan => exact hskip (by rw [hplan]; decide) hM
  case h_4 hplan =>
    have hactive : M.plans a.planId ≠ some .paused := by
      rw [hplan]
      decide
    split at hM
    · exact hskip hactive hM
    case h_2 payload hpayload =>
      simp only [steps_ok, ensureCommand] at hM
      obtain ⟨M1, ⟨⟨inserted, base⟩, hdispatch, -, rfl⟩, hM⟩ := hM
      obtain ⟨hsyncs, hplans, hput⟩ := updateMaterialization_put hM ha rfl
      unfold command? at hfree
      simp only [CommandRuntime.dispatch, Command.create, steps_ok, hfree] at hdispatch
      obtain ⟨c, ⟨-, -, rfl⟩, commands, hadd, -, rfl⟩ := hdispatch
      obtain ⟨-, hcommand⟩ := addRow_ok hadd
      have hcommands (u : Uuid) : M'.command? u = commands.get? (activityCommandId u) := by
        unfold command?
        rw [hsyncs]
      refine ⟨h.put hput rfl (fun u hu => ?_) (fun _ _ => rfl) fun _ => ⟨rfl, _,
        (hcommands a.id).trans hcommand.get?_self, hpayload, rfl, rfl, rfl, rfl⟩, hplans,
        fun hpaused => absurd hpaused hactive, fun k hk => hput.get?_ne hk, _, hput.get?_self, rfl⟩
      rw [hcommands]
      exact hcommand.get?_ne fun heq => hu (activityCommandId_injective heq)

theorem Batch.step {draws : Uuid → Draws} {now : Time} {x : ActivityOccurrence}
    {xs : List ActivityOccurrence} (h : Batch lax M₀ (x :: xs) M)
    (hM : materializeOne lax draws now M x = .ok M') : Batch lax M₀ xs M' := by
  obtain ⟨hx, hpending⟩ := h.rows x (.head _)
  have hids := List.nodup_cons.mp h.nodup
  obtain ⟨hagree, hplans, hpaused, hothers, x', hx', hmarks⟩ :=
    materializeOne_turned h.agree hx hpending hM
  refine ⟨hagree, hplans.trans h.plans, hids.2, fun y hy => ?_, fun k r hr => ?_⟩
  · obtain ⟨hrow, hstatus⟩ := h.rows y (.tail _ hy)
    refine ⟨(hothers y.id fun heq => hids.1 ?_).trans hrow, hstatus⟩
    exact List.mem_map.mpr ⟨y, hy, heq⟩
  · obtain ⟨r', hr', hmarks', hkept⟩ := h.marks k r hr
    by_cases hk : k = x.id
    · subst hk
      obtain rfl := Option.mem_unique hx hr'
      refine ⟨x', hx', ?_, fun hstill => ?_⟩
      · rw [ActivityOccurrence.Marks] at hmarks hmarks' ⊢
        rw [hmarks, hmarks']
      · obtain rfl := hkept hstill
        rcases hstill with hstatus | hplan
        · exact absurd hpending hstatus
        · rw [hpaused (h.plans ▸ hplan), hx] at hx'
          exact (Option.some.inj hx').symm
    · exact ⟨r', (hothers k hk).trans hr', hmarks', hkept⟩

/-- What any event leaves of the rows. -/
theorem Materialized.after (h : Materialized lax M) {e : ActivityEvent}
    (hen : (activityBatches lax).enabled M e) :
    Materialized lax (M.afterActivity lax e) ∧ ∀ k r, M.activities.get? k = some r → ∃ r',
        (M.afterActivity lax e).activities.get? k = some r' ∧ r.Marks r'
        ∧ (r.materializationStatus ≠ .pending ∨ M.plans r.planId = some .paused → r' = r) := by
  have hsame {P : Dispatchers} (hP : P.activities = M.activities) (k : Uuid)
      (r : ActivityOccurrence) (hr : M.activities.get? k = some r) :
      ∃ r', P.activities.get? k = some r' ∧ r.Marks r'
        ∧ (r.materializationStatus ≠ .pending ∨ M.plans r.planId = some .paused → r' = r) :=
    ⟨r, hP ▸ hr, rfl, fun _ => rfl⟩
  cases e with
  | generate b =>
    simp only [afterActivity, commit]
    split
    case h_2 => exact ⟨h, hsame rfl⟩
    case h_1 M' hM' =>
      simp only [generate, steps_ok] at hM'
      obtain ⟨activities, hadd, rfl⟩ := hM'
      obtain ⟨hfresh, hput⟩ := addRow_ok hadd
      refine ⟨⟨fun u c hc => ?_, fun u r hr hstatus => ?_⟩, fun k r hr =>
        ⟨r, hput.get?_of_fresh hfresh hr, rfl, fun _ => rfl⟩⟩
      · obtain ⟨r, hr, hstatus⟩ := h.owned u c hc
        exact ⟨r, hput.get?_of_fresh hfresh hr, hstatus⟩
      · rcases hput.cases hr with ⟨-, rfl⟩ | ⟨-, hold⟩
        · cases hstatus
        · exact h.made u r hold hstatus
  | setPlan => exact ⟨⟨h.owned, h.made⟩, hsame rfl⟩
  | others next =>
    obtain ⟨hold, hnew⟩ := hen next rfl
    refine ⟨⟨fun u c hc => ?_, fun u r hr hstatus => ?_⟩, hsame rfl⟩
    · obtain ⟨c0, hc0⟩ := hold u c hc
      exact h.owned u c0 hc0
    · obtain ⟨hid, c, hc, hmakes⟩ := h.made u r hr hstatus
      obtain ⟨c', hc', hsame⟩ := hnew u c hc
      exact ⟨hid, c', hc', by rw [hsame.payload]; exact hmakes.payload,
        hsame.commandId.trans hmakes.commandId, hsame.commandType.trans hmakes.commandType,
        hsame.accountId.trans hmakes.accountId, hsame.priority.trans hmakes.priority⟩
  | materialize seen draws now limit locked =>
    simp only [afterActivity, commit]
    split
    case h_2 => exact ⟨h, hsame rfl⟩
    case h_1 M' hM' =>
      simp only [materializeSeen, steps_ok] at hM'
      obtain ⟨hnodup, hrows⟩ :=
        duePending_spec { M with plans := seen } now limit.toNat locked
      have hbatch := foldlM_invariant (Batch lax M) (fun _ _ _ _ hB hone => hB.step hone)
        ⟨h, rfl, hnodup, hrows, hsame rfl⟩ hM'.2
      exact ⟨hbatch.agree, hbatch.marks⟩

theorem Materialized.reachable (h : (activityBatches lax).Reachable (fun _ _ => True) M) :
    Materialized lax M := by
  refine h.invariant ?_ fun M e hM hen _ => (hM.after hen).1
  rintro M ⟨W, rfl⟩
  exact ⟨fun _ _ hc => (by cases hc), fun _ _ ha => (by cases ha)⟩

/-- In every interleaving: an activity is PENDING or NON_MATERIALIZABLE
without a Command, or MATERIALIZED with the one Command its snapshot
says; and an event keeps its snapshot, the whole row once it is not
PENDING, and the whole row while its plan is PAUSED. -/
theorem activities_materialize_once (lax : Json → Option Int) (M : Dispatchers)
    (h : (activityBatches lax).Reachable (fun _ _ => True) M) (u : Uuid) (a : ActivityOccurrence)
    (ha : M.activities.get? u = some a) :
    (a.materializationStatus ≠ .materialized → M.command? u = none)
      ∧ (a.materializationStatus = .materialized → a.commandId = some (activityCommandId u)
        ∧ ∃ c, M.command? u = some c ∧ a.Makes lax c)
      ∧ ∀ e, (activityBatches lax).enabled M e → ∃ a',
        ((activityBatches lax).step M e).activities.get? u = some a' ∧ a.Marks a'
        ∧ (a.materializationStatus ≠ .pending ∨ M.plans a.planId = some .paused → a' = a) := by
  have hM := Materialized.reachable h
  refine ⟨fun hstatus => ?_, hM.made u a ha, fun e hen => (hM.after hen).2 u a ha⟩
  cases hc : M.command? u with
  | none => rfl
  | some c =>
    obtain ⟨r, hr, hmade⟩ := hM.owned u c hc
    obtain rfl := Option.mem_unique ha hr
    exact absurd hmade hstatus

/-- A check that nothing else happens. -/
def ActivityEvent.own : ActivityEvent → Bool
  | .others _ => false
  | _ => true

namespace DispatcherSample

/-- One of two activities is materialized, then the plan is paused. -/
def pausedRun : List ActivityEvent :=
  [.setPlan 5 .active, .generate (browsing 7 11), .generate (browsing 8 12),
    .materialize (fun _ => some .active) batchDraws 20 100 (fun id => decide (id = 8)),
    .setPlan 5 .paused]

/-- A batch whose selection saw the plan before. -/
def lateBatch : ActivityEvent :=
  .materialize (fun _ => some .active) batchDraws 21 100 fun _ => false

end DispatcherSample

open DispatcherSample in
theorem activities_materialize_once_paused :
    (∃ (a : ActivityOccurrence) (c : Command), a.id = 7 ∧ a.Makes strictInt c
        ∧ ((activityBatches strictInt).runs pausedRun start).command? 7 = some c)
      ∧ ∃ a : ActivityOccurrence, a.materializationStatus = .pending
        ∧ ((activityBatches strictInt).step ((activityBatches strictInt).runs pausedRun start)
          lateBatch).activities.get? 8 = some a := by
  have hrun : (activityBatches strictInt).Reachable (fun _ _ => True)
      ((activityBatches strictInt).runs pausedRun start) := by
    refine Machine.Reachable.runs (fun M e _ he => ⟨fun next hnext => ?_, trivial⟩)
      (.init ⟨Sample.world, rfl⟩) (by decide : (activityBatches strictInt).checks
        (fun _ e => e.own) pausedRun start = true)
    subst hnext
    cases he
  have hrows : (((activityBatches strictInt).runs pausedRun start).activities.get? 7).map
        (·.materializationStatus) = some .materialized
      ∧ (((activityBatches strictInt).runs pausedRun start).activities.get? 8).map
        (fun a => (a.materializationStatus, a.planId)) = some (.pending, 5) := by
    decide
  obtain ⟨a, ha, hmade⟩ := Option.map_eq_some_iff.mp hrows.1
  obtain ⟨b, hb, hpending⟩ := Option.map_eq_some_iff.mp hrows.2
  obtain ⟨hstatus, hplan⟩ := Prod.mk.inj hpending
  obtain ⟨-, c, hc, hmakes⟩ := (activities_materialize_once _ _ hrun 7 a ha).2.1 hmade
  obtain ⟨b', hb', -, hkept⟩ := (activities_materialize_once _ _ hrun 8 b hb).2.2 lateBatch
    fun next hnext => by cases hnext
  refine ⟨⟨a, c, key_of_get? ha, hmakes, hc⟩, b, hstatus, ?_⟩
  rw [hb', hkept (.inr (hplan ▸ rfl))]

end ThreadsPlatform
