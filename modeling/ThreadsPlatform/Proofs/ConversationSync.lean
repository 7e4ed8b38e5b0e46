/-
Conversation-sync schedules coalesce without overlap.

A schedule's due time is an instant of its grid after every instant it
was dispatched at, and all its Commands but the last one are finished:
the dispatcher looks at the latest dispatch before it makes another, and
no transaction reopens a finished Command. A batch works on the rows it
locked at its start; it moves a due time past `now`, so it dispatches a
schedule once.
-/
import ThreadsPlatform.Application.ConversationSync
import ThreadsPlatform.Proofs.Results
import ThreadsPlatform.Timing.Grid

namespace ThreadsPlatform

open Relational Table Timing

variable {cfg : Settings} {strftime : Time → String} {S S' S₀ : Syncs}
  {s s' : ConversationSyncSchedule} {now : Time} {commandId : String} {e : SyncEvent} {id k : Uuid}
  {d : ConversationSyncDispatch}

-- ==== the grid

open ConversationSyncSchedule

theorem onGrid_of_stored (h : S.schedules.get? k = some s) :
    0 < s.interval ∧ OnGrid s.anchorAt s.interval 1 s.nextDueAt := by
  have hcheck : s.checkConstraints = true := check_of_get? h
  simp only [checkConstraints, checks_hold] at hcheck
  obtain ⟨⟨⟨⟨⟨⟨⟨-, hbounds⟩, -⟩, hafter⟩, hslot⟩, -⟩, -⟩, -⟩ := hcheck
  have hpos : 0 < s.interval := Int.mul_pos (by omega) (by decide)
  exact ⟨hpos, (onGrid_one_iff hpos).mpr ⟨Int.sub_pos.mpr hafter, hslot⟩⟩

/-- After a dispatch the due time is the first instant after `now`. -/
theorem dueAfter_eq_next (hpos : 0 < s.interval)
    (hgrid : OnGrid s.anchorAt s.interval 1 s.nextDueAt) (hdue : s.nextDueAt ≤ now) :
    s.dueAfter now = next s.anchorAt s.interval now := by
  obtain ⟨n, hn, hslot⟩ := hgrid
  have hmul : 0 ≤ n * s.interval := Int.mul_nonneg (by omega) hpos.le
  have hanchor : s.anchorAt ≤ now := by
    have : s.anchorAt ≤ s.nextDueAt := by rw [hslot]; exact Int.le_add_of_nonneg_right hmul
    exact Int.le_trans this hdue
  rw [next_of_le hanchor, dueAfter, hslot]
  have hsplit : now - (s.anchorAt + n * s.interval) = (now - s.anchorAt) + (-n) * s.interval := by
    ring
  rw [hsplit, Int.add_mul_ediv_right _ _ hpos.ne']
  ring

-- ==== what is kept

/-- No finished Command changes. -/
def Syncs.Keeps (S S' : Syncs) : Prop :=
  ∀ f : Command, f.status.terminal = true → S.base.commands.get? f.commandId = some f →
    S'.base.commands.get? f.commandId = some f

theorem Syncs.Keeps.finished (h : S.Keeps S') (hfinished : S.finished commandId = true) :
    S'.finished commandId = true := by
  obtain ⟨c, hc, hterminal⟩ := (Option.any_eq_true ..).mp hfinished
  have hid : c.commandId = commandId := key_of_get? hc
  refine (Option.any_eq_true ..).mpr ⟨c, ?_, hterminal⟩
  exact hid ▸ h c hterminal (hid.symm ▸ hc)

theorem keeps_of_call {call : Call} (hen : (machine cfg).enabled S.base call) :
    S.Keeps { S with base := (machine cfg).step S.base call } := by
  intro f hterminal hf
  exact step_of_effects (fun t t' ht he => he.finished ht hterminal) hen hf

-- ==== one schedule

/-- A schedule was dispatched: what it and its dispatch are now. -/
structure Syncs.Dispatched (now : Time) (S S' : Syncs) (s s' : ConversationSyncSchedule)
    (d : ConversationSyncDispatch) : Prop where
  stored : S.schedules.get? s.id = some s
  active : s.status = .active
  due : s.nextDueAt ≤ now
  id : s'.id = s.id
  anchor : s'.anchorAt = s.anchorAt
  interval : s'.intervalSeconds = s.intervalSeconds
  status : s'.status = s.status
  next : s'.nextDueAt = s.dueAfter now
  schedules : Put S.schedules s' S'.schedules
  schedule : d.scheduleId = s.id
  slot : d.dueAt = s.nextDueAt
  fresh : S.dispatches.get? d.id = none
  dispatches : Put S.dispatches d S'.dispatches
  gate : ∀ l, S.latestDispatch? s.id = some l → S.finished l.commandId = true
  keeps : S.Keeps S'

/-- The invariant of the schedules. -/
structure SyncInv (S : Syncs) : Prop where
  owned : ∀ k d, S.dispatches.get? k = some d → ∃ s, S.schedules.get? d.scheduleId = some s
    ∧ d.dueAt < s.nextDueAt ∧ OnGrid s.anchorAt s.interval 1 d.dueAt
  gated : ∀ k k' d d', S.dispatches.get? k = some d → S.dispatches.get? k' = some d' →
    d.scheduleId = d'.scheduleId → d.dueAt < d'.dueAt → S.finished d.commandId = true

theorem dispatch_unique {k' : Uuid} {d' : ConversationSyncDispatch}
    (hd : S.dispatches.get? k = some d) (hd' : S.dispatches.get? k' = some d')
    (hschedule : d.scheduleId = d'.scheduleId) (hdue : d.dueAt = d'.dueAt) : d = d' := by
  have hkey : k = k' := by
    by_contra hne
    have hclash := clash_of_get? hd hd' hne
    simp [conversationSyncDispatches, hschedule, hdue] at hclash
  subst hkey
  exact Option.mem_unique hd hd'

/-- The latest dispatch is none of those before another. -/
theorem latest_spec {scheduleId : Uuid} (hd : S.dispatches.get? k = some d)
    (hschedule : d.scheduleId = scheduleId) :
    ∃ l, S.latestDispatch? scheduleId = some l ∧ S.dispatches.get? l.id = some l
      ∧ l.scheduleId = scheduleId ∧ d.dueAt ≤ l.dueAt := by
  have hmem : d ∈ S.dispatches.rows.filter fun d => decide (d.scheduleId = scheduleId) := by
    simp only [List.mem_filter, decide_eq_true_eq]
    exact ⟨mem_of_get? hd, hschedule⟩
  have : Std.Total fun a b : ConversationSyncDispatch => b.dueAt ≤ a.dueAt :=
    ⟨fun a b => Int.le_total b.dueAt a.dueAt⟩
  have : IsTrans ConversationSyncDispatch fun a b => b.dueAt ≤ a.dueAt :=
    ⟨fun _ _ _ hab hbc => Int.le_trans hbc hab⟩
  obtain ⟨l, hl⟩ := firstBy_of_mem (fun a b : ConversationSyncDispatch => b.dueAt ≤ a.dueAt) hmem
  have hrow := firstBy_mem _ hl
  simp only [List.mem_filter, decide_eq_true_eq] at hrow
  have hfirst := firstBy_before (fun a b : ConversationSyncDispatch => b.dueAt ≤ a.dueAt) hl hmem
  exact ⟨l, hl, get?_eq_some_iff.mpr ⟨hrow.1, rfl⟩, hrow.2, hfirst⟩

namespace Syncs.Dispatched

variable (h : S.Dispatched now S' s s' d)
include h

/-- The due time is past `now`, on the grid. -/
theorem next_eq : s'.nextDueAt = Timing.next s.anchorAt s.interval now := by
  obtain ⟨hpos, hgrid⟩ := onGrid_of_stored h.stored
  rw [h.next, dueAfter_eq_next hpos hgrid h.due]

theorem now_lt_next : now < s'.nextDueAt := by
  rw [h.next_eq]
  exact lt_next (onGrid_of_stored h.stored).1 now

theorem interval_eq : s'.interval = s.interval := by
  unfold ConversationSyncSchedule.interval
  rw [h.interval]

theorem schedule_self : S'.schedules.get? s.id = some s' :=
  h.id ▸ h.schedules.get?_self

theorem schedule_ne (hk : k ≠ s.id) : S'.schedules.get? k = S.schedules.get? k :=
  h.schedules.get?_ne (by rw [show conversationSyncSchedules.key s' = s.id from h.id]; exact hk)

theorem inv (hS : SyncInv S) : SyncInv S' := by
  have hlate : s.nextDueAt < s'.nextDueAt := Int.lt_of_le_of_lt h.due h.now_lt_next
  constructor
  · intro k e he
    rcases h.dispatches.cases he with ⟨-, rfl⟩ | ⟨-, hold⟩
    · refine ⟨s', h.schedule ▸ h.schedule_self, h.slot ▸ hlate, ?_⟩
      rw [h.anchor, h.interval_eq, h.slot]
      exact (onGrid_of_stored h.stored).2
    · obtain ⟨r, hr, hlt, hgrid⟩ := hS.owned k e hold
      by_cases hsame : e.scheduleId = s.id
      · obtain rfl := Option.some.inj (h.stored.symm.trans (hsame ▸ hr))
        refine ⟨s', hsame ▸ h.schedule_self, Int.lt_trans hlt hlate, ?_⟩
        rw [h.anchor, h.interval_eq]
        exact hgrid
      · exact ⟨r, (h.schedule_ne hsame).trans hr, hlt, hgrid⟩
  · intro k k' e e' he he' hsame hlt
    -- only the new dispatch is later than an old one, and the gate was asked about those
    rcases h.dispatches.cases he with ⟨-, rfl⟩ | ⟨-, hold⟩
    · rcases h.dispatches.cases he' with ⟨-, rfl⟩ | ⟨-, hold'⟩
      · exact absurd hlt (Int.lt_irrefl _)
      · obtain ⟨r, hr, hbefore, -⟩ := hS.owned k' e' hold'
        rw [← hsame, h.schedule] at hr
        obtain rfl := Option.mem_unique h.stored hr
        rw [h.slot] at hlt
        exact absurd (Int.lt_trans hlt hbefore) (Int.lt_irrefl _)
    · refine h.keeps.finished ?_
      rcases h.dispatches.cases he' with ⟨-, rfl⟩ | ⟨-, hold'⟩
      · obtain ⟨l, hlatest, hl, hschedule, hle⟩ := latest_spec hold (hsame.trans h.schedule)
        rcases Int.lt_or_eq_of_le hle with hlt' | heq
        · exact hS.gated k l.id e l hold hl ((hsame.trans h.schedule).trans hschedule.symm) hlt'
        · obtain rfl : e = l :=
            dispatch_unique hold hl ((hsame.trans h.schedule).trans hschedule.symm) heq
          exact h.gate e hlatest
      · exact hS.gated k k' e e' hold hold' hsame hlt

end Syncs.Dispatched

-- ==== the dispatcher

theorem updateSchedule_ok (h : S.updateSchedule s' = .ok S') :
    (∃ record, S.schedules.get? s'.id = some record
      ∧ (record.status = .disabled → s'.status = .disabled))
      ∧ Put S.schedules s' S'.schedules ∧ S'.dispatches = S.dispatches ∧ S'.base = S.base := by
  unfold Syncs.updateSchedule at h
  split at h
  · cases h
  rename_i record hrecord
  simp only [steps_ok] at h
  obtain ⟨-, -, hdisabled, schedules, hput, rfl⟩ := h
  exact ⟨⟨record, hrecord, hdisabled⟩, (updateRow_ok hput).2, rfl, rfl⟩

/-- The Command of a due time leaves the schedules and every finished
Command alone. -/
theorem ensureCommand_ok {d : SyncDraws} (h : S.ensureCommand strftime d now s = .ok S') :
    S'.schedules = S.schedules ∧ S'.dispatches = S.dispatches ∧ S.Keeps S' := by
  simp only [Syncs.ensureCommand, CommandRuntime.dispatch, steps_ok] at h
  obtain ⟨⟨inserted, base⟩, ⟨c, -, hdispatch⟩, -, rfl⟩ := h
  refine ⟨rfl, rfl, fun f hterminal hf => ?_⟩
  split at hdispatch
  · simp only [pure_eq_ok, Prod.mk.injEq] at hdispatch
    obtain ⟨-, rfl⟩ := hdispatch
    exact hf
  · simp only [steps_ok] at hdispatch
    obtain ⟨commands, hcommands, -, rfl⟩ := hdispatch
    obtain ⟨hfresh, hput⟩ := addRow_ok hcommands
    exact hput.get?_of_fresh hfresh hf

theorem scheduleDispatch_ok (h : s.dispatch id commandId now = .ok (d, s')) :
    s.status = .active ∧ s.nextDueAt ≤ now ∧ d = ⟨id, s.id, s.revision, s.nextDueAt, commandId, now⟩
      ∧ s' = { s with
        nextDueAt := s.dueAfter now
        lastDispatchedDueAt := some s.nextDueAt
        lastCommandId := some commandId
        updatedAt := now } := by
  simp only [dispatch, steps_ok] at h
  obtain ⟨hactive, hdue, -, -, -, -, rfl, rfl⟩ := h
  exact ⟨hactive, hdue, rfl, rfl⟩

/-- A due time that lies ahead was not dispatched before. -/
theorem addDispatch_ok (hS : SyncInv S) (hstored : S.schedules.get? d.scheduleId = some s)
    (hdue : s.nextDueAt ≤ d.dueAt) (h : S.addDispatch d = .ok S') :
    S.dispatches.get? d.id = none ∧ Put S.dispatches d S'.dispatches
      ∧ S'.schedules = S.schedules ∧ S'.base = S.base := by
  unfold Syncs.addDispatch at h
  split at h
  · rename_i stored hfound
    have hmem := List.mem_of_find?_eq_some hfound
    have hsame := List.find?_some hfound
    simp only [checks_hold] at hsame
    obtain ⟨r, hr, hlt, -⟩ := hS.owned stored.id stored (get?_eq_some_iff.mpr ⟨hmem, rfl⟩)
    rw [hsame.1] at hr
    obtain rfl := Option.mem_unique hstored hr
    rw [hsame.2] at hlt
    exact absurd (Int.lt_of_le_of_lt hdue hlt) (Int.lt_irrefl _)
  · simp only [steps_ok] at h
    obtain ⟨dispatches, hadd, rfl⟩ := h
    obtain ⟨hfresh, hput⟩ := addRow_ok hadd
    exact ⟨hfresh, hput, rfl, rfl⟩

theorem mayDispatch_ok (h : S.mayDispatch s = .ok true) :
    ∀ l, S.latestDispatch? s.id = some l → S.finished l.commandId = true := by
  intro l hl
  simp only [Syncs.mayDispatch, hl, steps_ok, Bool.and_eq_true] at h
  exact h.2.1

theorem dispatchSchedule_ok {d : SyncDraws} (hS : SyncInv S)
    (hstored : S.schedules.get? s.id = some s)
    (hgate : ∀ l, S.latestDispatch? s.id = some l → S.finished l.commandId = true)
    (h : S.dispatchSchedule strftime d now s = .ok S') :
    ∃ s' dispatch, S.Dispatched now S' s s' dispatch := by
  simp only [Syncs.dispatchSchedule, bind_eq_ok] at h
  obtain ⟨S1, h1, ⟨dispatch, s'⟩, hdispatch, S2, h2, h3⟩ := h
  obtain ⟨hschedules, hdispatches, hkeeps⟩ := ensureCommand_ok h1
  obtain ⟨hactive, hdue, hd, hs'⟩ := scheduleDispatch_ok hdispatch
  dsimp only at h2 h3
  have hS1 : SyncInv S1 := by
    constructor
    · rw [hschedules, hdispatches]
      exact hS.owned
    · intro k k' e e' he he' hsame hlt
      rw [hdispatches] at he he'
      exact hkeeps.finished (hS.gated k k' e e' he he' hsame hlt)
  obtain ⟨hfresh, hputd, hschedules2, hbase2⟩ :=
    addDispatch_ok hS1 (by rw [hschedules, hd]; exact hstored) (by rw [hd]) h2
  obtain ⟨-, hput, hdispatches3, hbase3⟩ := updateSchedule_ok h3
  rw [hdispatches] at hfresh hputd
  rw [hschedules2, hschedules] at hput
  rw [← hdispatches3] at hputd
  refine ⟨s', dispatch, hstored, hactive, hdue, ?_, ?_, ?_, ?_, ?_, hput, ?_, ?_, hfresh, hputd,
    hgate, fun f hterminal hf => ?_⟩
  iterate 5 rw [hs']
  iterate 2 rw [hd]
  rw [hbase3, hbase2]
  exact hkeeps f hterminal hf

theorem dispatchOne_ok {d : SyncDraws} (hS : SyncInv S) (hstored : S.schedules.get? s.id = some s)
    (h : Syncs.dispatchOne strftime d now S s = .ok S') :
    S' = S ∨ ∃ s' dispatch, S.Dispatched now S' s s' dispatch := by
  simp only [Syncs.dispatchOne, bind_eq_ok] at h
  obtain ⟨may, hmay, h⟩ := h
  split at h
  · rename_i htrue
    subst htrue
    exact .inr (dispatchSchedule_ok hS hstored (mayDispatch_ok hmay) h)
  · exact .inl (Except.ok.inj h).symm

-- ==== the batch

namespace Syncs

/-- A schedule a transaction did not dispatch. -/
def Untouched (S₀ S : Syncs) (s : ConversationSyncSchedule) : Prop :=
  S.schedules.get? s.id = some s ∧ ∀ k d, S.dispatches.get? k = some d → d.scheduleId = s.id →
    S₀.dispatches.get? k = some d

/-- One that a batch dispatched, once. -/
def Advanced (now : Time) (S₀ S : Syncs) (s : ConversationSyncSchedule) : Prop :=
  s.status = .active ∧ s.nextDueAt ≤ now ∧ (∃ s', S.schedules.get? s.id = some s'
      ∧ s'.nextDueAt = Timing.next s.anchorAt s.interval now)
    ∧ ∃ d, S₀.dispatches.get? d.id = none ∧ S.dispatches.get? d.id = some d
      ∧ d.scheduleId = s.id ∧ d.dueAt = s.nextDueAt
      ∧ ∀ k e, S.dispatches.get? k = some e → e.scheduleId = s.id →
        S₀.dispatches.get? k = some e ∨ e = d

/-- What a batch has done so far. -/
structure Batched (now : Time) (S₀ S : Syncs) : Prop where
  inv : SyncInv S
  outcome : ∀ s, S₀.schedules.get? s.id = some s → S₀.Untouched S s ∨ Advanced now S₀ S s
  kept : ∀ k d, S₀.dispatches.get? k = some d → S.dispatches.get? k = some d

end Syncs

theorem Syncs.Batched.dispatched (hB : Syncs.Batched now S₀ S) {x x' : ConversationSyncSchedule}
    (hx : S₀.schedules.get? x.id = some x) (h : S.Dispatched now S' x x' d) :
    Syncs.Batched now S₀ S' := by
  refine ⟨h.inv hB.inv, fun s hs => ?_, fun k e he =>
    h.dispatches.get?_of_fresh h.fresh (hB.kept k e he)⟩
  by_cases hsame : s.id = x.id
  · obtain rfl := Option.some.inj (hs.symm.trans (hsame ▸ hx))
    rcases hB.outcome s hs with ⟨-, hnone⟩ | ⟨-, -, ⟨s', hs', hnext⟩, -⟩
    · refine .inr ⟨h.active, h.due, ⟨x', h.schedule_self, h.next_eq⟩, d, ?_,
        h.dispatches.get?_self, h.schedule, h.slot, fun k e he hschedule => ?_⟩
      · cases hold : S₀.dispatches.get? d.id with
        | none => rfl
        | some e =>
          have hkept := hB.kept d.id e hold
          rw [h.fresh] at hkept
          cases hkept
      · rcases h.dispatches.cases he with ⟨-, rfl⟩ | ⟨-, hold⟩
        · exact .inr rfl
        · exact .inl (hnone k e hold hschedule)
    · obtain rfl := Option.mem_unique h.stored hs'
      have hlt : now < Timing.next s.anchorAt s.interval now :=
        lt_next (onGrid_of_stored h.stored).1 now
      rw [← hnext] at hlt
      exact absurd (Int.lt_of_lt_of_le hlt h.due) (Int.lt_irrefl _)
  · have hother {k : Uuid} {e : ConversationSyncDispatch} (he : S'.dispatches.get? k = some e)
        (hschedule : e.scheduleId = s.id) : S.dispatches.get? k = some e := by
      rcases h.dispatches.cases he with ⟨-, rfl⟩ | ⟨-, hold⟩
      · exact absurd (hschedule.symm.trans h.schedule) hsame
      · exact hold
    rcases hB.outcome s hs with ⟨hrow, hnone⟩ | ⟨hactive, hdue, ⟨s', hs', hnext⟩, e, hrest⟩
    · exact .inl ⟨(h.schedule_ne hsame).trans hrow,
        fun k e he hschedule => hnone k e (hother he hschedule) hschedule⟩
    · obtain ⟨hnew, hstored, hschedule, hslot, honly⟩ := hrest
      exact .inr ⟨hactive, hdue, ⟨s', (h.schedule_ne hsame).trans hs', hnext⟩, e, hnew,
        h.dispatches.get?_of_fresh h.fresh hstored, hschedule, hslot,
        fun k e' he' hschedule' => honly k e' (hother he' hschedule') hschedule'⟩

theorem dueForUpdate_spec (S : Syncs) (now : Time) (limit : Nat) (locked : Uuid → Bool) :
    ((S.dueForUpdate now limit locked).map (·.id)).Nodup
      ∧ ∀ s ∈ S.dueForUpdate now limit locked, S.schedules.get? s.id = some s := by
  constructor
  · unfold Syncs.dueForUpdate
    refine ((List.take_sublist _ _).map _).nodup ?_
    rw [((List.perm_insertionSort scheduleBefore _).map _).nodup_iff]
    exact (List.filter_sublist.map _).nodup S.schedules.keysNodup
  · intro s hs
    have hmem := (List.mem_insertionSort scheduleBefore).mp (List.mem_of_mem_take hs)
    exact get?_eq_some_iff.mpr ⟨(List.mem_filter.mp hmem).1, rfl⟩

theorem dispatchDue_batched {d : SyncDraws} {limit : Int} {locked : Uuid → Bool} (hS : SyncInv S)
    (h : Syncs.dispatchDue strftime d now limit locked S = .ok S') : Syncs.Batched now S S' := by
  simp only [Syncs.dispatchDue, steps_ok] at h
  obtain ⟨-, h⟩ := h
  obtain ⟨hnodup, hstored⟩ := dueForUpdate_spec S now limit.toNat locked
  have hstart : Syncs.Batched now S S :=
    ⟨hS, fun s hs => .inl ⟨hs, fun k d hd _ => hd⟩, fun k d hd => hd⟩
  -- the rows still to come are as they were when they were locked
  refine (foldlM_invariant (fun xs t => Syncs.Batched now S t ∧ (xs.map (·.id)).Nodup
    ∧ ∀ x ∈ xs, S.schedules.get? x.id = some x ∧ t.schedules.get? x.id = some x) ?_
    ⟨hstart, hnodup, fun x hx => ⟨hstored x hx, hstored x hx⟩⟩ h).1
  rintro x xs t t' ⟨hB, hids, hrows⟩ hone
  obtain ⟨hx0, hx⟩ := hrows x (.head _)
  rw [List.map_cons, List.nodup_cons] at hids
  rcases dispatchOne_ok hB.inv hx hone with rfl | ⟨x', e, hdispatched⟩
  · exact ⟨hB, hids.2, fun y hy => hrows y (.tail _ hy)⟩
  · refine ⟨hB.dispatched hx0 hdispatched, hids.2, fun y hy => ?_⟩
    obtain ⟨hy0, hyt⟩ := hrows y (.tail _ hy)
    refine ⟨hy0, (hdispatched.schedule_ne fun heq => hids.1 ?_).trans hyt⟩
    exact heq ▸ List.mem_map_of_mem hy

-- ==== the step

/-- A schedule that keeps its due time, and creates nothing. -/
def Syncs.Rests (S S' : Syncs) (s : ConversationSyncSchedule) : Prop :=
  (∃ s', S'.schedules.get? s.id = some s' ∧ s'.nextDueAt = s.nextDueAt
    ∧ (s.status = .disabled → s'.status = .disabled))
    ∧ ∀ k d, S'.dispatches.get? k = some d → d.scheduleId = s.id → S.dispatches.get? k = some d

theorem transition_ok {target : ConversationSyncScheduleStatus} {at_ : Time} {reason : String}
    (h : S.transition id target at_ reason = .ok S') :
    ∃ s s', S.schedules.get? s.id = some s ∧ s'.id = s.id ∧ s'.anchorAt = s.anchorAt
      ∧ s'.intervalSeconds = s.intervalSeconds ∧ s'.nextDueAt = s.nextDueAt
      ∧ (s.status = .disabled → s'.status = .disabled) ∧ Put S.schedules s' S'.schedules
      ∧ S'.dispatches = S.dispatches ∧ S'.base = S.base := by
  simp only [Syncs.transition, transition, steps_ok] at h
  obtain ⟨s, hs, s', ⟨-, -, -, rfl⟩, hupdate⟩ := h
  obtain ⟨⟨record, hrecord, hdisabled⟩, hput, hdispatches, hbase⟩ := updateSchedule_ok hupdate
  have hid : s.id = id := key_of_get? hs
  obtain rfl := Option.mem_unique (hid ▸ hs) hrecord
  refine ⟨s, _, hrecord, ?_, ?_, ?_, ?_, hdisabled, hput, hdispatches, hbase⟩ <;> rfl

/-- Every transaction keeps the invariant, and every schedule rests or is
dispatched by a batch. -/
theorem SyncInv.after (hS : SyncInv S) (hen : (conversationSyncs cfg strftime).enabled S e) :
    SyncInv (S.after cfg strftime e)
      ∧ ∀ s, S.schedules.get? s.id = some s → S.Rests (S.after cfg strftime e) s
        ∨ ∃ d now limit locked, e = .dispatchDue d now limit locked
          ∧ Syncs.Advanced now S (S.after cfg strftime e) s := by
  have hrefl : SyncInv S ∧ ∀ s, S.schedules.get? s.id = some s → S.Rests S s
      ∨ ∃ d now limit locked, e = .dispatchDue d now limit locked ∧ Syncs.Advanced now S S s :=
    ⟨hS, fun s hs => .inl ⟨⟨s, hs, rfl, id⟩, fun k d hd _ => hd⟩⟩
  cases e with
  | call call =>
    have hkeeps := keeps_of_call (S := S) (hen call rfl)
    exact ⟨⟨hS.owned, fun k k' d d' hd hd' hsame hlt =>
      hkeeps.finished (hS.gated k k' d d' hd hd' hsame hlt)⟩,
      fun s hs => .inl ⟨⟨s, hs, rfl, id⟩, fun k d hd _ => hd⟩⟩
  | add schedule =>
    simp only [Syncs.after]
    cases h : S.add schedule with
    | error => exact hrefl
    | ok S' =>
      simp only [Syncs.add, steps_ok] at h
      obtain ⟨-, -, -, schedules, hadd, rfl⟩ := h
      obtain ⟨hfresh, hput⟩ := addRow_ok hadd
      refine ⟨⟨fun k d hd => ?_, hS.gated⟩, fun s hs =>
        .inl ⟨⟨s, hput.get?_of_fresh hfresh hs, rfl, id⟩, fun k d hd _ => hd⟩⟩
      obtain ⟨s, hs, hrest⟩ := hS.owned k d hd
      exact ⟨s, hput.get?_of_fresh hfresh hs, hrest⟩
  | transition id target at_ reason =>
    simp only [Syncs.after]
    cases h : S.transition id target at_ reason with
    | error => exact hrefl
    | ok S' =>
      obtain ⟨r, r', hr, hid, hanchor, hinterval, hnext, hdisabled, hput, hdispatches, hbase⟩ :=
        transition_ok h
      have hkey : conversationSyncSchedules.key r' = r.id := hid
      have hrow {k : Uuid} {s : ConversationSyncSchedule} (hs : S.schedules.get? k = some s) :
          ∃ s', S'.schedules.get? k = some s' ∧ s'.anchorAt = s.anchorAt
            ∧ s'.intervalSeconds = s.intervalSeconds ∧ s'.nextDueAt = s.nextDueAt
            ∧ (s.status = .disabled → s'.status = .disabled) := by
        by_cases hk : k = r.id
        · subst hk
          obtain rfl := Option.mem_unique hr hs
          exact ⟨r', hkey ▸ hput.get?_self, hanchor, hinterval, hnext, hdisabled⟩
        · exact ⟨s, (hput.get?_ne (by rw [hkey]; exact hk)).trans hs, rfl, rfl, rfl, fun h => h⟩
      have hfinished (commandId : String) : S'.finished commandId = S.finished commandId := by
        unfold Syncs.finished
        rw [hbase]
      refine ⟨⟨fun k d hd => ?_, fun k k' d d' hd hd' hsame hlt => ?_⟩, fun s hs => .inl ⟨?_, ?_⟩⟩
      · obtain ⟨s, hs, hlt, hgrid⟩ := hS.owned k d (hdispatches ▸ hd)
        obtain ⟨s', hs', ha, hi, hn, -⟩ := hrow hs
        refine ⟨s', hs', hn ▸ hlt, ?_⟩
        rw [ha, show s'.interval = s.interval by
          unfold interval; rw [hi]]
        exact hgrid
      · rw [commit_ok, hfinished]
        exact hS.gated k k' d d' (hdispatches ▸ hd) (hdispatches ▸ hd') hsame hlt
      · obtain ⟨s', hs', -, -, hn, hd⟩ := hrow hs
        exact ⟨s', hs', hn, hd⟩
      · intro k d hd _
        exact hdispatches ▸ hd
  | dispatchDue d now limit locked =>
    simp only [Syncs.after]
    cases h : Syncs.dispatchDue strftime d now limit locked S with
    | error => exact hrefl
    | ok S' =>
      have hB := dispatchDue_batched hS h
      refine ⟨hB.inv, fun s hs => ?_⟩
      rcases hB.outcome s hs with ⟨hrow, hnone⟩ | hadvanced
      · exact .inl ⟨⟨s, hrow, rfl, fun h => h⟩, hnone⟩
      · exact .inr ⟨d, now, limit, locked, rfl, hadvanced⟩

theorem SyncInv.reachable
    (h : (conversationSyncs cfg strftime).Reachable (fun _ _ => True) S) : SyncInv S := by
  refine h.invariant ?_ fun S e hS hen _ => (hS.after hen).1
  rintro S ⟨W, rfl⟩
  exact ⟨fun _ _ h => (by cases h), fun _ _ _ _ h => (by cases h)⟩

/-- A DISABLED schedule stays so, and is dispatched no more. -/
theorem disabled_for_good (hS : SyncInv S) (hs : S.schedules.get? s.id = some s)
    (hdisabled : s.status = .disabled)
    (h : ((conversationSyncs cfg strftime).startingAt S).Reachable (fun _ _ => True) S')
    (hd : S'.dispatches.get? k = some d) (hschedule : d.scheduleId = s.id) :
    S.dispatches.get? k = some d := by
  have hrun := Machine.Reachable.after (I := fun T => SyncInv T
    ∧ (∃ t, T.schedules.get? s.id = some t ∧ t.status = .disabled)
    ∧ ∀ k d, T.dispatches.get? k = some d → d.scheduleId = s.id → S.dispatches.get? k = some d)
    ⟨hS, ⟨s, hs, hdisabled⟩, fun _ _ hd _ => hd⟩ ?_ h
  · exact hrun.2.2 k d hd hschedule
  rintro T e ⟨hT, ⟨t, ht, hstatus⟩, hold⟩ hen -
  obtain ⟨hinv, hsteps⟩ := hT.after hen
  have hid : t.id = s.id := key_of_get? ht
  rcases hsteps t (hid.symm ▸ ht) with ⟨⟨t', ht', -, hkept⟩, hnone⟩ | ⟨_, _, _, _, -, hactive, -⟩
  · exact ⟨hinv, ⟨t', hid ▸ ht', hkept hstatus⟩, fun k d hd hschedule =>
      hold k d (hnone k d hd (hschedule.trans hid.symm)) hschedule⟩
  · rw [hstatus] at hactive
    cases hactive

/-- In every run: a schedule has at most one dispatched Command that is not
finished; its dispatches are at distinct instants of its grid, all before
its due time; a transaction leaves its due time and creates nothing, or
is a batch that dispatches an ACTIVE schedule once, at its due time, and
moves that to the first instant after `now`; and a DISABLED schedule is
never dispatched again. -/
theorem conversation_syncs_coalesce (cfg : Settings) (strftime : Time → String) (S : Syncs)
    (h : (conversationSyncs cfg strftime).Reachable (fun _ _ => True) S) :
    (∀ k k' d d', S.dispatches.get? k = some d → S.dispatches.get? k' = some d' →
        d.scheduleId = d'.scheduleId → S.finished d.commandId = false →
        S.finished d'.commandId = false → d = d')
      ∧ (∀ k d, S.dispatches.get? k = some d → ∃ s, S.schedules.get? d.scheduleId = some s
        ∧ d.dueAt < s.nextDueAt ∧ OnGrid s.anchorAt s.interval 1 d.dueAt)
      ∧ (∀ k k' d d', S.dispatches.get? k = some d → S.dispatches.get? k' = some d' →
        d.scheduleId = d'.scheduleId → d.dueAt = d'.dueAt → d = d')
      ∧ (∀ e, (conversationSyncs cfg strftime).enabled S e →
        ∀ s, S.schedules.get? s.id = some s → S.Rests (S.after cfg strftime e) s
          ∨ ∃ d now limit locked, e = .dispatchDue d now limit locked
            ∧ Syncs.Advanced now S (S.after cfg strftime e) s)
      ∧ ∀ s S', S.schedules.get? s.id = some s → s.status = .disabled →
        ((conversationSyncs cfg strftime).startingAt S).Reachable (fun _ _ => True) S' →
        ∀ k d, S'.dispatches.get? k = some d → d.scheduleId = s.id →
          S.dispatches.get? k = some d := by
  have hS := SyncInv.reachable h
  refine ⟨fun k k' d d' hd hd' hsame hopen hopen' => ?_, hS.owned,
    fun k k' d d' hd hd' hsame hdue => dispatch_unique hd hd' hsame hdue,
    fun e hen => (hS.after hen).2, fun s S' hs hdisabled hrun k d hd hschedule =>
      disabled_for_good hS hs hdisabled hrun hd hschedule⟩
  rcases Int.lt_trichotomy d.dueAt d'.dueAt with hlt | heq | hgt
  · rw [hS.gated k k' d d' hd hd' hsame hlt] at hopen
    cases hopen
  · exact dispatch_unique hd hd' hsame heq
  · rw [hS.gated k' k d' d hd' hd hsame.symm hgt] at hopen'
    cases hopen'

-- ==== sample

namespace SyncSample

open Sample

/-- Every fifteen minutes, from the start. -/
def schedule : ConversationSyncSchedule where
  id := 9
  accountId := 1
  threadsPostId := "17900"
  syncKind := .replies
  anchorAt := 0
  intervalSeconds := 900
  nextDueAt := 900000000
  createdAt := 0
  status := .active
  statusReason := none
  revision := 1
  lastDispatchedDueAt := none
  lastCommandId := none
  updatedAt := 0

/-- The identifiers a batch draws. -/
def syncDraws : SyncDraws := ⟨fun _ => draws 9, fun _ => 10⟩

/-- A post is published and scheduled, and a scheduler comes back after an
hour. -/
def hourLater : List SyncEvent :=
  [.call (call 1 0 (.receive (publish "post" 0 (some 5000)))), .call (call 2 1 (.process "post")),
    .call (call 3 2 (.finishSuccess ⟨"post", 1, 201, 1, 202, some 1⟩
      ⟨[], [⟨8, 1, "17900", []⟩], [], []⟩)),
    .add schedule, .dispatchDue syncDraws 3600000000 100 (fun _ => false)]

/-- Nothing is stored yet. -/
def start : Syncs := ⟨.initial apiWorld, .empty _, .empty _⟩

/-- A check that every claim was given. -/
def claimsGiven (S : Syncs) : SyncEvent → Bool
  | .call call => call.op.claim?.all fun claim => decide (claim ∈ S.base.claims)
  | _ => true

theorem enabled_of_claimsGiven {cfg : Settings} {strftime : Time → String} {S : Syncs}
    (h : claimsGiven S e = true) : (conversationSyncs cfg strftime).enabled S e := by
  rintro call rfl claim hclaim
  simp only [claimsGiven, hclaim, Option.all_some, decide_eq_true_eq] at h
  exact h

/-- The machine of the sample; due times are written as numbers. -/
def sampleSyncs : Machine Syncs SyncEvent := conversationSyncs settings toString

theorem hourLater_reachable :
    sampleSyncs.Reachable (fun _ _ => True) (sampleSyncs.runs hourLater start) :=
  Machine.Reachable.runs (fun _ _ _ h => ⟨enabled_of_claimsGiven h, trivial⟩)
    (.init ⟨apiWorld, rfl⟩)
    (by decide : sampleSyncs.checks claimsGiven hourLater start = true)

end SyncSample

open SyncSample in
theorem conversation_syncs_coalesce_hour :
    ((sampleSyncs.runs hourLater start).dispatches.get? 10).map (·.dueAt) = some 900000000
      ∧ ((sampleSyncs.runs hourLater start).schedules.get? 9).map (·.nextDueAt) = some 4500000000
      ∧ ∀ k k' d d', (sampleSyncs.runs hourLater start).dispatches.get? k = some d →
        (sampleSyncs.runs hourLater start).dispatches.get? k' = some d' →
        d.scheduleId = d'.scheduleId → d.dueAt = d'.dueAt → d = d' :=
  ⟨by decide, by decide,
    (conversation_syncs_coalesce _ _ _ hourLater_reachable).2.2.1⟩

end ThreadsPlatform
