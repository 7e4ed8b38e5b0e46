/-
What the nurture runner remembers of its targets, and whom it answers.

# The document

A write puts one target in the place of the one with its fingerprint;
the size cap may drop others, but only observed or confirmed ones
(`Touches`). `spares` is when it drops no confirmed one.

# Runs

`NurtureStep` says once what an event can do. A mutation is called only
under a PENDING record of the calling run; an unresolved record stays
and blocks its target for ever. A confirmed record does so only as long
as the size cap spares it, and two thousand other targets later it does
not.
-/
import ThreadsPlatform.Standalone.Nurture

namespace ThreadsPlatform

open Relational NurtureAccountLock NurtureRunner

variable {d d' : NurtureTargetState} {t u target : NurtureTarget} {fp : Fingerprint}
  {l kept : List NurtureTarget} {protect : Option Fingerprint} {running : RunId → Bool}
  {runId : RunId} {decision : TargetDecision} {now : Time} {write : DocumentWrite}
  {targets : List NurtureTarget} {candidate : NurtureCandidate} {run : NurtureRun}

-- ==== the document

open NurtureTarget

theorem validTargets_iff : validTargets l = true ↔ l.length ≤ maxNurtureTargets
    ∧ (l.map fingerprint).Nodup ∧ ∀ t ∈ l, t.valid = true := by
  simp only [validTargets, checks_hold, List.all_eq_true, and_assoc]

namespace NurtureTargetState

theorem length_le (d : NurtureTargetState) : d.targets.length ≤ maxNurtureTargets :=
  (validTargets_iff.mp d.valid).1

theorem nodup (d : NurtureTargetState) : (d.targets.map fingerprint).Nodup :=
  (validTargets_iff.mp d.valid).2.1

theorem ofTargets_eq_ok (h : ofTargets l = .ok d) : d.targets = l := by
  unfold ofTargets at h
  split at h
  · rw [← Except.ok.inj h]
  · cases h

/-- No confirmed target is next to be dropped. -/
def spares (d : NurtureTargetState) (fp : Fingerprint) : Prop :=
  d.targets.length < maxNurtureTargets ∨ (∃ t ∈ d.targets, t.fingerprint = fp)
    ∨ ∀ t ∈ d.targets, t.actionState = .confirmed →
      ∃ u ∈ d.targets, u.actionState = .none ∧ u.sighting < t.sighting

end NurtureTargetState

theorem eq_of_fingerprint (hl : (l.map fingerprint).Nodup) (ht : t ∈ l) (hu : u ∈ l)
    (h : t.fingerprint = u.fingerprint) : t = u :=
  List.inj_on_of_nodup_map hl ht hu h

theorem findTarget_eq_none : findTarget l fp = none ↔ ∀ t ∈ l, t.fingerprint ≠ fp := by
  simp only [findTarget, List.find?_eq_none, beq_iff_eq]

theorem findTarget_mem (h : findTarget l fp = some t) : t ∈ l ∧ t.fingerprint = fp := by
  refine ⟨List.mem_of_find?_eq_some h, ?_⟩
  simpa only [beq_iff_eq] using List.find?_some h

theorem findTarget_of_mem (hl : (l.map fingerprint).Nodup) (ht : t ∈ l) :
    findTarget l t.fingerprint = some t := by
  cases h : findTarget l t.fingerprint with
  | none => exact absurd rfl (findTarget_eq_none.mp h t ht)
  | some u =>
    obtain ⟨hu, heq⟩ := findTarget_mem h
    rw [eq_of_fingerprint hl hu ht heq]

theorem mem_setTarget :
    t ∈ setTarget l target ↔ t = target ∨ t ∈ l ∧ t.fingerprint ≠ target.fingerprint := by
  unfold setTarget
  split
  case isTrue h =>
    obtain ⟨old, hold⟩ := Option.isSome_iff_exists.mp h
    obtain ⟨hmem, heq⟩ := findTarget_mem hold
    rw [List.mem_map]
    constructor
    · rintro ⟨u, hu, rfl⟩
      split
      · exact .inl rfl
      case isFalse hne => exact .inr ⟨hu, hne⟩
    · rintro (rfl | ⟨ht, hne⟩)
      · exact ⟨old, hmem, if_pos heq⟩
      · exact ⟨t, ht, if_neg hne⟩
  case isFalse h =>
    rw [Bool.not_eq_true, Option.isSome_eq_false_iff, Option.isNone_iff_eq_none] at h
    rw [List.mem_append, List.mem_singleton, or_comm]
    refine or_congr_right ⟨fun ht => ⟨ht, findTarget_eq_none.mp h t ht⟩, fun ht => ht.1⟩

theorem setTarget_length : (setTarget l target).length
    = if (findTarget l target.fingerprint).isSome then l.length else l.length + 1 := by
  unfold setTarget
  split <;> simp

theorem setTarget_nodup (hl : (l.map fingerprint).Nodup) :
    ((setTarget l target).map fingerprint).Nodup := by
  unfold setTarget
  split
  · have hsame : (l.map fun t => if t.fingerprint = target.fingerprint then target else t).map
        fingerprint = l.map fingerprint := by
      rw [List.map_map]
      refine List.map_congr_left fun t _ => ?_
      rw [Function.comp_apply]
      split
      case isTrue h => exact h.symm
      · rfl
    rw [hsame]
    exact hl
  case isFalse h =>
    rw [Bool.not_eq_true, Option.isSome_eq_false_iff, Option.isNone_iff_eq_none] at h
    rw [List.map_append, List.nodup_append]
    refine ⟨hl, List.nodup_singleton _, ?_⟩
    intro a ha b hb heq
    obtain ⟨t, ht, rfl⟩ := List.mem_map.mp ha
    rw [List.map_singleton, List.mem_singleton] at hb
    exact findTarget_eq_none.mp h t ht (heq.trans hb)

theorem mem_removableTargets : t ∈ removableTargets l protect
    ↔ t ∈ l ∧ t.removable = true ∧ some t.fingerprint ≠ protect := by
  simp only [removableTargets, List.mem_insertionSort, List.mem_filter, checks_hold]

/-- The head of the removable targets was seen last before the others. -/
theorem removableTargets_head {first : NurtureTarget} {rest : List NurtureTarget}
    (h : removableTargets l protect = first :: rest) (ht : t ∈ removableTargets l protect) :
    first.sighting ≤ t.sighting := by
  have htotal : Std.Total fun t u : NurtureTarget => t.sighting ≤ u.sighting :=
    ⟨fun t u => le_total t.sighting u.sighting⟩
  have htrans : IsTrans NurtureTarget fun t u => t.sighting ≤ u.sighting :=
    ⟨fun _ _ _ => le_trans⟩
  have hsorted := List.pairwise_insertionSort (fun t u : NurtureTarget => t.sighting ≤ u.sighting)
    (l.filter fun t => t.removable && decide (some t.fingerprint ≠ protect))
  change (removableTargets l protect).Pairwise _ at hsorted
  rw [h] at hsorted ht
  rcases List.mem_cons.mp ht with rfl | ht
  · exact le_rfl
  · exact (List.pairwise_cons.mp hsorted).1 t ht

/-- The size cap keeps targets, and drops only removable ones. -/
theorem capTargets_spec (hl : (l.map fingerprint).Nodup)
    (h : capTargets l protect = .ok kept) : (∀ t ∈ kept, t ∈ l)
      ∧ ∀ t ∈ l, t ∈ kept ∨ t.removable = true ∧ some t.fingerprint ≠ protect := by
  unfold capTargets at h
  split at h
  · simp only [steps_ok] at h
    obtain ⟨-, rfl⟩ := h
    refine ⟨fun t ht => List.mem_of_mem_filter ht, fun t ht => ?_⟩
    by_cases hdropped : t.fingerprint ∈ ((removableTargets l protect).take
        (l.length - maxNurtureTargets)).map fingerprint
    · right
      obtain ⟨u, hu, heq⟩ := List.mem_map.mp hdropped
      obtain ⟨hul, hremovable⟩ := mem_removableTargets.mp (List.mem_of_mem_take hu)
      obtain rfl := eq_of_fingerprint hl hul ht heq
      exact hremovable
    · left
      exact List.mem_filter.mpr ⟨ht, decide_eq_true hdropped⟩
  · obtain rfl := pure_eq_ok.mp h
    exact ⟨fun _ ht => ht, fun _ ht => .inl ht⟩

theorem capTargets_of_le (h : l.length ≤ maxNurtureTargets) : capTargets l protect = .ok l := by
  unfold capTargets
  rw [if_neg (Nat.not_lt.mpr h)]
  rfl

/-- Where the document spares them, confirmed targets are kept. -/
theorem capTargets_spares (hspares : d.spares target.fingerprint)
    (h : capTargets (setTarget d.targets target) (some target.fingerprint) = .ok kept)
    (ht : t ∈ d.targets) (hne : t.fingerprint ≠ target.fingerprint)
    (hconfirmed : t.actionState = .confirmed) : t ∈ kept := by
  have hl : ((setTarget d.targets target).map fingerprint).Nodup :=
    setTarget_nodup d.nodup
  have htl : t ∈ setTarget d.targets target := mem_setTarget.mpr (.inr ⟨ht, hne⟩)
  have hlength : (setTarget d.targets target).length = if (findTarget d.targets
      target.fingerprint).isSome then d.targets.length else d.targets.length + 1 :=
    setTarget_length
  unfold capTargets at h
  split at h
  case isTrue hcap =>
    simp only [steps_ok] at h
    obtain ⟨-, rfl⟩ := h
    have hmax := d.length_le
    split at hlength
    · omega
    case isFalse hnew =>
      rw [Bool.not_eq_true, Option.isSome_eq_false_iff, Option.isNone_iff_eq_none] at hnew
      have hfresh := findTarget_eq_none.mp hnew
      -- the document is full, and one target is dropped
      have hexcess : (setTarget d.targets target).length - maxNurtureTargets = 1 := by omega
      obtain ⟨u, hu, hnone, hlt⟩ : ∃ u ∈ d.targets, u.actionState = .none
          ∧ u.sighting < t.sighting := by
        rcases hspares with h | ⟨u, hu, heq⟩ | h
        · omega
        · exact absurd heq (hfresh u hu)
        · exact h t ht hconfirmed
      refine List.mem_filter.mpr ⟨htl, decide_eq_true ?_⟩
      intro hdropped
      rw [hexcess] at hdropped
      have hremovable : u ∈ removableTargets (setTarget d.targets target)
          (some target.fingerprint) := by
        refine mem_removableTargets.mpr ⟨mem_setTarget.mpr (.inr ⟨hu, hfresh u hu⟩), ?_, ?_⟩
        · simp only [removable, hnone, decide_true, Bool.true_or]
        · exact fun heq => hfresh u hu (Option.some.inj heq)
      cases hsorted : removableTargets (setTarget d.targets target) (some target.fingerprint) with
      | nil =>
        rw [hsorted] at hremovable
        cases hremovable
      | cons first rest =>
        have hfirst := removableTargets_head hsorted hremovable
        rw [hsorted, List.take_succ_cons, List.take_zero, List.map_singleton,
          List.mem_singleton] at hdropped
        have hmem : first ∈ removableTargets (setTarget d.targets target)
            (some target.fingerprint) := by
          rw [hsorted]
          exact (.head _)
        obtain rfl := eq_of_fingerprint hl htl (mem_removableTargets.mp hmem).1 hdropped
        exact absurd hlt (not_lt.mpr hfirst)
  · obtain rfl := pure_eq_ok.mp h
    exact htl

/-- What a write does to the document: a target is stored in the place of
the one with its fingerprint, and only removable ones may be gone. -/
structure Touches (d : NurtureTargetState) (target : NurtureTarget) (d' : NurtureTargetState) :
    Prop where
  stored : target ∈ d'.targets
  mem : ∀ t ∈ d'.targets, t = target ∨ t ∈ d.targets ∧ t.fingerprint ≠ target.fingerprint
  kept : ∀ t ∈ d.targets, t.fingerprint ≠ target.fingerprint →
    t ∈ d'.targets ∨ t.removable = true
  spared : d.spares target.fingerprint → ∀ t ∈ d.targets, t.fingerprint ≠ target.fingerprint →
    t.actionState = .confirmed → t ∈ d'.targets

theorem replaceTarget_touches
    (h : replaceTarget d target (some target.fingerprint) = .ok d') : Touches d target d' := by
  simp only [replaceTarget, bind_eq_ok] at h
  obtain ⟨kept, hcap, hd⟩ := h
  have htargets := NurtureTargetState.ofTargets_eq_ok hd
  have hmem : ∀ t, t ∈ d'.targets ↔ t ∈ kept := by
    intro t
    rw [htargets, List.mem_insertionSort]
  obtain ⟨hsub, hkept⟩ := capTargets_spec (setTarget_nodup d.nodup) hcap
  refine ⟨?_, ?_, ?_, ?_⟩
  · rcases hkept target (mem_setTarget.mpr (.inl rfl)) with h | h
    · exact (hmem _).mpr h
    · exact absurd rfl h.2
  · exact fun t ht => mem_setTarget.mp (hsub t ((hmem t).mp ht))
  · intro t ht hne
    rcases hkept t (mem_setTarget.mpr (.inr ⟨ht, hne⟩)) with h | h
    · exact .inl ((hmem t).mpr h)
    · exact .inr h.1
  · exact fun hspares t ht hne hconfirmed =>
      (hmem t).mpr (capTargets_spares hspares hcap ht hne hconfirmed)

/-- A target that is there is replaced, and nothing dropped. -/
theorem replaceTarget_known (h : replaceTarget d target protect = .ok d') (hknown : u ∈ d.targets)
    (hu : u.fingerprint = target.fingerprint) : Touches d target d' := by
  have hlength : (setTarget d.targets target).length ≤ maxNurtureTargets := by
    rw [setTarget_length, ← hu, findTarget_of_mem d.nodup hknown, Option.isSome_some, if_pos rfl]
    exact d.length_le
  simp only [replaceTarget, capTargets_of_le hlength, bind, Except.bind] at h
  have htargets := NurtureTargetState.ofTargets_eq_ok h
  have hmem : ∀ t, t ∈ d'.targets ↔ t = target ∨ t ∈ d.targets
      ∧ t.fingerprint ≠ target.fingerprint := by
    intro t
    rw [htargets, List.mem_insertionSort, mem_setTarget]
  exact ⟨(hmem _).mpr (.inl rfl), fun t => (hmem t).mp,
    fun t ht hne => .inl ((hmem t).mpr (.inr ⟨ht, hne⟩)),
    fun _ t ht hne _ => (hmem t).mpr (.inr ⟨ht, hne⟩)⟩

theorem saveTargetState_eq_ok {stored : NurtureTargetState}
    (h : saveTargetState running d d' = .ok stored) : stored = d' := by
  simp only [saveTargetState, steps_ok] at h
  exact h.2.2.symm

/-- An observed target keeps its state, and an unresolved one its run. -/
theorem observeTarget_spec (h : observeTarget running d fp runId decision now = .ok d') :
    ∃ target, Touches d target d' ∧ target.fingerprint = fp
      ∧ ((∀ t ∈ d.targets, t.fingerprint ≠ fp) ∧ target.actionState = .none
        ∨ ∃ u ∈ d.targets, u.fingerprint = fp ∧ target.actionState = u.actionState
          ∧ (u.removable = false → target.lastRunId = u.lastRunId)) := by
  simp only [observeTarget, steps_ok] at h
  obtain ⟨-, updated, hreplace, hsave⟩ := h
  obtain rfl := saveTargetState_eq_ok hsave
  cases hfind : findTarget d.targets fp with
  | none =>
    rw [hfind] at hreplace
    exact ⟨_, replaceTarget_touches hreplace, rfl, .inl ⟨findTarget_eq_none.mp hfind, rfl⟩⟩
  | some u =>
    rw [hfind] at hreplace
    obtain ⟨hu, rfl⟩ := findTarget_mem hfind
    simp only [observed] at hreplace
    split at hreplace
    · exact ⟨_, replaceTarget_known hreplace hu rfl, rfl, .inr ⟨u, hu, rfl, rfl, fun _ => rfl⟩⟩
    case isFalse hresolved =>
      refine ⟨_, replaceTarget_known hreplace hu rfl, rfl, .inr ⟨u, hu, rfl, rfl, ?_⟩⟩
      intro hremovable
      cases hstate : u.actionState <;> simp [removable, hstate] at hremovable hresolved

theorem reserveTarget_spec (h : reserveTarget running d fp runId decision now = .ok d') :
    ∃ target, Touches d target d' ∧ target.fingerprint = fp ∧ target.actionState = .pending
      ∧ target.lastRunId = runId
      ∧ ∀ t ∈ d.targets, t.fingerprint = fp → t.actionState = .none := by
  simp only [reserveTarget, steps_ok] at h
  obtain ⟨-, target, htarget, updated, hreplace, hsave⟩ := h
  obtain rfl := saveTargetState_eq_ok hsave
  cases hfind : findTarget d.targets fp with
  | none =>
    rw [hfind] at htarget
    cases htarget
    exact ⟨_, replaceTarget_touches hreplace, rfl, rfl, rfl,
      fun t ht hfp => absurd hfp (findTarget_eq_none.mp hfind t ht)⟩
  | some u =>
    rw [hfind] at htarget
    obtain ⟨hu, rfl⟩ := findTarget_mem hfind
    simp only [reserved] at htarget
    split at htarget
    · cases htarget
    · cases htarget
    · cases htarget
    case h_4 hnone =>
      cases htarget
      refine ⟨_, replaceTarget_known hreplace hu rfl, rfl, rfl, rfl, fun t ht hfp => ?_⟩
      rw [eq_of_fingerprint d.nodup ht hu hfp]
      exact hnone

theorem completeTargetAction_spec {actionState : ActionState} {operationId : Nat}
    (h : completeTargetAction running d fp runId actionState operationId now = .ok d') :
    ∃ u target, Touches d target d' ∧ u ∈ d.targets ∧ u.fingerprint = fp
      ∧ u.actionState = .pending ∧ u.lastRunId = runId ∧ target.fingerprint = fp
      ∧ target.actionState = actionState ∧ target.lastRunId = runId
      ∧ (actionState = .confirmed ∨ actionState = .ambiguous) := by
  simp only [completeTargetAction, steps_ok] at h
  obtain ⟨-, hstate, u, hfind, ⟨hpending, hrun⟩, updated, hreplace, hsave⟩ := h
  obtain rfl := saveTargetState_eq_ok hsave
  obtain ⟨hu, rfl⟩ := findTarget_mem hfind
  exact ⟨u, _, replaceTarget_known hreplace hu rfl, hu, rfl, hpending, hrun, rfl, rfl, rfl, hstate⟩

-- ==== steps

variable {N N' : Nurture} {e : NurtureEvent}

/-- What an event can do. -/
inductive NurtureStep (N : Nurture) : NurtureEvent → Nurture → Prop
  | stay (e : NurtureEvent) : NurtureStep N e N
  | stop (e : NurtureEvent) : NurtureStep N e { N with phase := none }
  | start (run : NurtureRun) (hfree : N.phase = none) (hnew : run.id ∉ N.runIds) :
      NurtureStep N (.start run) { N with
        runIds := run.id :: N.runIds
        phase := some (.selecting run N.document.targets) }
  | choose (e : NurtureEvent) (run : NurtureRun) (targets : List NurtureTarget)
      (candidate : NurtureCandidate) (hphase : N.phase = some (.selecting run targets)) :
      NurtureStep N e { N with phase := some (.chosen run targets candidate) }
  | observe (write : DocumentWrite) (run : NurtureRun) (targets : List NurtureTarget)
      (candidate : NurtureCandidate) (d' : NurtureTargetState)
      (hphase : N.phase = some (.chosen run targets candidate))
      (hd : observeTarget (Nurture.running run) N.document candidate.fingerprint run.id
        (selectionDecision run candidate) run.now = .ok d') :
      NurtureStep N (.act write) { N with document := d', phase := none }
  | reserve (write : DocumentWrite) (run : NurtureRun) (targets : List NurtureTarget)
      (candidate : NurtureCandidate) (d' : NurtureTargetState) (phase : Option NurturePhase)
      (hphase : N.phase = some (.chosen run targets candidate))
      (hd : reserveTarget (Nurture.running run) N.document candidate.fingerprint run.id
        (selectionDecision run candidate) run.now = .ok d')
      (hgo : phase = none ∨ phase = some (.reserved run candidate.fingerprint)) :
      NurtureStep N (.act write) { N with
        document := d'
        phase := phase
        reservations := (candidate.fingerprint, run.id) :: N.reservations }
  | call (run : NurtureRun) (fp : Fingerprint) (hphase : N.phase = some (.reserved run fp)) :
      NurtureStep N .call { N with
        phase := some (.called run fp)
        calls := (fp, run.id) :: N.calls }
  | answer (e : NurtureEvent) (run : NurtureRun) (fp : Fingerprint) (actionState : ActionState)
      (operationId : Nat) (successes : List (Fingerprint × RunId))
      (hphase : N.phase = some (.called run fp))
      (hsuccesses : successes = N.successes ∨ successes = (fp, run.id) :: N.successes) :
      NurtureStep N e { N with
        phase := some (.answered run fp actionState operationId)
        successes := successes }
  | complete (write : DocumentWrite) (run : NurtureRun) (fp : Fingerprint)
      (actionState : ActionState) (operationId : Nat) (d' : NurtureTargetState)
      (hphase : N.phase = some (.answered run fp actionState operationId))
      (hd : completeTargetAction (Nurture.running run) N.document fp run.id actionState operationId
        run.now = .ok d') :
      NurtureStep N (.complete write) { N with document := d', phase := none }

open Nurture

theorem observe_step (hphase : N.phase = some (.chosen run targets candidate)) :
    NurtureStep N (.act write) (N.observe run candidate write) := by
  unfold observe
  cases hupdated : observeTarget (running run) N.document candidate.fingerprint run.id
      (selectionDecision run candidate) run.now with
  | error _ => cases write <;> exact .stop _
  | ok d' =>
    cases write with
    | done | lost => exact .observe _ run targets candidate d' hphase hupdated
    | refused => exact .stop _

theorem reserve_step (hphase : N.phase = some (.chosen run targets candidate)) :
    NurtureStep N (.act write) (N.reserve run candidate write) := by
  unfold reserve
  cases hupdated : reserveTarget (running run) N.document candidate.fingerprint run.id
      (selectionDecision run candidate) run.now with
  | error _ => cases write <;> exact .stop _
  | ok d' =>
    cases write with
    | done => exact .reserve _ run targets candidate d' _ hphase hupdated (.inr rfl)
    | lost => exact .reserve _ run targets candidate d' _ hphase hupdated (.inl rfl)
    | refused => exact .stop _

theorem after_step (N : Nurture) (e : NurtureEvent) : NurtureStep N e (N.after e) := by
  cases e with
  | start run =>
    simp only [after]
    split
    case h_1 hphase =>
      split
      · exact .stay _
      case isFalse hnew => exact .start run hphase hnew
    · exact .stay _
  | select inbound discovered =>
    simp only [after]
    split
    case h_1 run targets hphase =>
      split
      case h_1 candidate _ => exact .choose _ run targets candidate hphase
      · exact .stop _
    · exact .stay _
  | act write =>
    simp only [after]
    split
    case h_1 run targets candidate hphase =>
      split
      · split
        · exact reserve_step hphase
        · exact observe_step hphase
      · exact .stop _
    · exact .stay _
  | call =>
    simp only [after]
    split
    case h_1 run fp hphase => exact .call run fp hphase
    · exact .stay _
  | answer answer =>
    simp only [after]
    split
    case h_1 run fp hphase =>
      cases answer with
      | success operationId => exact .answer _ run fp _ _ _ hphase (.inr rfl)
      | ambiguous operationId => exact .answer _ run fp _ _ _ hphase (.inl rfl)
      | failed => exact .stop _
    · exact .stay _
  | complete write =>
    simp only [after]
    split
    case h_1 run fp actionState operationId hphase =>
      cases hupdated : completeTargetAction (running run) N.document fp run.id actionState
          operationId run.now with
      | error _ => cases write <;> exact .stop _
      | ok d' =>
        cases write with
        | done | lost => exact .complete _ run fp actionState operationId d' hphase hupdated
        | refused => exact .stop _
    · exact .stay _
  | stop => exact .stop _

-- ==== unresolved

/-- The run under way has reserved the target. -/
def Nurture.acting (N : Nurture) (fp : Fingerprint) : Prop :=
  ∃ phase, N.phase = some phase ∧ phase.holds = some fp

/-- Whoever has reserved a target holds its PENDING record. -/
def HoldsPending (N : Nurture) : Prop :=
  ∀ phase fp, N.phase = some phase → phase.holds = some fp →
    ∃ t ∈ N.document.targets, t.fingerprint = fp ∧ t.actionState = .pending
      ∧ t.lastRunId = phase.run.id

theorem HoldsPending.step (hN : HoldsPending N) (h : NurtureStep N e N') : HoldsPending N' := by
  intro phase fp hphase hholds
  cases h with
  | stay => exact hN phase fp hphase hholds
  | stop => cases hphase
  | start =>
    cases hphase
    cases hholds
  | choose =>
    cases hphase
    cases hholds
  | observe => cases hphase
  | reserve write run targets candidate d' phase _ hd hgo =>
    rcases hgo with rfl | rfl
    · cases hphase
    · cases hphase
      cases hholds
      obtain ⟨target, htouches, hfp, hpending, hrun, -⟩ := reserveTarget_spec hd
      exact ⟨target, htouches.stored, hfp, hpending, hrun⟩
  | call run fp hreserved =>
    cases hphase
    exact hN (.reserved run fp) _ hreserved hholds
  | answer e run fp actionState operationId successes hcalled hsuccesses =>
    cases hphase
    exact hN (.called run fp) _ hcalled hholds
  | complete => cases hphase

theorem HoldsPending.reachable {allow : Nurture → NurtureEvent → Prop}
    (h : nurture.Reachable allow N) : HoldsPending N := by
  refine h.invariant ?_ fun N e hN _ _ => hN.step (after_step N e)
  rintro N rfl phase fp hphase
  cases hphase

/-- What becomes of an unresolved target in one step: it stays as it is,
or the run that reserved it writes down how that ended. -/
theorem unresolved_step (h : NurtureStep N e N') (ht : t ∈ N.document.targets)
    (hunresolved : t.removable = false) :
    ∃ t' ∈ N'.document.targets, t'.fingerprint = t.fingerprint ∧ t'.lastRunId = t.lastRunId
      ∧ (t'.actionState = t.actionState ∨ t.actionState = .pending
          ∧ (t'.actionState = .confirmed ∨ t'.actionState = .ambiguous)
          ∧ ∃ phase, N.phase = some phase ∧ phase.holds = some t.fingerprint
            ∧ phase.run.id = t.lastRunId) := by
  have hkept : ∀ {target : NurtureTarget} {d' : NurtureTargetState},
      Touches N.document target d' → t.fingerprint ≠ target.fingerprint → t ∈ d'.targets := by
    intro target d' htouches hne
    rcases htouches.kept t ht hne with h | h
    · exact h
    · rw [hunresolved] at h
      cases h
  cases h with
  | stay | stop | start | choose => exact ⟨t, ht, rfl, rfl, .inl rfl⟩
  | observe write run targets candidate d' _ hd =>
    obtain ⟨target, htouches, hfp, hold⟩ := observeTarget_spec hd
    by_cases heq : t.fingerprint = target.fingerprint
    · rcases hold with ⟨hnew, -⟩ | ⟨u, hu, hufp, hstate, hrun⟩
      · exact absurd (heq.trans hfp) (hnew t ht)
      · obtain rfl := eq_of_fingerprint N.document.nodup ht hu (heq.trans (hfp.trans hufp.symm))
        exact ⟨target, htouches.stored, heq.symm, hrun hunresolved, .inl hstate⟩
    · exact ⟨t, hkept htouches heq, rfl, rfl, .inl rfl⟩
  | reserve write run targets candidate d' phase _ hd hgo =>
    obtain ⟨target, htouches, hfp, -, -, hfree⟩ := reserveTarget_spec hd
    refine ⟨t, hkept htouches fun heq => ?_, rfl, rfl, .inl rfl⟩
    rw [removable, hfree t ht (heq.trans hfp)] at hunresolved
    cases hunresolved
  | call | answer => exact ⟨t, ht, rfl, rfl, .inl rfl⟩
  | complete write run fp actionState operationId d' hphase hd =>
    obtain ⟨u, target, htouches, hu, hufp, hpending, hrun, hfp, hstate, htrun, hactions⟩ :=
      completeTargetAction_spec hd
    by_cases heq : t.fingerprint = target.fingerprint
    · obtain rfl := eq_of_fingerprint N.document.nodup ht hu (heq.trans (hfp.trans hufp.symm))
      refine ⟨target, htouches.stored, heq.symm, htrun.trans hrun.symm, .inr ⟨hpending, ?_, ?_⟩⟩
      · rw [hstate]
        exact hactions
      · exact ⟨_, hphase, congrArg some hufp.symm, hrun.symm⟩
    · exact ⟨t, hkept htouches heq, rfl, rfl, .inl rfl⟩

/-- The calls of a mutation for a target. -/
def Nurture.callsFor (N : Nurture) (fp : Fingerprint) : List (Fingerprint × RunId) :=
  N.calls.filter fun c => decide (c.1 = fp)

/-- A record of the target that is more than an observation. -/
def Nurture.recorded (N : Nurture) (fp : Fingerprint) : Prop :=
  ∃ t ∈ N.document.targets, t.fingerprint = fp ∧ t.actionState ≠ .none

/-- A record of the target that says neither. -/
def Nurture.unresolved (N : Nurture) (fp : Fingerprint) : Prop :=
  ∃ t ∈ N.document.targets, t.fingerprint = fp ∧ t.removable = false

theorem removable_eq_false : t.removable = false
    ↔ t.actionState = .pending ∨ t.actionState = .ambiguous := by
  cases h : t.actionState <;> simp [removable, h]

theorem Nurture.unresolved.recorded (h : N.unresolved fp) : N.recorded fp := by
  obtain ⟨t, ht, hfp, hremovable⟩ := h
  refine ⟨t, ht, hfp, fun hnone => ?_⟩
  rw [removable, hnone] at hremovable
  cases hremovable

/-- While nobody acts on a recorded target, nobody calls a mutation for
it and nobody reserves it. -/
theorem recorded_quiet (hrecorded : N.recorded fp) (hquiet : ¬ N.acting fp)
    (h : NurtureStep N e N') : ¬ N'.acting fp ∧ N'.callsFor fp = N.callsFor fp := by
  obtain ⟨t, ht, htfp, hstate⟩ := hrecorded
  cases h with
  | stay => exact ⟨hquiet, rfl⟩
  | stop | observe | complete =>
    refine ⟨?_, rfl⟩
    rintro ⟨phase, hphase, -⟩
    cases hphase
  | start | choose =>
    refine ⟨?_, rfl⟩
    rintro ⟨phase, hphase, hholds⟩
    cases hphase
    cases hholds
  | reserve write run targets candidate d' phase _ hd hgo =>
    refine ⟨?_, rfl⟩
    rintro ⟨phase', hphase, hholds⟩
    rcases hgo with rfl | rfl
    · cases hphase
    · cases hphase
      obtain ⟨target, -, -, -, -, hfree⟩ := reserveTarget_spec hd
      exact hstate (hfree t ht (htfp.trans (Option.some.inj hholds).symm))
  | call run fp' hphase =>
    have hne : fp' ≠ fp := by
      rintro rfl
      exact hquiet ⟨_, hphase, rfl⟩
    refine ⟨?_, ?_⟩
    · rintro ⟨phase, hcalled, hholds⟩
      cases hcalled
      exact hne (Option.some.inj hholds)
    · exact List.filter_cons_of_neg (by simpa only [decide_eq_true_eq] using hne)
  | answer e run fp' actionState operationId successes hphase hsuccesses =>
    refine ⟨?_, rfl⟩
    rintro ⟨phase, hanswered, hholds⟩
    cases hanswered
    exact hquiet ⟨_, hphase, hholds⟩

theorem unresolved_quiet (hunresolved : N.unresolved fp) (hquiet : ¬ N.acting fp)
    (h : NurtureStep N e N') : N'.unresolved fp := by
  obtain ⟨t, ht, rfl, hremovable⟩ := hunresolved
  obtain ⟨t', ht', hfp, -, hstate | ⟨-, -, phase, hphase, hholds, -⟩⟩ :=
    unresolved_step h ht hremovable
  · refine ⟨t', ht', hfp, ?_⟩
    rw [removable, hstate]
    exact hremovable
  · exact absurd ⟨phase, hphase, hholds⟩ hquiet

-- ==== confirmed

/-- A run that is about to write a target drops no confirmed one. -/
def SparesConfirmed (N : Nurture) (e : NurtureEvent) : Prop :=
  ∀ write run targets candidate, e = .act write →
    N.phase = some (.chosen run targets candidate) → N.document.spares candidate.fingerprint

theorem recorded_step (hspares : SparesConfirmed N e) (h : NurtureStep N e N')
    (hrecorded : N.recorded fp) : N'.recorded fp := by
  obtain ⟨t, ht, rfl, hstate⟩ := hrecorded
  by_cases hunresolved : t.removable = false
  · obtain ⟨t', ht', hfp, -, hsame | ⟨-, hactions, -⟩⟩ := unresolved_step h ht hunresolved
    · exact ⟨t', ht', hfp, hsame.trans_ne hstate⟩
    · refine ⟨t', ht', hfp, fun hnone => ?_⟩
      rw [hnone] at hactions
      rcases hactions with h | h <;> cases h
  · have hconfirmed : t.actionState = .confirmed := by
      rw [removable_eq_false, not_or] at hunresolved
      cases hs : t.actionState with
      | none => exact absurd hs hstate
      | pending => exact absurd hs hunresolved.1
      | confirmed => rfl
      | ambiguous => exact absurd hs hunresolved.2
    cases h with
    | stay | stop | start | choose => exact ⟨t, ht, rfl, hstate⟩
    | observe write run targets candidate d' hphase hd =>
      obtain ⟨target, htouches, hfp, hold⟩ := observeTarget_spec hd
      by_cases heq : t.fingerprint = target.fingerprint
      · rcases hold with ⟨hnew, -⟩ | ⟨u, hu, hufp, hsame, -⟩
        · exact absurd (heq.trans hfp) (hnew t ht)
        · obtain rfl := eq_of_fingerprint N.document.nodup ht hu (heq.trans (hfp.trans hufp.symm))
          exact ⟨target, htouches.stored, heq.symm, hsame.trans_ne hstate⟩
      · have hspared := hspares write run targets candidate rfl hphase
        exact ⟨t, htouches.spared (hfp ▸ hspared) t ht heq hconfirmed, rfl, hstate⟩
    | reserve write run targets candidate d' phase hphase hd hgo =>
      obtain ⟨target, htouches, hfp, -, -, hfree⟩ := reserveTarget_spec hd
      have hspared := hspares write run targets candidate rfl hphase
      exact ⟨t, htouches.spared (hfp ▸ hspared) t ht
        (fun heq => hstate (hfree t ht (heq.trans hfp))) hconfirmed, rfl, hstate⟩
    | call | answer => exact ⟨t, ht, rfl, hstate⟩
    | complete write run fp actionState operationId d' hphase hd =>
      obtain ⟨u, target, htouches, hu, hufp, hpending, -, hfp, -, -, -⟩ :=
        completeTargetAction_spec hd
      have hknown : N.document.spares target.fingerprint :=
        .inr (.inl ⟨u, hu, hufp.trans hfp.symm⟩)
      refine ⟨t, htouches.spared hknown t ht (fun heq => ?_) hconfirmed, rfl, hstate⟩
      obtain rfl := eq_of_fingerprint N.document.nodup ht hu (heq.trans (hfp.trans hufp.symm))
      rw [hpending] at hconfirmed
      cases hconfirmed

/-- What is reserved once is recorded, called for at most once and
answered at most once. -/
structure AnswersOnce (N : Nurture) : Prop where
  recorded : ∀ r ∈ N.reservations, N.recorded r.1
  once : (N.reservations.map Prod.fst).Nodup
  acting : ∀ phase fp, N.phase = some phase → phase.holds = some fp →
    (fp, phase.run.id) ∈ N.reservations
  calls : ∀ c ∈ N.calls, c ∈ N.reservations
  callsOnce : (N.calls.map Prod.fst).Nodup
  uncalled : ∀ run fp, N.phase = some (.reserved run fp) → fp ∉ N.calls.map Prod.fst
  successes : ∀ c ∈ N.successes, c ∈ N.calls
  successesOnce : (N.successes.map Prod.fst).Nodup
  unanswered : ∀ run fp, N.phase = some (.called run fp) →
    (fp, run.id) ∈ N.calls ∧ fp ∉ N.successes.map Prod.fst

/-- A step that does none of these: it stays, stops, or is before the
reservation. -/
theorem AnswersOnce.idle (hN : AnswersOnce N) {d' : NurtureTargetState} {runIds : List RunId}
    {phase : Option NurturePhase}
    (hrecorded : ∀ r ∈ N.reservations, Nurture.recorded { N with document := d' } r.1)
    (hphase : ∀ p, phase = some p → p.holds = none) :
    AnswersOnce { N with document := d', runIds := runIds, phase := phase } where
  recorded := hrecorded
  once := hN.once
  acting := fun p fp hp hholds => by rw [hphase p hp] at hholds; cases hholds
  calls := hN.calls
  callsOnce := hN.callsOnce
  uncalled := fun run fp hp => by cases hphase _ hp
  successes := hN.successes
  successesOnce := hN.successesOnce
  unanswered := fun run fp hp => by cases hphase _ hp

theorem AnswersOnce.step (hN : AnswersOnce N) (hspares : SparesConfirmed N e)
    (h : NurtureStep N e N') : AnswersOnce N' := by
  have hkept : ∀ r ∈ N.reservations, N'.recorded r.1 := fun r hr =>
    recorded_step hspares h (hN.recorded r hr)
  cases h with
  | stay => exact hN
  | stop => exact hN.idle hkept fun p hp => by cases hp
  | start | choose => exact hN.idle hkept fun p hp => by cases hp; rfl
  | observe | complete => exact hN.idle hkept fun p hp => by cases hp
  | reserve write run targets candidate d' phase hphase hd hgo =>
    obtain ⟨target, htouches, hfp, hpending, -, hfree⟩ := reserveTarget_spec hd
    -- the target was free, so nobody reserved it before
    have hfirst : candidate.fingerprint ∉ N.reservations.map Prod.fst := by
      intro hmem
      obtain ⟨r, hr, hrfp⟩ := List.mem_map.mp hmem
      obtain ⟨t, ht, htfp, hstate⟩ := hN.recorded r hr
      exact hstate (hfree t ht (htfp.trans hrfp))
    have huncalled : candidate.fingerprint ∉ N.calls.map Prod.fst := by
      intro hmem
      obtain ⟨c, hc, hcfp⟩ := List.mem_map.mp hmem
      exact hfirst (List.mem_map.mpr ⟨c, hN.calls c hc, hcfp⟩)
    refine ⟨?_, List.nodup_cons.mpr ⟨hfirst, hN.once⟩, ?_, ?_, hN.callsOnce, ?_, hN.successes,
      hN.successesOnce, ?_⟩
    · intro r hr
      rcases List.mem_cons.mp hr with rfl | hr
      · exact ⟨target, htouches.stored, hfp, fun hnone => by rw [hpending] at hnone; cases hnone⟩
      · exact hkept r hr
    · intro p fp hp hholds
      rcases hgo with rfl | rfl
      · cases hp
      · cases hp
        cases hholds
        exact (.head _)
    · exact fun c hc => .tail _ (hN.calls c hc)
    · intro run' fp hp
      rcases hgo with rfl | rfl
      · cases hp
      · cases hp
        exact huncalled
    · intro run' fp hp
      rcases hgo with rfl | rfl <;> cases hp
  | call run fp hphase =>
    have hreserved := hN.acting (.reserved run fp) fp hphase rfl
    have huncalled := hN.uncalled run fp hphase
    refine ⟨hkept, hN.once, ?_, ?_, List.nodup_cons.mpr ⟨huncalled, hN.callsOnce⟩, ?_, ?_,
      hN.successesOnce, ?_⟩
    · intro p fp' hp hholds
      cases hp
      cases hholds
      exact hreserved
    · intro c hc
      rcases List.mem_cons.mp hc with rfl | hc
      · exact hreserved
      · exact hN.calls c hc
    · intro run' fp' hp
      cases hp
    · exact fun c hc => .tail _ (hN.successes c hc)
    · intro run' fp' hp
      cases hp
      refine ⟨.head _, fun hmem => huncalled ?_⟩
      obtain ⟨c, hc, hcfp⟩ := List.mem_map.mp hmem
      exact List.mem_map.mpr ⟨c, hN.successes c hc, hcfp⟩
  | answer e run fp actionState operationId successes hphase hsuccesses =>
    have hreserved := hN.acting (.called run fp) fp hphase rfl
    obtain ⟨hcalled, hunanswered⟩ := hN.unanswered run fp hphase
    refine ⟨hkept, hN.once, ?_, hN.calls, hN.callsOnce, ?_, ?_, ?_, ?_⟩
    · intro p fp' hp hholds
      cases hp
      cases hholds
      exact hreserved
    · intro run' fp' hp
      cases hp
    · intro c hc
      rcases hsuccesses with rfl | rfl
      · exact hN.successes c hc
      · rcases List.mem_cons.mp hc with rfl | hc
        · exact hcalled
        · exact hN.successes c hc
    · rcases hsuccesses with rfl | rfl
      · exact hN.successesOnce
      · exact List.nodup_cons.mpr ⟨hunanswered, hN.successesOnce⟩
    · intro run' fp' hp
      cases hp

theorem AnswersOnce.reachable (h : nurture.Reachable SparesConfirmed N) : AnswersOnce N := by
  refine h.invariant ?_ fun N e hN _ hspares => hN.step hspares (after_step N e)
  rintro N rfl
  exact {
    recorded := fun r hr => absurd hr List.not_mem_nil
    once := List.nodup_nil
    acting := fun p fp hp => by cases hp
    calls := fun c hc => absurd hc List.not_mem_nil
    callsOnce := List.nodup_nil
    uncalled := fun run fp hp => by cases hp
    successes := fun c hc => absurd hc List.not_mem_nil
    successesOnce := List.nodup_nil
    unanswered := fun run fp hp => by cases hp }

/-- From a recorded target nobody acts on, no run calls a mutation for it
while confirmed targets are spared. -/
theorem callsFor_recorded (hrecorded : N.recorded fp) (hquiet : ¬ N.acting fp)
    (h : (nurture.startingAt N).Reachable SparesConfirmed N') : N'.callsFor fp = N.callsFor fp := by
  refine (Machine.Reachable.after (I := fun N' => N'.recorded fp ∧ ¬ N'.acting fp
    ∧ N'.callsFor fp = N.callsFor fp) ⟨hrecorded, hquiet, rfl⟩ ?_ h).2.2
  rintro N' e ⟨hrecorded, hquiet, hcalls⟩ - hspares
  obtain ⟨hquiet', hcalls'⟩ := recorded_quiet hrecorded hquiet (after_step N' e)
  exact ⟨recorded_step hspares (after_step N' e) hrecorded, hquiet', hcalls'.trans hcalls⟩

/-- From an unresolved target nobody acts on, no run calls a mutation for
it. -/
theorem callsFor_unresolved (hunresolved : N.unresolved fp) (hquiet : ¬ N.acting fp)
    (h : (nurture.startingAt N).Reachable (fun _ _ => True) N') :
    N'.callsFor fp = N.callsFor fp := by
  refine (Machine.Reachable.after (I := fun N' => N'.unresolved fp ∧ ¬ N'.acting fp
    ∧ N'.callsFor fp = N.callsFor fp) ⟨hunresolved, hquiet, rfl⟩ ?_ h).2.2
  rintro N' e ⟨hunresolved, hquiet, hcalls⟩ - -
  obtain ⟨hquiet', hcalls'⟩ := recorded_quiet hunresolved.recorded hquiet (after_step N' e)
  exact ⟨unresolved_quiet hunresolved hquiet (after_step N' e), hquiet', hcalls'.trans hcalls⟩

theorem not_acting_confirmed (hN : HoldsPending N) (ht : t ∈ N.document.targets)
    (hconfirmed : t.actionState = .confirmed) : ¬ N.acting t.fingerprint := by
  rintro ⟨phase, hphase, hholds⟩
  obtain ⟨u, hu, hfp, hpending, -⟩ := hN phase _ hphase hholds
  obtain rfl := eq_of_fingerprint N.document.nodup hu ht hfp
  rw [hpending] at hconfirmed
  cases hconfirmed

/-- A call comes from the run that holds the reservation. -/
theorem called_step {c : Fingerprint × RunId} (h : NurtureStep N e N')
    (hcalls : N'.calls = c :: N.calls) :
    ∃ run, N.phase = some (.reserved run c.1) ∧ run.id = c.2 := by
  cases h with
  | call run fp hphase =>
    obtain ⟨rfl, -⟩ := List.cons.inj hcalls
    exact ⟨run, hphase, rfl⟩
  | _ => exact absurd hcalls.symm (List.cons_ne_self _ _)

-- ==== new targets

theorem transitionValid_self (t : NurtureTarget) : transitionValid t (some t) = true := by
  cases h : t.actionState <;> simp [transitionValid, h]

theorem transitionValid_gone (h : t.removable = true) : transitionValid t none = true := by
  cases hstate : t.actionState <;> simp [transitionValid, removable, hstate] at h ⊢

theorem saveTargetState_new (htouches : Touches d target d')
    (hnew : ∀ t ∈ d.targets, t.fingerprint ≠ target.fingerprint)
    (hstate : target.actionState = .none ∨ target.actionState = .pending)
    (hrun : running target.lastRunId = true) : saveTargetState running d d' = .ok d' := by
  have htransition : validateTargetTransition d.targets d'.targets = true := by
    simp only [validateTargetTransition, Bool.and_eq_true, List.all_eq_true]
    refine ⟨fun t ht => ?_, fun t ht => ?_⟩
    · by_cases hkept : t ∈ d'.targets
      · rw [findTarget_of_mem d'.nodup hkept]
        exact transitionValid_self t
      · have hgone : findTarget d'.targets t.fingerprint = none := by
          refine findTarget_eq_none.mpr fun u hu heq => ?_
          rcases htouches.mem u hu with rfl | ⟨hud, -⟩
          · exact hnew t ht heq.symm
          · rw [eq_of_fingerprint d.nodup hud ht heq] at hu
            exact hkept hu
        rw [hgone]
        exact transitionValid_gone ((htouches.kept t ht (hnew t ht)).resolve_left hkept)
    · rcases htouches.mem t ht with rfl | ⟨htd, -⟩
      · rcases hstate with h | h <;> simp [h]
      · simp [findTarget_of_mem d.nodup htd]
  have hlinked : d'.targets.all (targetLinked running d.targets) = true := by
    refine List.all_eq_true.mpr fun t ht => ?_
    rcases htouches.mem t ht with rfl | ⟨htd, -⟩
    · simp [targetLinked, hrun]
    · simp [targetLinked, findTarget_of_mem d.nodup htd]
  simp only [saveTargetState, htransition, hlinked, require, if_true, bind, Except.bind]
  rfl

theorem ofTargets_kept (hsub : kept.Sublist (setTarget d.targets target))
    (hvalid : target.valid = true) (hlength : kept.length ≤ maxNurtureTargets) :
    ∃ d', NurtureTargetState.ofTargets
        (kept.insertionSort fun t u => t.fingerprint ≤ u.fingerprint) = .ok d'
      ∧ d'.targets.Perm kept := by
  have hperm := List.perm_insertionSort (fun t u : NurtureTarget => t.fingerprint ≤ u.fingerprint)
    kept
  have hok : validTargets (kept.insertionSort fun t u => t.fingerprint ≤ u.fingerprint) = true := by
    refine validTargets_iff.mpr ⟨?_, ?_, fun t ht => ?_⟩
    · rw [hperm.length_eq]
      exact hlength
    · rw [(hperm.map fingerprint).nodup_iff]
      exact (setTarget_nodup d.nodup).sublist (hsub.map _)
    · rcases mem_setTarget.mp (hsub.subset (hperm.mem_iff.mp ht)) with rfl | ⟨htd, -⟩
      · exact hvalid
      · exact (validTargets_iff.mp d.valid).2.2 t htd
  exact ⟨⟨_, hok⟩, dif_pos hok, hperm⟩

section

variable (hnew : ∀ t ∈ d.targets, t.fingerprint ≠ target.fingerprint)

include hnew

theorem setTarget_new : setTarget d.targets target = d.targets ++ [target] := by
  unfold setTarget
  rw [findTarget_eq_none.mpr hnew]
  rfl

theorem replaceTarget_below (hvalid : target.valid = true)
    (hroom : d.targets.length < maxNurtureTargets) :
    ∃ d', replaceTarget d target protect = .ok d' ∧ d'.targets.Perm (d.targets ++ [target]) := by
  have hset := setTarget_new hnew
  have hlength : (setTarget d.targets target).length ≤ maxNurtureTargets := by
    rw [hset, List.length_append, List.length_singleton]
    exact hroom
  obtain ⟨d', hd', hperm⟩ := ofTargets_kept (List.Sublist.refl _) hvalid hlength
  refine ⟨d', ?_, hset ▸ hperm⟩
  simp only [replaceTarget, capTargets_of_le hlength, bind, Except.bind]
  exact hd'

/-- At the cap a new target takes the place of the removable one that was
seen last before the others. -/
theorem replaceTarget_full (hvalid : target.valid = true)
    (hfull : d.targets.length = maxNurtureTargets) (ht : t ∈ d.targets)
    (hremovable : t.removable = true) :
    ∃ d' first, replaceTarget d target (some target.fingerprint) = .ok d'
      ∧ first ∈ d.targets ∧ first.sighting ≤ t.sighting
      ∧ ∀ u ∈ d'.targets, u.fingerprint ≠ first.fingerprint := by
  have hset := setTarget_new hnew
  have hlength : (setTarget d.targets target).length = maxNurtureTargets + 1 := by
    rw [hset, List.length_append, List.length_singleton, hfull]
  have hmem : t ∈ removableTargets (setTarget d.targets target) (some target.fingerprint) := by
    refine mem_removableTargets.mpr ⟨mem_setTarget.mpr (.inr ⟨ht, hnew t ht⟩), hremovable, ?_⟩
    exact fun heq => hnew t ht (Option.some.inj heq)
  cases hsorted : removableTargets (setTarget d.targets target) (some target.fingerprint) with
  | nil =>
    rw [hsorted] at hmem
    cases hmem
  | cons first rest =>
    have hfirst : first ∈ removableTargets (setTarget d.targets target)
        (some target.fingerprint) := by
      rw [hsorted]
      exact (.head _)
    obtain ⟨hfirstMem, -, hprotect⟩ := mem_removableTargets.mp hfirst
    obtain ⟨kept, hcap, hsub, hdropped⟩ : ∃ kept,
        capTargets (setTarget d.targets target) (some target.fingerprint) = .ok kept
          ∧ kept.Sublist (setTarget d.targets target)
          ∧ ∀ u, u ∈ kept ↔ u ∈ setTarget d.targets target ∧ u.fingerprint ≠ first.fingerprint := by
      refine ⟨(setTarget d.targets target).filter fun u =>
        decide (u.fingerprint ∉ [first.fingerprint]), ?_, List.filter_sublist, fun u => ?_⟩
      · simp [capTargets, hlength, hsorted, require, bind, Except.bind, pure, Except.pure]
      · rw [List.mem_filter, decide_eq_true_eq, List.mem_singleton]
    have hshort : kept.length ≤ maxNurtureTargets := by
      have hne : kept.length ≠ (setTarget d.targets target).length := fun heq =>
        ((hdropped first).mp (hsub.eq_of_length heq ▸ hfirstMem)).2 rfl
      have hle := hsub.length_le
      omega
    obtain ⟨d', hd', hperm⟩ := ofTargets_kept hsub hvalid hshort
    refine ⟨d', first, ?_, ?_, removableTargets_head hsorted hmem,
      fun u hu => ((hdropped u).mp (hperm.mem_iff.mp hu)).2⟩
    · simp only [replaceTarget, hcap, bind, Except.bind]
      exact hd'
    · rcases mem_setTarget.mp hfirstMem with rfl | ⟨h, -⟩
      · exact absurd rfl hprotect
      · exact h

end

end ThreadsPlatform
