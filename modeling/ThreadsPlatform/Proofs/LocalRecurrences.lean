/-
A recurrence starts each boundary at most once, and writes only records
that pass its own check.

Every record the runner writes is the last one with a due time moved by
`boundaryAfter`, and with times that a `max` keeps in order when the
clock goes back. What carries the proof is that a run is marked, with
the due time moved past it, before it is executed; so a boundary that
was started lies before the durable due time ever after, whatever
crashes (`RecurrenceInv.starts`).
-/
import ThreadsPlatform.Standalone.Recurrences

namespace ThreadsPlatform

open Relational LocalRecurrenceRunner LocalRecurrenceStore Timing

variable {r r' : RecurrenceRecord} {R : Recurrence} {now t : Time} {id : String}
  {steps : List StepOutcome} {code : Option String} {e : RecurrenceEvent}
  {outcome : RecurrenceOutcome} {stored : RecurrenceRecord} {due : Time}

-- ==== valid records

open RecurrenceRecord

theorem interval_pos (h : r.identityValid id = true) : 0 < r.interval := by
  simp only [identityValid, checks_hold] at h
  exact Int.mul_pos (by omega) (by decide)

theorem timesValid_iff (hpos : 0 < r.interval) :
    r.timesValid = true ↔ r.createdAt ≤ r.updatedAt ∧ r.anchorAt = r.createdAt
      ∧ OnGrid r.anchorAt r.interval 1 r.nextDueAt := by
  rw [onGrid_one_iff hpos]
  simp only [timesValid, checks_hold, and_assoc]

/-- What a valid record says, whatever its last run. -/
structure RecurrenceRecord.Sound (r : RecurrenceRecord) (id : String) : Prop where
  identity : r.identityValid id = true
  created : r.createdAt ≤ r.updatedAt
  anchor : r.anchorAt = r.createdAt
  due : OnGrid r.anchorAt r.interval 1 r.nextDueAt

theorem RecurrenceRecord.Sound.interval_pos (h : r.Sound id) : 0 < r.interval :=
  ThreadsPlatform.interval_pos h.identity

theorem sound_of_valid (h : r.valid id = true) : r.Sound id := by
  simp only [valid, Bool.and_eq_true] at h
  have hidentity := h.1.1.1.1.1.1
  obtain ⟨hcreated, hanchor, hdue⟩ := (timesValid_iff (interval_pos hidentity)).mp h.1.1.1.1.1.2
  exact ⟨hidentity, hcreated, hanchor, hdue⟩

theorem RecurrenceRecord.Sound.anchor_lt (h : r.Sound id) : r.anchorAt < r.nextDueAt := by
  exact Int.lt_of_sub_pos ((onGrid_one_iff h.interval_pos).mp h.due).1

/-- The record with its due time moved past `t`, an update time that does
not go back, and another last run. -/
theorem RecurrenceRecord.Sound.moved (h : r.Sound id) (ht : r.anchorAt ≤ t)
    (hidentity : r'.identityValid id = true) (hinterval : r'.interval = r.interval)
    (hanchor : r'.anchorAt = r.anchorAt) (hcreated : r'.createdAt = r.createdAt)
    (hupdated : r.updatedAt ≤ r'.updatedAt) (hdue : r'.nextDueAt = r.boundaryAfter t) :
    r'.Sound id where
  identity := hidentity
  created := by rw [hcreated]; exact h.created.trans hupdated
  anchor := by rw [hanchor, hcreated, h.anchor]
  due := by rw [hanchor, hinterval, hdue]; exact next_onGrid h.interval_pos ht

theorem valid_of_sound (h : r.Sound id)
    (hstatus : r.status = .disabled → r.lastOutcome ≠ some .running)
    (hlast : r.lastRunValid = true)
    (hstep : ∀ i, r.lastStepIndex = some i → 1 ≤ i ∧ i ≤ 32)
    (hstarted : ∀ u, r.lastStartedAt = some u → u ≤ r.updatedAt)
    (hfinished : ∀ u, r.lastFinishedAt = some u → u ≤ r.updatedAt) : r.valid id = true := by
  have htimes := (timesValid_iff h.interval_pos).mpr ⟨h.created, h.anchor, h.due⟩
  simp only [valid, h.identity, htimes, hlast, checks_hold, Bool.true_and,
    Bool.and_true, Bool.not_eq_true', Bool.and_eq_false_iff, decide_eq_false_iff_not,
    Option.all_eq_true]
  refine ⟨⟨⟨?_, hstep⟩, hstarted⟩, hfinished⟩
  by_cases hdisabled : r.status = .disabled
  · exact .inr (hstatus hdisabled)
  · exact .inl hdisabled

theorem lastTimes_of_valid (h : r.valid id = true) :
    (∀ u, r.lastStartedAt = some u → u ≤ r.updatedAt)
      ∧ ∀ u, r.lastFinishedAt = some u → u ≤ r.updatedAt := by
  simp only [valid, checks_hold, Option.all_eq_true] at h
  exact ⟨h.1.2, h.2⟩

/-- A RUNNING record that is valid has started, before its due time. -/
theorem running_of_valid (h : r.valid id = true) (hrunning : r.lastOutcome = some .running) :
    ∃ startedAt, r.lastStartedAt = some startedAt ∧ startedAt < r.nextDueAt := by
  simp only [valid, Bool.and_eq_true] at h
  have hlast := h.1.1.1.2
  simp only [lastRunValid, hrunning, if_true, Option.any_eq_true] at hlast
  obtain ⟨startedAt, hstarted, hvalid⟩ := hlast
  simp only [runningValid, checks_hold] at hvalid
  exact ⟨startedAt, hstarted, hvalid.2⟩

-- ==== what is written

theorem started_valid (h : r.valid id = true) (henabled : r.status = .enabled)
    (hdue : r.nextDueAt ≤ now) : (started r now).valid id = true := by
  have hsound := sound_of_valid h
  have hanchor : r.anchorAt ≤ now := hsound.anchor_lt.le.trans hdue
  have hnext : now < r.boundaryAfter now := lt_next hsound.interval_pos now
  refine valid_of_sound (hsound.moved hanchor hsound.identity rfl rfl rfl (le_max_left _ _) rfl)
    ?_ ?_ ?_ ?_ ?_
  · intro hdisabled
    rw [show (started r now).status = r.status from rfl, henabled] at hdisabled
    cases hdisabled
  · simp [lastRunValid, runningValid, started, hnext]
  · intro i hi
    cases hi
  · intro u hu
    cases hu
    exact le_max_right _ _
  · intro u hu
    cases hu

/-- The reports of a run that ended. -/
inductive Reports : RecurrenceOutcome → Option String → Option Int → Prop
  | success : Reports .success none none
  | interrupted : Reports .interrupted (some "INTERRUPTED") none
  | error {code : String} {step : Int} (hsafe : isSafeErrorCode code = true)
      (hstep : 1 ≤ step ∧ step ≤ 32) :
      Reports (if code = "ACCOUNT_BUSY" then .skipped else .failed) (some code) (some step)

theorem Reports.ended {step : Option Int} (h : Reports outcome code step) : outcome ≠ .running := by
  cases h with
  | success | interrupted => decide
  | error => split <;> decide

theorem Reports.step_range {step : Option Int} (h : Reports outcome code step) (i : Int)
    (hi : step = some i) : 1 ≤ i ∧ i ≤ 32 := by
  cases h with
  | success | interrupted => cases hi
  | error _ hstep =>
    cases hi
    exact hstep

/-- A run that ended is written down validly: its end is not before its
start, and the due time lies after both. -/
theorem finishedRecord_valid {step : Option Int} {finishedAt : Time} (h : r.valid id = true)
    (hstarted : ∃ startedAt, r.lastStartedAt = some startedAt ∧ startedAt ≤ finishedAt)
    (hdue : OnGrid r.anchorAt r.interval 1 due ∧ finishedAt < due)
    (hreports : Reports outcome code step) :
    ({ r with
      updatedAt := max r.updatedAt finishedAt
      nextDueAt := due
      lastFinishedAt := some finishedAt
      lastOutcome := some outcome
      lastErrorCode := code
      lastStepIndex := step } : RecurrenceRecord).valid id = true := by
  have hsound := sound_of_valid h
  obtain ⟨startedAt, hat, hle⟩ := hstarted
  refine valid_of_sound
    { identity := hsound.identity
      created := hsound.created.trans (le_max_left _ _)
      anchor := hsound.anchor
      due := hdue.1 } ?_ ?_ hreports.step_range ?_ ?_
  · intro _ hrunning
    exact hreports.ended (Option.some.inj hrunning)
  · simp only [lastRunValid, hat, Option.any_some, if_neg hreports.ended,
    finishedValid, checks_hold]
    refine ⟨⟨hle, hdue.2⟩, ?_⟩
    cases hreports with
    | success => rfl
    | interrupted =>
      have hsafe : isSafeErrorCode "INTERRUPTED" = true := by decide
      simp [failureValid, hsafe]
    | @error c i hsafe hstep =>
      by_cases hbusy : c = "ACCOUNT_BUSY"
      · subst hbusy
        simp [failureValid, hsafe]
      · simp [failureValid, hbusy, hsafe]
  · intro u hu
    rw [show r.lastStartedAt = some u from hu] at hat
    obtain rfl := Option.some.inj hat
    exact ((lastTimes_of_valid h).1 u hu).trans (le_max_left _ _)
  · intro u hu
    obtain rfl := Option.some.inj hu
    exact le_max_right _ _

theorem startedAt_of_running (h : r.valid id = true) (hrunning : r.lastOutcome = some .running)
    (now : Time) : ∃ startedAt, r.lastStartedAt = some startedAt
      ∧ startedAt ≤ max now (r.lastStartedAt.getD now) := by
  obtain ⟨startedAt, hstarted, -⟩ := running_of_valid h hrunning
  refine ⟨startedAt, hstarted, ?_⟩
  rw [hstarted]
  exact le_max_right _ _

/-- The end of a run that was marked lies after the anchor. -/
theorem anchor_le_started
    (hmarked : ∃ startedAt, r.lastStartedAt = some startedAt ∧ r.anchorAt ≤ startedAt) :
    r.anchorAt ≤ max now (r.lastStartedAt.getD now) := by
  obtain ⟨startedAt, hstarted, hle⟩ := hmarked
  rw [hstarted]
  exact hle.trans (le_max_right _ _)

theorem finished_valid {step : Option Int} (h : r.valid id = true)
    (hrunning : r.lastOutcome = some .running)
    (hmarked : ∃ startedAt, r.lastStartedAt = some startedAt ∧ r.anchorAt ≤ startedAt)
    (hreports : Reports outcome code step) :
    (finished r now outcome code step).valid id = true := by
  have hpos := (sound_of_valid h).interval_pos
  exact finishedRecord_valid h (startedAt_of_running h hrunning now)
    ⟨next_onGrid hpos (anchor_le_started hmarked), lt_next hpos _⟩ hreports

/-- A later due time, with nothing else changed but the time of the
update. -/
theorem postponed_valid {updated : Time} (h : r.valid id = true)
    (hdue : OnGrid r.anchorAt r.interval 1 due) (hlater : r.nextDueAt ≤ due)
    (hupdated : r.updatedAt ≤ updated) :
    ({ r with nextDueAt := due, updatedAt := updated } : RecurrenceRecord).valid id = true := by
  have hsound := sound_of_valid h
  have htimes := lastTimes_of_valid h
  have hall := h
  simp only [valid, checks_hold, Bool.not_eq_true', Bool.and_eq_false_iff,
    decide_eq_false_iff_not, Option.all_eq_true] at hall
  obtain ⟨⟨⟨⟨⟨-, hstatus⟩, hlast⟩, hstep⟩, -⟩, -⟩ := hall
  refine valid_of_sound
    { identity := hsound.identity
      created := hsound.created.trans hupdated
      anchor := hsound.anchor
      due := hdue } ?_ ?_ hstep ?_ ?_
  · intro hdisabled
    exact hstatus.resolve_left fun hne => hne hdisabled
  · -- both bounds on the last run are below the due time
    unfold lastRunValid at hlast ⊢
    dsimp only
    cases houtcome : r.lastOutcome with
    | none =>
      rw [houtcome] at hlast
      exact hlast
    | some outcome =>
      rw [houtcome] at hlast
      simp only [Option.any_eq_true] at hlast ⊢
      obtain ⟨startedAt, hstarted, hvalid⟩ := hlast
      refine ⟨startedAt, hstarted, ?_⟩
      split at hvalid
      case isTrue hrunning =>
        rw [if_pos hrunning]
        simp only [runningValid, checks_hold]
          at hvalid ⊢
        exact ⟨hvalid.1, lt_of_lt_of_le hvalid.2 hlater⟩
      case isFalse hended =>
        rw [if_neg hended]
        simp only [finishedValid, Option.any_eq_true, checks_hold] at hvalid ⊢
        obtain ⟨finishedAt, hfinished, ⟨hle, hlt⟩, hreport⟩ := hvalid
        exact ⟨finishedAt, hfinished, ⟨hle, lt_of_lt_of_le hlt hlater⟩, hreport⟩
  · exact fun u hu => (htimes.1 u hu).trans hupdated
  · exact fun u hu => (htimes.2 u hu).trans hupdated

/-- The due time a repair leaves: it is not in the past. -/
def repairedDue (r : RecurrenceRecord) (now : Time) : Time :=
  if r.nextDueAt ≤ now then r.boundaryAfter now else r.nextDueAt

theorem repairedDue_onGrid (h : r.Sound id) :
    OnGrid r.anchorAt r.interval 1 (repairedDue r now) := by
  unfold repairedDue
  split
  case isTrue hdue => exact next_onGrid h.interval_pos (h.anchor_lt.le.trans hdue)
  · exact h.due

theorem le_repairedDue (h : r.Sound id) :
    r.nextDueAt ≤ repairedDue r now ∧ now < repairedDue r now := by
  have hnext : now < r.boundaryAfter now := lt_next h.interval_pos now
  unfold repairedDue
  split
  case isTrue hdue => exact ⟨hdue.trans hnext.le, hnext⟩
  case isFalse hdue => exact ⟨le_rfl, not_le.mp hdue⟩

/-- A repair is a report of the interruption, if there was one, under the
repaired due time. -/
theorem repaired_eq (r : RecurrenceRecord) (now : Time) :
    ∃ updated, r.updatedAt ≤ updated ∧ repaired r now = if r.lastOutcome = some .running then
          { r with
            updatedAt := max r.updatedAt (max now (r.lastStartedAt.getD now))
            nextDueAt := repairedDue r now
            lastFinishedAt := some (max now (r.lastStartedAt.getD now))
            lastOutcome := some .interrupted
            lastErrorCode := some "INTERRUPTED"
            lastStepIndex := none }
        else { r with nextDueAt := repairedDue r now, updatedAt := updated } := by
  unfold repaired coalesce markInterrupted repairedDue
  by_cases hrunning : r.lastOutcome = some .running
  · refine ⟨r.updatedAt, le_rfl, ?_⟩
    simp only [hrunning, if_true]
    by_cases hdue : r.nextDueAt ≤ now
    · have hmax : max (max r.updatedAt (max now (r.lastStartedAt.getD now))) now
          = max r.updatedAt (max now (r.lastStartedAt.getD now)) :=
        max_eq_left ((le_max_left _ _).trans (le_max_right _ _))
      simp only [hdue, if_true, hmax]
      rfl
    · simp only [hdue, if_false]
  · by_cases hdue : r.nextDueAt ≤ now
    · refine ⟨max r.updatedAt now, le_max_left _ _, ?_⟩
      simp only [hrunning, hdue, if_true, if_false]
    · refine ⟨r.updatedAt, le_rfl, ?_⟩
      simp only [hrunning, hdue, if_false]

/-- An interrupted run is repaired validly, whatever the clock says. -/
theorem repaired_valid (h : r.valid id = true) : (repaired r now).valid id = true := by
  have hsound := sound_of_valid h
  have hlater : r.nextDueAt ≤ repairedDue r now ∧ now < repairedDue r now :=
    le_repairedDue hsound
  obtain ⟨updated, hupdated, heq⟩ := repaired_eq r now
  rw [heq]
  split
  case isTrue hrunning =>
    obtain ⟨startedAt, hstarted, hbefore⟩ := running_of_valid h hrunning
    refine finishedRecord_valid h (startedAt_of_running h hrunning now)
      ⟨repairedDue_onGrid hsound, ?_⟩ .interrupted
    rw [hstarted]
    exact max_lt hlater.2 (lt_of_lt_of_le hbefore hlater.1)
  · exact postponed_valid h (repairedDue_onGrid hsound) hlater.1 hupdated

-- ==== what is stored

/-- The fields `update` compares. -/
structure SameRecurrence (r r' : RecurrenceRecord) : Prop where
  id : r'.id = r.id
  account : r'.account = r.account
  createdAt : r'.createdAt = r.createdAt
  anchorAt : r'.anchorAt = r.anchorAt
  intervalSeconds : r'.intervalSeconds = r.intervalSeconds
  workflowFile : r'.workflowFile = r.workflowFile
  status : r'.status = r.status

theorem update_ok (h : r'.valid r'.id = true) (hsame : SameRecurrence r r') :
    update r r' = .ok r' := by
  simp [update, require, h, hsame.account, hsame.createdAt, hsame.anchorAt, hsame.intervalSeconds,
    hsame.workflowFile, hsame.status, bind, Except.bind, pure, Except.pure]

theorem update_eq_ok (h : update r r' = .ok stored) : stored = r' ∧ r'.valid r'.id = true := by
  simp only [update, steps_ok] at h
  exact ⟨h.2.2.symm, h.1⟩

theorem repaired_same (r : RecurrenceRecord) (now : Time) : SameRecurrence r (repaired r now) := by
  obtain ⟨updated, -, heq⟩ := repaired_eq r now
  rw [heq]
  split <;> constructor <;> rfl

-- ==== the invariant

/-- A run has been marked: RUNNING since a time the due time is the next
boundary after. -/
structure Marked (r : RecurrenceRecord) : Prop where
  enabled : r.status = .enabled
  running : r.lastOutcome = some .running
  startedAt : ∃ startedAt, r.lastStartedAt = some startedAt ∧ r.anchorAt ≤ startedAt
    ∧ r.nextDueAt = r.boundaryAfter startedAt

/-- What the runner knows of the record, and of the boundary it is about
to start. -/
def RunnerPhase.fits (R : Recurrence) : RunnerPhase → Prop
  | .stopped => True
  | .waiting record => record = R.record ∧ record.status = .enabled
  | .marked record due => record = R.record ∧ Marked record
      ∧ OnGrid record.anchorAt record.interval 1 due ∧ due < record.nextDueAt
      ∧ ∀ b ∈ R.starts, b < due
  | .executing record => record = R.record ∧ Marked record

/-- The record is valid, the runner knows it, and the boundaries that
were started are apart and behind the due time. -/
structure RecurrenceInv (R : Recurrence) : Prop where
  valid : R.record.valid R.record.id = true
  fits : R.phase.fits R
  starts : ∀ b ∈ R.starts, b < R.record.nextDueAt
  increasing : R.starts.Pairwise (· > ·)

/-- The outcomes of a plan are reports, with the number of a step. -/
theorem runWorkflow_step {index : Int} {code : String} {i : Int}
    (h : runWorkflow index steps = .workflowError code i) :
    isSafeErrorCode code = true ∧ index ≤ i ∧ i < index + steps.length := by
  induction steps generalizing index with
  | nil => cases h
  | cons step steps ih =>
    cases step with
    | value =>
      obtain ⟨hsafe, hle, hlt⟩ := ih h
      rw [List.length_cons, Nat.cast_succ]
      exact ⟨hsafe, by omega, by omega⟩
    | sanitized text =>
      unfold runWorkflow at h
      split at h
      case isTrue hsafe =>
        injection h with hcode hi
        subst hcode hi
        rw [List.length_cons, Nat.cast_succ]
        exact ⟨hsafe, le_rfl, by omega⟩
      · cases h
    | cancelled | other => cases h

theorem afterOutcome_finished (hplan : planLength steps)
    (h : afterOutcome r now (runWorkflow 1 steps) = some r') :
    ∃ outcome code step, Reports outcome code step ∧ r' = finished r now outcome code step := by
  cases houtcome : runWorkflow 1 steps with
  | success =>
    rw [houtcome] at h
    exact ⟨_, _, _, .success, (Option.some.inj h).symm⟩
  | workflowError code i =>
    rw [houtcome] at h
    obtain ⟨hsafe, hle, hlt⟩ := runWorkflow_step houtcome
    have hmax := hplan.2
    exact ⟨_, _, _, .error hsafe ⟨hle, by omega⟩, (Option.some.inj h).symm⟩
  | cancelled =>
    rw [houtcome] at h
    exact ⟨_, _, _, .interrupted, (Option.some.inj h).symm⟩
  | other =>
    rw [houtcome] at h
    cases h

/-- The due time a marked run is finished under does not go back. -/
theorem finished_due {step : Option Int} (h : r.valid id = true) (hmarked : Marked r) :
    r.nextDueAt ≤ (finished r now outcome code step).nextDueAt := by
  obtain ⟨startedAt, hstarted, -, hdue⟩ := hmarked.startedAt
  rw [hdue]
  refine next_mono (sound_of_valid h).interval_pos ?_
  rw [hstarted]
  exact le_max_right _ _

open Recurrence

/-- Whatever is passed to `update` is valid, of this recurrence, and does
not take the due time back. -/
theorem passed_spec (hR : RecurrenceInv R) (hen : recurrence.enabled R e)
    (h : R.passed e = some r) :
    r.valid r.id = true ∧ SameRecurrence R.record r ∧ R.record.nextDueAt ≤ r.nextDueAt := by
  obtain ⟨hvalid, hfits, -, -⟩ := hR
  cases e with
  | start now =>
    simp only [passed] at h
    split at h
    · split at h
      · cases h
        have hsame := repaired_same R.record now
        refine ⟨hsame.id ▸ repaired_valid hvalid, hsame, ?_⟩
        obtain ⟨updated, -, heq⟩ := repaired_eq R.record now
        have hdue : (repaired R.record now).nextDueAt = repairedDue R.record now := by
          rw [heq]
          split <;> rfl
        rw [hdue]
        exact (le_repairedDue (sound_of_valid hvalid)).1
      · cases h
    · cases h
  | wake now =>
    simp only [passed] at h
    split at h
    case h_1 record hphase =>
      rw [hphase] at hfits
      obtain ⟨rfl, henabled⟩ := hfits
      split at h
      case isTrue hdue =>
        cases h
        have hlater : now < (started R.record now).nextDueAt :=
          lt_next (sound_of_valid hvalid).interval_pos now
        exact ⟨started_valid hvalid henabled hdue, ⟨rfl, rfl, rfl, rfl, rfl, rfl, rfl⟩,
          hdue.trans hlater.le⟩
      · cases h
    · cases h
  | finish now steps =>
    simp only [passed] at h
    split at h
    case h_1 record hphase =>
      rw [hphase] at hfits
      obtain ⟨rfl, hmarked⟩ := hfits
      obtain ⟨outcome, code, step, hreports, rfl⟩ :=
        afterOutcome_finished (hen now steps rfl) h
      obtain ⟨startedAt, hstarted, hanchor, -⟩ := hmarked.startedAt
      exact ⟨finished_valid hvalid hmarked.running ⟨startedAt, hstarted, hanchor⟩ hreports,
        ⟨rfl, rfl, rfl, rfl, rfl, rfl, rfl⟩, finished_due hvalid hmarked⟩
    · cases h
  | execute => cases h
  | disable now => cases h
  | crash => cases h

theorem written_passed {phase : RecurrenceRecord → RunnerPhase} (hR : RecurrenceInv R)
    (hen : recurrence.enabled R e) (h : R.passed e = some r) :
    R.written r phase = { R with record := r, phase := phase r } := by
  obtain ⟨hvalid, hsame, -⟩ := passed_spec hR hen h
  unfold written
  rw [update_ok hvalid hsame]

/-- A record stored in place of the last one keeps what was started. -/
theorem RecurrenceInv.store {phase : RunnerPhase} (hR : RecurrenceInv R)
    (hvalid : r.valid r.id = true) (hlater : R.record.nextDueAt ≤ r.nextDueAt)
    (hfits : phase.fits { R with record := r, phase := phase }) :
    RecurrenceInv { R with record := r, phase := phase } where
  valid := hvalid
  fits := hfits
  starts := fun b hb => lt_of_lt_of_le (hR.starts b hb) hlater
  increasing := hR.increasing

theorem RecurrenceInv.stop (hR : RecurrenceInv R) : RecurrenceInv { R with phase := .stopped } :=
  ⟨hR.valid, trivial, hR.starts, hR.increasing⟩

/-- What an event does. -/
inductive Recurrence.Moves (R : Recurrence) (e : RecurrenceEvent) : Recurrence → Prop
  | stays : Moves R e R
  | stops : Moves R e { R with phase := .stopped }
  | waits (henabled : R.record.status = .enabled) :
      Moves R e { R with phase := .waiting R.record }
  | repairs {now : Time} (henabled : R.record.status = .enabled)
      (hpassed : R.passed e = some (repaired R.record now)) :
      Moves R e (R.written (repaired R.record now) .waiting)
  | marks {r : RecurrenceRecord} {now : Time} (hphase : R.phase = .waiting r)
      (hdue : r.nextDueAt ≤ now)
      (hpassed : R.passed e = some (started r now)) :
      Moves R e (R.written (started r now) fun stored => .marked stored r.nextDueAt)
  | executes {r : RecurrenceRecord} {due : Time} (hphase : R.phase = .marked r due) :
      Moves R e { R with phase := .executing r, starts := due :: R.starts }
  | ends {r r' : RecurrenceRecord} {steps : List StepOutcome}
      (hphase : R.phase = .executing r) (hpassed : R.passed e = some r') :
      Moves R e (R.written r' fun stored =>
        if runWorkflow 1 steps = .cancelled then .stopped else .waiting stored)
  | disables {now : Time} : Moves R e (R.written (disabledRecord R.record now) fun _ => .stopped)

theorem Recurrence.after_moves (R : Recurrence) (e : RecurrenceEvent) : R.Moves e (R.after e) := by
  cases e with
  | start now =>
    simp only [after]
    split
    case h_1 hphase =>
      split
      case isTrue henabled =>
        split
        case isTrue hchanged =>
          refine .repairs henabled ?_
          simp only [passed, hphase]
          exact if_pos ⟨henabled, hchanged⟩
        · exact .waits henabled
      · exact .stays
    · exact .stays
  | wake now =>
    simp only [after]
    split
    case h_1 hphase =>
      split
      case isTrue hdue =>
        refine .marks hphase hdue ?_
        simp only [passed, hphase]
        exact if_pos hdue
      · exact .stays
    · exact .stays
  | execute =>
    simp only [after]
    split
    case h_1 hphase => exact .executes hphase
    · exact .stays
  | finish now steps =>
    simp only [after]
    split
    case h_1 hphase =>
      split
      case h_1 houtcome =>
        refine .ends hphase ?_
        simp only [passed, hphase]
        exact houtcome
      · exact .stops
    · exact .stays
  | disable now =>
    simp only [after]
    split
    · split
      · exact .stays
      · exact .disables
    · exact .stays
  | crash => exact .stops

/-- One event: the invariant, and the one way a run is started. -/
theorem RecurrenceInv.step (hR : RecurrenceInv R) (hen : recurrence.enabled R e) :
    RecurrenceInv (R.after e) := by
  have hfits := hR.fits
  have hmove := R.after_moves e
  generalize R.after e = R' at hmove ⊢
  cases hmove with
  | stays => exact hR
  | stops => exact hR.stop
  | waits henabled => exact ⟨hR.valid, ⟨rfl, henabled⟩, hR.starts, hR.increasing⟩
  | repairs henabled hpassed =>
    obtain ⟨hvalid, hsame, hlater⟩ := passed_spec hR hen hpassed
    rw [written_passed hR hen hpassed]
    exact hR.store hvalid hlater ⟨rfl, hsame.status.trans henabled⟩
  | @marks _ now hphase hdue hpassed =>
    rw [hphase] at hfits
    obtain ⟨rfl, henabled⟩ := hfits
    obtain ⟨hvalid, -, hlater⟩ := passed_spec hR hen hpassed
    have hsound := sound_of_valid hR.valid
    have hnext : now < (started R.record now).nextDueAt := lt_next hsound.interval_pos now
    rw [written_passed hR hen hpassed]
    refine hR.store hvalid hlater ⟨rfl, ⟨henabled, rfl, now, rfl, ?_, rfl⟩, hsound.due,
      lt_of_le_of_lt hdue hnext, hR.starts⟩
    exact hsound.anchor_lt.le.trans hdue
  | executes hphase =>
    rw [hphase] at hfits
    obtain ⟨rfl, hmarked, -, hbefore, hlast⟩ := hfits
    refine ⟨hR.valid, ⟨rfl, hmarked⟩, ?_, List.pairwise_cons.mpr ⟨hlast, hR.increasing⟩⟩
    intro b hb
    rcases List.mem_cons.mp hb with rfl | hb
    · exact hbefore
    · exact hR.starts b hb
  | ends hphase hpassed =>
    rw [hphase] at hfits
    obtain ⟨hvalid, hsame, hlater⟩ := passed_spec hR hen hpassed
    rw [written_passed hR hen hpassed]
    refine hR.store hvalid hlater ?_
    split
    · exact trivial
    · obtain ⟨rfl, hmarked⟩ := hfits
      exact ⟨rfl, hsame.status.trans hmarked.enabled⟩
  | disables =>
    -- a RUNNING record is refused, and stays as it is
    unfold written
    split
    case h_1 stored hstored =>
      obtain ⟨rfl, hvalid⟩ := update_eq_ok hstored
      exact hR.store hvalid le_rfl trivial
    · exact hR.stop

theorem RecurrenceInv.reachable (h : recurrence.Reachable (fun _ _ => True) R) :
    RecurrenceInv R := by
  refine h.invariant ?_ fun R e hR hen _ => hR.step hen
  rintro R ⟨hvalid, hphase, hstarts⟩
  refine ⟨hvalid, ?_, ?_, ?_⟩
  · rw [hphase]
    exact trivial
  · rw [hstarts]
    exact fun b hb => absurd hb List.not_mem_nil
  · rw [hstarts]
    exact List.Pairwise.nil

theorem written_record (R : Recurrence) (r : RecurrenceRecord)
    (phase : RecurrenceRecord → RunnerPhase) :
    (R.written r phase).starts = R.starts
      ∧ ((R.written r phase).record = R.record ∨ (R.written r phase).record = r) := by
  unfold written
  split
  case h_1 stored hstored => exact ⟨rfl, .inr (update_eq_ok hstored).1⟩
  · exact ⟨rfl, .inl rfl⟩

theorem after_due (R : Recurrence) (e : RecurrenceEvent) :
    (R.after e).record.nextDueAt = R.record.nextDueAt
      ∨ ∃ r, R.passed e = some r ∧ (R.after e).record = r := by
  have hwritten {r : RecurrenceRecord} (phase : RecurrenceRecord → RunnerPhase)
      (hpassed : R.passed e = some r) :
      (R.written r phase).record.nextDueAt = R.record.nextDueAt
        ∨ ∃ r', R.passed e = some r' ∧ (R.written r phase).record = r' := by
    refine (written_record R r phase).2.imp ?_ fun h => ⟨r, hpassed, h⟩
    intro h
    rw [h]
  have hmove := R.after_moves e
  generalize R.after e = R' at hmove ⊢
  cases hmove with
  | stays | stops | waits | executes => exact .inl rfl
  | repairs _ hpassed | marks _ _ hpassed | ends _ hpassed => exact hwritten _ hpassed
  | @disables now =>
    left
    rcases (written_record R (disabledRecord R.record now) fun _ => .stopped).2 with h | h <;>
      rw [h]
    rfl

theorem RecurrenceInv.due_mono (hR : RecurrenceInv R) (hen : recurrence.enabled R e) :
    R.record.nextDueAt ≤ (R.after e).record.nextDueAt := by
  rcases after_due R e with h | ⟨r, hpassed, h⟩
  · exact h.ge
  · rw [h]
    exact (passed_spec hR hen hpassed).2.2

theorem after_starts (R : Recurrence) (e : RecurrenceEvent) : (R.after e).starts = R.starts
      ∨ ∃ record due, R.phase = .marked record due ∧ (R.after e).starts = due :: R.starts := by
  have hmove := R.after_moves e
  generalize R.after e = R' at hmove ⊢
  cases hmove with
  | stays | stops | waits => exact .inl rfl
  | repairs | marks | ends | disables => exact .inl (written_record _ _ _).1
  | executes hphase => exact .inr ⟨_, _, hphase, rfl⟩

-- ==== every boundary

/-- Whatever the clock reads, however a run ends and wherever the process
stops: what is passed to `update` passes the check and is stored, the due
time is on the grid and does not go back, and a run starts only for a
boundary that the durable record has already moved past and that is later
than any before. -/
theorem boundaries_start_once (R : Recurrence) (h : recurrence.Reachable (fun _ _ => True) R) :
    (∃ k : Int, 1 ≤ k ∧ R.record.nextDueAt = R.record.anchorAt + k * R.record.interval)
      ∧ R.starts.Pairwise (· > ·)
      ∧ (∀ e r, recurrence.enabled R e → R.passed e = some r →
          r.valid r.id = true ∧ update R.record r = .ok r)
      ∧ ∀ e, recurrence.enabled R e →
          R.record.nextDueAt ≤ (recurrence.step R e).record.nextDueAt
            ∧ ((recurrence.step R e).starts = R.starts
              ∨ ∃ due, (recurrence.step R e).starts = due :: R.starts
                ∧ (∃ k : Int, 1 ≤ k ∧ due = R.record.anchorAt + k * R.record.interval)
                ∧ due < R.record.nextDueAt ∧ ∀ b ∈ R.starts, b < due) := by
  have hR := RecurrenceInv.reachable h
  refine ⟨(sound_of_valid hR.valid).due, hR.increasing, ?_, ?_⟩
  · intro e r hen hpassed
    obtain ⟨hvalid, hsame, -⟩ := passed_spec hR hen hpassed
    exact ⟨hvalid, update_ok hvalid hsame⟩
  · intro e hen
    refine ⟨hR.due_mono hen, ?_⟩
    rcases after_starts R e with hstarts | ⟨record, due, hphase, hstarts⟩
    · exact .inl hstarts
    · have hfits := hR.fits
      rw [hphase] at hfits
      obtain ⟨rfl, -, hgrid, hbefore, hlast⟩ := hfits
      exact .inr ⟨due, hstarts, hgrid, hbefore, hlast⟩

/-- An hourly recurrence whose first run is cut off by a crash; the clock
then goes back before the due time of the run, and the second boundary is
started on time. -/
def hourly : Recurrence where
  record := create "hourly" "main" 3600 0
  phase := .stopped
  starts := []

/-- The events of `hourly`. -/
def hourlyRun : List RecurrenceEvent :=
  [.start 0, .wake (seconds 3700), .execute, .crash, .start (seconds 100),
    .wake (seconds 7300), .execute, .finish (seconds 7200) [.value]]

/-- A plan that ends has a plan's length. -/
def RecurrenceEvent.planned : RecurrenceEvent → Bool
  | .finish _ steps => decide (1 ≤ steps.length) && decide (steps.length ≤ 32)
  | _ => true

theorem enabled_of_planned (h : e.planned = true) : recurrence.enabled R e := by
  rintro now steps rfl
  simp only [RecurrenceEvent.planned, checks_hold] at h
  exact h

theorem boundaries_start_once_hourly :
    (recurrence.runs hourlyRun hourly).starts = [seconds 7200, seconds 3600]
      ∧ (recurrence.runs hourlyRun hourly).starts.Pairwise (· > ·) := by
  have hrun : recurrence.Reachable (fun _ _ => True) (recurrence.runs hourlyRun hourly) :=
    Machine.Reachable.runs (fun _ e _ he => ⟨enabled_of_planned he, trivial⟩)
      (.init ⟨by decide, rfl, rfl⟩)
      (by decide : recurrence.checks (fun _ e => e.planned) hourlyRun hourly = true)
  exact ⟨by decide, (boundaries_start_once _ hrun).2.1⟩

-- ==== disabling

/-- `disable` changes no field the check of the last run reads. -/
theorem disabledRecord_valid (h : r.valid id = true) (hended : r.lastOutcome ≠ some .running) :
    (disabledRecord r now).valid id = true := by
  have hlater := postponed_valid h (sound_of_valid h).due le_rfl (le_max_left r.updatedAt now)
  simp only [valid, Bool.and_eq_true] at hlater ⊢
  obtain ⟨⟨⟨⟨⟨hidentity, -⟩, hlast⟩, hstep⟩, hstarted⟩, hfinished⟩ := hlater
  refine ⟨⟨⟨⟨⟨hidentity, ?_⟩, hlast⟩, hstep⟩, hstarted⟩, hfinished⟩
  simp only [disabledRecord, hended, decide_false, Bool.and_false, Bool.not_false]

theorem disabledRecord_invalid (hrunning : r.lastOutcome = some .running) :
    (disabledRecord r now).valid id = false := by
  simp only [valid, disabledRecord, hrunning, decide_true, Bool.and_self,
    Bool.not_true, Bool.and_false, Bool.false_and]

theorem update_disabled (h : (disabledRecord r now).valid r.id = true) :
    update r (disabledRecord r now) = .ok (disabledRecord r now) := by
  refine bind_eq_ok.mpr ⟨(), require_eq_ok.mpr h, bind_eq_ok.mpr ⟨(), require_eq_ok.mpr ?_, rfl⟩⟩
  exact ⟨rfl, rfl, rfl, rfl, rfl, fun hkept => hkept.2 rfl, fun hkept => hkept.2 rfl⟩

/-- A valid record is disabled exactly when no run of it is written down
as RUNNING. -/
theorem disable_iff (h : r.valid r.id = true) (now : Time) :
    (∃ stored, disable r now = .ok stored ∧ stored.status = .disabled)
      ↔ r.lastOutcome ≠ some .running := by
  constructor
  · rintro ⟨stored, hstored, -⟩ hrunning
    unfold disable at hstored
    split at hstored
    case isTrue hdisabled =>
      simp [valid, hdisabled, hrunning] at h
    · have hvalid := (update_eq_ok hstored).2
      rw [disabledRecord_invalid hrunning] at hvalid
      cases hvalid
  · intro hended
    by_cases hdisabled : r.status = .disabled
    · exact ⟨r, if_pos hdisabled, hdisabled⟩
    · refine ⟨disabledRecord r now, ?_, rfl⟩
      unfold disable
      rw [if_neg hdisabled]
      exact update_disabled (disabledRecord_valid h hended)

/-- The event stores what `disable` returns. -/
theorem after_disable (hstopped : R.phase = .stopped) (h : disable R.record now = .ok stored) :
    (R.after (.disable now)).record = stored := by
  unfold disable at h
  simp only [after, hstopped]
  split
  case isTrue hdisabled =>
    rw [if_pos hdisabled] at h
    exact Except.ok.inj h
  case isFalse henabled =>
    rw [if_neg henabled] at h
    unfold written
    rw [h]

/-- Whenever nobody runs a recurrence, `disable` succeeds and leaves it
DISABLED exactly when its last run was not left RUNNING. -/
theorem disable_unless_running (R : Recurrence)
    (h : recurrence.Reachable (fun _ _ => True) R) (hstopped : R.phase = .stopped) (now : Time) :
    (∃ stored, disable R.record now = .ok stored ∧ stored.status = .disabled
        ∧ (recurrence.step R (.disable now)).record.status = .disabled)
      ↔ R.record.lastOutcome ≠ some .running := by
  rw [← disable_iff (RecurrenceInv.reachable h).valid now]
  constructor
  · rintro ⟨stored, hstored, hstatus, -⟩
    exact ⟨stored, hstored, hstatus⟩
  · rintro ⟨stored, hstored, hstatus⟩
    refine ⟨stored, hstored, hstatus, ?_⟩
    rw [← after_disable hstopped hstored] at hstatus
    exact hstatus

/-- A run that ended. -/
def hourlyEnded : List RecurrenceEvent :=
  [.start 0, .wake (seconds 3700), .execute, .finish (seconds 3710) [.value], .crash]

theorem disable_unless_running_ended : (recurrence.step (recurrence.runs hourlyEnded hourly)
      (.disable (seconds 3800))).record.status = .disabled := by
  have hrun : recurrence.Reachable (fun _ _ => True) (recurrence.runs hourlyEnded hourly) :=
    Machine.Reachable.runs (fun _ e _ he => ⟨enabled_of_planned he, trivial⟩)
      (.init ⟨by decide, rfl, rfl⟩)
      (by decide : recurrence.checks (fun _ e => e.planned) hourlyEnded hourly = true)
  obtain ⟨-, -, -, hstatus⟩ :=
    (disable_unless_running _ hrun rfl (seconds 3800)).mpr (by decide)
  exact hstatus

/-- A run whose process ended while it executed. -/
def hourlyCut : List RecurrenceEvent := [.start 0, .wake (seconds 3700), .execute, .crash]

/-- It stays ENABLED: what `disable` would store is not valid. -/
theorem cut_run_not_disabled :
    recurrence.checks (fun _ e => e.planned) hourlyCut hourly = true
      ∧ disable (recurrence.runs hourlyCut hourly).record (seconds 3800) = .error .stateInvalid
      ∧ (recurrence.step (recurrence.runs hourlyCut hourly)
          (.disable (seconds 3800))).record.status = .enabled := by
  decide

end ThreadsPlatform
