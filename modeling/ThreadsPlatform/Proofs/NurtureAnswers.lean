/-
Whom the nurture runner answers, over whole histories.

An unresolved target is answered by nobody else. A confirmed one is
answered once as long as the document spares it: `crowded` is the
history in which two thousand other targets are seen after it, so that
its record is dropped and the next run with a draft for it answers it
again.
-/
import ThreadsPlatform.Proofs.NurtureTargets

namespace ThreadsPlatform

open Relational NurtureAccountLock NurtureRunner

variable {N N' : Nurture} {fp : Fingerprint} {n : Nat} {run : NurtureRun}
  {d d' : NurtureTargetState} {runId : RunId} {running : RunId → Bool} {decision : TargetDecision}
  {now : Time}

theorem runs_reachable {N0 : Nurture} (h : (nurture.startingAt N0).Reachable (fun _ _ => True) N)
    (events : List NurtureEvent) :
    (nurture.startingAt N0).Reachable (fun _ _ => True) (nurture.runs events N) := by
  induction events generalizing N with
  | nil => exact h
  | cons e events ih => exact ih (h.step trivial trivial)

-- ==== a run that looks

/-- A run that looks at one inbound candidate. -/
def lookAt (run : NurtureRun) (fp : Fingerprint) : List NurtureEvent :=
  [.start run, .select [⟨fp, .inbound, true⟩] [], .act .done]

/-- A run that looks at a target nobody saw stores it, if the document
does. -/
theorem runs_lookAt (hphase : N.phase = none) (hid : run.id ∉ N.runIds)
    (hlook : run.request = .look false) (hnew : ∀ t ∈ N.document.targets, t.fingerprint ≠ fp)
    (hd : observeTarget (Nurture.running run) N.document fp run.id .inboundCandidate run.now
      = .ok d') :
    nurture.runs (lookAt run fp) N
      = { N with document := d', runIds := run.id :: N.runIds, phase := none } := by
  have hfind := findTarget_eq_none.mpr hnew
  have hselect : selectCurrentCandidate N.document.targets run [⟨fp, .inbound, true⟩] []
      = .ok (some ⟨fp, .inbound, true⟩) := by
    simp [selectCurrentCandidate, checkRequest, checkChosen, candidateSurfaceEligible,
      surfaceEligible, hfind, hlook, NurtureRequest.isQuote, require, bind, Except.bind, pure,
      Except.pure]
  simp [Machine.runs, lookAt, nurture, Nurture.after, hphase, hid, hselect, checkMutation, hlook,
    NurtureRequest.bound, Nurture.observe, selectionDecision, hd, DocumentWrite.document]

theorem observeTarget_new (hrun : running runId = true) (hnew : ∀ t ∈ d.targets, t.fingerprint ≠ fp)
    (hd : replaceTarget d (observed none fp runId decision now) (some fp) = .ok d') :
    observeTarget running d fp runId decision now = .ok d' := by
  have htouches : Touches d (observed none fp runId decision now) d' := replaceTarget_touches hd
  have hsave : saveTargetState running d d' = .ok d' :=
    saveTargetState_new htouches hnew (.inl rfl) hrun
  simp only [observeTarget, findTarget_eq_none.mpr hnew, hrun, hd, hsave, require, if_true, bind,
    Except.bind]

theorem observed_valid : (observed none fp runId decision now).valid = true := by
  simp [observed, NurtureTarget.valid]

-- ==== a run that replies

/-- A run that replies to one inbound candidate and succeeds. -/
def replyTo (run : NurtureRun) (fp : Fingerprint) : List NurtureEvent :=
  [.start run, .select [⟨fp, .inbound, true⟩] [], .act .done, .call, .answer (.success 8)]

theorem runs_replyTo (hphase : N.phase = none) (hid : run.id ∉ N.runIds)
    (hreply : run.request = .reply fp)
    (henabled : run.preset.engagementEnabled = true ∧ 1 ≤ run.preset.maxRepliesPerExplicitRun)
    (hnew : ∀ t ∈ N.document.targets, t.fingerprint ≠ fp)
    (hd : reserveTarget (Nurture.running run) N.document fp run.id .replyApply run.now = .ok d') :
    nurture.runs (replyTo run fp) N = ⟨d', run.id :: N.runIds,
      some (.answered run fp .confirmed 8), (fp, run.id) :: N.reservations,
      (fp, run.id) :: N.calls, (fp, run.id) :: N.successes⟩ := by
  have hfind := findTarget_eq_none.mpr hnew
  have hselect : selectCurrentCandidate N.document.targets run [⟨fp, .inbound, true⟩] []
      = .ok (some ⟨fp, .inbound, true⟩) := by
    simp [selectCurrentCandidate, checkRequest, checkChosen, candidateSurfaceEligible, boundFree,
      surfaceEligible, hfind, hreply, henabled, NurtureRequest.isQuote, require, bind, Except.bind,
      pure, Except.pure]
  simp [Machine.runs, replyTo, nurture, Nurture.after, hphase, hid, hselect, checkMutation, hreply,
    NurtureRequest.bound, Nurture.reserve, selectionDecision, hd, DocumentWrite.document,
    DocumentWrite.succeeds, DocumentWrite.effective, require, bind, Except.bind]

theorem reserveTarget_new (hrun : running runId = true) (hnew : ∀ t ∈ d.targets, t.fingerprint ≠ fp)
    (hd : replaceTarget d ⟨fp, now, now, decision, some now, .pending, runId, none⟩ (some fp)
      = .ok d') : reserveTarget running d fp runId decision now = .ok d' := by
  have htouches : Touches d ⟨fp, now, now, decision, some now, .pending, runId, none⟩ d' :=
    replaceTarget_touches hd
  have hsave : saveTargetState running d d' = .ok d' :=
    saveTargetState_new htouches hnew (.inr rfl) hrun
  simp only [reserveTarget, reserved, findTarget_eq_none.mpr hnew, hrun, hd, hsave, require,
    if_true, bind, Except.bind]

theorem pending_valid :
    (⟨fp, now, now, decision, some now, .pending, runId, none⟩ : NurtureTarget).valid = true := by
  simp [NurtureTarget.valid]

-- ==== the crowd

/-- The preset of the history. -/
def openPreset : NurturePreset := ⟨true, 1, true, 0⟩

/-- The run that replies to the target 0, and its answer. -/
def replyZero (id : RunId) (now : Time) : NurtureRun := ⟨id, now, openPreset, .reply 0⟩

/-- The history begins with a run that replies to the target 0 and
confirms it. -/
def firstReply : List NurtureEvent :=
  [.start (replyZero 1 0), .select [⟨0, .inbound, true⟩] [], .act .done, .call,
    .answer (.success 7), .complete .done]

/-- Before any run. -/
def noRuns : Nurture := ⟨.empty, [], none, [], [], []⟩

/-- After the first reply. -/
def answeredZero : Nurture := nurture.runs firstReply noRuns

theorem answeredZero_targets : answeredZero.document.targets
    = [⟨0, 0, 0, .replyApply, some 0, .confirmed, 1, some 7⟩] := by decide

theorem answeredZero_phase : answeredZero.phase = none :=
  Option.isNone_iff_eq_none.mp (by decide)

/-- The `n`th of the other runs. -/
def lookRun (n : Nat) : NurtureRun := ⟨n + 2, n + 1, openPreset, .look false⟩

/-- After the first reply and `n` looks at other targets. -/
structure Crowd (n : Nat) (N : Nurture) : Prop where
  phase : N.phase = none
  ids : ∀ id ∈ N.runIds, id ≤ n + 1
  length : N.document.targets.length = n + 1
  first : ∃ t ∈ N.document.targets, t.fingerprint = 0 ∧ t.actionState = .confirmed
    ∧ t.lastSeenAt = 0
  others : ∀ t ∈ N.document.targets, t.fingerprint.val ≤ n ∧ (t.fingerprint ≠ 0 → 0 < t.lastSeenAt)

theorem crowd_answeredZero : Crowd 0 answeredZero where
  phase := answeredZero_phase
  ids := by decide
  length := by rw [answeredZero_targets]; rfl
  first := by rw [answeredZero_targets]; exact ⟨_, List.mem_singleton_self _, rfl, rfl, rfl⟩
  others := by
    rw [answeredZero_targets]
    intro t ht
    obtain rfl := List.mem_singleton.mp ht
    exact ⟨le_rfl, fun h => absurd rfl h⟩

/-- A fingerprint with the number `n + 1`. -/
theorem exists_fingerprint (hn : n < maxNurtureTargets) : ∃ fp : Fingerprint, fp.val = n + 1 := by
  have hlt : n + 1 < 16 ^ 64 := lt_trans (Nat.succ_lt_succ hn) (by decide)
  exact ⟨⟨n + 1, hlt⟩, rfl⟩

theorem Crowd.new (h : Crowd n N) (hfp : fp.val = n + 1) :
    ∀ t ∈ N.document.targets, t.fingerprint ≠ fp := by
  intro t ht heq
  have hle := (h.others t ht).1
  rw [heq, hfp] at hle
  omega

theorem Crowd.id (h : Crowd n N) : (lookRun n).id ∉ N.runIds := by
  intro hid
  have hle := h.ids _ hid
  change n + 2 ≤ n + 1 at hle
  omega

theorem Crowd.grow (h : Crowd n N) (hn : n + 1 < maxNurtureTargets) (hfp : fp.val = n + 1) :
    ∃ N', nurture.runs (lookAt (lookRun n) fp) N = N' ∧ Crowd (n + 1) N'
      ∧ N'.reservations = N.reservations ∧ N'.calls = N.calls ∧ N'.successes = N.successes := by
  have hnew := h.new hfp
  obtain ⟨d', hd', hperm⟩ : ∃ d', replaceTarget N.document
      (observed none fp (lookRun n).id .inboundCandidate (lookRun n).now) (some fp) = .ok d'
        ∧ d'.targets.Perm (N.document.targets
          ++ [observed none fp (lookRun n).id .inboundCandidate (lookRun n).now]) :=
    replaceTarget_below hnew observed_valid (h.length ▸ hn)
  refine ⟨_, runs_lookAt h.phase h.id rfl hnew (observeTarget_new (decide_eq_true rfl) hnew hd'),
    ⟨rfl, ?_, ?_, ?_, ?_⟩, rfl, rfl, rfl⟩
  · intro id hid
    rcases List.mem_cons.mp hid with rfl | hid
    · exact le_rfl
    · exact (h.ids id hid).trans (Nat.le_succ _)
  · rw [hperm.length_eq, List.length_append, h.length, List.length_singleton]
  · obtain ⟨t, ht, hfirst⟩ := h.first
    exact ⟨t, hperm.mem_iff.mpr (List.mem_append_left _ ht), hfirst⟩
  · intro t ht
    rcases List.mem_append.mp (hperm.mem_iff.mp ht) with ht | ht
    · exact ⟨(h.others t ht).1.trans (Nat.le_succ _), (h.others t ht).2⟩
    · obtain rfl := List.mem_singleton.mp ht
      exact ⟨hfp.le, fun _ => Int.natCast_succ_pos n⟩

theorem crowd_reachable (hn : n < maxNurtureTargets) :
    ∃ N, (nurture.startingAt answeredZero).Reachable (fun _ _ => True) N ∧ Crowd n N
      ∧ N.reservations = answeredZero.reservations ∧ N.calls = answeredZero.calls
      ∧ N.successes = answeredZero.successes := by
  induction n with
  | zero => exact ⟨answeredZero, .init rfl, crowd_answeredZero, rfl, rfl, rfl⟩
  | succ n ih =>
    obtain ⟨N, hreach, hcrowd, hreservations, hcalls, hsuccesses⟩ := ih (Nat.lt_of_succ_lt hn)
    obtain ⟨fp, hfp⟩ := exists_fingerprint (Nat.lt_of_succ_lt hn)
    obtain ⟨N', hruns, hcrowd', hr, hc, hs⟩ := hcrowd.grow hn hfp
    refine ⟨N', ?_, hcrowd', hr.trans hreservations, hc.trans hcalls, hs.trans hsuccesses⟩
    rw [← hruns]
    exact runs_reachable hreach (lookAt (lookRun n) fp)

/-- The two thousandth other target takes the place of the confirmed
one. -/
theorem Crowd.evict (h : Crowd n N) (hn : n + 1 = maxNurtureTargets) (hfp : fp.val = n + 1) :
    ∃ d', nurture.runs (lookAt (lookRun n) fp) N
        = { N with document := d', runIds := (lookRun n).id :: N.runIds, phase := none }
      ∧ (∀ t ∈ d'.targets, t.fingerprint ≠ 0)
      ∧ ∃ t ∈ d'.targets, t.removable = true := by
  have hnew := h.new hfp
  obtain ⟨zero, hzero, hzerofp, hconfirmed, hseen⟩ := h.first
  have hremovable : zero.removable = true := by
    simp only [NurtureTarget.removable, hconfirmed, decide_true, Bool.or_true]
  obtain ⟨d', first, hd', hfirst, hle, hgone⟩ : ∃ d' first, replaceTarget N.document
      (observed none fp (lookRun n).id .inboundCandidate (lookRun n).now) (some fp) = .ok d'
        ∧ first ∈ N.document.targets ∧ first.sighting ≤ zero.sighting
        ∧ ∀ u ∈ d'.targets, u.fingerprint ≠ first.fingerprint :=
    replaceTarget_full hnew observed_valid (h.length.trans hn) hzero hremovable
  have hfirstfp : first.fingerprint = 0 := by
    by_contra hne
    have hlater := (h.others first hfirst).2 hne
    rw [NurtureTarget.sighting, NurtureTarget.sighting, Prod.Lex.toLex_le_toLex, hseen] at hle
    rcases hle with hlt | ⟨heq, -⟩
    · exact absurd hlt (not_lt.mpr hlater.le)
    · exact absurd heq hlater.ne'
  have htouches : Touches N.document
      (observed none fp (lookRun n).id .inboundCandidate (lookRun n).now) d' :=
    replaceTarget_touches hd'
  exact ⟨d', runs_lookAt h.phase h.id rfl hnew (observeTarget_new (decide_eq_true rfl) hnew hd'),
    fun t ht => hfirstfp ▸ hgone t ht, _, htouches.stored, rfl⟩

/-- A target nobody remembers is reserved, whatever else is there. -/
theorem reserveTarget_forgotten (hrun : running runId = true)
    (hnew : ∀ t ∈ d.targets, t.fingerprint ≠ fp) (hroom : ∃ t ∈ d.targets, t.removable = true) :
    ∃ d', reserveTarget running d fp runId decision now = .ok d' := by
  obtain ⟨t, ht, hremovable⟩ := hroom
  rcases d.length_le.lt_or_eq with hbelow | hfull
  · obtain ⟨d', hd', -⟩ : ∃ d', replaceTarget d
        ⟨fp, now, now, decision, some now, .pending, runId, none⟩ (some fp) = .ok d' ∧ _ :=
      replaceTarget_below hnew pending_valid hbelow
    exact ⟨d', reserveTarget_new hrun hnew hd'⟩
  · obtain ⟨d', first, hd', -⟩ : ∃ d' first, replaceTarget d
        ⟨fp, now, now, decision, some now, .pending, runId, none⟩ (some fp) = .ok d' ∧ _ :=
      replaceTarget_full hnew pending_valid hfull ht hremovable
    exact ⟨d', reserveTarget_new hrun hnew hd'⟩

theorem crowded : ∃ N, (nurture.startingAt answeredZero).Reachable (fun _ _ => True) N
    ∧ N.calls = (0, 2002) :: answeredZero.calls
    ∧ N.successes = (0, 2002) :: answeredZero.successes := by
  obtain ⟨N, hreach, hcrowd, -, hcalls, hsuccesses⟩ := crowd_reachable (n := 1999) (by decide)
  obtain ⟨fp, hfp⟩ := exists_fingerprint (n := 1999) (by decide)
  obtain ⟨d', hruns, hforgotten, hroom⟩ := hcrowd.evict rfl hfp
  have hreach' := runs_reachable hreach (lookAt (lookRun 1999) fp)
  rw [hruns] at hreach'
  have hid : (replyZero 2002 3000).id ∉ (lookRun 1999).id :: N.runIds := by
    intro hmem
    rcases List.mem_cons.mp hmem with heq | hmem
    · exact absurd heq (by decide)
    · exact absurd (hcrowd.ids _ hmem) (by decide)
  obtain ⟨d'', hd''⟩ : ∃ d'', reserveTarget (Nurture.running (replyZero 2002 3000)) d' 0 2002
      .replyApply 3000 = .ok d'' :=
    reserveTarget_forgotten (decide_eq_true rfl) hforgotten hroom
  have hreply := runs_reachable hreach' (replyTo (replyZero 2002 3000) 0)
  rw [runs_replyTo rfl hid rfl ⟨rfl, by decide⟩ hforgotten hd''] at hreply
  exact ⟨_, hreply, congrArg _ hcalls, congrArg _ hsuccesses⟩

/-- The first reply is a run that spares confirmed targets. -/
theorem answeredZero_reachable : nurture.Reachable SparesConfirmed answeredZero := by
  have hroom : nurture.checks (fun N _ => decide (N.document.targets.length < maxNurtureTargets))
      firstReply noRuns = true := by decide
  refine Machine.Reachable.runs (fun N e _ hroom => ⟨trivial, ?_⟩) (.init rfl) hroom
  exact fun _ _ _ _ _ _ => .inl (of_decide_eq_true hroom)

-- ==== unresolved

/-- An unresolved target blocks every later mutation of it. A mutation is
called only under a PENDING record of the calling run; PENDING and
AMBIGUOUS records are not dropped, only the run that reserved a PENDING
one says how it ended, and AMBIGUOUS stays. So while a record is
unresolved and its run is over, nobody calls a mutation for the target,
in any continuation; and if confirmed targets are spared, then nobody does
so after any run that reserved it, however that ended. -/
theorem unresolved_target_blocks (N : Nurture) : (nurture.Reachable (fun _ _ => True) N →
      (∀ e c, (nurture.step N e).calls = c :: N.calls →
        ∃ phase t, N.phase = some phase ∧ phase.run.id = c.2 ∧ t ∈ N.document.targets
          ∧ t.fingerprint = c.1 ∧ t.actionState = .pending ∧ t.lastRunId = c.2)
      ∧ (∀ e, ∀ t ∈ N.document.targets, t.actionState = .pending ∨ t.actionState = .ambiguous →
          ∃ t' ∈ (nurture.step N e).document.targets, t'.fingerprint = t.fingerprint
            ∧ t'.lastRunId = t.lastRunId
            ∧ (t'.actionState = t.actionState ∨ t.actionState = .pending
                ∧ (t'.actionState = .confirmed ∨ t'.actionState = .ambiguous)
                ∧ ∃ phase, N.phase = some phase ∧ phase.run.id = t.lastRunId))
      ∧ ∀ fp, N.unresolved fp → ¬ N.acting fp →
          ∀ N', (nurture.startingAt N).Reachable (fun _ _ => True) N' →
            N'.callsFor fp = N.callsFor fp)
    ∧ (nurture.Reachable SparesConfirmed N →
        ∀ r ∈ N.reservations, (∀ phase, N.phase = some phase → phase.run.id ≠ r.2) →
          ∀ N', (nurture.startingAt N).Reachable SparesConfirmed N' →
            N'.callsFor r.1 = N.callsFor r.1) := by
  refine ⟨fun hreach => ⟨fun e c hcalls => ?_, fun e t ht hunresolved => ?_,
    fun fp hunresolved hquiet N' h => callsFor_unresolved hunresolved hquiet h⟩,
    fun hreach r hr hover N' h => ?_⟩
  · obtain ⟨run, hphase, hid⟩ := called_step (after_step N e) hcalls
    obtain ⟨t, ht, hfp, hpending, hrun⟩ := HoldsPending.reachable hreach _ _ hphase rfl
    exact ⟨_, t, hphase, hid, ht, hfp, hpending, hrun.trans hid⟩
  · obtain ⟨t', ht', hfp, hrun, hstate | ⟨hpending, hactions, phase, hphase, -, hid⟩⟩ :=
      unresolved_step (after_step N e) ht (removable_eq_false.mpr hunresolved)
    · exact ⟨t', ht', hfp, hrun, .inl hstate⟩
    · exact ⟨t', ht', hfp, hrun, .inr ⟨hpending, hactions, phase, hphase, hid⟩⟩
  · have hN := AnswersOnce.reachable hreach
    refine callsFor_recorded (hN.recorded r hr) ?_ h
    -- whoever acts on the target reserved it, and one run did
    rintro ⟨phase, hphase, hholds⟩
    have heq : (r.1, phase.run.id) = r :=
      List.inj_on_of_nodup_map hN.once (hN.acting phase _ hphase hholds) hr rfl
    exact hover phase hphase (congrArg Prod.snd heq)

/-- The run that replied to the target 0 is over, its record confirmed; in
a continuation another run calls the mutation again. -/
theorem confirmed_then_called_again : ∃ N N', nurture.Reachable (fun _ _ => True) N
    ∧ (0, 1) ∈ N.reservations ∧ N.phase = none
    ∧ (nurture.startingAt N).Reachable (fun _ _ => True) N'
    ∧ N'.callsFor 0 ≠ N.callsFor 0 := by
  obtain ⟨N', hreach, hcalls, -⟩ := crowded
  refine ⟨answeredZero, N', answeredZero_reachable.mono fun _ _ _ => trivial, by decide,
    answeredZero_phase, hreach, ?_⟩
  unfold Nurture.callsFor
  rw [hcalls, List.filter_cons_of_pos (by decide)]
  exact List.cons_ne_self _ _

theorem unresolved_target_blocks_answered :
    ∀ N', (nurture.startingAt answeredZero).Reachable SparesConfirmed N' →
      N'.callsFor 0 = answeredZero.callsFor 0 := by
  refine (unresolved_target_blocks answeredZero).2 answeredZero_reachable (0, 1)
    (by decide) fun phase hphase => ?_
  rw [answeredZero_phase] at hphase
  cases hphase

-- ==== confirmed

/-- Where confirmed targets are spared, a target is answered once, and
nobody calls a mutation for a confirmed one. -/
theorem confirmed_answered_once (N : Nurture) (h : nurture.Reachable SparesConfirmed N) :
    (N.successes.map Prod.fst).Nodup ∧ ∀ t ∈ N.document.targets, t.actionState = .confirmed →
          ∀ N', (nurture.startingAt N).Reachable SparesConfirmed N' →
            N'.callsFor t.fingerprint = N.callsFor t.fingerprint := by
  refine ⟨(AnswersOnce.reachable h).successesOnce, fun t ht hconfirmed N' h' => ?_⟩
  have hrecorded : N.recorded t.fingerprint :=
    ⟨t, ht, rfl, fun hnone => by rw [hconfirmed] at hnone; cases hnone⟩
  exact callsFor_recorded hrecorded
    (not_acting_confirmed (HoldsPending.reachable h) ht hconfirmed) h'

/-- Two runs get a successful reply to the target 0. -/
theorem confirmed_answered_twice : ∃ N, nurture.Reachable (fun _ _ => True) N
    ∧ (0, 1) ∈ N.successes ∧ (0, 2002) ∈ N.successes := by
  obtain ⟨N, hreach, -, hsuccesses⟩ := crowded
  refine ⟨N, ?_, ?_, ?_⟩
  · refine Machine.Reachable.after (I := nurture.Reachable fun _ _ => True)
      (answeredZero_reachable.mono fun _ _ _ => trivial) ?_ hreach
    exact fun N e hN hen _ => hN.step hen trivial
  · rw [hsuccesses]
    exact List.mem_cons_of_mem _ (by decide)
  · rw [hsuccesses]
    exact List.mem_cons_self

theorem confirmed_answered_once_first : (answeredZero.successes.map Prod.fst).Nodup
    ∧ answeredZero.successes = [(0, 1)] :=
  ⟨(confirmed_answered_once answeredZero answeredZero_reachable).1, by decide⟩

-- ==== one mutation a run

/-- What is left for the run to do in its phase. -/
def NurturePhase.Owes (N : Nurture) : NurturePhase → Prop
  | .selecting run _ | .chosen run _ _ => run.id ∉ N.reservations.map Prod.snd
  | .reserved run fp => ((fp, run.id) :: N.calls).Sublist N.reservations
  | .called run fp => ((fp, run.id) :: N.successes).Sublist N.calls
  | .answered _ _ _ _ => True

/-- Every call was reserved by its own run; a run reserves once, calls
once and hears of one success at most. -/
structure Accounted (N : Nurture) : Prop where
  started : ∀ r ∈ N.reservations, r.2 ∈ N.runIds
  once : (N.reservations.map Prod.snd).Nodup
  calls : N.calls.Sublist N.reservations
  successes : N.successes.Sublist N.calls
  phase : ∀ p, N.phase = some p → p.run.id ∈ N.runIds ∧ p.Owes N

theorem Accounted.step {e : NurtureEvent} (h : Accounted N) (hstep : NurtureStep N e N') :
    Accounted N' := by
  cases hstep with
  | stay => exact h
  | stop | observe | complete => exact { h with phase := fun _ hp => by cases hp }
  | start run _ hnew =>
    refine { h with started := fun r hr => .tail _ (h.started r hr), phase := ?_ }
    rintro _ ⟨⟩
    refine ⟨.head _, fun hmem => ?_⟩
    obtain ⟨r, hr, hid⟩ := List.mem_map.mp hmem
    exact hnew (hid ▸ h.started r hr)
  | choose _ run targets candidate hphase =>
    refine { h with phase := ?_ }
    rintro _ ⟨⟩
    exact h.phase (.selecting run targets) hphase
  | reserve _ run targets candidate _ phase hphase _ hgo =>
    obtain ⟨hrun, hfirst⟩ := h.phase (.chosen run targets candidate) hphase
    refine ⟨List.forall_mem_cons.mpr ⟨hrun, h.started⟩, List.nodup_cons.mpr ⟨hfirst, h.once⟩,
      h.calls.cons _, h.successes, ?_⟩
    rintro _ ⟨⟩
    rcases hgo with hgo | hgo <;> cases hgo
    exact ⟨hrun, h.calls.cons_cons _⟩
  | call run fp hphase =>
    obtain ⟨hrun, hcalls⟩ := h.phase (.reserved run fp) hphase
    refine { h with calls := hcalls, successes := h.successes.cons _, phase := ?_ }
    rintro _ ⟨⟩
    exact ⟨hrun, h.successes.cons_cons _⟩
  | answer _ run fp _ _ successes hphase hsuccesses =>
    obtain ⟨hrun, hanswered⟩ := h.phase (.called run fp) hphase
    refine { h with successes := ?_, phase := ?_ }
    · rcases hsuccesses with rfl | rfl
      · exact h.successes
      · exact hanswered
    · rintro _ ⟨⟩
      exact ⟨hrun, trivial⟩

/-- Whatever else goes wrong, a run makes at most one call of a mutation,
for the target it has reserved before, and counts one success at most. -/
theorem nurture_calls_accounted {allow : Nurture → NurtureEvent → Prop}
    (h : nurture.Reachable allow N) :
    (N.reservations.map Prod.snd).Nodup ∧ (∀ r ∈ N.reservations, r.2 ∈ N.runIds)
      ∧ N.calls.Sublist N.reservations ∧ N.successes.Sublist N.calls := by
  have haccounted : Accounted N := by
    refine h.invariant ?_ fun N e hN _ _ => hN.step (after_step N e)
    rintro N rfl
    exact ⟨fun _ hr => (by cases hr), .nil, .slnil, .slnil, fun _ hp => (by cases hp)⟩
  exact ⟨haccounted.once, haccounted.started, haccounted.calls, haccounted.successes⟩

theorem nurture_calls_accounted_zero : answeredZero.calls.Sublist answeredZero.reservations :=
  (nurture_calls_accounted answeredZero_reachable).2.2.1

end ThreadsPlatform
