/-
Own content is posted at most once.

Every write of the document passes `_validate_content_transition`, so a
record that is reserved stays, and is completed only by the run it names
(`Kept`). A call is made under a reservation of the run's own. The record
that was reserved was new, and no other record has its source or its
draft, so no call was made for either before.

Posts keep their spacing only while every outcome is known: whether
content is due is asked of PUBLISHED records.
-/
import ThreadsPlatform.Standalone.NurtureContent

namespace ThreadsPlatform

open Relational NurtureAccountLock

variable {C C' : NurtureContent} {run : ContentRun} {event : ContentEvent}
  {document document' : NurtureContentState} {r r' : NurtureContentRecord}
  {candidates : List NurtureContentRecord} {source draft : Fingerprint} {runId : RunId}
  {running : RunId → Bool}

-- ==== records

/-- Reserved, or what comes of it. -/
def NurtureContentRecord.settled (r : NurtureContentRecord) : Prop :=
  r.publicationState = .reserved ∨ r.publicationState = .published ∨ r.publicationState = .ambiguous

/-- A settled record, later: it is there, settled, and of the same run; once
it is complete it does not change. -/
structure Kept (r r' : NurtureContentRecord) : Prop where
  candidateId : r'.candidateId = r.candidateId
  source : r'.sourceFingerprint = r.sourceFingerprint
  draft : r'.draftFingerprint = r.draftFingerprint
  settled : r'.settled
  lastRunId : r'.lastRunId = r.lastRunId
  complete : r.publicationState ≠ .reserved → r' = r

theorem Kept.refl (h : r.settled) : Kept r r := ⟨rfl, rfl, rfl, h, rfl, fun _ => rfl⟩

theorem Kept.trans {r'' : NurtureContentRecord} (h : Kept r r') (h' : Kept r' r'') :
    Kept r r'' where
  candidateId := h'.candidateId.trans h.candidateId
  source := h'.source.trans h.source
  draft := h'.draft.trans h.draft
  settled := h'.settled
  lastRunId := h'.lastRunId.trans h.lastRunId
  complete hne := by
    have hsame := h.complete hne
    rw [hsame] at h'
    exact h'.complete hne

theorem is_iff : r.is source draft = true ↔
    r.sourceFingerprint = source ∧ r.draftFingerprint = draft := by
  simp [NurtureContentRecord.is]

theorem findContentCandidate_some (h : findContentCandidate candidates source draft = some r) :
    r ∈ candidates ∧ r.sourceFingerprint = source ∧ r.draftFingerprint = draft :=
  ⟨List.mem_of_find?_eq_some h, is_iff.mp (List.find?_some h)⟩

theorem eq_of_source (document : NurtureContentState) (hr : r ∈ document.candidates)
    (hr' : r' ∈ document.candidates) (h : r.sourceFingerprint = r'.sourceFingerprint) :
    r = r' := by
  have hvalid := document.valid
  simp only [validContent, checks_hold] at hvalid
  exact List.inj_on_of_nodup_map hvalid.1.1.2 hr hr' h

theorem eq_of_draft (document : NurtureContentState) (hr : r ∈ document.candidates)
    (hr' : r' ∈ document.candidates) (h : r.draftFingerprint = r'.draftFingerprint) :
    r = r' := by
  have hvalid := document.valid
  simp only [validContent, checks_hold] at hvalid
  exact List.inj_on_of_nodup_map hvalid.1.2 hr hr' h

-- ==== writes

/-- The store refuses to take a settled record back. -/
theorem contentTransitionValid_kept (hsettled : r.settled)
    (hsource : r'.sourceFingerprint = r.sourceFingerprint)
    (hdraft : r'.draftFingerprint = r.draftFingerprint)
    (h : contentTransitionValid r r' = true) : Kept r r' := by
  simp only [contentTransitionValid, checks_hold] at h
  obtain ⟨⟨⟨hid, -⟩, -⟩, h⟩ := h
  rcases hsettled with hstate | hstate | hstate
  · rw [hstate] at h
    cases hstate' : r'.publicationState with
    | reserved =>
      simp only [hstate', decide_eq_true_eq] at h
      rw [h]
      exact .refl (.inl hstate)
    | published | ambiguous =>
      simp only [hstate', decide_eq_true_eq] at h
      exact ⟨hid, hsource, hdraft, by simp [NurtureContentRecord.settled, hstate'], h,
        fun hne => absurd hstate hne⟩
    | new | rejected => simp [hstate'] at h
  · simp only [hstate, decide_eq_true_eq] at h
    rw [h]
    exact .refl (.inr (.inl hstate))
  · simp only [hstate, decide_eq_true_eq] at h
    rw [h]
    exact .refl (.inr (.inr hstate))

/-- So a settled record stays through every write. -/
theorem saveContentState_kept (h : saveContentState running document candidates = .ok document')
    (hr : r ∈ document.candidates) (hsettled : r.settled) :
    ∃ r' ∈ document'.candidates, Kept r r' := by
  simp only [saveContentState, steps_ok] at h
  obtain ⟨updated, -, htransition, -, rfl⟩ := h
  simp only [validateContentTransition, Bool.and_eq_true, List.all_eq_true] at htransition
  have hfound := htransition.1 r hr
  cases hfind : findContentCandidate updated.candidates r.sourceFingerprint r.draftFingerprint with
  | none => simp [hfind] at hfound
  | some r' =>
    obtain ⟨hmem, hsource, hdraft⟩ := findContentCandidate_some hfind
    refine ⟨r', hmem, contentTransitionValid_kept hsettled hsource hdraft ?_⟩
    simpa [hfind] using hfound

theorem saveContentState_candidates
    (h : saveContentState running document candidates = .ok document') :
    document'.candidates = candidates := by
  simp only [saveContentState, NurtureContentState.ofCandidates, steps_ok] at h
  obtain ⟨updated, hupdated, -, -, rfl⟩ := h
  split at hupdated
  · cases hupdated
    rfl
  · cases hupdated

theorem mem_replaceContentCandidate (hr : r ∈ candidates)
    (hr' : r'.sourceFingerprint = r.sourceFingerprint ∧ r'.draftFingerprint = r.draftFingerprint) :
    r' ∈ replaceContentCandidate candidates r' := by
  refine List.mem_map.mpr ⟨r, hr, ?_⟩
  rw [if_pos (is_iff.mpr ⟨hr'.1.symm, hr'.2.symm⟩)]

theorem registerContentCandidate_saves {candidate : ContentCandidate} {now : Time}
    (h : registerContentCandidate running document candidate runId now = .ok document') :
    ∃ candidates, saveContentState running document candidates = .ok document' := by
  simp only [registerContentCandidate, steps_ok] at h
  obtain ⟨-, candidates, -, h⟩ := h
  exact ⟨candidates, h⟩

/-- A reservation: the record was new, and is reserved for the run. -/
theorem reserveContentCandidate_spec
    (h : reserveContentCandidate running document source draft runId = .ok document') :
    (∃ candidates, saveContentState running document candidates = .ok document')
      ∧ (∃ r ∈ document.candidates, r.sourceFingerprint = source ∧ r.draftFingerprint = draft
        ∧ r.publicationState = .new)
      ∧ ∃ r ∈ document'.candidates, r.sourceFingerprint = source ∧ r.draftFingerprint = draft
        ∧ r.publicationState = .reserved ∧ r.lastRunId = runId := by
  simp only [reserveContentCandidate, steps_ok] at h
  obtain ⟨-, current, hcurrent, ⟨hnew, -⟩, h⟩ := h
  obtain ⟨hmem, hsource, hdraft⟩ := findContentCandidate_some hcurrent
  refine ⟨⟨_, h⟩, ⟨current, hmem, hsource, hdraft, hnew⟩, ?_⟩
  rw [saveContentState_candidates h]
  exact ⟨_, mem_replaceContentCandidate hmem ⟨rfl, rfl⟩, hsource, hdraft, rfl, rfl⟩

theorem completeContentCandidate_saves {state : PublicationState} {operationId : Nat} {now : Time}
    (h : completeContentCandidate running document source draft runId state operationId now
      = .ok document') :
    ∃ candidates, saveContentState running document candidates = .ok document' := by
  simp only [completeContentCandidate, steps_ok] at h
  obtain ⟨-, -, current, -, -, h⟩ := h
  exact ⟨_, h⟩

-- ==== steps

/-- What an event can do. -/
inductive ContentMoves (C : NurtureContent) : NurtureContent → Prop
  /-- Nothing, or the run goes on or stops without a reservation. -/
  | quiet (runIds : List RunId) (phase : Option ContentPhase)
      (hphase : ∀ run, phase ≠ some (.reserved run)) :
      ContentMoves C { C with runIds := runIds, phase := phase }
  | same : ContentMoves C C
  /-- A write of the document. -/
  | saved (candidates : List NurtureContentRecord) (document : NurtureContentState)
      (running : RunId → Bool) (phase : Option ContentPhase)
      (hsave : saveContentState running C.document candidates = .ok document)
      (hphase : ∀ run, phase ≠ some (.reserved run)) :
      ContentMoves C { C with document := document, phase := phase }
  | reserved (run : ContentRun) (document : NurtureContentState)
      (hreserve : reserveContentCandidate run.running C.document run.candidate.sourceFingerprint
        run.candidate.draftFingerprint run.id = .ok document) :
      ContentMoves C { C with document := document, phase := some (.reserved run) }
  | called (run : ContentRun) (hphase : C.phase = some (.reserved run)) :
      ContentMoves C { C with phase := some (.called run), calls := run.publishCall :: C.calls }

open NurtureContent

theorem moves_write {write : DocumentWrite} {next : Option ContentPhase}
    {updated : Except NurtureContentError NurtureContentState}
    (hsaves : ∀ document, updated = .ok document →
      ∃ running candidates, saveContentState running C.document candidates = .ok document)
    (hnext : ∀ run, next ≠ some (.reserved run)) :
    ContentMoves C (C.write write updated next) := by
  unfold NurtureContent.write
  split
  · exact .quiet C.runIds none (by simp)
  · obtain ⟨running, candidates, hsave⟩ := hsaves _ rfl
    split
    · exact .saved candidates _ running _ hsave hnext
    · exact .quiet C.runIds none (by simp)
    · exact .saved candidates _ running none hsave (by simp)

theorem contentMoves (C : NurtureContent) (event : ContentEvent) :
    ContentMoves C (C.after event) := by
  cases event with
  | start run =>
    simp only [NurtureContent.after]
    split
    · split
      · exact .same
      · exact .quiet _ _ (by simp)
    · exact .same
  | register write =>
    simp only [NurtureContent.after]
    split
    · refine moves_write (fun document h => ⟨_, registerContentCandidate_saves h⟩) (by simp)
    · exact .same
  | decide quotaLeft =>
    simp only [NurtureContent.after]
    split
    · refine .quiet C.runIds _ fun run => ?_
      split <;> simp
    · exact .same
  | reserve write =>
    simp only [NurtureContent.after]
    split
    · rename_i run hphase
      unfold NurtureContent.write
      split
      · exact .quiet C.runIds none (by simp)
      · rename_i document hreserve
        split
        · exact .reserved run document hreserve
        · exact .quiet C.runIds none (by simp)
        · obtain ⟨⟨candidates, hsave⟩, -⟩ := reserveContentCandidate_spec hreserve
          exact .saved candidates _ _ none hsave (by simp)
    · exact .same
  | call =>
    simp only [NurtureContent.after]
    split
    · rename_i run hphase
      exact .called run hphase
    · exact .same
  | answer answer =>
    simp only [NurtureContent.after]
    split
    · split <;> exact .quiet C.runIds _ (by simp)
    · exact .same
  | complete write =>
    simp only [NurtureContent.after]
    split
    · exact moves_write (fun document h => ⟨_, completeContentCandidate_saves h⟩) (by simp)
    · exact .same
  | stop => exact .quiet C.runIds none (by simp)

/-- And through every event. -/
theorem ContentMoves.kept (h : ContentMoves C C') (hr : r ∈ C.document.candidates)
    (hsettled : r.settled) : ∃ r' ∈ C'.document.candidates, Kept r r' := by
  cases h with
  | quiet | same | called => exact ⟨r, hr, .refl hsettled⟩
  | saved candidates document running phase hsave => exact saveContentState_kept hsave hr hsettled
  | reserved run document hreserve =>
    obtain ⟨⟨candidates, hsave⟩, -⟩ := reserveContentCandidate_spec hreserve
    exact saveContentState_kept hsave hr hsettled

-- ==== runs

/-- A run has a reservation of its own for its candidate. -/
def ContentHeld (C : NurtureContent) (run : ContentRun) : Prop :=
  ∃ r ∈ C.document.candidates, r.sourceFingerprint = run.candidate.sourceFingerprint
    ∧ r.draftFingerprint = run.candidate.draftFingerprint ∧ r.publicationState = .reserved
    ∧ r.lastRunId = run.id

/-- Every call has its record, and a reservation is of what was never
called. -/
structure CalledOnce (C : NurtureContent) : Prop where
  recorded : ∀ c ∈ C.calls, ∃ r ∈ C.document.candidates,
    r.sourceFingerprint = c.sourceFingerprint ∧ r.draftFingerprint = c.draftFingerprint ∧ r.settled
  held : ∀ run, C.phase = some (.reserved run) → ContentHeld C run
  fresh : ∀ run, C.phase = some (.reserved run) → ∀ c ∈ C.calls,
    c.sourceFingerprint ≠ run.candidate.sourceFingerprint
      ∧ c.draftFingerprint ≠ run.candidate.draftFingerprint
  sources : (C.calls.map (·.sourceFingerprint)).Nodup
  drafts : (C.calls.map (·.draftFingerprint)).Nodup

theorem CalledOnce.recorded_of_kept (h : CalledOnce C)
    (hkept : ∀ r ∈ C.document.candidates, r.settled → ∃ r' ∈ document.candidates, Kept r r')
    (c : PublishCall) (hc : c ∈ C.calls) : ∃ r ∈ document.candidates,
      r.sourceFingerprint = c.sourceFingerprint ∧ r.draftFingerprint = c.draftFingerprint
        ∧ r.settled := by
  obtain ⟨r, hr, hsource, hdraft, hsettled⟩ := h.recorded c hc
  obtain ⟨r', hr', hk⟩ := hkept r hr hsettled
  exact ⟨r', hr', hk.source.trans hsource, hk.draft.trans hdraft, hk.settled⟩

/-- What is new was never called, by its source or by its draft. -/
theorem CalledOnce.fresh_of_new (h : CalledOnce C) (hr : r ∈ C.document.candidates)
    (hnew : r.publicationState = .new) (c : PublishCall) (hc : c ∈ C.calls) :
    c.sourceFingerprint ≠ r.sourceFingerprint ∧ c.draftFingerprint ≠ r.draftFingerprint := by
  obtain ⟨r', hr', hsource, hdraft, hsettled⟩ := h.recorded c hc
  have hne : r' ≠ r := by
    rintro rfl
    rcases hsettled with hstate | hstate | hstate <;> rw [hnew] at hstate <;> cases hstate
  refine ⟨fun heq => hne ?_, fun heq => hne ?_⟩
  · exact eq_of_source C.document hr' hr (hsource.trans heq)
  · exact eq_of_draft C.document hr' hr (hdraft.trans heq)

/-- A call needs a record of its own, and records stay. -/
theorem CalledOnce.moves (h : CalledOnce C) (hmoves : ContentMoves C C') : CalledOnce C' := by
  have hkept := fun r hr => hmoves.kept (r := r) hr
  cases hmoves with
  | quiet runIds phase hphase =>
    exact ⟨h.recorded, fun run heq => absurd heq (hphase run),
      fun run heq => absurd heq (hphase run), h.sources, h.drafts⟩
  | same => exact h
  | saved candidates document running phase hsave hphase =>
    exact ⟨h.recorded_of_kept hkept, fun run heq => absurd heq (hphase run),
      fun run heq => absurd heq (hphase run), h.sources, h.drafts⟩
  | reserved run document hreserve =>
    obtain ⟨-, ⟨r, hr, hsource, hdraft, hnew⟩, hreserved⟩ :=
      reserveContentCandidate_spec hreserve
    refine ⟨h.recorded_of_kept hkept, fun run' heq => ?_, fun run' heq => ?_, h.sources, h.drafts⟩
    · cases heq
      exact hreserved
    · cases heq
      rw [← hsource, ← hdraft]
      exact h.fresh_of_new hr hnew
  | called run hphase =>
    obtain ⟨r, hr, hsource, hdraft, hstate, -⟩ := h.held run hphase
    have hfresh := h.fresh run hphase
    refine ⟨fun c hc => ?_, fun run' heq => (by cases heq), fun run' heq => (by cases heq), ?_, ?_⟩
    · rcases List.mem_cons.mp hc with rfl | hc
      · exact ⟨r, hr, hsource, hdraft, .inl hstate⟩
      · exact h.recorded c hc
    · refine List.nodup_cons.mpr ⟨fun hmem => ?_, h.sources⟩
      obtain ⟨c, hc, heq⟩ := List.mem_map.mp hmem
      exact (hfresh c hc).1 heq
    · refine List.nodup_cons.mpr ⟨fun hmem => ?_, h.drafts⟩
      obtain ⟨c, hc, heq⟩ := List.mem_map.mp hmem
      exact (hfresh c hc).2 heq

theorem calledOnce (h : nurtureContent.Reachable (fun _ _ => True) C) : CalledOnce C := by
  refine h.invariant ?_ fun C event hC _ _ => hC.moves (contentMoves C event)
  rintro C rfl
  exact ⟨by simp, by simp, by simp, .nil, .nil⟩

theorem ContentMoves.calls (h : ContentMoves C C') : C'.calls = C.calls
    ∨ ∃ run, C.phase = some (.reserved run) ∧ C'.calls = run.publishCall :: C.calls := by
  cases h with
  | called run hphase => exact .inr ⟨run, hphase, rfl⟩
  | _ => exact .inl rfl

/-- Over all runs of an account and preset, `publish_text` is called at
most once for a source and at most once for a draft. A call is made only
under a RESERVED record of the candidate that names the run. A record that
is reserved, published or ambiguous is there for ever, never new again,
and completed only by the run that it names. -/
theorem own_content_posted_once (C : NurtureContent)
    (h : nurtureContent.Reachable (fun _ _ => True) C) :
    (C.calls.map (·.sourceFingerprint)).Nodup ∧ (C.calls.map (·.draftFingerprint)).Nodup
    ∧ (∀ event, (nurtureContent.step C event).calls = C.calls
      ∨ ∃ c, (nurtureContent.step C event).calls = c :: C.calls
        ∧ ∃ r ∈ C.document.candidates, r.sourceFingerprint = c.sourceFingerprint
          ∧ r.draftFingerprint = c.draftFingerprint ∧ r.publicationState = .reserved
          ∧ r.lastRunId = c.runId)
    ∧ ∀ C', (nurtureContent.startingAt C).Reachable (fun _ _ => True) C' →
      ∀ r ∈ C.document.candidates, r.settled → ∃ r' ∈ C'.document.candidates, Kept r r' := by
  have honce := calledOnce h
  refine ⟨honce.sources, honce.drafts, fun event => ?_, fun C' h' r hr hsettled => ?_⟩
  · rcases (contentMoves C event).calls with hsame | ⟨run, hphase, hcalls⟩
    · exact .inl hsame
    · exact .inr ⟨run.publishCall, hcalls, honce.held run hphase⟩
  · refine Machine.Reachable.after (I := fun C' => ∃ r' ∈ C'.document.candidates, Kept r r')
      ⟨r, hr, .refl hsettled⟩ ?_ h'
    rintro C₁ event ⟨r₁, hr₁, hk₁⟩ - -
    obtain ⟨r₂, hr₂, hk₂⟩ := (contentMoves C₁ event).kept hr₁ hk₁.settled
    exact ⟨r₂, hr₂, hk₁.trans hk₂⟩

-- ==== spacing

/-- The run under way. -/
def ContentPhase.holder : ContentPhase → ContentRun
  | .started run | .registered run | .due run | .reserved run | .called run
  | .answered run _ _ => run

/-- The content, with the runs whose reservation was written, newest first:
no other run calls `publish_text`. -/
structure OwnPosts where
  content : NurtureContent
  posted : List ContentRun

def OwnPosts.after (P : OwnPosts) (event : ContentEvent) : OwnPosts where
  content := P.content.after event
  posted := match event, P.content.phase with
    | .reserve write, some (.due run) =>
      if write ≠ .refused ∧ (reserveContentCandidate run.running P.content.document
          run.candidate.sourceFingerprint run.candidate.draftFingerprint run.id).isOk = true then
        run :: P.posted
      else P.posted
    | _, _ => P.posted

def ownPosts : Machine OwnPosts ContentEvent where
  init P := P = ⟨⟨.empty, [], none, []⟩, []⟩
  enabled _ _ := True
  step := OwnPosts.after

/-- How far a post is from those before. -/
def ContentPreset.spacing (preset : ContentPreset) : Duration :=
  seconds (max preset.ownContentCooldownSeconds preset.ownContentDueIntervalSeconds)

/-- When a run reserves, the runs whose record is RESERVED or AMBIGUOUS are
the spacing behind it. -/
def outcomesKnown (P : OwnPosts) : ContentEvent → Bool
  | .reserve _ => P.content.phase.all fun phase => P.content.document.candidates.all fun r =>
    P.posted.all fun run₀ => decide (
      r.publicationState = .reserved ∨ r.publicationState = .ambiguous → r.lastRunId = run₀.id →
        phase.holder.preset.spacing ≤ phase.holder.now - run₀.now)
  | _ => true

/-- The last action is at `now` or later. -/
def NurtureContentRecord.ActedFrom (r : NurtureContentRecord) (now : Time) : Prop :=
  ∃ t ∈ r.lastActionAt, now ≤ t

/-- `_own_content_is_due` looks at the last of the PUBLISHED records. -/
theorem spacing_of_due {preset : ContentPreset} {now t : Time}
    (h : ownContentIsDue candidates preset now = true) (hr : r ∈ candidates)
    (hstate : r.publicationState = .published) (ht : t ∈ r.lastActionAt) :
    preset.spacing ≤ now - t := by
  have hmem : r ∈ candidates.filter fun r => decide (r.publicationState = .published) :=
    List.mem_filter.mpr ⟨hr, decide_eq_true hstate⟩
  have htime := List.mem_filterMap.mpr ⟨r, hmem, ht⟩
  simp only [ownContentIsDue, Bool.or_eq_true, List.isEmpty_iff, Option.any_eq_true,
    decide_eq_true_eq] at h
  rcases h with hempty | ⟨last, hlast, hspaced⟩
  · rw [hempty] at hmem
    cases hmem
  · exact hspaced.trans (Int.sub_le_sub_left ((List.max?_eq_some_iff.mp hlast).2 t htime) now)

theorem mem_replaced {new : NurtureContentRecord}
    (hr : r ∈ replaceContentCandidate candidates new) : r = new ∨ r ∈ candidates := by
  obtain ⟨r0, hr0, rfl⟩ := List.mem_map.mp hr
  split
  · exact .inl rfl
  · exact .inr hr0

theorem registerContentCandidate_published {candidate : ContentCandidate} {now : Time}
    (h : registerContentCandidate running document candidate runId now = .ok document')
    (hr : r ∈ document'.candidates) (hstate : r.publicationState = .published) :
    r ∈ document.candidates := by
  simp only [registerContentCandidate, steps_ok] at h
  obtain ⟨-, candidates, hregistered, h⟩ := h
  rw [saveContentState_candidates h] at hr
  simp only [registered] at hregistered
  grind [mem_replaced]

theorem reserveContentCandidate_published
    (h : reserveContentCandidate running document source draft runId = .ok document')
    (hr : r ∈ document'.candidates) (hstate : r.publicationState = .published) :
    r ∈ document.candidates := by
  simp only [reserveContentCandidate, steps_ok] at h
  obtain ⟨-, current, -, -, h⟩ := h
  rw [saveContentState_candidates h] at hr
  grind [mem_replaced]

/-- A run completes its own record, at its own time. -/
theorem completeContentCandidate_published {state : PublicationState} {operationId : Nat}
    {now : Time} (h : completeContentCandidate running document source draft runId state operationId
      now = .ok document') (hr : r ∈ document'.candidates) :
    r ∈ document.candidates ∨ r.lastRunId = runId ∧ r.ActedFrom now := by
  simp only [completeContentCandidate, steps_ok] at h
  obtain ⟨-, -, current, -, -, h⟩ := h
  rw [saveContentState_candidates h] at hr
  rcases mem_replaced hr with rfl | hr
  · exact .inr ⟨rfl, _, rfl, le_max_right _ _⟩
  · exact .inl hr

open ContentPhase

theorem published_after (C : NurtureContent) (event : ContentEvent)
    (hr : r ∈ (C.after event).document.candidates) (hstate : r.publicationState = .published) :
    r ∈ C.document.candidates ∨ ∃ run, C.phase.map holder = some run
      ∧ r.lastRunId = run.id ∧ r.ActedFrom run.now := by
  cases event <;> simp only [after, write] at hr <;>
    grind [holder, registerContentCandidate_published,
      reserveContentCandidate_published, completeContentCandidate_published]

theorem holder_after (C : NurtureContent) (event : ContentEvent)
    (h : (C.after event).phase.map holder = some run) :
    ((C.after event).runIds = C.runIds ∧ C.phase.map holder = some run)
      ∨ run.id ∉ C.runIds ∧ (C.after event).runIds = run.id :: C.runIds := by
  cases event <;> simp only [after, write] at h ⊢ <;> grind [holder]

theorem due_after (C : NurtureContent) (event : ContentEvent)
    (h : (C.after event).phase = some (.due run)) : (C.after event).document = C.document
      ∧ (C.phase = some (.due run)
        ∨ ownContentIsDue C.document.candidates run.preset run.now = true) := by
  cases event <;> simp only [after, write] at h ⊢ <;> grind [ContentRun.proceeds]

theorem runIds_after (C : NurtureContent) (event : ContentEvent) :
    C.runIds ⊆ (C.after event).runIds := by
  cases event <;> simp only [after, write] <;> grind

/-- Only a reservation that is written adds a post. -/
theorem posted_after (P : OwnPosts) (event : ContentEvent) :
    P.after event = ⟨P.content.after event, P.posted⟩
      ∨ ∃ write run, event = .reserve write ∧ P.content.phase = some (.due run)
        ∧ P.after event = ⟨P.content.after event, run :: P.posted⟩
        ∧ ∃ r ∈ (P.content.after event).document.candidates, r.publicationState = .reserved
          ∧ r.lastRunId = run.id := by
  simp only [OwnPosts.after]
  split
  · rename_i write run hphase
    split
    · refine .inr ⟨write, run, rfl, hphase, rfl, ?_⟩
      simp only [NurtureContent.after, NurtureContent.write, hphase]
      grind [reserveContentCandidate_spec, Except.toBool]
    · exact .inl rfl
  · exact .inl rfl

/-- The posts are apart and on record, under the time of their run. -/
structure Spaced (P : OwnPosts) : Prop where
  times : P.posted.Pairwise fun run run₀ => run.preset.spacing ≤ run.now - run₀.now
  recorded : ∀ run ∈ P.posted, ∃ r ∈ P.content.document.candidates, r.lastRunId = run.id
    ∧ r.settled ∧ (r.publicationState = .published → r.ActedFrom run.now)
  ids : ∀ run ∈ P.posted, run.id ∈ P.content.runIds
  holder : ∀ run, P.content.phase.map ContentPhase.holder = some run →
    run.id ∈ P.content.runIds ∧ ∀ run₀ ∈ P.posted, run₀.id = run.id → run₀.now = run.now
  due : ∀ run, P.content.phase = some (.due run) → ∀ r ∈ P.content.document.candidates,
    r.publicationState = .published → ∀ t ∈ r.lastActionAt, run.preset.spacing ≤ run.now - t

variable {P : OwnPosts}

theorem Spaced.content (h : Spaced P) (event : ContentEvent) :
    Spaced ⟨P.content.after event, P.posted⟩ where
  times := h.times
  recorded run hrun := by
    obtain ⟨r, hr, hid, hsettled, htime⟩ := h.recorded run hrun
    obtain ⟨r', hr', hkept⟩ := (contentMoves P.content event).kept hr hsettled
    refine ⟨r', hr', hkept.lastRunId.trans hid, hkept.settled, fun hstate => ?_⟩
    rcases published_after P.content event hr' hstate with hold | ⟨holder, hholder, hid', htimes⟩
    · obtain rfl := eq_of_source P.content.document hold hr hkept.source
      exact htime hstate
    · rw [(h.holder holder hholder).2 run hrun ((hkept.lastRunId.trans hid).symm.trans hid')]
      exact htimes
  ids run hrun := runIds_after P.content event (h.ids run hrun)
  holder run hrun := by
    rcases holder_after P.content event hrun with ⟨hids, hholder⟩ | ⟨hnew, hids⟩
    · exact hids ▸ h.holder run hholder
    · exact ⟨hids ▸ .head _, fun run0 hrun0 hid => absurd (hid ▸ h.ids run0 hrun0) hnew⟩
  due run hrun r hr hstate t ht := by
    obtain ⟨hdocument, hdue⟩ := due_after P.content event hrun
    have hr : r ∈ P.content.document.candidates := hdocument ▸ hr
    rcases hdue with hphase | hdue
    · exact h.due run hphase r hr hstate t ht
    · exact spacing_of_due hdue hr hstate ht

/-- A post joins only once the spacing from every other has passed. -/
theorem Spaced.step (h : Spaced P) (hknown : outcomesKnown P event = true) :
    Spaced (P.after event) := by
  have hcontent := h.content event
  rcases posted_after P event with hsame | ⟨write, run, rfl, hphase, hposted, r, hr, hstate, hid⟩
  · exact hsame ▸ hcontent
  · have hrun : P.content.phase.map ContentPhase.holder = some run := by rw [hphase]; rfl
    obtain ⟨hids, htimes⟩ := h.holder run hrun
    simp only [outcomesKnown, hphase, Option.all_some, List.all_eq_true, decide_eq_true_eq]
      at hknown
    rw [hposted]
    refine ⟨.cons (fun run0 hrun0 => ?_) h.times, ?_, ?_, fun run' hrun' => ?_, hcontent.due⟩
    · -- a post before is published, and this one is due after it, or is far enough behind
      obtain ⟨r0, hr0, hid0, hsettled, htime⟩ := h.recorded run0 hrun0
      rcases hsettled with hreserved | hpublished | hambiguous
      · exact hknown r0 hr0 run0 hrun0 (.inl hreserved) hid0
      · obtain ⟨t, ht, hle⟩ := htime hpublished
        exact (h.due run hphase r0 hr0 hpublished t ht).trans (Int.sub_le_sub_left hle run.now)
      · exact hknown r0 hr0 run0 hrun0 (.inr hambiguous) hid0
    · refine List.forall_mem_cons.mpr ⟨⟨r, hr, hid, .inl hstate, fun h => ?_⟩, hcontent.recorded⟩
      rw [hstate] at h
      cases h
    · exact List.forall_mem_cons.mpr ⟨runIds_after _ _ hids, hcontent.ids⟩
    · obtain ⟨hids', htimes'⟩ := hcontent.holder run' hrun'
      refine ⟨hids', List.forall_mem_cons.mpr ⟨fun hid => ?_, htimes'⟩⟩
      rcases holder_after P.content _ hrun' with ⟨-, hholder⟩ | ⟨hnew, -⟩
      · cases hrun.symm.trans hholder
        rfl
      · exact absurd (hid ▸ hids) hnew

/-- Where the runs whose outcome is not known when a run reserves are far
enough behind it, any two runs that reserved, and so any two that may have
published, are apart by the preset's cooldown and due interval. -/
theorem own_posts_spaced (P : OwnPosts)
    (h : ownPosts.Reachable (fun P event => outcomesKnown P event = true) P) :
    P.posted.Pairwise fun run run₀ => run.preset.spacing ≤ run.now - run₀.now := by
  have hspaced : Spaced P := by
    refine h.invariant ?_ fun P event hP _ hknown => hP.step hknown
    rintro P rfl
    exact ⟨.nil, by simp, by simp, by simp, by simp⟩
  exact hspaced.times

-- ==== example

namespace ContentSample

theorem five_lt_fingerprints : 5 < 16 ^ 64 := by
  decide

/-- A run with candidate 1, whose source and draft have fingerprint 5. -/
def attempt (id : RunId) : ContentRun where
  id := id
  now := 0
  preset := ⟨true, 1, 0, 0⟩
  applyRequested := true
  candidate := ⟨1, ⟨5, five_lt_fingerprints⟩, ⟨5, five_lt_fingerprints⟩, .careerTip⟩

/-- The first run stops after its call; the second is given the same
candidate. -/
def twoRuns : List ContentEvent :=
  [.start (attempt 1), .register .done, .decide true, .reserve .done, .call, .stop,
    .start (attempt 2), .register .done, .decide true, .reserve .done, .call]

def opened : NurtureContent := ⟨.empty, [], none, []⟩

/-- A run with a day between posts, and another candidate. -/
def later (now : Time) : ContentRun := { attempt 2 with
  now := now
  preset := ⟨true, 1, 86400, 86400⟩
  candidate := ⟨2, ⟨4, Nat.lt_of_succ_lt five_lt_fingerprints⟩,
    ⟨4, Nat.lt_of_succ_lt five_lt_fingerprints⟩, .careerTip⟩ }

/-- A post with an answer, and the later run. -/
def twoPosts (answer : MutationAnswer) (now : Time) : List ContentEvent :=
  [.start { attempt 1 with preset := (later 0).preset }, .register .done, .decide true,
    .reserve .done, .call, .answer answer, .complete .done, .start (later now), .register .done,
    .decide true, .reserve .done, .call]

def posts (answer : MutationAnswer) (now : Time) : OwnPosts :=
  ownPosts.runs (twoPosts answer now) ⟨opened, []⟩

end ContentSample

open ContentSample in
theorem own_content_posted_once_retried : (nurtureContent.runs twoRuns opened).calls = [⟨5, 5, 1⟩]
    ∧ ((nurtureContent.runs twoRuns opened).calls.map (·.sourceFingerprint)).Nodup := by
  refine ⟨by decide, ?_⟩
  have hreach : nurtureContent.Reachable (fun _ _ => True) (nurtureContent.runs twoRuns opened) :=
    Machine.Reachable.runs (fun _ _ _ _ => ⟨trivial, trivial⟩) (.init rfl)
      (show nurtureContent.checks (fun _ _ => true) twoRuns opened = true by decide)
  exact (own_content_posted_once _ hreach).1

open ContentSample in
theorem ambiguous_post_not_spaced : (posts (.ambiguous 7) 1).content.calls.length = 2
    ∧ (posts (.ambiguous 7) 1).posted.map (fun run => (run.now, run.preset.spacing))
      = [(1, seconds 86400), (0, seconds 86400)] := by
  decide

open ContentSample in
theorem own_posts_spaced_daily : (posts (.ambiguous 7) (seconds 86400)).posted.length = 2
    ∧ (posts (.ambiguous 7) (seconds 86400)).posted.Pairwise
      fun run run₀ => run.preset.spacing ≤ run.now - run₀.now := by
  refine ⟨by decide, own_posts_spaced _ ?_⟩
  exact Machine.Reachable.runs (fun _ _ _ h => ⟨trivial, h⟩) (.init rfl)
    (show ownPosts.checks outcomesKnown _ _ = true by decide)

end ThreadsPlatform
