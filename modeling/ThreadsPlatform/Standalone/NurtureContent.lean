/-
The nurture runner's own content: candidates to publish, and the runs
that publish them.

`NurtureStore` keeps one document of content records per account and
preset. Two records share neither a source nor a draft. A run registers
its candidate, which is refused if its source or its draft is in another
record or was used; decides whether content is due; reserves the record;
calls `publish_text`; and writes down how that ended. Every write may
fail, before or after it took effect, and a run may stop anywhere.

The machine is about one account and one preset: no other preset's run
reads or writes this document. `NurtureAccountLock` serialises the runs,
and taking the lock ends every run before, so that RUNNING is the one run
under way. What is discovered and the quota are inputs, or a run that
stops.
-/
import ThreadsPlatform.Standalone.Nurture

namespace ThreadsPlatform

open Relational

-- ==== records

/-- `NurtureContentPublicationState`. -/
inductive PublicationState where
  | new | reserved | published | ambiguous | rejected
  deriving DecidableEq

/-- `_CONTENT_CATEGORIES`. -/
inductive ContentCategory where
  | careerTip | cvGuidance | interviewPrep | recruitmentMarket | employerGuidance
  | authorizedCandidateExample
  deriving DecidableEq

/-- `NurtureContentRecordV1`. -/
structure NurtureContentRecord where
  candidateId : Nat
  sourceFingerprint : Fingerprint
  draftFingerprint : Fingerprint
  category : ContentCategory
  firstSeenAt : Time
  lastActionAt : Option Time
  publicationState : PublicationState
  lastRunId : RunId
  operationId : Option Nat
  deriving DecidableEq

namespace NurtureContentRecord

/-- `_validate_content_record`. -/
def valid (r : NurtureContentRecord) : Bool :=
  match r.publicationState with
  | .new | .reserved | .rejected => r.lastActionAt.isNone && r.operationId.isNone
  | .published | .ambiguous =>
    r.operationId.isSome && r.lastActionAt.any fun t => decide (r.firstSeenAt ≤ t)

/-- The record is of the candidate. -/
def is (source draft : Fingerprint) (r : NurtureContentRecord) : Bool :=
  decide (r.sourceFingerprint = source) && decide (r.draftFingerprint = draft)

end NurtureContentRecord

/-- `MAX_NURTURE_CONTENT_RECORDS`. -/
def maxNurtureContentRecords : Nat := 2000

/-- `_validate_content_document`. -/
def validContent (candidates : List NurtureContentRecord) : Bool :=
  decide (candidates.length ≤ maxNurtureContentRecords)
    && decide (candidates.map NurtureContentRecord.sourceFingerprint).Nodup
    && decide (candidates.map NurtureContentRecord.draftFingerprint).Nodup
    && candidates.all NurtureContentRecord.valid

/-- `NurtureContentStateV1`, of an account and a preset. -/
structure NurtureContentState where
  candidates : List NurtureContentRecord
  valid : validContent candidates = true

/-- `NurtureStateError`, about content. -/
inductive NurtureContentError where
  | stateInvalid | capReached | unresolved | alreadyUsed | provenanceConflict
  | draftReuseConflict
  deriving DecidableEq

namespace NurtureContentState

/-- The document of an account and preset that never published. -/
def empty : NurtureContentState := ⟨[], by decide⟩

/-- A document, if the records make one. -/
def ofCandidates (candidates : List NurtureContentRecord) :
    Except NurtureContentError NurtureContentState :=
  if h : validContent candidates = true then .ok ⟨candidates, h⟩ else .error .stateInvalid

end NurtureContentState

/-- `_find_content_candidate`. -/
def findContentCandidate (candidates : List NurtureContentRecord) (source draft : Fingerprint) :
    Option NurtureContentRecord :=
  candidates.find? (NurtureContentRecord.is source draft)

/-- `_replace_content_candidate`. -/
def replaceContentCandidate (candidates : List NurtureContentRecord)
    (candidate : NurtureContentRecord) : List NurtureContentRecord :=
  candidates.map fun r =>
    if r.is candidate.sourceFingerprint candidate.draftFingerprint then candidate else r

/-- What `_validate_content_transition` asks of a record and what takes its
place. -/
def contentTransitionValid (old new : NurtureContentRecord) : Bool :=
  decide (new.candidateId = old.candidateId) && decide (new.category = old.category)
    && decide (new.firstSeenAt = old.firstSeenAt)
    && match old.publicationState with
      | .new => match new.publicationState with
        | .new => true
        | .reserved | .rejected => decide (new.lastRunId = old.lastRunId)
        | .published | .ambiguous => false
      | .reserved => match new.publicationState with
        | .reserved => decide (new = old)
        | .published | .ambiguous => decide (new.lastRunId = old.lastRunId)
        | .new | .rejected => false
      | .published | .ambiguous | .rejected => decide (new = old)

/-- `_validate_content_transition`. -/
def validateContentTransition (current updated : List NurtureContentRecord) : Bool :=
  (current.all fun old =>
      (findContentCandidate updated old.sourceFingerprint old.draftFingerprint).any
        (contentTransitionValid old))
    && updated.all fun new =>
      (findContentCandidate current new.sourceFingerprint new.draftFingerprint).isSome
        || decide (new.publicationState = .new)

/-- A record that is new, or changed, names a run under way. -/
def contentLinked (running : RunId → Bool) (current : List NurtureContentRecord)
    (record : NurtureContentRecord) : Bool :=
  decide (findContentCandidate current record.sourceFingerprint record.draftFingerprint
      = some record) || running record.lastRunId

/-- `save_content_state`, up to the write. -/
def saveContentState (running : RunId → Bool) (current : NurtureContentState)
    (candidates : List NurtureContentRecord) :
    Except NurtureContentError NurtureContentState := do
  let document ← NurtureContentState.ofCandidates candidates
  require (validateContentTransition current.candidates document.candidates = true) .stateInvalid
  require (document.candidates.all (contentLinked running current.candidates) = true)
    .stateInvalid
  return document

/-- `ContentCandidateV1`, without its text. -/
structure ContentCandidate where
  candidateId : Nat
  sourceFingerprint : Fingerprint
  draftFingerprint : Fingerprint
  category : ContentCategory
  deriving DecidableEq

namespace NurtureAccountLock

/-- `_raise_content_used`, for a record that is not new. -/
def contentUsed (state : PublicationState) : NurtureContentError :=
  if state = .reserved ∨ state = .ambiguous then .unresolved else .alreadyUsed

/-- The record with the source is not the one with the draft. -/
def contentConflict (r : NurtureContentRecord) (conflict : NurtureContentError) :
    NurtureContentError :=
  if r.publicationState ≠ .new then contentUsed r.publicationState else conflict

/-- The records after a registration. -/
def registered (candidates : List NurtureContentRecord) (candidate : ContentCandidate)
    (runId : RunId) (now : Time) : Except NurtureContentError (List NurtureContentRecord) :=
  let sourceMatch := candidates.find? fun r =>
    decide (r.sourceFingerprint = candidate.sourceFingerprint)
  let draftMatch := candidates.find? fun r =>
    decide (r.draftFingerprint = candidate.draftFingerprint)
  match sourceMatch, draftMatch with
  | none, none =>
    if maxNurtureContentRecords ≤ candidates.length then .error .capReached
    else .ok (candidates ++ [⟨candidate.candidateId, candidate.sourceFingerprint,
      candidate.draftFingerprint, candidate.category, now, none, .new, runId, none⟩])
  | none, some draft => .error (contentConflict draft .draftReuseConflict)
  | some source, draft =>
    if draft ≠ some source then .error (contentConflict source .provenanceConflict)
    else if source.publicationState ≠ .new then .error (contentUsed source.publicationState)
    else if source.category ≠ candidate.category then .error .provenanceConflict
    else .ok (replaceContentCandidate candidates { source with lastRunId := runId })

/-- `register_content_candidate`. -/
def registerContentCandidate (running : RunId → Bool) (document : NurtureContentState)
    (candidate : ContentCandidate) (runId : RunId) (now : Time) :
    Except NurtureContentError NurtureContentState := do
  require (running runId = true) .stateInvalid
  let candidates ← registered document.candidates candidate runId now
  saveContentState running document candidates

/-- `reserve_content_candidate`. -/
def reserveContentCandidate (running : RunId → Bool) (document : NurtureContentState)
    (source draft : Fingerprint) (runId : RunId) :
    Except NurtureContentError NurtureContentState := do
  require (running runId = true) .stateInvalid
  let current ← orThrow (findContentCandidate document.candidates source draft) .unresolved
  require (current.publicationState = .new ∧ current.lastRunId = runId) .unresolved
  saveContentState running document (replaceContentCandidate document.candidates
    { current with publicationState := .reserved, lastRunId := runId })

/-- `complete_content_candidate`. -/
def completeContentCandidate (running : RunId → Bool) (document : NurtureContentState)
    (source draft : Fingerprint) (runId : RunId) (publicationState : PublicationState)
    (operationId : Nat) (now : Time) : Except NurtureContentError NurtureContentState := do
  require (running runId = true) .stateInvalid
  require (publicationState = .published ∨ publicationState = .ambiguous) .stateInvalid
  let current ← orThrow (findContentCandidate document.candidates source draft) .unresolved
  require (current.publicationState = .reserved ∧ current.lastRunId = runId) .unresolved
  saveContentState running document (replaceContentCandidate document.candidates
    { current with
      lastActionAt := some (max current.firstSeenAt now)
      publicationState := publicationState
      lastRunId := runId
      operationId := some operationId })

end NurtureAccountLock

-- ==== runs

/-- What a preset says about own content. -/
structure ContentPreset where
  engagementEnabled : Bool
  maxOwnPostMutationsPerExplicitRun : Int
  ownContentCooldownSeconds : Int
  ownContentDueIntervalSeconds : Int

/-- A run with a content candidate. -/
structure ContentRun where
  id : RunId
  now : Time
  preset : ContentPreset
  applyRequested : Bool
  candidate : ContentCandidate

/-- `_own_content_is_due`. -/
def ownContentIsDue (candidates : List NurtureContentRecord) (preset : ContentPreset)
    (now : Time) : Bool :=
  let published := candidates.filter fun r => decide (r.publicationState = .published)
  published.isEmpty
    || (published.filterMap (·.lastActionAt)).max?.any fun lastActionAt =>
      decide (seconds (max preset.ownContentCooldownSeconds preset.ownContentDueIntervalSeconds)
        ≤ now - lastActionAt)

/-- The content is due, wanted and allowed. -/
def ContentRun.proceeds (run : ContentRun) (candidates : List NurtureContentRecord) : Bool :=
  ownContentIsDue candidates run.preset run.now && run.applyRequested
    && run.preset.engagementEnabled && decide (1 ≤ run.preset.maxOwnPostMutationsPerExplicitRun)

/-- Where the holder of the account lock is. -/
inductive ContentPhase where
  | started (run : ContentRun)
  | registered (run : ContentRun)
  | due (run : ContentRun)
  | reserved (run : ContentRun)
  | called (run : ContentRun)
  | answered (run : ContentRun) (publicationState : PublicationState) (operationId : Nat)

/-- A call of `publish_text`: for which candidate, by which run. -/
structure PublishCall where
  sourceFingerprint : Fingerprint
  draftFingerprint : Fingerprint
  runId : RunId
  deriving DecidableEq

/-- The document of an account and preset, the ids of its receipts, the
run under way, and the calls, newest first. -/
structure NurtureContent where
  document : NurtureContentState
  runIds : List RunId
  phase : Option ContentPhase
  calls : List PublishCall

/-- What happens. -/
inductive ContentEvent where
  /-- A run takes the lock, writes its receipt and finds no target. -/
  | start (run : ContentRun)
  | register (write : DocumentWrite)
  /-- It decides; the quota may be exhausted. -/
  | decide (quotaLeft : Bool)
  | reserve (write : DocumentWrite)
  /-- It calls `publish_text`. -/
  | call
  | answer (answer : MutationAnswer)
  | complete (write : DocumentWrite)
  /-- The run ends, fails, is cancelled, or the process ends. -/
  | stop

/-- The call a run makes. -/
def ContentRun.publishCall (run : ContentRun) : PublishCall :=
  ⟨run.candidate.sourceFingerprint, run.candidate.draftFingerprint, run.id⟩

/-- Only the run under way is RUNNING. -/
def ContentRun.running (run : ContentRun) (id : RunId) : Bool := decide (id = run.id)

namespace NurtureContent

open NurtureAccountLock

/-- A write of the document, and the phase after it. -/
def write (C : NurtureContent) (write : DocumentWrite)
    (updated : Except NurtureContentError NurtureContentState) (next : Option ContentPhase) :
    NurtureContent :=
  match updated with
  | .error _ => { C with phase := none }
  | .ok document =>
    match write with
    | .done => { C with document := document, phase := next }
    | .refused => { C with phase := none }
    | .lost => { C with document := document, phase := none }

/-- What an event does. -/
def after (C : NurtureContent) : ContentEvent → NurtureContent
  | .start run =>
    match C.phase with
    | none =>
      if C.runIds.contains run.id then C
      else { C with runIds := run.id :: C.runIds, phase := some (.started run) }
    | some _ => C
  | .register write =>
    match C.phase with
    | some (.started run) =>
      C.write write (registerContentCandidate run.running C.document run.candidate run.id
        run.now) (some (.registered run))
    | _ => C
  | .decide quotaLeft =>
    match C.phase with
    | some (.registered run) =>
      { C with phase :=
          if run.proceeds C.document.candidates && quotaLeft then some (.due run) else none }
    | _ => C
  | .reserve write =>
    match C.phase with
    | some (.due run) =>
      C.write write (reserveContentCandidate run.running C.document
        run.candidate.sourceFingerprint run.candidate.draftFingerprint run.id)
        (some (.reserved run))
    | _ => C
  | .call =>
    match C.phase with
    | some (.reserved run) =>
      { C with phase := some (.called run), calls := run.publishCall :: C.calls }
    | _ => C
  | .answer answer =>
    match C.phase with
    | some (.called run) =>
      match answer with
      | .success operationId => { C with phase := some (.answered run .published operationId) }
      | .ambiguous operationId =>
        { C with phase := some (.answered run .ambiguous operationId) }
      | .failed => { C with phase := none }
    | _ => C
  | .complete write =>
    match C.phase with
    | some (.answered run publicationState operationId) =>
      C.write write (completeContentCandidate run.running C.document
        run.candidate.sourceFingerprint run.candidate.draftFingerprint run.id
        publicationState operationId run.now) none
    | _ => C
  | .stop => { C with phase := none }

end NurtureContent

/-- The runs of an account and preset, from the first one on. -/
def nurtureContent : Machine NurtureContent ContentEvent where
  init C := C = ⟨.empty, [], none, []⟩
  enabled _ _ := True
  step := NurtureContent.after

end ThreadsPlatform
