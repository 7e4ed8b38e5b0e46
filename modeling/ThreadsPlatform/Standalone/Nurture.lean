/-
The nurture runner: what it remembers of the targets it saw, and the
runs that answer them.

`NurtureStore` keeps one document of targets per account and preset, at
most `MAX_NURTURE_TARGETS` of them; `NurtureAccountLock` serialises the
runs of an account. A run reads the document, chooses a candidate, and
either observes it or, given a draft, reserves it, calls the mutation
and writes down how that ended. Every one of these writes may fail,
before or after it took effect, and a run may stop anywhere.

The machine is about one account and one preset: no other preset's run
reads or writes this document. Receipts enter only as the ids that were
given out: taking the lock marks every receipt but the new run's as
over. What the API discovers, its quota and the checks of the arguments
are inputs, or a run that stops.
-/
import Mathlib.Data.List.Sort
import Mathlib.Data.Prod.Lex
import ThreadsPlatform.Standalone.Recurrences

namespace ThreadsPlatform

open Relational

-- ==== targets

/-- A fingerprint: the number its 64 hexadecimal digits write. Texts of
one length compare as their numbers do. -/
abbrev Fingerprint := Fin (16 ^ 64)

/-- A run's id. -/
abbrev RunId := Nat

/-- `NurtureActionState`. -/
inductive ActionState where
  | none | pending | confirmed | ambiguous
  deriving DecidableEq

/-- The codes a run decides on a target with. -/
inductive TargetDecision where
  | replyApply | quoteApply | replyRecommendedNoDraft | inboundCandidate | observeOnly
  deriving DecidableEq

/-- `NurtureTargetV1`. -/
structure NurtureTarget where
  fingerprint : Fingerprint
  firstSeenAt : Time
  lastSeenAt : Time
  lastDecisionCode : TargetDecision
  lastActionAt : Option Time
  actionState : ActionState
  lastRunId : RunId
  lastOperationId : Option Nat
  deriving DecidableEq

namespace NurtureTarget

/-- `_validate_target`. -/
def valid (t : NurtureTarget) : Bool :=
  decide (t.firstSeenAt ≤ t.lastSeenAt) && match t.actionState with
      | .none => t.lastActionAt.isNone && t.lastOperationId.isNone
      | .pending => t.lastActionAt.isSome && t.lastOperationId.isNone
      | .confirmed | .ambiguous => t.lastActionAt.isSome && t.lastOperationId.isSome

/-- Whether the size cap may drop the target. -/
def removable (t : NurtureTarget) : Bool :=
  decide (t.actionState = .none) || decide (t.actionState = .confirmed)

/-- What targets are dropped by, the least first. -/
def sighting (t : NurtureTarget) : Time ×ₗ Fingerprint := toLex (t.lastSeenAt, t.fingerprint)

end NurtureTarget

/-- `MAX_NURTURE_TARGETS`. -/
def maxNurtureTargets : Nat := 2000

/-- `_validate_target_document`. -/
def validTargets (targets : List NurtureTarget) : Bool :=
  decide (targets.length ≤ maxNurtureTargets)
    && decide (targets.map NurtureTarget.fingerprint).Nodup
    && targets.all NurtureTarget.valid

/-- `NurtureTargetStateV1`, of an account and a preset. -/
structure NurtureTargetState where
  targets : List NurtureTarget
  valid : validTargets targets = true

/-- `NurtureStateError`. -/
inductive NurtureStateError where
  | stateInvalid | capReached | targetPending | targetAmbiguous | targetReserved
  deriving DecidableEq

namespace NurtureTargetState

/-- The document of an account and preset that were never run. -/
def empty : NurtureTargetState := ⟨[], by decide⟩

/-- A document, if the targets make one. -/
def ofTargets (targets : List NurtureTarget) : Except NurtureStateError NurtureTargetState :=
  if h : validTargets targets = true then .ok ⟨targets, h⟩ else .error .stateInvalid

end NurtureTargetState

/-- `_find_target`. -/
def findTarget (targets : List NurtureTarget) (fingerprint : Fingerprint) : Option NurtureTarget :=
  targets.find? fun t => t.fingerprint == fingerprint

/-- An assignment to a dictionary by fingerprint. -/
def setTarget (targets : List NurtureTarget) (target : NurtureTarget) : List NurtureTarget :=
  if (findTarget targets target.fingerprint).isSome then
    targets.map fun t => if t.fingerprint = target.fingerprint then target else t
  else targets ++ [target]

/-- The targets the size cap may drop, the least recently seen first. -/
def removableTargets (targets : List NurtureTarget) (protect : Option Fingerprint) :
    List NurtureTarget :=
  (targets.filter fun t => t.removable && decide (some t.fingerprint ≠ protect)).insertionSort
    fun t u => t.sighting ≤ u.sighting

/-- The size cap. -/
def capTargets (targets : List NurtureTarget) (protect : Option Fingerprint) :
    Except NurtureStateError (List NurtureTarget) :=
  if maxNurtureTargets < targets.length then do
    let removable := removableTargets targets protect
    let excess := targets.length - maxNurtureTargets
    require (excess ≤ removable.length) .capReached
    let dropped := (removable.take excess).map NurtureTarget.fingerprint
    return targets.filter fun t => decide (t.fingerprint ∉ dropped)
  else return targets

/-- `_replace_target`. -/
def replaceTarget (document : NurtureTargetState) (target : NurtureTarget)
    (protect : Option Fingerprint) : Except NurtureStateError NurtureTargetState := do
  let kept ← capTargets (setTarget document.targets target) protect
  NurtureTargetState.ofTargets (kept.insertionSort fun t u => t.fingerprint ≤ u.fingerprint)

/-- What `_validate_target_transition` asks of a target and what takes its
place. -/
def transitionValid (old : NurtureTarget) (new : Option NurtureTarget) : Bool :=
  match old.actionState with
  | .ambiguous => new.any fun new => decide (new.actionState = .ambiguous)
      && decide (new.firstSeenAt = old.firstSeenAt)
      && decide (new.lastDecisionCode = old.lastDecisionCode)
      && decide (new.lastActionAt = old.lastActionAt)
      && decide (new.lastRunId = old.lastRunId)
      && decide (new.lastOperationId = old.lastOperationId)
  | .pending => new.any fun new =>
    match new.actionState with
    | .pending => decide (new.firstSeenAt = old.firstSeenAt)
        && decide (new.lastDecisionCode = old.lastDecisionCode)
        && decide (new.lastActionAt = old.lastActionAt)
        && decide (new.lastRunId = old.lastRunId)
        && decide (new.lastOperationId = old.lastOperationId)
    | .confirmed | .ambiguous => decide (new.firstSeenAt = old.firstSeenAt)
        && decide (new.lastDecisionCode = old.lastDecisionCode)
        && decide (new.lastRunId = old.lastRunId)
    | .none => false
  | .none => new.all fun new =>
    (decide (new.actionState = .none) || decide (new.actionState = .pending))
      && decide (new.firstSeenAt = old.firstSeenAt)
  | .confirmed => new.all fun new => decide (new.actionState = .confirmed)
      && decide (new.firstSeenAt = old.firstSeenAt)
      && decide (new.lastActionAt = old.lastActionAt)
      && decide (new.lastOperationId = old.lastOperationId)

/-- `_validate_target_transition`. -/
def validateTargetTransition (current updated : List NurtureTarget) : Bool :=
  (current.all fun old => transitionValid old (findTarget updated old.fingerprint))
    && updated.all fun new => (findTarget current new.fingerprint).isSome
      || decide (new.actionState = .none) || decide (new.actionState = .pending)

/-- A target that is new, or changed in more than its last sighting, names
a run under way. -/
def targetLinked (running : RunId → Bool) (current : List NurtureTarget) (target : NurtureTarget) :
    Bool :=
  (findTarget current target.fingerprint).any
      (fun previous => decide ({ previous with lastSeenAt := target.lastSeenAt } = target))
    || running target.lastRunId

/-- `save_target_state`, up to the write. -/
def saveTargetState (running : RunId → Bool) (current document : NurtureTargetState) :
    Except NurtureStateError NurtureTargetState := do
  require (validateTargetTransition current.targets document.targets = true) .stateInvalid
  require (document.targets.all (targetLinked running current.targets) = true) .stateInvalid
  return document

namespace NurtureAccountLock

/-- The target `observe_target` stores. -/
def observed (current : Option NurtureTarget) (fingerprint : Fingerprint) (runId : RunId)
    (decision : TargetDecision) (now : Time) : NurtureTarget :=
  match current with
  | none => ⟨fingerprint, now, now, decision, none, .none, runId, none⟩
  | some current =>
    if current.actionState = .pending ∨ current.actionState = .ambiguous then
      { current with lastSeenAt := max current.lastSeenAt now }
    else
      { current with
        lastSeenAt := max current.lastSeenAt now
        lastDecisionCode := decision
        lastRunId := runId }

/-- `observe_target`. -/
def observeTarget (running : RunId → Bool) (document : NurtureTargetState)
    (fingerprint : Fingerprint) (runId : RunId) (decision : TargetDecision) (now : Time) :
    Except NurtureStateError NurtureTargetState := do
  require (running runId = true) .stateInvalid
  let current := findTarget document.targets fingerprint
  let updated ← replaceTarget document (observed current fingerprint runId decision now)
    (some fingerprint)
  saveTargetState running document updated

/-- The target `reserve_target` stores, if there is none to keep. -/
def reserved (current : Option NurtureTarget) (fingerprint : Fingerprint) (runId : RunId)
    (decision : TargetDecision) (now : Time) : Except NurtureStateError NurtureTarget :=
  match current with
  | none => .ok ⟨fingerprint, now, now, decision, some now, .pending, runId, none⟩
  | some current =>
    match current.actionState with
    | .pending => .error .targetPending
    | .ambiguous => .error .targetAmbiguous
    | .confirmed => .error .targetReserved
    | .none => .ok
        { current with
          lastSeenAt := max current.lastSeenAt now
          lastDecisionCode := decision
          lastActionAt := some (max current.firstSeenAt now)
          actionState := .pending
          lastRunId := runId }

/-- `reserve_target`. -/
def reserveTarget (running : RunId → Bool) (document : NurtureTargetState)
    (fingerprint : Fingerprint) (runId : RunId) (decision : TargetDecision) (now : Time) :
    Except NurtureStateError NurtureTargetState := do
  require (running runId = true) .stateInvalid
  let target ← reserved (findTarget document.targets fingerprint) fingerprint runId decision now
  let updated ← replaceTarget document target (some fingerprint)
  saveTargetState running document updated

/-- The target `complete_target_action` stores. -/
def completed (current : NurtureTarget) (runId : RunId) (actionState : ActionState)
    (operationId : Nat) (now : Time) : NurtureTarget :=
  { current with
    lastActionAt := some (max current.firstSeenAt now)
    actionState := actionState
    lastRunId := runId
    lastOperationId := some operationId }

/-- `complete_target_action`. -/
def completeTargetAction (running : RunId → Bool) (document : NurtureTargetState)
    (fingerprint : Fingerprint) (runId : RunId) (actionState : ActionState) (operationId : Nat)
    (now : Time) : Except NurtureStateError NurtureTargetState := do
  require (running runId = true) .stateInvalid
  require (actionState = .confirmed ∨ actionState = .ambiguous) .stateInvalid
  let current ← orThrow (findTarget document.targets fingerprint) .stateInvalid
  require (current.actionState = .pending ∧ current.lastRunId = runId) .stateInvalid
  let updated ← replaceTarget document (completed current runId actionState operationId now) none
  saveTargetState running document updated

end NurtureAccountLock

-- ==== runs

/-- What a preset says about answering targets. -/
structure NurturePreset where
  engagementEnabled : Bool
  maxRepliesPerExplicitRun : Int
  /-- `nurture_quote_allowed`. -/
  quoteAllowed : Bool
  seenCooldownSeconds : Int

/-- What a run is asked: to look, to reply to a target, or to quote it. A
run with content of its own looks, and decides as without `apply`. -/
inductive NurtureRequest where
  | look (apply : Bool)
  | reply (fingerprint : Fingerprint)
  | quote (fingerprint : Fingerprint)
  deriving DecidableEq

/-- The target a draft is bound to. -/
def NurtureRequest.bound : NurtureRequest → Option Fingerprint
  | .look _ => none
  | .reply fingerprint => some fingerprint
  | .quote fingerprint => some fingerprint

/-- Whether the draft is a quote. -/
def NurtureRequest.isQuote : NurtureRequest → Bool
  | .quote _ => true
  | _ => false

/-- Where a candidate comes from. -/
inductive CandidateSource where
  | inbound | mentions | other
  deriving DecidableEq

/-- `NurtureInboundCandidate` or `NurtureCandidate`. -/
structure NurtureCandidate where
  fingerprint : Fingerprint
  source : CandidateSource
  /-- Its remote ids are not empty. -/
  identified : Bool
  deriving DecidableEq

/-- A run under way. -/
structure NurtureRun where
  id : RunId
  now : Time
  preset : NurturePreset
  request : NurtureRequest

/-- The errors of a run that matter to its targets. -/
inductive NurtureRunnerError where
  | replyApplyDisabled | quoteApplyDisabled | draftTargetMismatch | quoteTargetMismatch
  | discoveryContractMismatch
  deriving DecidableEq

namespace NurtureRunner

/-- `_can_bypass_seen_cooldown`. -/
def canBypassSeenCooldown (target : Option NurtureTarget) (now : Time) : Bool :=
  target.all fun target => decide (target.actionState = .none) && decide (target.lastSeenAt ≤ now)

/-- `_surface_eligible`. -/
def surfaceEligible (target : Option NurtureTarget) (cooldownSeconds : Int) (now : Time) : Bool :=
  target.all fun target => target.removable
    && decide (seconds cooldownSeconds ≤ now - target.lastSeenAt)

/-- `_candidate_surface_eligible`. -/
def candidateSurfaceEligible (targets : List NurtureTarget) (run : NurtureRun)
    (candidate : NurtureCandidate) : Bool :=
  let target := findTarget targets candidate.fingerprint
  (decide (some candidate.fingerprint = run.request.bound) && canBypassSeenCooldown target run.now)
    || surfaceEligible target run.preset.seenCooldownSeconds run.now

/-- The draft's target is nobody's business yet. -/
def boundFree (targets : List NurtureTarget) (fingerprint : Fingerprint) : Bool :=
  (findTarget targets fingerprint).all fun target => decide (target.actionState = .none)

/-- What is checked before anything is collected. -/
def checkRequest (targets : List NurtureTarget) (run : NurtureRun) :
    Except NurtureRunnerError Unit :=
  match run.request with
  | .look _ => .ok ()
  | .reply fingerprint => do
      require (run.preset.engagementEnabled = true ∧ 1 ≤ run.preset.maxRepliesPerExplicitRun)
        .replyApplyDisabled
      require (boundFree targets fingerprint = true) .draftTargetMismatch
  | .quote fingerprint => do
      require (run.preset.quoteAllowed = true) .quoteApplyDisabled
      require (boundFree targets fingerprint = true) .quoteTargetMismatch

/-- The candidate must be the draft's. -/
def checkChosen (run : NurtureRun) (chosen : Option NurtureCandidate) :
    Except NurtureRunnerError Unit :=
  match run.request with
  | .look _ => .ok ()
  | .reply fingerprint =>
    require (chosen.map NurtureCandidate.fingerprint = some fingerprint) .draftTargetMismatch
  | .quote fingerprint =>
    require (chosen.map NurtureCandidate.fingerprint = some fingerprint) .quoteTargetMismatch

/-- `_select_current_candidate`: inbound candidates first, then mentions,
then the rest of what was discovered. -/
def selectCurrentCandidate (targets : List NurtureTarget) (run : NurtureRun)
    (inbound discovered : List NurtureCandidate) :
    Except NurtureRunnerError (Option NurtureCandidate) := do
  checkRequest targets run
  match inbound.find? (candidateSurfaceEligible targets run) with
  | some chosen => do
      checkChosen run (some chosen)
      -- a quote is never of an inbound candidate
      require (run.request.isQuote = false ∨ chosen.source ≠ .inbound) .quoteTargetMismatch
      return some chosen
  | none => do
      let mentions := discovered.filter fun c => decide (c.source = .mentions)
      let remaining := discovered.filter fun c => decide (c.source ≠ .mentions)
      let chosen := (mentions ++ remaining).find? (candidateSurfaceEligible targets run)
      checkChosen run chosen
      return chosen

/-- `_selection_decision`, and a quote's. -/
def selectionDecision (run : NurtureRun) (candidate : NurtureCandidate) : TargetDecision :=
  match run.request with
  | .quote _ => .quoteApply
  | .reply _ => .replyApply
  | .look true => .replyRecommendedNoDraft
  | .look false => if candidate.source = .inbound then .inboundCandidate else .observeOnly

/-- What is checked before the target is reserved, besides the quota. -/
def checkMutation (targets : List NurtureTarget) (run : NurtureRun) (candidate : NurtureCandidate) :
    Except NurtureRunnerError Unit :=
  match run.request with
  | .look _ => .ok ()
  | .reply fingerprint => do
      require (candidate.fingerprint = fingerprint) .draftTargetMismatch
      require (candidate.identified = true) .discoveryContractMismatch
  | .quote fingerprint => do
      require (candidate.source ≠ .inbound ∧ candidate.fingerprint = fingerprint)
        .quoteTargetMismatch
      require (boundFree targets candidate.fingerprint = true) .quoteTargetMismatch

end NurtureRunner

-- ==== the machine

/-- How a mutation came back: with an operation, unknown with one, or
with anything else. -/
inductive MutationAnswer where
  | success (operationId : Nat)
  | ambiguous (operationId : Nat)
  | failed
  deriving DecidableEq

/-- How a write of the document went: done, refused with nothing written,
or failed after it took effect. -/
inductive DocumentWrite where
  | done | refused | lost
  deriving DecidableEq

/-- Where the holder of the account lock is. -/
inductive NurturePhase where
  | selecting (run : NurtureRun) (targets : List NurtureTarget)
  | chosen (run : NurtureRun) (targets : List NurtureTarget) (candidate : NurtureCandidate)
  | reserved (run : NurtureRun) (fingerprint : Fingerprint)
  | called (run : NurtureRun) (fingerprint : Fingerprint)
  | answered (run : NurtureRun) (fingerprint : Fingerprint) (actionState : ActionState)
      (operationId : Nat)

/-- The document of an account and preset, the ids of its receipts, the
run under way, and what was done: reservations that took effect, calls of
a mutation, and those that came back with success, newest first. -/
structure Nurture where
  document : NurtureTargetState
  runIds : List RunId
  phase : Option NurturePhase
  reservations : List (Fingerprint × RunId)
  calls : List (Fingerprint × RunId)
  successes : List (Fingerprint × RunId)

/-- What happens. -/
inductive NurtureEvent where
  /-- A run takes the lock, writes its receipt and reads the targets. -/
  | start (run : NurtureRun)
  /-- It collects candidates and selects one. -/
  | select (inbound discovered : List NurtureCandidate)
  /-- It observes or reserves the candidate. -/
  | act (write : DocumentWrite)
  /-- It calls `create_reply` or `publish_quote`. -/
  | call
  /-- The call comes back. -/
  | answer (answer : MutationAnswer)
  /-- It writes down how the call came back. -/
  | complete (write : DocumentWrite)
  /-- The run ends, fails, is cancelled, or the process ends. -/
  | stop

/-- The run a phase belongs to. -/
def NurturePhase.run : NurturePhase → NurtureRun
  | .selecting run _ => run
  | .chosen run _ _ => run
  | .reserved run _ => run
  | .called run _ => run
  | .answered run _ _ _ => run

/-- The target a phase has reserved. -/
def NurturePhase.holds : NurturePhase → Option Fingerprint
  | .selecting _ _ => none
  | .chosen _ _ _ => none
  | .reserved _ fingerprint => some fingerprint
  | .called _ fingerprint => some fingerprint
  | .answered _ fingerprint _ _ => some fingerprint

/-- The document after a write. -/
def DocumentWrite.document (write : DocumentWrite) (current : NurtureTargetState)
    (updated : Except NurtureStateError NurtureTargetState) : NurtureTargetState :=
  match write, updated with
  | .done, .ok updated => updated
  | .lost, .ok updated => updated
  | _, _ => current

/-- Whether the run goes on after a write. -/
def DocumentWrite.succeeds (write : DocumentWrite)
    (updated : Except NurtureStateError NurtureTargetState) : Bool :=
  match write, updated with
  | .done, .ok _ => true
  | _, _ => false

/-- Whether the write took effect. -/
def DocumentWrite.effective (write : DocumentWrite)
    (updated : Except NurtureStateError NurtureTargetState) : Bool :=
  match write, updated with
  | .done, .ok _ => true
  | .lost, .ok _ => true
  | _, _ => false

namespace Nurture

open NurtureAccountLock NurtureRunner

/-- Only the run under way is RUNNING. -/
def running (run : NurtureRun) (id : RunId) : Bool := decide (id = run.id)

/-- The run looks: the candidate is observed, and the run is over. -/
def observe (N : Nurture) (run : NurtureRun) (candidate : NurtureCandidate)
    (write : DocumentWrite) : Nurture :=
  let updated := observeTarget (running run) N.document candidate.fingerprint run.id
    (selectionDecision run candidate) run.now
  { N with document := write.document N.document updated, phase := none }

/-- The run has a draft: the candidate is reserved. -/
def reserve (N : Nurture) (run : NurtureRun) (candidate : NurtureCandidate)
    (write : DocumentWrite) : Nurture :=
  let updated := reserveTarget (running run) N.document candidate.fingerprint run.id
    (selectionDecision run candidate) run.now
  { N with
    document := write.document N.document updated
    phase := if write.succeeds updated then some (.reserved run candidate.fingerprint) else none
    reservations := if write.effective updated then
        (candidate.fingerprint, run.id) :: N.reservations
      else N.reservations }

/-- What an event does. -/
def after (N : Nurture) : NurtureEvent → Nurture
  | .start run =>
    match N.phase with
    | none =>
      if run.id ∈ N.runIds then N
      else { N with
        runIds := run.id :: N.runIds
        phase := some (.selecting run N.document.targets) }
    | _ => N
  | .select inbound discovered =>
    match N.phase with
    | some (.selecting run targets) =>
      match selectCurrentCandidate targets run inbound discovered with
      | .ok (some candidate) => { N with phase := some (.chosen run targets candidate) }
      | _ => { N with phase := none }
    | _ => N
  | .act write =>
    match N.phase with
    | some (.chosen run targets candidate) =>
      match checkMutation targets run candidate with
      | .ok _ =>
        if run.request.bound.isSome then N.reserve run candidate write
        else N.observe run candidate write
      | .error _ => { N with phase := none }
    | _ => N
  | .call =>
    match N.phase with
    | some (.reserved run fingerprint) =>
      { N with
        phase := some (.called run fingerprint)
        calls := (fingerprint, run.id) :: N.calls }
    | _ => N
  | .answer answer =>
    match N.phase with
    | some (.called run fingerprint) =>
      match answer with
      | .success operationId =>
        { N with
          phase := some (.answered run fingerprint .confirmed operationId)
          successes := (fingerprint, run.id) :: N.successes }
      | .ambiguous operationId =>
        { N with phase := some (.answered run fingerprint .ambiguous operationId) }
      | .failed => { N with phase := none }
    | _ => N
  | .complete write =>
    match N.phase with
    | some (.answered run fingerprint actionState operationId) =>
      { N with
        document := write.document N.document
          (completeTargetAction (running run) N.document fingerprint run.id actionState
            operationId run.now)
        phase := none }
    | _ => N
  | .stop => { N with phase := none }

end Nurture

/-- The runs of an account and preset, from the first one on. -/
def nurture : Machine Nurture NurtureEvent where
  init N := N = ⟨.empty, [], none, [], [], []⟩
  enabled _ _ := True
  step := Nurture.after

end ThreadsPlatform
