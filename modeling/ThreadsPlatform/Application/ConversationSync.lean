/-
Conversation-sync schedules and their dispatcher
(`domain/conversation_sync.py`, `application/conversation_sync_scheduling.py`).

A schedule is due at the instants of a grid. `dispatch_due_conversation_syncs`
takes the due schedules it can lock, makes a Command for each one whose
last Command is finished, writes the dispatch down, and moves the due
time past `now`; a batch is one transaction. The schedules stand beside
the state of the two services, whose transactions run in between.

The text `strftime` makes of a due time is a parameter.
-/
import ThreadsPlatform.Application.System

namespace ThreadsPlatform

open Relational

-- ==== schedules

/-- `ConversationSyncKind`. -/
inductive ConversationSyncKind where
  | conversation | replies
  deriving DecidableEq

/-- The value of a kind. -/
def ConversationSyncKind.value : ConversationSyncKind → String
  | .conversation => "conversation"
  | .replies => "replies"

/-- `ConversationSyncScheduleStatus`. -/
inductive ConversationSyncScheduleStatus where
  | active | paused | disabled
  deriving DecidableEq

/-- The transitions of a schedule. -/
def ConversationSyncScheduleStatus.allows :
    ConversationSyncScheduleStatus → ConversationSyncScheduleStatus → Bool
  | .active, .paused | .active, .disabled | .paused, .active | .paused, .disabled => true
  | _, _ => false

/-- `ConversationSyncSchedule`. -/
structure ConversationSyncSchedule where
  id : Uuid
  accountId : Uuid
  threadsPostId : String
  syncKind : ConversationSyncKind
  anchorAt : Time
  intervalSeconds : Int
  nextDueAt : Time
  createdAt : Time
  status : ConversationSyncScheduleStatus
  statusReason : Option String
  revision : Int
  lastDispatchedDueAt : Option Time
  lastCommandId : Option String
  updatedAt : Time
  deriving DecidableEq

/-- `ConversationSyncDispatch`. -/
structure ConversationSyncDispatch where
  id : Uuid
  scheduleId : Uuid
  scheduleRevision : Int
  dueAt : Time
  commandId : String
  createdAt : Time
  deriving DecidableEq

/-- Neither blank nor longer than a column. -/
def isBoundedText (s : String) (maximum : Nat) : Bool :=
  notBlank s && decide (s.length ≤ maximum)

namespace ConversationSyncSchedule

/-- The interval, as a `timedelta`. -/
def interval (s : ConversationSyncSchedule) : Duration := s.intervalSeconds * 1000000

/-- `__post_init__`. -/
def postInit (s : ConversationSyncSchedule) : Except Failure Unit := do
  require (notBlank s.threadsPostId = true) (.value "threads_post_id must not be empty")
  require (s.threadsPostId.length ≤ 255) (.value "threads_post_id exceeds the supported bound")
  require (900 ≤ s.intervalSeconds ∧ s.intervalSeconds ≤ 2592000)
    (.value "conversation sync interval must be between 900 and 2592000 seconds")
  require (1 ≤ s.revision) (.value "conversation sync schedule revision must be positive")
  require (s.anchorAt < s.nextDueAt ∧ (s.nextDueAt - s.anchorAt) % s.interval = 0)
    (.value "next_due_at must be an interval slot after anchor_at")
  require (s.createdAt ≤ s.updatedAt)
    (.value "conversation sync updated_at cannot precede created_at")
  if s.status = .active then
    require (s.statusReason = none)
      (.value "active conversation sync schedule cannot have a status reason")
  else do
    require (s.statusReason.any notBlank = true)
      (.value "paused or disabled conversation sync schedule requires a reason")
    require (s.statusReason.all (fun r => decide (r.length ≤ 240)) = true)
      (.value "conversation sync status reason exceeds the supported bound")
  require (s.lastDispatchedDueAt.isNone = s.lastCommandId.isNone)
    (.value "last dispatched due time and command id must be set together")
  require (s.lastCommandId.all (isBoundedText · 255) = true)
    (.value "last conversation sync command id is invalid")
  require (s.lastDispatchedDueAt.all (fun d => decide (d < s.nextDueAt)) = true)
    (.value "next_due_at must follow the last dispatched due time")
  require (s.lastDispatchedDueAt.all (fun d => decide ((d - s.anchorAt) % s.interval = 0)) = true)
    (.value "last_dispatched_due_at must be an interval slot")

/-- The CHECK constraints of `conversation_sync_schedules`. -/
def checkConstraints (s : ConversationSyncSchedule) : Bool :=
  notBlank s.threadsPostId && decide (900 ≤ s.intervalSeconds ∧ s.intervalSeconds ≤ 2592000)
    && decide (1 ≤ s.revision) && decide (s.anchorAt < s.nextDueAt)
    && decide ((s.nextDueAt - s.anchorAt) % s.interval = 0)
    && decide (if s.status = .active then s.statusReason = none
      else s.statusReason.any notBlank = true)
    && decide (s.lastDispatchedDueAt.isNone = s.lastCommandId.isNone)
    && s.lastDispatchedDueAt.all fun d =>
      decide (d < s.nextDueAt) && decide ((d - s.anchorAt) % s.interval = 0)

/-- `transition`, to a reason already stripped. -/
def transition (s : ConversationSyncSchedule) (target : ConversationSyncScheduleStatus)
    (at_ : Time) (reason : String) : Except Failure ConversationSyncSchedule := do
  require (s.status.allows target = true) (.value "invalid conversation sync schedule transition")
  require (s.updatedAt ≤ at_)
    (.value "conversation sync schedule transition time cannot move backwards")
  require (target = .active ∨ isBoundedText reason 240 = true)
    (.value "non-active conversation sync schedule requires a bounded reason")
  return { s with
    statusReason := if target = .active then none else some reason
    status := target
    revision := s.revision + 1
    updatedAt := at_ }

/-- The due time after a dispatch. -/
def dueAfter (s : ConversationSyncSchedule) (now : Time) : Time :=
  s.nextDueAt + ((now - s.nextDueAt) / s.interval + 1) * s.interval

/-- `dispatch`. -/
def dispatch (s : ConversationSyncSchedule) (id : Uuid) (commandId : String) (now : Time) :
    Except Failure (ConversationSyncDispatch × ConversationSyncSchedule) := do
  require (s.status = .active) (.value "only active conversation sync schedules can dispatch")
  require (s.nextDueAt ≤ now) (.value "conversation sync schedule is not due")
  require (isBoundedText commandId 255 = true) (.value "conversation sync command id is invalid")
  require (s.updatedAt ≤ now) (.value "conversation sync dispatch time cannot move backwards")
  require (1 ≤ s.revision)
    (.value "conversation sync dispatch schedule revision must be positive")
  require (representable (s.dueAfter now) = true) .overflow
  return ({
    id
    scheduleId := s.id
    scheduleRevision := s.revision
    dueAt := s.nextDueAt
    commandId
    createdAt := now }, { s with
    nextDueAt := s.dueAfter now
    lastDispatchedDueAt := some s.nextDueAt
    lastCommandId := some commandId
    updatedAt := now })

end ConversationSyncSchedule

-- ==== tables

/-- `conversation_sync_schedules`. -/
def conversationSyncSchedules : Schema Uuid ConversationSyncSchedule where
  key s := s.id
  check := ConversationSyncSchedule.checkConstraints
  clash a b := decide (a.status ≠ .disabled) && decide (b.status ≠ .disabled)
    && decide (a.accountId = b.accountId) && decide (a.threadsPostId = b.threadsPostId)
    && decide (a.syncKind = b.syncKind)

/-- `conversation_sync_dispatches`. -/
def conversationSyncDispatches : Schema Uuid ConversationSyncDispatch where
  key d := d.id
  check d := decide (1 ≤ d.scheduleRevision)
  clash a b := (decide (a.scheduleId = b.scheduleId) && decide (a.dueAt = b.dueAt))
    || decide (a.commandId = b.commandId)

/-- The schedules and their dispatches, beside the two services. -/
structure Syncs where
  base : State
  schedules : Table conversationSyncSchedules
  dispatches : Table conversationSyncDispatches

/-- By due time, then by id. -/
def scheduleBefore (a b : ConversationSyncSchedule) : Prop :=
  a.nextDueAt < b.nextDueAt ∨ (a.nextDueAt = b.nextDueAt ∧ a.id ≤ b.id)

instance : DecidableRel scheduleBefore :=
  fun _ _ => inferInstanceAs (Decidable (_ ∨ _))

namespace Syncs

variable (S : Syncs)

/-- Whether a Command is finished. -/
def finished (commandId : String) : Bool :=
  (S.base.commands.get? commandId).any fun c => c.status.terminal

/-- Whether the root post of a schedule is stored. -/
def rootStored (s : ConversationSyncSchedule) : Bool :=
  S.base.posts.rows.any fun p =>
    decide (p.accountId = s.accountId) && decide (p.externalId = s.threadsPostId)

/-- `get_due_for_update`: rows others hold are skipped. -/
def dueForUpdate (now : Time) (limit : Nat) (locked : Uuid → Bool) :
    List ConversationSyncSchedule :=
  ((S.schedules.rows.filter fun s => decide (s.status = .active) && decide (s.nextDueAt ≤ now)
    && s.lastCommandId.all S.finished && S.rootStored s && !locked s.id).insertionSort
      scheduleBefore).take limit

/-- `get_latest_for_schedule`; due times of one schedule are distinct. -/
def latestDispatch? (scheduleId : Uuid) : Option ConversationSyncDispatch :=
  firstBy (fun a b => b.dueAt ≤ a.dueAt)
    (S.dispatches.rows.filter fun d => decide (d.scheduleId = scheduleId))

/-- The dispatch of a schedule at a due time. -/
def dispatchAt? (scheduleId : Uuid) (dueAt : Time) : Option ConversationSyncDispatch :=
  S.dispatches.rows.find? fun d => decide (d.scheduleId = scheduleId) && decide (d.dueAt = dueAt)

/-- `conversation_sync_schedules.update`. -/
def updateSchedule (s : ConversationSyncSchedule) : Except Failure Syncs := do
  match S.schedules.get? s.id with
  | none => throw .lookup
  | some record =>
    require (record.accountId = s.accountId ∧ record.threadsPostId = s.threadsPostId
        ∧ record.syncKind = s.syncKind ∧ record.anchorAt = s.anchorAt
        ∧ record.intervalSeconds = s.intervalSeconds ∧ record.createdAt = s.createdAt)
      (.value "conversation sync schedule configuration is immutable")
    require (record.revision ≤ s.revision)
      (.value "conversation sync schedule revision cannot move backwards")
    require (record.status = .disabled → s.status = .disabled)
      (.value "disabled conversation sync schedules are terminal")
    let schedules ← updateRow S.schedules s
    return { S with schedules }

end Syncs

-- ==== dispatching

/-- `_deterministic_command_id`. -/
def syncCommandId (strftime : Time → String) (scheduleId : Uuid) (dueAt : Time) : String :=
  "conversation-sync:" ++ scheduleId.str ++ ":" ++ strftime dueAt

/-- `_deterministic_correlation_id`. -/
def syncCorrelationId (strftime : Time → String) (scheduleId : Uuid) (dueAt : Time) : String :=
  "conversation-sync-correlation:" ++ scheduleId.str ++ ":" ++ strftime dueAt

/-- The payload of a dispatched Command. -/
def syncPayload (s : ConversationSyncSchedule) : Document :=
  [("threads_post_id", .str s.threadsPostId), ("sync_kind", .str s.syncKind.value)]

/-- `_matches_expected_command`. -/
def matchesSyncCommand (strftime : Time → String) (s : ConversationSyncSchedule) (c : Command) :
    Bool :=
  decide (c.correlationId = syncCorrelationId strftime s.id s.nextDueAt)
    && decide (c.accountId = s.accountId) && decide (c.commandType = "threads.sync_conversation")
    && Json.pyEqFields c.payload (syncPayload s) && decide (c.priority = 0)
    && decide (c.deadlineAt = none)

/-- The identifiers a batch draws, by schedule. -/
structure SyncDraws where
  draws : Uuid → Draws
  dispatchId : Uuid → Uuid

namespace Syncs

variable (strftime : Time → String) (d : SyncDraws) (now : Time)

/-- The Command of a schedule's due time: made, or found as expected. -/
def ensureCommand (S : Syncs) (s : ConversationSyncSchedule) : Except Failure Syncs := do
  let commandId := syncCommandId strftime s.id s.nextDueAt
  let (inserted, base) ← CommandRuntime.dispatch (d.draws s.id) now commandId
    (syncCorrelationId strftime s.id s.nextDueAt) s.accountId "threads.sync_conversation"
    (syncPayload s) 0 S.base
  require (inserted = true
      ∨ (S.base.commands.get? commandId).any (matchesSyncCommand strftime s) = true)
    (.runtime "conversation sync deterministic Command identity conflicts")
  return { S with base }

/-- `conversation_sync_dispatches.add_if_absent`, and the check after it. -/
def addDispatch (S : Syncs) (dispatch : ConversationSyncDispatch) : Except Failure Syncs :=
  match S.dispatchAt? dispatch.scheduleId dispatch.dueAt with
  | some stored => do
      require (stored.scheduleRevision = dispatch.scheduleRevision
          ∧ stored.commandId = dispatch.commandId ∧ stored.createdAt = dispatch.createdAt)
        (.runtime "conversation sync dispatch identity conflicts with stored audit")
      return S
  | none => do
      let dispatches ← addRow S.dispatches dispatch
      return { S with dispatches }

/-- Whether a schedule's last Command and its root post let it be
dispatched. -/
def mayDispatch (S : Syncs) (s : ConversationSyncSchedule) : Except Failure Bool :=
  match S.latestDispatch? s.id with
  | none => return S.rootStored s
  | some latest => do
      require ((S.base.commands.get? latest.commandId).isSome = true)
        (.runtime "conversation sync dispatch references a missing Command")
      return S.finished latest.commandId && S.rootStored s

/-- The Command, the dispatch and the due time after it. -/
def dispatchSchedule (S : Syncs) (s : ConversationSyncSchedule) : Except Failure Syncs := do
  let S ← S.ensureCommand strftime d now s
  let (dispatch, next) ← s.dispatch (d.dispatchId s.id)
    (syncCommandId strftime s.id s.nextDueAt) now
  let S ← S.addDispatch dispatch
  S.updateSchedule next

/-- One schedule of a batch. -/
def dispatchOne (S : Syncs) (s : ConversationSyncSchedule) : Except Failure Syncs := do
  let may ← S.mayDispatch s
  if may then S.dispatchSchedule strftime d now s else return S

/-- `dispatch_due_conversation_syncs`: one transaction. -/
def dispatchDue (limit : Int) (locked : Uuid → Bool) (S : Syncs) : Except Failure Syncs := do
  require (1 ≤ limit ∧ limit ≤ 100)
    (.value "conversation sync dispatch limit must be between 1 and 100")
  (S.dueForUpdate now limit.toNat locked).foldlM (dispatchOne strftime d now) S

end Syncs

-- ==== machine

/-- A transaction: of the two services, a new schedule, a transition of a
locked one, or a batch. -/
inductive SyncEvent where
  | call (call : Call)
  | add (schedule : ConversationSyncSchedule)
  | transition (id : Uuid) (target : ConversationSyncScheduleStatus) (at_ : Time) (reason : String)
  | dispatchDue (d : SyncDraws) (now : Time) (limit : Int) (locked : Uuid → Bool)

namespace Syncs

/-- A new schedule, never dispatched. -/
def add (S : Syncs) (s : ConversationSyncSchedule) : Except Failure Syncs := do
  s.postInit
  require (s.lastDispatchedDueAt = none) .integrity
  let schedules ← addRow S.schedules s
  return { S with schedules }

/-- `get_for_update`, `transition` and `update`. -/
def transition (S : Syncs) (id : Uuid) (target : ConversationSyncScheduleStatus) (at_ : Time)
    (reason : String) : Except Failure Syncs := do
  let s ← orThrow (S.schedules.get? id) .lookup
  let s ← s.transition target at_ reason
  S.updateSchedule s

/-- What a transaction commits; one that raises is rolled back. -/
def after (cfg : Settings) (strftime : Time → String) (S : Syncs) : SyncEvent → Syncs
  | .call call => { S with base := (machine cfg).step S.base call }
  | .add schedule => commit (S.add schedule) S
  | .transition id target at_ reason => commit (S.transition id target at_ reason) S
  | .dispatchDue d now limit locked => commit (dispatchDue strftime d now limit locked S) S

end Syncs

/-- Schedules over the two services. -/
def conversationSyncs (cfg : Settings) (strftime : Time → String) : Machine Syncs SyncEvent where
  init S := ∃ surroundings, S = ⟨.initial surroundings, .empty _, .empty _⟩
  enabled S e := ∀ call, e = .call call → (machine cfg).enabled S.base call
  step := Syncs.after cfg strftime

end ThreadsPlatform
