/-
Due activities become Commands
(`application/account_activity_materialization.py`), beside the
conversation-sync dispatcher and the Commands that arrive from outside.

Both dispatchers make the id of a Command from the id of what it is for.
The ids of received Commands are the sender's: one namespace for all. A
batch is one transaction, so an id that is taken by another Command ends
all of it.

`others` is everything else the platform does to Commands that exist: it
adds none and leaves finished ones alone. The payload models are those
of `BrowserPayloads`.
-/
import ThreadsPlatform.Application.BrowserPayloads
import ThreadsPlatform.Application.ConversationSync

namespace ThreadsPlatform

open Relational

-- ==== activities

/-- `AccountActivityPlanStatus`. -/
inductive ActivityPlanStatus where
  | active | paused | disabled
  deriving DecidableEq

/-- `ActivityPriority`. -/
inductive ActivityPriority where
  | high | normal | low
  deriving DecidableEq

/-- `worker_job_priority`. -/
def ActivityPriority.workerJobPriority : ActivityPriority → Int
  | .high => 100
  | .normal => 0
  | .low => -100

/-- `ScheduledActivityMaterializationStatus`. -/
inductive MaterializationStatus where
  | pending | materialized | nonMaterializable
  deriving DecidableEq

/-- `ScheduledActivity`, as far as it becomes a Command. -/
structure ActivityOccurrence where
  id : Uuid
  accountId : Uuid
  planId : Uuid
  templateId : Uuid
  templateRevision : Int
  activityTypeSnapshot : String
  configurationSnapshot : Document
  priority : ActivityPriority
  dueAt : Time
  createdAt : Time
  materializationStatus : MaterializationStatus
  commandId : Option String
  materializationAt : Option Time
  materializationReason : Option String
  deriving DecidableEq

namespace ActivityOccurrence

/-- `mark_materialized`. -/
def markMaterialized (a : ActivityOccurrence) (commandId : String) (now : Time) :
    ActivityOccurrence :=
  { a with
    commandId := some commandId
    materializationAt := some now
    materializationStatus := .materialized }

/-- `mark_non_materializable`. -/
def markNonMaterializable (a : ActivityOccurrence) (reason : String) (now : Time) :
    ActivityOccurrence :=
  { a with
    materializationAt := some now
    materializationReason := some reason
    materializationStatus := .nonMaterializable }

/-- `_ACTIVITY_PAYLOADS` and the payload it makes of a configuration, or
why there is none. -/
def payload (lax : Json → Option Int) (a : ActivityOccurrence) : Except String Document :=
  match (BrowserPayload.ofType? a.activityTypeSnapshot).filter (· ≠ .localUpload) with
  | none => .error "UNSUPPORTED_ACTIVITY_TYPE"
  | some model =>
    match model.dump lax a.configurationSnapshot with
    | none => .error "INVALID_ACTIVITY_CONFIGURATION"
    | some payload => .ok payload

end ActivityOccurrence

/-- `scheduled_activities`. -/
def activityOccurrences : Schema Uuid ActivityOccurrence where
  key a := a.id
  check _ := true
  clash a b := decide (a.templateId = b.templateId)
    && decide (a.templateRevision = b.templateRevision) && decide (a.dueAt = b.dueAt)

/-- The id of an activity's Command. -/
def activityCommandId (id : Uuid) : String := "activity:" ++ id.str

/-- Its correlation id. -/
def activityCorrelationId (id : Uuid) : String := "activity-correlation:" ++ id.str

/-- `_matches_materialized_command`. -/
def matchesActivity (a : ActivityOccurrence) (payload : Document) (c : Command) : Bool :=
  decide (c.correlationId = activityCorrelationId a.id) && decide (c.accountId = a.accountId)
    && decide (c.protocolVersion = 1) && decide (c.commandType = a.activityTypeSnapshot)
    && Json.pyEqFields c.payload payload && decide (c.priority = a.priority.workerJobPriority)

-- ==== batches

/-- The activities and their plans, beside the schedules. -/
structure Dispatchers where
  syncs : Syncs
  activities : Table activityOccurrences
  plans : Uuid → Option ActivityPlanStatus

/-- By priority, due time, creation and id. -/
def occurrenceBefore (a b : ActivityOccurrence) : Prop :=
  b.priority.workerJobPriority < a.priority.workerJobPriority
    ∨ (a.priority.workerJobPriority = b.priority.workerJobPriority ∧ (a.dueAt < b.dueAt
      ∨ (a.dueAt = b.dueAt ∧ (a.createdAt < b.createdAt
        ∨ (a.createdAt = b.createdAt ∧ a.id ≤ b.id)))))

instance : DecidableRel occurrenceBefore :=
  fun _ _ => inferInstanceAs (Decidable (_ ∨ _))

namespace Dispatchers

variable (lax : Json → Option Int) (draws : Uuid → Draws) (now : Time)

/-- `list_due_pending_for_materialization`: rows others hold are skipped. -/
def duePending (M : Dispatchers) (limit : Nat) (locked : Uuid → Bool) :
    List ActivityOccurrence :=
  ((M.activities.rows.filter fun a => decide (a.dueAt ≤ now)
    && decide (a.materializationStatus = .pending)
    && (M.plans a.planId).any (fun status => decide (status ≠ .paused))
    && !locked a.id).insertionSort occurrenceBefore).take limit

/-- `update_materialization`. -/
def updateMaterialization (M : Dispatchers) (a : ActivityOccurrence) :
    Except Failure Dispatchers := do
  let record ← orThrow (M.activities.get? a.id) .lookup
  require (record.materializationStatus = .pending)
    (.value "scheduled activity is no longer pending materialization")
  let activities ← updateRow M.activities { record with
    materializationStatus := a.materializationStatus
    commandId := a.commandId
    materializationAt := a.materializationAt
    materializationReason := a.materializationReason }
  return { M with activities }

/-- The Command of an activity: made, or found as expected. -/
def ensureCommand (M : Dispatchers) (a : ActivityOccurrence) (payload : Document) :
    Except Failure Dispatchers := do
  let (inserted, base) ← CommandRuntime.dispatch (draws a.id) now (activityCommandId a.id)
    (activityCorrelationId a.id) a.accountId a.activityTypeSnapshot payload
    a.priority.workerJobPriority M.syncs.base
  require (inserted = true ∨ (M.syncs.base.commands.get? (activityCommandId a.id)).any
      (matchesActivity a payload) = true)
    (.runtime "scheduled activity command identity conflicts with another command")
  return { M with syncs := { M.syncs with base } }

/-- One activity of a batch. -/
def materializeOne (M : Dispatchers) (a : ActivityOccurrence) : Except Failure Dispatchers :=
  match M.plans a.planId with
  | none => .error (.runtime "scheduled activity references missing plan")
  | some .paused => return M
  | some .disabled => M.updateMaterialization (a.markNonMaterializable "PLAN_DISABLED" now)
  | some .active =>
    match a.payload lax with
    | .error reason => M.updateMaterialization (a.markNonMaterializable reason now)
    | .ok payload => do
        let M ← M.ensureCommand draws now a payload
        M.updateMaterialization (a.markMaterialized (activityCommandId a.id) now)

/-- `materialize_due_account_activities`: one transaction. -/
def materializeDue (limit : Int) (locked : Uuid → Bool) (M : Dispatchers) :
    Except Failure Dispatchers := do
  require (1 ≤ limit ∧ limit ≤ 100)
    (.value "activity materialization limit must be between 1 and 100")
  (M.duePending now limit.toNat locked).foldlM (materializeOne lax draws now) M

end Dispatchers

-- ==== machine

/-- What happens to the dispatchers' tables. -/
inductive DispatcherEvent where
  | receive (d : Draws) (now : Time) (envelope : CommandEnvelope)
  /-- Whatever else happens to the Commands there are. -/
  | others (next : State)
  /-- An occurrence is generated. -/
  | generate (activity : ActivityOccurrence)
  | setPlan (id : Uuid) (status : ActivityPlanStatus)
  | addSchedule (schedule : ConversationSyncSchedule)
  | transitionSchedule (id : Uuid) (target : ConversationSyncScheduleStatus) (at_ : Time)
      (reason : String)
  | materializeDue (draws : Uuid → Draws) (now : Time) (limit : Int) (locked : Uuid → Bool)
  | dispatchDue (d : SyncDraws) (now : Time) (limit : Int) (locked : Uuid → Bool)

/-- No Command is added, and no finished one touched. -/
def State.OnlyMoves (s next : State) : Prop :=
  (∀ id, (next.commands.get? id).isSome = true → (s.commands.get? id).isSome = true)
    ∧ ∀ f : Command, f.status.terminal = true → s.commands.get? f.commandId = some f →
      next.commands.get? f.commandId = some f

namespace Dispatchers

variable (cfg : Settings) (lax : Json → Option Int) (strftime : Time → String)

/-- A new occurrence, PENDING. -/
def generate (M : Dispatchers) (a : ActivityOccurrence) : Except Failure Dispatchers := do
  let activities ← addRow M.activities { a with materializationStatus := .pending }
  return { M with activities }

/-- What an event commits. -/
def after (M : Dispatchers) : DispatcherEvent → Dispatchers
  | .receive d now envelope =>
    match CommandRuntime.receive cfg d now envelope M.syncs.base with
    | .ok (_, base) => { M with syncs := { M.syncs with base } }
    | .error _ => M
  | .others next => { M with syncs := { M.syncs with base := next } }
  | .generate activity => commit (M.generate activity) M
  | .setPlan id status => { M with plans := Function.update M.plans id (some status) }
  | .addSchedule schedule =>
    { M with syncs := M.syncs.after cfg strftime (.add schedule) }
  | .transitionSchedule id target at_ reason =>
    { M with syncs := M.syncs.after cfg strftime (.transition id target at_ reason) }
  | .materializeDue draws now limit locked =>
    commit (materializeDue lax draws now limit locked M) M
  | .dispatchDue d now limit locked =>
    { M with syncs := M.syncs.after cfg strftime (.dispatchDue d now limit locked) }

end Dispatchers

/-- The two dispatchers, with Commands received in between. -/
def dispatchers (cfg : Settings) (lax : Json → Option Int) (strftime : Time → String) :
    Machine Dispatchers DispatcherEvent where
  init M := ∃ surroundings,
    M = ⟨⟨.initial surroundings, .empty _, .empty _⟩, .empty _, fun _ => none⟩
  enabled M e := ∀ next, e = .others next → M.syncs.base.OnlyMoves next
  step := Dispatchers.after cfg lax strftime

-- ==== plans that change during a batch

/-- What happens to the activities of the plans. -/
inductive ActivityEvent where
  | generate (activity : ActivityOccurrence)
  | setPlan (id : Uuid) (status : ActivityPlanStatus)
  /-- Whatever else happens to the Commands. -/
  | others (next : State)
  /-- A batch; `seen` are the plans as the selection saw them, before it
  locked them. -/
  | materialize (seen : Uuid → Option ActivityPlanStatus) (draws : Uuid → Draws) (now : Time)
      (limit : Int) (locked : Uuid → Bool)

namespace Dispatchers

/-- `materialize_due_account_activities`, from the selection on. -/
def materializeSeen (lax : Json → Option Int) (seen : Uuid → Option ActivityPlanStatus)
    (draws : Uuid → Draws) (now : Time) (limit : Int) (locked : Uuid → Bool) (M : Dispatchers) :
    Except Failure Dispatchers := do
  require (1 ≤ limit ∧ limit ≤ 100)
    (.value "activity materialization limit must be between 1 and 100")
  ({ M with plans := seen }.duePending now limit.toNat locked).foldlM
    (materializeOne lax draws now) M

/-- What an event commits. -/
def afterActivity (lax : Json → Option Int) (M : Dispatchers) : ActivityEvent → Dispatchers
  | .generate activity => commit (M.generate activity) M
  | .setPlan id status => { M with plans := Function.update M.plans id (some status) }
  | .others next => { M with syncs := { M.syncs with base := next } }
  | .materialize seen draws now limit locked =>
    commit (materializeSeen lax seen draws now limit locked M) M

end Dispatchers

end ThreadsPlatform
