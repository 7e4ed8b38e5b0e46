/-
A drain lasts until it is completed or aborted, if no message of the
worker asks for an upgrade meanwhile.

Seven operations write a worker's status. Five of them look at it first:
a drain begins from ONLINE or DEGRADED, ends from DRAINING, and presence
lapses from ONLINE or DEGRADED. `hello` and `heartbeat` leave DRAINING
and DISABLED alone as well, but only once the protocol version has been
found supported (`statusAfter`). An unsupported version makes the row
UPGRADE_REQUIRED whatever it was, and the next message with a supported
one ONLINE: the drain, or the operator's DISABLED, is forgotten.

`Compatible` rules that out, and is all it takes: one event at a time,
a pinned status stays (`pinned_step`).
-/
import ThreadsPlatform.Application.WorkerControl
import ThreadsPlatform.Application.Runs
import ThreadsPlatform.Effects.Refinement

namespace ThreadsPlatform

open Relational Table WorkerControlService

variable {cfg : ControlSettings} {C C' : Control} {w v : Uuid} {node worker : WorkerNode}
  {sessions : BrowserSessions} {status : WorkerStatus} {now : Time}

-- ==== what a write changes

theorem worker?_id {s : State} (h : s.worker? w = some node) : node.workerId = w := by
  unfold State.worker? at h
  simpa using List.find?_some h

open Control

/-- A written row is what its worker reads; the others read as before. -/
theorem update_worker (h : C.update worker sessions = .ok C') (v : Uuid) :
    C'.state.worker? v
      = (C.state.worker? v).map fun row => if v = worker.workerId then worker else row := by
  simp only [Control.update, steps_ok] at h
  obtain ⟨-, rfl⟩ := h
  unfold State.worker?
  dsimp only
  have hkey : ((fun row : WorkerNode => decide (row.workerId = v)) ∘ fun row =>
      if row.workerId = worker.workerId then worker else row)
      = fun row => decide (row.workerId = v) := by
    funext row
    simp only [Function.comp_apply]
    split
    case isTrue hrow => rw [← hrow]
    · rfl
  rw [List.find?_map, hkey]
  cases hrow : C.state.surroundings.workers.find? fun row => decide (row.workerId = v) with
  | none => rfl
  | some row =>
    have hid : row.workerId = v := by simpa using List.find?_some hrow
    simp only [Option.map_some, hid]

theorem update_status (h : C.update worker sessions = .ok C')
    (hstored : C.state.worker? worker.workerId = some node) (v : Uuid) :
    C'.status? v = if v = worker.workerId then some worker.status else C.status? v := by
  unfold status?
  rw [update_worker h v]
  split
  case isTrue hv => subst hv; rw [hstored]; rfl
  · cases C.state.worker? v <;> rfl

-- ==== the operations

/-- A message moves the status of its own worker, as `statusAfter` has
it. -/
theorem hello_status {message : Hello} {answer : WorkerPresence}
    (h : hello cfg now message C = .ok (answer, C')) :
    C'.status? w = if w = message.workerId then (C.status? w).map
      (statusAfter (isWorkerProtocolSupported (some message.protocolVersion)
        (some message.capabilitiesSchemaVersion)) message.healthy) else C.status? w := by
  simp only [hello, requireActiveAccessToken, steps_ok] at h
  obtain ⟨-, -, -, worker, hworker, -, -, sessions, -, C1, hC1, -, rfl⟩ := h
  have hid := worker?_id hworker
  have hstatus := update_status hC1 (hid.symm ▸ hworker) w
  have hkept : (if message.capabilitiesSchemaVersion = 1 then
      C1.replaceCapabilities message.workerId message.capabilities else C1).status? w
        = C1.status? w := by
    split <;> rfl
  rw [hkept, hstatus]
  dsimp only
  rw [hid]
  split
  case isTrue hw => subst hw; rw [status?, hworker]; rfl
  · rfl

/-- A heartbeat judges what the worker last said in a `hello`. -/
theorem heartbeat_status {message : Heartbeat} {answer : WorkerPresence}
    (h : heartbeat cfg now message C = .ok (answer, C')) :
    ∃ node, C.state.worker? message.workerId = some node
      ∧ C'.status? w = if w = message.workerId then (C.status? w).map
        (statusAfter (isWorkerProtocolSupported node.protocolVersion
          node.capabilitiesSchemaVersion) message.healthy) else C.status? w := by
  simp only [heartbeat, requireActiveAccessToken, steps_ok] at h
  obtain ⟨-, worker, hworker, -, sessions, -, C1, hC1, -, rfl⟩ := h
  have hid := worker?_id hworker
  refine ⟨worker, hworker, ?_⟩
  rw [update_status hC1 (hid.symm ▸ hworker) w]
  dsimp only
  rw [hid]
  split
  case isTrue hw => subst hw; rw [status?, hworker]; rfl
  · rfl

theorem requestDrain_status {reason : String} {begun : Bool}
    (h : requestDrain w reason C = .ok (begun, C')) :
    C'.status? v = if v = w then some .draining else C.status? v := by
  simp only [requestDrain, steps_ok] at h
  obtain ⟨-, worker, hworker, h⟩ := h
  have hid := worker?_id hworker
  split at h
  case isTrue hdraining =>
    simp only [steps_ok] at h
    obtain ⟨-, rfl⟩ := h
    split
    case isTrue hv => subst hv; rw [status?, hworker, Option.map_some, hdraining]
    · rfl
  · simp only [steps_ok] at h
    obtain ⟨-, C1, hC1, -, rfl⟩ := h
    rw [update_status hC1 (hid.symm ▸ hworker) v]
    dsimp only
    rw [hid]

theorem requestDrain_disabled {reason : String} {r : Bool × Control}
    (hw : C.status? w = some .disabled) : requestDrain w reason C ≠ .ok r := by
  intro h
  simp only [requestDrain, steps_ok] at h
  obtain ⟨-, worker, hworker, h⟩ := h
  rw [status?, hworker, Option.map_some, Option.some.injEq] at hw
  rw [if_neg (by rw [hw]; decide)] at h
  simp only [steps_ok, hw] at h
  exact h.1.elim (fun h => by cases h) fun h => by cases h

/-- A drain is completed only when nothing is left to do. -/
theorem completeDrain_quiescent (h : completeDrain w C = .ok C') :
    C.status? w = some .draining ∧ (C.sessions w).active = 0 ∧ C.runningCount w = 0 := by
  simp only [completeDrain, steps_ok] at h
  obtain ⟨worker, hworker, hdraining, hquiet, -⟩ := h
  refine ⟨?_, hquiet⟩
  rw [status?, hworker, Option.map_some, hdraining]

/-- Both ends of a drain find it DRAINING, and touch one row. -/
theorem drainEnd_status (h : completeDrain v C = .ok C' ∨ abortDrain v C = .ok C')
    (hw : w ≠ v ∨ C.status? w ≠ some .draining) : C'.status? w = C.status? w := by
  have hwritten : ∃ worker, C.state.worker? v = some worker ∧ worker.status = .draining
      ∧ C.update { worker with status := .offline } (C.sessions v) = .ok C' := by
    rcases h with h | h
    · simp only [completeDrain, steps_ok] at h
      obtain ⟨worker, hworker, hdraining, -, h⟩ := h
      exact ⟨worker, hworker, hdraining, h⟩
    · simp only [abortDrain, steps_ok] at h
      exact h
  obtain ⟨worker, hworker, hdraining, hupdate⟩ := hwritten
  have hid := worker?_id hworker
  rw [update_status hupdate (hid.symm ▸ hworker) w]
  dsimp only
  rw [hid, if_neg]
  rintro rfl
  refine hw.elim (fun hne => hne rfl) fun hother => hother ?_
  rw [status?, hworker, Option.map_some, hdraining]

/-- Presence lapses for workers that are taken for present. -/
theorem expireOne_status {snapshot : WorkerNode} (h : expireOne now C snapshot = .ok C')
    (hw : C.status? w = some status) (hpinned : status ≠ .online ∧ status ≠ .degraded) :
    C'.status? w = some status := by
  unfold expireOne at h
  split at h
  · rw [pure_eq_ok] at h
    exact h ▸ hw
  case h_2 worker hworker =>
    split at h
    case isTrue hlapsed =>
      have hid := worker?_id hworker
      rw [update_status h (hid.symm ▸ hworker) w]
      dsimp only
      rw [if_neg, hw]
      rintro rfl
      rw [hid, status?, hworker, Option.map_some] at hw
      cases hw
      simp only [presenceLapsed, checks_hold, Bool.or_eq_true] at hlapsed
      exact hlapsed.1.elim hpinned.1 hpinned.2
    · rw [pure_eq_ok] at h
      exact h ▸ hw

theorem expirePresence_status {limit : Nat} {locked : Uuid → Bool}
    (h : expirePresence now limit locked C = .ok C') (hw : C.status? w = some status)
    (hpinned : status ≠ .online ∧ status ≠ .degraded) : C'.status? w = some status := by
  simp only [expirePresence, steps_ok] at h
  exact foldlM_invariant (fun _ C => C.status? w = some status)
    (fun _ _ _ _ hC hone => expireOne_status hone hC hpinned) hw h.2

-- ==== pinned statuses

/-- A message of the worker that is accepted is of a protocol the platform
supports: the one a `hello` brings, or the stored one a `heartbeat` relies
on. -/
def Compatible (cfg : ControlSettings) (w : Uuid) (C : Control) : ControlEvent → Prop
  | .hello now message => message.workerId = w → ∀ r, hello cfg now message C = .ok r →
      isWorkerProtocolSupported (some message.protocolVersion)
        (some message.capabilitiesSchemaVersion) = true
  | .heartbeat now message => message.workerId = w → ∀ r, heartbeat cfg now message C = .ok r →
      ∀ node, C.state.worker? w = some node →
        isWorkerProtocolSupported node.protocolVersion node.capabilitiesSchemaVersion = true
  | _ => True

/-- The two statuses a supported message leaves alone. -/
def WorkerStatus.pinned (status : WorkerStatus) : Prop :=
  status = .draining ∨ status = .disabled

/-- A compatible message leaves DRAINING and DISABLED alone. -/
theorem statusAfter_pinned {healthy : Bool} (h : status.pinned) :
    statusAfter true healthy status = status := by
  rcases h with rfl | rfl <;> rfl

theorem WorkerStatus.pinned.absent (h : status.pinned) :
    status ≠ .online ∧ status ≠ .degraded := by
  rcases h with rfl | rfl <;> decide

/-- A pinned status survives every compatible event that is not the end
of this worker's drain. -/
theorem pinned_step {e : ControlEvent} (hpinned : status.pinned)
    (hw : C.status? w = some status) (hen : (workerControl cfg).enabled C e)
    (hcompatible : Compatible cfg w C e)
    (hend : status = .draining → e ≠ .completeDrain w ∧ e ≠ .abortDrain w) :
    ((workerControl cfg).step C e).status? w = some status := by
  show (C.after cfg e).status? w = some status
  have hdrain : ∀ v, (status = .draining → v ≠ w) → w ≠ v ∨ C.status? w ≠ some .draining := by
    intro v hv
    rcases hpinned with rfl | rfl
    · exact .inl (hv rfl).symm
    · exact .inr (by rw [hw]; decide)
  cases e with
  | hello t message =>
    simp only [after]
    cases h : hello cfg t message C with
    | error err => exact hw
    | ok r =>
      show r.2.status? w = some status
      rw [hello_status h, hw]
      split
      case isTrue hid =>
        rw [hcompatible hid.symm r h, Option.map_some, statusAfter_pinned hpinned]
      · rfl
  | heartbeat t message =>
    simp only [after]
    cases h : heartbeat cfg t message C with
    | error err => exact hw
    | ok r =>
      obtain ⟨node, hnode, hstatus⟩ := heartbeat_status (w := w) h
      show r.2.status? w = some status
      rw [hstatus, hw]
      split
      case isTrue hid =>
        rw [hcompatible hid.symm r h node (hid ▸ hnode), Option.map_some,
          statusAfter_pinned hpinned]
      · rfl
  | requestDrain v reason =>
    simp only [after]
    cases h : requestDrain v reason C with
    | error err => exact hw
    | ok r =>
      show r.2.status? w = some status
      rw [requestDrain_status h, hw]
      split
      case isTrue hid =>
        -- a DISABLED worker is refused a drain
        rcases hpinned with rfl | rfl
        · rfl
        · subst hid
          exact absurd h (requestDrain_disabled hw)
      · rfl
  | completeDrain v =>
    simp only [after]
    cases h : completeDrain v C with
    | error err => exact hw
    | ok C1 =>
      refine (drainEnd_status (.inl h) (hdrain v fun hst hv => ?_)).trans hw
      exact (hend hst).1 (hv ▸ rfl)
  | abortDrain v =>
    simp only [after]
    cases h : abortDrain v C with
    | error err => exact hw
    | ok C1 =>
      refine (drainEnd_status (.inr h) (hdrain v fun hst hv => ?_)).trans hw
      exact (hend hst).2 (hv ▸ rfl)
  | expirePresence t limit locked =>
    simp only [after]
    cases h : expirePresence t limit locked C with
    | error err => exact hw
    | ok C1 => exact expirePresence_status h hw hpinned.absent
  | call call =>
    obtain ⟨hen, hworkers⟩ := hen call rfl
    have hrows : ((machine cfg.platform).step C.state call).surroundings.workers
        = C.state.surroundings.workers := by
      cases hop : call.op with
      | surroundings next =>
        have hstep : (machine cfg.platform).step C.state call
            = { C.state with surroundings := next } := by
          show commit (call.outcome cfg.platform C.state) C.state = _
          unfold Call.outcome
          rw [hop]
          rfl
        rw [hstep]
        exact hworkers next hop
      | _ => rw [step_surroundings hen (fun next hnext => by rw [hop] at hnext; cases hnext)]
    show (((machine cfg.platform).step C.state call).worker? w).map WorkerNode.status = some status
    unfold State.worker?
    rw [hrows]
    exact hw

open WorkerJobService

theorem claimNext_pinned {d : Draws} (hpinned : status.pinned) (hw : C.status? w = some status) :
    claimNext cfg.platform d now w C.state = .error (.control .workerNotEligible) := by
  unfold status? at hw
  cases hworker : C.state.worker? w with
  | none => rw [hworker] at hw; cases hw
  | some node =>
    rw [hworker, Option.map_some, Option.some.injEq] at hw
    have hnot : eligible now node = false := by
      simp [eligible, WorkerNode.present, hw, hpinned.absent.1]
    simp [claimNext, hworker, hnot, orThrow, require, bind, Except.bind]

-- ==== the guarantee

/-- From a drain that was asked for until it is completed or aborted the
worker is DRAINING and claims nothing, if those of its messages that are
accepted are compatible; a drain is completed only without sessions and
RUNNING jobs; and under compatible messages a DISABLED worker stays
DISABLED and claims nothing. -/
theorem draining_durable (cfg : ControlSettings) (w : Uuid) :
    (∀ {C C₁ C' reason begun}, requestDrain w reason C = .ok (begun, C₁) →
      ((workerControl cfg).startingAt C₁).Reachable (fun C e => Compatible cfg w C e
        ∧ e ≠ .completeDrain w ∧ e ≠ .abortDrain w) C' →
      C'.status? w = some .draining
        ∧ ∀ d now, WorkerJobService.claimNext cfg.platform d now w C'.state
          = .error (.control .workerNotEligible))
    ∧ (∀ {C C'}, completeDrain w C = .ok C' →
      (C.sessions w).active = 0 ∧ C.runningCount w = 0)
    ∧ ∀ {C₁ C'}, C₁.status? w = some .disabled →
      ((workerControl cfg).startingAt C₁).Reachable (Compatible cfg w) C' →
      C'.status? w = some .disabled
        ∧ ∀ d now, WorkerJobService.claimNext cfg.platform d now w C'.state
          = .error (.control .workerNotEligible) := by
  refine ⟨?_, fun h => (completeDrain_quiescent h).2, ?_⟩
  · intro C C₁ C' reason begun hdrain hrun
    have hpinned : WorkerStatus.draining.pinned := .inl rfl
    have hstart : C₁.status? w = some .draining := by
      rw [requestDrain_status hdrain, if_pos rfl]
    have hstatus : C'.status? w = some .draining := by
      refine Machine.Reachable.after (I := fun C => C.status? w = some .draining) hstart ?_ hrun
      exact fun C e hC hen hallow => pinned_step hpinned hC hen hallow.1 fun _ => hallow.2
    exact ⟨hstatus, fun d now => claimNext_pinned hpinned hstatus⟩
  · intro C₁ C' hstart hrun
    have hpinned : WorkerStatus.disabled.pinned := .inr rfl
    have hstatus : C'.status? w = some .disabled := by
      refine Machine.Reachable.after (I := fun C => C.status? w = some .disabled) hstart ?_ hrun
      exact fun C e hC hen hallow =>
        pinned_step hpinned hC hen hallow fun hdraining => by cases hdraining
    exact ⟨hstatus, fun d now => claimNext_pinned hpinned hstatus⟩

-- ---- a forgotten drain

namespace Sample

/-- Presence of ninety units. -/
def controlSettings : ControlSettings where
  platform := settings
  presenceTtl := 90

/-- The sample platform, its worker without a browser session. -/
def control : Control where
  state := .initial world
  sessions := fun _ => ⟨1, 0⟩

/-- A `hello` of worker 2. -/
def hello (protocolVersion : Int) : Hello where
  workerId := 2
  protocolVersion := protocolVersion
  capabilitiesSchemaVersion := 1
  capabilities := [⟨2, "threads.browser.feed.browse", 1⟩]
  maxConcurrentJobs := none
  maxBrowserSessions := none
  activeBrowserSessions := none
  healthy := true
  accessToken := none

/-- A job waits for worker 2 when its drain is asked for. -/
def drainRun : List ControlEvent :=
  [.call (call 1 1 (.receive (browse "first" 0 none))), .call (call 2 2 (.processNext [])),
    .requestDrain 2 "UPDATE"]

/-- Two messages of the worker, of protocol 3 and of protocol 1. -/
def upgradeMessages : List ControlEvent := [.hello 3 (hello 3), .hello 4 (hello 1)]

/-- The state after events of worker control. -/
def controlled (events : List ControlEvent) : Control :=
  (workerControl controlSettings).runs events control

end Sample

open Sample in
/-- A drain forgotten without being completed or aborted: a `hello` of
an unsupported protocol and one of a supported protocol make the
DRAINING worker ONLINE, and its next `claim_next` takes the job. -/
theorem upgrade_message_ends_drain : (controlled drainRun).status? 2 = some .draining
    ∧ (controlled (drainRun ++ upgradeMessages)).status? 2 = some .online
    ∧ (∀ e ∈ upgradeMessages, ¬ e = .completeDrain 2 ∧ ¬ e = .abortDrain 2)
    ∧ (WorkerJobService.claimNext settings (draws 5) 5 2
        (controlled (drainRun ++ upgradeMessages)).state).toOption.any
      (fun r => r.1.isSome) = true := by
  refine ⟨by decide +kernel, by decide +kernel, ?_, by decide +kernel⟩
  intro e he
  simp only [upgradeMessages, List.mem_cons, List.not_mem_nil, or_false] at he
  rcases he with rfl | rfl <;> exact ⟨(fun h => by cases h), fun h => by cases h⟩

open Sample in
/-- With a message of protocol 1 the sample drain goes on. -/
theorem draining_durable_hello :
    ∃ begun C₁, requestDrain 2 "UPDATE" control = .ok (begun, C₁)
      ∧ ((workerControl controlSettings).step C₁ (.hello 3 (hello 1))).status? 2
        = some .draining := by
  have hbegun : (requestDrain 2 "UPDATE" control).toOption.any (fun _ => true) = true := by decide
  obtain ⟨⟨begun, C₁⟩, h, -⟩ := ok_of_any hbegun
  refine ⟨begun, C₁, h, ?_⟩
  have hfirst : ((workerControl controlSettings).startingAt C₁).Reachable
      (fun C e => Compatible controlSettings 2 C e ∧ e ≠ .completeDrain 2 ∧ e ≠ .abortDrain 2)
      C₁ := .init rfl
  have hcompatible : Compatible controlSettings 2 C₁ (.hello 3 (hello 1)) :=
    fun _ _ _ => by decide
  have hrun := hfirst.step (i := .hello 3 (hello 1)) (fun call hcall => by cases hcall)
    ⟨hcompatible, (fun he => by cases he), fun he => by cases he⟩
  exact ((draining_durable controlSettings 2).1 h hrun).1

end ThreadsPlatform
