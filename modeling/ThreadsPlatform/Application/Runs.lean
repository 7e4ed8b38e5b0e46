/-
Runs of the machine, evaluated.

`run` folds calls over a state; `admits` checks, call by call, what the
machine and its clock ask of a run. An admitted run from empty tables is
a reachable state, so a behaviour of the platform can be exhibited by
computing it.

`Sample` is a platform small enough to compute with: one browser-only
account, assigned to one worker.
-/
import ThreadsPlatform.Application.System

namespace ThreadsPlatform

open Relational

variable {calls : List Call} {cfg : Settings} {s : State} {t : Time}

/-- The state after the calls. -/
def run (cfg : Settings) (calls : List Call) (s : State) : State :=
  calls.foldl (machine cfg).step s

/-- The clock after the calls. -/
def clock (calls : List Call) (t : Time) : Time :=
  calls.foldl (fun _ call => call.now) t

/-- The clock never goes back, and executors present claims they were
given. -/
def admits (cfg : Settings) : Time → State → List Call → Bool
  | _, _, [] => true
  | t, s, call :: calls => decide (t ≤ call.now)
      && call.op.claim?.all (fun claim => s.claims.contains claim)
      && admits cfg call.now ((machine cfg).step s call) calls

theorem admits_cons {call : Call} (h : admits cfg t s (call :: calls) = true) :
    t ≤ call.now ∧ (machine cfg).enabled s call
      ∧ admits cfg call.now ((machine cfg).step s call) calls = true := by
  unfold admits at h
  simp only [checks_hold] at h
  obtain ⟨⟨ht, hclaim⟩, hrest⟩ := h
  refine ⟨ht, ?_, hrest⟩
  intro claim hsome
  rw [hsome] at hclaim
  simpa using hclaim

/-- An admitted run reaches its last state, at its last time. -/
theorem ReachableAt.run (hs : ReachableAt cfg t s) (h : admits cfg t s calls = true) :
    ReachableAt cfg (clock calls t) (run cfg calls s) := by
  induction calls generalizing t s with
  | nil => exact hs
  | cons call calls ih =>
    obtain ⟨ht, hen, hrest⟩ := admits_cons h
    exact ih (.step hs ht hen) hrest

/-- An admitted run whose calls meet a side condition in every state. -/
theorem Allowed.run {allow : State → Call → Prop} (hs : (machine cfg).Reachable allow s)
    (h : admits cfg t s calls = true) (hallow : ∀ call ∈ calls, ∀ s, allow s call) :
    (machine cfg).Reachable allow (ThreadsPlatform.run cfg calls s) := by
  induction calls generalizing t s with
  | nil => exact hs
  | cons call calls ih =>
    obtain ⟨-, hen, hrest⟩ := admits_cons h
    exact ih (.step hs hen (hallow call (.head _) s)) hrest fun c hc => hallow c (.tail _ hc)

/-- The calls a run has made, each with the state it was made in, newest
first. -/
def pastOf (cfg : Settings) : List (State × Call) → State → List Call → List (State × Call)
  | past, _, [] => past
  | past, s, call :: calls => pastOf cfg ((s, call) :: past) ((machine cfg).step s call) calls

theorem History.run {past : List (State × Call)} (hs : (machine cfg).History past s)
    (h : admits cfg t s calls = true) :
    (machine cfg).History (pastOf cfg past s calls) (ThreadsPlatform.run cfg calls s) := by
  induction calls generalizing past t s with
  | nil => exact hs
  | cons call calls ih =>
    obtain ⟨-, hen, hrest⟩ := admits_cons h
    exact ih (.step hs hen) hrest

-- ==== a sample

namespace Sample

/-- Leases of a minute, retries after five seconds. -/
def settings : Settings where
  urlsplit := fun _ => .plain
  workerPolicies := businessCapabilities
  leaseDuration := 60
  retryDelay := 5
  resultDeliveryLifetime := 1000
  workerCrmDestination := "crm"
  policies := businessCapabilities
  retryPolicy :=
    { maxAttempts := 3
      baseDelay := 1
      maxDelay := 10
      jitterRatio := 0
      maxAttempts_pos := by decide
      baseDelay_pos := by decide
      baseDelay_le := by decide
      jitterRatio_nonneg := by decide
      jitterRatio_le_one := by decide }
  maxCommandLifetime := 100000
  deliveryLifetime := 1000
  executionLeaseDuration := 30
  crmDestination := "crm"
  workerJobService := true
  leaseDuration_pos := by decide
  retryDelay_nonneg := by decide
  maxCommandLifetime_pos := by decide
  deliveryLifetime_pos := by decide
  executionLeaseDuration_pos := by decide

/-- The identifiers of the `n`th call: a block of their own. -/
def draws (n : Nat) : Draws where
  jobId := .ofNat _ (100 * n)
  leaseToken := .ofNat _ (100 * n + 1)
  attemptId := .ofNat _ (100 * n + 2)
  cancelRequestId := fun _ => .ofNat _ (100 * n + 3)
  preemptionId := fun _ => .ofNat _ (100 * n + 4)
  interventionId := fun _ => .ofNat _ (100 * n + 5)
  commandRowId := .ofNat _ (100 * n + 6)
  routeDecisionId := .ofNat _ (100 * n + 7)
  deferredRouteDecisionId := .ofNat _ (100 * n + 8)
  eventId := fun _ => .ofNat _ (100 * n + 9)
  deliveryId := fun _ => .ofNat _ (100 * n + 10)
  rowOrder := fun _ => 0

/-- The Command of activity 7. -/
def activityCommand : String := "activity:" ++ Uuid.str 7

/-- Account 1, worker 2 and what the worker can do, and the LOW priority
browsing activity 7. -/
def world : Surroundings where
  accounts := [{ id := 1, status := .active, executionMode := .browserOnly }]
  workers :=
    [{ workerId := 2
       protocolVersion := some 1
       capabilitiesSchemaVersion := some 1
       status := .online
       maxConcurrentJobs := 4
       presenceExpiresAt := some 100000 }]
  capabilities := ["threads.browser.feed.browse", "threads.browser.thread.open",
    "threads.publish_text"].map fun name => ⟨2, name, 1⟩
  assignments := [⟨1, 2⟩]
  activities :=
    [{ id := 7
       materialized := true
       commandId := some activityCommand
       accountId := 1
       activityTypeSnapshot := "threads.browser.feed.browse"
       workerJobPriority := -100 }]
  handlers := []

/-- The same account in API mode, with a handler that publishes. -/
def apiWorld : Surroundings := { world with
    accounts := [{ id := 1, status := .active, executionMode := .apiOnly }]
    handlers := ["threads.publish_text"] }

/-- The `n`th call of a sample run. -/
def call (n : Nat) (now : Time) (op : Op) : Call := ⟨now, draws n, op⟩

/-- A Command that browses the feed of account 1. -/
def browse (commandId : String) (createdAt : Time) (deadlineAt : Option Time) :
    CommandEnvelope where
  protocolVersion := 1
  commandId := commandId
  correlationId := "correlation"
  accountId := 1
  createdAt := createdAt
  deadlineAt := deadlineAt
  commandType := "threads.browser.feed.browse"
  payload := []
  typedPayload := some [("max_items", .int 3)]

/-- A Command that publishes a text for account 1: a mutation. -/
def publish (commandId : String) (createdAt : Time) (deadlineAt : Option Time) :
    CommandEnvelope :=
  { browse commandId createdAt deadlineAt with
    commandType := "threads.publish_text"
    typedPayload := some [("text", .str "text")] }

/-- A browse Command of account 1, dispatched by a scheduler. -/
def dispatch (commandId : String) (priority : Int) : Op :=
  .dispatch commandId "correlation" 1 "threads.browser.feed.browse" [] priority

/-- The state after the calls, from empty tables. -/
def after (calls : List Call) : State := run settings calls (.initial world)

/-- The error a call would raise after the calls. -/
def raised (calls : List Call) (call : Call) : Option Failure :=
  match call.outcome settings (after calls) with
  | .ok _ => none
  | .error e => some e

/-- The calls of a sample run are admitted. -/
def admitted (calls : List Call) : Bool := admits settings 0 (.initial world) calls

theorem reachableAt (h : admitted calls = true) :
    ReachableAt settings (clock calls 0) (after calls) :=
  ReachableAt.run (.init 0 ⟨world, rfl⟩) h

theorem reachable (h : admitted calls = true) : Reachable settings (after calls) :=
  (reachableAt h).untimed

/-- The past of a sample run. -/
def past (calls : List Call) : List (State × Call) := pastOf settings [] (.initial world) calls

theorem history (h : admitted calls = true) :
    (machine settings).History (past calls) (after calls) :=
  History.run (.init ⟨world, rfl⟩) h

end Sample

end ThreadsPlatform
