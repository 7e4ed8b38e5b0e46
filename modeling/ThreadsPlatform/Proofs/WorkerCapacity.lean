/-
A worker never holds more live jobs than it may.

# The machine

`claim_next` reads the number of live jobs once, with its candidates,
and claims afterwards. Between the two other transactions commit; only
claims of the same worker do not, because `get_for_claim` keeps the
worker's row locked until the transaction ends. `claimers` is the two
services with `claim_next` in these two halves: `select` takes the lock
and reads, `finish` goes through the candidates as the state then is,
`crash` gives the lock back and nothing else.

# The argument

A lease that has lapsed is never live again but through a claim: the
owner of a job renews it only while its lease is live. So, counted at
the time the reading was made for, the live jobs of the worker only
become fewer until its own claim, which adds one to a number below the
maximum.
-/
import Mathlib.Data.List.Perm.Subperm
import ThreadsPlatform.Proofs.StaleClaim

namespace ThreadsPlatform

open Relational Table WorkerJobService

variable {cfg : Settings} {call : Call} {s s' s₀ : State} {j : WorkerJob} {w : Uuid} {t T : Time}

-- ==== live jobs

/-- The job runs under a lease of the worker that is live at `t`. -/
def WorkerJob.liveFor (j : WorkerJob) (w : Uuid) (t : Time) : Bool :=
  decide (j.leaseWorkerId = some w) && decide (j.status = .running)
    && j.leaseExpiresAt.any fun e => decide (t < e)

/-- The live jobs of a worker, by their ids. -/
def State.liveIds (s : State) (w : Uuid) (t : Time) : List Uuid :=
  (s.jobs.rows.filter (·.liveFor w t)).map WorkerJob.id

open State

theorem State.activeCount_eq (s : State) (w : Uuid) (t : Time) :
    s.activeCount w t = (s.liveIds w t).length := by
  rw [liveIds, List.length_map]
  rfl

theorem State.liveIds_nodup (s : State) (w : Uuid) (t : Time) : (s.liveIds w t).Nodup :=
  s.jobs.keysNodup.sublist (List.filter_sublist.map _)

theorem State.mem_liveIds {id : Uuid} :
    id ∈ s.liveIds w t ↔ ∃ j, s.jobs.get? id = some j ∧ j.liveFor w t = true := by
  simp only [liveIds, List.mem_map, List.mem_filter]
  constructor
  · rintro ⟨j, ⟨hj, hlive⟩, rfl⟩
    exact ⟨j, mem_rows_iff.mp hj, hlive⟩
  · rintro ⟨j, hj, hlive⟩
    exact ⟨j, ⟨mem_of_get? hj, hlive⟩, key_of_get? hj⟩

theorem activeCount_le {ids : List Uuid} (h : ∀ id ∈ s.liveIds w t, id ∈ ids) :
    s.activeCount w t ≤ ids.length := by
  rw [activeCount_eq, Int.ofNat_le]
  exact (List.subperm_of_subset (s.liveIds_nodup w t) h).length_le

open WorkerJob

theorem liveFor_mono (ht : T ≤ t) (h : j.liveFor w t = true) : j.liveFor w T = true := by
  simp only [liveFor, checks_hold, Option.any_eq_true] at h ⊢
  obtain ⟨howner, e, he, hlive⟩ := h
  exact ⟨howner, e, he, lt_of_le_of_lt ht hlive⟩

theorem activeCount_anti (ht : T ≤ t) : s.activeCount w t ≤ s.activeCount w T := by
  rw [activeCount_eq s w T]
  refine activeCount_le fun id hid => ?_
  obtain ⟨j, hj, hlive⟩ := mem_liveIds.mp hid
  exact mem_liveIds.mpr ⟨j, hj, liveFor_mono ht hlive⟩

-- ==== what a transaction does

/-- Every job that is live at `T` was. -/
def LivesShrink (w : Uuid) (T : Time) (s s' : State) : Prop :=
  ∀ id ∈ s'.liveIds w T, id ∈ s.liveIds w T

theorem LivesShrink.of_jobs (h : s'.jobs = s.jobs) : LivesShrink w T s s' := by
  intro id hid
  rw [mem_liveIds] at hid ⊢
  rwa [h] at hid

theorem LivesShrink.of_put (hput : Put s.jobs j s'.jobs)
    (hlive : j.liveFor w T = true → j.id ∈ s.liveIds w T) : LivesShrink w T s s' := by
  intro id hid
  obtain ⟨j2, hj2, hlive2⟩ := mem_liveIds.mp hid
  rcases hput.cases hj2 with ⟨hid, rfl⟩ | ⟨-, hold⟩
  · exact hid ▸ hlive hlive2
  · exact mem_liveIds.mpr ⟨j2, hold, hlive2⟩

/-- At or after `T`, no transaction but a claim makes a job live. -/
theorem effect_lives (hT : T ≤ call.now) (hop : ∀ w, call.op ≠ .claimNext w)
    (he : Effect cfg call s₀ s s') : LivesShrink w T s s' := by
  cases he with
  | jobAdded hadded =>
    refine .of_put hadded.put fun hlive => ?_
    simp only [liveFor, hadded.queued] at hlive
    simp at hlive
  | jobClaimed hclaimed => exact absurd hclaimed.op (hop _)
  | jobTouched htouched =>
    -- the owner held a lease that was live when it renewed
    refine .of_put htouched.jobs fun hlive => ?_
    obtain ⟨hrunning, howner, -, e, hexpiry, hlater⟩ := ownsLease_iff.mp htouched.owned
    simp only [liveFor, checks_hold] at hlive
    have hw := hlive.1.1
    rw [htouched.leaseWorkerId] at hw
    rw [htouched.same.id]
    refine mem_liveIds.mpr ⟨_, htouched.stored, ?_⟩
    simp only [liveFor, checks_hold, Option.any_eq_true]
    exact ⟨⟨hw, hrunning⟩, e, hexpiry, lt_of_le_of_lt hT hlater⟩
  | jobMoved hmoved =>
    refine .of_put hmoved.jobs fun hlive => ?_
    simp only [liveFor, hmoved.leaves.leaseWorkerId] at hlive
    simp at hlive
  | _ => exact .of_jobs rfl

/-- The one job a claim may write. -/
def ClaimsOne (w : Uuid) (now expiry : Time) (token : Uuid) (s s' : State) : Prop :=
  ∃ (j : WorkerJob) (g : Option Int), Put s.jobs (j.claimed w now expiry token g) s'.jobs

section Claim

variable {d : Draws} {now : Time} {worker : WorkerNode} {answer : Option JobAnswer}
  {candidates : List WorkerJob}

theorem claimStored_jobs {g : Option Int}
    (h : claimStored cfg d now worker s j g = .ok (answer, s')) :
    (answer = none ∧ s'.jobs = s.jobs) ∨ (answer ≠ none
      ∧ ClaimsOne worker.workerId now (now + cfg.leaseDuration) d.leaseToken s s') := by
  simp only [claimStored, bind_eq_ok] at h
  obtain ⟨⟨claimed, s1⟩, hclaim, h⟩ := h
  rcases claimJob_ok hclaim with ⟨rfl, rfl⟩ | ⟨j1, J, A, -, rfl, -, rfl, hJ, -⟩
  · simp only [steps_ok] at h
    obtain ⟨s2, h2, rfl, rfl⟩ := h
    obtain ⟨L, rfl, -⟩ := releaseAccountCoordination_ok h2
    exact .inl ⟨rfl, rfl⟩
  · simp only [steps_ok] at h
    obtain ⟨a, -, A', -, ⟨request, s2⟩, hrequest, rfl, rfl⟩ := h
    let call : Call := ⟨now, d, .claimNext worker.workerId⟩
    have hrequested : Effects cfg call s _ s2 ∧ OnlyRequests _ _ s2 :=
      requestCancelForWaitingPreemption_effects hJ.get?_self hrequest
    have honly := hrequested.2
    exact .inr ⟨Option.some_ne_none _, j1, g, honly.jobs ▸ hJ⟩

theorem claimCandidate_jobs (h : claimCandidate cfg d now worker s j = .ok (answer, s')) :
    (answer = none ∧ s'.jobs = s.jobs) ∨ (answer ≠ none
      ∧ ClaimsOne worker.workerId now (now + cfg.leaseDuration) d.leaseToken s s') := by
  rcases claimCandidate_turn h with ⟨rfl, rfl⟩ | ⟨g, R, L, -, hstored⟩
  · exact .inl ⟨rfl, rfl⟩
  · have hjobs := claimStored_jobs hstored
    exact hjobs

/-- A claim writes one job at most, and none without a candidate. -/
theorem claimFirst_jobs (h : claimFirst cfg d now worker candidates s = .ok (answer, s')) :
    s'.jobs = s.jobs ∨ (candidates ≠ []
      ∧ ClaimsOne worker.workerId now (now + cfg.leaseDuration) d.leaseToken s s') := by
  induction candidates generalizing s with
  | nil =>
    rw [claimFirst, pure_eq_ok, Prod.mk.injEq] at h
    exact .inl (h.2 ▸ rfl)
  | cons j candidates ih =>
    simp only [claimFirst, bind_eq_ok] at h
    obtain ⟨⟨answer1, s1⟩, h1, h⟩ := h
    rcases claimCandidate_jobs h1 with ⟨rfl, hjobs⟩ | ⟨hclaimed, hclaims⟩
    · rcases ih h with hsame | ⟨-, hclaims⟩
      · exact .inl (hsame.trans hjobs)
      · unfold ClaimsOne at hclaims
        rw [hjobs] at hclaims
        exact .inr ⟨List.cons_ne_nil _ _, hclaims⟩
    · cases answer1 with
      | none => exact absurd rfl hclaimed
      | some answer1 =>
        simp only [steps_ok] at h
        exact .inr ⟨List.cons_ne_nil _ _, h.2 ▸ hclaims⟩

end Claim

/-- A claim of another worker makes no job of this one live. -/
theorem ClaimsOne.lives {v : Uuid} {now expiry : Time} {token : Uuid}
    (h : ClaimsOne v now expiry token s s') (hv : v ≠ w) : LivesShrink w T s s' := by
  obtain ⟨j, g, hput⟩ := h
  refine .of_put hput fun hlive => ?_
  simp only [liveFor, checks_hold] at hlive
  exact absurd (Option.some.inj hlive.1.1) hv

theorem ClaimsOne.count {v : Uuid} {now expiry : Time} {token : Uuid}
    (h : ClaimsOne v now expiry token s s') : s'.activeCount w T ≤ s.activeCount w T + 1 := by
  obtain ⟨j, g, hput⟩ := h
  have hids : ∀ id ∈ s'.liveIds w T, id ∈ j.id :: s.liveIds w T := by
    intro id hid
    obtain ⟨j2, hj2, hlive⟩ := mem_liveIds.mp hid
    rcases hput.cases hj2 with ⟨hself, -⟩ | ⟨-, hold⟩
    · exact hself ▸ .head _
    · exact .tail _ (mem_liveIds.mpr ⟨j2, hold, hlive⟩)
  refine (activeCount_le hids).trans ?_
  rw [activeCount_eq, List.length_cons]
  exact le_of_eq (Nat.cast_succ _)

-- ==== the machine

/-- What a `claim_next` has read, under the lock of its worker's row. -/
structure Reading where
  now : Time
  draws : Draws
  worker : WorkerNode
  candidates : List WorkerJob

/-- The durable state, the time, and the claims under way. -/
structure Claimers where
  state : State
  clock : Time
  reading : Uuid → Option Reading

inductive ClaimerEvent where
  /-- A transaction that is no `claim_next`. -/
  | other (call : Call)
  /-- A `claim_next` locks its worker's row and reads. -/
  | select (workerId : Uuid) (now : Time) (draws : Draws)
  /-- It goes through its candidates and commits. -/
  | finish (workerId : Uuid)
  /-- It ends without a commit. -/
  | crash (workerId : Uuid)

namespace Claimers

/-- The state a reading commits. -/
def finished (cfg : Settings) (s : State) (r : Reading) : State :=
  commit (Prod.snd <$> claimFirst cfg r.draws r.now r.worker r.candidates s) s

/-- A `claim_next` that reads nothing (an unknown worker, or one that is
not eligible) ends at once. -/
def selected (S : Claimers) (workerId : Uuid) (now : Time) (draws : Draws) : Option Reading :=
  match selectCandidates now workerId S.state with
  | .ok (worker, candidates) => some ⟨now, draws, worker, candidates⟩
  | .error _ => none

/-- What an event does. -/
def after (cfg : Settings) (S : Claimers) : ClaimerEvent → Claimers
  | .other call => { S with state := (machine cfg).step S.state call, clock := call.now }
  | .select workerId now draws =>
    { S with
      clock := now
      reading := Function.update S.reading workerId (S.selected workerId now draws) }
  | .finish workerId =>
    { S with
      state := ((S.reading workerId).map (finished cfg S.state)).getD S.state
      reading := Function.update S.reading workerId none }
  | .crash workerId => { S with reading := Function.update S.reading workerId none }

/-- Times do not go back; a worker's row is locked by one claim. -/
def admits (cfg : Settings) (S : Claimers) : ClaimerEvent → Prop
  | .other call => S.clock ≤ call.now ∧ (machine cfg).enabled S.state call
      ∧ ∀ w, call.op ≠ .claimNext w
  | .select workerId now _ => S.clock ≤ now ∧ S.reading workerId = none
  | .finish _ | .crash _ => True

end Claimers

/-- The two services, `claim_next` in two halves. -/
def claimers (cfg : Settings) : Machine Claimers ClaimerEvent where
  init S := (∃ surroundings, S.state = .initial surroundings) ∧ S.reading = fun _ => none
  enabled := Claimers.admits cfg
  step := Claimers.after cfg

/-- The worker's `max_concurrent_jobs` is `m`. -/
def MaxJobs (w : Uuid) (m : Nat) (S : Claimers) (_ : ClaimerEvent) : Prop :=
  ∀ node, S.state.worker? w = some node → node.maxConcurrentJobs = m

-- ==== the invariant

/-- The worker is within its capacity now, and was below it at the time
of a reading that found candidates. -/
structure WithinCapacity (w : Uuid) (m : Nat) (S : Claimers) : Prop where
  now : S.state.activeCount w S.clock ≤ m
  readings : ∀ v r, S.reading v = some r → r.worker.workerId = v
  reading : ∀ r, S.reading w = some r →
    r.now ≤ S.clock ∧ (r.candidates ≠ [] → S.state.activeCount w r.now < m)

variable {S : Claimers} {m : Nat}

theorem selectCandidates_below {now : Time} {worker : WorkerNode} {candidates : List WorkerJob}
    (h : selectCandidates now w s = .ok (worker, candidates)) (hne : candidates ≠ []) :
    s.worker? w = some worker ∧ s.activeCount w now < worker.maxConcurrentJobs := by
  have hid := (selectCandidates_ok h).1
  simp only [selectCandidates, steps_ok] at h
  obtain ⟨worker', hworker, -, rfl, rfl⟩ := h
  refine ⟨hworker, ?_⟩
  unfold listClaimable at hne
  split at hne
  · exact absurd rfl hne
  case isFalse hfree =>
    rw [not_or, not_le, hid] at hfree
    exact hfree.2

open Claimers

theorem selected_eq_some {now : Time} {d : Draws} {r : Reading}
    (h : S.selected w now d = some r) : r.now = now
      ∧ selectCandidates now w S.state = .ok (r.worker, r.candidates) := by
  unfold selected at h
  split at h
  case h_1 worker candidates hok =>
    cases h
    exact ⟨rfl, hok⟩
  · cases h

/-- A commit of a claim, for the worker itself or another one. -/
theorem finished_jobs (r : Reading) : (finished cfg s r).jobs = s.jobs ∨ (r.candidates ≠ []
      ∧ ClaimsOne r.worker.workerId r.now (r.now + cfg.leaseDuration) r.draws.leaseToken s
        (finished cfg s r)) := by
  unfold finished
  cases h : claimFirst cfg r.draws r.now r.worker r.candidates s with
  | error e => exact .inl rfl
  | ok answer => exact claimFirst_jobs h

theorem reading_of_update {u v : Uuid} {r : Reading}
    (h : Function.update S.reading v none u = some r) : u ≠ v ∧ S.reading u = some r := by
  by_cases hu : u = v
  · subst hu
    rw [Function.update_self] at h
    cases h
  · rw [Function.update_of_ne hu] at h
    exact ⟨hu, h⟩

theorem LivesShrink.count (h : LivesShrink w T s s') :
    s'.activeCount w T ≤ s.activeCount w T := by
  rw [activeCount_eq s w T]
  exact activeCount_le h

theorem WithinCapacity.step {e : ClaimerEvent} (h : WithinCapacity w m S)
    (hen : (claimers cfg).enabled S e) (hmax : MaxJobs w m S e) :
    WithinCapacity w m ((claimers cfg).step S e) := by
  cases e with
  | other call =>
    obtain ⟨hclock, hen, hop⟩ := hen
    have hlives : ∀ T, T ≤ call.now →
        LivesShrink w T S.state ((machine cfg).step S.state call) := by
      intro T hT
      refine step_of_effects ?_ hen fun id hid => hid
      intro t t' ht he id hid
      exact ht id (effect_lives hT hop he id hid)
    refine ⟨?_, h.readings, fun r hr => ?_⟩
    · exact ((hlives call.now le_rfl).count.trans (activeCount_anti hclock)).trans h.now
    · obtain ⟨hbefore, hbelow⟩ := h.reading r hr
      exact ⟨hbefore.trans hclock, fun hne =>
        lt_of_le_of_lt (hlives r.now (hbefore.trans hclock)).count (hbelow hne)⟩
  | select v now d =>
    obtain ⟨hclock, -⟩ := hen
    -- a reading is the new one, or one under way
    have hreading : ∀ u r, ((claimers cfg).step S (.select v now d)).reading u = some r →
        (u = v ∧ S.selected v now d = some r) ∨ (u ≠ v ∧ S.reading u = some r) := by
      intro u r hr
      by_cases hu : u = v
      · subst hu
        change Function.update S.reading u (S.selected u now d) u = some r at hr
        rw [Function.update_self] at hr
        exact .inl ⟨rfl, hr⟩
      · change Function.update S.reading v (S.selected v now d) u = some r at hr
        rw [Function.update_of_ne hu] at hr
        exact .inr ⟨hu, hr⟩
    refine ⟨(activeCount_anti hclock).trans h.now, fun u r hr => ?_, fun r hr => ?_⟩
    · rcases hreading u r hr with ⟨rfl, hnew⟩ | ⟨-, hold⟩
      · exact (selectCandidates_ok (selected_eq_some hnew).2).1
      · exact h.readings u r hold
    · rcases hreading w r hr with ⟨rfl, hnew⟩ | ⟨-, hold⟩
      · obtain ⟨hnow, hselected⟩ := selected_eq_some hnew
        refine ⟨le_of_eq hnow, fun hne => ?_⟩
        obtain ⟨hworker, hbelow⟩ := selectCandidates_below hselected hne
        rw [hmax _ hworker] at hbelow
        exact hnow ▸ hbelow
      · obtain ⟨hbefore, hbelow⟩ := h.reading r hold
        exact ⟨hbefore.trans hclock, hbelow⟩
  | finish v =>
    have hreading : ∀ u r, ((claimers cfg).step S (.finish v)).reading u = some r →
        u ≠ v ∧ S.reading u = some r := fun u r => reading_of_update
    have hstate : ((claimers cfg).step S (.finish v)).state
        = ((S.reading v).map (finished cfg S.state)).getD S.state := rfl
    refine ⟨?_, fun u r hr => h.readings u r (hreading u r hr).2, fun r hr => ?_⟩
    · show ((claimers cfg).step S (.finish v)).state.activeCount w S.clock ≤ m
      rw [hstate]
      cases hr : S.reading v with
      | none => exact h.now
      | some r =>
        rw [Option.map_some, Option.getD_some]
        rcases finished_jobs r with hsame | ⟨hne, hclaims⟩
        · exact (LivesShrink.of_jobs hsame).count.trans h.now
        · by_cases hv : v = w
          · -- its own claim, counted at the time of its reading
            subst hv
            obtain ⟨hbefore, hbelow⟩ := h.reading r hr
            exact (activeCount_anti hbefore).trans
              (hclaims.count.trans (Int.add_one_le_of_lt (hbelow hne)))
          · rw [h.readings v r hr] at hclaims
            exact (hclaims.lives hv).count.trans h.now
    · obtain ⟨hv, hold⟩ := hreading w r hr
      obtain ⟨hbefore, hbelow⟩ := h.reading r hold
      refine ⟨hbefore, fun hne => lt_of_le_of_lt ?_ (hbelow hne)⟩
      rw [hstate]
      cases hr : S.reading v with
      | none => exact le_rfl
      | some r' =>
        rw [Option.map_some, Option.getD_some]
        rcases finished_jobs r' with hsame | ⟨-, hclaims⟩
        · exact (LivesShrink.of_jobs hsame).count
        · rw [h.readings v r' hr] at hclaims
          exact (hclaims.lives (Ne.symm hv)).count
  | crash v =>
    exact ⟨h.now, fun u r hr => h.readings u r (reading_of_update hr).2,
      fun r hr => h.reading r (reading_of_update hr).2⟩

/-- At every instant from the last event on, a worker whose maximum is
`m` has at most `m` jobs that run under a live lease of its own. -/
theorem worker_capacity (w : Uuid) (m : Nat)
    (h : (claimers cfg).Reachable (MaxJobs w m) S) (t : Time) (ht : S.clock ≤ t) :
    S.state.activeCount w t ≤ m := by
  have hwithin : WithinCapacity w m S := by
    refine h.invariant ?_ fun S e hS hen hmax => hS.step hen hmax
    rintro S ⟨⟨W, hstate⟩, hreading⟩
    refine ⟨?_, fun v r hr => ?_, fun r hr => ?_⟩
    · rw [hstate]
      exact Int.natCast_nonneg m
    · rw [hreading] at hr
      cases hr
    · rw [hreading] at hr
      cases hr
  exact (activeCount_anti ht).trans hwithin.now

-- ---- a sample run

/-- What the machine asks of an event of a sample run, and the maximum
of worker 2. -/
def Claimers.accepts (S : Claimers) (e : ClaimerEvent) : Bool :=
  (S.state.worker? 2).all (fun node => decide (node.maxConcurrentJobs = 4)) && match e with
    | .other ⟨now, _, .receive _⟩ | .other ⟨now, _, .processNext _⟩ => decide (S.clock ≤ now)
    | .select workerId now _ => decide (S.clock ≤ now) && (S.reading workerId).isNone
    | .finish _ | .crash _ => true
    | _ => false

theorem enabled_of_accepts {e : ClaimerEvent} (h : S.accepts e = true) :
    (claimers cfg).enabled S e ∧ MaxJobs 2 4 S e := by
  simp only [accepts, Bool.and_eq_true] at h
  obtain ⟨hmax, h⟩ := h
  constructor
  · split at h
    · exact ⟨of_decide_eq_true h, (fun κ hκ => by cases hκ), fun w hop => by cases hop⟩
    · exact ⟨of_decide_eq_true h, (fun κ hκ => by cases hκ), fun w hop => by cases hop⟩
    · rw [Bool.and_eq_true, decide_eq_true_eq, Option.isNone_iff_eq_none] at h
      exact h
    · exact trivial
    · exact trivial
    · cases h
  · intro node hnode
    rw [hnode] at hmax
    exact of_decide_eq_true hmax

namespace Sample

/-- A browse Command is routed to worker 2, which claims it while another
Command arrives. -/
def claimWhileReceiving : List ClaimerEvent :=
  [.other (Sample.call 1 1 (.receive (browse "first" 0 none))),
    .other (Sample.call 2 2 (.processNext [])),
    .select 2 3 (draws 3), .other (Sample.call 4 4 (.receive (browse "second" 4 none))), .finish 2]

def idleClaimers : Claimers where
  state := .initial world
  clock := 0
  reading := fun _ => none

end Sample

open Sample in
/-- The sample worker takes a job and stays within its four. -/
theorem worker_capacity_browse : (((claimers settings).runs claimWhileReceiving
      idleClaimers).state.activeCount 2 4 = 1)
    ∧ ∀ t, 4 ≤ t → ((claimers settings).runs claimWhileReceiving
      idleClaimers).state.activeCount 2 t ≤ (4 : Nat) := by
  have hreach : (claimers settings).Reachable (MaxJobs 2 4)
      ((claimers settings).runs claimWhileReceiving idleClaimers) :=
    Machine.Reachable.runs (fun S e _ h => enabled_of_accepts h)
      (.init ⟨⟨world, rfl⟩, rfl⟩) (by decide +kernel)
  have hclock : ((claimers settings).runs claimWhileReceiving
      idleClaimers).clock = 4 := by decide
  exact ⟨by decide +kernel, fun t ht => worker_capacity 2 4 hreach t (hclock ▸ ht)⟩

end ThreadsPlatform
