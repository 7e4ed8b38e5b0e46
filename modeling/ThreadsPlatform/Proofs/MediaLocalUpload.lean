/-
A local upload job stages its file at most once.

The services are seen through the job's lease token and its checkpoint.
Whatever a call does, it keeps the checkpoint and either keeps the token,
clears it, or draws a new one for a claim; only a `checkpoint` call under
the token writes the checkpoint. So a run of the services with the
attempts is a run of `uploadProgram` under a fenced lease
(`upload_tracked`). There, saving MUTATION_PENDING arms an attempt and
spends the checkpoint: no attempt that begins later gets anywhere, and
none under an older lease can save.
-/
import ThreadsPlatform.Application.Runs
import ThreadsPlatform.Effects.Refinement
import ThreadsPlatform.Workers.MediaLocalUpload

namespace ThreadsPlatform

open Relational Table WorkerJobService

variable {cfg : Settings} {call : Call} {s s' t t' : State} {jobId : Uuid} {U : UploadRun}
  {R : FencedRun Uuid (Option Document) UploadPoint UploadInput Unit} {x : Nat} {delivered : Bool}
  {draws : Draws} {d : Option Document} {phase : String} {now : Time} {a : UploadAttempt}
  {event : UploadEvent} {input : UploadInput} {point : UploadPoint} {j : WorkerJob}

-- ==== the program

/-- Where an attempt that has the lease can be: before the boundary is
behind it, the checkpoint is not spent. -/
def UploadPoint.Knows (d : Option Document) : UploadPoint → Prop
  | .preparing | .savingBefore | .composing | .atBoundary | .savingPending =>
    ambiguousPhase d = false
  | _ => True

/-- It may start the operation. -/
def UploadPoint.armed : UploadPoint → Prop
  | .renewing | .staging => True
  | _ => False

open UploadPoint

theorem UploadPoint.hear_knows (h : point.Knows d) : (point.hear input).Knows d := by
  unfold hear
  split <;> trivial

theorem UploadPoint.armed_hear (h : (point.hear input).armed) : point.armed := by
  unfold hear at h
  split at h <;> trivial

theorem UploadPoint.phase?_cases (h : point.phase? = some phase) :
    (point = .savingBefore ∧ phase = "BEFORE_LOCAL_STAGE")
      ∨ (ambiguousPhase (some (phaseCheckpoint phase)) = true
        ∧ (point = .savingPending ∨ point = .savingConfirmed ∨ point = .savingComplete)) := by
  cases point <;> simp only [phase?, Option.some.injEq, reduceCtorEq] at h
  case savingBefore => exact .inl ⟨rfl, h.symm⟩
  all_goals
    subst h
    exact .inr ⟨by decide, by simp⟩

theorem saves?_phase (h : uploadProgram.saves? point = some d) :
    ∃ phase, point.phase? = some phase ∧ d = some (phaseCheckpoint phase) := by
  obtain ⟨phase, hphase, rfl⟩ := Option.map_eq_some_iff.mp h
  exact ⟨phase, hphase, rfl⟩

theorem upload_guards :
    uploadProgram.Guards UploadPoint.Knows (fun _ _ => True) (fun _ _ => True) where
  start d := by
    refine ⟨?_, trivial⟩
    show (uploadStart d).Knows d
    unfold uploadStart
    split
    · trivial
    · rename_i h
      exact Bool.eq_false_iff.mpr h
  hear_live _ _ _ _ := hear_knows
  hear_held _ _ _ _ := trivial
  refused _ point := ⟨by cases point <;> trivial, trivial⟩
  call d point c hcall _ := by
    refine ⟨trivial, fun hp => ?_, trivial⟩
    show (if point = .staging then staged else point).Knows d
    split
    · trivial
    · exact hp
  save d d' point hsave _ hlive := by
    refine ⟨?_, trivial⟩
    obtain ⟨phase, hphase, rfl⟩ := saves?_phase hsave
    show point.saved.Knows _
    rcases phase?_cases hphase with ⟨rfl, rfl⟩ | ⟨-, rfl | rfl | rfl⟩
    · show ambiguousPhase _ = false
      decide
    all_goals trivial
  keep_held _ _ _ _ _ _ _ _ := trivial
  keep_called _ _ _ _ _ _ _ _ := trivial

theorem upload_once :
    uploadProgram.Once UploadPoint.Knows armed (ambiguousPhase · = true) where
  start d h := by
    have h : (uploadStart d).armed := h
    unfold uploadStart at h
    split at h <;> cases h
  hear _ _ := armed_hear
  refused point h := by
    have h : point.refused.armed := h
    cases point <;> cases h
  called point c hcall := by
    have hcall : (if point = .staging then some () else none) = some c := hcall
    split at hcall
    · rename_i hpoint
      subst hpoint
      exact ⟨trivial, fun h => by cases h⟩
    · cases hcall
  arms d d' point hsave hlive harmed := by
    obtain ⟨phase, hphase, rfl⟩ := saves?_phase hsave
    have harmed : point.saved.armed := harmed
    rcases phase?_cases hphase with ⟨rfl, rfl⟩ | ⟨hspent, rfl | rfl | rfl⟩
    · cases harmed
    · have hlive : ambiguousPhase d = false := hlive
      exact ⟨by rw [hlive]; decide, hspent⟩
    · cases harmed
    · cases harmed
  stays d d' point hsave hlive hspent := by
    obtain ⟨phase, hphase, rfl⟩ := saves?_phase hsave
    rcases phase?_cases hphase with ⟨rfl, rfl⟩ | ⟨hspent', -⟩
    · have hlive : ambiguousPhase d = false := hlive
      rw [hlive] at hspent
      cases hspent
    · exact hspent'

-- ==== the services

/-- What a call of anyone else does to the job's lease and checkpoint. -/
structure LeaseKept (jobId : Uuid) (call : Call) (s s' : State) : Prop where
  checkpoint : checkpointOf jobId s' = checkpointOf jobId s
  token : leaseTokenOf jobId s' = leaseTokenOf jobId s ∨ leaseTokenOf jobId s' = none
    ∨ (leaseTokenOf jobId s' = some call.draws.leaseToken ∧ ∃ w, call.op = .claimNext w)

namespace LeaseKept

theorem trans (h : LeaseKept jobId call s t) (h' : LeaseKept jobId call t t') :
    LeaseKept jobId call s t' where
  checkpoint := h'.checkpoint.trans h.checkpoint
  token := by
    rcases h'.token with hsame | hnone | hclaim
    · rw [hsame]
      exact h.token
    · exact .inr (.inl hnone)
    · exact .inr (.inr hclaim)

theorem of_same (h : t.jobs = s.jobs) : LeaseKept jobId call s t where
  checkpoint := by rw [checkpointOf, checkpointOf, h]
  token := .inl (by rw [leaseTokenOf, leaseTokenOf, h])

theorem of_put (hput : Put s.jobs j t.jobs) (hcheckpoint : j.checkpoint = checkpointOf j.id s)
    (htoken : j.leaseToken = leaseTokenOf j.id s ∨ j.leaseToken = none
      ∨ (j.leaseToken = some call.draws.leaseToken ∧ ∃ w, call.op = .claimNext w)) :
    LeaseKept jobId call s t := by
  by_cases hid : jobId = j.id
  · subst hid
    have hself : t.jobs.get? j.id = some j := hput.get?_self
    refine ⟨?_, ?_⟩
    · rw [checkpointOf, hself]
      exact hcheckpoint
    · rw [show leaseTokenOf j.id t = j.leaseToken by rw [leaseTokenOf, hself]; rfl]
      exact htoken
  · have hother : t.jobs.get? jobId = s.jobs.get? jobId := hput.get?_ne hid
    exact ⟨by rw [checkpointOf, checkpointOf, hother],
      .inl (by rw [leaseTokenOf, leaseTokenOf, hother])⟩

end LeaseKept

theorem checkpointOf_stored (h : s.jobs.get? j.id = some j) :
    checkpointOf j.id s = j.checkpoint := by
  rw [checkpointOf, h]
  rfl

theorem leaseTokenOf_stored (h : s.jobs.get? j.id = some j) :
    leaseTokenOf j.id s = j.leaseToken := by
  rw [leaseTokenOf, h]
  rfl

theorem leaseKept_effect {s0 : State}
    (hnoSave : ∀ workerId token document, call.op ≠ .checkpoint jobId workerId token document)
    (h : Effect cfg call s0 t t') : LeaseKept jobId call t t' := by
  cases h with
  | jobAdded hadd =>
    rename_i j J RD
    have hnone : t.jobs.get? j.id = none := hadd.fresh
    have hcheck := check_of_get? hadd.put.get?_self
    obtain ⟨-, htoken, -⟩ := WorkerJob.lease_none_of_check hcheck (by rw [hadd.queued]; decide)
    refine .of_put hadd.put ?_ (.inr (.inl htoken))
    rw [hadd.checkpoint, checkpointOf, hnone]
    rfl
  | jobClaimed hclaim =>
    rename_i j a w expiry g J A R L
    refine .of_put hclaim.jobs (checkpointOf_stored hclaim.stored).symm ?_
    exact .inr (.inr ⟨congrArg some hclaim.token, w, hclaim.op⟩)
  | jobTouched htouch =>
    rename_i j j' w τ J L
    have hid : j'.id = j.id := htouch.same.id
    rcases htouch.checkpoint with hsame | ⟨document, hop, -⟩
    · refine .of_put htouch.jobs ?_ (.inl ?_)
      · rw [hid, checkpointOf_stored htouch.stored, hsame]
      · rw [hid, leaseTokenOf_stored htouch.stored, htouch.leaseToken]
    · -- a save, of another job
      have hne : jobId ≠ j'.id := by
        rintro rfl
        exact hnoSave _ _ _ (hid ▸ hop)
      have hother : J.get? jobId = t.jobs.get? jobId := htouch.jobs.get?_ne hne
      exact ⟨congrArg (Option.bind · _) hother, .inl (congrArg (Option.bind · _) hother)⟩
  | jobMoved hmove =>
    rename_i j j' outcome J A R C O D L
    refine .of_put hmove.jobs ?_ (.inr (.inl hmove.leaves.leaseToken))
    rw [hmove.leaves.id, checkpointOf_stored hmove.stored, hmove.leaves.checkpoint]
  | _ => exact .of_same rfl

theorem leaseKept_step (h : OthersCall cfg jobId U call) :
    LeaseKept jobId call U.state ((machine cfg).step U.state call) :=
  step_of_effects
    (fun _ _ hkept heffect => hkept.trans (leaseKept_effect h.noSave heffect)) h.enabled
    (.of_same rfl)

open UploadRun

theorem saveCall_ok {attempt : UploadAttempt}
    (h : (saveCall jobId attempt phase now draws).outcome cfg s = .ok s') :
    leaseTokenOf jobId s = some attempt.token ∧ leaseTokenOf jobId s' = some attempt.token
      ∧ checkpointOf jobId s' = some (phaseCheckpoint phase) := by
  simp only [Call.outcome, saveCall, map_eq_ok, Prod.exists] at h
  obtain ⟨_, _, h, rfl⟩ := h
  simp only [checkpoint, steps_ok] at h
  obtain ⟨j, hj, saved, hsaved, j', rfl, -, J, hJ, -, rfl⟩ := h
  obtain ⟨hid, hstored⟩ := lockedJob_ok hj
  obtain ⟨hown, -, hj'⟩ := WorkerJob.saveCheckpoint_some hsaved
  obtain ⟨-, -, htoken, -⟩ := WorkerJob.ownsLease_iff.mp hown
  have hself : J.get? j'.id = some j' := (updateRow_ok hJ).2.get?_self
  have hid' : j'.id = jobId := by rw [hj']; exact hid
  rw [hid'] at hself
  rw [hid] at hstored
  refine ⟨?_, ?_, ?_⟩
  · rw [leaseTokenOf, hstored]
    exact htoken
  · rw [leaseTokenOf, hself, hj']
    exact htoken
  · rw [checkpointOf, hself, hj']
    rfl

-- ==== simulation

/-- The attempts, as executions of the program. -/
def executionsOf (attempts : Nat → Option UploadAttempt) (x : Nat) :
    Option (FencedExecution Uuid UploadPoint) :=
  (attempts x).map fun attempt => ⟨attempt.token, attempt.point⟩

/-- A run of the program that shows the run of services and attempts. -/
structure Tracks (jobId : Uuid) (U : UploadRun)
    (R : FencedRun Uuid (Option Document) UploadPoint UploadInput Unit) : Prop where
  token : R.token = leaseTokenOf jobId U.state
  durable : R.durable = checkpointOf jobId U.state
  executions : R.executions = executionsOf U.attempts
  drawn : R.drawn = U.drawn
  held : ∀ τ, leaseTokenOf jobId U.state = some τ → τ ∈ U.drawn
  stagings : R.calls.map Prod.fst = U.stagings

abbrev UploadReached (R : FencedRun Uuid (Option Document) UploadPoint UploadInput Unit) : Prop :=
  (uploadProgram.machine none).Reachable (fun _ _ => True) R

theorem executionsOf_update {attempts : Nat → Option UploadAttempt} :
    executionsOf (Function.update attempts x (some a))
      = Function.update (executionsOf attempts) x (some ⟨a.token, a.point⟩) := by
  funext y
  by_cases hy : y = x
  · subst hy
    simp [executionsOf]
  · simp [executionsOf, hy]

theorem Tracks.goOn (h : Tracks jobId U R) {a : UploadAttempt} {point : UploadPoint} :
    Tracks jobId (U.goOn x a point) (R.goOn x a.token point) where
  token := h.token
  durable := h.durable
  executions := by
    show Function.update R.executions x _ = _
    rw [h.executions]
    exact (executionsOf_update (a := { a with point })).symm
  drawn := h.drawn
  held := h.held
  stagings := h.stagings

theorem Tracks.execution (h : Tracks jobId U R) (ha : U.attempts x = some a) :
    R.executions x = some ⟨a.token, a.point⟩ := by
  rw [h.executions, executionsOf, ha]
  rfl

theorem UploadReached.after (h : UploadReached R) {e : FencedEvent Uuid UploadInput}
    (hclaim : ∀ y token, e ≠ .claim y token) : UploadReached (R.after uploadProgram e) :=
  .step h (fun y token heq => absurd heq (hclaim y token)) trivial

theorem after_hear (hx : R.executions x = some ⟨a.token, a.point⟩) :
    R.after uploadProgram (.hear x input)
      = { R with heard := (x, a.point, input) :: R.heard }.goOn x a.token (a.point.hear input) := by
  simp only [FencedRun.after, hx]
  rfl

/-- A claim whose answer is refused, or lost, and one that is taken up. -/
theorem begun_point (job : WorkerJob) (token : Uuid) (clock : Time) (delivered : Bool) :
    (begun job token clock delivered).point = uploadStart job.checkpoint
      ∨ ∃ ending, (begun job token clock delivered).point = .over ending := by
  unfold begun
  dsimp only
  split
  · unfold uploadCall uploadStart
    repeat' split
    all_goals first
      | exact .inl rfl
      | exact .inr ⟨_, rfl⟩
  · exact .inr ⟨_, rfl⟩

theorem serve_cases (x : Nat) (clock : Time) (delivered : Bool) (hcall : OthersCall cfg jobId U
  call) (hheld : ∀ τ, leaseTokenOf jobId U.state = some τ → τ ∈ U.drawn) :
    (U.serve cfg jobId call x clock delivered = { U with state := (machine cfg).step U.state call }
      ∧ (leaseTokenOf jobId ((machine cfg).step U.state call) = leaseTokenOf jobId U.state
        ∨ leaseTokenOf jobId ((machine cfg).step U.state call) = none))
    ∨ ∃ job token, U.serve cfg jobId call x clock delivered = { U with
            state := (machine cfg).step U.state call
            drawn := token :: U.drawn
            attempts := Function.update U.attempts x (some (begun job token clock delivered)) }
      ∧ leaseTokenOf jobId ((machine cfg).step U.state call) = some token ∧ token ∉ U.drawn
      ∧ checkpointOf jobId ((machine cfg).step U.state call) = job.checkpoint := by
  have hkept := (leaseKept_step hcall).token
  unfold serve
  dsimp only
  generalize (machine cfg).step U.state call = t at hkept ⊢
  have hold (h : ∀ τ, leaseTokenOf jobId t = some τ → τ ∈ U.drawn) :
      ((t.jobs.get? jobId).bind fun job => job.leaseToken.bind fun token =>
        if U.drawn.contains token then none else some (job, token)) = none := by
    simp only [Option.bind_eq_none_iff]
    intro job hjob token htoken
    have hmem := h token (by rw [leaseTokenOf, hjob]; exact htoken)
    rw [if_pos (by simpa using hmem)]
  rcases hkept with hsame | hnone | ⟨htoken, w, hop⟩
  · rw [hold (hsame ▸ hheld)]
    exact .inl ⟨rfl, .inl hsame⟩
  · rw [hold (fun τ hτ => by rw [hnone] at hτ; cases hτ)]
    exact .inl ⟨rfl, .inr hnone⟩
  · have hfresh := hcall.token w hop
    obtain ⟨job, hjob, htoken'⟩ := Option.bind_eq_some_iff.mp htoken
    have hnew : ((t.jobs.get? jobId).bind fun job => job.leaseToken.bind fun token =>
        if U.drawn.contains token then none else some (job, token))
        = some (job, call.draws.leaseToken) := by
      simp only [hjob, htoken', Option.bind_some]
      rw [if_neg (by simpa using hfresh)]
    rw [hnew]
    refine .inr ⟨job, call.draws.leaseToken, rfl, htoken, hfresh, ?_⟩
    rw [checkpointOf, hjob]
    rfl

section

variable (h : Tracks jobId U R) (hR : UploadReached R)

include h hR

theorem tracks_service {clock : Time} (hcall : OthersCall cfg jobId U call)
    (hx : U.attempts x = none) :
    ∃ R', UploadReached R' ∧ Tracks jobId (U.serve cfg jobId call x clock delivered) R' := by
  have hcheckpoint := (leaseKept_step hcall).checkpoint
  rcases serve_cases x clock delivered hcall h.held with
    ⟨hserve, htoken⟩ | ⟨job, token, hserve, htoken, hfresh, hjob⟩
  · rw [hserve]
    rcases htoken with hsame | hnone
    · exact ⟨R, hR, h.token.trans hsame.symm, h.durable.trans hcheckpoint.symm, h.executions,
        h.drawn, fun τ hτ => h.held τ (hsame.symm.trans hτ), h.stagings⟩
    · exact ⟨_, hR.after (e := .release) (by simp), hnone.symm, h.durable.trans hcheckpoint.symm,
        h.executions, h.drawn, fun τ hτ => by simp [hnone] at hτ, h.stagings⟩
  · rw [hserve]
    have hempty : R.executions x = none := by
      rw [h.executions, executionsOf, hx]
      rfl
    have hclaim : UploadReached (R.after uploadProgram (.claim x token)) := by
      refine Machine.Reachable.step (i := .claim x token) hR (fun y τ heq => ?_) trivial
      cases heq
      exact ⟨hempty, h.drawn ▸ hfresh⟩
    have hstart : job.checkpoint = R.durable := by rw [← hjob, hcheckpoint, h.durable]
    have hheld : ∀ τ, leaseTokenOf jobId ((machine cfg).step U.state call) = some τ →
        τ ∈ token :: U.drawn := by
      intro τ hτ
      rw [htoken] at hτ
      cases hτ
      exact (.head _)
    have htracks (point : UploadPoint) (heard : List (Nat × UploadPoint × UploadInput))
        (hpoint : (begun job token clock delivered).point = point) :
        Tracks jobId { U with
            state := (machine cfg).step U.state call
            drawn := token :: U.drawn
            attempts := Function.update U.attempts x (some (begun job token clock delivered)) }
          ({ R with token := some token, drawn := token :: R.drawn, heard := heard }.goOn x token
            point) := by
      refine ⟨htoken.symm, h.durable.trans hcheckpoint.symm, ?_, congrArg _ h.drawn, hheld,
        h.stagings⟩
      show Function.update R.executions x _ = executionsOf (Function.update U.attempts x _)
      rw [executionsOf_update, h.executions, hpoint]
      rfl
    rcases begun_point job token clock delivered with hpoint | ⟨ending, hpoint⟩
    · rw [hstart] at hpoint
      exact ⟨_, hclaim, htracks (uploadStart R.durable) R.heard hpoint⟩
    · refine ⟨_, hclaim.after (e := .hear x (.stops ending)) (by simp), ?_⟩
      have hover := htracks (.over ending) ((x, uploadStart R.durable, .stops ending) :: R.heard)
        hpoint
      simp only [FencedRun.after, FencedRun.goOn, Function.update_self, Function.update_idem]
        at hover ⊢
      exact hover

theorem tracks_save (hx : U.attempts x = some a) (hphase : a.point.phase? = some phase)
    (hsave : (saveCall jobId a phase now draws).outcome cfg U.state = .ok s') :
    ∃ R', UploadReached R' ∧ Tracks jobId ({ U with state := s' }.goOn x a
      (if delivered then a.point.saved else a.point.refused)) R' := by
  obtain ⟨hlease, htoken, hcheckpoint⟩ := saveCall_ok hsave
  have hexecution := h.execution hx
  have hd : uploadProgram.saves? a.point = some (some (phaseCheckpoint phase)) := by
    simp only [uploadProgram, hphase, Option.map_some]
  have hsaved (outcome : SaveOutcome) (hdone : outcome ≠ .refused) (point : UploadPoint)
      (hpoint : (if outcome = .done then a.point.saved else a.point.refused) = point) :
      ∃ R', UploadReached R' ∧ Tracks jobId ({ U with state := s' }.goOn x a point) R' := by
    refine ⟨_, hR.after (e := .save x outcome) (by simp), ?_⟩
    simp only [FencedRun.after, hexecution, hd]
    rw [if_pos ⟨h.token.trans hlease, hdone⟩]
    have hmoved : Tracks jobId { U with state := s' }
        { R with durable := some (phaseCheckpoint phase),
                 saves := (x, some (phaseCheckpoint phase)) :: R.saves } :=
      ⟨h.token.trans (hlease.trans htoken.symm), hcheckpoint.symm, h.executions, h.drawn,
        fun τ hτ => h.held τ (hlease.trans (htoken.symm.trans hτ)), h.stagings⟩
    rw [← hpoint]
    exact hmoved.goOn
  cases delivered with
  | true => exact hsaved .done (by decide) _ rfl
  | false => exact hsaved .lost (by decide) _ rfl

theorem tracks_refused (hx : U.attempts x = some a) (hphase : a.point.phase? = some phase) :
    ∃ R', UploadReached R' ∧ Tracks jobId (U.goOn x a a.point.refused) R' := by
  refine ⟨_, hR.after (e := .save x .refused) (by simp), ?_⟩
  have hd : uploadProgram.saves? a.point = some (some (phaseCheckpoint phase)) := by
    simp only [uploadProgram, hphase, Option.map_some]
  simp only [FencedRun.after, h.execution hx, hd, ne_eq, not_true_eq_false, and_false, if_false]
  exact h.goOn

theorem tracks_step (hen : (uploadMachine cfg jobId).enabled U event) :
    ∃ R', UploadReached R' ∧ Tracks jobId (U.after cfg jobId event) R' := by
  cases event with
  | service call x clock delivered =>
    obtain ⟨hcall, hx⟩ := hen call x clock delivered rfl
    exact tracks_service h hR hcall hx
  | hear x input =>
    simp only [after]
    split
    · exact ⟨R, hR, h⟩
    · rename_i a hx
      refine ⟨_, hR.after (e := .hear x input) (by simp), ?_⟩
      rw [after_hear (h.execution hx)]
      have hheard : Tracks jobId U { R with heard := (x, a.point, input) :: R.heard } :=
        ⟨h.token, h.durable, h.executions, h.drawn, h.held, h.stagings⟩
      exact hheard.goOn
  | save x now draws delivered =>
    simp only [after]
    split
    · exact ⟨R, hR, h⟩
    · rename_i a hx
      split
      · exact ⟨R, hR, h⟩
      · rename_i phase hphase
        split
        · exact tracks_refused h hR hx hphase
        · rename_i s' hsave
          exact tracks_save h hR hx hphase hsave
  | lose x =>
    simp only [after]
    split
    · exact ⟨R, hR, h⟩
    · rename_i a hx
      split
      · rename_i hphase
        obtain ⟨phase, hphase⟩ := Option.isSome_iff_exists.mp hphase
        exact tracks_refused h hR hx hphase
      · exact ⟨R, hR, h⟩
  | stage x =>
    simp only [after]
    split
    · exact ⟨R, hR, h⟩
    · rename_i a hx
      split
      · rename_i hstaging
        refine ⟨_, hR.after (e := .call x) (by simp), ?_⟩
        simp only [FencedRun.after, h.execution hx, uploadProgram, hstaging, if_true]
        have hcalled : Tracks jobId { U with stagings := x :: U.stagings }
            { R with calls := (x, ()) :: R.calls } :=
          ⟨h.token, h.durable, h.executions, h.drawn, h.held, congrArg (x :: ·) h.stagings⟩
        exact hcalled.goOn
      · exact ⟨R, hR, h⟩

end

theorem upload_tracked {allow : UploadRun → UploadEvent → Prop}
    (h : (uploadMachine cfg jobId).Reachable allow U) :
    ∃ R, UploadReached R ∧ Tracks jobId U R := by
  refine h.invariant (I := fun U => ∃ R, UploadReached R ∧ Tracks jobId U R) ?_ ?_
  · rintro U ⟨⟨W, hstate⟩, hattempts, hdrawn, hstagings⟩
    refine ⟨.fresh none, .init rfl, ?_⟩
    have hnone : (State.initial W).jobs.get? jobId = none := rfl
    refine ⟨?_, ?_, ?_, hdrawn.symm, ?_, hstagings.symm⟩
    · rw [leaseTokenOf, hstate, hnone]
      rfl
    · rw [checkpointOf, hstate, hnone]
      rfl
    · rw [hattempts]
      rfl
    · intro τ hτ
      rw [leaseTokenOf, hstate, hnone] at hτ
      cases hτ
  · rintro U event ⟨R, hR, hU⟩ hen -
    exact tracks_step hU hR hen

/-- Over a job's whole life `stage_once` is started at most once: whatever
calls are made by anyone, whichever attempts begin, crash, or run on
beside later ones, and whatever they hear. -/
theorem local_upload_staged_once (cfg : Settings) (jobId : Uuid) (U : UploadRun)
    (h : (uploadMachine cfg jobId).Reachable (fun _ _ => True) U) : U.stagings.length ≤ 1 := by
  obtain ⟨R, hR, htracks⟩ := upload_tracked h
  have hone := upload_once.reachable upload_guards hR
  rw [← htracks.stagings, List.length_map]
  exact hone.le_one

-- ==== example

namespace UploadSample

/-- Worker 2 can stage files. -/
def uploadWorld : Surroundings :=
  { Sample.world with capabilities := [⟨2, "threads.browser.media.local_upload", 1⟩] }

def upload : WorkerJobService.EnqueueRequest where
  capabilityName := "threads.browser.media.local_upload"
  capabilityVersion := 1
  commandId := none
  accountId := some 1
  assignedWorkerId := some 2
  accountAffinityRequired := some true
  priority := 0
  preemptible := false
  scheduledAt := none
  deadlineAt := none
  maxAttempts := 3
  retrySafety := .reconciliationRequired
  operationClass := .mutation
  inputData := some [("media_ref", .str "photo.png")]

/-- An attempt stages the file and asks for an intervention; the job is
requeued as safe, and claimed again. -/
def events : List UploadEvent := [.service (Sample.call 1 0 (.enqueue upload)) 0 0 true,
    .service (Sample.call 2 1 (.claimNext 2)) 0 1 true,
    .hear 0 .goesOn, .save 0 2 (Sample.draws 3) true, .hear 0 (.composer true),
    .hear 0 (.journal false), .save 0 3 (Sample.draws 4) true, .hear 0 .goesOn, .stage 0,
    .service (Sample.call 5 4 (.requestIntervention 100 2 201 "AMBIGUOUS_OUTCOME"
      "ACTION_OUTCOME_REQUIRES_RECONCILIATION")) 1 4 true,
    .service (Sample.call 6 5 (.resolveIntervention 505 true true "operator")) 1 5 true,
    .service (Sample.call 7 6 (.claimNext 2)) 1 6 true, .hear 1 .goesOn, .stage 1]

def opening : UploadRun := ⟨.initial uploadWorld, fun _ => none, [], []⟩

/-- Nobody but the attempts saves, and the tokens are new. -/
def acceptable (U : UploadRun) : UploadEvent → Bool
  | .service call x _ _ =>
    (U.attempts x).isNone && call.op.claim?.isNone && (match call.op with
        | .checkpoint _ _ _ _ => false
        | .claimNext _ => !U.drawn.contains call.draws.leaseToken
        | _ => true)
  | _ => true

theorem enabled_of_acceptable (h : acceptable U event = true) :
    (uploadMachine Sample.settings 100).enabled U event := by
  rintro call x clock delivered rfl
  simp only [acceptable, Bool.and_eq_true, Option.isNone_iff_eq_none] at h
  obtain ⟨⟨hx, hclaim⟩, hop⟩ := h
  refine ⟨⟨fun claim hsome => ?_, fun w τ d hcheckpoint => ?_, fun w hnext => ?_⟩, hx⟩
  · rw [hclaim] at hsome
    cases hsome
  · rw [hcheckpoint] at hop
    cases hop
  · rw [hnext] at hop
    simpa using hop

end UploadSample

open UploadSample Sample in
theorem local_upload_staged_once_requeued :
    ((uploadMachine settings 100).runs events opening).stagings = [0]
    ∧ ((uploadMachine settings 100).runs events opening).drawn = [701, 201]
    ∧ ((uploadMachine settings 100).runs events opening).stagings.length ≤ 1 := by
  refine ⟨by decide, by decide, ?_⟩
  exact local_upload_staged_once settings 100 _
    (Machine.Reachable.runs (fun U event _ h => ⟨enabled_of_acceptable h, trivial⟩)
      (.init ⟨⟨uploadWorld, rfl⟩, rfl, rfl, rfl⟩) (by decide))

end ThreadsPlatform
