/-
Session reports are monotone while a session is the stored one.

The row of an account says what its session last reported, so the check
of the revision covers the stored session under its worker and profile.
A session that another has replaced, or that comes back under another
assignment, is compared with nothing.
-/
import ThreadsPlatform.Application.WorkerSessions

namespace ThreadsPlatform.WorkerSessions

open Relational

variable {s s' : SessionStore} {q p : SessionReport} {S : SessionRun}
  {answer : SessionStore × WorkerAccountSession}

/-- A report neither older nor in conflict with a later one. -/
def Precedes (p : SessionReport) (state : BrowserSessionState) (revision : Int) : Prop :=
  p.revision < revision ∨ (p.revision = revision ∧ p.state = state)

/-- The stored session, reported by its worker. -/
def Current (s : SessionStore) (q : SessionReport) (current : WorkerAccountSession) : Prop :=
  s.sessions q.accountId = some current ∧ current.sessionId = q.sessionId
    ∧ current.workerId = q.workerId ∧ current.profileRef = q.profileRef

/-- A session that reported before is still the stored one. -/
def InOrder (S : SessionRun) : SessionEvent → Prop
  | .report q => (∃ p ∈ S.accepted, p.sessionId = q.sessionId) →
      ∃ current, Current S.store q current
  | .assign _ _ => True

/-- What an accepted report does: nothing if it repeats the row, or it is
the new row. A stored session moves on to a later revision. -/
theorem reportState_ok (h : reportState s q = .ok answer) :
    (answer.1 = s ∧ ∃ current, Current s q current ∧ current.revision = q.revision
        ∧ current.state = q.state)
      ∨ (answer.1 = (s.record q).1
        ∧ ∀ current, Current s q current → current.revision < q.revision) := by
  simp only [reportState, steps_ok] at h
  obtain ⟨-, -, -, h⟩ := h
  cases hrow : s.sessions q.accountId with
  | none =>
    simp only [hrow, steps_ok] at h
    refine .inr ⟨by rw [← h.2], ?_⟩
    rintro current ⟨hcurrent, -⟩
    rw [hrow] at hcurrent
    cases hcurrent
  | some current =>
    simp only [hrow, steps_ok] at h
    obtain ⟨-, h⟩ := h
    split at h
    case isTrue hsame =>
      simp only [steps_ok] at h
      obtain ⟨hle, h⟩ := h
      split at h
      case isTrue heq =>
        simp only [steps_ok] at h
        exact .inl ⟨by rw [← h.2], current, ⟨hrow, hsame.2, hsame.1⟩, heq.symm, h.1⟩
      case isFalse hne =>
        rw [pure_eq_ok] at h
        refine .inr ⟨by rw [← h], ?_⟩
        rintro _ ⟨hcurrent, -⟩
        obtain rfl := Option.mem_unique hrow hcurrent
        omega
    case isFalse hother =>
      simp only [steps_ok] at h
      refine .inr ⟨by rw [← h.2], ?_⟩
      rintro _ ⟨hcurrent, hsession, hassigned⟩
      obtain rfl := Option.mem_unique hrow hcurrent
      exact absurd ⟨hassigned, hsession⟩ hother

/-- Stored sessions reported, each for one account, and their rows follow
every report of theirs. -/
structure Ordered (S : SessionRun) : Prop where
  reported : ∀ a row, S.store.sessions a = some row →
    ∃ p ∈ S.accepted, p.sessionId = row.sessionId
  single : ∀ a b row row', S.store.sessions a = some row → S.store.sessions b = some row' →
    row.sessionId = row'.sessionId → a = b
  follows : ∀ p ∈ S.accepted, ∀ a row, S.store.sessions a = some row →
    row.sessionId = p.sessionId → Precedes p row.state row.revision

/-- In order, an accepted report follows every one of its session. -/
theorem Ordered.precedes (hS : Ordered S) (hq : InOrder S (.report q))
    (h : reportState S.store q = .ok answer) (hp : p ∈ S.accepted)
    (hsession : p.sessionId = q.sessionId) : Precedes p q.state q.revision := by
  obtain ⟨row, hrow⟩ := hq ⟨p, hp, hsession⟩
  have hbefore := hS.follows p hp _ row hrow.1 (hrow.2.1.trans hsession.symm)
  rcases reportState_ok h with ⟨-, current, hcurrent, hrevision, hstate⟩ | ⟨-, hlater⟩
  · obtain rfl := Option.mem_unique hrow.1 hcurrent.1
    rw [← hrevision, ← hstate]
    exact hbefore
  · have hlt := hlater row hrow
    rcases hbefore with hlt' | ⟨heq, -⟩
    · exact .inl (hlt'.trans hlt)
    · exact .inl (heq.trans_lt hlt)

theorem Ordered.report (hS : Ordered S) (hq : InOrder S (.report q)) :
    Ordered (S.after (.report q)) := by
  simp only [SessionRun.after]
  split
  case h_2 => exact hS
  case h_1 answer h =>
    rcases reportState_ok h with ⟨hsame, current, hcurrent, hrevision, hstate⟩ | ⟨hnew, -⟩
    · rw [hsame]
      refine ⟨fun a row hrow => ?_, hS.single, ?_⟩
      · obtain ⟨p, hp, hsession⟩ := hS.reported a row hrow
        exact ⟨p, .tail _ hp, hsession⟩
      · intro p hp a row hrow hsession
        rcases List.mem_cons.mp hp with rfl | hp
        · obtain rfl := hS.single a _ row current hrow hcurrent.1 (hsession.trans hcurrent.2.1.symm)
          obtain rfl := Option.mem_unique hrow hcurrent.1
          exact .inr ⟨hrevision.symm, hstate.symm⟩
        · exact hS.follows p hp a row hrow hsession
    · -- another account that stores the session would make the new row a second one
      have hother {a : Uuid} {row : WorkerAccountSession} (hne : a ≠ q.accountId)
          (hrow : S.store.sessions a = some row) : row.sessionId ≠ q.sessionId := by
        intro hsession
        obtain ⟨p, hp, hp'⟩ := hS.reported a row hrow
        obtain ⟨current, hcurrent⟩ := hq ⟨p, hp, hp'.trans hsession⟩
        exact hne (hS.single a _ row current hrow hcurrent.1 (hsession.trans hcurrent.2.1.symm))
      have hcases {a : Uuid} {row : WorkerAccountSession}
          (hrow : (S.store.record q).1.sessions a = some row) :
          (a = q.accountId ∧ row = q.row) ∨ (a ≠ q.accountId ∧ S.store.sessions a = some row) := by
        by_cases ha : a = q.accountId
        · subst ha
          simp only [SessionStore.record, Function.update_self] at hrow
          exact .inl ⟨rfl, (Option.some.inj hrow).symm⟩
        · simp only [SessionStore.record, Function.update_of_ne ha] at hrow
          exact .inr ⟨ha, hrow⟩
      rw [hnew]
      refine ⟨fun a row hrow => ?_, fun a b row row' hrow hrow' heq => ?_, ?_⟩
      · rcases hcases hrow with ⟨-, rfl⟩ | ⟨-, hold⟩
        · exact ⟨q, .head _, rfl⟩
        · obtain ⟨p, hp, hsession⟩ := hS.reported a row hold
          exact ⟨p, .tail _ hp, hsession⟩
      · rcases hcases hrow with ⟨rfl, rfl⟩ | ⟨hne, hold⟩
        · rcases hcases hrow' with ⟨rfl, -⟩ | ⟨hne', hold'⟩
          · rfl
          · exact absurd heq.symm (hother hne' hold')
        · rcases hcases hrow' with ⟨rfl, rfl⟩ | ⟨-, hold'⟩
          · exact absurd heq (hother hne hold)
          · exact hS.single a b row row' hold hold' heq
      · intro p hp a row hrow hsession
        rcases hcases hrow with ⟨rfl, rfl⟩ | ⟨hne, hold⟩
        · rcases List.mem_cons.mp hp with rfl | hp
          · exact .inr ⟨rfl, rfl⟩
          · exact hS.precedes hq h hp hsession.symm
        · rcases List.mem_cons.mp hp with rfl | hp
          · exact absurd hsession (hother hne hold)
          · exact hS.follows p hp a row hold hsession

theorem Ordered.reachable (h : workerSessions.Reachable InOrder S) : Ordered S := by
  refine h.invariant ?_ ?_
  · rintro S ⟨hempty, hlog⟩
    refine ⟨fun a row hrow => ?_, fun a _ row _ hrow => ?_, fun p hp => ?_⟩
    · rw [hempty] at hrow
      cases hrow
    · rw [hempty] at hrow
      cases hrow
    · rw [hlog] at hp
      cases hp
  · intro S e hS _ hin
    cases e with
    | report q => exact hS.report hin
    | assign a assignment => exact ⟨hS.reported, hS.single, hS.follows⟩

/-- The row of an account, reported again, changes nothing. -/
theorem repeated_unchanged {row : WorkerAccountSession} (hcurrent : Current s q row)
    (hrevision : q.revision = row.revision) (h : reportState s q = .ok answer) : answer.1 = s := by
  rcases reportState_ok h with ⟨hsame, -⟩ | ⟨-, hlater⟩
  · exact hsame
  · exact absurd (hlater row hcurrent) (by omega)

/-- In every run in which a session that reported before reports only
while it is the stored one, of its worker and profile: an accepted report
is neither older than, nor in conflict with, any accepted before. And
whatever happened, the stored report repeated changes nothing. -/
theorem session_reports_monotone (S : SessionRun) :
    (workerSessions.Reachable InOrder S → ∀ q, InOrder S (.report q) →
        ∀ answer, reportState S.store q = .ok answer →
        ∀ p ∈ S.accepted, p.sessionId = q.sessionId → Precedes p q.state q.revision)
      ∧ ∀ q row, Current S.store q row → q.revision = row.revision → q.state = row.state →
        (workerSessions.step S (.report q)).store = S.store := by
  refine ⟨fun hS q hq answer h p hp hsession => ?_, fun q row hcurrent hrevision _ => ?_⟩
  · exact (Ordered.reachable hS).precedes hq h hp hsession
  · simp only [workerSessions, SessionRun.after]
    split
    case h_1 answer h => exact repeated_unchanged hcurrent hrevision h
    · rfl

-- ==== sample

/-- One account, assigned to one worker. -/
def oneAccount : SessionRun where
  store := ⟨fun a => decide (a = 1), fun a => if a = 1 then some (2, "main") else none,
    fun _ => none, []⟩
  accepted := []

/-- A report of that worker. -/
def reportOf (sessionId : Uuid) (state : BrowserSessionState) (revision : Int) : SessionReport :=
  ⟨2, 1, "main", sessionId, state, revision, 0⟩

/-- A session stops, the next one stops, and a report of the first that
was on its way arrives. -/
def delayed : List SessionEvent :=
  [.report (reportOf 10 .stopped 5), .report (reportOf 11 .stopped 1)]

theorem delayed_report_accepted :
    ((workerSessions.runs delayed oneAccount).accepted.map fun p => (p.sessionId, p.revision))
        = [(11, 1), (10, 5)]
      ∧ ((reportState (workerSessions.runs delayed oneAccount).store
          (reportOf 10 .authenticated 3)).toOption.map fun answer =>
            (answer.2.sessionId, answer.2.revision)) = some (10, 3) := by
  decide

theorem session_reports_monotone_repeated :
    (workerSessions.step (workerSessions.runs delayed oneAccount)
        (.report (reportOf 11 .stopped 1))).store
      = (workerSessions.runs delayed oneAccount).store
      ∧ Precedes (reportOf 10 .starting 1) .stopped 5 := by
  have hfirst : workerSessions.Reachable InOrder
      (workerSessions.step oneAccount (.report (reportOf 10 .starting 1))) := by
    refine .step (.init ⟨fun _ => rfl, rfl⟩) trivial ?_
    rintro ⟨p, hp, -⟩
    cases hp
  constructor
  · exact (session_reports_monotone _).2 (reportOf 11 .stopped 1) (reportOf 11 .stopped 1).row
      ⟨by decide, rfl, rfl, rfl⟩ rfl rfl
  · exact (session_reports_monotone _).1 hfirst (reportOf 10 .stopped 5)
      (fun _ => ⟨(reportOf 10 .starting 1).row, by decide, rfl, rfl, rfl⟩) _ rfl
      (reportOf 10 .starting 1) List.mem_cons_self rfl

end ThreadsPlatform.WorkerSessions
