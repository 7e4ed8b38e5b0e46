/-
What a worker's session reports say, and how they leave.

Every transaction writes a row and the same row as a report, under the
next revision. Only recovery takes the report from the reservation: the
two are the same where the reservation names the session of the row. A
flush stops at the first report that is refused.
-/
import ThreadsPlatform.Workers.LocalSessions

namespace ThreadsPlatform.LocalSessions

open Relational WorkerSessions LocalStore

variable {s s' : LocalStore} {a : Uuid} {r : Reservation} {row : LocalSessionState}
  {e : LocalEvent} {now : Time} {state : BrowserSessionState} {steps : List StoreStep}

-- ==== row and reports

/-- The report with the highest revision of an account is its row. -/
structure Agrees (s : LocalStore) : Prop where
  last : ∀ a row, s.sessions a = some row → row ∈ s.recorded ∧ row.accountId = a
    ∧ ∀ p ∈ s.recorded, p.accountId = a → p = row ∨ p.revision < row.revision
  unrecorded : ∀ a, s.sessions a = none → ∀ p ∈ s.recorded, p.accountId ≠ a

theorem Agrees.write (h : Agrees s) (hrow : row.revision = s.nextRevision row.accountId) :
    Agrees (s.write row row) where
  last a' row' ha := by
    by_cases heq : a' = row.accountId
    · subst heq
      obtain rfl : row = row' := by simpa [LocalStore.write] using ha
      refine ⟨.head _, rfl, fun p hp hpa => ?_⟩
      rcases List.mem_cons.mp hp with rfl | hp
      · exact .inl rfl
      · right
        cases hold : s.sessions row.accountId with
        | none => exact absurd hpa (h.unrecorded _ hold p hp)
        | some old =>
          rw [nextRevision, hold, Option.elim_some] at hrow
          rcases (h.last _ old hold).2.2 p hp hpa with rfl | hlt
          · exact hrow ▸ Int.lt_succ _
          · exact hlt.trans (hrow ▸ Int.lt_succ _)
    · have hold : s.sessions a' = some row' := by simpa [LocalStore.write, heq] using ha
      obtain ⟨hmem, hid, hlast⟩ := h.last a' row' hold
      refine ⟨.tail _ hmem, hid, fun p hp hpa => ?_⟩
      rcases List.mem_cons.mp hp with rfl | hp
      · exact absurd hpa.symm heq
      · exact hlast p hp hpa
  unrecorded a' ha p hp hpa := by
    by_cases heq : a' = row.accountId
    · simp [LocalStore.write, heq] at ha
    · have hold : s.sessions a' = none := by simpa [LocalStore.write, heq] using ha
      rcases List.mem_cons.mp hp with rfl | hp
      · exact heq hpa.symm
      · exact h.unrecorded a' hold p hp hpa

/-- A step of a call keeps the agreement. -/
def Keeps (step : StoreStep) : Prop :=
  ∀ s s', Agrees s → step s = .ok s' → Agrees s'

theorem keeps_bind {profileRef : String} : Keeps (·.bindProfileOwner a profileRef) := by
  intro s s' hs h
  simp only [bindProfileOwner, steps_ok] at h
  obtain ⟨_, -, -, rfl⟩ := h
  exact ⟨hs.last, hs.unrecorded⟩

theorem keeps_reserve {maximum : Nat} : Keeps (·.reserveSession maximum r) := by
  intro s s' hs h
  simp only [reserveSession, steps_ok] at h
  obtain ⟨-, h⟩ := h
  split at h <;> simp only [steps_ok] at h
  · exact h.2 ▸ hs
  · obtain ⟨-, -, rfl⟩ := h
    exact ⟨hs.last, hs.unrecorded⟩

theorem keeps_record : Keeps (·.recordSessionState r state now) := by
  intro s s' hs h
  simp only [recordSessionState, steps_ok] at h
  obtain ⟨_, -, -, -, -, rfl⟩ := h
  exact hs.write rfl

theorem keeps_transitionFrom : Keeps (transitionFrom r state now) := by
  intro s s' hs h
  simp only [transitionFrom, steps_ok] at h
  exact keeps_record s s' hs h.2

theorem Agrees.runSteps (hsteps : ∀ step ∈ steps, Keeps step) (h : Agrees s) (n : Nat) :
    Agrees (runSteps steps n s) := by
  induction steps generalizing s n with
  | nil => exact h
  | cons step steps ih =>
    cases n with
    | zero => exact h
    | succ n =>
      simp only [LocalSessions.runSteps]
      split
      case h_1 s' hstep =>
        exact ih (fun step hmem => hsteps step (.tail _ hmem))
          (hsteps step (.head _) s s' h hstep) n
      · exact h

-- ==== recovery

/-- The reservation is for the session of the account's row. -/
def Named (s : LocalStore) (r : Reservation) : Prop :=
  ∃ row ∈ s.sessions r.accountId, row.sessionId = r.sessionId ∧ row.profileRef = r.profileRef

/-- The session is recorded as SESSION_EXPIRED, as a row and as a
report. -/
def Expired (s : LocalStore) (r : Reservation) : Prop :=
  ∃ row ∈ s.sessions r.accountId, row.sessionId = r.sessionId ∧ row.profileRef = r.profileRef
    ∧ row.state = .sessionExpired ∧ row ∈ s.recorded

theorem Expired.named (h : Expired s r) : Named s r := by
  obtain ⟨row, hrow, hsession, hprofile, -⟩ := h
  exact ⟨row, hrow, hsession, hprofile⟩

theorem recoverOne_eq (now : Time) (hr : Named s r) (h : Agrees s) :
    ∃ row : LocalSessionState, recoverOne now s r = s.write row row
      ∧ row.revision = s.nextRevision row.accountId ∧ row.accountId = r.accountId
      ∧ row.sessionId = r.sessionId ∧ row.profileRef = r.profileRef
      ∧ row.state = .sessionExpired := by
  obtain ⟨old, hold, hsession, hprofile⟩ := hr
  have hid := (h.last _ old hold).2.1
  refine ⟨⟨r.accountId, r.profileRef, r.sessionId, .sessionExpired, old.revision + 1, now⟩, ?_, ?_,
    rfl, rfl, rfl, rfl⟩
  · rw [recoverOne, show s.sessions r.accountId = some old from hold]
    simp only [← hid, ← hsession, ← hprofile]
  · rw [nextRevision, show s.sessions r.accountId = some old from hold]
    rfl

/-- One round expires its session and keeps what the others were. -/
theorem recoverOne_spec (now : Time) (hr : Named s r) (h : Agrees s) :
    Agrees (recoverOne now s r) ∧ Expired (recoverOne now s r) r
      ∧ ∀ q, (Named s q → Named (recoverOne now s r) q)
        ∧ (Expired s q → Expired (recoverOne now s r) q) := by
  obtain ⟨row, heq, hrevision, hid, hsession, hprofile, hstate⟩ := recoverOne_eq now hr h
  rw [heq]
  have hsame : ∀ q, Named s q → q.accountId = r.accountId → Expired (s.write row row) q := by
    rintro q ⟨old, hold, hqsession, hqprofile⟩ hq
    obtain ⟨old', hold', hrsession, hrprofile⟩ := hr
    rw [hq] at hold
    obtain rfl := Option.mem_unique hold hold'
    refine ⟨row, ?_, ?_, ?_, hstate, .head _⟩
    · simp [LocalStore.write, hq, hid]
    · rw [hsession, ← hrsession, hqsession]
    · rw [hprofile, ← hrprofile, hqprofile]
  have hother : ∀ q : Reservation, q.accountId ≠ r.accountId →
      (s.write row row).sessions q.accountId = s.sessions q.accountId := by
    intro q hq
    simp [LocalStore.write, hid, hq]
  refine ⟨h.write hrevision, hsame r hr rfl, fun q => ?_⟩
  by_cases hq : q.accountId = r.accountId
  · exact ⟨fun h => (hsame q h hq).named, fun h => hsame q h.named hq⟩
  · unfold Named Expired
    rw [hother q hq]
    refine ⟨id, fun h => ?_⟩
    obtain ⟨old, hold, hqsession, hqprofile, hqstate, hmem⟩ := h
    exact ⟨old, hold, hqsession, hqprofile, hqstate, .tail _ hmem⟩

theorem recover_spec {reservations : List Reservation} (now : Time) (h : Agrees s)
    (hnamed : ∀ r ∈ reservations, Named s r) :
    Agrees (reservations.foldl (recoverOne now) s) ∧ ∀ r, r ∈ reservations ∨ Expired s r →
      Expired (reservations.foldl (recoverOne now) s) r := by
  induction reservations generalizing s with
  | nil => exact ⟨h, fun r hr => hr.resolve_left List.not_mem_nil⟩
  | cons q reservations ih =>
    obtain ⟨hagrees, hexpired, hkeeps⟩ := recoverOne_spec now (hnamed q (.head _)) h
    obtain ⟨hlast, hall⟩ := ih hagrees fun r hr =>
      (hkeeps r).1 (hnamed r (.tail _ hr))
    refine ⟨hlast, fun r hr => hall r ?_⟩
    rcases hr with hr | hr
    · rcases List.mem_cons.mp hr with rfl | hr
      · exact .inr hexpired
      · exact .inl hr
    · exact .inr ((hkeeps r).2 hr)

/-- Recovery finds every reservation at the session of a row. -/
def Recoverable (s : LocalStore) (e : LocalEvent) : Prop :=
  ∀ now, e = .recovered now → ∀ r ∈ s.reservations, Named s r

theorem Agrees.step (h : Agrees s) (he : Recoverable s e) : Agrees (s.after e) := by
  cases e with
  | opened =>
    refine h.runSteps (fun step hstep => ?_) _
    unfold openSteps at hstep
    split at hstep
    · split at hstep
      · simp only [List.mem_cons, List.not_mem_nil, or_false] at hstep
        rcases hstep with rfl | rfl
        · exact keeps_bind
        · exact keeps_reserve
      · cases hstep
    · simp only [List.mem_cons, List.not_mem_nil, or_false] at hstep
      rcases hstep with rfl | rfl | rfl | rfl
      · exact keeps_bind
      · exact keeps_reserve
      · exact keeps_transitionFrom
      · exact keeps_transitionFrom
  | moved =>
    refine h.runSteps (fun step hstep => ?_) _
    unfold transitionSteps at hstep
    split at hstep
    · cases hstep
    · split at hstep
      · simp only [List.mem_cons, List.not_mem_nil, or_false] at hstep
        rcases hstep with rfl | rfl
        · exact keeps_record
        · intro s s' hs hok
          cases hok
          split
          · exact ⟨hs.last, hs.unrecorded⟩
          · exact hs
      · cases hstep
  | recovered now =>
    have hspec := (recover_spec now h (he now rfl)).1
    exact ⟨hspec.last, hspec.unrecorded⟩
  | delivered => exact ⟨h.last, h.unrecorded⟩

/-- In every run in which recovery finds the reservations at the sessions
of their rows: the report of an account with the highest revision is its
row, and recovery expires every reserved session in both places. -/
theorem session_rows_reported (s : LocalStore) (h : localSessions.Reachable Recoverable s) :
    (∀ a row, s.sessions a = some row → row ∈ s.recorded
        ∧ ∀ p ∈ s.recorded, p.accountId = a → p = row ∨ p.revision < row.revision)
      ∧ ∀ now, Recoverable s (.recovered now) →
        ∀ r ∈ s.reservations, Expired (s.recoverAfterRestart now) r := by
  have hagrees : Agrees s := by
    refine h.invariant ?_ fun s e hs _ he => hs.step he
    rintro s rfl
    exact ⟨fun a row ha => (by cases ha), fun a _ p hp => (by cases hp)⟩
  refine ⟨fun a row ha => ?_, fun now hnow r hr => ?_⟩
  · obtain ⟨hmem, -, hlast⟩ := hagrees.last a row ha
    exact ⟨hmem, hlast⟩
  · exact (recover_spec now hagrees (hnow now rfl)).2 r (.inl hr)

-- ==== delivery

section Delivery

variable {κ : Type} (report : κ → LocalSessionState → Option κ)

/-- What the Control Plane accepts of the reports, in their order. -/
def accepted : List LocalSessionState → κ → List LocalSessionState
  | [], _ => []
  | p :: reports, k => (report k p).elim (accepted reports k) fun k' => p :: accepted reports k'

/-- A flush delivers what would be accepted and removes nothing else, and
the worker connects. -/
def FlushDelivers (k : κ) (s : LocalStore) : Prop :=
  (∀ p ∈ accepted report s.pendingSessionReports k, p ∈ (flushSessionReports report k s).sent
        ∧ p ∉ (flushSessionReports report k s).store.pending)
    ∧ (∀ p ∈ s.pending, p ∉ (flushSessionReports report k s).store.pending →
      p ∈ accepted report s.pendingSessionReports k)
    ∧ (connectOnce report true k s).returns = true

variable {report} {reports : List LocalSessionState} {k : κ}

theorem flush_pending (p : LocalSessionState) (hp : p ∉ s.pending) :
    p ∉ (flushReports report reports k s).store.pending := by
  induction reports generalizing k s with
  | nil => exact hp
  | cons q reports ih =>
    simp only [flushReports]
    split
    · exact hp
    · exact ih fun h => hp (List.mem_of_mem_filter h)

theorem accepted_length (report : κ → LocalSessionState → Option κ)
    (reports : List LocalSessionState) (k : κ) :
    (accepted report reports k).length ≤ reports.length := by
  induction reports generalizing k with
  | nil => exact le_rfl
  | cons p reports ih =>
    simp only [accepted]
    cases report k p with
    | none => exact (ih k).trans (Nat.le_succ _)
    | some k' => exact Nat.succ_le_succ (ih k')

/-- The flush returns where nothing is refused, and everything is
delivered then. -/
theorem flush_spec (report : κ → LocalSessionState → Option κ) (reports : List LocalSessionState)
    (k : κ) (s : LocalStore) :
    ((flushReports report reports k s).returns = true ↔ accepted report reports k = reports)
      ∧ (accepted report reports k = reports → (flushReports report reports k s).sent = reports
        ∧ ∀ p ∈ reports, p ∉ (flushReports report reports k s).store.pending) := by
  induction reports generalizing k s with
  | nil => exact ⟨iff_of_true rfl rfl, fun _ => ⟨rfl, fun p hp => absurd hp List.not_mem_nil⟩⟩
  | cons p reports ih =>
    cases hreport : report k p with
    | none =>
      have hless : accepted report (p :: reports) k ≠ p :: reports := by
        intro heq
        have hlength := accepted_length report reports k
        simp only [accepted, hreport, Option.elim_none] at heq
        rw [heq, List.length_cons] at hlength
        exact absurd hlength (Nat.not_succ_le_self _)
      exact ⟨iff_of_false (by simp [flushReports, hreport]) hless, fun h => absurd h hless⟩
    | some k' =>
      obtain ⟨hreturns, hdelivers⟩ := ih k' (s.markSessionReportDelivered p)
      simp only [flushReports, accepted, hreport, Option.elim_some, List.cons.injEq, true_and]
      refine ⟨hreturns, fun h => ⟨(hdelivers h).1, fun q hq => ?_⟩⟩
      rcases List.mem_cons.mp hq with rfl | hq
      · exact flush_pending q (by simp [markSessionReportDelivered])
      · exact (hdelivers h).2 q hq

/-- It does so exactly where every pending report is accepted in its
turn. -/
theorem flush_delivers_iff (report : κ → LocalSessionState → Option κ) (k : κ) (s : LocalStore) :
    FlushDelivers report k s
      ↔ accepted report s.pendingSessionReports k = s.pendingSessionReports := by
  obtain ⟨hreturns, hdelivers⟩ := flush_spec report s.pendingSessionReports k s
  refine ⟨fun h => hreturns.mp h.2.2, fun h => ?_⟩
  obtain ⟨hsent, hgone⟩ := hdelivers h
  refine ⟨?_, fun p hp _ => ?_, hreturns.mpr h⟩
  · rw [h]
    exact fun p hp => ⟨hsent.symm ▸ hp, hgone p hp⟩
  · rw [h]
    exact (List.mem_insertionSort _).mpr hp

end Delivery

-- ==== sample

namespace LocalSample

def empty : LocalStore := ⟨fun _ => none, [], fun _ => none, [], []⟩

/-- The first profile is opened and stopped; the process dies after the
second one is reserved, and restarts. -/
def crashed : List LocalEvent :=
  [.opened 2 1 "first" 10 0 1 4, .moved 1 .stopped 2 2, .opened 2 1 "second" 11 3 3 2, .recovered 4]

/-- A profile is opened, and the process restarts. -/
def restarted : List LocalEvent := [.opened 2 1 "first" 10 0 1 4, .recovered 2]

/-- `report_state` as the worker sees it. -/
def control (s : SessionStore) (p : LocalSessionState) : Option SessionStore :=
  (reportState s ⟨2, p.accountId, p.profileRef, p.sessionId, p.state, p.revision, 0⟩).toOption.map
    Prod.fst

/-- The first account was moved to another worker. -/
def reassigned : SessionStore :=
  ⟨fun _ => true, fun a => some (if a = 1 then 3 else 2, "main"), fun _ => none, []⟩

/-- One report of each of two accounts. -/
def waiting : LocalStore :=
  { empty with pending := [⟨1, "main", 10, .stopped, 1, 0⟩, ⟨4, "main", 11, .stopped, 1, 1⟩] }

end LocalSample

open LocalSample in
theorem crashed_report_of_other_session :
    (((localSessions.runs crashed empty).sessions 1).map fun row =>
        (row.profileRef, row.sessionId, row.revision)) = some ("first", 10, 4)
      ∧ ((localSessions.runs crashed empty).recorded.head?.map fun p =>
        (p.profileRef, p.sessionId, p.revision)) = some ("second", 11, 4) := by
  decide

open LocalSample in
theorem session_rows_reported_recovered :
    ∃ row, (localSessions.runs restarted empty).sessions 1 = some row
      ∧ row ∈ (localSessions.runs restarted empty).recorded := by
  have hnamed : ∀ r ∈ (localSessions.runs (restarted.take 1) empty).reservations,
      Named (localSessions.runs (restarted.take 1) empty) r := by
    unfold Named
    decide
  have hreach : localSessions.Reachable Recoverable (localSessions.runs restarted empty) :=
    .step (.step (.init rfl) trivial fun now h => by cases h) trivial fun _ _ => hnamed
  cases hrow : (localSessions.runs restarted empty).sessions 1 with
  | none => exact absurd hrow (by decide)
  | some row => exact ⟨row, rfl, ((session_rows_reported _ hreach).1 1 row hrow).1⟩

open LocalSample in
theorem refused_report_holds_up :
    ¬ FlushDelivers control reassigned waiting
      ∧ (flushSessionReports control reassigned waiting).sent = []
      ∧ (accepted control waiting.pendingSessionReports reassigned).length = 1 := by
  refine ⟨?_, by decide, by decide⟩
  intro h
  exact absurd h.2.2 (by decide)

end ThreadsPlatform.LocalSessions
