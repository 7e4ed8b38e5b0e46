/-
The publish journal is truthful.

Before `publish_container` is called nothing an operation does can have
published, so the part that matters starts at PUBLISH_REQUESTED: the
record is durable when the call is made, and from there every write
either leaves it or moves it to an end. What an end may claim is carried
by `Answered`: FAILED_FINAL needs a rejection and a status query of the
container that was called. Every write goes through the transition table
against the durable record, whatever the coroutine believes it to be, so
a write that failed after it took effect is never overwritten by the
correction that follows.
-/
import ThreadsPlatform.Standalone.Mutations

namespace ThreadsPlatform

open Relational

variable {outcome : ApiOutcome (Option String)} {container : ContainerStatus} {items : Nat}
  {otherwise : Publishing → Publishing}

-- ==== what is claimed

/-- The phases an operation may be in once it was published or tried to. -/
def OperationPhase.afterCall : OperationPhase → Bool
  | .publishRequested | .published | .ambiguous | .failedFinal => true
  | _ => false

namespace Publishing

/-- The records follow `_TRANSITIONS`, from RECEIVED on. -/
def Journaled (P : Publishing) : Prop :=
  P.journal.IsChain (fun next current => current.phase.allows next.phase = true)
    ∧ ∀ op ∈ P.journal.getLast?, op.phase = .received

/-- The API rejected the call with a deterministic code, and a query
returned the container in a state no publish is pending in. -/
def Rejected (P : Publishing) (id : String) : Prop :=
  ∃ code container, P.rejection = some (code, container)
    ∧ code ∈ deterministicRejectionCodes ∧ container.containerId = some id
    ∧ container.status ∈ [some "FINISHED", some "ERROR", some "EXPIRED"]

/-- PUBLISH_REQUESTED of the container is the durable record. -/
def Requested (P : Publishing) (op : LocalOperation) (id : String) : Prop :=
  P.journal.head? = some op ∧ op.phase = .publishRequested ∧ op.containerId = some id

/-- The container was published, or tried to be, and the durable record
does not claim more than is known. -/
def Answered (P : Publishing) (id : String) : Prop :=
  P.calls = [id] ∧ ∃ op, P.journal.head? = some op ∧ op.phase.afterCall = true
    ∧ (op.phase = .failedFinal → P.Rejected id)

/-- A result that claims nothing, or what the durable record says. -/
def Claims (P : Publishing) (id : String) (result : PublishResult) : Prop :=
  (∀ code, result = .failed code → P.Rejected id) ∧ ∀ mediaId, result = .success mediaId →
      ∃ op, P.journal.head? = some op ∧ op.phase = .published ∧ op.mediaId = some mediaId

/-- What holds where the coroutine is. -/
def Fits (P : Publishing) : PublishPoint → Prop
  | .start _ _ => P.journal = [] ∧ P.calls = []
  | .preparing _ _ | .creating _ _ | .awaitingChild _ _ _ _ | .awaiting _ _ _ | .ready _ =>
    P.calls = []
  | .requested op id => P.Requested op id ∧ P.calls = []
  | .publishing op id | .querying op id _ | .confirming op id _ =>
    P.Requested op id ∧ P.calls = [id]
  | .ended result =>
    (P.calls = [] ∧ ∀ mediaId, result ≠ .success mediaId) ∨ ∃ id, P.Answered id ∧ P.Claims id result

/-- The invariant of an operation. -/
def Truthful (P : Publishing) : Prop :=
  P.Journaled ∧ P.Fits P.point

-- ==== the writes

variable {P : Publishing} {op : LocalOperation} {w : JournalWrite}

@[simp] theorem write_calls : (P.write op w).calls = P.calls := by
  unfold write
  split <;> rfl

@[simp] theorem write_rejection : (P.write op w).rejection = P.rejection := by
  unfold write
  split <;> rfl

/-- A write leaves the journal, or puts a record the table allows on top. -/
theorem write_journal (P : Publishing) (op : LocalOperation) (w : JournalWrite) :
    (P.write op w).journal = P.journal
      ∨ (∃ current, P.journal.head? = some current ∧ current.phase.allows op.phase = true)
        ∧ (P.write op w).journal = op :: P.journal := by
  unfold write
  split
  · rename_i h
    obtain ⟨current, hcurrent, hallowed⟩ := (Option.any_eq_true ..).mp h.1
    simp only [updateAllowed, Bool.and_eq_true] at hallowed
    exact .inr ⟨⟨current, hcurrent, hallowed.1.2⟩, rfl⟩
  · exact .inl rfl

theorem head_of_writes (h : P.writes op w = true) : (P.write op w).journal.head? = some op := by
  simp only [writes, checks_hold] at h
  have hnot : w ≠ .refused := by rw [h.2]; decide
  rw [write, if_pos ⟨h.1, hnot⟩]
  rfl

theorem Journaled.write (h : P.Journaled) (op : LocalOperation) (w : JournalWrite) :
    (P.write op w).Journaled := by
  rcases write_journal P op w with heq | ⟨⟨current, hcurrent, hallows⟩, heq⟩
  · exact ⟨heq ▸ h.1, heq ▸ h.2⟩
  · cases hjournal : P.journal with
    | nil => rw [hjournal] at hcurrent; cases hcurrent
    | cons first rest =>
      obtain rfl : first = current := by
        rw [hjournal] at hcurrent
        exact Option.some.inj hcurrent
      obtain ⟨hchain, hlast⟩ := h
      rw [hjournal] at heq hchain hlast
      constructor
      · rw [heq]
        exact .cons_cons hallows hchain
      · rw [heq]
        exact hlast

theorem Rejected.write {id : String} (h : P.Rejected id) : (P.write op w).Rejected id := by
  obtain ⟨code, container, hrejection, hrest⟩ := h
  exact ⟨code, container, write_rejection.trans hrejection, hrest⟩

theorem Answered.write {id : String} (h : P.Answered id) (hafter : op.phase.afterCall = true)
    (hfailed : op.phase = .failedFinal → P.Rejected id) : (P.write op w).Answered id := by
  obtain ⟨hcalls, stored, hstored, hphase, hfail⟩ := h
  refine ⟨write_calls.trans hcalls, ?_⟩
  rcases write_journal P op w with heq | ⟨-, heq⟩
  · exact ⟨stored, heq ▸ hstored, hphase, fun h => (hfail h).write⟩
  · exact ⟨op, by rw [heq]; rfl, hafter, fun h => (hfailed h).write⟩

theorem Requested.answered {id : String} (h : P.Requested op id) (hcalls : P.calls = [id]) :
    P.Answered id := by
  refine ⟨hcalls, op, h.1, by rw [h.2.1]; rfl, fun hfailed => ?_⟩
  rw [h.2.1] at hfailed
  cases hfailed

-- ==== before the call

/-- An operation that has called nothing and ends without success. -/
theorem Truthful.finish (h : P.Journaled) (hcalls : P.calls = []) {result : PublishResult}
    (hresult : ∀ mediaId, result ≠ .success mediaId) : (P.finish result).Truthful :=
  ⟨h, .inl ⟨hcalls, hresult⟩⟩

open Truthful

theorem Truthful.failFinal (h : P.Journaled) (hcalls : P.calls = []) (code : String) :
    (P.failFinal op code w).Truthful :=
  finish (h.write _ w) (write_calls.trans hcalls) fun _ h => by cases h

open Publishing

section

variable (h : P.Journaled) (hcalls : P.calls = [])

include h hcalls

theorem Truthful.persist {point : PublishPoint}
    (hpoint : ∀ Q : Publishing, Q.calls = [] → Q.journal.head? = some op → Q.Fits point)
    (hotherwise : ∀ Q : Publishing, Q.Journaled → Q.calls = [] → (otherwise Q).Truthful) :
    (P.persist op w point otherwise).Truthful := by
  unfold Publishing.persist
  split
  · rename_i hwrites
    exact ⟨h.write op w, hpoint { P.write op w with point := point } (write_calls.trans hcalls)
      (head_of_writes hwrites)⟩
  · exact hotherwise _ (h.write op w) (write_calls.trans hcalls)

theorem Truthful.receive (kind : OperationKind) (items : Nat) :
    (P.receive kind items w).Truthful := by
  have hstart (op : LocalOperation) (hop : op.phase = .received) (point : PublishPoint) :
      ({ P with journal := [op], point := point } : Publishing).Journaled :=
    ⟨.singleton _, fun last hlast => Option.some.inj hlast ▸ hop⟩
  cases w with
  | done =>
    refine ⟨hstart _ rfl _, ?_⟩
    simp only [receive]
    split <;> exact hcalls
  | refused => exact finish h hcalls fun _ h => by cases h
  | lost => exact ⟨hstart _ rfl _, .inl ⟨hcalls, fun _ h => by cases h⟩⟩

theorem Truthful.create (items : Nat) (outcome : ApiOutcome (Option String)) (w' : JournalWrite) :
    (P.create op items outcome w w').Truthful := by
  unfold Publishing.create
  split
  · split
    · unfold created
      split
      · refine persist h hcalls (fun Q hQ _ => by split <;> exact hQ) fun Q hQ hnone => ?_
        split
        · exact failFinal hQ hnone _
        · exact finish hQ hnone fun _ h => by cases h
      · exact persist h hcalls (fun Q hQ _ => hQ) fun Q hQ hnone => failFinal hQ hnone _
    · exact failFinal h hcalls _
  · exact failFinal h hcalls _
  · exact failFinal h hcalls _
  · exact failFinal h hcalls _
  · exact failFinal h hcalls _
  · exact finish h hcalls fun _ h => by cases h

theorem Truthful.wait (outcome : WaitOutcome) {ready again : PublishPoint}
    (hready : ∀ Q : Publishing, Q.calls = [] → Q.Fits ready)
    (hagain : ∀ Q : Publishing, Q.calls = [] → Q.Fits again) :
    (P.wait op outcome w ready again).Truthful := by
  cases outcome with
  | ready => exact ⟨h, hready _ hcalls⟩
  | again => exact ⟨h, hagain _ hcalls⟩
  | failed code => exact failFinal h hcalls _
  | interrupted => exact finish h hcalls fun _ h => by cases h

end

-- ==== after the call

section AfterCall

variable {id : String}

section

variable (h : P.Journaled) (hanswered : P.Answered id)

include h hanswered

theorem Truthful.endAmbiguous (code : String) {result : PublishResult}
    (hresult : result = .ambiguous ∨ result = .interrupted) :
    (P.endAmbiguous op code w result).Truthful := by
  have hafter : (P.write { op with phase := .ambiguous, outcomeCode := some code } w).Answered id :=
    hanswered.write rfl fun h => by cases h
  refine ⟨h.write _ w, .inr ⟨id, hafter, ?_⟩⟩
  rcases hresult with rfl | rfl <;> exact ⟨fun _ h => (by cases h), fun _ h => by cases h⟩

/-- FAILED_FINAL is written, or the outcome is ambiguous. -/
theorem Truthful.raiseFailedFinal (hrejected : P.Rejected id) (code : String) (w' : JournalWrite) :
    (P.raiseFailedFinal op code w w').Truthful := by
  have hafter :
      (P.write { op with phase := .failedFinal, outcomeCode := some code } w).Answered id :=
    hanswered.write rfl fun _ => hrejected
  unfold Publishing.raiseFailedFinal
  dsimp only
  split
  · exact ⟨h.write _ w, .inr ⟨id, hafter, fun _ _ => hrejected.write, fun _ h => by cases h⟩⟩
  · exact endAmbiguous (h.write _ w) hafter code (.inl rfl)

theorem Truthful.judged {code : String} (hrejection : P.rejection = some (code, container))
    (w' : JournalWrite) : (P.judged op id code container w w').Truthful := by
  unfold Publishing.judged
  dsimp only
  split
  · exact endAmbiguous h hanswered _ (.inl rfl)
  rename_i hcontainer
  simp only [not_or, not_not] at hcontainer
  split
  · exact endAmbiguous h hanswered _ (.inl rfl)
  rename_i hcode
  have hrejected (hstatus : container.status ∈ [some "FINISHED", some "ERROR", some "EXPIRED"]) :
      P.Rejected id :=
    ⟨code, container, hrejection, Decidable.not_not.mp hcode, hcontainer.1, hstatus⟩
  split
  · rename_i hstatus
    exact raiseFailedFinal h hanswered (hrejected (by simp [hstatus])) _ w'
  split
  · rename_i hstatus
    exact raiseFailedFinal h hanswered (hrejected (by simp [hstatus])) _ w'
  split
  · rename_i hstatus
    exact raiseFailedFinal h hanswered (hrejected (by simp [hstatus])) _ w'
  · exact endAmbiguous h hanswered _ (.inl rfl)

theorem Truthful.status (code : String)
    (hfresh : ∀ stored, P.journal.head? = some stored → stored.phase ≠ .failedFinal)
    (outcome : ApiOutcome ContainerStatus) (w' : JournalWrite) :
    (P.status op id code outcome w w').Truthful := by
  cases outcome with
  | value container =>
    obtain ⟨hcalls, stored, hstored, hphase, -⟩ := hanswered
    have hanswered : ({ P with rejection := some (code, container) } : Publishing).Answered id :=
      ⟨hcalls, stored, hstored, hphase, fun hfailed => absurd hfailed (hfresh stored hstored)⟩
    exact judged (P := { P with rejection := some (code, container) }) h hanswered rfl w'
  | apiError | exception | cancelled => exact endAmbiguous h hanswered _ (.inl rfl)
  | interrupted => exact endAmbiguous h hanswered _ (.inr rfl)

end

theorem Truthful.answer (h : P.Journaled) (hrequested : P.Requested op id)
    (hcalls : P.calls = [id]) (outcome : ApiOutcome (Option String)) :
    (P.answer op id outcome w).Truthful := by
  have hanswered := hrequested.answered hcalls
  unfold Publishing.answer
  split
  · split
    · exact ⟨h, hrequested, hcalls⟩
    · exact endAmbiguous h hanswered _ (.inl rfl)
  · exact endAmbiguous h hanswered _ (.inl rfl)
  · exact ⟨h, hrequested, hcalls⟩
  · exact endAmbiguous h hanswered _ (.inl rfl)
  · exact endAmbiguous h hanswered _ (.inl rfl)
  · exact endAmbiguous h hanswered _ (.inr rfl)

theorem Truthful.confirm (h : P.Journaled) (hanswered : P.Answered id) (mediaId : String)
    (w' : JournalWrite) : (P.confirm op mediaId w w').Truthful := by
  have hafter : (P.write { op with phase := .published, mediaId := some mediaId } w).Answered id :=
    hanswered.write rfl fun h => by cases h
  unfold Publishing.confirm Publishing.persist
  split
  · rename_i hwrites
    refine ⟨h.write _ w, .inr ⟨id, hafter, fun _ h => (by cases h), fun media hmedia => ?_⟩⟩
    cases hmedia
    exact ⟨_, head_of_writes hwrites, rfl, rfl⟩
  · exact endAmbiguous (h.write _ w) hafter _ (.inl rfl)

end AfterCall

-- ==== the step

theorem Truthful.crash (h : P.Truthful) : (P.finish .crashed).Truthful := by
  obtain ⟨hjournaled, hfits⟩ := h
  have hearly (hcalls : P.calls = []) : (P.finish .crashed).Truthful :=
    finish hjournaled hcalls fun _ h => by cases h
  have hlate {id : String} (hanswered : P.Answered id) : (P.finish .crashed).Truthful :=
    ⟨hjournaled, .inr ⟨id, hanswered, fun _ h => (by cases h), fun _ h => by cases h⟩⟩
  cases hpoint : P.point <;> rw [hpoint] at hfits
  case start => exact hearly hfits.2
  case preparing | creating | awaitingChild | awaiting | ready => exact hearly hfits
  case requested => exact hearly hfits.2
  case publishing | querying | confirming => exact hlate (hfits.1.answered hfits.2)
  case ended =>
    rcases hfits with ⟨hcalls, -⟩ | ⟨id, hanswered, -⟩
    · exact hearly hcalls
    · exact hlate hanswered

theorem Truthful.after (h : P.Truthful) (event : PublishEvent) : (P.after event).Truthful := by
  have hjournaled := h.1
  have hat {point : PublishPoint} (hpoint : P.point = point) : P.Fits point := hpoint ▸ h.2
  cases event with
  | crash => exact h.crash
  | receive w =>
    simp only [Publishing.after]
    split
    · rename_i hpoint
      exact receive hjournaled (hat hpoint).2 _ _
    · exact h
  | prepare w w' =>
    simp only [Publishing.after]
    split
    · rename_i hpoint
      exact persist hjournaled (hat hpoint) (fun Q hQ _ => hQ)
        fun Q hQ hnone => failFinal hQ hnone _
    · exact h
  | create outcome w w' =>
    simp only [Publishing.after]
    split
    · rename_i hpoint
      exact create hjournaled (hat hpoint) _ _ _
    · exact h
  | wait outcome w =>
    simp only [Publishing.after]
    split
    · rename_i hpoint
      exact wait hjournaled (hat hpoint) _ (fun Q hQ => hQ) fun Q hQ => hQ
    · rename_i hpoint
      exact wait hjournaled (hat hpoint) _ (fun Q hQ => hQ) fun Q hQ => hQ
    · exact h
  | request w =>
    simp only [Publishing.after]
    split
    · rename_i hpoint
      split
      · rename_i hid
        exact persist hjournaled (hat hpoint) (fun Q hQ hhead => ⟨⟨hhead, rfl, hid⟩, hQ⟩)
          fun Q hQ hnone => finish hQ hnone fun _ h => by cases h
      · exact finish hjournaled (hat hpoint) fun _ h => by cases h
    · exact h
  | call =>
    simp only [Publishing.after]
    split
    · rename_i hpoint
      exact ⟨hjournaled, (hat hpoint).1, by rw [(hat hpoint).2]⟩
    · exact h
  | answer outcome w =>
    simp only [Publishing.after]
    split
    · rename_i hpoint
      exact answer hjournaled (hat hpoint).1 (hat hpoint).2 _
    · exact h
  | status outcome w w' =>
    simp only [Publishing.after]
    split
    · rename_i op id code hpoint
      have hfits := hat hpoint
      refine status hjournaled (hfits.1.answered hfits.2) _ (fun stored hstored => ?_) _ _
      obtain rfl := Option.mem_unique hfits.1.1 hstored
      rw [hfits.1.2.1]
      decide
    · exact h
  | confirm w w' =>
    simp only [Publishing.after]
    split
    · rename_i hpoint
      exact confirm hjournaled ((hat hpoint).1.answered (hat hpoint).2) _ _
    · exact h

theorem Truthful.reachable (h : publishing.Reachable (fun _ _ => True) P) : P.Truthful := by
  refine h.invariant (fun P hstart => ?_) fun P event hP _ _ => hP.after event
  obtain ⟨kind, items, rfl, -⟩ := hstart
  exact ⟨⟨.nil, fun _ h => by cases h⟩, rfl, rfl⟩

-- ==== the calls

section Calls

variable {result : PublishResult} {point ready again : PublishPoint} {code id : String}
  {w' : JournalWrite}

@[simp] theorem finish_calls : (P.finish result).calls = P.calls := rfl

@[simp] theorem failFinal_calls : (P.failFinal op code w).calls = P.calls := write_calls

@[simp] theorem endAmbiguous_calls : (P.endAmbiguous op code w result).calls = P.calls :=
  write_calls

@[simp] theorem raiseFailedFinal_calls : (P.raiseFailedFinal op code w w').calls = P.calls := by
  simp only [raiseFailedFinal]
  split <;> simp

theorem persist_calls (h : ∀ Q, (otherwise Q).calls = Q.calls) :
    (P.persist op w point otherwise).calls = P.calls := by
  unfold persist
  split <;> simp [h]

@[simp] theorem receive_calls {kind : OperationKind} :
    (P.receive kind items w).calls = P.calls := by
  cases w <;> rfl

@[simp] theorem create_calls : (P.create op items outcome w w').calls = P.calls := by
  have hcreated (id : String) : (P.created op items id w w').calls = P.calls := by
    unfold created
    split
    · exact persist_calls fun Q => by split <;> simp
    · exact persist_calls fun Q => by simp
  unfold create
  split
  · split <;> simp [hcreated]
  all_goals simp

@[simp] theorem wait_calls {outcome : WaitOutcome} :
    (P.wait op outcome w ready again).calls = P.calls := by
  cases outcome <;> simp [wait]

@[simp] theorem answer_calls : (P.answer op id outcome w).calls = P.calls := by
  unfold answer
  split
  · split <;> simp
  all_goals simp

@[simp] theorem judged_calls : (P.judged op id code container w w').calls = P.calls := by
  simp only [judged]
  repeat' split
  all_goals simp

@[simp] theorem status_calls {outcome : ApiOutcome ContainerStatus} :
    (P.status op id code outcome w w').calls = P.calls := by
  cases outcome <;> simp [status]

@[simp] theorem confirm_calls {mediaId : String} :
    (P.confirm op mediaId w w').calls = P.calls :=
  persist_calls fun Q => by simp

theorem after_calls (P : Publishing) (event : PublishEvent) : (P.after event).calls = P.calls
      ∨ ∃ op id, P.point = .requested op id ∧ (P.after event).calls = id :: P.calls := by
  cases event with
  | call =>
    simp only [after]
    split
    · rename_i op id hpoint
      exact .inr ⟨op, id, hpoint, rfl⟩
    · exact .inl rfl
  | crash => exact .inl rfl
  | prepare w w' =>
    simp only [after]
    split
    · exact .inl (persist_calls fun Q => by simp)
    · exact .inl rfl
  | request w =>
    simp only [after]
    repeat' split
    · exact .inl (persist_calls fun Q => by simp)
    all_goals exact .inl rfl
  | _ =>
    left
    simp only [after]
    split <;> simp

end Calls

theorem Truthful.called (h : P.Truthful) {id : String} (hid : id ∈ P.calls) :
    P.Answered id ∧ ∀ code, P.point = .ended (.failed code) → P.Rejected id := by
  obtain ⟨-, hfits⟩ := h
  have hnone (hcalls : P.calls = []) : False := by
    rw [hcalls] at hid
    exact List.not_mem_nil hid
  have hsame {called : String} (hcalls : P.calls = [called]) : called = id := by
    rw [hcalls] at hid
    exact (List.mem_singleton.mp hid).symm
  cases hpoint : P.point <;> rw [hpoint] at hfits
  case start => exact (hnone hfits.2).elim
  case preparing | creating | awaitingChild | awaiting | ready => exact (hnone hfits).elim
  case requested => exact (hnone hfits.2).elim
  case publishing | querying | confirming =>
    exact ⟨hsame hfits.2 ▸ hfits.1.answered hfits.2, fun _ h => by cases h⟩
  case ended result =>
    rcases hfits with ⟨hcalls, -⟩ | ⟨called, hanswered, hclaims⟩
    · exact (hnone hcalls).elim
    · obtain rfl := hsame hanswered.1
      exact ⟨hanswered, fun code hcode => hclaims.1 code (PublishPoint.ended.inj hcode)⟩

theorem Truthful.calls_length (h : P.Truthful) : P.calls.length ≤ 1 := by
  cases hcalls : P.calls with
  | nil => exact Nat.zero_le 1
  | cons id rest =>
    have hmem : id ∈ P.calls := hcalls ▸ .head _
    rw [← hcalls, (h.called hmem).1.1]
    exact Nat.le_refl 1

end Publishing

open Publishing in
/-- Whatever the API answers, whichever journal writes fail, with or without
effect, and wherever the process ends: `publish_container` is called at
most once, with PUBLISH_REQUESTED of that container durable; a success is
durable with its media id; after the call the durable phase says no more
than is known, and FAILED_FINAL or an error other than the ambiguous one
needs a deterministic rejection and a query that returned the container;
and the records follow `_TRANSITIONS` from RECEIVED on. -/
theorem publish_journal_truthful (P : Publishing) (h : publishing.Reachable (fun _ _ => True) P) :
    P.calls.length ≤ 1 ∧ (∀ event, (P.after event).calls = P.calls
        ∨ ∃ id op, (P.after event).calls = id :: P.calls ∧ P.journal.head? = some op
          ∧ op.phase = .publishRequested ∧ op.containerId = some id)
      ∧ (∀ mediaId, P.point = .ended (.success mediaId) →
        ∃ op, P.journal.head? = some op ∧ op.phase = .published ∧ op.mediaId = some mediaId)
      ∧ (∀ id ∈ P.calls, ∃ op, P.journal.head? = some op
        ∧ op.phase ∈ [.publishRequested, .published, .ambiguous, .failedFinal]
        ∧ (op.phase = .failedFinal ∨ (∃ code, P.point = .ended (.failed code)) →
          P.Rejected id))
      ∧ P.journal.IsChain (fun next current => current.phase.allows next.phase = true)
      ∧ ∀ op ∈ P.journal.getLast?, op.phase = .received := by
  have hP := Truthful.reachable h
  refine ⟨hP.calls_length, fun event => ?_, fun mediaId hpoint => ?_, fun id hid => ?_, hP.1⟩
  · rcases after_calls P event with hsame | ⟨op, id, hpoint, hcalls⟩
    · exact .inl hsame
    · have hfits := hP.2
      rw [hpoint] at hfits
      exact .inr ⟨id, op, hcalls, hfits.1⟩
  · have hfits := hP.2
    rw [hpoint] at hfits
    rcases hfits with ⟨-, hnot⟩ | ⟨id, -, hclaims⟩
    · exact absurd rfl (hnot mediaId)
    · exact hclaims.2 mediaId rfl
  · obtain ⟨⟨-, op, hhead, hafter, hfailed⟩, hended⟩ := hP.called hid
    refine ⟨op, hhead, ?_, ?_⟩
    · cases hphase : op.phase <;> rw [hphase] at hafter <;> revert hafter <;> decide
    · rintro (hfinal | ⟨code, hcode⟩)
      · exact hfailed hfinal
      · exact hended code hcode

/-- A picture is to be published. -/
def pictureStart : Publishing := ⟨[], .start .postImage 0, [], none⟩

/-- Its container is checked twice, and PUBLISHED fails after it took
effect. -/
def lostConfirmation : List PublishEvent :=
  [.receive .done, .create (.value (some "17900")) .done .done,
    .wait (.api (.value ⟨some "17900", some "IN_PROGRESS"⟩)) .done,
    .wait (.api (.value ⟨some "17900", some "FINISHED"⟩)) .done, .request .done, .call,
    .answer (.value (some "18000")) .done, .confirm .lost .done]

theorem publish_journal_truthful_lost :
    (publishing.runs lostConfirmation pictureStart).journal.map (·.phase)
        = [.published, .publishRequested, .containerCreated, .received]
      ∧ (publishing.runs lostConfirmation pictureStart).calls.length ≤ 1 := by
  have hrun : publishing.Reachable (fun _ _ => True)
      (publishing.runs lostConfirmation pictureStart) :=
    Machine.Reachable.runs (fun _ _ _ _ => ⟨trivial, trivial⟩)
      (.init ⟨.postImage, 0, rfl, fun h => by cases h⟩)
      (by decide :
        publishing.checks (fun _ _ => true) lostConfirmation pictureStart = true)
  exact ⟨by decide, (publish_journal_truthful _ hrun).1⟩

end ThreadsPlatform
