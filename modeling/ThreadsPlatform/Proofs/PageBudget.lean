/-
How many pages one execution of a discovery command commits.

The loop counts what it commits, so it commits its budget at most, and
leaves a run that is still RUNNING after that many PAUSED. The budget is
the caller's, except for an original conversation command.
-/
import ThreadsPlatform.Application.Discovery

namespace ThreadsPlatform

variable {digest : String → String} {budget counted : Nat}

/-- An execution keeps to the caller's budget: it commits that many pages
at most, each by a turn that leaves the run at its page's next cursor, and
a run that is RUNNING after so many is left PAUSED. -/
def PagingCommand.Honours (command : PagingCommand) (maxPages : Nat) : Prop :=
  ∀ digest turns latest now,
    (command.execute digest maxPages turns latest now).1.length ≤ min maxPages maxPagesPerExecution
      ∧ (∀ run ∈ (command.execute digest maxPages turns latest now).1,
        ∃ turn ∈ turns, turn.outcome digest = .commits run
          ∧ turn.answer.bind PageHead.nextCursor = run.cursor)
      ∧ ((command.execute digest maxPages turns latest now).1.length
          = min maxPages maxPagesPerExecution →
        (∀ run, (command.execute digest maxPages turns latest now).1.getLast? = some run →
          run.status = .running) →
        ∃ left, (command.execute digest maxPages turns latest now).2 = some left
          ∧ (latest.status = .running → left.status = .paused ∧ left.cursor = latest.cursor))

/-- The loop commits its budget at most, and unless the last page ended
the run it goes on until the budget is used. -/
theorem pagingLoop_length (digest : String → String) (hcounted : counted ≤ budget)
    (turns : List PagingTurn) :
    counted + (pagingLoop digest budget counted turns).1.length ≤ budget
      ∧ (counted + (pagingLoop digest budget counted turns).1.length = budget →
        (pagingLoop digest budget counted turns).2 = .used
          ∨ ∃ run, (pagingLoop digest budget counted turns).1.getLast? = some run
            ∧ run.status = .succeeded) := by
  induction turns generalizing counted with
  | nil =>
    refine ⟨hcounted, fun heq => .inl ?_⟩
    exact if_pos heq.ge
  | cons turn turns ih =>
    unfold pagingLoop
    split
    · exact ⟨hcounted, fun _ => .inl rfl⟩
    case isFalse hmore =>
      split
      · refine ⟨hcounted, fun heq => ?_⟩
        rw [List.length_nil] at heq
        omega
      · exact ih hcounted
      case h_3 run _ =>
        split
        case isTrue hsucceeded =>
          rw [List.length_singleton]
          exact ⟨by omega, fun _ => .inr ⟨run, rfl, hsucceeded⟩⟩
        · have hnext : counted + 1 ≤ budget := by omega
          obtain ⟨hle, hused⟩ := ih hnext
          dsimp only
          rw [List.length_cons]
          refine ⟨by omega, fun heq => (hused (by omega)).imp_right ?_⟩
          rintro ⟨last, hlast, hsucceeded⟩
          exact ⟨last, by rw [List.getLast?_cons, hlast]; rfl, hsucceeded⟩

/-- What a turn commits has the next page's cursor. -/
theorem PagingTurn.outcome_cursor {turn : PagingTurn} {run : DiscoveryRun}
    (h : turn.outcome digest = .commits run) :
    turn.answer.bind PageHead.nextCursor = run.cursor := by
  unfold PagingTurn.outcome at h
  split at h
  case h_1 _ _ page _ _ hanswer _ =>
    rw [hanswer]
    iterate 2 rw [ite_eq_iff] at h
    simp only [reduceCtorEq, and_false, false_or] at h
    split at h <;> try cases h.2.2
    case h_5 stored hstored =>
      simp only [pageOutcome] at hstored
      iterate 6 (split at hstored <;> try cases hstored)
      simp only [ite_eq_iff, reduceCtorEq, and_false, or_false, TurnOutcome.commits.injEq] at h
      rw [← h.2.2.2]
      rfl
  all_goals cases h

/-- A loop commits what its turns commit. -/
theorem pagingLoop_turn {run : DiscoveryRun} {turns : List PagingTurn}
    (h : run ∈ (pagingLoop digest budget counted turns).1) :
    ∃ turn ∈ turns, turn.outcome digest = .commits run := by
  induction turns generalizing counted with
  | nil => cases h
  | cons turn turns ih =>
    unfold pagingLoop at h
    split at h
    · cases h
    · split at h
      · cases h
      · obtain ⟨turn', hmem, houtcome⟩ := ih h
        exact ⟨turn', .tail _ hmem, houtcome⟩
      case h_3 committed houtcome =>
        split at h
        · rw [List.mem_singleton.mp h]
          exact ⟨turn, .head _, houtcome⟩
        · cases h with
          | head => exact ⟨turn, .head _, houtcome⟩
          | tail _ h =>
            obtain ⟨turn', hmem, houtcome'⟩ := ih h
            exact ⟨turn', .tail _ hmem, houtcome'⟩

/-- A loop whose budget is the caller's or less honours it. -/
theorem PagingCommand.honours_of_le {command : PagingCommand} {maxPages : Nat}
    (h : command.budget maxPages ≤ min maxPages maxPagesPerExecution) :
    command.Honours maxPages := by
  intro digest turns latest now
  obtain ⟨hle, hused⟩ := pagingLoop_length digest (Nat.zero_le _) turns
  rw [Nat.zero_add] at hle hused
  refine ⟨hle.trans h, fun run hrun => ?_, fun heq hrunning => ?_⟩
  · obtain ⟨turn, hmem, houtcome⟩ := pagingLoop_turn hrun
    exact ⟨turn, hmem, houtcome, PagingTurn.outcome_cursor houtcome⟩
  refine ⟨latest.pausedAt now, if_pos ?_, fun hlatest => ?_⟩
  · refine (hused (le_antisymm hle (heq ▸ h))).resolve_right ?_
    rintro ⟨run, hlast, hsucceeded⟩
    rw [hrunning run hlast] at hsucceeded
    cases hsucceeded
  · rw [DiscoveryRun.pausedAt, if_pos hlatest]
    exact ⟨rfl, rfl⟩

-- ==== conversations

namespace ConversationBudget

/-- The run of a conversation after some pages. -/
def runAt (pages : Nat) (cursor : Option String) : DiscoveryRun :=
  { DiscoveryRun.fresh .conversation 0 with pagesProcessed := pages, cursor := cursor }

/-- A turn that commits a page with more to come. -/
def turnAt (pages : Nat) (cursor : Option String) (next : String) : PagingTurn where
  read := some (runAt pages cursor)
  answer := some ⟨0, some next, true⟩
  row := some (runAt pages cursor)
  cursors := []
  skipped := 0
  accepted := true
  now := 0

/-- Three pages of a conversation. -/
def threePages : List PagingTurn :=
  [turnAt 0 none "a", turnAt 1 (some "a") "b", turnAt 2 (some "b") "c"]

/-- A caller who allows one page gets three. -/
theorem conversation_ignores_budget :
    ((PagingCommand.original .conversation).execute id 1 threePages (runAt 3 (some "c")) 0).1.map
      DiscoveryRun.cursor = [some "a", some "b", some "c"] := by
  decide

end ConversationBudget

open ConversationBudget in
/-- Every command honours every budget, except an original conversation
command whose caller allows fewer than three pages. -/
theorem page_budget_honoured (command : PagingCommand) (maxPages : Nat) :
    command.Honours maxPages ↔ ¬ (command = .original .conversation
      ∧ min maxPages maxPagesPerExecution < 3) := by
  constructor
  · rintro h ⟨rfl, hfew⟩
    have hlength := (h id threePages (runAt 3 (some "c")) 0).1
    have hthree : ((PagingCommand.original .conversation).execute id maxPages threePages
        (runAt 3 (some "c")) 0).1.length = 3 := by
      show (pagingLoop id 3 0 threePages).1.length = 3
      decide
    omega
  · intro h
    refine PagingCommand.honours_of_le ?_
    cases command with
    | resume kind => exact le_rfl
    | original kind =>
      cases kind with
      | conversation => exact not_lt.mp fun hfew => h ⟨rfl, hfew⟩
      | search | profile | mentions => exact le_rfl

end ThreadsPlatform
