/-
A discovery run consumes each cursor once.

A page is committed only if the run is where the page was fetched, and
only if its next cursor is new: its digest is not among the run's. So
the cursors of the committed pages are apart, and the run counts them.
Every transaction that holds the run's lock leaves SUCCEEDED and
FAILED_FINAL alone.

# The write of `_start_run`

`_start_run` holds no lock between its read and its write, and what it
writes is the run it read: the columns that differ from the row as
`update_run` selects it (`sent`). A run that is over by then is opened
again, and one that has gone on is taken back to the cursor and the
counters it had, so that its pages are fetched and counted anew. If the
run is open and where it was read, the write moves nothing that the
pages depend on (`RestartsInPlace`).
-/
import ThreadsPlatform.Proofs.DiscoveredThreads

namespace ThreadsPlatform

open Relational Discovery DiscoveryRepository

variable {D : DiscoverySetting} {s s' : Discovery} {e : DiscoveryEvent} {r : Nat}
  {row row' expected run : DiscoveryRun} {page : PageHead} {skipped : Nat} {now : Time}
  {ex : DiscoveryExecution}

-- ==== steps

/-- The committed pages of a run. -/
def Discovery.pagesOf (s : Discovery) (r : Nat) : List CommittedPage :=
  s.pages.filter fun page => decide (page.run = r)

/-- How far a run has got. -/
def DiscoveryRun.position (run : DiscoveryRun) : Option String × Nat × Nat :=
  (run.cursor, run.pagesProcessed, run.itemsProcessed)

/-- `_start_run` writes a run that is where it was read, as it is selected
again or as it is written; and one that is over only if it was selected
RUNNING, so that the status is not sent. -/
def RestartsInPlace (s : Discovery) (e : DiscoveryEvent) : Prop :=
  ∀ x now ex loaded current row, e = .restart x now → s.executions x = some ex →
    ex.loaded = some loaded → ex.current = some current → s.runs ex.run = some row →
    (current.position = loaded.position ∨ row.position = loaded.position)
      ∧ (row.terminal = true → current.status = .running)

/-- What the tables say of a run: its row, the digests of the cursors it
went on with, and its pages. -/
structure RunView where
  row : Option DiscoveryRun
  digests : List String
  pages : List CommittedPage

def Discovery.view (s : Discovery) (r : Nat) : RunView :=
  ⟨s.runs r, (s.cursors r).map Prod.fst, s.pagesOf r⟩

/-- A page is stored: the run goes on at the next cursor, which is new, or
is over. -/
structure StoresPage (D : DiscoverySetting) (digests : List String) (row row' : DiscoveryRun)
    (page : PageHead) : Prop where
  status : row.terminal = false
  cursor : row'.cursor = page.nextCursor
  pages : row'.pagesProcessed = row.pagesProcessed + 1
  items : row'.itemsProcessed = row.itemsProcessed + page.size
  fits : ∀ cursor, page.nextCursor = some cursor → cursor.length ≤ 4096
  ended : page.hasMore = false → row'.status = .succeeded
  more : page.hasMore = true → ∃ cursor, page.nextCursor = some cursor
    ∧ row.cursor ≠ some cursor ∧ D.digest cursor ∉ digests

/-- What an event does to a run. -/
inductive RunMove (D : DiscoverySetting) (r : Nat) : RunView → RunView → Prop
  | same (v : RunView) : RunMove D r v v
  | created (kind : DiscoveryQueryKind) (now : Time) (digests : List String)
      (pages : List CommittedPage) :
      RunMove D r ⟨none, digests, pages⟩ ⟨some (.fresh kind now), digests, pages⟩
  | moved (row row' : DiscoveryRun) (digests : List String) (pages : List CommittedPage)
      (hposition : row'.position = row.position)
      (hover : row.terminal = true → row'.status = row.status) :
      RunMove D r ⟨some row, digests, pages⟩ ⟨some row', digests, pages⟩
  | stored (row row' : DiscoveryRun) (page : PageHead) (digests : List String)
      (pages : List CommittedPage) (hstores : StoresPage D digests row row' page) :
      RunMove D r ⟨some row, digests, pages⟩ ⟨some row', (page.digest? D.digest).toList ++ digests,
        ⟨r, row.cursor, page.size⟩ :: pages⟩

open Discovery

theorem RunMove.wrote {run : Nat} (hrow : s.runs run = some row)
    (hposition : row'.position = row.position)
    (hover : row.terminal = true → row'.status = row.status) :
    RunMove D r (s.view r) ((s.setRun run row').view r) := by
  by_cases heq : r = run
  · subst heq
    simp only [view, setRun, hrow, Function.update_self]
    exact .moved row row' _ _ hposition hover
  · simp only [view, setRun, Function.update_of_ne heq]
    exact .same _

theorem open_over (h : row.terminal = false) : row.terminal = true → row'.status = row.status :=
  fun hterminal => by rw [h] at hterminal; cases hterminal

theorem loadRun_eq_some (h : s.loadRun r = some row) : s.runs r = some row := by
  unfold loadRun at h
  exact (Option.filter_eq_some_iff.mp h).1

open DiscoveryRun

theorem terminal_of_open (h : ¬ (row.status = .succeeded ∨ row.status = .failedRetryable
    ∨ row.status = .failedFinal)) : row.terminal = false := by
  rw [not_or, not_or] at h
  simp [terminal, h]

theorem pageOutcome_rejected {digest : String → String} {cursors : List (String × Nat)}
    (h : pageOutcome digest cursors row expected page skipped now = .rejected run) :
    row.terminal = false ∧ ∃ code, run = row.failed code now := by
  unfold pageOutcome at h
  split at h
  · cases h
  · split at h
    · cases h
    case isFalse hstatus =>
      refine ⟨terminal_of_open hstatus, ?_⟩
      split at h
      · exact ⟨_, (PageOutcome.rejected.inj h).symm⟩
      · split at h
        · exact ⟨_, (PageOutcome.rejected.inj h).symm⟩
        · split at h
          · exact ⟨_, (PageOutcome.rejected.inj h).symm⟩
          · split at h <;> cases h

/-- A stored page was fetched with the run's cursor, and its next cursor
is new. -/
theorem pageOutcome_stored {cursors : List (String × Nat)}
    (h : pageOutcome D.digest cursors row expected page skipped now = .stored run) :
    expected.cursor = row.cursor ∧ StoresPage D (cursors.map Prod.fst) row run page := by
  unfold pageOutcome at h
  split at h
  · cases h
  case isFalse hexpected =>
    split at h
    · cases h
    case isFalse hstatus =>
      split at h
      · cases h
      case isFalse hlong =>
        split at h
        · cases h
        case isFalse hstalled =>
          split at h
          · cases h
          case isFalse hseen =>
            split at h
            · cases h
            obtain rfl := PageOutcome.stored.inj h
            rw [not_or, not_not, not_not] at hexpected
            refine ⟨hexpected.1.symm, terminal_of_open hstatus, rfl, rfl, rfl,
              fun cursor hnext => ?_, fun hmore => by simp [hmore], fun hmore => ?_⟩
            · rw [hnext, Option.any_some, decide_eq_true_eq] at hlong
              exact not_lt.mp hlong
            · cases hnext : page.nextCursor with
              | none => exact absurd ⟨hmore, .inl hnext⟩ hstalled
              | some cursor =>
                refine ⟨cursor, rfl, fun heq => hstalled ⟨hmore, .inr (hnext.trans heq.symm)⟩,
                  fun hmem => hseen ⟨hmore, ?_⟩⟩
                rw [hnext, Option.any_some]
                exact decide_eq_true hmem

theorem outcome_eq_some {o : PageOutcome} (h : s.outcome D ex page skipped now = some o) :
    ∃ expected row, ex.expected = some expected ∧ s.runs ex.run = some row
      ∧ pageOutcome D.digest (s.cursors ex.run) row expected page skipped now = o := by
  unfold outcome at h
  simp only [bind, Option.bind_eq_some_iff, pure, Option.some.injEq] at h
  obtain ⟨expected, hexpected, row, hrow, ho⟩ := h
  exact ⟨expected, row, hexpected, loadRun_eq_some hrow, ho⟩

theorem RunMove.rejected (h : s.outcome D ex page skipped now = some (.rejected run)) :
    RunMove D r (s.view r) ((s.setRun ex.run run).view r) := by
  obtain ⟨expected, row, -, hrow, ho⟩ := outcome_eq_some h
  obtain ⟨hopen, code, rfl⟩ := pageOutcome_rejected ho
  exact .wrote hrow rfl (open_over hopen)

theorem RunMove.paged (h : s.outcome D ex page skipped now = some (.stored run)) :
    RunMove D r (s.view r) ((s.storePage D ex page run).view r) := by
  obtain ⟨expected, row, hexpected, hrow, ho⟩ := outcome_eq_some h
  obtain ⟨hcursor, hstores⟩ := pageOutcome_stored ho
  by_cases heq : r = ex.run
  · subst heq
    have hview : (s.storePage D ex page run).view ex.run = ⟨some run,
        (page.digest? D.digest).toList ++ (s.cursors ex.run).map Prod.fst,
        ⟨ex.run, row.cursor, page.size⟩ :: s.pagesOf ex.run⟩ := by
      simp [view, storePage, pagesOf, hexpected, hcursor, Function.comp_def]
    rw [hview, view, hrow]
    exact .stored row run page _ _ hstores
  · have hview : (s.storePage D ex page run).view r = s.view r := by
      simp [view, storePage, pagesOf, Function.update_of_ne heq, Ne.symm heq]
    rw [hview]
    exact .same _

/-- A column that is where it was read is kept by the write. -/
theorem sent_column {α : Type} [DecidableEq α] {loaded current row : α}
    (h : current = loaded ∨ row = loaded) :
    (if loaded = current then row else loaded) = row := by
  rcases h with rfl | rfl
  · exact if_pos rfl
  · exact ite_self _

theorem sent_restarted {loaded current : DiscoveryRun}
    (h : current.position = loaded.position ∨ row.position = loaded.position) (now : Time) :
    (sent current (loaded.restarted now) row).position = row.position := by
  simp only [position, Prod.mk.injEq] at h ⊢
  exact ⟨sent_column (h.imp (·.1) (·.1)), sent_column (h.imp (·.2.1) (·.2.1)),
    sent_column (h.imp (·.2.2) (·.2.2))⟩

theorem after_move (hs : RestartsInPlace s e) (r : Nat) :
    RunMove D r (s.view r) ((s.after D e).view r) := by
  cases e with
  | startRun x run now =>
    simp only [after, startRun]
    split
    case h_1 hnone =>
      by_cases heq : r = run
      · subst heq
        simp only [view, setExecution, setRun, hnone, Function.update_self]
        exact .created _ now _ _
      · simp only [view, setExecution, setRun, Function.update_of_ne heq]
        exact .same _
    · split <;> exact .same _
  | restart x now =>
    simp only [after, restart]
    split
    case h_1 ex hex =>
      split
      case h_1 loaded current row hloaded hcurrent hrow =>
        obtain ⟨hplace, hover⟩ := hs x now ex loaded current row rfl hex hloaded hcurrent hrow
        exact .wrote hrow (sent_restarted hplace now)
          fun hterminal => if_pos (hover hterminal).symm
      · exact .same _
    · exact .same _
  | resume x run now =>
    simp only [after, resume]
    split
    case h_1 row hrow =>
      split
      · exact .same _
      case isFalse hopen =>
        exact .wrote (loadRun_eq_some hrow) rfl (open_over (Bool.not_eq_true _ ▸ hopen))
    · exact .same _
  | lookupProfile x username authorId now =>
    simp only [after, lookupProfile]
    split
    · split
      case h_1 row hrow =>
        split
        · exact .same _
        · exact .wrote (loadRun_eq_some hrow) rfl fun _ => rfl
      · exact .same _
    · exact .same _
  | reselect | readRoot | storeRoot | fetch =>
    simp only [after, reselect, readRoot, storeRoot, fetch]
    repeat' split
    all_goals exact .same _
  | persistPage x remotes nextCursor hasMore now =>
    simp only [after, persistPage]
    split
    · split
      · exact .same _
      · split
        case h_1 h => exact .rejected h
        case h_2 h =>
          split
          · exact .paged h
          · exact .same _
        · exact .same _
    · exact .same _
  | persistConversation x page skipped now =>
    simp only [after, persistConversation]
    split
    · split
      · split
        case h_1 h => exact .rejected h
        case h_2 h =>
          split
          · exact .paged h
          · exact .same _
        · exact .same _
      · exact .same _
    · exact .same _
  | markApiFailure x code now =>
    simp only [after, markApiFailure]
    split
    · split
      case h_1 row hrow =>
        split
        · exact .same _
        case isFalse hopen =>
          refine .wrote (loadRun_eq_some hrow) ?_ (open_over (Bool.not_eq_true _ ▸ hopen))
          split <;> rfl
      · exact .same _
    · exact .same _
  | pause x now =>
    simp only [after, pause]
    split
    · split
      case h_1 row hrow =>
        split
        case isTrue hrunning =>
          have hopen : row.terminal = false := by simp [terminal, hrunning]
          exact .wrote (loadRun_eq_some hrow) rfl (open_over hopen)
        · exact .same _
      · exact .same _
    · exact .same _
  | stop x => exact .same _

-- ==== invariant

/-- A run counts its pages; their cursors are apart, and so is the cursor
an open run goes on with. -/
structure CountsPages (D : DiscoverySetting) (v : RunView) : Prop where
  absent : v.row = none → v.pages = []
  pages : ∀ row, v.row = some row → row.pagesProcessed = v.pages.length
  items : ∀ row, v.row = some row → row.itemsProcessed = (v.pages.map CommittedPage.size).sum
  apart : (v.pages.map CommittedPage.cursor).Nodup
  digests : ∀ cursor, some cursor ∈ v.pages.map CommittedPage.cursor → D.digest cursor ∈ v.digests
  next : ∀ row, v.row = some row → row.status ≠ .succeeded →
    row.cursor ∉ v.pages.map CommittedPage.cursor
      ∧ ∀ cursor, row.cursor = some cursor → D.digest cursor ∈ v.digests

theorem CountsPages.step {v v' : RunView} (h : CountsPages D v) (hmove : RunMove D r v v') :
    CountsPages D v' := by
  cases hmove with
  | same => exact h
  | created kind now digests pages =>
    obtain rfl : pages = [] := h.absent rfl
    exact {
      absent := fun hnone => by cases hnone
      pages := fun row hrow => by cases hrow; rfl
      items := fun row hrow => by cases hrow; rfl
      apart := .nil
      digests := fun _ hmem => absurd hmem List.not_mem_nil
      next := fun row hrow _ => by
        cases hrow
        exact ⟨List.not_mem_nil, fun _ hcursor => by cases hcursor⟩ }
  | moved row row' digests pages hposition hover =>
    simp only [position, Prod.mk.injEq] at hposition
    obtain ⟨hcursor, hprocessed, hitems⟩ := hposition
    refine ⟨(fun hnone => by cases hnone), fun row'' hrow'' => ?_, fun row'' hrow'' => ?_, h.apart,
      h.digests, fun row'' hrow'' hstatus => ?_⟩
    · cases hrow''
      exact hprocessed.trans (h.pages row rfl)
    · cases hrow''
      exact hitems.trans (h.items row rfl)
    · cases hrow''
      rw [hcursor]
      refine h.next row rfl fun hsucceeded => hstatus ?_
      rw [hover (by simp [terminal, hsucceeded]), hsucceeded]
  | stored row row' page digests pages hstores =>
    have hopen : row.status ≠ .succeeded := by
      intro hsucceeded
      have hterminal := hstores.status
      simp [terminal, hsucceeded] at hterminal
    obtain ⟨hnew, hdigest⟩ := h.next row rfl hopen
    -- the cursors of the pages, this one's too, are on record
    have hkept : ∀ cursor, some cursor ∈ row.cursor :: pages.map CommittedPage.cursor →
        D.digest cursor ∈ digests := by
      intro cursor hmem
      rcases List.mem_cons.mp hmem with heq | hmem
      · exact hdigest cursor heq.symm
      · exact h.digests cursor hmem
    refine ⟨(fun hnone => by cases hnone), fun row'' hrow'' => ?_, fun row'' hrow'' => ?_,
      List.nodup_cons.mpr ⟨hnew, h.apart⟩,
      fun cursor hmem => List.mem_append_right _ (hkept cursor hmem),
      fun row'' hrow'' hstatus => ?_⟩
    · cases hrow''
      rw [hstores.pages, h.pages row rfl, List.length_cons]
    · cases hrow''
      rw [hstores.items, h.items row rfl, List.map_cons, List.sum_cons, Nat.add_comm]
    · cases hrow''
      cases hmore : page.hasMore with
      | false => exact absurd (hstores.ended hmore) hstatus
      | true =>
        obtain ⟨cursor, hnext, -, hfresh⟩ := hstores.more hmore
        rw [hstores.cursor, hnext]
        refine ⟨fun hmem => hfresh (hkept cursor hmem), fun c hc => ?_⟩
        cases hc
        simp [PageHead.digest?, hmore, hnext]

theorem CountsPages.reachable (h : (discovery D).Reachable RestartsInPlace s) (r : Nat) :
    CountsPages D (s.view r) := by
  refine Machine.Reachable.invariant (I := fun s => CountsPages D (s.view r)) ?_
    (fun s e hs _ hplace => hs.step (after_move hplace r)) h
  rintro s rfl
  exact {
    absent := fun _ => rfl
    pages := fun row hrow => by cases hrow
    items := fun row hrow => by cases hrow
    apart := List.nodup_nil
    digests := fun cursor hmem => absurd hmem List.not_mem_nil
    next := fun row hrow => by cases hrow }

-- ==== cursors

/-- The cursors a run's committed pages were fetched with. -/
def Discovery.cursorsOf (s : Discovery) (r : Nat) : List (Option String) :=
  (s.pagesOf r).map CommittedPage.cursor

/-- A next cursor that is too long, or missing, or was seen before. -/
def Discovery.badCursor (s : Discovery) (r : Nat) (row : DiscoveryRun) (nextCursor : Option String)
    (hasMore : Bool) : Prop :=
  (∃ cursor, nextCursor = some cursor ∧ 4096 < cursor.length)
    ∨ hasMore = true ∧ (nextCursor = none ∨ nextCursor = row.cursor ∨ nextCursor ∈ s.cursorsOf r)

theorem pageOutcome_badCursor (h : CountsPages D (s.view r))
    (hbad : s.badCursor r row page.nextCursor page.hasMore) :
    ∀ run, pageOutcome D.digest (s.cursors r) row expected page skipped now ≠ .stored run := by
  intro run hstored
  obtain ⟨-, hstores⟩ := pageOutcome_stored hstored
  rcases hbad with ⟨cursor, hnext, hlength⟩ | ⟨hmore, hbad⟩
  · exact absurd (hstores.fits cursor hnext) (not_le.mpr hlength)
  · obtain ⟨cursor, hnext, hcursor, hfresh⟩ := hstores.more hmore
    rw [hnext] at hbad
    rcases hbad with hnone | hsame | hseen
    · cases hnone
    · exact hcursor hsame.symm
    · exact hfresh (h.digests cursor hseen)

/-- What a page with such a cursor does: nothing, or it ends the run. -/
theorem outcome_badCursor (h : CountsPages D (s.view ex.run)) (hrow : s.runs ex.run = some row)
    (hbad : s.badCursor ex.run row page.nextCursor page.hasMore) (skipped : Nat) (now : Time) :
    (∀ run, s.outcome D ex page skipped now ≠ some (.stored run))
      ∧ ∀ run, s.outcome D ex page skipped now = some (.rejected run) →
          ∃ code, run = row.failed code now := by
  refine ⟨fun run hstored => ?_, fun run hrejected => ?_⟩
  · obtain ⟨expected, row', -, hrow', ho⟩ := outcome_eq_some hstored
    obtain rfl := Option.mem_unique hrow hrow'
    exact pageOutcome_badCursor h hbad run ho
  · obtain ⟨expected, row', -, hrow', ho⟩ := outcome_eq_some hrejected
    obtain rfl := Option.mem_unique hrow hrow'
    exact (pageOutcome_rejected ho).2

/-- The page an event has in hand, and its execution. -/
def Discovery.pageInHand (s : Discovery) : DiscoveryEvent → Option (DiscoveryExecution × PageHead ×
  Time)
  | .persistPage x remotes nextCursor hasMore now =>
    (s.working x).map fun ex => (ex, ⟨remotes.length, nextCursor, hasMore⟩, now)
  | .persistConversation x page _ now => (s.working x).map fun ex => (ex, page, now)
  | _ => none

theorem after_badCursor (h : CountsPages D (s.view ex.run))
    (hpage : s.pageInHand e = some (ex, page, now)) (hrow : s.runs ex.run = some row)
    (hbad : s.badCursor ex.run row page.nextCursor page.hasMore) :
    s.after D e = s ∨ ∃ code, s.after D e = s.setRun ex.run (row.failed code now) := by
  cases e with
  | persistPage x remotes nextCursor hasMore now' =>
    obtain ⟨ex', hex, heq⟩ := Option.map_eq_some_iff.mp hpage
    cases heq
    obtain ⟨hstored, hrejected⟩ := outcome_badCursor h hrow hbad 0 now
    simp only [after, persistPage, hex]
    split
    · exact .inl rfl
    · split
      case h_1 run hr =>
        obtain ⟨code, rfl⟩ := hrejected run hr
        exact .inr ⟨code, rfl⟩
      case h_2 run hr => exact absurd hr (hstored run)
      · exact .inl rfl
  | persistConversation x page' skipped now' =>
    obtain ⟨ex', hex, heq⟩ := Option.map_eq_some_iff.mp hpage
    cases heq
    obtain ⟨hstored, hrejected⟩ := outcome_badCursor h hrow hbad skipped now
    simp only [after, persistConversation, hex]
    split
    · split
      case h_1 run hr =>
        obtain ⟨code, rfl⟩ := hrejected run hr
        exact .inr ⟨code, rfl⟩
      case h_2 run hr => exact absurd hr (hstored run)
      · exact .inl rfl
    · exact .inl rfl
  | _ => cases hpage

-- ==== the runs

/-- A page that is committed was fetched with the run's cursor. -/
theorem RunMove.fetched {v v' : RunView} {p : CommittedPage} (h : RunMove D r v v')
    (hpages : v'.pages = p :: v.pages) : ∃ row, v.row = some row ∧ p.cursor = row.cursor := by
  cases h with
  | same | created | moved => exact absurd hpages.symm (List.cons_ne_self _ _)
  | stored row => exact ⟨row, rfl, by rw [← (List.cons.inj hpages).1]⟩

/-- A run that is over stays so. -/
theorem RunMove.over {v v' : RunView} (h : RunMove D r v v') (hrow : v.row = some row)
    (hterminal : row.terminal = true) : ∃ row', v'.row = some row' ∧ row'.status = row.status := by
  cases h with
  | same => exact ⟨row, hrow, rfl⟩
  | created => cases hrow
  | moved _ row' _ _ _ hover =>
    cases hrow
    exact ⟨row', rfl, hover hterminal⟩
  | stored _ _ _ _ _ hstores =>
    cases hrow
    rw [hstores.status] at hterminal
    cases hterminal

/-- A discovery run consumes each cursor once, whatever the API answers
and however executions interleave, if `_start_run` writes the run in
place: the run counts its committed pages and their items, no two of
them were fetched with one cursor, each was fetched with the run's cursor
of that time, a bad next cursor at most ends the run, and a run that is
over stays so. -/
theorem cursors_consumed_once (D : DiscoverySetting) (s : Discovery)
    (h : (discovery D).Reachable RestartsInPlace s) :
    (∀ r row, s.runs r = some row → row.pagesProcessed = (s.pagesOf r).length
        ∧ row.itemsProcessed = ((s.pagesOf r).map CommittedPage.size).sum)
      ∧ (∀ r, ((s.pagesOf r).map CommittedPage.cursor).Nodup)
      ∧ ∀ e, RestartsInPlace s e →
          (∀ p, ((discovery D).step s e).pagesOf p.run = p :: s.pagesOf p.run →
            ∃ row, s.runs p.run = some row ∧ p.cursor = row.cursor)
          ∧ (∀ ex page now row, s.pageInHand e = some (ex, page, now) → s.runs ex.run = some row →
              s.badCursor ex.run row page.nextCursor page.hasMore →
              (discovery D).step s e = s
                ∨ ∃ code, (discovery D).step s e = s.setRun ex.run (row.failed code now))
          ∧ ∀ r row, s.runs r = some row → row.status = .succeeded ∨ row.status = .failedFinal →
              ∃ row', ((discovery D).step s e).runs r = some row' ∧ row'.status = row.status := by
  refine ⟨fun r row hrow => ?_, fun r => (CountsPages.reachable h r).apart, fun e hs =>
    ⟨fun p hpages => (after_move hs p.run).fetched hpages,
      fun ex page now row hpage hrow hbad => ?_, fun r row hrow hover => ?_⟩⟩
  · have hcounts := CountsPages.reachable h r
    exact ⟨hcounts.pages row hrow, hcounts.items row hrow⟩
  · exact after_badCursor (CountsPages.reachable h ex.run) hpage hrow hbad
  · refine (after_move hs r).over hrow ?_
    rcases hover with h | h <;> simp [DiscoveryRun.terminal, h]

namespace DiscoverySample

/-- A search fails for now. Its retry reads the run; before it writes it,
a resume command fetches the only page and the run SUCCEEDED. -/
def resumed : List DiscoveryEvent :=
  [.startRun 0 1 0, .fetch 0, .markApiFailure 0 "THREADS_SERVER_ERROR" 1, .startRun 1 1 2,
    .resume 2 1 2, .fetch 2, .persistPage 2 [found] none false 3]

/-- The retry writes what it read, and fetches the page again. -/
def reopened : List DiscoveryEvent :=
  [.reselect 1, .restart 1 4, .fetch 1, .persistPage 1 [found] none false 5]

/-- The run SUCCEEDED. -/
def succeededOnce : Discovery := (discovery setting).runs resumed .empty

/-- And again. -/
def twice : Discovery := (discovery setting).runs reopened succeededOnce

/-- The retry reads the run and writes it; then it pages. -/
def retried : List DiscoveryEvent :=
  [.startRun 0 1 0, .fetch 0, .persistPage 0 [found] (some "a") true 1, .fetch 0,
    .markApiFailure 0 "THREADS_SERVER_ERROR" 2, .startRun 1 1 3, .reselect 1, .restart 1 4,
    .fetch 1, .persistPage 1 [found] none false 5]

/-- Two pages are stored. -/
def retriedOnce : Discovery := (discovery setting).runs retried .empty

/-- A check that `_start_run` writes in place. -/
def restartsInPlace (s : Discovery) : DiscoveryEvent → Bool
  | .restart x _ => (s.executions x).all fun ex => ex.loaded.all fun loaded =>
    (s.runs ex.run).all fun row => decide (row.position = loaded.position) && !row.terminal
  | _ => true

theorem restartsInPlace_spec (h : restartsInPlace s e = true) : RestartsInPlace s e := by
  intro x now ex loaded current row he hex hloaded _ hrow
  subst he
  simp only [restartsInPlace, hex, hloaded, hrow, Option.all_some, checks_hold,
    Bool.not_eq_true'] at h
  exact ⟨.inr h.1, fun hterminal => by rw [h.2] at hterminal; cases hterminal⟩

theorem retriedOnce_reachable : (discovery setting).Reachable RestartsInPlace retriedOnce :=
  Machine.Reachable.runs (fun _ _ _ h => ⟨trivial, restartsInPlace_spec h⟩) (.init rfl)
    (by decide : (discovery setting).checks restartsInPlace retried .empty = true)

theorem twice_reachable : (discovery setting).Reachable (fun _ _ => True) twice :=
  Machine.Reachable.runs (fun _ _ _ _ => ⟨trivial, trivial⟩)
    (Machine.Reachable.runs (fun _ _ _ _ => ⟨trivial, trivial⟩) (.init rfl)
      (by decide : (discovery setting).checks (fun _ _ => true) resumed .empty = true))
    (by decide : (discovery setting).checks (fun _ _ => true) reopened succeededOnce = true)

end DiscoverySample

open DiscoverySample in
/-- The run SUCCEEDED after one page. The retry's write makes it RUNNING
and takes its counters back; a second page is committed that was fetched
with the first one's cursor, and the run counts one. -/
theorem retry_reopens_succeeded_run : (discovery setting).Reachable (fun _ _ => True) twice
      ∧ (succeededOnce.runs 1).map (fun run => (run.status, run.pagesProcessed))
        = some (.succeeded, 1)
      ∧ (((discovery setting).runs [.reselect 1, .restart 1 4] succeededOnce).runs 1).map
          (fun run => (run.status, run.pagesProcessed)) = some (.running, 0)
      ∧ (twice.pagesOf 1).map CommittedPage.cursor = [none, none]
      ∧ (twice.runs 1).map DiscoveryRun.pagesProcessed = some 1 :=
  ⟨twice_reachable, by decide, by decide, by decide, by decide⟩

open DiscoverySample in
/-- A retry that writes in place: the run's two pages have cursors of
their own. -/
theorem cursors_consumed_once_retried : ((retriedOnce.pagesOf 1).map CommittedPage.cursor).Nodup
      ∧ (retriedOnce.pagesOf 1).length = 2 :=
  ⟨(cursors_consumed_once setting retriedOnce retriedOnce_reachable).2.1 1, by decide⟩

end ThreadsPlatform
