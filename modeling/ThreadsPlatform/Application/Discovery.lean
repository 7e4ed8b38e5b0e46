/-
The discovery handler: runs that page through the API and what they
store about threads.

An execution of a run (the original command, its retries and the resume
commands) works in several transactions with API calls between them: it
starts or resumes the run, reads the run and fetches a page with its
cursor, and stores the page if the run is still where it was read. Many
executions of one run may be under way; every transaction is one event
of the machine, except `_start_run`, which reads the run without a lock
and writes it later. Its `update_run` selects the row once more, assigns
every column from the run read first, and the session sends the columns
that differ from the row selected last: three events.

The API may answer anything. A run's query does not change, so it is a
parameter, as are `sha256` and the check of an HTTPS URL. Replies,
evidence and lead candidates are written beside this and read by no
step of it; the id the author tables give a thread is an input.
-/
import Mathlib.Logic.Function.Basic
import ThreadsPlatform.Domain.Commands

namespace ThreadsPlatform

open Relational

-- ==== runs

/-- `DiscoveryRunStatus`. -/
inductive DiscoveryRunStatus where
  | running | paused | succeeded | failedRetryable | failedFinal
  deriving DecidableEq

/-- `DiscoveryQueryKind`. -/
inductive DiscoveryQueryKind where
  | search | profile | mentions | conversation
  deriving DecidableEq

/-- What a run's query says, as far as paging asks. -/
structure DiscoveryQuery where
  kind : DiscoveryQueryKind
  /-- The root of a conversation. -/
  threadRemoteId : String

/-- The columns of a run that `update_run` writes. -/
structure DiscoveryRun where
  status : DiscoveryRunStatus
  cursor : Option String
  profileLookupComplete : Bool
  pagesProcessed : Nat
  itemsProcessed : Nat
  itemsSkipped : Nat
  errorCode : Option String
  updatedAt : Time
  finishedAt : Option Time
  deriving DecidableEq

namespace DiscoveryRun

/-- The run `_start_run` inserts. -/
def fresh (kind : DiscoveryQueryKind) (now : Time) : DiscoveryRun where
  status := .running
  cursor := none
  profileLookupComplete := decide (kind ≠ .profile)
  pagesProcessed := 0
  itemsProcessed := 0
  itemsSkipped := 0
  errorCode := none
  updatedAt := now
  finishedAt := none

/-- A run that is started or resumed again. -/
def restarted (run : DiscoveryRun) (now : Time) : DiscoveryRun :=
  { run with status := .running, errorCode := none, finishedAt := none, updatedAt := now }

/-- A run that failed for good. -/
def failed (run : DiscoveryRun) (code : String) (now : Time) : DiscoveryRun := { run with
    status := .failedFinal
    errorCode := some code
    finishedAt := some now
    updatedAt := now }

/-- `update_run` assigns every column of `run` to the record it selected,
`current`: those that differ are sent, to the row as it is by then. -/
def sent (current run row : DiscoveryRun) : DiscoveryRun where
  status := if run.status = current.status then row.status else run.status
  cursor := if run.cursor = current.cursor then row.cursor else run.cursor
  profileLookupComplete := if run.profileLookupComplete = current.profileLookupComplete then
    row.profileLookupComplete else run.profileLookupComplete
  pagesProcessed := if run.pagesProcessed = current.pagesProcessed then row.pagesProcessed
    else run.pagesProcessed
  itemsProcessed := if run.itemsProcessed = current.itemsProcessed then row.itemsProcessed
    else run.itemsProcessed
  itemsSkipped := if run.itemsSkipped = current.itemsSkipped then row.itemsSkipped
    else run.itemsSkipped
  errorCode := if run.errorCode = current.errorCode then row.errorCode else run.errorCode
  updatedAt := if run.updatedAt = current.updatedAt then row.updatedAt else run.updatedAt
  finishedAt := if run.finishedAt = current.finishedAt then row.finishedAt else run.finishedAt

/-- Neither is left by any locked transaction. -/
def terminal (run : DiscoveryRun) : Bool :=
  decide (run.status = .succeeded) || decide (run.status = .failedFinal)

/-- What `DiscoveryRun` accepts; a row that does not pass cannot be
loaded. -/
def loadable (run : DiscoveryRun) : Bool :=
  run.cursor.all fun cursor => decide (1 ≤ cursor.length) && decide (cursor.length ≤ 4096)

end DiscoveryRun

-- ==== threads

/-- `DiscoveryEnrichmentStatus`. -/
inductive DiscoveryEnrichmentStatus where
  | enrichmentNeeded | enriched | failedRetryable | failedFinal
  deriving DecidableEq

/-- `DiscoveredThread`, the columns `update_thread` writes. -/
structure DiscoveredThread where
  remoteThreadId : String
  authorId : Option Nat
  username : Option String
  text : Option String
  permalink : Option String
  mediaType : Option String
  remoteCreatedAt : Option Time
  isQuotePost : Option Bool
  hasReplies : Option Bool
  enrichmentStatus : DiscoveryEnrichmentStatus
  conversationStatus : DiscoveryEnrichmentStatus
  deriving DecidableEq

/-- `RemoteDiscoveryThread`, and the id its author has or gets. -/
structure RemoteDiscoveryThread where
  remoteThreadId : String
  authorId : Option Nat
  username : Option String
  text : Option String
  permalink : Option String
  mediaType : Option String
  timestamp : Option Time
  isQuotePost : Option Bool
  hasReplies : Option Bool

/-- `str.strip`. -/
def strip (s : String) : String :=
  String.ofList (((s.toList.dropWhile isSpace).reverse.dropWhile isSpace).reverse)

/-- `_optional_bounded`, as a check. -/
def bounded (text : Option String) (maximum : Nat) : Bool :=
  text.all fun text => decide (text.length ≤ maximum)

namespace DiscoveredThread

/-- `DiscoveredThread.__post_init__`, with the check of a permalink. -/
def validated (httpsUrl : String → Bool) (thread : DiscoveredThread) : Option DiscoveredThread :=
  let remoteThreadId := strip thread.remoteThreadId
  if 1 ≤ remoteThreadId.length ∧ remoteThreadId.length ≤ 255
      ∧ bounded thread.username 255 = true ∧ bounded thread.text 10000 = true
      ∧ bounded thread.mediaType 80 = true ∧ thread.permalink.all httpsUrl = true then
    some { thread with remoteThreadId := remoteThreadId }
  else none

/-- The thread a page's item is stored as. -/
def ofRemote (remote : RemoteDiscoveryThread) : DiscoveredThread where
  remoteThreadId := remote.remoteThreadId
  authorId := remote.authorId
  username := remote.username
  text := remote.text
  permalink := remote.permalink
  mediaType := remote.mediaType
  remoteCreatedAt := remote.timestamp
  isQuotePost := remote.isQuotePost
  hasReplies := remote.hasReplies
  enrichmentStatus :=
    if remote.text.isSome ∨ remote.permalink.isSome then .enriched else .enrichmentNeeded
  conversationStatus := .enrichmentNeeded

/-- The thread a conversation's root is stored as, from `get_media`. -/
def ofMedia (mediaId : String) (text permalink : Option String) (publishedAt : Option Time) :
    DiscoveredThread where
  remoteThreadId := mediaId
  authorId := none
  username := none
  text := text
  permalink := permalink
  mediaType := none
  remoteCreatedAt := publishedAt
  isQuotePost := none
  hasReplies := none
  enrichmentStatus := .enrichmentNeeded
  conversationStatus := .enrichmentNeeded

/-- `upsert_thread` on a row: `COALESCE(excluded, row)` by column. -/
def merged (row excluded : DiscoveredThread) : DiscoveredThread where
  remoteThreadId := row.remoteThreadId
  authorId := excluded.authorId <|> row.authorId
  username := excluded.username <|> row.username
  text := excluded.text <|> row.text
  permalink := excluded.permalink <|> row.permalink
  mediaType := excluded.mediaType <|> row.mediaType
  remoteCreatedAt := excluded.remoteCreatedAt <|> row.remoteCreatedAt
  isQuotePost := excluded.isQuotePost <|> row.isQuotePost
  hasReplies := excluded.hasReplies <|> row.hasReplies
  enrichmentStatus :=
    if excluded.enrichmentStatus = .enriched then .enriched else row.enrichmentStatus
  conversationStatus := row.conversationStatus

end DiscoveredThread

/-- The table of threads, by remote id. -/
abbrev Threads := String → Option DiscoveredThread

namespace DiscoveryRepository

/-- `upsert_thread`. -/
def upsertThread (threads : Threads) (thread : DiscoveredThread) : Threads :=
  Function.update threads thread.remoteThreadId
    (some ((threads thread.remoteThreadId).elim thread fun row => row.merged thread))

/-- `update_thread`: the row is what the object is. -/
def updateThread (threads : Threads) (thread : DiscoveredThread) : Option Threads :=
  (threads thread.remoteThreadId).map fun _ =>
    Function.update threads thread.remoteThreadId (some thread)

/-- `attach_author_to_threads_by_username`. -/
def attachAuthorToThreadsByUsername (threads : Threads) (username : String) (authorId : Nat) :
    Threads := fun id => (threads id).map fun row =>
  if row.username = some username ∧ row.authorId = none then { row with authorId := some authorId }
  else row

end DiscoveryRepository

-- ==== pages

/-- A `DiscoveryPage` or `ReplyPage`: its size, and where it goes on. -/
structure PageHead where
  size : Nat
  nextCursor : Option String
  hasMore : Bool

/-- What a page does to its run. -/
inductive PageOutcome where
  /-- The run is not where the page was fetched. -/
  | stale
  /-- The run is over, or failed. -/
  | settled
  /-- The page's cursor ends the run. -/
  | rejected (run : DiscoveryRun)
  /-- A cursor of the run has the page's number, and the insert raises. -/
  | aborted
  | stored (run : DiscoveryRun)
  deriving DecidableEq

/-- What `_persist_discovery_page` and `_persist_conversation_page` decide
about the run, given the run's rows in `discovery_run_cursors`: digests
and page numbers, both unique. -/
def pageOutcome (digest : String → String) (cursors : List (String × Nat))
    (row expected : DiscoveryRun) (page : PageHead) (skipped : Nat) (now : Time) : PageOutcome :=
  if row.cursor ≠ expected.cursor ∨ row.pagesProcessed ≠ expected.pagesProcessed then .stale
  else if row.status = .succeeded ∨ row.status = .failedRetryable ∨ row.status = .failedFinal then
    .settled
  else if page.nextCursor.any (fun cursor => decide (4096 < cursor.length)) then
    .rejected (row.failed "THREADS_DOCUMENTATION_CONTRACT_MISMATCH" now)
  else if page.hasMore = true ∧ (page.nextCursor = none ∨ page.nextCursor = row.cursor) then
    .rejected (row.failed "DISCOVERY_CURSOR_STALLED" now)
  else if page.hasMore = true
      ∧ page.nextCursor.any (fun next => decide (digest next ∈ cursors.map Prod.fst)) = true then
    .rejected (row.failed "DISCOVERY_CURSOR_STALLED" now)
  else if page.hasMore = true ∧ row.pagesProcessed + 1 ∈ cursors.map Prod.snd then .aborted
  else .stored
    { row with
      cursor := page.nextCursor
      pagesProcessed := row.pagesProcessed + 1
      itemsProcessed := row.itemsProcessed + page.size
      itemsSkipped := row.itemsSkipped + skipped
      status := if page.hasMore then .running else .succeeded
      finishedAt := if page.hasMore then none else some now
      errorCode := none
      updatedAt := now }

/-- The digest a stored page adds. -/
def PageHead.digest? (digest : String → String) (page : PageHead) : Option String :=
  if page.hasMore then page.nextCursor.map digest else none

-- ==== the machine

/-- The conversation's root, as an execution has it. -/
inductive Root where
  | unread
  | missing
  | held (thread : DiscoveredThread)

/-- An execution of a run: what `_start_run` loaded and has still to
write, the row as `update_run` selected it, the root, and the run as it
was when the page was fetched. -/
structure DiscoveryExecution where
  run : Nat
  loaded : Option DiscoveryRun
  current : Option DiscoveryRun
  root : Root
  expected : Option DiscoveryRun

/-- A page that was committed: of which run, fetched with which cursor,
of which size. -/
structure CommittedPage where
  run : Nat
  cursor : Option String
  size : Nat

/-- The tables, the executions under way, and the pages committed so far,
newest first. -/
structure Discovery where
  runs : Nat → Option DiscoveryRun
  cursors : Nat → List (String × Nat)
  threads : Threads
  executions : Nat → Option DiscoveryExecution
  pages : List CommittedPage

/-- What an execution `x` does next. -/
inductive DiscoveryEvent where
  /-- `_start_run`, up to reading the run. -/
  | startRun (x run : Nat) (now : Time)
  /-- `update_run`, called by `_start_run`, selects the run again. -/
  | reselect (x : Nat)
  /-- `_start_run` writes the run it read first. -/
  | restart (x : Nat) (now : Time)
  /-- `_resume`. -/
  | resume (x run : Nat) (now : Time)
  /-- `_lookup_profile` stores the profile's author. -/
  | lookupProfile (x : Nat) (username : String) (authorId : Nat) (now : Time)
  /-- `_run_conversation` reads its root. -/
  | readRoot (x : Nat)
  /-- `_run_conversation` stores the root that was missing. -/
  | storeRoot (x : Nat) (mediaId : String) (text permalink : Option String)
      (publishedAt : Option Time)
  /-- The run is read, and a page fetched with its cursor. -/
  | fetch (x : Nat)
  /-- `_persist_discovery_page`. -/
  | persistPage (x : Nat) (threads : List RemoteDiscoveryThread) (nextCursor : Option String)
      (hasMore : Bool) (now : Time)
  /-- `_persist_conversation_page`. -/
  | persistConversation (x : Nat) (page : PageHead) (skipped : Nat) (now : Time)
  /-- `_mark_api_failure`. -/
  | markApiFailure (x : Nat) (code : String) (now : Time)
  /-- The execution's pages are used up. -/
  | pause (x : Nat) (now : Time)
  /-- The execution ends, or its process does. -/
  | stop (x : Nat)

/-- `_RETRYABLE_API_CODES`. -/
def retryableApiCodes : List String :=
  ["THREADS_TRANSPORT_FAILURE", "THREADS_RATE_LIMITED", "THREADS_SERVER_ERROR"]

/-- What the machine takes from elsewhere. -/
structure DiscoverySetting where
  queries : Nat → DiscoveryQuery
  digest : String → String
  httpsUrl : String → Bool

namespace Discovery

open DiscoveryRepository

variable (D : DiscoverySetting) (s : Discovery)

/-- The run row, as a transaction loads it. -/
def loadRun (run : Nat) : Option DiscoveryRun := (s.runs run).filter DiscoveryRun.loadable

/-- The run is written. -/
def setRun (run : Nat) (row : DiscoveryRun) : Discovery :=
  { s with runs := Function.update s.runs run (some row) }

/-- The execution goes on as. -/
def setExecution (x : Nat) (execution : Option DiscoveryExecution) : Discovery :=
  { s with executions := Function.update s.executions x execution }

/-- An execution that has nothing to write first. -/
def working (x : Nat) : Option DiscoveryExecution := (s.executions x).filter fun ex =>
  ex.loaded.isNone

/-- `_start_run`, up to reading the run. -/
def startRun (x run : Nat) (now : Time) : Discovery :=
  match s.runs run with
  | none => (s.setRun run (.fresh (D.queries run).kind now)).setExecution x
      (some ⟨run, none, none, .unread, none⟩)
  | some row =>
    if row.loadable = false ∨ row.status = .failedFinal ∨ row.status = .succeeded then s
    else s.setExecution x
      (some ⟨run, if row.status = .failedRetryable then some row else none, none, .unread, none⟩)

/-- `update_run`, called by `_start_run`, selects the run again. -/
def reselect (x : Nat) : Discovery :=
  match s.executions x with
  | some ex => s.setExecution x (some { ex with current := s.runs ex.run })
  | none => s

/-- `_start_run` writes the run it read first. -/
def restart (x : Nat) (now : Time) : Discovery :=
  match s.executions x with
  | some ex =>
    match ex.loaded, ex.current, s.runs ex.run with
    | some loaded, some current, some row =>
      (s.setRun ex.run (.sent current (loaded.restarted now) row)).setExecution x
        (some { ex with loaded := none })
    | _, _, _ => s
  | none => s

/-- `_resume`: a run that is over is not written. -/
def resume (x run : Nat) (now : Time) : Discovery :=
  match s.loadRun run with
  | some row =>
    if row.terminal then s
    else (s.setRun run (row.restarted now)).setExecution x (some ⟨run, none, none, .unread, none⟩)
  | none => s

/-- `_lookup_profile`, its second transaction. -/
def lookupProfile (x : Nat) (username : String) (authorId : Nat) (now : Time) : Discovery :=
  match s.working x with
  | some ex =>
    match s.loadRun ex.run with
    | some row =>
      if (D.queries ex.run).kind ≠ .profile ∨ row.profileLookupComplete = true then s
      else { s.setRun ex.run { row with profileLookupComplete := true, updatedAt := now } with
        threads := attachAuthorToThreadsByUsername s.threads username authorId }
    | none => s
  | none => s

/-- `_run_conversation` reads its root. -/
def readRoot (x : Nat) : Discovery :=
  match s.working x with
  | some ex =>
    if (D.queries ex.run).kind = .conversation then s.setExecution x (some
      { ex with root := (s.threads (D.queries ex.run).threadRemoteId).elim .missing .held })
    else s
  | none => s

/-- `_run_conversation` stores the root that was missing. -/
def storeRoot (x : Nat) (thread : DiscoveredThread) : Discovery :=
  match s.working x with
  | some ex =>
    match ex.root, thread.validated D.httpsUrl with
    | .missing, some thread =>
      let threads := upsertThread s.threads thread
      { s with threads := threads }.setExecution x (some
        { ex with root := (threads thread.remoteThreadId).elim .missing .held })
    | _, _ => s
  | none => s

/-- The run is read, and a page fetched with its cursor. -/
def fetch (x : Nat) : Discovery :=
  match s.working x with
  | some ex =>
    match s.loadRun ex.run with
    | some row =>
      if row.terminal = true ∨ row.status = .failedRetryable then s.setExecution x none
      else s.setExecution x (some { ex with expected := some row })
    | none => s
  | none => s

/-- What a page in hand does to the run. -/
def outcome (ex : DiscoveryExecution) (page : PageHead) (skipped : Nat) (now : Time) :
    Option PageOutcome := do
  let expected ← ex.expected
  let row ← s.loadRun ex.run
  return pageOutcome D.digest (s.cursors ex.run) row expected page skipped now

/-- The run, its cursors and the committed pages after a page is
stored. -/
def storePage (ex : DiscoveryExecution) (page : PageHead) (run : DiscoveryRun) : Discovery :=
  { s with
    runs := Function.update s.runs ex.run (some run)
    cursors := Function.update s.cursors ex.run
      ((page.digest? D.digest).toList.map (·, run.pagesProcessed) ++ s.cursors ex.run)
    pages := ⟨ex.run, ex.expected.bind DiscoveryRun.cursor, page.size⟩ :: s.pages }

/-- `_persist_discovery_page`: all threads of a page, or nothing. -/
def persistPage (x : Nat) (remotes : List RemoteDiscoveryThread) (nextCursor : Option String)
    (hasMore : Bool) (now : Time) : Discovery :=
  match s.working x with
  | some ex =>
    if (D.queries ex.run).kind = .conversation then s
    else
      let page : PageHead := ⟨remotes.length, nextCursor, hasMore⟩
      match s.outcome D ex page 0 now with
      | some (.rejected run) => s.setRun ex.run run
      | some (.stored run) =>
        match (remotes.map DiscoveredThread.ofRemote).mapM
            (DiscoveredThread.validated D.httpsUrl) with
        | some threads =>
          { s.storePage D ex page run with
            threads := threads.foldl upsertThread s.threads }.setExecution x
            (some { ex with expected := none })
        | none => s
      | _ => s
  | none => s

/-- The root a stored conversation page writes back. -/
def rootAfter (root : DiscoveredThread) (page : PageHead) : DiscoveredThread := { root with
    conversationStatus := if page.hasMore then .enrichmentNeeded else .enriched }

/-- `_persist_conversation_page`: the root goes back as the execution has
it. -/
def persistConversation (x : Nat) (page : PageHead) (skipped : Nat) (now : Time) : Discovery :=
  match s.working x with
  | some ex =>
    match ex.root with
    | .held root =>
      match s.outcome D ex page skipped now with
      | some (.rejected run) => s.setRun ex.run run
      | some (.stored run) =>
        match updateThread s.threads (rootAfter root page) with
        | some threads =>
          { s.storePage D ex page run with threads := threads }.setExecution x
            (some { ex with root := .held (rootAfter root page), expected := none })
        | none => s
      | _ => s
    | _ => s
  | none => s

/-- `_mark_api_failure`. -/
def markApiFailure (x : Nat) (code : String) (now : Time) : Discovery :=
  match s.working x with
  | some ex =>
    match s.loadRun ex.run with
    | some row =>
      if row.terminal then s.setExecution x none
      else (s.setRun ex.run (if code ∈ retryableApiCodes then
          { row with
            status := .failedRetryable
            errorCode := some code
            updatedAt := now
            finishedAt := none }
        else row.failed code now)).setExecution x none
    | none => s
  | none => s

/-- The execution's pages are used up: a RUNNING run is PAUSED. -/
def pause (x : Nat) (now : Time) : Discovery :=
  match s.working x with
  | some ex =>
    match s.loadRun ex.run with
    | some row =>
      if row.status = .running then
        (s.setRun ex.run { row with status := .paused, updatedAt := now }).setExecution x none
      else s.setExecution x none
    | none => s
  | none => s

/-- What an event does. -/
def after : DiscoveryEvent → Discovery
  | .startRun x run now => s.startRun D x run now
  | .reselect x => s.reselect x
  | .restart x now => s.restart x now
  | .resume x run now => s.resume x run now
  | .lookupProfile x username authorId now => s.lookupProfile D x username authorId now
  | .readRoot x => s.readRoot D x
  | .storeRoot x mediaId text permalink publishedAt =>
    s.storeRoot D x (.ofMedia mediaId text permalink publishedAt)
  | .fetch x => s.fetch x
  | .persistPage x threads nextCursor hasMore now =>
    s.persistPage D x threads nextCursor hasMore now
  | .persistConversation x page skipped now => s.persistConversation D x page skipped now
  | .markApiFailure x code now => s.markApiFailure x code now
  | .pause x now => s.pause x now
  | .stop x => s.setExecution x none

/-- Nothing was discovered. -/
def empty : Discovery := ⟨fun _ => none, fun _ => [], fun _ => none, fun _ => none, []⟩

end Discovery

/-- The discovery executions, in any interleaving. -/
def discovery (D : DiscoverySetting) : Machine Discovery DiscoveryEvent where
  init s := s = .empty
  enabled _ _ := True
  step s e := s.after D e

-- ==== budgets

/-- A command that pages: an original one, or a resume, of a query's
kind. -/
inductive PagingCommand where
  | original (kind : DiscoveryQueryKind)
  | resume (kind : DiscoveryQueryKind)

/-- `_MAX_PAGES_PER_EXECUTION`. -/
def maxPagesPerExecution : Nat := 5

/-- The pages `execute` and `_resume` allow. `execute` calls
`_run_conversation` without a number, so its default applies. -/
def PagingCommand.budget (maxPages : Nat) : PagingCommand → Nat
  | .original .conversation => 3
  | .original _ | .resume _ => min maxPages maxPagesPerExecution

/-- One turn of a paging loop: the run as it is read, the API's answer or
its error, the run and its cursors when the page is stored, and whether
the page's items pass their checks. -/
structure PagingTurn where
  read : Option DiscoveryRun
  answer : Option PageHead
  row : Option DiscoveryRun
  cursors : List (String × Nat)
  skipped : Nat
  accepted : Bool
  now : Time

/-- How a paging loop is left. -/
inductive PagingEnd where
  | raised | returned | used | stopped
  deriving DecidableEq

/-- What a turn does: it ends the loop, is not counted, or commits. -/
inductive TurnOutcome where
  | ends (how : PagingEnd)
  | again
  | commits (run : DiscoveryRun)
  deriving DecidableEq

/-- The body of the loop of `_run_discovery_pages` and
`_run_conversation`. -/
def PagingTurn.outcome (digest : String → String) (turn : PagingTurn) : TurnOutcome :=
  match turn.read, turn.answer, turn.row with
  | some read, some page, some row =>
    if read.status = .succeeded then .ends .returned
    else if read.status = .failedFinal ∨ read.status = .failedRetryable then .ends .raised
    else
      match pageOutcome digest turn.cursors row read page turn.skipped turn.now with
      | .stale => .again
      | .settled => .ends (if row.status = .succeeded then .returned else .raised)
      | .rejected _ | .aborted => .ends .raised
      | .stored run => if turn.accepted then .commits run else .ends .raised
  | some read, _, _ => .ends (if read.status = .succeeded then .returned else .raised)
  | none, _, _ => .ends .raised

/-- The loop, with `counted` pages behind it: the runs it commits, and
how it is left; a process may stop anywhere. -/
def pagingLoop (digest : String → String) (budget : Nat) :
    Nat → List PagingTurn → List DiscoveryRun × PagingEnd
  | counted, [] => ([], if budget ≤ counted then .used else .stopped)
  | counted, turn :: turns =>
    if budget ≤ counted then ([], .used)
    else
      match turn.outcome digest with
      | .ends how => ([], how)
      | .again => pagingLoop digest budget counted turns
      | .commits run =>
        if run.status = .succeeded then ([run], .returned)
        else
          let rest := pagingLoop digest budget (counted + 1) turns
          (run :: rest.1, rest.2)

/-- The last transaction, over the run as it is then. -/
def DiscoveryRun.pausedAt (latest : DiscoveryRun) (now : Time) : DiscoveryRun :=
  if latest.status = .running then { latest with status := .paused, updatedAt := now } else latest

/-- An execution of a command: the runs it commits, and what it leaves of
the run once its pages are used up. -/
def PagingCommand.execute (digest : String → String) (maxPages : Nat) (turns : List PagingTurn)
    (latest : DiscoveryRun) (now : Time) (command : PagingCommand) :
    List DiscoveryRun × Option DiscoveryRun :=
  let loop := pagingLoop digest (command.budget maxPages) 0 turns
  (loop.1, if loop.2 = .used then some (latest.pausedAt now) else none)

end ThreadsPlatform
