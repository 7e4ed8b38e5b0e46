/-
What is discovered about a thread, and whether it stays discovered.

Upserts and the attachment of authors merge column by column, so they
keep what is there (`Keeps`). A conversation page writes its root back
as the execution read it, before its API calls: what another execution
found out in between is lost. A step keeps all that is known exactly
when it writes no such root back.
-/
import ThreadsPlatform.Application.Discovery

namespace ThreadsPlatform

open Relational Discovery DiscoveryRepository

variable {D : DiscoverySetting} {s s' : Discovery} {e : DiscoveryEvent}
  {row thread old new : DiscoveredThread} {threads threads' : Threads}

-- ==== facts

/-- What is known of a thread stays known. -/
structure Keeps (old new : DiscoveredThread) : Prop where
  authorId : old.authorId.isSome → new.authorId.isSome
  username : old.username.isSome → new.username.isSome
  text : old.text.isSome → new.text.isSome
  permalink : old.permalink.isSome → new.permalink.isSome
  mediaType : old.mediaType.isSome → new.mediaType.isSome
  remoteCreatedAt : old.remoteCreatedAt.isSome → new.remoteCreatedAt.isSome
  isQuotePost : old.isQuotePost.isSome → new.isQuotePost.isSome
  hasReplies : old.hasReplies.isSome → new.hasReplies.isSome
  enriched : old.enrichmentStatus = .enriched → new.enrichmentStatus = .enriched

namespace Keeps

theorem refl (row : DiscoveredThread) : Keeps row row := ⟨id, id, id, id, id, id, id, id, id⟩

theorem trans {a b c : DiscoveredThread} (h : Keeps a b) (h' : Keeps b c) : Keeps a c :=
  ⟨h'.authorId ∘ h.authorId, h'.username ∘ h.username, h'.text ∘ h.text,
    h'.permalink ∘ h.permalink, h'.mediaType ∘ h.mediaType,
    h'.remoteCreatedAt ∘ h.remoteCreatedAt, h'.isQuotePost ∘ h.isQuotePost,
    h'.hasReplies ∘ h.hasReplies, h'.enriched ∘ h.enriched⟩

end Keeps

/-- `COALESCE` keeps a column. -/
theorem isSome_coalesce {α : Type} (excluded : Option α) {column : Option α}
    (h : column.isSome) : (excluded <|> column).isSome := by
  cases excluded <;> simp [h]

theorem merged_keeps (row excluded : DiscoveredThread) : Keeps row (row.merged excluded) where
  authorId := isSome_coalesce _
  username := isSome_coalesce _
  text := isSome_coalesce _
  permalink := isSome_coalesce _
  mediaType := isSome_coalesce _
  remoteCreatedAt := isSome_coalesce _
  isQuotePost := isSome_coalesce _
  hasReplies := isSome_coalesce _
  enriched := fun h => by simp [DiscoveredThread.merged, h]

/-- What is known of every thread stays known. -/
def KeepsAll (threads threads' : Threads) : Prop :=
  ∀ id old, threads id = some old → ∃ new, threads' id = some new ∧ Keeps old new

namespace KeepsAll

theorem refl (threads : Threads) : KeepsAll threads threads :=
  fun _ old h => ⟨old, h, .refl old⟩

theorem trans {a b c : Threads} (h : KeepsAll a b) (h' : KeepsAll b c) : KeepsAll a c := by
  intro id old hold
  obtain ⟨mid, hmid, hkeeps⟩ := h id old hold
  obtain ⟨new, hnew, hkeeps'⟩ := h' id mid hmid
  exact ⟨new, hnew, hkeeps.trans hkeeps'⟩

end KeepsAll

/-- A write of one row keeps what is known if the row does. -/
theorem keepsAll_update {id : String} :
    KeepsAll threads (Function.update threads id (some new))
      ↔ ∀ old, threads id = some old → Keeps old new := by
  constructor
  · intro h old hold
    obtain ⟨new', hnew, hkeeps⟩ := h id old hold
    rw [Function.update_self] at hnew
    exact Option.some.inj hnew ▸ hkeeps
  · intro h id' old hold
    by_cases heq : id' = id
    · subst heq
      exact ⟨new, Function.update_self .., h old hold⟩
    · exact ⟨old, (Function.update_of_ne heq ..).trans hold, .refl old⟩

theorem upsertThread_keeps (threads : Threads) (thread : DiscoveredThread) :
    KeepsAll threads (upsertThread threads thread) := by
  refine keepsAll_update.mpr fun old hold => ?_
  rw [hold]
  exact merged_keeps old thread

theorem foldl_upsertThread_keeps (items : List DiscoveredThread) (threads : Threads) :
    KeepsAll threads (items.foldl upsertThread threads) := by
  induction items generalizing threads with
  | nil => exact .refl threads
  | cons item items ih => exact (upsertThread_keeps threads item).trans (ih _)

theorem attachAuthor_keeps (threads : Threads) (username : String) (authorId : Nat) :
    KeepsAll threads (attachAuthorToThreadsByUsername threads username authorId) := by
  intro id old hold
  refine ⟨_, congrArg _ hold, ?_⟩
  dsimp only
  split
  · exact { Keeps.refl old with authorId := fun _ => rfl }
  · exact .refl old

-- ==== steps

/-- The root an event writes back. -/
def Discovery.writesBack (D : DiscoverySetting) (s : Discovery) :
    DiscoveryEvent → Option DiscoveredThread
  | .persistConversation x page skipped now =>
    match s.working x with
    | some ex =>
      match ex.root, s.outcome D ex page skipped now with
      | .held root, some (.stored _) => some (rootAfter root page)
      | _, _ => none
    | none => none
  | _ => none

/-- The root that is written back knows what the row knows. -/
def WritesBackFresh (D : DiscoverySetting) (s : Discovery) (e : DiscoveryEvent) : Prop :=
  ∀ root, s.writesBack D e = some root →
    ∀ row, s.threads root.remoteThreadId = some row → Keeps row root

theorem updateThread_keeps : KeepsAll threads ((updateThread threads thread).getD threads)
    ↔ ∀ row, threads thread.remoteThreadId = some row → Keeps row thread := by
  unfold updateThread
  cases h : threads thread.remoteThreadId with
  | none => exact ⟨(fun _ row hrow => by cases hrow), fun _ => KeepsAll.refl threads⟩
  | some row =>
    rw [Option.map_some, Option.getD_some, keepsAll_update, h]

open Discovery

/-- What `persistConversation` does to the threads. -/
theorem persistConversation_threads (x : Nat) (page : PageHead) (skipped : Nat) (now : Time) :
    (s.persistConversation D x page skipped now).threads
      = (s.writesBack D (.persistConversation x page skipped now)).elim s.threads
        fun root => (updateThread s.threads root).getD s.threads := by
  simp only [persistConversation, writesBack]
  cases s.working x with
  | none => rfl
  | some ex =>
    cases hroot : ex.root with
    | unread | missing => simp only [hroot, Option.elim_none]
    | held root =>
      cases houtcome : s.outcome D ex page skipped now with
      | none => simp only [hroot, houtcome, Option.elim_none]
      | some outcome =>
        cases outcome with
        | stale | settled | aborted => simp only [hroot, houtcome, Option.elim_none]
        | rejected run => simp only [hroot, houtcome, Option.elim_none]; rfl
        | stored run =>
          simp only [hroot, houtcome, Option.elim_some]
          cases updateThread s.threads (rootAfter root page) <;> rfl

theorem after_keeps (h : s.writesBack D e = none) : KeepsAll s.threads (s.after D e).threads := by
  cases e with
  | startRun | reselect | restart | resume | readRoot | fetch | markApiFailure | pause =>
    simp only [after, startRun, reselect, restart, resume, readRoot, fetch, markApiFailure, pause]
    repeat' split
    all_goals exact .refl _
  | lookupProfile x username authorId now =>
    simp only [after, lookupProfile]
    split
    · split
      · split
        · exact .refl _
        · exact attachAuthor_keeps _ _ _
      · exact .refl _
    · exact .refl _
  | storeRoot x mediaId text permalink publishedAt =>
    simp only [after, storeRoot]
    split
    · split
      · exact upsertThread_keeps _ _
      · exact .refl _
    · exact .refl _
  | persistPage x remotes nextCursor hasMore now =>
    simp only [after, persistPage]
    split
    · split
      · exact .refl _
      · split
        · exact .refl _
        · split
          · exact foldl_upsertThread_keeps _ _
          · exact .refl _
        · exact .refl _
    · exact .refl _
  | persistConversation x page skipped now =>
    rw [after, persistConversation_threads, h]
    exact .refl _
  | stop x => exact .refl _

theorem after_keeps_iff : KeepsAll s.threads (s.after D e).threads ↔ WritesBackFresh D s e := by
  cases hback : s.writesBack D e with
  | none =>
    refine ⟨fun _ root hroot => ?_, fun _ => after_keeps hback⟩
    rw [hback] at hroot
    cases hroot
  | some root =>
    have hevent : ∃ x page skipped now, e = .persistConversation x page skipped now := by
      cases e with
      | persistConversation x page skipped now => exact ⟨x, page, skipped, now, rfl⟩
      | _ => cases hback
    obtain ⟨x, page, skipped, now, rfl⟩ := hevent
    rw [after, persistConversation_threads, hback, Option.elim_some, updateThread_keeps]
    constructor
    · intro h root' hroot'
      rw [hback] at hroot'
      exact Option.some.inj hroot' ▸ h
    · exact fun h => h root hback

/-- What is known of a thread stays known in a step exactly when a root
that is written back knows what its row knows; and so over every run
whose steps all do. -/
theorem thread_facts_kept (D : DiscoverySetting) (s : Discovery) :
    (∀ e, KeepsAll s.threads ((discovery D).step s e).threads ↔ WritesBackFresh D s e)
      ∧ ∀ s', ((discovery D).startingAt s).Reachable (WritesBackFresh D) s' →
          KeepsAll s.threads s'.threads := by
  refine ⟨fun e => after_keeps_iff, fun s' h => ?_⟩
  refine Machine.Reachable.after (I := fun s' => KeepsAll s.threads s'.threads) (.refl _) ?_ h
  exact fun s' e hkept _ hfresh => hkept.trans (after_keeps_iff.mpr hfresh)

namespace DiscoverySample

/-- Run 0 is a conversation, run 1 a search. -/
def setting : DiscoverySetting where
  queries run := ⟨if run = 0 then .conversation else .search, "root"⟩
  digest := id
  httpsUrl _ := true

/-- The root, as a search finds it. -/
def found : RemoteDiscoveryThread :=
  ⟨"root", none, some "author", some "text", none, none, none, none, none⟩

/-- The conversation's root is stored without text; a search finds it with
text. -/
def searched : List DiscoveryEvent :=
  [.startRun 0 0 0, .readRoot 0, .storeRoot 0 "root" none none none, .startRun 1 1 0, .fetch 1,
    .persistPage 1 [found] none false 1, .fetch 0]

/-- The state before the conversation's page. -/
def beforePage : Discovery := (discovery setting).runs searched .empty

/-- The conversation's page. -/
def page : DiscoveryEvent := .persistConversation 0 ⟨1, none, false⟩ 0 2

end DiscoverySample

open DiscoverySample in
/-- The text and the username are known and ENRICHED is stored; the
conversation's page takes all three back. -/
theorem conversation_page_forgets : (discovery setting).Reachable (fun _ _ => True) beforePage
      ∧ (beforePage.threads "root").map (fun t => (t.text, t.username, t.enrichmentStatus))
        = some (some "text", some "author", .enriched)
      ∧ (((discovery setting).step beforePage page).threads "root").map
          (fun t => (t.text, t.username, t.enrichmentStatus))
        = some (none, none, .enrichmentNeeded) := by
  have hreach : (discovery setting).Reachable (fun _ _ => True) beforePage :=
    Machine.Reachable.runs (fun _ _ _ _ => ⟨trivial, trivial⟩) (.init rfl)
      (by decide : (discovery setting).checks (fun _ _ => true) searched .empty = true)
  exact ⟨hreach, by decide, by decide⟩

open DiscoverySample in
theorem thread_facts_kept_search :
    KeepsAll beforePage.threads
      ((discovery setting).step beforePage (.persistPage 1 [found] none false 2)).threads :=
  ((thread_facts_kept setting beforePage).1 _).mpr fun root hroot => by cases hroot

end ThreadsPlatform
