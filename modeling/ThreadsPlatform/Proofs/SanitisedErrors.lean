/-
Which exceptions the Threads adapter lets out.

Every check of a field raises `ThreadsContractError`, so a response can
only get anything else out of the adapter in three places: the
`Retry-After` of an error, the nesting of a body, and the timestamp of a
discovered thread. `Escapes` says of a response that one of them is
reached; otherwise the operation returns a value of its type or raises
a sanitised error.
-/
import ThreadsPlatform.Infrastructure.ThreadsApi

namespace ThreadsPlatform

open Relational ThreadsApi

variable {P : Python} {α β : Type} {e : Raised} {d : Document} {v : Option Json} {j : Json}
  {payload : Document} {r : HttpResponse} {items : List α} {parsed parsed' : Metrics}
  {maximum : Nat} {op : Operation} {cursors : Option Document} {authorId : Option String}
  {id s : String} {value : Value} {f : α → Except Raised β}

-- ==== sanitised

/-- Only sanitised errors are raised. -/
abbrev Sane (x : Except Raised α) : Prop := Avoids (fun e => e.sanitised = false) x

@[simp] theorem contractError_sanitised : contractError.sanitised = true := rfl

theorem sane_mapM (h : ∀ a, Sane (f a)) (items : List α) : Sane (items.mapM f) := by
  induction items with
  | nil => simp
  | cons a items ih => simp [List.mapM_cons, h a, ih]

theorem sane_mapping : Sane (mapping j) := by
  cases j <;> simp [mapping]

theorem sane_optionalMapping : Sane (optionalMapping v) := by
  cases v <;> simp [optionalMapping, sane_mapping]

theorem sane_list : Sane (list v) := by
  unfold list
  split <;> simp

theorem sane_someString : Sane (someString v) := by
  unfold someString
  repeat' split
  all_goals simp

theorem sane_optionalString : Sane (optionalString v) := by
  unfold optionalString
  split <;> simp

theorem sane_optionalInt : Sane (optionalInt v) := by
  unfold optionalInt
  split <;> simp

theorem sane_optionalBool : Sane (optionalBool v) := by
  unfold optionalBool
  split <;> simp

theorem sane_boundedString : Sane (boundedString s maximum) := by
  unfold boundedString
  split <;> simp

theorem sane_boundedOptionalString {allowEmpty : Bool} :
    Sane (boundedOptionalString v maximum allowEmpty) := by
  unfold boundedOptionalString
  refine sane_optionalString.bind fun s _ => ?_
  cases s <;> simp

theorem sane_optionalHttpsUrl : Sane (optionalHttpsUrl P v) := by
  unfold optionalHttpsUrl
  refine sane_boundedOptionalString.bind fun s _ => ?_
  cases s <;> simp

theorem sane_nestedId : Sane (nestedId v) := by
  unfold nestedId
  refine sane_optionalMapping.bind fun nested _ => ?_
  cases nested with
  | none => simp
  | some nested =>
    refine sane_optionalString.bind fun id _ => ?_
    cases id <;> simp [sane_boundedString]

theorem sane_pagingCursors : Sane (pagingCursors d) := by
  simp [pagingCursors, sane_optionalMapping]

theorem sane_pageCursor : Sane (pageCursor cursors) := by
  simp [pageCursor, sane_optionalString]

theorem sane_remoteReply : Sane (remoteReply j) := by
  simp [remoteReply, sane_mapping, sane_someString, sane_optionalString, sane_optionalBool,
    sane_nestedId]

theorem sane_replyPage : Sane (replyPage d) := by
  simp [replyPage, sane_list, sane_pagingCursors, sane_pageCursor, sane_optionalString,
    sane_mapM fun _ => sane_remoteReply]

theorem sane_threadHead : Sane (threadHead j) := by
  simp [threadHead, sane_mapping, sane_someString, sane_boundedString, sane_nestedId]

theorem sane_threadTail {timestamp : Option Time} :
    Sane (threadTail P d id authorId timestamp) := by
  simp [threadTail, sane_optionalBool, sane_boundedOptionalString, sane_optionalHttpsUrl]

theorem sane_discoveryItems : Sane (discoveryItems d) := by
  simp [discoveryItems, sane_list, sane_pagingCursors, sane_pageCursor]

theorem sane_metricValue : Sane (metricValue j) := by
  unfold metricValue
  repeat' split
  all_goals simp

theorem sane_insightRow : Sane (insightRow parsed j) := by
  simp [insightRow, sane_mapping, sane_someString, sane_list, sane_metricValue]

theorem sane_publishingQuota : Sane (publishingQuota d) := by
  simp [publishingQuota, sane_list, sane_mapping, sane_optionalMapping, sane_optionalInt]

-- ==== escapes

/-- `timedelta` holds that many seconds. -/
def PyFloat.fits : PyFloat → Bool
  | .finite _ microseconds => decide (microseconds ≤ timedeltaMax)
  | _ => false

/-- A `Retry-After` that is a number, not negative, and does not fit. -/
def retryAfterOverflows (P : Python) (text : Option String) : Prop :=
  ∃ seconds, text.bind P.float = some seconds ∧ seconds.negative = false ∧ seconds.fits = false

/-- The timestamp of a thread, as `datetime` reads it. -/
def readTimestamp (P : Python) (v : Option Json) : Option (Time × Duration) :=
  match v with
  | some (.str text) => (P.fromIsoFormat (replaceZ text)).bind fun parsed =>
    parsed.2.map fun offset => (parsed.1, offset)
  | _ => none

/-- A thread whose timestamp is a time that is out of range in UTC. -/
def threadOverflows (P : Python) (item : Json) : Prop :=
  ∃ thread id authorId parsed, threadHead item = .ok (thread, id, authorId)
    ∧ readTimestamp P (field thread "timestamp") = some parsed
    ∧ representable (parsed.1 - parsed.2) = false

/-- A page that reaches such a thread: all before it are accepted. -/
def pageOverflows (P : Python) (payload : Document) : Prop :=
  ∃ items cursor before item rest, discoveryItems payload = .ok (items, cursor)
    ∧ items = before ++ item :: rest
    ∧ (∀ t ∈ before, ∃ thread, remoteDiscoveryThread P t = .ok thread)
    ∧ threadOverflows P item

/-- The operations that return a page of threads. -/
def ThreadsApi.Operation.readsThreads : Operation → Bool
  | .searchThreads _ _ | .getProfilePosts _ _ | .getMentions _ _ => true
  | _ => false

/-- A response that gets another exception out of an operation. -/
def Escapes (P : Python) (op : Operation) (r : HttpResponse) : Prop :=
  r.isError = true ∧ retryAfterOverflows P r.retryAfter
    ∨ r.isError = false ∧ ∃ body, r.body = some body ∧ (P.nesting < body.depth
      ∨ body.depth ≤ P.nesting ∧ op.readsThreads = true
        ∧ ∃ payload, body = .obj payload ∧ pageOverflows P payload)

theorem sane_timedelta {seconds : PyFloat} : Sane (timedelta seconds) ↔ seconds.fits = true := by
  cases seconds with
  | nan | infinite => simp [timedelta, PyFloat.fits, Raised.sanitised]
  | finite negative microseconds =>
    by_cases h : microseconds ≤ timedeltaMax <;> simp [timedelta, PyFloat.fits, h, Raised.sanitised]

theorem sane_retryAfter {text : Option String} :
    Sane (retryAfter P text) ↔ ¬ retryAfterOverflows P text := by
  unfold retryAfter retryAfterOverflows
  cases h : text.bind P.float with
  | none => simp
  | some seconds => cases hneg : seconds.negative <;> simp [hneg, sane_timedelta]

theorem statusError_sanitised (status : Nat) (after : Option Duration) :
    (statusError status after).sanitised = true := by
  unfold statusError
  split_ifs <;> rfl

theorem sane_request :
    Sane (request P (some r)) ↔ ¬ (r.isError = true ∧ retryAfterOverflows P r.retryAfter) := by
  cases h : r.isError <;> simp [request, h, sane_retryAfter, statusError_sanitised]

theorem sane_asTimezone {time : Time} {offset : Duration} :
    Sane (asTimezone time offset) ↔ representable (time - offset) = true := by
  cases h : representable (time - offset) <;> simp [asTimezone, h, Raised.sanitised]

theorem sane_optionalTimestamp : Sane (optionalTimestamp P v)
    ↔ ∀ parsed, readTimestamp P v = some parsed → representable (parsed.1 - parsed.2) = true := by
  cases v with
  | none => simp [optionalTimestamp, optionalString, readTimestamp]
  | some j =>
    cases j with
    | str text =>
      cases hparsed : P.fromIsoFormat (replaceZ text) with
      | none => simp [optionalTimestamp, optionalString, readTimestamp, hparsed, orThrow]
      | some parsed =>
        obtain ⟨time, offset⟩ := parsed
        cases offset <;>
          simp [optionalTimestamp, optionalString, readTimestamp, hparsed, orThrow, sane_asTimezone]
    | _ => simp [optionalTimestamp, optionalString, readTimestamp]

theorem sane_remoteDiscoveryThread :
    Sane (remoteDiscoveryThread P j) ↔ ¬ threadOverflows P j := by
  unfold remoteDiscoveryThread threadOverflows
  rw [Sane, avoids_bind]
  constructor
  · rintro ⟨-, h⟩ ⟨thread, id, authorId, parsed, hhead, hparsed, hrange⟩
    have htimestamp := (avoids_bind.mp (h _ hhead)).1
    rw [sane_optionalTimestamp.mp htimestamp parsed hparsed] at hrange
    cases hrange
  · intro h
    refine ⟨sane_threadHead, fun head hhead => ?_⟩
    obtain ⟨thread, id, authorId⟩ := head
    refine Avoids.bind ?_ fun _ _ => sane_threadTail
    refine sane_optionalTimestamp.mpr fun parsed hparsed => ?_
    by_contra hrange
    exact h ⟨thread, id, authorId, parsed, hhead, hparsed, Bool.not_eq_true _ ▸ hrange⟩

theorem sane_mapM_iff : Sane (items.mapM f)
    ↔ ∀ before item rest, items = before ++ item :: rest → (∀ t ∈ before, ∃ b, f t = .ok b) →
      Sane (f item) := by
  induction items with
  | nil => simp
  | cons a items ih =>
    rw [List.mapM_cons, Sane, avoids_bind]
    constructor
    · rintro ⟨ha, hrest⟩ before item rest heq hbefore
      cases before with
      | nil =>
        obtain ⟨rfl, -⟩ := List.cons.inj heq
        exact ha
      | cons b before =>
        obtain ⟨rfl, rfl⟩ := List.cons.inj heq
        obtain ⟨y, hy⟩ := hbefore a (.head _)
        have hitems := (avoids_bind.mp (hrest y hy)).1
        exact ih.mp hitems before item rest rfl fun t ht =>
          hbefore t (.tail _ ht)
    · intro h
      refine ⟨h [] a items rfl fun t ht => absurd ht List.not_mem_nil, fun y hy => ?_⟩
      refine (ih.mpr fun before item rest heq hbefore => ?_).bind fun ys _ => avoids_pure _
      refine h (a :: before) item rest (congrArg _ heq) fun t ht => ?_
      rcases List.mem_cons.mp ht with rfl | ht
      · exact ⟨y, hy⟩
      · exact hbefore t ht

theorem sane_discoveryPage : Sane (discoveryPage P payload) ↔ ¬ pageOverflows P payload := by
  unfold discoveryPage pageOverflows
  rw [Sane, avoids_bind]
  constructor
  · rintro ⟨-, h⟩ ⟨items, cursor, before, item, rest, hitems, heq, hbefore, hover⟩
    have hthreads := (avoids_bind.mp (h _ hitems)).1
    exact sane_remoteDiscoveryThread.mp (sane_mapM_iff.mp hthreads before item rest heq hbefore)
      hover
  · intro h
    refine ⟨sane_discoveryItems, fun head hitems => ?_⟩
    obtain ⟨items, cursor⟩ := head
    refine Avoids.bind ?_ fun _ _ => avoids_pure _
    refine sane_mapM_iff.mpr fun before item rest heq hbefore => ?_
    exact sane_remoteDiscoveryThread.mpr fun hover =>
      h ⟨items, cursor, before, item, rest, hitems, heq, hbefore, hover⟩

/-- Arguments that an operation may be called with. -/
def ThreadsApi.Operation.validArguments : Operation → Prop
  | .getPostInsights mediaId => mediaId ≠ ""
  | .searchThreads after limit | .getProfilePosts after limit | .getMentions after limit =>
    (1 ≤ limit ∧ limit ≤ 50) ∧ after.all notBlank = true
  | _ => True

theorem checkArguments_ok (h : op.validArguments) : op.checkArguments = .ok () := by
  cases op <;> simp_all [Operation.checkArguments, Operation.validArguments, discoveryParams,
    require, bind, Except.bind]

theorem sane_parse (h : op.validArguments) :
    Sane (parse P op payload) ↔ ¬ (op.readsThreads = true ∧ pageOverflows P payload) := by
  cases op with
  | getPostInsights mediaId =>
    have hmedia : mediaId ≠ "" := h
    simp [parse, Operation.readsThreads, sane_list, hmedia,
      avoids_foldlM fun _ _ => sane_insightRow]
  | searchThreads | getProfilePosts | getMentions =>
    simp [parse, Operation.readsThreads, sane_discoveryPage]
  | _ => simp [parse, Operation.readsThreads, sane_someString, sane_optionalString,
      sane_publishingQuota, sane_replyPage, sane_boundedString, sane_boundedOptionalString,
      sane_optionalHttpsUrl]

theorem sane_object : Sane (object P r) ↔ ∀ body, r.body = some body → body.depth ≤ P.nesting := by
  unfold object
  cases hbody : r.body with
  | none => simp
  | some body =>
    by_cases hdeep : P.nesting < body.depth
    · simp [hdeep, Raised.sanitised]
    · have hshallow := Nat.not_lt.mp hdeep
      simp only [hdeep, if_false]
      cases body <;> simp_all

theorem object_eq_ok (h : object P r = .ok payload) :
    r.body = some (.obj payload) ∧ (Json.obj payload).depth ≤ P.nesting := by
  unfold object at h
  split at h
  · cases h
  case h_2 body hbody =>
    split at h
    · cases h
    case isFalse hshallow =>
      split at h
      case h_1 fields =>
        cases h
        exact ⟨hbody, Nat.not_lt.mp hshallow⟩
      · cases h

theorem object_obj (hbody : r.body = some (.obj payload))
    (hshallow : (Json.obj payload).depth ≤ P.nesting) : object P r = .ok payload := by
  unfold object
  rw [hbody]
  simp only [Nat.not_lt.mpr hshallow, if_false]

theorem request_eq_ok {r' : HttpResponse} (h : request P (some r) = .ok r') :
    r.isError = false ∧ r' = r := by
  cases herror : r.isError with
  | true =>
    simp only [request, herror, if_true, bind_eq_ok] at h
    obtain ⟨after, -, herr⟩ := h
    cases herr
  | false =>
    simp only [request, herror] at h
    exact ⟨rfl, (Except.ok.inj h).symm⟩

theorem request_of_not_error (h : r.isError = false) : request P (some r) = .ok r := by
  simp [request, h]

/-- Exactly the responses that escape get another exception out. -/
theorem sane_perform (r : HttpResponse) (h : op.validArguments) :
    Sane (perform P op (some r)) ↔ ¬ Escapes P op r := by
  unfold perform Escapes
  rw [checkArguments_ok h]
  change Avoids _ (request P (some r) >>= _) ↔ _
  rw [avoids_bind, not_or]
  refine and_congr sane_request ?_
  constructor
  · rintro hrest ⟨herror, body, hbody, hdeep | ⟨hshallow, hreads, payload, rfl, hover⟩⟩
    · have hobject := (avoids_bind.mp (hrest r (request_of_not_error herror))).1
      exact absurd (sane_object.mp hobject body hbody) (Nat.not_le.mpr hdeep)
    · have hparse := (avoids_bind.mp (hrest r (request_of_not_error herror))).2 payload
        (object_obj hbody hshallow)
      exact (sane_parse h).mp hparse ⟨hreads, hover⟩
  · intro hrest r' hr'
    obtain ⟨herror, rfl⟩ := request_eq_ok hr'
    refine Avoids.bind (sane_object.mpr fun body hbody => ?_) fun payload hpayload => ?_
    · by_contra hdeep
      exact hrest ⟨herror, body, hbody, .inl (Nat.not_le.mp hdeep)⟩
    · obtain ⟨hbody, hshallow⟩ := object_eq_ok hpayload
      exact (sane_parse h).mpr fun hover =>
        hrest ⟨herror, _, hbody, .inr ⟨hshallow, hover.1, payload, rfl, hover.2⟩⟩

-- ==== what is returned

theorem ne_empty_of_notBlank (h : notBlank s = true) : s ≠ "" := by
  rintro rfl
  cases h

theorem someString_ne (h : someString v = .ok s) : s ≠ "" := by
  unfold someString at h
  split at h
  · split at h
    · cases h
    case isFalse hne => exact Except.ok.inj h ▸ hne
  · cases h

theorem boundedString_ne {s' : String} (h : boundedString s maximum = .ok s') : s' ≠ "" := by
  unfold boundedString at h
  split at h
  case isTrue hs => exact Except.ok.inj h ▸ ne_empty_of_notBlank hs.1
  · cases h

theorem nestedId_ne (h : nestedId v = .ok (some id)) : id ≠ "" := by
  simp only [nestedId, bind_eq_ok] at h
  obtain ⟨nested, -, h⟩ := h
  cases nested with
  | none => cases h
  | some nested =>
    simp only [bind_eq_ok] at h
    obtain ⟨inner, -, h⟩ := h
    cases inner with
    | none => cases h
    | some inner =>
      obtain ⟨s, hs, heq⟩ := map_eq_ok.mp h
      exact Option.some.inj heq ▸ boundedString_ne hs

/-- A cursor of a page: 1 to 4096 characters. -/
def cursorBounded (cursor : Option String) : Prop :=
  ∀ c, cursor = some c → 1 ≤ c.length ∧ c.length ≤ 4096

theorem pageCursor_bounded {cursor : Option String} (h : pageCursor cursors = .ok cursor) :
    cursorBounded cursor := by
  simp only [pageCursor, steps_ok] at h
  obtain ⟨c, -, hc, rfl⟩ := h
  rintro c rfl
  simp only [Option.all_some, checks_hold] at hc
  refine ⟨?_, hc.2⟩
  rw [Nat.one_le_iff_ne_zero, ne_eq, String.length_eq_zero_iff]
  exact ne_empty_of_notBlank hc.1

theorem mapM_forall {Q : β → Prop} (hf : ∀ a b, f a = .ok b → Q b) {results : List β}
    (h : items.mapM f = .ok results) : ∀ b ∈ results, Q b := by
  induction items generalizing results with
  | nil =>
    rw [List.mapM_nil, pure_eq_ok] at h
    exact h ▸ fun b hb => absurd hb List.not_mem_nil
  | cons a items ih =>
    simp only [List.mapM_cons, steps_ok] at h
    obtain ⟨y, hy, ys, hys, rfl⟩ := h
    intro b hb
    rcases List.mem_cons.mp hb with rfl | hb
    · exact hf a b hy
    · exact ih hys b hb

/-- A reply's ids are not empty. -/
def ThreadsApi.RemoteReply.named (reply : RemoteReply) : Prop :=
  reply.replyId ≠ "" ∧ (∀ id, reply.rootPostId = some id → id ≠ "")
    ∧ ∀ id, reply.repliedToId = some id → id ≠ ""

theorem remoteReply_named {reply : RemoteReply} (h : remoteReply j = .ok reply) : reply.named := by
  simp only [remoteReply, steps_ok] at h
  obtain ⟨d, -, id, hid, text, -, time, -, owned, -, root, hroot, replied, hreplied, rfl⟩ := h
  refine ⟨someString_ne hid, ?_, ?_⟩
  · rintro id rfl
    exact nestedId_ne hroot
  · rintro id rfl
    exact nestedId_ne hreplied

/-- A thread's ids are not empty. -/
def ThreadsApi.RemoteThread.named (thread : RemoteThread) : Prop :=
  thread.remoteThreadId ≠ "" ∧ ∀ id, thread.authorRemoteId = some id → id ≠ ""

theorem threadHead_named {thread : Document} (h : threadHead j = .ok (thread, id, authorId)) :
    id ≠ "" ∧ ∀ author, authorId = some author → author ≠ "" := by
  simp only [threadHead, steps_ok] at h
  obtain ⟨d, -, raw, -, id, hid, author, hauthor, -, rfl, rfl⟩ := h
  refine ⟨boundedString_ne hid, ?_⟩
  rintro a rfl
  exact nestedId_ne hauthor

theorem remoteDiscoveryThread_named {thread : RemoteThread}
    (h : remoteDiscoveryThread P j = .ok thread) : thread.named := by
  simp only [remoteDiscoveryThread, bind_eq_ok] at h
  obtain ⟨⟨d, id, authorId⟩, hhead, timestamp, -, htail⟩ := h
  simp only [threadTail, steps_ok] at htail
  obtain ⟨_, -, _, -, _, -, _, -, _, -, _, -, rfl⟩ := htail
  exact threadHead_named hhead

theorem replyPage_spec {page : ReplyPage} (h : replyPage d = .ok page) :
    cursorBounded page.nextCursor ∧ ∀ reply ∈ page.replies, reply.named := by
  simp only [replyPage, steps_ok] at h
  obtain ⟨items, -, ⟨paging, cursors⟩, -, cursor, hcursor, next, -, replies, hreplies, rfl⟩ := h
  exact ⟨pageCursor_bounded hcursor, mapM_forall (fun _ _ => remoteReply_named) hreplies⟩

theorem discoveryPage_spec {page : DiscoveryPage} (h : discoveryPage P d = .ok page) :
    cursorBounded page.nextCursor ∧ ∀ thread ∈ page.threads, thread.named := by
  simp only [discoveryPage, steps_ok] at h
  obtain ⟨⟨items, cursor⟩, hitems, threads, hthreads, rfl⟩ := h
  simp only [discoveryItems, steps_ok] at hitems
  obtain ⟨_, -, ⟨paging, cursors⟩, -, _, hcursor, -, -, rfl⟩ := hitems
  exact ⟨pageCursor_bounded hcursor, mapM_forall (fun _ _ => remoteDiscoveryThread_named) hthreads⟩

theorem mem_of_lookup {metrics : Metrics} {name : InsightName} {value : Option Int}
    (h : metrics.lookup name = some value) : (name, value) ∈ metrics := by
  obtain ⟨before, after, rfl, -⟩ := List.lookup_eq_some_iff.mp h
  exact List.mem_append_right _ List.mem_cons_self

/-- No metric is negative. -/
def nonNegative (metrics : Metrics) : Prop := ∀ m ∈ metrics, ∀ n, m.2 = some n → 0 ≤ n

theorem insightRow_nonNegative (h : insightRow parsed j = .ok parsed')
    (hparsed : nonNegative parsed) : nonNegative parsed' := by
  simp only [insightRow, steps_ok] at h
  obtain ⟨_, -, _, -, name, -, -, -, _, -, -, _, -, _, -, raw, -, metric, hmetric, rfl⟩ := h
  intro m hm n hn
  rcases List.mem_cons.mp hm with rfl | hm
  · unfold metricValue at hmetric
    split at hmetric
    · cases hmetric
      cases hn
    case h_2 k =>
      split at hmetric
      case isTrue hk =>
        cases hmetric
        exact Option.some.inj hn ▸ hk
      · cases hmetric
    · cases hmetric
  · exact hparsed m hm n hn

theorem insightRows_nonNegative {rows : List Json} (h : rows.foldlM insightRow parsed = .ok parsed')
    (hparsed : nonNegative parsed) : nonNegative parsed' := by
  induction rows generalizing parsed with
  | nil =>
    rw [List.foldlM_nil, pure_eq_ok] at h
    exact h ▸ hparsed
  | cons row rows ih =>
    simp only [List.foldlM_cons, bind_eq_ok] at h
    obtain ⟨next, hrow, hrest⟩ := h
    exact ih hrest (insightRow_nonNegative hrow hparsed)

theorem orderedMetrics_nonNegative (h : nonNegative parsed) :
    nonNegative (orderedMetrics parsed) := by
  intro m hm n hn
  obtain ⟨name, -, rfl⟩ := List.mem_map.mp hm
  have hvalue : parsed.lookup name = some (some n) := Option.join_eq_some_iff.mp hn
  exact h (name, some n) (mem_of_lookup hvalue) n rfl

/-- A value of an operation's type, with ids that are not empty, bounded
cursors and metrics that are not negative. -/
def WellFormed : Operation → Value → Prop
  | .createContainer, .container id _ _ => id ≠ ""
  | .getContainer, .container id _ _ => id ≠ ""
  | .publishContainer, .published id => id ≠ ""
  | .getMedia, .media id _ _ _ => id ≠ ""
  | .getPostInsights _, .insights id metrics => id ≠ ""
      ∧ metrics.map Prod.fst = insightOrder ∧ nonNegative metrics
  | .getPublishingQuota, .quota _ => True
  | .getReplies, .replies page => cursorBounded page.nextCursor
      ∧ ∀ reply ∈ page.replies, reply.named
  | .getConversation, .replies page => cursorBounded page.nextCursor
      ∧ ∀ reply ∈ page.replies, reply.named
  | .searchThreads _ _, .threads page => cursorBounded page.nextCursor
      ∧ ∀ thread ∈ page.threads, thread.named
  | .getProfilePosts _ _, .threads page => cursorBounded page.nextCursor
      ∧ ∀ thread ∈ page.threads, thread.named
  | .getMentions _ _, .threads page => cursorBounded page.nextCursor
      ∧ ∀ thread ∈ page.threads, thread.named
  | .getPublicProfile, .profile id name _ _ _ => id ≠ "" ∧ name ≠ ""
  | .manageReply, .none => True
  | .managePendingReply, .none => True
  | _, _ => False

theorem parse_wellFormed (h : parse P op d = .ok value) : WellFormed op value := by
  cases op with
  | createContainer | publishContainer =>
    simp only [parse, steps_ok] at h
    obtain ⟨id, hid, rfl⟩ := h
    exact someString_ne hid
  | getContainer =>
    simp only [parse, steps_ok] at h
    obtain ⟨id, hid, _, -, _, -, rfl⟩ := h
    exact someString_ne hid
  | getMedia =>
    simp only [parse, steps_ok] at h
    obtain ⟨id, hid, _, -, _, -, _, -, rfl⟩ := h
    exact someString_ne hid
  | getPostInsights mediaId =>
    simp only [parse, steps_ok] at h
    obtain ⟨rows, -, parsed, hparsed, hmedia, rfl⟩ := h
    have hempty : nonNegative [] := fun m hm => absurd hm List.not_mem_nil
    exact ⟨hmedia, rfl, orderedMetrics_nonNegative (insightRows_nonNegative hparsed hempty)⟩
  | getPublishingQuota =>
    obtain ⟨quota, -, rfl⟩ := map_eq_ok.mp h
    trivial
  | getReplies | getConversation =>
    obtain ⟨page, hpage, rfl⟩ := map_eq_ok.mp h
    exact replyPage_spec hpage
  | searchThreads | getProfilePosts | getMentions =>
    obtain ⟨page, hpage, rfl⟩ := map_eq_ok.mp h
    exact discoveryPage_spec hpage
  | getPublicProfile =>
    simp only [parse, steps_ok] at h
    obtain ⟨_, -, _, -, id, hid, name, hname, _, -, _, -, _, -, rfl⟩ := h
    exact ⟨boundedString_ne hid, boundedString_ne hname⟩
  | manageReply | managePendingReply =>
    simp only [parse, steps_ok] at h
    obtain ⟨-, rfl⟩ := h
    trivial

theorem perform_wellFormed {response : Option HttpResponse}
    (h : perform P op response = .ok value) : WellFormed op value := by
  simp only [perform, bind_eq_ok] at h
  obtain ⟨_, -, r, -, payload, -, hvalue⟩ := h
  exact parse_wellFormed hvalue

/-- An operation called with valid arguments returns a value of its type
or raises `ThreadsAPIError` or one of its subclasses, exactly unless the
response has a `Retry-After` that `timedelta` does not hold, is nested
deeper than the decoder goes, or reaches a timestamp that is out of range
in UTC. -/
theorem responses_sanitised (P : Python) (op : Operation) (r : HttpResponse)
    (h : op.validArguments) :
    ((∃ value, perform P op (some r) = .ok value ∧ WellFormed op value)
        ∨ ∃ code after, perform P op (some r) = .error (.api code after))
      ↔ ¬ Escapes P op r := by
  rw [← sane_perform r h]
  constructor
  · rintro (⟨value, hvalue, -⟩ | ⟨code, after, herror⟩) e he
    · rw [hvalue] at he
      cases he
    · rw [herror] at he
      obtain rfl := Except.error.inj he
      simp [Raised.sanitised]
  · intro hsane
    cases hresult : perform P op (some r) with
    | ok value => exact .inl ⟨value, rfl, perform_wellFormed hresult⟩
    | error e =>
      cases e with
      | api code after => exact .inr ⟨code, after, rfl⟩
      | overflowError | valueError | recursionError => exact absurd rfl (hsane _ hresult)

namespace ApiSample

/-- Python's answers to the texts below. -/
def python : Python where
  float text := if text = "1e20" then some (.finite false (10 ^ 26))
    else if text = "nan" then some .nan else none
  fromIsoFormat text := if text = "0001-01-01T00:00:00+14:00" then
    some (-62135596800000000, some 50400000000) else none
  urlSplit _ := none
  nesting := 1000

/-- A server error with a `Retry-After`. -/
def busy (text : String) : HttpResponse := ⟨503, some text, none⟩

/-- A page with one thread, of that timestamp. -/
def dated (text : String) : HttpResponse :=
  ⟨200, none, some (.obj [("data", .arr [.obj [("id", .str "1"), ("timestamp", .str text)]])])⟩

end ApiSample

open ApiSample in
/-- `timedelta(seconds=1e20)` and `astimezone` of the first day of year 1
are `OverflowError`s, `timedelta(seconds=nan)` is a `ValueError`. -/
theorem response_raises_overflow_error :
    perform python .getMedia (some (busy "1e20")) = .error .overflowError
      ∧ perform python .getMedia (some (busy "nan")) = .error .valueError
      ∧ perform python (.searchThreads none 50) (some (dated "0001-01-01T00:00:00+14:00"))
        = .error .overflowError :=
  ⟨rfl, rfl, rfl⟩

open ApiSample in
theorem responses_sanitised_media :
    (∃ value, perform python .getMedia (some ⟨200, none, some (.obj [("id", .str "7")])⟩)
        = .ok value ∧ WellFormed .getMedia value)
      ∨ ∃ code after, perform python .getMedia
          (some ⟨200, none, some (.obj [("id", .str "7")])⟩) = .error (.api code after) := by
  refine (responses_sanitised python .getMedia _ trivial).mpr ?_
  rintro (⟨herror, -⟩ | ⟨-, body, hbody, hdeep | ⟨-, hreads, -⟩⟩)
  · cases herror
  · cases hbody
    exact absurd hdeep (by decide)
  · cases hreads

end ThreadsPlatform
