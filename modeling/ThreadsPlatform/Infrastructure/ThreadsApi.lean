/-
The HTTP adapter of the Threads API: what each operation makes of a
response.

A response is a status, perhaps a `Retry-After` text, and a body that is
JSON or not. Every operation reads the status, then the body as an
object, then its own fields; whatever does not fit is a
`ThreadsContractError`. What Python's library does with texts (`float`,
`datetime.fromisoformat`, `urlsplit`) and how deep its JSON decoder goes
are parameters; what the adapter makes of their results is here, with
the exceptions that come of it.
-/
import ThreadsPlatform.Domain.Commands

namespace ThreadsPlatform

open Relational

-- ==== Python

/-- What is raised: `ThreadsAPIError` and its subclasses by their code, or
an exception of Python's. -/
inductive Raised where
  | api (code : String) (retryAfter : Option Duration)
  | overflowError
  | valueError
  | recursionError
  deriving DecidableEq

/-- `ThreadsAPIError` or one of its subclasses. -/
def Raised.sanitised : Raised → Bool
  | .api _ _ => true
  | _ => false

/-- What `float` gives: a finite number by its sign and the microseconds
`timedelta` rounds it to. -/
inductive PyFloat where
  | nan
  | infinite (negative : Bool)
  | finite (negative : Bool) (microseconds : Int)
  deriving DecidableEq

/-- `seconds < 0`. -/
def PyFloat.negative : PyFloat → Bool
  | .nan => false
  | .infinite negative => negative
  | .finite negative _ => negative

/-- What `urlsplit` gives. -/
structure SplitUrl where
  scheme : String
  hostname : Option String
  username : Option String
  password : Option String

/-- Python's library, as far as the adapter asks it. -/
structure Python where
  /-- `float`, or `ValueError`. -/
  float : String → Option PyFloat
  /-- `datetime.fromisoformat`, or `ValueError`: the time on the clock and
  its offset from UTC. -/
  fromIsoFormat : String → Option (Time × Option Duration)
  /-- `urlsplit` and `hostname`, or `ValueError`. -/
  urlSplit : String → Option SplitUrl
  /-- How deep a value `json.loads` decodes. -/
  nesting : Nat

mutual

/-- How deep a value is nested. -/
def Json.depth : Json → Nat
  | .arr items => Json.depthItems items + 1
  | .obj fields => Json.depthFields fields + 1
  | _ => 0

/-- How deep the items are. -/
def Json.depthItems : List Json → Nat
  | [] => 0
  | x :: xs => max x.depth (Json.depthItems xs)

/-- How deep the fields' values are. -/
def Json.depthFields : List (String × Json) → Nat
  | [] => 0
  | (_, x) :: xs => max x.depth (Json.depthFields xs)

end

/-- A response; no body where it is not JSON. -/
structure HttpResponse where
  status : Nat
  retryAfter : Option String
  body : Option Json

/-- `response.is_error`. -/
def HttpResponse.isError (r : HttpResponse) : Bool :=
  decide (400 ≤ r.status) && decide (r.status ≤ 599)

namespace ThreadsApi

variable (P : Python)

-- ==== requests

/-- `ThreadsContractError`. -/
def contractError : Raised := .api "THREADS_DOCUMENTATION_CONTRACT_MISMATCH" none

/-- The microseconds of `timedelta.max`. -/
def timedeltaMax : Int := 86399999999999999999

/-- `timedelta(seconds=...)`. -/
def timedelta : PyFloat → Except Raised Duration
  | .nan => .error .valueError
  | .infinite _ => .error .overflowError
  | .finite _ microseconds =>
    if microseconds ≤ timedeltaMax then .ok microseconds else .error .overflowError

/-- `_retry_after`. -/
def retryAfter (text : Option String) : Except Raised (Option Duration) :=
  match text.bind P.float with
  | none => .ok none
  | some seconds => if seconds.negative then .ok none else some <$> timedelta seconds

/-- The error of a status. -/
def statusError (status : Nat) (after : Option Duration) : Raised :=
  if status = 429 then .api "THREADS_RATE_LIMITED" after
  else if 500 ≤ status then .api "THREADS_SERVER_ERROR" after
  else if status = 401 then .api "THREADS_AUTHENTICATION_FAILED" none
  else if status = 403 then .api "THREADS_PERMISSION_DENIED" none
  else if status = 404 then .api "THREADS_OBJECT_NOT_FOUND" none
  else if status = 400 ∨ status = 422 then .api "THREADS_INVALID_REQUEST" none
  else .api "THREADS_API_REJECTED_REQUEST" none

/-- `_request`, given what the transport answers. -/
def request (response : Option HttpResponse) : Except Raised HttpResponse :=
  match response with
  | none => .error (.api "THREADS_TRANSPORT_FAILURE" none)
  | some r =>
    if r.isError then do
      let after ← retryAfter P r.retryAfter
      .error (statusError r.status after)
    else .ok r

/-- `_object`. -/
def object (r : HttpResponse) : Except Raised Document :=
  match r.body with
  | none => .error contractError
  | some body =>
    if P.nesting < body.depth then .error .recursionError
    else
      match body with
      | .obj fields => .ok fields
      | _ => .error contractError

-- ==== fields

/-- `document.get(key)`: a missing field reads as null. -/
def field (d : Document) (key : String) : Option Json :=
  (d.get? key).filter fun v => decide (v ≠ .null)

/-- A dictionary, where only one will do. -/
def mapping : Json → Except Raised Document
  | .obj fields => .ok fields
  | _ => .error contractError

/-- `_optional_mapping`, and the check that follows it. -/
def optionalMapping : Option Json → Except Raised (Option Document)
  | none => .ok none
  | some v => some <$> mapping v

/-- A list, where only one will do. -/
def list : Option Json → Except Raised (List Json)
  | some (.arr items) => .ok items
  | _ => .error contractError

/-- A string that is not empty. -/
def someString : Option Json → Except Raised String
  | some (.str s) => if s = "" then .error contractError else .ok s
  | _ => .error contractError

/-- `_optional_string`. -/
def optionalString : Option Json → Except Raised (Option String)
  | none => .ok none
  | some (.str s) => .ok (some s)
  | some _ => .error contractError

/-- `_optional_int`. -/
def optionalInt : Option Json → Except Raised (Option Int)
  | none => .ok none
  | some (.int n) => .ok (some n)
  | some _ => .error contractError

/-- A boolean or null. -/
def optionalBool : Option Json → Except Raised (Option Bool)
  | none => .ok none
  | some (.bool b) => .ok (some b)
  | some _ => .error contractError

/-- `_bounded_string`. -/
def boundedString (s : String) (maximum : Nat) : Except Raised String :=
  if notBlank s = true ∧ s.length ≤ maximum then .ok s else .error contractError

/-- `_bounded_optional_string`. -/
def boundedOptionalString (v : Option Json) (maximum : Nat) (allowEmpty : Bool) :
    Except Raised (Option String) := do
  let s ← optionalString v
  match s with
  | none => return none
  | some s => do
      require (s.length ≤ maximum ∧ (allowEmpty = true ∨ notBlank s = true)) contractError
      return some s

/-- `_optional_https_url`. -/
def optionalHttpsUrl (v : Option Json) : Except Raised (Option String) := do
  let s ← boundedOptionalString v 2048 false
  match s with
  | none => return none
  | some s => do
      let url ← orThrow (P.urlSplit s) contractError
      require (url.scheme = "https" ∧ url.hostname.any (· ≠ "") = true ∧ url.username = none
        ∧ url.password = none) contractError
      return some s

/-- `value.replace("Z", "+00:00")`. -/
def replaceZ (s : String) : String :=
  String.ofList (s.toList.flatMap fun c => if c = 'Z' then "+00:00".toList else [c])

/-- `parsed.astimezone(UTC)`. -/
def asTimezone (time : Time) (offset : Duration) : Except Raised Time :=
  if representable (time - offset) then .ok (time - offset) else .error .overflowError

/-- `_optional_timestamp`. -/
def optionalTimestamp (v : Option Json) : Except Raised (Option Time) := do
  let s ← optionalString v
  match s with
  | none => return none
  | some s => do
      let parsed ← orThrow (P.fromIsoFormat (replaceZ s)) contractError
      let offset ← orThrow parsed.2 contractError
      some <$> asTimezone parsed.1 offset

/-- `_nested_id`. -/
def nestedId (v : Option Json) : Except Raised (Option String) := do
  let nested ← optionalMapping v
  match nested with
  | none => return none
  | some nested => do
      let id ← optionalString (field nested "id")
      match id with
      | none => return none
      | some id => some <$> boundedString id 255

-- ==== pages

/-- A page's cursors: those of `paging`, if it has any. -/
def pagingCursors (payload : Document) : Except Raised (Option Document × Option Document) := do
  let paging ← optionalMapping (field payload "paging")
  let cursors ← optionalMapping (paging.bind fun paging => field paging "cursors")
  return (paging, cursors)

/-- A page's cursor: not blank, and bounded. -/
def pageCursor (cursors : Option Document) : Except Raised (Option String) := do
  let cursor ← optionalString (cursors.bind fun cursors => field cursors "after")
  require (cursor.all (fun cursor => notBlank cursor && decide (cursor.length ≤ 4096)) = true)
    contractError
  return cursor

/-- `RemoteReply`. -/
structure RemoteReply where
  replyId : String
  text : Option String
  timestamp : Option String
  rootPostId : Option String
  repliedToId : Option String
  isReplyOwnedByMe : Option Bool

/-- `_remote_reply`. -/
def remoteReply (item : Json) : Except Raised RemoteReply := do
  let reply ← mapping item
  let replyId ← someString (field reply "id")
  let text ← optionalString (field reply "text")
  let timestamp ← optionalString (field reply "timestamp")
  let ownedByMe ← optionalBool (field reply "is_reply_owned_by_me")
  let rootPostId ← nestedId (field reply "root_post")
  let repliedToId ← nestedId (field reply "replied_to")
  return ⟨replyId, text, timestamp, rootPostId, repliedToId, ownedByMe⟩

/-- `RemoteDiscoveryThread`. -/
structure RemoteThread where
  remoteThreadId : String
  authorRemoteId : Option String
  username : Option String
  text : Option String
  permalink : Option String
  mediaType : Option String
  timestamp : Option Time
  isQuotePost : Option Bool
  hasReplies : Option Bool

/-- What `_remote_discovery_thread` reads before the timestamp. -/
def threadHead (item : Json) : Except Raised (Document × String × Option String) := do
  let thread ← mapping item
  let id ← someString (field thread "id")
  let id ← boundedString id 255
  let authorId ← nestedId (field thread "owner")
  return (thread, id, authorId)

/-- What it reads after it. -/
def threadTail (thread : Document) (id : String) (authorId : Option String)
    (timestamp : Option Time) : Except Raised RemoteThread := do
  let isQuotePost ← optionalBool (field thread "is_quote_post")
  let hasReplies ← optionalBool (field thread "has_replies")
  let username ← boundedOptionalString (field thread "username") 255 false
  let text ← boundedOptionalString (field thread "text") 10000 true
  let permalink ← optionalHttpsUrl P (field thread "permalink")
  let mediaType ← boundedOptionalString (field thread "media_type") 80 false
  return ⟨id, authorId, username, text, permalink, mediaType, timestamp, isQuotePost, hasReplies⟩

/-- `_remote_discovery_thread`. -/
def remoteDiscoveryThread (item : Json) : Except Raised RemoteThread := do
  let (thread, id, authorId) ← threadHead item
  let timestamp ← optionalTimestamp P (field thread "timestamp")
  threadTail P thread id authorId timestamp

/-- `ReplyPage`. -/
structure ReplyPage where
  replies : List RemoteReply
  nextCursor : Option String
  hasMore : Bool

/-- What `_reply_page` makes of its payload. -/
def replyPage (payload : Document) : Except Raised ReplyPage := do
  let items ← list (field payload "data")
  let (paging, cursors) ← pagingCursors payload
  let cursor ← pageCursor cursors
  let next ← optionalString (paging.bind fun paging => field paging "next")
  let replies ← items.mapM remoteReply
  return ⟨replies, cursor, next.any (· ≠ "") || cursor.isSome⟩

/-- `DiscoveryPage`. -/
structure DiscoveryPage where
  threads : List RemoteThread
  nextCursor : Option String
  hasMore : Bool

/-- What `_discovery_page` reads before the threads. -/
def discoveryItems (payload : Document) : Except Raised (List Json × Option String) := do
  let items ← list (field payload "data")
  let (_, cursors) ← pagingCursors payload
  let cursor ← pageCursor cursors
  require (items.length ≤ 50) contractError
  return (items, cursor)

/-- `_discovery_page`. -/
def discoveryPage (payload : Document) : Except Raised DiscoveryPage := do
  let (items, cursor) ← discoveryItems payload
  let threads ← items.mapM (remoteDiscoveryThread P)
  return ⟨threads, cursor, cursor.isSome⟩

-- ==== insights

/-- `ThreadPostInsightName`. -/
inductive InsightName where
  | likes | replies | reposts | quotes
  deriving DecidableEq

/-- `THREAD_POST_INSIGHT_ORDER`. -/
def insightOrder : List InsightName := [.likes, .replies, .reposts, .quotes]

/-- `ThreadPostInsightName(value)`. -/
def InsightName.ofText : String → Option InsightName
  | "likes" => some .likes
  | "replies" => some .replies
  | "reposts" => some .reposts
  | "quotes" => some .quotes
  | _ => none

/-- The metrics read so far. -/
abbrev Metrics := List (InsightName × Option Int)

/-- A metric's value: an integer that is not negative, or null. -/
def metricValue (v : Json) : Except Raised (Option Int) :=
  match v with
  | .null => .ok none
  | .int n => if 0 ≤ n then .ok (some n) else .error contractError
  | _ => .error contractError

/-- One row of `get_post_insights`. -/
def insightRow (parsed : Metrics) (item : Json) : Except Raised Metrics := do
  let row ← mapping item
  let rawName ← someString (field row "name")
  let name ← orThrow (InsightName.ofText rawName) contractError
  require (name ∉ parsed.map Prod.fst) contractError
  require (field row "period" = some (.str "lifetime")) contractError
  let values ← list (field row "values")
  require (values.length = 1) contractError
  let value ← orThrow values.head? contractError
  let valueRow ← mapping value
  let raw ← orThrow (valueRow.get? "value") contractError
  let metric ← metricValue raw
  return (name, metric) :: parsed

/-- The metrics in their order; one that was not sent has no value. -/
def orderedMetrics (parsed : Metrics) : Metrics :=
  insightOrder.map fun name => (name, (parsed.lookup name).join)

-- ==== operations

/-- `PublishingQuota`. -/
structure PublishingQuota where
  usage : Option Int
  total : Option Int
  durationSeconds : Option Int
  replyUsage : Option Int
  replyTotal : Option Int
  replyDurationSeconds : Option Int

/-- What `get_publishing_quota` makes of its payload. -/
def publishingQuota (payload : Document) : Except Raised PublishingQuota := do
  let items ← list (field payload "data")
  let first ← orThrow items.head? contractError
  let quota ← mapping first
  let config ← optionalMapping (field quota "config")
  let replyConfig ← optionalMapping (field quota "reply_config")
  let usage ← optionalInt (field quota "quota_usage")
  let total ← optionalInt (config.bind fun config => field config "quota_total")
  let duration ← optionalInt (config.bind fun config => field config "quota_duration")
  let replyUsage ← optionalInt (field quota "reply_quota_usage")
  let replyTotal ← optionalInt (replyConfig.bind fun config => field config "quota_total")
  let replyDuration ← optionalInt (replyConfig.bind fun config => field config "quota_duration")
  return ⟨usage, total, duration, replyUsage, replyTotal, replyDuration⟩

/-- The operations, with what the adapter checks of their arguments. -/
inductive Operation where
  | createContainer
  | getContainer
  | publishContainer
  | getMedia
  | getPostInsights (mediaId : String)
  | getPublishingQuota
  | getReplies
  | getConversation
  | searchThreads (after : Option String) (limit : Int)
  | getPublicProfile
  | getProfilePosts (after : Option String) (limit : Int)
  | getMentions (after : Option String) (limit : Int)
  | manageReply
  | managePendingReply

/-- What an operation returns. -/
inductive Value where
  | container (containerId : String) (status errorMessage : Option String)
  | published (mediaId : String)
  | media (mediaId : String) (text permalink publishedAt : Option String)
  | insights (mediaId : String) (metrics : Metrics)
  | quota (quota : PublishingQuota)
  | replies (page : ReplyPage)
  | threads (page : DiscoveryPage)
  | profile (remoteAuthorId username : String) (displayName biography pictureUrl : Option String)
  | none

/-- `_discovery_params`. -/
def discoveryParams (after : Option String) (limit : Int) : Except Raised Unit := do
  require (1 ≤ limit ∧ limit ≤ 50) .valueError
  require (after.all notBlank = true) .valueError

/-- What is checked before the request. -/
def Operation.checkArguments : Operation → Except Raised Unit
  | .searchThreads after limit => discoveryParams after limit
  | .getProfilePosts after limit => discoveryParams after limit
  | .getMentions after limit => discoveryParams after limit
  | _ => .ok ()

/-- What an operation makes of its payload. -/
def parse (op : Operation) (payload : Document) : Except Raised Value :=
  match op with
  | .createContainer => do
      let id ← someString (field payload "id")
      return .container id Option.none Option.none
  | .getContainer => do
      let id ← someString (field payload "id")
      let status ← optionalString (field payload "status")
      let message ← optionalString (field payload "error_message")
      return .container id status message
  | .publishContainer => do
      let id ← someString (field payload "id")
      return .published id
  | .getMedia => do
      let id ← someString (field payload "id")
      let text ← optionalString (field payload "text")
      let permalink ← optionalString (field payload "permalink")
      let timestamp ← optionalString (field payload "timestamp")
      return .media id text permalink timestamp
  | .getPostInsights mediaId => do
      let rows ← list (field payload "data")
      let parsed ← rows.foldlM insightRow []
      -- `ThreadPostInsights` refuses an empty id
      require (mediaId ≠ "") .valueError
      return .insights mediaId (orderedMetrics parsed)
  | .getPublishingQuota => .quota <$> publishingQuota payload
  | .getReplies => .replies <$> replyPage payload
  | .getConversation => .replies <$> replyPage payload
  | .searchThreads _ _ => .threads <$> discoveryPage P payload
  | .getProfilePosts _ _ => .threads <$> discoveryPage P payload
  | .getMentions _ _ => .threads <$> discoveryPage P payload
  | .getPublicProfile => do
      let id ← someString (field payload "id")
      let name ← someString (field payload "username")
      let id ← boundedString id 255
      let name ← boundedString name 255
      let displayName ← boundedOptionalString (field payload "name") 255 false
      let biography ← boundedOptionalString (field payload "threads_biography") 5000 false
      let picture ← optionalHttpsUrl P (field payload "threads_profile_picture_url")
      return .profile id name displayName biography picture
  | .manageReply => do
      require (field payload "success" = some (.bool true)) contractError
      return .none
  | .managePendingReply => do
      require (field payload "success" = some (.bool true)) contractError
      return .none

/-- An operation, given what the transport answers. -/
def perform (op : Operation) (response : Option HttpResponse) : Except Raised Value := do
  op.checkArguments
  let r ← request P response
  let payload ← object P r
  parse P op payload

end ThreadsApi

end ThreadsPlatform
