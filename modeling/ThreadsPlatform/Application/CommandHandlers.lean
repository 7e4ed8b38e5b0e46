/-
The handlers that write to the remote service
(`application/commands/publishing.py` and `_moderate_reply` of
`application/commands/conversations.py`), as programs that share the
Command's checkpoint under its lease.

An attempt reads the checkpoint when it claims the Command. Publishing
creates the containers that are missing and saves after each; before
`publish_container` it saves PUBLISH_REQUESTED, and after it the media
id. Moderation saves MODERATION_REQUESTED before its one call.

`save_checkpoint_if_leased` is the fenced save. What a handler reads of
its own tables, and what it returns, is left out: it can only end the
attempt. A cancellation or a crash is an attempt that is not heard of
again, or `stop`.
-/
import ThreadsPlatform.Domain.Basic
import ThreadsPlatform.Relational.FencedProgram

namespace ThreadsPlatform

open Relational

-- ==== outcomes

/-- How an attempt ends. -/
inductive HandlerOutcome where
  | succeeded
  | retryable (code : String)
  | permanent (code : String)
  /-- `ExecutionLeaseLost`, or the save's own error. -/
  | leaseLost
  | crashed
  deriving DecidableEq

/-- `_raise_api_error`, the same in both handlers. -/
def raiseApiError (code : String) : HandlerOutcome :=
  if code ∈ ["THREADS_TRANSPORT_FAILURE", "THREADS_RATE_LIMITED", "THREADS_SERVER_ERROR"] then
    .retryable code
  else .permanent code

-- ==== requests

/-- `MediaType`. -/
inductive MediaType where
  | text | image | video | carousel
  deriving DecidableEq

/-- `MediaContainerRequest`. -/
structure MediaContainerRequest where
  mediaType : MediaType
  text : Option String := none
  imageUrl : Option String := none
  videoUrl : Option String := none
  altText : Option String := none
  children : List String := []
  isCarouselItem : Bool := false
  quotePostId : Option String := none
  replyToId : Option String := none
  replyControl : Option String := none
  deriving DecidableEq

/-- `CarouselImageItem` or `CarouselVideoItem`. -/
inductive CarouselItem where
  | image (url : String) (altText : Option String)
  | video (url : String) (altText : Option String)
  deriving DecidableEq

/-- The request of a child container. -/
def CarouselItem.request : CarouselItem → MediaContainerRequest
  | .image url altText =>
    { mediaType := .image, imageUrl := some url, altText, isCarouselItem := true }
  | .video url altText =>
    { mediaType := .video, videoUrl := some url, altText, isCarouselItem := true }

/-- The publish Commands and their payloads. -/
inductive PublishCommand where
  | publishText (text : String) (quotePostId replyControl : Option String)
  | createReply (threadsPostId text : String) (replyToReplyId replyControl : Option String)
  | publishImage (imageUrl : String) (text altText replyControl : Option String)
  | publishVideo (videoUrl : String) (text altText replyControl : Option String)
  | publishCarousel (items : List CarouselItem) (text replyControl : Option String)
  deriving DecidableEq

namespace PublishCommand

/-- `media_type == "CAROUSEL"`. -/
def isCarousel : PublishCommand → Bool
  | .publishCarousel _ _ _ => true
  | _ => false

/-- The requests of the children, of which only a carousel has any. -/
def childRequests : PublishCommand → List MediaContainerRequest
  | .publishCarousel items _ _ => items.map CarouselItem.request
  | _ => []

/-- The request of the container to publish. -/
def request (children : List String) : PublishCommand → MediaContainerRequest
  | .publishText text quotePostId replyControl =>
    { mediaType := .text, text := some text, quotePostId, replyControl }
  | .createReply threadsPostId text replyToReplyId replyControl =>
    { mediaType := .text, text := some text
      replyToId := some (replyToReplyId.getD threadsPostId), replyControl }
  | .publishImage imageUrl text altText replyControl =>
    { mediaType := .image, imageUrl := some imageUrl, text, altText, replyControl }
  | .publishVideo videoUrl text altText replyControl =>
    { mediaType := .video, videoUrl := some videoUrl, text, altText, replyControl }
  | .publishCarousel _ text replyControl =>
    { mediaType := .carousel, text, children, replyControl }

end PublishCommand

-- ==== checkpoints

/-- The phases of a publish checkpoint. -/
inductive RecoveryPhase where
  | received | childContainersCreated | containerCreated | publishRequested | published
  deriving DecidableEq

/-- A publish checkpoint of the current version. -/
structure Recovery where
  phase : RecoveryPhase
  childContainerIds : List String
  containerId : Option String
  publishedMediaId : Option String
  deriving DecidableEq

namespace Recovery

/-- `_read_recovery` of a Command that has no checkpoint. -/
def initial : Recovery := ⟨.received, [], none, none⟩

/-- A child container was created. -/
def withChild (r : Recovery) (id : String) : Recovery :=
  { r with childContainerIds := r.childContainerIds ++ [id], phase := .childContainersCreated }

/-- The container to publish was created. -/
def withContainer (r : Recovery) (id : String) : Recovery :=
  { r with containerId := some id, phase := .containerCreated }

end Recovery

-- ==== publishing

/-- The `status` of a container. -/
inductive ContainerState where
  | published | inProgress | error | expired | finished | other
  deriving DecidableEq

/-- What a container's status raises, if anything. -/
def ContainerState.raises : ContainerState → Option HandlerOutcome
  | .published => some (.retryable "THREADS_PUBLISH_OUTCOME_AMBIGUOUS")
  | .inProgress => some (.retryable "THREADS_CONTAINER_PROCESSING")
  | .error => some (.permanent "THREADS_CONTAINER_ERROR")
  | .expired => some (.permanent "THREADS_CONTAINER_EXPIRED")
  | .other => some (.permanent "THREADS_DOCUMENTATION_CONTRACT_MISMATCH")
  | .finished => none

/-- Where an attempt is in `_publish`. -/
inductive HandlerPoint where
  | started (r : Recovery)
  /-- `create_container` is awaited: for the first of the children to go,
  or, with none to go, for the container to publish. -/
  | creating (r : Recovery) (rest : List MediaContainerRequest)
  /-- The checkpoint is about to be saved. -/
  | saving (r : Recovery) (rest : List MediaContainerRequest)
  /-- `get_container` is awaited, in `_publish_or_reconcile`. -/
  | reconciling (r : Recovery) (containerId : String)
  /-- PUBLISH_REQUESTED is saved, `publish_container` about to be called. -/
  | requested (r : Recovery) (containerId : String)
  /-- `publish_container` is awaited. -/
  | publishing (r : Recovery) (containerId : String)
  /-- `get_container` is awaited, in `_reconcile_publish_error`. -/
  | failed (code : String)
  /-- `get_media` is awaited. -/
  | reading (mediaId : String)
  | ended (outcome : HandlerOutcome)
  deriving DecidableEq

/-- What an attempt hears, or what stops it. `quota` says whether there is
quota left. -/
inductive HandlerInput where
  | begin (quota : Bool)
  | created (containerId : String)
  | status (state : ContainerState) (quota : Bool)
  | published (mediaId : String)
  | media (dated : Bool)
  | apiError (code : String)
  | stop
  deriving DecidableEq

namespace HandlerPoint

/-- The next container to create, or the one to publish. -/
def continueFrom (r : Recovery) : List MediaContainerRequest → HandlerPoint
  | request :: rest => .creating r (request :: rest)
  | [] =>
    match r.containerId, r.publishedMediaId with
    | none, _ => .creating r []
    | some _, some mediaId => .reading mediaId
    | some id, none => .reconciling r id

/-- What follows a save, by the phase that was saved. -/
def afterSave (r : Recovery) (rest : List MediaContainerRequest) : HandlerPoint :=
  match r.phase, r.containerId, r.publishedMediaId with
  | .published, _, some mediaId => .reading mediaId
  | .publishRequested, some id, _ => .requested r id
  | _, _, _ => continueFrom r rest

variable (cmd : PublishCommand)

/-- `_publish` up to the first call it awaits. -/
def start (r : Recovery) (quota : Bool) : HandlerPoint :=
  if r.containerId = none ∧ r.publishedMediaId = none ∧ quota = false then
    .ended (.permanent "THREADS_PUBLISHING_QUOTA_REACHED")
  else if cmd.isCarousel = true ∧ cmd.childRequests.length < r.childContainerIds.length then
    .ended (.permanent "INVALID_PUBLISH_CHECKPOINT")
  else continueFrom r (cmd.childRequests.drop r.childContainerIds.length)

/-- The checkpoint after a container was created. -/
def created (r : Recovery) (id : String) : List MediaContainerRequest → HandlerPoint
  | _ :: rest => .saving (r.withChild id) rest
  | [] => .saving (r.withContainer id) []

/-- `_publish_or_reconcile`, once the status is known. -/
def reconcile (r : Recovery) (state : ContainerState) (quota : Bool) : HandlerPoint :=
  match state.raises with
  | some outcome => .ended outcome
  | none =>
    if quota = false then .ended (.permanent "THREADS_PUBLISHING_QUOTA_REACHED")
    else .saving { r with phase := .publishRequested } []

/-- The attempt goes on with what it hears. -/
def hear : HandlerPoint → HandlerInput → HandlerPoint
  | .started r, .begin quota => start cmd r quota
  | .started _, .apiError code => .ended (raiseApiError code)
  | .creating r rest, .created id => created r id rest
  | .creating _ _, .apiError code => .ended (raiseApiError code)
  | .reconciling r _, .status state quota => reconcile r state quota
  | .reconciling _ _, .apiError code => .ended (raiseApiError code)
  | .publishing r _, .published mediaId =>
    .saving { r with publishedMediaId := some mediaId, phase := .published } []
  | .publishing _ _, .apiError code => .failed code
  -- the `except` around `get_container` here never runs: `_get_container`
  -- has made a Command error of it
  | .failed _, .apiError statusCode => .ended (raiseApiError statusCode)
  | .failed code, .status state _ => .ended (state.raises.getD (raiseApiError code))
  | .reading _, .media dated =>
    .ended (if dated then .succeeded
      else .permanent "THREADS_DOCUMENTATION_CONTRACT_MISMATCH")
  | .reading _, .apiError code => .ended (raiseApiError code)
  | _, .stop => .ended .crashed
  | point, _ => point

/-- The checkpoint that is about to be saved. -/
def saves? : HandlerPoint → Option Recovery
  | .saving r _ => some r
  | _ => none

/-- The save was done. -/
def saved : HandlerPoint → HandlerPoint
  | .saving r rest => afterSave r rest
  | point => point

/-- The container that is about to be published. -/
def calls? : HandlerPoint → Option String
  | .requested _ id => some id
  | _ => none

/-- `publish_container` was called. -/
def called : HandlerPoint → HandlerPoint
  | .requested r id => .publishing r id
  | point => point

end HandlerPoint

/-- `ThreadsPublishingHandler`, over the attempts of one Command. -/
def publishProgram (cmd : PublishCommand) :
    Program Recovery HandlerPoint HandlerInput String where
  start := .started
  hear := HandlerPoint.hear cmd
  saves? := HandlerPoint.saves?
  saved := HandlerPoint.saved
  refused _ := .ended .leaseLost
  calls? := HandlerPoint.calls?
  called := HandlerPoint.called

-- ==== moderation

/-- `action`. -/
inductive ModerationAction where
  | hide | unhide | approve | ignore
  deriving DecidableEq

/-- `manage_reply` or `manage_pending_reply`. -/
inductive ModerationCall where
  | manageReply (hide : Bool)
  | managePendingReply (approve : Bool)
  deriving DecidableEq

/-- The call of an action. -/
def ModerationAction.call : ModerationAction → ModerationCall
  | .hide => .manageReply true
  | .unhide => .manageReply false
  | .approve => .managePendingReply true
  | .ignore => .managePendingReply false

/-- What `_moderate_reply` finds of the reply, for `hide` and `unhide`. -/
inductive LocalReply where
  | missing | nested | top
  deriving DecidableEq

/-- Where an attempt is in `_moderate_reply`; the checkpoint is the action
that was requested, if any. -/
inductive ModerationPoint where
  | started (before : Option ModerationAction)
  | saving
  | requested
  /-- The call is awaited. -/
  | calling
  | ended (outcome : HandlerOutcome)
  deriving DecidableEq

/-- What an attempt hears. -/
inductive ModerationInput where
  | begin (reply : LocalReply)
  | confirmed
  | apiError (code : String)
  | stop
  deriving DecidableEq

namespace ModerationPoint

/-- `_moderate_reply` up to the save. -/
def start (action : ModerationAction) (before : Option ModerationAction)
    (reply : LocalReply) : ModerationPoint :=
  if action ∈ [.hide, .unhide] ∧ reply = .missing then
    .ended (.permanent "LOCAL_REPLY_NOT_FOUND")
  else if action ∈ [.hide, .unhide] ∧ reply = .nested then
    .ended (.permanent "NESTED_REPLY_MODERATION_UNSUPPORTED")
  else if before.isSome then
    .ended (.retryable "THREADS_MODERATION_OUTCOME_AMBIGUOUS")
  else .saving

/-- The attempt goes on with what it hears. -/
def hear (action : ModerationAction) : ModerationPoint → ModerationInput → ModerationPoint
  | .started before, .begin reply => start action before reply
  | .calling, .confirmed => .ended .succeeded
  | .calling, .apiError code => .ended (raiseApiError code)
  | _, .stop => .ended .crashed
  | point, _ => point

end ModerationPoint

/-- `_moderate_reply`, over the attempts of one Command. -/
def moderationProgram (action : ModerationAction) :
    Program (Option ModerationAction) ModerationPoint ModerationInput ModerationCall where
  start := .started
  hear := ModerationPoint.hear action
  saves? point := if point = .saving then some (some action) else none
  saved point := if point = .saving then .requested else point
  refused _ := .ended .leaseLost
  calls? point := if point = .requested then some action.call else none
  called point := if point = .requested then .calling else point

end ThreadsPlatform
