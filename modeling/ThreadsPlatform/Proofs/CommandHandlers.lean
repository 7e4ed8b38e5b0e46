/-
What the attempts of one Command ask of the remote service, all together.

Publishing: the container of the durable checkpoint never changes once it
is set, for whoever may save has read it or sets it. An attempt that may
still call `publish_container` has saved PUBLISH_REQUESTED with that
container, so every call names it, by whatever attempt and however late.
Once the media id is durable, an attempt that claims the Command reads it
and asks for nothing more. The children of a carousel are a prefix of its
items, in memory as in the checkpoint, each made from the item at its
place.

Moderation: the save that allows the call is the last one there is.
-/
import Mathlib.Data.List.Nodup
import Mathlib.Data.List.Pairwise
import ThreadsPlatform.Application.CommandHandlers

namespace ThreadsPlatform

open Relational

variable {cmd : PublishCommand} {r d d' : Recovery} {p : HandlerPoint}
  {e : FencedEvent Uuid HandlerInput} {heard heard' : List (Nat × HandlerPoint × HandlerInput)}
  {requests rest : List MediaContainerRequest} {x : Nat} {id : String}

-- ==== points

/-- What is set in `d` is set, alike, in `r`. -/
structure Recovery.Extends (r d : Recovery) : Prop where
  container : ∀ id, d.containerId = some id → r.containerId = some id
  media : ∀ id, d.publishedMediaId = some id → r.publishedMediaId = some id

theorem Recovery.Extends.refl (r : Recovery) : r.Extends r := ⟨fun _ h => h, fun _ h => h⟩

namespace HandlerPoint

/-- The checkpoint an attempt has in memory, while it may still save it. -/
def recovery? : HandlerPoint → Option Recovery
  | .started r | .creating r _ | .saving r _ | .reconciling r _ | .requested r _
  | .publishing r _ => some r
  | .failed _ | .reading _ | .ended _ => none

/-- What is saved next keeps what `d` has. -/
def Agrees (d : Recovery) (p : HandlerPoint) : Prop :=
  ∀ r, p.recovery? = some r → r.Extends d

/-- A point `_publish` can be at while `d` is durable. -/
def Fits (d : Recovery) : HandlerPoint → Prop
  | .creating r rest => rest = [] → r.containerId = none
  | .saving r _ => r.phase = .publishRequested → r.publishedMediaId = none
  | .reconciling r id | .publishing r id => r.containerId = some id ∧ r.publishedMediaId = none
  | .requested r id => (r.containerId = some id ∧ r.publishedMediaId = none)
      ∧ r.phase = .publishRequested ∧ d.containerId = some id
  | .started _ | .failed _ | .reading _ | .ended _ => True

/-- Nothing is asked for any more: the media id is known. -/
def Quiet : HandlerPoint → Prop
  | .started r | .creating r _ => r.publishedMediaId ≠ none
  | .saving r _ => r.publishedMediaId ≠ none ∧ r.phase ≠ .publishRequested
  | .reconciling _ _ | .requested _ _ | .publishing _ _ => False
  | .failed _ | .reading _ | .ended _ => True

/-- The three places the handler can go on to from a checkpoint. -/
theorem continueFrom_cases (r : Recovery) (rest : List MediaContainerRequest) :
    (continueFrom r rest = .creating r rest ∧ (rest = [] → r.containerId = none))
      ∨ (∃ mediaId, continueFrom r rest = .reading mediaId)
      ∨ ∃ id, continueFrom r rest = .reconciling r id ∧ r.containerId = some id
        ∧ r.publishedMediaId = none := by
  cases rest with
  | cons request rest => exact .inl ⟨rfl, fun h => by cases h⟩
  | nil =>
    simp only [continueFrom]
    split
    · rename_i hnone
      exact .inl ⟨rfl, fun _ => hnone⟩
    · exact .inr (.inl ⟨_, rfl⟩)
    · rename_i hid hmedia
      exact .inr (.inr ⟨_, rfl, hid, hmedia⟩)

theorem afterSave_cases (r : Recovery) (rest : List MediaContainerRequest) :
    (∃ mediaId, afterSave r rest = .reading mediaId)
      ∨ (∃ id, afterSave r rest = .requested r id ∧ r.phase = .publishRequested
        ∧ r.containerId = some id)
      ∨ afterSave r rest = continueFrom r rest := by
  unfold afterSave
  split
  · exact .inl ⟨_, rfl⟩
  · rename_i hphase hid
    exact .inr (.inl ⟨_, rfl, hphase, hid⟩)
  · exact .inr (.inr rfl)

/-- What an attempt does with what it hears. -/
inductive Hears (cmd : PublishCommand) : HandlerPoint → HandlerInput → HandlerPoint → Prop
  | idle (p : HandlerPoint) (i : HandlerInput) : Hears cmd p i p
  | started (r : Recovery) (quota : Bool)
      (h : cmd.isCarousel = true → r.childContainerIds.length ≤ cmd.childRequests.length) :
      Hears cmd (.started r) (.begin quota)
        (continueFrom r (cmd.childRequests.drop r.childContainerIds.length))
  | child (r : Recovery) (request : MediaContainerRequest) (rest : List MediaContainerRequest)
      (id : String) :
      Hears cmd (.creating r (request :: rest)) (.created id) (.saving (r.withChild id) rest)
  | container (r : Recovery) (id : String) :
      Hears cmd (.creating r []) (.created id) (.saving (r.withContainer id) [])
  | finished (r : Recovery) (id : String) (state : ContainerState) (quota : Bool) :
      Hears cmd (.reconciling r id) (.status state quota)
        (.saving { r with phase := .publishRequested } [])
  | published (r : Recovery) (id mediaId : String) :
      Hears cmd (.publishing r id) (.published mediaId)
        (.saving { r with publishedMediaId := some mediaId, phase := .published } [])
  | failed (p : HandlerPoint) (i : HandlerInput) (code : String) : Hears cmd p i (.failed code)
  | ended (p : HandlerPoint) (i : HandlerInput) (outcome : HandlerOutcome) :
      Hears cmd p i (.ended outcome)

theorem hears_start (cmd : PublishCommand) (r : Recovery) (quota : Bool) :
    Hears cmd (.started r) (.begin quota) (start cmd r quota) := by
  unfold start
  split
  · exact .ended _ _ _
  · split
    · exact .ended _ _ _
    · rename_i hfits
      exact .started r quota fun hcarousel => Nat.le_of_not_lt fun hlt => hfits ⟨hcarousel, hlt⟩

theorem hears_reconcile (cmd : PublishCommand) (r : Recovery) (id : String)
    (state : ContainerState) (quota : Bool) :
    Hears cmd (.reconciling r id) (.status state quota) (reconcile r state quota) := by
  unfold reconcile
  split
  · exact .ended _ _ _
  · split
    · exact .ended _ _ _
    · exact .finished r id state quota

theorem hears (cmd : PublishCommand) (p : HandlerPoint) (i : HandlerInput) :
    Hears cmd p i (p.hear cmd i) := by
  unfold hear
  split
  · exact hears_start cmd _ _
  · exact .ended _ _ _
  · rename_i r rest id
    cases rest with
    | nil => exact .container r id
    | cons request rest => exact .child r request rest id
  · exact .ended _ _ _
  · exact hears_reconcile cmd _ _ _ _
  · exact .ended _ _ _
  · exact .published _ _ _
  · exact .failed _ _ _
  · exact .ended _ _ _
  · exact .ended _ _ _
  · exact .ended _ _ _
  · exact .ended _ _ _
  · exact .ended _ _ _
  · exact .idle _ _

-- ==== what is kept where

theorem fits_continueFrom (d r : Recovery) (rest : List MediaContainerRequest) :
    (continueFrom r rest).Fits d := by
  rcases continueFrom_cases r rest with ⟨heq, hnone⟩ | ⟨_, heq⟩ | ⟨_, heq, hid, hmedia⟩
  · rw [heq]
    exact hnone
  · rw [heq]
    trivial
  · rw [heq]
    exact ⟨hid, hmedia⟩

theorem agrees_continueFrom (h : r.Extends d) (rest : List MediaContainerRequest) :
    (continueFrom r rest).Agrees d := by
  intro r' hr'
  rcases continueFrom_cases r rest with ⟨heq, -⟩ | ⟨_, heq⟩ | ⟨_, heq, -⟩ <;>
    rw [heq] at hr' <;> cases hr' <;> exact h

theorem quiet_continueFrom (h : r.publishedMediaId ≠ none) (rest : List MediaContainerRequest) :
    (continueFrom r rest).Quiet := by
  rcases continueFrom_cases r rest with ⟨heq, -⟩ | ⟨_, heq⟩ | ⟨_, -, -, hmedia⟩
  · rw [heq]
    exact h
  · rw [heq]
    trivial
  · exact absurd hmedia h

variable {p' : HandlerPoint} {i : HandlerInput}

theorem Hears.fits (h : Hears cmd p i p') (hp : p.Fits d) : p'.Fits d := by
  cases h with
  | idle => exact hp
  | started r => exact fits_continueFrom d r _
  | child | container => exact fun h => by cases h
  | finished => exact fun _ => hp.2
  | published => exact fun h => by cases h
  | failed | ended => trivial

/-- A live attempt sets nothing that is durable already. -/
theorem Hears.agrees (h : Hears cmd p i p') (hp : p.Fits d) (hd : p.Agrees d) :
    p'.Agrees d := by
  cases h with
  | idle => exact hd
  | started r => exact agrees_continueFrom (hd r rfl) _
  | child r =>
    rintro r' ⟨⟩
    exact ⟨(hd r rfl).container, (hd r rfl).media⟩
  | container r id =>
    rintro r' ⟨⟩
    refine ⟨fun id' hid' => ?_, (hd r rfl).media⟩
    have hset := (hd r rfl).container id' hid'
    rw [hp rfl] at hset
    cases hset
  | finished r =>
    rintro r' ⟨⟩
    exact ⟨(hd r rfl).container, (hd r rfl).media⟩
  | published r =>
    rintro r' ⟨⟩
    refine ⟨(hd r rfl).container, fun m hm => ?_⟩
    have hset := (hd r rfl).media m hm
    rw [hp.2] at hset
    cases hset
  | failed | ended => exact fun _ h => by cases h

theorem Hears.quiet (h : Hears cmd p i p') (hp : p.Quiet) : p'.Quiet := by
  cases h with
  | idle => exact hp
  | started r => exact quiet_continueFrom hp _
  | child | container => exact ⟨hp, fun h => by cases h⟩
  | finished | published => exact hp.elim
  | failed | ended => trivial

theorem Hears.requested (h : Hears cmd p i (.requested r id)) : p = .requested r id := by
  generalize hp' : HandlerPoint.requested r id = p' at h
  cases h with
  | idle => rfl
  | started r =>
    rcases continueFrom_cases r (cmd.childRequests.drop r.childContainerIds.length) with
      ⟨heq, -⟩ | ⟨_, heq⟩ | ⟨_, heq, -⟩ <;> rw [heq] at hp' <;> cases hp'
  | _ => cases hp'

theorem saves?_eq_some (h : p.saves? = some d') : ∃ rest, p = .saving d' rest := by
  cases p <;> cases h
  exact ⟨_, rfl⟩

theorem calls?_eq_some (h : p.calls? = some id) : ∃ r, p = .requested r id := by
  cases p <;> cases h
  exact ⟨_, rfl⟩

end HandlerPoint

-- ==== publishing

open HandlerPoint in
theorem publishing_guards (cmd : PublishCommand) :
    (publishProgram cmd).Guards Agrees Fits (fun d id => d.containerId = some id) where
  start d := by
    refine ⟨?_, trivial⟩
    rintro r ⟨⟩
    exact .refl d
  hear_live d p i hfits hagrees := (hears cmd p i).agrees hfits hagrees
  hear_held d p i hfits := (hears cmd p i).fits hfits
  refused d p := ⟨fun _ h => (by cases h), trivial⟩
  call d p id hcall hfits := by
    obtain ⟨r, rfl⟩ := calls?_eq_some hcall
    refine ⟨hfits.2.2, fun hagrees => ?_, hfits.1⟩
    rintro r' ⟨⟩
    exact hagrees r rfl
  save d d' p hsave hfits _ := by
    obtain ⟨rest, rfl⟩ := saves?_eq_some hsave
    show (afterSave d' rest).Agrees d' ∧ (afterSave d' rest).Fits d'
    rcases afterSave_cases d' rest with ⟨_, heq⟩ | ⟨_, heq, hphase, hid⟩ | heq
    · rw [heq]
      exact ⟨fun _ h => (by cases h), trivial⟩
    · rw [heq]
      refine ⟨?_, ⟨hid, hfits hphase⟩, hphase, hid⟩
      rintro r' ⟨⟩
      exact .refl d'
    · rw [heq]
      exact ⟨agrees_continueFrom (.refl d') rest, fits_continueFrom d' d' rest⟩
  keep_held d d' p q hsave _ hagrees hq := by
    obtain ⟨rest, rfl⟩ := saves?_eq_some hsave
    cases q with
    | requested r id => exact ⟨hq.1, hq.2.1, (hagrees d' rfl).container id hq.2.2⟩
    | _ => exact hq
  keep_called d d' p id hsave _ hagrees hid := by
    obtain ⟨rest, rfl⟩ := saves?_eq_some hsave
    exact (hagrees d' rfl).container id hid

open HandlerPoint in
/-- An attempt about to call has saved what it asks for. -/
theorem publishing_remembers (cmd : PublishCommand) :
    (publishProgram cmd).Remembers (fun p r => ∃ id, p = .requested r id) where
  start d r := by
    rintro ⟨id, h⟩
    cases h
  hear p i r := by
    rintro ⟨id, h⟩
    have hhears : Hears cmd p i (.requested r id) := h ▸ hears cmd p i
    exact ⟨id, hhears.requested⟩
  refused p r := by
    rintro ⟨id, h⟩
    cases h
  called p r := by
    rintro ⟨id, h⟩
    cases p with
    | requested => cases h
    | _ => exact ⟨id, h⟩
  saved p r := by
    rintro ⟨id, h⟩
    cases p with
    | saving r' rest =>
      have h' : afterSave r' rest = .requested r id := h
      rcases afterSave_cases r' rest with ⟨_, heq⟩ | ⟨_, heq, -⟩ | heq
      · rw [heq] at h'
        cases h'
      · rw [heq] at h'
        cases h'
        exact .inr rfl
      · rw [heq] at h'
        rcases continueFrom_cases r' rest with ⟨heq', -⟩ | ⟨_, heq'⟩ | ⟨_, heq', -⟩ <;>
          rw [heq'] at h' <;> cases h'
    | _ => exact .inl ⟨id, h⟩

open HandlerPoint in
/-- With the media id durable, a new attempt asks for nothing. -/
theorem publishing_retires (cmd : PublishCommand) :
    (publishProgram cmd).Retires Agrees Fits (fun d => d.publishedMediaId ≠ none) Quiet where
  start d hdone := hdone
  hear p i hquiet := (hears cmd p i).quiet hquiet
  refused p := trivial
  saved p d hsave hquiet := by
    obtain ⟨rest, rfl⟩ := saves?_eq_some hsave
    show (afterSave d rest).Quiet
    rcases afterSave_cases d rest with ⟨_, heq⟩ | ⟨_, -, hphase, -⟩ | heq
    · rw [heq]
      trivial
    · exact absurd hphase hquiet.2
    · rw [heq]
      exact quiet_continueFrom hquiet.1 rest
  silent p hquiet := by
    cases p with
    | requested => exact hquiet.elim
    | _ => rfl
  stays d d' p hsave _ hagrees hdone := by
    obtain ⟨rest, rfl⟩ := saves?_eq_some hsave
    obtain ⟨m, hm⟩ := Option.ne_none_iff_exists'.mp hdone
    exact Option.ne_none_iff_exists'.mpr ⟨m, (hagrees d' rfl).media m hm⟩

/-- The attempts of a publish Command. -/
def publishAttempts (cmd : PublishCommand) :
    Machine (FencedRun Uuid Recovery HandlerPoint HandlerInput String)
      (FencedEvent Uuid HandlerInput) :=
  (publishProgram cmd).machine .initial

open FencedRun

/-- In every run of a publish Command's attempts, all calls of
`publish_container` name one container; a call is made only after its own
attempt saved PUBLISH_REQUESTED with that container; and once a media id is
durable, no attempt claimed from then on makes a call. -/
theorem publish_calls_one_container (cmd : PublishCommand)
    (R : FencedRun Uuid Recovery HandlerPoint HandlerInput String)
    (h : (publishAttempts cmd).Reachable (fun _ _ => True) R) :
    (∀ x y id id', (x, id) ∈ R.calls → (y, id') ∈ R.calls → id = id')
      ∧ (∀ e x id, (publishAttempts cmd).enabled R e →
        ((publishAttempts cmd).step R e).calls = (x, id) :: R.calls →
        ∃ r, (x, r) ∈ R.saves ∧ r.containerId = some id ∧ r.phase = .publishRequested)
      ∧ ∀ mediaId, R.durable.publishedMediaId = some mediaId →
        ∀ R', ((publishAttempts cmd).startingAt R).Reachable (fun _ _ => True) R' →
          ∀ x id, R.executions x = none → (x, id) ∉ R'.calls := by
  have hguarded := (publishing_guards cmd).reachable h
  have hrecalls := (publishing_remembers cmd).reachable h
  refine ⟨fun x y id id' hx hy => ?_, fun e x id hen hcalls => ?_,
    fun mediaId hmedia R' hR' x id hx => ?_⟩
  · have hsame := (hguarded.called x id hx).symm.trans (hguarded.called y id' hy)
    exact Option.some.inj hsame
  · obtain ⟨ex, hex, hcall⟩ := FencedRun.call_of_step hen hcalls
    obtain ⟨r, hr⟩ := HandlerPoint.calls?_eq_some hcall
    have hfits := hguarded.held x ex hex
    rw [hr] at hfits
    exact ⟨r, hrecalls x ex r hex ⟨id, hr⟩, hfits.1.1, hfits.2.1⟩
  · exact (publishing_retires cmd).reachable (publishing_guards cmd) h
      (by rw [hmedia]; exact Option.some_ne_none _) hR' hx id

-- ==== children

section Children

variable {items : List CarouselItem} {text replyControl : Option String}
  {R R' : FencedRun Uuid Recovery HandlerPoint HandlerInput String}

/-- The ids are of containers made, by whatever attempt, from the requests
at their places. -/
def Backed (requests : List MediaContainerRequest)
    (heard : List (Nat × HandlerPoint × HandlerInput)) (ids : List String) : Prop :=
  ids.length ≤ requests.length ∧ ∀ i id, ids[i]? = some id →
    ∃ x r request rest, (x, .creating r (request :: rest), .created id) ∈ heard
      ∧ r.childContainerIds.length = i ∧ requests[i]? = some request

theorem Backed.mono {ids : List String} (h : Backed requests heard ids) (hsub : heard ⊆ heard') :
    Backed requests heard' ids := by
  refine ⟨h.1, fun i id hid => ?_⟩
  obtain ⟨x, r, request, rest, hmem, hrest⟩ := h.2 i id hid
  exact ⟨x, r, request, rest, hsub hmem, hrest⟩

theorem Backed.child {request : MediaContainerRequest}
    (h : Backed requests heard r.childContainerIds)
    (hrest : request :: rest = requests.drop r.childContainerIds.length)
    (hmem : (x, .creating r (request :: rest), .created id) ∈ heard) :
    Backed requests heard (r.withChild id).childContainerIds := by
  have hget : requests[r.childContainerIds.length]? = some request := by
    rw [← List.head?_drop, ← hrest, List.head?_cons]
  have hlt := (List.getElem?_eq_some_iff.mp hget).1
  have hlength : (r.withChild id).childContainerIds.length ≤ requests.length := by
    simpa [Recovery.withChild] using Nat.succ_le_of_lt hlt
  refine ⟨hlength, fun i id' hid' => ?_⟩
  simp only [Recovery.withChild, List.getElem?_append] at hid'
  split at hid'
  · exact h.2 i id' hid'
  · rename_i hge
    obtain ⟨hi, rfl⟩ := List.getElem?_eq_some_iff.mp hid'
    have hi' : i = r.childContainerIds.length := by
      simp only [List.length_singleton] at hi
      omega
    subst hi'
    exact ⟨x, r, request, rest, by simpa using hmem, rfl, hget⟩

/-- What is still to be created, at a point of `_publish`. -/
def HandlerPoint.Shaped (requests : List MediaContainerRequest) : HandlerPoint → Prop
  | .creating r rest => rest = requests.drop r.childContainerIds.length
  | .saving r rest => rest = requests.drop r.childContainerIds.length
      ∧ (r.phase = .publishRequested → rest = [])
  | .reconciling r _ | .requested r _ | .publishing r _ =>
    requests.drop r.childContainerIds.length = []
  | .started _ | .failed _ | .reading _ | .ended _ => True

open HandlerPoint in
theorem shaped_continueFrom (h : rest = requests.drop r.childContainerIds.length) :
    (continueFrom r rest).Shaped requests := by
  cases rest with
  | cons request rest => exact h
  | nil =>
    rcases continueFrom_cases r [] with ⟨heq, -⟩ | ⟨_, heq⟩ | ⟨_, heq, -⟩
    · rw [heq]
      exact h
    · rw [heq]
      trivial
    · rw [heq]
      exact h.symm

open HandlerPoint in
theorem shaped_afterSave (h : (HandlerPoint.saving r rest).Shaped requests) :
    (afterSave r rest).Shaped requests := by
  rcases afterSave_cases r rest with ⟨_, heq⟩ | ⟨_, heq, hphase, -⟩ | heq
  · rw [heq]
    trivial
  · rw [heq]
    exact h.1.symm.trans (h.2 hphase)
  · rw [heq]
    exact shaped_continueFrom h.1

open HandlerPoint in
theorem HandlerPoint.Hears.shaped {p' : HandlerPoint} {i : HandlerInput} (h : Hears cmd p i p')
    (hp : p.Shaped cmd.childRequests) : p'.Shaped cmd.childRequests := by
  cases h with
  | idle => exact hp
  | started r => exact shaped_continueFrom rfl
  | child r request rest id =>
    refine ⟨?_, fun h => by cases h⟩
    have hdrop : request :: rest = cmd.childRequests.drop r.childContainerIds.length := hp
    rw [Recovery.withChild, List.length_append, List.length_singleton, ← List.drop_drop, ← hdrop,
      List.drop_succ_cons, List.drop_zero]
  | container r id => exact ⟨hp, fun h => by cases h⟩
  | finished r => exact ⟨hp.symm, fun _ => rfl⟩
  | published r => exact ⟨hp.symm, fun _ => rfl⟩
  | failed | ended => trivial

/-- A point whose children are backed by what was heard. -/
def HandlerPoint.Sound (requests : List MediaContainerRequest)
    (heard : List (Nat × HandlerPoint × HandlerInput)) (p : HandlerPoint) : Prop :=
  p.Shaped requests ∧ ∀ r, p.recovery? = some r → Backed requests heard r.childContainerIds

theorem HandlerPoint.Sound.mono (h : p.Sound requests heard) (hsub : heard ⊆ heard') :
    p.Sound requests heard' :=
  ⟨h.1, fun r hr => (h.2 r hr).mono hsub⟩

open HandlerPoint in
theorem recovery_continueFrom {r' : Recovery} (h : (continueFrom r rest).recovery? = some r') :
    r' = r := by
  rcases continueFrom_cases r rest with ⟨heq, -⟩ | ⟨_, heq⟩ | ⟨_, heq, -⟩ <;>
    rw [heq] at h <;> cases h <;> rfl

open HandlerPoint in
theorem HandlerPoint.Sound.afterSave (h : (HandlerPoint.saving r rest).Sound requests heard) :
    (afterSave r rest).Sound requests heard := by
  refine ⟨shaped_afterSave h.1, fun r' hr' => ?_⟩
  rcases afterSave_cases r rest with ⟨_, heq⟩ | ⟨_, heq, -⟩ | heq
  · rw [heq] at hr'
    cases hr'
  · rw [heq] at hr'
    cases hr'
    exact h.2 r rfl
  · rw [heq] at hr'
    exact recovery_continueFrom hr' ▸ h.2 r rfl

open HandlerPoint in
theorem HandlerPoint.Hears.sound {p' : HandlerPoint} {i : HandlerInput} (h : Hears cmd p i p')
    (hp : p.Sound cmd.childRequests heard) (hmem : (x, p, i) ∈ heard) :
    p'.Sound cmd.childRequests heard := by
  refine ⟨h.shaped hp.1, fun r' hr' => ?_⟩
  cases h with
  | idle => exact hp.2 r' hr'
  | started r => exact recovery_continueFrom hr' ▸ hp.2 r rfl
  | child r request rest id =>
    cases hr'
    exact (hp.2 r rfl).child hp.1 hmem
  | container r id =>
    cases hr'
    exact hp.2 r rfl
  | finished r =>
    cases hr'
    exact hp.2 r rfl
  | published r =>
    cases hr'
    exact hp.2 r rfl
  | failed | ended => cases hr'

/-- Checkpoints, durable or in memory, have the children of a prefix, and
so they had whenever an attempt heard something. -/
structure ChildrenInOrder (cmd : PublishCommand)
    (R : FencedRun Uuid Recovery HandlerPoint HandlerInput String) : Prop where
  durable : Backed cmd.childRequests R.heard R.durable.childContainerIds
  places : ∀ x e, R.executions x = some e → e.place.Sound cmd.childRequests R.heard
  heard : ∀ x p i, (x, p, i) ∈ R.heard → p.Sound cmd.childRequests R.heard

theorem ChildrenInOrder.goOn (h : ChildrenInOrder cmd R)
    {Q : FencedRun Uuid Recovery HandlerPoint HandlerInput String}
    {e : FencedExecution Uuid HandlerPoint} (hexecutions : Q.executions = R.executions)
    (hheard : Q.heard = R.heard)
    (hdurable : Backed cmd.childRequests R.heard Q.durable.childContainerIds)
    (hp : p.Sound cmd.childRequests R.heard) : ChildrenInOrder cmd (Q.goOn x e.token p) := by
  refine ⟨?_, fun y e' he' => ?_, ?_⟩
  · show Backed cmd.childRequests Q.heard Q.durable.childContainerIds
    rw [hheard]
    exact hdurable
  · show e'.place.Sound cmd.childRequests Q.heard
    rw [hheard]
    rcases goOn_cases he' with ⟨-, rfl⟩ | ⟨-, hold⟩
    · exact hp
    · exact h.places y e' (hexecutions ▸ hold)
  · show ∀ y q i, (y, q, i) ∈ Q.heard → q.Sound cmd.childRequests Q.heard
    rw [hheard]
    exact h.heard

theorem ChildrenInOrder.moves (h : ChildrenInOrder cmd R) (hmoves : R.Moves (publishProgram cmd) R')
  :
    ChildrenInOrder cmd R' := by
  cases hmoves with
  | idle => exact h
  | claimed x token hx hdrawn =>
    refine ⟨h.durable, fun y e he => ?_, h.heard⟩
    rcases goOn_cases he with ⟨-, rfl⟩ | ⟨-, hold⟩
    · refine ⟨trivial, ?_⟩
      rintro r ⟨⟩
      exact h.durable
    · exact h.places y e hold
  | released => exact ⟨h.durable, h.places, h.heard⟩
  | heard x e i hx =>
    have hsub : R.heard ⊆ (x, e.place, i) :: R.heard := List.subset_cons_self _ _
    have hplace := (h.places x e hx).mono hsub
    refine ⟨h.durable.mono hsub, fun y e' he' => ?_, fun y q j hmem => ?_⟩
    · rcases goOn_cases he' with ⟨-, rfl⟩ | ⟨-, hold⟩
      · exact (HandlerPoint.hears cmd e.place i).sound hplace (.head _)
      · exact (h.places y e' hold).mono hsub
    · rcases List.mem_cons.mp hmem with heq | hold
      · cases heq
        exact hplace
      · exact (h.heard y q j hold).mono hsub
  | refused x e hx => exact h.goOn rfl rfl h.durable ⟨trivial, fun _ hr => by cases hr⟩
  | saved x e d l hx hd hlease hl =>
    obtain ⟨rest, hplace⟩ := HandlerPoint.saves?_eq_some hd
    have hsound := h.places x e hx
    rw [hplace] at hsound
    refine h.goOn rfl rfl (hsound.2 d rfl) ?_
    rcases hl with rfl | rfl
    · rw [hplace]
      exact hsound.afterSave
    · exact ⟨trivial, fun _ hr => by cases hr⟩
  | called x e id hx hcall =>
    obtain ⟨r, hplace⟩ := HandlerPoint.calls?_eq_some hcall
    have hsound := h.places x e hx
    rw [hplace] at hsound
    refine h.goOn rfl rfl h.durable ?_
    rw [hplace]
    refine ⟨hsound.1, ?_⟩
    rintro r' ⟨⟩
    exact hsound.2 r rfl

/-- The service never gives the id of one container to another. -/
def FreshContainers (R : FencedRun Uuid Recovery HandlerPoint HandlerInput String)
    (e : FencedEvent Uuid HandlerInput) : Prop :=
  ∀ x id, e = .hear x (.created id) → ∀ entry ∈ R.heard, entry.2.2 ≠ .created id

/-- Two answers are of different containers. -/
def HeardOnce (heard : List (Nat × HandlerPoint × HandlerInput)) : Prop :=
  heard.Pairwise fun a b => ∀ id, a.2.2 = .created id → b.2.2 ≠ .created id

theorem HeardOnce.after (h : HeardOnce R.heard) (hfresh : FreshContainers R e) :
    HeardOnce (R.after (publishProgram cmd) e).heard := by
  cases e with
  | hear x i =>
    simp only [after]
    split
    · exact h
    · refine List.pairwise_cons.mpr ⟨fun b hb id hid => ?_, h⟩
      exact hfresh x id (congrArg (FencedEvent.hear x) hid) b hb
  | save x outcome =>
    simp only [after]
    split
    · exact h
    · split
      · exact h
      · split <;> exact h
  | call x =>
    simp only [after]
    split
    · exact h
    · split <;> exact h
  | claim | release => exact h

theorem HeardOnce.eq (h : HeardOnce heard) {a b : Nat × HandlerPoint × HandlerInput}
    (ha : a ∈ heard) (hb : b ∈ heard) (hida : a.2.2 = .created id) (hidb : b.2.2 = .created id) :
    a = b := by
  have hsymm : Std.Symm fun a b : Nat × HandlerPoint × HandlerInput =>
      ∀ id, a.2.2 = .created id → b.2.2 ≠ .created id :=
    ⟨fun _ _ h id hb ha => h id ha hb⟩
  by_contra hne
  exact h.forall ha hb hne id hida hidb

theorem carousel_reachable (h : (publishAttempts cmd).Reachable FreshContainers R) :
    ChildrenInOrder cmd R ∧ HeardOnce R.heard := by
  refine h.invariant (I := fun R => ChildrenInOrder cmd R ∧ HeardOnce R.heard) ?_
    fun R e hR hen hfresh => ⟨hR.1.moves (moves_after hen), hR.2.after hfresh⟩
  rintro R rfl
  refine ⟨⟨⟨Nat.zero_le _, fun i id h => ?_⟩, fun _ _ h => ?_, fun _ _ _ h => ?_⟩, .nil⟩
  · simp [fresh, Recovery.initial] at h
  · cases h
  · cases h

/-- However its attempts are interrupted, when the parent container of a
carousel is created it is given one child for each item; each child was
created from the item at its place, and no two places have one child. -/
theorem carousel_children_in_order (items : List CarouselItem) (text replyControl : Option String)
    (R : FencedRun Uuid Recovery HandlerPoint HandlerInput String)
    (h : (publishAttempts (.publishCarousel items text replyControl)).Reachable FreshContainers R)
    (x : Nat) (r : Recovery) (parentId : String)
    (hparent : (x, .creating r [], .created parentId) ∈ R.heard) :
    ∃ children, ((PublishCommand.publishCarousel items text replyControl).request
        r.childContainerIds).children = children
      ∧ children.length = items.length
      ∧ (∀ (i : Nat) (item : CarouselItem) (id : String), items[i]? = some item →
        children[i]? = some id →
        ∃ y r' rest, (y, .creating r' (item.request :: rest), .created id) ∈ R.heard)
      ∧ children.Nodup := by
  obtain ⟨hinv, honce⟩ := carousel_reachable h
  obtain ⟨hshaped, hbacked⟩ := hinv.heard x _ _ hparent
  obtain ⟨hle, hmade⟩ := hbacked r rfl
  have hge : items.length ≤ r.childContainerIds.length := by
    have hdrop : [] = (items.map CarouselItem.request).drop r.childContainerIds.length := hshaped
    simpa using List.drop_eq_nil_iff.mp hdrop.symm
  have hle' : r.childContainerIds.length ≤ items.length := by
    simpa [PublishCommand.childRequests] using hle
  refine ⟨r.childContainerIds, rfl, Nat.le_antisymm hle' hge, fun i item id hitem hid => ?_, ?_⟩
  · obtain ⟨y, r', request, rest, hmem, -, hrequest⟩ := hmade i id hid
    have hsame : some request = some item.request := by
      rw [← hrequest]
      simp [PublishCommand.childRequests, hitem]
    cases hsame
    exact ⟨y, r', rest, hmem⟩
  · rw [List.nodup_iff_getElem?_ne_getElem?]
    intro i j hij hj hsame
    have hid : r.childContainerIds[j]? = some r.childContainerIds[j] := List.getElem?_eq_getElem hj
    obtain ⟨y, rj, _, _, hmemj, hj', -⟩ := hmade j _ hid
    obtain ⟨z, ri, _, _, hmemi, hi', -⟩ := hmade i _ (hsame.trans hid)
    have heq := honce.eq hmemi hmemj rfl rfl
    cases heq
    omega

end Children

-- ==== moderation

/-- Where an attempt that has the lease can be. -/
def ModerationPoint.Knows (d : Option ModerationAction) : ModerationPoint → Prop
  | .started before => before = d
  | .saving => d = none
  | .requested | .calling | .ended _ => True

theorem ModerationPoint.hear_knows (action : ModerationAction) (d : Option ModerationAction)
    (p : ModerationPoint) (i : ModerationInput) (h : p.Knows d) : (p.hear action i).Knows d := by
  unfold ModerationPoint.hear
  split
  · rename_i before reply
    obtain rfl : before = d := h
    unfold ModerationPoint.start
    split
    · trivial
    · split
      · trivial
      · split
        · trivial
        · rename_i hnone
          simpa [ModerationPoint.Knows] using hnone
  · trivial
  · trivial
  · trivial
  · exact h

theorem moderation_guards (action : ModerationAction) :
    (moderationProgram action).Guards ModerationPoint.Knows (fun _ _ => True) (fun _ _ => True)
      where
  start d := ⟨rfl, trivial⟩
  hear_live d p i _ := ModerationPoint.hear_knows action d p i
  hear_held _ _ _ _ := trivial
  refused _ _ := ⟨trivial, trivial⟩
  call d p c hcall _ := by
    refine ⟨trivial, fun hp => ?_, trivial⟩
    simp only [moderationProgram] at hcall ⊢
    split
    · trivial
    · exact hp
  save d d' p hsave _ _ := by
    refine ⟨?_, trivial⟩
    simp only [moderationProgram] at hsave ⊢
    split at hsave
    · rename_i hp
      rw [if_pos hp]
      trivial
    · cases hsave
  keep_held _ _ _ _ _ _ _ _ := trivial
  keep_called _ _ _ _ _ _ _ _ := trivial

theorem moderation_once (action : ModerationAction) :
    (moderationProgram action).Once ModerationPoint.Knows (· = .requested) (·.isSome = true) where
  start d h := by cases h
  hear p i h := by
    have hear : p.hear action i = .requested := h
    cases p with
    | requested => rfl
    | started before =>
      cases i with
      | begin reply =>
        simp only [ModerationPoint.hear, ModerationPoint.start] at hear
        split at hear
        · cases hear
        · split at hear
          · cases hear
          · split at hear <;> cases hear
      | _ => cases hear
    | _ => cases i <;> cases hear
  refused p h := by cases h
  called p c h := by
    simp only [moderationProgram] at h ⊢
    split at h
    · rename_i hp
      rw [if_pos hp]
      exact ⟨hp, fun h => by cases h⟩
    · cases h
  arms d d' p hsave hlive _ := by
    simp only [moderationProgram] at hsave
    split at hsave
    · rename_i hp
      subst hp
      have hnone : d = none := hlive
      cases hsave
      exact ⟨by simp [hnone], rfl⟩
    · cases hsave
  stays d d' p hsave _ _ := by
    simp only [moderationProgram] at hsave
    split at hsave
    · cases hsave
      rfl
    · cases hsave

/-- The attempts of a moderation Command. -/
def moderationAttempts (action : ModerationAction) :
    Machine (FencedRun Uuid (Option ModerationAction) ModerationPoint ModerationInput
      ModerationCall) (FencedEvent Uuid ModerationInput) :=
  (moderationProgram action).machine none

/-- All attempts of a moderation Command together call `manage_reply` or
`manage_pending_reply` at most once. -/
theorem moderation_called_once (action : ModerationAction)
    (R : FencedRun Uuid (Option ModerationAction) ModerationPoint ModerationInput ModerationCall)
    (h : (moderationAttempts action).Reachable (fun _ _ => True) R) : R.calls.length ≤ 1 :=
  ((moderation_once action).reachable (moderation_guards action) h).le_one

-- ==== samples

namespace HandlerSample

/-- A check that claims are new. -/
def newClaims {D L I C : Type} (R : FencedRun Uuid D L I C) : FencedEvent Uuid I → Bool
  | .claim x token => (R.executions x).isNone && !R.drawn.contains token
  | _ => true

theorem enabled_of_newClaims {D L I C : Type} {P : Program D L I C} {d : D}
    {R : FencedRun Uuid D L I C} {e : FencedEvent Uuid I} (h : newClaims R e = true) :
    (P.machine d).enabled R e := by
  rintro x token rfl
  simpa [newClaims] using h

/-- A check that containers are new. -/
def newContainers (R : FencedRun Uuid Recovery HandlerPoint HandlerInput String) :
    FencedEvent Uuid HandlerInput → Bool
  | .hear _ (.created id) => R.heard.all fun entry => decide (entry.2.2 ≠ .created id)
  | _ => true

theorem fresh_of_newContainers {R : FencedRun Uuid Recovery HandlerPoint HandlerInput String}
    (h : newContainers R e = true) : FreshContainers R e := by
  rintro x id rfl entry hentry
  exact of_decide_eq_true (List.all_eq_true.mp h entry hentry)

/-- A post. -/
def post : PublishCommand := .publishText "hello" none none

/-- The first attempt asks to publish and loses its lease; the second
publishes the same container and saves the media id. -/
def overlapping : List (FencedEvent Uuid HandlerInput) :=
  [.claim 0 1, .hear 0 (.begin true), .hear 0 (.created "c1"), .save 0 .done,
    .hear 0 (.status .finished true), .save 0 .done, .release, .claim 1 2,
    .hear 1 (.begin true), .hear 1 (.status .finished true), .save 1 .done, .call 1, .call 0,
    .hear 0 (.published "m1"), .save 0 .done, .hear 1 (.published "m1"), .save 1 .done]

/-- The third attempt. -/
def third : List (FencedEvent Uuid HandlerInput) :=
  [.release, .claim 2 3, .hear 2 (.begin true), .hear 2 (.media true)]

/-- Two pictures. -/
def pictures : List CarouselItem := [.image "https://a" none, .image "https://b" none]

/-- The answer to the first attempt's second save is lost after the first
child; the second attempt goes on with the second child. -/
def resumed : List (FencedEvent Uuid HandlerInput) :=
  [.claim 0 1, .hear 0 (.begin true), .hear 0 (.created "a"), .save 0 .lost, .claim 1 2,
    .hear 1 (.begin true), .hear 1 (.created "b"), .save 1 .done, .hear 1 (.created "parent")]

/-- The first attempt calls after it lost its lease. -/
def hiddenLate : List (FencedEvent Uuid ModerationInput) :=
  [.claim 0 1, .hear 0 (.begin .top), .save 0 .done, .release, .claim 1 2,
    .hear 1 (.begin .top), .call 0, .hear 0 .confirmed]

end HandlerSample

open HandlerSample in
theorem publish_calls_one_container_overlapping :
    ((publishAttempts post).runs overlapping (.fresh .initial)).calls = [(0, "c1"), (1, "c1")]
      ∧ (2, "c1") ∉ ((publishAttempts post).runs third
        ((publishAttempts post).runs overlapping (.fresh .initial))).calls := by
  have hrun : (publishAttempts post).Reachable (fun _ _ => True)
      ((publishAttempts post).runs overlapping (.fresh .initial)) :=
    Machine.Reachable.runs (fun _ _ _ h => ⟨enabled_of_newClaims h, trivial⟩) (.init rfl)
      (by decide :
        (publishAttempts post).checks newClaims overlapping (.fresh .initial) = true)
  have hstart : ((publishAttempts post).startingAt
      ((publishAttempts post).runs overlapping (.fresh .initial))).Reachable (fun _ _ => True)
      ((publishAttempts post).runs overlapping (.fresh .initial)) := .init rfl
  have hnew : ∀ R e, newClaims R e = true → ((publishAttempts post).startingAt
      ((publishAttempts post).runs overlapping (.fresh .initial))).enabled R e := fun _ _ h =>
    enabled_of_newClaims (P := publishProgram post) (d := .initial) h
  have hthird : ((publishAttempts post).startingAt
      ((publishAttempts post).runs overlapping (.fresh .initial))).Reachable (fun _ _ => True)
      ((publishAttempts post).runs third
        ((publishAttempts post).runs overlapping (.fresh .initial))) :=
    hstart.runs (fun R e _ h => ⟨hnew R e h, trivial⟩)
      (by decide : ((publishAttempts post).startingAt
        ((publishAttempts post).runs overlapping (.fresh .initial))).checks newClaims third
        ((publishAttempts post).runs overlapping (.fresh .initial)) = true)
  refine ⟨by decide, ?_⟩
  exact (publish_calls_one_container post _ hrun).2.2 "m1" (by decide) _ hthird 2 "c1"
    (by decide)

open HandlerSample in
theorem carousel_children_in_order_resumed :
    ∃ children, ((PublishCommand.publishCarousel pictures none none).request
        ["a", "b"]).children = children ∧ children.length = pictures.length
      ∧ children.Nodup := by
  have hrun : (publishAttempts (.publishCarousel pictures none none)).Reachable FreshContainers
      ((publishAttempts (.publishCarousel pictures none none)).runs resumed
        (.fresh .initial)) :=
    Machine.Reachable.runs
      (fun _ _ _ h => ⟨enabled_of_newClaims (Bool.and_eq_true_iff.mp h).1,
        fresh_of_newContainers (Bool.and_eq_true_iff.mp h).2⟩) (.init rfl)
      (by decide : (publishAttempts (.publishCarousel pictures none none)).checks
        (fun R e => newClaims R e && newContainers R e) resumed (.fresh .initial) = true)
  obtain ⟨children, hchildren, hlength, -, hnodup⟩ :=
    carousel_children_in_order pictures none none _ hrun 1
      ⟨.childContainersCreated, ["a", "b"], none, none⟩ "parent" (by decide)
  exact ⟨children, hchildren, hlength, hnodup⟩

open HandlerSample in
theorem moderation_called_once_overlapping :
    ((moderationAttempts .hide).runs hiddenLate (.fresh none)).calls = [(0, .manageReply true)]
      ∧ ((moderationAttempts .hide).runs hiddenLate (.fresh none)).calls.length ≤ 1 := by
  have hrun : (moderationAttempts .hide).Reachable (fun _ _ => True)
      ((moderationAttempts .hide).runs hiddenLate (.fresh none)) :=
    Machine.Reachable.runs (fun _ _ _ h => ⟨enabled_of_newClaims h, trivial⟩) (.init rfl)
      (by decide : (moderationAttempts .hide).checks newClaims hiddenLate (.fresh none)
        = true)
  exact ⟨by decide, moderation_called_once .hide _ hrun⟩

end ThreadsPlatform
