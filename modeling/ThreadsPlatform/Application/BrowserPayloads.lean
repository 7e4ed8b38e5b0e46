/-
The payload models of the browser Commands (`crm_protocol_v1`).

A browser Command's payload is one field. Its model forbids every other
field, checks the field, and dumps it again without a trailing slash. A
client's envelope and a scheduled activity go through the same models;
what the runtime later copies into a WorkerJob's input is such a dump.

How lax the integer field is (`"3"`, `3.0` and `true` are integers to
the validation library) is an argument.
-/
import Mathlib.Data.List.TakeWhile
import Mathlib.Tactic.IntervalCases
import ThreadsPlatform.Application.CommandRuntime

namespace ThreadsPlatform

open Relational

variable {model : BrowserPayload} {c : Char} {document payload : Document} {lax : Json → Option Int}
  {cs : List Char} {name value : String} {urlsplit : String → UrlVerdict}

-- ==== texts

/-- `[A-Za-z0-9]`. -/
def isAlnum (c : Char) : Bool :=
  let n := c.toNat
  (48 ≤ n && n ≤ 57) || (65 ≤ n && n ≤ 90) || (97 ≤ n && n ≤ 122)

/-- `[A-Za-z0-9._]`. -/
def isHandleChar (c : Char) : Bool :=
  isAlnum c || c == '.' || c == '_'

/-- `[A-Za-z0-9_-]`. -/
def isPostChar (c : Char) : Bool :=
  isAlnum c || c == '_' || c == '-'

/-- `[A-Za-z0-9._-]`. -/
def isFileChar (c : Char) : Bool :=
  isAlnum c || c == '.' || c == '_' || c == '-'

/-- What follows `/@[A-Za-z0-9._]{1,30}`. A slash or nothing has to
follow the handle, so the longest one is the only candidate. -/
def afterHandle : List Char → Option (List Char)
  | '/' :: '@' :: rest =>
    let handle := rest.takeWhile isHandleChar
    if 1 ≤ handle.length ∧ handle.length ≤ 30 then some (rest.dropWhile isHandleChar)
    else none
  | _ => none

/-- `/?` and the end. -/
def endsHere (cs : List Char) : Bool :=
  cs == [] || cs == ['/']

/-- `/@[A-Za-z0-9._]{1,30}/post/[A-Za-z0-9_-]{1,120}/?`. -/
def isThreadRef (cs : List Char) : Bool :=
  match afterHandle cs with
  | some ('/' :: 'p' :: 'o' :: 's' :: 't' :: '/' :: rest) =>
    let post := rest.takeWhile isPostChar
    decide (1 ≤ post.length) && decide (post.length ≤ 120) && endsHere (rest.dropWhile isPostChar)
  | _ => false

/-- `/@[A-Za-z0-9._]{1,30}/?`. -/
def isProfileRef (cs : List Char) : Bool := (afterHandle cs).any endsHere

/-- `_WINDOWS_DEVICE_NAME_STEMS`. -/
def windowsDeviceNameStems : List String :=
  ["con", "prn", "aux", "nul", "com1", "com2", "com3", "com4", "com5", "com6", "com7", "com8",
    "com9", "lpt1", "lpt2", "lpt3", "lpt4", "lpt5", "lpt6", "lpt7", "lpt8", "lpt9"]

/-- `[A-Za-z0-9][A-Za-z0-9._-]{0,119}`, not a dot name and not a device.
The text is ASCII, so folding its case is lowering it. -/
def isMediaRef (cs : List Char) : Bool :=
  cs.head?.any isAlnum && cs.tail.all isFileChar && decide (cs.length ≤ 120)
    && cs != ['.'] && cs != ['.', '.']
    && !windowsDeviceNameStems.contains (String.ofList ((cs.takeWhile (· != '.')).map Char.toLower))

/-- `value[:-1] if value.endswith("/") else value`. -/
def withoutSlash (cs : List Char) : List Char :=
  if cs.getLast? = some '/' then cs.dropLast else cs

-- ==== models

/-- The models by the field they have. -/
inductive BrowserPayload where
  | feedBrowse | threadOpen | profileOpen | localUpload
  deriving DecidableEq

namespace BrowserPayload

/-- The model of a command type. -/
def ofType? : String → Option BrowserPayload
  | "threads.browser.feed.browse" => some .feedBrowse
  | "threads.browser.thread.open" => some .threadOpen
  | "threads.browser.profile.open" => some .profileOpen
  | "threads.browser.media.local_upload" => some .localUpload
  | _ => none

/-- `extra="forbid"`: the document has no other field. -/
def onlyField (name : String) (document : Document) : Bool :=
  document.all fun field => field.1 == name

/-- A model with one text field, dumped. -/
def dumpText (name : String) (maxLength : Nat) (accepts : List Char → Bool)
    (normalize : List Char → List Char) (document : Document) : Option Document :=
  match document.get? name with
  | some (.str value) =>
    if onlyField name document = true ∧ 1 ≤ value.length ∧ value.length ≤ maxLength
        ∧ accepts value.toList = true then
      some [(name, .str (String.ofList (normalize value.toList)))]
    else none
  | _ => none

/-- `BrowserFeedBrowsePayload`, dumped: up to twenty items, ten if the
field is missing. -/
def dumpFeedBrowse (lax : Json → Option Int) (document : Document) : Option Document :=
  match (document.get? "max_items").elim (some 10) lax with
  | some items =>
    if onlyField "max_items" document = true ∧ 1 ≤ items ∧ items ≤ 20 then
      some [("max_items", .int items)]
    else none
  | none => none

/-- `model_validate(document).model_dump(mode="json")`; `none` is a
`ValidationError`. -/
def dump (lax : Json → Option Int) : BrowserPayload → Document → Option Document
  | .feedBrowse => dumpFeedBrowse lax
  | .threadOpen => dumpText "thread_ref" 170 isThreadRef withoutSlash
  | .profileOpen => dumpText "profile_ref" 33 isProfileRef withoutSlash
  | .localUpload => dumpText "media_ref" 120 isMediaRef id

/-- The field of a model. -/
def field : BrowserPayload → String
  | .feedBrowse => "max_items"
  | .threadOpen => "thread_ref"
  | .profileOpen => "profile_ref"
  | .localUpload => "media_ref"

end BrowserPayload

/-- A browser Command's payload is a dump of its model. -/
def TypedPayload (commandType : String) (payload : Document) : Prop :=
  ∀ model, BrowserPayload.ofType? commandType = some model →
    ∃ lax document, model.dump lax document = some payload

-- ==== what is dumped

/-- The characters of a reference. -/
def isRefChar (c : Char) : Bool :=
  isFileChar c || c == '/' || c == '@'

theorem isRefChar_of_isFileChar (h : isFileChar c = true) : isRefChar c = true := by
  simp [isRefChar, h]

theorem isFileChar_of_isHandleChar (h : isHandleChar c = true) : isFileChar c = true := by
  simp only [isHandleChar, Bool.or_eq_true] at h
  simp only [isFileChar, Bool.or_eq_true]
  tauto

theorem isFileChar_of_isPostChar (h : isPostChar c = true) : isFileChar c = true := by
  simp only [isPostChar, Bool.or_eq_true] at h
  simp only [isFileChar, Bool.or_eq_true]
  tauto

/-- A text whose longest run of file characters is followed by a
reference is a reference. -/
theorem all_isRefChar_of_run {p : Char → Bool} (hp : ∀ {c}, p c = true → isFileChar c = true)
    (hrest : (cs.dropWhile p).all isRefChar = true) : cs.all isRefChar = true := by
  rw [← List.takeWhile_append_dropWhile (p := p) (l := cs), List.all_append, Bool.and_eq_true]
  refine ⟨List.all_eq_true.mpr fun c hc => ?_, hrest⟩
  exact isRefChar_of_isFileChar (hp (List.mem_takeWhile_imp hc))

theorem all_isRefChar_of_endsHere (h : endsHere cs = true) : cs.all isRefChar = true := by
  simp only [endsHere, Bool.or_eq_true, beq_iff_eq] at h
  rcases h with rfl | rfl <;> rfl

theorem all_isRefChar_of_afterHandle {rest : List Char} (h : afterHandle cs = some rest)
    (hrest : rest.all isRefChar = true) : cs.all isRefChar = true := by
  unfold afterHandle at h
  split at h
  case h_1 tail =>
    dsimp only at h
    split at h
    · cases h
      rw [List.all_cons, List.all_cons, all_isRefChar_of_run isFileChar_of_isHandleChar hrest]
      rfl
    · cases h
  · cases h

theorem all_isRefChar_of_isThreadRef (h : isThreadRef cs = true) : cs.all isRefChar = true := by
  unfold isThreadRef at h
  split at h
  case h_1 rest hrest =>
    simp only [Bool.and_eq_true] at h
    have htail := all_isRefChar_of_run isFileChar_of_isPostChar (all_isRefChar_of_endsHere h.2)
    refine all_isRefChar_of_afterHandle hrest ?_
    simp only [List.all_cons, htail]
    rfl
  · cases h

theorem all_isRefChar_of_isProfileRef (h : isProfileRef cs = true) : cs.all isRefChar = true := by
  unfold isProfileRef at h
  cases hrest : afterHandle cs with
  | none => simp [hrest] at h
  | some rest =>
    rw [hrest] at h
    exact all_isRefChar_of_afterHandle hrest (all_isRefChar_of_endsHere h)

theorem all_isRefChar_of_isMediaRef (h : isMediaRef cs = true) : cs.all isRefChar = true := by
  simp only [isMediaRef, Bool.and_eq_true] at h
  obtain ⟨⟨⟨⟨⟨hhead, htail⟩, -⟩, -⟩, -⟩, -⟩ := h
  cases cs with
  | nil => rfl
  | cons c cs =>
    have hc : isAlnum c = true := hhead
    rw [List.all_cons, Bool.and_eq_true, List.all_eq_true]
    refine ⟨isRefChar_of_isFileChar (by simp [isFileChar, hc]), fun c' hc' => ?_⟩
    exact isRefChar_of_isFileChar (List.all_eq_true.mp htail c' hc')

theorem withoutSlash_sublist (cs : List Char) : (withoutSlash cs).Sublist cs := by
  unfold withoutSlash
  split
  · exact List.dropLast_sublist cs
  · exact .refl cs

/-- A short text of reference characters. -/
def IsRef (value : String) : Prop :=
  value.toList.all isRefChar = true ∧ value.length ≤ 170

namespace BrowserPayload

theorem dumpText_ref {maxLength : Nat} {accepts : List Char → Bool}
    {normalize : List Char → List Char}
    (h : dumpText name maxLength accepts normalize document = some payload) (hmax : maxLength ≤ 170)
    (haccepts : ∀ {cs}, accepts cs = true → cs.all isRefChar = true)
    (hnormalize : ∀ cs, (normalize cs).Sublist cs) :
    ∃ value, payload = [(name, .str value)] ∧ IsRef value := by
  unfold dumpText at h
  split at h
  case h_1 value _ =>
    split at h
    case isTrue hvalid =>
      obtain ⟨-, -, hlength, hvalid⟩ := hvalid
      injection h with h
      refine ⟨_, h.symm, ?_, ?_⟩
      · rw [String.toList_ofList, List.all_eq_true]
        exact fun c hc => List.all_eq_true.mp (haccepts hvalid) c ((hnormalize _).subset hc)
      · have hshorter := (hnormalize value.toList).length_le
        rw [← String.length_toList, String.toList_ofList]
        rw [String.length_toList] at hshorter
        omega
    · cases h
  · cases h

theorem dump_items (h : dump lax .feedBrowse document = some payload) :
    ∃ items, 1 ≤ items ∧ items ≤ 20 ∧ payload = [("max_items", .int items)] := by
  change dumpFeedBrowse lax document = some payload at h
  unfold dumpFeedBrowse at h
  split at h
  case h_1 items _ =>
    split at h
    case isTrue hvalid =>
      injection h with h
      exact ⟨items, hvalid.2.1, hvalid.2.2, h.symm⟩
    · cases h
  · cases h

theorem dump_ref (hother : model ≠ .feedBrowse) (h : model.dump lax document = some payload) :
    ∃ value, payload = [(model.field, .str value)] ∧ IsRef value := by
  cases model with
  | feedBrowse => exact absurd rfl hother
  | threadOpen =>
    exact dumpText_ref h (by decide) all_isRefChar_of_isThreadRef withoutSlash_sublist
  | profileOpen =>
    exact dumpText_ref h (by decide) all_isRefChar_of_isProfileRef withoutSlash_sublist
  | localUpload =>
    exact dumpText_ref h (by decide) all_isRefChar_of_isMediaRef List.Sublist.refl

end BrowserPayload

-- ==== what a job accepts

theorem dumpsChar_ref {x : Char} (h : isRefChar x = true) : dumpsChar x = [x] := by
  have hnat : 32 ≤ x.toNat ∧ x.toNat ≤ 126 ∧ x.toNat ≠ 34 ∧ x.toNat ≠ 92 := by
    simp only [isRefChar, isFileChar, isAlnum, Bool.or_eq_true, checks_hold, beq_iff_eq] at h
    rcases h with ((((h | rfl) | rfl) | rfl) | rfl) | rfl
    · omega
    all_goals decide
  have hquote : x ≠ '"' := by
    rintro rfl
    exact hnat.2.2.1 rfl
  have hslash : x ≠ '\\' := by
    rintro rfl
    exact hnat.2.2.2 rfl
  unfold dumpsChar
  dsimp only
  rw [if_neg hquote, if_neg hslash, if_neg (by omega), if_neg (by omega), if_neg (by omega),
    if_neg (by omega), if_neg (by omega), if_pos ⟨hnat.1, hnat.2.1⟩]

theorem length_dumpsStr_ref (h : value.toList.all isRefChar = true) :
    (dumpsStr value).length = value.length + 2 := by
  have hflat : ∀ cs : List Char, cs.all isRefChar = true → cs.flatMap dumpsChar = cs := by
    intro cs hcs
    induction cs with
    | nil => rfl
    | cons x cs ih =>
      rw [List.all_cons, Bool.and_eq_true] at hcs
      rw [List.flatMap_cons, dumpsChar_ref hcs.1, ih hcs.2]
      rfl
  rw [dumpsStr, hflat _ h, List.length_append, List.length_cons, String.length_toList]
  rfl

theorem validateDocument_field {value : Json} (hdumps : dumps value = some cs)
    (hlength : (dumpsStr name).length + cs.length ≤ 1000) (hname : isSecretKey name = false)
    (hvalue : rejectSecretFields urlsplit value = .ok ()) :
    validateDocument urlsplit (some [(name, value)]) = .ok () := by
  have hencoded : dumps (.obj [(name, value)])
      = some ('\x7b' :: (dumpsStr name ++ ':' :: cs) ++ ['\x7d']) := by
    simp [dumps, dumpsFields, hdumps]
  have hbound : ('\x7b' :: (dumpsStr name ++ ':' :: cs) ++ ['\x7d']).length
      ≤ maxWorkerJobDocumentBytes := by
    simp only [List.length_cons, List.length_append, List.length_nil, maxWorkerJobDocumentBytes]
    omega
  have hfields : rejectSecretFields urlsplit (.obj [(name, value)]) = .ok () := by
    simp only [rejectSecretFields, rejectSecretFieldsObj, bind_eq_ok, require_eq_ok]
    exact ⟨(), hname, (), hvalue, rfl⟩
  simp only [validateDocument, bind_eq_ok, orThrow_eq_ok, require_eq_ok]
  exact ⟨_, hencoded, (), hbound, hfields⟩

theorem validateDocument_ref (hname : isSecretKey name = false)
    (hshort : (dumpsStr name).length ≤ 20) (hvalue : IsRef value)
    (hplain : urlsplit value = .plain) :
    validateDocument urlsplit (some [(name, .str value)]) = .ok () := by
  refine validateDocument_field rfl ?_ hname ?_
  · have hlength := length_dumpsStr_ref hvalue.1
    have hmax := hvalue.2
    omega
  · simp [rejectSecretFields, hplain, pure, Except.pure]

theorem validateDocument_items {items : Int} (hlow : 1 ≤ items) (hhigh : items ≤ 20) :
    validateDocument urlsplit (some [("max_items", .int items)]) = .ok () := by
  refine validateDocument_field rfl ?_ (by decide) rfl
  interval_cases items <;> decide

open BrowserPayload

theorem copyField_yields {c : Command} (htyped : TypedPayload c.commandType c.payload)
    (hplain : ∀ value, IsRef value → urlsplit value = .plain)
    (hmodel : ofType? c.commandType = some model) (hother : model ≠ .feedBrowse) :
    Yields (fun input => validateDocument urlsplit (some (input.getD [])) = .ok ()) (do
      let value ← orThrow (c.payload.get? model.field) Failure.lookup
      return some [(model.field, value)]) := by
  obtain ⟨lax, document, hdump⟩ := htyped model hmodel
  obtain ⟨value, hpayload, href⟩ := dump_ref hother hdump
  have hfield : c.payload.get? model.field = some (.str value) := by
    rw [hpayload]
    simp [Document.get?]
  refine .bind (.orThrow hfield rfl) fun v hv => ?_
  subst hv
  refine .pure (validateDocument_ref ?_ ?_ href (hplain value href))
  · cases model <;> decide
  · cases model <;> decide

/-- The input copied from a typed payload is one a job accepts. -/
theorem workerJobInput_typed {c : Command} (htyped : TypedPayload c.commandType c.payload)
    (hplain : ∀ value, IsRef value → urlsplit value = .plain) :
    Yields (fun input => validateDocument urlsplit (some (input.getD [])) = .ok ())
      (CommandRuntime.workerJobInput c) := by
  unfold CommandRuntime.workerJobInput
  dsimp only
  split
  case h_1 htype =>
    obtain ⟨lax, document, hdump⟩ := htyped .feedBrowse (by rw [htype]; rfl)
    obtain ⟨items, hlow, hhigh, hpayload⟩ := dump_items hdump
    rw [hpayload]
    exact .pure (validateDocument_items hlow hhigh)
  case h_2 htype =>
    have hmodel : ofType? c.commandType = some .threadOpen := by rw [htype]; rfl
    exact copyField_yields htyped hplain hmodel (by decide)
  case h_3 htype =>
    have hmodel : ofType? c.commandType = some .profileOpen := by rw [htype]; rfl
    exact copyField_yields htyped hplain hmodel (by decide)
  case h_4 htype =>
    have hmodel : ofType? c.commandType = some .localUpload := by rw [htype]; rfl
    exact copyField_yields htyped hplain hmodel (by decide)
  · exact .pure rfl

end ThreadsPlatform
