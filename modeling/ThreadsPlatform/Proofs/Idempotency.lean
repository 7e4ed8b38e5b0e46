/-
Receiving a Command twice.

`receive` compares what is stored under a command_id with what the
envelope becomes now. The envelope's content (`CommandEnvelope.content`)
reads neither the clock nor the drawn identifiers, and no update of a
Command touches its own content (`Command.SameCommand`); so the second
receive of one envelope finds the content it would have stored itself,
wherever the Command has got to meanwhile.

# Where the answer is not a conflict

The header accepts texts of blanks (`min_length=1`), which `Command`
refuses with a `ValueError` before anything is compared, and times
`datetime` cannot hold in UTC. It accepts protocol versions past the
column's range and texts with a NUL, which the database refuses: the
INSERT comes before the comparison. And the comparison is Python's:
`true` and `1` are one value to it.
-/
import ThreadsPlatform.Effects.Refinement
import ThreadsPlatform.Application.Runs

namespace ThreadsPlatform

open Relational Table CommandRuntime

variable {cfg : Settings} {d : Draws} {now : Time} {s s' : State} {c c' : Command}
  {envelope : CommandEnvelope}

-- ==== content

/-- What a Command says, as opposed to how far it has got. -/
structure CommandContent where
  accountId : Uuid
  correlationId : String
  commandType : String
  protocolVersion : Int
  payload : Document
  createdAt : Time
  deadlineAt : Option Time
  deriving DecidableEq

/-- The content of a Command. -/
def Command.content (c : Command) : CommandContent where
  accountId := c.accountId
  correlationId := c.correlationId
  commandType := c.commandType
  protocolVersion := c.protocolVersion
  payload := c.payload
  createdAt := c.createdAt
  deadlineAt := c.deadlineAt

/-- The deadline `receive` gives an envelope. -/
def CommandEnvelope.deadline (cfg : Settings) (e : CommandEnvelope) : Time :=
  e.deadlineAt.getD (e.createdAt + cfg.maxCommandLifetime)

/-- The normalised content of an envelope: the payload its type dumps, or
the raw one of a refused envelope. -/
def CommandEnvelope.content (cfg : Settings) (e : CommandEnvelope) : CommandContent where
  accountId := e.accountId
  correlationId := e.correlationId
  commandType := e.commandType
  protocolVersion := e.protocolVersion
  payload := if rejectionCode e = none then e.typedPayload.getD e.payload else e.payload
  createdAt := e.createdAt
  deadlineAt := some (e.deadline cfg)

/-- Contents as `_same_command` compares them. -/
def CommandContent.pyEq (a b : CommandContent) : Bool :=
  decide ({ a with payload := [] } = { b with payload := [] })
    && Json.pyEqFields a.payload b.payload

theorem Command.SameCommand.content (h : c.SameCommand c') : c'.content = c.content := by
  simp only [Command.content, h.accountId, h.correlationId, h.commandType, h.protocolVersion,
    h.payload, h.createdAt, h.deadlineAt]

theorem CommandContent.pyEq_refl {a : CommandContent}
    (h : Json.storableFields a.payload = true) : a.pyEq a = true := by
  simp only [CommandContent.pyEq, decide_true, Bool.true_and]
  exact Json.pyEqFields_refl h

/-- `CommandEnvelopeHeader`'s own bounds. -/
def CommandEnvelope.headerAccepts (e : CommandEnvelope) : Bool :=
  decide (1 ≤ e.protocolVersion) && decide (1 ≤ e.commandId.length ∧ e.commandId.length ≤ 255)
    && decide (1 ≤ e.correlationId.length ∧ e.correlationId.length ≤ 255)
    && decide (1 ≤ e.commandType.length ∧ e.commandType.length ≤ 120)

open CommandEnvelope

/-- `Command.__post_init__` takes the texts. -/
def CommandEnvelope.named (e : CommandEnvelope) : Bool :=
  notBlank e.commandId && notBlank e.correlationId && notBlank e.commandType

/-- The times of an envelope that `datetime` holds in UTC. -/
def CommandEnvelope.inRange (cfg : Settings) (e : CommandEnvelope) : Bool :=
  representable e.createdAt && representable (e.deadline cfg)

/-- What the columns of `commands` can hold of an envelope. -/
def CommandEnvelope.storable (cfg : Settings) (e : CommandEnvelope) : Bool :=
  decide (e.protocolVersion ≤ 2147483647) && nulFree e.commandId && nulFree e.correlationId
    && nulFree e.commandType && Json.storableFields (e.content cfg).payload

/-- The envelope gets as far as the comparison. -/
def CommandEnvelope.admitted (cfg : Settings) (e : CommandEnvelope) : Bool :=
  e.named && e.inRange cfg && e.storable cfg

/-- The Command of an envelope has its id and its content, whenever it
arrives. -/
theorem receivedCommand_content (h : receivedCommand cfg d now envelope = .ok c) :
    c.commandId = envelope.commandId ∧ c.content = envelope.content cfg := by
  simp only [receivedCommand, Command.create, steps_ok] at h
  obtain ⟨c0, ⟨-, -, rfl⟩, h⟩ := h
  split at h
  · obtain ⟨-, -, hsame, -⟩ := Command.transition_ok h
    exact ⟨hsame.commandId, hsame.content⟩
  case h_2 haccepted =>
    split at h
    · obtain ⟨-, -, hsame, -⟩ := Command.transition_ok h
      refine ⟨hsame.commandId, hsame.content.trans ?_⟩
      rw [content, if_pos haccepted]
      rfl
    · cases h
      refine ⟨rfl, ?_⟩
      rw [content, if_pos haccepted]
      rfl

theorem Later.content {id : String} (h : Later cfg s s') (hc : s.commands.get? id = some c) :
    ∃ c', s'.commands.get? id = some c' ∧ c'.content = c.content := by
  refine Later.of_effects (I := fun t => ∃ c', t.commands.get? id = some c'
    ∧ c'.content = c.content) ⟨c, hc, rfl⟩ ?_ h
  rintro call s0 t t' ⟨c1, hc1, hcontent⟩ he
  -- every write of a Command is a `CommandPut`, or adds another one
  have hwritten : ∀ {a a' : Command} {O D C O' D'}, CommandPut a a' t.commands O D C O' D' →
      ∃ c', C.get? id = some c' ∧ c'.content = c.content := by
    intro a a' O D C O' D' hput
    by_cases hid : a'.commandId = id
    · refine ⟨a', hid ▸ hput.put.get?_self, ?_⟩
      have hstored := hput.stored
      rw [← hput.same.commandId, hid, hc1] at hstored
      cases hstored
      rw [hput.same.content, hcontent]
    · exact ⟨c1, (hput.put.get?_ne (Ne.symm hid)).trans hc1, hcontent⟩
  cases he with
  | jobMoved hmoved =>
    rcases hmoved.command with ⟨-, rfl, -, -⟩ | ⟨a, -, -, -, ⟨-, rfl, -, -⟩ | ⟨a', hput, -⟩⟩
    · exact ⟨c1, hc1, hcontent⟩
    · exact ⟨c1, hc1, hcontent⟩
    · exact hwritten hput
  | commandAdded hadded =>
    refine ⟨c1, ?_, hcontent⟩
    exact hadded.put.get?_of_fresh hadded.fresh hc1
  | commandMoved hmoved => exact hwritten hmoved.put
  | commandClaimed hclaimed => exact hwritten hclaimed.put
  | commandTouched htouched => exact hwritten htouched.put
  | _ => exact ⟨c1, hc1, hcontent⟩

namespace Sample

end Sample

end ThreadsPlatform
