/-
One result event per finished Command.

About ten paths in the two services end a Command. As effects they are
three: a job moves and its Command follows, the runtime moves a Command,
a Command arrives already rejected or expired. Each writes one Command,
and a result exactly when the new status is terminal (`CommandPut`,
`CommandAdded`).

`ResultsAgree` is the agreement of the three tables: a result event
belongs to a finished Command and carries its status, no two belong to
one Command, every delivery belongs to an event and no two to one. A
Command that is about to change is not finished, so nothing is stored
for it yet: the new event is its first, and the old events are about
other Commands.
-/
import ThreadsPlatform.Application.Runs
import ThreadsPlatform.Effects.Refinement

namespace ThreadsPlatform

open Relational Table

variable {cfg : Settings} {call : Call} {s s' s0 : State} {C C' : Table commands}
  {O O' : Table outboxEvents} {D D' : Table integrationDeliveries} {c c' : Command}

-- ==== the invariant

/-- A result event with its delivery, for a Command. -/
def HasResult (O : Table outboxEvents) (D : Table integrationDeliveries)
    (commandId : String) : Prop :=
  ∃ e δ, O.get? e.id = some e ∧ e.aggregateId = commandId ∧ D.get? δ.id = some δ ∧ δ.eventId = e.id

/-- Commands, result events and deliveries agree. -/
structure ResultsAgree (C : Table commands) (O : Table outboxEvents)
    (D : Table integrationDeliveries) : Prop where
  recorded : ∀ c, C.get? c.commandId = some c → c.status.terminal = true →
    HasResult O D c.commandId
  finished : ∀ e, O.get? e.id = some e → e.eventType = commandResultType
    ∧ ∃ c, C.get? e.aggregateId = some c ∧ c.status.terminal = true
      ∧ e.payload.status = c.status ∧ e.payload.commandId = c.commandId
  single : ∀ e₁ e₂, O.get? e₁.id = some e₁ → O.get? e₂.id = some e₂ →
    e₁.aggregateId = e₂.aggregateId → e₁.id = e₂.id
  delivered : ∀ δ, D.get? δ.id = some δ → ∃ e, O.get? δ.eventId = some e
  once : ∀ δ₁ δ₂, D.get? δ₁.id = some δ₁ → D.get? δ₂.id = some δ₂ →
    δ₁.eventId = δ₂.eventId → δ₁.id = δ₂.id

/-- Nothing is stored for a Command that is missing or not finished. -/
theorem ResultsAgree.unrecorded (h : ResultsAgree C O D) {commandId : String}
    (hopen : ∀ c, C.get? commandId = some c → c.status.terminal = false) {e : OutboxEvent}
    (he : O.get? e.id = some e) : e.aggregateId ≠ commandId := by
  rintro rfl
  obtain ⟨-, c, hc, hterminal, -⟩ := h.finished e he
  rw [hopen c hc] at hterminal
  cases hterminal

-- ==== preservation

section

variable (h : ResultsAgree C O D) (hput : Put C c' C')
  (hopen : ∀ c, C.get? c'.commandId = some c → c.status.terminal = false)

include h hput hopen

/-- A Command that is not finished is written without a result. -/
theorem ResultsAgree.open (hopen' : c'.status.terminal = false) : ResultsAgree C' O D := by
  refine ⟨?_, ?_, h.single, h.delivered, h.once⟩
  · intro c2 hc2 hterminal
    rcases hput.cases hc2 with ⟨-, rfl⟩ | ⟨-, hold⟩
    · rw [hopen'] at hterminal
      cases hterminal
    · exact h.recorded c2 hold hterminal
  · intro e he
    obtain ⟨htype, c2, hc2, hrest⟩ := h.finished e he
    refine ⟨htype, c2, ?_, hrest⟩
    rw [hput.get?_ne]
    · exact hc2
    · exact h.unrecorded hopen he

/-- A Command is finished together with its first result. -/
theorem ResultsAgree.finish (hterminal : c'.status.terminal = true)
    (hresult : ResultStored c' O D O' D') : ResultsAgree C' O' D' := by
  obtain ⟨e, δ, hefresh, heput, hδfresh, hδput, hδe, htype, -, haggregate, hcommand, hstatus⟩ :=
    hresult.event
  have heself : O'.get? e.id = some e := heput.get?_self
  have hδself : D'.get? δ.id = some δ := hδput.get?_self
  -- an old delivery is of an old event
  have hδevent : ∀ δ2, D.get? δ2.id = some δ2 → δ2.eventId ≠ e.id := by
    intro δ2 hδ₂ hid
    obtain ⟨e2, he2⟩ := h.delivered δ2 hδ₂
    rw [hid, hefresh] at he2
    cases he2
  refine ⟨?_, ?_, ?_, ?_, ?_⟩
  · intro c2 hc2 hterminal2
    rcases hput.cases hc2 with ⟨-, rfl⟩ | ⟨-, hold⟩
    · exact ⟨e, δ, heself, haggregate, hδself, hδe⟩
    · obtain ⟨e2, δ2, he2, hof, hδ₂, hlink⟩ := h.recorded c2 hold hterminal2
      exact ⟨e2, δ2, heput.get?_of_fresh hefresh he2, hof, hδput.get?_of_fresh hδfresh hδ₂, hlink⟩
  · intro e2 he2
    rcases heput.cases he2 with ⟨-, rfl⟩ | ⟨-, hold⟩
    · exact ⟨htype, c', haggregate ▸ hput.get?_self, hterminal, hstatus, hcommand⟩
    · obtain ⟨htype2, c2, hc2, hrest⟩ := h.finished e2 hold
      exact ⟨htype2, c2, (hput.get?_ne (h.unrecorded hopen hold)).trans hc2, hrest⟩
  · intro e1 e2 he1 he2 hsame
    rcases heput.cases he1 with ⟨-, rfl⟩ | ⟨-, hold1⟩ <;>
      rcases heput.cases he2 with ⟨-, rfl⟩ | ⟨-, hold2⟩
    · rfl
    · exact absurd (hsame.symm.trans haggregate) (h.unrecorded hopen hold2)
    · exact absurd (hsame.trans haggregate) (h.unrecorded hopen hold1)
    · exact h.single e1 e2 hold1 hold2 hsame
  · intro δ2 hδ₂
    rcases hδput.cases hδ₂ with ⟨-, rfl⟩ | ⟨-, hold⟩
    · exact ⟨e, hδe ▸ heself⟩
    · obtain ⟨e2, he2⟩ := h.delivered δ2 hold
      exact ⟨e2, heput.get?_of_fresh hefresh he2⟩
  · intro δ1 δ2 hδ₁ hδ₂ hsame
    rcases hδput.cases hδ₁ with ⟨-, rfl⟩ | ⟨-, hold1⟩ <;>
      rcases hδput.cases hδ₂ with ⟨-, rfl⟩ | ⟨-, hold2⟩
    · rfl
    · exact absurd (hsame.symm.trans hδe) (hδevent δ2 hold2)
    · exact absurd (hsame.trans hδe) (hδevent δ1 hold1)
    · exact h.once δ1 δ2 hold1 hold2 hsame

/-- Either way, as `CommandPut` and `CommandAdded` say it. -/
theorem ResultsAgree.written
    (hresult : if c'.status.terminal then ResultStored c' O D O' D' else O' = O ∧ D' = D) :
    ResultsAgree C' O' D' := by
  by_cases hterminal : c'.status.terminal = true
  · rw [if_pos hterminal] at hresult
    exact h.finish hput hopen hterminal hresult
  · rw [if_neg hterminal] at hresult
    obtain ⟨rfl, rfl⟩ := hresult
    exact h.open hput hopen (Bool.eq_false_iff.mpr hterminal)

end

theorem ResultsAgree.put (h : ResultsAgree C O D) (hput : CommandPut c c' C O D C' O' D') :
    ResultsAgree C' O' D' := by
  refine h.written hput.put ?_ hput.result
  intro c2 hc2
  rw [hput.same.commandId, hput.stored] at hc2
  injection hc2 with hc2
  exact hc2 ▸ hput.unfinished

theorem ResultsAgree.follows {j : WorkerJob} {status : WorkerJobStatus}
    (h : ResultsAgree s.commands s.outboxEvents s.deliveries)
    (hfollows : CommandFollows s j status C O D) : ResultsAgree C O D := by
  rcases hfollows with ⟨-, rfl, rfl, rfl⟩ | ⟨c, -, -, -, ⟨-, rfl, rfl, rfl⟩ | ⟨c', hput, -⟩⟩
  · exact h
  · exact h
  · exact h.put hput

/-- Every effect keeps Commands and results in agreement. -/
theorem ResultsAgree.effect (h : ResultsAgree s.commands s.outboxEvents s.deliveries)
    (he : Effect cfg call s0 s s') :
    ResultsAgree s'.commands s'.outboxEvents s'.deliveries := by
  cases he with
  | jobMoved hmove => exact ResultsAgree.follows h hmove.command
  | commandAdded hadd =>
    refine h.written hadd.put ?_ hadd.result
    intro c2 hc2
    rw [hadd.fresh] at hc2
    cases hc2
  | commandMoved hmove => exact h.put hmove.put
  | commandClaimed hclaim => exact h.put hclaim.put
  | commandTouched htouch => exact h.put htouch.put
  | _ => exact h

theorem ResultsAgree.reachable (h : Reachable cfg s) :
    ResultsAgree s.commands s.outboxEvents s.deliveries := by
  refine h.of_effects (I := fun s => ResultsAgree s.commands s.outboxEvents s.deliveries) ?_
    fun _ _ _ _ h he => h.effect he
  intro W
  constructor <;> simp [State.initial]

-- ==== finished for good

/-- A write of another Command, or of one that is not finished. -/
theorem get?_finished_put (hput : CommandPut c c' C O D C' O' D') {f : Command}
    (hf : C.get? f.commandId = some f) (hterminal : f.status.terminal = true) :
    C'.get? f.commandId = some f := by
  rw [hput.put.get?_ne]
  · exact hf
  · intro hid
    rw [show f.commandId = c.commandId from hid.trans hput.same.commandId, hput.stored] at hf
    injection hf with hf
    rw [← hf, hput.unfinished] at hterminal
    cases hterminal

theorem Effect.finished {f : Command} (he : Effect cfg call s0 s s')
    (hf : s.commands.get? f.commandId = some f) (hterminal : f.status.terminal = true) :
    s'.commands.get? f.commandId = some f := by
  cases he with
  | jobMoved hmove =>
    rcases hmove.command with ⟨-, rfl, -⟩ | ⟨c, -, -, -, ⟨-, rfl, -⟩ | ⟨c', hput, -⟩⟩
    · exact hf
    · exact hf
    · exact get?_finished_put hput hf hterminal
  | commandAdded hadd => exact hadd.put.get?_of_fresh hadd.fresh hf
  | commandMoved hmove => exact get?_finished_put hmove.put hf hterminal
  | commandClaimed hclaim => exact get?_finished_put hclaim.put hf hterminal
  | commandTouched htouch => exact get?_finished_put htouch.put hf hterminal
  | _ => exact hf

-- ==== the result

/-- The result events of a Command. -/
def ResultEvent (s : State) (c : Command) (e : OutboxEvent) : Prop :=
  e ∈ s.outboxEvents.rows ∧ e.eventType = commandResultType ∧ e.aggregateId = c.commandId

/-- Exactly one result event per finished Command, with one delivery;
none for any other; and finished Commands stay as they are. -/
theorem one_result_per_command (h : Reachable cfg s) (hc : c ∈ s.commands.rows) :
    (c.status.terminal = true →
      ∃ e, ResultEvent s c e ∧ (∀ e₂, ResultEvent s c e₂ → e₂ = e)
        ∧ e.payload.commandId = c.commandId ∧ e.payload.status = c.status
        ∧ ∃! δ, δ ∈ s.deliveries.rows ∧ δ.eventId = e.id)
    ∧ (c.status.terminal = false → ∀ e, ¬ ResultEvent s c e)
    ∧ (c.status.terminal = true →
      ∀ s', Later cfg s s' → s'.commands.get? c.commandId = some c) := by
  have hagree := ResultsAgree.reachable h
  have hstored : s.commands.get? c.commandId = some c := mem_rows_iff.mp hc
  refine ⟨?_, ?_, ?_⟩
  · intro hterminal
    obtain ⟨e, δ, he, hof, hδ, hlink⟩ := hagree.recorded c hstored hterminal
    obtain ⟨htype, c₂, hc₂, -, hstatus, hcommand⟩ := hagree.finished e he
    rw [hof, hstored] at hc₂
    cases hc₂
    refine ⟨e, ⟨mem_rows_iff.mpr he, htype, hof⟩, ?_, hcommand, hstatus, δ,
      ⟨mem_rows_iff.mpr hδ, hlink⟩, ?_⟩
    · rintro e₂ ⟨he₂, -, hof₂⟩
      have hstored₂ : s.outboxEvents.get? e₂.id = some e₂ := mem_rows_iff.mp he₂
      rw [hagree.single e₂ e hstored₂ he (hof₂.trans hof.symm), he] at hstored₂
      injection hstored₂ with heq
      exact heq.symm
    · rintro δ₂ ⟨hδ₂, hlink₂⟩
      have hstored₂ : s.deliveries.get? δ₂.id = some δ₂ := mem_rows_iff.mp hδ₂
      rw [hagree.once δ₂ δ hstored₂ hδ (hlink₂.trans hlink.symm), hδ] at hstored₂
      injection hstored₂ with heq
      exact heq.symm
  · rintro hopen e ⟨he, -, hof⟩
    refine hagree.unrecorded (fun c₂ hc₂ => ?_) (mem_rows_iff.mp he) hof
    rw [hstored] at hc₂
    injection hc₂ with hc₂
    exact hc₂ ▸ hopen
  · intro hterminal s' hlater
    exact hlater.of_effects (I := fun s => s.commands.get? c.commandId = some c) hstored
      fun _ _ _ _ hf he => he.finished hf hterminal

/-- A browse Command, received twice, executed and completed. -/
def completedRun : List Call := [Sample.call 1 0 (.receive (Sample.browse "browse" 0 (some 500))),
    Sample.call 2 1 (.receive (Sample.browse "browse" 0 (some 500))),
    Sample.call 3 1 (.processNext []), Sample.call 4 2 (.claimNext 2),
    Sample.call 5 3 (.complete 300 2 401 [])]

open Sample in
theorem one_result_per_command_completed :
    ∃ c ∈ (after completedRun).commands.rows, c.status = .succeeded
      ∧ ∃ e, ResultEvent (after completedRun) c e ∧ e.payload.status = .succeeded
        ∧ ∀ e₂, ResultEvent (after completedRun) c e₂ → e₂ = e := by
  have hreach := reachable (by decide : admitted completedRun = true)
  obtain ⟨c, hc, hstatus⟩ : ∃ c ∈ (after completedRun).commands.rows,
      c.status = .succeeded := by decide +kernel
  obtain ⟨e, he, honly, -, hcarries, -⟩ :=
    (one_result_per_command hreach hc).1 (by rw [hstatus]; rfl)
  exact ⟨c, hc, hstatus, e, he, hcarries.trans hstatus, honly⟩

end ThreadsPlatform
