/-
Executions of one program that share a document under a lease.

An execution begins by reading the document under a lease token of its
own. From then on it hears answers from outside, saves the document and
makes calls. A save takes effect only while its execution's token is the
lease's; a call needs no lease. The lease may end at any time and go to
another execution, while the old one runs on. An execution that stops is
one that no event names any more.

# Rules

`Guards` carries a relation between the document and the execution that
has the lease, and one that every execution keeps: whoever saves knows
the document. `Remembers` says what an execution has saved to be where it
is. `Once` bounds the calls of all executions together: what arms an
execution to call is a save, and after such a save no other can arm.
`Retires` is about executions that begin after the document is done with.
-/
import Mathlib.Logic.Function.Basic
import ThreadsPlatform.Relational.Transaction

namespace Relational

/-- A program over documents `D`: where an execution is (`L`), what it
hears (`I`) and calls (`C`). -/
structure Program (D L I C : Type) where
  start : D → L
  hear : L → I → L
  /-- The document it is about to save. -/
  saves? : L → Option D
  saved : L → L
  /-- A save that was refused, or whose answer was lost. -/
  refused : L → L
  /-- The call it is about to make. -/
  calls? : L → Option C
  called : L → L

/-- An execution: its lease token, and where it is. -/
structure FencedExecution (τ L : Type) where
  token : τ
  place : L

/-- The lease's token, the document, the executions, the tokens drawn, and
what was called, saved and heard, newest first. -/
structure FencedRun (τ D L I C : Type) where
  token : Option τ
  durable : D
  executions : Nat → Option (FencedExecution τ L)
  drawn : List τ
  calls : List (Nat × C)
  saves : List (Nat × D)
  heard : List (Nat × L × I)

/-- How a save under the lease goes: done, not written, or written with the
answer lost. -/
inductive SaveOutcome where
  | done | refused | lost
  deriving DecidableEq

/-- What happens next; executions are told apart by number. -/
inductive FencedEvent (τ I : Type) where
  | claim (x : Nat) (token : τ)
  | release
  | hear (x : Nat) (input : I)
  | save (x : Nat) (outcome : SaveOutcome)
  | call (x : Nat)

variable {τ D L I C : Type} {P : Program D L I C} {R R' R₀ Q : FencedRun τ D L I C} {x y : Nat}
  {token : τ} {l : L} {e : FencedExecution τ L}
  {allow : FencedRun τ D L I C → FencedEvent τ I → Prop}

namespace FencedRun

/-- Nobody has the lease yet. -/
def fresh (d : D) : FencedRun τ D L I C := ⟨none, d, fun _ => none, [], [], [], []⟩

/-- An execution goes on. -/
def goOn (R : FencedRun τ D L I C) (x : Nat) (token : τ) (l : L) : FencedRun τ D L I C :=
  { R with executions := Function.update R.executions x (some ⟨token, l⟩) }

/-- What an event does. -/
def after [DecidableEq τ] (P : Program D L I C) (R : FencedRun τ D L I C) :
    FencedEvent τ I → FencedRun τ D L I C
  | .claim x token =>
    { R with token := some token, drawn := token :: R.drawn }.goOn x token (P.start R.durable)
  | .release => { R with token := none }
  | .hear x input =>
    match R.executions x with
    | none => R
    | some e => { R with heard := (x, e.place, input) :: R.heard }.goOn x e.token
        (P.hear e.place input)
  | .save x outcome =>
    match R.executions x with
    | none => R
    | some e =>
      match P.saves? e.place with
      | none => R
      | some d =>
        if R.token = some e.token ∧ outcome ≠ SaveOutcome.refused then
          { R with durable := d, saves := (x, d) :: R.saves }.goOn x e.token
            (if outcome = SaveOutcome.done then P.saved e.place else P.refused e.place)
        else R.goOn x e.token (P.refused e.place)
  | .call x =>
    match R.executions x with
    | none => R
    | some e =>
      match P.calls? e.place with
      | none => R
      | some c => { R with calls := (x, c) :: R.calls }.goOn x e.token (P.called e.place)

theorem goOn_cases (h : (R.goOn x token l).executions y = some e) :
    (y = x ∧ e = ⟨token, l⟩) ∨ (y ≠ x ∧ R.executions y = some e) := by
  by_cases hy : y = x
  · subst hy
    refine .inl ⟨rfl, ?_⟩
    simpa [goOn] using h.symm
  · exact .inr ⟨hy, by simpa [goOn, hy] using h⟩

end FencedRun

/-- The executions of a program; each is claimed once, under a new token. -/
def Program.machine [DecidableEq τ] (P : Program D L I C) (d : D) :
    Machine (FencedRun τ D L I C) (FencedEvent τ I) where
  init R := R = .fresh d
  enabled R e := ∀ x token, e = .claim x token → R.executions x = none ∧ token ∉ R.drawn
  step := FencedRun.after P

namespace FencedRun

-- ==== steps

/-- What a step can do. -/
inductive Moves (P : Program D L I C) (R : FencedRun τ D L I C) : FencedRun τ D L I C → Prop
  | idle : Moves P R R
  | claimed (x : Nat) (token : τ) (hx : R.executions x = none) (hdrawn : token ∉ R.drawn) :
      Moves P R ({ R with token := some token, drawn := token :: R.drawn }.goOn x token
        (P.start R.durable))
  | released : Moves P R { R with token := none }
  | heard (x : Nat) (e : FencedExecution τ L) (i : I) (hx : R.executions x = some e) :
      Moves P R ({ R with heard := (x, e.place, i) :: R.heard }.goOn x e.token
        (P.hear e.place i))
  | refused (x : Nat) (e : FencedExecution τ L) (hx : R.executions x = some e) :
      Moves P R (R.goOn x e.token (P.refused e.place))
  | saved (x : Nat) (e : FencedExecution τ L) (d : D) (l : L) (hx : R.executions x = some e)
      (hd : P.saves? e.place = some d) (hlease : R.token = some e.token)
      (hl : l = P.saved e.place ∨ l = P.refused e.place) :
      Moves P R ({ R with durable := d, saves := (x, d) :: R.saves }.goOn x e.token l)
  | called (x : Nat) (e : FencedExecution τ L) (c : C) (hx : R.executions x = some e)
      (hc : P.calls? e.place = some c) :
      Moves P R ({ R with calls := (x, c) :: R.calls }.goOn x e.token (P.called e.place))

variable [DecidableEq τ] {d0 : D}

open FencedRun

theorem moves_after {e : FencedEvent τ I} (hen : (P.machine d0).enabled R e) :
    R.Moves P (R.after P e) := by
  cases e with
  | claim x token =>
    obtain ⟨hx, hdrawn⟩ := hen x token rfl
    exact .claimed x token hx hdrawn
  | release => exact .released
  | hear x input =>
    simp only [after]
    split
    · exact .idle
    · rename_i e hx
      exact .heard x e input hx
  | save x outcome =>
    simp only [after]
    split
    · exact .idle
    · rename_i e hx
      split
      · exact .idle
      · rename_i d hd
        split
        · rename_i hlease
          refine .saved x e d _ hx hd hlease.1 ?_
          split
          · exact .inl rfl
          · exact .inr rfl
        · exact .refused x e hx
  | call x =>
    simp only [after]
    split
    · exact .idle
    · rename_i e hx
      split
      · exact .idle
      · rename_i c hc
        exact .called x e c hx hc

/-- A step that adds a call finds its execution about to make it. -/
theorem call_of_step {e : FencedEvent τ I} {c : C} (hen : (P.machine d0).enabled R e)
    (hcalls : ((P.machine d0).step R e).calls = (x, c) :: R.calls) :
    ∃ ex, R.executions x = some ex ∧ P.calls? ex.place = some c := by
  have hgrows {l : List (Nat × C)} {a : Nat × C} : l ≠ a :: l := fun heq => by
    simpa using congrArg List.length heq
  have hmoves : R.Moves P (R.after P e) := moves_after hen
  have hcalls' : (R.after P e).calls = (x, c) :: R.calls := hcalls
  generalize R.after P e = R' at hmoves hcalls'
  cases hmoves with
  | called y ex c' hy hc =>
    obtain ⟨heq, -⟩ := List.cons.inj hcalls'
    cases heq
    exact ⟨ex, hy, hc⟩
  | _ => exact absurd hcalls' hgrows

-- ==== tokens

/-- No two executions have one token. -/
structure Tokens (R : FencedRun τ D L I C) : Prop where
  drawn : ∀ x e, R.executions x = some e → e.token ∈ R.drawn
  own : ∀ x y e e', R.executions x = some e → R.executions y = some e' →
    e.token = e'.token → x = y

omit [DecidableEq τ] in
theorem Tokens.goOn (h : Tokens R) (hx : R.executions x = some e)
    (hexecutions : Q.executions = R.executions) (hdrawn : Q.drawn = R.drawn) :
    Tokens (Q.goOn x e.token l) := by
  have hold {y : Nat} {e' : FencedExecution τ L} (h' : (Q.goOn x e.token l).executions y = some e')
    :
      ∃ e0, R.executions y = some e0 ∧ e0.token = e'.token := by
    rcases goOn_cases h' with ⟨rfl, rfl⟩ | ⟨-, hsame⟩
    · exact ⟨e, hx, rfl⟩
    · exact ⟨e', hexecutions ▸ hsame, rfl⟩
  constructor
  · intro y e' h'
    obtain ⟨e0, he0, htoken⟩ := hold h'
    have hmem := h.drawn y e0 he0
    rw [htoken, ← hdrawn] at hmem
    exact hmem
  · intro y z e' e'' h' h'' hsame
    obtain ⟨e0, he0, htoken⟩ := hold h'
    obtain ⟨e1, he1, htoken'⟩ := hold h''
    exact h.own y z e0 e1 he0 he1 (htoken.trans (hsame.trans htoken'.symm))

omit [DecidableEq τ] in
theorem Tokens.moves (h : Tokens R) (hmoves : R.Moves P R') : Tokens R' := by
  cases hmoves with
  | idle => exact h
  | claimed x token hx hdrawn =>
    constructor
    · intro y e he
      rcases goOn_cases he with ⟨-, rfl⟩ | ⟨-, hold⟩
      · exact (.head _)
      · exact .tail _ (h.drawn y e hold)
    · intro y z e e' he he' hsame
      rcases goOn_cases he with ⟨rfl, rfl⟩ | ⟨-, hold⟩ <;>
        rcases goOn_cases he' with ⟨rfl, rfl⟩ | ⟨-, hold'⟩
      · rfl
      · have htoken : token = e'.token := hsame
        exact absurd (htoken ▸ h.drawn z e' hold') hdrawn
      · have htoken : e.token = token := hsame
        exact absurd (htoken ▸ h.drawn y e hold) hdrawn
      · exact h.own y z e e' hold hold' hsame
  | released => exact ⟨h.drawn, h.own⟩
  | heard x e i hx => exact h.goOn hx rfl rfl
  | refused x e hx => exact h.goOn hx rfl rfl
  | saved x e d l hx => exact h.goOn hx rfl rfl
  | called x e c hx => exact h.goOn hx rfl rfl

omit [DecidableEq τ] in
theorem Tokens.fresh (d : D) : Tokens (.fresh d : FencedRun τ D L I C) :=
  ⟨fun _ _ h => (by cases h), fun _ _ _ _ h => (by cases h)⟩

end FencedRun

-- ==== guards

/-- `Live` relates the document to the execution that has the lease, `Held`
to every execution, and `Called` to every call there was. -/
structure Program.Guards (P : Program D L I C) (Live Held : D → L → Prop)
    (Called : D → C → Prop) : Prop where
  start : ∀ d, Live d (P.start d) ∧ Held d (P.start d)
  hear_live : ∀ d l i, Held d l → Live d l → Live d (P.hear l i)
  hear_held : ∀ d l i, Held d l → Held d (P.hear l i)
  refused : ∀ d l, Live d (P.refused l) ∧ Held d (P.refused l)
  call : ∀ d l c, P.calls? l = some c → Held d l →
    Called d c ∧ (Live d l → Live d (P.called l)) ∧ Held d (P.called l)
  save : ∀ d d' l, P.saves? l = some d' → Held d l → Live d l →
    Live d' (P.saved l) ∧ Held d' (P.saved l)
  /-- What others rely on is kept. -/
  keep_held : ∀ d d' l l', P.saves? l = some d' → Held d l → Live d l → Held d l' → Held d' l'
  keep_called : ∀ d d' l c, P.saves? l = some d' → Held d l → Live d l → Called d c →
    Called d' c

/-- A run that keeps to its guards. -/
structure FencedRun.Guarded (Live Held : D → L → Prop) (Called : D → C → Prop)
    (R : FencedRun τ D L I C) : Prop extends FencedRun.Tokens R where
  held : ∀ x e, R.executions x = some e → Held R.durable e.place
  live : ∀ x e, R.executions x = some e → R.token = some e.token → Live R.durable e.place
  called : ∀ x c, (x, c) ∈ R.calls → Called R.durable c
  caller : ∀ x c, (x, c) ∈ R.calls → R.executions x ≠ none

section Guards

variable {Live Held : D → L → Prop} {Called : D → C → Prop}

theorem FencedRun.goOn_ne_none (h : R.executions y ≠ none) :
    (R.goOn x token l).executions y ≠ none := by
  by_cases hy : y = x
  · simp [goOn, hy]
  · simpa [goOn, hy] using h

theorem FencedRun.Guarded.goOn (h : R.Guarded Live Held Called) (hx : R.executions x = some e)
    (htokens : FencedRun.Tokens (Q.goOn x e.token l)) (hexecutions : Q.executions = R.executions)
    (htoken : Q.token = R.token) (hdurable : Q.durable = R.durable) (hheld : Held R.durable l)
    (hlive : Live R.durable e.place → Live R.durable l)
    (hcalls : ∀ y c, (y, c) ∈ Q.calls → (y, c) ∈ R.calls ∨ (y = x ∧ Called R.durable c)) :
    (Q.goOn x e.token l).Guarded Live Held Called := by
  refine ⟨htokens, fun y e' h' => ?_, fun y e' h' hlease => ?_, fun y c hmem => ?_,
    fun y c hmem => ?_⟩
  · show Held Q.durable e'.place
    rw [hdurable]
    rcases goOn_cases h' with ⟨-, rfl⟩ | ⟨-, hold⟩
    · exact hheld
    · exact h.held y e' (hexecutions ▸ hold)
  · show Live Q.durable e'.place
    have hlease' : R.token = some e'.token := htoken ▸ hlease
    rw [hdurable]
    rcases goOn_cases h' with ⟨-, rfl⟩ | ⟨-, hold⟩
    · exact hlive (h.live x e hx hlease')
    · exact h.live y e' (hexecutions ▸ hold) hlease'
  · show Called Q.durable c
    rw [hdurable]
    rcases hcalls y c hmem with hold | ⟨-, hnew⟩
    · exact h.called y c hold
    · exact hnew
  · refine goOn_ne_none ?_
    rw [hexecutions]
    rcases hcalls y c hmem with hold | ⟨rfl, -⟩
    · exact h.caller y c hold
    · simp [hx]

theorem FencedRun.Guarded.moves (hP : P.Guards Live Held Called) (h : R.Guarded Live Held Called)
    (hmoves : R.Moves P R') : R'.Guarded Live Held Called := by
  have htokens := h.toTokens.moves hmoves
  cases hmoves with
  | idle => exact h
  | claimed x token hx hdrawn =>
    refine ⟨htokens, fun y e he => ?_, fun y e he hlease => ?_, h.called,
      fun y c hmem => goOn_ne_none (h.caller y c hmem)⟩
    · rcases goOn_cases he with ⟨-, rfl⟩ | ⟨-, hold⟩
      · exact (hP.start R.durable).2
      · exact h.held y e hold
    · rcases goOn_cases he with ⟨-, rfl⟩ | ⟨-, hold⟩
      · exact (hP.start R.durable).1
      · have htoken : token = e.token := Option.some.inj hlease
        exact absurd (htoken ▸ h.drawn y e hold) hdrawn
  | released => exact ⟨htokens, h.held, fun _ _ _ hlease => (by cases hlease), h.called, h.caller⟩
  | heard x e i hx =>
    have hheld := h.held x e hx
    exact h.goOn hx htokens rfl rfl rfl (hP.hear_held _ _ i hheld)
      (hP.hear_live _ _ i hheld) fun _ _ hmem => .inl hmem
  | refused x e hx =>
    exact h.goOn hx htokens rfl rfl rfl (hP.refused _ _).2 (fun _ => (hP.refused _ _).1)
      fun _ _ hmem => .inl hmem
  | called x e c hx hc =>
    obtain ⟨hcalled, hlive, hheld⟩ := hP.call R.durable e.place c hc (h.held x e hx)
    refine h.goOn hx htokens rfl rfl rfl hheld hlive fun y c' hmem => ?_
    rcases List.mem_cons.mp hmem with heq | hold
    · cases heq
      exact .inr ⟨rfl, hcalled⟩
    · exact .inl hold
  | saved x e d l hx hd hlease hl =>
    have hheld := h.held x e hx
    have hlive := h.live x e hx hlease
    have hself : Live d l ∧ Held d l := by
      rcases hl with rfl | rfl
      · exact hP.save _ _ _ hd hheld hlive
      · exact hP.refused _ _
    refine ⟨htokens, fun y e' he' => ?_, fun y e' he' hlease' => ?_,
      fun y c hmem => hP.keep_called _ _ _ _ hd hheld hlive (h.called y c hmem),
      fun y c hmem => goOn_ne_none (h.caller y c hmem)⟩
    · rcases goOn_cases he' with ⟨-, rfl⟩ | ⟨-, hold⟩
      · exact hself.2
      · exact hP.keep_held _ _ _ _ hd hheld hlive (h.held y e' hold)
    · rcases goOn_cases he' with ⟨-, rfl⟩ | ⟨hne, hold⟩
      · exact hself.1
      · -- the lease is the saver's, so nobody else has it
        have hsame : e'.token = e.token := Option.mem_unique hlease' hlease
        exact absurd (h.own y x e' e hold hx hsame) hne

theorem FencedRun.Guarded.fresh (d : D) :
    (fresh d : FencedRun τ D L I C).Guarded Live Held Called :=
  ⟨.fresh d, fun _ _ h => (by cases h), fun _ _ h => (by cases h), fun _ _ h => (by cases h),
    fun _ _ h => (by cases h)⟩

variable [DecidableEq τ] {d0 : D}

theorem Program.Guards.reachable (hP : P.Guards Live Held Called)
    (h : (P.machine d0).Reachable allow R) : R.Guarded Live Held Called := by
  refine h.invariant ?_ fun R e hR hen _ =>
    hR.moves hP (FencedRun.moves_after hen)
  rintro R rfl
  exact .fresh d0

end Guards

-- ==== what was saved

/-- An execution gets to places where `Saved l d` only by saving `d`. -/
structure Program.Remembers (P : Program D L I C) (Saved : L → D → Prop) : Prop where
  start : ∀ d d', ¬ Saved (P.start d) d'
  hear : ∀ l i d, Saved (P.hear l i) d → Saved l d
  refused : ∀ l d, Saved (P.refused l) d → Saved l d
  called : ∀ l d, Saved (P.called l) d → Saved l d
  saved : ∀ l d, Saved (P.saved l) d → Saved l d ∨ P.saves? l = some d

section Remembers

variable {Saved : L → D → Prop}

/-- What executions rely on having saved, they saved. -/
def FencedRun.Recalls (Saved : L → D → Prop) (R : FencedRun τ D L I C) : Prop :=
  ∀ x e d, R.executions x = some e → Saved e.place d → (x, d) ∈ R.saves

theorem FencedRun.Recalls.goOn (h : R.Recalls Saved) (hx : R.executions x = some e)
    (hexecutions : Q.executions = R.executions) (hsaves : R.saves ⊆ Q.saves)
    (hl : ∀ d, Saved l d → Saved e.place d ∨ (x, d) ∈ Q.saves) :
    (Q.goOn x e.token l).Recalls Saved := by
  intro y e' d he' hd
  rcases goOn_cases he' with ⟨rfl, rfl⟩ | ⟨-, hold⟩
  · rcases hl d hd with hbefore | hmem
    · exact hsaves (h y e d hx hbefore)
    · exact hmem
  · exact hsaves (h y e' d (hexecutions ▸ hold) hd)

theorem FencedRun.Recalls.moves (hP : P.Remembers Saved) (h : R.Recalls Saved)
    (hmoves : R.Moves P R') : R'.Recalls Saved := by
  cases hmoves with
  | idle => exact h
  | claimed x token hx hdrawn =>
    intro y e d he hd
    rcases goOn_cases he with ⟨-, rfl⟩ | ⟨-, hold⟩
    · exact absurd hd (hP.start _ d)
    · exact h y e d hold hd
  | released => exact h
  | heard x e i hx => exact h.goOn hx rfl (fun _ hmem => hmem) fun d hd => .inl (hP.hear _ i d hd)
  | refused x e hx => exact h.goOn hx rfl (fun _ hmem => hmem) fun d hd => .inl (hP.refused _ d hd)
  | saved x e d l hx hd hlease hl =>
    refine h.goOn hx rfl (List.subset_cons_self _ _) fun d' hd' => ?_
    rcases hl with rfl | rfl
    · rcases hP.saved _ d' hd' with hbefore | hsaves
      · exact .inl hbefore
      · obtain rfl := Option.mem_unique hd hsaves
        exact .inr (.head _)
    · exact .inl (hP.refused _ d' hd')
  | called x e c hx => exact h.goOn hx rfl (fun _ hmem => hmem) fun d hd => .inl (hP.called _ d hd)

variable [DecidableEq τ] {d0 : D}

theorem Program.Remembers.reachable (hP : P.Remembers Saved)
    (h : (P.machine d0).Reachable allow R) : R.Recalls Saved := by
  refine h.invariant ?_ fun R e hR hen _ => hR.moves hP (FencedRun.moves_after hen)
  rintro R rfl
  exact fun _ _ _ h => (by cases h)

end Remembers

-- ==== one call

/-- To call, an execution must be armed; it arms by a save, only while the
document is not spent, and that save spends it. -/
structure Program.Once (P : Program D L I C) (Live : D → L → Prop) (Armed : L → Prop)
    (Spent : D → Prop) : Prop where
  start : ∀ d, ¬ Armed (P.start d)
  hear : ∀ l i, Armed (P.hear l i) → Armed l
  refused : ∀ l, ¬ Armed (P.refused l)
  called : ∀ l c, P.calls? l = some c → Armed l ∧ ¬ Armed (P.called l)
  arms : ∀ d d' l, P.saves? l = some d' → Live d l → Armed (P.saved l) → ¬ Spent d ∧ Spent d'
  stays : ∀ d d' l, P.saves? l = some d' → Live d l → Spent d → Spent d'

/-- At most one execution is armed or has called. -/
structure FencedRun.OneCall (Armed : L → Prop) (Spent : D → Prop)
    (R : FencedRun τ D L I C) : Prop where
  unspent : ¬ Spent R.durable → R.calls = [] ∧ ∀ x e, R.executions x = some e → ¬ Armed e.place
  single : ∀ x y e e', R.executions x = some e → R.executions y = some e' → Armed e.place →
    Armed e'.place → x = y
  done : R.calls ≠ [] → ∀ x e, R.executions x = some e → ¬ Armed e.place
  le_one : R.calls.length ≤ 1

section Once

variable {Live Held : D → L → Prop} {Called : D → C → Prop} {Armed : L → Prop} {Spent : D → Prop}

theorem FencedRun.OneCall.goOn (h : R.OneCall Armed Spent) (hx : R.executions x = some e)
    (hexecutions : Q.executions = R.executions) (hcalls : Q.calls = R.calls)
    (hspent : Spent R.durable → Spent Q.durable) (hl : Armed l → Armed e.place) :
    (Q.goOn x e.token l).OneCall Armed Spent := by
  have hold {y : Nat} {e' : FencedExecution τ L} (h' : (Q.goOn x e.token l).executions y = some e')
      (harmed : Armed e'.place) : ∃ e0, R.executions y = some e0 ∧ Armed e0.place := by
    rcases goOn_cases h' with ⟨rfl, rfl⟩ | ⟨-, hsame⟩
    · exact ⟨e, hx, hl harmed⟩
    · exact ⟨e', hexecutions ▸ hsame, harmed⟩
  refine ⟨fun hnot => ?_, fun y z e' e'' h' h'' ha' ha'' => ?_, fun hne y e' h' ha => ?_, ?_⟩
  · obtain ⟨hnil, hnone⟩ := h.unspent fun hs => hnot (hspent hs)
    refine ⟨hcalls.trans hnil, fun y e' h' ha => ?_⟩
    obtain ⟨e0, he0, ha0⟩ := hold h' ha
    exact hnone y e0 he0 ha0
  · obtain ⟨e0, he0, ha0⟩ := hold h' ha'
    obtain ⟨e1, he1, ha1⟩ := hold h'' ha''
    exact h.single y z e0 e1 he0 he1 ha0 ha1
  · obtain ⟨e0, he0, ha0⟩ := hold h' ha
    exact h.done (fun hnil => hne (hcalls.trans hnil)) y e0 he0 ha0
  · show Q.calls.length ≤ 1
    rw [hcalls]
    exact h.le_one

theorem FencedRun.OneCall.moves (hP : P.Once Live Armed Spent) (h : R.OneCall Armed Spent)
    (hguarded : R.Guarded Live Held Called) (hmoves : R.Moves P R') :
    R'.OneCall Armed Spent := by
  cases hmoves with
  | idle => exact h
  | claimed x token hx hdrawn =>
    have hold {y : Nat} {e : FencedExecution τ L}
        (he : ({ R with token := some token, drawn := token :: R.drawn }.goOn x token
          (P.start R.durable)).executions y = some e) (ha : Armed e.place) :
        R.executions y = some e := by
      rcases FencedRun.goOn_cases he with ⟨-, rfl⟩ | ⟨-, hsame⟩
      · exact absurd ha (hP.start _)
      · exact hsame
    exact ⟨fun hnot => ⟨(h.unspent hnot).1, fun y e he ha =>
        (h.unspent hnot).2 y e (hold he ha) ha⟩,
      fun y z e e' he he' ha ha' => h.single y z e e' (hold he ha) (hold he' ha') ha ha',
      fun hne y e he ha => h.done hne y e (hold he ha) ha, h.le_one⟩
  | released => exact ⟨h.unspent, h.single, h.done, h.le_one⟩
  | heard x e i hx => exact h.goOn hx rfl rfl (fun hs => hs) (hP.hear _ i)
  | refused x e hx => exact h.goOn hx rfl rfl (fun hs => hs) fun ha => absurd ha (hP.refused _)
  | saved x e d l hx hd hlease hl =>
    have hlive := hguarded.live x e hx hlease
    by_cases harmed : Armed l
    · -- the save arms: nobody is armed yet, and nobody has called
      have hl' : l = P.saved e.place := hl.resolve_right fun heq =>
        hP.refused _ (heq ▸ harmed)
      obtain ⟨hunspent, hspent⟩ := hP.arms R.durable d e.place hd hlive (hl' ▸ harmed)
      obtain ⟨hnil, hnone⟩ := h.unspent hunspent
      have honly {y : Nat} {e' : FencedExecution τ L}
          (he' : ({ R with durable := d, saves := (x, d) :: R.saves }.goOn x e.token
            l).executions y = some e') (ha : Armed e'.place) : y = x := by
        rcases FencedRun.goOn_cases he' with ⟨hy, -⟩ | ⟨-, hold⟩
        · exact hy
        · exact absurd ha (hnone y e' hold)
      exact ⟨fun hnot => absurd hspent hnot,
        fun y z e' e'' he' he'' ha' ha'' => (honly he' ha').trans (honly he'' ha'').symm,
        fun hne => absurd hnil hne, h.le_one⟩
    · exact h.goOn hx rfl rfl (hP.stays _ _ _ hd hlive) fun ha => absurd ha harmed
  | called x e c hx hc =>
    obtain ⟨ha, hna⟩ := hP.called _ c hc
    have hnil : R.calls = [] := by
      by_contra hne
      exact h.done hne x e hx ha
    have hspent : Spent R.durable := by
      by_contra hnot
      exact (h.unspent hnot).2 x e hx ha
    have hnone {y : Nat} {e' : FencedExecution τ L}
        (he' : ({ R with calls := (x, c) :: R.calls }.goOn x e.token
          (P.called e.place)).executions y = some e') : ¬ Armed e'.place := by
      rcases FencedRun.goOn_cases he' with ⟨-, rfl⟩ | ⟨hne, hold⟩
      · exact hna
      · exact fun ha' => hne (h.single y x e' e hold hx ha' ha)
    exact ⟨fun hnot => absurd hspent hnot, fun y z e' e'' he' _ ha' _ => absurd ha' (hnone he'),
      fun _ y e' he' => hnone he', by simp [FencedRun.goOn, hnil]⟩

variable [DecidableEq τ] {d0 : D}

theorem Program.Once.reachable (hP : P.Once Live Armed Spent) (hG : P.Guards Live Held Called)
    (h : (P.machine d0).Reachable allow R) : R.OneCall Armed Spent := by
  have hboth : R.Guarded Live Held Called ∧ R.OneCall Armed Spent := by
    refine h.invariant (I := fun R => R.Guarded Live Held Called ∧ R.OneCall Armed Spent) ?_
      fun R e hR hen _ => ?_
    · rintro R rfl
      exact ⟨.fresh d0, fun _ => ⟨rfl, fun _ _ h => (by cases h)⟩, fun _ _ _ _ h => (by cases h),
        fun hne => absurd rfl hne, Nat.zero_le _⟩
    · have hmoves := FencedRun.moves_after hen
      exact ⟨hR.1.moves hG hmoves, hR.2.moves hP hR.1 hmoves⟩
  exact hboth.2

end Once

-- ==== later executions

/-- Once the document is done with, an execution that begins with it is
quiet: it never comes to a call. -/
structure Program.Retires (P : Program D L I C) (Live Held : D → L → Prop) (Done : D → Prop)
    (Quiet : L → Prop) : Prop where
  start : ∀ d, Done d → Quiet (P.start d)
  hear : ∀ l i, Quiet l → Quiet (P.hear l i)
  refused : ∀ l, Quiet (P.refused l)
  saved : ∀ l d, P.saves? l = some d → Quiet l → Quiet (P.saved l)
  silent : ∀ l, Quiet l → P.calls? l = none
  stays : ∀ d d' l, P.saves? l = some d' → Held d l → Live d l → Done d → Done d'

/-- From `R₀` on: executions that begin later are quiet. -/
structure FencedRun.Retired (Done : D → Prop) (Quiet : L → Prop)
    (R₀ R : FencedRun τ D L I C) : Prop where
  done : Done R.durable
  quiet : ∀ x e, R₀.executions x = none → R.executions x = some e → Quiet e.place
  silent : ∀ x c, R₀.executions x = none → (x, c) ∉ R.calls

section Retires

variable {Live Held : D → L → Prop} {Called : D → C → Prop} {Done : D → Prop} {Quiet : L → Prop}

theorem FencedRun.Retired.goOn (h : R₀.Retired Done Quiet R) (hx : R.executions x = some e)
    (hexecutions : Q.executions = R.executions) (hcalls : Q.calls = R.calls)
    (hdone : Done Q.durable) (hl : Quiet e.place → Quiet l) :
    R₀.Retired Done Quiet (Q.goOn x e.token l) := by
  refine ⟨hdone, fun y e' hy he' => ?_, fun y c hy hmem => ?_⟩
  · rcases goOn_cases he' with ⟨rfl, rfl⟩ | ⟨-, hold⟩
    · exact hl (h.quiet y e hy hx)
    · exact h.quiet y e' hy (hexecutions ▸ hold)
  · refine h.silent y c hy ?_
    rw [← hcalls]
    exact hmem

theorem FencedRun.Retired.moves (hP : P.Retires Live Held Done Quiet)
    (h : R₀.Retired Done Quiet R) (hguarded : R.Guarded Live Held Called)
    (hmoves : R.Moves P R') : R₀.Retired Done Quiet R' := by
  cases hmoves with
  | idle => exact h
  | claimed x token hx hdrawn =>
    refine ⟨h.done, fun y e hy he => ?_, h.silent⟩
    rcases goOn_cases he with ⟨-, rfl⟩ | ⟨-, hold⟩
    · exact hP.start _ h.done
    · exact h.quiet y e hy hold
  | released => exact ⟨h.done, h.quiet, h.silent⟩
  | heard x e i hx => exact h.goOn hx rfl rfl h.done (hP.hear _ i)
  | refused x e hx => exact h.goOn hx rfl rfl h.done fun _ => hP.refused _
  | saved x e d l hx hd hlease hl =>
    have hdone := hP.stays _ _ _ hd (hguarded.held x e hx) (hguarded.live x e hx hlease) h.done
    refine h.goOn hx rfl rfl hdone fun hquiet => ?_
    rcases hl with rfl | rfl
    · exact hP.saved _ d hd hquiet
    · exact hP.refused _
  | called x e c hx hc =>
    have hnot (hx0 : R₀.executions x = none) : False := by
      have hnone := hP.silent _ (h.quiet x e hx0 hx)
      rw [hc] at hnone
      cases hnone
    refine ⟨h.done, fun y e' hy he' => ?_, fun y c' hy hmem => ?_⟩
    · rcases goOn_cases he' with ⟨rfl, -⟩ | ⟨-, hold⟩
      · exact (hnot hy).elim
      · exact h.quiet y e' hy hold
    · rcases List.mem_cons.mp hmem with heq | hold
      · cases heq
        exact hnot hy
      · exact h.silent y c' hy hold

variable [DecidableEq τ] {d0 : D}

/-- Executions that begin once the document is done with make no call. -/
theorem Program.Retires.reachable (hP : P.Retires Live Held Done Quiet)
    (hG : P.Guards Live Held Called) (h0 : (P.machine d0).Reachable allow R₀)
    (hdone : Done R₀.durable) (h : ((P.machine d0).startingAt R₀).Reachable allow R)
    (hx : R₀.executions x = none) (c : C) : (x, c) ∉ R.calls := by
  have hguarded := hG.reachable h0
  have hboth : R.Guarded Live Held Called ∧ R₀.Retired Done Quiet R := by
    refine h.after (I := fun R => R.Guarded Live Held Called ∧ R₀.Retired Done Quiet R) ?_
      fun R e hR hen _ => ?_
    · refine ⟨hguarded, hdone, fun y e hy he => ?_, fun y c hy hmem => hguarded.caller y c hmem hy⟩
      rw [hy] at he
      cases he
    · have hmoves := FencedRun.moves_after hen
      exact ⟨hR.1.moves hG hmoves, hR.2.moves hP hR.1 hmoves⟩
  exact hboth.2.silent x c hx

end Retires

end Relational
