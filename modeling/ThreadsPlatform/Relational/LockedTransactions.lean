/-
Transactions statement by statement, under READ COMMITTED with row locks.

A transaction runs at a point of its program. Executing its next
statement reads what is committed at that moment and moves it to another
point, ends it, or commits. A point holds row locks; a statement whose
point would conflict with a lock another transaction holds waits. Any
transaction can be rolled back at any time, as a deadlock's victim is.

`Upholds` is the rule for such systems. `D` is about what is committed,
`Q` about a transaction and what is committed. A step of a transaction
keeps its own `Q`; a commit keeps `D`, and keeps the `Q` of every
transaction whose locks do not conflict with those of the one that
commits. That is all a lock is for, and then both hold in every
interleaving.
-/
import Mathlib.Data.List.AList
import ThreadsPlatform.Relational.Table
import ThreadsPlatform.Relational.Transaction

namespace Relational

-- ==== bulk UPDATE

namespace Table

variable {κ ρ : Type} [DecidableEq κ] {S : Schema κ ρ}

/-- UPDATE of columns that no constraint looks at. -/
def mapRows (t : Table S) (f : ρ → ρ) (hkey : ∀ r, S.key (f r) = S.key r)
    (hcheck : ∀ r, S.check (f r) = S.check r)
    (hclash : ∀ a b, S.clash (f a) (f b) = S.clash a b) : Table S where
  rows := t.rows.map f
  keysNodup := by
    rw [List.map_map, show S.key ∘ f = S.key from funext hkey]
    exact t.keysNodup
  checked := by
    intro r hr
    obtain ⟨r₀, hr₀, rfl⟩ := List.mem_map.mp hr
    rw [hcheck]
    exact t.checked r₀ hr₀
  apart := by
    intro a ha b hb hne
    obtain ⟨a₀, ha₀, rfl⟩ := List.mem_map.mp ha
    obtain ⟨b₀, hb₀, rfl⟩ := List.mem_map.mp hb
    rw [hkey, hkey] at hne
    rw [hclash]
    exact t.apart a₀ ha₀ b₀ hb₀ hne

theorem get?_mapRows {t : Table S} {f : ρ → ρ} {hkey : ∀ r, S.key (f r) = S.key r}
    {hcheck : ∀ r, S.check (f r) = S.check r}
    {hclash : ∀ a b, S.clash (f a) (f b) = S.clash a b} {k : κ} :
    (t.mapRows f hkey hcheck hclash).get? k = (t.get? k).map f := by
  unfold get? mapRows
  have hsame : (fun r => decide (S.key r = k)) ∘ f = fun r => decide (S.key r = k) := by
    funext r
    simp [hkey]
  rw [List.find?_map, hsame]

end Table

-- ==== locks

/-- The rows a transaction has locked, for itself or in share mode. -/
structure Held (κ : Type) where
  exclusive : List κ
  shared : List κ

namespace Held

variable {κ : Type} [DecidableEq κ]

def none : Held κ := ⟨[], []⟩

/-- One has locked for itself what the other has locked. -/
def conflicts (a b : Held κ) : Bool :=
  a.exclusive.any (fun k => b.exclusive.contains k || b.shared.contains k)
    || a.shared.any fun k => b.exclusive.contains k

theorem not_exclusive_of_conflicts {a b : Held κ} (h : a.conflicts b = false) {k : κ}
    (ha : k ∈ a.exclusive) : k ∉ b.exclusive := by
  intro hb
  have hboth : a.conflicts b = true := by
    unfold conflicts
    rw [Bool.or_eq_true, List.any_eq_true]
    exact .inl ⟨k, ha, by simp [hb]⟩
  rw [h] at hboth
  cases hboth

theorem conflicts_comm (a b : Held κ) : a.conflicts b = b.conflicts a := by
  rw [Bool.eq_iff_iff]
  unfold conflicts
  simp only [Bool.or_eq_true, List.any_eq_true, List.contains_iff_mem]
  constructor
  all_goals
    rintro (⟨k, ha, hb | hb⟩ | ⟨k, ha, hb⟩)
    · exact .inl ⟨k, hb, .inl ha⟩
    · exact .inr ⟨k, hb, ha⟩
    · exact .inl ⟨k, hb, .inr ha⟩

end Held

-- ==== programs

/-- What the next statement of a transaction does. -/
inductive TxTurn (σ π : Type) where
  | goes (next : π)
  | commits (db : σ)
  | ends

/-- The transactions of a program: where a call begins, what a statement
does, and what a point holds. -/
structure TxProgram (σ π ι κ : Type) where
  start : ι → π
  turn : σ → π → TxTurn σ π
  holds : π → Held κ

/-- What is committed, and the transactions that run. -/
structure TxRun (τ σ π : Type) where
  db : σ
  txs : AList fun _ : τ => π

/-- What can happen: a call begins, a transaction executes its next
statement, a transaction is rolled back. -/
inductive TxEvent (τ ι : Type) where
  | start (t : τ) (call : ι)
  | run (t : τ)
  | abort (t : τ)

namespace TxProgram

variable {τ σ π ι κ : Type} [DecidableEq τ] [DecidableEq κ] (P : TxProgram σ π ι κ)

/-- No other transaction holds a lock against the point. -/
def free (R : TxRun τ σ π) (t : τ) (point : π) : Bool :=
  R.txs.entries.all fun p => decide (p.1 = t) || !(P.holds point).conflicts (P.holds p.2)

def after (R : TxRun τ σ π) : TxEvent τ ι → TxRun τ σ π
  | .start t call => { R with txs := R.txs.insert t (P.start call) }
  | .abort t => { R with txs := R.txs.erase t }
  | .run t =>
    match R.txs.lookup t with
    | none => R
    | some point =>
      match P.turn R.db point with
      | .goes next =>
        if P.free R t next then { R with txs := R.txs.insert t next } else R
      | .commits db => { db := db, txs := R.txs.erase t }
      | .ends => { R with txs := R.txs.erase t }

/-- Any calls, in any interleaving, from what is committed at first. -/
def machine (db₀ : σ) : Machine (TxRun τ σ π) (TxEvent τ ι) where
  init R := R = ⟨db₀, ∅⟩
  enabled R e := ∀ t call, e = .start t call → R.txs.lookup t = none
  step R e := P.after R e

-- ==== rule

/-- What is to be shown of a program for `D` and `Q` to hold in every
interleaving. -/
structure Upholds (D : σ → Prop) (Q : σ → π → Prop) : Prop where
  start : ∀ db call, D db → Q db (P.start call)
  unlocked : ∀ call, P.holds (P.start call) = .none
  goes : ∀ db point next, D db → Q db point → P.turn db point = .goes next → Q db next
  commits : ∀ db point db', D db → Q db point → P.turn db point = .commits db' → D db'
  stable : ∀ db point db' other, D db → Q db point → P.turn db point = .commits db' →
    Q db other → (P.holds point).conflicts (P.holds other) = false → Q db' other

variable {P}

/-- The rule's invariant. -/
structure Upheld (P : TxProgram σ π ι κ) (D : σ → Prop) (Q : σ → π → Prop)
    (R : TxRun τ σ π) : Prop where
  db : D R.db
  points : ∀ t point, R.txs.lookup t = some point → Q R.db point
  apart : ∀ t t' point point', t ≠ t' → R.txs.lookup t = some point →
    R.txs.lookup t' = some point' → (P.holds point).conflicts (P.holds point') = false

variable {D : σ → Prop} {Q : σ → π → Prop} {R : TxRun τ σ π}

theorem lookup_insert_cases {t u : τ} {point other : π} {txs : AList fun _ : τ => π}
    (h : (txs.insert t point).lookup u = some other) :
    (u = t ∧ other = point) ∨ (u ≠ t ∧ txs.lookup u = some other) := by
  by_cases hu : u = t
  · subst hu
    rw [AList.lookup_insert] at h
    exact .inl ⟨rfl, (Option.some.inj h).symm⟩
  · rw [AList.lookup_insert_ne hu] at h
    exact .inr ⟨hu, h⟩

theorem lookup_erase_some {t u : τ} {other : π} {txs : AList fun _ : τ => π}
    (h : (txs.erase t).lookup u = some other) : u ≠ t ∧ txs.lookup u = some other := by
  by_cases hu : u = t
  · subst hu
    rw [AList.lookup_erase] at h
    cases h
  · rw [AList.lookup_erase_ne hu] at h
    exact ⟨hu, h⟩

theorem free_iff {t : τ} {point : π} : P.free R t point = true ↔
    ∀ u other, u ≠ t → R.txs.lookup u = some other →
      (P.holds point).conflicts (P.holds other) = false := by
  unfold free
  rw [List.all_eq_true]
  constructor
  · intro h u other hu hother
    have hentry := h ⟨u, other⟩ (AList.mem_lookup_iff.mp hother)
    simpa [hu] using hentry
  · rintro h ⟨u, other⟩ hmem
    by_cases hu : u = t
    · simp [hu]
    · simp [h u other hu (AList.mem_lookup_iff.mpr hmem)]

theorem Upheld.move {t : τ} {point : π} (h : Upheld P D Q R) (hfree : P.free R t point = true)
    (hpoint : Q R.db point) : Upheld P D Q { R with txs := R.txs.insert t point } := by
  rw [free_iff] at hfree
  refine ⟨h.db, fun u other hu => ?_, fun u u' other other' hne hu hu' => ?_⟩
  · rcases lookup_insert_cases hu with ⟨-, rfl⟩ | ⟨-, hold⟩
    · exact hpoint
    · exact h.points u other hold
  · rcases lookup_insert_cases hu with ⟨rfl, rfl⟩ | ⟨hut, hold⟩ <;>
      rcases lookup_insert_cases hu' with ⟨rfl, rfl⟩ | ⟨hut', hold'⟩
    · exact absurd rfl hne
    · exact hfree u' other' hut' hold'
    · rw [Held.conflicts_comm]
      exact hfree u other hut hold
    · exact h.apart u u' other other' hne hold hold'

theorem Upheld.drop {t : τ} (h : Upheld P D Q R) :
    Upheld P D Q { R with txs := R.txs.erase t } :=
  ⟨h.db, fun u other hu => h.points u other (lookup_erase_some hu).2,
    fun u u' other other' hne hu hu' =>
      h.apart u u' other other' hne (lookup_erase_some hu).2 (lookup_erase_some hu').2⟩

theorem Upheld.after (hup : P.Upholds D Q) (h : Upheld P D Q R) (e : TxEvent τ ι) :
    Upheld P D Q (P.after R e) := by
  cases e with
  | start t call =>
    refine h.move (free_iff.mpr fun u other _ _ => ?_) (hup.start R.db call h.db)
    rw [hup.unlocked]
    rfl
  | abort t => exact h.drop
  | run t =>
    unfold TxProgram.after
    dsimp only
    split
    · exact h
    · rename_i point hpoint
      split
      · rename_i next hturn
        split
        · rename_i hfree
          exact h.move hfree (hup.goes _ _ _ h.db (h.points t point hpoint) hturn)
        · exact h
      · rename_i db hturn
        have hQ := h.points t point hpoint
        refine ⟨hup.commits _ _ _ h.db hQ hturn, fun u other hu => ?_, h.drop.apart⟩
        obtain ⟨hne, hold⟩ := lookup_erase_some hu
        exact hup.stable _ _ _ _ h.db hQ hturn (h.points u other hold)
          (h.apart t u point other hne.symm hpoint hold)
      · exact h.drop

theorem Upholds.reachable (hup : P.Upholds D Q) {db0 : σ} (hstart : D db0)
    {allow : TxRun τ σ π → TxEvent τ ι → Prop} (h : (P.machine db0).Reachable allow R) :
    Upheld P D Q R := by
  refine h.invariant ?_ fun R e hR _ _ => hR.after hup e
  rintro _ rfl
  refine ⟨hstart, fun t point ht => ?_, fun t _ point _ _ ht => ?_⟩
  · rw [AList.lookup_empty] at ht
    cases ht
  · rw [AList.lookup_empty] at ht
    cases ht

end TxProgram

end Relational
