/-
A lease with a fencing generation.

The lease names its owner, carries a generation and lapses at its
expiry. Two things happen to it (`Step`): whoever finds it lapsed takes
it, under a generation above the last; and while it is live its expiry
moves, for a renewal or a release.

# Executions

An execution takes the lease once, and afterwards knows only what it was
given: its name `o`, its generation `g` and the expiry `e` it counts on.
`Holds` relates that to the lease: it is the execution's still, exactly
as the execution knows it, or it has gone to a later generation after
the execution had lapsed. Waiting and other executions' steps keep the
relation, and two live executions of one lease are the same.
-/
import Mathlib.Order.Lattice

namespace Relational

/-- Who has the lease, under which generation, until when. -/
structure FencedLease (ω τ : Type) where
  owner : ω
  generation : Int
  expiry : τ

namespace FencedLease

variable {ω τ : Type} [LinearOrder τ]

/-- What happens to a lease at an instant. -/
inductive Step (now : τ) : Option (FencedLease ω τ) → Option (FencedLease ω τ) → Prop
  | take {l : Option (FencedLease ω τ)} {x : FencedLease ω τ}
      (h : ∀ y, l = some y → y.expiry ≤ now ∧ y.generation < x.generation) :
      Step now l (some x)
  | move {x : FencedLease ω τ} (e : τ) (h : now < x.expiry) :
      Step now (some x) (some { x with expiry := e })

variable {now t t' e e' : τ} {l l' l'' : Option (FencedLease ω τ)} {x : FencedLease ω τ}
  {o o' : ω} {g g' : Int}

-- ==== generations

/-- The generation does not decrease, and it stays only with the owner. -/
def Advances (l l' : Option (FencedLease ω τ)) : Prop :=
  ∀ x, l = some x → ∃ x', l' = some x'
    ∧ (x.generation < x'.generation ∨ (x'.generation = x.generation ∧ x'.owner = x.owner))

omit [LinearOrder τ] in
theorem Advances.refl (l : Option (FencedLease ω τ)) : Advances l l :=
  fun x hx => ⟨x, hx, .inr ⟨rfl, rfl⟩⟩

omit [LinearOrder τ] in
theorem Advances.trans (h : Advances l l') (h' : Advances l' l'') : Advances l l'' := by
  intro x hx
  obtain ⟨y, hy, hxy⟩ := h x hx
  obtain ⟨z, hz, hyz⟩ := h' y hy
  refine ⟨z, hz, ?_⟩
  rcases hxy with hlt | ⟨hgen, howner⟩
  · rcases hyz with hlt' | ⟨hgen', -⟩
    · exact .inl (by omega)
    · exact .inl (by omega)
  · rcases hyz with hlt' | ⟨hgen', howner'⟩
    · exact .inl (by omega)
    · exact .inr ⟨hgen'.trans hgen, howner'.trans howner⟩

theorem Step.advances (h : Step now l l') : Advances l l' := by
  cases h with
  | take hfree => exact fun y hy => ⟨_, rfl, .inl (hfree y hy).2⟩
  | move e _ =>
    intro y hy
    cases hy
    exact ⟨_, rfl, .inr ⟨rfl, rfl⟩⟩

-- ==== executions

/-- The lease is the execution's, or was taken after it lapsed. -/
def Holds (t : τ) (l : Option (FencedLease ω τ)) (o : ω) (g : Int) (e : τ) : Prop :=
  ∃ x, l = some x ∧ (x = ⟨o, g, e⟩ ∨ (g < x.generation ∧ e ≤ t))

theorem holds_taken : Holds t (some ⟨o, g, e⟩) o g e := ⟨_, rfl, .inl rfl⟩

theorem Holds.wait (ht : t ≤ t') (h : Holds t l o g e) : Holds t' l o g e := by
  obtain ⟨x, hx, hcase⟩ := h
  exact ⟨x, hx, hcase.imp id fun ⟨hlt, he⟩ => ⟨hlt, le_trans he ht⟩⟩

theorem Holds.current (h : Holds t l o g e) (hlive : t < e) : l = some ⟨o, g, e⟩ := by
  obtain ⟨x, hx, rfl | ⟨-, he⟩⟩ := h
  · exact hx
  · exact absurd hlive (not_lt_of_ge he)

/-- Taking a lapsed lease leaves every earlier execution behind. -/
theorem Holds.superseded (h : Holds now l o g e)
    (hfree : ∀ y, l = some y → y.expiry ≤ now ∧ y.generation < x.generation) :
    Holds now (some x) o g e ∧ g < x.generation := by
  obtain ⟨y, hy, hcase⟩ := h
  obtain ⟨hlapsed, hgen⟩ := hfree y hy
  rcases hcase with rfl | ⟨hlt, he⟩
  · exact ⟨⟨x, rfl, .inr ⟨hgen, hlapsed⟩⟩, hgen⟩
  · have hlt' : g < x.generation := by omega
    exact ⟨⟨x, rfl, .inr ⟨hlt', he⟩⟩, hlt'⟩

theorem Holds.moved (h : Holds t (some x) o g e) (hother : x.generation = g → x.owner ≠ o) :
    Holds t (some { x with expiry := e' }) o g e := by
  obtain ⟨y, hy, hcase⟩ := h
  cases hy
  rcases hcase with rfl | hlater
  · exact absurd rfl (hother rfl)
  · exact ⟨_, rfl, .inr hlater⟩

theorem Holds.renewed (h : Holds t (some x) o g e) (hgen : x.generation = g) :
    Holds t (some { x with expiry := e' }) o g e' := by
  obtain ⟨y, hy, hcase⟩ := h
  cases hy
  rcases hcase with rfl | ⟨hlt, -⟩
  · exact holds_taken
  · omega

end FencedLease

end Relational
