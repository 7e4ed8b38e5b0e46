/-
Transactions as `Except` computations, and machines that run them.

# Transactions

A transaction either commits a new state or raises and rolls back
(`commit`). Its body is a straight line of guarded steps: `require` (a
condition or an error), `orThrow` (a value or an error), and loops
(`List.foldlM`). The inversion lemmas read a committed body backwards,
one step at a time. `Avoids` is about what a body can never raise; its
simp lemmas reduce it to the steps that could. `Yields` is that a body
returns, with a property of what it returns; its rules go forward.

# Machines

A `Machine` takes inputs one at a time; an input may be disabled in a
state. `Reachable` is reachability by runs whose every input meets a
side condition, `TimedReachable` the same with nondecreasing times, and
`Continues` is a run that starts anywhere. Each has its invariant rule:
hold initially, survive one step, hold everywhere.
-/
import Mathlib.Order.Basic

namespace Relational

-- ==== transactions

section Transactions

variable {ε α β σ : Type} {x : Except ε α} {f : α → Except ε β} {e : ε}

/-- A condition, or the error raised when it fails. -/
def require (c : Prop) [Decidable c] (e : ε) : Except ε Unit :=
  if c then .ok () else .error e

/-- A value, or the error raised when it is missing. -/
def orThrow (o : Option α) (e : ε) : Except ε α :=
  match o with
  | some a => .ok a
  | none => .error e

/-- Commit a transaction's result state, or roll back to the old one. -/
def commit (tx : Except ε σ) (s : σ) : σ :=
  match tx with
  | .ok s' => s'
  | .error _ => s

@[simp] theorem commit_ok (s s' : σ) : commit (.ok s' : Except ε σ) s = s' := rfl

@[simp] theorem commit_error (e : ε) (s : σ) : commit (.error e) s = s := rfl

theorem map_eq_ok {f : α → β} {b : β} : f <$> x = .ok b ↔ ∃ a, x = .ok a ∧ f a = b := by
  cases x <;> simp [Functor.map, Except.map]

theorem bind_eq_ok {b : β} : (x >>= f) = .ok b ↔ ∃ a, x = .ok a ∧ f a = .ok b := by
  cases x with
  | ok a => simp [bind, Except.bind]
  | error e => simp [bind, Except.bind]

theorem bind_eq_error : (x >>= f) = .error e ↔ x = .error e ∨ ∃ a, x = .ok a ∧ f a = .error e := by
  cases x with
  | ok a => simp [bind, Except.bind]
  | error e => simp [bind, Except.bind]

theorem pure_eq_ok {a b : α} : (pure a : Except ε α) = .ok b ↔ a = b := by
  simp [pure, Except.pure]

/-- A check of what a body returns, made by running it. -/
theorem ok_of_any {p : α → Bool} (h : x.toOption.any p = true) : ∃ a, x = .ok a ∧ p a = true := by
  cases x with
  | error => cases h
  | ok a => exact ⟨a, rfl, h⟩

@[simp] theorem throw_eq_ok {a : α} : (throw e : Except ε α) = .ok a ↔ False := by
  constructor
  · intro h
    cases h
  · exact False.elim

@[simp] theorem require_eq_ok {c : Prop} [Decidable c] {u : Unit} : require c e = .ok u ↔ c := by
  unfold require
  by_cases hc : c <;> simp [hc]

@[simp] theorem orThrow_eq_ok {o : Option α} {a : α} : orThrow o e = .ok a ↔ o = some a := by
  cases o <;> simp [orThrow]

/-- How a body returns: the rules that open its steps, in one. -/
theorem steps_ok : (∀ {ε α β : Type} {x : Except ε α} {f : α → Except ε β} {b : β},
        (x >>= f) = .ok b ↔ ∃ a, x = .ok a ∧ f a = .ok b)
      ∧ (∀ {ε α : Type} {a b : α}, (pure a : Except ε α) = .ok b ↔ a = b)
      ∧ (∀ {ε : Type} {c : Prop} [Decidable c] {e : ε} {u : Unit}, require c e = .ok u ↔ c)
      ∧ (∀ {ε α : Type} {o : Option α} {e : ε} {a : α}, orThrow o e = .ok a ↔ o = some a)
      ∧ (∀ {p : Prop}, (∃ _ : Unit, p) ↔ p)
      ∧ ∀ {α β : Type} {a c : α} {b d : β}, (a, b) = (c, d) ↔ a = c ∧ b = d :=
  ⟨bind_eq_ok, pure_eq_ok, require_eq_ok, orThrow_eq_ok, exists_const _, Prod.mk.injEq .. ▸ Iff.rfl⟩

/-- How a check holds: conjunction by conjunction, as propositions. -/
theorem checks_hold : (∀ {a b : Bool}, (a && b) = true ↔ a = true ∧ b = true)
    ∧ ∀ {p : Prop} [Decidable p], decide p = true ↔ p :=
  ⟨by simp, by simp⟩

/-- A property every iteration of a committed loop keeps, given that the
iterations still to come are those of the remaining list. -/
theorem foldlM_invariant {f : σ → α → Except ε σ} (P : List α → σ → Prop)
    (hstep : ∀ x xs s s', P (x :: xs) s → f s x = .ok s' → P xs s') :
    ∀ {xs : List α} {s s' : σ}, P xs s → xs.foldlM f s = .ok s' → P [] s' := by
  intro xs
  induction xs with
  | nil =>
    intro s s' hP h
    rw [List.foldlM_nil, pure_eq_ok] at h
    exact h ▸ hP
  | cons x xs ih =>
    intro s s' hP h
    rw [List.foldlM_cons, bind_eq_ok] at h
    obtain ⟨s1, h1, h2⟩ := h
    exact ih (hstep x xs s s1 hP h1) h2

-- ---- what is not raised

/-- The computation raises no `bad` error. -/
def Avoids (bad : ε → Prop) (x : Except ε α) : Prop :=
  ∀ e, x = .error e → ¬ bad e

variable {bad : ε → Prop}

@[simp] theorem avoids_ok (a : α) : Avoids bad (.ok a : Except ε α) := by
  intro e h
  cases h

@[simp] theorem avoids_pure (a : α) : Avoids bad (pure a : Except ε α) :=
  avoids_ok a

@[simp] theorem avoids_error : Avoids bad (.error e : Except ε α) ↔ ¬ bad e := by
  constructor
  · intro h
    exact h e rfl
  · intro he e' h
    injection h with h
    exact h ▸ he

@[simp] theorem avoids_throw : Avoids bad (throw e : Except ε α) ↔ ¬ bad e :=
  avoids_error

@[simp] theorem avoids_require {c : Prop} [Decidable c] :
    Avoids bad (require c e) ↔ c ∨ ¬ bad e := by
  unfold require
  by_cases hc : c <;> simp [hc]

@[simp] theorem avoids_orThrow {o : Option α} :
    Avoids bad (orThrow o e) ↔ o.isSome = true ∨ ¬ bad e := by
  cases o <;> simp [orThrow]

@[simp] theorem avoids_bind :
    Avoids bad (x >>= f) ↔ Avoids bad x ∧ ∀ a, x = .ok a → Avoids bad (f a) := by
  cases x with
  | ok a => simp [bind, Except.bind]
  | error e => simp [bind, Except.bind]

theorem Avoids.bind (hx : Avoids bad x) (hf : ∀ a, x = .ok a → Avoids bad (f a)) :
    Avoids bad (x >>= f) :=
  avoids_bind.mpr ⟨hx, hf⟩

@[simp] theorem avoids_map {f : α → β} : Avoids bad (f <$> x) ↔ Avoids bad x := by
  cases x <;> simp [Functor.map, Except.map]

@[simp] theorem avoids_ite {c : Prop} [Decidable c] {y : Except ε α} :
    Avoids bad (if c then x else y) ↔ (c → Avoids bad x) ∧ (¬ c → Avoids bad y) := by
  by_cases hc : c <;> simp [hc]

/-- A loop raises nothing bad when no iteration does, under a property
the iterations keep. -/
theorem Avoids.foldlM {f : σ → α → Except ε σ} (P : List α → σ → Prop)
    (hstep : ∀ x xs s s', P (x :: xs) s → f s x = .ok s' → P xs s')
    (havoid : ∀ x xs s, P (x :: xs) s → Avoids bad (f s x)) :
    ∀ {xs : List α} {s : σ}, P xs s → Avoids bad (xs.foldlM f s) := by
  intro xs
  induction xs with
  | nil =>
    intro s _
    exact avoids_pure s
  | cons x xs ih =>
    intro s hP
    rw [List.foldlM_cons, avoids_bind]
    exact ⟨havoid x xs s hP, fun s1 h1 => ih (hstep x xs s s1 hP h1)⟩

theorem avoids_foldlM {f : σ → α → Except ε σ} (h : ∀ s x, Avoids bad (f s x)) {xs : List α}
    {s : σ} : Avoids bad (xs.foldlM f s) :=
  Avoids.foldlM (fun _ _ => True) (fun _ _ _ _ _ _ => trivial) (fun x _ s _ => h s x) trivial

-- ---- what is returned

/-- The computation returns, and what it returns satisfies `P`. -/
def Yields (P : α → Prop) (x : Except ε α) : Prop :=
  ∃ a, x = .ok a ∧ P a

theorem Yields.pure {P : α → Prop} {a : α} (h : P a) : Yields P (Pure.pure a : Except ε α) :=
  ⟨a, rfl, h⟩

theorem Yields.require {c : Prop} [Decidable c] (h : c) : Yields (fun _ => True) (require c e) :=
  ⟨(), require_eq_ok.mpr h, trivial⟩

theorem Yields.orThrow {P : α → Prop} {o : Option α} {a : α} (ho : o = some a) (h : P a) :
    Yields P (orThrow o e) :=
  ⟨a, orThrow_eq_ok.mpr ho, h⟩

theorem Yields.bind {P : α → Prop} {Q : β → Prop} (hx : Yields P x)
    (hf : ∀ a, P a → Yields Q (f a)) : Yields Q (x >>= f) := by
  obtain ⟨a, rfl, ha⟩ := hx
  exact hf a ha

theorem Yields.mono {P Q : α → Prop} (hx : Yields P x) (h : ∀ a, P a → Q a) : Yields Q x := by
  obtain ⟨a, ha, hP⟩ := hx
  exact ⟨a, ha, h a hP⟩

/-- What was returned also satisfies what every returned value does. -/
theorem Yields.of_ok {P Q : α → Prop} (hx : Yields P x) (h : ∀ a, x = .ok a → Q a) :
    Yields (fun a => P a ∧ Q a) x := by
  obtain ⟨a, ha, hP⟩ := hx
  exact ⟨a, ha, hP, h a ha⟩

/-- A loop returns when every iteration does, under an invariant. -/
theorem Yields.foldlM {f : σ → α → Except ε σ} (I : List α → σ → Prop)
    (hstep : ∀ x xs s, I (x :: xs) s → Yields (I xs) (f s x)) :
    ∀ {xs : List α} {s : σ}, I xs s → Yields (I []) (xs.foldlM f s) := by
  intro xs
  induction xs with
  | nil =>
    intro s hs
    exact .pure hs
  | cons x xs ih =>
    intro s hs
    rw [List.foldlM_cons]
    exact (hstep x xs s hs).bind fun s' hs' => ih hs'

end Transactions

-- ==== machines

/-- A machine: its initial states, which inputs a state takes, and what
an input does. -/
structure Machine (σ ι : Type) where
  init : σ → Prop
  enabled : σ → ι → Prop
  step : σ → ι → σ

namespace Machine

variable {σ ι τ : Type} (M : Machine σ ι)

/-- Reachable by a run whose every input meets `allow`. -/
inductive Reachable (allow : σ → ι → Prop) : σ → Prop
  | init {s : σ} (hs : M.init s) : Reachable allow s
  | step {s : σ} {i : ι} (hr : Reachable allow s) (he : M.enabled s i)
      (ha : allow s i) : Reachable allow (M.step s i)

/-- The same machine, begun in one state. -/
def startingAt (s₀ : σ) : Machine σ ι := { M with init := fun s => s = s₀ }

variable {M} {allow : σ → ι → Prop} {s : σ}

theorem Reachable.invariant {I : σ → Prop} (hinit : ∀ s, M.init s → I s)
    (hstep : ∀ s i, I s → M.enabled s i → allow s i → I (M.step s i)) (h : M.Reachable allow s) :
    I s := by
  induction h with
  | init hs => exact hinit _ hs
  | step _ he ha ih => exact hstep _ _ ih he ha

theorem Reachable.after {I : σ → Prop} {s0 : σ} (hstart : I s0)
    (hstep : ∀ s i, I s → M.enabled s i → allow s i → I (M.step s i))
    (h : (M.startingAt s0).Reachable allow s) : I s := by
  induction h with
  | init hs =>
    obtain rfl : _ = s0 := hs
    exact hstart
  | step _ he ha ih => exact hstep _ _ ih he ha

theorem Reachable.mono {allow' : σ → ι → Prop} (himp : ∀ s i, allow s i → allow' s i)
    (h : M.Reachable allow s) : M.Reachable allow' s := by
  induction h with
  | init hs => exact .init hs
  | step _ he ha ih => exact .step ih he (himp _ _ ha)

variable (M) in
/-- The state after a list of inputs. -/
def runs (inputs : List ι) (s : σ) : σ :=
  inputs.foldl M.step s

variable (M) in
/-- A check that holds of every input in the state it is given in. -/
def checks (ok : σ → ι → Bool) : List ι → σ → Bool
  | [], _ => true
  | i :: inputs, s => ok s i && checks ok inputs (M.step s i)

theorem Reachable.runs {ok : σ → ι → Bool}
    (hok : ∀ s i, M.Reachable allow s → ok s i = true → M.enabled s i ∧ allow s i) {inputs : List ι}
    (hs : M.Reachable allow s) (h : M.checks ok inputs s = true) :
    M.Reachable allow (M.runs inputs s) := by
  induction inputs generalizing s with
  | nil => exact hs
  | cons i inputs ih =>
    simp only [checks, Bool.and_eq_true] at h
    obtain ⟨hen, hallow⟩ := hok s i hs h.1
    exact ih (.step hs hen hallow) h.2

variable (M) in
/-- A run with its past: every state an input was given in, newest
first. -/
inductive History : List (σ × ι) → σ → Prop
  | init {s : σ} (hs : M.init s) : History [] s
  | step {past : List (σ × ι)} {s : σ} {i : ι} (hr : History past s) (he : M.enabled s i) :
      History ((s, i) :: past) (M.step s i)

/-- The invariant rule, for properties of a state and its past. -/
theorem History.invariant {I : List (σ × ι) → σ → Prop} (hinit : ∀ s, M.init s → I [] s)
    (hstep : ∀ past s i, M.History past s → I past s → M.enabled s i →
      I ((s, i) :: past) (M.step s i)) {past : List (σ × ι)} (h : M.History past s) : I past s := by
  induction h with
  | init hs => exact hinit _ hs
  | step hr he ih => exact hstep _ _ _ hr ih he

/-- The steps of a list of inputs, before those of the past. -/
def trace (M : Machine σ ι) : List ι → List (σ × ι) → σ → List (σ × ι)
  | [], past, _ => past
  | i :: inputs, past, s => M.trace inputs ((s, i) :: past) (M.step s i)

theorem History.runs {ok : σ → ι → Bool} (hok : ∀ s i, ok s i = true → M.enabled s i)
    {inputs : List ι} {past : List (σ × ι)} (hs : M.History past s)
    (h : M.checks ok inputs s = true) : M.History (M.trace inputs past s) (M.runs inputs s) := by
  induction inputs generalizing past s with
  | nil => exact hs
  | cons i inputs ih =>
    obtain ⟨hi, hrest⟩ := Bool.and_eq_true_iff.mp h
    exact ih (.step hs (hok s i hi)) hrest

theorem History.reachable {past : List (σ × ι)} (h : M.History past s) :
    M.Reachable (fun _ _ => True) s := by
  induction h with
  | init hs => exact .init hs
  | step _ he ih => exact .step ih he trivial

variable [LE τ] (M) (timeOf : ι → τ)

/-- Reachable at time `t` by a run with nondecreasing times. -/
inductive TimedReachable : τ → σ → Prop
  | init {s : σ} (t : τ) (hs : M.init s) : TimedReachable t s
  | step {t : τ} {s : σ} {i : ι} (hr : TimedReachable t s) (ht : t ≤ timeOf i)
      (he : M.enabled s i) : TimedReachable (timeOf i) (M.step s i)

/-- A run from one state and time to another, times nondecreasing. -/
inductive Continues (t₀ : τ) (s₀ : σ) : τ → σ → Prop
  | refl : Continues t₀ s₀ t₀ s₀
  | step {t : τ} {s : σ} {i : ι} (hr : Continues t₀ s₀ t s) (ht : t ≤ timeOf i)
      (he : M.enabled s i) : Continues t₀ s₀ (timeOf i) (M.step s i)

variable {M timeOf}

/-- The invariant rule, for properties of a state at a time. -/
theorem TimedReachable.invariant {I : τ → σ → Prop} (hinit : ∀ t s, M.init s → I t s)
    (hstep : ∀ t s i, I t s → t ≤ timeOf i → M.enabled s i → I (timeOf i) (M.step s i)) {t : τ}
    (h : M.TimedReachable timeOf t s) : I t s := by
  induction h with
  | init t hs => exact hinit t _ hs
  | step _ ht he ih => exact hstep _ _ _ ih ht he

theorem TimedReachable.untimed {t : τ} (h : M.TimedReachable timeOf t s) :
    M.Reachable (fun _ _ => True) s := by
  induction h with
  | init t hs => exact .init hs
  | step _ _ he ih => exact .step ih he trivial

theorem Continues.invariant {I : τ → σ → Prop} {t0 : τ} {s0 : σ} (hstart : I t0 s0)
    (hstep : ∀ t s i, I t s → t ≤ timeOf i → M.enabled s i → I (timeOf i) (M.step s i)) {t : τ}
    (h : M.Continues timeOf t0 s0 t s) : I t s := by
  induction h with
  | refl => exact hstart
  | step _ ht he ih => exact hstep _ _ _ ih ht he

end Machine

end Relational
