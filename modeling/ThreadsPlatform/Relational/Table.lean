/-
Constrained relational tables: a list of rows that carries, as fields,
what its declaration promises about them.

# What a table promises

A `Schema` fixes the three kinds of constraint a table declaration can
state over its own rows: the primary key (`key`), the row-local CHECK
constraint (`check`), and the UNIQUE constraints (`clash`: two rows with
different keys may not both be stored). A `Table` over the schema is a
list of rows together with the proofs that all three hold, so a table
that breaks one of its own constraints cannot be built.

# The two writes

`insert` and `update` are the only ways to a new table. Both answer
`none` exactly when a constraint refuses the row; on success both are
described by one relation, `Put`: the written row is what its key now
reads, every other key reads as before. A loop of updates is described
by `Evolves`: the same keys, each row related to the one before; a run
of inserts and updates by `Grows`, where keys may be added. Proofs about
programs over tables use these and the read lemmas, never the row list.

Reads that SQL orders (`ORDER BY … LIMIT 1`) go through `firstBy`, whose
result is a selected row and a minimum of the selection.
-/
import Mathlib.Data.List.Sort
import Mathlib.Data.List.Nodup
import Mathlib.Data.Option.Defs

namespace Relational

-- ==== schemas

/-- The constraints of one table: primary key, CHECK, and UNIQUE (two
rows that `clash` may not be stored under different keys). -/
structure Schema (κ ρ : Type) where
  key : ρ → κ
  check : ρ → Bool
  clash : ρ → ρ → Bool

/-- A table over a schema: its rows, with the schema's constraints. -/
structure Table {κ ρ : Type} (S : Schema κ ρ) where
  rows : List ρ
  keysNodup : (rows.map S.key).Nodup
  checked : ∀ r ∈ rows, S.check r = true
  apart : ∀ a ∈ rows, ∀ b ∈ rows, S.key a ≠ S.key b → S.clash a b = false

namespace Table

variable {κ ρ : Type} [DecidableEq κ] {S : Schema κ ρ} {t t' : Table S} {r s : ρ} {k : κ}

/-- The table with no rows. -/
def empty (S : Schema κ ρ) : Table S where
  rows := []
  keysNodup := List.nodup_nil
  checked := fun _ h => absurd h List.not_mem_nil
  apart := fun _ h => absurd h List.not_mem_nil

/-- The row stored under a key. -/
def get? (t : Table S) (k : κ) : Option ρ :=
  t.rows.find? fun r => decide (S.key r = k)

/-- Do the CHECK and the UNIQUE constraints admit `r`, whatever row its
own key holds? -/
def fits (t : Table S) (r : ρ) : Bool :=
  S.check r && t.rows.all fun s =>
    decide (S.key s = S.key r) || (!S.clash s r && !S.clash r s)

-- ==== reads

/-- A row is read under its own key, and only stored rows are read. -/
theorem get?_eq_some_iff : t.get? k = some r ↔ r ∈ t.rows ∧ S.key r = k := by
  obtain ⟨rows, hnd, _, _⟩ := t
  show rows.find? (fun r => decide (S.key r = k)) = some r ↔ r ∈ rows ∧ S.key r = k
  induction rows with
  | nil => simp
  | cons a rows ih =>
    simp only [List.map_cons, List.nodup_cons] at hnd
    simp only [List.find?_cons, List.mem_cons]
    by_cases ha : S.key a = k
    · simp only [ha, decide_true]
      constructor
      · intro h
        injection h with h
        exact ⟨.inl h.symm, h ▸ ha⟩
      · rintro ⟨rfl | hr, hk⟩
        · rfl
        · -- a second row under `a`'s key contradicts the key constraint
          exact absurd (List.mem_map.mpr ⟨r, hr, hk.trans ha.symm⟩) hnd.1
    · simp only [ha, decide_false]
      rw [ih hnd.2 (fun r hr => by simp_all) (fun a' ha' b hb => by simp_all)]
      constructor
      · rintro ⟨hr, hk⟩
        exact ⟨.inr hr, hk⟩
      · rintro ⟨rfl | hr, hk⟩
        · exact absurd hk ha
        · exact ⟨hr, hk⟩

theorem mem_rows_iff : r ∈ t.rows ↔ t.get? (S.key r) = some r := by
  rw [get?_eq_some_iff]
  simp

theorem key_of_get? (h : t.get? k = some r) : S.key r = k :=
  (get?_eq_some_iff.mp h).2

theorem mem_of_get? (h : t.get? k = some r) : r ∈ t.rows :=
  (get?_eq_some_iff.mp h).1

theorem check_of_get? (h : t.get? k = some r) : S.check r = true :=
  t.checked r (mem_of_get? h)

theorem clash_of_get? {l : κ} (hr : t.get? k = some r) (hs : t.get? l = some s) (hne : k ≠ l) :
    S.clash r s = false := by
  refine t.apart r (mem_of_get? hr) s (mem_of_get? hs) ?_
  rw [key_of_get? hr, key_of_get? hs]
  exact hne

theorem get?_eq_none_iff : t.get? k = none ↔ ∀ r ∈ t.rows, S.key r ≠ k := by
  unfold get?
  simp [List.find?_eq_none]

@[simp] theorem get?_empty (k : κ) : (empty S).get? k = none := rfl

omit [DecidableEq κ] in
@[simp] theorem rows_empty : (empty S).rows = [] := rfl

-- ==== writes

/-- What a successful write does: the row is what its key reads now,
every other key reads as before. -/
def Put (t : Table S) (r : ρ) (t' : Table S) : Prop :=
  ∀ k, t'.get? k = if k = S.key r then some r else t.get? k

theorem Put.get?_self (h : Put t r t') : t'.get? (S.key r) = some r := by
  rw [h]
  simp

theorem Put.get?_ne (h : Put t r t') (hk : k ≠ S.key r) : t'.get? k = t.get? k := by
  rw [h, if_neg hk]

theorem Put.get?_of_fresh (h : Put t r t') (hfresh : t.get? (S.key r) = none)
    (hs : t.get? k = some s) : t'.get? k = some s := by
  rw [h.get?_ne]
  · exact hs
  · rintro rfl
    rw [hfresh] at hs
    cases hs

/-- A row read after a write is the written one or was there before. -/
theorem Put.cases (h : Put t r t') (hs : t'.get? k = some s) :
    (k = S.key r ∧ s = r) ∨ (k ≠ S.key r ∧ t.get? k = some s) := by
  rw [h] at hs
  split at hs
  case isTrue hk =>
    injection hs with hs
    exact .inl ⟨hk, hs.symm⟩
  case isFalse hk => exact .inr ⟨hk, hs⟩

theorem Put.overwrite {t'' : Table S} {r' : ρ} (h : Put t r t') (h' : Put t' r' t'')
    (hkey : S.key r' = S.key r) : Put t r' t'' := by
  intro k
  rw [h' k]
  by_cases hk : k = S.key r'
  · rw [if_pos hk, if_pos hk]
  · rw [if_neg hk, if_neg hk, h.get?_ne (hkey ▸ hk)]

theorem check_of_fits (h : t.fits r = true) : S.check r = true := by
  unfold fits at h
  rw [Bool.and_eq_true] at h
  exact h.1

/-- An admitted row clashes with no row under another key, either way
around. -/
theorem clash_of_fits (h : t.fits r = true) (hs : s ∈ t.rows) (hne : S.key s ≠ S.key r) :
    S.clash s r = false ∧ S.clash r s = false := by
  unfold fits at h
  rw [Bool.and_eq_true, List.all_eq_true] at h
  have hall := h.2 s hs
  simpa [hne] using hall

/-- INSERT: refused when the key is taken or a constraint refuses the
row. -/
def insert (t : Table S) (r : ρ) : Option (Table S) :=
  if h : (t.get? (S.key r)).isNone = true ∧ t.fits r = true then
    some
      { rows := t.rows ++ [r]
        keysNodup := by
          rw [List.map_append, List.map_singleton, List.nodup_append]
          refine ⟨t.keysNodup, List.nodup_singleton _, ?_⟩
          intro a ha b hb hab
          rw [List.mem_singleton] at hb
          obtain ⟨s, hs, rfl⟩ := List.mem_map.mp ha
          exact get?_eq_none_iff.mp (Option.isNone_iff_eq_none.mp h.1) s hs
            (hab.trans hb)
        checked := by
          intro s hs
          rcases List.mem_append.mp hs with hs | hs
          · exact t.checked s hs
          · rw [List.mem_singleton] at hs
            exact hs ▸ check_of_fits h.2
        apart := by
          intro a ha b hb hab
          rcases List.mem_append.mp ha with ha' | ha' <;>
            rcases List.mem_append.mp hb with hb' | hb'
          · exact t.apart a ha' b hb' hab
          · rw [List.mem_singleton] at hb'
            subst hb'
            exact (clash_of_fits h.2 ha' hab).1
          · rw [List.mem_singleton] at ha'
            subst ha'
            exact (clash_of_fits h.2 hb' (Ne.symm hab)).2
          · rw [List.mem_singleton] at ha' hb'
            exact absurd (by rw [ha', hb']) hab }
  else none

/-- A row of an updated row list is the new row or an old one under
another key. -/
private theorem mem_replace {rows : List ρ} {r s : ρ}
    (h : s ∈ rows.map fun x => if S.key x = S.key r then r else x) :
    s = r ∨ (s ∈ rows ∧ S.key s ≠ S.key r) := by
  obtain ⟨x, hx, hxs⟩ := List.mem_map.mp h
  split at hxs
  · exact .inl hxs.symm
  case isFalse hk => exact .inr ⟨hxs ▸ hx, hxs ▸ hk⟩

/-- UPDATE by primary key: refused when no row has the key or a
constraint refuses the new row. -/
def update (t : Table S) (r : ρ) : Option (Table S) :=
  if h : (t.get? (S.key r)).isSome = true ∧ t.fits r = true then
    some
      { rows := t.rows.map fun s => if S.key s = S.key r then r else s
        keysNodup := by
          have hkeys : (t.rows.map fun s => if S.key s = S.key r then r else s).map S.key
              = t.rows.map S.key := by
            rw [List.map_map]
            refine List.map_congr_left fun s _ => ?_
            by_cases hs : S.key s = S.key r <;> simp [hs]
          rw [hkeys]
          exact t.keysNodup
        checked := by
          intro s hs
          rcases mem_replace hs with rfl | ⟨hs', -⟩
          · exact check_of_fits h.2
          · exact t.checked s hs'
        apart := by
          intro a ha b hb hab
          rcases mem_replace ha with rfl | ⟨ha', hka⟩ <;>
            rcases mem_replace hb with rfl | ⟨hb', hkb⟩
          · exact absurd rfl hab
          · exact (clash_of_fits h.2 hb' hkb).2
          · exact (clash_of_fits h.2 ha' hka).1
          · exact t.apart a ha' b hb' hab }
  else none

/-- DELETE by primary key. -/
def delete (t : Table S) (k : κ) : Table S where
  rows := t.rows.filter fun r => decide (S.key r ≠ k)
  keysNodup := t.keysNodup.sublist (List.filter_sublist.map _)
  checked r hr := t.checked r (List.mem_of_mem_filter hr)
  apart a ha b hb := t.apart a (List.mem_of_mem_filter ha) b (List.mem_of_mem_filter hb)

theorem insert_rows (h : t.insert r = some t') : t'.rows = t.rows ++ [r] := by
  unfold insert at h
  split at h
  · injection h with h
    rw [← h]
  · cases h

theorem insert_fresh (h : t.insert r = some t') : t.get? (S.key r) = none := by
  unfold insert at h
  split at h
  case isTrue hc => exact Option.isNone_iff_eq_none.mp hc.1
  · cases h

theorem insert_isSome (hk : t.get? (S.key r) = none) (hf : t.fits r = true) :
    ∃ t', t.insert r = some t' := by
  unfold insert
  rw [dif_pos ⟨Option.isNone_iff_eq_none.mpr hk, hf⟩]
  exact ⟨_, rfl⟩

theorem insert_put (h : t.insert r = some t') : Put t r t' := by
  intro k
  have hrows := insert_rows h
  have hfresh := insert_fresh h
  unfold get? at hfresh ⊢
  rw [hrows, List.find?_append]
  by_cases hk : k = S.key r
  · subst hk
    rw [hfresh]
    simp
  · have hk' : ¬ S.key r = k := fun he => hk he.symm
    simp [hk, hk']

theorem update_rows (h : t.update r = some t') :
    t'.rows = t.rows.map fun s => if S.key s = S.key r then r else s := by
  unfold update at h
  split at h
  · injection h with h
    rw [← h]
  · cases h

theorem update_present (h : t.update r = some t') : ∃ s, t.get? (S.key r) = some s := by
  unfold update at h
  split at h
  case isTrue hc => exact Option.isSome_iff_exists.mp hc.1
  · cases h

theorem update_isSome (hk : t.get? (S.key r) = some s) (hf : t.fits r = true) :
    ∃ t', t.update r = some t' := by
  unfold update
  rw [dif_pos ⟨by rw [hk]; rfl, hf⟩]
  exact ⟨_, rfl⟩

theorem update_put (h : t.update r = some t') : Put t r t' := by
  intro k
  obtain ⟨s, hs⟩ := update_present h
  by_cases hk : k = S.key r
  · subst hk
    rw [if_pos rfl, get?_eq_some_iff, update_rows h]
    refine ⟨List.mem_map.mpr ⟨s, mem_of_get? hs, ?_⟩, rfl⟩
    rw [if_pos (key_of_get? hs)]
  · rw [if_neg hk]
    cases hold : t.get? k with
    | none =>
      rw [get?_eq_none_iff, update_rows h]
      intro x hx
      rcases mem_replace hx with rfl | ⟨hx', -⟩
      · exact fun he => hk he.symm
      · exact get?_eq_none_iff.mp hold x hx'
    | some x =>
      obtain ⟨hx, hxk⟩ := get?_eq_some_iff.mp hold
      rw [get?_eq_some_iff, update_rows h]
      refine ⟨List.mem_map.mpr ⟨x, hx, ?_⟩, hxk⟩
      rw [if_neg (by rw [hxk]; exact hk)]

-- ==== evolution

/-- The same keys, each reading a row related to the one before. -/
def Evolves (rel : ρ → ρ → Prop) (t t' : Table S) : Prop :=
  ∀ k, Option.Rel rel (t.get? k) (t'.get? k)

section Evolution

variable {rel : ρ → ρ → Prop} {t t' t'' : Table S}

theorem Evolves.refl (hrefl : ∀ r, rel r r) (t : Table S) : Evolves rel t t := by
  intro k
  cases t.get? k with
  | none => exact .none
  | some r => exact .some (hrefl r)

theorem Evolves.forward (h : Evolves rel t t') (hr : t.get? k = some r) :
    ∃ r', t'.get? k = some r' ∧ rel r r' := by
  have hk := h k
  rw [hr] at hk
  cases hk' : t'.get? k with
  | none =>
    rw [hk'] at hk
    cases hk
  | some r' =>
    rw [hk'] at hk
    cases hk with
    | some hrel => exact ⟨r', rfl, hrel⟩

theorem Evolves.backward (h : Evolves rel t t') {r' : ρ} (hr : t'.get? k = some r') :
    ∃ r, t.get? k = some r ∧ rel r r' := by
  have hk := h k
  rw [hr] at hk
  cases hk' : t.get? k with
  | none =>
    rw [hk'] at hk
    cases hk
  | some r =>
    rw [hk'] at hk
    cases hk with
    | some hrel => exact ⟨r, rfl, hrel⟩

theorem Evolves.trans (htrans : ∀ {a b c}, rel a b → rel b c → rel a c)
    (h : Evolves rel t t') (h' : Evolves rel t' t'') : Evolves rel t t'' := by
  intro k
  cases hk : t.get? k with
  | none =>
    cases hk'' : t''.get? k with
    | none => exact .none
    | some c =>
      obtain ⟨b, hb, -⟩ := h'.backward hk''
      obtain ⟨a, ha, -⟩ := h.backward hb
      rw [hk] at ha
      cases ha
  | some a =>
    obtain ⟨b, hb, hab⟩ := h.forward hk
    obtain ⟨c, hc, hbc⟩ := h'.forward hb
    rw [hc]
    exact .some (htrans hab hbc)

theorem Put.evolves (hrefl : ∀ r, rel r r) {r0 : ρ} (h : Put t r t')
    (hold : t.get? (S.key r) = some r0) (hrel : rel r0 r) : Evolves rel t t' := by
  intro k
  by_cases hk : k = S.key r
  · subst hk
    rw [hold, h.get?_self]
    exact .some hrel
  · rw [h.get?_ne hk]
    exact Evolves.refl hrefl t k

-- ==== growth

variable {live : ρ → Prop} {close : ρ → ρ → Prop}

/-- No row is lost, and each is related to the one it was. -/
def Grows (rel : ρ → ρ → Prop) (t t' : Table S) : Prop :=
  ∀ k r, t.get? k = some r → ∃ r', t'.get? k = some r' ∧ rel r r'

theorem Grows.refl (hrefl : ∀ r, rel r r) : Grows rel t t :=
  fun _ r hr => ⟨r, hr, hrefl r⟩

theorem Grows.trans (htrans : ∀ {a b c}, rel a b → rel b c → rel a c) (h : Grows rel t t')
    (h' : Grows rel t' t'') : Grows rel t t'' := by
  intro k r hr
  obtain ⟨r1, hr1, h1⟩ := h k r hr
  obtain ⟨r2, hr2, h2⟩ := h' k r1 hr1
  exact ⟨r2, hr2, htrans h1 h2⟩

theorem Put.joins (hrefl : ∀ r, rel r r) (h : Put t r t') (hfresh : t.get? (S.key r) = none) :
    Grows rel t t' :=
  fun _ s hs => ⟨s, h.get?_of_fresh hfresh hs, hrefl s⟩

theorem Evolves.grows (h : Evolves rel t t') : Grows rel t t' :=
  fun _ _ hr => h.forward hr

theorem Put.ages {r0 : ρ} (hrefl : ∀ r, rel r r) (h : Put t r t')
    (hold : t.get? (S.key r0) = some r0) (hkey : S.key r = S.key r0) (hrel : rel r0 r) :
    Grows rel t t' :=
  (h.evolves hrefl (hkey ▸ hold) hrel).grows

/-- A row stays as it is until it is closed, and then for good. -/
def ClosesOnce (live : ρ → Prop) (close : ρ → ρ → Prop) (r r' : ρ) : Prop :=
  r' = r ∨ (live r ∧ ¬ live r' ∧ close r r')

theorem ClosesOnce.refl (r : ρ) : ClosesOnce live close r r :=
  .inl rfl

theorem ClosesOnce.trans {a b c : ρ} (h : ClosesOnce live close a b)
    (h' : ClosesOnce live close b c) : ClosesOnce live close a c := by
  rcases h' with rfl | ⟨hlive, h'⟩
  · exact h
  · rcases h with rfl | ⟨-, hclosed, -⟩
    · exact .inr ⟨hlive, h'⟩
    · exact absurd hlive hclosed

end Evolution

-- ==== row lists

section RowLists

variable {t t' : Table S} {r : ρ}

omit [DecidableEq κ] in
theorem rows_nodup (t : Table S) : t.rows.Nodup :=
  t.keysNodup.of_map

theorem Put.rows_perm (h : Put t r t') (hfresh : t.get? (S.key r) = none) :
    t'.rows.Perm (r :: t.rows) := by
  have hnew : r ∉ t.rows := fun hr => get?_eq_none_iff.mp hfresh r hr rfl
  rw [List.perm_ext_iff_of_nodup t'.rows_nodup (List.nodup_cons.mpr ⟨hnew, t.rows_nodup⟩)]
  intro x
  rw [mem_rows_iff, List.mem_cons, mem_rows_iff]
  constructor
  · intro hx
    rcases h.cases hx with ⟨-, hx⟩ | ⟨-, hx⟩
    · exact .inl hx
    · exact .inr hx
  · rintro (rfl | hx)
    · exact h.get?_self
    · exact h.get?_of_fresh hfresh hx

/-- What related rows agree on, the tables agree on, up to order. -/
theorem Evolves.map_perm {β : Type} {rel : ρ → ρ → Prop} {p : ρ → Bool} {f : ρ → β}
    (h : Evolves rel t t') (hrel : ∀ a b, rel a b → p b = p a ∧ f b = f a) :
    ((t'.rows.filter p).map f).Perm ((t.rows.filter p).map f) := by
  -- rows of one key correspond, so compare the rows together with their keys
  have hnodup : ∀ u : Table S, ((u.rows.filter p).map fun x => (S.key x, f x)).Nodup := by
    intro u
    refine List.Nodup.of_map Prod.fst ?_
    rw [List.map_map]
    exact (List.Sublist.map S.key List.filter_sublist).nodup u.keysNodup
  have hkeyed : ((t'.rows.filter p).map fun x => (S.key x, f x)).Perm
      ((t.rows.filter p).map fun x => (S.key x, f x)) := by
    rw [List.perm_ext_iff_of_nodup (hnodup t') (hnodup t)]
    rintro ⟨k, b⟩
    simp only [List.mem_map, List.mem_filter, mem_rows_iff, Prod.mk.injEq]
    constructor
    · rintro ⟨x', ⟨hx', hp⟩, rfl, rfl⟩
      obtain ⟨x, hx, hrx⟩ := h.backward hx'
      have hkey := key_of_get? hx
      obtain ⟨hpx, hfx⟩ := hrel x x' hrx
      exact ⟨x, ⟨hkey ▸ hx, hpx ▸ hp⟩, hkey, hfx.symm⟩
    · rintro ⟨x, ⟨hx, hp⟩, rfl, rfl⟩
      obtain ⟨x', hx', hrx⟩ := h.forward hx
      have hkey := key_of_get? hx'
      obtain ⟨hpx, hfx⟩ := hrel x x' hrx
      exact ⟨x', ⟨hkey ▸ hx', hpx.trans hp⟩, hkey, hfx⟩
  have hsnd := hkeyed.map Prod.snd
  rwa [List.map_map, List.map_map] at hsnd

end RowLists

end Table

-- ==== ordered reads

section OrderedReads

variable {ρ : Type} (before : ρ → ρ → Prop) [DecidableRel before]

/-- `ORDER BY … LIMIT 1`: the first row in the given order. -/
def firstBy (rows : List ρ) : Option ρ := (rows.insertionSort before).head?

theorem firstBy_mem {rows : List ρ} {r : ρ} (h : firstBy before rows = some r) :
    r ∈ rows := by
  unfold firstBy at h
  exact (List.mem_insertionSort before).mp (List.mem_of_head? h)

theorem firstBy_eq_none {rows : List ρ} :
    firstBy before rows = none ↔ rows = [] := by
  unfold firstBy
  rw [List.head?_eq_none_iff]
  constructor
  · intro h
    have hlen := List.length_insertionSort before rows
    rw [h] at hlen
    exact List.length_eq_zero_iff.mp hlen.symm
  · rintro rfl
    rfl

theorem firstBy_of_mem {rows : List ρ} {r : ρ} (h : r ∈ rows) :
    ∃ s, firstBy before rows = some s := by
  cases hf : firstBy before rows with
  | some s => exact ⟨s, rfl⟩
  | none =>
    rw [firstBy_eq_none] at hf
    rw [hf] at h
    cases h

theorem firstBy_before [Std.Total before] [IsTrans ρ before] {rows : List ρ} {r s : ρ}
    (h : firstBy before rows = some r) (hs : s ∈ rows) : before r s := by
  unfold firstBy at h
  have hsorted := List.pairwise_insertionSort before rows
  have hmem := (List.mem_insertionSort before).mpr hs
  cases hrows : rows.insertionSort before with
  | nil => rw [hrows] at h; cases h
  | cons first rest =>
    rw [hrows] at h hsorted hmem
    obtain rfl := Option.some.inj h
    rcases List.mem_cons.mp hmem with rfl | hrest
    · exact (Std.Total.total s s).elim id id
    · exact List.rel_of_pairwise_cons hsorted hrest

end OrderedReads

end Relational
