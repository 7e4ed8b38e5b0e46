/-
Anchored grids: the instants `anchor + k * interval`.

`next` is the first instant of a grid strictly after a time, the anchor
itself being the first of all. A schedule that moves its due time only
by `next` stays on its grid, never goes back, and never repeats an
instant; the lemmas are what such a proof needs.
-/
import Mathlib.Tactic.Ring
import Mathlib.Data.Int.DivMod
import Mathlib.Tactic.Linarith

namespace Timing

variable {anchor interval s t x : Int}

/-- `x` is an instant of the grid, the `k`th or a later one. -/
def OnGrid (anchor interval k x : Int) : Prop :=
  ∃ n, k ≤ n ∧ x = anchor + n * interval

/-- The first instant strictly after `t`. -/
def next (anchor interval t : Int) : Int :=
  if anchor ≤ t then anchor + ((t - anchor) / interval + 1) * interval else anchor

theorem next_of_le (h : anchor ≤ t) :
    next anchor interval t = anchor + ((t - anchor) / interval + 1) * interval :=
  if_pos h

theorem lt_next (hpos : 0 < interval) (t : Int) : t < next anchor interval t := by
  unfold next
  split
  · have hlt := Int.lt_ediv_add_one_mul_self (t - anchor) hpos
    omega
  case isFalse h => omega

/-- From the anchor on, the next instant is one after the anchor. -/
theorem next_onGrid (hpos : 0 < interval) (h : anchor ≤ t) :
    OnGrid anchor interval 1 (next anchor interval t) := by
  refine ⟨(t - anchor) / interval + 1, ?_, next_of_le h⟩
  have hnonneg := Int.ediv_nonneg (Int.sub_nonneg.mpr h) hpos.le
  omega

theorem next_le (hpos : 0 < interval) (hx : OnGrid anchor interval 0 x) (h : t < x) :
    next anchor interval t ≤ x := by
  obtain ⟨n, hn, rfl⟩ := hx
  unfold next
  split
  case isTrue hle =>
    have hlt : (t - anchor) / interval < n := by
      rw [Int.ediv_lt_iff_lt_mul hpos]
      omega
    have hmul : ((t - anchor) / interval + 1) * interval ≤ n * interval :=
      Int.mul_le_mul_of_nonneg_right hlt hpos.le
    omega
  · have := Int.mul_nonneg hn hpos.le
    omega

theorem OnGrid.weaken {j k : Int} (hx : OnGrid anchor interval k x) (h : j ≤ k) :
    OnGrid anchor interval j x := by
  obtain ⟨n, hn, rfl⟩ := hx
  exact ⟨n, h.trans hn, rfl⟩

theorem next_mono (hpos : 0 < interval) (h : s ≤ t) :
    next anchor interval s ≤ next anchor interval t := by
  by_cases ht : anchor ≤ t
  · exact next_le hpos ((next_onGrid hpos ht).weaken (by decide))
      (lt_of_le_of_lt h (lt_next hpos t))
  · have hs : ¬ anchor ≤ s := fun hs => ht (hs.trans h)
    rw [next, next, if_neg hs, if_neg ht]

/-- An instant after the anchor is after it by at least an interval, and
divides evenly. -/
theorem onGrid_one_iff (hpos : 0 < interval) :
    OnGrid anchor interval 1 x ↔ 0 < x - anchor ∧ (x - anchor) % interval = 0 := by
  constructor
  · rintro ⟨n, hn, rfl⟩
    have hoffset : anchor + n * interval - anchor = n * interval := by omega
    rw [hoffset]
    exact ⟨Int.mul_pos (by omega) hpos, Int.mul_emod_left n interval⟩
  · rintro ⟨hlt, hmod⟩
    obtain ⟨n, hn⟩ := Int.dvd_of_emod_eq_zero hmod
    refine ⟨n, ?_, by rw [Int.mul_comm] at hn; omega⟩
    rw [hn] at hlt
    by_contra hle
    have := Int.mul_nonpos_of_nonneg_of_nonpos hpos.le (show n ≤ 0 by omega)
    omega

end Timing
