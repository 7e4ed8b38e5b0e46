/-
When a retry time can be used (`application/retry.py`).

A retry time is after `now`, before the deadline, within the longest
delay and not earlier than the server asked. All but the first hold of
every time `next_attempt_at` returns.

# What goes wrong

The first is a matter of the shortest delay the jitter may draw: half a
microsecond or less is rounded to none, and `Command.transition` refuses
the time. And there may be no answer at all: the sum is formed before it
is compared with the deadline, and a server may ask for the longest delay
(`retry_after`), which need not end before the year 10000.
-/
import Mathlib.Tactic.Linarith
import ThreadsPlatform.Domain.Commands

namespace ThreadsPlatform

open Relational

-- ==== rounding

theorem floor_le_round (q : Rat) : ⌊q⌋ ≤ roundHalfEven q := by
  unfold roundHalfEven
  dsimp only
  change q.floor ≤ _
  split_ifs <;> omega

theorem le_round {q : Rat} {z : Int} (h : (z : Rat) ≤ q) : z ≤ roundHalfEven q :=
  (Int.le_floor.mpr h).trans (floor_le_round q)

theorem round_le {q : Rat} {z : Int} (h : q ≤ z) : roundHalfEven q ≤ z := by
  have hfloor : (q.floor : Rat) ≤ q := Int.floor_le q
  rcases lt_or_ge q.floor z with hlt | hge
  · unfold roundHalfEven
    dsimp only
    split_ifs <;> omega
  · -- then `q` is `z`
    have hcast : (z : Rat) ≤ q.floor := by exact_mod_cast hge
    have hz : q.floor = z := by
      have hle : (q.floor : Rat) ≤ z := hfloor.trans h
      exact_mod_cast le_antisymm hle hcast
    unfold roundHalfEven
    dsimp only
    rw [if_pos (by linarith), hz]

/-- A delay is rounded to none when it is half a microsecond at most. -/
theorem round_pos_iff {q : Rat} (h : 0 ≤ q) : 0 < roundHalfEven q ↔ 1 / 2 < q := by
  constructor
  · intro hpos
    by_contra hle
    have hfloor : q.floor = 0 := by
      refine Int.floor_eq_iff.mpr ⟨by exact_mod_cast h, ?_⟩
      push_cast
      linarith
    unfold roundHalfEven at hpos
    dsimp only at hpos
    rw [hfloor] at hpos
    split_ifs at hpos with hlt hgt
    · omega
    · push_cast at hgt
      linarith
    · omega
    · omega
  · intro hlt
    rcases le_or_gt 1 q with hge | hone
    · exact le_round (by exact_mod_cast hge)
    · have hfloor : q.floor = 0 := by
        refine Int.floor_eq_iff.mpr ⟨by exact_mod_cast h, ?_⟩
        push_cast
        linarith
      unfold roundHalfEven
      dsimp only
      rw [hfloor, if_neg (by push_cast; linarith), if_pos (by push_cast; linarith)]
      decide

-- ==== retry times

namespace RetryPolicy

variable {p : RetryPolicy} {n : Int} {now deadline t : Time} {retryAfter : Option Duration}
  {jitter : Rat → Rat → Rat}

/-- The delay before jitter. -/
def exponential (p : RetryPolicy) (n : Int) : Rat :=
  min (p.baseDelay * 2 ^ (min (n - 1) 30).toNat) p.maxDelay

/-- The shortest delay the jitter may draw. -/
def shortest (p : RetryPolicy) (n : Int) : Rat := p.exponential n * (1 - p.jitterRatio)

/-- The longest. -/
def longest (p : RetryPolicy) (n : Int) : Rat :=
  min p.maxDelay (p.exponential n * (1 + p.jitterRatio))

/-- A jitter source that keeps to its bounds. -/
def Within (jitter : Rat → Rat → Rat) : Prop := ∀ a b, a ≤ b → a ≤ jitter a b ∧ jitter a b ≤ b

/-- Every answer for the attempt is none or a time that can be used. -/
def Admissible (p : RetryPolicy) (n : Int) (now deadline : Time) : Prop :=
  ∀ retryAfter jitter, Within jitter →
    ∃ answer, p.nextAttemptAt n now deadline retryAfter jitter = .ok answer
      ∧ ∀ t, answer = some t → now < t ∧ t < deadline ∧ t ≤ now + p.maxDelay
        ∧ (∀ r, retryAfter = some r → now + r ≤ t)
        ∧ ∀ (c : Command) (code : Option String), c.status = .processing →
          (c.deadlineAt = none ∨ c.deadlineAt = some deadline) →
          ∃ c', c.transition .failedRetryable now code none (some t) = .ok c'

theorem exponential_nonneg : 0 ≤ p.exponential n := by
  have hbase : (0 : Rat) < p.baseDelay := by exact_mod_cast p.baseDelay_pos
  have hmax : (p.baseDelay : Rat) ≤ p.maxDelay := by exact_mod_cast p.baseDelay_le
  exact le_min (by positivity) (by linarith)

theorem shortest_nonneg : 0 ≤ p.shortest n :=
  mul_nonneg exponential_nonneg (by linarith [p.jitterRatio_le_one])

theorem shortest_le_longest : p.shortest n ≤ p.longest n := by
  have hnonneg := p.exponential_nonneg (n := n)
  have hratio := p.jitterRatio_nonneg
  have hlow : p.shortest n ≤ p.exponential n := by
    unfold shortest
    nlinarith
  refine le_min (hlow.trans (min_le_right _ _)) (hlow.trans ?_)
  nlinarith

/-- The delay, given what the jitter drew. -/
def delay (p : RetryPolicy) (retryAfter : Option Duration) (drawn : Rat) : Rat :=
  min (retryAfter.elim drawn fun r => max drawn r) p.maxDelay

/-- The time after the delay, which `datetime` may not hold. -/
def candidate (p : RetryPolicy) (n : Int) (now : Time) (retryAfter : Option Duration)
    (jitter : Rat → Rat → Rat) : Time :=
  now + roundHalfEven (p.delay retryAfter (jitter (p.shortest n) (p.longest n)))

/-- The answers, when an attempt is left. -/
theorem nextAttemptAt_eq (hn : 1 ≤ n) (hmore : ¬ p.maxAttempts ≤ n) :
    p.nextAttemptAt n now deadline retryAfter jitter =
      if retryAfter.any (fun r => decide (p.maxDelay < r)) then .ok none
      else if representable (p.candidate n now retryAfter jitter) = true then
        .ok (if deadline ≤ p.candidate n now retryAfter jitter then none
          else some (p.candidate n now retryAfter jitter))
      else .error .overflow := by
  unfold nextAttemptAt
  rw [show require (1 ≤ n) (Failure.value "attempt_number must be positive") = .ok () from
    require_eq_ok.mpr hn]
  change (if p.maxAttempts ≤ n then _ else _) = _
  rw [if_neg hmore]
  refine if_congr Iff.rfl rfl ?_
  change (require (representable (p.candidate n now retryAfter jitter) = true) _ >>= _) = _
  rw [require]
  split
  · exact (apply_ite Except.ok _ _ _).symm
  · rfl

theorem candidate_le : p.candidate n now retryAfter jitter ≤ now + p.maxDelay :=
  Int.add_le_add_left (round_le (min_le_right _ _)) now

/-- A delay is as long as the shortest. -/
theorem le_delay (retryAfter : Option Duration) {drawn : Rat} (hlow : p.shortest n ≤ drawn) :
    p.shortest n ≤ p.delay retryAfter drawn := by
  have hcap : p.shortest n ≤ p.maxDelay := shortest_le_longest.trans (min_le_left _ _)
  refine le_min ?_ hcap
  cases retryAfter with
  | none => exact hlow
  | some r => exact hlow.trans (le_max_left _ _)

theorem lt_candidate (hjitter : Within jitter) (hshort : 1 / 2 < p.shortest n) :
    now < p.candidate n now retryAfter jitter := by
  have hlow := (hjitter _ _ (p.shortest_le_longest (n := n))).1
  have hdelay := le_delay retryAfter hlow
  exact Int.lt_add_of_pos_right now ((round_pos_iff (shortest_nonneg.trans hdelay)).mpr
    (hshort.trans_le hdelay))

/-- A server that asks for a delay within the longest gets it. -/
theorem retryAfter_le_candidate {r : Duration} (hr : r ≤ p.maxDelay) :
    now + r ≤ p.candidate n now (some r) jitter :=
  Int.add_le_add_left (le_round (le_min (le_max_right _ _) (by exact_mod_cast hr))) now

/-- The source that draws the shortest delay brings the retry to `now`,
if that delay is rounded to none. -/
theorem candidate_shortest (hshort : ¬ 1 / 2 < p.shortest n) :
    p.candidate n now none (fun a _ => a) = now := by
  have hnonneg : 0 ≤ p.delay none (p.shortest n) :=
    (shortest_nonneg (n := n)).trans (le_delay none le_rfl)
  have hround : ¬ 0 < roundHalfEven (p.delay none (p.shortest n)) := by
    rw [round_pos_iff hnonneg]
    exact fun h => hshort (h.trans_le (min_le_left _ _))
  have hzero : roundHalfEven (p.delay none (p.shortest n)) = 0 :=
    le_antisymm (not_lt.mp hround) (le_round (by exact_mod_cast hnonneg))
  rw [candidate, hzero, add_zero]

theorem within_lower : Within fun a _ => a := fun a _ hab => ⟨le_refl a, hab⟩

/-- The times of an attempt can be used, whatever is drawn and asked for,
exactly when no attempt is left, or the shortest delay is over half a
microsecond and the longest ends in a year `datetime` has. -/
theorem retry_times_admissible (p : RetryPolicy) (n : Int) (now deadline : Time)
    (hnow : representable now = true) (hdeadline : now < deadline) :
    p.Admissible n now deadline ↔ 1 ≤ n ∧ (p.maxAttempts ≤ n
      ∨ 1 / 2 < p.shortest n ∧ representable (now + p.maxDelay) = true) := by
  constructor
  · intro h
    have hn : 1 ≤ n := by
      by_contra hlt
      obtain ⟨answer, hanswer, -⟩ := h none _ within_lower
      simp only [nextAttemptAt, steps_ok] at hanswer
      exact hlt hanswer.1
    refine ⟨hn, or_iff_not_imp_left.mpr fun hmore => ⟨?_, ?_⟩⟩
    · by_contra hshort
      obtain ⟨answer, hanswer, htimes⟩ := h none _ within_lower
      rw [nextAttemptAt_eq hn hmore, candidate_shortest hshort, if_neg (by simp), if_pos hnow,
        if_neg (not_le.mpr hdeadline)] at hanswer
      exact lt_irrefl now (htimes now (Except.ok.inj hanswer).symm).1
    · by_contra hover
      -- the server asks for the longest delay
      obtain ⟨answer, hanswer, -⟩ := h (some p.maxDelay) _ within_lower
      have hlongest : p.candidate n now (some p.maxDelay) (fun a _ => a) = now + p.maxDelay :=
        le_antisymm candidate_le (retryAfter_le_candidate le_rfl)
      rw [nextAttemptAt_eq hn hmore, hlongest, if_neg (by simp), if_neg hover] at hanswer
      cases hanswer
  · rintro ⟨hn, hcondition⟩ retryAfter jitter hjitter
    by_cases hmore : p.maxAttempts ≤ n
    case pos =>
      refine ⟨none, ?_, fun t ht => by cases ht⟩
      simp only [nextAttemptAt, steps_ok]
      exact ⟨hn, by rw [if_pos hmore]; rfl⟩
    obtain ⟨hshort, hlast⟩ := hcondition.resolve_left hmore
    have hfuture : now < p.candidate n now retryAfter jitter := lt_candidate hjitter hshort
    have hholds : representable (p.candidate n now retryAfter jitter) = true := by
      simp only [representable, checks_hold] at hnow hlast ⊢
      exact ⟨hnow.1.trans hfuture.le, candidate_le.trans hlast.2⟩
    rw [nextAttemptAt_eq hn hmore, if_pos hholds]
    split_ifs with hlong hlate
    · exact ⟨none, rfl, fun t ht => by cases ht⟩
    · exact ⟨none, rfl, fun t ht => by cases ht⟩
    refine ⟨_, rfl, fun t ht => ?_⟩
    cases ht
    refine ⟨hfuture, not_le.mp hlate, candidate_le, ?_, ?_⟩
    · intro r hr
      subst hr
      simp only [Option.any_some, decide_eq_true_eq, not_lt] at hlong
      exact retryAfter_le_candidate hlong
    · intro c code hprocessing hstored
      refine ⟨_, bind_eq_ok.mpr ⟨(), require_eq_ok.mpr (by rw [hprocessing]; rfl),
        bind_eq_ok.mpr ⟨(), require_eq_ok.mpr (fun h => by cases h),
        bind_eq_ok.mpr ⟨(), require_eq_ok.mpr fun _ => ?_,
        bind_eq_ok.mpr ⟨(), require_eq_ok.mpr fun _ => ?_, rfl⟩⟩⟩⟩⟩
      · rw [Option.any_some, decide_eq_true_eq]
        exact hfuture
      · rcases hstored with hnone | hsome
        · rw [hnone]
          rfl
        · rw [hsome, Option.all_some, Option.all_some, decide_eq_true_eq]
          exact not_le.mp hlate

theorem attempts_pos : (1 : Int) ≤ 5 := by decide

theorem delay_pos : (0 : Duration) < 1000000 := by decide

theorem delay_le : (1000000 : Duration) ≤ 120000000 := by decide

theorem ratio_nonneg : (0 : Rat) ≤ 1 / 5 := by decide +kernel

theorem ratio_le_one : (1 / 5 : Rat) ≤ 1 := by decide +kernel

theorem full_nonneg : (0 : Rat) ≤ 1 := by decide

theorem full_le_one : (1 : Rat) ≤ 1 := le_refl 1

/-- `RetryPolicy()`: the defaults. -/
def standard : RetryPolicy where
  maxAttempts := 5
  baseDelay := 1000000
  maxDelay := 120000000
  jitterRatio := 1 / 5
  maxAttempts_pos := attempts_pos
  baseDelay_pos := delay_pos
  baseDelay_le := delay_le
  jitterRatio_nonneg := ratio_nonneg
  jitterRatio_le_one := ratio_le_one

/-- With the defaults, a first retry in the year 1970 can be used. -/
theorem retry_times_admissible_standard : standard.Admissible 1 0 3600000000 :=
  (retry_times_admissible standard 1 0 3600000000 (by decide) (by decide)).mpr
    ⟨by decide, .inr ⟨by decide +kernel, by decide⟩⟩

/-- Full jitter: the constructor takes the ratio 1. -/
def fullJitter : RetryPolicy :=
  { standard with
    jitterRatio := 1
    jitterRatio_nonneg := full_nonneg
    jitterRatio_le_one := full_le_one }

/-- The time returned is `now`, and the transition raises. -/
theorem full_jitter_retries_now :
    fullJitter.nextAttemptAt 1 0 3600000000 none (fun a _ => a) = .ok (some 0)
      ∧ ¬ fullJitter.Admissible 1 0 3600000000 := by
  have hanswers : fullJitter.nextAttemptAt 1 0 3600000000 none (fun a _ => a) = .ok (some 0) := by
    decide +kernel
  refine ⟨hanswers, fun h => ?_⟩
  obtain ⟨answer, hanswer, htimes⟩ := h none _ within_lower
  rw [hanswers] at hanswer
  exact absurd (htimes 0 (Except.ok.inj hanswer).symm).1 (by decide)

end RetryPolicy

end ThreadsPlatform
