/-
API execution of a Command is exclusive and bounded.

A Command goes to PROCESSING with a new attempt and leaves it with that
attempt closed; nothing else opens or closes one. So PROCESSING and the
one open attempt go together, and since a new attempt takes the next
number, the attempts of a Command are numbered as they are counted.

# The bound

The attempts are compared with `max_attempts` where a lapsed execution
is taken over and where a failed one is retried, not where a waiting
Command is routed again. What carries the bound is therefore not the
check but that a Command which is neither over nor PROCESSING always has
an attempt left (`Attempted.more`): the two checks are on the only ways
from PROCESSING back to waiting.

# The claim

A claim knows its attempt, and attempts differ in their numbers; so the
number decides who may finish. A checkpoint or a heartbeat does not look
at the number, only at the token: that a closed attempt's claim fails
there rests on tokens being drawn anew (`DrawsNewToken`).
-/
import ThreadsPlatform.Application.Runs
import ThreadsPlatform.Effects.Refinement

namespace ThreadsPlatform

open Relational Table CommandRuntime

variable {cfg : Settings} {call : Call} {s s' s0 : State} {now : Time} {c c' : Command}
  {a : CommandAttempt} {κ : ExecutionClaim} {C C' : Table commands} {CA CA' : Table commandAttempts}
  {K : List ExecutionClaim} {a1 a₂ : CommandAttempt} {l : List Int} {commandId : String}
  {L : Table accountExecutionLeases} {D : Table integrationDeliveries} {O : Table outboxEvents}

-- ==== numbering

/-- The numbers `1, 2, …, n`. -/
def upTo (n : Nat) : List Int := (List.range n).map fun i : Nat => (i : Int) + 1

theorem mem_upTo {n : Nat} {x : Int} : x ∈ upTo n ↔ 1 ≤ x ∧ x ≤ n := by
  simp only [upTo, List.mem_map, List.mem_range]
  constructor
  · rintro ⟨i, hi, rfl⟩
    omega
  · rintro ⟨hlo, hhi⟩
    exact ⟨(x - 1).toNat, by omega, by omega⟩

theorem upTo_succ (n : Nat) : upTo (n + 1) = upTo n ++ [(n : Int) + 1] := by
  simp [upTo, List.range_succ]

/-- The list is `1, 2, …, n` in some order. -/
def Numbered (l : List Int) : Prop :=
  l.Perm (upTo l.length)

theorem Numbered.next (h : Numbered l) : Numbered (((l.length : Int) + 1) :: l) := by
  unfold Numbered
  rw [List.length_cons, upTo_succ]
  exact (h.cons _).trans (List.perm_append_singleton _ _).symm

theorem Numbered.perm {l' : List Int} (h : Numbered l) (hperm : l'.Perm l) : Numbered l' := by
  unfold Numbered
  rw [hperm.length_eq]
  exact hperm.trans h

/-- The attempts of a Command. -/
def attemptsOf (CA : Table commandAttempts) (commandId : String) : List CommandAttempt :=
  CA.rows.filter fun a => decide (a.commandId = commandId)

/-- How many there are. -/
def countOf (CA : Table commandAttempts) (commandId : String) : Int :=
  (attemptsOf CA commandId).length

/-- Their numbers. -/
def numbersOf (CA : Table commandAttempts) (commandId : String) : List Int :=
  (attemptsOf CA commandId).map (·.attemptNumber)

theorem mem_attemptsOf :
    a ∈ attemptsOf CA commandId ↔ CA.get? a.id = some a ∧ a.commandId = commandId := by
  have hrows : a ∈ CA.rows ↔ CA.get? a.id = some a := mem_rows_iff
  rw [attemptsOf, List.mem_filter, decide_eq_true_eq, hrows]

/-- Attempts of one Command with one number are one attempt. -/
theorem attempt_unique (h1 : CA.get? a1.id = some a1) (h2 : CA.get? a₂.id = some a₂)
    (hcommand : a1.commandId = a₂.commandId) (hnumber : a1.attemptNumber = a₂.attemptNumber) :
    a1 = a₂ := by
  by_cases hid : a1.id = a₂.id
  · rw [hid, h2] at h1
    exact Option.some.inj h1.symm
  · have hclash := clash_of_get? h1 h2 hid
    simp [commandAttempts, hcommand, hnumber] at hclash

-- ==== closing attempts

/-- What closing an attempt keeps. -/
structure CommandAttempt.Ends (a a' : CommandAttempt) : Prop where
  id : a'.id = a.id
  commandId : a'.commandId = a.commandId
  attemptNumber : a'.attemptNumber = a.attemptNumber
  processing : a'.status = .processing → a.status = .processing

theorem CommandAttempt.Ends.refl (a : CommandAttempt) : a.Ends a := ⟨rfl, rfl, rfl, fun h => h⟩

theorem numbersOf_evolves (h : Evolves CommandAttempt.Ends CA CA') (commandId : String) :
    (numbersOf CA' commandId).Perm (numbersOf CA commandId) := by
  refine h.map_perm fun a b hends => ?_
  rw [hends.commandId]
  exact ⟨rfl, hends.attemptNumber⟩

theorem countOf_eq_length (commandId : String) :
    countOf CA commandId = (numbersOf CA commandId).length := by
  rw [numbersOf, List.length_map]
  rfl

theorem countOf_evolves (h : Evolves CommandAttempt.Ends CA CA') (commandId : String) :
    countOf CA' commandId = countOf CA commandId := by
  rw [countOf_eq_length, countOf_eq_length, (numbersOf_evolves h commandId).length_eq]

theorem numbersOf_put (hput : Put CA a CA') (hfresh : CA.get? a.id = none) (commandId : String) :
    (numbersOf CA' commandId).Perm (if a.commandId = commandId
      then a.attemptNumber :: numbersOf CA commandId else numbersOf CA commandId) := by
  have hperm := ((hput.rows_perm hfresh).filter
    fun a => decide (a.commandId = commandId)).map (·.attemptNumber)
  by_cases hcommand : a.commandId = commandId
  · rw [if_pos hcommand]
    rw [List.filter_cons_of_pos (by simpa using hcommand)] at hperm
    exact hperm
  · rw [if_neg hcommand]
    rw [List.filter_cons_of_neg (by simpa using hcommand)] at hperm
    exact hperm

theorem countOf_put (hput : Put CA a CA') (hfresh : CA.get? a.id = none) (commandId : String) :
    countOf CA' commandId = countOf CA commandId + if a.commandId = commandId then 1 else 0 := by
  rw [countOf_eq_length, countOf_eq_length, (numbersOf_put hput hfresh commandId).length_eq]
  split
  · simp
  · simp

/-- `CA'` is `CA` with the attempts of one Command closed. -/
structure Closes (commandId : String) (CA CA' : Table commandAttempts) : Prop where
  evolves : Evolves CommandAttempt.Ends CA CA'
  idle : ∀ a, CA'.get? a.id = some a → a.commandId = commandId → a.status ≠ .processing
  others : ∀ a, CA.get? a.id = some a → a.commandId ≠ commandId → CA'.get? a.id = some a

-- ==== the invariants

/-- The attempts of the Commands: numbered, within the bound, one open
exactly where the Command is PROCESSING. -/
structure Attempted (cfg : Settings) (C : Table commands) (CA : Table commandAttempts) :
    Prop where
  numbered : ∀ commandId, Numbered (numbersOf CA commandId)
  started : ∀ a, CA.get? a.id = some a → ∃ c, C.get? a.commandId = some c
  latest : ∀ a, CA.get? a.id = some a → a.status = .processing →
    a.attemptNumber = countOf CA a.commandId
  running : ∀ a c, CA.get? a.id = some a → a.status = .processing →
    C.get? a.commandId = some c → c.status = .processing
  processing : ∀ c, C.get? c.commandId = some c → c.status = .processing →
    ∃ a, CA.get? a.id = some a ∧ a.commandId = c.commandId ∧ a.status = .processing
  bounded : ∀ c, C.get? c.commandId = some c →
    countOf CA c.commandId ≤ cfg.retryPolicy.maxAttempts
  more : ∀ c, C.get? c.commandId = some c → c.status ≠ .processing →
    c.status.terminal = false → countOf CA c.commandId < cfg.retryPolicy.maxAttempts

/-- Every claim is for an attempt of its own. -/
structure ClaimsAgree (CA : Table commandAttempts) (K : List ExecutionClaim) : Prop where
  attempt : ∀ κ ∈ K, ∃ a, CA.get? κ.attemptId = some a ∧ a.commandId = κ.commandId
    ∧ a.attemptNumber = κ.attemptNumber
  distinct : ∀ κ ∈ K, ∀ κ' ∈ K, κ.commandId = κ'.commandId →
    κ.attemptNumber = κ'.attemptNumber → κ = κ'

/-- A PROCESSING Command carries the token of the claim of its open
attempt. -/
def TokensCurrent (C : Table commands) (CA : Table commandAttempts) (K : List ExecutionClaim) :
    Prop :=
  ∀ c, C.get? c.commandId = some c → c.status = .processing →
    ∃ κ ∈ K, κ.commandId = c.commandId ∧ c.executionLeaseToken = some κ.leaseToken
      ∧ ∃ a, CA.get? κ.attemptId = some a ∧ a.status = .processing

structure ExecutionAgree (cfg : Settings) (s : State) : Prop where
  attempted : Attempted cfg s.commands s.commandAttempts
  claims : ClaimsAgree s.commandAttempts s.claims
  current : TokensCurrent s.commands s.commandAttempts s.claims

theorem ExecutionAgree.initial (W : Surroundings) : ExecutionAgree cfg (.initial W) := by
  refine ⟨⟨fun _ => .refl _, ?_, ?_, ?_, ?_, ?_, ?_⟩, ⟨?_, ?_⟩, ?_⟩
  · intro a ha
    cases ha
  · intro a ha
    cases ha
  · intro a c ha
    cases ha
  · intro c hc
    cases hc
  · intro c hc
    cases hc
  · intro c hc
    cases hc
  · intro κ hκ
    cases hκ
  · intro κ hκ
    cases hκ
  · intro c hc
    cases hc

-- ---- what a close leaves

/-- Closing the execution of a Command closes its only open attempt. -/
theorem Attempted.closes (h : Attempted cfg s.commands s.commandAttempts)
    (hc : s.commands.get? c.commandId = some c) (hclosed : ExecutionClosed now s c CA) :
    Closes c.commandId s.commandAttempts CA := by
  rcases hclosed with ⟨hidle, rfl⟩ | ⟨hprocessing, a, outcome, code, ha, houtcome, hput⟩
  · refine ⟨.refl CommandAttempt.Ends.refl _, fun a ha hid hopen => hidle ?_, fun a ha _ => ha⟩
    exact h.running a c ha hopen (hid ▸ hc)
  · have hmem := firstBy_mem _ ha
    simp only [List.mem_filter, checks_hold] at hmem
    obtain ⟨hrow, hcommand, hopen⟩ := hmem
    have hstored : s.commandAttempts.get? a.id = some a := mem_rows_iff.mp hrow
    refine ⟨hput.evolves CommandAttempt.Ends.refl hstored
      ⟨rfl, rfl, rfl, fun hp => absurd hp houtcome⟩, ?_, ?_⟩
    · intro a₂ ha2 hid hopen2
      rcases hput.cases ha2 with ⟨-, rfl⟩ | ⟨hne, ha2⟩
      · exact houtcome hopen2
      · -- both are the latest
        have hsame : a₂ = a := attempt_unique ha2 hstored (hid.trans hcommand.symm) (by
          rw [h.latest a₂ ha2 hopen2, h.latest a hstored hopen, hid, hcommand])
        subst hsame
        exact hne rfl
    · intro a₂ ha2 hother
      refine (hput.get?_ne fun hid => ?_).trans ha2
      have hid : a₂.id = a.id := hid
      rw [hid, hstored] at ha2
      exact hother (Option.some.inj ha2 ▸ hcommand)

theorem ClaimsAgree.evolves (h : ClaimsAgree CA K) (hends : Evolves CommandAttempt.Ends CA CA') :
    ClaimsAgree CA' K := by
  refine ⟨fun κ hκ => ?_, h.distinct⟩
  obtain ⟨a, ha, hcommand, hnumber⟩ := h.attempt κ hκ
  obtain ⟨a', ha', hend⟩ := hends.forward ha
  exact ⟨a', ha', hend.commandId.trans hcommand, hend.attemptNumber.trans hnumber⟩

-- ---- a Command that changes

/-- A Command is written in place of one that was PROCESSING exactly if
it is, with the attempts left alone. -/
theorem Attempted.commandPut (h : Attempted cfg C CA) (hc : C.get? c.commandId = some c)
    (hid : c'.commandId = c.commandId) (hput : Put C c' C')
    (hprocessing : c'.status = .processing ↔ c.status = .processing)
    (hopen : c'.status.terminal = false → c.status.terminal = false) : Attempted cfg C' CA := by
  -- a Command read afterwards was stored before, with the same status
  -- as far as the attempts are concerned
  have hold : ∀ {k c2}, C'.get? k = some c2 → ∃ c1, C.get? k = some c1
      ∧ c1.commandId = c2.commandId ∧ (c2.status = .processing ↔ c1.status = .processing)
      ∧ (c2.status.terminal = false → c1.status.terminal = false) := by
    intro k c2 hc2
    rcases hput.cases hc2 with ⟨hk, rfl⟩ | ⟨-, hc2⟩
    · rw [show k = c.commandId from hk.trans hid]
      exact ⟨c, hc, hid.symm, hprocessing, hopen⟩
    · exact ⟨c2, hc2, rfl, Iff.rfl, fun h => h⟩
  refine ⟨h.numbered, ?_, h.latest, ?_, ?_, ?_, ?_⟩
  · intro a ha
    obtain ⟨c1, hc1⟩ := h.started a ha
    by_cases hk : a.commandId = commands.key c'
    · exact ⟨c', hk ▸ hput.get?_self⟩
    · exact ⟨c1, (hput.get?_ne hk).trans hc1⟩
  · intro a c2 ha hrun hc2
    obtain ⟨c1, hc1, -, hiff, -⟩ := hold hc2
    exact hiff.mpr (h.running a c1 ha hrun hc1)
  · intro c2 hc2 hp
    obtain ⟨c1, hc1, hsame, hiff, -⟩ := hold hc2
    rw [← hsame] at hc1 ⊢
    exact h.processing c1 hc1 (hiff.mp hp)
  · intro c2 hc2
    obtain ⟨c1, hc1, hsame, -, -⟩ := hold hc2
    rw [← hsame] at hc1 ⊢
    exact h.bounded c1 hc1
  · intro c2 hc2 hne hterminal
    obtain ⟨c1, hc1, hsame, hiff, hkeep⟩ := hold hc2
    rw [← hsame] at hc1 ⊢
    exact h.more c1 hc1 (fun hp => hne (hiff.mpr hp)) (hkeep hterminal)

theorem TokensCurrent.commandPut (h : TokensCurrent C CA K) (hput : Put C c' C')
    (hprocessing : c'.status = .processing → ∃ κ ∈ K, κ.commandId = c'.commandId
      ∧ c'.executionLeaseToken = some κ.leaseToken
      ∧ ∃ a, CA.get? κ.attemptId = some a ∧ a.status = .processing) :
    TokensCurrent C' CA K := by
  intro c2 hc2 hp
  rcases hput.cases hc2 with ⟨-, rfl⟩ | ⟨-, hc2⟩
  · exact hprocessing hp
  · exact h c2 hc2 hp

-- ---- the effects

theorem ExecutionAgree.commandAdded (h : ExecutionAgree cfg s)
    (hadd : CommandAdded call s c C O D) :
    Attempted cfg C s.commandAttempts ∧ TokensCurrent C s.commandAttempts s.claims := by
  have hidle : c.status ≠ .processing := by
    rcases hadd.status with hst | hst | hst <;> rw [hst] <;> decide
  -- a Command that was not there has no attempt
  have hnone : countOf s.commandAttempts c.commandId = 0 := by
    rw [countOf, Int.natCast_eq_zero, List.length_eq_zero_iff, List.eq_nil_iff_forall_not_mem]
    intro a ha
    obtain ⟨ha, hid⟩ := mem_attemptsOf.mp ha
    obtain ⟨c2, hc2⟩ := h.attempted.started a ha
    rw [hid, hadd.fresh] at hc2
    cases hc2
  have hmax := cfg.retryPolicy.maxAttempts_pos
  have hagree := h.attempted
  refine ⟨⟨hagree.numbered, ?_, hagree.latest, ?_, ?_, ?_, ?_⟩,
    h.current.commandPut hadd.put fun hp => absurd hp hidle⟩
  · intro a ha
    obtain ⟨c2, hc2⟩ := hagree.started a ha
    exact ⟨c2, hadd.put.get?_of_fresh hadd.fresh hc2⟩
  · intro a c2 ha hrun hc2
    rcases hadd.put.cases hc2 with ⟨hk, -⟩ | ⟨-, hc2⟩
    · obtain ⟨c3, hc3⟩ := hagree.started a ha
      rw [hk, show commands.key c = c.commandId from rfl, hadd.fresh] at hc3
      cases hc3
    · exact hagree.running a c2 ha hrun hc2
  · intro c2 hc2 hp
    rcases hadd.put.cases hc2 with ⟨-, rfl⟩ | ⟨-, hc2⟩
    · exact absurd hp hidle
    · exact hagree.processing c2 hc2 hp
  · intro c2 hc2
    rcases hadd.put.cases hc2 with ⟨-, rfl⟩ | ⟨-, hc2⟩
    · omega
    · exact hagree.bounded c2 hc2
  · intro c2 hc2 hne hterminal
    rcases hadd.put.cases hc2 with ⟨-, rfl⟩ | ⟨-, hc2⟩
    · omega
    · exact hagree.more c2 hc2 hne hterminal

/-- A Command that is in no execution is written, and is in none
afterwards. -/
theorem ExecutionAgree.idlePut {O' : Table outboxEvents} {D' : Table integrationDeliveries}
    (h : ExecutionAgree cfg s) (hput : CommandPut c c' s.commands O D C O' D')
    (hidle : c.status ≠ .processing) (hidle' : c'.status ≠ .processing) :
    Attempted cfg C s.commandAttempts ∧ TokensCurrent C s.commandAttempts s.claims :=
  ⟨h.attempted.commandPut hput.stored hput.same.commandId hput.put
      ⟨fun hp => absurd hp hidle', fun hp => absurd hp hidle⟩ fun _ => hput.unfinished,
    h.current.commandPut hput.put fun hp => absurd hp hidle'⟩

/-- A job's Command follows it from one wait to another, or to an end. -/
theorem ExecutionAgree.follows {j : WorkerJob} {status : WorkerJobStatus} (h : ExecutionAgree cfg s)
    (hfollows : CommandFollows s j status C O D) :
    Attempted cfg C s.commandAttempts ∧ TokensCurrent C s.commandAttempts s.claims := by
  rcases hfollows with ⟨-, rfl, -, -⟩ | ⟨c, -, -, hwaits, ⟨-, rfl, -, -⟩ | ⟨c', hput, hstatus⟩⟩
  · exact ⟨h.attempted, h.current⟩
  · exact ⟨h.attempted, h.current⟩
  · refine h.idlePut hput ?_ ?_
    · rcases hwaits with hst | hst <;> rw [hst] <;> decide
    · rw [hstatus]
      cases status <;> decide

/-- The Command moves, and its execution, if it was in one, is closed. -/
theorem Attempted.moved (h : Attempted cfg C CA) (hc : C.get? c.commandId = some c)
    (hid : c'.commandId = c.commandId) (hput : Put C c' C')
    (hcloses : Closes c.commandId CA CA') (hidle : c'.status ≠ .processing)
    (hmore : c'.status.terminal = false →
      countOf CA c.commandId < cfg.retryPolicy.maxAttempts) : Attempted cfg C' CA' := by
  have hkey : commands.key c' = c.commandId := hid
  have hcount := countOf_evolves hcloses.evolves
  refine ⟨fun id => (h.numbered id).perm (numbersOf_evolves hcloses.evolves id), ?_, ?_, ?_, ?_,
    ?_, ?_⟩
  · intro a ha
    obtain ⟨a0, ha0, hends⟩ := hcloses.evolves.backward ha
    have hkey0 : a0.id = a.id := key_of_get? ha0
    obtain ⟨c1, hc1⟩ := h.started a0 (hkey0 ▸ ha0)
    rw [hends.commandId]
    by_cases hk : a0.commandId = commands.key c'
    · exact ⟨c', hk ▸ hput.get?_self⟩
    · exact ⟨c1, (hput.get?_ne hk).trans hc1⟩
  · intro a ha hrun
    obtain ⟨a0, ha0, hends⟩ := hcloses.evolves.backward ha
    have hkey0 : a0.id = a.id := key_of_get? ha0
    rw [hends.attemptNumber, hends.commandId, hcount]
    exact h.latest a0 (hkey0 ▸ ha0) (hends.processing hrun)
  · intro a c2 ha hrun hc2
    obtain ⟨a0, ha0, hends⟩ := hcloses.evolves.backward ha
    have hkey0 : a0.id = a.id := key_of_get? ha0
    rcases hput.cases hc2 with ⟨hk, -⟩ | ⟨-, hc2⟩
    · exact absurd hrun (hcloses.idle a ha (hk.trans hkey))
    · exact h.running a0 c2 (hkey0 ▸ ha0) (hends.processing hrun) (hends.commandId ▸ hc2)
  · intro c2 hc2 hp
    rcases hput.cases hc2 with ⟨-, rfl⟩ | ⟨hne, hc2⟩
    · exact absurd hp hidle
    · obtain ⟨a, ha, hcommand, hrun⟩ := h.processing c2 hc2 hp
      exact ⟨a, hcloses.others a ha (hcommand ▸ hkey ▸ hne), hcommand, hrun⟩
  · intro c2 hc2
    rw [hcount]
    rcases hput.cases hc2 with ⟨-, rfl⟩ | ⟨-, hc2⟩
    · rw [hid]
      exact h.bounded c hc
    · exact h.bounded c2 hc2
  · intro c2 hc2 hne hterminal
    rw [hcount]
    rcases hput.cases hc2 with ⟨-, rfl⟩ | ⟨-, hc2⟩
    · rw [hid]
      exact hmore hterminal
    · exact h.more c2 hc2 hne hterminal

/-- The Command is taken into a new execution, under the next number. -/
theorem Attempted.claimed {CA1 : Table commandAttempts} (h : Attempted cfg C CA)
    (hid : c'.commandId = c.commandId) (hput : Put C c' C')
    (hcloses : Closes c.commandId CA CA1) (hfresh : CA1.get? a.id = none)
    (hCA : Put CA1 a CA') (hcommand : a.commandId = c.commandId)
    (hnumber : a.attemptNumber = countOf CA c.commandId + 1) (hopen : a.status = .processing)
    (hprocessing : c'.status = .processing)
    (hmore : countOf CA c.commandId < cfg.retryPolicy.maxAttempts) : Attempted cfg C' CA' := by
  have hkey : commands.key c' = c.commandId := hid
  have hcount : ∀ id, countOf CA' id = countOf CA id + if a.commandId = id then 1 else 0 := by
    intro id
    rw [countOf_put hCA hfresh, countOf_evolves hcloses.evolves]
  have hself : countOf CA' c.commandId = countOf CA c.commandId + 1 := by
    rw [hcount, if_pos hcommand]
  have hother : ∀ id, id ≠ c.commandId → countOf CA' id = countOf CA id := by
    intro id hne
    rw [hcount, if_neg fun heq => hne (heq.symm.trans hcommand), Int.add_zero]
  -- an open attempt is the new one, or one of another Command
  have hrunning : ∀ {a₂}, CA'.get? a₂.id = some a₂ → a₂.status = .processing → a₂ = a
      ∨ (a₂.commandId ≠ c.commandId ∧ ∃ a0, CA.get? a0.id = some a0
        ∧ a₂.commandId = a0.commandId ∧ a₂.attemptNumber = a0.attemptNumber
        ∧ a0.status = .processing) := by
    intro a₂ ha2 hrun
    rcases hCA.cases ha2 with ⟨-, hnew⟩ | ⟨-, ha2⟩
    · exact .inl hnew
    · obtain ⟨a0, ha0, hends⟩ := hcloses.evolves.backward ha2
      have hkey0 : a0.id = a₂.id := key_of_get? ha0
      exact .inr ⟨fun heq => hcloses.idle a₂ ha2 heq hrun, a0, hkey0 ▸ ha0,
        hends.commandId, hends.attemptNumber, hends.processing hrun⟩
  refine ⟨?_, ?_, ?_, ?_, ?_, ?_, ?_⟩
  · intro id
    refine Numbered.perm ?_ (numbersOf_put hCA hfresh id)
    have hnumbered := (h.numbered id).perm (numbersOf_evolves hcloses.evolves id)
    by_cases heq : a.commandId = id
    · rw [if_pos heq, hnumber, ← hcommand, heq, ← countOf_evolves hcloses.evolves,
        countOf_eq_length]
      exact hnumbered.next
    · rw [if_neg heq]
      exact hnumbered
  · intro a₂ ha2
    by_cases heq : a₂.commandId = commands.key c'
    · exact ⟨c', heq ▸ hput.get?_self⟩
    · rw [hput.get?_ne heq]
      rcases hCA.cases ha2 with ⟨-, rfl⟩ | ⟨-, ha2⟩
      · exact absurd (hcommand.trans hkey.symm) heq
      · obtain ⟨a0, ha0, hends⟩ := hcloses.evolves.backward ha2
        have hkey0 : a0.id = a₂.id := key_of_get? ha0
        rw [hends.commandId]
        exact h.started a0 (hkey0 ▸ ha0)
  · intro a₂ ha2 hrun
    rcases hrunning ha2 hrun with rfl | ⟨hne, a0, ha0, hsame, hnumber2, hrun0⟩
    · rw [hcommand, hself, hnumber]
    · rw [hother _ hne, hsame, hnumber2]
      exact h.latest a0 ha0 hrun0
  · intro a₂ c2 ha2 hrun hc2
    rcases hput.cases hc2 with ⟨-, rfl⟩ | ⟨hne, hc2⟩
    · exact hprocessing
    · rcases hrunning ha2 hrun with rfl | ⟨-, a0, ha0, hsame, -, hrun0⟩
      · exact absurd (hcommand.trans hkey.symm) hne
      · exact h.running a0 c2 ha0 hrun0 (hsame ▸ hc2)
  · intro c2 hc2 hp
    rcases hput.cases hc2 with ⟨hk, rfl⟩ | ⟨hne, hc2⟩
    · exact ⟨a, hCA.get?_self, hcommand.trans hid.symm, hopen⟩
    · obtain ⟨a₂, ha2, hcommand2, hrun⟩ := h.processing c2 hc2 hp
      have hne2 : a₂.commandId ≠ c.commandId := hcommand2 ▸ hkey ▸ hne
      exact ⟨a₂, hCA.get?_of_fresh hfresh (hcloses.others a₂ ha2 hne2), hcommand2, hrun⟩
  · intro c2 hc2
    rcases hput.cases hc2 with ⟨-, rfl⟩ | ⟨hne, hc2⟩
    · rw [hid, hself]
      omega
    · rw [hother _ (hkey ▸ hne)]
      exact h.bounded c2 hc2
  · intro c2 hc2 hidle hterminal
    rcases hput.cases hc2 with ⟨-, rfl⟩ | ⟨hne, hc2⟩
    · exact absurd hprocessing hidle
    · rw [hother _ (hkey ▸ hne)]
      exact h.more c2 hc2 hidle hterminal

theorem ClaimsAgree.claimed (h : ClaimsAgree CA K) (hfresh : CA.get? a.id = none)
    (hCA : Put CA a CA') (hid : κ.attemptId = a.id) (hcommand : κ.commandId = a.commandId)
    (hnumber : κ.attemptNumber = a.attemptNumber) : ClaimsAgree CA' (κ :: K) := by
  have hstored : CA'.get? κ.attemptId = some a := hid ▸ hCA.get?_self
  have hold : ∀ κ2 ∈ K, ∃ a₂, CA'.get? κ2.attemptId = some a₂ ∧ a₂.commandId = κ2.commandId
      ∧ a₂.attemptNumber = κ2.attemptNumber := by
    intro κ2 hκ₂
    obtain ⟨a₂, ha2, hrest⟩ := h.attempt κ2 hκ₂
    exact ⟨a₂, hCA.get?_of_fresh hfresh ha2, hrest⟩
  -- an older claim is for an attempt that was there, so for another number
  have hnew : ∀ κ2 ∈ K, κ2.commandId = κ.commandId → κ2.attemptNumber ≠ κ.attemptNumber := by
    intro κ2 hκ₂ hsame hsame'
    obtain ⟨a₂, ha2, hcommand2, hnumber2⟩ := h.attempt κ2 hκ₂
    have hkey2 : a₂.id = κ2.attemptId := key_of_get? ha2
    rw [← hkey2] at ha2
    have heq := attempt_unique (hCA.get?_of_fresh hfresh ha2) hCA.get?_self
      (by rw [hcommand2, hsame, hcommand]) (by rw [hnumber2, hsame', hnumber])
    rw [heq, hfresh] at ha2
    cases ha2
  refine ⟨?_, ?_⟩
  · intro κ2 hκ₂
    rcases List.mem_cons.mp hκ₂ with rfl | hκ₂
    · exact ⟨a, hstored, hcommand.symm, hnumber.symm⟩
    · exact hold κ2 hκ₂
  · intro κ1 h1 κ2 h2 hsame hsame'
    rcases List.mem_cons.mp h1 with rfl | hold1 <;> rcases List.mem_cons.mp h2 with rfl | hold2
    · rfl
    · exact absurd hsame'.symm (hnew κ2 hold2 hsame.symm)
    · exact absurd hsame' (hnew κ1 hold1 hsame)
    · exact h.distinct κ1 hold1 κ2 hold2 hsame hsame'

/-- Closing one Command leaves the claims of the others. -/
theorem TokensCurrent.others (h : TokensCurrent C CA K) (hclaims : ClaimsAgree CA K)
    (hcloses : Closes commandId CA CA') (hc : C.get? c.commandId = some c)
    (hp : c.status = .processing) (hne : c.commandId ≠ commandId) :
    ∃ κ ∈ K, κ.commandId = c.commandId ∧ c.executionLeaseToken = some κ.leaseToken
      ∧ ∃ a, CA'.get? κ.attemptId = some a ∧ a.status = .processing := by
  obtain ⟨κ, hκ, hcommand, htoken, a, ha, hrun⟩ := h c hc hp
  obtain ⟨a', ha', hcommand', -⟩ := hclaims.attempt κ hκ
  obtain rfl := Option.mem_unique ha' ha
  have hkey : a'.id = κ.attemptId := key_of_get? ha
  refine ⟨κ, hκ, hcommand, htoken, a', ?_, hrun⟩
  rw [← hkey] at ha ⊢
  exact hcloses.others a' ha (hcommand' ▸ hcommand ▸ hne)

theorem ExecutionAgree.commandMoved (h : ExecutionAgree cfg s)
    (hmoved : CommandMoved cfg call s c c' CA C O D L) :
    Attempted cfg C CA ∧ ClaimsAgree CA s.claims ∧ TokensCurrent C CA s.claims := by
  have hc := hmoved.put.stored
  have hid := hmoved.put.same.commandId
  have hcloses := h.attempted.closes hc hmoved.attempts
  refine ⟨h.attempted.moved hc hid hmoved.put.put hcloses hmoved.status fun hopen => ?_,
    h.claims.evolves hcloses.evolves, ?_⟩
  · by_cases hp : c.status = .processing
    · rcases hmoved.retried hp hopen with hcount | ⟨a, ha, hnumber⟩
      · exact hcount
      · have hmem := firstBy_mem _ ha
        simp only [List.mem_filter, checks_hold] at hmem
        obtain ⟨hrow, hcommand, hrun⟩ := hmem
        rw [← hcommand, ← h.attempted.latest a (mem_rows_iff.mp hrow) hrun]
        exact hnumber
    · exact h.attempted.more c hc hp hmoved.put.unfinished
  · intro c2 hc2 hp
    rcases hmoved.put.put.cases hc2 with ⟨-, rfl⟩ | ⟨hne, hc2⟩
    · exact absurd hp hmoved.status
    · exact h.current.others h.claims hcloses hc2 hp fun heq => hne (heq.trans hid.symm)

theorem ExecutionAgree.commandClaimed {expiry : Time} {RD : Table commandRouteDecisions}
    (h : ExecutionAgree cfg s) (hclaimed : CommandClaimed cfg call s0 s c c' κ a expiry CA RD C L) :
    Attempted cfg C CA ∧ ClaimsAgree CA (κ :: s.claims) ∧ TokensCurrent C CA (κ :: s.claims) := by
  have hc := hclaimed.put.stored
  have hid := hclaimed.put.same.commandId
  obtain ⟨CA1, hclosed, hfresh, hCA⟩ := hclaimed.attempts
  have hcloses := h.attempted.closes hc hclosed
  have hmore : countOf s.commandAttempts c.commandId < cfg.retryPolicy.maxAttempts := by
    by_cases hp : c.status = .processing
    · exact hclaimed.retried hp
    · exact h.attempted.more c hc hp hclaimed.put.unfinished
  refine ⟨h.attempted.claimed hid hclaimed.put.put hcloses hfresh hCA hclaimed.attemptOf
    hclaimed.attemptNumber hclaimed.attemptStatus hclaimed.status hmore, ?_, ?_⟩
  · exact (h.claims.evolves hcloses.evolves).claimed hfresh hCA hclaimed.attemptId
      (hclaimed.commandId.trans hclaimed.attemptOf.symm) hclaimed.claimNumber
  · intro c2 hc2 hp
    rcases hclaimed.put.put.cases hc2 with ⟨-, rfl⟩ | ⟨hne, hc2⟩
    · exact ⟨κ, .head _, hclaimed.commandId.trans hid.symm, hclaimed.leaseToken, a,
        hclaimed.attemptId ▸ hCA.get?_self, hclaimed.attemptStatus⟩
    · obtain ⟨κ2, hκ₂, hcommand, htoken, a₂, ha2, hrun⟩ := h.current.others h.claims hcloses hc2
        hp fun heq => hne (heq.trans hid.symm)
      exact ⟨κ2, .tail _ hκ₂, hcommand, htoken, a₂, hCA.get?_of_fresh hfresh ha2, hrun⟩

theorem ExecutionAgree.effect (h : ExecutionAgree cfg s) (he : Effect cfg call s0 s s') :
    ExecutionAgree cfg s' := by
  cases he with
  | aside | decided _ | requestsSettled _ | requestAdded _ | preemptionsSettled _
  | preemptionAdded _ | jobAdded _ | jobClaimed _ | leaseBumped _ | jobTouched _ =>
    exact ⟨h.attempted, h.claims, h.current⟩
  | jobMoved hmoved =>
    obtain ⟨hattempted, hcurrent⟩ := h.follows hmoved.command
    exact ⟨hattempted, h.claims, hcurrent⟩
  | commandAdded hadd =>
    obtain ⟨hattempted, hcurrent⟩ := h.commandAdded hadd
    exact ⟨hattempted, h.claims, hcurrent⟩
  | commandMoved hmoved =>
    obtain ⟨hattempted, hclaims, hcurrent⟩ := h.commandMoved hmoved
    exact ⟨hattempted, hclaims, hcurrent⟩
  | commandClaimed hclaimed =>
    obtain ⟨hattempted, hclaims, hcurrent⟩ := h.commandClaimed hclaimed
    exact ⟨hattempted, hclaims, hcurrent⟩
  | commandTouched htouched =>
    have hput := htouched.put
    have hid := hput.same.commandId
    refine ⟨h.attempted.commandPut hput.stored hid hput.put
      ⟨fun _ => htouched.processing, fun _ => htouched.status⟩ fun _ => hput.unfinished,
      h.claims, h.current.commandPut hput.put fun _ => ?_⟩
    rw [hid, htouched.leaseToken]
    exact h.current _ hput.stored htouched.processing

theorem ExecutionAgree.reachable (h : Reachable cfg s) : ExecutionAgree cfg s :=
  h.of_effects ExecutionAgree.initial fun _ _ _ _ ht he => ht.effect he

/-- The attempt a query finds is the open one of the Command. -/
theorem processingAttempt?_some (h : s.processingAttempt? commandId = some a) :
    s.commandAttempts.get? a.id = some a ∧ a.commandId = commandId ∧ a.status = .processing := by
  have hmem := firstBy_mem _ h
  simp only [List.mem_filter, checks_hold] at hmem
  exact ⟨mem_rows_iff.mp hmem.1, hmem.2⟩

theorem Attempted.open_unique (h : Attempted cfg C CA) (h1 : CA.get? a1.id = some a1)
    (h2 : CA.get? a₂.id = some a₂) (hcommand : a1.commandId = a₂.commandId)
    (hopen1 : a1.status = .processing) (hopen2 : a₂.status = .processing) : a1 = a₂ := by
  refine attempt_unique h1 h2 hcommand ?_
  rw [h.latest a1 h1 hopen1, h.latest a₂ h2 hopen2, hcommand]

-- ==== tokens

/-- No claim so far carries the token the call draws. Tokens are random
UUIDs. -/
def DrawsNewToken (s : State) (call : Call) : Prop :=
  ∀ κ ∈ s.claims, κ.leaseToken ≠ call.draws.leaseToken

/-- A token belongs to one claim. -/
def TokensDiffer (s : State) : Prop :=
  ∀ κ ∈ s.claims, ∀ κ' ∈ s.claims, κ.leaseToken = κ'.leaseToken → κ = κ'

theorem TokensDiffer.effect (hnew : DrawsNewToken s0 call) (h : TokensDiffer s)
    (he : Effect cfg call s0 s s') : TokensDiffer s' := by
  cases he with
  | commandClaimed hclaimed =>
    -- the one claim of the call carries the token it drew
    have hdrawn : ∀ κ ∈ s.claims, κ.leaseToken ≠ call.draws.leaseToken :=
      hclaimed.first ▸ hnew
    intro κ1 h1 κ2 h2 hsame
    rcases List.mem_cons.mp h1 with rfl | hold1 <;> rcases List.mem_cons.mp h2 with rfl | hold2
    · rfl
    · exact absurd (hsame.symm.trans hclaimed.token) (hdrawn κ2 hold2)
    · exact absurd (hsame.trans hclaimed.token) (hdrawn κ1 hold1)
    · exact h κ1 hold1 κ2 hold2 hsame
  | _ => exact h

theorem TokensDiffer.reachable (h : (machine cfg).Reachable DrawsNewToken s) : TokensDiffer s :=
  Allowed.of_effects (fun _ κ hκ => by cases hκ) (fun _ _ _ _ hnew ht he => ht.effect hnew he) h

-- ==== stale claims

/-- The claim owns the live execution of its Command. -/
def OwnsExecution (s : State) (now : Time) (κ : ExecutionClaim) : Prop :=
  ∃ c a, ownedExecution now κ s = .inr (c, a)

/-- The token has been replaced, the lease has expired, or the account's
fence is lost. -/
def ClaimLost (s : State) (now : Time) (κ : ExecutionClaim) : Prop :=
  (∃ c, s.commands.get? κ.commandId = some c ∧ (c.executionLeaseToken ≠ some κ.leaseToken
      ∨ c.executionLeaseExpiresAt.all (fun e => decide (e ≤ now)) = true))
    ∨ ownsAccountExecution now s κ = false

/-- The attempt of the claim has been closed. -/
def AttemptOver (s : State) (κ : ExecutionClaim) : Prop :=
  ∃ a, s.commandAttempts.get? κ.attemptId = some a ∧ a.status ≠ .processing

/-- What every call of an executor checks first fails. -/
def Refused (s : State) (now : Time) (κ : ExecutionClaim) : Prop :=
  ownsAccountExecution now s κ = false ∨ ∀ c, s.commands.get? κ.commandId = some c →
    executionLeased now c κ.leaseToken = false

theorem ClaimLost.refused (h : ClaimLost s now κ) : Refused s now κ := by
  rcases h with ⟨c, hc, hlost⟩ | hfence
  · refine .inr fun c2 hc2 => ?_
    obtain rfl := Option.mem_unique hc2 hc
    rw [← Bool.not_eq_true, executionLeased_iff]
    rintro ⟨-, htoken, e, he, hlive⟩
    rcases hlost with hother | hexpired
    · exact hother htoken
    · rw [he, Option.all_some, decide_eq_true_eq] at hexpired
      exact absurd hlive (not_lt.mpr hexpired)
  · exact .inl hfence

theorem Refused.not_owned (h : Refused s now κ) : ∃ answer,
  ownedExecution now κ s = .inl answer := by
  unfold ownedExecution
  split
  case h_1 c a hc ha =>
    rw [if_pos]
    · exact ⟨_, rfl⟩
    · rcases h with hfence | hlease
      · exact .inr hfence
      · refine .inl ?_
        rw [ownsClaim, hlease c hc, Bool.and_false]
  · exact ⟨_, rfl⟩

theorem Refused.persistCheckpoint_eq {data : Document} (h : Refused s now κ) :
    persistCheckpoint now κ data s = .ok (false, s) := by
  unfold persistCheckpoint
  split
  · rfl
  case isFalse howns =>
    have hlease := h.resolve_left howns
    unfold updateIfLeased
    split
    · rfl
    case h_2 c hc => rw [if_pos (hlease c hc)]; rfl

theorem Refused.heartbeat_ne_ok {u : Unit} (h : Refused s call.now κ) :
    heartbeat cfg call.now κ s ≠ .ok (u, s') := by
  intro hok
  simp only [heartbeat, steps_ok] at hok
  obtain ⟨⟨renewed, s1⟩, h1, ⟨accountRenewed, s2⟩, h2, ⟨hrenewed, haccount⟩, -, rfl⟩ := hok
  rcases updateIfLeased_ok h1 with ⟨hfalse, -⟩ | ⟨-, c, C, hc, hid, hleased, rfl, -⟩
  · exact Bool.false_ne_true (hfalse.symm.trans hrenewed)
  · obtain ⟨L, -, hL⟩ := renewAccountExecution_ok h2 haccount
    rcases h with hfence | hlease
    · unfold ownsAccountExecution at hfence
      rcases hL with ⟨hnone, -⟩ | ⟨generation, hsome, row, hrow, hheld, -⟩
      · rw [hnone] at hfence
        cases hfence
      · rw [hsome] at hfence
        have howned : s.leaseOwned κ.accountId .command (Uuid.str κ.attemptId) generation call.now
            = true := by
          unfold State.leaseOwned
          rw [show s.accountLeases.get? κ.accountId = some row from hrow]
          exact hheld
        exact Bool.false_ne_true (hfence.symm.trans howned)
    · rw [hlease c (hid ▸ hc)] at hleased
      cases hleased

theorem Refused.step (hclaim : call.op.claim? = some κ) (h : Refused s call.now κ) :
    (machine cfg).step s call = s := by
  obtain ⟨answer, howned⟩ := h.not_owned
  show commit (call.outcome cfg s) s = s
  unfold Call.outcome
  cases hop : call.op <;> rw [hop] at hclaim <;> try cases hclaim
  case persistCheckpoint data =>
    dsimp only
    rw [h.persistCheckpoint_eq]
    rfl
  case heartbeat =>
    dsimp only
    cases hbeat : heartbeat cfg call.now κ s with
    | error e => rfl
    | ok result => exact absurd hbeat h.heartbeat_ne_ok
  case finishSuccess output =>
    dsimp only
    rw [finishSuccess, howned]
    rfl
  case finishFailure code retryable retryAfter jitter =>
    dsimp only
    rw [finishFailure, howned]
    rfl

/-- With tokens drawn anew, a claim that is not refused is the one of the
open attempt, and owns the execution. -/
theorem ExecutionAgree.owns_of_not_refused (h : ExecutionAgree cfg s) (htokens : TokensDiffer s)
    (hκ : κ ∈ s.claims) (hnot : ¬ Refused s now κ) : OwnsExecution s now κ
      ∧ ∃ a, s.commandAttempts.get? κ.attemptId = some a ∧ a.status = .processing := by
  simp only [Refused, not_or, Bool.not_eq_false, not_forall] at hnot
  obtain ⟨hfence, c, hc, hleased⟩ := hnot
  have hid : c.commandId = κ.commandId := key_of_get? hc
  rw [← hid] at hc
  obtain ⟨hprocessing, htoken, -⟩ := executionLeased_iff.mp hleased
  obtain ⟨κ', hκ', -, htoken', a, ha, hopen⟩ := h.current c hc hprocessing
  obtain rfl : κ = κ' :=
    htokens κ hκ κ' hκ' (Option.mem_unique htoken htoken')
  obtain ⟨a', ha', hcommand, hnumber⟩ := h.claims.attempt κ hκ
  obtain rfl := Option.mem_unique ha' ha
  have hkey : a'.id = κ.attemptId := key_of_get? ha
  have hstored : s.commandAttempts.get? a'.id = some a' := hkey ▸ ha
  have hrow : a' ∈ s.commandAttempts.rows := mem_rows_iff.mpr hstored
  -- the query finds the claim's attempt
  obtain ⟨a₂, ha2⟩ : ∃ a₂, s.processingAttempt? κ.commandId = some a₂ := by
    refine firstBy_of_mem (r := a') _ ?_
    rw [List.mem_filter, Bool.and_eq_true, decide_eq_true_eq, decide_eq_true_eq]
    exact ⟨hrow, hcommand, hopen⟩
  obtain ⟨hstored2, hcommand2, hopen2⟩ := processingAttempt?_some ha2
  obtain rfl := h.attempted.open_unique hstored2 hstored (hcommand2.trans hcommand.symm) hopen2
    hopen
  refine ⟨⟨c, a₂, ?_⟩, a₂, ha, hopen⟩
  have hc' : s.commands.get? κ.commandId = some c := hid ▸ hc
  simp [ownedExecution, hc', ha2, ownsClaim, hnumber, hleased, hfence]

/-- API execution is exclusive and bounded, whatever runs, stops and
interleaves. -/
theorem api_execution_exclusive (h : Reachable cfg s) :
    -- PROCESSING goes with exactly one open attempt
    (∀ c, s.commands.get? c.commandId = some c → (c.status = .processing ↔
      ∃! a, a ∈ attemptsOf s.commandAttempts c.commandId ∧ a.status = .processing))
    -- the attempts are numbered from 1, within the bound
    ∧ (∀ commandId, ∃ n : Nat, (n : Int) ≤ cfg.retryPolicy.maxAttempts
      ∧ (numbersOf s.commandAttempts commandId).Perm (upTo n))
    -- one claim owns the execution
    ∧ (∀ now, ∀ κ ∈ s.claims, ∀ κ' ∈ s.claims, κ.commandId = κ'.commandId →
      OwnsExecution s now κ → OwnsExecution s now κ' → κ = κ')
    -- a claim without its lease or its fence changes nothing
    ∧ (∀ call κ, call.op.claim? = some κ → ClaimLost s call.now κ →
      (machine cfg).step s call = s)
    -- nor does one whose attempt is closed, or that does not own the execution
    ∧ ((machine cfg).Reachable DrawsNewToken s → ∀ call κ, call.op.claim? = some κ →
      (machine cfg).enabled s call → AttemptOver s κ ∨ ¬ OwnsExecution s call.now κ →
      (machine cfg).step s call = s) := by
  have hagree := ExecutionAgree.reachable h
  refine ⟨fun c hc => ⟨fun hp => ?_, ?_⟩, fun commandId => ?_, ?_, ?_, ?_⟩
  · obtain ⟨a, ha, hcommand, hopen⟩ := hagree.attempted.processing c hc hp
    refine ⟨a, ⟨mem_attemptsOf.mpr ⟨ha, hcommand⟩, hopen⟩, ?_⟩
    rintro a₂ ⟨ha₂, hopen₂⟩
    obtain ⟨ha₂, hcommand₂⟩ := mem_attemptsOf.mp ha₂
    exact hagree.attempted.open_unique ha₂ ha (hcommand₂.trans hcommand.symm) hopen₂ hopen
  · rintro ⟨a, ⟨ha, hopen⟩, -⟩
    obtain ⟨ha, hcommand⟩ := mem_attemptsOf.mp ha
    exact hagree.attempted.running a c ha hopen (hcommand ▸ hc)
  · refine ⟨(numbersOf s.commandAttempts commandId).length, ?_, hagree.attempted.numbered commandId⟩
    rw [← countOf_eq_length]
    cases hattempts : attemptsOf s.commandAttempts commandId with
    | nil =>
      have hmax := cfg.retryPolicy.maxAttempts_pos
      rw [countOf, hattempts, List.length_nil]
      omega
    | cons a rest =>
      obtain ⟨ha, hcommand⟩ : s.commandAttempts.get? a.id = some a ∧ a.commandId = commandId :=
        mem_attemptsOf.mp (hattempts ▸ .head _)
      obtain ⟨c, hc⟩ := hagree.attempted.started a ha
      have hid : c.commandId = a.commandId := key_of_get? hc
      rw [← hcommand, ← hid]
      exact hagree.attempted.bounded c (hid ▸ hc)
  · rintro now κ hκ κ' hκ' hcommand ⟨c, a, howns⟩ ⟨c', a', howns'⟩
    obtain ⟨-, hid, -, ha, hnumber, -⟩ := ownedExecution_inr howns
    obtain ⟨-, hid', -, ha', hnumber', -⟩ := ownedExecution_inr howns'
    rw [← hid, hcommand, hid', ha'] at ha
    cases ha
    exact hagree.claims.distinct κ hκ κ' hκ' hcommand (hnumber.symm.trans hnumber')
  · exact fun call κ hclaim hlost => Refused.step hclaim hlost.refused
  · intro hnew call κ hclaim hen hstale
    refine Refused.step hclaim ?_
    by_contra hnot
    obtain ⟨howns, a, ha, hopen⟩ := hagree.owns_of_not_refused (TokensDiffer.reachable hnew)
      (hen κ hclaim) hnot
    rcases hstale with ⟨a', ha', hclosed⟩ | hnone
    · exact hclosed (Option.mem_unique ha' ha ▸ hopen)
    · exact hnone howns

/-- An executor of "post" stops after its claim; past its lease another
takes over. -/
def takenOverRun : List Call := [Sample.call 1 0 (.surroundings Sample.apiWorld),
    Sample.call 2 1 (.receive (Sample.publish "post" 1 none)),
    Sample.call 3 2 (.processNext []), Sample.call 4 40 (.processNext [])]

/-- The claim of the first executor. -/
def lateClaim : ExecutionClaim where
  commandId := "post"
  accountId := 1
  leaseToken := 301
  attemptNumber := 1
  attemptId := 302
  accountCoordinationGeneration := some 1

open Sample in
/-- After the takeover the attempts are 1 and 2, and what the first
executor then reports is ignored. -/
theorem api_execution_exclusive_taken_over :
    numbersOf (after takenOverRun).commandAttempts "post" = [1, 2]
    ∧ (∃ n : Nat, (n : Int) ≤ 3
      ∧ (numbersOf (after takenOverRun).commandAttempts "post").Perm (upTo n))
    ∧ lateClaim ∈ (after takenOverRun).claims
    ∧ (machine settings).step (after takenOverRun)
        (Sample.call 5 41 (.heartbeat lateClaim)) = after takenOverRun := by
  have hreach := reachable (by decide : admitted takenOverRun = true)
  obtain ⟨-, hnumbered, -, hlost, -⟩ := api_execution_exclusive hreach
  refine ⟨by decide, hnumbered "post", by decide, hlost _ lateClaim rfl ?_⟩
  exact .inr (by decide)

end ThreadsPlatform
