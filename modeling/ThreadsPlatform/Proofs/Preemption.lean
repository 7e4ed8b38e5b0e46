/-
One browser profile per account, and who waits for it.

# Exclusion

`ProfileInv` is what `_browser_profile_claim_allows` protects. Of the
browser jobs of an account at most one is RUNNING; a waiting preemption
names two browser jobs of its account; its preemptor does not run; and
whatever runs is its victim. That all waiting preemptions of an account
name one victim is the last part: a preemption is only ever added for
the job that runs, and the running job is already the victim of every
earlier one.

# Quiescence

A victim that ends should end the wait for it. The owner's reports do;
`recover_expired` and the closing of an intervention finish a job
without looking at who waits for it (`Strands`). Runs in which no call
strands a preemption keep every waiting victim unfinished
(`waiting_victim_unfinished`); one recovery past the last attempt is
enough to lose it (`recovery_strands_preemption`).
-/
import ThreadsPlatform.Application.Runs
import ThreadsPlatform.Effects.Refinement

namespace ThreadsPlatform

open Relational Table

variable {cfg : Settings} {call : Call} {s s' s₀ : State} {J J' : Table workerJobs}
  {P P' : Table workerJobPreemptions} {j j' : WorkerJob} {p : WorkerJobPreemption}
  {accountId k : Uuid}

-- ==== profile jobs

theorem WorkerJob.SameJob.isBrowserProfile (h : j.SameJob j') :
    j'.isBrowserProfile = j.isBrowserProfile := by
  unfold WorkerJob.isBrowserProfile
  rw [h.accountId, h.accountAffinityRequired, h.capabilityName]

/-- A browser job of the account is stored under the id. -/
def ProfileJob (J : Table workerJobs) (accountId k : Uuid) : Prop :=
  ∃ j, J.get? k = some j ∧ j.isBrowserProfile = true ∧ j.accountId = some accountId

theorem ProfileJob.put (h : ProfileJob J accountId k) (hj : J.get? j.id = some j)
    (hsame : j.SameJob j') (hput : Put J j' J') : ProfileJob J' accountId k := by
  obtain ⟨j2, hj2, hprofile, haccount⟩ := h
  by_cases hk : k = j.id
  · subst hk
    rw [hj] at hj2
    cases hj2
    have hkey : workerJobs.key j' = j.id := hsame.id
    exact ⟨j', hkey ▸ hput.get?_self, hsame.isBrowserProfile.trans hprofile,
      hsame.accountId.trans haccount⟩
  · exact ⟨j2, (hsame.put_frame hput k hk).trans hj2, hprofile, haccount⟩

theorem ProfileJob.added (h : ProfileJob J accountId k) (hfresh : J.get? j.id = none)
    (hput : Put J j J') : ProfileJob J' accountId k := by
  obtain ⟨j2, hj2, hrest⟩ := h
  exact ⟨j2, hput.get?_of_fresh hfresh hj2, hrest⟩

-- ==== the invariant

/-- The browser profiles of a state are exclusive, and preemptions wait
for whoever runs. -/
structure ProfileInv (J : Table workerJobs) (P : Table workerJobPreemptions) : Prop where
  preemptor : ∀ p, P.get? p.id = some p → p.status = .waitingForQuiescence →
    ProfileJob J p.accountId p.preemptorWorkerJobId
  victim : ∀ p, P.get? p.id = some p → p.status = .waitingForQuiescence →
    ProfileJob J p.accountId p.victimWorkerJobId
  exclusive : ∀ j₁ j₂, J.get? j₁.id = some j₁ → J.get? j₂.id = some j₂ →
    j₁.isBrowserProfile = true → j₂.isBrowserProfile = true → j₁.accountId = j₂.accountId →
    j₁.status = .running → j₂.status = .running → j₁.id = j₂.id
  idle : ∀ p, P.get? p.id = some p → p.status = .waitingForQuiescence →
    ∀ j, J.get? p.preemptorWorkerJobId = some j → j.status ≠ .running
  awaited : ∀ p, P.get? p.id = some p → p.status = .waitingForQuiescence →
    ∀ j, J.get? j.id = some j → j.isBrowserProfile = true → j.accountId = some p.accountId →
    j.status = .running → j.id = p.victimWorkerJobId
  common : ∀ p q, P.get? p.id = some p → P.get? q.id = some q →
    p.status = .waitingForQuiescence → q.status = .waitingForQuiescence →
    p.accountId = q.accountId → p.victimWorkerJobId = q.victimWorkerJobId

theorem ProfileInv.settle (h : ProfileInv J P) (hsettle : PreemptionsSettle P P') :
    ProfileInv J P' := by
  -- every waiting preemption was waiting before, between the same jobs
  have hback : ∀ p', P'.get? p'.id = some p' → p'.status = .waitingForQuiescence →
      ∃ p, P.get? p.id = some p ∧ p.status = .waitingForQuiescence ∧ p.Settles p' := by
    intro p' hp' hw'
    obtain ⟨p, hp, hrel⟩ := hsettle.backward hp'
    exact ⟨p, hrel.id ▸ hp, hrel.waiting hw', hrel⟩
  refine ⟨?_, ?_, h.exclusive, ?_, ?_, ?_⟩
  · intro p' hp' hw'
    obtain ⟨p, hp, hw, hrel⟩ := hback p' hp' hw'
    rw [hrel.accountId, hrel.preemptorWorkerJobId]
    exact h.preemptor p hp hw
  · intro p' hp' hw'
    obtain ⟨p, hp, hw, hrel⟩ := hback p' hp' hw'
    rw [hrel.accountId, hrel.victimWorkerJobId]
    exact h.victim p hp hw
  · intro p' hp' hw'
    obtain ⟨p, hp, hw, hrel⟩ := hback p' hp' hw'
    rw [hrel.preemptorWorkerJobId]
    exact h.idle p hp hw
  · intro p' hp' hw'
    obtain ⟨p, hp, hw, hrel⟩ := hback p' hp' hw'
    rw [hrel.accountId, hrel.victimWorkerJobId]
    exact h.awaited p hp hw
  · intro p' q' hp' hq' hpw' hqw' haccount
    obtain ⟨p, hp, hpw, hprel⟩ := hback p' hp' hpw'
    obtain ⟨q, hq, hqw, hqrel⟩ := hback q' hq' hqw'
    rw [hprel.victimWorkerJobId, hqrel.victimWorkerJobId]
    refine h.common p q hp hq hpw hqw ?_
    rw [← hprel.accountId, ← hqrel.accountId]
    exact haccount

section

variable (h : ProfileInv s.jobs s.preemptions)

include h

theorem ProfileInv.preemptionAdded (hadd : PreemptionAdded s p P) : ProfileInv s.jobs P := by
  obtain ⟨q, hq, hqueued, hqprofile, hqaccount⟩ := hadd.preemptor
  obtain ⟨v, hv, hrunning, hvprofile, hvaccount⟩ := hadd.victim
  have hvid : v.id = p.victimWorkerJobId := key_of_get? hv
  have hvstored : s.jobs.get? v.id = some v := hvid ▸ hv
  -- an earlier preemption of the account already names this victim
  have hcommon : ∀ p2, s.preemptions.get? p2.id = some p2 →
      p2.status = .waitingForQuiescence → p2.accountId = p.accountId →
      p2.victimWorkerJobId = p.victimWorkerJobId := by
    intro p2 hp2 hw2 haccount
    rw [← hvid]
    refine (h.awaited p2 hp2 hw2 v hvstored hvprofile ?_ hrunning).symm
    rw [haccount]
    exact hvaccount
  refine ⟨?_, ?_, h.exclusive, ?_, ?_, ?_⟩
  · intro p2 hp2 hw2
    rcases hadd.put.cases hp2 with ⟨-, rfl⟩ | ⟨-, hp2⟩
    · exact ⟨q, hq, hqprofile, hqaccount⟩
    · exact h.preemptor p2 hp2 hw2
  · intro p2 hp2 hw2
    rcases hadd.put.cases hp2 with ⟨-, rfl⟩ | ⟨-, hp2⟩
    · exact ⟨v, hv, hvprofile, hvaccount⟩
    · exact h.victim p2 hp2 hw2
  · intro p2 hp2 hw2 j hj
    rcases hadd.put.cases hp2 with ⟨-, rfl⟩ | ⟨-, hp2⟩
    · rw [hq] at hj
      injection hj with hj
      rw [← hj, hqueued]
      decide
    · exact h.idle p2 hp2 hw2 j hj
  · intro p2 hp2 hw2 j hj hprofile haccount hr
    rcases hadd.put.cases hp2 with ⟨-, rfl⟩ | ⟨-, hp2⟩
    · rw [← hvid]
      exact h.exclusive j v hj hvstored hprofile hvprofile (haccount.trans hvaccount.symm) hr
        hrunning
    · exact h.awaited p2 hp2 hw2 j hj hprofile haccount hr
  · intro p1 p2 hp1 hp2 hw1 hw2 haccount
    rcases hadd.put.cases hp1 with ⟨-, rfl⟩ | ⟨-, hp1⟩ <;>
      rcases hadd.put.cases hp2 with ⟨-, rfl⟩ | ⟨-, hp2⟩
    · rfl
    · exact (hcommon p2 hp2 hw2 haccount.symm).symm
    · exact hcommon p1 hp1 hw1 haccount
    · exact h.common p1 p2 hp1 hp2 hw1 hw2 haccount

theorem ProfileInv.jobAdded {RD : Table commandRouteDecisions} (hadd : JobAdded call s₀ s j J RD) :
    ProfileInv J s.preemptions := by
  have hnew : ∀ j2, J.get? j2.id = some j2 → j2.status = .running →
      s.jobs.get? j2.id = some j2 := by
    intro j2 hj2 hr
    rcases hadd.put.cases hj2 with ⟨-, rfl⟩ | ⟨-, hold⟩
    · rw [hadd.queued] at hr
      cases hr
    · exact hold
  refine ⟨fun p hp hw => (h.preemptor p hp hw).added hadd.fresh hadd.put,
    fun p hp hw => (h.victim p hp hw).added hadd.fresh hadd.put, ?_, ?_, ?_, h.common⟩
  · intro j1 j2 hj1 hj2 hb1 hb2 haccount hr1 hr2
    exact h.exclusive j1 j2 (hnew j1 hj1 hr1) (hnew j2 hj2 hr2) hb1 hb2 haccount hr1 hr2
  · intro p hp hw j2 hj2 hr
    have hid : j2.id = p.preemptorWorkerJobId := key_of_get? hj2
    exact h.idle p hp hw j2 (hid ▸ hnew j2 (hid ▸ hj2) hr) hr
  · intro p hp hw j2 hj2 hprofile haccount hr
    exact h.awaited p hp hw j2 (hnew j2 hj2 hr) hprofile haccount hr

theorem ProfileInv.free (hj : s.jobs.get? j.id = some j) (hprofile : j.isBrowserProfile = true)
    (hr : j.status = .running) : ProfileFree s j := by
  refine ⟨?_, ?_⟩
  · intro j2 hj2 hb2 ha2 hr2
    exact h.exclusive j2 j (mem_rows_iff.mp hj2) hj hb2 hprofile ha2 hr2 hr
  · intro p hp haccount hw
    have hp : s.preemptions.get? p.id = some p := mem_rows_iff.mp hp
    refine ⟨?_, (h.awaited p hp hw j hj hprofile haccount.symm hr).symm⟩
    intro hpre
    exact h.idle p hp hw j (hpre ▸ hj) hr

/-- A job is rewritten. If it is a browser job and runs now, the profile
was free for it. -/
theorem ProfileInv.rewrite (hj : s.jobs.get? j.id = some j) (hsame : j.SameJob j')
    (hput : Put s.jobs j' J)
    (hfree : j.isBrowserProfile = true → j'.status = .running → ProfileFree s j) :
    ProfileInv J s.preemptions := by
  refine ⟨fun p hp hw => (h.preemptor p hp hw).put hj hsame hput,
    fun p hp hw => (h.victim p hp hw).put hj hsame hput, ?_, ?_, ?_, h.common⟩
  · intro j1 j2 hj1 hj2 hb1 hb2 haccount hr1 hr2
    rcases hput.cases hj1 with ⟨-, rfl⟩ | ⟨-, hj1⟩ <;>
      rcases hput.cases hj2 with ⟨-, rfl⟩ | ⟨-, hj2⟩
    · rfl
    · rw [hsame.id]
      exact ((hfree (hsame.isBrowserProfile ▸ hb1) hr1).running j2 (mem_rows_iff.mpr hj2) hb2
        (haccount.symm.trans hsame.accountId) hr2).symm
    · rw [hsame.id]
      exact (hfree (hsame.isBrowserProfile ▸ hb2) hr2).running j1 (mem_rows_iff.mpr hj1) hb1
        (haccount.trans hsame.accountId) hr1
    · exact h.exclusive j1 j2 hj1 hj2 hb1 hb2 haccount hr1 hr2
  · intro p hp hw j2 hj2 hr
    rcases hput.cases hj2 with ⟨hpre, rfl⟩ | ⟨-, hj2⟩
    · have hpre : p.preemptorWorkerJobId = j.id := hpre.trans hsame.id
      obtain ⟨q, hq, hprofile, haccount⟩ := h.preemptor p hp hw
      rw [hpre, hj] at hq
      cases hq
      exact ((hfree hprofile hr).waiting p (mem_rows_iff.mpr hp) haccount.symm hw).1 hpre
    · exact h.idle p hp hw j2 hj2 hr
  · intro p hp hw j2 hj2 hprofile haccount hr
    rcases hput.cases hj2 with ⟨-, rfl⟩ | ⟨-, hj2⟩
    · rw [hsame.id]
      exact ((hfree (hsame.isBrowserProfile ▸ hprofile) hr).waiting p (mem_rows_iff.mpr hp)
        (haccount.symm.trans hsame.accountId) hw).2.symm
    · exact h.awaited p hp hw j2 hj2 hprofile haccount hr

end

open ProfileInv

theorem ProfileInv.effect (h : ProfileInv s.jobs s.preemptions)
    (he : Effect cfg call s₀ s s') : ProfileInv s'.jobs s'.preemptions := by
  cases he with
  | preemptionsSettled hsettle => exact h.settle hsettle
  | preemptionAdded hadd => exact preemptionAdded (s := s) h hadd
  | jobAdded hadd => exact jobAdded (s := s) h hadd
  | jobClaimed hclaim =>
    exact rewrite (s := s) h hclaim.stored WorkerJob.sameJob_claimed hclaim.jobs
      fun hprofile _ => hclaim.profile hprofile
  | jobTouched htouch =>
    exact rewrite (s := s) h htouch.stored htouch.same htouch.jobs
      fun hprofile hr => h.free htouch.stored hprofile (htouch.status ▸ hr)
  | jobMoved hmove =>
    exact rewrite (s := s) h hmove.stored hmove.leaves.toSameJob hmove.jobs
      fun _ hr => absurd hr hmove.leaves.status
  | _ => exact h

theorem ProfileInv.reachable (h : Reachable cfg s) : ProfileInv s.jobs s.preemptions := by
  refine h.of_effects (I := fun s => ProfileInv s.jobs s.preemptions) ?_
    fun _ _ _ _ h he => h.effect he
  intro W
  constructor <;> simp [State.initial]

/-- One browser job per account, and preemption really waits. -/
theorem browser_profile_exclusive (h : Reachable cfg s) :
    (∀ j₁ ∈ s.jobs.rows, ∀ j₂ ∈ s.jobs.rows, j₁.isBrowserProfile = true →
      j₂.isBrowserProfile = true → j₁.accountId = j₂.accountId →
      j₁.status = .running → j₂.status = .running → j₁ = j₂)
    ∧ (∀ p ∈ s.preemptions.rows, p.status = .waitingForQuiescence →
      ∀ j ∈ s.jobs.rows, j.status = .running → p.preemptorWorkerJobId ≠ j.id)
    ∧ (∀ p ∈ s.preemptions.rows, ∀ q ∈ s.preemptions.rows,
      p.status = .waitingForQuiescence → q.status = .waitingForQuiescence →
      p.accountId = q.accountId → p.victimWorkerJobId = q.victimWorkerJobId)
    ∧ ∀ p ∈ s.preemptions.rows, p.status = .waitingForQuiescence →
      ∀ j ∈ s.jobs.rows, j.isBrowserProfile = true → j.accountId = some p.accountId →
      j.status = .running → j.id = p.victimWorkerJobId := by
  have hinv := ProfileInv.reachable h
  refine ⟨?_, ?_, ?_, ?_⟩
  · intro j₁ hj₁ j₂ hj₂ hb₁ hb₂ haccount hr₁ hr₂
    have hstored₁ : s.jobs.get? j₁.id = some j₁ := mem_rows_iff.mp hj₁
    have hstored₂ : s.jobs.get? j₂.id = some j₂ := mem_rows_iff.mp hj₂
    rw [hinv.exclusive j₁ j₂ hstored₁ hstored₂ hb₁ hb₂ haccount hr₁ hr₂, hstored₂] at hstored₁
    injection hstored₁ with heq
    exact heq.symm
  · intro p hp hw j hj hr hpre
    have hstored : s.jobs.get? j.id = some j := mem_rows_iff.mp hj
    exact hinv.idle p (mem_rows_iff.mp hp) hw j (hpre ▸ hstored) hr
  · intro p hp q hq hpw hqw haccount
    exact hinv.common p q (mem_rows_iff.mp hp) (mem_rows_iff.mp hq) hpw hqw haccount
  · intro p hp hw j hj hprofile haccount hr
    exact hinv.awaited p (mem_rows_iff.mp hp) hw j (mem_rows_iff.mp hj) hprofile haccount hr

/-- A LOW priority job runs when a HIGH priority one arrives. -/
def preemptedRun : List Call :=
  [Sample.call 1 0 (Sample.dispatch "low" (-100)), Sample.call 2 1 (.processNext []),
    Sample.call 3 2 (.claimNext 2), Sample.call 4 3 (Sample.dispatch "high" 100),
    Sample.call 5 4 (.processNext []), Sample.call 6 5 (.claimNext 2)]

open Sample in
theorem browser_profile_exclusive_preempted :
    ∃ p ∈ (after preemptedRun).preemptions.rows, p.status = .waitingForQuiescence
      ∧ ∃ j ∈ (after preemptedRun).jobs.rows, j.status = .running
        ∧ p.preemptorWorkerJobId ≠ j.id ∧ j.id = p.victimWorkerJobId := by
  have hreach := reachable (by decide : admitted preemptedRun = true)
  obtain ⟨p, hp, hw, j, hj, hprofile, haccount, hr⟩ :
      ∃ p ∈ (after preemptedRun).preemptions.rows, p.status = .waitingForQuiescence
        ∧ ∃ j ∈ (after preemptedRun).jobs.rows, j.isBrowserProfile = true
          ∧ j.accountId = some p.accountId ∧ j.status = .running := by decide +kernel
  obtain ⟨-, hidle, -, hawaited⟩ := browser_profile_exclusive hreach
  exact ⟨p, hp, hw, j, hj, hr, hidle p hp hw j hj hr, hawaited p hp hw j hj hprofile haccount hr⟩

-- ==== quiescence

/-- Every waiting preemption's victim is stored and not finished. -/
def VictimsUnfinished (J : Table workerJobs) (P : Table workerJobPreemptions) : Prop :=
  ∀ p, P.get? p.id = some p → p.status = .waitingForQuiescence →
    ∃ v, J.get? p.victimWorkerJobId = some v ∧ v.status.terminal = false

/-- A job is rewritten. If it is finished now, nobody waits for it. -/
theorem VictimsUnfinished.rewrite (h : VictimsUnfinished J P) (hput : Put J j' J')
    (hid : j'.id = j.id)
    (hended : j'.status.terminal = true → ∀ p, P.get? p.id = some p →
      p.status = .waitingForQuiescence → p.victimWorkerJobId ≠ j.id) :
    VictimsUnfinished J' P := by
  intro p hp hw
  obtain ⟨v, hv, hopen⟩ := h p hp hw
  have hkey : workerJobs.key j' = j.id := hid
  by_cases hvictim : p.victimWorkerJobId = j.id
  · refine ⟨j', by rw [hvictim, ← hkey]; exact hput.get?_self, ?_⟩
    rw [Bool.eq_false_iff]
    intro hterminal
    exact hended hterminal p hp hw hvictim
  · exact ⟨v, (hput.get?_ne (hkey ▸ hvictim)).trans hv, hopen⟩

/-- Every effect of a call that strands nobody keeps the victims
unfinished. -/
theorem VictimsUnfinished.effect (hquiet : ∀ j, ¬ Strands call s₀ j)
    (h : VictimsUnfinished s.jobs s.preemptions) (he : Effect cfg call s₀ s s') :
    VictimsUnfinished s'.jobs s'.preemptions := by
  cases he with
  | preemptionsSettled hsettle =>
    intro p' hp' hw'
    obtain ⟨p, hp, hrel⟩ := hsettle.backward hp'
    rw [hrel.victimWorkerJobId]
    exact h p (hrel.id ▸ hp) (hrel.waiting hw')
  | preemptionAdded hadd =>
    intro p hp hw
    rcases hadd.put.cases hp with ⟨-, rfl⟩ | ⟨-, hp⟩
    · obtain ⟨v, hv, hr, -⟩ := hadd.victim
      exact ⟨v, hv, by rw [hr]; rfl⟩
    · exact h p hp hw
  | jobAdded hadd =>
    intro p hp hw
    obtain ⟨v, hv, hopen⟩ := h p hp hw
    exact ⟨v, hadd.put.get?_of_fresh hadd.fresh hv, hopen⟩
  | jobClaimed hclaim => exact h.rewrite hclaim.jobs rfl fun hterminal => by cases hterminal
  | jobTouched htouch =>
    refine h.rewrite htouch.jobs htouch.same.id fun hterminal => ?_
    rw [htouch.status, (WorkerJob.ownsLease_iff.mp htouch.owned).1] at hterminal
    cases hterminal
  | jobMoved hmove =>
    refine h.rewrite hmove.jobs hmove.leaves.id fun hterminal p hp hw => ?_
    rcases hmove.victim hterminal with hnone | hstrands
    · exact hnone p (mem_rows_iff.mpr hp) hw
    · exact absurd hstrands (hquiet _)
  | _ => exact h

/-- In a run whose calls strand nobody, every waiting preemption has a
victim that can still end. -/
theorem waiting_victim_unfinished
    (h : (machine cfg).Reachable (fun s call => ∀ j, ¬ Strands call s j) s) :
    ∀ p ∈ s.preemptions.rows, p.status = .waitingForQuiescence →
      ∃ v ∈ s.jobs.rows, v.id = p.victimWorkerJobId ∧ v.status.terminal = false := by
  have hinv : VictimsUnfinished s.jobs s.preemptions := by
    refine Allowed.of_effects (I := fun s => VictimsUnfinished s.jobs s.preemptions) ?_
      (fun _ _ _ _ hquiet h he => h.effect hquiet he) h
    intro W p hp
    cases hp
  intro p hp hw
  obtain ⟨v, hv, hopen⟩ := hinv p (mem_rows_iff.mp hp) hw
  exact ⟨v, mem_of_get? hv, key_of_get? hv, hopen⟩

/-- The LOW priority job loses its lease and is recovered for another
attempt; the preemption goes on waiting for it. -/
def recoveredRun : List Call := preemptedRun ++ [Sample.call 7 500 (.recoverExpired 10)]

open Sample in
theorem waiting_victim_unfinished_recovered :
    ∃ p ∈ (after recoveredRun).preemptions.rows, p.status = .waitingForQuiescence
      ∧ ∃ v ∈ (after recoveredRun).jobs.rows, v.id = p.victimWorkerJobId
        ∧ v.status.terminal = false := by
  have hbefore : (machine settings).Reachable (fun s call => ∀ j, ¬ Strands call s j)
      (after preemptedRun) := by
    refine Allowed.run (t := 0) (.init ⟨world, rfl⟩)
      (by decide : admitted preemptedRun = true) ?_
    intro call hcall s j hstrands
    have hop := hstrands.2
    simp only [preemptedRun, List.mem_cons, List.not_mem_nil, or_false] at hcall
    rcases hcall with rfl | rfl | rfl | rfl | rfl | rfl <;> exact hop
  -- what is recovered has attempts left
  have hleft : ∀ j ∈ (after preemptedRun).listExpiredForUpdate 500 10 (draws 7).rowOrder,
      ¬ (j.beforeDeadline 500 = false ∨ j.maxAttempts ≤ j.attemptCount) := by decide +kernel
  have hreach : (machine settings).Reachable (fun s call => ∀ j, ¬ Strands call s j)
      (after recoveredRun) := by
    rw [recoveredRun, after, run, List.foldl_append]
    exact .step hbefore (fun claim hclaim => by cases hclaim) fun j hs => hleft j hs.2.1 hs.2.2
  obtain ⟨p, hp, hw⟩ : ∃ p ∈ (after recoveredRun).preemptions.rows,
      p.status = .waitingForQuiescence := by decide +kernel
  exact ⟨p, hp, hw, waiting_victim_unfinished hreach p hp hw⟩

/-- The LOW priority job loses its lease three times and is recovered as
FAILED_FINAL; the preemption still waits for it. -/
def strandedRun : List Call :=
  preemptedRun ++ [Sample.call 7 500 (.claimNext 2), Sample.call 8 1000 (.claimNext 2),
    Sample.call 9 2000 (.recoverExpired 10)]

open Sample in
theorem recovery_strands_preemption :
    Reachable settings (after strandedRun)
      ∧ ∃ p ∈ (after strandedRun).preemptions.rows, p.status = .waitingForQuiescence
        ∧ ∃ v ∈ (after strandedRun).jobs.rows, v.id = p.victimWorkerJobId
          ∧ v.status.terminal = true :=
  ⟨reachable (by decide +kernel), by decide +kernel⟩

end ThreadsPlatform
