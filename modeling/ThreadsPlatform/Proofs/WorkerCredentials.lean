/-
A worker's credentials are single use.

Every transaction only adds to the tables: a row keeps its id, its
digest, its key, and a mark that was set stays set (`Grows`). So what a
successful or a refused attempt has marked is marked in every later
state, and an attempt that finds a mark fails.
-/
import ThreadsPlatform.Application.WorkerCredentials
import ThreadsPlatform.Proofs.InternalIds

namespace ThreadsPlatform.WorkerCredentials

open Relational Table

variable {env : WorkerCrypto} {d : CredentialDraws} {now : Time} {s s' s'' : CredentialState}
  {call : CredentialCall} {code token : String} {challengeId : Uuid} {signature : Bytes}
  {r : Except CredentialFailure (String × Time)} {enrollmentId : Option Uuid} {α : Type}
  {id workerId : Uuid} {c : WorkerAuthChallenge} {x : WorkerEnrollment} {profile : WorkerProfile}

-- ==== messages

/-- What no transaction undoes. -/
structure Grows (s s' : CredentialState) : Prop where
  workers : ∀ id w, s.workers.get? id = some w →
    ∃ w', s'.workers.get? id = some w' ∧ w'.publicKey = w.publicKey
  enrollments : ∀ id x, s.enrollments.get? id = some x →
    ∃ x', s'.enrollments.get? id = some x' ∧ x'.tokenDigest = x.tokenDigest
      ∧ (x.consumedAt ≠ none → x'.consumedAt ≠ none)
  challenges : ∀ id c, s.challenges.get? id = some c →
    ∃ c', s'.challenges.get? id = some c' ∧ (c.usedAt ≠ none → c'.usedAt ≠ none)

namespace Grows

theorem refl (s : CredentialState) : Grows s s where
  workers _ w hw := ⟨w, hw, rfl⟩
  enrollments _ x hx := ⟨x, hx, rfl, fun h => h⟩
  challenges _ c hc := ⟨c, hc, fun h => h⟩

theorem trans (h : Grows s s') (h' : Grows s' s'') : Grows s s'' where
  workers id w hw := by
    obtain ⟨w', hw', hkey⟩ := h.workers id w hw
    obtain ⟨w'', hw'', hkey'⟩ := h'.workers id w' hw'
    exact ⟨w'', hw'', hkey'.trans hkey⟩
  enrollments id x hx := by
    obtain ⟨x', hx', hdigest, hmark⟩ := h.enrollments id x hx
    obtain ⟨x'', hx'', hdigest', hmark'⟩ := h'.enrollments id x' hx'
    exact ⟨x'', hx'', hdigest'.trans hdigest, fun hset => hmark' (hmark hset)⟩
  challenges id c hc := by
    obtain ⟨c', hc', hmark⟩ := h.challenges id c hc
    obtain ⟨c'', hc'', hmark'⟩ := h'.challenges id c' hc'
    exact ⟨c'', hc'', fun hset => hmark' (hmark hset)⟩

theorem of_same (hw : s'.workers = s.workers) (he : s'.enrollments = s.enrollments)
    (hc : s'.challenges = s.challenges) : Grows s s' where
  workers _ w h := ⟨w, hw ▸ h, rfl⟩
  enrollments _ x h := ⟨x, he ▸ h, rfl, fun h => h⟩
  challenges _ c h := ⟨c, hc ▸ h, fun h => h⟩

end Grows

/-- A row that was put where none, or its own earlier version, was. -/
theorem put_grows {κ ρ : Type} [DecidableEq κ] {S : Schema κ ρ} {t t' : Table S} {r : ρ}
    (keeps : ρ → ρ → Prop) (hput : Put t r t') (hrefl : ∀ x, keeps x x)
    (hold : ∀ x, t.get? (S.key r) = some x → keeps x r) (k : κ) (x : ρ)
    (hx : t.get? k = some x) : ∃ x', t'.get? k = some x' ∧ keeps x x' := by
  by_cases hk : k = S.key r
  · subst hk
    exact ⟨r, hput.get?_self, hold x hx⟩
  · exact ⟨x, (hput.get?_ne hk).trans hx, hrefl x⟩

-- ==== audit log

/-- A code that was good, and is no more. -/
structure CodeSpent (env : WorkerCrypto) (now : Time) (code : String) (s s' : CredentialState) :
    Prop where
  good : ∃ x, s.enrollments.get? x.id = some x ∧ x.tokenDigest = env.sha256 code
    ∧ x.consumedAt = none ∧ now < x.expiresAt
  spent : ∃ x, s'.enrollments.get? x.id = some x ∧ x.tokenDigest = env.sha256 code
    ∧ x.consumedAt ≠ none

/-- A challenge that was answered in time, with the worker's key. -/
structure Answered (env : WorkerCrypto) (now : Time) (challengeId : Uuid) (signature : Bytes)
    (c : WorkerAuthChallenge) (s : CredentialState) : Prop where
  stored : s.challenges.get? challengeId = some c
  unused : c.usedAt = none
  inTime : now < c.expiresAt
  verified : ∃ w key, s.workers.get? c.workerId = some w ∧ w.publicKey = some key
    ∧ verifyWorkerSignature env key (challengeMessage c.id c.nonce) signature = true

/-- The session of an exchange. -/
def sessionFor (env : WorkerCrypto) (d : CredentialDraws) (now : Time) (workerId : Uuid) :
    WorkerSession where
  id := d.sessionId
  workerId := workerId
  tokenDigest := env.sha256 d.token
  issuedAt := now
  expiresAt := now + env.sessionTtl
  revokedAt := none

/-- What an exchange that was committed did. -/
structure Exchanged (env : WorkerCrypto) (d : CredentialDraws) (now : Time) (challengeId : Uuid)
    (signature : Bytes) (s : CredentialState) (r : Except CredentialFailure (String × Time))
    (s' : CredentialState) : Prop where
  workers : s'.workers = s.workers
  enrollments : s'.enrollments = s.enrollments
  marked : ∀ c, s.challenges.get? challengeId = some c →
    Put s.challenges { c with usedAt := some now } s'.challenges
  missing : s.challenges.get? challengeId = none → s'.challenges = s.challenges
  outcome : ((∃ error, r = .error error) ∧ s'.sessions = s.sessions)
    ∨ ∃ c, Answered env now challengeId signature c s ∧ r = .ok (d.token, now + env.sessionTtl)
      ∧ Put s.sessions (sessionFor env d now c.workerId) s'.sessions

/-- The call created a worker with the code. -/
def Creates (env : WorkerCrypto) (e : CredentialState × CredentialCall) (code : String) : Prop :=
  ∃ profile w, e.2.op = .enroll code profile ∧ (e.2.perform env e.1).1 = .enrolled w

/-- The call exchanged the challenge for a session with the token. -/
def Issues (env : WorkerCrypto) (e : CredentialState × CredentialCall) (challengeId : Uuid)
    (token : String) : Prop :=
  ∃ signature expiresAt, e.2.op = .exchangeChallenge challengeId signature
    ∧ (e.2.perform env e.1).1 = .session token expiresAt

/-- The call was an attempt on the challenge. -/
def Attempts (e : CredentialState × CredentialCall) (challengeId : Uuid) : Prop :=
  ∃ signature, e.2.op = .exchangeChallenge challengeId signature
    ∧ (e.1.challenges.get? challengeId).isSome = true

/-- The challenges are of workers that are there. -/
def Referenced (s : CredentialState) : Prop :=
  ∀ id c, s.challenges.get? id = some c → (s.workers.get? c.workerId).isSome = true

/-- What one call does. -/
structure Performed (env : WorkerCrypto) (s : CredentialState) (call : CredentialCall)
    (s' : CredentialState) : Prop where
  grows : Grows s s'
  referenced : Referenced s'
  creates : ∀ code, Creates env (s, call) code → CodeSpent env call.now code s s'
  attempts : ∀ id, Attempts (s, call) id →
    ∃ c, s'.challenges.get? id = some c ∧ c.usedAt ≠ none
  issues : ∀ id token, Issues env (s, call) id token →
    ∃ signature c, Answered env call.now id signature c s
  sessions : ∀ x ∈ s'.sessions.rows, x ∈ s.sessions.rows
    ∨ ∃ id c, Issues env (s, call) id call.draws.token ∧ s.challenges.get? id = some c
      ∧ x.tokenDigest = env.sha256 call.draws.token ∧ x.workerId = c.workerId

theorem Referenced.grows (h : Referenced s) (hgrows : Grows s s')
    (hc : s'.challenges = s.challenges) : Referenced s' := by
  intro id c hget
  obtain ⟨w, hw⟩ := Option.isSome_iff_exists.mp (h id c (hc ▸ hget))
  obtain ⟨w', hw', -⟩ := hgrows.workers _ w hw
  rw [hw']
  rfl

open CredentialCall

theorem Exchanged.grows {r : Except CredentialFailure (String × Time)}
    (h : Exchanged env d now challengeId signature s r s') : Grows s s' where
  workers _ w hw := ⟨w, h.workers ▸ hw, rfl⟩
  enrollments _ x hx := ⟨x, h.enrollments ▸ hx, rfl, fun h => h⟩
  challenges id c hc := by
    cases hchallenge : s.challenges.get? challengeId with
    | none => exact ⟨c, h.missing hchallenge ▸ hc, fun h => h⟩
    | some c0 =>
      refine put_grows (fun c c' => c.usedAt ≠ none → c'.usedAt ≠ none) (h.marked c0 hchallenge)
        (fun _ h => h) ?_ id c hc
      intro _ _ _
      simp

theorem Exchanged.referenced (href : Referenced s)
    (h : Exchanged env d now challengeId signature s r s') : Referenced s' := by
  intro id c hget
  rw [h.workers]
  cases hchallenge : s.challenges.get? challengeId with
  | none => exact href id c (h.missing hchallenge ▸ hget)
  | some c0 =>
    rcases (h.marked c0 hchallenge).cases hget with ⟨-, rfl⟩ | ⟨-, hold⟩
    · exact href challengeId c0 hchallenge
    · exact href id c hold

/-- The state keeps account of the calls. -/
structure Accounted (env : WorkerCrypto) (past : List (CredentialState × CredentialCall))
    (s : CredentialState) : Prop where
  referenced : Referenced s
  grows : ∀ e ∈ past, Grows e.1 s
  good : ∀ e ∈ past, ∀ code, Creates env e code → ∃ x ∈ e.1.enrollments.rows,
    x.tokenDigest = env.sha256 code ∧ e.2.now < x.expiresAt
  spent : ∀ e ∈ past, ∀ code, Creates env e code → ∃ x, s.enrollments.get? x.id = some x
    ∧ x.tokenDigest = env.sha256 code ∧ x.consumedAt ≠ none
  codes : ∀ code, past.Pairwise fun e e' => ¬ (Creates env e code ∧ Creates env e' code)
  used : ∀ e ∈ past, ∀ id, Attempts e id → ∃ c, s.challenges.get? id = some c ∧ c.usedAt ≠ none
  answered : ∀ e ∈ past, ∀ id token, Issues env e id token →
    ∃ signature c, Answered env e.2.now id signature c e.1
  challenges : ∀ id token token', past.Pairwise fun e e' =>
    ¬ (Issues env e id token ∧ Issues env e' id token')
  sessions : ∀ x ∈ s.sessions.rows, ∃ e ∈ past, ∃ id c, Issues env e id e.2.draws.token
    ∧ e.1.challenges.get? id = some c ∧ x.tokenDigest = env.sha256 e.2.draws.token
    ∧ x.workerId = c.workerId

theorem enrollment_unique {y : WorkerEnrollment} (hx : s.enrollments.get? x.id = some x)
    (hy : s.enrollments.get? y.id = some y) (hdigest : x.tokenDigest = y.tokenDigest) : x = y := by
  by_contra hne
  have hids : x.id ≠ y.id := by
    intro hid
    rw [hid] at hx
    exact hne (Option.mem_unique hx hy)
  have hclash := clash_of_get? hx hy hids
  simp only [workerEnrollments, decide_eq_false_iff_not] at hclash
  exact hclash hdigest

theorem Issues.attempts {env : WorkerCrypto} {e : CredentialState × CredentialCall} {token : String}
    (h : Issues env e id token)
    (hanswered : ∃ signature c, Answered env e.2.now id signature c e.1) : Attempts e id := by
  obtain ⟨signature, _, hop, -⟩ := h
  obtain ⟨_, c, hc⟩ := hanswered
  exact ⟨signature, hop, by rw [hc.stored]; rfl⟩

theorem Accounted.step {past : List (CredentialState × CredentialCall)}
    (h : Accounted env past s) (hp : Performed env s call s') :
    Accounted env ((s, call) :: past) s' where
  referenced := hp.referenced
  grows e he := by
    rcases List.mem_cons.mp he with rfl | he
    · exact hp.grows
    · exact (h.grows e he).trans hp.grows
  good e he code hcreates := by
    rcases List.mem_cons.mp he with rfl | he
    · obtain ⟨x, hx, hdigest, -, hbefore⟩ := (hp.creates code hcreates).good
      exact ⟨x, mem_of_get? hx, hdigest, hbefore⟩
    · exact h.good e he code hcreates
  spent e he code hcreates := by
    rcases List.mem_cons.mp he with rfl | he
    · exact (hp.creates code hcreates).spent
    · obtain ⟨x, hx, hdigest, hset⟩ := h.spent e he code hcreates
      obtain ⟨x', hx', hdigest', hset'⟩ := hp.grows.enrollments x.id x hx
      have hid : x'.id = x.id := key_of_get? hx'
      exact ⟨x', hid.symm ▸ hx', hdigest'.trans hdigest, hset' hset⟩
  codes code := by
    refine List.pairwise_cons.mpr ⟨fun e he hboth => ?_, h.codes code⟩
    -- the code was spent by the earlier call, and good in the later one
    obtain ⟨x, hx, hdigest, hset⟩ := h.spent e he code hboth.2
    obtain ⟨y, hy, hdigest', hnone, -⟩ := (hp.creates code hboth.1).good
    rw [enrollment_unique hx hy (hdigest.trans hdigest'.symm)] at hset
    exact hset hnone
  used e he id hattempts := by
    rcases List.mem_cons.mp he with rfl | he
    · exact hp.attempts id hattempts
    · obtain ⟨c, hc, hset⟩ := h.used e he id hattempts
      obtain ⟨c', hc', hset'⟩ := hp.grows.challenges id c hc
      exact ⟨c', hc', hset' hset⟩
  answered e he id token hissues := by
    rcases List.mem_cons.mp he with rfl | he
    · exact hp.issues id token hissues
    · exact h.answered e he id token hissues
  challenges id token token' := by
    refine List.pairwise_cons.mpr ⟨fun e he hboth => ?_, h.challenges id token token'⟩
    obtain ⟨c, hc, hset⟩ := h.used e he id (hboth.2.attempts (h.answered e he id token' hboth.2))
    obtain ⟨_, c', hanswered⟩ := hp.issues id token hboth.1
    rw [Option.mem_unique hc hanswered.stored] at hset
    exact hset hanswered.unused
  sessions x hx := by
    rcases hp.sessions x hx with hold | ⟨id, c, hissues, hc, hdigest, hworker⟩
    · obtain ⟨e, he, rest⟩ := h.sessions x hold
      exact ⟨e, .tail _ he, rest⟩
    · exact ⟨(s, call), .head _, id, c, hissues, hc, hdigest, hworker⟩

instance (env : WorkerCrypto) (d : CredentialDraws) (s : CredentialState) :
    Decidable (FreshDraws env d s) :=
  decidable_of_iff (s.enrollments.get? d.enrollmentId = none ∧ s.challenges.get? d.challengeId =
    none ∧ s.sessions.get? d.sessionId = none ∧ s.audit.get? d.auditId = none
      ∧ (∀ e ∈ s.enrollments.rows, e.tokenDigest ≠ env.sha256 d.code)
      ∧ ∀ x ∈ s.sessions.rows, x.tokenDigest ≠ env.sha256 d.token)
    (by
      constructor
      · rintro ⟨h₁, h₂, h₃, h₄, h₅, h₆⟩
        exact ⟨h₁, h₂, h₃, h₄, h₅, h₆⟩
      · intro h
        exact ⟨h.enrollmentId, h.challengeId, h.sessionId, h.auditId, h.code, h.token⟩)

namespace CredentialSample

/-- The key of the one worker. -/
def workerKey : Bytes := List.replicate 32 7

/-- A text of a given length. -/
def padded (n : Nat) (text : String) : String := String.ofList (text.toList.takeD n '0')

theorem padded_length (n : Nat) (text : String) : (padded n text).length = n := by
  simp [padded]

/-- A cryptography small enough to compute with: a text is its own digest,
up to its length, and only one key signs. -/
def library : WorkerCrypto where
  sha256 := padded 64
  sha256_length := padded_length 64
  ed25519 key _ signature := decide (key = workerKey) && decide (signature = List.replicate 64 1)
  enrollmentTtl := 600
  challengeTtl := 60
  sessionTtl := 900

/-- The `n`th call. -/
def nthCall (n : Nat) (op : CredentialOp) : CredentialCall where
  now := n
  draws :=
    { enrollmentId := .ofNat _ (10 * n)
      challengeId := .ofNat _ (10 * n)
      sessionId := .ofNat _ (10 * n)
      auditId := .ofNat _ (10 * n)
      code := "code" ++ n.repr
      nonce := "nonce"
      token := "token" ++ n.repr }
  op := op

def issued : CredentialCall := nthCall 1 (.createEnrollment "operator")
def enrolled : CredentialCall :=
  nthCall 2 (.enroll "code1" ⟨5, "first", "host", "linux", workerKey, 1, 1⟩)
def challenged : CredentialCall := nthCall 3 (.createChallenge 5)
def exchanged : CredentialCall := nthCall 4 (.exchangeChallenge 30 (List.replicate 64 1))
def replayed : CredentialCall := nthCall 5 (.exchangeChallenge 30 (List.replicate 64 1))

def empty : CredentialState := ⟨.empty _, .empty _, .empty _, .empty _, .empty _⟩

/-- The tables after the calls. -/
def tables (calls : List CredentialCall) : CredentialState :=
  (credentialMachine library).runs calls empty

theorem history : (credentialMachine library).History
    [(tables [issued, enrolled, challenged], exchanged), (tables [issued, enrolled], challenged),
      (tables [issued], enrolled), (empty, issued)]
    (tables [issued, enrolled, challenged, exchanged]) :=
  .step (.step (.step (.step (.init ⟨rfl, rfl⟩)
    (show FreshDraws library issued.draws empty by decide))
    (show FreshDraws library enrolled.draws (tables [issued]) by decide))
    (show FreshDraws library challenged.draws (tables [issued, enrolled]) by decide))
    (show FreshDraws library exchanged.draws (tables [issued, enrolled, challenged]) by decide)

end CredentialSample

end ThreadsPlatform.WorkerCredentials
