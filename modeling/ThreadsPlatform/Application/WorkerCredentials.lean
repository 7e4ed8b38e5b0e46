/-
Worker credentials: enrollment codes, authentication challenges and
access sessions of `WorkerControlService`.

`enroll` and `exchange_challenge` lock the one row they are about, mark
it and only then know whether the attempt is valid. A refused attempt
commits its mark: the error is raised after the transaction. An
exception inside the transaction, such as a worker id that is taken,
rolls the mark back.

The database keeps digests of the codes and tokens. SHA-256 and Ed25519
are parameters; what a call draws is part of the call, and is fresh. The
other operations of the service write the status of a worker, never its
key: here they are one operation, `changeStatus`.
-/
import ThreadsPlatform.Domain.Basic
import ThreadsPlatform.Relational.Table
import ThreadsPlatform.Relational.Transaction

namespace ThreadsPlatform

open Relational Table

-- ==== tables

/-- `bytes`. -/
abbrev Bytes := List UInt8

/-- A row of `worker_nodes`, as it is registered. -/
structure WorkerNodeRecord where
  workerId : Uuid
  displayName : String
  hostname : String
  platform : String
  publicKey : Option Bytes
  status : WorkerStatus
  maxConcurrentJobs : Int
  maxBrowserSessions : Int
  createdAt : Time
  updatedAt : Time
  deriving DecidableEq

/-- A row of `worker_enrollments`. -/
structure WorkerEnrollment where
  id : Uuid
  tokenDigest : String
  createdAt : Time
  expiresAt : Time
  consumedAt : Option Time
  createdBy : Option String
  deriving DecidableEq

/-- A row of `worker_auth_challenges`. -/
structure WorkerAuthChallenge where
  id : Uuid
  workerId : Uuid
  nonce : String
  issuedAt : Time
  expiresAt : Time
  usedAt : Option Time
  deriving DecidableEq

/-- A row of `worker_sessions`. -/
structure WorkerSession where
  id : Uuid
  workerId : Uuid
  tokenDigest : String
  issuedAt : Time
  expiresAt : Time
  revokedAt : Option Time
  deriving DecidableEq

/-- A row of `worker_audit_events`. -/
structure WorkerAuditEvent where
  id : Uuid
  workerId : Option Uuid
  enrollmentId : Option Uuid
  eventType : String
  detailCode : Option String
  createdAt : Time
  deriving DecidableEq

/-- `worker_nodes`. -/
def workerNodes : Schema Uuid WorkerNodeRecord where
  key w := w.workerId
  check w := decide (w.displayName.length ≤ 255) && decide (w.hostname.length ≤ 255)
    && decide (w.platform.length ≤ 80) && decide (0 < w.maxConcurrentJobs)
    && decide (0 < w.maxBrowserSessions)
    && w.publicKey.all fun key => decide (key.length = 32)
  clash _ _ := false

/-- `worker_enrollments`: a digest is unique. -/
def workerEnrollments : Schema Uuid WorkerEnrollment where
  key e := e.id
  check e := e.createdBy.all fun name => decide (name.length ≤ 255)
  clash a b := decide (a.tokenDigest = b.tokenDigest)

/-- `worker_auth_challenges`. -/
def workerAuthChallenges : Schema Uuid WorkerAuthChallenge where
  key c := c.id
  check c := decide (c.nonce.length ≤ 100)
  clash _ _ := false

/-- `worker_sessions`: a digest is unique. -/
def workerSessions : Schema Uuid WorkerSession where
  key x := x.id
  check _ := true
  clash a b := decide (a.tokenDigest = b.tokenDigest)

/-- `worker_audit_events`. -/
def workerAuditEvents : Schema Uuid WorkerAuditEvent where
  key e := e.id
  check _ := true
  clash _ _ := false

/-- The tables. -/
structure CredentialState where
  workers : Table workerNodes
  enrollments : Table workerEnrollments
  challenges : Table workerAuthChallenges
  sessions : Table workerSessions
  audit : Table workerAuditEvents

-- ==== environment

/-- The codes of a `WorkerControlError`, and what aborts a transaction. -/
inductive CredentialFailure where
  | invalidPublicKey | enrollmentInvalidOrExpired | workerNotAuthenticatable
  | authChallengeInvalid | authChallengeExpiredOrReplayed | authSignatureInvalid
  /-- The `ValueError` of a record that is not valid. -/
  | value
  /-- An `IntegrityError`. -/
  | integrity
  deriving DecidableEq

/-- The text of a code. -/
def CredentialFailure.text : CredentialFailure → String
  | .invalidPublicKey => "INVALID_PUBLIC_KEY"
  | .enrollmentInvalidOrExpired => "ENROLLMENT_INVALID_OR_EXPIRED"
  | .workerNotAuthenticatable => "WORKER_NOT_AUTHENTICATABLE"
  | .authChallengeInvalid => "AUTH_CHALLENGE_INVALID"
  | .authChallengeExpiredOrReplayed => "AUTH_CHALLENGE_EXPIRED_OR_REPLAYED"
  | .authSignatureInvalid => "AUTH_SIGNATURE_INVALID"
  | .value => "ValueError"
  | .integrity => "IntegrityError"

/-- The cryptography, and the lifetimes the service is configured with. -/
structure WorkerCrypto where
  /-- The hexadecimal digest. -/
  sha256 : String → String
  sha256_length : ∀ text, (sha256 text).length = 64
  /-- Ed25519: does the signature of the message verify under the key? -/
  ed25519 : Bytes → String → Bytes → Bool
  enrollmentTtl : Duration
  challengeTtl : Duration
  sessionTtl : Duration

/-- What one call draws. -/
structure CredentialDraws where
  enrollmentId : Uuid
  challengeId : Uuid
  sessionId : Uuid
  auditId : Uuid
  code : String
  nonce : String
  token : String

/-- `challenge_message`. -/
def challengeMessage (challengeId : Uuid) (nonce : String) : String :=
  "threads-platform-worker-auth-v1\n" ++ challengeId.str ++ "\n" ++ nonce

/-- `verify_worker_signature`. -/
def verifyWorkerSignature (env : WorkerCrypto) (publicKey : Bytes) (message : String)
    (signature : Bytes) : Bool :=
  decide (publicKey.length = 32) && decide (signature.length = 64)
    && env.ed25519 publicKey message signature

namespace WorkerCredentials

variable (env : WorkerCrypto)

/-- What is returned, or raised, after a commit, and the tables that were
committed. -/
abbrev Settled (α : Type) := Except CredentialFailure α × CredentialState

/-- `add_audit_event`. -/
def addAuditEvent (d : CredentialDraws) (now : Time) (eventType : String)
    (workerId enrollmentId : Option Uuid) (detailCode : Option String) (s : CredentialState) :
    Except CredentialFailure CredentialState := do
  require (workerId.all (fun id => (s.workers.get? id).isSome) = true
    ∧ enrollmentId.all (fun id => (s.enrollments.get? id).isSome) = true) .integrity
  let audit ← orThrow (s.audit.insert ⟨d.auditId, workerId, enrollmentId, eventType, detailCode,
    now⟩) .integrity
  return { s with audit }

-- ==== enrollment

/-- `create_enrollment`: the code, and when it expires. -/
def createEnrollment (d : CredentialDraws) (now : Time) (createdBy : String)
    (s : CredentialState) : Except CredentialFailure (Settled (String × Time)) := do
  require ((env.sha256 d.code).length = 64) .value
  let enrollment : WorkerEnrollment :=
    { id := d.enrollmentId
      tokenDigest := env.sha256 d.code
      createdAt := now
      expiresAt := now + env.enrollmentTtl
      consumedAt := none
      createdBy := some createdBy }
  let enrollments ← orThrow (s.enrollments.insert enrollment) .integrity
  let s ← addAuditEvent d now "worker.enrollment.issued" none (some enrollment.id) none
    { s with enrollments }
  return (.ok (d.code, enrollment.expiresAt), s)

/-- What a worker registers with. -/
structure WorkerProfile where
  workerId : Uuid
  displayName : String
  hostname : String
  platform : String
  publicKey : Bytes
  maxConcurrentJobs : Int
  maxBrowserSessions : Int

/-- `get_enrollment_for_update`. -/
def enrollmentOf (s : CredentialState) (code : String) : Option WorkerEnrollment :=
  s.enrollments.rows.find? fun e => decide (e.tokenDigest = env.sha256 code)

/-- The worker of a valid enrollment. -/
def addWorker (now : Time) (profile : WorkerProfile) (s : CredentialState) :
    Except CredentialFailure CredentialState := do
  require ((notBlank profile.displayName && notBlank profile.hostname
    && notBlank profile.platform) = true) .value
  require (1 ≤ profile.maxConcurrentJobs) .value
  require (1 ≤ profile.maxBrowserSessions) .value
  let workers ← orThrow (s.workers.insert
    { workerId := profile.workerId
      displayName := profile.displayName
      hostname := profile.hostname
      platform := profile.platform
      publicKey := some profile.publicKey
      status := .registering
      maxConcurrentJobs := profile.maxConcurrentJobs
      maxBrowserSessions := profile.maxBrowserSessions
      createdAt := now
      updatedAt := now }) .integrity
  return { s with workers }

/-- An enrollment is refused. -/
def rejectEnrollment (d : CredentialDraws) (now : Time) (enrollmentId : Option Uuid)
    (s : CredentialState) : Except CredentialFailure (Settled Uuid) := do
  let s ← addAuditEvent d now "worker.enrollment.rejected" none enrollmentId
    (some "INVALID_OR_EXPIRED") s
  return (.error .enrollmentInvalidOrExpired, s)

/-- An enrollment is valid. -/
def admitWorker (d : CredentialDraws) (now : Time) (profile : WorkerProfile)
    (enrollmentId : Uuid) (s : CredentialState) : Except CredentialFailure (Settled Uuid) := do
  let s ← addWorker now profile s
  let s ← addAuditEvent d now "worker.enrolled" (some profile.workerId) (some enrollmentId) none s
  return (.ok profile.workerId, s)

/-- The enrollment row is marked, whatever comes of it. -/
def consumeEnrollment (d : CredentialDraws) (now : Time) (profile : WorkerProfile)
    (enrollment : WorkerEnrollment) (s : CredentialState) :
    Except CredentialFailure (Settled Uuid) := do
  let enrollments ← orThrow (s.enrollments.update { enrollment with consumedAt := some now })
    .integrity
  if enrollment.consumedAt = none ∧ now < enrollment.expiresAt then
    admitWorker d now profile enrollment.id { s with enrollments }
  else rejectEnrollment d now (some enrollment.id) { s with enrollments }

/-- `enroll`. -/
def enroll (d : CredentialDraws) (now : Time) (code : String) (profile : WorkerProfile)
    (s : CredentialState) : Except CredentialFailure (Settled Uuid) := do
  require (profile.publicKey.length = 32) .invalidPublicKey
  match enrollmentOf env s code with
  | none => rejectEnrollment d now none s
  | some enrollment => consumeEnrollment d now profile enrollment s

-- ==== challenges

/-- `create_challenge`: the challenge's id, its nonce and when it expires. -/
def createChallenge (d : CredentialDraws) (now : Time) (workerId : Uuid) (s : CredentialState) :
    Except CredentialFailure (Settled (Uuid × String × Time)) := do
  require (notBlank d.nonce = true) .value
  require (((s.workers.get? workerId).any
    fun w => w.publicKey.isSome && decide (w.status ≠ .disabled)) = true) .workerNotAuthenticatable
  let challenge : WorkerAuthChallenge :=
    { id := d.challengeId
      workerId := workerId
      nonce := d.nonce
      issuedAt := now
      expiresAt := now + env.challengeTtl
      usedAt := none }
  let challenges ← orThrow (s.challenges.insert challenge) .integrity
  let s ← addAuditEvent d now "worker.auth.challenge_issued" (some workerId) none none
    { s with challenges }
  return (.ok (challenge.id, challenge.nonce, challenge.expiresAt), s)

/-- The signature is the worker's, of this challenge. -/
def signatureValid (worker : WorkerNodeRecord) (challenge : WorkerAuthChallenge)
    (signature : Bytes) : Bool :=
  worker.publicKey.any fun key =>
    verifyWorkerSignature env key (challengeMessage challenge.id challenge.nonce) signature

/-- The session of an exchange that is valid: the token, and when it
expires. -/
def issueSession (d : CredentialDraws) (now : Time) (workerId : Uuid) (s : CredentialState) :
    Except CredentialFailure (Settled (String × Time)) := do
  require ((env.sha256 d.token).length = 64) .value
  require ((s.workers.get? workerId).isSome = true) .integrity
  let sessions ← orThrow (s.sessions.insert
    { id := d.sessionId
      workerId := workerId
      tokenDigest := env.sha256 d.token
      issuedAt := now
      expiresAt := now + env.sessionTtl
      revokedAt := none }) .integrity
  let s ← addAuditEvent d now "worker.auth.session_issued" (some workerId) none none
    { s with sessions }
  return (.ok (d.token, now + env.sessionTtl), s)

/-- An exchange is refused. -/
def rejectExchange (d : CredentialDraws) (now : Time) (workerId : Uuid)
    (error : CredentialFailure) (s : CredentialState) :
    Except CredentialFailure (Settled (String × Time)) := do
  let s ← addAuditEvent d now "worker.auth.rejected" (some workerId) none (some error.text) s
  return (.error error, s)

/-- An attempt on a challenge whose window is open or not. -/
def answerChallenge (d : CredentialDraws) (now : Time) (challenge : WorkerAuthChallenge)
    (signature : Bytes) (validWindow : Bool) (s : CredentialState) :
    Except CredentialFailure (Settled (String × Time)) :=
  if validWindow then
    match (s.workers.get? challenge.workerId).filter
        (fun w => signatureValid env w challenge signature) with
    | some worker => issueSession env d now worker.workerId s
    | none => rejectExchange d now challenge.workerId .authSignatureInvalid s
  else rejectExchange d now challenge.workerId .authChallengeExpiredOrReplayed s

/-- The challenge row is marked, whatever comes of it. -/
def useChallenge (d : CredentialDraws) (now : Time) (challenge : WorkerAuthChallenge)
    (signature : Bytes) (s : CredentialState) :
    Except CredentialFailure (Settled (String × Time)) := do
  let challenges ← orThrow (s.challenges.update { challenge with usedAt := some now }) .integrity
  answerChallenge env d now challenge signature
    (challenge.usedAt.isNone && decide (now < challenge.expiresAt)) { s with challenges }

/-- `exchange_challenge`. -/
def exchangeChallenge (d : CredentialDraws) (now : Time) (challengeId : Uuid) (signature : Bytes)
    (s : CredentialState) : Except CredentialFailure (Settled (String × Time)) :=
  match s.challenges.get? challengeId with
  | none => .ok (.error .authChallengeInvalid, s)
  | some challenge => useChallenge env d now challenge signature s

/-- `get_active_session`. -/
def activeSession (s : CredentialState) (digest : String) (now : Time) : Option WorkerSession :=
  s.sessions.rows.find? fun x => decide (x.tokenDigest = digest) && decide (now < x.expiresAt)
    && x.revokedAt.isNone

/-- `authenticate_session`: the worker, and when the session expires. -/
def authenticateSession (now : Time) (token : String) (s : CredentialState) :
    Option (Uuid × Time) := do
  if token = "" then none
  else
    let x ← activeSession s (env.sha256 token) now
    let worker ← (s.workers.get? x.workerId).filter fun w => decide (w.status ≠ .disabled)
    return (worker.workerId, x.expiresAt)

-- ==== machine

/-- The operations, with their arguments. -/
inductive CredentialOp where
  | createEnrollment (createdBy : String)
  | enroll (code : String) (profile : WorkerProfile)
  | createChallenge (workerId : Uuid)
  | exchangeChallenge (challengeId : Uuid) (signature : Bytes)
  | authenticateSession (token : String)
  /-- The service's other operations. -/
  | changeStatus (workerId : Uuid) (status : WorkerStatus)

/-- One call: when, with which draws, what. -/
structure CredentialCall where
  now : Time
  draws : CredentialDraws
  op : CredentialOp

/-- What a call returns. -/
inductive CredentialReply where
  | failed (error : CredentialFailure)
  | enrollment (code : String) (expiresAt : Time)
  | enrolled (workerId : Uuid)
  | challenge (challengeId : Uuid) (nonce : String) (expiresAt : Time)
  | session (token : String) (expiresAt : Time)
  | authenticated (worker : Option (Uuid × Time))
  | changed
  deriving DecidableEq

/-- Commit, or roll back. -/
def finish {α : Type} (reply : α → CredentialReply) (s : CredentialState) :
    Except CredentialFailure (Settled α) → CredentialReply × CredentialState
  | .error e => (.failed e, s)
  | .ok (.error e, s') => (.failed e, s')
  | .ok (.ok a, s') => (reply a, s')

/-- The status of a worker, whatever it was. -/
def changeStatus (workerId : Uuid) (status : WorkerStatus) (s : CredentialState) :
    CredentialState :=
  match (s.workers.get? workerId).bind fun w => s.workers.update { w with status := status } with
  | none => s
  | some workers => { s with workers }

/-- A call: its reply, and the tables after it. -/
def CredentialCall.perform (call : CredentialCall) (s : CredentialState) :
    CredentialReply × CredentialState :=
  match call.op with
  | .createEnrollment createdBy =>
    finish (fun r => .enrollment r.1 r.2) s
      (WorkerCredentials.createEnrollment env call.draws call.now createdBy s)
  | .enroll code profile =>
    finish .enrolled s (WorkerCredentials.enroll env call.draws call.now code profile s)
  | .createChallenge workerId =>
    finish (fun r => .challenge r.1 r.2.1 r.2.2) s
      (WorkerCredentials.createChallenge env call.draws call.now workerId s)
  | .exchangeChallenge challengeId signature =>
    finish (fun r => .session r.1 r.2) s
      (WorkerCredentials.exchangeChallenge env call.draws call.now challengeId signature s)
  | .authenticateSession token =>
    (.authenticated (WorkerCredentials.authenticateSession env call.now token s), s)
  | .changeStatus workerId status =>
    (.changed, WorkerCredentials.changeStatus workerId status s)

/-- The draws are new: no id is stored, and no digest. -/
structure FreshDraws (d : CredentialDraws) (s : CredentialState) : Prop where
  enrollmentId : s.enrollments.get? d.enrollmentId = none
  challengeId : s.challenges.get? d.challengeId = none
  sessionId : s.sessions.get? d.sessionId = none
  auditId : s.audit.get? d.auditId = none
  code : ∀ e ∈ s.enrollments.rows, e.tokenDigest ≠ env.sha256 d.code
  token : ∀ x ∈ s.sessions.rows, x.tokenDigest ≠ env.sha256 d.token

/-- Any calls, in any order, from before the first challenge. The workers
and codes that are there at first are any. -/
def credentialMachine : Machine CredentialState CredentialCall where
  init s := s.challenges.rows = [] ∧ s.sessions.rows = []
  enabled s call := FreshDraws env call.draws s
  step s call := (call.perform env s).2

end WorkerCredentials

end ThreadsPlatform
