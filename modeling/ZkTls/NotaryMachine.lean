import ZkTls.LabelledRun
import ZkTls.NotarizeResponse
import ZkTls.NotarySessions

/-!
# The notary as a machine

A handler is suspended at a store operation or at an await. One step resumes
one handler with what it was waiting for, or runs one detached failure task,
and goes on to the next suspension. Every upstream outcome is an input.
-/

set_option autoImplicit false

namespace ZkTls.NotaryMachine
open ZkTls.JsonTree ZkTls.CoreTypes ZkTls.VerificationTemplates ZkTls.FieldExtraction
open ZkTls.SessionProofs ZkTls.NotarizeResponse ZkTls.NotarySessions ZkTls.FiniteStore
open ZkTls.LabelledRun

variable {P : Platform}

structure Notary (P : Platform) where
  keypair : NotaryKeyPair P
  templates : TemplateRegistry
  allowedHostnames : List String

structure NotarizeRequest where
  templateId : String
  requestBody : Option Json
  disclosure : Option DisclosureMask

structure ErrorReply where
  status : ℕ
  error : String

structure NotarizeReply where
  sessionId : String
  proof : SessionProof
  attestation : Attestation

/-- The checks before a session exists. -/
def checkRequest (N : Notary P) (req : NotarizeRequest) : Except ErrorReply VerificationTemplate :=
  match VerificationTemplates.get N.templates req.templateId with
  | none => .error ⟨404, "template not found: " ++ req.templateId⟩
  | some template =>
    if N.allowedHostnames ≠ [] ∧ template.target.hostname ∉ N.allowedHostnames then
      .error ⟨403, "hostname not allowed: " ++ template.target.hostname⟩
    else .ok template

/-- An admitted request. -/
structure Job (N : Notary P) where
  request : NotarizeRequest
  template : VerificationTemplate
  admitted : checkRequest N request = .ok template

/-- An admitted request with its session. -/
structure Fetch (N : Notary P) extends Job N where
  sessionId : String
  createdAt : DateTime

/-- The last nonempty token among the cookies of the configured name. A
header that is not text is skipped. -/
def csrfToken (cfg : CsrfConfig) (setCookies : List (Option String)) :
    Option (String × String) :=
  let start := (cfg.cookieName ++ "=").toList
  setCookies.foldl
    (fun token header =>
      match header with
      | none => token
      | some val =>
        if start.isPrefixOf val.toList then
          let value := (val.toList.drop start.length).takeWhile (· != ';')
          if value = [] then token else some (cfg.headerName, String.ofList value)
        else token)
    none

/-- The part of the main request that depends on the job. -/
structure Outgoing where
  method : HttpMethod
  url : String
  referer : Option String
  csrfHeader : Option (String × String)
  body : Option Json

section Handler
variable {N : Notary P}

def Job.origin (job : Job N) : String := "https://" ++ job.template.target.hostname

/-- Only a POST carries a body, a referer and the token. -/
def Job.outgoing (job : Job N) (token : Option (String × String)) : Outgoing :=
  let url := job.origin ++ job.template.target.path
  match job.template.target.method with
  | .get => ⟨.get, url, none, none, none⟩
  | .post =>
    { method := .post
      url := url
      referer := some ((job.template.target.refererPath.map (job.origin ++ ·)).getD
        (job.origin ++ "/"))
      csrfHeader := token
      body := some (job.request.requestBody.getD .null) }

def Fetch.certHash (f : Fetch N) : Bytes := certHashOf P f.template

def Fetch.issue (f : Fetch N) (responseBody : String) (clock : IssueClock) :
    Except Rejection (SessionProof × Attestation) :=
  NotarizeResponse.issue N.keypair f.template f.request.disclosure f.sessionId responseBody
    f.certHash clock

/-- Where a handler with a session is suspended. -/
inductive Phase (f : Fetch N) where
  | created
  | jitter
  | csrfSent (cfg : CsrfConfig)
  | csrfPause (token : Option (String × String))
  | sent (out : Outgoing)
  | draining (code : ℕ) (url : String)
  | reading
  | fetched (body : String)
  | stored (body : String)
  | signed (body : String) (clock : IssueClock) (proof : SessionProof)
      (attestation : Attestation) (issued : f.issue body clock = .ok (proof, attestation))

/-- How a handler with a session ends. -/
inductive Exit (f : Fetch N) where
  | clientFailed (e : String)
  | fetchFailed (e : String)
  | badStatus (code : ℕ) (url : String) (bytes : ℕ)
  | unreadable (e : String)
  | rejected (body : String) (clock : IssueClock) (r : Rejection)
      (refused : f.issue body clock = .error r)
  | completed (body : String) (clock : IssueClock) (proof : SessionProof)
      (attestation : Attestation) (issued : f.issue body clock = .ok (proof, attestation))

variable {f : Fetch N}

def fetchFailedMsg (e : String) : String := "fetch failed: " ++ e

def badStatusMsg (templateId : String) (code : ℕ) (url : String) (bytes : ℕ) : String :=
  "target returned HTTP " ++ code.repr ++ " for template=" ++ templateId ++ " url=" ++ url ++
    " body_bytes=" ++ bytes.repr

def Exit.reply : Exit f → Except ErrorReply NotarizeReply
  | .clientFailed e => .error ⟨500, "failed to build http client: " ++ e⟩
  | .fetchFailed e => .error ⟨502, fetchFailedMsg e⟩
  | .badStatus code url bytes => .error ⟨502, badStatusMsg f.template.id code url bytes⟩
  | .unreadable e => .error ⟨502, "failed to read response body: " ++ e⟩
  | .rejected _ _ r _ => .error ⟨422, r.error⟩
  | .completed _ _ proof attestation _ => .ok ⟨f.sessionId, proof, attestation⟩

/-- The reason handed to the detached failure task, on the exits that spawn
one. -/
def Exit.setFailed : Exit f → Option String
  | .fetchFailed e => some (fetchFailedMsg e)
  | .badStatus code url bytes => some (badStatusMsg f.template.id code url bytes)
  | _ => none

/-- A store update whose result the handler discards. -/
inductive Write where
  | setState (state : SessionState)
  | setResponse (body : String) (certHash : Bytes)
  | setProof (proof : SessionProof) (attestation : Attestation)

def Write.apply (store : SessionStore) (id : String) :
    Write → SessionStore × Except NotaryError Unit
  | .setState state => updateState store id state
  | .setResponse body certHash => storeResponse store id body certHash
  | .setProof proof attestation => storeProof store id proof attestation

/-- What a suspended handler is resumed with. -/
inductive Input where
  | proceed
  | clientBuilt
  | clientFailed (e : String)
  | csrfReply (setCookies : List (Option String))
  | csrfFailed
  | sendFailed (e : String)
  | status (code : ℕ) (url : String)
  | drained (bytes : Option ℕ)
  | text (body : Except String String)
  | judge (clock : IssueClock)

inductive Next (f : Fetch N) where
  | goOn (p : Phase f)
  | exit (x : Exit f)

/-- From one suspension of a handler to the next, with the store update it
performs on the way. -/
def advance (f : Fetch N) : Phase f → Input → Option (Option Write × Next f)
  | .created, .proceed => some (some (.setState .fetching), .goOn .jitter)
  | .jitter, .clientFailed e => some (none, .exit (.clientFailed e))
  | .jitter, .clientBuilt =>
    match f.template.target.csrf with
    | some cfg => some (none, .goOn (.csrfSent cfg))
    | none => some (none, .goOn (.sent (f.outgoing none)))
  | .csrfSent cfg, .csrfReply setCookies =>
    some (none, .goOn (.csrfPause (csrfToken cfg setCookies)))
  | .csrfSent _, .csrfFailed => some (none, .goOn (.csrfPause none))
  | .csrfPause token, .proceed => some (none, .goOn (.sent (f.outgoing token)))
  | .sent _, .sendFailed e => some (none, .exit (.fetchFailed e))
  | .sent _, .status code url =>
    if 200 ≤ code ∧ code < 300 then some (none, .goOn .reading)
    else some (none, .goOn (.draining code url))
  | .draining code url, .drained bytes =>
    some (none, .exit (.badStatus code url (bytes.getD 0)))
  | .reading, .text (.error e) => some (none, .exit (.unreadable e))
  | .reading, .text (.ok body) => some (none, .goOn (.fetched body))
  | .fetched body, .proceed => some (some (.setResponse body f.certHash), .goOn (.stored body))
  | .stored body, .judge clock =>
    -- the checks, the extraction and the signature run before the next await
    match h : f.issue body clock with
    | .error r => some (some (.setState .committing), .exit (.rejected body clock r h))
    | .ok (proof, attestation) =>
      some (some (.setState .committing), .goOn (.signed body clock proof attestation h))
  | .signed body clock proof attestation h, .proceed =>
    some (some (.setProof proof attestation), .exit (.completed body clock proof attestation h))
  | _, _ => none

end Handler

/-- A request from its arrival to its reply. -/
inductive Stage (N : Notary P) where
  | refused (reply : ErrorReply)
  | creating (job : Job N)
  | live (f : Fetch N) (p : Phase f)
  | returned (f : Fetch N) (x : Exit f)

/-- The store, the handlers, the failure tasks not yet run, the identifiers
handed out, and a record of signatures and of discarded results. -/
structure State (N : Notary P) where
  store : SessionStore
  handlers : Store ℕ (Stage N)
  tasks : List (String × String)
  usedIds : List String
  signatures : List (String × SessionProof)
  discarded : List (Except NotaryError Unit)

def init (N : Notary P) (maxSessions : ℕ) : State N :=
  ⟨NotarySessions.new maxSessions, ∅, [], [], [], []⟩

inductive Action where
  | request (k : ℕ) (req : NotarizeRequest)
  | create (k : ℕ) (uuid : String) (now : DateTime)
  | resume (k : ℕ) (input : Input)
  | runTask (id reason : String)
  | getSession (id : String)

section Step
variable {N : Notary P}

/-- The first stage of a request. -/
def arrival (N : Notary P) (req : NotarizeRequest) : Stage N :=
  match h : checkRequest N req with
  | .error reply => .refused reply
  | .ok template => .creating ⟨req, template, h⟩

def State.write (s : State N) (id : String) : Option Write → State N
  | none => s
  | some w =>
    let r := w.apply s.store id
    { s with store := r.1, discarded := s.discarded ++ [r.2] }

def Next.stage {f : Fetch N} : Next f → Stage N
  | .goOn p => .live f p
  | .exit x => .returned f x

def Next.spawned {f : Fetch N} : Next f → List (String × String)
  | .goOn _ => []
  | .exit x => (x.setFailed.map fun reason => (f.sessionId, reason)).toList

/-- The signature made on the way to a next stage. -/
def Next.signature {f : Fetch N} : Next f → List (String × SessionProof)
  | .goOn (.signed _ _ proof _ _) => [(f.sessionId, proof)]
  | _ => []

def State.place (s : State N) (k : ℕ) {f : Fetch N} (next : Next f) : State N :=
  { s with
    handlers := s.handlers.insert k next.stage
    tasks := s.tasks ++ next.spawned
    signatures := s.signatures ++ next.signature }

def State.arrived (s : State N) (k : ℕ) (req : NotarizeRequest) : State N :=
  { s with handlers := s.handlers.insert k (arrival N req) }

def State.resumed (s : State N) (k : ℕ) {f : Fetch N} (w : Option Write) (next : Next f) :
    State N :=
  (s.write f.sessionId w).place k next

/-- The body of a failure task. -/
def State.failed (s : State N) (id reason : String) : State N :=
  let r := updateState s.store id (.failed reason)
  { s with
    store := r.1
    tasks := s.tasks.erase (id, reason)
    discarded := s.discarded ++ [r.2] }

/-- One step of the notary. Identifiers are fresh. -/
def step (s : State N) : Action → Option (State N)
  | .request k req =>
    if k ∈ s.handlers then none
    else some (s.arrived k req)
  | .create k uuid now =>
    match s.handlers.lookup k with
    | some (.creating job) =>
      if uuid ∈ s.usedIds then none
      else
        match NotarySessions.create s.store job.template.target.hostname job.template.id
            uuid now with
        | (store, .error e) => some
          { s with
            store := store
            handlers := s.handlers.insert k (.refused ⟨503, e.toString⟩) }
        | (store, .ok id) => some
          { s with
            store := store
            handlers := s.handlers.insert k (.live ⟨job, id, now⟩ .created)
            usedIds := id :: s.usedIds }
    | _ => none
  | .resume k input =>
    match s.handlers.lookup k with
    | some (.live f p) =>
      match advance f p input with
      | some (w, next) => some (s.resumed k w next)
      | none => none
    | _ => none
  | .runTask id reason =>
    if (id, reason) ∈ s.tasks then some (s.failed id reason) else none
  | .getSession _ => some s

end Step

end ZkTls.NotaryMachine
