import ZkTls.NotaryJournal

/-!
# What the log of a running notary keeps to itself

Two runs are compared whose clients send other request bodies, whose portals
hand out other tokens and answer with other values of the same shape. They
go on in step: every log record, every error reply, every session state and
every count is the same, up to the portal's own message where it denies the
voter.
-/

set_option autoImplicit false

namespace ZkTls.JournalPrivacy
open ZkTls.JsonTree ZkTls.JsonText ZkTls.CoreTypes ZkTls.VerificationTemplates
open ZkTls.FieldExtraction ZkTls.FiniteStore ZkTls.SessionProofs ZkTls.NotarizeResponse
open ZkTls.LabelledRun ZkTls.NotarySessions ZkTls.NotaryMachine ZkTls.SessionLifecycle
open ZkTls.ExtractionLaws ZkTls.NotarizeLogs ZkTls.NotaryJournal ZkTls.RecordedPlatform

section Bodies
variable {P : Platform} {N : Notary P}

/-- Bodies of one length that parse to one shape, or fail with one error. -/
structure BodyAlike (P : Platform) (body body' : String) : Prop where
  length : bodyLen body = bodyLen body'
  parsed : (∃ e, P.fromStr body = .error e ∧ P.fromStr body' = .error e) ∨
    ∃ json json', P.fromStr body = .ok json ∧ P.fromStr body' = .ok json' ∧
      Json.SameShape json json'

theorem bodyAlike_refl (body : String) : BodyAlike P body body := by
  refine ⟨rfl, ?_⟩
  cases h : P.fromStr body with
  | error e => exact Or.inl ⟨e, rfl, rfl⟩
  | ok json => exact Or.inr ⟨json, json, rfl, rfl, Json.sameShape_refl json⟩

/-- Requests for one template under one mask. -/
structure JobAlike (job job' : Job N) : Prop where
  template : job.template = job'.template
  mask : job.request.disclosure = job'.request.disclosure

structure FetchAlike (f f' : Fetch N) : Prop extends JobAlike f.toJob f'.toJob where
  sessionId : f.sessionId = f'.sessionId
  createdAt : f.createdAt = f'.createdAt

/-- Attestations that show the same names and hide as many values. -/
structure AttestationAlike (a a' : Attestation) : Prop where
  names : a.disclosedFields.keys = a'.disclosedFields.keys
  hidden : a.redactedFieldHashes.length = a'.redactedFieldHashes.length

inductive IssuedAlike : Except Rejection (SessionProof × Attestation) →
    Except Rejection (SessionProof × Attestation) → Prop
  | error (r : Rejection) : IssuedAlike (.error r) (.error r)
  | ok (proof proof' : SessionProof) (a a' : Attestation) (h : AttestationAlike a a') :
      IssuedAlike (.ok (proof, a)) (.ok (proof', a'))

theorem issue_unparsed (f : Fetch N) (body : String) (clock : IssueClock) (e : String)
    (h : P.fromStr body = .error e) :
    f.issue body clock = .error (.extraction (.extractionFailed ("invalid JSON: " ++ e))) := by
  unfold Fetch.issue NotarizeResponse.issue
  simp [h, extractFields, Except.toOption, isEmptyObject, voterIsNull]

theorem issue_parsed (f : Fetch N) (body : String) (clock : IssueClock) (json : Json)
    (h : P.fromStr body = .ok json) :
    f.issue body clock =
      (judge P f.template f.request.disclosure json).map fun out =>
        (generateProof f.template.target.hostname body f.certHash N.keypair clock.proofTime,
          buildAttestation f.template f.sessionId out clock) := by
  have hparse : (P.fromStr body).toOption = some json := by rw [h]; rfl
  unfold Fetch.issue NotarizeResponse.issue judge
  simp only [hparse]
  rw [extractFields_parsed P _ _ body json h]
  split_ifs
  · rfl
  · rfl
  · cases extractFrom P json f.template.fields (effectiveMask f.template f.request.disclosure) <;>
      rfl

/-- Alike bodies meet alike verdicts. -/
theorem issue_alike (f f' : Fetch N) (hf : FetchAlike f f') (body body' : String)
    (h : BodyAlike P body body') (clock : IssueClock) :
    IssuedAlike (f.issue body clock) (f'.issue body' clock) := by
  rcases h.parsed with ⟨e, he, he'⟩ | ⟨json, json', hjson, hjson', hshape⟩
  · rw [issue_unparsed f body clock e he, issue_unparsed f' body' clock e he']
    exact .error _
  · rw [issue_parsed f body clock json hjson, issue_parsed f' body' clock json' hjson',
      ← hf.template, ← hf.mask]
    have halike := judge_alike P f.template f.request.disclosure json json' hshape
    generalize judge P f.template f.request.disclosure json = v at halike ⊢
    generalize judge P f.template f.request.disclosure json' = v' at halike ⊢
    cases halike with
    | error e => exact .error e
    | ok out out' hout => exact .ok _ _ _ _ ⟨hout.1, hout.2⟩

end Bodies

section Handlers
variable {P : Platform} {N : Notary P} {f f' : Fetch N}

/-- Suspensions at one point, with alike bodies in hand. -/
inductive PhaseAlike : Phase f → Phase f' → Prop
  | created : PhaseAlike .created .created
  | jitter : PhaseAlike .jitter .jitter
  | csrfSent (cfg : CsrfConfig) (hcfg : f.template.target.csrf = some cfg) :
      PhaseAlike (.csrfSent cfg) (.csrfSent cfg)
  | csrfPause (token token' : Option (String × String)) :
      PhaseAlike (.csrfPause token) (.csrfPause token')
  | sent (out out' : Outgoing) : PhaseAlike (.sent out) (.sent out')
  | draining (code : ℕ) (url : String) : PhaseAlike (.draining code url) (.draining code url)
  | reading : PhaseAlike .reading .reading
  | fetched (body body' : String) (h : BodyAlike P body body') :
      PhaseAlike (.fetched body) (.fetched body')
  | stored (body body' : String) (h : BodyAlike P body body') :
      PhaseAlike (.stored body) (.stored body')
  | signed (body body' : String) (clock : IssueClock) (proof proof' : SessionProof)
      (a a' : Attestation) (hi : f.issue body clock = .ok (proof, a))
      (hi' : f'.issue body' clock = .ok (proof', a')) (h : AttestationAlike a a') :
      PhaseAlike (.signed body clock proof a hi) (.signed body' clock proof' a' hi')

inductive ExitAlike : Exit f → Exit f' → Prop
  | clientFailed (e : String) : ExitAlike (.clientFailed e) (.clientFailed e)
  | fetchFailed (e : String) : ExitAlike (.fetchFailed e) (.fetchFailed e)
  | badStatus (code : ℕ) (url : String) (bytes : ℕ) :
      ExitAlike (.badStatus code url bytes) (.badStatus code url bytes)
  | unreadable (e : String) : ExitAlike (.unreadable e) (.unreadable e)
  | rejected (body body' : String) (clock : IssueClock) (r : Rejection)
      (hr : f.issue body clock = .error r) (hr' : f'.issue body' clock = .error r)
      (h : BodyAlike P body body') :
      ExitAlike (.rejected body clock r hr) (.rejected body' clock r hr')
  | completed (body body' : String) (clock : IssueClock) (proof proof' : SessionProof)
      (a a' : Attestation) (hi : f.issue body clock = .ok (proof, a))
      (hi' : f'.issue body' clock = .ok (proof', a')) (h : AttestationAlike a a') :
      ExitAlike (.completed body clock proof a hi) (.completed body' clock proof' a' hi')

inductive NextAlike : Next f → Next f' → Prop
  | goOn (p : Phase f) (p' : Phase f') (h : PhaseAlike p p') : NextAlike (.goOn p) (.goOn p')
  | exit (x : Exit f) (x' : Exit f') (h : ExitAlike x x') : NextAlike (.exit x) (.exit x')

variable (N) in
/-- What a handler hears may differ in the tokens and in the values of a body. -/
inductive InputAlike : Input → Input → Prop
  | same (i : Input) : InputAlike i i
  | csrfReply (setCookies setCookies' : List (Option String))
      (hcount : setCookies.length = setCookies'.length)
      (htoken : ∀ template ∈ N.templates.templates, ∀ cfg, template.target.csrf = some cfg →
        (csrfToken cfg setCookies).isSome = (csrfToken cfg setCookies').isSome) :
      InputAlike (.csrfReply setCookies) (.csrfReply setCookies')
  | text (body body' : String) (h : BodyAlike P body body') :
      InputAlike (.text (.ok body)) (.text (.ok body'))

/-- The state a write leaves, if it sets one. -/
def Write.state : Write → Option SessionState
  | .setState state => some state
  | .setResponse _ _ => none
  | .setProof _ _ => some .completed

/-- A record without the portal's own message. -/
def veil (r : LogRecord) : LogRecord := r.without ["error_message"]

theorem exit_logs_alike (hf : FetchAlike f f') (x : Exit f) (x' : Exit f')
    (h : ExitAlike x x') : (Exit.logs x).map veil = (Exit.logs x').map veil := by
  cases h with
  | clientFailed | unreadable => rfl
  | fetchFailed | badStatus => simp [Exit.logs, hf.sessionId, hf.template]
  | rejected body body' clock r hr hr' hbody =>
    cases r with
    | emptyObject | voterNull =>
      simp [Exit.logs, rejectionLog, veil, LogRecord.without, hf.sessionId, hf.template,
        hbody.length]
    | extraction e =>
      have hkeys : topKeys (P.fromStr body).toOption = topKeys (P.fromStr body').toOption := by
        rcases hbody.parsed with ⟨e, he, he'⟩ | ⟨json, json', hjson, hjson', hshape⟩
        · rw [he, he']
        · rw [hjson, hjson']
          exact topKeys_sameShape json json' hshape
      simp [Exit.logs, rejectionLog, hf.sessionId, hf.template, hbody.length, hkeys]
  | completed body body' clock proof proof' a a' hi hi' ha =>
    simp [Exit.logs, completionLog, hf.sessionId, hf.template, ha.names, ha.hidden]

theorem exit_reply_alike (hf : FetchAlike f f') (x : Exit f) (x' : Exit f')
    (h : ExitAlike x x') : Exit.errorReply x = Exit.errorReply x' ∧
      x.setFailed = x'.setFailed := by
  cases h with
  | badStatus => simp [Exit.errorReply, Exit.reply, Exit.setFailed, hf.template]
  | _ => exact ⟨rfl, rfl⟩

theorem advance_rejected (body : String) (clock : IssueClock) (r : Rejection)
    (hr : f.issue body clock = .error r) :
    advance f (.stored body) (.judge clock) =
      some (some (.setState .committing), .exit (.rejected body clock r hr)) := by
  simp only [advance]
  split
  · rename_i q hq
    obtain rfl : r = q := Except.error.inj (hr.symm.trans hq)
    rfl
  · rename_i hq
    cases hr.symm.trans hq

theorem advance_issued (body : String) (clock : IssueClock) (proof : SessionProof)
    (a : Attestation) (hi : f.issue body clock = .ok (proof, a)) :
    advance f (.stored body) (.judge clock) =
      some (some (.setState .committing), .goOn (.signed body clock proof a hi)) := by
  simp only [advance]
  split
  · rename_i hq
    cases hi.symm.trans hq
  · rename_i q b hq
    cases hi.symm.trans hq
    rfl

/-- Alike handlers resumed alike go on alike, leave the same states in the
store and the same records in the log. -/
theorem advance_alike (text : String) (hf : FetchAlike f f') (p : Phase f) (p' : Phase f')
    (hp : PhaseAlike p p') (i i' : Input) (hi : InputAlike N i i') (w : Option Write)
    (next : Next f) (h : advance f p i = some (w, next)) :
    ∃ w' next', advance f' p' i' = some (w', next') ∧ w.map Write.state = w'.map Write.state ∧
      NextAlike next next' ∧
      (emits text f p i next).map veil = (emits text f' p' i' next').map veil := by
  have hexit : ∀ (x : Exit f) (x' : Exit f'), ExitAlike x x' →
      NextAlike (.exit x) (.exit x') ∧ (Exit.logs x).map veil = (Exit.logs x').map veil :=
    fun x x' hx => ⟨.exit x x' hx, exit_logs_alike hf x x' hx⟩
  cases hp with
  | created => cases hi with
    | same => cases i with
      | proceed =>
        cases h
        exact ⟨_, _, rfl, rfl, .goOn _ _ .jitter, rfl⟩
      | _ => cases h
    | _ => cases h
  | jitter => cases hi with
    | same => cases i with
      | clientFailed e =>
        cases h
        exact ⟨_, _, rfl, rfl, hexit _ _ (.clientFailed e)⟩
      | clientBuilt =>
        simp only [advance] at h
        cases hcsrf : f.template.target.csrf with
        | none =>
          have hcsrf' : f'.template.target.csrf = none := by rw [← hf.template, hcsrf]
          rw [hcsrf] at h
          cases h
          exact ⟨none, .goOn (.sent (f'.outgoing none)), by simp only [advance, hcsrf'], rfl,
            .goOn _ _ (.sent _ _), rfl⟩
        | some cfg =>
          have hcsrf' : f'.template.target.csrf = some cfg := by rw [← hf.template, hcsrf]
          rw [hcsrf] at h
          cases h
          exact ⟨none, .goOn (.csrfSent cfg), by simp only [advance, hcsrf'], rfl,
            .goOn _ _ (.csrfSent cfg hcsrf), rfl⟩
      | _ => cases h
    | _ => cases h
  | csrfSent cfg hcfg => cases hi with
    | same => cases i with
      | csrfReply setCookies =>
        cases h
        exact ⟨_, _, rfl, rfl, .goOn _ _ (.csrfPause _ _), by simp [emits, hf.sessionId]⟩
      | csrfFailed =>
        cases h
        exact ⟨_, _, rfl, rfl, .goOn _ _ (.csrfPause _ _), by simp [emits, hf.sessionId]⟩
      | _ => cases h
    | csrfReply setCookies setCookies' hcount htoken =>
      cases h
      have hregistered := (checkRequest_ok f.request f.template f.admitted).1
      have hsome := htoken f.template hregistered cfg hcfg
      refine ⟨_, _, rfl, rfl, .goOn _ _ (.csrfPause _ _), ?_⟩
      simp [emits, csrfLog, hf.sessionId, hcount, hsome]
    | text => cases h
  | csrfPause token token' => cases hi with
    | same => cases i with
      | proceed =>
        cases h
        exact ⟨_, _, rfl, rfl, .goOn _ _ (.sent _ _), rfl⟩
      | _ => cases h
    | _ => cases h
  | sent out out' => cases hi with
    | same => cases i with
      | sendFailed e =>
        cases h
        exact ⟨_, _, rfl, rfl, hexit _ _ (.fetchFailed e)⟩
      | status code url =>
        simp only [advance] at h
        by_cases hcode : 200 ≤ code ∧ code < 300
        · rw [if_pos hcode] at h
          cases h
          exact ⟨none, .goOn .reading, by simp only [advance, if_pos hcode], rfl,
            .goOn _ _ .reading, rfl⟩
        · rw [if_neg hcode] at h
          cases h
          exact ⟨none, .goOn (.draining code url), by simp only [advance, if_neg hcode], rfl,
            .goOn _ _ (.draining code url), rfl⟩
      | _ => cases h
    | _ => cases h
  | draining code url => cases hi with
    | same => cases i with
      | drained bytes =>
        cases h
        exact ⟨_, _, rfl, rfl, hexit _ _ (.badStatus code url _)⟩
      | _ => cases h
    | _ => cases h
  | reading => cases hi with
    | same => cases i with
      | text body => cases body with
        | error e =>
          cases h
          exact ⟨_, _, rfl, rfl, hexit _ _ (.unreadable e)⟩
        | ok body =>
          cases h
          exact ⟨_, _, rfl, rfl, .goOn _ _ (.fetched body body (bodyAlike_refl body)), rfl⟩
      | _ => cases h
    | csrfReply => cases h
    | text body body' hbody =>
      cases h
      exact ⟨_, _, rfl, rfl, .goOn _ _ (.fetched body body' hbody), rfl⟩
  | fetched body body' hbody => cases hi with
    | same => cases i with
      | proceed =>
        cases h
        exact ⟨_, _, rfl, rfl, .goOn _ _ (.stored body body' hbody), rfl⟩
      | _ => cases h
    | _ => cases h
  | stored body body' hbody => cases hi with
    | same => cases i with
      | judge clock =>
        have hissue := issue_alike f f' hf body body' hbody clock
        cases hv : f.issue body clock with
        | error r =>
          rw [hv] at hissue
          generalize hv' : f'.issue body' clock = v' at hissue
          cases hissue
          cases (advance_rejected body clock r hv).symm.trans h
          exact ⟨_, _, advance_rejected body' clock r hv', rfl,
            hexit _ _ (.rejected body body' clock r hv hv' hbody)⟩
        | ok issued =>
          obtain ⟨proof, a⟩ := issued
          rw [hv] at hissue
          generalize hv' : f'.issue body' clock = v' at hissue
          cases hissue with
          | ok proof proof' a a' ha =>
            cases (advance_issued body clock proof a hv).symm.trans h
            exact ⟨_, _, advance_issued body' clock proof' a' hv', rfl,
              .goOn _ _ (.signed body body' clock proof proof' a a' hv hv' ha), rfl⟩
      | _ => cases h
    | _ => cases h
  | signed body body' clock proof proof' a a' hv hv' ha => cases hi with
    | same => cases i with
      | proceed =>
        cases h
        exact ⟨_, _, rfl, rfl,
          hexit _ _ (.completed body body' clock proof proof' a a' hv hv' ha)⟩
      | _ => cases h
    | _ => cases h

end Handlers

section Stores

/-- The state a session is in, if the store has it. -/
def stateIn (store : SessionStore) (id : String) : Option SessionState :=
  (store.sessions.lookup id).map NotarySession.state

/-- Stores with one capacity and the same sessions in the same states. -/
structure StoreAlike (store store' : SessionStore) : Prop where
  capacity : store.maxSessions = store'.maxSessions
  states : ∀ id, stateIn store id = stateIn store' id

theorem keys_alike {m m' : Sessions} (h : ∀ id, (m.lookup id).map NotarySession.state =
    (m'.lookup id).map NotarySession.state) : m.keys = m'.keys := by
  ext id
  have hsome := congrArg Option.isSome (h id)
  rw [Option.isSome_map, Option.isSome_map] at hsome
  rw [Finmap.mem_keys, Finmap.mem_keys, ← Finmap.lookup_isSome, ← Finmap.lookup_isSome, hsome]

theorem filter_state (r : Option NotarySession) :
    (r.filter active).map NotarySession.state =
      (r.map NotarySession.state).filter fun state => !state.terminal := by
  cases r with
  | none => rfl
  | some r =>
    rw [Option.map_some, Option.filter_some, Option.filter_some]
    by_cases h : active r = true
    · rw [if_pos h, if_pos (show (!r.state.terminal) = true from h), Option.map_some]
    · rw [if_neg h, if_neg (show ¬ (!r.state.terminal) = true from h), Option.map_none]

/-- Whether room is made, and what is left then, depends on the states only. -/
theorem makeRoom_alike {store store' : SessionStore} (h : StoreAlike store store')
    (id : String) : ((makeRoom store).lookup id).map NotarySession.state =
      ((makeRoom store').lookup id).map NotarySession.state := by
  have hfull : store.maxSessions ≤ store.sessions.keys.card ↔
      store'.maxSessions ≤ store'.sessions.keys.card := by
    rw [h.capacity, keys_alike h.states]
  unfold makeRoom
  by_cases hroom : store.maxSessions ≤ store.sessions.keys.card
  · rw [if_pos hroom, if_pos (hfull.mp hroom), evictTerminal, evictTerminal, lookup_retain,
      lookup_retain, filter_state, filter_state]
    exact congrArg _ (h.states id)
  · rw [if_neg hroom, if_neg fun hroom' => hroom (hfull.mpr hroom')]
    exact h.states id

theorem withSession_state (store : SessionStore) (id : String)
    (g : NotarySession → NotarySession) (target : Option SessionState)
    (hg : ∀ r, (g r).state = target.getD r.state) (j : String) :
    stateIn (withSession store id g).1 j =
      if j = id then (stateIn store j).map fun state => target.getD state
      else stateIn store j := by
  unfold withSession rewriteAt stateIn
  cases hid : store.sessions.lookup id with
  | none =>
    by_cases hj : j = id
    · subst hj
      simp [hid]
    · simp [hj]
  | some r =>
    by_cases hj : j = id
    · subst hj
      simp [hid, hg]
    · simp [hj]

/-- A write leaves the state it sets, if it sets one and its session is
there. -/
theorem apply_state (w : Write) (store : SessionStore) (id j : String) :
    stateIn (w.apply store id).1 j =
      if j = id then (stateIn store j).map fun state => (Write.state w).getD state
      else stateIn store j := by
  cases w <;> exact withSession_state store id _ _ (fun r => rfl) j

theorem apply_capacity (w : Write) (store : SessionStore) (id : String) :
    (w.apply store id).1.maxSessions = store.maxSessions := by
  cases w <;> exact withSession_capacity store id _

theorem write_alike {P : Platform} {N : Notary P} (s s' : State N)
    (h : StoreAlike s.store s'.store) (id : String) (w w' : Option Write)
    (hw : w.map Write.state = w'.map Write.state) :
    StoreAlike (s.write id w).store (s'.write id w').store := by
  cases w with
  | none => cases w' with
    | none => exact h
    | some w' => cases hw
  | some w => cases w' with
    | none => cases hw
    | some w' =>
      constructor
      · show (w.apply s.store id).1.maxSessions = (w'.apply s'.store id).1.maxSessions
        rw [apply_capacity, apply_capacity, h.capacity]
      · intro j
        show stateIn (w.apply s.store id).1 j = stateIn (w'.apply s'.store id).1 j
        rw [apply_state, apply_state, h.states, Option.some.inj hw]

end Stores

section Runs
variable {P : Platform} {N : Notary P}

inductive StageAlike : Stage N → Stage N → Prop
  | refused (reply : ErrorReply) : StageAlike (.refused reply) (.refused reply)
  | creating (job job' : Job N) (h : JobAlike job job') :
      StageAlike (.creating job) (.creating job')
  | live (f f' : Fetch N) (hf : FetchAlike f f') (p : Phase f) (p' : Phase f')
      (h : PhaseAlike p p') : StageAlike (.live f p) (.live f' p')
  | returned (f f' : Fetch N) (hf : FetchAlike f f') (x : Exit f) (x' : Exit f')
      (h : ExitAlike x x') : StageAlike (.returned f x) (.returned f' x')

variable (N) in
/-- What may differ between the actions of two runs: the body a client asks
to send, and what a handler hears. -/
inductive ActionAlike : Action → Action → Prop
  | request (k : ℕ) (req req' : NotarizeRequest) (hid : req.templateId = req'.templateId)
      (hmask : req.disclosure = req'.disclosure) :
      ActionAlike (.request k req) (.request k req')
  | create (k : ℕ) (uuid : String) (now : DateTime) :
      ActionAlike (.create k uuid now) (.create k uuid now)
  | resume (k : ℕ) (i i' : Input) (h : InputAlike N i i') :
      ActionAlike (.resume k i) (.resume k i')
  | runTask (id reason : String) : ActionAlike (.runTask id reason) (.runTask id reason)
  | getSession (id : String) : ActionAlike (.getSession id) (.getSession id)

structure StateAlike (s s' : State N) : Prop where
  store : StoreAlike s.store s'.store
  handlers : ∀ k, Option.Rel StageAlike (s.handlers.lookup k) (s'.handlers.lookup k)
  tasks : s.tasks = s'.tasks
  usedIds : s.usedIds = s'.usedIds
  signed : s.signatures.map Prod.fst = s'.signatures.map Prod.fst

theorem insert_alike {m m' : Store ℕ (Stage N)}
    (h : ∀ k, Option.Rel StageAlike (m.lookup k) (m'.lookup k)) (k : ℕ) (stage stage' : Stage N)
    (hstage : StageAlike stage stage') (j : ℕ) :
    Option.Rel StageAlike ((m.insert k stage).lookup j) ((m'.insert k stage').lookup j) := by
  rw [lookup_insert_if, lookup_insert_if]
  by_cases hj : j = k
  · rw [if_pos hj, if_pos hj]
    exact .some hstage
  · rw [if_neg hj, if_neg hj]
    exact h j

theorem arrival_alike (req req' : NotarizeRequest) (hid : req.templateId = req'.templateId)
    (hmask : req.disclosure = req'.disclosure) :
    StageAlike (arrival N req) (arrival N req') := by
  have hcheck : checkRequest N req = checkRequest N req' := by
    unfold checkRequest
    rw [hid]
  unfold arrival
  split
  · rename_i reply hreply
    split
    · rename_i reply' hreply'
      cases (hreply.symm.trans hcheck).trans hreply'
      exact .refused reply
    · rename_i template' htemplate'
      cases (hreply.symm.trans hcheck).trans htemplate'
  · rename_i template htemplate
    split
    · rename_i reply' hreply'
      cases (htemplate.symm.trans hcheck).trans hreply'
    · rename_i template' htemplate'
      cases (htemplate.symm.trans hcheck).trans htemplate'
      exact .creating _ _ ⟨rfl, hmask⟩

theorem next_alike {f f' : Fetch N} (hf : FetchAlike f f') (next : Next f) (next' : Next f')
    (h : NextAlike next next') : StageAlike next.stage next'.stage ∧
      next.spawned = next'.spawned ∧
      next.signature.map Prod.fst = next'.signature.map Prod.fst := by
  cases h with
  | goOn p p' hp =>
    refine ⟨.live f f' hf p p' hp, rfl, ?_⟩
    cases hp with
    | signed => simp [Next.signature, hf.sessionId]
    | _ => rfl
  | exit x x' hx =>
    refine ⟨.returned f f' hf x x' hx, ?_, rfl⟩
    simp [Next.spawned, (exit_reply_alike hf x x' hx).2, hf.sessionId]

theorem alike_live {s s' : State N} (h : StateAlike s s') (k : ℕ) (f : Fetch N) (p : Phase f)
    (hk : s.handlers.lookup k = some (.live f p)) : ∃ f' p',
      s'.handlers.lookup k = some (.live f' p') ∧ FetchAlike f f' ∧ PhaseAlike p p' := by
  have hrel := h.handlers k
  rw [hk] at hrel
  generalize hk' : s'.handlers.lookup k = stage' at hrel
  cases hrel with
  | some hstage => cases hstage with
    | live f f' hf p p' hp => exact ⟨f', p', rfl, hf, hp⟩

theorem alike_creating {s s' : State N} (h : StateAlike s s') (k : ℕ) (job : Job N)
    (hk : s.handlers.lookup k = some (.creating job)) : ∃ job',
      s'.handlers.lookup k = some (.creating job') ∧ JobAlike job job' := by
  have hrel := h.handlers k
  rw [hk] at hrel
  generalize hk' : s'.handlers.lookup k = stage' at hrel
  cases hrel with
  | some hstage => cases hstage with
    | creating job job' hjob => exact ⟨job', rfl, hjob⟩

variable (printed : ℕ → String)

theorem request_alike {s s' : State N} (h : StateAlike s s') (k : ℕ)
    (req req' : NotarizeRequest) (hid : req.templateId = req'.templateId)
    (hmask : req.disclosure = req'.disclosure) (hk : k ∉ s.handlers) :
    Stepped s' (.request k req') (s'.arrived k req') ∧
      StateAlike (s.arrived k req) (s'.arrived k req') := by
  have hrel := h.handlers k
  rw [Finmap.lookup_eq_none.mpr hk] at hrel
  generalize hk' : s'.handlers.lookup k = stage' at hrel
  cases hrel
  exact ⟨.request k req' (Finmap.lookup_eq_none.mp hk'), h.store,
    insert_alike h.handlers k _ _ (arrival_alike req req' hid hmask), h.tasks, h.usedIds, h.signed⟩

theorem create_alike {s s' t : State N} (h : StateAlike s s') (k : ℕ) (uuid : String)
    (now : DateTime) (hstep : Stepped s (.create k uuid now) t) :
    ∃ t', Stepped s' (.create k uuid now) t' ∧ StateAlike t t' ∧
      (records printed s (.create k uuid now)).map veil =
        (records printed s' (.create k uuid now)).map veil := by
  have hroom : (makeRoom s.store).keys.card = (makeRoom s'.store).keys.card := by
    rw [keys_alike (makeRoom_alike h.store)]
  cases hstep with
  | overload k uuid now job hk hfresh hfull =>
    obtain ⟨job', hk', hjob⟩ := alike_creating h k job hk
    have hfull' := hfull
    rw [hroom, h.store.capacity] at hfull'
    refine ⟨s'.overloaded k, .overload k uuid now job' hk' (h.usedIds ▸ hfresh) hfull',
      ⟨⟨h.store.capacity, makeRoom_alike h.store⟩, insert_alike h.handlers k _ _ ?_, h.tasks,
        h.usedIds, h.signed⟩, ?_⟩
    · rw [h.store.capacity]
      exact .refused _
    · simp only [records, hk, hk', create_eq, if_pos hfull, if_pos hfull']
  | create k f hk hfresh hfree =>
    obtain ⟨job', hk', hjob⟩ := alike_creating h k f.toJob hk
    have hfree' := hfree
    rw [hroom, h.store.capacity] at hfree'
    have hf : FetchAlike f ⟨job', f.sessionId, f.createdAt⟩ := ⟨hjob, rfl, rfl⟩
    refine ⟨s'.opened k ⟨job', f.sessionId, f.createdAt⟩,
      .create k ⟨job', f.sessionId, f.createdAt⟩ hk' (h.usedIds ▸ hfresh) hfree',
      ⟨⟨h.store.capacity, fun id => ?_⟩, insert_alike h.handlers k _ _ (.live _ _ hf _ _ .created),
        h.tasks, congrArg (List.cons f.sessionId) h.usedIds, h.signed⟩, ?_⟩
    · show (((makeRoom s.store).insert f.sessionId f.fresh).lookup id).map _ =
        (((makeRoom s'.store).insert f.sessionId _).lookup id).map _
      rw [lookup_insert_if, lookup_insert_if]
      by_cases hid : id = f.sessionId
      · rw [if_pos hid, if_pos hid]
        rfl
      · rw [if_neg hid, if_neg hid]
        exact makeRoom_alike h.store id
    · simp only [records, hk, hk', create_eq, if_neg (Nat.not_le_of_lt hfree),
        if_neg (Nat.not_le_of_lt hfree')]
      simp [startLog, hjob.template]

theorem resume_alike {s s' : State N} (h : StateAlike s s') (k : ℕ) (f : Fetch N) (p : Phase f)
    (i i' : Input) (hi : InputAlike N i i') (w : Option Write) (next : Next f)
    (hk : s.handlers.lookup k = some (.live f p)) (hadv : advance f p i = some (w, next)) :
    ∃ t', Stepped s' (.resume k i') t' ∧ StateAlike (s.resumed k w next) t' ∧
      (records printed s (.resume k i)).map veil =
        (records printed s' (.resume k i')).map veil := by
  obtain ⟨f', p', hk', hf, hp⟩ := alike_live h k f p hk
  obtain ⟨w', next', hadv', hw, hnext, hlog⟩ :=
    advance_alike (printed k) hf p p' hp i i' hi w next hadv
  obtain ⟨hstage, hspawned, hsigned⟩ := next_alike hf next next' hnext
  refine ⟨s'.resumed k w' next', .resume k f' p' i' w' next' hk' hadv', ?_, ?_⟩
  · constructor
    · show StoreAlike (s.write f.sessionId w).store (s'.write f'.sessionId w').store
      rw [← hf.sessionId]
      exact write_alike s s' h.store f.sessionId w w' hw
    · rw [resumed_handlers, resumed_handlers]
      exact insert_alike h.handlers k _ _ hstage
    · rw [resumed_tasks, resumed_tasks, h.tasks, hspawned]
    · simpa [State.resumed, State.place] using h.usedIds
    · simp only [State.resumed, State.place, write_signatures, List.map_append, h.signed, hsigned]
  · simp only [records, hk, hk', hadv, hadv']
    exact hlog

/-- Alike states go on alike under alike actions, and log alike. -/
theorem step_alike {s s' t : State N} {a a' : Action} (h : StateAlike s s')
    (ha : ActionAlike N a a') (hstep : step s a = some t) :
    ∃ t', step s' a' = some t' ∧ StateAlike t t' ∧
      (records printed s a).map veil = (records printed s' a').map veil := by
  suffices hmatch : ∃ t', Stepped s' a' t' ∧ StateAlike t t' ∧
      (records printed s a).map veil = (records printed s' a').map veil by
    obtain ⟨t', ht, hrest⟩ := hmatch
    exact ⟨t', step_of_stepped a' ht, hrest⟩
  have hstepped := step_stepped a hstep
  cases ha with
  | request k req req' hid hmask => cases hstepped with
    | request k req hk =>
      obtain ⟨ht, halike⟩ := request_alike h k req req' hid hmask hk
      exact ⟨_, ht, halike, rfl⟩
  | create k uuid now => exact create_alike printed h k uuid now hstepped
  | resume k i i' hi => cases hstepped with
    | resume k f p i w next hk hadv => exact resume_alike printed h k f p i i' hi w next hk hadv
  | runTask id reason => cases hstepped with
    | runTask id reason ht =>
      refine ⟨_, .runTask id reason (h.tasks ▸ ht), ⟨?_, h.handlers, ?_, h.usedIds, h.signed⟩, rfl⟩
      · exact write_alike s s' h.store id (some (.setState (.failed reason)))
          (some (.setState (.failed reason))) rfl
      · show s.tasks.erase _ = s'.tasks.erase _
        rw [h.tasks]
  | getSession id =>
    cases hstepped
    exact ⟨_, .getSession id, h, rfl⟩

/-- The error a handler has replied, if it has. -/
def Stage.refusal : Stage N → Option ErrorReply
  | .refused reply => some reply
  | .returned _ x => Exit.errorReply x
  | _ => none

theorem stage_refusal {stage stage' : Stage N} (h : StageAlike stage stage') :
    Stage.refusal stage = Stage.refusal stage' := by
  cases h with
  | returned f f' hf x x' hx => exact (exit_reply_alike hf x x' hx).1
  | _ => rfl

/-- All that tells one run from another without looking at a proof. -/
structure Unseen (t t' : Journal N) : Prop where
  log : t.log.map veil = t'.log.map veil
  errors : ∀ k, (t.notary.handlers.lookup k).bind Stage.refusal =
    (t'.notary.handlers.lookup k).bind Stage.refusal
  states : ∀ id, stateOf id t.notary = stateOf id t'.notary
  active : activeCount t.notary.store = activeCount t'.notary.store
  signed : t.notary.signatures.map Prod.fst = t'.notary.signatures.map Prod.fst

theorem active_alike {store store' : SessionStore} (h : StoreAlike store store') :
    activeCount store = activeCount store' := by
  unfold activeCount
  rw [← keys_retain, ← keys_retain]
  refine congrArg Finset.card (keys_alike fun id => ?_)
  rw [lookup_retain, lookup_retain, filter_state, filter_state]
  exact congrArg _ (h.states id)

theorem unseen_of_alike {t t' : Journal N} (h : StateAlike t.notary t'.notary)
    (hlog : t.log.map veil = t'.log.map veil) : Unseen t t' where
  log := hlog
  errors k := by
    have hrel := h.handlers k
    generalize t.notary.handlers.lookup k = stage at hrel ⊢
    generalize t'.notary.handlers.lookup k = stage' at hrel ⊢
    cases hrel with
    | none => rfl
    | some hstage => exact stage_refusal hstage
  states := h.store.states
  active := active_alike h.store
  signed := h.signed

structure JournalAlike (t t' : Journal N) : Prop where
  notary : StateAlike t.notary t'.notary
  log : t.log.map veil = t'.log.map veil

theorem blank_alike (maxSessions : ℕ) :
    JournalAlike (blank N maxSessions) (blank N maxSessions) where
  notary := by
    refine ⟨⟨rfl, fun _ => rfl⟩, fun k => ?_, rfl, rfl, rfl⟩
    rw [show (blank N maxSessions).notary.handlers.lookup k = none from Finmap.lookup_empty k]
    exact .none
  log := rfl

theorem journalStep_alike {t t' u : Journal N} {a a' : Action} (h : JournalAlike t t')
    (ha : ActionAlike N a a') (hstep : journalStep printed t a = some u) :
    ∃ u', journalStep printed t' a' = some u' ∧ JournalAlike u u' := by
  obtain ⟨s, hs, rfl⟩ := Option.map_eq_some_iff.mp hstep
  obtain ⟨s', hs', hstate, hrecords⟩ := step_alike printed h.notary ha hs
  refine ⟨⟨s', t'.log ++ records printed t'.notary a'⟩, ?_, hstate, ?_⟩
  · show (step t'.notary a').map _ = _
    rw [hs', Option.map_some]
  · rw [List.map_append, List.map_append, h.log, hrecords]

/-- Neither the log nor the error replies nor the states and counts of a run
depend on what clients ask to send, on the tokens, or on the values that
portals answer with: whatever these are, the same steps are open. -/
theorem journals_alike (maxSessions : ℕ) (trace : List (Action × Journal N)) (t : Journal N)
    (h : Run (Steps (journalStep printed)) (blank N maxSessions) trace t)
    (actions : List Action) (halike : List.Forall₂ (ActionAlike N) (trace.map Prod.fst) actions) :
    ∃ trace' t', Run (Steps (journalStep printed)) (blank N maxSessions) trace' t' ∧
      trace'.map Prod.fst = actions ∧ Unseen t t' := by
  obtain ⟨trace', t', hrun, hactions, hrel⟩ := h.lockstep JournalAlike (ActionAlike N)
    (blank_alike maxSessions)
    (fun _ _ _ _ _ hrel ha hstep => journalStep_alike printed hrel ha hstep) actions halike
  exact ⟨trace', t', hrun, hactions, unseen_of_alike hrel.notary hrel.log⟩

/-- One voter's visit: what the client asks to send, the token, the answer. -/
def visit (body : Json) (token status : String) : List Action :=
  [.request 0 ⟨"utah-voter-v1", some body, none⟩, .create 0 firstId 1779796790000000000,
    .resume 0 .proceed, .resume 0 .clientBuilt,
    .resume 0 (.csrfReply [none, some ("XSRF-TOKEN=" ++ token ++ "; Path=/; Secure")]),
    .resume 0 .proceed, .resume 0 (.status 200 "https://votesearch.utah.gov/"),
    .resume 0 (.text (.ok (display (utahResponse status)))), .resume 0 .proceed,
    .resume 0 (.judge noon), .resume 0 .proceed]

def adaVisit : List Action := visit (.object [("firstName", .string "Ada")]) "7f3a" "Active"

def bobVisit : List Action := visit (.object [("lastName", .string "Roe")]) "9b0d" "Closed"

theorem visits_alike_actions :
    List.Forall₂ (ActionAlike (shippedNotary twoStatuses)) adaVisit bobVisit := by
  have htext : BodyAlike (replay twoStatuses) activeText
      (display (utahResponse "Closed")) :=
    ⟨by decide +kernel, Or.inr ⟨_, _, replay_reads twoStatuses _ (by simp [twoStatuses]),
      replay_reads twoStatuses _ (by simp [twoStatuses]), statuses_sameShape "Active" "Closed"⟩⟩
  have htoken : ∀ template ∈ (shippedNotary twoStatuses).templates.templates, ∀ cfg,
      template.target.csrf = some cfg →
      (csrfToken cfg [none, some ("XSRF-TOKEN=" ++ "7f3a" ++ "; Path=/; Secure")]).isSome =
        (csrfToken cfg [none, some ("XSRF-TOKEN=" ++ "9b0d" ++ "; Path=/; Secure")]).isSome := by
    intro template htemplate cfg hcfg
    obtain rfl : template = utahVoterTemplate := by
      simpa [shippedNotary, register, VerificationTemplates.empty] using htemplate
    cases hcfg
    decide +kernel
  exact .cons (.request 0 _ _ rfl rfl) (.cons (.create 0 _ _) (.cons (.resume 0 _ _ (.same _))
    (.cons (.resume 0 _ _ (.same _)) (.cons (.resume 0 _ _ (.csrfReply _ _ rfl htoken))
    (.cons (.resume 0 _ _ (.same _)) (.cons (.resume 0 _ _ (.same _))
    (.cons (.resume 0 _ _ (.text _ _ htext)) (.cons (.resume 0 _ _ (.same _))
    (.cons (.resume 0 _ _ (.same _)) (.cons (.resume 0 _ _ (.same _)) .nil))))))))))

/-- Two voters' visits, of another name, token and status. -/
theorem two_voters_unseen :
    ∃ trace t trace' t',
      Run (Steps (journalStep fun _ => "200 OK")) (blank (shippedNotary twoStatuses) 1) trace t ∧
      Run (Steps (journalStep fun _ => "200 OK")) (blank (shippedNotary twoStatuses) 1) trace' t' ∧
      trace.map Prod.fst = adaVisit ∧ trace'.map Prod.fst = bobVisit ∧ t.log.length = 3 ∧
      Unseen t t' := by
  obtain ⟨trace, t, hrun, hactions, hlog⟩ := observed_run (journalStep fun _ => "200 OK") adaVisit
    (blank (shippedNotary twoStatuses) 1) (fun t => t.log.length) 3 (by decide +kernel)
  obtain ⟨trace', t', hrun', hactions', hunseen⟩ := journals_alike (fun _ => "200 OK") 1 trace t
    hrun bobVisit (hactions ▸ visits_alike_actions)
  exact ⟨trace, t, trace', t', hrun, hrun', hactions, hactions', hlog, hunseen⟩

end Runs

end ZkTls.JournalPrivacy
