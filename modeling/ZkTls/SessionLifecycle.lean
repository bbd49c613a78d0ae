import ZkTls.NotaryInvariant
import ZkTls.RecordedPlatform

/-!
# The lifecycle of a session

The states a session is seen in over a run, what a completed record carries,
and what the notary key has signed. No guard enforces any of it; it follows
from the order of the updates in the handler.
-/

set_option autoImplicit false

namespace ZkTls.SessionLifecycle
open ZkTls.JsonTree ZkTls.JsonText ZkTls.CoreTypes ZkTls.VerificationTemplates
open ZkTls.FieldExtraction ZkTls.SessionProofs ZkTls.FiniteStore ZkTls.LabelledRun
open ZkTls.NotarizeResponse ZkTls.NotarySessions ZkTls.NotaryMachine ZkTls.NotaryInvariant
open ZkTls.RecordedPlatform

variable {P : Platform} {N : Notary P}

/-- The updates of the state field that happen. -/
inductive Successor : SessionState → SessionState → Prop
  | fetching : Successor .initialized .fetching
  | committing : Successor .fetching .committing
  | completed : Successor .committing .completed
  | failed (reason : String) : Successor .fetching (.failed reason)

/-- The states on the way to a state. -/
def path : SessionState → List SessionState
  | .initialized => [.initialized]
  | .fetching => [.initialized, .fetching]
  | .committing => [.initialized, .fetching, .committing]
  | .completed => [.initialized, .fetching, .committing, .completed]
  | .failed reason => [.initialized, .fetching, .failed reason]

theorem path_successor {a b : SessionState} (h : Successor a b) : path b = path a ++ [b] := by
  cases h <;> rfl

theorem path_last (a : SessionState) : (path a).getLast? = some a := by
  cases a <;> rfl

theorem successor_ne {a b : SessionState} (h : Successor a b) : a ≠ b := by
  cases h <;> simp

/-- The state a session is seen in. -/
def stateOf (id : String) (s : State N) : Option SessionState :=
  (s.store.sessions.lookup id).map NotarySession.state

/-- The proof and the attestation a handler has replied with. -/
def okReply (s : State N) (k : ℕ) : Option NotarizeReply :=
  match s.handlers.lookup k with
  | some (.returned _ x) => x.reply.toOption
  | _ => none

theorem okReply_some (s : State N) (k : ℕ) (reply : NotarizeReply)
    (h : okReply s k = some reply) :
    ∃ f x, s.handlers.lookup k = some (.returned f x) ∧ x.reply = .ok reply := by
  unfold okReply at h
  split at h
  · rename_i f x hk
    refine ⟨f, x, hk, ?_⟩
    cases hx : x.reply with
    | error e => rw [hx] at h; cases h
    | ok reply' => rw [hx] at h; exact congrArg _ (Option.some.inj h)
  · cases h

/-- The states a session is seen in over a run, each change listed. -/
def stateHistory (start : State N) (trace : List (Action × State N)) (id : String) :
    List SessionState :=
  history (stateOf id) (start :: trace.map Prod.snd)

/-- What one step does to the state of one session. -/
inductive StateStep (unused : Prop) : Option SessionState → Option SessionState → Prop
  | same (o : Option SessionState) : StateStep unused o o
  | dropped (o : Option SessionState) : StateStep unused o none
  | opened (h : unused) : StateStep unused none (some .initialized)
  | moved (a b : SessionState) (h : Successor a b) : StateStep unused (some a) (some b)

theorem moves_state {f : Fetch N} (p : Phase f) (input : Input) (w : Option Write)
    (next : Next f) (h : Moves p input w next) :
    next.record.state = p.record.state ∨ Successor p.record.state next.record.state := by
  cases h with
  | started => exact Or.inr .fetching
  | rejected | signed => exact Or.inr .committing
  | completed => exact Or.inr .completed
  | waited p p' input h =>
    exact Or.inl (congrArg NotarySession.state
      ((waiting_record p' h.waiting.2).trans (waiting_record p h.waiting.1).symm))
  | clientFailed | fetchFailed | badStatus | unreadable | stored => exact Or.inl rfl

theorem stateStep_makeRoom (unused : Prop) (store : SessionStore) (id : String) :
    StateStep unused ((store.sessions.lookup id).map NotarySession.state)
      (((makeRoom store).lookup id).map NotarySession.state) := by
  rcases lookup_makeRoom store id with h | ⟨h, -⟩
  · rw [h]
    exact .same _
  · rw [h]
    exact .dropped _

theorem stateOf_used {s : State N} (hc : Consistent s) (id : String) (a : SessionState)
    (h : stateOf id s = some a) : id ∈ s.usedIds := by
  obtain ⟨r, hr, -⟩ := Option.map_eq_some_iff.mp h
  obtain ⟨hid, k, hk⟩ := hc.owned id r hr
  exact hid ▸ hc.used k r hk

theorem opened_state {s : State N} (hc : Consistent s) (k : ℕ) (f : Fetch N)
    (hfresh : f.sessionId ∉ s.usedIds) (id : String) :
    StateStep (id ∉ s.usedIds) (stateOf id s) (stateOf id (s.opened k f)) := by
  by_cases hid : id = f.sessionId
  · subst hid
    have hnone : stateOf f.sessionId s = none :=
      Option.eq_none_iff_forall_ne_some.mpr fun a ha => hfresh (stateOf_used hc _ a ha)
    have hsome : stateOf f.sessionId (s.opened k f) = some .initialized := by
      rw [stateOf, State.opened, Finmap.lookup_insert]
      rfl
    rw [hnone, hsome]
    exact .opened hfresh
  · rw [stateOf, stateOf, State.opened, Finmap.lookup_insert_of_ne _ hid]
    exact stateStep_makeRoom _ s.store id

theorem resumed_state {s : State N} (hc : Consistent s) (k : ℕ) {f : Fetch N} (p : Phase f)
    (hk : s.handlers.lookup k = some (.live f p)) (input : Input) (w : Option Write)
    (next : Next f) (h : Moves p input w next) (unused : Prop) (id : String) :
    StateStep unused (stateOf id s) (stateOf id (s.resumed k w next)) := by
  rw [stateOf, stateOf, resumed_lookup hc k p hk input w next h]
  split
  · rename_i hid
    rw [hid, (live_present hc k f p hk).2, Option.map_some, Option.map_some]
    rcases moves_state p input w next h with hsame | hmoved
    · rw [hsame]
      exact .same _
    · exact .moved _ _ hmoved
  · exact .same _

theorem failed_state {s : State N} (hc : Consistent s) (tid reason : String)
    (h : (tid, reason) ∈ s.tasks) (unused : Prop) (id : String) :
    StateStep unused (stateOf id s) (stateOf id (s.failed tid reason)) := by
  obtain ⟨k, f, x, hk, rfl, hx, -, hpresent⟩ := task_present hc tid reason h
  obtain ⟨hfailed, hfetching⟩ := exit_record_failed x reason hx
  rw [stateOf, stateOf, failed_lookup s x reason hx hpresent]
  split
  · rename_i hid
    rw [hid, hpresent, Option.map_some, Option.map_some, hfailed, hfetching]
    exact .moved _ _ (.failed reason)
  · exact .same _

theorem step_state {s s' : State N} (hc : Consistent s) (a : Action)
    (h : step s a = some s') (id : String) :
    StateStep (id ∉ s.usedIds) (stateOf id s) (stateOf id s') := by
  cases step_stepped a h with
  | request | getSession => exact .same _
  | overload => exact stateStep_makeRoom _ s.store id
  | create k f hk hfresh => exact opened_state hc k f hfresh id
  | resume k f p input w next hk hadv =>
    exact resumed_state hc k p hk input w next (advance_moves p input w next hadv) _ id
  | runTask tid reason ht => exact failed_state hc tid reason ht _ id

/-- The invariant of a session's history: it ends in the present state and
is always the way to some state. -/
structure Traced (start : State N) (trace : List (Action × State N)) (s : State N)
    (id : String) : Prop where
  unused : id ∉ s.usedIds → stateHistory start trace id = []
  current : ∀ a, stateOf id s = some a → stateHistory start trace id = path a
  past : stateHistory start trace id = [] ∨ ∃ a, stateHistory start trace id = path a

theorem usedIds_mono {s s' : State N} (a : Action) (h : step s a = some s') (id : String)
    (hid : id ∈ s.usedIds) : id ∈ s'.usedIds := by
  cases step_stepped a h with
  | create k f => exact List.mem_cons_of_mem _ hid
  | resume k f p input w next => simpa [State.resumed, State.place] using hid
  | request | overload | runTask | getSession => exact hid

/-- How a history grows under one step of the observed state. -/
theorem note_stateStep {unused : Prop} {o o' : Option SessionState}
    (hs : StateStep unused o o') (h : List SessionState) (hun : unused → h = [])
    (hcur : ∀ a, o = some a → h = path a) :
    (o' = none ∧ note h o' = h) ∨ ∃ a, o' = some a ∧ note h o' = path a := by
  cases hs with
  | same =>
    cases o with
    | none => exact Or.inl ⟨rfl, rfl⟩
    | some a => exact Or.inr ⟨a, rfl, by rw [hcur a rfl, note, if_pos (path_last a)]⟩
  | dropped => exact Or.inl ⟨rfl, rfl⟩
  | opened hu => exact Or.inr ⟨_, rfl, by rw [hun hu]; rfl⟩
  | moved a b hab =>
    have hne : (path a).getLast? ≠ some b := by
      rw [path_last]
      exact fun h => successor_ne hab (Option.some.inj h)
    exact Or.inr ⟨b, rfl, by rw [hcur a rfl, note, if_neg hne, path_successor hab]⟩

theorem traced_step {start s s' : State N} {trace : List (Action × State N)} (a : Action)
    (hc : Consistent s) (h : step s a = some s') (id : String) (ht : Traced start trace s id) :
    Traced start (trace ++ [(a, s')]) s' id := by
  have hhist : stateHistory start (trace ++ [(a, s')]) id =
      note (stateHistory start trace id) (stateOf id s') := by
    rw [stateHistory, List.map_append, ← List.cons_append]
    exact history_snoc _ _ _
  have hgrow := note_stateStep (step_state hc a h id) _ ht.unused ht.current
  rw [← hhist] at hgrow
  constructor
  · intro hunused
    have hold := ht.unused fun hid => hunused (usedIds_mono a h id hid)
    rcases hgrow with ⟨-, hsame⟩ | ⟨b, hb, -⟩
    · exact hsame.trans hold
    · exact absurd (stateOf_used (step_consistent a hc h) id b hb) hunused
  · intro b hb
    rcases hgrow with ⟨hnone, -⟩ | ⟨c, hsome, hpath⟩
    · cases hnone.symm.trans hb
    · cases hsome.symm.trans hb
      exact hpath
  · rcases hgrow with ⟨-, hsame⟩ | ⟨b, -, hpath⟩
    · rw [hsame]
      exact ht.past
    · exact Or.inr ⟨b, hpath⟩

theorem traced_run (N : Notary P) (maxSessions : ℕ) (trace : List (Action × State N))
    (s : State N) (h : Run (Steps step) (init N maxSessions) trace s) (id : String) :
    Traced (init N maxSessions) trace s id := by
  induction h with
  | nil => exact ⟨fun _ => rfl, by simp [stateOf, init, NotarySessions.new], Or.inl rfl⟩
  | snoc hrun hstep ih =>
    exact traced_step _ (run_consistent N maxSessions _ _ hrun) hstep id ih

/-- The two ways a session can go. -/
theorem history_prefix {start s : State N} {trace : List (Action × State N)} {id : String}
    (h : Traced start trace s id) : ∃ reason,
      stateHistory start trace id <+: path .completed ∨
      stateHistory start trace id <+: path (.failed reason) := by
  rcases h.past with h | ⟨a, h⟩
  · exact ⟨"", Or.inl (h ▸ List.nil_prefix)⟩
  · rw [h]
    cases a with
    | failed reason => exact ⟨reason, Or.inr (List.prefix_refl _)⟩
    | _ => exact ⟨"", Or.inl (by decide)⟩

/-- What a completed record carries. -/
structure CompletedRecord (s : State N) (id : String) (r : NotarySession)
    (proof : SessionProof) (attestation : Attestation) : Prop where
  stored : r.proof = some proof ∧ r.attestation = some attestation
  cleared : r.responseBody = none
  sameHash : r.certificateHash = some proof.certificateHash
  sameHost : proof.serverHostname = r.targetHostname
  sameSession : attestation.sessionProofId = id
  sameTemplate : attestation.templateId = r.templateId
  returned : ∃ k f x, s.handlers.lookup k = some (.returned f x) ∧
    Exit.reply x = .ok ⟨id, proof, attestation⟩

/-- What every record satisfies. -/
structure RecordSound (s : State N) (id : String) (r : NotarySession) : Prop where
  proof_iff : r.state = .completed ↔ r.proof.isSome = true
  attestation_iff : r.proof.isSome = true ↔ r.attestation.isSome = true
  completed : r.state = .completed → ∃ proof attestation,
    CompletedRecord s id r proof attestation

theorem record_sound {s : State N} (hc : Consistent s) (id : String) (r : NotarySession)
    (h : s.store.sessions.lookup id = some r) : RecordSound s id r := by
  obtain ⟨rfl, k, hk⟩ := hc.owned id r h
  obtain ⟨stage, hstage, hrec⟩ := Option.bind_eq_some_iff.mp hk
  cases stage with
  | refused | creating => cases hrec
  | live f p =>
    cases hrec
    cases p <;> exact ⟨by simp [Phase.record, Fetch.fresh], by simp [Phase.record, Fetch.fresh],
      by simp [Phase.record, Fetch.fresh]⟩
  | returned f x =>
    cases hrec
    cases x with
    | completed body clock proof attestation issued =>
      obtain ⟨fields, -, rfl, rfl⟩ := (issue_ok _ _ _ _ _ _ _ _ _).mp issued
      exact ⟨by simp [Exit.record], by simp [Exit.record], fun _ =>
        ⟨_, _, ⟨rfl, rfl⟩, rfl, rfl, rfl, rfl, rfl, k, f, _, hstage, rfl⟩⟩
    | fetchFailed | badStatus =>
      cases hp : pending s.tasks f.sessionId <;>
        exact ⟨by simp [Exit.record, Fetch.fresh], by simp [Exit.record, Fetch.fresh],
          by simp [Exit.record]⟩
    | clientFailed | unreadable | rejected =>
      exact ⟨by simp [Exit.record, Fetch.fresh], by simp [Exit.record, Fetch.fresh],
        by simp [Exit.record]⟩

/-- The signature a handler has made. -/
def Stage.signature : Stage N → Option (String × SessionProof)
  | .live f (.signed _ _ proof _ _) => some (f.sessionId, proof)
  | .returned f (.completed _ _ proof _ _) => some (f.sessionId, proof)
  | _ => none

/-- The signatures made are those of the handlers, one each. -/
structure Signed (s : State N) : Prop where
  once : (s.signatures.map Prod.fst).Nodup
  owned : ∀ e ∈ s.signatures, ∃ k stage,
    s.handlers.lookup k = some stage ∧ Stage.signature stage = some e

theorem checkRequest_ok (req : NotarizeRequest) (template : VerificationTemplate)
    (h : checkRequest N req = .ok template) : template ∈ N.templates.templates ∧
      (N.allowedHostnames = [] ∨ template.target.hostname ∈ N.allowedHostnames) := by
  unfold checkRequest at h
  split at h
  · cases h
  · rename_i t ht
    split at h
    · cases h
    · rename_i hhost
      cases h
      exact ⟨(get_mem _ _ _ ht).1, by simpa [or_iff_not_imp_left] using hhost⟩

/-- A proof signed for the handler's own template, registered and allowed,
over a body that extraction under the handler's own mask accepts. -/
def Justified (f : Fetch N) (proof : SessionProof) : Prop :=
  f.template ∈ N.templates.templates ∧
  (N.allowedHostnames = [] ∨ f.template.target.hostname ∈ N.allowedHostnames) ∧
  proof.serverHostname = f.template.target.hostname ∧
  ∃ body fields,
    extractFields P body f.template.fields (effectiveMask f.template f.request.disclosure) =
      .ok fields ∧
    proof.transcriptCommitment = sha512Hash P (asBytes body) ∧
    proof.notarySignature = sign N.keypair (buildSigningMessage P proof.serverHostname
      proof.certificateHash proof.transcriptCommitment proof.sessionTimestamp)

/-- The request and session a stage is about. -/
def Stage.fetch : Stage N → Option (Fetch N)
  | .live f _ => some f
  | .returned f _ => some f
  | _ => none

theorem issued_justified (f : Fetch N) (body : String) (clock : IssueClock)
    (proof : SessionProof) (attestation : Attestation)
    (h : f.issue body clock = .ok (proof, attestation)) : Justified f proof := by
  obtain ⟨fields, haccepts, rfl, -⟩ := (issue_ok _ _ _ _ _ _ _ _ _).mp h
  obtain ⟨hreg, hhost⟩ := checkRequest_ok f.request f.template f.admitted
  exact ⟨hreg, hhost, rfl, body, fields, haccepts.2.2, rfl, rfl⟩

theorem signature_justified (stage : Stage N) (e : String × SessionProof)
    (h : Stage.signature stage = some e) :
    ∃ f, Stage.fetch stage = some f ∧ f.sessionId = e.1 ∧ Justified f e.2 := by
  unfold Stage.signature at h
  split at h
  · rename_i f body clock proof attestation issued
    cases h
    exact ⟨f, rfl, rfl, issued_justified f body clock proof attestation issued⟩
  · rename_i f body clock proof attestation issued
    cases h
    exact ⟨f, rfl, rfl, issued_justified f body clock proof attestation issued⟩
  · cases h

theorem waiting_unsigned {f : Fetch N} (p : Phase f) (h : Waiting p) :
    Stage.signature (.live f p) = none ∧ (Next.goOn p).signature = [] := by
  cases p with
  | created | stored | signed => cases h
  | _ => exact ⟨rfl, rfl⟩

/-- A handler that has signed keeps its signature and makes no other; one
that has not makes at most one. -/
theorem moves_signature {f : Fetch N} (p : Phase f) (input : Input) (w : Option Write)
    (next : Next f) (h : Moves p input w next) :
    (Stage.signature next.stage = Stage.signature (.live f p) ∧ next.signature = []) ∨
    (Stage.signature (.live f p) = none ∧ ∃ proof,
      Stage.signature next.stage = some (f.sessionId, proof) ∧
      next.signature = [(f.sessionId, proof)]) := by
  cases h with
  | waited p p' input h =>
    obtain ⟨hp, -⟩ := waiting_unsigned p h.waiting.1
    obtain ⟨hp', hnext⟩ := waiting_unsigned p' h.waiting.2
    exact Or.inl ⟨hp'.trans hp.symm, hnext⟩
  | signed body clock proof attestation h => exact Or.inr ⟨rfl, proof, rfl, rfl⟩
  | _ => exact Or.inl ⟨rfl, rfl⟩

theorem Signed.owned_insert {s : State N} (hs : Signed s) (k : ℕ) (stage : Stage N)
    (hk : ∀ old, s.handlers.lookup k = some old → ∀ e, Stage.signature old = some e →
      Stage.signature stage = some e) (e : String × SessionProof) (he : e ∈ s.signatures) :
    ∃ j st, (s.handlers.insert k stage).lookup j = some st ∧ Stage.signature st = some e := by
  obtain ⟨j, st, hj, hsig⟩ := hs.owned e he
  by_cases hjk : j = k
  · subst hjk
    exact ⟨j, stage, Finmap.lookup_insert _, hk st hj e hsig⟩
  · exact ⟨j, st, (Finmap.lookup_insert_of_ne _ hjk).trans hj, hsig⟩

theorem signature_record (stage : Stage N) (tasks : List (String × String))
    (e : String × SessionProof) (h : Stage.signature stage = some e) :
    ∃ r, Stage.record tasks stage = some r ∧ r.id = e.1 := by
  unfold Stage.signature at h
  split at h <;> cases h
  · exact ⟨_, rfl, by simp⟩
  · exact ⟨_, rfl, by simp⟩

/-- A session whose handler has not signed has no signature: that handler is
its only one. -/
theorem session_unsigned {s : State N} (hc : Consistent s) (hs : Signed s) (k : ℕ)
    {f : Fetch N} (p : Phase f) (hk : s.handlers.lookup k = some (.live f p))
    (hfree : Stage.signature (.live f p) = none) :
    f.sessionId ∉ s.signatures.map Prod.fst := by
  intro hmem
  obtain ⟨e, he, heid⟩ := List.mem_map.mp hmem
  obtain ⟨j, stage, hj, hsig⟩ := hs.owned e he
  obtain ⟨r, hr, hrid⟩ := signature_record stage s.tasks e hsig
  have hexp : expected s j = some r := (account_stage hj s.tasks).trans hr
  have hjk := hc.ownerUnique j k r _ hexp (live_present hc k f p hk).1
    (by rw [hrid, heid, phase_record_id])
  subst hjk
  cases hk.symm.trans hj
  cases hfree.symm.trans hsig

theorem signed_resumed {s : State N} (hc : Consistent s) (hs : Signed s) (k : ℕ)
    {f : Fetch N} (p : Phase f) (hk : s.handlers.lookup k = some (.live f p)) (input : Input)
    (w : Option Write) (next : Next f) (h : Moves p input w next) :
    Signed (s.resumed k w next) := by
  have hsigs : (s.resumed k w next).signatures = s.signatures ++ next.signature := by
    rw [State.resumed, State.place, write_signatures]
  have hold : ∀ e ∈ s.signatures, (Stage.signature (.live f p) = none ∨
      Stage.signature next.stage = Stage.signature (.live f p)) →
      ∃ j stage, (s.resumed k w next).handlers.lookup j = some stage ∧
        Stage.signature stage = some e := by
    intro e he hkeep
    rw [resumed_handlers]
    refine hs.owned_insert k _ (fun old hl e he => ?_) e he
    cases hk.symm.trans hl
    rcases hkeep with hnone | hsame
    · cases hnone.symm.trans he
    · exact hsame.trans he
  rcases moves_signature p input w next h with ⟨hkeep, hnone⟩ | ⟨hfree, proof, hnew, hone⟩
  · rw [hnone, List.append_nil] at hsigs
    exact ⟨hsigs ▸ hs.once, fun e he => hold e (hsigs ▸ he) (Or.inr hkeep)⟩
  · rw [hone] at hsigs
    constructor
    · rw [hsigs, List.map_append]
      refine List.nodup_append.mpr ⟨hs.once, List.nodup_singleton _, ?_⟩
      rintro id hid _ hself rfl
      obtain rfl : id = f.sessionId := by simpa using hself
      exact session_unsigned hc hs k p hk hfree hid
    · intro e he
      rw [hsigs, List.mem_append, List.mem_singleton] at he
      rcases he with he | rfl
      · exact hold e he (Or.inl hfree)
      · rw [resumed_handlers]
        exact ⟨k, _, Finmap.lookup_insert _, hnew⟩

theorem signed_step {s s' : State N} (hc : Consistent s) (hs : Signed s) (a : Action)
    (h : step s a = some s') : Signed s' := by
  cases step_stepped a h with
  | request k req hk =>
    refine ⟨hs.once, hs.owned_insert k _ fun old hold => ?_⟩
    rw [Finmap.lookup_eq_none.mpr hk] at hold
    cases hold
  | overload k uuid now job hk =>
    refine ⟨hs.once, hs.owned_insert k _ fun old hold e he => ?_⟩
    cases hk.symm.trans hold
    cases he
  | create k f hk =>
    refine ⟨hs.once, hs.owned_insert k _ fun old hold e he => ?_⟩
    cases hk.symm.trans hold
    cases he
  | resume k f p input w next hk hadv =>
    exact signed_resumed hc hs k p hk input w next (advance_moves p input w next hadv)
  | runTask => exact ⟨hs.once, hs.owned⟩
  | getSession => exact hs

theorem signed_run (N : Notary P) (maxSessions : ℕ) (trace : List (Action × State N))
    (s : State N) (h : Run (Steps step) (init N maxSessions) trace s) : Signed s := by
  induction h with
  | nil => exact ⟨List.nodup_nil, by simp [init]⟩
  | snoc hrun hstep ih =>
    exact signed_step (run_consistent N maxSessions _ _ hrun) ih _ hstep

/-- What holds of every run up to the state it has reached. -/
structure LifecycleSound (start : State N) (trace : List (Action × State N))
    (s : State N) : Prop where
  histories : ∀ id, ∃ reason,
    stateHistory start trace id <+: [.initialized, .fetching, .committing, .completed] ∨
    stateHistory start trace id <+: [.initialized, .fetching, .failed reason]
  records : ∀ id r, NotarySessions.get s.store id = .ok r → RecordSound s id r
  signedOnce : (s.signatures.map Prod.fst).Nodup
  signatures : ∀ e ∈ s.signatures, ∃ k stage f, s.handlers.lookup k = some stage ∧
    Stage.fetch stage = some f ∧ f.sessionId = e.1 ∧ Justified f e.2

/-- In every run of any number of handlers, failure tasks and reads. -/
theorem lifecycle_sound (N : Notary P) (maxSessions : ℕ) (trace : List (Action × State N))
    (s : State N) (h : Run (Steps step) (init N maxSessions) trace s) :
    LifecycleSound (init N maxSessions) trace s where
  histories id := history_prefix (traced_run N maxSessions trace s h id)
  records id r hr := by
    refine record_sound (run_consistent N maxSessions trace s h) id r ?_
    unfold NotarySessions.get at hr
    split at hr <;> cases hr
    assumption
  signedOnce := (signed_run N maxSessions trace s h).once
  signatures e he := by
    obtain ⟨k, stage, hk, hsig⟩ := (signed_run N maxSessions trace s h).owned e he
    obtain ⟨f, hf⟩ := signature_justified stage e hsig
    exact ⟨k, stage, f, hk, hf⟩

/-- The shipped template and no host list, on a recorded platform. -/
def shippedNotary (R : Recording) : Notary (replay R) where
  keypair := recordedKey R
  templates := register VerificationTemplates.empty utahVoterTemplate
  allowedHostnames := []

theorem shipped_template {R : Recording} (f : Fetch (shippedNotary R)) :
    f.template = utahVoterTemplate :=
  List.mem_singleton.mp (checkRequest_ok f.request f.template f.admitted).1

/-- One request, up to the judgement of the response. -/
def voterRun (body : String) : List Action :=
  [.request 0 ⟨"utah-voter-v1", none, none⟩, .create 0 firstId 1779796790000000000,
    .resume 0 .proceed, .resume 0 .clientBuilt,
    .resume 0 (.csrfReply [none, some "XSRF-TOKEN=7f3a; Path=/; Secure"]), .resume 0 .proceed,
    .resume 0 (.status 200 "https://votesearch.utah.gov/"), .resume 0 (.text (.ok body)),
    .resume 0 .proceed, .resume 0 (.judge noon)]

theorem active_voter_lifecycle :
    ∃ trace s, Run (Steps step) (init (shippedNotary activeRecording) 1) trace s ∧
      stateOf firstId s = some .completed ∧ s.signatures.length = 1 ∧
      LifecycleSound (init (shippedNotary activeRecording) 1) trace s := by
  obtain ⟨trace, s, hrun, -, hobs⟩ := observed_run step
    (voterRun activeText ++ [.resume 0 .proceed, .getSession firstId])
    (init (shippedNotary activeRecording) 1)
    (fun s => (stateOf firstId s, s.signatures.length)) (some .completed, 1)
    (by decide +kernel)
  rw [Prod.mk.injEq] at hobs
  exact ⟨trace, s, hrun, hobs.1, hobs.2,
    lifecycle_sound (shippedNotary activeRecording) 1 trace s hrun⟩

end ZkTls.SessionLifecycle
