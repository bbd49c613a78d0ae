import ZkTls.AttestationChecks
import ZkTls.JsonReading
import ZkTls.ServiceRestart
import ZkTls.SessionReads
import ZkTls.WireFormat

/-!
# What survives the wire

Everything the crates both write and read as JSON is read back, a session
without its response body. The text of a session shows the rest of it, up to
the order in which a process visits the entries of its maps. A client may
reorder and extend the documents of a reply before it hands them on: they
still verify.
-/

set_option autoImplicit false

namespace ZkTls.WireExchange
open ZkTls.JsonTree ZkTls.JsonText ZkTls.JsonCodec ZkTls.CoreTypes
open ZkTls.VerificationTemplates ZkTls.FieldExtraction ZkTls.FiniteStore ZkTls.LabelledRun
open ZkTls.SessionProofs ZkTls.NotarizeResponse ZkTls.NotarySessions ZkTls.NotaryMachine
open ZkTls.ProofVerifier ZkTls.ProofAttribution ZkTls.SessionAccounting ZkTls.SessionReads
open ZkTls.ServiceRestart ZkTls.WireFormat ZkTls.RecordedPlatform ZkTls.SessionLifecycle
open ZkTls.AttestationChecks (noonText utahNotary activeIssue active_default_issued)
open ZkTls.AttestationChecks (active_in_range active_signs)

variable (T : TimeText) (visit : Visit Json)

section Notary

/-- The one variant with data is an object of its own. -/
def sessionState : Codec SessionState where
  encode s :=
    match s with
    | .initialized => .string "Initialized"
    | .fetching => .string "Fetching"
    | .committing => .string "Committing"
    | .completed => .string "Completed"
    | .failed reason => .object [("Failed", .string reason)]
  decode v :=
    let unit s := [("Initialized", SessionState.initialized), ("Fetching", .fetching),
      ("Committing", .committing), ("Completed", .completed)].lookup s
    match v with
    | .string s => unit s
    | .object [("Failed", .string reason)] => some (.failed reason)
    | .object [(s, .null)] => unit s
    | _ => none
  valid _ := True
  decode_encode s _ := by cases s <;> rfl

/-- The response body is neither written nor read. -/
def sessionFields :=
  field "id" string <|
  field "target_hostname" string <|
  field "template_id" string <|
  field "state" sessionState <|
  field "created_at" (timestamp T) <|
  nullable "certificate_hash" bytes <|
  nullable "proof" (sessionProof T) <|
  nullable "attestation" (attestation T visit) done

def notarySession : Codec NotarySession :=
  (record (sessionFields T visit)
    (by simp [sessionFields, field, nullable, done, Fields.member])).iso
    (fun p => ⟨p.1, p.2.1, p.2.2.1, p.2.2.2.1, p.2.2.2.2.1, none, p.2.2.2.2.2.1,
      p.2.2.2.2.2.2.1, p.2.2.2.2.2.2.2.1⟩)
    (fun x => (x.id, x.targetHostname, x.templateId, x.state, x.createdAt, x.certificateHash,
      x.proof, x.attestation, ()))
    (fun x => x.responseBody = none)
    (fun x hx => by obtain ⟨⟩ := x; cases hx; rfl)

def responseFields :=
  field "session_id" string <|
  field "proof" (sessionProof T) <|
  field "attestation" (attestation T visit) done

/-- A response is only written. -/
def notarizeResponse (x : NotarizeReply) : Json :=
  (responseFields T visit).write (x.sessionId, x.proof, x.attestation, ())

structure SessionInRange (s : NotarySession) : Prop where
  created : T.inRange s.createdAt
  proof : ∀ p ∈ s.proof, ProofInRange T p
  attestation : ∀ a ∈ s.attestation, AttestationInRange T a

theorem session_valid (s : NotarySession) (h : SessionInRange T s) :
    (notarySession T visit).valid { s with responseBody := none } :=
  ⟨rfl, trivial, trivial, trivial, trivial, h.created,
    fun b _ => ⟨bytes_valid b, by rintro ⟨⟩⟩,
    fun p hp => ⟨sessionProof_valid T p (h.proof p hp), by rintro ⟨⟩⟩,
    fun a ha => ⟨attestation_valid T visit a (h.attestation a ha), by rintro ⟨⟩⟩, trivial⟩

end Notary

section RoundTrips
variable {α : Type}

/-- What is read of a document that was written for a value. -/
def Received (C : Codec α) (x y : α) : Prop := C.decode (C.encode x) = some y

theorem session_received (s : NotarySession) (h : SessionInRange T s) :
    Received (notarySession T visit) s { s with responseBody := none } :=
  (notarySession T visit).decode_encode _ (session_valid T visit s h)

end RoundTrips

section Endpoint
variable {P : Platform} {N : Notary P} {P' : Platform} {N' : Notary P'}

/-- The text the session endpoint answers with. -/
def sessionText (s : State N) (id : String) : Except ErrorReply String :=
  (getSession s id).map fun r => display ((notarySession T visit).encode r)

/-- Two visits of a map's entries that write the same document. -/
theorem fieldMap_encode_iff (visit visit' : Visit Json) (m : FieldMap) :
    (fieldMap visit).encode m = (fieldMap visit').encode m ↔ visit.list m = visit'.list m := by
  show Json.object ((visit.list m).map fun e => (e.1, e.2)) =
    .object ((visit'.list m).map fun e => (e.1, e.2)) ↔ _
  rw [List.map_id', List.map_id', Json.object.injEq]

/-- And two visits of the fields an attestation discloses. -/
theorem attestation_encode_iff (visit visit' : Visit Json) (a : Attestation) :
    (attestation T visit).encode a = (attestation T visit').encode a ↔
      visit.list a.disclosedFields = visit'.list a.disclosedFields := by
  rw [← fieldMap_encode_iff]
  constructor
  · intro h
    exact Option.some.inj (congrArg (fun v : Json => v.get "disclosed_fields") h)
  · intro h
    exact congrArg (fun d : Json => Json.object
      [("id", .string a.id), ("claim_type", .string a.claimType),
        ("session_proof_id", .string a.sessionProofId), ("disclosed_fields", d),
        ("redacted_field_hashes", (list bytes).encode a.redactedFieldHashes),
        ("template_id", .string a.templateId), ("created_at", (timestamp T).encode a.createdAt),
        ("expires_at", (option (timestamp T)).encode a.expiresAt)]) h

theorem session_encode_congr (visit visit' : Visit Json) (r : NotarySession)
    (h : ∀ a ∈ r.attestation, visit.list a.disclosedFields = visit'.list a.disclosedFields) :
    (notarySession T visit).encode r = (notarySession T visit').encode r := by
  have hlast : (option (attestation T visit)).encode r.attestation =
      (option (attestation T visit')).encode r.attestation := by
    cases ha : r.attestation with
    | none => rfl
    | some a => exact (attestation_encode_iff T visit visit' a).mpr (h a ha)
  exact congrArg (fun d : Json => Json.object
    [("id", .string r.id), ("target_hostname", .string r.targetHostname),
      ("template_id", .string r.templateId), ("state", sessionState.encode r.state),
      ("created_at", (timestamp T).encode r.createdAt),
      ("certificate_hash", (option bytes).encode r.certificateHash),
      ("proof", (option (sessionProof T)).encode r.proof), ("attestation", d)]) hlast

/-- The text of a session shows everything but the response body, and
nothing of the body. Two notaries that disclose the same fields may still
print them in different orders. -/
theorem session_text_iff (visit visit' : Visit Json) (s : State N) (s' : State N')
    (id id' : String) (r r' : NotarySession) (hr : getSession s id = .ok r)
    (hr' : getSession s' id' = .ok r') (hrange : SessionInRange T r)
    (hrange' : SessionInRange T r') :
    sessionText T visit s id = sessionText T visit' s' id' ↔
      { r with responseBody := none } = { r' with responseBody := none } ∧
      ∀ a ∈ r.attestation, visit.list a.disclosedFields = visit'.list a.disclosedFields := by
  rw [sessionText, sessionText, hr, hr']
  constructor
  · intro h
    have htext := display_injective (Except.ok.inj h)
    -- reading does not depend on the order that was written
    have hread : (notarySession T visit').decode ((notarySession T visit).encode r) =
        some { r with responseBody := none } := session_received T visit r hrange
    rw [htext, session_received T visit' r' hrange'] at hread
    have heq := (Option.some.inj hread).symm
    refine ⟨heq, fun a ha => (attestation_encode_iff T visit visit' a).mp ?_⟩
    have hr'a : r'.attestation = some a := (congrArg NotarySession.attestation heq).symm.trans ha
    have hlast : (option (attestation T visit)).encode r.attestation =
        (option (attestation T visit')).encode r'.attestation :=
      Option.some.inj (congrArg (fun v : Json => v.get "attestation") htext)
    rw [hr'a, show r.attestation = some a from ha] at hlast
    exact hlast
  · rintro ⟨heq, hvisit⟩
    have hencode : ∀ (visit : Visit Json) (q : NotarySession), (notarySession T visit).encode q =
        (notarySession T visit).encode { q with responseBody := none } := fun _ _ => rfl
    show Except.ok (display ((notarySession T visit).encode r)) =
      Except.ok (display ((notarySession T visit').encode r'))
    rw [session_encode_congr T visit visit' r hvisit, hencode visit' r, heq, ← hencode visit' r']

end Endpoint

section Forwarding
variable {P : Platform} {N : Notary P}

/-- A document that has the members of another one, in any order, next to
unknown ones. -/
def Restates (names : List String) (es : List (String × Json)) (v : Json) : Prop :=
  ∃ es', v = .object es' ∧ (known names es).Perm (known names es')

theorem restated_read {α β : Type} (F : Fields α) (hnames : F.names.Nodup) (mk : α → β)
    (unmk : β → α) (valid : β → Prop) (h : ∀ y, valid y → mk (unmk y) = y) (y : β)
    (hy : ((record F hnames).iso mk unmk valid h).valid y) (es : List (String × Json))
    (hes : Restates F.names es (((record F hnames).iso mk unmk valid h).encode y)) :
    ((record F hnames).iso mk unmk valid h).decode (.object es) = some y := by
  obtain ⟨es', heq, hperm⟩ := hes
  have hread := ((record F hnames).iso mk unmk valid h).decode_encode y hy
  rw [heq] at hread
  rw [← hread]
  exact congrArg (Option.map mk) (accept_congr F es es' hperm)

/-- The documents of a reply, as a client hands them on. -/
structure HandedOn (reply : NotarizeReply) (proofDoc attestationDoc : List (String × Json)) :
    Prop where
  proof : ∀ v, (notarizeResponse T visit reply).get "proof" = some v →
    Restates (sessionProofFields T).names proofDoc v
  attestation : ∀ v, (notarizeResponse T visit reply).get "attestation" = some v →
    Restates (attestationFields T visit).names attestationDoc v

/-- A verifier that reads them. -/
def verifyDocuments (P : Platform) (V : Ed25519Verifier) (now : DateTime)
    (proofDoc attestationDoc : List (String × Json)) :
    Option (Except Stop VerificationResult) := do
  let p ← (sessionProof T).decode (.object proofDoc)
  let a ← (attestation T visit).decode (.object attestationDoc)
  pure (verifyAttestation P V now a p)

theorem reply_in_range (hparse : ∀ body v, P.fromStr body = .ok v → Json.Canonical v)
    {f : Fetch N} (x : Exit f) (reply : NotarizeReply) (hx : x.reply = .ok reply) :
    MapCanonical reply.attestation.disclosedFields := by
  cases x with
  | completed body clock proof a issued =>
    cases hx
    obtain ⟨fields, haccepts, -, rfl⟩ := (issue_ok _ _ _ _ _ _ _ _ _).mp issued
    obtain ⟨json, hjson, hfrom⟩ := (extractFields_ok P _ _ _ _).mp haccepts.2.2
    exact extracted_canonical json (hparse body json hjson) _ _ fields hfrom
  | clientFailed | fetchFailed | badStatus | unreadable | rejected => cases hx

/-- Whatever a client makes of the documents of a reply by reordering and
adding members, every verifier that trusts the key accepts them until they
expire, and its own result is read back as it was, in whatever order its map
is visited. -/
theorem forwarded_replies_verify
    (visit' : Visit Json) (hparse : ∀ body v, P.fromStr body = .ok v → Json.Canonical v)
    {f : Fetch N} (x : Exit f) (reply : NotarizeReply) (hx : x.reply = .ok reply)
    (hsign : SignsCorrectly N.keypair [message P reply.proof]) (V : Ed25519Verifier)
    (htrust : ∃ n ∈ V.trustedNotaries, n.publicKey = publicKeyBytes N.keypair) (now : DateTime)
    (hnow : ∀ e, reply.attestation.expiresAt = some e → now ≤ e)
    (hproof : ProofInRange T reply.proof) (hcreated : T.inRange reply.attestation.createdAt)
    (hexpires : ∀ e ∈ reply.attestation.expiresAt, T.inRange e)
    (proofDoc attestationDoc : List (String × Json))
    (hdocs : HandedOn T visit reply proofDoc attestationDoc) :
    ∃ r, verifyDocuments T visit P V now proofDoc attestationDoc = some (.ok r) ∧
      r.claimType = f.template.claimType ∧
      r.verifiedFields = reply.attestation.disclosedFields ∧
      Received (verificationResult visit') r r := by
  have hfields := reply_in_range hparse x reply hx
  have hp : (sessionProof T).decode (.object proofDoc) = some reply.proof :=
    restated_read _ _ _ _ _ _ _ (sessionProof_valid T _ hproof) _ (hdocs.proof _ rfl)
  have ha : (attestation T visit).decode (.object attestationDoc) = some reply.attestation :=
    restated_read _ _ _ _ _ _ _ (attestation_valid T visit _ ⟨hfields, hcreated, hexpires⟩) _
      (hdocs.attestation _ rfl)
  obtain ⟨hsigned, hclaim⟩ := exit_reply_ok x reply hx
  obtain ⟨notary, -, hok⟩ := verifyAttestation_of_proof P V now reply.attestation reply.proof
    (signedBy_accepted f reply.proof hsigned hsign V ((isTrusted_isSome V _).mpr htrust))
    ((expired_none now _).mpr hnow)
  have hread : verifyDocuments T visit P V now proofDoc attestationDoc =
      some (verifyAttestation P V now reply.attestation reply.proof) := by
    rw [verifyDocuments, hp, ha]
    rfl
  exact ⟨_, hread.trans (congrArg some hok), hclaim, rfl,
    (verificationResult visit').decode_encode _
      ⟨trivial, trivial, trivial, hfields, bytes_valid _, trivial, trivial⟩⟩

end Forwarding

section Recorded

/-- A request of an active voter, past the creation of its session. -/
def activeFetch : Fetch (shippedNotary activeRecording) where
  request := ⟨"utah-voter-v1", none, none⟩
  template := utahVoterTemplate
  admitted := rfl
  sessionId := firstId
  createdAt := noon.proofTime

/-- A notary that holds one session. -/
def holding (r : NotarySession) : State (shippedNotary activeRecording) :=
  { init (shippedNotary activeRecording) 1 with store := ⟨Finmap.insert r.id r ∅, 1⟩ }

theorem holding_read (r : NotarySession) : getSession (holding r) r.id = .ok r :=
  (getSession_ok _ _ _).mpr (Finmap.lookup_insert _)

/-- The entries from the last key to the first. -/
def reversedVisit : Visit Json where
  list m := (sortedVisit.list m).reverse
  lookup_list m k := by
    rw [← sortedVisit.lookup_list m k]
    exact lookup_perm _ _ (List.reverse_perm _)
      (by rw [List.map_reverse, List.nodup_reverse]; exact sortedVisit.once m) k
  once m := by
    rw [List.map_reverse, List.nodup_reverse]
    exact sortedVisit.once m

theorem reversed_differs (m : FieldMap) (j k : String) (hjk : j ≠ k)
    (hj : (m.lookup j).isSome = true) (hk : (m.lookup k).isSome = true) :
    sortedVisit.list m ≠ reversedVisit.list m := by
  have hmem : ∀ i, (m.lookup i).isSome = true → i ∈ (sortedVisit.list m).map Prod.fst := by
    intro i hi
    obtain ⟨v, hv⟩ := Option.isSome_iff_exists.mp hi
    rw [← sortedVisit.lookup_list] at hv
    obtain ⟨before, after, heq, -⟩ := List.lookup_eq_some_iff.mp hv
    exact List.mem_map.mpr ⟨(i, v), by simp [heq], rfl⟩
  intro h
  have hkeys := congrArg (List.map Prod.fst) h
  have honce := sortedVisit.once m
  rw [show reversedVisit.list m = (sortedVisit.list m).reverse from rfl, List.map_reverse] at hkeys
  generalize (sortedVisit.list m).map Prod.fst = keys at hkeys honce hmem
  -- the first key of a list that reads the same backwards comes again at its end
  cases keys with
  | nil => exact absurd (hmem j hj) List.not_mem_nil
  | cons a rest =>
    rw [List.reverse_cons] at hkeys
    cases hrest : rest.reverse with
    | nil =>
      rw [List.reverse_eq_nil_iff.mp hrest] at hmem
      exact hjk ((List.mem_singleton.mp (hmem j hj)).trans
        (List.mem_singleton.mp (hmem k hk)).symm)
    | cons b more =>
      rw [hrest, List.cons_append, List.cons.injEq] at hkeys
      refine (List.nodup_cons.mp honce).1 (List.mem_reverse.mp ?_)
      rw [hrest, hkeys.1]
      exact List.mem_cons_self

/-- The session of an active voter with what was issued. -/
def completedRecord (proof : SessionProof) (a : Attestation) : NotarySession :=
  { activeFetch.fresh with
    state := .completed
    certificateHash := some activeFetch.certHash
    proof := some proof
    attestation := some a }

theorem unissued_in_range (body : Option String) :
    SessionInRange noonText { activeFetch.fresh with responseBody := body } where
  created := Or.inl rfl
  proof := by rintro _ ⟨⟩
  attestation := by rintro _ ⟨⟩

/-- Before and after the plaintext is stored the endpoint says the same; what
two processes say of one completed session may differ. -/
theorem stored_body_unread :
    sessionText noonText sortedVisit
        (holding { activeFetch.fresh with responseBody := some activeText }) firstId =
      sessionText noonText sortedVisit (holding activeFetch.fresh) firstId ∧
    ∃ proof a, activeIssue none = .ok (proof, a) ∧
      sessionText noonText sortedVisit (holding (completedRecord proof a)) firstId ≠
        sessionText noonText reversedVisit (holding (completedRecord proof a)) firstId := by
  constructor
  · exact (session_text_iff noonText sortedVisit sortedVisit _ _ firstId firstId
      { activeFetch.fresh with responseBody := some activeText } activeFetch.fresh
      (holding_read _) (holding_read _) (unissued_in_range (some activeText))
      (unissued_in_range none)).mpr ⟨rfl, by rintro _ ⟨⟩⟩
  · obtain ⟨proof, a, hissue⟩ := active_default_issued
    obtain ⟨hproof, ha⟩ := active_in_range proof a hissue
    have hkeys : (activeIssue none).toOption.map (fun e =>
        ((e.2.disclosedFields.lookup "status").isSome,
          (e.2.disclosedFields.lookup "state").isSome)) = some (true, true) := by
      decide +kernel
    rw [hissue] at hkeys
    obtain ⟨hstatus, hstate⟩ := Prod.mk.inj (Option.some.inj hkeys)
    have hrange : SessionInRange noonText (completedRecord proof a) := by
      refine ⟨Or.inl rfl, ?_, ?_⟩
      · rintro _ ⟨⟩
        exact hproof
      · rintro _ ⟨⟩
        exact ha
    refine ⟨proof, a, hissue, fun h => ?_⟩
    have hvisit := ((session_text_iff noonText sortedVisit reversedVisit _ _ firstId firstId
      (completedRecord proof a) (completedRecord proof a) (holding_read _) (holding_read _)
      hrange hrange).mp h).2
    exact reversed_differs a.disclosedFields "status" "state" (by decide) hstatus hstate
      (hvisit a rfl)

theorem active_fetch_issue : activeFetch.issue activeText noon = activeIssue none := by
  have hcert : activeFetch.certHash = utahCertHash.toList := by decide +kernel
  rw [Fetch.issue, hcert]
  rfl

/-- A document turned around, behind a member of the client's own. -/
def turned (es : List (String × Json)) : List (String × Json) := ("note", .null) :: es.reverse

theorem turned_restates (names : List String) (es : List (String × Json))
    (h : "note" ∉ names) : Restates names (turned es) (.object es) := by
  refine ⟨es, rfl, ?_⟩
  rw [turned, known, known, List.filter_cons, if_neg (by simpa using h), List.filter_reverse]
  exact List.reverse_perm _

theorem turned_handed_on (reply : NotarizeReply) :
    ∃ proofDoc attestationDoc, proofDoc.length = 8 ∧ attestationDoc.length = 9 ∧
      HandedOn noonText sortedVisit reply proofDoc attestationDoc := by
  have hproof : "note" ∉ (sessionProofFields noonText).names := by
    simp [sessionProofFields, field, done, Fields.member]
  have hattestation : "note" ∉ (attestationFields noonText sortedVisit).names := by
    simp [attestationFields, field, nullable, done, Fields.member]
  obtain ⟨es, hes, hlen⟩ : ∃ es, (sessionProof noonText).encode reply.proof = .object es ∧
      es.length = 7 := ⟨_, rfl, rfl⟩
  obtain ⟨ds, hds, hlen'⟩ : ∃ ds,
      (attestation noonText sortedVisit).encode reply.attestation = .object ds ∧
        ds.length = 8 := ⟨_, rfl, rfl⟩
  refine ⟨turned es, turned ds, by simp [turned, hlen], by simp [turned, hlen'],
    fun v hv => ?_, fun v hv => ?_⟩
  · obtain rfl : (sessionProof noonText).encode reply.proof = v := Option.some.inj hv
    rw [hes]
    exact turned_restates _ es hproof
  · obtain rfl : (attestation noonText sortedVisit).encode reply.attestation = v :=
      Option.some.inj hv
    rw [hds]
    exact turned_restates _ ds hattestation

/-- The reply to an active voter, turned around and annotated by the client,
on the last instant it is good for. -/
theorem turned_reply_verifies :
    ∃ reply proofDoc attestationDoc r, HandedOn noonText sortedVisit reply proofDoc attestationDoc ∧
      verifyDocuments noonText sortedVisit (replay activeRecording) ⟨[utahNotary]⟩
        (noon.expiryBase + thirtyDays) proofDoc attestationDoc = some (.ok r) ∧
      r.claimType = "voter_registration" := by
  obtain ⟨proof, a, hissue⟩ := active_default_issued
  obtain ⟨hproof, ha⟩ := active_in_range proof a hissue
  obtain ⟨fields, -, hsigned, hissued⟩ := (issue_ok _ _ _ _ _ _ _ _ _).mp hissue
  obtain ⟨proofDoc, attestationDoc, -, -, hdocs⟩ := turned_handed_on ⟨firstId, proof, a⟩
  obtain ⟨r, hr, hclaim, -⟩ := forwarded_replies_verify noonText sortedVisit reversedVisit
    (replay_canonical activeRecording (List.forall_mem_singleton.mpr (utah_canonical "Active")))
    (.completed activeText noon proof a (active_fetch_issue.trans hissue)) ⟨firstId, proof, a⟩ rfl
    (by
      rw [hsigned]
      exact active_signs)
    ⟨[utahNotary]⟩ ⟨utahNotary, List.mem_singleton_self _, rfl⟩
    (noon.expiryBase + thirtyDays)
    (by
      intro e he
      rw [hissued] at he
      cases he
      exact le_refl _)
    hproof ha.created ha.expires proofDoc attestationDoc hdocs
  exact ⟨⟨firstId, proof, a⟩, proofDoc, attestationDoc, r, hdocs, hr, hclaim⟩

end Recorded

end ZkTls.WireExchange
