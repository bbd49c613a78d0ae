import ZkTls.NotarizeResponse
import ZkTls.ProofVerifier
import ZkTls.RecordedPlatform
import ZkTls.WireFormat

/-!
# Issued attestations before the verifier

What a verifier makes of the pairs the notary issues. Every issued pair is
accepted until it expires. The converse directions are where the checks end:
the proof binds no field of an attestation, and the fields a template calls
required are looked at by nobody.
-/

set_option autoImplicit false

namespace ZkTls.AttestationChecks
open ZkTls.JsonTree ZkTls.JsonText ZkTls.CoreTypes ZkTls.VerificationTemplates
open ZkTls.FieldExtraction ZkTls.SessionProofs ZkTls.ProofVerifier ZkTls.NotarizeResponse
open ZkTls.RecordedPlatform
open ZkTls.JsonCodec (sortedVisit)
open ZkTls.WireFormat (TimeText ProofInRange AttestationInRange extracted_canonical)
open ZkTls.WireFormat (sessionProof sessionProof_valid attestation_valid)

variable {P : Platform} (keypair : NotaryKeyPair P) (template : VerificationTemplate)
  (disclosure : Option DisclosureMask) (sessionId responseBody : String)
  (certHash : Bytes) (clock : IssueClock)

/-- The message behind the proof the handler issues. -/
def issuedMessage (P : Platform) (template : VerificationTemplate) (responseBody : String)
    (certHash : Bytes) (clock : IssueClock) : Bytes :=
  SessionProofs.buildSigningMessage P template.target.hostname certHash
    (sha512Hash P (asBytes responseBody)) clock.proofTime

theorem issued_proof_accepted (V : Ed25519Verifier)
    (hkey : SignsCorrectly keypair [issuedMessage P template responseBody certHash clock])
    (htrust : (isTrusted V (publicKeyBytes keypair)).isSome = true) :
    verifyProof P V (generateProof template.target.hostname responseBody certHash keypair
      clock.proofTime) = .ok () := by
  obtain ⟨vk, hvk, hv⟩ := hkey
  exact (verifyProof_ok P V _).mpr
    ⟨htrust, _, vk, _, rfl, hvk, rfl, hv _ (List.mem_singleton_self _)⟩

/-- The recorded exchange for an active voter, under a given mask. -/
def activeIssue (disclosure : Option DisclosureMask) :
    Except Rejection (SessionProof × Attestation) :=
  issue (recordedKey activeRecording) utahVoterTemplate disclosure firstId activeText
    utahCertHash.toList noon

theorem active_message :
    [issuedMessage (replay activeRecording) utahVoterTemplate activeText
      utahCertHash.toList noon] = activeRecording.signatures.map Prod.fst :=
  recorded_message "Active" activeDigest activeSignature

theorem active_signs :
    SignsCorrectly (recordedKey activeRecording)
      [issuedMessage (replay activeRecording) utahVoterTemplate activeText
        utahCertHash.toList noon] := by
  rw [active_message]
  exact replay_signs activeRecording

theorem active_issued (disclosure : Option DisclosureMask)
    (h : (activeIssue disclosure).isOk = true) :
    ∃ proof attestation, activeIssue disclosure = .ok (proof, attestation) := by
  cases hr : activeIssue disclosure with
  | error e => simp [hr, Except.isOk, Except.toBool] at h
  | ok r => exact ⟨r.1, r.2, rfl⟩

theorem active_default_issued :
    ∃ proof attestation, activeIssue none = .ok (proof, attestation) :=
  active_issued none (by decide +kernel)

def utahNotary : TrustedNotary := ⟨"Utah", activeRecording.publicKey.toList, none⟩

/-- A notary with another key. -/
def elsewhereNotary : TrustedNotary := ⟨"Elsewhere", List.replicate 32 1, none⟩

/-- A text form of a type, as a serializer and a parser. -/
structure TextForm (α : Type) where
  encode : α → String
  decode : String → Option α

def TextForm.received {α : Type} (F : TextForm α) (x : α) : Option α := F.decode (F.encode x)

/-- Everything the notary issues is accepted by everyone who trusts its key,
up to the expiry time, and the result repeats what was extracted. The same
verdict is reached on the pair read back from its text form. -/
theorem issued_pair_verifies (proof : SessionProof) (attestation : Attestation)
    (hissue : issue keypair template disclosure sessionId responseBody certHash clock =
      .ok (proof, attestation))
    (hkey : SignsCorrectly keypair [issuedMessage P template responseBody certHash clock])
    (V : Ed25519Verifier)
    (htrust : ∃ n ∈ V.trustedNotaries, n.publicKey = publicKeyBytes keypair)
    (now : DateTime) (hnow : ∀ e, attestation.expiresAt = some e → now ≤ e)
    (proofForm : TextForm SessionProof) (attestationForm : TextForm Attestation)
    (hproof : proofForm.received proof = some proof)
    (hattestation : attestationForm.received attestation = some attestation) :
    ∃ r redacted,
      verifyAttestation P V now attestation proof = .ok r ∧
      r.valid = true ∧
      extractFields P responseBody template.fields (effectiveMask template disclosure) =
        .ok (r.verifiedFields, redacted) ∧
      r.notaryKey = publicKeyBytes keypair ∧
      r.claimType = template.claimType ∧
      (do
        let receivedProof ← proofForm.received proof
        let receivedAttestation ← attestationForm.received attestation
        pure (verifyAttestation P V now receivedAttestation receivedProof)) =
        some (.ok r) := by
  obtain ⟨fields, haccepts, rfl, rfl⟩ := (issue_ok _ _ _ _ _ _ _ _ _).mp hissue
  have hp := issued_proof_accepted keypair template responseBody certHash clock V hkey
    ((isTrusted_isSome V _).mpr htrust)
  obtain ⟨notary, -, hok⟩ := verifyAttestation_of_proof P V now _ _ hp
    ((expired_none now _).mpr hnow)
  refine ⟨_, fields.2, hok, rfl, haccepts.2.2, rfl, rfl, ?_⟩
  rw [hproof, hattestation]
  exact congrArg some hok

/-- The JSON text of a type, read with a given reader of texts. -/
def jsonForm {α : Type} (P : Platform) (C : JsonCodec.Codec α) : TextForm α where
  encode x := display (C.encode x)
  decode s := (P.fromStr s).toOption.bind C.decode

theorem jsonForm_received {α : Type} (C : JsonCodec.Codec α) (x : α) (hx : C.valid x)
    (hread : P.fromStr (display (C.encode x)) = .ok (C.encode x)) :
    (jsonForm P C).received x = some x := by
  show (P.fromStr (display (C.encode x))).toOption.bind C.decode = some x
  rw [hread]
  exact C.decode_encode x hx

/-- The text of an instant in a serialized value, for the two instants that
occur at noon and thirty days later. -/
def noonStamp (t : DateTime) : String :=
  if t = noon.proofTime then "2026-05-26T12:00:00Z" else "2026-06-25T12:00:00Z"

/-- The texts of the two instants of a notarization at noon. -/
def noonText : TimeText where
  write := noonStamp
  read s :=
    if s = noonStamp noon.proofTime then some noon.proofTime
    else if s = noonStamp (noon.expiryBase + thirtyDays) then some (noon.expiryBase + thirtyDays)
    else none
  inRange t := t = noon.proofTime ∨ t = noon.expiryBase + thirtyDays
  read_write t ht := by rcases ht with rfl | rfl <;> decide +kernel

theorem active_in_range (proof : SessionProof) (a : Attestation)
    (hissue : activeIssue none = .ok (proof, a)) :
    ProofInRange noonText proof ∧ AttestationInRange noonText a := by
  obtain ⟨fields, haccepts, rfl, rfl⟩ := (issue_ok _ _ _ _ _ _ _ _ _).mp hissue
  obtain ⟨json, hjson, hfrom⟩ := (extractFields_ok _ _ _ _ _).mp haccepts.2.2
  refine ⟨⟨Or.inl rfl, Or.inl rfl⟩, ?_, Or.inl rfl, ?_⟩
  · cases active_parse.symm.trans hjson
    exact extracted_canonical _ (utah_canonical "Active") _ _ fields hfrom
  · rintro e ⟨⟩
    exact Or.inr rfl

/-- The pair issued to an active voter, with its JSON texts, at a verifier
that knows the key twice and another notary, on the last instant. -/
theorem active_pair_verifies :
    ∃ proof attestation r, activeIssue none = .ok (proof, attestation) ∧
      verifyAttestation (replay activeRecording)
        ⟨[elsewhereNotary, utahNotary, utahNotary]⟩
        (noon.expiryBase + thirtyDays) attestation proof = .ok r ∧
      r.claimType = "voter_registration" := by
  obtain ⟨proof, attestation, hissue⟩ := active_default_issued
  have hexpiry : attestation.expiresAt = some (noon.expiryBase + thirtyDays) := by
    obtain ⟨fields, -, -, rfl⟩ := (issue_ok _ _ _ _ _ _ _ _ _).mp hissue
    rfl
  obtain ⟨hproof, hattestation⟩ := active_in_range proof attestation hissue
  -- a reader that knows the two documents
  have hread := replay_reads { activeRecording with
    responses := [(sessionProof noonText).encode proof,
      (WireFormat.attestation noonText sortedVisit).encode attestation] }
  obtain ⟨r, -, hr, -, -, -, hclaim, -⟩ :=
    issued_pair_verifies (recordedKey activeRecording) utahVoterTemplate none _ activeText
      utahCertHash.toList noon proof attestation hissue active_signs
      ⟨[elsewhereNotary, utahNotary, utahNotary]⟩
      ⟨utahNotary, by simp, rfl⟩ (noon.expiryBase + thirtyDays)
      (by rw [hexpiry]; rintro e ⟨⟩; exact le_refl _)
      (jsonForm _ (sessionProof noonText))
      (jsonForm _ (WireFormat.attestation noonText sortedVisit))
      (jsonForm_received _ _ (sessionProof_valid noonText proof hproof)
        (hread _ List.mem_cons_self))
      (jsonForm_received _ _ (attestation_valid noonText sortedVisit attestation hattestation)
        (hread _ (List.mem_cons_of_mem _ List.mem_cons_self)))
  exact ⟨proof, attestation, r, hissue, hr, hclaim⟩

/-- The fields of an attestation a proof would have to bind. -/
structure AgreesWith (a issued : Attestation) : Prop where
  claimType : a.claimType = issued.claimType
  templateId : a.templateId = issued.templateId
  sessionProofId : a.sessionProofId = issued.sessionProofId
  expiresAt : a.expiresAt = issued.expiresAt

/-- Every entry is the response's value for a field of that name. -/
def TakenFrom (P : Platform) (template : VerificationTemplate) (responseBody : String)
    (fields : FieldMap) : Prop :=
  ∀ name v, fields.lookup name = some v →
    ∃ json, P.fromStr responseBody = .ok json ∧
      ∃ f ∈ template.fields, f.name = name ∧ v = shownValue json f

/-- No submitted attestation is accepted with this proof unless it repeats
the issued one and the response. -/
def Bound (P : Platform) (V : Ed25519Verifier) (now : DateTime)
    (template : VerificationTemplate) (responseBody : String) (proof : SessionProof)
    (issued : Attestation) : Prop :=
  ∀ a r, verifyAttestation P V now a proof = .ok r →
    AgreesWith a issued ∧ TakenFrom P template responseBody r.verifiedFields

/-- The issued attestation under another claim type, never to expire. -/
def relabelled (a : Attestation) : Attestation :=
  { a with claimType := a.claimType ++ "!", expiresAt := none }

theorem relabelled_accepted (V : Ed25519Verifier) (now : DateTime) (a : Attestation)
    (proof : SessionProof) (hp : verifyProof P V proof = .ok ()) :
    ∃ r, verifyAttestation P V now (relabelled a) proof = .ok r := by
  obtain ⟨notary, -, hok⟩ := verifyAttestation_of_proof P V now (relabelled a) proof hp rfl
  exact ⟨_, hok⟩

theorem not_bound_of_accepted (V : Ed25519Verifier) (now : DateTime) (a : Attestation)
    (proof : SessionProof) (hp : verifyProof P V proof = .ok ()) :
    ¬ Bound P V now template responseBody proof a := by
  intro hbound
  obtain ⟨r, hr⟩ := relabelled_accepted V now a proof hp
  have hlen := congrArg String.length (hbound _ r hr).1.claimType
  simp [relabelled, String.length_append] at hlen

/-- An issued proof binds attestations only at a verifier that turns the
proof itself down. -/
theorem bound_iff_untrusted (proof : SessionProof) (issued : Attestation)
    (hissue : issue keypair template disclosure sessionId responseBody certHash clock =
      .ok (proof, issued))
    (hkey : SignsCorrectly keypair [issuedMessage P template responseBody certHash clock])
    (V : Ed25519Verifier) (now : DateTime) :
    Bound P V now template responseBody proof issued ↔
      ∀ n ∈ V.trustedNotaries, n.publicKey ≠ publicKeyBytes keypair := by
  obtain ⟨fields, -, rfl, rfl⟩ := (issue_ok _ _ _ _ _ _ _ _ _).mp hissue
  constructor
  · intro hbound n hn hpk
    have htrust := (isTrusted_isSome V (publicKeyBytes keypair)).mpr ⟨n, hn, hpk⟩
    exact not_bound_of_accepted template responseBody V now _ _
      (issued_proof_accepted keypair template responseBody certHash clock V hkey htrust)
      hbound
  · intro huntrusted a r hr
    have hp := (verifyAttestation_ok P V now a _ r hr).1
    obtain ⟨n, hn, hpk⟩ := (isTrusted_isSome V _).mp ((verifyProof_ok P V _).mp hp).1
    exact absurd hpk (huntrusted n hn)

theorem active_digests_distinct :
    Set.InjOn (replay activeRecording).sha512
      (fun b => b ∈ activeRecording.digests.map Prod.fst) := by
  have hcert : (replay activeRecording).sha512 (asBytes ("tls-cert:" ++ utahHost)) =
      utahCertHash := by
    simp [replay, activeRecording, utahRecording, List.lookup_cons]
  have hbody : (replay activeRecording).sha512 (asBytes activeText) = activeDigest :=
    recorded_digest "Active" activeDigest activeSignature
  have hne : (replay activeRecording).sha512 (asBytes ("tls-cert:" ++ utahHost)) ≠
      (replay activeRecording).sha512 (asBytes activeText) := by
    rw [hcert, hbody]
    decide
  intro a ha b hb hab
  simp only [activeRecording, utahRecording, List.map_cons, List.map_nil, List.mem_cons,
    List.not_mem_nil, or_false] at ha hb
  rcases ha with rfl | rfl <;> rcases hb with rfl | rfl
  · rfl
  · exact absurd hab hne
  · exact absurd hab.symm hne
  · rfl

/-- An active voter's proof carries any claim type the submitter likes, in an
attestation that no longer expires. -/
theorem active_claim_relabelled :
    Unforgeable (recordedKey activeRecording)
      [issuedMessage (replay activeRecording) utahVoterTemplate activeText
        utahCertHash.toList noon] ∧
    Set.InjOn (replay activeRecording).sha512
      (fun b => b ∈ activeRecording.digests.map Prod.fst) ∧
    ∃ proof issued, activeIssue none = .ok (proof, issued) ∧
      (∃ r, verifyAttestation (replay activeRecording) ⟨[utahNotary]⟩ noon.proofTime
          (relabelled issued) proof = .ok r ∧ r.claimType = "voter_registration!") ∧
      ¬ Bound (replay activeRecording) ⟨[utahNotary]⟩ noon.proofTime utahVoterTemplate
        activeText proof issued := by
  refine ⟨?_, active_digests_distinct, ?_⟩
  · rw [active_message]
    exact replay_unforgeable activeRecording
  · obtain ⟨proof, issued, hissue⟩ := active_default_issued
    obtain ⟨fields, -, rfl, rfl⟩ := (issue_ok _ _ _ _ _ _ _ _ _).mp hissue
    have hp := issued_proof_accepted (recordedKey activeRecording) utahVoterTemplate activeText
      utahCertHash.toList noon ⟨[utahNotary]⟩ active_signs (by decide +kernel)
    obtain ⟨r, hr⟩ := relabelled_accepted ⟨[utahNotary]⟩ noon.proofTime
      (buildAttestation utahVoterTemplate _ fields noon) _ hp
    exact ⟨_, _, hissue, ⟨r, hr, (verifyAttestation_ok _ _ _ _ _ _ hr).2.2.1⟩,
      not_bound_of_accepted utahVoterTemplate activeText _ _ _ _ hp⟩

theorem untrusted_store_bound :
    ∃ proof issued, activeIssue none = .ok (proof, issued) ∧
      Bound (replay activeRecording) ⟨[elsewhereNotary]⟩ noon.proofTime utahVoterTemplate
        activeText proof issued := by
  obtain ⟨proof, issued, hissue⟩ := active_default_issued
  exact ⟨proof, issued, hissue,
    (bound_iff_untrusted (recordedKey activeRecording) utahVoterTemplate none _ activeText
      utahCertHash.toList noon proof issued hissue active_signs _ noon.proofTime).mpr
      (by rw [List.forall_mem_singleton]; decide +kernel)⟩

/-- The judgements a template leaves open: dates and regular expressions. -/
structure Judge where
  isoDate : String → Prop
  patternMatches : String → Json → Prop

def HasType (J : Judge) : FieldType → Json → Prop
  | .string, .string _ => True
  | .boolean, .bool _ => True
  | .integer, .number n => n.isInteger = true
  | .date, .string s => J.isoDate s
  | _, _ => False

def Acceptable (J : Judge) (f : FieldDefinition) (v : Json) : Prop :=
  HasType J f.fieldType v ∧
    ∀ pattern, f.validationPattern = some pattern → J.patternMatches pattern v

/-- The evidence a claim type promises. -/
def RequiredShown (J : Judge) (fields : List FieldDefinition) (shown : FieldMap) : Prop :=
  ∀ f ∈ fields, f.required = true → ∃ v, shown.lookup f.name = some v ∧ Acceptable J f v

/-- Whatever is issued and accepted carries that evidence. -/
def ClaimSound (J : Judge) : Prop :=
  ∀ proof attestation,
    issue keypair template disclosure sessionId responseBody certHash clock =
      .ok (proof, attestation) →
    ∀ V now r, verifyAttestation P V now attestation proof = .ok r →
      RequiredShown J template.fields r.verifiedFields

/-- The mask shows, under every required name, an acceptable value of the
response. -/
def EvidenceShown (J : Judge) (template : VerificationTemplate) (mask : DisclosureMask)
    (json : Json) : Prop :=
  ∀ f ∈ template.fields, f.required = true →
    ∃ g, lastShown mask template.fields f.name = some g ∧
      Acceptable J f (shownValue json g)

theorem requiredShown_iff (J : Judge) (json : Json) (fields : ExtractedFields)
    (h : extractFrom P json template.fields (effectiveMask template disclosure) =
      .ok fields) :
    RequiredShown J template.fields fields.1 ↔
      EvidenceShown J template (effectiveMask template disclosure) json := by
  have hmap := ((extractFrom_ok P json _ _ _).mp h).2.1
  refine forall₂_congr fun f _ => imp_congr_right fun _ => ?_
  rw [hmap f.name]
  constructor
  · rintro ⟨v, hv, hok⟩
    obtain ⟨g, hg, rfl⟩ := Option.map_eq_some_iff.mp hv
    exact ⟨g, hg, hok⟩
  · rintro ⟨g, hg, hok⟩
    exact ⟨_, by rw [hg]; rfl, hok⟩

theorem extracted_from_parse (fields : ExtractedFields) (json : Json)
    (hjson : P.fromStr responseBody = .ok json)
    (h : Accepts P template disclosure responseBody fields) :
    extractFrom P json template.fields (effectiveMask template disclosure) =
      .ok fields := by
  obtain ⟨v, hv, hfrom⟩ := (extractFields_ok P _ _ _ _).mp h.2.2
  rw [hjson] at hv
  cases hv
  exact hfrom

/-- A verifier that trusts the notary passes the issued pair, so soundness
of the claim is already a property of what was extracted. -/
theorem evidence_of_sound (J : Judge)
    (hkey : SignsCorrectly keypair [issuedMessage P template responseBody certHash clock])
    (hsound : ClaimSound keypair template disclosure sessionId responseBody certHash clock J)
    (json : Json) (hjson : P.fromStr responseBody = .ok json) (fields : ExtractedFields)
    (haccepts : Accepts P template disclosure responseBody fields) :
    EvidenceShown J template (effectiveMask template disclosure) json := by
  have hissue := (issue_ok keypair template disclosure sessionId responseBody certHash clock
    _ _).mpr ⟨fields, haccepts, rfl, rfl⟩
  have hp := issued_proof_accepted keypair template responseBody certHash clock
    ⟨[⟨"", publicKeyBytes keypair, none⟩]⟩ hkey (by simp [isTrusted])
  obtain ⟨notary, -, hok⟩ := verifyAttestation_of_proof P _ (clock.expiryBase + thirtyDays)
    (buildAttestation template sessionId fields clock) _ hp
    ((expired_none _ _).mpr (by simp [buildAttestation]))
  exact (requiredShown_iff template disclosure J json fields
    (extracted_from_parse template disclosure responseBody fields json hjson haccepts)).mp
    (hsound _ _ hissue _ _ _ hok)

/-- The required evidence is there exactly when the mask and the response
already supply it; no step of issuing or verifying asks for it. -/
theorem claimSound_iff (J : Judge)
    (hkey : SignsCorrectly keypair [issuedMessage P template responseBody certHash clock]) :
    ClaimSound keypair template disclosure sessionId responseBody certHash clock J ↔
      ∀ json fields, P.fromStr responseBody = .ok json →
        Accepts P template disclosure responseBody fields →
        EvidenceShown J template (effectiveMask template disclosure) json := by
  constructor
  · intro hsound json fields hjson haccepts
    exact evidence_of_sound keypair template disclosure sessionId responseBody certHash clock
      J hkey hsound json hjson fields haccepts
  · intro h proof attestation hissue V now r hr
    obtain ⟨fields, haccepts, rfl, rfl⟩ := (issue_ok _ _ _ _ _ _ _ _ _).mp hissue
    obtain ⟨json, hjson, hfrom⟩ := (extractFields_ok P _ _ _ _).mp haccepts.2.2
    have hr' := (verifyAttestation_ok P V now _ _ r hr).2.2.2
    rw [hr']
    exact (requiredShown_iff template disclosure J json fields hfrom).mpr
      (h json fields hjson haccepts)

/-- The two patterns of the Utah template, read as the sets of strings they
describe. -/
def utahJudge : Judge where
  isoDate _ := True
  patternMatches pattern v :=
    (pattern = "^UT$" ∧ v = .string "UT") ∨
    (pattern = "^(Active|Inactive|Cancelled|Suspended)$" ∧
      ∃ s ∈ ["Active", "Inactive", "Cancelled", "Suspended"], v = .string s)

/-- A mask that shows nothing still yields an accepted voter registration. -/
theorem empty_mask_unsound :
    ¬ ClaimSound (recordedKey activeRecording) utahVoterTemplate (some ⟨[], []⟩)
      firstId activeText utahCertHash.toList noon utahJudge := by
  intro hsound
  obtain ⟨proof, attestation, hissue⟩ := active_issued (some ⟨[], []⟩) (by decide +kernel)
  obtain ⟨fields, haccepts, -, -⟩ := (issue_ok _ _ _ _ _ _ _ _ _).mp hissue
  obtain ⟨json, hjson, -⟩ := (extractFields_ok _ _ _ _ _).mp haccepts.2.2
  have hshown := evidence_of_sound _ _ _ _ _ _ _ _ active_signs hsound json hjson fields
    haccepts
  obtain ⟨g, hg, -⟩ := hshown _ (List.mem_cons_self) rfl
  exact absurd (lastShown_some _ hg).2.1 (by simp [Shown, effectiveMask])

theorem shown_status (status : String) (f : FieldDefinition)
    (hf : f.jsonPath = "voter.status") :
    shownValue (utahResponse status) f = .string status := by
  rw [shownValue, hf, recorded_status, Option.getD_some]

theorem shown_state (status : String) (f : FieldDefinition)
    (hf : f.jsonPath = "residence.physicalState") :
    shownValue (utahResponse status) f = .string "UT" := by
  rw [shownValue, hf, recorded_state, Option.getD_some]

/-- Under its own default mask the Utah template is sound on this response. -/
theorem default_mask_sound :
    ClaimSound (recordedKey activeRecording) utahVoterTemplate none
      firstId activeText utahCertHash.toList noon utahJudge := by
  refine (claimSound_iff _ _ _ _ _ _ _ _ active_signs).mpr ?_
  intro json fields hjson _ f hf hr
  cases active_parse.symm.trans hjson
  simp only [utahVoterTemplate, List.mem_cons, List.not_mem_nil, or_false] at hf
  rcases hf with rfl | rfl | rfl
  · refine ⟨_, by simp [lastShown, Shown, effectiveMask, utahVoterTemplate]; rfl, ?_⟩
    rw [shown_status "Active" _ rfl]
    refine ⟨trivial, ?_⟩
    rintro _ ⟨⟩
    exact Or.inr ⟨rfl, "Active", by simp, rfl⟩
  · refine ⟨_, by simp [lastShown, Shown, effectiveMask, utahVoterTemplate]; rfl, ?_⟩
    rw [shown_state "Active" _ rfl]
    refine ⟨trivial, ?_⟩
    rintro _ ⟨⟩
    exact Or.inl ⟨rfl, rfl⟩
  · exact absurd hr (by simp)

end ZkTls.AttestationChecks
