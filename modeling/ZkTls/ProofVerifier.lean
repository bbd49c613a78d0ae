import ZkTls.SessionProofs

/-!
# The relying party's verifier

Trust-store lookup, key and signature parsing, the verifier's own copy of
the signing message, and the attestation check on top of it. A result is an
error, or the panic of the `expect` that follows the proof check.
-/

set_option autoImplicit false

namespace ZkTls.ProofVerifier
open ZkTls.CoreTypes ZkTls.SessionProofs

inductive VerificationError where
  | invalidSignature
  | untrustedNotary (key : String)
  | templateMismatch (msg : String)
  | disclosureIntegrityFailed
  | expired (instant : String)
  | missingRequiredField (name : String)
  | fieldPatternMismatch (field value pattern : String)
  | invalidPublicKey (msg : String)
  deriving DecidableEq

inductive Stop where
  | error (e : VerificationError)
  | panic (msg : String)
  deriving DecidableEq

structure VerificationResult where
  valid : Bool
  claimType : String
  verifiedFields : FieldMap
  notaryKey : Bytes
  summary : String

structure TrustedNotary where
  name : String
  publicKey : Bytes
  endpoint : Option String

structure Ed25519Verifier where
  trustedNotaries : List TrustedNotary

def addNotary (V : Ed25519Verifier) (notary : TrustedNotary) : Ed25519Verifier :=
  { V with trustedNotaries := V.trustedNotaries ++ [notary] }

def isTrusted (V : Ed25519Verifier) (publicKey : Bytes) : Option TrustedNotary :=
  V.trustedNotaries.find? fun n => n.publicKey = publicKey

/-- Lowercase hexadecimal, two digits a byte. -/
def hexEncode (b : Bytes) : String :=
  String.ofList (b.flatMap fun x =>
    [Nat.digitChar (x.toNat / 16), Nat.digitChar (x.toNat % 16)])

/-- The verifier's own copy, in a crate the notary does not share. -/
def buildSigningMessage (P : Platform) (hostname : String)
    (certHash transcriptCommitment : Bytes) (timestamp : DateTime) : Bytes :=
  asBytes hostname ++ [0x00] ++ certHash ++ [0x00] ++ transcriptCommitment ++ [0x00] ++
    asBytes (P.toRfc3339 timestamp)

def verifyProof (P : Platform) (V : Ed25519Verifier) (proof : SessionProof) :
    Except VerificationError Unit :=
  match isTrusted V proof.notaryPublicKey with
  | none => .error (.untrustedNotary (hexEncode proof.notaryPublicKey))
  | some _ =>
    match tryInto 32 proof.notaryPublicKey with
    | none => .error (.invalidPublicKey "expected 32 bytes")
    | some vkBytes =>
      match P.fromBytes vkBytes with
      | .error e => .error (.invalidPublicKey e)
      | .ok verifyingKey =>
        match tryInto 64 proof.notarySignature with
        | none => .error .invalidSignature
        | some signature =>
          let signingMessage := buildSigningMessage P proof.serverHostname
            proof.certificateHash proof.transcriptCommitment proof.sessionTimestamp
          if P.verify verifyingKey signingMessage signature then .ok ()
          else .error .invalidSignature

def expired (now : DateTime) (attestation : Attestation) : Option DateTime :=
  attestation.expiresAt.filter fun expiresAt => expiresAt < now

def verifyAttestation (P : Platform) (V : Ed25519Verifier) (now : DateTime)
    (attestation : Attestation) (proof : SessionProof) : Except Stop VerificationResult :=
  match verifyProof P V proof with
  | .error e => .error (.error e)
  | .ok () =>
    match expired now attestation with
    | some expiresAt => .error (.error (.expired (P.toRfc3339 expiresAt)))
    | none =>
      match isTrusted V proof.notaryPublicKey with
      | none => .error (.panic "already verified as trusted")
      | some notary => .ok
          { valid := true
            claimType := attestation.claimType
            verifiedFields := attestation.disclosedFields
            notaryKey := proof.notaryPublicKey
            summary := "Verified " ++ attestation.claimType ++ " claim signed by " ++
              notary.name }

/-- The verifier's copy of the message builder agrees with the notary's. -/
theorem buildSigningMessage_agrees (P : Platform) (hostname : String)
    (certHash transcriptCommitment : Bytes) (timestamp : DateTime) :
    buildSigningMessage P hostname certHash transcriptCommitment timestamp =
      SessionProofs.buildSigningMessage P hostname certHash transcriptCommitment
        timestamp := rfl

theorem isTrusted_isSome (V : Ed25519Verifier) (publicKey : Bytes) :
    (isTrusted V publicKey).isSome = true ↔
      ∃ n ∈ V.trustedNotaries, n.publicKey = publicKey := by
  simp [isTrusted, List.find?_isSome]

/-- Everything the proof check requires, and nothing more. No length of the
hash or of the commitment is among it. -/
theorem verifyProof_ok (P : Platform) (V : Ed25519Verifier) (proof : SessionProof) :
    verifyProof P V proof = .ok () ↔
      (isTrusted V proof.notaryPublicKey).isSome = true ∧
      ∃ key vk sig, proof.notaryPublicKey = key.toList ∧ P.fromBytes key = .ok vk ∧
        proof.notarySignature = sig.toList ∧
        P.verify vk (SessionProofs.buildSigningMessage P proof.serverHostname
          proof.certificateHash proof.transcriptCommitment proof.sessionTimestamp) sig =
          true := by
  constructor
  · intro h
    unfold verifyProof at h
    split at h
    · cases h
    rename_i notary hn
    split at h
    · cases h
    rename_i key hkey
    split at h
    · cases h
    rename_i vk hvk
    split at h
    · cases h
    rename_i sig hsig
    refine ⟨by simp [hn], key, vk, sig, tryInto_eq_some.mp hkey, hvk,
      tryInto_eq_some.mp hsig, ?_⟩
    by_contra hv
    simp [buildSigningMessage_agrees, hv] at h
  · rintro ⟨htrust, key, vk, sig, hkey, hvk, hsig, hv⟩
    obtain ⟨notary, hn⟩ := Option.isSome_iff_exists.mp htrust
    unfold verifyProof
    rw [hn, tryInto_eq_some.mpr hkey, tryInto_eq_some.mpr hsig]
    simp only [hvk, buildSigningMessage_agrees, hv, if_true]

/-- Trusting one more notary turns no accepted proof down. -/
theorem verifyProof_addNotary (P : Platform) (V : Ed25519Verifier) (notary : TrustedNotary)
    (proof : SessionProof) (h : verifyProof P V proof = .ok ()) :
    verifyProof P (addNotary V notary) proof = .ok () := by
  obtain ⟨htrust, hrest⟩ := (verifyProof_ok P V proof).mp h
  obtain ⟨n, hn, hkey⟩ := (isTrusted_isSome V proof.notaryPublicKey).mp htrust
  have htrust' := (isTrusted_isSome (addNotary V notary) proof.notaryPublicKey).mpr
    ⟨n, List.mem_append_left _ hn, hkey⟩
  exact (verifyProof_ok P (addNotary V notary) proof).mpr ⟨htrust', hrest⟩

/-- After the proof check only the expiry is looked at, and the `expect`
cannot fire. -/
theorem verifyAttestation_of_proof (P : Platform) (V : Ed25519Verifier) (now : DateTime)
    (attestation : Attestation) (proof : SessionProof)
    (h : verifyProof P V proof = .ok ()) (he : expired now attestation = none) :
    ∃ notary, isTrusted V proof.notaryPublicKey = some notary ∧
      verifyAttestation P V now attestation proof = .ok
        { valid := true
          claimType := attestation.claimType
          verifiedFields := attestation.disclosedFields
          notaryKey := proof.notaryPublicKey
          summary := "Verified " ++ attestation.claimType ++ " claim signed by " ++
            notary.name } := by
  have htrust := ((verifyProof_ok P V proof).mp h).1
  obtain ⟨notary, hn⟩ := Option.isSome_iff_exists.mp htrust
  exact ⟨notary, hn, by simp [verifyAttestation, h, he, hn]⟩

/-- The accepted fields are the submitted ones, whatever they say. -/
theorem verifyAttestation_ok (P : Platform) (V : Ed25519Verifier) (now : DateTime)
    (attestation : Attestation) (proof : SessionProof) (r : VerificationResult)
    (h : verifyAttestation P V now attestation proof = .ok r) :
    verifyProof P V proof = .ok () ∧ expired now attestation = none ∧
      r.claimType = attestation.claimType ∧
      r.verifiedFields = attestation.disclosedFields := by
  unfold verifyAttestation at h
  split at h
  · cases h
  rename_i hp
  split at h
  · cases h
  rename_i he
  split at h
  · cases h
  cases h
  exact ⟨hp, he, rfl, rfl⟩

theorem expired_none (now : DateTime) (attestation : Attestation) :
    expired now attestation = none ↔ ∀ e, attestation.expiresAt = some e → now ≤ e := by
  simp [expired, Option.filter_eq_none_iff]

/-- No input reaches the panic. -/
theorem verifyAttestation_no_panic (P : Platform) (V : Ed25519Verifier) (now : DateTime)
    (attestation : Attestation) (proof : SessionProof) (msg : String) :
    verifyAttestation P V now attestation proof ≠ .error (.panic msg) := by
  intro h
  unfold verifyAttestation at h
  split at h
  · cases h
  rename_i hp
  split at h
  · cases h
  split at h
  · rename_i hn
    have htrust := ((verifyProof_ok P V proof).mp hp).1
    simp [hn] at htrust
  · cases h

theorem digitChar_injective (a b : ℕ) (ha : a < 16) (hb : b < 16)
    (h : Nat.digitChar a = Nat.digitChar b) : a = b := by
  have hall : ∀ a < 16, ∀ b < 16, Nat.digitChar a = Nat.digitChar b → a = b := by decide
  exact hall a ha b hb h

/-- The two digits of a byte tell it. -/
theorem hexEncode_injective : Function.Injective hexEncode := by
  intro xs ys h
  have hchars := congrArg String.toList h
  simp only [hexEncode, String.toList_ofList] at hchars
  clear h
  induction xs generalizing ys with
  | nil => cases ys with
    | nil => rfl
    | cons y ys => cases hchars
  | cons x xs ih => cases ys with
    | nil => cases hchars
    | cons y ys =>
      simp only [List.flatMap_cons, List.cons_append, List.nil_append, List.cons.injEq] at hchars
      have hx := x.toNat_lt
      have hy := y.toNat_lt
      have hhigh := digitChar_injective _ _ (by omega) (by omega) hchars.1
      have hlow := digitChar_injective _ _ (by omega) (by omega) hchars.2.1
      have hxy : x = y := UInt8.toNat_inj.mp (by omega)
      rw [hxy, ih hchars.2.2]

end ZkTls.ProofVerifier
