import ZkTls.AttestationChecks

/-!
# Verdicts as time goes by

A relying party comes to trust more notaries and looks at one attestation
again and again, under a clock that does not run backwards. Its verdicts pass
through their stages in order and never return.
-/

set_option autoImplicit false

namespace ZkTls.VerdictHistory
open ZkTls.CoreTypes ZkTls.SessionProofs ZkTls.NotarizeResponse ZkTls.ProofVerifier
open ZkTls.RecordedPlatform
open ZkTls.AttestationChecks (utahNotary activeIssue)

inductive Event where
  | trust (notary : TrustedNotary)
  | ask (now : DateTime)

/-- The clock readings of a history. -/
def times : List Event → List DateTime
  | [] => []
  | .trust _ :: rest => times rest
  | .ask now :: rest => now :: times rest

abbrev Verdict := Except Stop VerificationResult

section Verdicts
variable (P : Platform) (attestation : Attestation) (proof : SessionProof)

/-- The verdicts a verifier gives on one attestation and its proof. -/
def verdicts : Ed25519Verifier → List Event → List Verdict
  | _, [] => []
  | V, .trust notary :: rest => verdicts (addNotary V notary) rest
  | V, .ask now :: rest => verifyAttestation P V now attestation proof :: verdicts V rest

/-- What is wrong with a proof, whoever is trusted. -/
def fault : Option VerificationError :=
  match tryInto 32 proof.notaryPublicKey with
  | none => some (.invalidPublicKey "expected 32 bytes")
  | some vkBytes =>
    match P.fromBytes vkBytes with
    | .error e => some (.invalidPublicKey e)
    | .ok verifyingKey =>
      match tryInto 64 proof.notarySignature with
      | none => some .invalidSignature
      | some signature =>
        if P.verify verifyingKey (ProofVerifier.buildSigningMessage P proof.serverHostname
          proof.certificateHash proof.transcriptCommitment proof.sessionTimestamp) signature
        then none
        else some .invalidSignature

def untrusted : Verdict := .error (.error (.untrustedNotary (hexEncode proof.notaryPublicKey)))

def lapsed (expiresAt : DateTime) : Verdict := .error (.error (.expired (P.toRfc3339 expiresAt)))

/-- The result that names a notary. -/
def accepted (notary : TrustedNotary) : VerificationResult where
  valid := true
  claimType := attestation.claimType
  verifiedFields := attestation.disclosedFields
  notaryKey := proof.notaryPublicKey
  summary := "Verified " ++ attestation.claimType ++ " claim signed by " ++ notary.name

theorem verifyProof_fault (V : Ed25519Verifier) :
    verifyProof P V proof =
      match isTrusted V proof.notaryPublicKey with
      | none => .error (.untrustedNotary (hexEncode proof.notaryPublicKey))
      | some _ => (fault P proof).elim (.ok ()) .error := by
  unfold verifyProof fault
  cases isTrusted V proof.notaryPublicKey with
  | none => rfl
  | some notary =>
    cases tryInto 32 proof.notaryPublicKey with
    | none => rfl
    | some vkBytes =>
      simp only
      cases P.fromBytes vkBytes with
      | error e => rfl
      | ok verifyingKey =>
        cases tryInto 64 proof.notarySignature with
        | none => rfl
        | some signature =>
          simp only
          split <;> rfl

section Trusted
variable {P attestation proof}
variable {V : Ed25519Verifier} {notary : TrustedNotary}

theorem verdict_untrusted (h : isTrusted V proof.notaryPublicKey = none) (now : DateTime) :
    verifyAttestation P V now attestation proof = untrusted proof := by
  have hp := verifyProof_fault P proof V
  rw [h] at hp
  simp only [verifyAttestation, hp, untrusted]

theorem verdict_fault (h : isTrusted V proof.notaryPublicKey = some notary)
    (e : VerificationError) (he : fault P proof = some e) (now : DateTime) :
    verifyAttestation P V now attestation proof = .error (.error e) := by
  have hp := verifyProof_fault P proof V
  rw [h, he] at hp
  simp only [verifyAttestation, hp, Option.elim_some]

theorem verdict_sound (h : isTrusted V proof.notaryPublicKey = some notary)
    (he : fault P proof = none) (now : DateTime) :
    verifyAttestation P V now attestation proof =
      match expired now attestation with
      | some expiresAt => lapsed P expiresAt
      | none => .ok (accepted attestation proof notary) := by
  have hp := verifyProof_fault P proof V
  rw [h, he] at hp
  simp only [verifyAttestation, hp, Option.elim_none, h]
  rfl

/-- The first trusted notary of a key stays the first. -/
theorem isTrusted_addNotary (h : isTrusted V proof.notaryPublicKey = some notary)
    (other : TrustedNotary) :
    isTrusted (addNotary V other) proof.notaryPublicKey = some notary := by
  unfold isTrusted addNotary at *
  rw [List.find?_append, h]
  rfl

theorem verdicts_fault (e : VerificationError) (he : fault P proof = some e)
    (events : List Event) (V : Ed25519Verifier)
    (h : isTrusted V proof.notaryPublicKey = some notary) :
    verdicts P attestation proof V events =
      List.replicate (times events).length (.error (.error e)) := by
  induction events generalizing V with
  | nil => rfl
  | cons event rest ih => cases event with
    | trust other => exact ih _ (isTrusted_addNotary h other)
    | ask now =>
      rw [verdicts, verdict_fault h e he, ih V h]
      rfl

/-- Once the attestation has expired it stays so. -/
theorem verdicts_lapsed (he : fault P proof = none) (expiresAt : DateTime)
    (hexpires : attestation.expiresAt = some expiresAt) (events : List Event)
    (hlate : ∀ now ∈ times events, expiresAt < now) (V : Ed25519Verifier)
    (h : isTrusted V proof.notaryPublicKey = some notary) :
    verdicts P attestation proof V events =
      List.replicate (times events).length (lapsed P expiresAt) := by
  induction events generalizing V with
  | nil => rfl
  | cons event rest ih => cases event with
    | trust other => exact ih hlate _ (isTrusted_addNotary h other)
    | ask now =>
      have hnow : expired now attestation = some expiresAt := by
        simp [expired, hexpires, hlate now List.mem_cons_self]
      rw [verdicts, verdict_sound h he, hnow,
        ih (fun t ht => hlate t (List.mem_cons_of_mem _ ht)) V h]
      rfl

variable (attestation) in
/-- Acceptances first, then refusals for the expiry. -/
theorem verdicts_sound (he : fault P proof = none) (events : List Event)
    (hclock : (times events).Pairwise (· ≤ ·)) (V : Ed25519Verifier)
    (h : isTrusted V proof.notaryPublicKey = some notary) :
    ∃ j late, verdicts P attestation proof V events =
        List.replicate j (.ok (accepted attestation proof notary)) ++ late ∧
      ∀ v ∈ late, ∃ expiresAt, attestation.expiresAt = some expiresAt ∧ v = lapsed P expiresAt := by
  induction events generalizing V with
  | nil => exact ⟨0, [], rfl, fun v hv => absurd hv List.not_mem_nil⟩
  | cons event rest ih => cases event with
    | trust other => exact ih hclock _ (isTrusted_addNotary h other)
    | ask now =>
      obtain ⟨hfirst, hrest⟩ := List.pairwise_cons.mp hclock
      cases hnow : expired now attestation with
      | none =>
        obtain ⟨j, late, hj, hlate⟩ := ih hrest V h
        refine ⟨j + 1, late, ?_, hlate⟩
        rw [verdicts, verdict_sound h he, hnow, hj]
        rfl
      | some expiresAt =>
        obtain ⟨hexpires, hpast⟩ := Option.filter_eq_some_iff.mp hnow
        have hlate : ∀ t ∈ times (.ask now :: rest), expiresAt < t := by
          intro t ht
          rcases List.mem_cons.mp ht with rfl | ht
          · exact of_decide_eq_true hpast
          · exact lt_of_lt_of_le (of_decide_eq_true hpast) (hfirst t ht)
        have hall := verdicts_lapsed he expiresAt hexpires _ hlate V h
        generalize (times (.ask now :: rest)).length = k at hall
        exact ⟨0, List.replicate k (lapsed P expiresAt), hall,
          fun v hv => ⟨expiresAt, hexpires, List.eq_of_mem_replicate hv⟩⟩

end Trusted

/-- A proof that is refused for good, or accepted until it expires. Before
either the notary was not trusted. -/
inductive InOrder : List Verdict → Prop
  | refused (i j : ℕ) (e : VerificationError)
      (he : e = .invalidSignature ∨ ∃ msg, e = .invalidPublicKey msg) :
      InOrder (List.replicate i (untrusted proof) ++ List.replicate j (.error (.error e)))
  | accepted (i j : ℕ) (notary : TrustedNotary)
      (hnotary : notary.publicKey = proof.notaryPublicKey) (late : List Verdict)
      (hlate : ∀ v ∈ late, ∃ expiresAt, attestation.expiresAt = some expiresAt ∧
        v = lapsed P expiresAt) :
      InOrder (List.replicate i (untrusted proof) ++
        (List.replicate j (.ok (accepted attestation proof notary)) ++ late))

variable {P attestation proof}

theorem fault_final (e : VerificationError) (h : fault P proof = some e) :
    e = .invalidSignature ∨ ∃ msg, e = .invalidPublicKey msg := by
  unfold fault at h
  split at h
  · exact Or.inr ⟨_, (Option.some.inj h).symm⟩
  · split at h
    · exact Or.inr ⟨_, (Option.some.inj h).symm⟩
    · split at h
      · exact Or.inl (Option.some.inj h).symm
      · split at h
        · cases h
        · exact Or.inl (Option.some.inj h).symm

theorem inOrder_untrusted {vs : List Verdict} (h : InOrder P attestation proof vs) :
    InOrder P attestation proof (untrusted proof :: vs) := by
  cases h with
  | refused i j e he => exact .refused (i + 1) j e he
  | accepted i j notary hnotary late hlate => exact .accepted (i + 1) j notary hnotary late hlate

theorem verdicts_trusted (events : List Event) (hclock : (times events).Pairwise (· ≤ ·))
    (V : Ed25519Verifier) (notary : TrustedNotary)
    (h : isTrusted V proof.notaryPublicKey = some notary) :
    InOrder P attestation proof (verdicts P attestation proof V events) := by
  cases he : fault P proof with
  | some e =>
    rw [verdicts_fault e he events V h]
    exact .refused 0 _ e (fault_final e he)
  | none =>
    obtain ⟨j, late, hverdicts, hlate⟩ := verdicts_sound attestation he events hclock V h
    rw [hverdicts]
    have hnotary : notary.publicKey = proof.notaryPublicKey := by
      simpa using List.find?_some h
    exact .accepted 0 j notary hnotary late hlate

/-- Whatever notaries come to be trusted and whenever it is asked, no verdict
returns once another has taken its place, and all acceptances are one. -/
theorem verdicts_in_order (V : Ed25519Verifier) (events : List Event)
    (hclock : (times events).Pairwise (· ≤ ·)) :
    InOrder P attestation proof (verdicts P attestation proof V events) := by
  induction events generalizing V with
  | nil => exact .refused 0 0 .invalidSignature (Or.inl rfl)
  | cons event rest ih =>
    cases h : isTrusted V proof.notaryPublicKey with
    | some notary => exact verdicts_trusted _ hclock V notary h
    | none => cases event with
      | trust other => exact ih _ hclock
      | ask now =>
        rw [verdicts, verdict_untrusted h]
        exact inOrder_untrusted (ih V (List.pairwise_cons.mp hclock).2)

end Verdicts

/-- Asked before the notary is trusted, while the attestation lasts, and
after. -/
def askedThrice : List Event :=
  [.ask noon.proofTime, .trust utahNotary, .ask noon.proofTime,
    .trust ⟨"Another name", utahNotary.publicKey, none⟩, .ask (noon.expiryBase + thirtyDays),
    .ask (noon.expiryBase + thirtyDays + 1)]

theorem asked_thrice_in_order :
    ∃ proof attestation, activeIssue none = .ok (proof, attestation) ∧
      (verdicts (replay activeRecording) attestation proof ⟨[]⟩ askedThrice).map Except.isOk =
        [false, true, true, false] ∧
      InOrder (replay activeRecording) attestation proof
        (verdicts (replay activeRecording) attestation proof ⟨[]⟩ askedThrice) := by
  have hobs : (activeIssue none).toOption.map (fun e =>
      (verdicts (replay activeRecording) e.2 e.1 ⟨[]⟩ askedThrice).map Except.isOk) =
      some [false, true, true, false] := by decide +kernel
  obtain ⟨⟨proof, attestation⟩, hissue, hverdicts⟩ := Option.map_eq_some_iff.mp hobs
  refine ⟨proof, attestation, ?_, hverdicts, verdicts_in_order ⟨[]⟩ askedThrice (by decide)⟩
  cases h : activeIssue none with
  | error e => rw [h] at hissue; cases hissue
  | ok issued => rw [h] at hissue; exact congrArg _ (Option.some.inj hissue)

end ZkTls.VerdictHistory
