import ZkTls.ProofVerifier
import ZkTls.RecordedPlatform

/-!
# What an accepted proof says

A history of proof-generation calls, the messages they sign, and the proofs
a verifier accepts under the notary's key when no other message has a valid
signature. The message is read back exactly as long as none of the signed
parts contains the separator byte.
-/

set_option autoImplicit false

namespace ZkTls.ProofAuthenticity
open ZkTls.CoreTypes ZkTls.SeparatedWord ZkTls.SessionProofs ZkTls.ProofVerifier
open ZkTls.JsonText ZkTls.RecordedPlatform

/-- The arguments of one call, with the hash a 64-byte value. -/
structure ProofCall where
  hostname : String
  responseBody : String
  certHash : List.Vector UInt8 64
  timestamp : DateTime

variable (P : Platform) (keypair : NotaryKeyPair P)

def ProofCall.proof (c : ProofCall) : SessionProof :=
  generateProof c.hostname c.responseBody c.certHash.toList keypair c.timestamp

def ProofCall.commitment (c : ProofCall) : Bytes := sha512Hash P (asBytes c.responseBody)

def ProofCall.message (c : ProofCall) : Bytes :=
  SessionProofs.buildSigningMessage P c.hostname c.certHash.toList (c.commitment P)
    c.timestamp

/-- The separator byte occurs in none of the three binary parts. -/
def ProofCall.ZeroFree (c : ProofCall) : Prop :=
  0 ∉ asBytes c.hostname ∧ 0 ∉ c.certHash.toList ∧ 0 ∉ c.commitment P

def ProofCall.Matches (c : ProofCall) (q : SessionProof) : Prop :=
  c.hostname = q.serverHostname ∧ c.certHash.toList = q.certificateHash ∧
    c.commitment P = q.transcriptCommitment ∧ c.timestamp = q.sessionTimestamp

/-- Every proof accepted under the notary's key matches a call. -/
def Authentic (history : List ProofCall) : Prop :=
  ∀ (V : Ed25519Verifier) (q : SessionProof), verifyProof P V q = .ok () →
    q.notaryPublicKey = publicKeyBytes keypair → ∃ c ∈ history, c.Matches P q

def messages (history : List ProofCall) : List Bytes :=
  history.map (ProofCall.message P)

/-- A proof with the signature of a call and any parts that spell the same
message is accepted by a verifier that trusts the notary. -/
theorem respelled_accepted (history : List ProofCall)
    (hsign : SignsCorrectly keypair (messages P history)) (c : ProofCall)
    (hc : c ∈ history) (host : String) (hash commitment : Bytes)
    (hmsg : SessionProofs.buildSigningMessage P host hash commitment c.timestamp =
      c.message P) :
    verifyProof P ⟨[⟨"", publicKeyBytes keypair, none⟩]⟩
      { c.proof P keypair with
        serverHostname := host
        certificateHash := hash
        transcriptCommitment := commitment } = .ok () := by
  obtain ⟨vk, hvk, hv⟩ := hsign
  rw [verifyProof_ok]
  refine ⟨by simp [isTrusted, ProofCall.proof, generateProof], _, vk, _, rfl, hvk, rfl, ?_⟩
  have hsig := hv (c.message P) (List.mem_map_of_mem hc)
  simp only [ProofCall.proof, generateProof]
  rw [hmsg]
  exact hsig

/-- A NUL in the hostname, or a zero byte in the hash or the commitment,
lets a neighbouring boundary move: the same bytes have another reading, in
which the hash is not 64 bytes long. -/
theorem second_reading (c : ProofCall) (h : ¬ c.ZeroFree P) :
    ∃ (host : String) (hash commitment : Bytes), hash.length ≠ 64 ∧
      SessionProofs.buildSigningMessage P host hash commitment c.timestamp =
        c.message P := by
  have hlen : c.certHash.toList.length = 64 := c.certHash.2
  simp only [ProofCall.message, buildSigningMessage_joined]
  simp only [ProofCall.ZeroFree, not_and_or, not_not] at h
  rcases h with hhost | hhash | hcommit
  · obtain ⟨a, b, hab⟩ := List.append_of_mem ((zero_mem_asBytes _).mp hhost)
    have hs : asBytes c.hostname =
        asBytes (String.ofList a) ++ 0 :: asBytes (String.ofList b) := by
      simp [asBytes, hab, show String.utf8EncodeChar '\x00' = [0] by decide]
    refine ⟨String.ofList a, asBytes (String.ofList b) ++ 0 :: c.certHash.toList,
      c.commitment P, by simp, ?_⟩
    rw [hs]
    exact (joined_shift 0 [] _ _ _ _).symm
  · obtain ⟨a, b, hab⟩ := List.append_of_mem hhash
    refine ⟨c.hostname, a, b ++ 0 :: c.commitment P, ?_, ?_⟩
    · have := congrArg List.length hab
      simp only [List.length_append, List.length_cons] at this
      omega
    · rw [hab]
      exact (joined_shift 0 [asBytes c.hostname] _ _ _ _).symm
  · obtain ⟨a, b, hab⟩ := List.append_of_mem hcommit
    refine ⟨c.hostname, c.certHash.toList ++ 0 :: a, b, by simp, ?_⟩
    rw [hab]
    exact joined_shift 0 [asBytes c.hostname] _ _ _ _

/-- One zero byte anywhere in a signed call breaks authenticity. -/
theorem not_authentic_of_zero (history : List ProofCall)
    (hsign : SignsCorrectly keypair (messages P history)) (c : ProofCall)
    (hc : c ∈ history) (h : ¬ c.ZeroFree P) : ¬ Authentic P keypair history := by
  intro hauth
  obtain ⟨host, hash, commitment, hlen, hmsg⟩ := second_reading P c h
  obtain ⟨d, _, _, hd, _⟩ := hauth _ _
    (respelled_accepted P keypair history hsign c hc host hash commitment hmsg) rfl
  exact hlen ((congrArg List.length hd).symm.trans d.certHash.2)

/-- Zero-free calls are read back from their messages, whatever lengths the
sender chose for the parts of the proof. -/
theorem message_determines (hclock : ClockText P) (c : ProofCall) (hc : c.ZeroFree P)
    (q : SessionProof)
    (h : SessionProofs.buildSigningMessage P q.serverHostname q.certificateHash
      q.transcriptCommitment q.sessionTimestamp = c.message P) : c.Matches P q := by
  obtain ⟨hhost, hhash, hcommit⟩ := hc
  rw [ProofCall.message, buildSigningMessage_joined, buildSigningMessage_joined] at h
  have hparts := joined_unique 0 _ _ (by rfl) (by
    simpa using ⟨hhost, hhash, hcommit, clock_zero_free hclock c.timestamp⟩) h
  simp only [List.cons.injEq, and_true] at hparts
  obtain ⟨h1, h2, h3, h4⟩ := hparts
  exact ⟨(asBytes_injective h1).symm, h2.symm, h3.symm,
    (hclock.injective (asBytes_injective h4)).symm⟩

/-- An accepted proof under an unforgeable key spells the message of a call. -/
theorem accepted_message (history : List ProofCall)
    (hunf : Unforgeable keypair (messages P history)) (V : Ed25519Verifier) (q : SessionProof)
    (hq : verifyProof P V q = .ok ()) (hkey : q.notaryPublicKey = publicKeyBytes keypair) :
    ∃ c ∈ history, c.message P = SessionProofs.buildSigningMessage P q.serverHostname
      q.certificateHash q.transcriptCommitment q.sessionTimestamp := by
  obtain ⟨-, key, vk, sig, hk, hvk, -, hv⟩ := (verifyProof_ok P V q).mp hq
  have hkeys : key = P.verifyingKey keypair.signingKey :=
    Subtype.ext (hk.symm.trans hkey)
  exact List.mem_map.mp (hunf vk (hkeys ▸ hvk) _ _ hv)

theorem authentic_of_zeroFree (hclock : ClockText P) (history : List ProofCall)
    (hunf : Unforgeable keypair (messages P history))
    (h : ∀ c ∈ history, c.ZeroFree P) : Authentic P keypair history := by
  intro V q hq hkey
  obtain ⟨c, hc, hmsg⟩ := accepted_message P keypair history hunf V q hq hkey
  exact ⟨c, hc, message_determines P hclock c (h c hc) q hmsg.symm⟩

/-- Under an unforgeable key the accepted proofs are exactly about signed
calls if and only if no signed part contains the separator byte. -/
theorem authentic_iff_zeroFree (hclock : ClockText P) (history : List ProofCall)
    (hsign : SignsCorrectly keypair (messages P history))
    (hunf : Unforgeable keypair (messages P history)) :
    Authentic P keypair history ↔ ∀ c ∈ history, c.ZeroFree P := by
  constructor
  · intro hauth c hc
    by_contra h
    exact not_authentic_of_zero P keypair history hsign c hc h hauth
  · exact authentic_of_zeroFree P keypair hclock history hunf

/-- The recorded call for a voter of the given status. -/
def utahCall (status : String) : ProofCall :=
  ⟨utahHost, display (utahResponse status), utahCertHash, 1779796800000000000⟩

theorem utahCall_commitment (status : String) (digest signature : List.Vector UInt8 64) :
    (utahCall status).commitment (replay (utahRecording status digest signature)) =
      digest.toList := by
  rw [ProofCall.commitment, sha512Hash, utahCall, recorded_digest]

theorem active_messages :
    messages (replay activeRecording) [utahCall "Active"] =
      activeRecording.signatures.map Prod.fst :=
  recorded_message "Active" activeDigest activeSignature

theorem inactive_messages :
    messages (replay inactiveRecording) [utahCall "Inactive"] =
      inactiveRecording.signatures.map Prod.fst :=
  recorded_message "Inactive" inactiveDigest inactiveSignature

/-- The digest of the active voter's response has a zero byte, and nothing in
the assumptions about keys and clocks repairs that. -/
theorem active_voter_not_authentic :
    ClockText (replay activeRecording) ∧
    SignsCorrectly (recordedKey activeRecording)
      (messages (replay activeRecording) [utahCall "Active"]) ∧
    Unforgeable (recordedKey activeRecording)
      (messages (replay activeRecording) [utahCall "Active"]) ∧
    ¬ Authentic (replay activeRecording) (recordedKey activeRecording)
      [utahCall "Active"] := by
  have hsign : SignsCorrectly (recordedKey activeRecording)
      (messages (replay activeRecording) [utahCall "Active"]) := by
    rw [active_messages]
    exact replay_signs activeRecording
  have hzero : ¬ (utahCall "Active").ZeroFree (replay activeRecording) := by
    intro h
    have hfree := h.2.2
    rw [activeRecording, utahCall_commitment] at hfree
    exact hfree (by decide)
  refine ⟨replay_clock activeRecording, hsign, ?_, ?_⟩
  · rw [active_messages]
    exact replay_unforgeable activeRecording
  · exact not_authentic_of_zero (replay activeRecording) (recordedKey activeRecording)
      [utahCall "Active"] hsign (utahCall "Active") (List.mem_singleton_self _) hzero

theorem inactive_voter_authentic :
    Authentic (replay inactiveRecording) (recordedKey inactiveRecording)
      [utahCall "Inactive"] := by
  refine (authentic_iff_zeroFree (replay inactiveRecording) (recordedKey inactiveRecording)
    (replay_clock inactiveRecording) [utahCall "Inactive"] ?_ ?_).mpr ?_
  · rw [inactive_messages]
    exact replay_signs inactiveRecording
  · rw [inactive_messages]
    exact replay_unforgeable inactiveRecording
  · rw [List.forall_mem_singleton]
    refine ⟨by decide +kernel, by decide +kernel, ?_⟩
    rw [inactiveRecording, utahCall_commitment]
    decide

end ZkTls.ProofAuthenticity
