import ZkTls.ProofAuthenticity

/-!
# Reading a signing message back

The hash and the commitment of a signed message are 64 bytes long and its
timestamp has no NUL, so the message is read from its end, with separator
bytes allowed everywhere else. What the verifier would have to check for this
reading to hold of a submitted proof is the two lengths.
-/

set_option autoImplicit false

namespace ZkTls.MessageDecoding
open ZkTls.CoreTypes ZkTls.SeparatedWord ZkTls.SessionProofs ZkTls.ProofVerifier
open ZkTls.RecordedPlatform ZkTls.ProofAuthenticity

variable (P : Platform)

/-- Parts of equal lengths are read back, the hostname whatever its length. -/
theorem sized_message_determines (hclock : ClockText P) (host host' : String)
    (hash hash' commitment commitment' : Bytes) (t t' : DateTime)
    (hhash : hash.length = hash'.length) (hcommit : commitment.length = commitment'.length)
    (h : SessionProofs.buildSigningMessage P host hash commitment t =
      SessionProofs.buildSigningMessage P host' hash' commitment' t') :
    host = host' ∧ hash = hash' ∧ commitment = commitment' ∧ t = t' := by
  rw [buildSigningMessage_joined, buildSigningMessage_joined] at h
  have hparts := framed_unique 0 (asBytes host) (asBytes host') [hash, commitment]
    [hash', commitment'] _ _ (by simp [hhash, hcommit]) (clock_zero_free hclock t)
    (clock_zero_free hclock t') h
  have hmiddle := List.cons.inj hparts.2.1
  have htime := hclock.injective (asBytes_injective hparts.2.2)
  exact ⟨asBytes_injective hparts.1, hmiddle.1, List.singleton_inj.mp hmiddle.2, htime⟩

/-- Two tuples of a hostname, two 64-byte values and an instant have the same
message only if they are the same tuple. -/
theorem signing_message_decodable (hclock : ClockText P) (host host' : String)
    (hash hash' commitment commitment' : List.Vector UInt8 64) (t t' : DateTime) :
    SessionProofs.buildSigningMessage P host hash.toList commitment.toList t =
        SessionProofs.buildSigningMessage P host' hash'.toList commitment'.toList t' ↔
      host = host' ∧ hash = hash' ∧ commitment = commitment' ∧ t = t' := by
  constructor
  · intro h
    have hhash : hash.toList.length = hash'.toList.length := hash.2.trans hash'.2.symm
    have hcommit : commitment.toList.length = commitment'.toList.length :=
      commitment.2.trans commitment'.2.symm
    have hparts := sized_message_determines P hclock host host' _ _ _ _ t t' hhash hcommit h
    exact ⟨hparts.1, Subtype.ext hparts.2.1, Subtype.ext hparts.2.2.1, hparts.2.2.2⟩
  · intro h
    rw [h.1, h.2.1, h.2.2.1, h.2.2.2]

/-- A hostname that ends in the separator, next to hashes that consist of it,
is still told apart from the hostname without it. -/
theorem zero_filled_distinct :
    SessionProofs.buildSigningMessage (replay activeRecording) utahHost
        (List.Vector.replicate 64 0).toList (List.Vector.replicate 64 0).toList noon.proofTime ≠
      SessionProofs.buildSigningMessage (replay activeRecording) (utahHost ++ "\x00")
        (List.Vector.replicate 64 0).toList (List.Vector.replicate 64 0).toList noon.proofTime := by
  intro h
  have hhost := ((signing_message_decodable _ (replay_clock activeRecording)
    _ _ _ _ _ _ _ _).mp h).1
  revert hhost
  decide

/-- With both lengths checked, every accepted proof under an unforgeable key
is about a signed call, zero bytes or not. -/
theorem sized_proof_authentic (keypair : NotaryKeyPair P) (hclock : ClockText P)
    (history : List ProofCall) (hunf : Unforgeable keypair (messages P history))
    (V : Ed25519Verifier) (q : SessionProof) (hq : verifyProof P V q = .ok ())
    (hkey : q.notaryPublicKey = publicKeyBytes keypair)
    (hhash : q.certificateHash.length = 64) (hcommit : q.transcriptCommitment.length = 64) :
    ∃ c ∈ history, c.Matches P q := by
  obtain ⟨c, hc, hmsg⟩ := accepted_message P keypair history hunf V q hq hkey
  have hsizes := sized_message_determines P hclock c.hostname q.serverHostname
    c.certHash.toList q.certificateHash (c.commitment P) q.transcriptCommitment c.timestamp
    q.sessionTimestamp (c.certHash.2.trans hhash.symm)
    ((P.sha512 (asBytes c.responseBody)).2.trans hcommit.symm) hmsg
  exact ⟨c, hc, hsizes⟩

end ZkTls.MessageDecoding
