import ZkTls.MessageDecoding
import ZkTls.SessionLifecycle

/-!
# Who made an accepted proof

Every signature of a run belongs to a handler that fetched an accepted body
for its own template. A proof that verifies under the notary's key and has a
hash and a commitment of the right length is one of these.
-/

set_option autoImplicit false

namespace ZkTls.ProofAttribution
open ZkTls.CoreTypes ZkTls.SessionProofs ZkTls.FiniteStore ZkTls.LabelledRun
open ZkTls.NotarizeResponse ZkTls.NotaryMachine ZkTls.NotaryInvariant ZkTls.ProofVerifier
open ZkTls.SessionLifecycle ZkTls.MessageDecoding

variable {P : Platform} {N : Notary P}

/-- The message a proof is verified against. -/
def message (P : Platform) (q : SessionProof) : Bytes :=
  SessionProofs.buildSigningMessage P q.serverHostname q.certificateHash
    q.transcriptCommitment q.sessionTimestamp

/-- The messages signed in a run. -/
def signedMessages (s : State N) : List Bytes := s.signatures.map fun e => message P e.2

/-- Two proofs about the same response of the same server at the same
instant. -/
structure SameStatement (q proof : SessionProof) : Prop where
  hostname : q.serverHostname = proof.serverHostname
  certificate : q.certificateHash = proof.certificateHash
  commitment : q.transcriptCommitment = proof.transcriptCommitment
  instant : q.sessionTimestamp = proof.sessionTimestamp

/-- The proof a handler signed, as its exchange determines it. -/
def SignedBy (f : Fetch N) (proof : SessionProof) : Prop :=
  ∃ body clock fields, Accepts P f.template f.request.disclosure body fields ∧
    proof = generateProof f.template.target.hostname body f.certHash N.keypair clock

theorem exit_reply_ok {f : Fetch N} (x : Exit f) (reply : NotarizeReply)
    (h : x.reply = .ok reply) : SignedBy f reply.proof ∧
      reply.attestation.claimType = f.template.claimType := by
  cases x with
  | completed body clock proof attestation issued =>
    cases h
    obtain ⟨fields, haccepts, hproof, hattestation⟩ := (issue_ok _ _ _ _ _ _ _ _ _).mp issued
    exact ⟨⟨body, clock.proofTime, fields, haccepts, hproof⟩, by rw [hattestation]; rfl⟩
  | clientFailed | fetchFailed | badStatus | unreadable | rejected => cases h

/-- A proof traced back to the handler that signed its statement. -/
def Attributed (s : State N) (q : SessionProof) : Prop :=
  ∃ k stage f proof, s.handlers.lookup k = some stage ∧ Stage.fetch stage = some f ∧
    (f.sessionId, proof) ∈ s.signatures ∧ SignedBy f proof ∧ Justified f proof ∧
    SameStatement q proof

theorem signature_signedBy (stage : Stage N) (e : String × SessionProof)
    (h : Stage.signature stage = some e) :
    ∃ f, Stage.fetch stage = some f ∧ f.sessionId = e.1 ∧ SignedBy f e.2 ∧ Justified f e.2 := by
  have issued_signedBy : ∀ (f : Fetch N) body clock proof attestation,
      f.issue body clock = .ok (proof, attestation) → SignedBy f proof := by
    intro f body clock proof attestation issued
    obtain ⟨fields, haccepts, hproof, -⟩ := (issue_ok _ _ _ _ _ _ _ _ _).mp issued
    exact ⟨body, clock.proofTime, fields, haccepts, hproof⟩
  unfold Stage.signature at h
  split at h
  · rename_i f body clock proof attestation issued
    cases h
    exact ⟨f, rfl, rfl, issued_signedBy f body clock proof attestation issued,
      issued_justified f body clock proof attestation issued⟩
  · rename_i f body clock proof attestation issued
    cases h
    exact ⟨f, rfl, rfl, issued_signedBy f body clock proof attestation issued,
      issued_justified f body clock proof attestation issued⟩
  · cases h

theorem signedBy_sizes (f : Fetch N) (proof : SessionProof) (h : SignedBy f proof) :
    proof.certificateHash.length = 64 ∧ proof.transcriptCommitment.length = 64 := by
  obtain ⟨body, clock, fields, -, rfl⟩ := h
  exact ⟨(P.sha512 _).2, (P.sha512 _).2⟩

/-- A proof of the right sizes whose message was signed in a run is about a
response some handler of it was shown. -/
theorem attributed_of_message (hclock : ClockText P) (maxSessions : ℕ)
    (trace : List (Action × State N)) (s : State N)
    (h : Run (Steps step) (init N maxSessions) trace s) (q : SessionProof)
    (hhash : q.certificateHash.length = 64) (hcommit : q.transcriptCommitment.length = 64)
    (hq : message P q ∈ signedMessages s) : Attributed s q := by
  obtain ⟨e, he, hmsg⟩ := List.mem_map.mp hq
  obtain ⟨k, stage, hk, hsig⟩ := (signed_run N maxSessions trace s h).owned e he
  obtain ⟨f, hf, hid, hsigned, hjust⟩ := signature_signedBy stage e hsig
  obtain ⟨hhash', hcommit'⟩ := signedBy_sizes f e.2 hsigned
  obtain ⟨hhost, hcert, hcommitment, htime⟩ := sized_message_determines P hclock _ _ _ _ _ _ _ _
    (hhash.trans hhash'.symm) (hcommit.trans hcommit'.symm) hmsg.symm
  exact ⟨k, stage, f, e.2, hk, hf, hid ▸ he, hsigned, hjust, hhost, hcert, hcommitment, htime⟩

/-- A key that verifies its own signatures verifies what it signed in a
run. -/
theorem signedBy_accepted (f : Fetch N) (proof : SessionProof) (h : SignedBy f proof)
    (hkey : SignsCorrectly N.keypair [message P proof]) (V : Ed25519Verifier)
    (htrust : (isTrusted V (publicKeyBytes N.keypair)).isSome = true) :
    verifyProof P V proof = .ok () := by
  obtain ⟨body, clock, fields, -, rfl⟩ := h
  obtain ⟨vk, hvk, hv⟩ := hkey
  exact (verifyProof_ok P V _).mpr
    ⟨htrust, _, vk, _, rfl, hvk, rfl, hv _ (List.mem_singleton_self _)⟩

end ZkTls.ProofAttribution
