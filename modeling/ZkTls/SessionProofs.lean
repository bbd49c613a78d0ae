import ZkTls.CoreTypes
import ZkTls.SeparatedWord

/-!
# Signing messages and session proofs

The notary signs four parts with a zero byte between neighbours. The proof
carries the same parts next to the signature, so a verifier can rebuild the
message.
-/

set_option autoImplicit false

namespace ZkTls.SessionProofs
open ZkTls.CoreTypes ZkTls.SeparatedWord

variable {P : Platform}

structure NotaryKeyPair (P : Platform) where
  signingKey : P.SigningKey

def publicKeyBytes (keypair : NotaryKeyPair P) : Bytes :=
  (P.verifyingKey keypair.signingKey).toList

def sign (keypair : NotaryKeyPair P) (message : Bytes) : Bytes :=
  (P.sign keypair.signingKey message).toList

def buildSigningMessage (P : Platform) (hostname : String)
    (certHash transcriptCommitment : Bytes) (timestamp : DateTime) : Bytes :=
  asBytes hostname ++ [0x00] ++ certHash ++ [0x00] ++ transcriptCommitment ++ [0x00] ++
    asBytes (P.toRfc3339 timestamp)

def generateProof (hostname responseBody : String) (certHash : Bytes)
    (keypair : NotaryKeyPair P) (now : DateTime) : SessionProof :=
  let transcriptCommitment := sha512Hash P (asBytes responseBody)
  let signingMessage := buildSigningMessage P hostname certHash transcriptCommitment now
  { serverHostname := hostname
    certificateHash := certHash
    transcriptCommitment := transcriptCommitment
    notarySignature := sign keypair signingMessage
    notaryPublicKey := publicKeyBytes keypair
    sessionTimestamp := now
    proofTimestamp := now }

theorem buildSigningMessage_joined (hostname : String)
    (certHash transcriptCommitment : Bytes) (timestamp : DateTime) :
    buildSigningMessage P hostname certHash transcriptCommitment timestamp =
      joined 0 [asBytes hostname, certHash, transcriptCommitment,
        asBytes (P.toRfc3339 timestamp)] := by
  simp [buildSigningMessage, joined_cons_cons, joined_singleton]

/-- What the timestamp formatter is relied on for: distinct instants have
distinct texts, and no text contains a NUL. -/
structure ClockText (P : Platform) : Prop where
  injective : Function.Injective P.toRfc3339
  noNul : ∀ t, '\x00' ∉ (P.toRfc3339 t).toList

/-- The key's own signatures on the given messages verify under it. -/
def SignsCorrectly (keypair : NotaryKeyPair P) (messages : List Bytes) : Prop :=
  ∃ vk, P.fromBytes (P.verifyingKey keypair.signingKey) = .ok vk ∧
    ∀ m ∈ messages, P.verify vk m (P.sign keypair.signingKey m) = true

/-- Nothing but the given messages has a signature that verifies. -/
def Unforgeable (keypair : NotaryKeyPair P) (messages : List Bytes) : Prop :=
  ∀ vk, P.fromBytes (P.verifyingKey keypair.signingKey) = .ok vk →
    ∀ m s, P.verify vk m s = true → m ∈ messages

theorem clock_zero_free (h : ClockText P) (t : DateTime) :
    (0 : UInt8) ∉ asBytes (P.toRfc3339 t) :=
  fun hz => h.noNul t ((zero_mem_asBytes _).mp hz)

end ZkTls.SessionProofs
