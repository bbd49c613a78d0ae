import ZkTls.JsonCodec
import ZkTls.FieldExtraction
import ZkTls.ProofVerifier

/-!
# The crates' types as JSON

The forms the derives give to the types of the core, template and verifier
crates, which are all both written and read: members in declaration order
under the fields' own names, bytes as arrays of numbers, instants as text. How
an instant is written and in what order a map is visited are parameters.
-/

set_option autoImplicit false

namespace ZkTls.WireFormat
open ZkTls.JsonTree ZkTls.JsonCodec ZkTls.CoreTypes ZkTls.VerificationTemplates
open ZkTls.FieldExtraction ZkTls.ProofVerifier

/-- How instants are written as text and read back. -/
structure TimeText where
  write : DateTime → String
  read : String → Option DateTime
  inRange : DateTime → Prop
  read_write : ∀ t, inRange t → read (write t) = some t

def timestamp (T : TimeText) : Codec DateTime where
  encode t := .string (T.write t)
  decode v :=
    match v with
    | .string s => T.read s
    | _ => none
  valid := T.inRange
  decode_encode := T.read_write

variable (T : TimeText) (visit : Visit Json)

def u8 : Codec UInt8 := bounded 256 UInt8.toNat UInt8.ofNat fun _ => UInt8.ofNat_toNat

def bytes : Codec Bytes := list u8

def fieldMap : Codec FieldMap := mapping visit json

section Core

def sessionProofFields :=
  field "server_hostname" string <|
  field "certificate_hash" bytes <|
  field "transcript_commitment" bytes <|
  field "notary_signature" bytes <|
  field "notary_public_key" bytes <|
  field "session_timestamp" (timestamp T) <|
  field "proof_timestamp" (timestamp T) done

def sessionProof : Codec SessionProof :=
  (record (sessionProofFields T)
    (by simp [sessionProofFields, field, done, Fields.member])).iso
    (fun p => ⟨p.1, p.2.1, p.2.2.1, p.2.2.2.1, p.2.2.2.2.1, p.2.2.2.2.2.1, p.2.2.2.2.2.2.1⟩)
    (fun x => (x.serverHostname, x.certificateHash, x.transcriptCommitment, x.notarySignature,
      x.notaryPublicKey, x.sessionTimestamp, x.proofTimestamp, ()))
    (fun _ => True) (fun _ _ => rfl)

def attestationFields :=
  field "id" string <|
  field "claim_type" string <|
  field "session_proof_id" string <|
  field "disclosed_fields" (fieldMap visit) <|
  field "redacted_field_hashes" (list bytes) <|
  field "template_id" string <|
  field "created_at" (timestamp T) <|
  nullable "expires_at" (timestamp T) done

def attestation : Codec Attestation :=
  (record (attestationFields T visit)
    (by simp [attestationFields, field, nullable, done, Fields.member])).iso
    (fun p => ⟨p.1, p.2.1, p.2.2.1, p.2.2.2.1, p.2.2.2.2.1, p.2.2.2.2.2.1, p.2.2.2.2.2.2.1,
      p.2.2.2.2.2.2.2.1⟩)
    (fun x => (x.id, x.claimType, x.sessionProofId, x.disclosedFields, x.redactedFieldHashes,
      x.templateId, x.createdAt, x.expiresAt, ()))
    (fun _ => True) (fun _ _ => rfl)

end Core

section Templates

def HttpMethod.name : HttpMethod → String
  | .get => "Get"
  | .post => "Post"

def FieldType.name : FieldType → String
  | .string => "String"
  | .boolean => "Boolean"
  | .integer => "Integer"
  | .date => "Date"

def fieldType : Codec FieldType :=
  enumeration [("String", .string), ("Boolean", .boolean), ("Integer", .integer), ("Date", .date)]
    FieldType.name (by intro x; cases x <;> rfl)

end Templates

section Verifier

def verificationResult : Codec VerificationResult :=
  (record
    (field "valid" bool <|
      field "claim_type" string <|
      field "verified_fields" (fieldMap visit) <|
      field "notary_key" bytes <|
      field "summary" string done)
    (by simp [field, done, Fields.member])).iso
    (fun p => ⟨p.1, p.2.1, p.2.2.1, p.2.2.2.1, p.2.2.2.2.1⟩)
    (fun x => (x.valid, x.claimType, x.verifiedFields, x.notaryKey, x.summary, ()))
    (fun _ => True) (fun _ _ => rfl)

end Verifier

section Domains

theorem bytes_valid (b : Bytes) : bytes.valid b := fun x _ => UInt8.toNat_lt x

def ProofInRange (p : SessionProof) : Prop :=
  T.inRange p.sessionTimestamp ∧ T.inRange p.proofTimestamp

def MapCanonical (m : FieldMap) : Prop := ∀ k v, m.lookup k = some v → Json.Canonical v

structure AttestationInRange (a : Attestation) : Prop where
  fields : MapCanonical a.disclosedFields
  created : T.inRange a.createdAt
  expires : ∀ e ∈ a.expiresAt, T.inRange e

theorem sessionProof_valid (p : SessionProof) (h : ProofInRange T p) : (sessionProof T).valid p :=
  ⟨trivial, trivial, bytes_valid _, bytes_valid _, bytes_valid _, bytes_valid _, h.1, h.2,
    trivial⟩

theorem attestation_valid (a : Attestation) (h : AttestationInRange T a) :
    (attestation T visit).valid a :=
  ⟨trivial, trivial, trivial, trivial, h.fields, fun b _ => bytes_valid b, trivial, h.created,
    fun e he => ⟨h.expires e he, by rintro ⟨⟩⟩, trivial⟩

theorem canonical_reached (ks : List String) (v w : Json) (h : Json.Reaches ks v w)
    (hv : Json.Canonical v) : Json.Canonical w := by
  induction h with
  | here v => exact hv
  | inside es k ks u w hk _ ih =>
    cases hv with
    | object _ _ hes =>
      obtain ⟨before, after, rfl, -⟩ := List.lookup_eq_some_iff.mp hk
      exact ih (hes (k, u) (by simp))

/-- What extraction shows of a canonical value is canonical. -/
theorem extracted_canonical {P : Platform} (json : Json) (hjson : Json.Canonical json)
    (fields : List FieldDefinition) (mask : DisclosureMask) (out : ExtractedFields)
    (h : extractFrom P json fields mask = .ok out) : MapCanonical out.1 := by
  intro k v hv
  rw [((extractFrom_ok P json mask fields out).mp h).2.1 k] at hv
  obtain ⟨f, -, rfl⟩ := Option.map_eq_some_iff.mp hv
  unfold shownValue
  rw [navigate_eq]
  cases hw : Json.lookupPath (segments f.jsonPath) json with
  | none => exact .null
  | some w => exact canonical_reached _ _ _ ((Json.lookupPath_some _ _ _).mp hw) hjson

end Domains

end ZkTls.WireFormat
