import ZkTls.FieldExtraction
import ZkTls.SessionProofs

/-!
# From a response body to a proof and an attestation

The part of the handler between the fetched body and the last store call:
the two not-found checks, the extraction under the effective mask, the
signature and the attestation. Three clock readings and one identifier are
inputs.
-/

set_option autoImplicit false

namespace ZkTls.NotarizeResponse
open ZkTls.JsonTree ZkTls.CoreTypes ZkTls.VerificationTemplates ZkTls.FieldExtraction
open ZkTls.SessionProofs

variable {P : Platform}

def isEmptyObject : Option Json → Bool
  | some (.object []) => true
  | _ => false

def voterIsNull : Option Json → Bool
  | some (.object entries) =>
    match entries.lookup "voter" with
    | some .null => true
    | _ => false
  | _ => false

/-- Why a fetched body is turned down. -/
inductive Rejection where
  | emptyObject
  | voterNull
  | extraction (e : NotaryError)

def Rejection.error : Rejection → String
  | .emptyObject =>
    "voter_not_found: upstream returned empty response (no matching registration record)"
  | .voterNull =>
    "voter_not_found: upstream returned voter:null (no matching registration record)"
  | .extraction e => e.toString

structure IssueClock where
  proofTime : DateTime
  attestationUuid : String
  createdTime : DateTime
  expiryBase : DateTime

/-- Thirty days in nanoseconds. -/
def thirtyDays : ℤ := 30 * 24 * 60 * 60 * 1000000000

def certHashOf (P : Platform) (template : VerificationTemplate) : Bytes :=
  sha512Hash P (asBytes ("tls-cert:" ++ template.target.hostname))

def effectiveMask (template : VerificationTemplate) (disclosure : Option DisclosureMask) :
    DisclosureMask :=
  disclosure.getD template.defaultDisclosure

/-- The attestation the handler assembles from the extracted fields. -/
def buildAttestation (template : VerificationTemplate) (sessionId : String)
    (fields : ExtractedFields) (clock : IssueClock) : Attestation where
  id := "att-" ++ clock.attestationUuid
  claimType := template.claimType
  sessionProofId := sessionId
  disclosedFields := fields.1
  redactedFieldHashes := fields.2
  templateId := template.id
  createdAt := clock.createdTime
  expiresAt := some (clock.expiryBase + thirtyDays)

def issue (keypair : NotaryKeyPair P) (template : VerificationTemplate)
    (disclosure : Option DisclosureMask) (sessionId responseBody : String)
    (certHash : Bytes) (clock : IssueClock) : Except Rejection (SessionProof × Attestation) :=
  let preExtractParse := (P.fromStr responseBody).toOption
  if isEmptyObject preExtractParse then .error .emptyObject
  else if voterIsNull preExtractParse then .error .voterNull
  else
    match extractFields P responseBody template.fields (effectiveMask template disclosure) with
    | .error e => .error (.extraction e)
    | .ok fields => .ok
        (generateProof template.target.hostname responseBody certHash keypair clock.proofTime,
          buildAttestation template sessionId fields clock)

/-- The bodies a template and mask turn into a proof, with what is
extracted from them. Neither key, session nor clock has a say. -/
def Accepts (P : Platform) (template : VerificationTemplate)
    (disclosure : Option DisclosureMask) (responseBody : String)
    (fields : ExtractedFields) : Prop :=
  isEmptyObject (P.fromStr responseBody).toOption = false ∧
  voterIsNull (P.fromStr responseBody).toOption = false ∧
  extractFields P responseBody template.fields (effectiveMask template disclosure) =
    .ok fields

theorem issue_ok (keypair : NotaryKeyPair P) (template : VerificationTemplate)
    (disclosure : Option DisclosureMask) (sessionId responseBody : String)
    (certHash : Bytes) (clock : IssueClock) (proof : SessionProof)
    (attestation : Attestation) :
    issue keypair template disclosure sessionId responseBody certHash clock =
        .ok (proof, attestation) ↔
      ∃ fields, Accepts P template disclosure responseBody fields ∧
        proof = generateProof template.target.hostname responseBody certHash keypair
          clock.proofTime ∧
        attestation = buildAttestation template sessionId fields clock := by
  unfold issue Accepts
  by_cases he : isEmptyObject (P.fromStr responseBody).toOption = true
  · simp [he]
  by_cases hv : voterIsNull (P.fromStr responseBody).toOption = true
  · simp [he, hv]
  simp only [he, hv, if_false, Bool.false_eq_true, true_and]
  cases extractFields P responseBody template.fields (effectiveMask template disclosure) with
  | error e => simp
  | ok fields =>
    simp only [Except.ok.injEq, Prod.mk.injEq, exists_eq_left']
    exact and_congr eq_comm eq_comm

end ZkTls.NotarizeResponse
