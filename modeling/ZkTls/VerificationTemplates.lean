import ZkTls.CoreTypes

/-!
# Verification templates and their registry

A template names its target, its extractable fields and its default mask.
The registry keeps templates in registration order and answers a lookup
with the first one of that id.
-/

set_option autoImplicit false

namespace ZkTls.VerificationTemplates
open ZkTls.CoreTypes

inductive HttpMethod where
  | get
  | post
  deriving DecidableEq

inductive FieldType where
  | string
  | boolean
  | integer
  | date
  deriving DecidableEq

structure CsrfConfig where
  fetchPath : String
  cookieName : String
  headerName : String

structure TargetServer where
  hostname : String
  path : String
  method : HttpMethod
  expectedContentType : String
  csrf : Option CsrfConfig
  refererPath : Option String

structure FieldDefinition where
  name : String
  jsonPath : String
  fieldType : FieldType
  required : Bool
  validationPattern : Option String
  description : String

structure VerificationTemplate where
  id : String
  name : String
  description : String
  version : UInt32
  target : TargetServer
  fields : List FieldDefinition
  defaultDisclosure : DisclosureMask
  claimType : String

structure TemplateRegistry where
  templates : List VerificationTemplate

def empty : TemplateRegistry := ⟨[]⟩

def register (R : TemplateRegistry) (template : VerificationTemplate) : TemplateRegistry :=
  ⟨R.templates ++ [template]⟩

def get (R : TemplateRegistry) (id : String) : Option VerificationTemplate :=
  R.templates.find? fun t => t.id = id

def listIds (R : TemplateRegistry) : List String := R.templates.map VerificationTemplate.id

/-- The template the notary binary registers before it reads any file. -/
def utahVoterTemplate : VerificationTemplate where
  id := "utah-voter-v1"
  name := "Utah Voter Registration Lookup"
  description := "Verifies active voter registration via votesearch.utah.gov. " ++
    "Requires first/last name, DOB, and address. Reveals only registration " ++
    "status and state; all PII is cryptographically redacted."
  version := 1
  target :=
    { hostname := "votesearch.utah.gov"
      path := "/voter-search/public-api/my-voter-profile"
      method := .post
      expectedContentType := "application/json"
      csrf := some
        { fetchPath := "/voter-search/search/search-by-voter/voter-info"
          cookieName := "XSRF-TOKEN"
          headerName := "X-XSRF-TOKEN" }
      refererPath := some "/voter-search/search/search-by-voter/voter-info" }
  fields :=
    [{ name := "status"
       jsonPath := "voter.status"
       fieldType := .string
       required := true
       validationPattern := some "^(Active|Inactive|Cancelled|Suspended)$"
       description := "Voter registration status." },
     { name := "state"
       jsonPath := "residence.physicalState"
       fieldType := .string
       required := true
       validationPattern := some "^UT$"
       description := "State of residence." },
     { name := "errorMessage"
       jsonPath := "errorMessage"
       fieldType := .string
       required := false
       validationPattern := none
       description := "API error message (null on success)." }]
  defaultDisclosure :=
    { disclosedPaths := ["voter.status", "residence.physicalState", "errorMessage"]
      redactedPaths := ["voter.first", "voter.middle", "voter.last", "voter.party",
        "voter.voterId", "residence.physicalAddress1", "residence.physicalCity",
        "residence.physicalZip", "countyName", "precinctId"] }
  claimType := "voter_registration"

theorem get_mem (R : TemplateRegistry) (id : String) (t : VerificationTemplate)
    (h : get R id = some t) : t ∈ R.templates ∧ t.id = id :=
  ⟨List.mem_of_find?_eq_some h, by simpa using List.find?_some h⟩

end ZkTls.VerificationTemplates
