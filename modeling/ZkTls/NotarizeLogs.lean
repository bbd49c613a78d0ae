import ZkTls.ExtractionLaws
import ZkTls.JsonShape
import ZkTls.SessionLifecycle

/-!
# What a judged response leaves in the logs

The records the handler emits once it holds the response body, with the
fields of each. Two responses of one shape and one length take the same path
and differ in no record and no error reply.
-/

set_option autoImplicit false

namespace ZkTls.NotarizeLogs
open ZkTls.JsonTree ZkTls.JsonText ZkTls.CoreTypes ZkTls.VerificationTemplates
open ZkTls.FieldExtraction ZkTls.FiniteStore ZkTls.SessionProofs ZkTls.NotarizeResponse
open ZkTls.NotarySessions ZkTls.NotaryMachine ZkTls.RecordedPlatform ZkTls.Redaction
open ZkTls.ExtractionLaws ZkTls.SessionLifecycle

inductive Level where
  | info
  | error
  deriving DecidableEq

inductive LogValue where
  | text (s : String)
  | count (n : ℕ)
  | flag (b : Bool)
  deriving DecidableEq

structure LogRecord where
  level : Level
  fields : List (String × LogValue)
  message : String
  deriving DecidableEq

/-- The length of a body in bytes. -/
def bodyLen (body : String) : ℕ := (asBytes body).length

/-- At most 120 characters of the portal's own error message. -/
def errorMessageStr (parsed : Option Json) : String :=
  match parsed.bind fun v => v.get "errorMessage" with
  | some (.string s) => String.ofList (s.toList.take 120)
  | _ => ""

/-- Whether the body parsed, and its top-level keys. -/
def topKeys : Option Json → Bool × String
  | some (.object entries) =>
    (true, ",".intercalate (((entries.map Prod.fst).take 20).insertionSort (· ≤ ·)))
  | some (.array _) => (true, "[array]")
  | some _ => (true, "[primitive]")
  | none => (false, "")

section Records
variable {P : Platform}

def rejectionLog (P : Platform) (template : VerificationTemplate) (sessionId body : String) :
    Rejection → LogRecord
  | .emptyObject =>
    ⟨.info, [("session_id", .text sessionId), ("body_len", .count (bodyLen body)),
      ("template", .text template.id)],
      "voter not found — upstream returned empty object (no PII)"⟩
  | .voterNull =>
    ⟨.info, [("session_id", .text sessionId), ("body_len", .count (bodyLen body)),
      ("template", .text template.id),
      ("error_message", .text (errorMessageStr (P.fromStr body).toOption))],
      "voter not found — upstream returned voter:null (validation/match failed)"⟩
  | .extraction e =>
    let shape := topKeys (P.fromStr body).toOption
    ⟨.error, [("session_id", .text sessionId), ("body_len", .count (bodyLen body)),
      ("parsed_ok", .flag shape.1), ("top_keys", .text shape.2),
      ("template", .text template.id), ("msg", .text e.toString)],
      "field extraction failed — logging response shape (no PII)"⟩

def completionLog (template : VerificationTemplate) (sessionId : String)
    (attestation : Attestation) : LogRecord :=
  ⟨.info, [("session_id", .text sessionId), ("template", .text template.id),
    ("disclosed_fields", .count attestation.disclosedFields.keys.card),
    ("redacted_fields", .count attestation.redactedFieldHashes.length)],
    "notarization complete"⟩

def failureLog (sessionId msg : String) : LogRecord :=
  ⟨.error, [("session_id", .text sessionId), ("msg", .text msg)], ""⟩

variable {N : Notary P} {f f' : Fetch N}

/-- The records emitted on the way to an exit, once a response or its failure
has arrived. -/
def Exit.logs : Exit f → List LogRecord
  | .clientFailed _ => []
  | .fetchFailed e => [failureLog f.sessionId (fetchFailedMsg e)]
  | .badStatus code url bytes =>
    [failureLog f.sessionId (badStatusMsg f.template.id code url bytes)]
  | .unreadable _ => []
  | .rejected body _ r _ => [rejectionLog P f.template f.sessionId body r]
  | .completed _ _ _ attestation _ => [completionLog f.template f.sessionId attestation]

/-- The ways a judged body can go. -/
inductive Path where
  | emptyObject
  | voterNull
  | extractionFailed
  | completed
  deriving DecidableEq

def Rejection.path : Rejection → Path
  | .emptyObject => .emptyObject
  | .voterNull => .voterNull
  | .extraction _ => .extractionFailed

def Exit.path : Exit f → Option Path
  | .rejected _ _ r _ => some (Rejection.path r)
  | .completed _ _ _ _ _ => some .completed
  | _ => none

def Exit.errorReply (x : Exit f) : Option ErrorReply :=
  match x.reply with
  | .error e => some e
  | .ok _ => none

end Records

section TwoRuns
variable (P : Platform)

/-- Accumulators that a reader of the logs cannot tell apart. -/
def Alike (out out' : ExtractedFields) : Prop :=
  out.1.keys = out'.1.keys ∧ out.2.length = out'.2.length

/-- Results that fail with the same error or succeed alike. -/
inductive AlikeResult {ε : Type} : Except ε ExtractedFields → Except ε ExtractedFields → Prop
  | error (e : ε) : AlikeResult (.error e) (.error e)
  | ok (out out' : ExtractedFields) (h : Alike out out') : AlikeResult (.ok out) (.ok out')

theorem navigate_sameShape (json json' : Json) (h : Json.SameShape json json')
    (path : String) :
    Option.Rel Json.SameShape (navigateJsonPath json path) (navigateJsonPath json' path) := by
  rw [navigate_eq, navigate_eq]
  exact Json.sameShape_lookupPath _ json json' h

/-- One round keeps the accumulators alike. -/
theorem extractField_alike (json json' : Json) (h : Json.SameShape json json')
    (mask : DisclosureMask) (acc acc' : ExtractedFields) (hacc : Alike acc acc')
    (f : FieldDefinition) :
    AlikeResult (extractField P json mask acc f) (extractField P json' mask acc' f) := by
  have hnav := navigate_sameShape json json' h f.jsonPath
  obtain ⟨hkeys, hlen⟩ := hacc
  unfold extractField
  generalize navigateJsonPath json f.jsonPath = v at hnav ⊢
  generalize navigateJsonPath json' f.jsonPath = v' at hnav ⊢
  by_cases hs : f.jsonPath ∈ mask.disclosedPaths
  · cases hnav with
    | none =>
      by_cases hr : f.required = true
      · simp only [hs, hr, if_true]
        exact .error _
      · simp only [hs, hr, if_true]
        exact .ok _ _ ⟨by rw [keys_insert, keys_insert, hkeys], hlen⟩
    | some _ =>
      simp only [hs, if_true]
      exact .ok _ _ ⟨by rw [keys_insert, keys_insert, hkeys], hlen⟩
  · by_cases hh : f.jsonPath ∈ mask.redactedPaths
    · cases hnav with
      | none =>
        simp only [hs, hh, if_true, if_false]
        exact .ok _ _ ⟨hkeys, hlen⟩
      | some _ =>
        simp only [hs, hh, if_true, if_false]
        exact .ok _ _ ⟨hkeys, by simp [hlen]⟩
    · simp only [hs, hh, if_false]
      exact .ok _ _ ⟨hkeys, hlen⟩

theorem extractFrom_alike (json json' : Json) (h : Json.SameShape json json')
    (fields : List FieldDefinition) (mask : DisclosureMask) :
    AlikeResult (extractFrom P json fields mask) (extractFrom P json' fields mask) := by
  have run : ∀ acc acc', Alike acc acc' →
      AlikeResult (fields.foldlM (extractField P json mask) acc)
        (fields.foldlM (extractField P json' mask) acc') := by
    induction fields with
    | nil => exact fun acc acc' hacc => .ok _ _ hacc
    | cons f fields ih =>
      intro acc acc' hacc
      have hround := extractField_alike P json json' h mask acc acc' hacc f
      rw [List.foldlM_cons, List.foldlM_cons]
      generalize extractField P json mask acc f = r at hround ⊢
      generalize extractField P json' mask acc' f = r' at hround ⊢
      cases hround with
      | error e => exact .error e
      | ok out out' hout => exact ih out out' hout
  exact run _ _ ⟨rfl, rfl⟩

/-- The verdict on a parsed response: both checks, then the extraction. -/
def judge (template : VerificationTemplate) (disclosure : Option DisclosureMask)
    (json : Json) : Except Rejection ExtractedFields :=
  if isEmptyObject (some json) then .error .emptyObject
  else if voterIsNull (some json) then .error .voterNull
  else (extractFrom P json template.fields (effectiveMask template disclosure)).mapError
    Rejection.extraction

theorem checks_sameShape (json json' : Json) (h : Json.SameShape json json') :
    isEmptyObject (some json) = isEmptyObject (some json') ∧
    voterIsNull (some json) = voterIsNull (some json') := by
  cases h with
  | object es es' hk h =>
    constructor
    · cases es <;> cases es' <;> first | rfl | cases hk
    · have hvoter := Json.sameShape_lookup es es' hk h "voter"
      simp only [voterIsNull]
      generalize es.lookup "voter" = v at hvoter ⊢
      generalize es'.lookup "voter" = v' at hvoter ⊢
      cases hvoter with
      | none => rfl
      | some hv => cases hv <;> rfl
  | _ => exact ⟨rfl, rfl⟩

theorem judge_alike (template : VerificationTemplate) (disclosure : Option DisclosureMask)
    (json json' : Json) (h : Json.SameShape json json') :
    AlikeResult (judge P template disclosure json) (judge P template disclosure json') := by
  obtain ⟨hempty, hvoter⟩ := checks_sameShape json json' h
  have hextract := extractFrom_alike P json json' h template.fields
    (effectiveMask template disclosure)
  unfold judge
  rw [← hempty, ← hvoter]
  split_ifs
  · exact .error _
  · exact .error _
  · generalize extractFrom P json _ _ = r at hextract ⊢
    generalize extractFrom P json' _ _ = r' at hextract ⊢
    cases hextract with
    | error e => exact .error _
    | ok out out' hout => exact .ok out out' hout

theorem topKeys_sameShape (json json' : Json) (h : Json.SameShape json json') :
    topKeys (some json) = topKeys (some json') := by
  cases h with
  | object es es' hk h => simp only [topKeys, hk]
  | _ => rfl

variable {P} {N : Notary P}

/-- What an exit that judged a parsed body did follows the verdict. -/
theorem exit_judge {f : Fetch N} (x : Exit f) (body : String) (json : Json)
    (hx : x.body = some body) (hjson : P.fromStr body = .ok json) :
    (∃ clock r hr, x = .rejected body clock r hr ∧
      judge P f.template f.request.disclosure json = .error r) ∨
    ∃ clock proof attestation hi out, x = .completed body clock proof attestation hi ∧
      judge P f.template f.request.disclosure json = .ok out ∧
      attestation.disclosedFields = out.1 ∧ attestation.redactedFieldHashes = out.2 := by
  have hparse : (P.fromStr body).toOption = some json := by rw [hjson]; rfl
  cases x with
  | rejected b clock r hr =>
    obtain rfl : b = body := Option.some.inj hx
    refine Or.inl ⟨clock, r, hr, rfl, ?_⟩
    unfold Fetch.issue NotarizeResponse.issue at hr
    simp only [hparse] at hr
    rw [extractFields_parsed P _ _ b json hjson] at hr
    unfold judge
    split_ifs at hr ⊢
    · exact congrArg _ (Except.error.inj hr)
    · exact congrArg _ (Except.error.inj hr)
    · cases he : extractFrom P json f.template.fields
          (effectiveMask f.template f.request.disclosure) with
      | error e => rw [he] at hr; exact congrArg _ (Except.error.inj hr)
      | ok out => rw [he] at hr; cases hr
  | completed b clock proof attestation hi =>
    obtain rfl : b = body := Option.some.inj hx
    obtain ⟨out, ⟨hempty, hvoter, hout⟩, -, hatt⟩ := (issue_ok _ _ _ _ _ _ _ _ _).mp hi
    rw [hparse] at hempty hvoter
    rw [extractFields_parsed P _ _ b json hjson] at hout
    refine Or.inr ⟨clock, proof, attestation, hi, out, rfl, ?_, ?_, ?_⟩
    · simp [judge, hempty, hvoter, hout, Except.mapError]
    · rw [hatt]; rfl
    · rw [hatt]; rfl
  | _ => cases hx

/-- A record without some of its fields. -/
def LogRecord.without (names : List String) (r : LogRecord) : LogRecord :=
  { r with fields := r.fields.filter fun e => e.1 ∉ names }

/-- What two runs may log differently: the session, and the portal's own
message where the voter is null. -/
def differing (path : Option Path) : List String :=
  if path = some .voterNull then ["session_id", "error_message"] else ["session_id"]

/-- Two exits that tell a reader of the logs and of the error replies the
same. -/
structure Indistinguishable {f f' : Fetch N} (x : Exit f) (x' : Exit f') : Prop where
  path : Exit.path x = Exit.path x'
  logs : (Exit.logs x).map (LogRecord.without (differing (Exit.path x))) =
    (Exit.logs x').map (LogRecord.without (differing (Exit.path x)))
  reply : Exit.errorReply x = Exit.errorReply x'

theorem rejectionLog_alike (template : VerificationTemplate) (sessionId sessionId' : String)
    (body body' : String) (json json' : Json) (r : Rejection)
    (hjson : P.fromStr body = .ok json) (hjson' : P.fromStr body' = .ok json')
    (hshape : Json.SameShape json json') (hlen : bodyLen body = bodyLen body') :
    (rejectionLog P template sessionId body r).without
        (differing (some (Rejection.path r))) =
      (rejectionLog P template sessionId' body' r).without
        (differing (some (Rejection.path r))) := by
  have hparse : (P.fromStr body).toOption = some json := by rw [hjson]; rfl
  have hparse' : (P.fromStr body').toOption = some json' := by rw [hjson']; rfl
  cases r with
  | emptyObject => simp [rejectionLog, LogRecord.without, differing, Rejection.path, hlen]
  | voterNull => simp [rejectionLog, LogRecord.without, differing, Rejection.path, hlen]
  | extraction e =>
    simp [rejectionLog, LogRecord.without, differing, Rejection.path, hlen, hparse, hparse',
      topKeys_sameShape json json' hshape]

/-- Two handlers of one template and mask that judged bodies of one shape and
one length cannot be told apart by their logs and error replies. -/
theorem exits_indistinguishable {f f' : Fetch N} (htemplate : f.template = f'.template)
    (hmask : f.request.disclosure = f'.request.disclosure) (x : Exit f) (x' : Exit f')
    (body body' : String) (json json' : Json) (hx : x.body = some body)
    (hx' : x'.body = some body') (hjson : P.fromStr body = .ok json)
    (hjson' : P.fromStr body' = .ok json') (hshape : Json.SameShape json json')
    (hlen : bodyLen body = bodyLen body') : Indistinguishable x x' := by
  have halike := judge_alike P f.template f.request.disclosure json json' hshape
  have hexit' := exit_judge x' body' json' hx' hjson'
  rw [← htemplate, ← hmask] at hexit'
  -- alike verdicts: both rejected for one reason, or both completed
  rcases exit_judge x body json hx hjson with
    ⟨clock, r, hr, rfl, hj⟩ | ⟨clock, proof, attestation, hi, out, rfl, hj, hshown, hhashes⟩ <;>
  rcases hexit' with
    ⟨clock', r', hr', rfl, hj'⟩ | ⟨clock', proof', attestation', hi', out', rfl, hj', hshown',
      hhashes'⟩ <;>
  rw [hj, hj'] at halike <;> cases halike
  · refine ⟨rfl, ?_, rfl⟩
    have hlog := rejectionLog_alike f.template f.sessionId f'.sessionId body body' json json' r
      hjson hjson' hshape hlen
    simpa [Exit.logs, Exit.path, ← htemplate] using hlog
  · rename_i hout
    refine ⟨rfl, ?_, rfl⟩
    simp [Exit.logs, Exit.path, completionLog, LogRecord.without, differing, ← htemplate,
      hshown, hshown', hhashes, hhashes', hout.1, hout.2]

end TwoRuns

/-- Every body is judged, whatever the clock says. -/
theorem judged_exit {P : Platform} {N : Notary P} (f : Fetch N) (body : String)
    (clock : IssueClock) : ∃ x : Exit f, x.body = some body := by
  cases h : f.issue body clock with
  | error r => exact ⟨.rejected body clock r h, rfl⟩
  | ok issued => exact ⟨.completed body clock issued.1 issued.2 h, rfl⟩

/-- A platform that parses two statuses of one length. -/
def twoStatuses : Recording :=
  { activeRecording with responses := [utahResponse "Active", utahResponse "Closed"] }

def utahFetch (R : Recording) (sessionId : String) : Fetch (shippedNotary R) where
  request := ⟨"utah-voter-v1", none, none⟩
  template := utahVoterTemplate
  admitted := rfl
  sessionId := sessionId
  createdAt := noon.proofTime

theorem statuses_sameShape (a b : String) :
    Json.SameShape (utahResponse a) (utahResponse b) := by
  have hvoter : Json.SameShape (.object [("status", .string a)])
      (.object [("status", .string b)]) :=
    .object _ _ rfl (.cons (.string a b) .nil)
  have hresidence : Json.SameShape (.object [("physicalState", .string "UT")])
      (.object [("physicalState", .string "UT")]) :=
    .object _ _ rfl (.cons (.string _ _) .nil)
  exact .object _ _ rfl (.cons .null (.cons hresidence (.cons hvoter .nil)))

theorem statuses_indistinguishable :
    ∃ (x : Exit (utahFetch twoStatuses firstId)) (x' : Exit (utahFetch twoStatuses "second")),
      x.body = some activeText ∧
      x'.body = some (display (utahResponse "Closed")) ∧ Indistinguishable x x' := by
  obtain ⟨x, hx⟩ := judged_exit (utahFetch twoStatuses firstId) activeText noon
  obtain ⟨x', hx'⟩ := judged_exit (utahFetch twoStatuses "second")
    (display (utahResponse "Closed")) noon
  have htemplate : (utahFetch twoStatuses firstId).template =
      (utahFetch twoStatuses "second").template := rfl
  have hmask : (utahFetch twoStatuses firstId).request.disclosure =
      (utahFetch twoStatuses "second").request.disclosure := rfl
  exact ⟨x, x', hx, hx', exits_indistinguishable htemplate hmask x x' _ _ _ _ hx hx'
    (replay_reads twoStatuses _ (by simp [twoStatuses]))
    (replay_reads twoStatuses _ (by simp [twoStatuses]))
    (statuses_sameShape "Active" "Closed") (by decide +kernel)⟩

end ZkTls.NotarizeLogs
