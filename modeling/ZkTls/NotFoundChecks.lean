import ZkTls.ExtractionLaws

/-!
# The not-found checks against the extractor

The handler turns down an empty object and a null voter before it extracts.
Both checks know one portal's answers, while the extractor goes by the
template and the mask.
-/

set_option autoImplicit false

namespace ZkTls.NotFoundChecks
open ZkTls.JsonTree ZkTls.JsonText ZkTls.CoreTypes ZkTls.VerificationTemplates
open ZkTls.FieldExtraction ZkTls.SessionProofs ZkTls.NotarizeResponse ZkTls.RecordedPlatform
open ZkTls.Redaction ZkTls.ExtractionLaws

variable {P : Platform} (keypair : NotaryKeyPair P) (template : VerificationTemplate)
  (disclosure : Option DisclosureMask) (sessionId : String) (certHash : Bytes)
  (clock : IssueClock)

/-- A rejection by one of the two checks that come before the extractor. -/
def PreCheck (r : Rejection) : Prop := r = .emptyObject ∨ r = .voterNull

/-- The checks only relabel what the extractor would have refused. -/
def OnlyRelabels (body : String) : Prop :=
  ∀ r, issue keypair template disclosure sessionId body certHash clock = .error r →
    PreCheck r →
    ∃ e, extractFields P body template.fields (effectiveMask template disclosure) = .error e

theorem preCheck_iff (body : String) :
    (∃ r, issue keypair template disclosure sessionId body certHash clock = .error r ∧
      PreCheck r) ↔
    isEmptyObject (P.fromStr body).toOption = true ∨
      voterIsNull (P.fromStr body).toOption = true := by
  unfold issue PreCheck
  by_cases he : isEmptyObject (P.fromStr body).toOption = true
  · simp [he]
  by_cases hv : voterIsNull (P.fromStr body).toOption = true
  · simp [he, hv]
  simp only [he, hv, if_false, Bool.false_eq_true, or_self, iff_false]
  cases extractFields P body template.fields (effectiveMask template disclosure) with
  | error e => simp
  | ok fields => simp

/-- A rejection that is not a check's is the extractor's. -/
theorem rejection_cases (body : String) (r : Rejection)
    (h : issue keypair template disclosure sessionId body certHash clock = .error r) :
    PreCheck r ∨
      ∃ e, extractFields P body template.fields (effectiveMask template disclosure) =
        .error e := by
  unfold issue at h
  simp only at h
  split_ifs at h with he hv
  · exact Or.inl (Or.inl (Except.error.inj h).symm)
  · exact Or.inl (Or.inr (Except.error.inj h).symm)
  · cases hx : extractFields P body template.fields (effectiveMask template disclosure) with
    | error e => exact Or.inr ⟨e, rfl⟩
    | ok fields =>
      rw [hx] at h
      cases h

theorem isEmptyObject_iff (parsed : Option Json) :
    isEmptyObject parsed = true ↔ parsed = some (.object []) := by
  unfold isEmptyObject
  split <;> simp_all

/-- In the empty object no path resolves. -/
theorem missing_empty (mask : DisclosureMask) (f : FieldDefinition) :
    Missing (.object []) mask f ↔ Shown mask f ∧ f.required = true := by
  have hnav : navigateJsonPath (.object []) f.jsonPath = none := by
    rw [navigate_eq]
    cases hseg : segments f.jsonPath with
    | nil => exact absurd hseg (segments_ne_nil f.jsonPath)
    | cons k ks => rfl
  simp [Missing, hnav]

/-- The checks only relabel exactly when the template and the mask give the
extractor a reason of its own. -/
theorem onlyRelabels_iff (body : String) :
    OnlyRelabels keypair template disclosure sessionId certHash clock body ↔
      (P.fromStr body = .ok (.object []) →
        ∃ f ∈ template.fields, Shown (effectiveMask template disclosure) f ∧
          f.required = true) ∧
      ∀ json, P.fromStr body = .ok json → voterIsNull (some json) = true →
        ∃ f ∈ template.fields, Missing json (effectiveMask template disclosure) f := by
  have hpre := preCheck_iff keypair template disclosure sessionId certHash clock body
  have hrelabels : OnlyRelabels keypair template disclosure sessionId certHash clock body ↔
      (isEmptyObject (P.fromStr body).toOption = true ∨
        voterIsNull (P.fromStr body).toOption = true →
        ∃ e, extractFields P body template.fields (effectiveMask template disclosure) =
          .error e) := by
    rw [← hpre]
    constructor
    · rintro h ⟨r, hr, hp⟩
      exact h r hr hp
    · intro h r hr hp
      exact h ⟨r, hr, hp⟩
  rw [hrelabels]
  cases hparse : P.fromStr body with
  | error e => simp [Except.toOption, isEmptyObject, voterIsNull]
  | ok json =>
    rw [extractFields_parsed P _ _ body json hparse, extractFrom_error, or_imp]
    refine and_congr ?_ (by simp [Except.toOption])
    rw [isEmptyObject_iff, Except.toOption, Option.some.injEq, Except.ok.injEq]
    refine forall_congr' fun hempty => ?_
    subst hempty
    simp only [missing_empty]

/-- Equivalently, every response the extractor accepts is notarized. -/
theorem onlyRelabels_iff_notarizes (body : String) :
    OnlyRelabels keypair template disclosure sessionId certHash clock body ↔
      ∀ out, extractFields P body template.fields (effectiveMask template disclosure) = .ok out →
        ∃ issued, issue keypair template disclosure sessionId body certHash clock =
          .ok issued := by
  constructor
  · intro h out hout
    cases hi : issue keypair template disclosure sessionId body certHash clock with
    | ok issued => exact ⟨issued, rfl⟩
    | error r =>
      obtain ⟨e, he⟩ := (rejection_cases keypair template disclosure sessionId certHash clock
        body r hi).elim (h r hi) id
      rw [hout] at he
      cases he
  · intro h r hr hp
    cases hx : extractFields P body template.fields (effectiveMask template disclosure) with
    | error e => exact ⟨e, rfl⟩
    | ok out =>
      obtain ⟨issued, hi⟩ := h out hx
      rw [hr] at hi
      cases hi

def emptyAnswer : Json := .object []

def emptyAnswerRecording : Recording := { activeRecording with responses := [emptyAnswer] }

def emptyBody : String := display emptyAnswer

theorem emptyBody_parse :
    (replay emptyAnswerRecording).fromStr emptyBody = .ok emptyAnswer :=
  replay_reads emptyAnswerRecording _ (List.mem_singleton_self _)

/-- With the shipped template and its own mask the check for the empty object
only relabels. -/
theorem shipped_mask_relabels :
    OnlyRelabels (recordedKey emptyAnswerRecording) utahVoterTemplate none "session-1"
      (certHashOf (replay emptyAnswerRecording) utahVoterTemplate) noon emptyBody := by
  refine (onlyRelabels_iff _ _ _ _ _ _ _).mpr ⟨fun _ => ?_, fun json hjson hv => ?_⟩
  · exact ⟨statusDefinition, by simp [utahVoterTemplate, statusDefinition], by decide, rfl⟩
  · rw [emptyBody_parse] at hjson
    cases hjson
    cases hv

/-- A mask that shows only the optional error message makes the extractor
accept the empty object, which the check turns down. -/
theorem optional_only_turned_down :
    ¬ OnlyRelabels (recordedKey emptyAnswerRecording) utahVoterTemplate
      (some ⟨["errorMessage"], []⟩) "session-1"
      (certHashOf (replay emptyAnswerRecording) utahVoterTemplate) noon emptyBody := by
  intro h
  have hempty : isEmptyObject ((replay emptyAnswerRecording).fromStr emptyBody).toOption =
      true := by
    rw [emptyBody_parse]
    rfl
  obtain ⟨r, hr, hp⟩ := (preCheck_iff (recordedKey emptyAnswerRecording) utahVoterTemplate
    (some ⟨["errorMessage"], []⟩) "session-1"
    (certHashOf (replay emptyAnswerRecording) utahVoterTemplate) noon emptyBody).mpr
    (Or.inl hempty)
  obtain ⟨e, he⟩ := h r hr hp
  rw [extractFields_parsed _ _ _ _ _ emptyBody_parse] at he
  obtain ⟨f, hf, hm⟩ := (extractFrom_error _ _ _ _).mp ⟨e, he⟩
  have hnone : ∀ f ∈ utahVoterTemplate.fields,
      ¬ (Shown ⟨["errorMessage"], []⟩ f ∧ f.required = true) := by decide
  exact hnone f hf ((missing_empty _ f).mp hm)

end ZkTls.NotFoundChecks
