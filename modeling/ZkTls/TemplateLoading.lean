import ZkTls.NotaryMachine
import Mathlib.Data.List.Nodup

/-!
# Loading templates in any order

The registry keeps every template it is given and answers with the first of
an id, so loading is independent of its order as long as ids are distinct.
The allowlist the notary derives from its registry admits what it resolves.
-/

set_option autoImplicit false

namespace ZkTls.TemplateLoading
open ZkTls.CoreTypes ZkTls.VerificationTemplates ZkTls.NotaryMachine

/-- Templates registered one after the other. -/
def registerAll (templates : List VerificationTemplate) : TemplateRegistry :=
  templates.foldl register empty

theorem registerAll_templates (templates : List VerificationTemplate) :
    (registerAll templates).templates = templates := by
  have run : ∀ R : TemplateRegistry,
      (templates.foldl register R).templates = R.templates ++ templates := by
    induction templates with
    | nil => exact fun R => (List.append_nil _).symm
    | cons t templates ih =>
      intro R
      rw [List.foldl_cons, ih, register, List.append_assoc, List.singleton_append]
  exact run empty

/-- The same templates in any order give the same lookups, no id is listed
twice, and every template is the one its id resolves to. -/
structure LoadOrderFree (templates : List VerificationTemplate) : Prop where
  permuted : ∀ templates', templates.Perm templates' → ∀ id,
    get (registerAll templates') id = get (registerAll templates) id
  listed : (listIds (registerAll templates)).Nodup
  resolved : ∀ t ∈ (registerAll templates).templates,
    get (registerAll templates) t.id = some t

/-- With distinct ids a lookup returns whatever template has the id. -/
theorem get_distinct (templates : List VerificationTemplate)
    (hids : (templates.map VerificationTemplate.id).Nodup) (id : String)
    (t : VerificationTemplate) :
    get (registerAll templates) id = some t ↔ t ∈ templates ∧ t.id = id := by
  have hmem := get_mem (registerAll templates) id
  rw [registerAll_templates] at hmem
  refine ⟨hmem t, fun ⟨ht, hid⟩ => ?_⟩
  cases hget : get (registerAll templates) id with
  | none =>
    unfold VerificationTemplates.get at hget
    rw [registerAll_templates] at hget
    exact absurd (decide_eq_true hid) (List.find?_eq_none.mp hget t ht)
  | some u =>
    obtain ⟨hu, huid⟩ := hmem u hget
    rw [List.inj_on_of_nodup_map hids hu ht (huid.trans hid.symm)]

theorem get_perm (templates templates' : List VerificationTemplate)
    (hids : (templates.map VerificationTemplate.id).Nodup) (hperm : templates.Perm templates')
    (id : String) : get (registerAll templates') id = get (registerAll templates) id := by
  have hids' := (hperm.map VerificationTemplate.id).nodup_iff.mp hids
  refine Option.ext fun t => ?_
  rw [get_distinct templates' hids', get_distinct templates hids, hperm.mem_iff]

/-- Loading is independent of the order exactly when no two templates share
an id. -/
theorem loadOrderFree_iff_distinct (templates : List VerificationTemplate) :
    LoadOrderFree templates ↔ (templates.map VerificationTemplate.id).Nodup := by
  constructor
  · intro h
    have hlisted := h.listed
    rwa [listIds, registerAll_templates] at hlisted
  · intro hids
    refine ⟨fun templates' => get_perm templates templates' hids, ?_, fun t ht => ?_⟩
    · rwa [listIds, registerAll_templates]
    · rw [registerAll_templates] at ht
      exact (get_distinct templates hids _ t).mpr ⟨ht, rfl⟩

def utahVoterTemplateV2 : VerificationTemplate := { utahVoterTemplate with version := 2 }

/-- A second version under the same id: which one a lookup returns depends on
which was loaded first. -/
theorem second_version_order_dependent :
    ¬ LoadOrderFree [utahVoterTemplate, utahVoterTemplateV2] := by
  intro h
  have hget := h.permuted [utahVoterTemplateV2, utahVoterTemplate] (List.Perm.swap _ _ _)
    "utah-voter-v1"
  have hversion := congrArg (fun t => (t.map VerificationTemplate.version).getD 0) hget
  exact absurd hversion (by decide)

/-- The registry the notary binary builds: the shipped template, then every
file that parsed, in directory order. -/
def loadTemplates (files : List (Except String VerificationTemplate)) : TemplateRegistry :=
  registerAll (utahVoterTemplate :: files.filterMap Except.toOption)

theorem directory_order_irrelevant (files files' : List (Except String VerificationTemplate))
    (hperm : files.Perm files')
    (hids : ((loadTemplates files).templates.map VerificationTemplate.id).Nodup) (id : String) :
    get (loadTemplates files') id = get (loadTemplates files) id := by
  rw [loadTemplates, registerAll_templates] at hids
  exact get_perm _ _ hids ((hperm.filterMap _).cons _) id

/-- The allowlist the notary binary derives from its registry. -/
def allowedHostnames (R : TemplateRegistry) : List String :=
  (listIds R).filterMap fun id => (get R id).map fun t => t.target.hostname

theorem mem_allowedHostnames (R : TemplateRegistry) (hostname : String) :
    hostname ∈ allowedHostnames R ↔
      ∃ id t, get R id = some t ∧ t.target.hostname = hostname := by
  simp only [allowedHostnames, List.mem_filterMap, Option.map_eq_some_iff]
  constructor
  · rintro ⟨id, -, t, ht, hh⟩
    exact ⟨id, t, ht, hh⟩
  · rintro ⟨id, t, ht, hh⟩
    obtain ⟨hmem, hid⟩ := get_mem R id t ht
    exact ⟨id, List.mem_map.mpr ⟨t, hmem, hid⟩, t, ht, hh⟩

/-- Under the derived allowlist a request is turned down only because its
template is unknown, whatever was loaded and in whatever order. -/
theorem derived_allowlist_admits {P : Platform} (keypair : SessionProofs.NotaryKeyPair P)
    (R : TemplateRegistry) (req : NotarizeRequest) :
    checkRequest ⟨keypair, R, allowedHostnames R⟩ req =
      ((get R req.templateId).elim
        (.error ⟨404, "template not found: " ++ req.templateId⟩) .ok) := by
  unfold checkRequest
  cases ht : get R req.templateId with
  | none => rfl
  | some t =>
    have hallowed : t.target.hostname ∈ allowedHostnames R :=
      (mem_allowedHostnames R _).mpr ⟨_, t, ht, rfl⟩
    simp [hallowed]

end ZkTls.TemplateLoading
