import ZkTls.Redaction
import ZkTls.SeparatedWord

/-!
# What a path string denotes

A path string is a non-empty list of dot-free keys, read in exactly one way,
and navigation follows those keys through nested objects. Appending a path
after a dot navigates on from where the first path led, so one path reads
inside another exactly when its text continues the other's after a dot.
-/

set_option autoImplicit false

namespace ZkTls.PathNavigation
open ZkTls.JsonTree ZkTls.CoreTypes ZkTls.VerificationTemplates ZkTls.FieldExtraction
open ZkTls.SeparatedWord ZkTls.Redaction

/-- The keys a path string can stand for. Keys may be empty. -/
@[ext]
structure KeyPath where
  keys : List String
  nonempty : keys ≠ []
  dotFree : ∀ k ∈ keys, '.' ∉ k.toList

def KeyPath.text (p : KeyPath) : String := ".".intercalate p.keys

theorem segments_text (p : KeyPath) : segments p.text = p.keys := by
  have hfree : ∀ k ∈ p.keys.map String.toList, '.' ∉ k := by
    intro k hk
    obtain ⟨s, hs, rfl⟩ := List.mem_map.mp hk
    exact p.dotFree s hs
  have hne : p.keys.map String.toList ≠ [] := by simpa using p.nonempty
  rw [segments, KeyPath.text, String.toList_intercalate]
  show ((['.'].intercalate (p.keys.map String.toList)).splitOn '.').map String.ofList = p.keys
  rw [List.splitOn_intercalate '.' hfree hne, List.map_map]
  simp

theorem segments_dotFree (path : String) : ∀ k ∈ segments path, '.' ∉ k.toList := by
  intro k hk
  obtain ⟨f, hf, rfl⟩ := List.mem_map.mp hk
  rw [String.toList_ofList]
  exact splitOn_free '.' path.toList f hf

theorem intercalate_segments (path : String) : ".".intercalate (segments path) = path := by
  apply String.toList_injective
  have hpieces : (segments path).map String.toList = path.toList.splitOn '.' := by
    simp [segments, List.map_map, Function.comp_def]
  rw [String.toList_intercalate, hpieces]
  show ['.'].intercalate (path.toList.splitOn '.') = path.toList
  rw [List.intercalate_splitOn]

theorem segments_injective : Function.Injective segments := by
  intro p q h
  rw [← intercalate_segments p, h, intercalate_segments]

/-- Every path string, the empty one and those with leading, trailing or
doubled dots included, has keys. -/
def keysOf (path : String) : KeyPath where
  keys := segments path
  nonempty := segments_ne_nil path
  dotFree := segments_dotFree path

theorem text_keysOf (path : String) : (keysOf path).text = path := intercalate_segments path

theorem keysOf_text (p : KeyPath) : keysOf p.text = p := KeyPath.ext (segments_text p)

theorem text_unique (path : String) : ∃! p : KeyPath, p.text = path := by
  apply ExistsUnique.intro (keysOf path) (text_keysOf path)
  intro p hp
  rw [← hp, keysOf_text]

example : (keysOf ".a..b.").keys = ["", "a", "", "b", ""] := by decide +kernel

theorem segments_append (p q : String) : segments (p ++ "." ++ q) = segments p ++ segments q := by
  have hdot : (p ++ "." ++ q).toList = p.toList ++ '.' :: q.toList := by simp
  rw [segments, hdot, List.splitOn_append_cons_self, List.map_append]
  rfl

theorem navigate_append (root : Json) (p q : String) :
    navigateJsonPath root (p ++ "." ++ q) =
      (navigateJsonPath root p).bind fun v => navigateJsonPath v q := by
  simp only [navigate_eq, segments_append, Json.lookupPath_append]

/-- Navigation finds exactly the values at the end of nested objects, and
nothing as soon as one key cannot be followed. -/
theorem navigation_is_nested_lookup :
    (∀ (p : KeyPath) (root : Json),
      (∀ v, navigateJsonPath root p.text = some v ↔ Json.Reaches p.keys root v) ∧
      (navigateJsonPath root p.text = none ↔ Json.Stuck p.keys root)) ∧
    (∀ path : String, ∃! p : KeyPath, p.text = path) ∧
    ∀ (root : Json) (p q : String), navigateJsonPath root (p ++ "." ++ q) =
      (navigateJsonPath root p).bind fun v => navigateJsonPath v q := by
  constructor
  · intro p root
    rw [navigate_eq, segments_text]
    exact ⟨Json.lookupPath_some p.keys root, Json.lookupPath_none p.keys root⟩
  · exact ⟨text_unique, navigate_append⟩

/-- A path selects a subtree of what another selects exactly when its text
continues the other's after a dot. -/
theorem segments_isPrefix_iff (p q : String) :
    segments p <+: segments q ↔ p = q ∨ ∃ r, q = p ++ "." ++ r := by
  constructor
  · rintro ⟨rest, hrest⟩
    by_cases hnil : rest = []
    · left
      apply segments_injective
      simpa [hnil] using hrest
    · right
      use ".".intercalate rest
      calc q = ".".intercalate (segments p ++ rest) := by rw [hrest, intercalate_segments]
        _ = ".".intercalate (segments p) ++ "." ++ ".".intercalate rest :=
            String.intercalate_append_of_ne_nil (segments_ne_nil p) hnil
        _ = p ++ "." ++ ".".intercalate rest := by rw [intercalate_segments]
  · intro h
    rcases h with rfl | ⟨r, rfl⟩
    · exact List.prefix_rfl
    · rw [segments_append]
      exact List.prefix_append _ _

theorem comparable_iff (p q : String) :
    Json.Comparable (segments p) (segments q) ↔
      p = q ∨ (∃ r, q = p ++ "." ++ r) ∨ ∃ r, p = q ++ "." ++ r := by
  rw [Json.Comparable, segments_isPrefix_iff, segments_isPrefix_iff]
  constructor
  · rintro ((h | h) | h | h)
    · exact Or.inl h
    · exact Or.inr (Or.inl h)
    · exact Or.inl h.symm
    · exact Or.inr (Or.inr h)
  · rintro (h | h | h)
    · exact Or.inl (Or.inl h)
    · exact Or.inl (Or.inr h)
    · exact Or.inr (Or.inr h)

/-- Whether a mask hides a redacted path is decided by the path texts alone. -/
theorem shownApart_iff (fields : List FieldDefinition) (mask : DisclosureMask) (r : String) :
    ShownApart fields mask r ↔
      ∀ name f, lastShown mask fields name = some f →
        f.jsonPath ≠ r ∧ (∀ s, r ≠ f.jsonPath ++ "." ++ s) ∧
          ∀ s, f.jsonPath ≠ r ++ "." ++ s := by
  simp only [ShownApart, comparable_iff, not_or, not_exists]

end ZkTls.PathNavigation
