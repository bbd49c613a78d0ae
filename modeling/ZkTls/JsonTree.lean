import Mathlib.Data.List.Basic
import Mathlib.Data.List.Dedup
import Mathlib.Data.List.Sort
import Mathlib.Data.String.Basic
import Mathlib.Order.Defs.LinearOrder

/-!
# JSON trees and key paths

An object is the list of its entries in iteration order. A path is a list
of keys, and a replacement acts on the subtree one path selects. What a
replacement does to every other path depends only on how the two paths
compare, never on the values stored along them.
-/

set_option autoImplicit false

namespace ZkTls.JsonTree

def numberChar (c : Char) : Bool :=
  c.isDigit || c == '+' || c == '-' || c == '.' || c == 'e'

/-- A number is identified with its canonical decimal text. -/
structure Number where
  text : String
  plain : text ≠ "" ∧ text.toList.all numberChar = true
  deriving DecidableEq

def Number.isInteger (n : Number) : Bool :=
  n.text.toList.all fun c => c.isDigit || c == '-'

inductive Json where
  | null
  | bool (b : Bool)
  | number (n : Number)
  | string (s : String)
  | array (elems : List Json)
  | object (entries : List (String × Json))

namespace Json

def get : Json → String → Option Json
  | .object es, k => es.lookup k
  | _, _ => none

def lookupPath : List String → Json → Option Json
  | [], v => some v
  | k :: ks, v => (v.get k).bind (lookupPath ks)

def replaceAt (w : Json) : List String → Json → Json
  | [], _ => w
  | k :: ks, .object es =>
      .object (es.map fun e => if e.1 = k then (e.1, replaceAt w ks e.2) else e)
  | _ :: _, v => v

/-- What a sorted map with distinct keys can hold, at every depth. -/
inductive Canonical : Json → Prop
  | null : Canonical .null
  | bool (b : Bool) : Canonical (.bool b)
  | number (n : Number) : Canonical (.number n)
  | string (s : String) : Canonical (.string s)
  | array (elems : List Json) (h : ∀ v ∈ elems, Canonical v) : Canonical (.array elems)
  | object (entries : List (String × Json))
      (hk : (entries.map Prod.fst).Pairwise (· < ·))
      (h : ∀ e ∈ entries, Canonical e.2) : Canonical (.object entries)

/-- A value lies at the end of nested objects, one key after the other. -/
inductive Reaches : List String → Json → Json → Prop
  | here (v : Json) : Reaches [] v v
  | inside (es : List (String × Json)) (k : String) (ks : List String) (u w : Json)
      (hk : es.lookup k = some u) (h : Reaches ks u w) : Reaches (k :: ks) (.object es) w

/-- The first key that cannot be followed: the current value is no object,
or an object without the key. -/
inductive Stuck : List String → Json → Prop
  | notObject (v : Json) (k : String) (ks : List String) (h : ∀ es, v ≠ .object es) :
      Stuck (k :: ks) v
  | absent (es : List (String × Json)) (k : String) (ks : List String)
      (h : k ∉ es.map Prod.fst) : Stuck (k :: ks) (.object es)
  | inside (es : List (String × Json)) (k : String) (ks : List String) (u : Json)
      (hk : es.lookup k = some u) (h : Stuck ks u) : Stuck (k :: ks) (.object es)

/-- Two key paths are comparable when one selects a subtree of the other. -/
def Comparable (p q : List String) : Prop := p <+: q ∨ q <+: p

instance (p q : List String) : Decidable (Comparable p q) :=
  inferInstanceAs (Decidable (_ ∨ _))

/-- Structural induction with one hypothesis for each element of a
container. -/
@[elab_as_elim]
theorem container_induction {P : Json → Prop} (null : P .null)
    (bool : ∀ b, P (.bool b)) (number : ∀ n, P (.number n))
    (string : ∀ s, P (.string s))
    (array : ∀ elems, (∀ v ∈ elems, P v) → P (.array elems))
    (object : ∀ entries : List (String × Json), (∀ e ∈ entries, P e.2) →
      P (.object entries)) (v : Json) : P v :=
  @Json.rec P (fun elems => ∀ v ∈ elems, P v) (fun entries => ∀ e ∈ entries, P e.2)
    (fun e => P e.2) null bool number string array object
    (List.forall_mem_nil _) (fun _ _ hv h => List.forall_mem_cons.mpr ⟨hv, h⟩)
    (List.forall_mem_nil _) (fun _ _ he h => List.forall_mem_cons.mpr ⟨he, h⟩)
    (fun _ _ hv => hv) v

theorem foldlM_get (ks : List String) (v : Json) :
    ks.foldlM get v = lookupPath ks v := by
  induction ks generalizing v with
  | nil => rfl
  | cons k ks ih =>
    rw [List.foldlM_cons, lookupPath]
    exact congrArg _ (funext ih)

theorem lookupPath_append (p q : List String) (v : Json) :
    lookupPath (p ++ q) v = (lookupPath p v).bind (lookupPath q) := by
  induction p generalizing v with
  | nil => rfl
  | cons k p ih =>
    simp only [List.cons_append, lookupPath]
    cases v.get k with
    | none => rfl
    | some u => exact ih u

theorem lookup_absent (es : List (String × Json)) (k : String) :
    es.lookup k = none ↔ k ∉ es.map Prod.fst := by
  rw [List.lookup_eq_none_iff, List.mem_map]
  constructor
  · rintro h ⟨e, he, rfl⟩
    simpa using h e he
  · intro h e he
    apply bne_iff_ne.mpr
    intro hk
    exact h ⟨e, he, hk.symm⟩

theorem lookupPath_some (ks : List String) (v w : Json) :
    lookupPath ks v = some w ↔ Reaches ks v w := by
  induction ks generalizing v with
  | nil =>
    constructor
    · intro h
      rw [← Option.some.inj h]
      exact Reaches.here v
    · intro h
      cases h
      rfl
  | cons k ks ih =>
    constructor
    · intro h
      cases v with
      | object es =>
        obtain ⟨u, hu, hw⟩ := Option.bind_eq_some_iff.mp h
        exact Reaches.inside es k ks u w hu ((ih u).mp hw)
      | _ => cases h
    · intro h
      cases h with
      | inside es _ _ u _ hk h =>
        apply Option.bind_eq_some_iff.mpr
        exact ⟨u, hk, (ih u).mpr h⟩

theorem lookupPath_none (ks : List String) (v : Json) :
    lookupPath ks v = none ↔ Stuck ks v := by
  induction ks generalizing v with
  | nil =>
    constructor
    · intro h
      cases h
    · intro h
      cases h
  | cons k ks ih =>
    constructor
    · intro h
      cases v with
      | object es =>
        cases hk : es.lookup k with
        | none => exact Stuck.absent es k ks ((lookup_absent es k).mp hk)
        | some u =>
          apply Stuck.inside es k ks u hk
          apply (ih u).mp
          simpa [lookupPath, get, hk] using h
      | _ => exact Stuck.notObject _ k ks (by simp)
    · intro h
      cases h with
      | notObject _ _ _ h =>
        cases v with
        | object es => exact absurd rfl (h es)
        | _ => rfl
      | absent es _ _ h =>
        have hk := (lookup_absent es k).mpr h
        simp [lookupPath, get, hk]
      | inside es _ _ u hk h =>
        have hu := (ih u).mpr h
        simp [lookupPath, get, hk, hu]

theorem lookup_entry (j k : String) (v : Json) (es : List (String × Json)) :
    ((k, v) :: es).lookup j = if j = k then some v else es.lookup j := by
  by_cases h : j = k
  · simp [h]
  · rw [List.lookup_cons, beq_false_of_ne h, if_neg h]

theorem lookup_map_entries (f : String × Json → String × Json)
    (hf : ∀ e, (f e).1 = e.1) (es : List (String × Json)) (j : String) :
    (es.map f).lookup j = (es.lookup j).map fun v => (f (j, v)).2 := by
  induction es with
  | nil => rfl
  | cons e es ih =>
    obtain ⟨k, v⟩ := e
    have hk : f (k, v) = (k, (f (k, v)).2) := Prod.ext (hf (k, v)) rfl
    rw [List.map_cons, hk, lookup_entry, lookup_entry]
    by_cases h : j = k
    · simp [h]
    · simp only [if_neg h, ih]

theorem get_replaceAt_self (w : Json) (k : String) (ks : List String) (v : Json) :
    (replaceAt w (k :: ks) v).get k = (v.get k).map (replaceAt w ks) := by
  cases v with
  | object es =>
    simp only [replaceAt, get]
    rw [lookup_map_entries _ (by intro e; split <;> rfl)]
    simp
  | _ => rfl

theorem get_replaceAt_ne (w : Json) (k j : String) (ks : List String) (v : Json)
    (h : j ≠ k) : (replaceAt w (k :: ks) v).get j = v.get j := by
  cases v with
  | object es =>
    simp only [replaceAt, get]
    rw [lookup_map_entries _ (by intro e; split <;> rfl)]
    simp [h]
  | _ => rfl

/-- Above the replaced subtree the lookup returns the tree with the
replacement made inside it. -/
theorem lookupPath_replaceAt_above (w : Json) (p q : List String) (v : Json) :
    lookupPath p (replaceAt w (p ++ q) v) = (lookupPath p v).map (replaceAt w q) := by
  induction p generalizing v with
  | nil => rfl
  | cons k p ih =>
    simp only [List.cons_append, lookupPath, get_replaceAt_self]
    cases v.get k with
    | none => rfl
    | some u => exact ih u

/-- Below the replaced subtree only the replacement is visible. -/
theorem lookupPath_replaceAt_below (w : Json) (p q : List String) (v : Json) :
    lookupPath (p ++ q) (replaceAt w p v) =
      (lookupPath p v).bind fun _ => lookupPath q w := by
  rw [lookupPath_append]
  have h := lookupPath_replaceAt_above w p [] v
  rw [List.append_nil] at h
  rw [h]
  cases lookupPath p v <;> rfl

/-- Incomparable paths do not see each other. -/
theorem lookupPath_replaceAt_apart (w : Json) (p q : List String) (v : Json)
    (h : ¬ Comparable p q) : lookupPath p (replaceAt w q v) = lookupPath p v := by
  induction p generalizing q v with
  | nil => exact absurd (Or.inl (List.nil_prefix)) h
  | cons k p ih =>
    cases q with
    | nil => exact absurd (Or.inr (List.nil_prefix)) h
    | cons j q =>
      simp only [lookupPath]
      by_cases hkj : k = j
      · subst hkj
        have hpq : ¬ Comparable p q := by
          simpa [Comparable, List.cons_prefix_cons] using h
        rw [get_replaceAt_self]
        cases v.get k with
        | none => rfl
        | some u => exact ih q u hpq
      · rw [get_replaceAt_ne w j k q v hkj]

theorem canonical_replaceAt (w : Json) (hw : Canonical w) (p : List String) (v : Json)
    (hv : Canonical v) : Canonical (replaceAt w p v) := by
  induction p generalizing v with
  | nil => exact hw
  | cons k p ih =>
    cases hv with
    | object es hk h =>
      apply Canonical.object
      · have hm : (es.map fun e => if e.1 = k then (e.1, replaceAt w p e.2) else e).map
            Prod.fst = es.map Prod.fst := by
          rw [List.map_map]
          apply List.map_congr_left
          intro e _
          dsimp only [Function.comp]
          split <;> rfl
        rw [hm]
        exact hk
      · intro e he
        obtain ⟨d, hd, rfl⟩ := List.mem_map.mp he
        split
        · exact ih d.2 (h d hd)
        · exact h d hd
    | _ => constructor <;> assumption

theorem replaceAt_replaceAt (u w : Json) (p : List String) (v : Json) :
    replaceAt u p (replaceAt w p v) = replaceAt u p v := by
  induction p generalizing v with
  | nil => rfl
  | cons k p ih =>
    cases v with
    | object es =>
      simp only [replaceAt, List.map_map]
      congr 1
      apply List.map_congr_left
      intro e _
      by_cases h : e.1 = k
      · simp [h, ih]
      · simp [h]
    | _ => rfl

/-! The tree whose paths are the given ones. Each entry carries the keys
that remain below it. -/

/-- What remains of a path that starts with the key. -/
def tailAfter (k : String) : List String → Option (List String)
  | [] => none
  | j :: p => if j = k then some p else none

/-- The remainders of the paths that start with the given keys. -/
def remaining : List String → List (List String) → List (List String)
  | [], ps => ps
  | k :: p, ps => remaining p (ps.filterMap (tailAfter k))

/-- The first keys of the paths, in the order of a sorted map. -/
def firstKeys (ps : List (List String)) : List String :=
  (ps.filterMap List.head?).dedup.insertionSort (· ≤ ·)

/-- The tree in which exactly the given paths lead on, down to a depth. -/
def pathTree (leaf : Json) : ℕ → List (List String) → Json
  | 0, _ => leaf
  | d + 1, ps =>
    match firstKeys ps with
    | [] => leaf
    | k :: ks => .object ((k :: ks).map fun j => (j, pathTree leaf d (remaining [j] ps)))

theorem mem_remaining (p q : List String) (ps : List (List String)) :
    q ∈ remaining p ps ↔ p ++ q ∈ ps := by
  induction p generalizing ps with
  | nil => rfl
  | cons k p ih =>
    rw [remaining, ih, List.mem_filterMap]
    constructor
    · rintro ⟨r, hr, ht⟩
      cases r with
      | nil => cases ht
      | cons j r =>
        by_cases hj : j = k
        · rw [tailAfter, if_pos hj] at ht
          rw [List.cons_append, ← Option.some.inj ht, ← hj]
          exact hr
        · rw [tailAfter, if_neg hj] at ht
          cases ht
    · intro h
      exact ⟨k :: (p ++ q), h, if_pos rfl⟩

theorem remaining_append (p q : List String) (ps : List (List String)) :
    remaining (p ++ q) ps = remaining q (remaining p ps) := by
  induction p generalizing ps with
  | nil => rfl
  | cons k p ih => exact ih _

theorem mem_firstKeys (k : String) (ps : List (List String)) :
    k ∈ firstKeys ps ↔ ∃ p, k :: p ∈ ps := by
  rw [firstKeys, List.mem_insertionSort, List.mem_dedup, List.mem_filterMap]
  constructor
  · rintro ⟨p, hp, hk⟩
    cases p with
    | nil => cases hk
    | cons j p =>
      obtain rfl := Option.some.inj hk
      exact ⟨p, hp⟩
  · rintro ⟨p, hp⟩
    exact ⟨k :: p, hp, rfl⟩

theorem firstKeys_sorted (ps : List (List String)) : (firstKeys ps).Pairwise (· < ·) :=
  (List.SortedLE.sortedLT_of_nodup List.sortedLE_insertionSort
    ((List.perm_insertionSort _ _).nodup_iff.mpr (List.nodup_dedup _))).pairwise

theorem lookup_tabulated (keys : List String) (t : String → Json) (k : String)
    (hk : k ∈ keys) : (keys.map fun j => (j, t j)).lookup k = some (t k) := by
  induction keys with
  | nil => simp at hk
  | cons j keys ih =>
    rw [List.map_cons, lookup_entry]
    by_cases h : k = j
    · rw [if_pos h, h]
    · rw [if_neg h]
      exact ih (by simpa [h] using hk)

theorem get_pathTree (leaf : Json) (d : ℕ) (ps : List (List String)) (k : String)
    (hk : k ∈ firstKeys ps) :
    (pathTree leaf (d + 1) ps).get k = some (pathTree leaf d (remaining [k] ps)) := by
  rw [pathTree]
  split
  · rename_i hnil
    simp [hnil] at hk
  · rename_i j ks hcons
    exact lookup_tabulated _ (fun j => pathTree leaf d (remaining [j] ps)) k (hcons ▸ hk)

/-- A path that some given path extends resolves, to the tree of what
remains. -/
theorem lookupPath_pathTree (leaf : Json) (p q : List String) (d : ℕ)
    (ps : List (List String)) (h : p ++ q ∈ ps) :
    lookupPath p (pathTree leaf (p.length + d) ps) =
      some (pathTree leaf d (remaining p ps)) := by
  induction p generalizing ps with
  | nil => simp [lookupPath, remaining]
  | cons k p ih =>
    have hd : (k :: p).length + d = p.length + d + 1 := by simp; omega
    have hk : k ∈ firstKeys ps := (mem_firstKeys k ps).mpr ⟨p ++ q, h⟩
    rw [hd, lookupPath, get_pathTree leaf _ ps k hk]
    exact ih _ ((mem_remaining [k] (p ++ q) ps).mpr h)

theorem pathTree_injective (a b : Json) (d : ℕ) (ps : List (List String))
    (h : pathTree a d ps = pathTree b d ps) : a = b := by
  induction d generalizing ps with
  | zero => exact h
  | succ d ih =>
    cases hks : firstKeys ps with
    | nil => simpa [pathTree, hks] using h
    | cons k ks =>
      have hk : k ∈ firstKeys ps := by simp [hks]
      have hget := congrArg (fun t => get t k) h
      simp only [get_pathTree _ d ps k hk] at hget
      exact ih _ (Option.some.inj hget)

theorem canonical_pathTree (leaf : Json) (hl : Canonical leaf) (d : ℕ)
    (ps : List (List String)) : Canonical (pathTree leaf d ps) := by
  induction d generalizing ps with
  | zero => exact hl
  | succ d ih =>
    rw [pathTree]
    split
    · exact hl
    · rename_i k ks hcons
      apply Canonical.object
      · have hsorted := firstKeys_sorted ps
        rw [hcons] at hsorted
        simpa [List.map_map, Function.comp_def] using hsorted
      · intro e he
        obtain ⟨j, -, rfl⟩ := List.mem_map.mp he
        exact ih _

end Json
end ZkTls.JsonTree
