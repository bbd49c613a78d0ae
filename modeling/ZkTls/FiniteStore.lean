import Mathlib.Algebra.BigOperators.Group.Finset.Piecewise
import Mathlib.Algebra.Order.BigOperators.Group.Finset
import Mathlib.Data.Finmap

/-!
# Finite stores

Two operations on finite maps that Mathlib's maps lack: keeping the entries
that pass a test, and rewriting the value under one key if there is one.
Counts and sums over the entries, and what one insertion does to them.
-/

set_option autoImplicit false

namespace ZkTls.FiniteStore

variable {κ β : Type} [DecidableEq κ]

abbrev Store (κ β : Type) := Finmap fun _ : κ => β

def retain (p : β → Bool) (m : Store κ β) : Store κ β where
  entries := m.entries.filter fun e => p e.2
  nodupKeys := Multiset.nodup_keys.mp
    (Multiset.nodup_of_le (Multiset.map_le_map (Multiset.filter_le _ _))
      (Multiset.nodup_keys.mpr m.nodupKeys))

/-- The rewritten store, or nothing when the key is absent. -/
def rewriteAt (k : κ) (f : β → β) (m : Store κ β) : Option (Store κ β) :=
  (m.lookup k).map fun v => m.insert k (f v)

/-- The keys whose value passes a test. -/
def keysWith (p : β → Bool) (m : Store κ β) : Finset κ :=
  m.keys.filter fun k => (m.lookup k).any p

theorem lookup_retain (p : β → Bool) (m : Store κ β) (k : κ) :
    (retain p m).lookup k = (m.lookup k).filter p := by
  ext v
  rw [Finmap.lookup_eq_some_iff, Option.filter_eq_some_iff, Finmap.lookup_eq_some_iff]
  exact Multiset.mem_filter

theorem mem_keysWith (p : β → Bool) (m : Store κ β) (k : κ) :
    k ∈ keysWith p m ↔ ∃ v, m.lookup k = some v ∧ p v = true := by
  rw [keysWith, Finset.mem_filter, Finmap.mem_keys, Finmap.mem_iff]
  constructor
  · rintro ⟨⟨v, hv⟩, hp⟩
    exact ⟨v, hv, by simpa [hv] using hp⟩
  · rintro ⟨v, hv, hp⟩
    exact ⟨⟨v, hv⟩, by simpa [hv] using hp⟩

theorem keys_retain (p : β → Bool) (m : Store κ β) : (retain p m).keys = keysWith p m := by
  ext k
  rw [Finmap.mem_keys, Finmap.mem_iff, mem_keysWith]
  simp only [lookup_retain, Option.filter_eq_some_iff]

theorem lookup_insert_if (m : Store κ β) (k j : κ) (v : β) :
    (m.insert k v).lookup j = if j = k then some v else m.lookup j := by
  by_cases h : j = k
  · rw [h, if_pos rfl, Finmap.lookup_insert]
  · rw [if_neg h, Finmap.lookup_insert_of_ne _ h]

theorem keys_insert (m : Store κ β) (k : κ) (v : β) : (m.insert k v).keys = insert k m.keys := by
  ext j
  rw [Finset.mem_insert, Finmap.mem_keys, Finmap.mem_insert, Finmap.mem_keys]

/-- Nothing is lost when every value passes. -/
theorem retain_all (p : β → Bool) (m : Store κ β) (h : keysWith p m = m.keys) :
    retain p m = m := by
  refine Finmap.ext_lookup fun k => ?_
  rw [lookup_retain]
  cases hk : m.lookup k with
  | none => rfl
  | some v =>
    have hmem : k ∈ keysWith p m := by
      rw [h, Finmap.mem_keys, Finmap.mem_iff]
      exact ⟨v, hk⟩
    obtain ⟨w, hw, hp⟩ := (mem_keysWith p m k).mp hmem
    cases hk.symm.trans hw
    rw [Option.filter_some, if_pos hp]

/-- The sum of a weight over the entries. -/
def total (w : β → ℕ) (m : Store κ β) : ℕ := ∑ k ∈ m.keys, (m.lookup k).elim 0 w

theorem total_over (w : β → ℕ) (m : Store κ β) (s : Finset κ) (hs : m.keys ⊆ s) :
    ∑ k ∈ s, (m.lookup k).elim 0 w = total w m := by
  refine (Finset.sum_subset hs fun k _ hk => ?_).symm
  rw [Finmap.lookup_eq_none.mpr fun h => hk (Finmap.mem_keys.mpr h)]
  rfl

/-- One entry changes the sum by what it weighs. -/
theorem total_insert (w : β → ℕ) (m : Store κ β) (k : κ) (v : β) :
    total w (m.insert k v) + (m.lookup k).elim 0 w = total w m + w v := by
  have hold := total_over w m (insert k m.keys) (Finset.subset_insert _ _)
  have hnew := total_over w (m.insert k v) (insert k m.keys) (keys_insert m k v).le
  have hk : k ∈ insert k m.keys := Finset.mem_insert_self _ _
  rw [← Finset.add_sum_erase _ _ hk] at hold hnew
  have hrest : ∑ j ∈ (insert k m.keys).erase k, ((m.insert k v).lookup j).elim 0 w =
      ∑ j ∈ (insert k m.keys).erase k, (m.lookup j).elim 0 w := by
    refine Finset.sum_congr rfl fun j hj => ?_
    rw [Finmap.lookup_insert_of_ne _ (Finset.ne_of_mem_erase hj)]
  rw [hrest, Finmap.lookup_insert, Option.elim_some] at hnew
  omega

/-- Weights that add up on every entry add up in sum. -/
theorem total_split (w u v : β → ℕ) (m : Store κ β)
    (h : ∀ k x, m.lookup k = some x → w x = u x + v x) : total w m = total u m + total v m := by
  rw [total, total, total, ← Finset.sum_add_distrib]
  refine Finset.sum_congr rfl fun k _ => ?_
  cases hk : m.lookup k with
  | none => rfl
  | some x => exact h k x hk

theorem card_keysWith (p : β → Bool) (m : Store κ β) :
    (keysWith p m).card = total (fun v => (p v).toNat) m := by
  rw [keysWith, Finset.card_filter]
  refine Finset.sum_congr rfl fun k _ => ?_
  cases m.lookup k with
  | none => rfl
  | some v => cases h : p v <;> simp [h]

/-- One entry changes the count by whether it passes. -/
theorem card_keysWith_insert (p : β → Bool) (m : Store κ β) (k : κ) (v : β) :
    (keysWith p (m.insert k v)).card + ((m.lookup k).any p).toNat =
      (keysWith p m).card + (p v).toNat := by
  have h := total_insert (fun v => (p v).toNat) m k v
  rw [← card_keysWith, ← card_keysWith] at h
  cases hk : m.lookup k with
  | none => simpa [hk] using h
  | some u => simpa [hk] using h

end ZkTls.FiniteStore
