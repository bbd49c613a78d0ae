import Mathlib.Data.List.Basic
import Mathlib.Data.List.Induction

/-!
# Words of separated fields

A word is the concatenation of finitely many fields with one separator
between neighbours. When no field contains the separator the fields are
determined by the word and their number. When a field does contain it, the
boundary can move there, and the word has another reading. The inner fields
may contain it all the same if their lengths are known: the word is then read
from its end.
-/

set_option autoImplicit false

namespace ZkTls.SeparatedWord

variable {α : Type*} (sep : α)

def joined (fields : List (List α)) : List α := [sep].intercalate fields

theorem joined_singleton (f : List α) : joined sep [f] = f := List.intercalate_singleton

theorem joined_cons_cons (f g : List α) (fs : List (List α)) :
    joined sep (f :: g :: fs) = f ++ sep :: joined sep (g :: fs) := by
  simp [joined]

/-- A separator inside one field trades places with the boundary after it. -/
theorem joined_shift (fs : List (List α)) (a b c : List α) (gs : List (List α)) :
    joined sep (fs ++ (a ++ sep :: b) :: c :: gs) =
      joined sep (fs ++ a :: (b ++ sep :: c) :: gs) := by
  induction fs with
  | nil =>
    cases gs <;> simp [joined_cons_cons, joined_singleton]
  | cons f fs ih =>
    cases fs with
    | nil => rw [List.nil_append] at ih; simpa [joined_cons_cons] using ih
    | cons g fs => simpa [joined_cons_cons] using ih

theorem joined_concat (f : List α) (fs : List (List α)) (g : List α) :
    joined sep (f :: fs ++ [g]) = joined sep (f :: fs) ++ sep :: g := by
  induction fs generalizing f with
  | nil => simp [joined_cons_cons, joined_singleton]
  | cons e fs ih =>
    have h := ih e
    simp only [List.cons_append] at h ⊢
    rw [joined_cons_cons, joined_cons_cons, h, List.append_assoc, List.cons_append]

/-- The last separator is where a separator-free tail begins. -/
theorem last_separator_unique (a b s t : List α) (hs : sep ∉ s) (ht : sep ∉ t)
    (h : a ++ sep :: s = b ++ sep :: t) : a = b ∧ s = t := by
  have tail_longer : ∀ (c u v : List α), sep ∉ u → sep :: u = c ++ sep :: v → c = [] := by
    intro c u v hu huv
    cases c with
    | nil => rfl
    | cons x c =>
      have hmem : sep ∈ u := by
        rw [(List.cons.inj huv).2]
        simp
      exact absurd hmem hu
  have hab : a = b := by
    rcases List.append_eq_append_iff.mp h with ⟨c, hb, hc⟩ | ⟨c, ha, hc⟩
    · rw [hb, tail_longer c s t hs hc, List.append_nil]
    · rw [ha, tail_longer c t s ht hc, List.append_nil]
  rw [hab] at h
  exact ⟨hab, (List.cons.inj (List.append_cancel_left h)).2⟩

/-- Fields of known lengths are cut off the end one by one, whatever they
contain, and the first field is what remains. -/
theorem sized_unique (f g : List α) (ms ns : List (List α))
    (hlen : ms.map List.length = ns.map List.length)
    (h : joined sep (f :: ms) = joined sep (g :: ns)) : f = g ∧ ms = ns := by
  induction ms using List.reverseRecOn generalizing ns with
  | nil =>
    have hn : ns = [] := by simpa using hlen.symm
    subst hn
    exact ⟨by simpa [joined_singleton] using h, rfl⟩
  | append_singleton ms m ih =>
    rcases List.eq_nil_or_concat ns with rfl | ⟨ns, n, rfl⟩
    · simp at hlen
    · rw [List.concat_eq_append] at hlen h ⊢
      rw [List.map_append, List.map_append] at hlen
      have hcut := List.append_inj' hlen rfl
      have hmn : m.length = n.length := by simpa using hcut.2
      rw [← List.cons_append, ← List.cons_append, joined_concat, joined_concat] at h
      have hword := List.append_inj' h (by simp [hmn])
      have hrest := ih ns hcut.1 hword.1
      rw [(List.cons.inj hword.2).2, hrest.2]
      exact ⟨hrest.1, rfl⟩

/-- A separator-free last field and known lengths in between leave one
reading, with separators allowed in all fields but the last. -/
theorem framed_unique (f g : List α) (ms ns : List (List α)) (s t : List α)
    (hlen : ms.map List.length = ns.map List.length) (hs : sep ∉ s) (ht : sep ∉ t)
    (h : joined sep (f :: ms ++ [s]) = joined sep (g :: ns ++ [t])) :
    f = g ∧ ms = ns ∧ s = t := by
  rw [joined_concat, joined_concat] at h
  have hcut := last_separator_unique sep _ _ s t hs ht h
  have hrest := sized_unique sep f g ms ns hlen hcut.1
  exact ⟨hrest.1, hrest.2, hcut.2⟩

variable [DecidableEq α]

/-- No piece of a split word contains the separator. -/
theorem splitOn_free (word : List α) : ∀ f ∈ word.splitOn sep, sep ∉ f := by
  induction word with
  | nil => simp
  | cons x word ih =>
    rw [List.splitOn_cons_eq_if_modifyHead]
    by_cases hx : x = sep
    · simpa [hx] using ih
    · cases hword : word.splitOn sep with
      | nil => exact absurd hword (List.splitOn_ne_nil sep word)
      | cons f fs =>
        rw [hword] at ih
        have hf := ih f (by simp)
        simp only [beq_eq_false_iff_ne.mpr hx, List.modifyHead_cons, Bool.false_eq_true, if_false]
        intro g hg
        rcases List.mem_cons.mp hg with rfl | hg
        · simp [Ne.symm hx, hf]
        · exact ih g (by simp [hg])

theorem count_flatten_zero (fs : List (List α)) :
    fs.flatten.count sep = 0 ↔ ∀ f ∈ fs, sep ∉ f := by
  simp [List.count_eq_zero]

theorem count_joined (f : List α) (fs : List (List α)) :
    (joined sep (f :: fs)).count sep = fs.length + (f :: fs).flatten.count sep := by
  induction fs generalizing f with
  | nil => simp [joined_singleton]
  | cons g fs ih =>
    rw [joined_cons_cons, List.count_append, List.count_cons_self, ih]
    simp only [List.flatten_cons, List.count_append, List.length_cons]
    omega

/-- Only the word's own fields can be read out of it when they are free of
the separator, whatever the other reading contains. -/
theorem joined_unique (fs gs : List (List α)) (hlen : gs.length = fs.length)
    (hfree : ∀ f ∈ fs, sep ∉ f) (h : joined sep gs = joined sep fs) : gs = fs := by
  cases fs with
  | nil => simpa using hlen
  | cons f fs =>
    cases gs with
    | nil => simp at hlen
    | cons g gs =>
      have hzero := (count_flatten_zero sep (f :: fs)).mpr hfree
      have hcount := congrArg (List.count sep) h
      rw [count_joined, count_joined, hzero] at hcount
      have hsum : (g :: gs).flatten.count sep = 0 := by
        simp only [List.length_cons] at hlen
        omega
      have hgfree := (count_flatten_zero sep (g :: gs)).mp hsum
      calc g :: gs = (joined sep (g :: gs)).splitOn sep :=
            (List.splitOn_intercalate sep hgfree (by simp)).symm
        _ = (joined sep (f :: fs)).splitOn sep := by rw [h]
        _ = f :: fs := List.splitOn_intercalate sep hfree (by simp)

end ZkTls.SeparatedWord
