import Mathlib.Data.List.Basic

/-!
# The last match in a list

A loop that overwrites its result whenever an element matches returns the
match of the last such element. Where that element stands splits the list
into a part that does not matter and a part without a match.
-/

set_option autoImplicit false

namespace ZkTls.LastMatch

variable {α β : Type}

/-- The last value a partial function takes on a list. -/
def lastMatch (f : α → Option β) : List α → Option β
  | [] => none
  | a :: l => (lastMatch f l).or (f a)

variable (f : α → Option β)

theorem lastMatch_append (l r : List α) :
    lastMatch f (l ++ r) = (lastMatch f r).or (lastMatch f l) := by
  induction l with
  | nil => rw [List.nil_append, lastMatch, Option.or_none]
  | cons a l ih => rw [List.cons_append, lastMatch, ih, Option.or_assoc, lastMatch]

theorem lastMatch_none (l : List α) : lastMatch f l = none ↔ ∀ a ∈ l, f a = none := by
  induction l with
  | nil => simp [lastMatch]
  | cons a l ih => rw [lastMatch, Option.or_eq_none_iff, ih, List.forall_mem_cons, and_comm]

/-- The element that supplies the last match, and the rest of the list, which
supplies none. -/
theorem lastMatch_some (l : List α) (b : β) :
    lastMatch f l = some b ↔
      ∃ l₁ a l₂, l = l₁ ++ a :: l₂ ∧ f a = some b ∧ lastMatch f l₂ = none := by
  induction l with
  | nil => simp [lastMatch]
  | cons c l ih =>
    constructor
    · intro h
      rw [lastMatch] at h
      cases hl : lastMatch f l with
      | none =>
        rw [hl, Option.none_or] at h
        exact ⟨[], c, l, rfl, h, hl⟩
      | some d =>
        rw [hl, Option.some_or] at h
        obtain ⟨l₁, a, l₂, rfl, ha, hl₂⟩ := ih.mp (hl.trans h)
        exact ⟨c :: l₁, a, l₂, rfl, ha, hl₂⟩
    · rintro ⟨l₁, a, l₂, hl, ha, hl₂⟩
      rw [hl, lastMatch_append, lastMatch, hl₂, Option.none_or, ha, Option.some_or]

/-- The loop that keeps the latest match. -/
theorem foldl_lastMatch (step : Option β → α → Option β)
    (hstep : ∀ acc a, step acc a = (f a).or acc) (l : List α) (acc : Option β) :
    l.foldl step acc = (lastMatch f l).or acc := by
  induction l generalizing acc with
  | nil => rfl
  | cons a l ih => rw [List.foldl_cons, ih, hstep, lastMatch, Option.or_assoc]

theorem lastMatch_map {γ : Type} (g : γ → α) (l : List γ) :
    lastMatch f (l.map g) = lastMatch (fun c => f (g c)) l := by
  induction l with
  | nil => rfl
  | cons c l ih => rw [List.map_cons, lastMatch, lastMatch, ih]

end ZkTls.LastMatch
