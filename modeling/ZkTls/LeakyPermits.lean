import ZkTls.LabelledRun

/-!
# Permits that can be lost

A counting semaphore of fixed capacity. A permit is taken, given back, or
lost by a holder that will never give it back. Lost permits accumulate, and
once every permit is lost no request for one succeeds again.
-/

set_option autoImplicit false

namespace ZkTls.LeakyPermits
open ZkTls.LabelledRun

@[ext]
structure Permits where
  capacity : ℕ
  held : ℕ
  lost : ℕ
  within : held + lost ≤ capacity

def unused (capacity : ℕ) : Permits := ⟨capacity, 0, 0, Nat.zero_le _⟩

inductive Event where
  | idle
  | acquired
  | refused
  | released
  | lost
  deriving DecidableEq

/-- A permit is refused only when none is left; that one is left for an
acquisition is the bound of the permits after it. -/
inductive Turn : Permits → Event → Permits → Prop
  | idle (p : Permits) : Turn p .idle p
  | acquired (p q : Permits) (hcapacity : q.capacity = p.capacity)
      (hheld : q.held = p.held + 1) (hlost : q.lost = p.lost) : Turn p .acquired q
  | refused (p : Permits) (hnone : p.held + p.lost = p.capacity) : Turn p .refused p
  | released (p q : Permits) (hcapacity : q.capacity = p.capacity)
      (hheld : q.held + 1 = p.held) (hlost : q.lost = p.lost) : Turn p .released q
  | lost (p q : Permits) (hcapacity : q.capacity = p.capacity)
      (hheld : q.held + 1 = p.held) (hlost : q.lost = p.lost + 1) : Turn p .lost q

theorem turn_idle (p q : Permits) (hcapacity : q.capacity = p.capacity) (hheld : q.held = p.held)
    (hlost : q.lost = p.lost) : Turn p .idle q := by
  obtain rfl := Permits.ext hcapacity hheld hlost
  exact .idle q

theorem turn_refused (p q : Permits) (hcapacity : q.capacity = p.capacity)
    (hheld : q.held = p.held) (hlost : q.lost = p.lost) (hnone : p.held + p.lost = p.capacity) :
    Turn p .refused q := by
  obtain rfl := Permits.ext hcapacity hheld hlost
  exact .refused q hnone

/-- How often an event happened. -/
def times (e : Event) (trace : List (Event × Permits)) : ℕ :=
  spent (fun e' => if e' = e then 1 else 0) trace

variable {p q : Permits} {e : Event} {trace : List (Event × Permits)}

/-- Every permit ever taken is held, lost or was given back. -/
theorem run_conserved (h : Run Turn p trace q) :
    p.held + p.lost + times .acquired trace = q.held + q.lost + times .released trace ∧
      q.lost = p.lost + times .lost trace := by
  induction h with
  | nil => exact ⟨rfl, rfl⟩
  | snoc _ ht ih =>
    simp only [times, spent_snoc] at ih ⊢
    cases ht with
    | idle | refused => simpa using ih
    | acquired _ _ hheld hlost | released _ _ hheld hlost | lost _ _ hheld hlost =>
      simp
      omega

/-- Once every permit is lost nothing is granted, given back or lost any
more. -/
theorem turn_exhausted (h : Turn p e q) (hp : p.lost = p.capacity) :
    q = p ∧ (e = .idle ∨ e = .refused) := by
  have hwithin := p.within
  cases h with
  | idle => exact ⟨rfl, Or.inl rfl⟩
  | refused => exact ⟨rfl, Or.inr rfl⟩
  | acquired _ hcapacity hheld hlost =>
    have hafter := q.within
    omega
  | released _ _ hheld | lost _ _ hheld => omega

end ZkTls.LeakyPermits
