import Mathlib.Data.List.Forall2
import Mathlib.Data.List.Induction

/-!
# Runs of labelled step relations

A run records every action together with the state it led to. Invariants are
proved once for all runs; restricting a relation by a condition on states and
actions gives the runs all of whose steps meet it. Runs compose; a measure
bounds what a run can cost and how far it can be driven; one relation can
simulate another, and an instrumented one projects to what it instruments. The
history of an observed value lists it each time it changes.
-/

set_option autoImplicit false

namespace ZkTls.LabelledRun

variable {σ ι β : Type}

inductive Run (R : σ → ι → σ → Prop) (init : σ) : List (ι × σ) → σ → Prop
  | nil : Run R init [] init
  | snoc {trace : List (ι × σ)} {s s' : σ} {a : ι} :
      Run R init trace s → R s a s' → Run R init (trace ++ [(a, s')]) s'

/-- The relation of a partial step function. -/
def Steps (step : σ → ι → Option σ) (s : σ) (a : ι) (s' : σ) : Prop := step s a = some s'

/-- The steps that meet a condition on the state before and the action. -/
def Within (ok : σ → ι → Prop) (R : σ → ι → σ → Prop) (s : σ) (a : ι) (s' : σ) : Prop :=
  ok s a ∧ R s a s'

def exec (step : σ → ι → Option σ) (s : σ) (as : List ι) : Option σ := as.foldlM step s

theorem exec_snoc (step : σ → ι → Option σ) (s : σ) (as : List ι) (a : ι) :
    exec step s (as ++ [a]) = (exec step s as).bind fun t => step t a := by
  rw [exec, List.foldlM_append]
  simp [exec]

variable {R S : σ → ι → σ → Prop} {init s : σ} {trace : List (ι × σ)}

theorem Run.invariant (h : Run R init trace s) (Inv : σ → Prop) (h0 : Inv init)
    (hstep : ∀ s a s', Inv s → R s a s' → Inv s') : Inv s := by
  induction h with
  | nil => exact h0
  | snoc _ hr ih => exact hstep _ _ _ ih hr

theorem Run.mono (h : Run R init trace s) (hRS : ∀ s a s', R s a s' → S s a s') :
    Run S init trace s := by
  induction h with
  | nil => exact .nil
  | snoc _ hr ih => exact ih.snoc (hRS _ _ _ hr)

theorem Run.unrestricted {ok : σ → ι → Prop} (h : Run (Within ok R) init trace s) :
    Run R init trace s :=
  h.mono fun _ _ _ => And.right

/-- An executed list of actions is a run of exactly these actions. -/
theorem run_of_exec (step : σ → ι → Option σ) (as : List ι) (init s : σ)
    (h : exec step init as = some s) :
    ∃ trace, Run (Steps step) init trace s ∧ trace.map Prod.fst = as := by
  induction as using List.reverseRecOn generalizing s with
  | nil =>
    cases h
    exact ⟨[], .nil, rfl⟩
  | append_singleton as a ih =>
    rw [exec_snoc] at h
    obtain ⟨t, ht, hs⟩ := Option.bind_eq_some_iff.mp h
    obtain ⟨trace, hrun, hmap⟩ := ih t ht
    exact ⟨_, hrun.snoc hs, by simp [hmap]⟩

/-- An executed list of actions, seen through an observation of its end. -/
theorem observed_run (step : σ → ι → Option σ) (as : List ι) (init : σ) (observe : σ → β)
    (b : β) (h : (exec step init as).map observe = some b) :
    ∃ trace s, Run (Steps step) init trace s ∧ trace.map Prod.fst = as ∧ observe s = b := by
  obtain ⟨s, hs, hb⟩ := Option.map_eq_some_iff.mp h
  obtain ⟨trace, hrun, hmap⟩ := run_of_exec step as init s hs
  exact ⟨trace, s, hrun, hmap, hb⟩

/-- A run whose actions meet the condition in every state. -/
theorem Run.within {ok : σ → ι → Prop} (h : Run R init trace s)
    (hok : ∀ a ∈ trace.map Prod.fst, ∀ s, ok s a) : Run (Within ok R) init trace s := by
  induction h with
  | nil => exact .nil
  | snoc _ hr ih =>
    rw [List.map_append, List.forall_mem_append] at hok
    exact (ih hok.1).snoc ⟨hok.2 _ (by simp) _, hr⟩

theorem Run.trans {t : σ} {after : List (ι × σ)} (h : Run R init trace s)
    (h' : Run R s after t) : Run R init (trace ++ after) t := by
  induction h' with
  | nil => simpa using h
  | snoc _ hr ih =>
    rw [← List.append_assoc]
    exact ih.snoc hr

/-- The weight of the actions of a run. -/
def spent (weight : ι → ℕ) : List (ι × σ) → ℕ
  | [] => 0
  | e :: rest => weight e.1 + spent weight rest

theorem spent_snoc (weight : ι → ℕ) (trace : List (ι × σ)) (a : ι) (t : σ) :
    spent weight (trace ++ [(a, t)]) = spent weight trace + weight a := by
  induction trace with
  | nil => simp [spent]
  | cons e rest ih =>
    rw [List.cons_append, spent, spent, ih]
    omega

theorem spent_zero (trace : List (ι × σ)) : spent (fun _ => 0) trace = 0 := by
  induction trace with
  | nil => rfl
  | cons e rest ih => rw [spent, ih]

/-- When every step pays its cost out of a measure and of what its action
brings in, so does every run. -/
theorem Run.budget (h : Run R init trace s) (measure : σ → ℕ) (cost credit : ι → ℕ)
    (hstep : ∀ s a s', R s a s' → measure s' + cost a ≤ measure s + credit a) :
    measure s + spent cost trace ≤ measure init + spent credit trace := by
  induction h with
  | nil => exact Nat.le_refl _
  | snoc _ hr ih =>
    have hlast := hstep _ _ _ hr
    rw [spent_snoc, spent_snoc]
    omega

/-- A measure that can be lowered from wherever an invariant holds can be
driven to zero. -/
theorem exists_drained (Inv : σ → Prop) (measure : σ → ℕ)
    (hstep : ∀ s, Inv s → measure s ≠ 0 → ∃ a s', R s a s' ∧ Inv s' ∧ measure s' < measure s)
    (s : σ) (hs : Inv s) : ∃ after t, Run R s after t ∧ Inv t ∧ measure t = 0 := by
  induction hn : measure s using Nat.strongRecOn generalizing s with
  | ind n ih =>
    by_cases hzero : measure s = 0
    · exact ⟨[], s, .nil, hs, hzero⟩
    · obtain ⟨a, s', hr, hs', hlt⟩ := hstep s hs hzero
      obtain ⟨after, t, hrun, ht⟩ := ih _ (hn ▸ hlt) s' hs' rfl
      exact ⟨_, t, (Run.nil.snoc hr).trans hrun, ht⟩

/-- A property holds throughout a run, or up to one step after which another
holds for good. -/
inductive Lasts (R : σ → ι → σ → Prop) (holds gone : σ → Prop) (ends : σ → ι → σ → Prop)
    (init : σ) (trace : List (ι × σ)) (now : σ) : Prop
  | throughout (h : ∀ e ∈ trace, holds e.2) (hnow : holds now)
  | ended (before after : List (ι × σ)) (s s' : σ) (a : ι)
      (hsplit : trace = before ++ (a, s') :: after) (hbefore : Run R init before s)
      (hholds : ∀ e ∈ before, holds e.2) (hlast : holds s) (hends : ends s a s')
      (hgone : ∀ e ∈ (a, s') :: after, gone e.2) (hnow : gone now)

theorem Run.lasts {holds gone : σ → Prop} {ends : σ → ι → σ → Prop}
    (h : Run R init trace s) (Inv : σ → Prop) (h0 : Inv init)
    (hstep : ∀ s a s', Inv s → R s a s' → Inv s') (hinit : holds init)
    (hholds : ∀ s a s', Inv s → holds s → R s a s' → holds s' ∨ (gone s' ∧ ends s a s'))
    (hgone : ∀ s a s', Inv s → gone s → R s a s' → gone s') :
    Lasts R holds gone ends init trace s := by
  induction h with
  | nil => exact .throughout (by simp) hinit
  | @snoc trace s s' a hrun hr ih =>
    have hinv := hrun.invariant Inv h0 hstep
    cases ih with
    | throughout hall hnow =>
      rcases hholds s a s' hinv hnow hr with hkeep | ⟨hdone, hend⟩
      · refine .throughout (fun e he => ?_) hkeep
        rcases List.mem_append.mp he with he | he
        · exact hall e he
        · rw [List.mem_singleton.mp he]
          exact hkeep
      · exact .ended trace [] s s' a rfl hrun hall hnow hend (by simpa using hdone) hdone
    | ended before after t t' b hsplit hbefore hall hlast hend hdone hnow =>
      have hstay := hgone s a s' hinv hnow hr
      refine .ended before (after ++ [(a, s')]) t t' b (by simp [hsplit]) hbefore hall hlast
        hend (fun e he => ?_) hstay
      rw [← List.cons_append, List.mem_append, List.mem_singleton] at he
      rcases he with he | he
      · exact hdone e he
      · rw [he]
        exact hstay

/-- One relation simulates another: every run has a counterpart, action by
action and state by state. -/
theorem Run.simulated {τ ε : Type} {S : τ → ε → τ → Prop} {start : τ}
    (h : Run R init trace s) (rel : σ → τ → Prop) (answers : ι × σ → ε → Prop)
    (h0 : rel init start)
    (hstep : ∀ s a s' t, rel s t → R s a s' → ∃ e t', answers (a, s') e ∧ S t e t' ∧ rel s' t') :
    ∃ image t, Run S start image t ∧ rel s t ∧
      List.Forall₂ (fun x y => answers x y.1 ∧ rel x.2 y.2) trace image := by
  induction h with
  | nil => exact ⟨[], start, .nil, h0, .nil⟩
  | snoc _ hr ih =>
    obtain ⟨image, t, hrun, hrel, hall⟩ := ih
    obtain ⟨e, t', he, hs, hrel'⟩ := hstep _ _ _ _ hrel hr
    exact ⟨_, t', hrun.snoc hs, hrel', List.rel_append hall (.cons ⟨he, hrel'⟩ .nil)⟩

theorem forall₂_snoc {r : ι → β → Prop} (as : List ι) (a : ι) (bs : List β)
    (h : List.Forall₂ r (as ++ [a]) bs) :
    ∃ front last, bs = front ++ [last] ∧ List.Forall₂ r as front ∧ r a last := by
  induction as generalizing bs with
  | nil =>
    obtain ⟨last, rest, hlast, hrest, rfl⟩ := List.forall₂_cons_left_iff.mp h
    cases hrest
    exact ⟨[], last, rfl, .nil, hlast⟩
  | cons b as ih =>
    obtain ⟨c, rest, hc, hrest, rfl⟩ := List.forall₂_cons_left_iff.mp h
    obtain ⟨front, last, rfl, hfront, hlast⟩ := ih rest hrest
    exact ⟨c :: front, last, rfl, .cons hc hfront, hlast⟩

/-- A machine seen through a map of its states and one of its actions. -/
theorem Run.project {τ ε : Type} {S : τ → ε → τ → Prop} (h : Run R init trace s)
    (state : σ → τ) (action : ι → ε)
    (hstep : ∀ s a s', R s a s' → S (state s) (action a) (state s')) :
    Run S (state init) (trace.map fun e => (action e.1, state e.2)) (state s) := by
  induction h with
  | nil => exact .nil
  | snoc _ hr ih =>
    rw [List.map_append]
    exact ih.snoc (hstep _ _ _ hr)

/-- What holds at the end of a run but not at its beginning is the work of one
of its steps. -/
theorem Run.caused (h : Run R init trace s) (p : σ → Prop) (h0 : ¬ p init) (hs : p s) :
    ∃ before t a t' after, trace = before ++ (a, t') :: after ∧ Run R init before t ∧
      R t a t' ∧ ¬ p t ∧ p t' := by
  induction h with
  | nil => exact absurd hs h0
  | @snoc trace s s' a hrun hr ih =>
    by_cases hp : p s
    · obtain ⟨before, t, b, t', after, rfl, hstep⟩ := ih hp
      exact ⟨before, t, b, t', after ++ [(a, s')], by simp, hstep⟩
    · exact ⟨trace, s, a, s', [], rfl, hrun, hr, hp, hs⟩

/-- Related states go on in step under related actions. -/
theorem Run.lockstep {step : σ → ι → Option σ} (h : Run (Steps step) init trace s)
    (rel : σ → σ → Prop) (alike : ι → ι → Prop) {start : σ} (h0 : rel init start)
    (hstep : ∀ s t s' a b, rel s t → alike a b → step s a = some s' →
      ∃ t', step t b = some t' ∧ rel s' t')
    (bs : List ι) (hbs : List.Forall₂ alike (trace.map Prod.fst) bs) :
    ∃ image t, Run (Steps step) start image t ∧ image.map Prod.fst = bs ∧ rel s t := by
  induction h generalizing bs with
  | nil =>
    cases hbs
    exact ⟨[], start, .nil, rfl, h0⟩
  | @snoc trace s s' a _ hr ih =>
    rw [List.map_append] at hbs
    obtain ⟨front, last, rfl, hfront, hlast⟩ := forall₂_snoc _ a bs hbs
    obtain ⟨image, t, hrun, hmap, hrel⟩ := ih front hfront
    obtain ⟨t', ht, hrel'⟩ := hstep s t s' a last hrel hlast hr
    exact ⟨_, t', hrun.snoc ht, by rw [List.map_append, hmap]; rfl, hrel'⟩

section History
variable [DecidableEq β]

/-- One more observation: an absent or unchanged value adds nothing. -/
def note (h : List β) : Option β → List β
  | none => h
  | some b => if h.getLast? = some b then h else h ++ [b]

def history (observe : σ → Option β) (states : List σ) : List β :=
  states.foldl (fun h s => note h (observe s)) []

theorem history_snoc (observe : σ → Option β) (states : List σ) (s : σ) :
    history observe (states ++ [s]) = note (history observe states) (observe s) := by
  rw [history, List.foldl_append]
  rfl

end History

end ZkTls.LabelledRun
