import ZkTls.HandlerProgress

/-!
# Where the plaintext is

A response body is in the store while its handler judges and signs it, and for
good once it was turned down. The account is exact, both of which bodies the
store holds and of how many.
-/

set_option autoImplicit false

namespace ZkTls.PlaintextCensus
open ZkTls.JsonTree ZkTls.JsonText ZkTls.CoreTypes ZkTls.FiniteStore ZkTls.LabelledRun
open ZkTls.NotarizeResponse ZkTls.NotarySessions ZkTls.NotaryMachine ZkTls.NotaryInvariant
open ZkTls.RecordedPlatform ZkTls.SessionLifecycle ZkTls.SessionLeaks ZkTls.SessionAccounting
open ZkTls.HandlerProgress ZkTls.SessionIsolation

variable {P : Platform} {N : Notary P}

/-- The body a handler has left in the record of its session. -/
def Stage.plaintext : Stage N → Option String
  | .live _ (.stored body) => some body
  | .live _ (.signed body _ _ _ _) => some body
  | .returned _ (.rejected body _ _ _) => some body
  | _ => none

def Stage.judging : Stage N → Bool
  | .live _ (.stored _) => true
  | .live _ (.signed _ _ _ _ _) => true
  | _ => false

def Stage.rejected : Stage N → Bool
  | .returned _ (.rejected _ _ _ _) => true
  | _ => false

/-- The sessions in the store with a response body. -/
def plaintexts (s : State N) : Finset String :=
  keysWith (fun r => r.responseBody.isSome) s.store.sessions

/-- The handlers between storing a body and storing its proof. -/
def judging (s : State N) : Finset ℕ := keysWith Stage.judging s.handlers

/-- The handlers that have turned a body down. -/
def rejections (s : State N) : Finset ℕ := keysWith Stage.rejected s.handlers

theorem stage_plaintext (tasks : List (String × String)) (stage : Stage N) :
    (Stage.record tasks stage).bind NotarySession.responseBody = Stage.plaintext stage := by
  cases stage with
  | refused | creating => rfl
  | live f p => cases p <;> rfl
  | returned f x => cases x <;> rfl

/-- No finished session has a body. -/
theorem plaintext_active (tasks : List (String × String)) (stage : Stage N) (r : NotarySession)
    (hr : Stage.record tasks stage = some r) (body : String) (hbody : r.responseBody = some body) :
    r.state.terminal = false := by
  have hplain : Stage.plaintext stage = some body := by
    rw [← stage_plaintext tasks stage, hr]
    exact hbody
  unfold Stage.plaintext at hplain
  split at hplain <;> cases hplain <;> cases hr
  · rfl
  · rfl
  · rfl

theorem stage_counted (tasks : List (String × String)) (stage : Stage N) :
    ((Stage.record tasks stage).any fun r => r.responseBody.isSome).toNat =
      (Stage.judging stage).toNat + (Stage.rejected stage).toNat := by
  cases stage with
  | refused | creating => rfl
  | live f p => cases p <;> rfl
  | returned f x => cases x <;> rfl

section Reachable
variable {s : State N}

theorem expected_plaintext (hc : Consistent s) (k : ℕ) (r : NotarySession)
    (hk : expected s k = some r) (body : String) (hbody : r.responseBody = some body) :
    s.store.sessions.lookup r.id = some r := by
  obtain ⟨stage, hstage, hr⟩ := Option.bind_eq_some_iff.mp hk
  exact (hc.held k r hk).active (plaintext_active s.tasks stage r hr body hbody)

/-- The store holds the bodies that handlers have left in it, and no other. -/
theorem plaintext_held (hc : Consistent s) (id body : String) :
    (s.store.sessions.lookup id).bind NotarySession.responseBody = some body ↔
      ∃ k stage f, s.handlers.lookup k = some stage ∧ Stage.fetch stage = some f ∧
        f.sessionId = id ∧ Stage.plaintext stage = some body := by
  constructor
  · intro h
    obtain ⟨r, hr, hbody⟩ := Option.bind_eq_some_iff.mp h
    obtain ⟨rfl, k, hk⟩ := hc.owned id r hr
    obtain ⟨stage, hstage, hrec⟩ := Option.bind_eq_some_iff.mp hk
    have hplain : Stage.plaintext stage = some body := by
      rw [← stage_plaintext s.tasks stage, hrec]
      exact hbody
    cases stage with
    | refused | creating => cases hrec
    | live f p =>
      cases hrec
      exact ⟨k, _, f, hstage, rfl, (phase_record_id p).symm, hplain⟩
    | returned f x =>
      cases hrec
      exact ⟨k, _, f, hstage, rfl, (exit_record_id _ x).symm, hplain⟩
  · rintro ⟨k, stage, f, hk, hf, rfl, hplain⟩
    rw [← stage_plaintext s.tasks stage] at hplain
    obtain ⟨r, hr, hbody⟩ := Option.bind_eq_some_iff.mp hplain
    have hid : r.id = f.sessionId := by
      cases stage with
      | refused | creating => cases hf
      | live g p => cases hf; cases hr; exact phase_record_id p
      | returned g x => cases hf; cases hr; exact exit_record_id _ x
    have hlookup := expected_plaintext hc k r ((account_stage hk s.tasks).trans hr) body hbody
    rw [← hid, hlookup]
    exact hbody

theorem plaintext_count (hc : Consistent s) :
    (plaintexts s).card = (judging s).card + (rejections s).card := by
  have hactive : ∀ k r, expected s k = some r → r.responseBody.isSome = true →
      r.state.terminal = false := by
    intro k r hk hsome
    obtain ⟨stage, hstage, hr⟩ := Option.bind_eq_some_iff.mp hk
    obtain ⟨body, hbody⟩ := Option.isSome_iff_exists.mp hsome
    exact plaintext_active s.tasks stage r hr body hbody
  rw [plaintexts, accounting_card hc _ hactive, card_keysWith,
    total_split _ _ _ _ fun _ stage _ => stage_counted s.tasks stage, ← card_keysWith,
    ← card_keysWith]
  rfl

end Reachable

/-- Which plaintexts the store holds, how many, and which of them it will
always hold. -/
structure PlaintextAccounted (s : State N) : Prop where
  held : ∀ id body, (s.store.sessions.lookup id).bind NotarySession.responseBody = some body ↔
    ∃ k stage f, s.handlers.lookup k = some stage ∧ Stage.fetch stage = some f ∧
      f.sessionId = id ∧ Stage.plaintext stage = some body
  count : (plaintexts s).card = (judging s).card + (rejections s).card
  forGood : ∀ after t, Run (Steps step) s after t → rejections s ⊆ rejections t ∧
    ∀ k f body clock r h, s.handlers.lookup k = some (.returned f (.rejected body clock r h)) →
      (t.store.sessions.lookup f.sessionId).bind NotarySession.responseBody = some body

/-- Plaintext is kept exactly while it is judged and signed, and for ever when
it was turned down. -/
theorem plaintext_accounted (N : Notary P) (maxSessions : ℕ) (trace : List (Action × State N))
    (s : State N) (h : Run (Steps step) (init N maxSessions) trace s) : PlaintextAccounted s where
  held := plaintext_held (run_consistent N maxSessions trace s h)
  count := plaintext_count (run_consistent N maxSessions trace s h)
  forGood after t hrun := by
    have hc := run_consistent N maxSessions _ t (h.trans hrun)
    constructor
    · intro k hk
      obtain ⟨stage, hstage, hrejected⟩ := (mem_keysWith _ _ _).mp hk
      have hdone : (Stage.answer stage).isSome = true := by
        unfold Stage.rejected at hrejected
        split at hrejected
        · rfl
        · cases hrejected
      exact (mem_keysWith _ _ _).mpr
        ⟨stage, (run_answered hrun k stage hstage hdone).1, hrejected⟩
    · intro k f body clock r hrefused hk
      exact (plaintext_held hc f.sessionId body).mpr
        ⟨k, _, f, (run_answered hrun k _ hk rfl).1, rfl, rfl, rfl⟩

/-- One body turned down and one about to be judged. -/
def twoBodies : List Action :=
  emptyBodyRun ++
    [.request 1 ⟨"utah-voter-v1", none, none⟩,
      .create 1 secondId noon.proofTime, .resume 1 .proceed,
      .resume 1 .clientBuilt, .resume 1 .csrfFailed, .resume 1 .proceed,
      .resume 1 (.status 200 "https://votesearch.utah.gov/"),
      .resume 1 (.text (.ok (display (.object [])))), .resume 1 .proceed]

theorem two_bodies_accounted :
    ∃ trace s, Run (Steps step) (init emptyNotary 2) trace s ∧ (plaintexts s).card = 2 ∧
      (judging s).card = 1 ∧ (rejections s).card = 1 ∧ PlaintextAccounted s := by
  obtain ⟨trace, s, hrun, -, hobs⟩ := observed_run step twoBodies (init emptyNotary 2)
    (fun s => ((plaintexts s).card, (judging s).card, (rejections s).card)) (2, 1, 1)
    (by decide +kernel)
  simp only [Prod.mk.injEq] at hobs
  exact ⟨trace, s, hrun, hobs.1, hobs.2.1, hobs.2.2,
    plaintext_accounted emptyNotary 2 trace s hrun⟩

end ZkTls.PlaintextCensus
