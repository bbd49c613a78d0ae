import ZkTls.SessionIsolation
import ZkTls.StoreCapacity

/-!
# Reading a finished session

Reads from the session endpoint interleave with creations that evict finished
sessions. A finished session reads the same until a creation that finds the
store full evicts it, and is not found ever after.
-/

set_option autoImplicit false

namespace ZkTls.SessionReads
open ZkTls.JsonText ZkTls.CoreTypes ZkTls.FieldExtraction ZkTls.FiniteStore ZkTls.LabelledRun
open ZkTls.NotarySessions ZkTls.NotaryMachine ZkTls.NotaryInvariant ZkTls.RecordedPlatform
open ZkTls.SessionLifecycle ZkTls.SessionIsolation ZkTls.StoreCapacity

variable {P : Platform} {N : Notary P}

/-- The session endpoint. -/
def getSession (s : State N) (id : String) : Except ErrorReply NotarySession :=
  match NotarySessions.get s.store id with
  | .ok session => .ok session
  | .error e => .error ⟨404, e.toString⟩

def notFound (id : String) : ErrorReply := ⟨404, (NotaryError.sessionNotFound id).toString⟩

theorem getSession_ok (s : State N) (id : String) (r : NotarySession) :
    getSession s id = .ok r ↔ s.store.sessions.lookup id = some r := by
  unfold getSession NotarySessions.get
  cases s.store.sessions.lookup id <;> simp

theorem getSession_absent (s : State N) (id : String) (h : s.store.sessions.lookup id = none) :
    getSession s id = .error (notFound id) := by
  rw [getSession, get_of_absent h]
  rfl

/-- A creation that finds the store full and takes the place of finished
sessions. -/
def Evicts (s : State N) (a : Action) (s' : State N) : Prop :=
  s.store.maxSessions ≤ s.store.sessions.keys.card ∧
    ∃ k f, a = .create k f.sessionId f.createdAt ∧
      s'.handlers.lookup k = some (.live f .created)

theorem makeRoom_drops (store : SessionStore) (id : String) (r : NotarySession)
    (h : store.sessions.lookup id = some r) :
    (makeRoom store).lookup id = some r ∨
      (makeRoom store).lookup id = none ∧ store.maxSessions ≤ store.sessions.keys.card := by
  rcases lookup_makeRoom store id with hsame | ⟨hgone, -⟩
  · exact Or.inl (hsame.trans h)
  · by_cases hfull : store.maxSessions ≤ store.sessions.keys.card
    · exact Or.inr ⟨hgone, hfull⟩
    · rw [makeRoom, if_neg hfull, h] at hgone
      cases hgone

/-- A finished session is left alone by every step but an eviction. -/
theorem step_finished {maxSessions : ℕ} {s s' : State N} (hc : Consistent s)
    (hb : Bounded maxSessions s.store) (a : Action) (h : step s a = some s') (id : String)
    (r : NotarySession) (hr : s.store.sessions.lookup id = some r)
    (hdone : r.state.terminal = true) :
    s'.store.sessions.lookup id = some r ∨
      s'.store.sessions.lookup id = none ∧ Evicts s a s' := by
  cases step_stepped a h with
  | request | getSession => exact Or.inl hr
  | overload k uuid now job hk hfresh hfull =>
    -- a refused creation has found active sessions only
    left
    rw [State.overloaded, (makeRoom_full hb hfull).1]
    exact hr
  | create k f hk hfresh hroom =>
    have hid : id ≠ f.sessionId := by
      rintro rfl
      rw [Finmap.lookup_eq_none.mpr (fresh_absent hc _ hfresh)] at hr
      cases hr
    rw [State.opened, Finmap.lookup_insert_of_ne _ hid]
    exact (makeRoom_drops s.store id r hr).imp_right fun h =>
      ⟨h.1, h.2, k, f, rfl, Finmap.lookup_insert _⟩
  | resume k f p input w next hk hadv =>
    left
    rw [resumed_lookup hc k p hk input w next (advance_moves p input w next hadv)]
    split
    · rename_i hid
      -- the record of a running handler is not finished
      rw [hid, (live_present hc k f p hk).2] at hr
      cases hr
      rw [phase_record_active] at hdone
      cases hdone
    · exact hr
  | runTask tid reason ht =>
    left
    obtain ⟨k, f, x, hk, rfl, hx, -, hpresent⟩ := task_present hc tid reason ht
    rw [failed_lookup s x reason hx hpresent]
    split
    · rename_i hid
      rw [hid, hpresent] at hr
      cases hr
      rw [(exit_record_failed x reason hx).2] at hdone
      cases hdone
    · exact hr

/-- An identifier that was handed out and is no longer in the store never
comes back. -/
theorem step_gone {s s' : State N} (hc : Consistent s) (a : Action) (h : step s a = some s')
    (id : String) (hused : id ∈ s.usedIds) (hgone : s.store.sessions.lookup id = none) :
    id ∈ s'.usedIds ∧ s'.store.sessions.lookup id = none := by
  refine ⟨usedIds_mono a h id hused, ?_⟩
  have hroom : (makeRoom s.store).lookup id = none := by
    rcases lookup_makeRoom s.store id with hsame | ⟨hnone, -⟩
    · exact hsame.trans hgone
    · exact hnone
  cases step_stepped a h with
  | request | getSession => exact hgone
  | overload => exact hroom
  | create k f hk hfresh =>
    have hid : id ≠ f.sessionId := fun hid => hfresh (hid ▸ hused)
    rw [State.opened, Finmap.lookup_insert_of_ne _ hid]
    exact hroom
  | resume k f p input w next hk hadv =>
    rw [resumed_lookup hc k p hk input w next (advance_moves p input w next hadv), if_neg]
    · exact hgone
    · rintro rfl
      rw [(live_present hc k f p hk).2] at hgone
      cases hgone
  | runTask tid reason ht =>
    obtain ⟨k, f, x, hk, rfl, hx, -, hpresent⟩ := task_present hc tid reason ht
    rw [failed_lookup s x reason hx hpresent, if_neg]
    · exact hgone
    · rintro rfl
      rw [hpresent] at hgone
      cases hgone

/-- What a record says about the reply its handler gave. -/
def Agrees (r : NotarySession) : Except ErrorReply NotarizeReply → Prop
  | .ok reply => r.id = reply.sessionId ∧ r.state = .completed ∧ r.proof = some reply.proof ∧
      r.attestation = some reply.attestation ∧ r.responseBody = none
  | .error e => r.proof = none ∧ r.attestation = none ∧
      (r.state.terminal = true → r.state = .failed e.error)

theorem exit_record_agrees {f : Fetch N} (b : Bool) (x : Exit f) :
    Agrees (x.record b) x.reply := by
  cases x with
  | completed body clock proof attestation issued => exact ⟨rfl, rfl, rfl, rfl, rfl⟩
  | fetchFailed e | badStatus code url bytes =>
    cases b with
    | true => exact ⟨rfl, rfl, fun h => by cases h⟩
    | false => exact ⟨rfl, rfl, fun _ => rfl⟩
  | clientFailed | unreadable | rejected => exact ⟨rfl, rfl, fun h => by cases h⟩

/-- A session reads as its handler replied. Once finished it reads the same
until a creation evicts it, and is not found from then on. -/
theorem replies_read_back (N : Notary P) (maxSessions : ℕ) (trace : List (Action × State N))
    (s : State N) (h : Run (Steps step) (init N maxSessions) trace s) (k : ℕ) (f : Fetch N)
    (x : Exit f) (hk : s.handlers.lookup k = some (.returned f x)) (r : NotarySession)
    (hr : getSession s f.sessionId = .ok r) :
    Agrees r x.reply ∧ (r.state.terminal = true → ∀ after t, Run (Steps step) s after t →
      Lasts (Steps step) (fun u => getSession u f.sessionId = .ok r)
        (fun u => getSession u f.sessionId = .error (notFound f.sessionId)) Evicts s after t) := by
  have hc := run_consistent N maxSessions trace s h
  have hexp : expected s k = some _ := account_stage hk s.tasks
  have hused := hc.used k _ hexp
  have hheld := hc.held k _ hexp
  rw [exit_record_id] at hused hheld
  rw [getSession_ok] at hr
  rw [hr] at hheld
  refine ⟨?_, fun hdone after t hrun => ?_⟩
  · cases hheld.present
    exact exit_record_agrees _ x
  · refine hrun.lasts
      (fun u => Consistent u ∧ Bounded maxSessions u.store ∧ f.sessionId ∈ u.usedIds)
      ⟨hc, reachable_bounded maxSessions trace s h, hused⟩
      (fun u a u' ⟨hcu, hbu, hu⟩ hstep => ⟨step_consistent a hcu hstep,
        notary_step_bounded hcu hbu a hstep, usedIds_mono a hstep _ hu⟩)
      ((getSession_ok s _ r).mpr hr) (fun u a u' ⟨hcu, hbu, _⟩ hread hstep => ?_)
      fun u a u' ⟨hcu, _, hu⟩ hgone hstep => ?_
    · rw [getSession_ok] at hread ⊢
      refine (step_finished hcu hbu a hstep _ r hread hdone).imp_right fun ⟨hgone, hevicts⟩ => ?_
      exact ⟨getSession_absent u' _ hgone, hevicts⟩
    · refine getSession_absent u' _ (step_gone hcu a hstep _ hu ?_).2
      cases hl : u.store.sessions.lookup f.sessionId with
      | none => rfl
      | some q =>
        rw [(getSession_ok u _ q).mpr hl] at hgone
        cases hgone

/-- The state in which the session of a handler that replied is read. -/
def readState (s : State N) (k : ℕ) : Option SessionState :=
  match s.handlers.lookup k with
  | some (.returned f _) => stateOf f.sessionId s
  | _ => none

theorem readState_some (s : State N) (k : ℕ) (a : SessionState) (h : readState s k = some a) :
    ∃ f x r, s.handlers.lookup k = some (.returned f x) ∧ getSession s f.sessionId = .ok r ∧
      r.state = a := by
  unfold readState at h
  split at h
  · rename_i f x hk
    obtain ⟨r, hr, hstate⟩ := Option.map_eq_some_iff.mp h
    exact ⟨f, x, r, hk, (getSession_ok s _ r).mpr hr, hstate⟩
  · cases h

/-- A completed session, read back and then evicted by the next request. -/
theorem active_voter_read_back :
    ∃ trace s f x r, Run (Steps step) (init (shippedNotary activeRecording) 1) trace s ∧
      s.handlers.lookup 0 = some (.returned f x) ∧ getSession s f.sessionId = .ok r ∧
      r.state = .completed ∧ Agrees r x.reply ∧
      ∃ after t, Run (Steps step) s after t ∧ readState t 0 = none ∧
        Lasts (Steps step) (fun u => getSession u f.sessionId = .ok r)
          (fun u => getSession u f.sessionId = .error (notFound f.sessionId)) Evicts s after t := by
  obtain ⟨trace, s, hrun, -, hobs⟩ := observed_run step
    (voterRun activeText ++ [.resume 0 .proceed])
    (init (shippedNotary activeRecording) 1)
    (fun s => (readState s 0, (exec step s
      [.getSession firstId, .request 1 ⟨"utah-voter-v1", none, none⟩,
        .create 1 secondId noon.proofTime,
        .getSession firstId]).map (readState · 0)))
    (some .completed, some none) (by decide +kernel)
  rw [Prod.mk.injEq] at hobs
  obtain ⟨f, x, r, hk, hr, hstate⟩ := readState_some s 0 _ hobs.1
  obtain ⟨t, ht, hgone⟩ := Option.map_eq_some_iff.mp hobs.2
  obtain ⟨after, hafter, -⟩ := run_of_exec step _ s t ht
  obtain ⟨hagrees, hlasts⟩ := replies_read_back (shippedNotary activeRecording) 1 trace s hrun 0 f
    x hk r hr
  exact ⟨trace, s, f, x, r, hrun, hk, hr, hstate, hagrees, after, t, hafter, hgone,
    hlasts (by rw [hstate]; rfl) after t hafter⟩

end ZkTls.SessionReads
