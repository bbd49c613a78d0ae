import ZkTls.NotaryInvariant

/-!
# The capacity of the session store

Operations on the store in any order keep it within its capacity. A creation
that fails has therefore found active sessions only, and evicted none.
-/

set_option autoImplicit false

namespace ZkTls.StoreCapacity
open ZkTls.CoreTypes ZkTls.FieldExtraction ZkTls.FiniteStore ZkTls.LabelledRun
open ZkTls.NotarySessions ZkTls.NotaryMachine ZkTls.NotaryInvariant

/-- One call on the store. The three setters are the three writes. -/
inductive StoreOp where
  | create (targetHostname templateId uuid : String) (now : DateTime)
  | update (id : String) (w : Write)
  | get (id : String)
  | activeCount

/-- Identifiers are fresh, and reads change nothing. -/
def storeStep (store : SessionStore) : StoreOp → Option SessionStore
  | .create targetHostname templateId uuid now =>
    if uuid ∈ store.sessions then none
    else some (create store targetHostname templateId uuid now).1
  | .update id w => some (w.apply store id).1
  | .get _ => some store
  | .activeCount => some store

/-- A store within its capacity, every session under its own id. -/
structure Bounded (maxSessions : ℕ) (store : SessionStore) : Prop where
  capacity : store.maxSessions = maxSessions
  within : store.sessions.keys.card ≤ maxSessions
  ownId : ∀ id session, store.sessions.lookup id = some session → session.id = id

theorem active_le_size (store : SessionStore) :
    activeCount store ≤ store.sessions.keys.card :=
  Finset.card_le_card (Finset.filter_subset _ _)

theorem makeRoom_size (store : SessionStore) :
    (makeRoom store).keys.card ≤ store.sessions.keys.card := by
  unfold makeRoom
  split
  · rw [evictTerminal, keys_retain]
    exact active_le_size store
  · exact le_rfl

/-- A bounded store that stays full holds active sessions only, and making
room has changed nothing. -/
theorem makeRoom_full {maxSessions : ℕ} {store : SessionStore} (h : Bounded maxSessions store)
    (hfull : store.maxSessions ≤ (makeRoom store).keys.card) :
    makeRoom store = store.sessions ∧ activeCount store = maxSessions := by
  have hactive := full_of_room store hfull
  have hle := active_le_size store
  have hwithin := h.within
  rw [← h.capacity] at hwithin ⊢
  have hall : keysWith active store.sessions = store.sessions.keys :=
    Finset.eq_of_subset_of_card_le (Finset.filter_subset _ _) (hwithin.trans hactive)
  refine ⟨?_, le_antisymm (hle.trans hwithin) hactive⟩
  unfold makeRoom
  split
  · exact retain_all active store.sessions hall
  · rfl

theorem full_of_active {maxSessions : ℕ} {store : SessionStore} (h : Bounded maxSessions store)
    (hactive : activeCount store = maxSessions) :
    store.maxSessions ≤ (makeRoom store).keys.card := by
  have hle := active_le_size store
  rw [hactive, ← h.capacity] at hle
  rw [makeRoom, if_pos hle, evictTerminal, keys_retain, h.capacity]
  exact hactive.ge

theorem create_bounded {maxSessions : ℕ} {store : SessionStore} (h : Bounded maxSessions store)
    (targetHostname templateId uuid : String) (now : DateTime) :
    Bounded maxSessions (create store targetHostname templateId uuid now).1 := by
  have hkept : ∀ id session, (makeRoom store).lookup id = some session → session.id = id := by
    intro id session hs
    rcases lookup_makeRoom store id with heq | ⟨hnone, -⟩
    · exact h.ownId id session (heq ▸ hs)
    · cases hnone.symm.trans hs
  rw [create_eq]
  split
  · exact ⟨h.capacity, (makeRoom_size store).trans h.within, hkept⟩
  · rename_i hroom
    refine ⟨h.capacity, ?_, fun id session hs => ?_⟩
    · rw [h.capacity] at hroom
      rw [keys_insert]
      exact (Finset.card_insert_le _ _).trans (by omega)
    · rw [lookup_insert_if] at hs
      split at hs
      · cases hs
        exact (‹id = uuid›).symm
      · exact hkept id session hs

theorem apply_absent (w : Write) (store : SessionStore) (id : String)
    (h : id ∉ store.sessions) : w.apply store id = (store, .error (.sessionNotFound id)) := by
  have hnone := Finmap.lookup_eq_none.mpr h
  cases w <;> simp [Write.apply, updateState, storeResponse, storeProof, withSession, rewriteAt,
    hnone]

theorem apply_bounded {maxSessions : ℕ} {store : SessionStore} (h : Bounded maxSessions store)
    (id : String) (w : Write) : Bounded maxSessions (w.apply store id).1 := by
  cases hs : store.sessions.lookup id with
  | none =>
    rw [apply_absent w store id (Finmap.lookup_eq_none.mp hs)]
    exact h
  | some session =>
    have hmem : id ∈ store.sessions.keys :=
      Finmap.mem_keys.mpr (Finmap.mem_iff.mpr ⟨session, hs⟩)
    rw [apply_present w store id session hs]
    refine ⟨h.capacity, ?_, fun j r hr => ?_⟩
    · rw [keys_insert, Finset.insert_eq_of_mem hmem]
      exact h.within
    · rw [lookup_insert_if] at hr
      split at hr
      · rename_i hj
        cases hr
        rw [hj, ← h.ownId id session hs]
        cases w <;> rfl
      · exact h.ownId j r hr

/-- One operation keeps the store bounded. -/
theorem step_bounded {maxSessions : ℕ} {store store' : SessionStore}
    (h : Bounded maxSessions store) (op : StoreOp) (hop : storeStep store op = some store') :
    Bounded maxSessions store' := by
  cases op with
  | create targetHostname templateId uuid now =>
    simp only [storeStep] at hop
    split at hop <;> cases hop
    exact create_bounded h targetHostname templateId uuid now
  | update id w => cases hop; exact apply_bounded h id w
  | get | activeCount => cases hop; exact h

theorem new_bounded (maxSessions : ℕ) : Bounded maxSessions (new maxSessions) :=
  ⟨rfl, by simp [new], by simp [new]⟩

theorem run_bounded (maxSessions : ℕ) (trace : List (StoreOp × SessionStore))
    (store : SessionStore) (h : Run (Steps storeStep) (new maxSessions) trace store) :
    Bounded maxSessions store :=
  h.invariant _ (new_bounded maxSessions) fun _ op _ hb hop => step_bounded hb op hop

/-- The store after adding one session: it is new, no session in progress is
lost, and nothing else appears. -/
structure Adds (store store' : SessionStore) (session : NotarySession) : Prop where
  absent : store.sessions.lookup session.id = none
  added : store'.sessions.lookup session.id = some session
  kept : ∀ id old, store.sessions.lookup id = some old → old.state.terminal = false →
    store'.sessions.lookup id = some old
  only : ∀ id r, store'.sessions.lookup id = some r → id ≠ session.id →
    store.sessions.lookup id = some r

/-- The store after an update: one session changes, in what it has collected
and its state only. -/
structure Amends (store store' : SessionStore) (id : String) (session : NotarySession) :
    Prop where
  others : ∀ j, j ≠ id → store'.sessions.lookup j = store.sessions.lookup j
  same : ∃ r, store'.sessions.lookup id = some r ∧ r.id = session.id ∧
    r.targetHostname = session.targetHostname ∧ r.templateId = session.templateId ∧
    r.createdAt = session.createdAt

/-- What the store promises about its size, creations and updates. -/
structure CapacityLaw (maxSessions : ℕ) (store : SessionStore) : Prop where
  within : store.sessions.keys.card ≤ maxSessions
  ownId : ∀ id session, store.sessions.lookup id = some session → session.id = id
  createFails : ∀ targetHostname templateId uuid now,
    (create store targetHostname templateId uuid now).2 = .error (.tooManySessions maxSessions) ↔
      activeCount store = maxSessions
  failureAtomic : ∀ targetHostname templateId uuid now e,
    (create store targetHostname templateId uuid now).2 = .error e →
      e = .tooManySessions maxSessions ∧
      (create store targetHostname templateId uuid now).1 = store
  createAdds : ∀ targetHostname templateId uuid now id, uuid ∉ store.sessions →
    (create store targetHostname templateId uuid now).2 = .ok id →
      id = uuid ∧ Adds store (create store targetHostname templateId uuid now).1
        ⟨uuid, targetHostname, templateId, .initialized, now, none, none, none, none⟩
  updateUnknown : ∀ id (w : Write), id ∉ store.sessions →
    w.apply store id = (store, .error (.sessionNotFound id))
  updateKnown : ∀ id (w : Write) session, store.sessions.lookup id = some session →
    (w.apply store id).2 = .ok () ∧ Amends store (w.apply store id).1 id session

theorem create_adds (store : SessionStore) (targetHostname templateId uuid : String)
    (now : DateTime) (hfresh : uuid ∉ store.sessions) :
    Adds store
      { store with
        sessions := (makeRoom store).insert uuid
          ⟨uuid, targetHostname, templateId, .initialized, now, none, none, none, none⟩ }
      ⟨uuid, targetHostname, templateId, .initialized, now, none, none, none, none⟩ := by
  have hnone := Finmap.lookup_eq_none.mpr hfresh
  refine ⟨hnone, Finmap.lookup_insert _, fun id old hold hterm => ?_, fun id r hr hid => ?_⟩
  · have hid : id ≠ uuid := by
      rintro rfl
      cases hnone.symm.trans hold
    rw [Finmap.lookup_insert_of_ne _ hid]
    rcases lookup_makeRoom store id with heq | ⟨-, session, hs, ht⟩
    · exact heq.trans hold
    · cases hold.symm.trans hs
      cases hterm.symm.trans ht
  · rw [Finmap.lookup_insert_of_ne _ hid] at hr
    rcases lookup_makeRoom store id with heq | ⟨hgone, -⟩
    · exact heq.symm.trans hr
    · cases hgone.symm.trans hr

theorem apply_amends (store : SessionStore) (id : String) (w : Write) (session : NotarySession)
    (h : store.sessions.lookup id = some session) :
    (w.apply store id).2 = .ok () ∧ Amends store (w.apply store id).1 id session := by
  rw [apply_present w store id session h]
  refine ⟨rfl, fun j hj => Finmap.lookup_insert_of_ne _ hj, _, Finmap.lookup_insert _, ?_⟩
  cases w <;> exact ⟨rfl, rfl, rfl, rfl⟩

theorem law_of_bounded {maxSessions : ℕ} {store : SessionStore} (h : Bounded maxSessions store) :
    CapacityLaw maxSessions store where
  within := h.within
  ownId := h.ownId
  createFails targetHostname templateId uuid now := by
    rw [create_eq]
    constructor
    · intro he
      split at he
      · exact (makeRoom_full h ‹_›).2
      · cases he
    · intro hactive
      rw [if_pos (full_of_active h hactive), h.capacity]
  failureAtomic targetHostname templateId uuid now e he := by
    rw [create_eq] at he ⊢
    split at he
    · rename_i hfull
      cases he
      rw [if_pos hfull, (makeRoom_full h hfull).1]
      exact ⟨congrArg NotaryError.tooManySessions h.capacity, rfl⟩
    · cases he
  createAdds targetHostname templateId uuid now id hfresh hid := by
    rw [create_eq] at hid ⊢
    split at hid
    · cases hid
    · rename_i hroom
      cases hid
      rw [if_neg hroom]
      exact ⟨rfl, create_adds store targetHostname templateId uuid now hfresh⟩
  updateUnknown id w := apply_absent w store id
  updateKnown id w session := apply_amends store id w session

/-- Whatever the operations and their order. -/
theorem capacity_law (maxSessions : ℕ) (trace : List (StoreOp × SessionStore))
    (store : SessionStore) (h : Run (Steps storeStep) (new maxSessions) trace store) :
    CapacityLaw maxSessions store :=
  law_of_bounded (run_bounded maxSessions trace store h)

/-- A store of one session: a second creation is refused until the first
session is finished, and then takes its place. -/
theorem one_session_law :
    ∃ trace store, Run (Steps storeStep) (new 1) trace store ∧
      (store.sessions.lookup "a").isNone = true ∧ (store.sessions.lookup "b").isNone = true ∧
      (store.sessions.lookup "c").map NotarySession.state = some .initialized ∧
      CapacityLaw 1 store := by
  obtain ⟨trace, store, hrun, -, hobs⟩ := observed_run storeStep
    [.create "h" "t" "a" 0, .create "h" "t" "b" 1, .update "a" (.setState (.failed "x")),
      .get "a", .create "h" "t" "c" 2, .activeCount]
    (new 1)
    (fun store => ((store.sessions.lookup "a").isNone, (store.sessions.lookup "b").isNone,
      (store.sessions.lookup "c").map NotarySession.state))
    (true, true, some .initialized) (by decide +kernel)
  simp only [Prod.mk.injEq] at hobs
  exact ⟨trace, store, hrun, hobs.1, hobs.2.1, hobs.2.2, capacity_law 1 trace store hrun⟩

section Notary
variable {P : Platform} {N : Notary P}

theorem fresh_absent {s : State N} (hc : Consistent s) (uuid : String)
    (h : uuid ∉ s.usedIds) : uuid ∉ s.store.sessions := by
  rw [← Finmap.lookup_eq_none]
  cases hr : s.store.sessions.lookup uuid with
  | none => rfl
  | some r =>
    obtain ⟨hid, k, hk⟩ := hc.owned uuid r hr
    exact absurd (hid ▸ hc.used k r hk) h

/-- A step of the notary is at most one operation on its store. -/
theorem step_store {s s' : State N} (hc : Consistent s) (a : Action)
    (h : step s a = some s') :
    s'.store = s.store ∨ ∃ op, storeStep s.store op = some s'.store := by
  cases step_stepped a h with
  | request | getSession => exact Or.inl rfl
  | overload k uuid now job hk hfresh hfull =>
    refine Or.inr ⟨.create job.template.target.hostname job.template.id uuid now, ?_⟩
    rw [storeStep, if_neg (fresh_absent hc uuid hfresh), create_eq, if_pos hfull]
    rfl
  | create k f hk hfresh hroom =>
    refine Or.inr ⟨.create f.template.target.hostname f.template.id f.sessionId f.createdAt, ?_⟩
    rw [storeStep, if_neg (fresh_absent hc _ hfresh), create_eq, if_neg (Nat.not_le.mpr hroom)]
    rfl
  | resume k f p input w next hk hadv =>
    cases w with
    | none => exact Or.inl rfl
    | some w => exact Or.inr ⟨.update f.sessionId w, rfl⟩
  | runTask id reason => exact Or.inr ⟨.update id (.setState (.failed reason)), rfl⟩

/-- The store of a reachable notary has been through store operations only,
so it obeys the same law. -/
theorem notary_store_run (maxSessions : ℕ) (trace : List (Action × State N)) (s : State N)
    (h : Run (Steps step) (init N maxSessions) trace s) :
    ∃ ops, Run (Steps storeStep) (new maxSessions) ops s.store := by
  induction h with
  | nil => exact ⟨[], .nil⟩
  | snoc hrun hstep ih =>
    obtain ⟨ops, hops⟩ := ih
    rcases step_store (run_consistent N maxSessions _ _ hrun) _ hstep with heq | ⟨op, hop⟩
    · exact ⟨ops, heq ▸ hops⟩
    · exact ⟨_, hops.snoc hop⟩

theorem notary_step_bounded {maxSessions : ℕ} {s s' : State N} (hc : Consistent s)
    (hb : Bounded maxSessions s.store) (a : Action) (h : step s a = some s') :
    Bounded maxSessions s'.store := by
  rcases step_store hc a h with heq | ⟨op, hop⟩
  · exact heq ▸ hb
  · exact step_bounded hb op hop

theorem reachable_bounded (maxSessions : ℕ) (trace : List (Action × State N)) (s : State N)
    (h : Run (Steps step) (init N maxSessions) trace s) : Bounded maxSessions s.store := by
  obtain ⟨ops, hops⟩ := notary_store_run maxSessions trace s h
  exact run_bounded maxSessions ops s.store hops

theorem notary_capacity (maxSessions : ℕ) (trace : List (Action × State N)) (s : State N)
    (h : Run (Steps step) (init N maxSessions) trace s) : CapacityLaw maxSessions s.store :=
  law_of_bounded (reachable_bounded maxSessions trace s h)

end Notary

end ZkTls.StoreCapacity
