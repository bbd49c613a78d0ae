import ZkTls.FieldExtraction
import ZkTls.FiniteStore

/-!
# The session store

Session records under their identifiers, with a capacity. Creation at
capacity first drops every terminal session; the three updates rewrite one
record in place and report a missing one.
-/

set_option autoImplicit false

namespace ZkTls.NotarySessions
open ZkTls.CoreTypes ZkTls.FieldExtraction ZkTls.FiniteStore

inductive SessionState where
  | initialized
  | fetching
  | committing
  | completed
  | failed (reason : String)
  deriving DecidableEq

def SessionState.terminal : SessionState → Bool
  | .completed => true
  | .failed _ => true
  | _ => false

structure NotarySession where
  id : String
  targetHostname : String
  templateId : String
  state : SessionState
  createdAt : DateTime
  responseBody : Option String
  certificateHash : Option Bytes
  proof : Option SessionProof
  attestation : Option Attestation

abbrev Sessions := Store String NotarySession

structure SessionStore where
  sessions : Sessions
  maxSessions : ℕ

def new (maxSessions : ℕ) : SessionStore := ⟨∅, maxSessions⟩

def active (s : NotarySession) : Bool := !s.state.terminal

def evictTerminal (sessions : Sessions) : Sessions := retain active sessions

def create (store : SessionStore) (targetHostname templateId uuid : String)
    (now : DateTime) : SessionStore × Except NotaryError String :=
  let session : NotarySession :=
    { id := uuid
      targetHostname := targetHostname
      templateId := templateId
      state := .initialized
      createdAt := now
      responseBody := none
      certificateHash := none
      proof := none
      attestation := none }
  if store.maxSessions ≤ store.sessions.keys.card then
    let sessions := evictTerminal store.sessions
    if store.maxSessions ≤ sessions.keys.card then
      ({ store with sessions := sessions }, .error (.tooManySessions store.maxSessions))
    else ({ store with sessions := sessions.insert uuid session }, .ok uuid)
  else ({ store with sessions := store.sessions.insert uuid session }, .ok uuid)

def get (store : SessionStore) (id : String) : Except NotaryError NotarySession :=
  match store.sessions.lookup id with
  | some session => .ok session
  | none => .error (.sessionNotFound id)

/-- The update the three setters share. -/
def withSession (store : SessionStore) (id : String)
    (f : NotarySession → NotarySession) : SessionStore × Except NotaryError Unit :=
  match rewriteAt id f store.sessions with
  | some sessions => ({ store with sessions := sessions }, .ok ())
  | none => (store, .error (.sessionNotFound id))

def updateState (store : SessionStore) (id : String) (state : SessionState) :
    SessionStore × Except NotaryError Unit :=
  withSession store id fun session => { session with state := state }

def storeResponse (store : SessionStore) (id body : String) (certHash : Bytes) :
    SessionStore × Except NotaryError Unit :=
  withSession store id fun session =>
    { session with responseBody := some body, certificateHash := some certHash }

def storeProof (store : SessionStore) (id : String) (proof : SessionProof)
    (attestation : Attestation) : SessionStore × Except NotaryError Unit :=
  withSession store id fun session =>
    { session with
      proof := some proof
      attestation := some attestation
      responseBody := none
      state := .completed }

def activeCount (store : SessionStore) : ℕ := (keysWith active store.sessions).card

/-- What creation leaves in the store before it decides. -/
def makeRoom (store : SessionStore) : Sessions :=
  if store.maxSessions ≤ store.sessions.keys.card then evictTerminal store.sessions
  else store.sessions

/-- Creation makes room, then either fails or inserts a fresh record. -/
theorem create_eq (store : SessionStore) (targetHostname templateId uuid : String)
    (now : DateTime) :
    create store targetHostname templateId uuid now =
      if store.maxSessions ≤ (makeRoom store).keys.card then
        ({ store with sessions := makeRoom store },
          .error (.tooManySessions store.maxSessions))
      else
        ({ store with
            sessions := (makeRoom store).insert uuid
              ⟨uuid, targetHostname, templateId, .initialized, now, none, none, none, none⟩ },
          .ok uuid) := by
  unfold create makeRoom
  by_cases h : store.maxSessions ≤ store.sessions.keys.card
  · simp only [if_pos h]
  · simp only [if_neg h]

/-- Making room loses terminal sessions only. -/
theorem lookup_makeRoom (store : SessionStore) (id : String) :
    (makeRoom store).lookup id = store.sessions.lookup id ∨
    ((makeRoom store).lookup id = none ∧
      ∃ session, store.sessions.lookup id = some session ∧ session.state.terminal = true) := by
  unfold makeRoom
  split
  · rw [evictTerminal, lookup_retain]
    cases hl : store.sessions.lookup id with
    | none => exact Or.inl rfl
    | some session =>
      by_cases ht : session.state.terminal = true
      · exact Or.inr ⟨by simp [active, ht], session, rfl, ht⟩
      · exact Or.inl (by simp [active, ht])
  · exact Or.inl rfl

/-- A full store after eviction holds active sessions only. -/
theorem full_of_room (store : SessionStore)
    (h : store.maxSessions ≤ (makeRoom store).keys.card) :
    store.maxSessions ≤ activeCount store := by
  unfold makeRoom at h
  split at h
  · rwa [evictTerminal, keys_retain] at h
  · contradiction

theorem withSession_present (store : SessionStore) (id : String)
    (f : NotarySession → NotarySession) (session : NotarySession)
    (h : store.sessions.lookup id = some session) :
    withSession store id f =
      ({ store with sessions := store.sessions.insert id (f session) }, .ok ()) := by
  simp [withSession, rewriteAt, h]

theorem withSession_capacity (store : SessionStore) (id : String)
    (f : NotarySession → NotarySession) :
    (withSession store id f).1.maxSessions = store.maxSessions := by
  unfold withSession
  split <;> rfl

end ZkTls.NotarySessions
