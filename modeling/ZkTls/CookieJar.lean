import ZkTls.FiniteStore
import ZkTls.LastMatch
import Mathlib.Data.List.DropRight

/-!
# A cookie jar for one host and path

The user agent side of the cookie protocol, without attributes: a header is
cut at the first semicolon and the first equals sign, both parts are trimmed,
and the latest value of a name is kept.
-/

set_option autoImplicit false

namespace ZkTls.CookieJar
open ZkTls.FiniteStore ZkTls.LastMatch

abbrev Octets := List UInt8

/-- A space or a tab. -/
def blank (b : UInt8) : Bool := b == 0x20 || b == 0x09

def trim (s : Octets) : Octets := (s.dropWhile blank).rdropWhile blank

/-- The part of a header before its attributes. -/
def cookiePair (header : Octets) : Octets := header.takeWhile (· != 0x3b)

/-- The name and the value a header asks to store. -/
def setCookie (header : Octets) : Option (Octets × Octets) :=
  let pair := cookiePair header
  let name := trim (pair.takeWhile (· != 0x3d))
  if 0x3d ∈ pair ∧ name ≠ [] then
    some (name, trim ((pair.dropWhile (· != 0x3d)).drop 1))
  else none

abbrev Jar := Store Octets Octets

def receive (jar : Jar) (header : Octets) : Jar :=
  match setCookie header with
  | some cookie => jar.insert cookie.1 cookie.2
  | none => jar

/-- The jar after all headers of a response. -/
def jarAfter (headers : List Octets) : Jar := headers.foldl receive ∅

/-- The value a header files under a name. -/
def filed (name header : Octets) : Option Octets :=
  ((setCookie header).filter fun cookie => cookie.1 = name).map Prod.snd

theorem lookup_receive (jar : Jar) (header name : Octets) :
    (receive jar header).lookup name = (filed name header).or (jar.lookup name) := by
  unfold receive filed
  cases setCookie header with
  | none => rfl
  | some cookie =>
    rw [Option.filter_some, lookup_insert_if]
    by_cases h : cookie.1 = name
    · simp [h]
    · simp [h, Ne.symm h]

/-- The jar holds what the last header of that name filed. -/
theorem lookup_jarAfter (headers : List Octets) (name : Octets) :
    (jarAfter headers).lookup name = lastMatch (filed name) headers := by
  have run : ∀ jar : Jar, (headers.foldl receive jar).lookup name =
      (lastMatch (filed name) headers).or (jar.lookup name) := by
    induction headers with
    | nil => exact fun jar => rfl
    | cons header headers ih =>
      intro jar
      rw [List.foldl_cons, ih, lookup_receive, lastMatch, Option.or_assoc]
  rw [jarAfter, run]
  simp

/-- Names that a header can carry unchanged. -/
structure ProperName (name : Octets) : Prop where
  nonempty : name ≠ []
  noEquals : 0x3d ∉ name
  noSemicolon : 0x3b ∉ name
  trimmed : trim name = name

theorem trim_subset (s : Octets) : trim s ⊆ s := by
  intro b hb
  exact (List.dropWhile_suffix _).subset ((List.rdropWhile_prefix _ _).subset hb)

/-- A prefix of a text that starts without a blank starts without one. -/
theorem dropWhile_of_prefix (p : UInt8 → Bool) (s t : Octets) (h : s <+: t)
    (ht : t.dropWhile p = t) : s.dropWhile p = s := by
  obtain ⟨u, rfl⟩ := h
  cases s with
  | nil => rfl
  | cons b s =>
    rw [List.dropWhile_eq_self_iff] at ht ⊢
    exact fun _ => ht (by simp)

theorem trim_trim (s : Octets) : trim (trim s) = trim s := by
  have hfront : (trim s).dropWhile blank = trim s :=
    dropWhile_of_prefix blank _ _ (List.rdropWhile_prefix _ _) (List.dropWhile_idempotent _ _)
  rw [trim, hfront, trim, List.rdropWhile_idempotent]

/-- Only proper names are ever filed. -/
theorem filed_proper (name header value : Octets) (h : filed name header = some value) :
    ProperName name := by
  obtain ⟨cookie, hcookie, rfl⟩ := Option.map_eq_some_iff.mp h
  obtain ⟨hset, hname⟩ := Option.filter_eq_some_iff.mp hcookie
  obtain rfl : cookie.1 = name := by simpa using hname
  unfold setCookie at hset
  simp only at hset
  split_ifs at hset with hpair
  obtain rfl := Option.some.inj hset
  refine ⟨hpair.2, fun hmem => ?_, fun hmem => ?_, trim_trim _⟩
  · simpa using List.mem_takeWhile_imp (trim_subset _ hmem)
  · have hpairmem := (List.takeWhile_prefix _).subset (trim_subset _ hmem)
    simpa using List.mem_takeWhile_imp hpairmem

theorem all_ne (s : Octets) (stop : UInt8) (hs : stop ∉ s) : ∀ b ∈ s, (b != stop) = true := by
  intro b hb
  exact bne_iff_ne.mpr fun heq => hs (heq ▸ hb)

theorem takeWhile_ne (s t : Octets) (stop : UInt8) (hs : stop ∉ s) :
    (s ++ stop :: t).takeWhile (· != stop) = s := by
  rw [List.takeWhile_append_of_pos (all_ne s stop hs)]
  simp

theorem dropWhile_ne (s t : Octets) (stop : UInt8) (hs : stop ∉ s) :
    (s ++ stop :: t).dropWhile (· != stop) = stop :: t := by
  rw [List.dropWhile_append_of_pos (all_ne s stop hs)]
  simp

/-- A header that carries a proper name unchanged files its trimmed value. -/
theorem filed_pair (name value header : Octets) (hname : ProperName name)
    (hpair : cookiePair header = name ++ 0x3d :: value) :
    filed name header = some (trim value) := by
  have hset : setCookie header = some (name, trim value) := by
    unfold setCookie
    simp only [hpair, takeWhile_ne name value 0x3d hname.noEquals,
      dropWhile_ne name value 0x3d hname.noEquals, hname.trimmed]
    simp [hname.nonempty]
  simp [filed, hset]

end ZkTls.CookieJar
