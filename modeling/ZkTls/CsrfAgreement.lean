import ZkTls.CookieJar
import ZkTls.NotaryMachine

/-!
# The token header against the cookie jar

The handler reads its token from the raw headers, the jar from parsed ones.
They agree on a response exactly when no header after the last token puts
another value into the jar and the token survives the jar's trimming.
-/

set_option autoImplicit false

namespace ZkTls.CsrfAgreement
open ZkTls.CoreTypes ZkTls.VerificationTemplates ZkTls.LastMatch ZkTls.CookieJar
open ZkTls.NotaryMachine

/-- Visible ASCII, or a tab. -/
def visible (b : UInt8) : Bool := (0x20 ≤ b && b < 0x7f) || b == 0x09

/-- A header value as text, if all of it is visible. -/
def toStr (header : Bytes) : Option String :=
  if header.all visible then
    some (String.ofList (header.map fun b => Char.ofNat b.toNat))
  else none

def cookiePrefix (cfg : CsrfConfig) : String := cfg.cookieName ++ "="

/-- The header name and token a single cookie header yields. -/
def tokenOf (cfg : CsrfConfig) (header : Option String) : Option (String × String) :=
  header.bind fun val =>
    let start := (cookiePrefix cfg).toList
    let value := (val.toList.drop start.length).takeWhile (· != ';')
    if start.isPrefixOf val.toList ∧ value ≠ [] then
      some (cfg.headerName, String.ofList value)
    else none

/-- The loop returns the last token. -/
theorem csrfToken_lastMatch (cfg : CsrfConfig) (setCookies : List (Option String)) :
    csrfToken cfg setCookies = lastMatch (tokenOf cfg) setCookies := by
  unfold csrfToken
  rw [foldl_lastMatch (tokenOf cfg), Option.or_none]
  intro acc header
  cases header with
  | none => rfl
  | some val =>
    simp only [tokenOf, cookiePrefix, Option.bind_some]
    split_ifs <;> simp_all

theorem visible_encode (b : UInt8) (h : visible b = true) :
    String.utf8EncodeChar (Char.ofNat b.toNat) = [b] := by
  have hb : b.toNat < 0x80 := by
    simp [visible, UInt8.le_iff_toNat_le, UInt8.lt_iff_toNat_lt, ← UInt8.toNat_inj] at h
    omega
  have hc : (Char.ofNat b.toNat).toNat = b.toNat := by
    rw [Char.ofNat, dif_pos (Or.inl (by omega))]
    rfl
  rw [utf8EncodeChar_ascii _ (by rw [hc]; exact hb), hc, UInt8.ofNat_toNat]

theorem toStr_bytes (header : Bytes) (val : String) (h : toStr header = some val) :
    asBytes val = header := by
  unfold toStr at h
  split_ifs at h with hall
  cases h
  rw [asBytes, String.toList_ofList]
  induction header with
  | nil => rfl
  | cons b header ih =>
    rw [List.all_cons, Bool.and_eq_true] at hall
    rw [List.map_cons, List.flatMap_cons, visible_encode b hall.1, ih hall.2,
      List.singleton_append]

/-- Where a token stands in its header. -/
theorem token_bytes (cfg : CsrfConfig) (header : Bytes) (h t : String)
    (htok : tokenOf cfg (toStr header) = some (h, t)) :
    h = cfg.headerName ∧ t ≠ "" ∧ 0x3b ∉ asBytes t ∧
      ∃ rest, header = asBytes cfg.cookieName ++ 0x3d :: (asBytes t ++ rest) ∧
        (rest = [] ∨ ∃ r, rest = 0x3b :: r) := by
  obtain ⟨val, hval, hif⟩ := Option.bind_eq_some_iff.mp htok
  simp only at hif
  split_ifs at hif with hcond
  obtain ⟨hstart, hne⟩ := hcond
  obtain ⟨rfl, rfl⟩ := Prod.mk.inj (Option.some.inj hif)
  obtain ⟨r, hr⟩ := List.isPrefixOf_iff_prefix.mp hstart
  rw [← hr, List.drop_left] at hne ⊢
  have hsemi : ';' ∉ r.takeWhile (· != ';') := fun hmem => by
    simpa using List.mem_takeWhile_imp hmem
  refine ⟨rfl, fun hempty => hne (by simpa using hempty), ?_,
    (r.dropWhile (· != ';')).flatMap String.utf8EncodeChar, ?_, ?_⟩
  · rw [show (0x3b : UInt8) = UInt8.ofNat ';'.toNat from rfl, ascii_mem_asBytes ';' (by decide),
      String.toList_ofList]
    exact hsemi
  · have hsplit : asBytes (String.ofList (r.takeWhile (· != ';'))) ++
        (r.dropWhile (· != ';')).flatMap String.utf8EncodeChar =
          r.flatMap String.utf8EncodeChar := by
      rw [asBytes, String.toList_ofList, ← List.flatMap_append,
        List.takeWhile_append_dropWhile]
    rw [hsplit, ← toStr_bytes header val hval, asBytes, ← hr, cookiePrefix,
      String.toList_append, List.append_assoc, List.flatMap_append]
    rfl
  · cases hd : r.dropWhile (· != ';') with
    | nil => exact Or.inl rfl
    | cons c rest =>
      have hc : c = ';' := by
        have hne : r.dropWhile (· != ';') ≠ [] := by simp [hd]
        simpa [hd] using List.head_dropWhile_not (· != ';') hne
      subst hc
      exact Or.inr ⟨_, rfl⟩

/-- Under a proper name the header that yields a token files the token,
trimmed. -/
theorem token_filed (cfg : CsrfConfig) (header : Bytes) (h t : String)
    (htok : tokenOf cfg (toStr header) = some (h, t))
    (hname : ProperName (asBytes cfg.cookieName)) :
    filed (asBytes cfg.cookieName) header = some (trim (asBytes t)) := by
  obtain ⟨-, -, hsemi, rest, hheader, hrest⟩ := token_bytes cfg header h t htok
  refine filed_pair _ _ header hname ?_
  have hpair : 0x3b ∉ asBytes cfg.cookieName ++ 0x3d :: asBytes t := by
    simp [hname.noSemicolon, hsemi]
  have hsplit : header = (asBytes cfg.cookieName ++ 0x3d :: asBytes t) ++ rest := by
    rw [hheader, List.append_assoc, List.cons_append]
  rcases hrest with rfl | ⟨r, rfl⟩
  · rw [hsplit, List.append_nil, cookiePair]
    exact List.takeWhile_eq_self_iff.mpr (all_ne _ 0x3b hpair)
  · rw [hsplit, cookiePair, takeWhile_ne _ r 0x3b hpair]

/-- The header name and token agree with the jar after the same response. -/
structure Agreement (cfg : CsrfConfig) (headers : List Bytes) : Prop where
  token : ∀ h t, csrfToken cfg (headers.map toStr) = some (h, t) →
    h = cfg.headerName ∧ t ≠ "" ∧
      (jarAfter headers).lookup (asBytes cfg.cookieName) = some (asBytes t)
  absent : (jarAfter headers).lookup (asBytes cfg.cookieName) = none ∨
    (jarAfter headers).lookup (asBytes cfg.cookieName) = some [] →
      csrfToken cfg (headers.map toStr) = none
  inRange : ∀ header ∈ headers, ∀ val, toStr header = some val →
    (cookiePrefix cfg).toList.isPrefixOf val.toList = true →
      (asBytes (cookiePrefix cfg)).length ≤ (asBytes val).length

/-- After the last header that yields a token, the last one filed under the
cookie's name files that token, or none is filed and the token is free of
surrounding blanks; and the name is one that cookies can have. -/
def Undisturbed (cfg : CsrfConfig) (headers : List Bytes) : Prop :=
  ∀ before header after h t, headers = before ++ header :: after →
    tokenOf cfg (toStr header) = some (h, t) →
    (∀ later ∈ after, tokenOf cfg (toStr later) = none) →
      ProperName (asBytes cfg.cookieName) ∧
      (lastMatch (filed (asBytes cfg.cookieName)) after = some (asBytes t) ∨
        lastMatch (filed (asBytes cfg.cookieName)) after = none ∧ trim (asBytes t) = asBytes t)

theorem csrfToken_split (cfg : CsrfConfig) (headers : List Bytes) (h t : String) :
    csrfToken cfg (headers.map toStr) = some (h, t) ↔
      ∃ before header after, headers = before ++ header :: after ∧
        tokenOf cfg (toStr header) = some (h, t) ∧
        ∀ later ∈ after, tokenOf cfg (toStr later) = none := by
  rw [csrfToken_lastMatch, lastMatch_map, lastMatch_some]
  simp only [lastMatch_none]

/-- What the jar holds after a header that files and those behind it. -/
theorem jar_split (name value : Bytes) (before after : List Bytes) (header : Bytes)
    (hfiled : filed name header = some value) :
    (jarAfter (before ++ header :: after)).lookup name =
      (lastMatch (filed name) after).or (some value) := by
  rw [lookup_jarAfter, lastMatch_append, lastMatch, hfiled]
  cases lastMatch (filed name) after <;> rfl

theorem jar_token_iff (cfg : CsrfConfig) (before after : List Bytes) (header : Bytes)
    (h t : String) (htok : tokenOf cfg (toStr header) = some (h, t)) :
    (jarAfter (before ++ header :: after)).lookup (asBytes cfg.cookieName) =
        some (asBytes t) ↔
      ProperName (asBytes cfg.cookieName) ∧
      (lastMatch (filed (asBytes cfg.cookieName)) after = some (asBytes t) ∨
        lastMatch (filed (asBytes cfg.cookieName)) after = none ∧
          trim (asBytes t) = asBytes t) := by
  have hor : ∀ held : Option Bytes, held.or (some (trim (asBytes t))) = some (asBytes t) ↔
      held = some (asBytes t) ∨ held = none ∧ trim (asBytes t) = asBytes t := by
    intro held
    cases held <;> simp
  constructor
  · intro hjar
    have hname : ProperName (asBytes cfg.cookieName) := by
      rw [lookup_jarAfter, lastMatch_some] at hjar
      obtain ⟨_, other, _, -, hother, -⟩ := hjar
      exact filed_proper _ other _ hother
    rw [jar_split _ _ before after header (token_filed cfg header h t htok hname)] at hjar
    exact ⟨hname, (hor _).mp hjar⟩
  · rintro ⟨hname, hheld⟩
    rw [jar_split _ _ before after header (token_filed cfg header h t htok hname)]
    exact (hor _).mpr hheld

theorem agreement_of_undisturbed (cfg : CsrfConfig) (headers : List Bytes)
    (hcond : Undisturbed cfg headers) : Agreement cfg headers := by
  have htoken : ∀ h t, csrfToken cfg (headers.map toStr) = some (h, t) →
      h = cfg.headerName ∧ t ≠ "" ∧
        (jarAfter headers).lookup (asBytes cfg.cookieName) = some (asBytes t) := by
    intro h t hsome
    obtain ⟨before, header, after, rfl, htok, hnone⟩ := (csrfToken_split cfg headers h t).mp hsome
    obtain ⟨hh, ht, -⟩ := token_bytes cfg header h t htok
    exact ⟨hh, ht, (jar_token_iff cfg before after header h t htok).mpr
      (hcond before header after h t rfl htok hnone)⟩
  refine ⟨htoken, fun hjar => ?_, fun header _ val _ hstart => ?_⟩
  · cases hsome : csrfToken cfg (headers.map toStr) with
    | none => rfl
    | some pair =>
      obtain ⟨-, hne, hheld⟩ := htoken pair.1 pair.2 hsome
      rw [hheld] at hjar
      rcases hjar with hjar | hjar
      · cases hjar
      · exact absurd (asBytes_injective (Option.some.inj hjar)) hne
  · obtain ⟨r, hr⟩ := List.isPrefixOf_iff_prefix.mp hstart
    rw [asBytes, asBytes, ← hr, List.flatMap_append, List.length_append]
    exact Nat.le_add_right _ _

/-- The header and the cookie agree exactly when nothing disturbs the last
token. -/
theorem agreement_iff_undisturbed (cfg : CsrfConfig) (headers : List Bytes) :
    Agreement cfg headers ↔ Undisturbed cfg headers := by
  refine ⟨fun hagree before header after h t hsplit htok hnone => ?_,
    agreement_of_undisturbed cfg headers⟩
  obtain ⟨-, -, hjar⟩ := hagree.token h t
    ((csrfToken_split cfg headers h t).mpr ⟨before, header, after, hsplit, htok, hnone⟩)
  rw [hsplit] at hjar
  exact (jar_token_iff cfg before after header h t htok).mp hjar

/-- On an undisturbed response the POST carries the token its cookie has. -/
theorem posted_header_agrees {P : Platform} {N : Notary P} (job : Job N) (cfg : CsrfConfig)
    (headers : List Bytes) (hcond : Undisturbed cfg headers) (h t : String)
    (hsent : (job.outgoing (csrfToken cfg (headers.map toStr))).csrfHeader = some (h, t)) :
    h = cfg.headerName ∧
      (jarAfter headers).lookup (asBytes cfg.cookieName) = some (asBytes t) := by
  have htoken : csrfToken cfg (headers.map toStr) = some (h, t) := by
    unfold Job.outgoing at hsent
    simp only at hsent
    split at hsent
    · cases hsent
    · exact hsent
  obtain ⟨hh, -, hjar⟩ := (agreement_of_undisturbed cfg headers hcond).token h t htoken
  exact ⟨hh, hjar⟩

/-- The cookie of the shipped template. -/
def utahCsrf : CsrfConfig := utahVoterTemplate.target.csrf.get rfl

/-- A token and a later header that clears it. -/
def clearedHeaders : List Bytes :=
  [asBytes "XSRF-TOKEN=7f3a; Path=/", asBytes "XSRF-TOKEN=; Path=/; Max-Age=0"]

/-- The cleared token is still sent. -/
theorem cleared_token_sent :
    csrfToken utahCsrf (clearedHeaders.map toStr) = some ("X-XSRF-TOKEN", "7f3a") ∧
    (jarAfter clearedHeaders).lookup (asBytes "XSRF-TOKEN") = some [] ∧
    ¬ Agreement utahCsrf clearedHeaders := by
  have htoken : csrfToken utahCsrf (clearedHeaders.map toStr) =
      some ("X-XSRF-TOKEN", "7f3a") := by decide +kernel
  have hjar : (jarAfter clearedHeaders).lookup (asBytes "XSRF-TOKEN") = some [] := by
    decide +kernel
  refine ⟨htoken, hjar, fun h => ?_⟩
  rw [h.absent (Or.inr hjar)] at htoken
  cases htoken

end ZkTls.CsrfAgreement
