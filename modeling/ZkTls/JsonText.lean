import ZkTls.JsonTree
import Mathlib.Data.Nat.Notation

/-!
# Compact JSON text and where it can be cut

A two-mode scanner reads compact text and keeps the bracket depth. Every
value's text returns the scanner to where it started, so a text followed by
another text cannot also be read as one text that begins after a colon.
-/

set_option autoImplicit false

namespace ZkTls.JsonText
open ZkTls.JsonTree

def escapeChar (c : Char) : List Char :=
  if c = '"' then ['\\', '"']
  else if c = '\\' then ['\\', '\\']
  else if c = '\x08' then ['\\', 'b']
  else if c = '\t' then ['\\', 't']
  else if c = '\n' then ['\\', 'n']
  else if c = '\x0c' then ['\\', 'f']
  else if c = '\r' then ['\\', 'r']
  else if c.toNat < 0x20 then
    ['\\', 'u', '0', '0', Nat.digitChar (c.toNat / 16), Nat.digitChar (c.toNat % 16)]
  else [c]

def quoted (s : String) : List Char := '"' :: s.toList.flatMap escapeChar ++ ['"']

mutual

def text : Json → List Char
  | .null => ['n', 'u', 'l', 'l']
  | .bool b => if b then ['t', 'r', 'u', 'e'] else ['f', 'a', 'l', 's', 'e']
  | .number n => n.text.toList
  | .string s => quoted s
  | .array elems => '[' :: [','].intercalate (elemTexts elems) ++ [']']
  | .object entries => '{' :: [','].intercalate (entryTexts entries) ++ ['}']
termination_by structural v => v

def elemTexts : List Json → List (List Char)
  | [] => []
  | v :: elems => text v :: elemTexts elems
termination_by structural elems => elems

def entryText : String × Json → List Char
  | (k, v) => quoted k ++ ':' :: text v
termination_by structural e => e

def entryTexts : List (String × Json) → List (List Char)
  | [] => []
  | e :: entries => entryText e :: entryTexts entries
termination_by structural entries => entries

end

/-- The display form of a value: compact text, entries in map order. -/
def display (v : Json) : String := String.ofList (text v)

theorem elemTexts_eq (elems : List Json) : elemTexts elems = elems.map text := by
  induction elems with
  | nil => rfl
  | cons v elems ih => rw [elemTexts, ih, List.map_cons]

theorem entryTexts_eq (entries : List (String × Json)) :
    entryTexts entries = entries.map entryText := by
  induction entries with
  | nil => rfl
  | cons e entries ih => rw [entryTexts, ih, List.map_cons]

inductive Mode where
  | outside
  | inside
  | escaped
  deriving DecidableEq

/-- One character of the scanner. Outside strings a backslash, a closing
bracket at depth zero and a colon at depth zero are all rejected. -/
def scanChar : Mode × ℕ → Char → Option (Mode × ℕ)
  | (.escaped, d), _ => some (.inside, d)
  | (.inside, d), c =>
      if c = '"' then some (.outside, d)
      else if c = '\\' then some (.escaped, d)
      else some (.inside, d)
  | (.outside, d), c =>
      if c = '"' then some (.inside, d)
      else if c = '\\' then none
      else if c = '{' ∨ c = '[' then some (.outside, d + 1)
      else if c = '}' ∨ c = ']' then if d = 0 then none else some (.outside, d - 1)
      else if c = ':' then if d = 0 then none else some (.outside, d)
      else some (.outside, d)

def scan (s : Mode × ℕ) (cs : List Char) : Option (Mode × ℕ) := cs.foldlM scanChar s

theorem scan_nil (s : Mode × ℕ) : scan s [] = some s := rfl

theorem scan_cons (s : Mode × ℕ) (c : Char) (cs : List Char) :
    scan s (c :: cs) = (scanChar s c).bind fun t => scan t cs := rfl

theorem scan_append (s : Mode × ℕ) (cs ds : List Char) :
    scan s (cs ++ ds) = (scan s cs).bind fun t => scan t ds := by
  rw [scan, List.foldlM_append]
  rfl

/-- Characters with no effect on the scanner outside strings. -/
def inert (c : Char) : Bool := !(c ∈ ['"', '\\', '{', '[', '}', ']', ':'])

theorem scan_inert (cs : List Char) (h : ∀ c ∈ cs, inert c = true) (d : ℕ) :
    scan (.outside, d) cs = some (.outside, d) := by
  induction cs with
  | nil => rfl
  | cons c cs ih =>
    have hc := h c (by simp)
    simp only [inert, List.mem_cons, List.not_mem_nil, or_false, not_or,
      Bool.not_eq_true', decide_eq_false_iff_not] at hc
    rw [scan_cons]
    simp only [scanChar, hc, if_false, or_self, Option.bind_some]
    exact ih fun b hb => h b (by simp [hb])

theorem numberChar_inert (c : Char) (h : numberChar c = true) : inert c = true := by
  by_contra hc
  simp only [inert, List.mem_cons, List.not_mem_nil, or_false, Bool.not_eq_true',
    decide_eq_false_iff_not, not_not] at hc
  rcases hc with rfl | rfl | rfl | rfl | rfl | rfl | rfl <;> exact absurd h (by decide)

theorem hexDigit_ordinary : ∀ n < 16, Nat.digitChar n ≠ '"' ∧ Nat.digitChar n ≠ '\\' := by
  decide

theorem scan_escapeChar (c : Char) (d : ℕ) :
    scan (.inside, d) (escapeChar c) = some (.inside, d) := by
  unfold escapeChar
  split_ifs with h1 h2
  all_goals try rfl
  · rename_i hlt
    have hi := hexDigit_ordinary (c.toNat / 16) (by omega)
    have lo := hexDigit_ordinary (c.toNat % 16) (by omega)
    simp [scan_cons, scan_nil, scanChar, hi, lo]
  · simp [scan_cons, scan_nil, scanChar, h1, h2]

theorem scan_quoted (s : String) (d : ℕ) :
    scan (.outside, d) (quoted s) = some (.outside, d) := by
  have body : ∀ l : List Char,
      scan (.inside, d) (l.flatMap escapeChar) = some (.inside, d) := by
    intro l
    induction l with
    | nil => rfl
    | cons c l ih => rw [List.flatMap_cons, scan_append, scan_escapeChar]; exact ih
  rw [quoted, List.cons_append, scan_cons]
  change (scan (.inside, d) (s.toList.flatMap escapeChar ++ ['"'])) = _
  rw [scan_append, body]
  rfl

theorem scan_intercalate (d : ℕ) (ts : List (List Char))
    (h : ∀ t ∈ ts, scan (.outside, d) t = some (.outside, d)) :
    scan (.outside, d) ([','].intercalate ts) = some (.outside, d) := by
  induction ts with
  | nil => rfl
  | cons t ts ih =>
    have ht := h t (by simp)
    have hts := ih fun u hu => h u (by simp [hu])
    cases ts with
    | nil => simpa using ht
    | cons u ts =>
      rw [List.intercalate_cons_cons, scan_append, scan_append, ht]
      exact hts

/-- The text of a value is balanced at every starting depth. -/
theorem scan_text (v : Json) (d : ℕ) :
    scan (.outside, d) (text v) = some (.outside, d) := by
  induction v using Json.container_induction generalizing d with
  | null => exact scan_inert _ (List.all_eq_true.mp rfl) d
  | bool b => cases b <;> exact scan_inert _ (List.all_eq_true.mp rfl) d
  | number n =>
    exact scan_inert _ (fun c hc => numberChar_inert c (List.all_eq_true.mp n.plain.2 c hc)) d
  | string s => exact scan_quoted s d
  | array elems ih =>
    have hs := scan_intercalate (d + 1) (elemTexts elems) (by
      rw [elemTexts_eq]
      intro t ht
      obtain ⟨v, hv, rfl⟩ := List.mem_map.mp ht
      exact ih v hv (d + 1))
    rw [text, List.cons_append, scan_cons]
    change scan (.outside, d + 1) _ = _
    rw [scan_append, hs]
    rfl
  | object entries ih =>
    have hs := scan_intercalate (d + 1) (entryTexts entries) (by
      rw [entryTexts_eq]
      intro t ht
      obtain ⟨⟨k, v⟩, hv, rfl⟩ := List.mem_map.mp ht
      rw [entryText, scan_append, scan_quoted]
      exact ih (k, v) hv (d + 1))
    rw [text, List.cons_append, scan_cons]
    change scan (.outside, d + 1) _ = _
    rw [scan_append, hs]
    rfl

theorem scanChar_outside (c : Char) (d : ℕ) (t : Mode × ℕ)
    (h : scanChar (.outside, d) c = some t) :
    (c = '"' ∧ t.1 = .inside) ∨ (c ≠ '"' ∧ c ≠ '\\' ∧ t.1 = .outside) := by
  by_cases hquote : c = '"'
  · left
    simp only [scanChar, hquote, if_true, Option.some.injEq] at h
    exact ⟨hquote, by rw [← h]⟩
  · right
    by_cases hslash : c = '\\'
    · simp [scanChar, hslash] at h
    · simp only [scanChar, hquote, hslash, if_false] at h
      have ht : t.1 = .outside := by
        split_ifs at h <;> exact (congrArg Prod.fst (Option.some.inj h)).symm
      exact ⟨hquote, hslash, ht⟩

def Opposite (m n : Mode) : Prop :=
  (m = .outside ∧ n = .inside) ∨ (m = .inside ∧ n = .outside)

/-- The scanner outside a string rejects every backslash, so both leave
their mode on the same characters. -/
theorem opposite_step (c : Char) (a b : ℕ) (s t : Mode × ℕ)
    (hs : scanChar (.outside, a) c = some s) (ht : scanChar (.inside, b) c = some t) :
    Opposite s.1 t.1 := by
  rcases scanChar_outside c a s hs with ⟨hquote, hm⟩ | ⟨hquote, hslash, hm⟩
  · right
    simp only [scanChar, hquote, if_true, Option.some.injEq] at ht
    exact ⟨hm, by rw [← ht]⟩
  · left
    simp only [scanChar, hquote, hslash, if_false, Option.some.injEq] at ht
    exact ⟨hm, by rw [← ht]⟩

/-- Two scanners in opposite modes stay in opposite modes. -/
theorem opposite_run (cs : List Char) (p q s t : Mode × ℕ) (h : Opposite p.1 q.1)
    (hs : scan p cs = some s) (ht : scan q cs = some t) : Opposite s.1 t.1 := by
  induction cs generalizing p q with
  | nil =>
    cases hs
    cases ht
    exact h
  | cons c cs ih =>
    rw [scan_cons] at hs ht
    obtain ⟨p', hp, hs⟩ := Option.bind_eq_some_iff.mp hs
    obtain ⟨q', hq, ht⟩ := Option.bind_eq_some_iff.mp ht
    apply ih p' q' _ hs ht
    obtain ⟨m, a⟩ := p
    obtain ⟨n, b⟩ := q
    rcases h with ⟨rfl, rfl⟩ | ⟨rfl, rfl⟩
    · exact opposite_step c a b p' q' hp hq
    · exact Or.symm ((opposite_step c b a q' p' hq hp).imp And.symm And.symm)

theorem scan_opposite (cs : List Char) (a b : ℕ) (s t : Mode × ℕ)
    (hs : scan (.outside, a) cs = some s) (ht : scan (.inside, b) cs = some t) :
    ¬ (s.1 = .outside ∧ t.1 = .outside) := by
  rintro ⟨h1, h2⟩
  rcases opposite_run cs _ _ s t (Or.inl ⟨rfl, rfl⟩) hs ht with ⟨-, h⟩ | ⟨h, -⟩
  · exact absurd (h2.symm.trans h) (by decide)
  · exact absurd (h1.symm.trans h) (by decide)

/-- No text is a proper suffix of another text that starts after a colon. -/
theorem text_after_colon (v w : Json) (u : List Char) : text v ≠ u ++ ':' :: text w := by
  intro h
  have hv := scan_text v 0
  rw [h, scan_append] at hv
  obtain ⟨⟨m, e⟩, -, hcolon⟩ := Option.bind_eq_some_iff.mp hv
  rw [scan_cons] at hcolon
  obtain ⟨⟨n, f⟩, hc, hw⟩ := Option.bind_eq_some_iff.mp hcolon
  cases m with
  | outside =>
    -- the colon was a separator, so the rest runs at positive depth
    have hn : n = .outside ∧ f ≠ 0 := by
      simp only [scanChar] at hc
      split_ifs at hc <;> simp_all
    rw [hn.1, scan_text w f] at hw
    exact hn.2 (by simpa using hw)
  | inside | escaped =>
    have hn : n = .inside := by
      simp [scanChar] at hc
      exact hc.1.symm
    subst hn
    exact scan_opposite (text w) 0 f _ _ (scan_text w 0) hw ⟨rfl, rfl⟩

/-- A path and a value text joined by a colon determine where the path ends. -/
theorem colon_split (p q : List Char) (v w : Json)
    (h : p ++ ':' :: text v = q ++ ':' :: text w) : p = q ∧ text v = text w := by
  rcases List.append_eq_append_iff.mp h with ⟨a, ha, hb⟩ | ⟨a, ha, hb⟩
  · cases a with
    | nil => simpa [ha] using hb
    | cons c a =>
      obtain ⟨-, hb⟩ := List.cons.inj hb
      exact absurd hb (text_after_colon v w a)
  · cases a with
    | nil => simpa [ha] using hb.symm
    | cons c a =>
      obtain ⟨-, hb⟩ := List.cons.inj hb
      exact absurd hb (text_after_colon w v a)

end ZkTls.JsonText
