import ZkTls.JsonText

/-!
# Compact JSON text has one reading

A text followed by a character that cannot continue a number determines its
value and where it ends. Escaped characters are read back one at a time, and
the items of a container one after the other.
-/

set_option autoImplicit false

namespace ZkTls.JsonText
open ZkTls.JsonTree

/-- The value of a hexadecimal digit as the escaper writes it. -/
def hexValue (c : Char) : ℕ := if c.isDigit then c.toNat - 48 else c.toNat - 87

/-- The character at the front of an escaped string, and the rest. -/
def readChar : List Char → Option (Char × List Char)
  | '\\' :: 'u' :: _ :: _ :: a :: b :: r => some (Char.ofNat (16 * hexValue a + hexValue b), r)
  | '\\' :: 'b' :: r => some ('\x08', r)
  | '\\' :: 't' :: r => some ('\t', r)
  | '\\' :: 'n' :: r => some ('\n', r)
  | '\\' :: 'f' :: r => some ('\x0c', r)
  | '\\' :: 'r' :: r => some ('\r', r)
  | '\\' :: c :: r => some (c, r)
  | c :: r => if c = '"' then none else some (c, r)
  | [] => none

theorem hexValue_digitChar : ∀ n < 16, hexValue (Nat.digitChar n) = n := by
  decide

theorem readChar_escapeChar (c : Char) (r : List Char) :
    readChar (escapeChar c ++ r) = some (c, r) := by
  unfold escapeChar
  split_ifs with h1 h2 h3 h4 h5 h6 h7 h8
  · subst h1; rfl
  · subst h2; rfl
  · subst h3; rfl
  · subst h4; rfl
  · subst h5; rfl
  · subst h6; rfl
  · subst h7; rfl
  · have hn : 16 * (c.toNat / 16) + c.toNat % 16 = c.toNat := Nat.div_add_mod _ _
    simp only [List.cons_append, List.nil_append, readChar,
      hexValue_digitChar (c.toNat / 16) (by omega), hexValue_digitChar (c.toNat % 16) (by omega)]
    rw [hn, Char.ofNat_toNat]
  · simp only [List.cons_append, List.nil_append]
    unfold readChar
    split <;> simp_all

theorem readChar_quote (r : List Char) : readChar ('"' :: r) = none := rfl

/-- An escaped string ends at its closing quote and nowhere before. -/
theorem escaped_reading (l m : List Char) (r s : List Char)
    (h : l.flatMap escapeChar ++ '"' :: r = m.flatMap escapeChar ++ '"' :: s) :
    l = m ∧ r = s := by
  induction l generalizing m with
  | nil =>
    cases m with
    | nil => simpa using h
    | cons d m =>
      have hread := congrArg readChar h
      rw [List.flatMap_nil, List.nil_append, readChar_quote, List.flatMap_cons,
        List.append_assoc, readChar_escapeChar] at hread
      cases hread
  | cons c l ih =>
    cases m with
    | nil =>
      have hread := congrArg readChar h
      rw [List.flatMap_nil, List.nil_append, readChar_quote, List.flatMap_cons,
        List.append_assoc, readChar_escapeChar] at hread
      cases hread
    | cons d m =>
      have hread := congrArg readChar h
      rw [List.flatMap_cons, List.flatMap_cons, List.append_assoc, List.append_assoc,
        readChar_escapeChar, readChar_escapeChar] at hread
      obtain ⟨rfl, hrest⟩ := Prod.mk.inj (Option.some.inj hread)
      obtain ⟨rfl, hr⟩ := ih m hrest
      exact ⟨rfl, hr⟩

theorem quoted_reading (k j : String) (r s : List Char) (h : quoted k ++ r = quoted j ++ s) :
    k = j ∧ r = s := by
  simp only [quoted, List.cons_append, List.append_assoc, List.nil_append, List.cons.injEq,
    true_and] at h
  obtain ⟨hl, hr⟩ := escaped_reading _ _ r s h
  exact ⟨String.toList_injective hl, hr⟩

/-- What may follow a value: nothing that could continue a number. -/
def Stops (r : List Char) : Prop := ∀ c ∈ r.head?, numberChar c = false

theorem stops_nil : Stops [] := by simp [Stops]

theorem stops_cons (c : Char) (r : List Char) : Stops (c :: r) ↔ numberChar c = false := by
  simp [Stops]

/-- A printed item determines itself and where it ends. -/
def Readable {α : Type} (print : α → List Char) (x : α) : Prop :=
  ∀ y r s, Stops r → Stops s → print x ++ r = print y ++ s → x = y ∧ r = s

section Items
variable {α : Type} (print : α → List Char) (close : Char)

/-- The items after the first, each behind a comma. -/
def rest (xs : List α) : List Char := xs.flatMap fun x => ',' :: print x

theorem intercalate_rest (x : α) (xs : List α) :
    [','].intercalate ((x :: xs).map print) = print x ++ rest print xs := by
  induction xs generalizing x with
  | nil => simp [rest]
  | cons y xs ih =>
    rw [List.map_cons, List.map_cons, List.intercalate_cons_cons, ← List.map_cons, ih]
    simp [rest]

theorem stops_rest (hclose : numberChar close = false) (xs : List α) (r : List Char) :
    Stops (rest print xs ++ close :: r) := by
  cases xs with
  | nil => exact (stops_cons close r).mpr hclose
  | cons x xs => exact (stops_cons ',' _).mpr (by decide)

theorem rest_reading (hclose : numberChar close = false) (hcomma : close ≠ ',')
    (xs ys : List α) (hx : ∀ x ∈ xs, Readable print x) (r s : List Char)
    (h : rest print xs ++ close :: r = rest print ys ++ close :: s) : xs = ys ∧ r = s := by
  induction xs generalizing ys with
  | nil =>
    cases ys with
    | nil => simpa [rest] using h
    | cons y ys => exact absurd (List.cons.inj h).1 hcomma
  | cons x xs ih =>
    cases ys with
    | nil => exact absurd (List.cons.inj h).1.symm hcomma
    | cons y ys =>
      simp only [rest, List.flatMap_cons, List.cons_append, List.append_assoc,
        List.cons.injEq, true_and] at h
      rw [List.forall_mem_cons] at hx
      obtain ⟨rfl, htail⟩ := hx.1 y _ _ (stops_rest print close hclose xs r)
        (stops_rest print close hclose ys s) h
      obtain ⟨rfl, hr⟩ := ih ys hx.2 htail
      exact ⟨rfl, hr⟩

/-- The items of a container are read back, given that none starts with the
closing bracket. -/
theorem items_reading (hclose : numberChar close = false) (hcomma : close ≠ ',')
    (hfirst : ∀ x r, (print x ++ r).head? ≠ some close) (xs ys : List α)
    (hx : ∀ x ∈ xs, Readable print x) (r s : List Char)
    (h : [','].intercalate (xs.map print) ++ close :: r =
      [','].intercalate (ys.map print) ++ close :: s) : xs = ys ∧ r = s := by
  cases xs with
  | nil =>
    cases ys with
    | nil => simpa using h
    | cons y ys =>
      rw [intercalate_rest, List.append_assoc] at h
      exact absurd (congrArg List.head? h).symm (hfirst y _)
  | cons x xs =>
    cases ys with
    | nil =>
      rw [intercalate_rest, List.append_assoc] at h
      exact absurd (congrArg List.head? h) (hfirst x _)
    | cons y ys =>
      rw [intercalate_rest, intercalate_rest, List.append_assoc, List.append_assoc] at h
      rw [List.forall_mem_cons] at hx
      obtain ⟨rfl, htail⟩ := hx.1 y _ _ (stops_rest print close hclose xs r)
        (stops_rest print close hclose ys s) h
      obtain ⟨rfl, hr⟩ := rest_reading print close hclose hcomma xs ys hx.2 r s htail
      exact ⟨rfl, hr⟩

end Items

theorem takeWhile_stops (cs r : List Char) (h : cs.all numberChar = true) (hr : Stops r) :
    (cs ++ r).takeWhile numberChar = cs := by
  rw [List.takeWhile_append_of_pos (List.all_eq_true.mp h)]
  cases r with
  | nil => simp
  | cons c r =>
    have hc : numberChar c = false := (stops_cons c r).mp hr
    simp [hc]

theorem number_reading (n m : Number) (r s : List Char) (hr : Stops r) (hs : Stops s)
    (h : n.text.toList ++ r = m.text.toList ++ s) : n = m ∧ r = s := by
  have htext : n.text.toList = m.text.toList := by
    rw [← takeWhile_stops n.text.toList r n.plain.2 hr, h,
      takeWhile_stops m.text.toList s m.plain.2 hs]
  constructor
  · cases n
    cases m
    simp_all [String.toList_inj]
  · rw [htext] at h
    exact List.append_cancel_left h

/-- The kinds of value, told apart by the first character of their texts. -/
inductive Kind where
  | null
  | bool
  | number
  | string
  | array
  | object
  deriving DecidableEq

def kind : Json → Kind
  | .null => .null
  | .bool _ => .bool
  | .number _ => .number
  | .string _ => .string
  | .array _ => .array
  | .object _ => .object

def kindOf (c : Char) : Kind :=
  if numberChar c then .number
  else if c = '"' then .string
  else if c = '[' then .array
  else if c = '{' then .object
  else if c = 'n' then .null
  else .bool

theorem text_kind (v : Json) (r : List Char) :
    (text v ++ r).head?.map kindOf = some (kind v) := by
  cases v with
  | number n =>
    obtain ⟨hne, hall⟩ := n.plain
    simp only [text, kind]
    cases hc : n.text.toList with
    | nil => exact absurd (String.toList_eq_nil_iff.mp hc) hne
    | cons c cs =>
      rw [hc, List.all_cons, Bool.and_eq_true] at hall
      simp [kindOf, hall.1]
  | bool b => cases b <;> rfl
  | _ => rfl

theorem text_first (v : Json) (r : List Char) : (text v ++ r).head? ≠ some ']' := by
  cases v with
  | number n =>
    intro h
    have hkind := text_kind (.number n) r
    rw [h] at hkind
    exact absurd (Option.some.inj hkind) (by simp only [kind]; decide)
  | bool b => cases b <;> simp [text]
  | _ => simp [text, quoted]

theorem kind_eq (v w : Json) (r s : List Char) (h : text v ++ r = text w ++ s) :
    kind v = kind w := by
  have hv := text_kind v r
  rw [h, text_kind w s] at hv
  exact (Option.some.inj hv).symm

theorem entry_reading (e : String × Json) (h : Readable text e.2) : Readable entryText e := by
  obtain ⟨k, v⟩ := e
  rintro ⟨j, w⟩ r s hr hs htext
  simp only [entryText, List.append_assoc, List.cons_append] at htext
  obtain ⟨rfl, hrest⟩ := quoted_reading k j _ _ htext
  obtain ⟨hvw, hrs⟩ := h w r s hr hs (List.cons.inj hrest).2
  exact ⟨congrArg (Prod.mk k) hvw, hrs⟩

theorem entryText_first (e : String × Json) (r : List Char) :
    (entryText e ++ r).head? ≠ some '}' := by
  obtain ⟨k, v⟩ := e
  simp [entryText, quoted]

/-- A value's text determines the value and where the text ends. -/
theorem text_reading (v : Json) : Readable text v := by
  induction v using Json.container_induction with
  | null =>
    intro w r s _ _ h
    cases w with
    | null => exact ⟨rfl, by simpa [text] using h⟩
    | _ => cases kind_eq _ _ r s h
  | bool b =>
    intro w r s _ _ h
    cases w with
    | bool c =>
      cases b <;> cases c <;> simp [text] at h ⊢ <;> exact h
    | _ => cases kind_eq _ _ r s h
  | number n =>
    intro w r s hr hs h
    cases w with
    | number m =>
      obtain ⟨hn, hrs⟩ := number_reading n m r s hr hs h
      exact ⟨congrArg Json.number hn, hrs⟩
    | _ => cases kind_eq _ _ r s h
  | string k =>
    intro w r s _ _ h
    cases w with
    | string j =>
      obtain ⟨hk, hrs⟩ := quoted_reading k j r s h
      exact ⟨congrArg Json.string hk, hrs⟩
    | _ => cases kind_eq _ _ r s h
  | array elems ih =>
    intro w r s _ _ h
    cases w with
    | array elems' =>
      simp only [text, elemTexts_eq, List.cons_append, List.append_assoc, List.nil_append,
        List.cons.injEq, true_and] at h
      obtain ⟨helems, hrs⟩ := items_reading text ']' (by decide) (by decide)
        text_first elems elems' ih r s h
      exact ⟨congrArg Json.array helems, hrs⟩
    | _ => cases kind_eq _ _ r s h
  | object entries ih =>
    intro w r s _ _ h
    cases w with
    | object entries' =>
      simp only [text, entryTexts_eq, List.cons_append, List.append_assoc, List.nil_append,
        List.cons.injEq, true_and] at h
      obtain ⟨hentries, hrs⟩ := items_reading entryText '}' (by decide) (by decide)
        entryText_first entries entries'
        (fun e he => entry_reading e (ih e he)) r s h
      exact ⟨congrArg Json.object hentries, hrs⟩
    | _ => cases kind_eq _ _ r s h

theorem text_injective : Function.Injective text := by
  intro v w h
  exact (text_reading v w [] [] stops_nil stops_nil (by rw [h])).1

theorem display_injective : Function.Injective display := by
  intro v w h
  exact text_injective (String.ofList_injective h)

end ZkTls.JsonText
