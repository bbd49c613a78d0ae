import ZkTls.JsonTree
import Mathlib.Data.Finmap
import Mathlib.Data.Finset.Sort
import Mathlib.Data.List.Nodup

/-!
# JSON forms of data types

A codec writes a value as a document and reads documents back. Records are
read by key: members may come in any order and unknown members are skipped,
but a known one must not occur twice. Every codec carries the law that it
reads what it writes, on the values it is meant for. A number is its printed
text and is read back as printed.
-/

set_option autoImplicit false

namespace ZkTls.JsonCodec
open ZkTls.JsonTree

variable {α β : Type}

structure Codec (α : Type) where
  encode : α → Json
  decode : Json → Option α
  valid : α → Prop
  decode_encode : ∀ x, valid x → decode (encode x) = some x

def string : Codec String where
  encode s := .string s
  decode v :=
    match v with
    | .string s => some s
    | _ => none
  valid _ := True
  decode_encode _ _ := rfl

def bool : Codec Bool where
  encode b := .bool b
  decode v :=
    match v with
    | .bool b => some b
    | _ => none
  valid _ := True
  decode_encode _ _ := rfl

theorem repr_plain (n : ℕ) : n.repr ≠ "" ∧ n.repr.toList.all numberChar = true := by
  constructor
  · intro h
    exact Nat.toDigits_ne_nil (Nat.toList_repr.symm.trans (congrArg String.toList h))
  · rw [Nat.toList_repr, List.all_eq_true]
    intro c hc
    simp [numberChar, Nat.isDigit_of_mem_toDigits (by decide) (by decide) hc]

def natural (n : ℕ) : Number := ⟨n.repr, repr_plain n⟩

/-- A number without sign, fraction or exponent, if it fits. -/
def readNatural (bound : ℕ) (n : Number) : Option ℕ :=
  let k := Nat.ofDigitChars 10 n.text.toList 0
  if n.text = k.repr ∧ k < bound then some k else none

theorem readNatural_natural (bound n : ℕ) (h : n < bound) :
    readNatural bound (natural n) = some n := by
  have hk : Nat.ofDigitChars 10 n.repr.toList 0 = n := by
    rw [Nat.toList_repr]
    exact Nat.ofDigitChars_ten_toDigits
  simp only [readNatural, natural, hk]
  exact if_pos ⟨trivial, h⟩

/-- A type of numbers below a bound. -/
def bounded (bound : ℕ) (toNat : α → ℕ) (ofNat : ℕ → α) (h : ∀ x, ofNat (toNat x) = x) :
    Codec α where
  encode x := .number (natural (toNat x))
  decode v :=
    match v with
    | .number n => (readNatural bound n).map ofNat
    | _ => none
  valid x := toNat x < bound
  decode_encode x hx := by
    simp only [readNatural_natural bound _ hx, Option.map_some, h]

def list (C : Codec α) : Codec (List α) where
  encode xs := .array (xs.map C.encode)
  decode v :=
    match v with
    | .array elems => elems.mapM C.decode
    | _ => none
  valid xs := ∀ x ∈ xs, C.valid x
  decode_encode xs hxs := by
    show (xs.map C.encode).mapM C.decode = some xs
    induction xs with
    | nil => rfl
    | cons x xs ih =>
      rw [List.map_cons, List.mapM_cons, C.decode_encode x (hxs x (by simp)),
        ih fun y hy => hxs y (by simp [hy])]
      rfl

/-- An absent value is written as null. -/
def option (C : Codec α) : Codec (Option α) where
  encode o := o.elim .null C.encode
  decode v :=
    match v with
    | .null => some none
    | v => (C.decode v).map some
  valid o := ∀ x ∈ o, C.valid x ∧ C.encode x ≠ .null
  decode_encode o ho := by
    cases o with
    | none => rfl
    | some x =>
      obtain ⟨hx, hnull⟩ := ho x rfl
      have hd := C.decode_encode x hx
      show (match C.encode x with
        | .null => some none
        | v => (C.decode v).map some) = some (some x)
      split
      · exact absurd ‹_› hnull
      · rw [hd]
        rfl

/-- A variant without data is its name, or an object that maps its name to
null. -/
def enumeration (table : List (String × α)) (name : α → String)
    (h : ∀ x, table.lookup (name x) = some x) : Codec α where
  encode x := .string (name x)
  decode v :=
    match v with
    | .string s => table.lookup s
    | .object [(s, .null)] => table.lookup s
    | _ => none
  valid _ := True
  decode_encode x _ := h x

/-- A type that is read as another one and restricted. -/
def Codec.iso (C : Codec α) (mk : α → β) (unmk : β → α) (valid : β → Prop)
    (h : ∀ y, valid y → mk (unmk y) = y) : Codec β where
  encode y := C.encode (unmk y)
  decode v := (C.decode v).map mk
  valid y := valid y ∧ C.valid (unmk y)
  decode_encode y hy := by rw [C.decode_encode _ hy.2, Option.map_some, h y hy.1]

/-- With distinct keys a lookup finds every entry. -/
theorem lookup_of_mem (es : List (String × β)) (hkeys : (es.map Prod.fst).Nodup)
    (e : String × β) (he : e ∈ es) : es.lookup e.1 = some e.2 := by
  induction es with
  | nil => cases he
  | cons d es ih =>
    rw [List.map_cons, List.nodup_cons] at hkeys
    rcases List.mem_cons.mp he with rfl | he
    · exact List.lookup_cons_self
    · have hne : e.1 ≠ d.1 := fun heq => hkeys.1 (heq ▸ List.mem_map_of_mem he)
      rw [List.lookup_cons, beq_false_of_ne hne]
      exact ih hkeys.2 he

section Values

/-- An entry in a list sorted by key. A second value of a key takes the
place of the first. -/
def insertEntry (k : String) (v : Json) : List (String × Json) → List (String × Json)
  | [] => [(k, v)]
  | e :: es =>
    if k < e.1 then (k, v) :: e :: es
    else if k = e.1 then (k, v) :: es
    else e :: insertEntry k v es

def sortEntries (es : List (String × Json)) : List (String × Json) :=
  es.foldl (fun acc e => insertEntry e.1 e.2 acc) []

mutual

/-- The value a document stands for: objects are sorted maps. -/
def value : Json → Json
  | .array elems => .array (values elems)
  | .object entries => .object (sortEntries (entryValues entries))
  | v => v
termination_by structural v => v

def values : List Json → List Json
  | [] => []
  | v :: elems => value v :: values elems
termination_by structural elems => elems

def entryValue : String × Json → String × Json
  | (k, v) => (k, value v)
termination_by structural e => e

def entryValues : List (String × Json) → List (String × Json)
  | [] => []
  | e :: entries => entryValue e :: entryValues entries
termination_by structural entries => entries

end

theorem values_eq (elems : List Json) : values elems = elems.map value := by
  induction elems with
  | nil => rfl
  | cons v elems ih => rw [values, ih, List.map_cons]

theorem entryValues_eq (entries : List (String × Json)) :
    entryValues entries = entries.map fun e => (e.1, value e.2) := by
  induction entries with
  | nil => rfl
  | cons e entries ih => rw [entryValues, ih, List.map_cons, entryValue]

theorem insertEntry_last (k : String) (v : Json) (es : List (String × Json))
    (h : ∀ e ∈ es, e.1 < k) : insertEntry k v es = es ++ [(k, v)] := by
  induction es with
  | nil => rfl
  | cons e es ih =>
    have hlt := h e (by simp)
    rw [insertEntry, if_neg (lt_asymm hlt), if_neg (ne_of_gt hlt),
      ih fun d hd => h d (by simp [hd]), List.cons_append]

theorem sortEntries_sorted (es : List (String × Json))
    (h : (es.map Prod.fst).Pairwise (· < ·)) : sortEntries es = es := by
  have run : ∀ acc : List (String × Json), ((acc ++ es).map Prod.fst).Pairwise (· < ·) →
      es.foldl (fun acc e => insertEntry e.1 e.2 acc) acc = acc ++ es := by
    clear h
    induction es with
    | nil => exact fun acc _ => (List.append_nil acc).symm
    | cons e es ih =>
      intro acc hsorted
      have hlast : ∀ d ∈ acc, d.1 < e.1 := by
        rw [List.map_append, List.pairwise_append] at hsorted
        exact fun d hd => hsorted.2.2 d.1 (List.mem_map_of_mem hd) e.1 (by simp)
      have hrest : acc ++ e :: es = acc ++ [e] ++ es := by simp
      rw [List.foldl_cons, insertEntry_last e.1 e.2 acc hlast, hrest, ih _ (hrest ▸ hsorted)]
  exact run [] h

theorem value_canonical (v : Json) (h : Json.Canonical v) : value v = v := by
  induction v using Json.container_induction with
  | array elems ih =>
    cases h with
    | array _ h =>
      rw [value, values_eq, List.map_congr_left fun v hv => ih v hv (h v hv), List.map_id']
  | object entries ih =>
    cases h with
    | object _ hk h =>
      have hmap : (entries.map fun e => (e.1, value e.2)) = entries := by
        refine (List.map_congr_left fun e he => ?_).trans (List.map_id entries)
        exact congrArg (fun v => (e.1, v)) (ih e he (h e he))
      rw [value, entryValues_eq, hmap, sortEntries_sorted entries hk]
  | _ => rfl

/-- A value in its own right. -/
def json : Codec Json where
  encode v := v
  decode v := some (value v)
  valid := Json.Canonical
  decode_encode v hv := by rw [value_canonical v hv]

end Values

section Maps

/-- An order in which a finite map's entries can be visited. -/
structure Visit (β : Type) where
  list : (Finmap fun _ : String => β) → List (String × β)
  lookup_list : ∀ m k, (list m).lookup k = m.lookup k
  once : ∀ m, ((list m).map Prod.fst).Nodup

/-- The visit in the order of the keys. -/
def sortedVisit : Visit β where
  list m := (m.keys.sort (· ≤ ·)).filterMap fun k => (m.lookup k).map fun v => (k, v)
  lookup_list m k := by
    have run : ∀ ks : List String, (ks.filterMap fun j => (m.lookup j).map fun v => (j, v)).lookup
        k = if k ∈ ks then m.lookup k else none := by
      intro ks
      induction ks with
      | nil => rfl
      | cons j ks ih =>
        by_cases hkj : k = j
        · subst hkj
          cases hk : m.lookup k with
          | none => simp [hk, ih]
          | some v => simp [hk]
        · cases hj : m.lookup j with
          | none => simp [hj, ih, hkj]
          | some v => simp [hj, ih, hkj, List.lookup_cons, beq_false_of_ne hkj]
    rw [run]
    by_cases hk : k ∈ m.keys.sort (· ≤ ·)
    · rw [if_pos hk]
    · rw [if_neg hk]
      rw [Finset.mem_sort, Finmap.mem_keys] at hk
      exact (Finmap.lookup_eq_none.mpr hk).symm
  once m := by
    have hsub : ((m.keys.sort (· ≤ ·)).filterMap fun k => (m.lookup k).map fun v => (k, v)).map
        Prod.fst = (m.keys.sort (· ≤ ·)).filter fun k => (m.lookup k).isSome := by
      induction m.keys.sort (· ≤ ·) with
      | nil => rfl
      | cons k ks ih =>
        cases hk : m.lookup k with
        | none => simp [hk, ih]
        | some v => simp [hk, ih]
    rw [hsub]
    exact (Finset.sort_nodup _ _).filter _

/-- The entries read one after the other, a later value in the place of an
earlier one. -/
def readEntries (C : Codec β) (es : List (String × Json)) :
    Option (Finmap fun _ : String => β) :=
  es.foldlM (fun m e => (C.decode e.2).map fun v => m.insert e.1 v) ∅

theorem readEntries_written (C : Codec β) (es : List (String × β))
    (hvalid : ∀ e ∈ es, C.valid e.2) (hkeys : (es.map Prod.fst).Nodup) :
    ∃ m, readEntries C (es.map fun e => (e.1, C.encode e.2)) = some m ∧
      ∀ k, m.lookup k = es.lookup k := by
  have run : ∀ m : Finmap fun _ : String => β, (∀ e ∈ es, m.lookup e.1 = none) →
      ∃ m', (es.map fun e => (e.1, C.encode e.2)).foldlM
          (fun m e => (C.decode e.2).map fun v => m.insert e.1 v) m = some m' ∧
        ∀ k, m'.lookup k = (es.lookup k).or (m.lookup k) := by
    induction es with
    | nil => exact fun m _ => ⟨m, rfl, fun k => rfl⟩
    | cons e es ih =>
      intro m hm
      rw [List.map_cons, List.nodup_cons] at hkeys
      have hfresh : ∀ d ∈ es, (m.insert e.1 e.2).lookup d.1 = none := by
        intro d hd
        have hne : d.1 ≠ e.1 := fun heq => hkeys.1 (heq ▸ List.mem_map_of_mem hd)
        rw [Finmap.lookup_insert_of_ne _ hne]
        exact hm d (by simp [hd])
      obtain ⟨m', hrun, hlookup⟩ := ih (fun d hd => hvalid d (by simp [hd])) hkeys.2 _ hfresh
      refine ⟨m', ?_, fun k => ?_⟩
      · rw [List.map_cons, List.foldlM_cons, C.decode_encode e.2 (hvalid e (by simp))]
        exact hrun
      · rw [hlookup k]
        obtain ⟨j, v⟩ := e
        by_cases hkj : k = j
        · subst hkj
          have hnone : es.lookup k = none := by
            rw [List.lookup_eq_none_iff]
            intro d hd
            exact bne_iff_ne.mpr fun heq => hkeys.1 (List.mem_map.mpr ⟨d, hd, heq.symm⟩)
          rw [hnone, Option.none_or, Finmap.lookup_insert, List.lookup_cons_self,
            Option.some_or]
        · rw [Finmap.lookup_insert_of_ne _ hkj, List.lookup_cons, beq_false_of_ne hkj]
  obtain ⟨m, hrun, hlookup⟩ := run ∅ fun e _ => Finmap.lookup_empty e.1
  refine ⟨m, hrun, fun k => ?_⟩
  rw [hlookup k, Finmap.lookup_empty, Option.or_none]

/-- A map is an object. -/
def mapping (visit : Visit β) (C : Codec β) : Codec (Finmap fun _ : String => β) where
  encode m := .object ((visit.list m).map fun e => (e.1, C.encode e.2))
  decode v :=
    match v with
    | .object es => readEntries C es
    | _ => none
  valid m := ∀ k v, m.lookup k = some v → C.valid v
  decode_encode m hm := by
    have hvalid : ∀ e ∈ visit.list m, C.valid e.2 := by
      intro e he
      refine hm e.1 e.2 ?_
      rw [← visit.lookup_list, lookup_of_mem _ (visit.once m) e he]
    obtain ⟨m', hread, hlookup⟩ := readEntries_written C _ hvalid (visit.once m)
    show readEntries C _ = some m
    rw [hread, Finmap.ext_lookup fun k => (hlookup k).trans (visit.lookup_list m k)]

end Maps

section Records

/-- The members of a record in declaration order, with how to read them back
by key. -/
structure Fields (α : Type) where
  names : List String
  required : ℕ
  members : α → List (String × Json)
  read : List (String × Json) → Option α
  valid : α → Prop
  keys : ∀ x, (members x).map Prod.fst = names
  byKey : ∀ es es', (∀ n ∈ names, es.lookup n = es'.lookup n) → read es = read es'
  read_members : names.Nodup → ∀ x, valid x → read (members x) = some x

def done : Fields Unit where
  names := []
  required := 0
  members _ := []
  read _ := some ()
  valid _ := True
  keys _ := rfl
  byKey _ _ _ := rfl
  read_members _ _ _ := rfl

/-- One more member, read from what stands under its name, if anything
does. -/
def Fields.member (name : String) (C : Codec α) (absent : Option α) (required : ℕ)
    (F : Fields β) : Fields (α × β) where
  names := name :: F.names
  required := required
  members x := (name, C.encode x.1) :: F.members x.2
  read es :=
    ((es.lookup name).elim absent C.decode).bind fun a => (F.read es).map fun b => (a, b)
  valid x := C.valid x.1 ∧ F.valid x.2
  keys x := by rw [List.map_cons, F.keys]
  byKey es es' h := by
    rw [h name (by simp), F.byKey es es' fun n hn => h n (by simp [hn])]
  read_members hnames x hx := by
    obtain ⟨hname, hnames⟩ := List.nodup_cons.mp hnames
    have hrest : F.read ((name, C.encode x.1) :: F.members x.2) = F.read (F.members x.2) := by
      refine F.byKey _ _ fun n hn => ?_
      have hne : n ≠ name := fun heq => hname (heq ▸ hn)
      rw [List.lookup_cons, beq_false_of_ne hne]
    rw [List.lookup_cons_self, hrest, F.read_members hnames x.2 hx.2]
    show (C.decode (C.encode x.1)).bind _ = _
    rw [C.decode_encode x.1 hx.1]
    rfl

/-- A member that must be there. -/
def field (name : String) (C : Codec α) (F : Fields β) : Fields (α × β) :=
  F.member name C none (F.required + 1)

/-- A member that may be missing or null. -/
def nullable (name : String) (C : Codec α) (F : Fields β) : Fields (Option α × β) :=
  F.member name (option C) (some none) (F.required + 1)

/-- The members whose key is known. -/
def known (names : List String) (es : List (String × Json)) : List (String × Json) :=
  es.filter fun e => e.1 ∈ names

/-- A record is an object without repeated members, or the array of its
members' values. -/
def Fields.parts (F : Fields α) : Json → Option (List (String × Json))
  | .object es => if ((known F.names es).map Prod.fst).Nodup then some es else none
  | .array elems =>
    if F.required ≤ elems.length ∧ elems.length ≤ F.names.length then
      some (F.names.zip elems)
    else none
  | _ => none

theorem known_self (names : List String) (es : List (String × Json))
    (h : es.map Prod.fst = names) : known names es = es := by
  rw [known, List.filter_eq_self]
  intro e he
  exact decide_eq_true (h ▸ List.mem_map_of_mem he)

/-- A record as it is written. -/
def Fields.write (F : Fields α) (x : α) : Json := .object (F.members x)

/-- What is read of a document for a record. -/
def Fields.accept (F : Fields α) (v : Json) : Option α := (F.parts v).bind F.read

def record (F : Fields α) (hnames : F.names.Nodup) : Codec α where
  encode := F.write
  decode := F.accept
  valid := F.valid
  decode_encode x hx := by
    have hparts : F.parts (.object (F.members x)) = some (F.members x) := by
      rw [Fields.parts, known_self F.names _ (F.keys x), F.keys, if_pos hnames]
    rw [Fields.accept, Fields.write, hparts]
    exact F.read_members hnames x hx

theorem lookup_known (names : List String) (es : List (String × Json)) (n : String)
    (hn : n ∈ names) : (known names es).lookup n = es.lookup n := by
  induction es with
  | nil => rfl
  | cons e es ih =>
    obtain ⟨k, v⟩ := e
    by_cases hkn : n = k
    · subst hkn
      simp [known, hn]
    · have hcons : ((k, v) :: es).lookup n = es.lookup n := by
        rw [List.lookup_cons, beq_false_of_ne hkn]
      rw [hcons, ← ih, known, List.filter_cons]
      split
      · rw [List.lookup_cons, beq_false_of_ne hkn]
        rfl
      · rfl

theorem lookup_perm (es es' : List (String × Json)) (h : es.Perm es')
    (hkeys : (es.map Prod.fst).Nodup) (n : String) : es.lookup n = es'.lookup n := by
  have hkeys' := (h.map Prod.fst).nodup_iff.mp hkeys
  cases hn : es'.lookup n with
  | none =>
    rw [List.lookup_eq_none_iff] at hn ⊢
    exact fun e he => hn e (h.mem_iff.mp he)
  | some v =>
    obtain ⟨before, after, rfl, -⟩ := List.lookup_eq_some_iff.mp hn
    exact lookup_of_mem es hkeys (n, v) (h.mem_iff.mpr (by simp))

/-- Only the known members count, in whatever order. -/
theorem accept_congr (F : Fields α) (es es' : List (String × Json))
    (h : (known F.names es).Perm (known F.names es')) :
    F.accept (.object es) = F.accept (.object es') := by
  have hnodup := (h.map Prod.fst).nodup_iff
  rw [Fields.accept, Fields.accept, Fields.parts, Fields.parts]
  by_cases hkeys : ((known F.names es).map Prod.fst).Nodup
  · rw [if_pos hkeys, if_pos (hnodup.mp hkeys)]
    refine F.byKey es es' fun n hn => ?_
    rw [← lookup_known F.names es n hn, ← lookup_known F.names es' n hn]
    exact lookup_perm _ _ h hkeys n
  · rw [if_neg hkeys, if_neg fun hkeys' => hkeys (hnodup.mpr hkeys')]

end Records

end ZkTls.JsonCodec
