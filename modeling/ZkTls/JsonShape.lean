import ZkTls.JsonTree
import Mathlib.Data.List.Forall2

/-!
# JSON values of one shape

Two values have the same shape when they differ in the contents of strings,
numbers and booleans only. A path then resolves in both or in neither, to
values of the same shape.
-/

set_option autoImplicit false

namespace ZkTls.JsonTree.Json

inductive SameShape : Json → Json → Prop
  | null : SameShape .null .null
  | bool (b c : Bool) : SameShape (.bool b) (.bool c)
  | number (n m : Number) : SameShape (.number n) (.number m)
  | string (s t : String) : SameShape (.string s) (.string t)
  | array (elems elems' : List Json) (h : List.Forall₂ SameShape elems elems') :
      SameShape (.array elems) (.array elems')
  | object (entries entries' : List (String × Json))
      (hk : entries.map Prod.fst = entries'.map Prod.fst)
      (h : List.Forall₂ SameShape (entries.map Prod.snd) (entries'.map Prod.snd)) :
      SameShape (.object entries) (.object entries')

theorem sameShape_refl (v : Json) : SameShape v v := by
  induction v using container_induction with
  | null => exact .null
  | bool b => exact .bool b b
  | number n => exact .number n n
  | string s => exact .string s s
  | array elems h => exact .array elems elems (List.forall₂_same.mpr h)
  | object entries h =>
    apply SameShape.object entries entries rfl
    apply List.forall₂_same.mpr
    intro v hv
    obtain ⟨e, he, rfl⟩ := List.mem_map.mp hv
    exact h e he

theorem sameShape_lookup (es es' : List (String × Json))
    (hk : es.map Prod.fst = es'.map Prod.fst)
    (h : List.Forall₂ SameShape (es.map Prod.snd) (es'.map Prod.snd)) (k : String) :
    Option.Rel SameShape (es.lookup k) (es'.lookup k) := by
  induction es generalizing es' with
  | nil =>
    cases es' with
    | nil => exact .none
    | cons e' es' => cases hk
  | cons e es ih =>
    cases es' with
    | nil => cases hk
    | cons e' es' =>
      obtain ⟨j, v⟩ := e
      obtain ⟨j', v'⟩ := e'
      obtain ⟨rfl, hks⟩ := List.cons.inj hk
      obtain ⟨hv, hvs⟩ := List.forall₂_cons.mp h
      rw [lookup_entry, lookup_entry]
      split
      · exact .some hv
      · exact ih es' hks hvs

theorem sameShape_get (v v' : Json) (h : SameShape v v') (k : String) :
    Option.Rel SameShape (v.get k) (v'.get k) := by
  cases h with
  | object es es' hk h => exact sameShape_lookup es es' hk h k
  | _ => exact .none

theorem sameShape_lookupPath (p : List String) (v v' : Json) (h : SameShape v v') :
    Option.Rel SameShape (lookupPath p v) (lookupPath p v') := by
  induction p generalizing v v' with
  | nil => exact .some h
  | cons k p ih =>
    have hget := sameShape_get v v' h k
    rw [lookupPath, lookupPath]
    generalize v.get k = u at hget ⊢
    generalize v'.get k = u' at hget ⊢
    cases hget with
    | none => exact .none
    | some hu => exact ih _ _ hu

end ZkTls.JsonTree.Json
