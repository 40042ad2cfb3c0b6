import Formwork.Form.Basic
import Formwork.Proofs.Sequence

/-! # Keys and their values

Pairs hold values by key. Pairs behind others leave the order alone, of the keys as well as
of the values of each.
-/

namespace Formwork

variable {α : Type}

theorem valuesOf_append (key : String) (pairs others : List (String × α)) :
    valuesOf key (pairs ++ others) = valuesOf key pairs ++ valuesOf key others := by
  rw [valuesOf, List.filter_append, List.map_append]
  rfl

@[simp] theorem valuesOf_nil (key : String) : valuesOf key ([] : List (String × α)) = [] := rfl

theorem valuesOf_cons (key : String) (pair : String × α) (pairs : List (String × α)) :
    valuesOf key (pair :: pairs) =
      if pair.1 = key then pair.2 :: valuesOf key pairs else valuesOf key pairs := by
  by_cases h : pair.1 = key
  · simp [valuesOf, h]
  · simp [valuesOf, h]

theorem getD_find?_eq_headD (key : String) (pairs : List (String × α)) (default : α) :
    ((pairs.find? fun pair => pair.1 == key).map Prod.snd).getD default =
      (valuesOf key pairs).headD default := by
  rw [valuesOf, List.headD_eq_head?_getD, List.head?_map, List.head?_filter]

theorem mem_keysOf {key : String} {pairs : List (String × α)} :
    key ∈ keysOf pairs ↔ key ∈ pairs.map Prod.fst := List.mem_eraseDups

theorem valuesOf_eq_nil_iff {key : String} {pairs : List (String × α)} :
    valuesOf key pairs = [] ↔ key ∉ keysOf pairs := by
  rw [mem_keysOf, valuesOf, List.map_eq_nil_iff, List.filter_eq_nil_iff, List.mem_map]
  constructor
  · rintro h ⟨pair, hm, rfl⟩
    exact h pair hm (beq_self_eq_true _)
  · intro h pair hm hk
    exact h ⟨pair, hm, beq_iff_eq.1 hk⟩

theorem nodup_keysOf (pairs : List (String × α)) : (keysOf pairs).Nodup := nodup_eraseDups _

theorem keysOf_concat_of_mem {pairs : List (String × α)} {key : String} (h : key ∈ keysOf pairs)
    (value : α) : keysOf (pairs ++ [(key, value)]) = keysOf pairs := by
  have hm := mem_keysOf.1 h
  rw [keysOf, List.map_append, List.eraseDups_append]
  simp only [List.map_cons, List.map_nil, List.removeAll, List.filter_cons, List.elem_eq_mem, hm]
  simp [keysOf]

/-- A pair with a new key adds the key at the end. -/
theorem keysOf_concat_of_not_mem {pairs : List (String × α)} {key : String}
    (h : key ∉ keysOf pairs) (value : α) :
    keysOf (pairs ++ [(key, value)]) = keysOf pairs ++ [key] := by
  have hm := mt mem_keysOf.2 h
  rw [keysOf, List.map_append, List.eraseDups_append]
  simp only [List.map_cons, List.map_nil, List.removeAll, List.filter_cons, List.elem_eq_mem, hm]
  simp [keysOf, List.eraseDups_cons]

end Formwork
