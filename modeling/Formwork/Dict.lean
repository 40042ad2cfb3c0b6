/-! # Dictionaries with text keys

A dictionary keeps its entries in the order in which their keys first came, each
key once. Its meaning is the look-up `get?`, that of lists of pairs; the lemmas say
what each operation does to it. Two dictionaries with the same look-ups are `Same`,
whatever the order of their entries.
-/

namespace Formwork

/-! ## Pairs of keys and values -/

namespace Pairs

variable {κ α : Type} [DecidableEq κ] {key : κ} {value : α} {pairs others : List (κ × α)}

/-- The step of a look-up, with a proposition to decide. -/
theorem lookup_cons (key : κ) (pair : κ × α) (pairs : List (κ × α)) :
    (pair :: pairs).lookup key = if key = pair.1 then some pair.2 else pairs.lookup key := by
  rw [List.lookup_cons]
  split
  · rename_i h
    rw [if_pos (eq_of_beq h)]
  · rename_i h
    rw [if_neg (ne_of_beq_false h)]

theorem mem_of_lookup (h : pairs.lookup key = some value) : (key, value) ∈ pairs := by
  obtain ⟨before, after, rfl, _⟩ := List.lookup_eq_some_iff.1 h
  exact List.mem_append_right _ List.mem_cons_self

theorem isSome_lookup_iff : (pairs.lookup key).isSome = true ↔ key ∈ pairs.map Prod.fst := by
  rw [List.lookup_isSome_iff, List.mem_map]
  simp only [beq_iff_eq, eq_comm (a := key)]

theorem lookup_eq_none_iff : pairs.lookup key = none ↔ key ∉ pairs.map Prod.fst := by
  rw [← isSome_lookup_iff, Option.not_isSome_iff_eq_none]

/-- Where no key comes twice, a look-up finds what stands beside its key. -/
theorem lookup_eq_some_iff (distinct : (pairs.map Prod.fst).Nodup) :
    pairs.lookup key = some value ↔ (key, value) ∈ pairs := by
  refine ⟨mem_of_lookup, fun hm => ?_⟩
  obtain ⟨before, after, rfl⟩ := List.append_of_mem hm
  refine List.lookup_eq_some_iff.2 ⟨before, after, rfl, fun other ho => ?_⟩
  rw [List.map_append, List.nodup_append] at distinct
  have hne : other.1 ≠ key := distinct.2.2 _ (List.mem_map_of_mem ho) _ (by simp)
  exact bne_iff_ne.2 hne.symm

/-- Where no key comes twice, the order of the pairs does not count. -/
theorem lookup_perm (distinct : (pairs.map Prod.fst).Nodup) (perm : others.Perm pairs) (key : κ) :
    others.lookup key = pairs.lookup key := by
  apply Option.ext
  intro value
  rw [lookup_eq_some_iff distinct, lookup_eq_some_iff ((perm.map _).nodup_iff.2 distinct)]
  exact perm.mem_iff

/-- Of pairs picked by their keys, all with a key are picked or none. -/
theorem lookup_filter (picks : κ → Bool) (key : κ) (pairs : List (κ × α)) :
    (pairs.filter fun pair => picks pair.1).lookup key =
      if picks key then pairs.lookup key else none := by
  induction pairs with
  | nil => simp
  | cons pair pairs ih =>
    by_cases hk : key = pair.1
    · subst hk
      by_cases hp : picks pair.1 = true
      · simp [hp, lookup_cons]
      · simpa [hp] using ih
    · by_cases hp : picks pair.1 = true <;> simp [hp, lookup_cons, hk, ih]

end Pairs

/-! ## Dictionaries -/

/-- Entries with distinct keys, in order of first insertion. -/
structure Dict (α : Type) where
  entries : List (String × α)
  nodup : (entries.map Prod.fst).Nodup := by simp
deriving DecidableEq

namespace Dict

variable {α β : Type}

/-- The entries with `key` bound to `value`: in place if the key is present, at
the end otherwise. -/
def put (key : String) (value : α) : List (String × α) → List (String × α)
  | [] => [(key, value)]
  | entry :: rest =>
    if entry.1 = key then (key, value) :: rest else entry :: put key value rest

theorem keys_put (key : String) (value : α) (entries : List (String × α)) :
    (put key value entries).map Prod.fst =
      if key ∈ entries.map Prod.fst then entries.map Prod.fst
      else entries.map Prod.fst ++ [key] := by
  induction entries with
  | nil => rfl
  | cons entry rest ih =>
    by_cases h : entry.1 = key
    · simp [put, h]
    · have h' : ¬ key = entry.1 := fun e => h e.symm
      simp only [put, h, if_false, List.map_cons, ih, List.mem_cons, h', false_or]
      split <;> simp

theorem nodup_put {key : String} {value : α} {entries : List (String × α)}
    (h : (entries.map Prod.fst).Nodup) : ((put key value entries).map Prod.fst).Nodup := by
  rw [keys_put]
  split
  · exact h
  · rename_i hk
    rw [List.nodup_append]
    refine ⟨h, by simp, ?_⟩
    intro a ha b hb
    simp at hb
    subst hb
    exact fun e => hk (e ▸ ha)

/-- No entries. -/
def empty : Dict α := ⟨[], by simp⟩

instance : EmptyCollection (Dict α) := ⟨empty⟩
instance : Inhabited (Dict α) := ⟨empty⟩

/-- The value bound to a key. -/
def get? (d : Dict α) (key : String) : Option α := d.entries.lookup key

/-- The key is bound. -/
def contains (d : Dict α) (key : String) : Bool := (d.get? key).isSome

/-- Binds `key` to `value`. -/
def insert (d : Dict α) (key : String) (value : α) : Dict α :=
  ⟨put key value d.entries, nodup_put d.nodup⟩

/-- Removes a key. -/
def erase (d : Dict α) (key : String) : Dict α :=
  ⟨d.entries.filter fun entry => entry.1 != key,
    d.nodup.sublist (List.filter_sublist.map Prod.fst)⟩

/-- The number of entries. -/
def size (d : Dict α) : Nat := d.entries.length

/-- No key is bound. -/
def isEmpty (d : Dict α) : Bool := d.entries.isEmpty

/-- The keys in order. -/
def keys (d : Dict α) : List String := d.entries.map Prod.fst

/-- Binds the keys of a list in order; a later pair replaces an earlier one. -/
def ofList (pairs : List (String × α)) : Dict α :=
  pairs.foldl (fun d pair => d.insert pair.1 pair.2) ∅

/-- The dictionaries bind the same keys to the same values. -/
def Same (a b : Dict α) : Prop := ∀ key, a.get? key = b.get? key

@[simp] theorem get?_empty (key : String) : (∅ : Dict α).get? key = none := rfl

theorem lookup_put (key other : String) (value : α) (entries : List (String × α)) :
    (put key value entries).lookup other =
      if other = key then some value else entries.lookup other := by
  induction entries with
  | nil => simp [put, Pairs.lookup_cons]
  | cons entry rest ih =>
    by_cases hk : entry.1 = key
    · subst hk
      by_cases h : other = entry.1 <;> simp [put, Pairs.lookup_cons, h]
    · by_cases h : other = entry.1
      · subst h; simp [put, Pairs.lookup_cons, hk]
      · simp [put, Pairs.lookup_cons, hk, h, ih]

@[simp] theorem get?_insert (d : Dict α) (key other : String) (value : α) :
    (d.insert key value).get? other = if other = key then some value else d.get? other :=
  lookup_put key other value d.entries

@[simp] theorem get?_erase (d : Dict α) (key other : String) :
    (d.erase key).get? other = if other = key then none else d.get? other := by
  rw [get?, erase, Pairs.lookup_filter (· != key)]
  by_cases h : other = key <;> simp [h, get?]

/-! ## Entries and look-ups -/

theorem get?_eq_some_iff {d : Dict α} {key : String} {value : α} :
    d.get? key = some value ↔ (key, value) ∈ d.entries :=
  Pairs.lookup_eq_some_iff d.nodup

theorem isEmpty_iff {d : Dict α} : d.isEmpty = true ↔ ∀ key, d.get? key = none := by
  constructor
  · intro h key
    have he : d.entries = [] := List.isEmpty_iff.1 h
    simp [get?, he]
  · intro h
    cases he : d.entries with
    | nil => simp [isEmpty, he]
    | cons entry rest =>
        have hm : (entry.1, entry.2) ∈ d.entries := by simp [he]
        rw [← get?_eq_some_iff, h] at hm
        cases hm

theorem put_of_not_mem {key : String} {value : α} {entries : List (String × α)}
    (h : key ∉ entries.map Prod.fst) : put key value entries = entries ++ [(key, value)] := by
  induction entries with
  | nil => rfl
  | cons entry rest ih =>
      simp only [List.map_cons, List.mem_cons, not_or] at h
      have hk : ¬ entry.1 = key := fun e => h.1 e.symm
      simp only [put, hk, if_false, ih h.2, List.cons_append]

/-- Pairs with distinct keys are the entries of their dictionary. -/
theorem entries_ofList {pairs : List (String × α)} (hn : (pairs.map Prod.fst).Nodup) :
    (ofList pairs).entries = pairs := by
  -- the pairs taken so far stand in front of those to come, all with distinct keys
  suffices h : ∀ (rest : List (String × α)) (d : Dict α),
      ((d.entries ++ rest).map Prod.fst).Nodup →
        (rest.foldl (fun d pair => d.insert pair.1 pair.2) d).entries = d.entries ++ rest by
    exact h pairs ∅ hn
  intro rest
  induction rest with
  | nil => intro d _; simp
  | cons pair rest ih =>
      intro d hd
      have hk : pair.1 ∉ d.entries.map Prod.fst := by
        rw [List.map_append, List.nodup_append] at hd
        intro hm
        exact hd.2.2 _ hm pair.1 (by simp) rfl
      have hi : (d.insert pair.1 pair.2).entries = d.entries ++ [pair] := put_of_not_mem hk
      have hr := ih (d.insert pair.1 pair.2) (by rw [hi]; simpa using hd)
      rw [List.foldl_cons, hr, hi, List.append_assoc, List.singleton_append]

/-- Of several pairs with one key the last counts. -/
theorem get?_ofList (pairs : List (String × α)) (key : String) :
    (ofList pairs).get? key = pairs.reverse.lookup key := by
  -- the pairs taken so far count where none of those to come has the key
  suffices h : ∀ (rest : List (String × α)) (d : Dict α),
      (rest.foldl (fun d pair => d.insert pair.1 pair.2) d).get? key =
        (rest.reverse.lookup key).or (d.get? key) by
    rw [ofList, h, get?_empty, Option.or_none]
  intro rest
  induction rest with
  | nil => intro d; rfl
  | cons pair rest ih =>
      intro d
      rw [List.foldl_cons, ih, get?_insert, List.reverse_cons, List.lookup_append,
        Pairs.lookup_cons, Option.or_assoc]
      by_cases hk : key = pair.1 <;> simp [hk]

end Dict

end Formwork
