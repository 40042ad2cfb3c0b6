import Mathlib.Data.List.Forall2

/-! # Sequences that may fail

A sequence of steps succeeds exactly if each step does. This is said of two steps, of
the reading of a list, and of two steps that share a state.
-/

namespace Formwork

theorem nodup_eraseDups {α : Type} [BEq α] [LawfulBEq α] (xs : List α) : xs.eraseDups.Nodup := by
  cases xs with
  | nil => simp
  | cons x xs =>
      rw [List.eraseDups_cons, List.nodup_cons]
      constructor
      · simp [List.mem_eraseDups]
      · exact nodup_eraseDups _
  termination_by xs.length
  decreasing_by
    have hle := List.length_filter_le (fun other => !other == x) xs
    simp only [List.length_cons]
    omega

theorem bind_eq_ok {α β ε : Type} {x : Except ε α} {f : α → Except ε β} {b : β} :
    x >>= f = .ok b ↔ ∃ a, x = .ok a ∧ f a = .ok b := by
  cases x <;> simp [bind, Except.bind]

theorem map_eq_ok {α β ε : Type} {x : Except ε α} {f : α → β} {b : β} :
    x.map f = .ok b ↔ ∃ a, x = .ok a ∧ f a = b := by
  cases x <;> simp [Except.map]

theorem map_eq_error {α β ε : Type} {x : Except ε α} {f : α → β} {e : ε} :
    x.map f = .error e ↔ x = .error e := by
  cases x <;> simp [Except.map]

/-- A list is read if each of its elements is. -/
theorem forall₂_of_mapM_eq_ok {α β ε : Type} {f : α → Except ε β} {xs : List α} {ys : List β}
    (h : xs.mapM f = .ok ys) : List.Forall₂ (fun x y => f x = .ok y) xs ys := by
  induction xs generalizing ys with
  | nil =>
      cases h
      exact .nil
  | cons x xs ih =>
      rw [List.mapM_cons] at h
      obtain ⟨y, hy, h⟩ := bind_eq_ok.1 h
      obtain ⟨rest, hrest, h⟩ := bind_eq_ok.1 h
      cases h
      exact .cons hy (ih hrest)

theorem mapM_eq_ok_of_forall₂ {α β ε : Type} {f : α → Except ε β} {xs : List α} {ys : List β}
    (h : List.Forall₂ (fun x y => f x = .ok y) xs ys) : xs.mapM f = .ok ys := by
  induction h with
  | nil => rfl
  | cons hxy _ ih =>
      rw [List.mapM_cons]
      exact bind_eq_ok.2 ⟨_, hxy, bind_eq_ok.2 ⟨_, ih, rfl⟩⟩

theorem exists_mapM_eq_ok_iff {α β ε : Type} {f : α → Except ε β} {xs : List α} :
    (∃ ys, xs.mapM f = .ok ys) ↔ ∀ x ∈ xs, ∃ y, f x = .ok y := by
  induction xs with
  | nil => exact iff_of_true ⟨[], rfl⟩ nofun
  | cons x xs ih =>
      rw [List.forall_mem_cons, ← ih, List.mapM_cons]
      constructor
      · rintro ⟨ys, h⟩
        obtain ⟨y, hy, h⟩ := bind_eq_ok.1 h
        obtain ⟨rest, hrest, _⟩ := bind_eq_ok.1 h
        exact ⟨⟨y, hy⟩, rest, hrest⟩
      · rintro ⟨⟨y, hy⟩, rest, hrest⟩
        exact ⟨y :: rest, bind_eq_ok.2 ⟨y, hy, bind_eq_ok.2 ⟨rest, hrest, rfl⟩⟩⟩

/-- A list is not read because of its first element that is not. -/
theorem mapM_eq_error_iff {α β ε : Type} {f : α → Except ε β} {xs : List α} {e : ε} :
    xs.mapM f = .error e ↔
      ∃ front x back, xs = front ++ x :: back ∧ (∀ y ∈ front, ∃ z, f y = .ok z) ∧
        f x = .error e := by
  induction xs with
  | nil =>
      refine iff_of_false nofun ?_
      rintro ⟨front, x, back, h, _⟩
      simp at h
  | cons y xs ih =>
      rw [List.mapM_cons]
      constructor
      · intro h
        cases hy : f y with
        | error found =>
            rw [hy] at h
            cases h
            exact ⟨[], y, xs, rfl, nofun, hy⟩
        | ok z =>
            rw [hy] at h
            cases hrest : xs.mapM f with
            | ok zs =>
                rw [hrest] at h
                cases h
            | error found =>
                rw [hrest] at h
                cases h
                obtain ⟨front, x, back, rfl, hfront, hx⟩ := ih.1 hrest
                exact ⟨y :: front, x, back, rfl, List.forall_mem_cons.2 ⟨⟨z, hy⟩, hfront⟩, hx⟩
      · rintro ⟨front, x, back, hxs, hfront, hx⟩
        cases front with
        | nil =>
            cases hxs
            rw [hx]
            rfl
        | cons first front =>
            cases hxs
            rw [List.forall_mem_cons] at hfront
            obtain ⟨⟨z, hz⟩, hfront⟩ := hfront
            rw [hz, ih.2 ⟨front, x, back, rfl, hfront, hx⟩]
            rfl

/-- What was read comes from an element. -/
theorem exists_of_mem_of_mapM {α β ε : Type} {f : α → Except ε β} {xs : List α} {ys : List β}
    (h : xs.mapM f = .ok ys) {y : β} (hy : y ∈ ys) : ∃ x ∈ xs, f x = .ok y := by
  have hall := forall₂_of_mapM_eq_ok h
  clear h
  induction hall with
  | nil => cases hy
  | cons hxy _ ih =>
      rcases List.mem_cons.1 hy with rfl | hy
      · exact ⟨_, List.mem_cons_self, hxy⟩
      · obtain ⟨x, hx, he⟩ := ih hy
        exact ⟨x, List.mem_cons_of_mem _ hx, he⟩

theorem mapM_congr {α β ε : Type} {f g : α → Except ε β} {xs : List α}
    (h : ∀ x ∈ xs, f x = g x) : xs.mapM f = xs.mapM g := by
  induction xs with
  | nil => rfl
  | cons x xs ih =>
      rw [List.forall_mem_cons] at h
      rw [List.mapM_cons, List.mapM_cons, h.1, ih h.2]

/-- A test that never fails finds what the plain test finds. -/
theorem anyM_eq_ok {α ε : Type} {f : α → Except ε Bool} {p : α → Bool} {xs : List α}
    (h : ∀ x ∈ xs, f x = .ok (p x)) : xs.anyM f = .ok (xs.any p) := by
  induction xs with
  | nil => rfl
  | cons x xs ih =>
      rw [List.forall_mem_cons] at h
      rw [List.anyM_cons, h.1, List.any_cons, ih h.2]
      cases p x <;> rfl

theorem findM?_eq_ok {α ε : Type} {f : α → Except ε Bool} {p : α → Bool} {xs : List α}
    (h : ∀ x ∈ xs, f x = .ok (p x)) : xs.findM? f = .ok (xs.find? p) := by
  induction xs with
  | nil => rfl
  | cons x xs ih =>
      rw [List.forall_mem_cons] at h
      rw [List.findM?, h.1, List.find?_cons, ih h.2]
      cases p x <;> rfl

/-- A list is read where each of its elements can be. -/
theorem exists_forall₂_of_mapM {α β : Type} {f : α → Option β} {xs : List α}
    (h : ∀ x ∈ xs, (f x).isSome = true) :
    ∃ ys, xs.mapM f = some ys ∧ List.Forall₂ (fun x y => f x = some y) xs ys := by
  induction xs with
  | nil => exact ⟨[], rfl, .nil⟩
  | cons x xs ih =>
      rw [List.forall_mem_cons] at h
      obtain ⟨y, hy⟩ := Option.isSome_iff_exists.1 h.1
      obtain ⟨ys, hm, hall⟩ := ih h.2
      exact ⟨y :: ys, by simp [List.mapM_cons, hy, hm], .cons hy hall⟩

theorem mapM_eq_none {α β : Type} {f : α → Option β} {xs : List α} {x : α} (hx : x ∈ xs)
    (h : f x = none) : xs.mapM f = none := by
  induction xs with
  | nil => cases hx
  | cons y xs ih =>
      rw [List.mapM_cons]
      rcases List.mem_cons.1 hx with rfl | hx
      · simp [h]
      · cases f y with
        | none => rfl
        | some z => simp [ih hx]

theorem run_bind {ε α β S : Type} (x : ExceptT ε (StateM S) α)
    (f : α → ExceptT ε (StateM S) β) (state : S) :
    (x >>= f).run state = match x.run state with
      | (.ok a, middle) => (f a).run middle
      | (.error e, middle) => (.error e, middle) := by
  simp only [ExceptT.run_bind]
  cases hx : x.run state with
  | mk result middle =>
      simp only [bind, StateT.bind, hx]
      cases result <;> rfl

theorem run_bind_eq_ok {ε α β S : Type} {x : ExceptT ε (StateM S) α}
    {f : α → ExceptT ε (StateM S) β} {state later : S} {b : β} :
    (x >>= f).run state = (.ok b, later) ↔
      ∃ a middle, x.run state = (.ok a, middle) ∧ (f a).run middle = (.ok b, later) := by
  rw [run_bind]
  cases hx : x.run state with
  | mk result middle =>
      cases result with
      | ok a =>
          constructor
          · intro h
            exact ⟨a, middle, rfl, h⟩
          · rintro ⟨a', middle', he, h⟩
            cases he
            exact h
      | error e =>
          constructor
          · intro h
            cases h
          · rintro ⟨a', middle', he, h⟩
            cases he

theorem exists_run_eq_ok_iff {ε α S : Type} {x : ExceptT ε (StateM S) α} {state : S} :
    (∃ a later, x.run state = (.ok a, later)) ↔ ∃ a, (x.run state).1 = .ok a := by
  constructor
  · rintro ⟨a, later, h⟩
    exact ⟨a, congrArg Prod.fst h⟩
  · rintro ⟨a, h⟩
    exact ⟨a, (x.run state).2, Prod.ext h rfl⟩

/-- A step that changes the result only. -/
theorem run_bind_pure {ε α β S : Type} (x : ExceptT ε (StateM S) α) (f : α → β) (state : S) :
    (x >>= fun a => pure (f a)).run state = ((x.run state).1.map f, (x.run state).2) := by
  rw [run_bind]
  cases x.run state with
  | mk result later => cases result <;> rfl

end Formwork
