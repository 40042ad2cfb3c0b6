import Formwork.Route.Basic
import Mathlib.Data.List.Basic

/-! # Routes in a tree of groups

A route stands in a tree behind the groups around it, from the root inwards
(`Group.Declares`). What is resolved from the tree are these routes, each within what
its own groups contribute (`Group.mem_resolve_iff`): nothing passes from one group to
another beside it. So the order of what stands side by side in a tree decides about the
order of the resolved routes, and about nothing else (`Group.Rearranges.perm_resolve`).
-/

namespace Formwork

namespace Route

variable {M A : Type} (e : Enclosure M) (r : Route M A)

@[simp] theorem verb_within : (r.within e).verb = r.verb := by unfold within; rfl

@[simp] theorem action_within : (r.within e).action = r.action := by unfold within; rfl

@[simp] theorem path_within : (r.within e).path = joinPath e.path r.path := by simp only [within]

@[simp] theorem middlewares_within :
    (r.within e).middlewares = e.middlewares ++ r.middlewares := by unfold within; rfl

end Route

namespace Group

variable {M A : Type}

/-! What a group itself was declared with. -/

def path : Group M A → String
  | .mk path _ _ _ _ => path

def name : Group M A → String
  | .mk _ name _ _ _ => name

def middlewares : Group M A → List M
  | .mk _ _ middlewares _ _ => middlewares

def routes : Group M A → List (Route M A)
  | .mk _ _ _ routes _ => routes

def groups : Group M A → List (Group M A)
  | .mk _ _ _ _ groups => groups

/-- The route is declared in the tree, in the last of the groups, each of which is
declared in the one before. The first is the root. -/
inductive Declares : Group M A → List (Group M A) → Route M A → Prop
  | here {g : Group M A} {r : Route M A} (declared : r ∈ g.routes) : Declares g [g] r
  | inside {g inner : Group M A} {groups : List (Group M A)} {r : Route M A}
      (declared : inner ∈ g.groups) (deeper : Declares inner groups r) :
      Declares g (g :: groups) r

/-- What groups contribute to a route in the last of them, behind what is around them. -/
def enclosure (e : Route.Enclosure M) (groups : List (Group M A)) : Route.Enclosure M :=
  groups.foldl (fun e g => ⟨e.path ++ g.path, e.name ++ g.name, e.middlewares ++ g.middlewares⟩) e

theorem middlewares_enclosure (e : Route.Enclosure M) (groups : List (Group M A)) :
    (enclosure e groups).middlewares = e.middlewares ++ groups.flatMap middlewares := by
  induction groups generalizing e with
  | nil => simp [enclosure]
  | cons g groups ih =>
      show (enclosure ⟨_, _, _⟩ groups).middlewares = _
      rw [ih, List.flatMap_cons, List.append_assoc]

theorem resolveAllWithin_eq (e : Route.Enclosure M) (groups : List (Group M A)) :
    resolveAllWithin e groups = groups.flatMap (resolveWithin e) := by
  induction groups with
  | nil => rfl
  | cons g groups ih => rw [resolveAllWithin, ih, List.flatMap_cons]

theorem resolveWithin_eq (e : Route.Enclosure M) (g : Group M A) :
    g.resolveWithin e = g.routes.map (Route.within (enclosure e [g])) ++
      g.groups.flatMap (resolveWithin (enclosure e [g])) := by
  cases g with
  | mk path name middlewares routes groups =>
      rw [resolveWithin, resolveAllWithin_eq]
      rfl

mutual

/-- What a tree declares stands in a list, and the tree is resolved along it: each route
within its own groups. -/
theorem exists_declarations : (g : Group M A) →
    ∃ declared : List (List (Group M A) × Route M A),
      (∀ groups r, (groups, r) ∈ declared ↔ g.Declares groups r) ∧
      ∀ e, g.resolveWithin e = declared.map fun d => d.2.within (enclosure e d.1)
  | .mk path name middlewares routes groups => by
      obtain ⟨deeper, hmem, hdeeper⟩ := exists_allDeclarations groups
      let g : Group M A := .mk path name middlewares routes groups
      refine ⟨routes.map (fun r => ([g], r)) ++ deeper.map (fun d => (g :: d.1, d.2)), ?_, ?_⟩
      · intro around r
        rw [List.mem_append, List.mem_map, List.mem_map]
        constructor
        · rintro (⟨_, hr, he⟩ | ⟨d, hd, he⟩)
          · cases he
            exact .here hr
          · cases he
            obtain ⟨inner, hi, hdeclares⟩ := (hmem _ _).1 hd
            exact .inside hi hdeclares
        · rintro (hr | ⟨hi, hdeclares⟩)
          · exact .inl ⟨r, hr, rfl⟩
          · exact .inr ⟨_, (hmem _ _).2 ⟨_, hi, hdeclares⟩, rfl⟩
      · intro e
        rw [resolveWithin_eq, List.map_append, List.map_map, List.map_map]
        exact congrArg₂ _ rfl (hdeeper _)

/-- The same of trees side by side. -/
theorem exists_allDeclarations : (groups : List (Group M A)) →
    ∃ declared : List (List (Group M A) × Route M A),
      (∀ around r, (around, r) ∈ declared ↔ ∃ g ∈ groups, g.Declares around r) ∧
      ∀ e, groups.flatMap (resolveWithin e) = declared.map fun d => d.2.within (enclosure e d.1)
  | [] => ⟨[], by simp, fun _ => rfl⟩
  | g :: groups => by
      obtain ⟨first, hfirst, hg⟩ := exists_declarations g
      obtain ⟨others, hothers, hgroups⟩ := exists_allDeclarations groups
      refine ⟨first ++ others, fun around r => ?_, fun e => ?_⟩
      · rw [List.mem_append, hfirst, hothers, List.exists_mem_cons_iff]
      · rw [List.flatMap_cons, List.map_append, hg, hgroups]

end

/-- Resolved are the routes that the tree declares, each within its own groups. -/
theorem mem_resolve_iff {g : Group M A} {resolved : Route M A} :
    resolved ∈ g.resolve ↔
      ∃ groups r, g.Declares groups r ∧ resolved = r.within (enclosure {} groups) := by
  obtain ⟨declared, hmem, hresolve⟩ := exists_declarations g
  rw [resolve, hresolve, List.mem_map]
  constructor
  · rintro ⟨⟨groups, r⟩, hd, rfl⟩
    exact ⟨groups, r, (hmem _ _).1 hd, rfl⟩
  · rintro ⟨groups, r, hd, rfl⟩
    exact ⟨(groups, r), (hmem _ _).2 hd, rfl⟩

/-- Resolved paths begin with a slash. -/
theorem hasHead_path_of_mem_resolve {g : Group M A} {resolved : Route M A}
    (h : resolved ∈ g.resolve) : Text.hasHead "/" resolved.path = true := by
  obtain ⟨groups, r, _, rfl⟩ := mem_resolve_iff.1 h
  rw [Route.path_within]
  exact hasHead_joinPath _ _

/-! ## Trees in another order -/

/-- The trees differ only in the order of the routes of groups and of groups beside each
other. -/
inductive Rearranges : Group M A → Group M A → Prop
  | routes {path name : String} {middlewares : List M} {routes others : List (Route M A)}
      {groups : List (Group M A)} (perm : routes.Perm others) :
      Rearranges (.mk path name middlewares routes groups) (.mk path name middlewares others groups)
  | groups {path name : String} {middlewares : List M} {routes : List (Route M A)}
      {groups others : List (Group M A)} (perm : groups.Perm others) :
      Rearranges (.mk path name middlewares routes groups) (.mk path name middlewares routes others)
  | inside {path name : String} {middlewares : List M} {routes : List (Route M A)}
      {before after : List (Group M A)} {g other : Group M A} (inner : Rearranges g other) :
      Rearranges (.mk path name middlewares routes (before ++ g :: after))
        (.mk path name middlewares routes (before ++ other :: after))
  | trans {g middle other : Group M A} (first : Rearranges g middle)
      (second : Rearranges middle other) : Rearranges g other

theorem Rearranges.perm_resolveWithin {g other : Group M A} (h : g.Rearranges other)
    (e : Route.Enclosure M) : (g.resolveWithin e).Perm (other.resolveWithin e) := by
  induction h generalizing e with
  | routes perm =>
      rw [resolveWithin_eq, resolveWithin_eq]
      exact (perm.map _).append_right _
  | groups perm =>
      rw [resolveWithin_eq, resolveWithin_eq]
      exact (perm.flatMap_right _).append_left _
  | @inside path name middlewares routes before after g other _ ih =>
      rw [resolveWithin_eq, resolveWithin_eq]
      apply List.Perm.append_left
      simp only [Group.groups, List.flatMap_append, List.flatMap_cons]
      exact ((ih _).append_right _).append_left _
  | trans _ _ first second => exact (first e).trans (second e)

theorem Rearranges.perm_resolve {g other : Group M A} (h : g.Rearranges other) :
    g.resolve.Perm other.resolve := h.perm_resolveWithin {}

end Group

end Formwork
