import Formwork.Proofs.Route.Names
import Formwork.Proofs.Route.Tree

/-! # Names in a tree of groups

The full name of a route consists of the names of the groups around it, from the root inwards,
and its own. So different branches of a tree can give the same full name: a route `b` in a group
`a.`, and a route `a.b` beside the group. That is allowed where both have the same path. A tree
has a table exactly if all full names are used in this way, and the table holds just these names;
otherwise the error tells one that is not (`Group.ofRoutes_resolve`).
-/

namespace Formwork

namespace RouteTable

variable {M A : Type} {routes others : List (Route M A)} {t : RouteTable} {r : Route M A}
  {e : RouteError}

/-- A route is refused whose name stands for another path. -/
theorem add_eq_error_iff :
    t.add r = .error e ↔
      r.name.isEmpty = false ∧ e = .duplicateName r.name ∧
        ∃ path, t.paths.get? r.name = some path ∧ path ≠ r.path := by
  unfold add
  by_cases hname : r.name.isEmpty = true
  · simp [hname]
  · rw [if_neg hname]
    cases hp : t.paths.get? r.name with
    | none => simp
    | some path =>
        by_cases hsame : path = r.path
        · simp [hsame]
        · simp [hname, hsame, eq_comm]

theorem foldlM_add_eq_error (h : routes.foldlM add t = .error e) :
    ∃ front r back middle, routes = front ++ r :: back ∧ front.foldlM add t = .ok middle ∧
      middle.add r = .error e := by
  induction routes generalizing t with
  | nil => cases h
  | cons first routes ih =>
      rw [List.foldlM_cons] at h
      cases hadd : t.add first with
      | error found =>
          rw [hadd] at h
          cases h
          exact ⟨[], first, routes, t, rfl, rfl, hadd⟩
      | ok next =>
          rw [hadd] at h
          obtain ⟨front, r, back, middle, rfl, hfront, hr⟩ := ih h
          refine ⟨first :: front, r, back, middle, rfl, ?_, hr⟩
          rw [List.foldlM_cons]
          exact bind_eq_ok.2 ⟨next, hadd, hfront⟩

/-- The error tells a name that two routes have, with different paths. -/
theorem of_ofRoutes_eq_error (h : ofRoutes routes = .error e) :
    ∃ r ∈ routes, ∃ other ∈ routes, r.name.isEmpty = false ∧ other.name = r.name ∧
      other.path ≠ r.path ∧ e = .duplicateName r.name := by
  obtain ⟨front, r, back, middle, rfl, hfront, hr⟩ := foldlM_add_eq_error h
  obtain ⟨hname, he, path, hp, hne⟩ := add_eq_error_iff.1 hr
  obtain ⟨other, ho, _, hsame, rfl⟩ := (get?_ofRoutes_iff hfront).1 hp
  exact ⟨r, by simp, other, List.mem_append_left _ ho, hname, hsame, hne, he⟩

/-- Both are tables that hold the same paths for the same names, or both are errors about a name
that is used for different paths. -/
inductive SameOutcome : Except RouteError RouteTable → Except RouteError RouteTable → Prop
  | tables {t u : RouteTable} (same : t.paths.Same u.paths) : SameOutcome (.ok t) (.ok u)
  | errors {name other : String} :
      SameOutcome (.error (.duplicateName name)) (.error (.duplicateName other))

theorem sameOutcome_of_perm (hp : routes.Perm others) :
    SameOutcome (ofRoutes routes) (ofRoutes others) := by
  by_cases hc : Consistent routes
  · obtain ⟨t, ht⟩ := exists_ofRoutes_iff.2 hc
    obtain ⟨u, hu⟩ := exists_ofRoutes_iff.2 (hc.perm hp)
    rw [ht, hu]
    exact .tables (same_of_perm hp ht hu)
  · have hother : ¬ Consistent others := fun h => hc (h.perm hp.symm)
    cases ht : ofRoutes routes with
    | ok t => exact absurd (exists_ofRoutes_iff.1 ⟨t, ht⟩) hc
    | error e =>
        cases hu : ofRoutes others with
        | ok u => exact absurd (exists_ofRoutes_iff.1 ⟨u, hu⟩) hother
        | error f =>
            obtain ⟨r, _, _, _, _, _, _, rfl⟩ := of_ofRoutes_eq_error ht
            obtain ⟨s, _, _, _, _, _, _, rfl⟩ := of_ofRoutes_eq_error hu
            exact .errors

end RouteTable

namespace Group

variable {M A : Type} {g : Group M A} {name path : String}

/-- The names of groups from the root inwards, and then a route's own. -/
def fullName (groups : List (Group M A)) (r : Route M A) : String :=
  groups.foldr (fun g rest => g.name ++ rest) r.name

theorem name_enclosure (e : Route.Enclosure M) (groups : List (Group M A)) (r : Route M A) :
    (enclosure e groups).name ++ r.name = e.name ++ fullName groups r := by
  induction groups generalizing e with
  | nil => rfl
  | cons g groups ih =>
      show (enclosure ⟨_, _, _⟩ groups).name ++ r.name = e.name ++ (g.name ++ fullName groups r)
      rw [ih, String.append_assoc]

/-- The tree declares a route that has a name, and with the groups around it this full name and
this path. -/
def Names (g : Group M A) (name path : String) : Prop :=
  ∃ groups r, g.Declares groups r ∧ r.name ≠ "" ∧ fullName groups r = name ∧
    Route.joinPath (enclosure {} groups).path r.path = path

theorem name_within (groups : List (Group M A)) {r : Route M A} (h : r.name ≠ "") :
    (r.within (enclosure {} groups)).name = fullName groups r := by
  have hname := name_enclosure {} groups r
  rw [String.empty_append] at hname
  simp [Route.within, h, hname]

theorem isEmpty_fullName (groups : List (Group M A)) {r : Route M A} (h : r.name ≠ "") :
    (fullName groups r).isEmpty = false := by
  induction groups with
  | nil => simpa [fullName] using h
  | cons g groups ih =>
      show (g.name ++ fullName groups r).isEmpty = false
      simp_all

theorem names_iff :
    g.Names name path ↔
      ∃ r ∈ g.resolve, r.name.isEmpty = false ∧ r.name = name ∧ r.path = path := by
  constructor
  · rintro ⟨groups, r, hd, hr, rfl, rfl⟩
    refine ⟨_, mem_resolve_iff.2 ⟨groups, r, hd, rfl⟩, ?_, name_within groups hr,
      Route.path_within _ _⟩
    rw [name_within groups hr]
    exact isEmpty_fullName groups hr
  · rintro ⟨_, hm, hname, rfl, rfl⟩
    obtain ⟨groups, r, hd, rfl⟩ := mem_resolve_iff.1 hm
    have hr : r.name ≠ "" := by
      intro hempty
      simp [Route.within, hempty] at hname
    exact ⟨groups, r, hd, hr, (name_within groups hr).symm, (Route.path_within _ _).symm⟩

theorem consistent_resolve_iff :
    RouteTable.Consistent g.resolve ↔
      ∀ name path other, g.Names name path → g.Names name other → path = other := by
  simp only [names_iff]
  constructor
  · rintro h name _ _ ⟨r, hr, hname, rfl, rfl⟩ ⟨s, hs, _, hsame, rfl⟩
    exact (h r hr s hs hname hsame).symm
  · intro h r hr s hs hname hsame
    exact h r.name s.path r.path ⟨s, hs, by rw [hsame, hname], hsame, rfl⟩ ⟨r, hr, hname, rfl, rfl⟩

/-- Full names form a function or there is no table. The table of a tree holds exactly its full
names, each with the path of all routes that bear it; the error tells a full name with two paths.
Routes in another order have the same outcome, but for the name that the error tells. -/
theorem ofRoutes_resolve (g : Group M A) :
    ((∃ t, RouteTable.ofRoutes g.resolve = .ok t) ↔
      ∀ name path other, g.Names name path → g.Names name other → path = other) ∧
    (∀ t, RouteTable.ofRoutes g.resolve = .ok t →
      ∀ name, (t.contains name = true ↔ ∃ path, g.Names name path) ∧
        ∀ path, t.pattern? name = some path ↔ g.Names name path) ∧
    (∀ e, RouteTable.ofRoutes g.resolve = .error e →
      ∃ name path other, e = .duplicateName name ∧ g.Names name path ∧ g.Names name other ∧
        path ≠ other) ∧
    ∀ routes, g.resolve.Perm routes →
      RouteTable.SameOutcome (RouteTable.ofRoutes g.resolve) (RouteTable.ofRoutes routes) := by
  refine ⟨?_, ?_, ?_, fun _ => RouteTable.sameOutcome_of_perm⟩
  · rw [RouteTable.exists_ofRoutes_iff, consistent_resolve_iff]
  · intro t ht name
    have hpattern : ∀ path, t.pattern? name = some path ↔ g.Names name path := by
      intro path
      rw [names_iff]
      exact RouteTable.get?_ofRoutes_iff ht
    refine ⟨?_, hpattern⟩
    show (t.pattern? name).isSome = true ↔ _
    simp only [Option.isSome_iff_exists, hpattern]
  · intro e he
    obtain ⟨r, hr, s, hs, hname, hsame, hne, rfl⟩ := RouteTable.of_ofRoutes_eq_error he
    refine ⟨r.name, s.path, r.path, rfl, names_iff.2 ⟨s, hs, by rw [hsame, hname], hsame, rfl⟩,
      names_iff.2 ⟨r, hr, hname, rfl, rfl⟩, hne⟩

/-- A route `a.b` beside a group `a.` with a route `b`. -/
def twins (path : String) : Group Unit Unit :=
  .mk "" "" [] [⟨.post, path, "a.b", (), []⟩] [.mk "/a" "a." [] [⟨.get, "/b", "b", (), []⟩] []]

/-- The twins have one name, and a table only where they have one path. -/
theorem twins_share_path :
    (∃ t, RouteTable.ofRoutes (twins "/a/b").resolve = .ok t ∧
      t.pattern? "a.b" = some "/a/b" ∧ (twins "/a/b").Names "a.b" "/a/b") ∧
    RouteTable.ofRoutes (twins "/c").resolve = .error (.duplicateName "a.b") ∧
    ¬ ∀ name path other, (twins "/c").Names name path → (twins "/c").Names name other →
      path = other := by
  obtain ⟨t, ht, hp⟩ : ∃ t, RouteTable.ofRoutes (twins "/a/b").resolve = .ok t ∧
      t.pattern? "a.b" = some "/a/b" := ⟨_, rfl, rfl⟩
  have he : RouteTable.ofRoutes (twins "/c").resolve = .error (.duplicateName "a.b") := rfl
  refine ⟨⟨t, ht, hp, (((ofRoutes_resolve _).2.1 t ht "a.b").2 "/a/b").1 hp⟩, he, ?_⟩
  rw [← (ofRoutes_resolve _).1, he]
  rintro ⟨t, ht⟩
  cases ht

end Group

end Formwork
