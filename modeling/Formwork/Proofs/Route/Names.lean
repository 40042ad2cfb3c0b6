import Formwork.Proofs.Route.Lookup

/-! # Which names stand for which paths

Routes have a table exactly if no name is used for two paths (`RouteTable.exists_ofRoutes_iff`),
and then a name stands for a path exactly if a route has both (`RouteTable.get?_ofRoutes_iff`).
So a table depends on which routes there are, and not on the order in which they are taken.
-/

namespace Formwork

namespace RouteTable

variable {M A : Type} {routes : List (Route M A)} {t next : RouteTable} {name path : String}

/-- No name is used for two paths. -/
def Consistent (routes : List (Route M A)) : Prop :=
  ∀ r ∈ routes, ∀ other ∈ routes, r.name.isEmpty = false → other.name = r.name →
    other.path = r.path

theorem exists_foldlM_add (hc : Consistent routes)
    (ht : ∀ r ∈ routes, r.name.isEmpty = false →
      ∀ path, t.paths.get? r.name = some path → path = r.path) :
    ∃ next, routes.foldlM add t = .ok next := by
  induction routes generalizing t with
  | nil => exact ⟨t, rfl⟩
  | cons r routes ih =>
      have hrest : Consistent routes := by
        intro a ha b hb
        exact hc a (List.mem_cons_of_mem _ ha) b (List.mem_cons_of_mem _ hb)
      rw [List.forall_mem_cons] at ht
      rw [List.foldlM_cons]
      have hadd : ∃ middle, t.add r = .ok middle ∧ (middle = t ∨
          middle = ⟨t.paths.insert r.name r.path⟩) := by
        simp only [add_eq_ok_iff]
        by_cases hname : r.name.isEmpty = true
        · exact ⟨t, Or.inl ⟨Or.inl hname, rfl⟩, Or.inl rfl⟩
        · rw [Bool.not_eq_true] at hname
          cases hp : t.paths.get? r.name with
          | none => exact ⟨_, Or.inr ⟨hname, rfl, rfl⟩, Or.inr rfl⟩
          | some path =>
              have hpath := ht.1 hname path hp
              exact ⟨t, Or.inl ⟨Or.inr (by rw [hpath]), rfl⟩, Or.inl rfl⟩
      obtain ⟨middle, hm, hcases⟩ := hadd
      have hmiddle : ∀ other ∈ routes, other.name.isEmpty = false →
          ∀ path, middle.paths.get? other.name = some path → path = other.path := by
        intro other ho hname path hp
        rcases hcases with rfl | rfl
        · exact ht.2 other ho hname path hp
        · by_cases hsame : other.name = r.name
          · have hpaths := hc other (List.mem_cons_of_mem _ ho) r List.mem_cons_self hname
              hsame.symm
            simp only [Dict.get?_insert, hsame, if_true, Option.some.injEq] at hp
            rw [← hp, hpaths]
          · simp only [Dict.get?_insert, hsame, if_false] at hp
            exact ht.2 other ho hname path hp
      obtain ⟨next, hnext⟩ := ih hrest hmiddle
      exact ⟨next, bind_eq_ok.2 ⟨middle, hm, hnext⟩⟩

theorem exists_ofRoutes_iff : (∃ t, ofRoutes routes = .ok t) ↔ Consistent routes := by
  constructor
  · rintro ⟨t, h⟩ r hr other ho hname hsame
    have hstands := (get?_of_foldlM_add h).2
    have hother := hstands other ho (by rw [hsame]; exact hname)
    rw [hsame, hstands r hr hname] at hother
    exact (Option.some.inj hother).symm
  · intro hc
    apply exists_foldlM_add hc
    intro r _ _ path hp
    cases hp

theorem exists_of_get? (h : routes.foldlM add t = .ok next)
    (hp : next.paths.get? name = some path) :
    t.paths.get? name = some path ∨
      ∃ r ∈ routes, r.name.isEmpty = false ∧ r.name = name ∧ r.path = path := by
  induction routes generalizing t with
  | nil =>
      cases h
      exact Or.inl hp
  | cons r routes ih =>
      rw [List.foldlM_cons] at h
      obtain ⟨middle, hadd, hrest⟩ := bind_eq_ok.1 h
      rcases ih hrest with hm | ⟨other, ho, hother⟩
      · rcases add_eq_ok_iff.1 hadd with ⟨_, rfl⟩ | ⟨hname, _, rfl⟩
        · exact Or.inl hm
        · by_cases hsame : name = r.name
          · simp only [Dict.get?_insert, hsame, if_true, Option.some.injEq] at hm
            exact Or.inr ⟨r, List.mem_cons_self, hname, hsame.symm, hm⟩
          · simp only [Dict.get?_insert, hsame, if_false] at hm
            exact Or.inl hm
      · exact Or.inr ⟨other, List.mem_cons_of_mem _ ho, hother⟩

/-- A name stands for the path of the routes that have it. -/
theorem get?_ofRoutes_iff (h : ofRoutes routes = .ok t) :
    t.paths.get? name = some path ↔
      ∃ r ∈ routes, r.name.isEmpty = false ∧ r.name = name ∧ r.path = path := by
  constructor
  · intro hp
    rcases exists_of_get? h hp with hnone | hr
    · cases hnone
    · exact hr
  · rintro ⟨r, hr, hname, rfl, rfl⟩
    exact (get?_of_foldlM_add h).2 r hr hname

theorem Consistent.perm {others : List (Route M A)} (hp : routes.Perm others)
    (hc : Consistent routes) : Consistent others := by
  intro r hr other ho
  exact hc r (hp.mem_iff.2 hr) other (hp.mem_iff.2 ho)

/-- The same routes in another order have the same names. -/
theorem same_of_perm {others : List (Route M A)} {u : RouteTable} (hp : routes.Perm others)
    (ht : ofRoutes routes = .ok t) (hu : ofRoutes others = .ok u) : t.paths.Same u.paths := by
  intro name
  apply Option.ext
  intro path
  rw [get?_ofRoutes_iff ht, get?_ofRoutes_iff hu]
  simp only [hp.mem_iff]

theorem urlFor_congr (h : t.paths.Same next.paths) (name : String)
    (params : List (String × String)) : t.urlFor name params = next.urlFor name params := by
  simp only [urlFor, pattern?, h name]

end RouteTable

end Formwork
