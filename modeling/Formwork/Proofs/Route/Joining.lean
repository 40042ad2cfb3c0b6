import Formwork.Proofs.Route.Tree
import Formwork.Proofs.Text.Cut
import Mathlib.Data.List.Chain

/-! # Paths of nested groups

The prefixes of groups are put together before the slashes at the end are cut, so that a
slash at the end of a prefix is absorbed only where no group further in has a prefix of
its own. Behind such a prefix it stays, and the path gets an empty segment
(`Group.segments_resolve_iff`).
-/

namespace Formwork

namespace Route

/-- Two slashes stand together. -/
def HasEmptySegment (path : String) : Prop := ['/', '/'] <:+: path.toList

instance (path : String) : Decidable (HasEmptySegment path) :=
  inferInstanceAs (Decidable (['/', '/'] <:+: path.toList))

/-- A prefix or a path as it should be declared. -/
structure IsSegmented (part : String) : Prop where
  rooted : part = "" ∨ Text.hasHead "/" part = true
  segments : ¬ HasEmptySegment part

instance (part : String) : Decidable (IsSegmented part) :=
  decidable_of_iff ((part = "" ∨ Text.hasHead "/" part = true) ∧ ¬ HasEmptySegment part)
    ⟨fun h => ⟨h.1, h.2⟩, fun h => ⟨h.rooted, h.segments⟩⟩

/-- At most one of two characters beside each other is a slash. -/
def Apart (a b : Char) : Prop := ¬ (a = '/' ∧ b = '/')

theorem hasEmptySegment_iff {path : String} :
    HasEmptySegment path ↔ ¬ path.toList.IsChain Apart := by
  rw [HasEmptySegment, List.isChain_iff_forall_rel_of_append_cons_cons]
  constructor
  · rintro ⟨before, after, h⟩ hall
    have hsplit : path.toList = before ++ '/' :: '/' :: after := by
      rw [← h, List.append_assoc]
      rfl
    exact hall hsplit ⟨rfl, rfl⟩
  · intro h
    push Not at h
    obtain ⟨a, b, before, after, hp, hab⟩ := h
    obtain ⟨rfl, rfl⟩ := not_not.1 hab
    exact ⟨before, after, by rw [hp, List.append_assoc]; rfl⟩

/-! ## Parts that begin with a slash -/

/-- The characters of a part: none, or a slash first, and never two together. -/
structure IsPart (cs : List Char) : Prop where
  head : ∀ c ∈ cs.head?, c = '/'
  chain : cs.IsChain Apart

theorem IsSegmented.isPart {part : String} (h : IsSegmented part) : IsPart part.toList := by
  refine ⟨fun c hc => ?_, not_not.1 (mt hasEmptySegment_iff.2 h.segments)⟩
  rcases h.rooted with rfl | hr
  · cases hc
  · rw [← @String.ofList_toList part] at hr
    have hs : (part.toList.head? == some '/') = true := by
      rw [← Text.hasHead_ofList]
      exact hr
    rw [Option.mem_def, beq_iff_eq.1 hs] at hc
    exact (Option.some.inj hc).symm

/-- The part says nothing: it is empty, or a slash alone. -/
def IsTrivial (cs : List Char) : Prop := cs = [] ∨ cs = ['/']

instance (cs : List Char) : Decidable (IsTrivial cs) :=
  inferInstanceAs (Decidable (cs = [] ∨ cs = ['/']))

theorem isTrivial_iff {cs : List Char} (h : IsPart cs) :
    IsTrivial cs ↔ ∀ c ∈ cs, (c == '/') = true := by
  constructor
  · rintro (rfl | rfl)
    · simp
    · simp
  · intro hall
    match cs, h with
    | [], _ => exact .inl rfl
    | [c], _ => exact .inr (by rw [beq_iff_eq.1 (hall c List.mem_cons_self)])
    | c :: d :: rest, h =>
        have hc := beq_iff_eq.1 (hall c (by simp))
        have hd := beq_iff_eq.1 (hall d (by simp))
        exact absurd ⟨hc, hd⟩ (List.isChain_cons_cons.1 h.chain).1

theorem forall_isTrivial_iff {parts : List (List Char)} (h : ∀ part ∈ parts, IsPart part) :
    (∀ part ∈ parts, IsTrivial part) ↔ ∀ c ∈ parts.flatten, (c == '/') = true := by
  simp only [List.mem_flatten]
  constructor
  · rintro hall c ⟨part, hp, hc⟩
    exact (isTrivial_iff (h part hp)).1 (hall part hp) c hc
  · intro hall part hp
    exact (isTrivial_iff (h part hp)).2 fun c hc => hall c ⟨part, hp, hc⟩

theorem head_flatten {parts : List (List Char)} (h : ∀ part ∈ parts, IsPart part) :
    ∀ c ∈ parts.flatten.head?, c = '/' := by
  induction parts with
  | nil => simp
  | cons part parts ih =>
      rw [List.forall_mem_cons] at h
      cases part with
      | nil => exact ih h.2
      | cons d part => exact h.1.head

/-- What is left of parts, put together, without slashes at the end. -/
def trimmed (parts : List (List Char)) : List Char :=
  Cut.dropEndWhile (· == '/') parts.flatten

theorem head_of_isPrefix {front parts : List Char} (h : front <+: parts)
    (hs : ∀ c ∈ parts.head?, c = '/') : ∀ c ∈ front.head?, c = '/' := by
  obtain ⟨more, rfl⟩ := h
  intro c hc
  apply hs
  rw [Option.mem_def, List.head?_append, Option.mem_def.1 hc, Option.some_or]

theorem head_trimmed {parts : List (List Char)} (h : ∀ part ∈ parts, IsPart part) :
    ∀ c ∈ (trimmed parts).head?, c = '/' :=
  head_of_isPrefix (Cut.dropEndWhile_isPrefix _) (head_flatten h)

theorem trimmed_eq_nil_iff {parts : List (List Char)} (h : ∀ part ∈ parts, IsPart part) :
    trimmed parts = [] ↔ ∀ part ∈ parts, IsTrivial part := by
  rw [forall_isTrivial_iff h, trimmed, Cut.dropEndWhile, List.reverse_eq_nil_iff,
    List.dropWhile_eq_nil_iff]
  simp only [List.mem_reverse]

/-- Where some part says more, what is left begins with a slash. -/
theorem head?_trimmed {parts : List (List Char)} (h : ∀ part ∈ parts, IsPart part)
    (hn : ¬ ∀ part ∈ parts, IsTrivial part) : (trimmed parts).head? = some '/' := by
  cases ht : (trimmed parts).head? with
  | some c => rw [head_trimmed h c ht]
  | none => exact absurd ((trimmed_eq_nil_iff h).1 (List.head?_eq_none_iff.1 ht)) hn

/-- What stands in front of parts keeps what they have left, and is trimmed if this is nothing. -/
theorem dropEndWhile_append_parts {parts : List (List Char)} (h : ∀ part ∈ parts, IsPart part)
    (front : List Char) :
    Cut.dropEndWhile (· == '/') (front ++ parts.flatten) =
      if ∀ part ∈ parts, IsTrivial part then Cut.dropEndWhile (· == '/') front
      else front ++ trimmed parts := by
  rw [Cut.dropEndWhile_append]
  by_cases ht : ∀ part ∈ parts, IsTrivial part
  · rw [if_pos ht, if_pos ((forall_isTrivial_iff h).1 ht)]
  · rw [if_neg ht, if_neg (mt (forall_isTrivial_iff h).2 ht), trimmed]

/-- Two slashes meet where a part that ends in one stands in front of a part that says more
than one. Whatever stands between the two says nothing. -/
theorem isChain_trimmed_iff {parts : List (List Char)} (h : ∀ part ∈ parts, IsPart part) :
    (trimmed parts).IsChain Apart ↔
      parts.Pairwise fun outer inner => outer.getLast? = some '/' → IsTrivial inner := by
  induction parts with
  | nil => simp [trimmed, Cut.dropEndWhile]
  | cons part parts ih =>
      rw [List.forall_mem_cons] at h
      rw [List.pairwise_cons, ← ih h.2, trimmed, List.flatten_cons, dropEndWhile_append_parts h.2]
      by_cases ht : ∀ inner ∈ parts, IsTrivial inner
      · have hpart : (Cut.dropEndWhile (· == '/') part).IsChain Apart :=
          List.IsChain.infix h.1.chain (Cut.dropEndWhile_isPrefix part).isInfix
        rw [if_pos ht, (trimmed_eq_nil_iff h.2).2 ht]
        exact iff_of_true hpart ⟨fun inner hi _ => ht inner hi, .nil⟩
      · rw [if_neg ht, List.isChain_append, head?_trimmed h.2 ht]
        constructor
        · rintro ⟨_, hchain, happart⟩
          refine ⟨fun inner _ hlast => ?_, hchain⟩
          exact absurd ⟨rfl, rfl⟩ (happart '/' hlast '/' rfl)
        · rintro ⟨hall, hchain⟩
          refine ⟨h.1.chain, hchain, ?_⟩
          rintro x hx y hy ⟨rfl, rfl⟩
          exact ht fun inner hi => hall inner hi hx

/-! ## Joined paths -/

variable {outer path : String} {parts : List (List Char)}

theorem toList_joinPath (outer path : String) :
    (joinPath outer path).toList =
      let joined := Cut.dropEndWhile (· == '/') outer.toList ++ path.toList
      if joined.head? = some '/' then joined else '/' :: joined := by
  have hjoined : Text.trimEndBy (· == '/') outer ++ path =
      String.ofList (Cut.dropEndWhile (· == '/') outer.toList ++ path.toList) := by
    rw [String.ofList_append, String.ofList_toList, Text.trimEndBy]
  unfold joinPath
  rw [hjoined]
  show String.toList (if Text.hasHead (String.singleton '/') _ = true then _ else _) = _
  rw [Text.hasHead_ofList]
  dsimp only
  generalize Cut.dropEndWhile (· == '/') outer.toList ++ path.toList = joined
  by_cases h : joined.head? = some '/'
  · rw [if_pos h, if_pos (beq_iff_eq.2 h), String.toList_ofList]
  · rw [if_neg h, if_neg (mt beq_iff_eq.1 h), String.toList_append, String.toList_ofList]
    simp

theorem hasEmptySegment_joinPath_iff (ho : outer.toList = parts.flatten)
    (h : ∀ part ∈ parts, IsPart part) (hp : IsPart path.toList) :
    HasEmptySegment (joinPath outer path) ↔
      ¬ parts.Pairwise fun outer inner => outer.getLast? = some '/' → IsTrivial inner := by
  rw [hasEmptySegment_iff, toList_joinPath, ho, not_iff_not, ← isChain_trimmed_iff h]
  show (if (trimmed parts ++ path.toList).head? = some '/' then trimmed parts ++ path.toList
    else '/' :: (trimmed parts ++ path.toList)).IsChain Apart ↔ _
  -- no slash is left at the end for that of the path to meet
  have hjoin : (trimmed parts ++ path.toList).IsChain Apart ↔ (trimmed parts).IsChain Apart := by
    rw [List.isChain_append]
    refine ⟨And.left, fun hc => ⟨hc, hp.chain, ?_⟩⟩
    rintro x hx y _ ⟨rfl, _⟩
    exact Bool.false_ne_true (Cut.getLast?_dropEndWhile hx).symm
  rw [← hjoin]
  cases hc : (trimmed parts ++ path.toList).head? with
  | none => simp [List.head?_eq_none_iff.1 hc]
  | some c =>
      have hslash : c = '/' := by
        rw [List.head?_append] at hc
        cases ht : (trimmed parts).head? with
        | none =>
            rw [ht] at hc
            exact hp.head c hc
        | some d =>
            rw [ht] at hc
            cases hc
            exact head_trimmed h _ ht
      rw [hslash, if_pos rfl]

/-- A slash at the end of what stands in front is absorbed if nothing follows but slashes. -/
theorem joinPath_slash_iff {front more : String} (hf : ∀ c ∈ front.toList.head?, c = '/')
    (hm : more.toList = parts.flatten) (h : ∀ part ∈ parts, IsPart part) (path : String) :
    joinPath (front ++ "/" ++ more) path = joinPath (front ++ more) path ↔
      ∀ part ∈ parts, IsTrivial part := by
  rw [← String.toList_inj, toList_joinPath, toList_joinPath]
  dsimp only
  rw [String.toList_append, String.toList_append, String.toList_append, hm,
    dropEndWhile_append_parts h, dropEndWhile_append_parts h]
  by_cases ht : ∀ part ∈ parts, IsTrivial part
  · have hslash : ∀ c ∈ "/".toList, (c == '/') = true :=
      List.forall_mem_singleton.2 (beq_self_eq_true '/')
    rw [if_pos ht, if_pos ht, Cut.dropEndWhile_append, if_pos hslash]
    exact iff_of_true rfl ht
  · rw [if_neg ht, if_neg ht]
    refine iff_of_false (fun he => ?_) ht
    -- both begin with a slash, and one is longer
    have hfirst : ∀ between : List Char, between.head?.getD '/' = '/' →
        (front.toList ++ between ++ trimmed parts ++ path.toList).head? = some '/' := by
      intro between hb
      cases hs : front.toList with
      | cons c cs =>
          rw [hs] at hf
          rw [hf c rfl]
          rfl
      | nil =>
          cases between with
          | cons d ds =>
              cases hb
              rfl
          | nil =>
              show (trimmed parts ++ path.toList).head? = _
              rw [List.head?_append, head?_trimmed h ht, Option.some_or]
    have hlong := hfirst "/".toList rfl
    have hshort := hfirst [] rfl
    rw [List.append_nil] at hshort
    rw [if_pos hlong, if_pos hshort] at he
    have hlength := congrArg List.length he
    simp at hlength

end Route

/-! ## Trees -/

theorem Text.hasTail_slash_iff {s : String} :
    Text.hasTail "/" s = true ↔ s.toList.getLast? = some '/' := by
  have hslash : "/".toList = ['/'] := by simp
  rw [hasTail, List.isSuffixOf_iff_suffix, hslash, List.getLast?_eq_some_iff]
  constructor
  · rintro ⟨front, h⟩
    exact ⟨front, h.symm⟩
  · rintro ⟨front, h⟩
    exact ⟨front, h.symm⟩

namespace Group

open Route

variable {M A : Type}

/-- All prefixes and paths are empty or begin with a slash, and none has an empty segment. -/
def IsSegmented (g : Group M A) : Prop :=
  ∀ groups r, g.Declares groups r →
    (∀ inner ∈ groups, Route.IsSegmented inner.path) ∧ Route.IsSegmented r.path

theorem isSegmented_mk {path name : String} {middlewares : List M} {routes : List (Route M A)}
    {groups : List (Group M A)} (hp : Route.IsSegmented path)
    (hr : ∀ r ∈ routes, Route.IsSegmented r.path) (hg : ∀ g ∈ groups, g.IsSegmented) :
    (Group.mk path name middlewares routes groups).IsSegmented := by
  rintro around r (declared | ⟨declared, deeper⟩)
  · exact ⟨List.forall_mem_singleton.2 hp, hr r declared⟩
  · obtain ⟨hgroups, hroute⟩ := hg _ declared _ r deeper
    exact ⟨List.forall_mem_cons.2 ⟨hp, hgroups⟩, hroute⟩

/-- Inside a group whose prefix ends in a slash no other group has a prefix of its own. -/
def AbsorbsSlashes (g : Group M A) : Prop :=
  ∀ groups r, g.Declares groups r →
    groups.Pairwise fun outer inner =>
      Text.hasTail "/" outer.path = true → inner.path = "" ∨ inner.path = "/"

/-- The group with another prefix. -/
def withPath (path : String) : Group M A → Group M A
  | .mk _ name middlewares routes groups => .mk path name middlewares routes groups

/-- The prefixes of groups, one behind the other. -/
def prefixes : List (Group M A) → String
  | [] => ""
  | g :: groups => g.path ++ prefixes groups

theorem path_enclosure (e : Enclosure M) (groups : List (Group M A)) :
    (enclosure e groups).path = e.path ++ prefixes groups := by
  induction groups generalizing e with
  | nil => simp [enclosure, prefixes]
  | cons g groups ih =>
      show (enclosure ⟨_, _, _⟩ groups).path = _
      rw [ih, prefixes, String.append_assoc]

theorem toList_prefixes (groups : List (Group M A)) :
    (prefixes groups).toList = (groups.map fun g => g.path.toList).flatten := by
  induction groups with
  | nil => rfl
  | cons g groups ih => rw [prefixes, String.toList_append, ih, List.map_cons, List.flatten_cons]

theorem isPart_of_mem {groups : List (Group M A)} (h : ∀ g ∈ groups, Route.IsSegmented g.path) :
    ∀ part ∈ groups.map fun g => g.path.toList, IsPart part := by
  intro part hp
  obtain ⟨g, hg, rfl⟩ := List.mem_map.1 hp
  exact (h g hg).isPart

theorem isTrivial_path_iff {g : Group M A} :
    IsTrivial g.path.toList ↔ g.path = "" ∨ g.path = "/" := by
  rw [IsTrivial, ← String.toList_inj, ← String.toList_inj]
  rfl

/-- The path of a route has an empty segment if a prefix around it that ends in a slash is in
front of another. -/
theorem hasEmptySegment_within_iff {groups : List (Group M A)} {r : Route M A}
    (h : ∀ g ∈ groups, Route.IsSegmented g.path) (hr : Route.IsSegmented r.path) :
    HasEmptySegment (r.within (enclosure {} groups)).path ↔
      ¬ groups.Pairwise fun outer inner =>
        Text.hasTail "/" outer.path = true → inner.path = "" ∨ inner.path = "/" := by
  have houter : (enclosure {} groups).path.toList =
      (groups.map fun g => g.path.toList).flatten := by
    rw [path_enclosure, String.empty_append, toList_prefixes]
  rw [path_within, hasEmptySegment_joinPath_iff houter (isPart_of_mem h) hr.isPart,
    List.pairwise_map]
  simp only [Text.hasTail_slash_iff, isTrivial_path_iff]

/-! ## Prefixes with and without a slash -/

theorem resolveWithin_withPath (g : Group M A) (e : Enclosure M) (path : String) :
    (g.withPath path).resolveWithin e =
      (g.withPath "").resolveWithin { e with path := e.path ++ path } := by
  cases g with
  | mk _ name middlewares routes groups => simp [withPath, resolveWithin]

theorem declares_withPath_iff {g : Group M A} {path : String} {around : List (Group M A)}
    {r : Route M A} :
    (g.withPath path).Declares around r ↔
      ∃ groups, around = g.withPath path :: groups ∧ g.Declares (g :: groups) r := by
  cases g with
  | mk _ name middlewares routes groups =>
      constructor
      · rintro (hr | ⟨hi, hd⟩)
        · exact ⟨[], rfl, .here hr⟩
        · exact ⟨_, rfl, .inside hi hd⟩
      · rintro ⟨_, rfl, (hr | ⟨hi, hd⟩)⟩
        · exact .here hr
        · exact .inside hi hd

/-- With two prefixes a group has the same paths if each of its routes has. -/
theorem paths_withPath_iff (g : Group M A) (e : Enclosure M) (p q : String) :
    ((g.withPath p).resolveWithin e).map Route.path =
        ((g.withPath q).resolveWithin e).map Route.path ↔
      ∀ groups r, g.Declares (g :: groups) r →
        joinPath (e.path ++ p ++ prefixes groups) r.path =
          joinPath (e.path ++ q ++ prefixes groups) r.path := by
  obtain ⟨declared, hmem, hresolve⟩ := exists_declarations (g.withPath "")
  have hempty : (g.withPath "").path = "" := by cases g; rfl
  rw [resolveWithin_withPath, resolveWithin_withPath g e q, hresolve, hresolve, List.map_map,
    List.map_map, List.map_inj_left]
  simp only [Function.comp_apply, path_within, path_enclosure]
  constructor
  · intro h groups r hd
    have hpath := h _ ((hmem _ r).2 (declares_withPath_iff.2 ⟨groups, rfl, hd⟩))
    simpa only [prefixes, hempty, String.empty_append] using hpath
  · rintro h ⟨around, r⟩ hm
    obtain ⟨groups, rfl, hd⟩ := declares_withPath_iff.1 ((hmem _ _).1 hm)
    simpa only [prefixes, hempty, String.empty_append] using h groups r hd

/-- The second group stands in the first, behind the groups around it. -/
inductive Holds : Group M A → List (Group M A) → Group M A → Prop
  | here (g : Group M A) : Holds g [] g
  | inside {g between inner : Group M A} {outer : List (Group M A)}
      (declared : between ∈ g.groups) (deeper : Holds between outer inner) :
      Holds g (g :: outer) inner

theorem Holds.declares {g inner : Group M A} {outer groups : List (Group M A)} {r : Route M A}
    (h : g.Holds outer inner) (hd : inner.Declares groups r) : g.Declares (outer ++ groups) r := by
  induction h with
  | here g => exact hd
  | inside declared _ ih => exact .inside declared (ih hd)

/-- What stands in front of a slash at the end of a prefix begins with a slash. -/
theorem head_front {outer : List (Group M A)} {path : String}
    (ho : ∀ o ∈ outer, Route.IsSegmented o.path) (hp : Route.IsSegmented (path ++ "/")) :
    ∀ c ∈ ((enclosure {} outer).path ++ path).toList.head?, c = '/' := by
  have hparts : ∀ part ∈ (outer.map fun o => o.path.toList) ++ [(path ++ "/").toList],
      IsPart part := by
    rw [List.forall_mem_append]
    exact ⟨isPart_of_mem ho, List.forall_mem_singleton.2 hp.isPart⟩
  refine head_of_isPrefix ?_ (head_flatten hparts)
  rw [List.flatten_append, List.flatten_singleton, ← toList_prefixes, ← String.toList_append,
    path_enclosure, String.empty_append, ← String.append_assoc,
    @String.toList_append (prefixes outer ++ path)]
  exact List.prefix_append _ _

/-- No path has an empty segment exactly if, inside a group whose prefix ends in a slash, no
other group has a prefix of its own. And for each group with such a prefix, wherever it
stands, its routes and those of all groups in it have the paths that they would have without
the slash, exactly if no group in it has a prefix of its own. -/
theorem segments_resolve_iff {g : Group M A} (h : g.IsSegmented) :
    ((∀ r ∈ g.resolve, ¬ HasEmptySegment r.path) ↔ g.AbsorbsSlashes) ∧
    ∀ (outer : List (Group M A)) (inner : Group M A) (path : String),
      g.Holds outer (inner.withPath (path ++ "/")) →
        (((inner.withPath (path ++ "/")).resolveWithin (enclosure {} outer)).map Route.path =
            ((inner.withPath path).resolveWithin (enclosure {} outer)).map Route.path ↔
          ∀ groups r, inner.Declares (inner :: groups) r →
            ∀ further ∈ groups, further.path = "" ∨ further.path = "/") := by
  constructor
  · constructor
    · intro hall groups r hd
      obtain ⟨hgroups, hr⟩ := h groups r hd
      have hnone := hall _ (mem_resolve_iff.2 ⟨groups, r, hd, rfl⟩)
      exact not_not.1 (mt (hasEmptySegment_within_iff hgroups hr).2 hnone)
    · intro hall resolved hr hempty
      obtain ⟨groups, r, hd, rfl⟩ := mem_resolve_iff.1 hr
      obtain ⟨hgroups, hr⟩ := h groups r hd
      exact (hasEmptySegment_within_iff hgroups hr).1 hempty (hall groups r hd)
  · intro outer inner path holds
    rw [paths_withPath_iff]
    refine forall_congr' fun groups => forall_congr' fun r => forall_congr' fun hd => ?_
    -- the groups around the route, in the tree itself
    have hall := (h _ r (holds.declares (declares_withPath_iff.2 ⟨groups, rfl, hd⟩))).1
    rw [List.forall_mem_append, List.forall_mem_cons] at hall
    obtain ⟨houter, hinner, hgroups⟩ := hall
    have hslash : Route.IsSegmented (path ++ "/") := by
      cases inner
      exact hinner
    rw [← String.append_assoc, joinPath_slash_iff (head_front houter hslash)
      (toList_prefixes groups) (isPart_of_mem hgroups), List.forall_mem_map]
    simp only [isTrivial_path_iff]

/-! ## Two interfaces -/

def users : Route Unit Unit := ⟨.get, "/users", "", (), []⟩

/-- The groups inside `/api/` have no prefixes. -/
def flatApi : Group Unit Unit :=
  .mk "" "" [] [] [.mk "/api/" "" [] [users] [.mk "/" "" [] [users] [.mk "" "" [] [users] []]]]

/-- A group inside `/api/` has a prefix. -/
def versionedApi : Group Unit Unit :=
  .mk "" "" [] [] [.mk "/api/" "" [] [users] [.mk "/v1" "" [] [users] []]]

theorem isSegmented_flatApi : flatApi.IsSegmented :=
  isSegmented_mk (by decide) (by simp) <| List.forall_mem_singleton.2 <|
    isSegmented_mk (by decide) (by decide) <| List.forall_mem_singleton.2 <|
      isSegmented_mk (by decide) (by decide) <| List.forall_mem_singleton.2 <|
        isSegmented_mk (by decide) (by decide) (by simp)

theorem isSegmented_versionedApi : versionedApi.IsSegmented :=
  isSegmented_mk (by decide) (by simp) <| List.forall_mem_singleton.2 <|
    isSegmented_mk (by decide) (by decide) <| List.forall_mem_singleton.2 <|
      isSegmented_mk (by decide) (by decide) (by simp)

/-- Without prefixes inside, the slash of `/api/` is nowhere to be seen. -/
theorem flatApi_absorbs_slash :
    flatApi.IsSegmented ∧
      flatApi.resolve.map Route.path = ["/api/users", "/api/users", "/api/users"] ∧
      flatApi.AbsorbsSlashes := by
  have hpaths : flatApi.resolve.map Route.path = ["/api/users", "/api/users", "/api/users"] := rfl
  refine ⟨isSegmented_flatApi, hpaths, (segments_resolve_iff isSegmented_flatApi).1.1 ?_⟩
  intro r hr
  have hmem : r.path ∈ flatApi.resolve.map Route.path := List.mem_map_of_mem hr
  rw [hpaths] at hmem
  have hpath : r.path = "/api/users" := by simpa using hmem
  rw [hpath]
  decide +kernel

/-- In front of `/v1` it stays, and the path is not that of `/api`. -/
theorem versionedApi_keeps_slash :
    versionedApi.IsSegmented ∧
      versionedApi.resolve.map Route.path = ["/api/users", "/api//v1/users"] ∧
      HasEmptySegment "/api//v1/users" ∧
      versionedApi.groups.map (fun g => ((g.withPath "/api").resolve.map Route.path)) =
        [["/api/users", "/api/v1/users"]] :=
  ⟨isSegmented_versionedApi, rfl, by decide +kernel, rfl⟩

end Group

end Formwork
