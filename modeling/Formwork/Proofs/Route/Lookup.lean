import Formwork.Proofs.Sequence
import Formwork.Proofs.Text.Cut
import Formwork.Route.Pattern
import Formwork.Route.Table
import Mathlib.Data.List.Pairwise

/-! # Looking up paths

The patterns of a router do not conflict, so of two that match one path one precedes the
other (`PathPattern.conflicts_of_match`). A path is therefore looked up under the one pattern
that matches it and that no other such pattern precedes (`Router.find?_eq_some_iff`). A
pattern without parameters stands for one path, and no other precedes it
(`PathPattern.precedes_literal`). Which path it stands for is another matter: a doubled brace
is written for a single one, so that the path of a pattern has fewer braces than its text,
unless neither has any (`PathPattern.parse?_literal`). Placeholders are filled from the front
of a path to its end (`PathPart.FillsTo`).
-/

namespace Formwork

namespace PathPattern

/-- The pattern that stands for one path. -/
def literal (cs : List Char) : PathPattern := cs.map .char

theorem eq_literal_of_names {p : PathPattern} (h : p.names = []) : ∃ cs, p = literal cs := by
  induction p with
  | nil => exact ⟨[], rfl⟩
  | cons part p ih =>
      cases part with
      | char c =>
          obtain ⟨cs, rfl⟩ := ih (by simpa [names] using h)
          exact ⟨c :: cs, rfl⟩
      | segment name => simp [names] at h
      | rest name => simp [names] at h

theorem match?_literal (cs path : List Char) :
    (literal cs).match? path = if cs = path then some [] else none := by
  induction cs generalizing path with
  | nil => cases path <;> simp [literal, match?]
  | cons c cs ih =>
      cases path with
      | nil => simp [literal, match?]
      | cons d path =>
          have hrest := ih path
          unfold literal at hrest
          by_cases h : c = d
          · simp [literal, match?, h, hrest]
          · simp [literal, match?, h]

/-- A parameter precedes no character. -/
theorem precedes_literal (p : PathPattern) (cs : List Char) : p.precedes (literal cs) = false := by
  induction p generalizing cs with
  | nil => cases cs <;> rfl
  | cons part p ih =>
      cases cs with
      | nil => cases part <;> rfl
      | cons c cs =>
          cases part with
          | char a =>
              have hrest := ih cs
              unfold literal at hrest
              simp [literal, precedes, hrest]
          | segment name => rfl
          | rest name => rfl

theorem precedes_self (p : PathPattern) : p.precedes p = false := by
  induction p with
  | nil => rfl
  | cons part p ih => cases part <;> simp [precedes, ih]

theorem precedes_trans {p q r : PathPattern} (hpq : p.precedes q = true)
    (hqr : q.precedes r = true) : p.precedes r = true := by
  induction p generalizing q r with
  | nil => simp [precedes] at hpq
  | cons a p ih =>
      cases q with
      | nil => cases a <;> simp [precedes] at hpq
      | cons b q =>
          cases r with
          | nil => cases b <;> simp [precedes] at hqr
          | cons c r =>
              cases a <;> cases b <;> simp only [precedes, Bool.false_eq_true] at hpq <;>
                cases c <;> simp only [precedes, Bool.false_eq_true, Bool.and_eq_true,
                  beq_iff_eq] at hpq hqr ⊢
              · exact ⟨hpq.1.trans hqr.1, ih hpq.2 hqr.2⟩
              · exact ih hpq hqr

/-- Of two patterns that match one path, one precedes the other, unless they conflict. -/
theorem conflicts_of_match {p q : PathPattern} {cs : List Char}
    {values others : List (String × List Char)} (hp : p.match? cs = some values)
    (hq : q.match? cs = some others) (hpq : p.precedes q = false) (hqp : q.precedes p = false) :
    p.conflicts q = true := by
  induction p generalizing q cs values others with
  | nil =>
      cases cs with
      | nil =>
          cases q with
          | nil => rfl
          | cons part q => cases part <;> simp [match?] at hq
      | cons c cs => simp [match?] at hp
  | cons part p ih =>
      cases q with
      | nil =>
          cases cs with
          | nil => cases part <;> simp [match?] at hp
          | cons c cs => simp [match?] at hq
      | cons other q =>
          cases part with
          | char a =>
              cases other with
              | char b =>
                  cases cs with
                  | nil => simp [match?] at hp
                  | cons c cs =>
                      -- both have the character of the path
                      simp only [match?] at hp hq
                      split at hp
                      · split at hq
                        · rename_i ha hb
                          subst ha hb
                          simp only [precedes, beq_self_eq_true, Bool.true_and] at hpq hqp
                          simpa [conflicts] using ih hp hq hpq hqp
                        · cases hq
                      · cases hp
              | segment name => cases hpq
              | rest name => cases hpq
          | segment name =>
              cases other with
              | char b => cases hqp
              | segment name' =>
                  simp only [match?] at hp hq
                  split at hp
                  · cases hp
                  · split at hq
                    · cases hq
                    · obtain ⟨_, hp, _⟩ := Option.map_eq_some_iff.1 hp
                      obtain ⟨_, hq, _⟩ := Option.map_eq_some_iff.1 hq
                      exact ih hp hq hpq hqp
              | rest name' => rfl
          | rest name =>
              cases other with
              | char b => cases hqp
              | segment name' => rfl
              | rest name' => rfl

theorem conflicts_comm (p q : PathPattern) : p.conflicts q = q.conflicts p := by
  induction p generalizing q with
  | nil => cases q with
    | nil => rfl
    | cons part q => cases part <;> rfl
  | cons part p ih =>
      cases q with
      | nil => cases part <;> rfl
      | cons other q =>
          cases part <;> cases other <;> simp only [conflicts, ih q]
          rw [Bool.beq_comm]

/-! ## Patterns as they are written -/

open PathPart (isBrace)

/-- Every doubled brace is read as one. -/
theorem countP_unescaped (cs : List Char) :
    ((unescaped cs).map Prod.fst).countP isBrace + (unescaped cs).countP Prod.snd =
      cs.countP isBrace := by
  fun_induction unescaped cs with
  | case1 cs ih => simp [isBrace] at ih ⊢; omega
  | case2 cs ih => simp [isBrace] at ih ⊢; omega
  | case3 c cs _ _ ih => simp [List.countP_cons] at ih ⊢; omega
  | case4 => rfl

/-- A character that is no brace, or not followed by the same, is read as itself. -/
theorem unescaped_cons {c : Char} {cs : List Char} (h : ∀ d ∈ cs.head?, d = c → isBrace c = false) :
    unescaped (c :: cs) = (c, false) :: unescaped cs := by
  rw [unescaped]
  · rintro rest rfl rfl
    cases h '\x7b' rfl rfl
  · rintro rest rfl rfl
    cases h '\x7d' rfl rfl

theorem unescaped_append {cs : List Char} (h : ∀ c ∈ cs, isBrace c = false) (more : List Char) :
    unescaped (cs ++ more) = cs.map (·, false) ++ unescaped more := by
  induction cs with
  | nil => rfl
  | cons c cs ih =>
      rw [List.forall_mem_cons] at h
      rw [List.cons_append, unescaped_cons fun _ _ _ => h.1, ih h.2, List.map_cons,
        List.cons_append]

theorem parameter?_ne_char {us after : List (Char × Bool)} {part : PatternPart}
    (h : parameter? us = some (part, after)) (c : Char) : part ≠ .char c := by
  unfold parameter? at h
  split at h
  · cases h
  · split at h
    · cases h
    · split at h
      · cases h
      · split at h
        · split at h
          · cases h
          · cases h
            exact PatternPart.noConfusion
        · split at h
          · cases h
            exact PatternPart.noConfusion
          · cases h

/-- A pattern without parameters is read from characters whose braces are all doubled. -/
theorem parts?_literal {fuel : Nat} {us : List (Char × Bool)} {cs : List Char}
    (h : parts? fuel us = some (literal cs)) :
    us.map Prod.fst = cs ∧ ∀ u ∈ us, isBrace u.1 = true → u.2 = true := by
  induction fuel generalizing us cs with
  | zero => cases h
  | succ fuel ih =>
      cases us with
      | nil =>
          cases cs with
          | nil => exact ⟨rfl, fun u hu => nomatch hu⟩
          | cons c cs => cases h
      | cons u us =>
          obtain ⟨c, escaped⟩ := u
          rw [parts?] at h
          split at h
          · rename_i hc
            obtain ⟨p, hp, he⟩ := Option.map_eq_some_iff.1 h
            cases cs with
            | nil => cases he
            | cons d cs =>
                cases he
                obtain ⟨hus, hall⟩ := ih hp
                refine ⟨by simp [hus], ?_⟩
                intro u hu hb
                rcases List.mem_cons.1 hu with rfl | hu
                · rw [Bool.or_eq_true] at hc
                  rcases hc with hc | hc
                  · exact hc
                  · simp [isBrace] at hb hc
                    rcases hb with rfl | rfl <;> simp at hc
                · exact hall u hu hb
          · split at h
            · cases h
            · split at h
              · rename_i part after hpart
                obtain ⟨p, hp, he⟩ := Option.map_eq_some_iff.1 h
                cases cs with
                | nil => cases he
                | cons d cs =>
                    cases he
                    exact absurd rfl (parameter?_ne_char hpart d)
              · cases h

theorem parts?_plain {fuel : Nat} {cs : List Char} (hcs : ∀ c ∈ cs, isBrace c = false)
    (hfuel : cs.length < fuel) : parts? fuel (cs.map (·, false)) = some (literal cs) := by
  induction cs generalizing fuel with
  | nil =>
      cases fuel with
      | zero => cases hfuel
      | succ fuel => rfl
  | cons c cs ih =>
      rw [List.forall_mem_cons] at hcs
      have hplain : (decide (c = '\x7b') || decide (c = '\x7d')) = false := hcs.1
      cases fuel with
      | zero => cases hfuel
      | succ fuel =>
          rw [List.length_cons] at hfuel
          simp only [List.map_cons, parts?, hplain, Bool.not_false, Bool.or_true, if_true,
            ih hcs.2 (Nat.lt_of_succ_lt_succ hfuel)]
          rfl

theorem unescaped_plain {cs : List Char} (hcs : ∀ c ∈ cs, isBrace c = false) :
    unescaped cs = cs.map (·, false) := by
  have hread := unescaped_append hcs []
  rwa [List.append_nil, unescaped, List.append_nil] at hread

theorem parts?_of_parse? {s : String} {p : PathPattern} (h : parse? s = some p) :
    parts? (s.toList.length + 1) (unescaped s.toList) = some p := by
  simp only [parse?, Option.bind_eq_bind] at h
  split at h
  · cases h
  · obtain ⟨q, hq, hs⟩ := Option.bind_eq_some_iff.1 h
    split at hs
    · cases hs
      exact hq
    · cases hs

/-- A pattern without braces is its text. -/
theorem parse?_plain {s : String} {p : PathPattern} (hs : s.toList.any isBrace = false)
    (h : parse? s = some p) : p = literal s.toList := by
  have hplain : ∀ c ∈ s.toList, isBrace c = false := by simpa using hs
  have hparts := parts?_of_parse? h
  rw [unescaped_plain hplain, parts?_plain hplain (Nat.lt_succ_self _)] at hparts
  exact (Option.some.inj hparts).symm

theorem parse?_of_plain {s : String} (rooted : Text.hasHead "/" s = true)
    (unmarked : hasOldMark s.toList = false) (plain : s.toList.any isBrace = false) :
    parse? s = some (literal s.toList) := by
  have hplain : ∀ c ∈ s.toList, isBrace c = false := by simpa using plain
  have hhead : s.toList.head? = some '/' := by
    obtain ⟨rest, hrest⟩ := List.isPrefixOf_iff_prefix.1 rooted
    rw [← hrest]
    rfl
  have hsegments : (literal s.toList).filter isSegment = [] := by
    rw [List.filter_eq_nil_iff]
    intro part hm
    obtain ⟨c, _, rfl⟩ := List.mem_map.1 hm
    exact Bool.false_ne_true
  simp [parse?, hhead, unmarked, unescaped_plain hplain, parts?_plain hplain (Nat.lt_succ_self _),
    hsegments]

theorem conflicts_literal {cs ds : List Char} (hne : cs ≠ ds) :
    (literal cs).conflicts (literal ds) = false := by
  induction cs generalizing ds with
  | nil =>
      cases ds with
      | nil => exact absurd rfl hne
      | cons d ds => rfl
  | cons c cs ih =>
      cases ds with
      | nil => rfl
      | cons d ds =>
          change (c == d && (literal cs).conflicts (literal ds)) = false
          by_cases hcd : c = d
          · have hrest : cs ≠ ds := by
              rintro rfl
              exact hne (by rw [hcd])
            rw [ih hrest, Bool.and_false]
          · rw [beq_eq_false_iff_ne.2 hcd, Bool.false_and]

theorem hasOldMark_toList (s : String) :
    hasOldMark s.toList = ((Text.split '/' s).any (Text.hasHead ":") ||
      (Text.split '/' s).any (Text.hasHead "*")) := by
  have hmark : ∀ cs : List Char, (cs.head? == some ':' || cs.head? == some '*') =
      (Text.hasHead ":" (String.ofList cs) || Text.hasHead "*" (String.ofList cs)) := by
    intro cs
    rw [← Text.hasHead_ofList, ← Text.hasHead_ofList]
    rfl
  rw [Bool.eq_iff_iff, Bool.or_eq_true]
  simp only [hasOldMark, Text.split, List.any_map, hmark, List.any_eq_true, Bool.or_eq_true,
    Function.comp_apply, and_or_left, exists_or]

/-- The path that a pattern without parameters stands for is its text, unless there are
braces in it. Then the path has fewer of them. -/
theorem parse?_literal {s : String} {cs : List Char} (h : parse? s = some (literal cs)) :
    (s.toList.any isBrace = false → cs = s.toList) ∧
      (s.toList.any isBrace = true → cs.countP isBrace < s.toList.countP isBrace) := by
  obtain ⟨hcs, hall⟩ := parts?_literal (parts?_of_parse? h)
  constructor
  · intro hplain
    have hliteral : literal cs = literal s.toList := parse?_plain hplain h
    exact List.map_injective_iff.2 (fun _ _ => PatternPart.char.inj) hliteral
  · intro hbrace
    obtain ⟨c, hc, hb⟩ := List.any_eq_true.1 hbrace
    have hcount := countP_unescaped s.toList
    rw [hcs] at hcount
    have hpos : 0 < (unescaped s.toList).countP Prod.snd := by
      by_contra hzero
      have hsome : 0 < s.toList.countP isBrace := List.countP_pos_iff.2 ⟨c, hc, hb⟩
      have hread : 0 < cs.countP isBrace := by omega
      obtain ⟨d, hd, hdb⟩ := List.countP_pos_iff.1 hread
      rw [← hcs] at hd
      obtain ⟨u, hu, rfl⟩ := List.mem_map.1 hd
      exact hzero (List.countP_pos_iff.2 ⟨u, hu, hall u hu hdb⟩)
    omega

end PathPattern

namespace Router

variable {α : Type} {router next : Router α} {path : String} {value : α}

/-- No two patterns conflict. -/
def IsApart (router : Router α) : Prop :=
  router.entries.Pairwise fun a b => a.1.conflicts b.1 = false

theorem insert?_eq_some_iff :
    router.insert? path value = some next ↔
      ∃ p, PathPattern.parse? path = some p ∧
        (∀ entry ∈ router.entries, entry.1.conflicts p = false) ∧
          next = ⟨router.entries ++ [(p, value)]⟩ := by
  simp only [insert?, Option.bind_eq_bind, Option.bind_eq_some_iff]
  refine exists_congr fun p => and_congr_right fun _ => ?_
  by_cases hany : (router.entries.any fun entry => entry.1.conflicts p) = true
  · rw [if_pos hany]
    refine iff_of_false nofun ?_
    rintro ⟨hfree, -⟩
    obtain ⟨entry, he, hc⟩ := List.any_eq_true.1 hany
    rw [hfree entry he] at hc
    cases hc
  · rw [if_neg hany]
    have hfree : ∀ entry ∈ router.entries, entry.1.conflicts p = false := by
      intro entry he
      by_contra hc
      exact hany (List.any_eq_true.2 ⟨entry, he, by simpa using hc⟩)
    constructor
    · intro h
      cases h
      exact ⟨hfree, rfl⟩
    · rintro ⟨-, rfl⟩
      rfl

theorem IsApart.insert (hr : router.IsApart) (h : router.insert? path value = some next) :
    next.IsApart := by
  obtain ⟨p, _, hp, rfl⟩ := insert?_eq_some_iff.1 h
  rw [IsApart, List.pairwise_append]
  refine ⟨hr, List.pairwise_singleton _ _, ?_⟩
  intro entry hentry other hother
  cases List.mem_singleton.1 hother
  exact hp entry hentry

/-- The best is one of the hits, no hit precedes it, and it is the first or precedes it. -/
theorem foldl_better_spec {hits : List (PathPattern × List (String × List Char) × α)}
    {best : Option (PathPattern × List (String × List Char) × α)}
    {top : PathPattern × List (String × List Char) × α} (h : hits.foldl better best = some top) :
    (top ∈ hits ∨ best = some top) ∧ (∀ hit ∈ hits, hit.1.precedes top.1 = false) ∧
      ∀ other ∈ best, other = top ∨ top.1.precedes other.1 = true := by
  induction hits generalizing best with
  | nil =>
      cases h
      refine ⟨Or.inr rfl, nofun, ?_⟩
      intro other ho
      cases ho
      exact Or.inl rfl
  | cons next hits ih =>
      obtain ⟨htop, hhits, hbest⟩ := ih h
      -- of two that follow each other in the order, the later does not precede the earlier
      have hnot : ∀ {hit other : PathPattern × List (String × List Char) × α},
          (other = top ∨ top.1.precedes other.1 = true) → hit.1.precedes other.1 = false →
            hit.1.precedes top.1 = false := by
        intro hit other hle hhit
        rw [← Bool.not_eq_true] at hhit ⊢
        rcases hle with rfl | hlt
        · exact hhit
        · exact fun ht => hhit (PathPattern.precedes_trans ht hlt)
      cases best with
      | none =>
          have hnext := hnot (hbest next rfl) (PathPattern.precedes_self next.1)
          refine ⟨Or.inl ?_, List.forall_mem_cons.2 ⟨hnext, hhits⟩, nofun⟩
          rcases htop with hm | he
          · exact List.mem_cons_of_mem _ hm
          · cases he
            exact List.mem_cons_self
      | some other =>
          simp only [better] at htop hbest
          split at htop
          · rename_i hlt
            rw [if_pos hlt] at hbest
            have hle := hbest next rfl
            have hnext := hnot hle (PathPattern.precedes_self next.1)
            refine ⟨Or.inl ?_, List.forall_mem_cons.2 ⟨hnext, hhits⟩, ?_⟩
            · rcases htop with hm | he
              · exact List.mem_cons_of_mem _ hm
              · cases he
                exact List.mem_cons_self
            · intro first hfirst
              cases hfirst
              rcases hle with rfl | htn
              · exact Or.inr hlt
              · exact Or.inr (PathPattern.precedes_trans htn hlt)
          · rename_i hnlt
            rw [if_neg hnlt] at hbest
            have hnext := hnot (hbest other rfl) (Bool.not_eq_true _ ▸ hnlt)
            refine ⟨htop.imp_left (List.mem_cons_of_mem _), ?_, hbest⟩
            exact List.forall_mem_cons.2 ⟨hnext, hhits⟩

/-- Only without hits there is no best. -/
theorem eq_nil_of_foldl_better {hits : List (PathPattern × List (String × List Char) × α)}
    (h : hits.foldl better none = none) : hits = [] := by
  have hsome : ∀ (rest : List (PathPattern × List (String × List Char) × α)) best,
      rest.foldl better (some best) ≠ none := by
    intro rest
    induction rest with
    | nil =>
        intro best he
        cases he
    | cons next rest ih =>
        intro best
        rw [List.foldl_cons, better]
        split
        · exact ih next
        · exact ih best
  cases hits with
  | nil => rfl
  | cons first hits => exact absurd h (hsome hits first)

/-- What is found belongs to a pattern that matches the path, and no other such pattern
precedes it. -/
theorem mem_of_find? {params : List (String × List Char)}
    (h : router.find? path = some (params, value)) :
    ∃ p, (p, value) ∈ router.entries ∧ p.match? path.toList = some params ∧
      ∀ entry ∈ router.entries, (entry.1.match? path.toList).isSome = true →
        entry.1.precedes p = false := by
  obtain ⟨hit, hf, he⟩ := Option.map_eq_some_iff.1 h
  obtain ⟨hm | hn, hfirst, _⟩ := foldl_better_spec hf
  · obtain ⟨entry, hmem, hp⟩ := List.mem_filterMap.1 hm
    obtain ⟨found, hfound, rfl⟩ := Option.map_eq_some_iff.1 hp
    cases he
    refine ⟨entry.1, hmem, hfound, ?_⟩
    intro other ho hmatch
    obtain ⟨values, hvalues⟩ := Option.isSome_iff_exists.1 hmatch
    exact hfirst (other.1, values, other.2)
      (List.mem_filterMap.2 ⟨other, ho, congrArg (Option.map _) hvalues⟩)
  · cases hn

/-- Where no two patterns conflict, the one is found that matches the path and that no other
such pattern precedes. -/
theorem find?_eq_some_iff (hr : router.IsApart) {params : List (String × List Char)} :
    router.find? path = some (params, value) ↔
      ∃ p, (p, value) ∈ router.entries ∧ p.match? path.toList = some params ∧
        ∀ entry ∈ router.entries, (entry.1.match? path.toList).isSome = true →
          entry.1.precedes p = false := by
  refine ⟨mem_of_find?, ?_⟩
  rintro ⟨p, hm, hp, hfirst⟩
  cases hf : router.find? path with
  | none =>
      have hnil := eq_nil_of_foldl_better (Option.map_eq_none_iff.1 hf)
      have hnone := List.filterMap_eq_nil_iff.1 hnil _ hm
      rw [Option.map_eq_none_iff, hp] at hnone
      cases hnone
  | some found =>
      obtain ⟨q, hmq, hq, hother⟩ := mem_of_find? hf
      have hsymm : Std.Symm fun a b : PathPattern × α => a.1.conflicts b.1 = false :=
        ⟨fun a b h => (PathPattern.conflicts_comm b.1 a.1).trans h⟩
      have hsame : (p, value) = (q, found.2) := by
        by_contra hne
        have hapart := List.Pairwise.forall hr hm hmq hne
        have hconflict := PathPattern.conflicts_of_match hp hq
          (hother _ hm (Option.isSome_of_eq_some hp)) (hfirst _ hmq (Option.isSome_of_eq_some hq))
        exact Bool.false_ne_true (hapart.symm.trans hconflict)
      cases hsame
      rw [hp] at hq
      cases hq
      rfl

/-- Routers with the same patterns find values that are related as those of each pattern are. -/
theorem find?_rel {β : Type} {other : Router β} {R : α → β → Prop} (hr : router.IsApart)
    (ho : other.IsApart)
    (hleft : ∀ entry ∈ router.entries, ∃ b, (entry.1, b) ∈ other.entries ∧ R entry.2 b)
    (hright : ∀ entry ∈ other.entries, ∃ a, (entry.1, a) ∈ router.entries ∧ R a entry.2)
    (path : String) :
    Option.Rel (fun x y => x.1 = y.1 ∧ R x.2 y.2) (router.find? path) (other.find? path) := by
  cases hf : router.find? path with
  | some found =>
      obtain ⟨p, hm, hp, hfirst⟩ := (find?_eq_some_iff hr).1 hf
      obtain ⟨b, hb, hrel⟩ := hleft _ hm
      have hother : other.find? path = some (found.1, b) := by
        refine (find?_eq_some_iff ho).2 ⟨p, hb, hp, ?_⟩
        intro entry he hmatch
        obtain ⟨a, ha, _⟩ := hright entry he
        exact hfirst _ ha hmatch
      rw [hother]
      exact .some ⟨rfl, hrel⟩
  | none =>
      cases hother : other.find? path with
      | none => exact .none
      | some found =>
          -- what the other router finds would have to be found here, too
          obtain ⟨p, hm, hp, hfirst⟩ := (find?_eq_some_iff ho).1 hother
          obtain ⟨a, ha, _⟩ := hright _ hm
          have hfound : router.find? path = some (found.1, a) := by
            refine (find?_eq_some_iff hr).2 ⟨p, ha, hp, ?_⟩
            intro entry he hmatch
            obtain ⟨b, hb, _⟩ := hleft entry he
            exact hfirst _ hb hmatch
          rw [hf] at hfound
          cases hfound

end Router

namespace PathPart

variable {params : List (String × String)} {more out : List Char}

/-- Filling the placeholders of the characters gives others. -/
def FillsTo (params : List (String × String)) (cs out : List Char) : Prop :=
  ∃ filled, (ofChars cs).mapM (fill params) = .ok filled ∧ filled.flatten = out

theorem fillsTo_nil (params : List (String × String)) : FillsTo params [] [] :=
  ⟨[], by rw [ofChars]; rfl, rfl⟩

theorem FillsTo.cons {c : Char} (hc : c ≠ '\x7b') (h : FillsTo params more out) :
    FillsTo params (c :: more) (c :: out) := by
  obtain ⟨filled, hfill, rfl⟩ := h
  refine ⟨[c] :: filled, ?_, rfl⟩
  rw [ofChars, if_neg hc, List.mapM_cons, hfill]
  rfl

/-- Characters that are no braces are copied. -/
theorem FillsTo.append {cs : List Char} (hcs : ∀ c ∈ cs, isBrace c = false)
    (h : FillsTo params more out) : FillsTo params (cs ++ more) (cs ++ out) := by
  induction cs with
  | nil => exact h
  | cons c cs ih =>
      rw [List.forall_mem_cons] at hcs
      refine (ih hcs.2).cons ?_
      rintro rfl
      cases hcs.1

/-- What stands between braces is read up to the closing one. -/
theorem placeholder?_append {inner : List Char} (hne : inner ≠ [])
    (hinner : ∀ c ∈ inner, isBrace c = false) (after : List Char) :
    placeholder? (inner ++ '\x7d' :: after) = some (inner, after) := by
  have hpos : ∀ c ∈ inner, (!isBrace c) = true := fun c hc => by rw [hinner c hc, Bool.not_false]
  have hstop : (!isBrace '\x7d') = false := rfl
  have htake : (inner ++ '\x7d' :: after).takeWhile (fun c => !isBrace c) = inner := by
    rw [List.takeWhile_append_of_pos hpos, List.takeWhile_cons_of_neg (by simp [hstop]),
      List.append_nil]
  have hdrop : (inner ++ '\x7d' :: after).dropWhile (fun c => !isBrace c) = '\x7d' :: after := by
    rw [List.dropWhile_append_of_pos hpos, List.dropWhile_cons_of_neg (by simp [hstop])]
  simp only [placeholder?, hdrop, htake, List.isEmpty_iff, hne, if_false]

theorem ofChars_placeholder {inner : List Char} (hne : inner ≠ [])
    (hinner : ∀ c ∈ inner, isBrace c = false) (after : List Char) :
    ofChars ('\x7b' :: inner ++ '\x7d' :: after) = .placeholder inner :: ofChars after := by
  have hread := placeholder?_append hne hinner after
  rw [List.cons_append, ofChars, if_pos rfl]
  split
  · rename_i hsome
    rw [hread] at hsome
    cases hsome
    rfl
  · rename_i hnone
    rw [hread] at hnone
    cases hnone

/-- A placeholder is replaced by the value of its name. -/
theorem FillsTo.placeholder {inner : List Char} {value : String} (hne : inner ≠ [])
    (hinner : ∀ c ∈ inner, isBrace c = false) (hl : params.lookup (key inner) = some value)
    (h : FillsTo params more out) :
    FillsTo params ('\x7b' :: inner ++ '\x7d' :: more) (value.toList ++ out) := by
  obtain ⟨filled, hfill, rfl⟩ := h
  refine ⟨value.toList :: filled, ?_, rfl⟩
  rw [ofChars_placeholder hne hinner, List.mapM_cons, fill, hl, hfill]
  rfl

end PathPart

namespace RouteTable

variable {M A : Type}

/-- A route leaves the table as it is if it has no name or one that stands for its path; a new
name is put in. -/
theorem add_eq_ok_iff {t next : RouteTable} {r : Route M A} :
    t.add r = .ok next ↔
      ((r.name.isEmpty = true ∨ t.paths.get? r.name = some r.path) ∧ next = t) ∨
        (r.name.isEmpty = false ∧ t.paths.get? r.name = none ∧
          next = ⟨t.paths.insert r.name r.path⟩) := by
  unfold add
  by_cases hname : r.name.isEmpty = true
  · simp [hname, eq_comm]
  · rw [if_neg hname]
    cases hp : t.paths.get? r.name with
    | none => simp [hname, eq_comm]
    | some path =>
        by_cases hsame : path = r.path
        · simp [hname, hsame, eq_comm]
        · simp [hname, hsame]

theorem get?_add {t next : RouteTable} {r : Route M A} (h : t.add r = .ok next) :
    (∀ name path, t.paths.get? name = some path → next.paths.get? name = some path) ∧
      (r.name.isEmpty = false → next.paths.get? r.name = some r.path) := by
  rcases add_eq_ok_iff.1 h with ⟨hstands, rfl⟩ | ⟨hname, hnone, rfl⟩
  · refine ⟨fun _ _ hp => hp, fun hname => ?_⟩
    rcases hstands with hempty | hp
    · simp [hname] at hempty
    · exact hp
  · refine ⟨fun name path hp => ?_, fun _ => by simp⟩
    by_cases hsame : name = r.name
    · rw [hsame, hnone] at hp
      cases hp
    · simpa [hsame] using hp

/-- The name of every route stands for its path. -/
theorem get?_of_foldlM_add {routes : List (Route M A)} {t next : RouteTable}
    (h : routes.foldlM add t = .ok next) :
    (∀ name path, t.paths.get? name = some path → next.paths.get? name = some path) ∧
      ∀ r ∈ routes, r.name.isEmpty = false → next.paths.get? r.name = some r.path := by
  induction routes generalizing t with
  | nil =>
      cases h
      refine ⟨fun _ _ hp => hp, ?_⟩
      intro r hr
      cases hr
  | cons first routes ih =>
      rw [List.foldlM_cons] at h
      obtain ⟨middle, hadd, hrest⟩ := bind_eq_ok.1 h
      obtain ⟨hkeeps, hfirst⟩ := get?_add hadd
      obtain ⟨hkeeps', hrest⟩ := ih hrest
      refine ⟨fun name path hp => hkeeps' _ _ (hkeeps _ _ hp), ?_⟩
      intro r hr hn
      rcases List.mem_cons.1 hr with rfl | hr
      · exact hkeeps' _ _ (hfirst hn)
      · exact hrest r hr hn

theorem urlFor_of_fillsTo {t : RouteTable} {name path : String} {out : List Char}
    {params : List (String × String)} (hp : t.paths.get? name = some path)
    (h : PathPart.FillsTo params path.toList out) :
    t.urlFor name params = .ok (String.ofList out) := by
  obtain ⟨filled, hfill, rfl⟩ := h
  simp only [urlFor, pattern?, hp, hfill]

/-- A path without braces has nothing to be filled. -/
theorem urlFor_of_plain {t : RouteTable} {name path : String} (hp : t.paths.get? name = some path)
    (hb : path.toList.any PathPart.isBrace = false) (params : List (String × String)) :
    t.urlFor name params = .ok path := by
  have hcopied := (PathPart.fillsTo_nil params).append (by simpa using hb)
  rw [List.append_nil] at hcopied
  rw [urlFor_of_fillsTo hp hcopied, String.ofList_toList]

end RouteTable

end Formwork
