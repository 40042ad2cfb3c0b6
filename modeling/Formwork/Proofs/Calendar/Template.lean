import Formwork.Calendar.Pattern
import Formwork.Proofs.Text.Cut

/-! # Templates and their patterns

The words of a template are replaced one after the other, each in what the replacements before
it have left. What comes out of all of them is a cut of the template into tokens: characters,
percent signs and words, each written on its own (`source_tokens`, `chars_tokens`). Only one
specifier can be taken for the beginning of a word: that of the month, where `inute` stands behind
it. So every percent sign of a pattern begins a specifier or a doubled sign, and there are as many
doubled signs as the template has percent signs, unless `monthinute` occurs in it
(`percents_eq_iff`).
-/

namespace Formwork.Calendar

/-! ## Replacing a word -/

section Replacing

variable {mark new cs : List Char} {c : Char}

theorem replaceAll_append (hm : mark ≠ []) (rest : List Char) :
    replaceAll mark new (mark ++ rest) = new ++ replaceAll mark new rest := by
  cases mark with
  | nil => exact absurd rfl hm
  | cons c mark =>
      have hp := Cut.isPrefixOf?_append (c :: mark) rest
      rw [List.cons_append] at hp ⊢
      rw [replaceAll, hp]
      have hlt : rest.length < (c :: (mark ++ rest)).length := by
        simp only [List.length_cons, List.length_append]
        omega
      simp only [hlt, if_true]

theorem replaceAll_cons (h : ¬ mark <+: c :: cs) :
    replaceAll mark new (c :: cs) = c :: replaceAll mark new cs := by
  rw [replaceAll, Cut.isPrefixOf?_eq_none h]

end Replacing

/-! ## Tokens -/

/-- A piece of a template, as it is when some of the words have been replaced. -/
inductive Token where
  | plain (c : Char)
  /-- A percent sign. -/
  | sign
  | number (component : Component)
  /-- The word of the month with `inute` behind it, both replaced. -/
  | clash
deriving DecidableEq

namespace Token

/-- The word of the minute without its first letter. -/
def inute : List Char := ['i', 'n', 'u', 't', 'e']

/-- What stands in the template. -/
def source : Token → List Char
  | plain c => [c]
  | sign => ['%']
  | number component => component.word
  | clash => Component.month.word ++ inute

/-- What stands in the pattern. -/
def chars : Token → List Char
  | plain c => [c]
  | sign => ['%', '%']
  | number component => ['%', component.letter]
  | clash => ['%', '%', 'M']

/-- The token of a character. -/
def ofChar (c : Char) : Token := if c = '%' then sign else plain c

/-- Replaces the word of a component. -/
def translate (component : Component) : List Token → List Token
  | [] => []
  | x :: xs =>
    if component.word.map plain <+: x :: xs then
      number component :: translate component (xs.drop (component.word.length - 1))
    else if component = .minute ∧ number .month :: inute.map plain <+: x :: xs then
      clash :: translate component (xs.drop 5)
    else x :: translate component xs
termination_by ts => ts.length
decreasing_by
  all_goals
    simp only [List.length_cons, List.length_drop]
    omega

variable {component : Component} {ts xs : List Token} {x : Token}

theorem word_eq_cons (component : Component) :
    ∃ c cs, component.word = c :: cs ∧ '%' ∉ c :: cs ∧ 'M' ≠ c := by
  cases component
  all_goals exact ⟨_, _, rfl, by decide, by decide⟩

theorem drop_of_prefix {mark : List Token} (hp : mark <+: x :: xs) (hm : mark ≠ []) :
    mark ++ xs.drop (mark.length - 1) = x :: xs := by
  obtain ⟨rest, h⟩ := hp
  cases mark with
  | nil => exact absurd rfl hm
  | cons y mark =>
      cases h
      simp

theorem flatMap_source_plain (cs : List Char) : (cs.map plain).flatMap source = cs := by
  induction cs with
  | nil => rfl
  | cons c cs ih =>
      rw [List.map_cons, List.flatMap_cons, ih]
      rfl

theorem flatMap_chars_plain (cs : List Char) : (cs.map plain).flatMap chars = cs := by
  induction cs with
  | nil => rfl
  | cons c cs ih =>
      rw [List.map_cons, List.flatMap_cons, ih]
      rfl

theorem source_translate : (translate component ts).flatMap source = ts.flatMap source := by
  fun_induction translate component ts with
  | case1 => rfl
  | case2 x xs hp ih =>
      obtain ⟨c, cs, hw, _⟩ := word_eq_cons component
      have hsplit := drop_of_prefix hp (by simp [hw])
      rw [List.length_map] at hsplit
      rw [← hsplit, List.flatMap_cons, ih, List.flatMap_append, flatMap_source_plain, source]
  | case3 x xs _ hp ih =>
      have hsplit := drop_of_prefix hp.2 (by simp)
      rw [← hsplit, List.flatMap_cons, ih, List.flatMap_append]
      rfl
  | case4 x xs _ _ ih => rw [List.flatMap_cons, ih, List.flatMap_cons]

/-- Nothing comes in but what a word is replaced by. -/
theorem mem_translate (h : x ∈ translate component ts) :
    x ∈ ts ∨ x = number component ∨ x = clash := by
  fun_induction translate component ts with
  | case1 => cases h
  | case2 y xs _ ih =>
      rcases List.mem_cons.1 h with rfl | h
      · exact .inr (.inl rfl)
      · exact (ih h).imp_left fun hx => List.mem_cons_of_mem _ (List.mem_of_mem_drop hx)
  | case3 y xs _ _ ih =>
      rcases List.mem_cons.1 h with rfl | h
      · exact .inr (.inr rfl)
      · exact (ih h).imp_left fun hx => List.mem_cons_of_mem _ (List.mem_of_mem_drop hx)
  | case4 y xs _ _ ih =>
      rcases List.mem_cons.1 h with rfl | h
      · exact .inl List.mem_cons_self
      · exact (ih h).imp_left (List.mem_cons_of_mem _)

/-! ## Tokens and characters -/

/-- Where a percent sign is no part of a text, the text is found among characters that were
never replaced. -/
theorem prefix_of_prefix_chars {cs : List Char} (hc : '%' ∉ cs) (h : cs <+: ts.flatMap chars) :
    cs.map plain <+: ts := by
  induction cs generalizing ts with
  | nil => exact List.nil_prefix
  | cons c cs ih =>
      rw [List.mem_cons, not_or] at hc
      cases ts with
      | nil => simp at h
      | cons x ts =>
          rw [List.flatMap_cons] at h
          cases x with
          | plain d =>
              obtain ⟨he, hrest⟩ := List.cons_prefix_cons.1 h
              rw [he]
              exact List.cons_prefix_cons.2 ⟨rfl, ih hc.2 hrest⟩
          | sign => exact absurd (List.cons_prefix_cons.1 h).1.symm hc.1
          | number d => exact absurd (List.cons_prefix_cons.1 h).1.symm hc.1
          | clash => exact absurd (List.cons_prefix_cons.1 h).1.symm hc.1

/-- The letter of the one component does not begin the word of the other; for a month before
minutes it does. -/
def Apart (d component : Component) : Prop :=
  component.word.head? ≠ some d.letter ∨ d = .month ∧ component = .minute

instance (d component : Component) : Decidable (Apart d component) :=
  inferInstanceAs (Decidable (_ ∨ _))

/-- A word is replaced in the characters of tokens as it is in the tokens. -/
theorem replaceAll_chars (h : ∀ d, number d ∈ ts → Apart d component) :
    replaceAll component.word ['%', component.letter] (ts.flatMap chars) =
      (translate component ts).flatMap chars := by
  obtain ⟨c, cs, hw, hno, hM⟩ := word_eq_cons component
  have hsign : ∀ rest, ¬ component.word <+: '%' :: rest := by
    intro rest hp
    rw [hw] at hp
    exact hno (by simp [(List.cons_prefix_cons.1 hp).1])
  fun_induction translate component ts with
  | case1 => rw [List.flatMap_nil, replaceAll]
  | case2 x xs hp ih =>
      have hsplit := drop_of_prefix hp (by simp [hw])
      rw [List.length_map] at hsplit
      have hrest := ih fun d hd => h d (by rw [← hsplit]; exact List.mem_append_right _ hd)
      rw [← hsplit, List.flatMap_append, flatMap_chars_plain, replaceAll_append (by simp [hw]),
        hrest, List.flatMap_cons, chars]
  | case3 x xs _ hp ih =>
      obtain ⟨rfl, hp⟩ := hp
      have hsplit := drop_of_prefix hp (by simp)
      have hrest := ih fun d hd => h d (by rw [← hsplit]; exact List.mem_append_right _ hd)
      -- behind the percent sign of the month stands the word of the minute
      have hchars : (x :: xs).flatMap chars =
          '%' :: (Component.minute.word ++ (xs.drop 5).flatMap chars) := by
        rw [← hsplit, List.flatMap_append]
        rfl
      rw [hchars, replaceAll_cons (hsign _), replaceAll_append (by simp [hw]), hrest]
      rfl
  | case4 x xs hplain hclash ih =>
      have hrest := ih fun d hd => h d (List.mem_cons_of_mem _ hd)
      rw [List.flatMap_cons, List.flatMap_cons, ← hrest]
      cases x with
      | plain d =>
          refine replaceAll_cons fun hp => hplain ?_
          have hchars : component.word <+: (plain d :: xs).flatMap chars := hp
          exact prefix_of_prefix_chars (by rwa [hw]) hchars
      | sign =>
          show replaceAll _ _ ('%' :: '%' :: xs.flatMap chars) = _
          rw [replaceAll_cons (hsign _), replaceAll_cons (hsign _)]
          rfl
      | number d =>
          have hletter : ¬ component.word <+: d.letter :: xs.flatMap chars := by
            intro hp
            rcases h d List.mem_cons_self with hd | ⟨rfl, rfl⟩
            · rw [hw] at hp hd
              exact hd (by simp [(List.cons_prefix_cons.1 hp).1])
            · have hp' := prefix_of_prefix_chars (by decide) (List.cons_prefix_cons.1 hp).2
              exact hclash ⟨rfl, List.cons_prefix_cons.2 ⟨rfl, hp'⟩⟩
          show replaceAll _ _ ('%' :: d.letter :: xs.flatMap chars) = _
          rw [replaceAll_cons (hsign _), replaceAll_cons hletter]
          rfl
      | clash =>
          have hupper : ¬ component.word <+: 'M' :: xs.flatMap chars := by
            intro hp
            rw [hw] at hp
            exact hM (List.cons_prefix_cons.1 hp).1.symm
          show replaceAll _ _ ('%' :: '%' :: 'M' :: xs.flatMap chars) = _
          rw [replaceAll_cons (hsign _), replaceAll_cons (hsign _), replaceAll_cons hupper]
          rfl

theorem chars_foldl {components : List Component} (hpairs : components.Pairwise Apart)
    (h : ∀ d, number d ∈ ts → ∀ component ∈ components, Apart d component) :
    (components.foldl (fun ts component => translate component ts) ts).flatMap chars =
      components.foldl (fun cs component => replaceAll component.word ['%', component.letter] cs)
        (ts.flatMap chars) := by
  induction components generalizing ts with
  | nil => rfl
  | cons first components ih =>
      rw [List.pairwise_cons] at hpairs
      rw [List.foldl_cons, List.foldl_cons,
        replaceAll_chars fun d hd => h d hd first List.mem_cons_self]
      apply ih hpairs.2
      intro d hd component hc
      rcases mem_translate hd with hd | hd | hd
      · exact h d hd component (List.mem_cons_of_mem _ hc)
      · cases hd
        exact hpairs.1 component hc
      · cases hd

/-- The tokens of a template. -/
def tokens (template : List Char) : List Token :=
  Component.all.foldl (fun ts component => translate component ts) (template.map ofChar)

theorem flatMap_chars_ofChar (template : List Char) :
    (template.map ofChar).flatMap chars = replaceAll ['%'] ['%', '%'] template := by
  induction template with
  | nil => rw [replaceAll]; rfl
  | cons c template ih =>
      rw [List.map_cons, List.flatMap_cons, ih]
      by_cases hc : c = '%'
      · subst hc
        exact (@replaceAll_append ['%'] _ (by simp) template).symm
      · rw [replaceAll_cons (by simp [List.cons_prefix_cons, eq_comm, hc]), ofChar, if_neg hc]
        rfl

/-- The pattern of a template is what its tokens are written as. -/
theorem chars_tokens (template : List Char) :
    (tokens template).flatMap chars = patternChars template := by
  have hnone : ∀ d, number d ∉ template.map ofChar := by
    intro d hd
    obtain ⟨c, _, hc⟩ := List.mem_map.1 hd
    unfold ofChar at hc
    split at hc <;> cases hc
  rw [tokens, chars_foldl (by decide) fun d hd => absurd hd (hnone d), flatMap_chars_ofChar]
  rfl

theorem flatMap_source_ofChar (template : List Char) :
    (template.map ofChar).flatMap source = template := by
  induction template with
  | nil => rfl
  | cons c template ih =>
      rw [List.map_cons, List.flatMap_cons, ih, ofChar]
      split
      · rename_i hc
        rw [hc]
        rfl
      · rfl

/-- A template is what its tokens stand for. -/
theorem source_tokens (template : List Char) : (tokens template).flatMap source = template := by
  suffices h : ∀ (components : List Component) (ts : List Token),
      (components.foldl (fun ts component => translate component ts) ts).flatMap source =
        ts.flatMap source by
    rw [tokens, h, flatMap_source_ofChar]
  intro components
  induction components with
  | nil => intro ts; rfl
  | cons first components ih =>
      intro ts
      rw [List.foldl_cons, ih, source_translate]

/-! ## The clash -/

/-- The token can begin what is replaced by a component. -/
def begins (component : Component) : Token → Bool
  | plain c => component.word.head? == some c
  | number d => d == .month && component == .minute
  | _ => false

/-- The token can stand inside of what is replaced by a component. -/
def isInside (component : Component) : Token → Bool
  | plain c => component.word.tail.contains c
  | _ => false

theorem translate_word (component : Component) (rest : List Token) :
    translate component (component.word.map plain ++ rest) =
      number component :: translate component rest := by
  obtain ⟨c, cs, hw, _⟩ := word_eq_cons component
  have hp : component.word.map plain <+: plain c :: (cs.map plain ++ rest) := by
    rw [hw]
    exact List.prefix_append _ rest
  have hdrop : (cs.map plain ++ rest).drop (component.word.length - 1) = rest := by
    simp [hw]
  have hstart : component.word.map plain ++ rest = plain c :: (cs.map plain ++ rest) := by
    rw [hw]
    rfl
  rw [hstart, translate, if_pos hp, hdrop]

theorem translate_clash (rest : List Token) :
    translate .minute (number .month :: inute.map plain ++ rest) =
      clash :: translate .minute rest := by
  have hword : ¬ Component.minute.word.map plain <+:
      number .month :: (inute.map plain ++ rest) := by
    intro hp
    cases (List.cons_prefix_cons.1 hp).1
  have hp : number .month :: inute.map plain <+: number .month :: (inute.map plain ++ rest) :=
    List.prefix_append (number .month :: inute.map plain) rest
  rw [List.cons_append, translate, if_neg hword, if_pos ⟨rfl, hp⟩]
  rfl

/-- Where nothing begins that is replaced, all stays. -/
theorem translate_skip (h : ∀ y ∈ xs, begins component y = false) (rest : List Token) :
    translate component (xs ++ rest) = xs ++ translate component rest := by
  induction xs with
  | nil => rfl
  | cons y xs ih =>
      rw [List.forall_mem_cons] at h
      obtain ⟨c, cs, hw, _⟩ := word_eq_cons component
      have hword : ¬ component.word.map plain <+: y :: (xs ++ rest) := by
        intro hp
        rw [hw] at hp
        cases (List.cons_prefix_cons.1 hp).1
        simp [begins, hw] at h
      have hclash : ¬ (component = .minute ∧
          number .month :: inute.map plain <+: y :: (xs ++ rest)) := by
        rintro ⟨rfl, hp⟩
        cases (List.cons_prefix_cons.1 hp).1
        exact absurd h.1 (by decide)
      rw [List.cons_append, translate, if_neg hword, if_neg hclash, ih h.2, List.cons_append]

/-- A replacement that has begun ends before a token that cannot stand inside of it. -/
theorem prefix_of_prefix_append {cs : List Char} {y first : Token} (hx : ∀ c ∈ cs, x ≠ plain c)
    {rest : List Token} (h : first :: cs.map plain <+: y :: (xs ++ x :: rest)) :
    first :: cs.map plain <+: y :: xs := by
  obtain ⟨he, hrest⟩ := List.cons_prefix_cons.1 h
  refine List.cons_prefix_cons.2 ⟨he, Cut.prefix_of_prefix_append_cons ?_ hrest⟩
  intro hm
  obtain ⟨c, hc, he⟩ := List.mem_map.1 hm
  exact hx c hc he.symm

/-- Nothing is replaced across a token that cannot stand inside of what is replaced. -/
theorem translate_append (hx : isInside component x = false) (rest : List Token) :
    translate component (ts ++ x :: rest) =
      translate component ts ++ translate component (x :: rest) := by
  obtain ⟨c, cs, hw, _⟩ := word_eq_cons component
  have hin : ∀ d ∈ cs, x ≠ plain d := by
    rintro d hd rfl
    simp [isInside, hw, hd] at hx
  fun_induction translate component ts with
  | case1 => rfl
  | case2 y ys hp ih =>
      have hlen := hp.length_le
      rw [List.length_map, List.length_cons] at hlen
      have hmore : component.word.map plain <+: y :: (ys ++ x :: rest) :=
        hp.trans (List.prefix_append (y :: ys) (x :: rest))
      rw [List.cons_append, translate, if_pos hmore, List.drop_append_of_le_length (by omega), ih,
        List.cons_append]
  | case3 y ys hno hp ih =>
      obtain ⟨rfl, hp⟩ := hp
      have hlen := hp.length_le
      rw [List.length_cons, List.length_map, List.length_cons] at hlen
      have hmore : number .month :: inute.map plain <+: y :: (ys ++ x :: rest) :=
        hp.trans (List.prefix_append (y :: ys) (x :: rest))
      have hword : ¬ Component.minute.word.map plain <+: y :: (ys ++ x :: rest) := by
        rw [hw]
        exact fun h => hno (by rw [hw]; exact prefix_of_prefix_append hin h)
      rw [List.cons_append, translate, if_neg hword, if_pos ⟨rfl, hmore⟩,
        List.drop_append_of_le_length (show 5 ≤ ys.length from Nat.le_of_succ_le_succ hlen), ih,
        List.cons_append]
  | case4 y ys hno hclash ih =>
      have hword : ¬ component.word.map plain <+: y :: (ys ++ x :: rest) := by
        rw [hw]
        exact fun h => hno (by rw [hw]; exact prefix_of_prefix_append hin h)
      have hother : ¬ (component = .minute ∧
          number .month :: inute.map plain <+: y :: (ys ++ x :: rest)) := by
        rintro ⟨rfl, h⟩
        cases hw
        exact hclash ⟨rfl, prefix_of_prefix_append hin h⟩
      rw [List.cons_append, translate, if_neg hword, if_neg hother, ih, List.cons_append]

/-- Tokens stay together where nothing begins that is replaced. -/
theorem infix_translate (hx : isInside component x = false)
    (hb : ∀ y ∈ x :: xs, begins component y = false) (h : x :: xs <:+: ts) :
    x :: xs <:+: translate component ts := by
  obtain ⟨front, back, rfl⟩ := h
  rw [List.append_assoc, List.cons_append, translate_append hx, ← List.cons_append,
    translate_skip hb, ← List.append_assoc]
  exact List.infix_append _ _ _

theorem infix_translate_month (h : (Component.month.word ++ inute).map plain <:+: ts) :
    number .month :: inute.map plain <:+: translate .month ts := by
  obtain ⟨front, back, rfl⟩ := h
  have hcut : front ++ (Component.month.word ++ inute).map plain ++ back =
      front ++ plain 'm' :: (['o', 'n', 't', 'h'].map plain ++ (inute.map plain ++ back)) := by
    rw [List.map_append, List.append_assoc, List.append_assoc]
    rfl
  have hword : translate .month (plain 'm' :: (['o', 'n', 't', 'h'].map plain ++
      (inute.map plain ++ back))) = number .month :: inute.map plain ++ translate .month back := by
    have hskip : translate .month (inute.map plain ++ back) =
        inute.map plain ++ translate .month back := translate_skip (by decide) back
    rw [List.cons_append, ← hskip]
    exact translate_word .month (inute.map plain ++ back)
  rw [hcut, translate_append (by decide), hword]
  exact ⟨_, _, List.append_assoc _ _ _⟩

theorem infix_translate_minute (h : number .month :: inute.map plain <:+: ts) :
    [clash] <:+: translate .minute ts := by
  obtain ⟨front, back, rfl⟩ := h
  rw [List.append_assoc, List.cons_append, translate_append (by decide), ← List.cons_append,
    translate_clash]
  exact ⟨_, _, List.append_assoc _ _ _⟩

theorem map_ofChar_of_not_mem {cs : List Char} (h : '%' ∉ cs) : cs.map ofChar = cs.map plain := by
  apply List.map_congr_left
  intro c hc
  rw [ofChar, if_neg]
  rintro rfl
  exact h hc

/-- The tokens clash exactly where the template runs the month and the minute together. -/
theorem clash_mem_tokens_iff {template : List Char} :
    clash ∈ tokens template ↔ Component.month.word ++ inute <:+: template := by
  constructor
  · intro h
    obtain ⟨front, back, hts⟩ := List.append_of_mem h
    have hsource := source_tokens template
    rw [hts, List.flatMap_append, List.flatMap_cons] at hsource
    exact ⟨front.flatMap source, back.flatMap source, by rw [← hsource, List.append_assoc]; rfl⟩
  · rintro ⟨front, back, rfl⟩
    have hstart : (Component.month.word ++ inute).map plain <:+:
        (front ++ (Component.month.word ++ inute) ++ back).map ofChar := by
      rw [← map_ofChar_of_not_mem (by decide)]
      exact (List.infix_append front _ back).map ofChar
    have hyear : _ <:+: translate .year _ := infix_translate (by decide) (by decide) hstart
    have hmonth := infix_translate_month hyear
    have hday : _ <:+: translate .day _ := infix_translate (by decide) (by decide) hmonth
    have hhour : _ <:+: translate .hour _ := infix_translate (by decide) (by decide) hday
    have hminute := infix_translate_minute hhour
    have hsecond : _ <:+: translate .second _ := infix_translate (by decide) (by decide) hminute
    exact hsecond.subset List.mem_cons_self

/-! ## Percent signs -/

theorem mem_tokens {template : List Char} (h : x ∈ tokens template) :
    x ∈ template.map ofChar ∨ (∃ component, x = number component) ∨ x = clash := by
  suffices hfold : ∀ (components : List Component) (ts : List Token),
      x ∈ components.foldl (fun ts component => translate component ts) ts →
        x ∈ ts ∨ (∃ component, x = number component) ∨ x = clash from hfold _ _ h
  intro components
  induction components with
  | nil => exact fun ts hx => .inl hx
  | cons first components ih =>
      intro ts hx
      rcases ih _ hx with hx | hx
      · exact (mem_translate hx).imp_right fun hx => hx.imp_left fun hx => ⟨first, hx⟩
      · exact .inr hx

theorem ne_of_plain_mem_tokens {template : List Char} {c : Char} (h : plain c ∈ tokens template) :
    c ≠ '%' := by
  rcases mem_tokens h with h | ⟨component, h⟩ | h
  · obtain ⟨d, _, hd⟩ := List.mem_map.1 h
    unfold ofChar at hd
    split at hd
    · cases hd
    · rename_i hne
      cases hd
      exact hne
  · cases h
  · cases h

theorem count_source (h : ∀ c, plain c ∈ ts → c ≠ '%') :
    (ts.flatMap source).count '%' = ts.count sign := by
  induction ts with
  | nil => rfl
  | cons x ts ih =>
      have hrest := ih fun c hc => h c (List.mem_cons_of_mem _ hc)
      rw [List.flatMap_cons, List.count_append, hrest, List.count_cons]
      have hx : x.source.count '%' = if x == sign then 1 else 0 := by
        cases x with
        | plain c => simpa [source, List.count_singleton] using h c List.mem_cons_self
        | sign => rfl
        | number component => cases component <;> decide
        | clash => decide
      rw [hx, Nat.add_comm]

end Token

/-! ## Items -/

theorem items_of_not_isSpace {c : Char} (hc : c ≠ '%') (hs : CharClass.isSpace c = false)
    (cs : List Char) : items (c :: cs) = .literal [c] :: items cs := by
  rw [items]
  · simp [hs]
  · exact fun _ h _ => hc h
  · exact fun _ _ h _ => hc h
  · exact fun h _ => hc h

/-- A blank goes to the run of blanks behind it, if there is one. -/
theorem items_of_isSpace {c : Char} (hs : CharClass.isSpace c = true) (cs : List Char) :
    (∃ text others, items cs = .blanks text :: others ∧
      items (c :: cs) = .blanks (c :: text) :: others) ∨
    (∀ text others, items cs ≠ .blanks text :: others) ∧
      items (c :: cs) = .blanks [c] :: items cs := by
  have hc : c ≠ '%' := by
    rintro rfl
    cases hs
  rw [items]
  · rw [if_pos hs]
    split
    · rename_i text others he
      exact .inl ⟨text, others, he, rfl⟩
    · rename_i hno
      exact .inr ⟨hno, rfl⟩
  · exact fun _ h _ => hc h
  · exact fun _ _ h _ => hc h
  · exact fun h _ => hc h

theorem items_letter (component : Component) (cs : List Char) :
    items ('%' :: component.letter :: cs) = .number component :: items cs := by
  cases component
  all_goals rfl

/-- Characters other than percent signs are neither doubled signs nor wrong specifiers. -/
theorem items_plain {c : Char} (hc : c ≠ '%') (cs : List Char) :
    (items (c :: cs)).count (.literal ['%']) = (items cs).count (.literal ['%']) ∧
      (.unknown ∈ items (c :: cs) ↔ .unknown ∈ items cs) := by
  by_cases hs : CharClass.isSpace c = true
  · rcases items_of_isSpace hs cs with ⟨text, others, he, hmore⟩ | ⟨_, hmore⟩
    · rw [hmore, he]
      simp
    · rw [hmore]
      simp
  · rw [items_of_not_isSpace hc (by simpa using hs)]
    simp [hc]

namespace Token

/-- What is read in the pattern of tokens: no wrong specifiers, and a percent sign for each
token that has one. -/
theorem items_chars {ts : List Token} (h : ∀ c, plain c ∈ ts → c ≠ '%') :
    (items (ts.flatMap chars)).count (.literal ['%']) = ts.count sign + ts.count clash ∧
      .unknown ∉ items (ts.flatMap chars) := by
  induction ts with
  | nil => exact ⟨rfl, List.not_mem_nil⟩
  | cons x ts ih =>
      obtain ⟨hcount, hknown⟩ := ih fun c hc => h c (List.mem_cons_of_mem _ hc)
      rw [List.flatMap_cons]
      cases x with
      | plain c =>
          have hplain := items_plain (h c List.mem_cons_self) (ts.flatMap chars)
          exact ⟨by simpa [chars, hcount] using hplain.1, fun hm => hknown (hplain.2.1 hm)⟩
      | sign =>
          have hsign : items (sign.chars ++ ts.flatMap chars) =
              .literal ['%'] :: items (ts.flatMap chars) := rfl
          rw [hsign, List.count_cons_self, List.count_cons_self, hcount]
          exact ⟨by simp; omega, by simp [hknown]⟩
      | number component =>
          rw [chars, List.cons_append, List.cons_append, List.nil_append, items_letter]
          simp [hcount, hknown]
      | clash =>
          have hclash : items (clash.chars ++ ts.flatMap chars) =
              .literal ['%'] :: .literal ['M'] :: items (ts.flatMap chars) := rfl
          rw [hclash, List.count_cons_self, List.count_cons_self]
          exact ⟨by simp [hcount]; omega, by simp [hknown]⟩

end Token

theorem not_unknown_mem_templateItems (template : String) :
    .unknown ∉ templateItems template := by
  rw [templateItems, ← Token.chars_tokens]
  exact (Token.items_chars fun _ => Token.ne_of_plain_mem_tokens).2

/-- Every percent sign of a pattern begins a specifier or a doubled sign. All percent signs of the
template are doubled; there are no other doubled signs exactly if the template does not run the
words of the month and the minute together. -/
theorem percents_eq_iff (template : String) :
    .unknown ∉ templateItems template ∧
    template.toList.count '%' ≤ (templateItems template).count (.literal ['%']) ∧
    ((templateItems template).count (.literal ['%']) = template.toList.count '%' ↔
      ¬ "monthinute".toList <:+: template.toList) := by
  have hplain := fun c => @Token.ne_of_plain_mem_tokens template.toList c
  have hcount : (templateItems template).count (.literal ['%']) =
      template.toList.count '%' + (Token.tokens template.toList).count .clash := by
    have hsource := Token.count_source hplain
    rw [Token.source_tokens] at hsource
    rw [templateItems, ← Token.chars_tokens, (Token.items_chars hplain).1, hsource]
  have hclash : "monthinute".toList <:+: template.toList ↔
      (Token.tokens template.toList).count .clash ≠ 0 := by
    rw [show "monthinute".toList = Component.month.word ++ Token.inute from by decide,
      ← Token.clash_mem_tokens_iff, ← List.count_pos_iff, Nat.pos_iff_ne_zero]
  refine ⟨not_unknown_mem_templateItems template, by omega, ?_⟩
  rw [hclash, hcount]
  omega

/-- The word of the month is lost in a doubled sign. -/
theorem monthinute_doubles_sign :
    patternText "monthinute" = "%%M" ∧
      (templateItems "monthinute").count (.literal ['%']) = 1 ∧
      "monthinute".toList.count '%' = 0 := by
  decide +kernel

end Formwork.Calendar
