import Formwork.Http.Uri
import Formwork.Proofs.Route.Lookup
import Formwork.Proofs.Text.Cut

/-! # Paths made of segments

Most paths are declared as a row of segments, each of them a text of unreserved characters or
a parameter, with perhaps a parameter for all that is left at the end. Two readers take such
a path apart, one to match requests and one to fill its placeholders. They agree on where the
parameters are: the path is read as the pattern of its shape
(`PathShape.eq_pattern_of_parse?`), it is filled part by part (`PathShape.fillsTo_url`), and
the pattern matches what has been filled, with the values that were put in
(`PathShape.match?_url`).
-/

namespace Formwork

namespace Uri

/-- A character that stands for itself in every part of a target. -/
def isUnreserved (c : Char) : Bool := CharClass.isAsciiAlnum c || "-._~".toList.contains c

/-- One or more unreserved characters. -/
def IsPlain (s : String) : Prop := s.toList ≠ [] ∧ ∀ c ∈ s.toList, isUnreserved c = true

instance (s : String) : Decidable (IsPlain s) :=
  @instDecidableAnd _ _ inferInstance
    (List.decidableBAll (fun c => isUnreserved c = true) s.toList)

/-- One or more such texts with slashes between them. -/
def IsPlainPath (s : String) : Prop :=
  ∃ parts, parts ≠ [] ∧ (∀ part ∈ parts, IsPlain part) ∧ s = Text.join "/" parts

theorem ne_of_isUnreserved {c d : Char} (hc : isUnreserved c = true)
    (hd : isUnreserved d = false) : c ≠ d := by
  rintro rfl
  exact Bool.false_ne_true (hd.symm.trans hc)

/-- A slash in front of each of one or more texts of unreserved characters. -/
def IsRooted (cs : List Char) : Prop :=
  ∃ parts : List String, parts ≠ [] ∧ (∀ part ∈ parts, IsPlain part) ∧
    cs = parts.flatMap fun part => '/' :: part.toList

theorem IsPlain.isRooted {s : String} (h : IsPlain s) : IsRooted ('/' :: s.toList) :=
  ⟨[s], List.cons_ne_nil _ _, by simpa using h, by simp⟩

theorem IsPlainPath.isRooted {s : String} (h : IsPlainPath s) : IsRooted ('/' :: s.toList) := by
  obtain ⟨parts, hne, hplain, rfl⟩ := h
  refine ⟨parts, hne, hplain, ?_⟩
  cases parts with
  | nil => exact absurd rfl hne
  | cons part parts =>
      rw [Text.toList_join_cons, List.flatMap_cons]
      rfl

namespace IsRooted

variable {cs : List Char}

theorem mem (h : IsRooted cs) {c : Char} (hc : c ∈ cs) : c = '/' ∨ isUnreserved c = true := by
  obtain ⟨parts, _, hplain, rfl⟩ := h
  obtain ⟨part, hpart, hc⟩ := List.mem_flatMap.1 hc
  rcases List.mem_cons.1 hc with rfl | hc
  · exact Or.inl rfl
  · exact Or.inr ((hplain part hpart).2 c hc)

theorem ne_of_mem (h : IsRooted cs) {c d : Char} (hc : c ∈ cs) (hslash : d ≠ '/')
    (hd : isUnreserved d = false) : c ≠ d := by
  rcases h.mem hc with rfl | hu
  · exact hslash.symm
  · exact ne_of_isUnreserved hu hd

/-- There is one slash at the front, and there are characters behind it. -/
theorem exists_eq_cons (h : IsRooted cs) :
    ∃ c rest, cs = '/' :: c :: rest ∧ isUnreserved c = true := by
  obtain ⟨parts, hne, hplain, rfl⟩ := h
  cases parts with
  | nil => exact absurd rfl hne
  | cons part parts =>
      obtain ⟨hpart, hall⟩ := hplain part List.mem_cons_self
      obtain ⟨c, rest, hc⟩ := List.exists_cons_of_ne_nil hpart
      refine ⟨c, rest ++ parts.flatMap fun part => '/' :: part.toList, ?_, ?_⟩
      · rw [List.flatMap_cons, hc, List.cons_append, List.cons_append]
      · exact hall c (hc ▸ List.mem_cons_self)

/-- There is no slash at the end. -/
theorem getLast?_ne (h : IsRooted cs) : cs.getLast? ≠ some '/' := by
  obtain ⟨parts, hne, hplain, rfl⟩ := h
  obtain ⟨init, last, rfl⟩ := (List.eq_nil_or_concat' parts).resolve_left hne
  obtain ⟨hlast, hall⟩ := hplain last (by simp)
  intro he
  rw [List.flatMap_append, List.flatMap_singleton,
    List.getLast?_append_of_ne_nil _ (List.cons_ne_nil _ _),
    List.getLast?_cons_of_ne_nil hlast] at he
  exact ne_of_isUnreserved (hall '/' (List.mem_of_getLast? he)) (by decide) rfl

theorem append (h : IsRooted cs) {more : List Char} (hm : IsRooted more) :
    IsRooted (cs ++ more) := by
  obtain ⟨parts, hne, hplain, rfl⟩ := h
  obtain ⟨others, _, hothers, rfl⟩ := hm
  refine ⟨parts ++ others, by simp [hne], ?_, by rw [List.flatMap_append]⟩
  intro part hp
  rcases List.mem_append.1 hp with hp | hp
  · exact hplain part hp
  · exact hothers part hp

end IsRooted

end Uri

/-- The text can be the name of a parameter between braces. -/
def PathPart.IsParamName (s : String) : Prop :=
  ∀ c ∈ s.toList, c ≠ '*' ∧ c ≠ '/' ∧ isBrace c = false

instance (s : String) : Decidable (PathPart.IsParamName s) :=
  List.decidableBAll (fun c => c ≠ '*' ∧ c ≠ '/' ∧ PathPart.isBrace c = false) s.toList

/-- The name of a parameter. -/
structure ParamName where
  text : String
  plain : PathPart.IsParamName text

/-- A segment that is written out. -/
structure PlainSegment where
  text : String
  plain : Uri.IsPlain text

/-- A segment of a shape. -/
inductive ShapePart where
  | literal (segment : PlainSegment)
  | param (name : ParamName)

/-- The shape of a path: its segments, at least one, and what takes all that is left behind
them. -/
structure PathShape where
  parts : List ShapePart
  rest : Option ParamName := none
  nonempty : parts ≠ [] ∨ rest ≠ none

namespace ParamName

/-- The characters that stand for the parameter in a path. -/
def value (params : List (String × String)) (n : ParamName) : List Char :=
  ((params.lookup n.text).getD "").toList

/-- The parameter as it is written for all that is left. -/
def restChars (n : ParamName) : List Char := '\x7b' :: ('*' :: n.text.toList) ++ ['\x7d']

theorem isBrace_eq_false (n : ParamName) : ∀ c ∈ n.text.toList, PathPart.isBrace c = false :=
  fun c hc => (n.plain c hc).2.2

theorem isBrace_star_eq_false (n : ParamName) :
    ∀ c ∈ '*' :: n.text.toList, PathPart.isBrace c = false :=
  List.forall_mem_cons.2 ⟨rfl, n.isBrace_eq_false⟩

theorem toList_ne_nil (n : ParamName) (h : n.text ≠ "") : n.text.toList ≠ [] :=
  fun he => h (String.toList_eq_nil_iff.1 he)

/-- No star stands in front of the name. -/
theorem key_toList (n : ParamName) : PathPart.key n.text.toList = n.text := by
  have hkey : PathPart.key n.text.toList = String.ofList n.text.toList := by
    unfold PathPart.key
    split
    · rename_i c cs hc
      exact absurd rfl (n.plain '*' (hc ▸ List.mem_cons_self)).1
    · rfl
  rw [hkey, String.ofList_toList]

theorem key_star (n : ParamName) (h : n.text ≠ "") :
    PathPart.key ('*' :: n.text.toList) = n.text := by
  obtain ⟨c, cs, hc⟩ := List.exists_cons_of_ne_nil (n.toList_ne_nil h)
  rw [hc, PathPart.key, ← hc, String.ofList_toList]

end ParamName

namespace ShapePart

/-- The part as it is written. -/
def chars : ShapePart → List Char
  | literal segment => segment.text.toList
  | param n => '\x7b' :: n.text.toList ++ ['\x7d']

/-- The part as it is matched. -/
def pattern : ShapePart → PathPattern
  | literal segment => .literal segment.text.toList
  | param n => [.segment n.text]

/-- The part with the value of its parameter. -/
def value (params : List (String × String)) : ShapePart → List Char
  | literal segment => segment.text.toList
  | param n => n.value params

/-- The parameter of the part. -/
def param? : ShapePart → Option ParamName
  | literal _ => none
  | param n => some n

/-- The pairs give the parameter of the part a value that can stand in its place. -/
def IsAssignedBy (params : List (String × String)) (part : ShapePart) : Prop :=
  ∀ n ∈ part.param?, ∃ value, params.lookup n.text = some value ∧ Uri.IsPlain value

end ShapePart

namespace PathShape

/-- The parts in order and what is left behind them, with a mark in front of each. -/
def layout {α : Type} (slash : α) (part : ShapePart → List α) (last : ParamName → List α)
    (rest : Option ParamName) : List ShapePart → List α
  | [] => rest.elim [] fun n => slash :: last n
  | p :: parts => slash :: (part p ++ layout slash part last rest parts)

/-- The path as it is declared. -/
def text (shape : PathShape) : String :=
  String.ofList (layout '/' ShapePart.chars ParamName.restChars shape.rest shape.parts)

/-- The pattern of the path. -/
def pattern (shape : PathShape) : PathPattern :=
  layout (.char '/') ShapePart.pattern (fun n => [.rest n.text]) shape.rest shape.parts

/-- The path with values for its parameters. -/
def url (shape : PathShape) (params : List (String × String)) : String :=
  String.ofList
    (layout '/' (ShapePart.value params) (ParamName.value params) shape.rest shape.parts)

/-- The parameters of parts and of what is left, in order. -/
def paramsOf (rest : Option ParamName) (parts : List ShapePart) : List ParamName :=
  parts.filterMap ShapePart.param? ++ rest.toList

/-- What the pattern matches in the path with values. -/
def matched (shape : PathShape) (params : List (String × String)) : List (String × List Char) :=
  (paramsOf shape.rest shape.parts).map fun n => (n.text, n.value params)

/-- The names of the parameters in order. -/
def names (shape : PathShape) : List String :=
  (paramsOf shape.rest shape.parts).map ParamName.text

/-- The pairs give every parameter a value that can stand in its place. -/
structure IsAssignedBy (shape : PathShape) (params : List (String × String)) : Prop where
  segments : ∀ part ∈ shape.parts, part.IsAssignedBy params
  rest : ∀ n ∈ shape.rest, ∃ value, params.lookup n.text = some value ∧ Uri.IsPlainPath value

end PathShape

/-! ## The path as a pattern -/

namespace PathPattern

variable {us : List (Char × Bool)} {p : PathPattern}

theorem match?_literal_append (cs : List Char) (q : PathPattern) (more : List Char) :
    (literal cs ++ q).match? (cs ++ more) = q.match? more := by
  induction cs with
  | nil => rfl
  | cons c cs ih => simpa [literal, match?] using ih

/-- The characters are read as the pattern, given enough fuel. -/
def Reads (us : List (Char × Bool)) (p : PathPattern) : Prop := ∃ fuel, parts? fuel us = some p

theorem reads_nil (h : Reads [] p) : p = [] := by
  obtain ⟨fuel, h⟩ := h
  cases fuel with
  | zero => cases h
  | succ fuel =>
      cases h
      rfl

/-- Characters that are no braces are read as themselves. -/
theorem reads_append {cs : List Char} (hcs : ∀ c ∈ cs, PathPart.isBrace c = false)
    (h : Reads (cs.map (·, false) ++ us) p) : ∃ q, Reads us q ∧ p = literal cs ++ q := by
  induction cs generalizing p with
  | nil => exact ⟨p, h, rfl⟩
  | cons c cs ih =>
      rw [List.forall_mem_cons] at hcs
      obtain ⟨fuel, h⟩ := h
      cases fuel with
      | zero => cases h
      | succ fuel =>
          have hc : ¬ (c = '\x7b' ∨ c = '\x7d') := by simpa [PathPart.isBrace] using hcs.1
          rw [List.map_cons, List.cons_append, parts?, if_pos (by simpa using hc)] at h
          obtain ⟨r, hr, rfl⟩ := Option.map_eq_some_iff.1 h
          obtain ⟨q, hq, rfl⟩ := ih hcs.2 ⟨fuel, hr⟩
          exact ⟨q, hq, rfl⟩

theorem ne_close_of_isBrace {c : Char} (h : PathPart.isBrace c = false) : c ≠ '\x7d' := by
  rintro rfl
  cases h

theorem nameTail?_append {cs : List Char}
    (hcs : ∀ c ∈ cs, c ≠ '*' ∧ c ≠ '/' ∧ PathPart.isBrace c = false) (us : List (Char × Bool)) :
    nameTail? (cs.map (·, false) ++ ('\x7d', false) :: us) = some (cs, us) := by
  induction cs with
  | nil => rfl
  | cons c cs ih =>
      rw [List.forall_mem_cons] at hcs
      obtain ⟨⟨hstar, hslash, hbrace⟩, hcs⟩ := hcs
      rw [List.map_cons, List.cons_append, nameTail?, ih hcs]
      simp [hstar, hslash, ne_close_of_isBrace hbrace]

/-- What is read behind an opening brace is a parameter. -/
theorem reads_parameter (h : Reads (('\x7b', false) :: us) p) :
    ∃ part after q, parameter? us = some (part, after) ∧ Reads after q ∧ p = part :: q := by
  obtain ⟨fuel, h⟩ := h
  cases fuel with
  | zero => cases h
  | succ fuel =>
      rw [parts?, if_neg (by simp), if_neg (by simp)] at h
      split at h
      · rename_i part after hpart
        obtain ⟨q, hq, rfl⟩ := Option.map_eq_some_iff.1 h
        exact ⟨part, after, q, hpart, ⟨fuel, hq⟩, rfl⟩
      · cases h

theorem reads_param {n : ParamName}
    (h : Reads (('\x7b', false) :: (n.text.toList.map (·, false) ++ ('\x7d', false) :: us)) p) :
    ∃ q, Reads us q ∧ p = .segment n.text :: q ∧ n.text ≠ "" := by
  obtain ⟨part, after, q, hpart, hq, rfl⟩ := reads_parameter h
  cases hn : n.text.toList with
  | nil =>
      -- braces with nothing between them are refused
      rw [hn] at hpart
      cases hpart
  | cons c cs =>
      have hplain := n.plain
      rw [PathPart.IsParamName, hn, List.forall_mem_cons] at hplain
      obtain ⟨⟨hstar, _, hbrace⟩, hcs⟩ := hplain
      rw [hn, List.map_cons, List.cons_append, parameter?,
        if_neg (ne_close_of_isBrace hbrace)] at hpart
      simp only [nameTail?_append hcs, if_neg hstar] at hpart
      split at hpart
      · cases hpart
        refine ⟨q, hq, ?_, fun he => ?_⟩
        · rw [← hn, String.ofList_toList]
        · rw [he] at hn
          cases hn
      · cases hpart

theorem reads_rest {n : ParamName}
    (h : Reads (('\x7b', false) :: ('*', false) ::
      (n.text.toList.map (·, false) ++ [('\x7d', false)])) p) :
    p = [.rest n.text] ∧ n.text ≠ "" := by
  obtain ⟨part, after, q, hpart, hq, rfl⟩ := reads_parameter h
  have hclose : '*' ≠ '\x7d' := by decide
  simp only [parameter?, nameTail?_append n.plain, if_neg hclose, if_true] at hpart
  split at hpart
  · cases hpart
  · rename_i hn
    cases hpart
    refine ⟨by rw [String.ofList_toList, reads_nil hq], fun he => hn ?_⟩
    rw [he]
    rfl

end PathPattern

open PathPattern (unescaped Reads)

/-! ## One part

Every lemma of this section has the part in front of what follows it in a path, which is
nothing or begins with a slash. -/

namespace ShapePart

/-- The rest of a path behind a part. -/
def Follows (more : List Char) : Prop := ∀ c ∈ more.head?, c = '/'

variable {part : ShapePart} {params : List (String × String)} {more : List Char}

theorem follows_nil : Follows [] := fun c hc => by cases hc

theorem follows_cons (cs : List Char) : Follows ('/' :: cs) := fun c hc => by
  cases hc
  rfl

theorem isBrace_of_isPlain {s : String} (h : Uri.IsPlain s) :
    ∀ c ∈ s.toList, PathPart.isBrace c = false := by
  intro c hc
  have hopen := Uri.ne_of_isUnreserved (d := '\x7b') (h.2 c hc) (by decide)
  have hclose := Uri.ne_of_isUnreserved (d := '\x7d') (h.2 c hc) (by decide)
  simp [PathPart.isBrace, hopen, hclose]

/-- Between single braces nothing is doubled. -/
theorem unescaped_braced {inner : List Char} (hinner : ∀ c ∈ inner, PathPart.isBrace c = false)
    (h : Follows more) :
    unescaped ('\x7b' :: inner ++ '\x7d' :: more) =
      ('\x7b' :: inner ++ ['\x7d']).map (·, false) ++ unescaped more := by
  have hopen : ∀ d ∈ (inner ++ '\x7d' :: more).head?,
      d = '\x7b' → PathPart.isBrace '\x7b' = false := by
    rintro d hd rfl
    cases inner with
    | nil => cases hd
    | cons c inner =>
        cases hd
        exact hinner _ List.mem_cons_self
  have hclose : ∀ d ∈ more.head?, d = '\x7d' → PathPart.isBrace '\x7d' = false := by
    rintro d hd rfl
    cases h _ hd
  rw [List.cons_append, PathPattern.unescaped_cons hopen, PathPattern.unescaped_append hinner,
    PathPattern.unescaped_cons hclose]
  simp

theorem unescaped_chars (part : ShapePart) (h : Follows more) :
    unescaped (part.chars ++ more) = part.chars.map (·, false) ++ unescaped more := by
  cases part with
  | literal segment => exact PathPattern.unescaped_append (isBrace_of_isPlain segment.plain) more
  | param n =>
      have hbraced := unescaped_braced n.isBrace_eq_false h
      simpa [chars] using hbraced

theorem reads_chars {us : List (Char × Bool)} {p : PathPattern}
    (h : Reads (part.chars.map (·, false) ++ us) p) :
    ∃ q, Reads us q ∧ p = part.pattern ++ q ∧ ∀ n ∈ part.param?, n.text ≠ "" := by
  cases part with
  | literal segment =>
      obtain ⟨q, hq, rfl⟩ := PathPattern.reads_append (isBrace_of_isPlain segment.plain) h
      exact ⟨q, hq, rfl, nofun⟩
  | param n =>
      obtain ⟨q, hq, rfl, hn⟩ := PathPattern.reads_param (by simpa [chars] using h)
      refine ⟨q, hq, rfl, fun m hm => ?_⟩
      cases hm
      exact hn

theorem fillsTo_chars {out : List Char} (hn : ∀ n ∈ part.param?, n.text ≠ "")
    (ha : part.IsAssignedBy params) (h : PathPart.FillsTo params more out) :
    PathPart.FillsTo params (part.chars ++ more) (part.value params ++ out) := by
  cases part with
  | literal segment => exact h.append (isBrace_of_isPlain segment.plain)
  | param n =>
      obtain ⟨value, hl, _⟩ := ha n rfl
      have hfilled := h.placeholder (n.toList_ne_nil (hn n rfl)) n.isBrace_eq_false
        ((n.key_toList).symm ▸ hl)
      simpa [chars, ShapePart.value, ParamName.value, hl] using hfilled

theorem match?_pattern {q : PathPattern} {values : List (String × List Char)}
    (ha : part.IsAssignedBy params) (hf : Follows more) (h : q.match? more = some values) :
    (part.pattern ++ q).match? (part.value params ++ more) =
      some ((part.param?.toList.map fun n => (n.text, n.value params)) ++ values) := by
  cases part with
  | literal segment =>
      exact (PathPattern.match?_literal_append segment.text.toList q more).trans h
  | param n =>
      obtain ⟨value, hl, hne, hplain⟩ := ha n rfl
      have hvalue : n.value params = value.toList := by rw [ParamName.value, hl, Option.getD_some]
      have htake : (value.toList ++ more).takeWhile (· != '/') = value.toList := by
        refine Cut.takeWhile_append_of_ends (fun c hc => ?_) fun c hc => ?_
        · exact bne_iff_ne.2 (Uri.ne_of_isUnreserved (hplain c hc) (by decide))
        · rw [hf c hc]
          rfl
      simp only [pattern, ShapePart.value, hvalue, List.singleton_append, PathPattern.match?, htake,
        List.isEmpty_iff, hne, if_false, List.drop_left, h, param?, Option.toList_some,
        List.map_singleton]
      rfl

theorem isRooted_value (ha : part.IsAssignedBy params) :
    Uri.IsRooted ('/' :: part.value params) := by
  cases part with
  | literal segment => exact segment.plain.isRooted
  | param n =>
      obtain ⟨value, hl, hplain⟩ := ha n rfl
      rw [ShapePart.value, ParamName.value, hl, Option.getD_some]
      exact hplain.isRooted

end ShapePart

/-! ## The whole path -/

namespace PathShape

variable {parts : List ShapePart} {rest : Option ParamName} {shape : PathShape}
  {params : List (String × String)}

theorem follows_layout (part : ShapePart → List Char) (last : ParamName → List Char)
    (rest : Option ParamName) (parts : List ShapePart) :
    ShapePart.Follows (layout '/' part last rest parts) := by
  cases parts with
  | nil =>
      cases rest with
      | none => exact ShapePart.follows_nil
      | some n => exact ShapePart.follows_cons _
  | cons p parts => exact ShapePart.follows_cons _

theorem paramsOf_cons (rest : Option ParamName) (part : ShapePart) (parts : List ShapePart) :
    paramsOf rest (part :: parts) = part.param?.toList ++ paramsOf rest parts := by
  cases part <;> rfl

theorem mem_paramsOf_cons {part : ShapePart} {n : ParamName} :
    n ∈ paramsOf rest (part :: parts) ↔ n ∈ part.param? ∨ n ∈ paramsOf rest parts := by
  rw [paramsOf_cons, List.mem_append, Option.mem_toList, Option.mem_def]

theorem IsAssignedBy.exists_value (h : shape.IsAssignedBy params) :
    ∀ n ∈ paramsOf shape.rest shape.parts,
      ∃ value, params.lookup n.text = some value ∧ Uri.IsRooted ('/' :: value.toList) := by
  intro n hn
  rcases List.mem_append.1 hn with hn | hn
  · obtain ⟨part, hpart, hparam⟩ := List.mem_filterMap.1 hn
    obtain ⟨value, hl, hplain⟩ := h.segments part hpart n hparam
    exact ⟨value, hl, hplain.isRooted⟩
  · obtain ⟨value, hl, hplain⟩ := h.rest n (Option.mem_toList.1 hn)
    exact ⟨value, hl, hplain.isRooted⟩

theorem IsAssignedBy.isRooted_rest (h : shape.IsAssignedBy params) :
    ∀ n ∈ shape.rest, Uri.IsRooted ('/' :: n.value params) := by
  intro n hn
  obtain ⟨value, hl, hrooted⟩ := h.exists_value n (List.mem_append_right _ (Option.mem_toList.2 hn))
  rw [ParamName.value, hl, Option.getD_some]
  exact hrooted

theorem unescaped_layout (rest : Option ParamName) (parts : List ShapePart) :
    unescaped (layout '/' ShapePart.chars ParamName.restChars rest parts) =
      (layout '/' ShapePart.chars ParamName.restChars rest parts).map (·, false) := by
  have hslash : ∀ cs : List Char, unescaped ('/' :: cs) = ('/', false) :: unescaped cs :=
    fun cs => PathPattern.unescaped_cons fun _ _ _ => rfl
  induction parts with
  | nil =>
      cases rest with
      | none => rw [layout, Option.elim_none, unescaped, List.map_nil]
      | some n =>
          have hread := ShapePart.unescaped_braced n.isBrace_star_eq_false ShapePart.follows_nil
          rw [unescaped, List.append_nil] at hread
          rw [layout, Option.elim_some, hslash, List.map_cons]
          exact congrArg _ hread
  | cons part parts ih =>
      rw [layout, hslash, part.unescaped_chars (follows_layout _ _ rest parts), ih, List.map_cons,
        List.map_append]

theorem reads_layout {p : PathPattern}
    (h : Reads ((layout '/' ShapePart.chars ParamName.restChars rest parts).map (·, false)) p) :
    p = layout (.char '/') ShapePart.pattern (fun n => [.rest n.text]) rest parts ∧
      ∀ n ∈ paramsOf rest parts, n.text ≠ "" := by
  have hslash : ∀ {us : List (Char × Bool)} {p : PathPattern}, Reads (('/', false) :: us) p →
      ∃ q, Reads us q ∧ p = .char '/' :: q := by
    intro us p h
    have hbrace : ∀ c ∈ ['/'], PathPart.isBrace c = false := by
      intro c hc
      cases List.mem_singleton.1 hc
      rfl
    exact PathPattern.reads_append hbrace h
  induction parts generalizing p with
  | nil =>
      cases rest with
      | none => exact ⟨PathPattern.reads_nil h, nofun⟩
      | some n =>
          obtain ⟨q, hq, rfl⟩ := hslash h
          obtain ⟨rfl, hn⟩ := PathPattern.reads_rest (by simpa [ParamName.restChars] using hq)
          refine ⟨rfl, fun m hm => ?_⟩
          cases List.mem_singleton.1 hm
          exact hn
  | cons part parts ih =>
      rw [layout, List.map_cons, List.map_append] at h
      obtain ⟨q, hfirst, rfl⟩ := hslash h
      obtain ⟨q, hbehind, rfl, hpart⟩ := ShapePart.reads_chars hfirst
      obtain ⟨rfl, hparts⟩ := ih hbehind
      refine ⟨rfl, fun n hn => ?_⟩
      rcases mem_paramsOf_cons.1 hn with hn | hn
      · exact hpart n hn
      · exact hparts n hn

/-- The path is read as the pattern of its shape, and its parameters have names. -/
theorem eq_pattern_of_parse? {p : PathPattern} (h : PathPattern.parse? shape.text = some p) :
    p = shape.pattern ∧ ∀ n ∈ paramsOf shape.rest shape.parts, n.text ≠ "" := by
  -- no two equal braces stand side by side, so none of them is escaped
  have hread := PathPattern.parts?_of_parse? h
  rw [text, String.toList_ofList, unescaped_layout] at hread
  exact reads_layout ⟨_, hread⟩

theorem fillsTo_layout (hn : ∀ n ∈ paramsOf rest parts, n.text ≠ "")
    (hparts : ∀ part ∈ parts, part.IsAssignedBy params)
    (hrest : ∀ n ∈ rest, ∃ value, params.lookup n.text = some value) :
    PathPart.FillsTo params (layout '/' ShapePart.chars ParamName.restChars rest parts)
      (layout '/' (ShapePart.value params) (ParamName.value params) rest parts) := by
  have hslash : '/' ≠ '\x7b' := by decide
  induction parts with
  | nil =>
      cases rest with
      | none => exact PathPart.fillsTo_nil params
      | some n =>
          obtain ⟨value, hl⟩ := hrest n rfl
          have hkey := n.key_star (hn n (List.mem_singleton_self n))
          have hfilled := (PathPart.fillsTo_nil params).placeholder (List.cons_ne_nil _ _)
            n.isBrace_star_eq_false (hkey.symm ▸ hl)
          rw [List.append_nil] at hfilled
          simpa [layout, ParamName.restChars, ParamName.value, hl] using hfilled.cons hslash
  | cons part parts ih =>
      rw [List.forall_mem_cons] at hparts
      have hbehind := ih (fun n hm => hn n (mem_paramsOf_cons.2 (Or.inr hm))) hparts.2
      have hpart : ∀ n ∈ part.param?, n.text ≠ "" :=
        fun n hm => hn n (mem_paramsOf_cons.2 (Or.inl hm))
      exact (ShapePart.fillsTo_chars hpart hparts.1 hbehind).cons hslash

theorem match?_layout (hparts : ∀ part ∈ parts, part.IsAssignedBy params)
    (hrest : ∀ n ∈ rest, n.value params ≠ []) :
    PathPattern.match? (layout (.char '/') ShapePart.pattern (fun n => [.rest n.text]) rest parts)
        (layout '/' (ShapePart.value params) (ParamName.value params) rest parts) =
      some ((paramsOf rest parts).map fun n => (n.text, n.value params)) := by
  induction parts with
  | nil =>
      cases rest with
      | none => rfl
      | some n => simp [layout, PathPattern.match?, paramsOf, hrest n rfl]
  | cons part parts ih =>
      rw [List.forall_mem_cons] at hparts
      rw [layout, layout, PathPattern.match?, if_pos rfl, paramsOf_cons, List.map_append]
      exact ShapePart.match?_pattern hparts.1 (follows_layout _ _ rest parts) (ih hparts.2)

theorem isRooted_layout (hparts : ∀ part ∈ parts, part.IsAssignedBy params)
    (hrest : ∀ n ∈ rest, Uri.IsRooted ('/' :: n.value params)) (hne : parts ≠ [] ∨ rest ≠ none) :
    Uri.IsRooted (layout '/' (ShapePart.value params) (ParamName.value params) rest parts) := by
  induction parts with
  | nil =>
      cases rest with
      | none => simp at hne
      | some n => exact hrest n rfl
  | cons part parts ih =>
      rw [List.forall_mem_cons] at hparts
      have hpart := ShapePart.isRooted_value hparts.1
      by_cases hlast : parts = [] ∧ rest = none
      · rw [hlast.1, hlast.2, layout, layout, Option.elim_none, List.append_nil]
        exact hpart
      · exact hpart.append (ih hparts.2 (not_and_or.1 hlast))

/-- The path is filled part by part. -/
theorem fillsTo_url (hn : ∀ n ∈ paramsOf shape.rest shape.parts, n.text ≠ "")
    (ha : shape.IsAssignedBy params) :
    PathPart.FillsTo params shape.text.toList (shape.url params).toList := by
  rw [text, url, String.toList_ofList, String.toList_ofList]
  refine fillsTo_layout hn ha.segments fun n hrest => ?_
  obtain ⟨value, hl, _⟩ := ha.rest n hrest
  exact ⟨value, hl⟩

/-- The filled path is a row of texts of unreserved characters. -/
theorem isRooted_url (ha : shape.IsAssignedBy params) : Uri.IsRooted (shape.url params).toList := by
  rw [url, String.toList_ofList]
  exact isRooted_layout ha.segments ha.isRooted_rest shape.nonempty

/-- The pattern matches the filled path, with the values that were put in. -/
theorem match?_url (ha : shape.IsAssignedBy params) :
    shape.pattern.match? (shape.url params).toList = some (shape.matched params) := by
  rw [url, String.toList_ofList]
  refine match?_layout ha.segments fun n hrest => ?_
  obtain ⟨c, cs, hc, _⟩ := (ha.isRooted_rest n hrest).exists_eq_cons
  rw [(List.cons_eq_cons.1 hc).2]
  exact List.cons_ne_nil _ _

end PathShape

end Formwork
