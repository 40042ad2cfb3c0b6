import Formwork.Proofs.Rule.Outcome
import Formwork.Proofs.Text.Cut

/-! # How rules are written

Every text is a rule text: a name of letters with an argument behind a colon, or else a name as
a whole, and nothing of it is lost (`Token.exists_parse`). So rules are only ever refused for a
name that the vocabulary does not have (`Schema.exists_compile_error_iff`), and it makes no
difference whether they are listed or written in one text with bars between them
(`RuleSpec.reads_as_written`).
-/

namespace Formwork

namespace Token

/-- A name that may have an argument: one or more ASCII letters. -/
def IsName (s : String) : Prop := s ≠ "" ∧ ∀ c ∈ s.toList, CharClass.isAsciiLetter c = true

/-- An argument holds neither colons nor line ends. -/
def IsArgument (s : String) : Prop := ∀ c ∈ s.toList, c ≠ ':' ∧ c ≠ '\n'

/-- The text is a name, a colon and an argument. -/
structure IsPair (raw name argument : String) : Prop where
  eq : raw = name ++ ":" ++ argument
  name : IsName name
  argument : IsArgument argument

instance (s : String) : Decidable (IsName s) :=
  @instDecidableAnd _ _ inferInstance
    (List.decidableBAll (fun c => CharClass.isAsciiLetter c = true) s.toList)

instance (s : String) : Decidable (IsArgument s) :=
  List.decidableBAll (fun c => c ≠ ':' ∧ c ≠ '\n') s.toList

variable {raw name argument : String}

theorem IsName.ne_colon (h : IsName name) : ∀ c ∈ name.toList, (c == ':') = false := by
  intro c hc
  rw [beq_eq_false_iff_ne]
  rintro rfl
  exact absurd (h.2 ':' hc) (by decide)

theorem IsPair.toList (h : IsPair raw name argument) :
    raw.toList = name.toList ++ ':' :: argument.toList := by
  rw [h.eq, String.toList_append, String.toList_append, List.append_assoc]
  rfl

theorem IsPair.isParameterized (h : IsPair raw name argument) :
    isParameterized raw.toList = true := by
  have hne : name.toList ≠ [] := fun he => h.name.1 (String.toList_eq_nil_iff.1 he)
  have hname : name.toList.all CharClass.isAsciiLetter = true := List.all_eq_true.2 h.name.2
  have hargument : (argument.toList.all fun c => c != ':' && c != '\n') = true := by
    rw [List.all_eq_true]
    intro c hc
    obtain ⟨hcolon, hline⟩ := h.argument c hc
    simp [hcolon, hline]
  rw [Token.isParameterized, h.toList, Cut.atFirst?_append (by rfl) h.name.ne_colon]
  simp [hne, hname, hargument]

theorem exists_isPair (h : isParameterized raw.toList = true) :
    ∃ name argument, IsPair raw name argument := by
  unfold isParameterized at h
  split at h
  · rename_i name argument hcut
    obtain ⟨colon, hcolon, hraw, _⟩ := Cut.atFirst?_eq_some hcut
    cases eq_of_beq hcolon
    simp only [Bool.and_eq_true, Bool.not_eq_true', List.isEmpty_eq_false_iff,
      List.all_eq_true, bne_iff_ne] at h
    obtain ⟨⟨hne, hletters⟩, hargument⟩ := h
    refine ⟨String.ofList name, String.ofList argument, ?_, ⟨?_, ?_⟩, ?_⟩
    · rw [← String.toList_inj, hraw]
      simp
    · rwa [ne_eq, ← String.toList_eq_nil_iff, String.toList_ofList]
    · rwa [String.toList_ofList]
    · rwa [IsArgument, String.toList_ofList]
  · cases h

/-- The cut at colons gives back the two parts of a pair. -/
theorem IsPair.parse (h : IsPair raw name argument) : parse raw = .ok ⟨name, some argument⟩ := by
  have hargument : ∀ c ∈ argument.toList, (c == ':') = false := by
    intro c hc
    rw [beq_eq_false_iff_ne]
    exact (h.argument c hc).1
  have hsplit : Text.split ':' raw = [name, argument] := by
    rw [Text.split, h.toList, Cut.cutAt_append (by rfl) h.name.ne_colon,
      Cut.cutAt_of_forall hargument]
    simp
  rw [Token.parse, if_pos h.isParameterized, hsplit]

theorem parse_of_not_isPair (h : ∀ name argument, ¬ IsPair raw name argument) :
    parse raw = .ok ⟨raw, none⟩ := by
  rw [parse, if_neg]
  intro hp
  obtain ⟨name, argument, hpair⟩ := exists_isPair hp
  exact h name argument hpair

/-- Every text is read, as a pair if it is one and as a name otherwise, and what is read can be
written again. -/
theorem exists_parse (raw : String) :
    ∃ token, parse raw = .ok token ∧ token.text = raw ∧
      (∀ name argument, token = ⟨name, some argument⟩ ↔ IsPair raw name argument) ∧
      (token = ⟨raw, none⟩ ↔ ∀ name argument, ¬ IsPair raw name argument) := by
  by_cases h : ∃ name argument, IsPair raw name argument
  · obtain ⟨name, argument, hpair⟩ := h
    refine ⟨⟨name, some argument⟩, hpair.parse, hpair.eq.symm, fun other value => ?_, ?_⟩
    · constructor
      · intro he
        cases he
        exact hpair
      · intro hother
        have hsame := hother.parse
        rw [hpair.parse] at hsame
        exact Except.ok.inj hsame
    · exact iff_of_false nofun fun hnone => hnone name argument hpair
  · simp only [not_exists] at h
    refine ⟨⟨raw, none⟩, parse_of_not_isPair h, rfl, fun name argument => ?_, ?_⟩
    · exact iff_of_false nofun (h name argument)
    · exact iff_of_true rfl h

end Token

/-! ## Declarations -/

theorem RuleSpec.exists_tokens (spec : RuleSpec) : ∃ tokens, spec.tokens = .ok tokens := by
  rw [RuleSpec.tokens, exists_mapM_eq_ok_iff]
  intro raw _
  obtain ⟨token, hparse, _⟩ := Token.exists_parse raw
  exact ⟨token, hparse⟩

/-- Some field has a rule of this name, and the vocabulary has none. -/
def Rules.Strays (rules : Rules) (vocabulary : Vocabulary) (name : String) : Prop :=
  ∃ field spec tokens, rules.get? field = some spec ∧ spec.tokens = .ok tokens ∧
    name ∈ tokens.map Token.name ∧ name ∉ vocabulary.rules.map Rule.name

theorem Vocabulary.resolve_eq_error_iff {vocabulary : Vocabulary} {name : String}
    {error : RuleError} :
    vocabulary.resolve name = .error error ↔
      name ∉ vocabulary.rules.map Rule.name ∧ error = .unknown name := by
  have hnone : vocabulary.resolve? name = none ↔ name ∉ vocabulary.rules.map Rule.name := by
    rw [resolve?, List.find?_eq_none, List.mem_map, not_exists]
    simp only [beq_iff_eq, not_and]
  rw [← hnone, resolve]
  cases vocabulary.resolve? name <;> simp [eq_comm]

theorem Step.ofSpec_eq_error {vocabulary : Vocabulary} {spec : RuleSpec} {error : RuleError}
    (h : ofSpec vocabulary spec = .error error) :
    ∃ tokens name, spec.tokens = .ok tokens ∧ name ∈ tokens.map Token.name ∧
      name ∉ vocabulary.rules.map Rule.name ∧ error = .unknown name := by
  obtain ⟨tokens, ht⟩ := spec.exists_tokens
  have hm : tokens.mapM (ofToken vocabulary) = .error error := by
    rw [ofSpec, ht] at h
    exact h
  obtain ⟨front, token, back, rfl, _, ho⟩ := mapM_eq_error_iff.1 hm
  obtain ⟨hname, rfl⟩ := Vocabulary.resolve_eq_error_iff.1 (map_eq_error.1 ho)
  exact ⟨_, token.name, ht, by simp, hname, rfl⟩

namespace Schema

variable {rules : Rules} {vocabulary : Vocabulary} {error : RuleError}

/-- Rules are refused for the name of a rule that there is not. -/
theorem compile_eq_error (h : compile rules vocabulary = .error error) :
    ∃ name, error = .unknown name ∧ rules.Strays vocabulary name := by
  have hm : (rules.entries.mapM fun entry =>
      (Step.ofSpec vocabulary entry.2).map fun steps => (entry.1, steps)) = .error error := by
    unfold compile at h
    cases hf : rules.entries.mapM fun entry =>
        (Step.ofSpec vocabulary entry.2).map fun steps => (entry.1, steps) with
    | error found =>
        rw [hf] at h
        cases h
        rfl
    | ok fields =>
        rw [hf] at h
        cases h
  obtain ⟨front, entry, back, he, _, ho⟩ := mapM_eq_error_iff.1 hm
  obtain ⟨tokens, name, ht, hname, hstray, rfl⟩ := Step.ofSpec_eq_error (map_eq_error.1 ho)
  have hget : rules.get? entry.1 = some entry.2 := Dict.get?_eq_some_iff.2 (by simp [he])
  exact ⟨name, rfl, entry.1, entry.2, tokens, hget, ht, hname, hstray⟩

theorem exists_compile_error_iff :
    (∃ error, compile rules vocabulary = .error error) ↔
      ∃ name, rules.Strays vocabulary name := by
  constructor
  · rintro ⟨error, h⟩
    obtain ⟨name, _, hstrays⟩ := compile_eq_error h
    exact ⟨name, hstrays⟩
  · rintro ⟨name, field, spec, tokens, hget, ht, hname, hstray⟩
    cases hc : compile rules vocabulary with
    | error error => exact ⟨error, rfl⟩
    | ok schema =>
        -- then all tokens of the field would be steps
        obtain ⟨fields, hf, _⟩ := bind_eq_ok.1 hc
        obtain ⟨entry, he⟩ := exists_mapM_eq_ok_iff.1 ⟨fields, hf⟩ (field, spec)
          (Dict.get?_eq_some_iff.1 hget)
        obtain ⟨steps, hs, _⟩ := map_eq_ok.1 he
        obtain ⟨read, hread, hs⟩ := bind_eq_ok.1 hs
        cases Except.ok.inj (hread.symm.trans ht)
        obtain ⟨token, hm, rfl⟩ := List.mem_map.1 hname
        obtain ⟨step, ho⟩ := exists_mapM_eq_ok_iff.1 ⟨steps, hs⟩ token hm
        obtain ⟨rule, hr, _⟩ := map_eq_ok.1 ho
        rw [Vocabulary.resolve_eq_error_iff.2 ⟨hstray, rfl⟩] at hr
        cases hr

end Schema

/-! ## Validations -/

namespace Rule

variable {rule : Rule} {source : Source} {field text : String} {state : FieldState}

/-- If the rule was misdeclared, its argument or the value that it found is to blame. -/
def BlamesItself (rule : Rule) (field text : String) (outcome : Except Refusal FieldState) : Prop :=
  ∀ error, outcome = .error (.misdeclared error) →
    error = .invalidArgument rule field text ∨ ∃ found, error = .unsupported rule field found

theorem ok_blames (state : FieldState) : BlamesItself rule field text (.ok state) := by
  intro error h
  cases h

theorem failure_blames (reason : Failure) :
    BlamesItself rule field text (.error (.failure reason)) := by
  intro error h
  cases h

theorem accept_blames (condition : Bool) (reason : Failure) (state : FieldState) :
    BlamesItself rule field text (accept condition reason state) := by
  unfold accept
  split
  · exact ok_blames _
  · exact failure_blames _

theorem cannotHandle_blames (found : Option Value) :
    BlamesItself rule field text (cannotHandle rule field found) := by
  intro error h
  cases h
  exact Or.inr ⟨_, rfl⟩

theorem bound_blames {f : Int → Except Refusal FieldState}
    (h : ∀ n, BlamesItself rule field text (f n)) :
    BlamesItself rule field text (rule.bound field text >>= f) := by
  unfold bound
  split
  · exact h _
  · intro error he
    cases he
    exact Or.inl rfl

/-- Whatever rule was misdeclared names itself. -/
theorem check_blames : BlamesItself rule field text (rule.check source field text state) := by
  cases rule with
  | required | email | confirm | alphaNum => exact accept_blames _ _ _
  | string | optional => exact ok_blames _
  | optionalFile =>
      simp only [check]
      split
      · exact ok_blames _
      · exact ok_blames _
  | int | url | boolean | requiredFile =>
      simp only [check]
      split
      · exact ok_blames _
      · exact failure_blames _
  | date =>
      simp only [check]
      split
      · split
        · exact ok_blames _
        · exact failure_blames _
      · exact cannotHandle_blames _
  | true | contentType =>
      simp only [check]
      split
      · exact accept_blames _ _ _
      · exact cannotHandle_blames _
  | min | max =>
      refine bound_blames fun n => ?_
      split
      · exact accept_blames _ _ _
      · exact accept_blames _ _ _
      · exact cannotHandle_blames _
  | maxBytes =>
      refine bound_blames fun n => ?_
      split
      · exact accept_blames _ _ _
      · exact cannotHandle_blames _

end Rule

/-- A field is broken by one of its rules. -/
theorem FieldOutcome.runFrom_ne_malformed {source : Source} {field raw : String}
    (steps : List Step) (state : FieldState) (kept : Option Value) :
    runFrom source field state kept steps ≠ broken (.malformed raw) := by
  induction steps generalizing state kept with
  | nil => simp [runFrom]
  | cons step steps ih =>
      unfold runFrom
      split
      · simp
      · split
        · rename_i error hr
          rw [Step.run_eq_map, map_eq_error] at hr
          rcases Rule.check_blames error hr with rfl | ⟨found, rfl⟩ <;> simp
        · simp
        · exact ih _ _

theorem Schema.validate_ne_malformed (schema : Schema) (source : Source) (raw : String) :
    schema.validate source ≠ .error (.malformed raw) := by
  intro h
  have hyields := schema.yields_validate source
  rw [h] at hyields
  cases hyields with
  | refused broken =>
      obtain ⟨steps, _, hbroken⟩ := Option.map_eq_some_iff.1 broken
      exact FieldOutcome.runFrom_ne_malformed steps {} none hbroken

/-- Every text is read, as a name with an argument exactly if it has that form, and can be
written again. So no text is ever found malformed, and rules are refused exactly if one of them
has a name outside of the vocabulary, for such a name. Rules in one text with bars between them
are the rules of the list of its parts. -/
theorem RuleSpec.reads_as_written :
    (∀ raw, ∃ token, Token.parse raw = .ok token ∧ token.text = raw ∧
      (∀ name argument, token = ⟨name, some argument⟩ ↔ Token.IsPair raw name argument) ∧
      (token = ⟨raw, none⟩ ↔ ∀ name argument, ¬ Token.IsPair raw name argument)) ∧
    (∀ spec : RuleSpec, ∃ tokens, spec.tokens = .ok tokens) ∧
    (∀ rules vocabulary, ((∃ error, Schema.compile rules vocabulary = .error error) ↔
        ∃ name, Rules.Strays rules vocabulary name) ∧
      (∀ error, Schema.compile rules vocabulary = .error error →
        ∃ name, error = .unknown name ∧ Rules.Strays rules vocabulary name) ∧
      ∀ schema, Schema.compile rules vocabulary = .ok schema →
        ∀ overrides source raw,
          (schema.withOverrides overrides).validate source ≠ .error (.malformed raw)) ∧
    (∀ texts : List String, texts ≠ [] → (∀ text ∈ texts, '|' ∉ text.toList) →
      (piped (Text.join "|" texts)).tokens = (list texts).tokens) ∧
    ∀ text, ∃ texts : List String, texts ≠ [] ∧ (∀ part ∈ texts, '|' ∉ part.toList) ∧
      Text.join "|" texts = text ∧ (piped text).tokens = (list texts).tokens := by
  refine ⟨Token.exists_parse, exists_tokens, fun rules vocabulary => ?_, fun texts hne h => ?_,
    fun text => ?_⟩
  · exact ⟨Schema.exists_compile_error_iff, fun error => Schema.compile_eq_error,
      fun schema _ overrides source raw => Schema.validate_ne_malformed _ source raw⟩
  · have hparts : Text.split '|' (Text.join "|" texts) = texts := Text.split_join hne h
    rw [tokens, tokens, RuleSpec.texts, hparts, RuleSpec.texts]
  · obtain ⟨hne, hfree, hjoin⟩ := Text.split_spec '|' text
    exact ⟨Text.split '|' text, hne, hfree, hjoin, rfl⟩

/-- The rules of an age in both forms, a rule that is unknown, and a form that breaks no rule
text. -/
theorem RuleSpec.age_reads_as_written :
    (piped "required|int|min:18").tokens = (list ["required", "int", "min:18"]).tokens ∧
      Token.parse "min:18" = .ok ⟨"min", some "18"⟩ ∧
      (∃ name, RuleError.unknown "sparkly" = .unknown name ∧
        Rules.Strays ⟨[("age", .piped "int|sparkly")], by simp⟩ .form name) ∧
      ∃ schema, Schema.compile ⟨[("age", .piped "required|int|min:18")], by simp⟩ .form =
          .ok schema ∧
        (schema.withOverrides ∅).validate (Form.mk [("age", "x")]).source ≠
          .error (.malformed "int") := by
  obtain ⟨hread, _, hcompile, hlisted, _⟩ := reads_as_written
  refine ⟨?_, ?_, ?_, ?_⟩
  · exact hlisted ["required", "int", "min:18"] (by simp) (by decide)
  · obtain ⟨token, hparse, _, hpair, _⟩ := hread "min:18"
    rw [hparse, (hpair "min" "18").2 ⟨by decide, by decide, by decide⟩]
  · exact (hcompile _ .form).2.1 (.unknown "sparkly") (by decide)
  · obtain ⟨schema, hc⟩ : ∃ schema,
        Schema.compile ⟨[("age", .piped "required|int|min:18")], by simp⟩ .form = .ok schema :=
      ⟨_, rfl⟩
    exact ⟨schema, hc, (hcompile _ .form).2.2 schema hc ∅ _ "int"⟩

end Formwork
