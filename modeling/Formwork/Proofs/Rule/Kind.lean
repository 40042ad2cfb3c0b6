import Formwork.Proofs.Rule.Outcome

/-! # The kinds of values that rules lead to

The kind of the working value behind each rule of a field can be read off the
rules alone. `Step.kindAfter` says how a step changes it, `WellKinded` that every
step of a field can handle the value it meets. The main statement is that forms
are always validated by well-kinded rules, and that a field of a valid form holds
a value of the kind that its rules lead to.
-/

namespace Formwork

/-! ## Kinds read off the rules -/

/-- The kind of the working value that a rule sets, if it sets one. -/
def Rule.gives? : Rule → Option Value.Kind
  | .required | .string | .optional => some .text
  | .int => some .int
  | .boolean => some .bool
  | .url => some .url
  | .requiredFile | .optionalFile => some .file
  | .date => some .date
  | .min | .max | .true | .contentType | .maxBytes => none
  | .email | .confirm | .alphaNum => none

namespace Step

/-- The kind of the working value behind a step, given the kind in front of it;
`none` stands for no working value. Rules that only look at a text make it the value
if they have no argument and there is none yet. -/
def kindAfter (step : Step) (kind : Option Value.Kind) : Option Value.Kind :=
  match step.rule with
  | .email | .confirm | .alphaNum =>
    if step.argument = none then kind.or (some .text) else kind
  | rule => rule.gives?.or kind

/-- The step can handle a working value of the kind. -/
def handles (step : Step) (kind : Option Value.Kind) : Bool :=
  match step.rule with
  | .date => kind == some .text
  | .min | .max => kind == some .text || kind == some .int
  | .true => kind == some .bool
  | .contentType | .maxBytes => kind == some .file
  | _ => true

/-- A step whose rule compares with a bound has a number as its argument. -/
def hasBound (step : Step) : Bool :=
  match step.rule with
  | .min | .max | .maxBytes => (step.argument.bind Decimal.int64?).isSome
  | _ => true

/-- The step's rule is one of those that raise the skip flag. -/
def maySkip (step : Step) : Bool := step.rule == .optional || step.rule == .optionalFile

/-- Every step handles what the steps in front of it lead to, starting from a kind. -/
def WellKindedFrom : Option Value.Kind → List Step → Prop
  | _, [] => True
  | kind, step :: steps =>
    step.handles kind = true ∧ step.hasBound = true ∧ WellKindedFrom (step.kindAfter kind) steps

/-- The steps of a field can handle what they meet, and only the first may raise
the skip flag. -/
structure WellKinded (steps : List Step) : Prop where
  handled : WellKindedFrom none steps
  skipsFirst : ∀ step ∈ steps.tail, step.maySkip = false

/-- The kind that the steps of a field lead to. -/
def staticKind (steps : List Step) : Option Value.Kind :=
  steps.foldl (fun kind step => step.kindAfter kind) none

/-- The first step of a field raises the skip flag. -/
def FirstSkips (source : Source) (field : String) (steps : List Step) : Prop :=
  ∃ step rest next, steps = step :: rest ∧ step.run source field {} = .ok next ∧ next.skips = true

end Step

/-! ## One step -/

/-- The skip flag is down and the working value is of the kind. -/
structure FieldState.HasKind (state : FieldState) (kind : Option Value.Kind) : Prop where
  down : state.skips = false
  kind_eq : state.working.map Value.kind = kind

/-- The result of a step that was not declared by mistake: a failure, or a state
whose working value is of the kind. -/
def Yields (kind : Option Value.Kind) : Except Refusal FieldState → Prop
  | .ok next => next.HasKind kind
  | .error refusal => ∃ reason, refusal = .failure reason

namespace Rule

variable {source : Source} {field text : String} {state : FieldState} {kind : Option Value.Kind}

theorem accept_yields (h : state.HasKind kind) (condition : Bool) (reason : Failure) :
    Yields kind (accept condition reason state) := by
  unfold accept
  split
  · exact h
  · exact ⟨reason, rfl⟩

theorem bound_eq_ok {n : Int} (rule : Rule) (field : String) (h : Decimal.int64? text = some n) :
    rule.bound field text = .ok n := by
  simp [bound, h]

/-- A working value is known by its kind. -/
theorem exists_of_kind {k : Value.Kind} (h : state.HasKind (some k)) :
    ∃ value, state.working = some value ∧ value.kind = k :=
  Option.map_eq_some_iff.1 h.kind_eq

end Rule

namespace Step

variable {source : Source} {field : String} {state : FieldState} {kind : Option Value.Kind}

/-- A rule that does not raise the skip flag, given a value that it can handle and
a bound where it needs one, sets a value of its own kind or leaves the one there is. -/
theorem check_yields {step : Step} (hh : step.handles kind = true) (hb : step.hasBound = true)
    (hs : step.maySkip = false) (h : state.HasKind kind) :
    Yields (step.rule.gives?.or kind)
      (step.rule.check source field (step.input source field) state) := by
  obtain ⟨rule, argument⟩ := step
  have hset : ∀ value : Value, FieldState.HasKind { state with working := some value }
      (some value.kind) := fun _ => ⟨h.down, rfl⟩
  cases rule with
  | required => exact Rule.accept_yields (hset (.text _)) _ _
  | string => exact hset (.text _)
  | int | boolean | url | requiredFile =>
      simp only [Rule.check]
      split
      · exact hset _
      · exact ⟨_, rfl⟩
  | optional => cases hs
  | optionalFile => cases hs
  | email | confirm | alphaNum => exact Rule.accept_yields h _ _
  | date =>
      obtain rfl : kind = some .text := eq_of_beq hh
      obtain ⟨value, hw, hv⟩ := Rule.exists_of_kind h
      cases value <;> simp [Value.kind] at hv
      simp only [Rule.check, hw]
      split
      · exact hset (.date _)
      · exact ⟨_, rfl⟩
  | true | contentType =>
      obtain rfl := eq_of_beq hh
      obtain ⟨value, hw, hv⟩ := Rule.exists_of_kind h
      cases value <;> simp [Value.kind] at hv
      simp only [Rule.check, hw]
      exact Rule.accept_yields h _ _
  | maxBytes =>
      obtain rfl : kind = some .file := eq_of_beq hh
      obtain ⟨value, hw, hv⟩ := Rule.exists_of_kind h
      obtain ⟨n, hn⟩ := Option.isSome_iff_exists.1 hb
      obtain ⟨text, rfl, ht⟩ := Option.bind_eq_some_iff.1 hn
      cases value <;> simp [Value.kind] at hv
      simp only [Rule.check, Step.input, Option.getD_some, Rule.bound_eq_ok _ field ht, hw]
      exact Rule.accept_yields h _ _
  | min | max =>
      obtain ⟨n, hn⟩ := Option.isSome_iff_exists.1 hb
      obtain ⟨text, rfl, ht⟩ := Option.bind_eq_some_iff.1 hn
      -- a text is measured, a number compared
      have hk : kind = some .text ∨ kind = some .int := by simpa [handles] using hh
      rcases hk with rfl | rfl
      all_goals
        obtain ⟨value, hw, hv⟩ := Rule.exists_of_kind h
        cases value <;> simp [Value.kind] at hv
        simp only [Rule.check, Step.input, Option.getD_some, Rule.bound_eq_ok _ field ht, hw]
        exact Rule.accept_yields h _ _

/-- Where the value can be handled, a step leads to the kind that its rule sets, to
the kind there was, or, without argument, to a text. -/
theorem kindAfter_eq {step : Step} (hh : step.handles kind = true) :
    step.kindAfter kind =
      (step.rule.gives?.or kind).or (if step.argument = none then some .text else none) := by
  obtain ⟨rule, argument⟩ := step
  cases rule with
  | min | max =>
      have hk : kind = some .text ∨ kind = some .int := by simpa [handles] using hh
      rcases hk with rfl | rfl <;> simp [kindAfter, Rule.gives?]
  | true | contentType | maxBytes =>
      obtain rfl := eq_of_beq hh
      simp [kindAfter, Rule.gives?]
  | email | confirm | alphaNum => cases argument <;> simp [kindAfter, Rule.gives?]
  | _ => simp [kindAfter, Rule.gives?]

/-- The state behind a well-kinded step has the kind that the step leads to. -/
theorem run_yields {step : Step} (hh : step.handles kind = true) (hb : step.hasBound = true)
    (hs : step.maySkip = false) (h : state.HasKind kind) :
    Yields (step.kindAfter kind) (step.run source field state) := by
  have hc : Yields (step.rule.gives?.or kind)
      (step.rule.check source field (step.input source field) state) := check_yields hh hb hs h
  rw [run_eq_map, kindAfter_eq hh]
  cases hr : step.rule.check source field (step.input source field) state with
  | error refusal =>
      rw [hr] at hc
      exact hc
  | ok next =>
      rw [hr] at hc
      refine ⟨hc.down, ?_⟩
      rw [← hc.kind_eq, settle]
      cases next.working <;> cases step.argument <;> rfl

/-- A step never takes a known value away. -/
theorem kindAfter_eq_none {step : Step} (h : step.kindAfter kind = none) : kind = none := by
  obtain ⟨rule, argument⟩ := step
  cases rule <;> simp only [kindAfter, Rule.gives?, Option.or, reduceCtorEq] at h
  case email | confirm | alphaNum =>
      split at h
      · exact (Option.or_eq_none_iff.1 h).1
      · exact h
  all_goals exact h

end Step

/-! ## All steps of a field -/

namespace FieldOutcome

variable {source : Source} {field : String}

/-- No broken rules, and a value of the kind if the field passes. -/
def Holds (kind : Option Value.Kind) : FieldOutcome → Prop
  | passed kept => kept.map Value.kind = kind
  | failed _ _ => True
  | broken _ => False

/-- From a state of a kind on, steps lead to the kind that is read off them. -/
theorem runFrom_holds {steps : List Step} {state : FieldState} {kept : Option Value}
    {kind : Option Value.Kind} (hw : Step.WellKindedFrom kind steps)
    (hs : ∀ step ∈ steps, step.maySkip = false) (h : state.HasKind kind)
    (hk : kept.map Value.kind = kind) :
    (runFrom source field state kept steps).Holds
      (steps.foldl (fun kind step => step.kindAfter kind) kind) := by
  induction steps generalizing state kept kind with
  | nil => exact hk
  | cons step steps ih =>
      obtain ⟨hh, hb, hw⟩ := hw
      have hy : Yields (step.kindAfter kind) (step.run source field state) :=
        Step.run_yields hh hb (hs step List.mem_cons_self) h
      simp only [runFrom, h.down, Bool.false_eq_true, if_false, List.foldl_cons]
      cases hr : step.run source field state with
      | error refusal =>
          rw [hr] at hy
          obtain ⟨reason, rfl⟩ := hy
          trivial
      | ok next =>
          rw [hr] at hy
          refine ih hw (fun s hm => hs s (List.mem_cons_of_mem _ hm)) hy ?_
          rw [hy.down]
          cases hn : next.working with
          | some value => rw [← hy.kind_eq, hn]; rfl
          | none =>
              -- without a value behind the step there was none in front of it
              have hnone : step.kindAfter kind = none := by rw [← hy.kind_eq, hn]; rfl
              have hkind := Step.kindAfter_eq_none hnone
              rw [hnone]
              simpa [hkind] using hk

/-- A field whose first step raises the skip flag is left out. -/
theorem run_of_firstSkips {steps : List Step} (h : Step.FirstSkips source field steps) :
    run source field steps = passed none := by
  obtain ⟨step, rest, next, rfl, hr, hs⟩ := h
  simp [run, runFrom, hr, hs, runFrom_of_skips hs]

/-- A step that may raise the skip flag accepts every form. -/
theorem run_of_maySkip {step : Step} (h : step.maySkip = true) :
    ∃ next, step.run source field {} = .ok next ∧
      (next.skips = true ∨ next.HasKind (step.kindAfter none)) := by
  obtain ⟨rule, argument⟩ := step
  rw [Step.run_eq_map]
  have hr : rule = .optional ∨ rule = .optionalFile := by simpa [Step.maySkip] using h
  rcases hr with rfl | rfl
  · refine ⟨_, rfl, ?_⟩
    by_cases he : Step.input ⟨.optional, argument⟩ source field = ""
    · exact .inl (by simp [Step.settle, he])
    · exact .inr ⟨by simp [Step.settle, he], rfl⟩
  · dsimp only [Rule.check]
    cases source.file? field with
    | none => exact ⟨_, rfl, .inl rfl⟩
    | some file => exact ⟨_, rfl, .inr ⟨rfl, rfl⟩⟩

/-- Unless the first step raises the skip flag, the steps of a well-kinded field lead
to its kind. -/
theorem run_holds {steps : List Step} (hw : Step.WellKinded steps)
    (hf : ¬ Step.FirstSkips source field steps) :
    (run source field steps).Holds (Step.staticKind steps) := by
  have hstart : FieldState.HasKind {} none := ⟨rfl, rfl⟩
  cases steps with
  | nil => exact runFrom_holds hw.handled (by simp) hstart rfl
  | cons step rest =>
      cases hs : step.maySkip with
      | true =>
          obtain ⟨next, hr, hn⟩ : ∃ next, step.run source field {} = .ok next ∧ _ :=
            run_of_maySkip hs
          have hd : next.HasKind (step.kindAfter none) := by
            rcases hn with hn | hn
            · exact absurd ⟨step, rest, next, rfl, hr, hn⟩ hf
            · exact hn
          have hrest : (runFrom source field next next.working rest).Holds _ :=
            runFrom_holds hw.handled.2.2 hw.skipsFirst hd hd.kind_eq
          simpa [run, runFrom, hr, hd.down, Step.staticKind] using hrest
      | false =>
          refine runFrom_holds hw.handled ?_ hstart rfl
          intro s hm
          rcases List.mem_cons.1 hm with rfl | hm
          · exact hs
          · exact hw.skipsFirst s hm

end FieldOutcome

/-! ## Forms -/

/-- The rules of every field, resolved in a vocabulary, are well-kinded. -/
def Rules.WellKinded (rules : Rules) (vocabulary : Vocabulary) : Prop :=
  ∀ field spec steps, rules.get? field = some spec →
    Step.ofSpec vocabulary spec = .ok steps → Step.WellKinded steps

namespace Schema

/-- The kind that the rules of a field lead to; `none` also for fields without rules. -/
def staticKind (schema : Schema) (field : String) : Option Value.Kind :=
  (schema.steps? field).bind Step.staticKind

/-- The first rule of a field raises the skip flag. -/
def FirstSkips (schema : Schema) (source : Source) (field : String) : Prop :=
  ∃ steps, schema.steps? field = some steps ∧ Step.FirstSkips source field steps

/-- A compiled schema of well-kinded rules has well-kinded steps. -/
theorem wellKinded_of_compile {rules : Rules} {vocabulary : Vocabulary} {schema : Schema}
    (hw : rules.WellKinded vocabulary) (hc : compile rules vocabulary = .ok schema)
    {field : String} {steps : List Step} (h : schema.steps? field = some steps) :
    Step.WellKinded steps := by
  rw [steps?_compile hc] at h
  obtain ⟨spec, hspec, h⟩ := Option.bind_eq_some_iff.1 h
  cases hr : Step.ofSpec vocabulary spec with
  | error e => simp [hr, Except.toOption] at h
  | ok resolved =>
      rw [hr] at h
      cases h
      exact hw field spec steps hspec hr

/-- Well-kinded rules are never found broken by a form; and in the data of a valid form
a field has a value exactly if its rules lead to one and the first of them did not
raise the skip flag, and the value is of the kind that the rules lead to. -/
theorem validate_of_wellKinded {rules : Rules} {vocabulary : Vocabulary} {schema : Schema}
    (hw : rules.WellKinded vocabulary) (hc : compile rules vocabulary = .ok schema)
    (overrides : Overrides) (source : Source) :
    ∃ outcome, (schema.withOverrides overrides).validate source = .ok outcome ∧
      ∀ data, outcome = .valid data → ∀ field,
        (data.contains field = true ↔
          schema.staticKind field ≠ none ∧ ¬ schema.FirstSkips source field) ∧
        ∀ value, data.get? field = some value → schema.staticKind field = some value.kind := by
  have hrun : ∀ {field steps}, schema.steps? field = some steps →
      ¬ Step.FirstSkips source field steps →
        (FieldOutcome.run source field steps).Holds (Step.staticKind steps) := fun hs hf =>
    FieldOutcome.run_holds (wellKinded_of_compile hw hc hs) hf
  have hb : ∀ field steps, (schema.withOverrides overrides).steps? field = some steps →
      ¬ (FieldOutcome.run source field steps).IsBroken := by
    rintro field steps hs ⟨error, he⟩
    by_cases hf : Step.FirstSkips source field steps
    · rw [FieldOutcome.run_of_firstSkips hf] at he
      cases he
    · have hr := hrun hs hf
      rw [he] at hr
      exact hr
  obtain ⟨outcome, ho⟩ := validate_isOk_iff.2 hb
  refine ⟨outcome, ho, ?_⟩
  rintro data rfl field
  unfold Dict.contains staticKind FirstSkips
  cases hs : schema.steps? field with
  | none => simp [get?_of_steps?_eq_none ho hs]
  | some steps =>
      have hp : FieldOutcome.run source field steps = .passed (data.get? field) :=
        run_of_validate ho hs
      by_cases hf : Step.FirstSkips source field steps
      · rw [FieldOutcome.run_of_firstSkips hf] at hp
        have hd : data.get? field = none := (FieldOutcome.passed.inj hp).symm
        simp [hf, hd]
      · have hr := hrun hs hf
        rw [hp] at hr
        have hk : (data.get? field).map Value.kind = Step.staticKind steps := hr
        simp only [Option.bind_some, ← hk]
        cases hd : data.get? field <;> simp [hf]

/-- A form without a file, by rules that ask for none. -/
theorem validate_of_missing_file :
    let rules : Rules :=
      ⟨[("name", .piped "required|string|min:2"),
        ("photo", .list ["optionalFile", "contentType:image/png", "maxBytes:1024"])], by simp⟩
    let source := (MultipartForm.mk [("name", " Ana ")] []).source
    ∃ schema, rules.WellKinded .multipart ∧ compile rules .multipart = .ok schema ∧
      ∃ outcome, (schema.withOverrides ∅).validate source = .ok outcome ∧
        ∀ data, outcome = .valid data → ∀ field,
          (data.contains field = true ↔
            schema.staticKind field ≠ none ∧ ¬ schema.FirstSkips source field) ∧
          ∀ value, data.get? field = some value → schema.staticKind field = some value.kind := by
  intro rules source
  have hname : Step.ofSpec .multipart (.piped "required|string|min:2") =
      .ok [⟨.required, none⟩, ⟨.string, none⟩, ⟨.min, some "2"⟩] := by decide
  have hphoto : Step.ofSpec .multipart
      (.list ["optionalFile", "contentType:image/png", "maxBytes:1024"]) =
      .ok [⟨.optionalFile, none⟩, ⟨.contentType, some "image/png"⟩, ⟨.maxBytes, some "1024"⟩] := by
    decide
  have hw : rules.WellKinded .multipart := by
    intro field spec steps hspec hsteps
    have hm := Pairs.mem_of_lookup hspec
    simp only [rules, List.mem_cons, Prod.mk.injEq, List.not_mem_nil, or_false] at hm
    rcases hm with ⟨rfl, rfl⟩ | ⟨rfl, rfl⟩
    · rw [hname] at hsteps
      cases hsteps
      exact ⟨⟨rfl, rfl, rfl, rfl, rfl, by decide, trivial⟩, by decide⟩
    · rw [hphoto] at hsteps
      cases hsteps
      exact ⟨⟨rfl, rfl, rfl, rfl, rfl, by decide, trivial⟩, by decide⟩
  have hc : ∃ schema, compile rules .multipart = .ok schema :=
    ⟨_, by simp [compile, rules, hname, hphoto]; rfl⟩
  obtain ⟨schema, hc⟩ := hc
  exact ⟨schema, hw, hc, validate_of_wellKinded hw hc ∅ source⟩

end Schema

end Formwork
