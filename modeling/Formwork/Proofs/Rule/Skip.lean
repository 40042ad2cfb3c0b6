import Formwork.Proofs.Rule.Outcome

/-! # Fields that are skipped

A raised skip flag ends a field. What the field then holds was settled by the steps
in front of the one that raised it: the field is left out of the data exactly if
none of them had made a working value, that is, if each was a rule that only looks
at its own argument. A field is therefore left out whenever its first rule raises
the flag, and kept when, say, `string` stands before `optional`.
-/

namespace Formwork

namespace Rule

variable {source : Source} {field text : String} {state next : FieldState}

/-- The rule looks at the text that it is given and at nothing else of its field. -/
def OnlyLooks (rule : Rule) : Prop := rule = .email ∨ rule = .confirm ∨ rule = .alphaNum

instance (rule : Rule) : Decidable rule.OnlyLooks := inferInstanceAs (Decidable (_ ∨ _))

theorem accept_eq_ok {condition : Bool} {reason : Failure}
    (h : accept condition reason state = .ok next) : next = state := by
  unfold accept at h
  split at h <;> cases h
  rfl

/-- A rule that accepts with the skip flag down leaves no working value only where
there was none and it does no more than look. -/
theorem working_eq_none_iff {rule : Rule} (h : rule.check source field text state = .ok next)
    (hs : next.skips = false) :
    next.working = none ↔ state.working = none ∧ rule.OnlyLooks := by
  cases rule with
  | required =>
      cases accept_eq_ok h
      simp [OnlyLooks]
  | email | confirm | alphaNum =>
      cases accept_eq_ok h
      simp [OnlyLooks]
  | string | optional =>
      cases h
      simp [OnlyLooks]
  | int | boolean | url | requiredFile =>
      simp only [check] at h
      split at h <;> cases h
      simp [OnlyLooks]
  | optionalFile =>
      simp only [check] at h
      split at h <;> cases h
      · simp [OnlyLooks]
      · cases hs
  | date =>
      simp only [check] at h
      split at h
      · split at h <;> cases h
        simp [OnlyLooks]
      · cases h
  | true | contentType =>
      simp only [check] at h
      split at h
      · rename_i hw
        rw [accept_eq_ok h, hw]
        simp [OnlyLooks]
      · cases h
  | min | max | maxBytes =>
      obtain ⟨n, _, h⟩ := bind_eq_ok.1 h
      split at h <;> rename_i hw
      all_goals first | cases h | rw [accept_eq_ok h, hw]
      all_goals simp [OnlyLooks]

end Rule

namespace Step

variable {source : Source} {field : String} {state next : FieldState}

/-- The step looks at its own argument and at nothing else of its field. -/
def OnlyLooks (step : Step) : Prop := step.rule.OnlyLooks ∧ step.argument ≠ none

instance (step : Step) : Decidable step.OnlyLooks := inferInstanceAs (Decidable (_ ∧ _))

/-- The step finds nothing in the form that the rest of its field could be about. -/
def RaisesSkip (step : Step) (source : Source) (field : String) : Prop :=
  (step.rule = .optional ∧ step.input source field = "") ∨
    (step.rule = .optionalFile ∧ source.file? field = none)

theorem working_eq_none_iff {step : Step} (h : step.run source field state = .ok next)
    (hs : next.skips = false) :
    next.working = none ↔ state.working = none ∧ step.OnlyLooks := by
  rw [run_eq_map] at h
  obtain ⟨checked, hc, rfl⟩ := map_eq_ok.1 h
  have hw := Rule.working_eq_none_iff hc hs
  rw [OnlyLooks, ← and_assoc, ← hw, settle]
  cases checked.working <;> cases step.argument <;> simp

/-- A step that raises the skip flag is taken in every state. -/
theorem run_of_raisesSkip {step : Step} (h : step.RaisesSkip source field) (state : FieldState) :
    ∃ next, step.run source field state = .ok next ∧ next.skips = true := by
  obtain ⟨rule, argument⟩ := step
  rw [run_eq_map]
  rcases h with ⟨hr, hi⟩ | ⟨hr, hf⟩
  · dsimp only at hr
    subst hr
    exact ⟨_, rfl, by simp [settle, hi]⟩
  · dsimp only at hr
    subst hr
    exact ⟨_, by simp only [Rule.check, hf]; rfl, rfl⟩

end Step

/-! ## Runs up to a skip -/

namespace Passes

variable {source : Source} {field : String} {first last : FieldState} {steps : List Step}

theorem first_down (h : Passes source field first steps last) (hs : last.skips = false) :
    first.skips = false := by
  cases h with
  | nil => exact hs
  | cons down _ _ => exact down

/-- Steps leave no working value exactly if each of them only looks. -/
theorem working_eq_none_iff (h : Passes source field first steps last)
    (hs : last.skips = false) :
    last.working = none ↔ first.working = none ∧ ∀ step ∈ steps, step.OnlyLooks := by
  induction h with
  | nil state => simp
  | @cons state next last step steps down run rest ih =>
      have hn : next.skips = false := rest.first_down hs
      rw [ih hs, Step.working_eq_none_iff run hn, List.forall_mem_cons, and_assoc]

/-- What a field holds behind the steps that were taken is their working value. -/
theorem runFrom_append (h : Passes source field first steps last) (hs : last.skips = false)
    (later : List Step) :
    FieldOutcome.runFrom source field first first.working (steps ++ later) =
      FieldOutcome.runFrom source field last last.working later := by
  induction h with
  | nil state => rfl
  | @cons state next last step steps down run rest ih =>
      have hn : next.skips = false := rest.first_down hs
      rw [List.cons_append, ← ih hs]
      simp only [FieldOutcome.runFrom, down, run, hn, Bool.false_eq_true, if_false]
      cases hw : next.working with
      | some value => rfl
      | none => rw [((Step.working_eq_none_iff run hn).1 hw).1]; rfl

end Passes

/-- The steps in front are taken, and then the step raises the skip flag. -/
def SkipsAt (source : Source) (field : String) (before : List Step) (step : Step) : Prop :=
  (∃ state, Passes source field {} before state ∧ state.skips = false) ∧
    step.RaisesSkip source field

/-- A skipped field holds what the steps in front of the skip left, whatever steps
follow. -/
theorem FieldOutcome.run_of_skipsAt {source : Source} {field : String} {before : List Step}
    {step : Step} (h : SkipsAt source field before step) :
    ∃ kept, (kept = none ↔ ∀ s ∈ before, s.OnlyLooks) ∧
      ∀ later, run source field (before ++ step :: later) = passed kept := by
  obtain ⟨⟨state, hp, hs⟩, hr⟩ := h
  obtain ⟨next, hn, hk⟩ := Step.run_of_raisesSkip hr state
  refine ⟨state.working, by simpa using hp.working_eq_none_iff hs, ?_⟩
  intro later
  calc
    run source field (before ++ step :: later) =
        runFrom source field state state.working (step :: later) := hp.runFrom_append hs _
    _ = runFrom source field next state.working later := by simp [runFrom, hs, hn, hk]
    _ = passed state.working := runFrom_of_skips hk _ _

namespace Schema

/-- Where a rule of a field raises the skip flag, no later rule of the field has a
say; and in a valid form the field is left out exactly if every rule in front of the
skip only looked at its own argument. -/
theorem absent_iff_of_skipsAt {rules : Rules} {vocabulary : Vocabulary} {schema : Schema}
    {field : String} {spec : RuleSpec} {before after : List Step} {step : Step} {source : Source}
    (hc : compile rules vocabulary = .ok schema) (hf : rules.get? field = some spec)
    (hs : Step.ofSpec vocabulary spec = .ok (before ++ step :: after))
    (h : SkipsAt source field before step) :
    (∀ later, FieldOutcome.run source field (before ++ step :: later) =
      FieldOutcome.run source field (before ++ [step])) ∧
    ∀ overrides data, (schema.withOverrides overrides).validate source = .ok (.valid data) →
      (data.contains field = false ↔ ∀ s ∈ before, s.OnlyLooks) := by
  obtain ⟨kept, hk, hrun⟩ := FieldOutcome.run_of_skipsAt h
  refine ⟨fun later => by rw [hrun, hrun], ?_⟩
  intro overrides data hv
  have hsteps : schema.steps? field = some (before ++ step :: after) := by
    rw [steps?_compile hc, hf, Option.bind_some, hs]
    rfl
  have hp : FieldOutcome.run source field (before ++ step :: after) =
      .passed (data.get? field) := run_of_validate hv hsteps
  rw [hrun] at hp
  cases hp
  simp [Dict.contains, hk]

/-- A rule that compares the input of another field does not keep an empty field. -/
theorem absent_of_confirm_optional :
    let rules : Rules := ⟨[("code", .piped "confirm:x|optional|min:3")], by simp⟩
    let source := (Form.mk [("code", " "), ("code_confirm", "x")]).source
    let before : List Step := [⟨.confirm, some "x"⟩]
    ∃ schema, compile rules .form = .ok schema ∧ SkipsAt source "code" before ⟨.optional, none⟩ ∧
      (∀ later, FieldOutcome.run source "code" (before ++ ⟨.optional, none⟩ :: later) =
        FieldOutcome.run source "code" (before ++ [⟨.optional, none⟩])) ∧
      ∀ overrides data, (schema.withOverrides overrides).validate source = .ok (.valid data) →
        (data.contains "code" = false ↔ ∀ s ∈ before, s.OnlyLooks) := by
  intro rules source before
  have hs : Step.ofSpec .form (.piped "confirm:x|optional|min:3") =
      .ok (before ++ ⟨.optional, none⟩ :: [⟨.min, some "3"⟩]) := by decide
  have hk : SkipsAt source "code" before ⟨.optional, none⟩ := by
    refine ⟨⟨{}, .cons rfl ?_ (.nil _), rfl⟩, .inl ⟨rfl, ?_⟩⟩ <;> decide
  obtain ⟨schema, hc⟩ : ∃ schema, compile rules .form = .ok schema :=
    ⟨_, by simp [compile, rules, hs]; rfl⟩
  exact ⟨schema, hc, hk, absent_iff_of_skipsAt hc rfl hs hk⟩

/-- A text that a rule has already taken stays in the data of a form that is valid,
although the rule behind it raises the skip flag. -/
theorem skipped_field_kept :
    let rules : Rules := ⟨[("code", .piped "string|optional")], by simp⟩
    let source := (Form.mk [("code", "")]).source
    SkipsAt source "code" [⟨.string, none⟩] ⟨.optional, none⟩ ∧
      Step.ofSpec .form (.piped "string|optional") =
        .ok ([⟨.string, none⟩] ++ [⟨.optional, none⟩]) ∧
      ∃ schema data, compile rules .form = .ok schema ∧
        schema.validate source = .ok (.valid data) ∧ data.get? "code" = some (.text "") := by
  intro rules source
  have hs : Step.ofSpec .form (.piped "string|optional") =
      .ok ([⟨.string, none⟩] ++ [⟨.optional, none⟩]) := by decide
  refine ⟨⟨⟨⟨some (.text ""), false⟩, .cons rfl (by decide) (.nil _), rfl⟩, .inl ⟨rfl, by decide⟩⟩,
    hs, ⟨.form, ⟨[("code", [⟨.string, none⟩, ⟨.optional, none⟩])], by simp⟩, ∅⟩,
    ⟨[("code", .text "")], by simp⟩, ?_, by decide, rfl⟩
  simp [compile, rules, hs]
  rfl

end Schema

end Formwork
