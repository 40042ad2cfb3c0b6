import Formwork.Proofs.Rule.Outcome
import Mathlib.Data.List.Nodup

/-! # Fields are validated independently

The loop over the fields of a form passes the data and the errors so far from one field
to the next, and a mistake in the rules of a field ends it. Still every field ends as it
would on its own: what comes of a form is put together from what comes of the schemas
that hold one field each (`Schema.validate_joins_only`). So nothing depends on the order
in which the fields are taken, and neither does the text of the errors, since it lists
them by ascending field.
-/

namespace Formwork

namespace Dict

variable {α : Type} {a b : Dict α}

/-- The entry of one key. -/
def only (d : Dict α) (key : String) : Dict α :=
  ⟨d.entries.filter fun entry => entry.1 == key,
    d.nodup.sublist (List.filter_sublist.map Prod.fst)⟩

@[simp] theorem get?_only (d : Dict α) (key other : String) :
    (d.only key).get? other = if other = key then d.get? other else none := by
  rw [get?, only, Pairs.lookup_filter (· == key)]
  simp [get?]

/-- Dictionaries with the same look-ups differ in the order of their entries only. -/
theorem Same.perm (h : a.Same b) : a.entries.Perm b.entries := by
  have hn : ∀ d : Dict α, d.entries.Nodup := fun d => d.nodup.of_map Prod.fst
  rw [List.perm_ext_iff_of_nodup (hn a) (hn b)]
  rintro ⟨key, value⟩
  rw [← get?_eq_some_iff, ← get?_eq_some_iff, h key]

end Dict

/-- The errors are shown alike in whatever order they were found. -/
theorem FieldErrors.display_congr {a b : FieldErrors} (h : Dict.Same a b) :
    a.display = b.display := by
  have hle : ∀ x y z : String × String, decide (x.1 ≤ y.1) = true → decide (y.1 ≤ z.1) = true →
      decide (x.1 ≤ z.1) = true := by
    intro x y z hxy hyz
    simp only [decide_eq_true_eq] at hxy hyz ⊢
    exact String.le_trans hxy hyz
  have htotal : ∀ x y : String × String, (decide (x.1 ≤ y.1) || decide (y.1 ≤ x.1)) = true := by
    intro x y
    simp only [Bool.or_eq_true, decide_eq_true_eq]
    exact String.le_total x.1 y.1
  have hsort : (a.entries.mergeSort fun x y => x.1 ≤ y.1) =
      b.entries.mergeSort fun x y => x.1 ≤ y.1 := by
    refine List.Perm.eq_of_pairwise ?_ (List.pairwise_mergeSort hle htotal _)
      (List.pairwise_mergeSort hle htotal _) ?_
    · -- entries of one field are one entry
      intro x y hx hy hxy hyx
      simp only [decide_eq_true_eq] at hxy hyx
      have hkey : x.1 = y.1 := String.le_antisymm hxy hyx
      have hxa : a.get? x.1 = some x.2 := Dict.get?_eq_some_iff.2 (List.mem_mergeSort.1 hx)
      have hyb : b.get? y.1 = some y.2 := Dict.get?_eq_some_iff.2 (List.mem_mergeSort.1 hy)
      rw [h, hkey, hyb] at hxa
      exact Prod.ext hkey (Option.some.inj hxa).symm
    · exact ((List.mergeSort_perm _ _).trans h.perm).trans (List.mergeSort_perm _ _).symm
  rw [display, display, hsort]

/-! ## Putting results together -/

/-- What comes of a form, `whole`, is what comes of its fields, each on its own, put
together: refused if one is, or else invalid if one is, with all their errors, or else
valid with all their data. -/
structure Validated.Joins (fields : List String)
    (alone : String → Except RuleError Validated) (whole : Except RuleError Validated) : Prop where
  refused : (∃ error, whole = .error error) ↔ ∃ field ∈ fields, ∃ error, alone field = .error error
  reported : ∀ error, whole = .error error → ∃ field ∈ fields, alone field = .error error
  invalid : (∃ errors, whole = .ok (.invalid errors)) ↔
    (∀ field ∈ fields, ∃ own, alone field = .ok own) ∧
      ∃ field ∈ fields, ∃ own, alone field = .ok (.invalid own)
  errors : ∀ errors, whole = .ok (.invalid errors) → ∀ key message,
    errors.get? key = some message ↔
      ∃ field ∈ fields, ∃ own, alone field = .ok (.invalid own) ∧ own.get? key = some message
  valid : (∃ data, whole = .ok (.valid data)) ↔
    ∀ field ∈ fields, ∃ own, alone field = .ok (.valid own)
  data : ∀ data, whole = .ok (.valid data) → ∀ key value,
    data.get? key = some value ↔
      ∃ field ∈ fields, ∃ own, alone field = .ok (.valid own) ∧ own.get? key = some value

/-- The results are the same but for which mistake is reported and for the order of
entries. -/
inductive Validated.Alike : Except RuleError Validated → Except RuleError Validated → Prop
  | refused (one other : RuleError) : Alike (.error one) (.error other)
  | invalid {a b : FieldErrors} (same : Dict.Same a b) (shown : a.display = b.display) :
      Alike (.ok (.invalid a)) (.ok (.invalid b))
  | valid {a b : FormData} (same : Dict.Same a b) : Alike (.ok (.valid a)) (.ok (.valid b))

namespace Schema

variable {schema : Schema} {source : Source} {rules : Rules} {vocabulary : Vocabulary}

/-! ## Verdicts -/

theorem exists_error_iff (schema : Schema) (source : Source) :
    (∃ error, schema.validate source = .error error) ↔
      ∃ field error, schema.outcome? source field = some (.broken error) := by
  constructor
  · rintro ⟨error, he⟩
    have hy := schema.yields_validate source
    rw [he] at hy
    cases hy with
    | refused broken => exact ⟨_, _, broken⟩
  · rintro ⟨field, error, hb⟩
    cases hv : schema.validate source with
    | error found => exact ⟨found, rfl⟩
    | ok outcome =>
        have hy := schema.yields_validate source
        rw [hv] at hy
        cases hy with
        | invalid sound _ _ => exact absurd hb (sound field error)
        | valid sound _ _ => exact absurd hb (sound field error)

theorem exists_ok_iff (schema : Schema) (source : Source) :
    (∃ outcome, schema.validate source = .ok outcome) ↔ schema.IsSound source := by
  have he := schema.exists_error_iff source
  cases hv : schema.validate source with
  | error error =>
      obtain ⟨field, found, hb⟩ := he.1 ⟨error, hv⟩
      exact iff_of_false nofun fun sound => sound field found hb
  | ok outcome =>
      refine iff_of_true ⟨outcome, rfl⟩ fun field error hb => ?_
      obtain ⟨found, hf⟩ := he.2 ⟨field, error, hb⟩
      rw [hv] at hf
      cases hf

theorem exists_invalid_iff (schema : Schema) (source : Source) :
    (∃ errors, schema.validate source = .ok (.invalid errors)) ↔
      schema.IsSound source ∧ ∃ field, schema.error? source field ≠ none := by
  have hy := schema.yields_validate source
  constructor
  · rintro ⟨errors, he⟩
    rw [he] at hy
    cases hy with
    | invalid sound fails _ => exact ⟨sound, _, fails⟩
  · rintro ⟨sound, field, hf⟩
    obtain ⟨outcome, ho⟩ := (schema.exists_ok_iff source).2 sound
    rw [ho] at hy ⊢
    cases hy with
    | invalid _ _ _ => exact ⟨_, rfl⟩
    | valid _ passes _ => exact absurd (passes field) hf

theorem exists_valid_iff (schema : Schema) (source : Source) :
    (∃ data, schema.validate source = .ok (.valid data)) ↔
      schema.IsSound source ∧ ∀ field, schema.error? source field = none := by
  have hy := schema.yields_validate source
  constructor
  · rintro ⟨data, hd⟩
    rw [hd] at hy
    cases hy with
    | valid sound passes _ => exact ⟨sound, passes⟩
  · rintro ⟨sound, passes⟩
    obtain ⟨outcome, ho⟩ := (schema.exists_ok_iff source).2 sound
    rw [ho] at hy ⊢
    cases hy with
    | invalid _ fails _ => exact absurd (passes _) fails
    | valid _ _ _ => exact ⟨_, rfl⟩

theorem get?_of_invalid {errors : FieldErrors}
    (h : schema.validate source = .ok (.invalid errors)) (field : String) :
    errors.get? field = schema.error? source field := by
  have hy := schema.yields_validate source
  rw [h] at hy
  cases hy with
  | invalid _ _ all => exact all field

theorem get?_of_valid {data : FormData} (h : schema.validate source = .ok (.valid data))
    (field : String) : data.get? field = schema.kept? source field := by
  have hy := schema.yields_validate source
  rw [h] at hy
  cases hy with
  | valid _ _ all => exact all field

/-! ## One field alone -/

/-- The schema without all fields but one. -/
def only (schema : Schema) (field : String) : Schema :=
  { schema with fields := schema.fields.only field }

theorem outcome?_only (schema : Schema) (source : Source) (field key : String) :
    (schema.only field).outcome? source key =
      if key = field then schema.outcome? source field else none := by
  rw [outcome?, steps?, only, Dict.get?_only]
  split
  · rename_i hk
    rw [hk]
    rfl
  · rfl

theorem error?_only (schema : Schema) (source : Source) (field key : String) :
    (schema.only field).error? source key =
      if key = field then schema.error? source field else none := by
  rw [error?, outcome?_only]
  split
  · rename_i hk
    rw [hk]
    rfl
  · rfl

theorem kept?_only (schema : Schema) (source : Source) (field key : String) :
    (schema.only field).kept? source key =
      if key = field then schema.kept? source field else none := by
  rw [kept?, outcome?_only]
  split <;> rfl

theorem mem_keys_of_outcome? {field : String} {outcome : FieldOutcome}
    (h : schema.outcome? source field = some outcome) : field ∈ schema.fields.keys := by
  obtain ⟨steps, hs, _⟩ := Option.map_eq_some_iff.1 h
  exact Pairs.isSome_lookup_iff.1 (Option.isSome_of_eq_some hs)

theorem mem_keys_of_error? {field : String} (h : schema.error? source field ≠ none) :
    field ∈ schema.fields.keys := by
  obtain ⟨message, hm⟩ := Option.ne_none_iff_exists'.1 h
  obtain ⟨outcome, ho, _⟩ := Option.bind_eq_some_iff.1 hm
  exact mem_keys_of_outcome? ho

theorem isSound_only_iff {field : String} :
    (schema.only field).IsSound source ↔
      ∀ error, schema.outcome? source field ≠ some (.broken error) := by
  constructor
  · intro h error
    have hf := h field error
    rwa [outcome?_only, if_pos rfl] at hf
  · intro h key error
    rw [outcome?_only]
    split
    · exact h error
    · nofun

theorem isSound_iff_only :
    schema.IsSound source ↔
      ∀ field ∈ schema.fields.keys, (schema.only field).IsSound source := by
  constructor
  · intro h field _
    exact isSound_only_iff.2 (h field)
  · intro h field error hb
    exact isSound_only_iff.1 (h field (mem_keys_of_outcome? hb)) error hb

theorem isSound_only_of_some {field : String}
    (h : schema.error? source field ≠ none ∨ schema.kept? source field ≠ none) :
    (schema.only field).IsSound source := by
  rw [isSound_only_iff]
  intro error hb
  rw [error?, kept?, hb] at h
  rcases h with h | h
  · exact h rfl
  · exact h rfl

theorem validate_only_eq_error_iff {field : String} {error : RuleError} :
    (schema.only field).validate source = .error error ↔
      schema.outcome? source field = some (.broken error) := by
  have hy := (schema.only field).yields_validate source
  constructor
  · intro he
    rw [he] at hy
    cases hy with
    | refused broken =>
        rw [outcome?_only] at broken
        split at broken
        · exact broken
        · cases broken
  · intro hb
    obtain ⟨found, hf⟩ := ((schema.only field).exists_error_iff source).2
      ⟨field, error, by rw [outcome?_only, if_pos rfl, hb]⟩
    rw [hf] at hy ⊢
    cases hy with
    | refused broken =>
        rw [outcome?_only] at broken
        split at broken
        · rw [hb] at broken
          cases broken
          rfl
        · cases broken

theorem exists_invalid_only_iff {field : String} :
    (∃ own, (schema.only field).validate source = .ok (.invalid own)) ↔
      schema.error? source field ≠ none := by
  rw [exists_invalid_iff]
  constructor
  · rintro ⟨_, key, hk⟩
    rw [error?_only] at hk
    split at hk
    · exact hk
    · exact absurd rfl hk
  · intro hf
    refine ⟨isSound_only_of_some (.inl hf), field, ?_⟩
    rwa [error?_only, if_pos rfl]

theorem exists_valid_only_iff {field : String} :
    (∃ own, (schema.only field).validate source = .ok (.valid own)) ↔
      (schema.only field).IsSound source ∧ schema.error? source field = none := by
  rw [exists_valid_iff]
  refine and_congr_right fun _ => ?_
  constructor
  · intro h
    have hf := h field
    rwa [error?_only, if_pos rfl] at hf
  · intro h key
    rw [error?_only, h, ite_self]

theorem exists_error_only_iff {field key message : String} :
    (∃ own, (schema.only field).validate source = .ok (.invalid own) ∧
        own.get? key = some message) ↔
      key = field ∧ schema.error? source field = some message := by
  constructor
  · rintro ⟨own, ho, hm⟩
    rw [get?_of_invalid ho, error?_only] at hm
    split at hm
    · exact ⟨by assumption, hm⟩
    · cases hm
  · rintro ⟨rfl, hm⟩
    obtain ⟨own, ho⟩ := exists_invalid_only_iff.2 (by rw [hm]; nofun)
    exact ⟨own, ho, by rw [get?_of_invalid ho, error?_only, if_pos rfl, hm]⟩

theorem exists_kept_only_iff {field key : String} {value : Value} :
    (∃ own, (schema.only field).validate source = .ok (.valid own) ∧
        own.get? key = some value) ↔
      key = field ∧ schema.kept? source field = some value := by
  constructor
  · rintro ⟨own, ho, hv⟩
    rw [get?_of_valid ho, kept?_only] at hv
    split at hv
    · exact ⟨by assumption, hv⟩
    · cases hv
  · rintro ⟨rfl, hv⟩
    have hsound : (schema.only key).IsSound source :=
      isSound_only_of_some (.inr (by rw [hv]; nofun))
    have herror : schema.error? source key = none := by
      obtain ⟨outcome, ho, hkept⟩ := Option.bind_eq_some_iff.1 hv
      rw [error?, ho]
      cases outcome with
      | passed kept => rfl
      | failed rule reason => cases hkept
      | broken error => cases hkept
    obtain ⟨own, ho⟩ := exists_valid_only_iff.2 ⟨hsound, herror⟩
    exact ⟨own, ho, by rw [get?_of_valid ho, kept?_only, if_pos rfl, hv]⟩

/-- What comes of a schema is what comes of its fields, each on its own. -/
theorem joins_only (schema : Schema) (source : Source) :
    Validated.Joins schema.fields.keys (fun field => (schema.only field).validate source)
      (schema.validate source) where
  refused := by
    simp only [validate_only_eq_error_iff]
    rw [exists_error_iff]
    constructor
    · rintro ⟨field, error, hb⟩
      exact ⟨field, mem_keys_of_outcome? hb, error, hb⟩
    · rintro ⟨field, _, error, hb⟩
      exact ⟨field, error, hb⟩
  reported := by
    intro error he
    have hy := schema.yields_validate source
    rw [he] at hy
    cases hy with
    | refused broken =>
        exact ⟨_, mem_keys_of_outcome? broken, validate_only_eq_error_iff.2 broken⟩
  invalid := by
    simp only [exists_ok_iff, exists_invalid_only_iff]
    rw [exists_invalid_iff, isSound_iff_only]
    refine and_congr_right fun _ => ?_
    constructor
    · rintro ⟨field, hf⟩
      exact ⟨field, mem_keys_of_error? hf, hf⟩
    · rintro ⟨field, _, hf⟩
      exact ⟨field, hf⟩
  errors := by
    intro errors he key message
    simp only [exists_error_only_iff]
    rw [get?_of_invalid he]
    constructor
    · intro hm
      exact ⟨key, mem_keys_of_error? (by rw [hm]; nofun), rfl, hm⟩
    · rintro ⟨field, _, rfl, hm⟩
      exact hm
  valid := by
    simp only [exists_valid_only_iff]
    rw [exists_valid_iff, isSound_iff_only]
    constructor
    · rintro ⟨sound, passes⟩ field hf
      exact ⟨sound field hf, passes field⟩
    · intro h
      refine ⟨fun field hf => (h field hf).1, fun field => ?_⟩
      by_contra hf
      exact hf (h field (mem_keys_of_error? hf)).2
  data := by
    intro data hd key value
    simp only [exists_kept_only_iff]
    rw [get?_of_valid hd]
    constructor
    · intro hv
      obtain ⟨outcome, ho, _⟩ := Option.bind_eq_some_iff.1 hv
      exact ⟨key, mem_keys_of_outcome? ho, rfl, hv⟩
    · rintro ⟨field, _, rfl, hv⟩
      exact hv

/-! ## The order of fields -/

theorem alike_of_outcome?_eq {other : Schema}
    (ho : ∀ field, other.outcome? source field = schema.outcome? source field)
    (hm : other.overrides = schema.overrides) :
    Validated.Alike (schema.validate source) (other.validate source) := by
  have herror : ∀ field, other.error? source field = schema.error? source field := by
    intro field
    rw [error?, error?, ho]
    unfold FieldOutcome.message? message
    rw [hm]
  have hkept : ∀ field, other.kept? source field = schema.kept? source field := by
    intro field
    rw [kept?, kept?, ho]
  have hsound : other.IsSound source ↔ schema.IsSound source := by
    unfold IsSound
    simp only [ho]
  cases hv : schema.validate source with
  | error error =>
      obtain ⟨field, found, hb⟩ := (schema.exists_error_iff source).1 ⟨error, hv⟩
      obtain ⟨reported, hr⟩ := (other.exists_error_iff source).2 ⟨field, found, by rw [ho, hb]⟩
      rw [hr]
      exact .refused error reported
  | ok outcome =>
      cases outcome with
      | invalid errors =>
          obtain ⟨sound, field, hf⟩ := (schema.exists_invalid_iff source).1 ⟨errors, hv⟩
          obtain ⟨found, hi⟩ := (other.exists_invalid_iff source).2
            ⟨hsound.2 sound, field, by rw [herror]; exact hf⟩
          have hsame : Dict.Same errors found := by
            intro key
            rw [get?_of_invalid hv, get?_of_invalid hi, herror]
          rw [hi]
          exact .invalid hsame (FieldErrors.display_congr hsame)
      | valid data =>
          obtain ⟨sound, passes⟩ := (schema.exists_valid_iff source).1 ⟨data, hv⟩
          obtain ⟨found, hd⟩ := (other.exists_valid_iff source).2
            ⟨hsound.2 sound, fun field => by rw [herror, passes]⟩
          rw [hd]
          refine .valid fun key => ?_
          rw [get?_of_valid hv, get?_of_valid hd, hkept]

theorem exists_compile_iff :
    (∃ schema, compile rules vocabulary = .ok schema) ↔
      ∀ field spec, rules.get? field = some spec →
        ∃ steps, Step.ofSpec vocabulary spec = .ok steps := by
  have hm : (∃ schema, compile rules vocabulary = .ok schema) ↔
      ∃ fields, (rules.entries.mapM fun entry =>
        (Step.ofSpec vocabulary entry.2).map fun steps => (entry.1, steps)) = .ok fields := by
    constructor
    · rintro ⟨schema, h⟩
      obtain ⟨fields, hf, _⟩ := bind_eq_ok.1 h
      exact ⟨fields, hf⟩
    · rintro ⟨fields, hf⟩
      exact ⟨_, bind_eq_ok.2 ⟨fields, hf, rfl⟩⟩
  rw [hm, exists_mapM_eq_ok_iff]
  constructor
  · intro h field spec hs
    obtain ⟨entry, he⟩ := h (field, spec) (Dict.get?_eq_some_iff.1 hs)
    obtain ⟨steps, hsteps, _⟩ := map_eq_ok.1 he
    exact ⟨steps, hsteps⟩
  · rintro h ⟨field, spec⟩ he
    obtain ⟨steps, hs⟩ := h field spec (Dict.get?_eq_some_iff.2 he)
    exact ⟨(field, steps), map_eq_ok.2 ⟨steps, hs, rfl⟩⟩

theorem entries_of_compile (hc : compile rules vocabulary = .ok schema) :
    List.Forall₂ (fun x y => (Step.ofSpec vocabulary x.2).map (fun steps => (x.1, steps)) = .ok y)
      rules.entries schema.fields.entries := by
  obtain ⟨fields, hf, hs⟩ := bind_eq_ok.1 hc
  cases hs
  have hall := forall₂_of_mapM_eq_ok hf
  have he : (Dict.ofList fields).entries = fields :=
    Dict.entries_ofList (by rw [(lookup_of_forall₂ hall).1]; exact rules.nodup)
  rw [he]
  exact hall

theorem keys_of_compile (hc : compile rules vocabulary = .ok schema) :
    schema.fields.keys = rules.keys :=
  (lookup_of_forall₂ (entries_of_compile hc)).1

/-- The rules of one field are compiled into the schema of this field. -/
theorem compile_only (hc : compile rules vocabulary = .ok schema) (field : String) :
    compile (rules.only field) vocabulary = .ok (schema.only field) := by
  have hfilter : List.Forall₂
      (fun x y => (Step.ofSpec vocabulary x.2).map (fun steps => (x.1, steps)) = .ok y)
      (rules.only field).entries (schema.only field).fields.entries := by
    refine List.rel_filter ?_ (entries_of_compile hc)
    intro x y hxy
    obtain ⟨steps, _, rfl⟩ := map_eq_ok.1 hxy
    exact Iff.rfl
  have he : Dict.ofList (schema.only field).fields.entries = (schema.only field).fields := by
    have hentries := Dict.entries_ofList (schema.only field).fields.nodup
    cases hd : Dict.ofList (schema.only field).fields.entries
    cases hf : (schema.only field).fields
    simp_all
  have hv : schema.vocabulary = vocabulary ∧ schema.overrides = ∅ := by
    obtain ⟨fields, _, hs⟩ := bind_eq_ok.1 hc
    cases hs
    exact ⟨rfl, rfl⟩
  refine bind_eq_ok.2 ⟨_, mapM_eq_ok_of_forall₂ hfilter, ?_⟩
  rw [he, ← hv.1, ← hv.2]
  rfl

/-- Every field ends as it would on its own, and what comes of the fields is put together;
the order in which the rules are listed decides at most which mistake is reported. -/
theorem validate_joins_only (compiled : compile rules vocabulary = .ok schema)
    (overrides : Overrides) (source : Source) :
    (∀ field, compile (rules.only field) vocabulary = .ok (schema.only field)) ∧
      Validated.Joins rules.keys
        (fun field => ((schema.only field).withOverrides overrides).validate source)
        ((schema.withOverrides overrides).validate source) ∧
      ∀ shuffled : Rules, shuffled.Same rules →
        ∃ other, compile shuffled vocabulary = .ok other ∧
          Validated.Alike ((schema.withOverrides overrides).validate source)
            ((other.withOverrides overrides).validate source) := by
  refine ⟨compile_only compiled, ?_, fun shuffled hsame => ?_⟩
  · rw [← keys_of_compile compiled]
    exact (schema.withOverrides overrides).joins_only source
  · obtain ⟨other, ho⟩ : ∃ other, compile shuffled vocabulary = .ok other := by
      rw [exists_compile_iff]
      intro field spec hs
      rw [hsame] at hs
      exact exists_compile_iff.1 ⟨schema, compiled⟩ field spec hs
    refine ⟨other, ho, alike_of_outcome?_eq (fun field => ?_) rfl⟩
    rw [outcome?, outcome?, steps?_withOverrides, steps?_withOverrides, steps?_compile ho,
      steps?_compile compiled, hsame]

/-- Two fields that fail, listed in either order. -/
theorem signUp_joins_only :
    let rules : Rules :=
      ⟨[("name", .piped "required|string"), ("age", .list ["required", "int", "min:18"])], by simp⟩
    let shuffled : Rules :=
      ⟨[("age", .list ["required", "int", "min:18"]), ("name", .piped "required|string")], by simp⟩
    let source := (Form.mk [("name", " "), ("age", "17")]).source
    ∃ schema other, compile rules .form = .ok schema ∧ shuffled.Same rules ∧
      compile shuffled .form = .ok other ∧
      Validated.Joins rules.keys
        (fun field => ((schema.only field).withOverrides ∅).validate source)
        ((schema.withOverrides ∅).validate source) ∧
      Validated.Alike ((schema.withOverrides ∅).validate source)
        ((other.withOverrides ∅).validate source) := by
  intro rules shuffled source
  have hname : Step.ofSpec .form (.piped "required|string") =
      .ok [⟨.required, none⟩, ⟨.string, none⟩] := by decide
  have hage : Step.ofSpec .form (.list ["required", "int", "min:18"]) =
      .ok [⟨.required, none⟩, ⟨.int, none⟩, ⟨.min, some "18"⟩] := by decide
  obtain ⟨schema, hc⟩ : ∃ schema, compile rules .form = .ok schema :=
    ⟨_, by simp [compile, rules, hname, hage]; rfl⟩
  have hsame : shuffled.Same rules := by
    intro key
    by_cases hn : "name" = key
    · subst hn
      rfl
    · by_cases ha : "age" = key
      · subst ha
        rfl
      · simp [Dict.get?, Pairs.lookup_cons, rules, shuffled, Ne.symm hn, Ne.symm ha]
  obtain ⟨_, hjoins, horder⟩ := validate_joins_only hc ∅ source
  obtain ⟨other, ho, halike⟩ := horder shuffled hsame
  exact ⟨schema, other, hc, hsame, ho, hjoins, halike⟩

end Schema

end Formwork
