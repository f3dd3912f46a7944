import Intellisphere.Sdk.Manifest

/-! What the generated schema says against what Zod says. The schema reads every default as an
optional value, and beyond that it says too much about nulls, unions and optional fields.
-/

namespace Intellisphere.Sdk

open Intellisphere.Foundation

/-- The value is of the type, whatever the default values are, if an object has only the fields
of its own. The value of a field that an object does not have is `none`.
-/
def Fits : ZodType → Option Json → Prop
  | .string, value => ∃ text, value = some (.str text)
  | .number, value => ∃ number, value = some (.num number)
  | .boolean, value => ∃ bool, value = some (.bool bool)
  | .literal constant, value => value = some constant.toJson
  | .enum values, value => ∃ text ∈ values, value = some (.str text)
  | .array type, value =>
      ∃ items, value = some (.arr items) ∧ ∀ item ∈ items, Fits type (some item)
  | .optional innerType, value => value = none ∨ Fits innerType value
  | .nullable innerType, value => value = some .null ∨ Fits innerType value
  | .default innerType _, value => value = none ∨ Fits innerType value
  | .object keys shape, value =>
      ∃ fields,
        value = some (.obj fields)
        ∧ (∀ field ∈ fields, field.1 ∈ keys)
        ∧ ∀ key ∈ keys, Fits (shape key) (fields.lookup key)
  | .record valueType, value =>
      ∃ fields,
        value = some (.obj fields) ∧ ∀ field ∈ fields, Fits valueType (some field.2)
  | .union _ options, value => ∃ i, Fits (options i) value

/-- An Optional or Default type has undefined. -/
theorem fits_none {type : ZodType} (optional : type.isOptionalOrDefault = true)
    : Fits type none := by
  cases type with
  | optional innerType => exact .inl rfl
  | default innerType defaultValue => exact .inl rfl
  | _ => contradiction

/-- The schema takes a value that fits as it is meant: it meets no literal null; no null under
a Nullable type whose inner type already takes it; of the options of a union exactly one fits
and takes it; a field that is absent is Optional or Default at the outermost, and one that is
present is not `__proto__`. The same holds of its parts.
-/
def Faithful : ZodType → Json → Prop
  | .literal constant, _ => constant ≠ .null
  | .array type, .arr items => ∀ item ∈ items, Faithful type item
  | .optional innerType, value => Faithful innerType value
  | .nullable innerType, .null =>
      ¬(Fits innerType (some .null) ∧ Faithful innerType .null)
  | .nullable innerType, value => Faithful innerType value
  | .default innerType _, value => Faithful innerType value
  | .object keys shape, .obj fields =>
      ∀ key ∈ keys,
        match fields.lookup key with
        | none => (shape key).isOptionalOrDefault = true
        | some value => isOwnKey key = true ∧ Faithful (shape key) value
  | .record valueType, .obj fields => ∀ field ∈ fields, Faithful valueType field.2
  | .union _ options, value =>
      ∃! i, Fits (options i) (some value) ∧ Faithful (options i) value
  | _, _ => True

-----------------------------------------------------------------------------------------
-- What the schema says
-----------------------------------------------------------------------------------------

section Schema

/-- A constant has its `typeof` unless it is null. -/
theorem typeof_admits {constant : Primitive}
    : (typeof constant).admits constant.toJson = true ↔ constant ≠ .null := by
  cases constant <;> simp [typeof, SimpleType.admits, Primitive.toJson]

/-- The schema of a Nullable type takes null exactly when the inner schema does not. -/
theorem validates_nullable_null {innerType : ZodType}
    : (zodToJsonSchema (.nullable innerType)).validates .null = true
      ↔ ¬(zodToJsonSchema innerType).validates .null = true := by
  rw [zodToJsonSchema, validates_oneOf]
  cases inner : (zodToJsonSchema innerType).validates .null <;>
    simp [SimpleType.admits, inner]

/-- It takes any other value exactly when the inner schema does. -/
theorem validates_nullable_of_ne {innerType : ZodType} {value : Json} (ne : value ≠ .null)
    : (zodToJsonSchema (.nullable innerType)).validates value = true
      ↔ (zodToJsonSchema innerType).validates value = true := by
  have other : SimpleType.null.admits value = false := by
    cases value <;> simp [SimpleType.admits] at ne ⊢
  rw [zodToJsonSchema, validates_oneOf]
  cases inner : (zodToJsonSchema innerType).validates value <;>
    simp [other, inner]

section Object

variable {keys : List String} {shape : String → ZodType} {fields : List (String × Json)}

/-- The schema of an object lists the keys that can be assigned. -/
theorem lookup_properties_isSome {key : String}
    : (((keys.filter isOwnKey).map
          (fun key => (key, zodToJsonSchema (shape key)))).lookup key).isSome = true
      ↔ key ∈ keys ∧ isOwnKey key = true := by
  simp [List.lookup_isSome_iff, and_comm]

/-- What the schema of an object says of one of its keys. -/
theorem field_of_validates_object {key : String} (member : key ∈ keys)
    (valid : (zodToJsonSchema (.object keys shape)).validates (.obj fields) = true)
    : match fields.lookup key with
      | none => (shape key).isOptionalOrDefault = true
      | some value =>
          isOwnKey key = true ∧ (zodToJsonSchema (shape key)).validates value = true := by
  rw [zodToJsonSchema, validates_closed] at valid
  obtain ⟨_, same, properties, known, required⟩ := valid
  obtain rfl := Json.obj.inj same
  cases found : fields.lookup key with
  | none =>
      by_contra notOptional
      have there :=
        required key (List.mem_filter.mpr ⟨member, by simpa using notOptional⟩)
      simp [found] at there
  | some value =>
      obtain ⟨before, after, rfl, _⟩ := List.lookup_eq_some_iff.mp found
      have own := (lookup_properties_isSome.mp (known (key, value) (by simp))).2
      refine ⟨own, properties (key, zodToJsonSchema (shape key)) ?_ value found⟩
      exact List.mem_map.mpr ⟨key, List.mem_filter.mpr ⟨member, own⟩, rfl⟩

/-- It lists the keys that can be assigned and requires those that are not optional. -/
theorem validates_object
    : (zodToJsonSchema (.object keys shape)).validates (.obj fields) = true
      ↔ (∀ field ∈ fields, field.1 ∈ keys)
        ∧ ∀ key ∈ keys,
            match fields.lookup key with
            | none => (shape key).isOptionalOrDefault = true
            | some value =>
                isOwnKey key = true
                ∧ (zodToJsonSchema (shape key)).validates value = true := by
  refine ⟨?_, ?_⟩
  · intro valid
    refine ⟨?_, fun key member => field_of_validates_object member valid⟩
    rw [zodToJsonSchema, validates_closed] at valid
    obtain ⟨_, same, _, known, _⟩ := valid
    obtain rfl := Json.obj.inj same
    exact fun field member => (lookup_properties_isSome.mp (known field member)).1
  · intro meant
    obtain ⟨known, each⟩ := meant
    rw [zodToJsonSchema, validates_closed]
    refine ⟨fields, rfl, ?_, ?_, ?_⟩
    · intro property member value found
      obtain ⟨key, own, rfl⟩ := List.mem_map.mp member
      have said := each key (List.mem_of_mem_filter own)
      rw [found] at said
      exact said.2
    · intro field member
      have present : (fields.lookup field.1).isSome = true :=
        List.lookup_isSome_iff.mpr ⟨field, member, beq_self_eq_true field.1⟩
      obtain ⟨value, found⟩ := Option.isSome_iff_exists.mp present
      have said := each field.1 (known field member)
      rw [found] at said
      exact lookup_properties_isSome.mpr ⟨known field member, said.1⟩
    · intro key member
      obtain ⟨member, notOptional⟩ := List.mem_filter.mp member
      have said := each key member
      cases found : fields.lookup key with
      | none =>
          rw [found] at said
          simp [said] at notOptional
      | some value => rfl

end Object

/-- A Nullable type: null is taken unless the inner type takes it, too. -/
theorem validates_nullable_iff {innerType : ZodType} {value : Json}
    (inner
      : ∀ {value : Json},
          (zodToJsonSchema innerType).validates value = true
          ↔ Fits innerType (some value) ∧ Faithful innerType value)
    : (zodToJsonSchema (.nullable innerType)).validates value = true
      ↔ Fits (.nullable innerType) (some value) ∧ Faithful (.nullable innerType) value := by
  rw [Fits]
  by_cases null : value = .null
  · subst null
    rw [validates_nullable_null, inner, Faithful]
    simp
  · rw [validates_nullable_of_ne null, inner, Faithful]
    · simp [null]
    · exact null

/-- One field of an object: an absent one must be optional at the outermost. -/
theorem validates_field_iff {key : String} {type : ZodType}
    (inner
      : ∀ {value : Json},
          (zodToJsonSchema type).validates value = true
          ↔ Fits type (some value) ∧ Faithful type value)
    (field : Option Json)
    : (match field with
        | none => type.isOptionalOrDefault = true
        | some value =>
            isOwnKey key = true ∧ (zodToJsonSchema type).validates value = true)
      ↔ Fits type field
        ∧ match field with
          | none => type.isOptionalOrDefault = true
          | some value => isOwnKey key = true ∧ Faithful type value := by
  cases field with
  | none => exact ⟨fun optional => ⟨fits_none optional, optional⟩, And.right⟩
  | some value =>
      simp only [inner]
      exact and_left_comm

/-- An object, field by field. -/
theorem validates_object_iff {keys : List String} {shape : String → ZodType} {value : Json}
    (inner
      : ∀ key {value : Json},
          (zodToJsonSchema (shape key)).validates value = true
          ↔ Fits (shape key) (some value) ∧ Faithful (shape key) value)
    : (zodToJsonSchema (.object keys shape)).validates value = true
      ↔ Fits (.object keys shape) (some value) ∧ Faithful (.object keys shape) value := by
  rw [Fits]
  cases value with
  | obj fields =>
      have each (key : String) :=
        @validates_field_iff key (shape key) (inner key) (fields.lookup key)
      rw [validates_object, Faithful]
      refine ⟨?_, ?_⟩
      · intro valid
        obtain ⟨known, valid⟩ := valid
        refine ⟨⟨fields, rfl, known, ?_⟩, ?_⟩
        · intro key member
          exact ((each key).mp (valid key member)).1
        · intro key member
          exact ((each key).mp (valid key member)).2
      · intro meant
        obtain ⟨⟨_, same, known, fits⟩, faithful⟩ := meant
        obtain rfl := Json.obj.inj (Option.some.inj same)
        refine ⟨known, ?_⟩
        intro key member
        exact (each key).mpr ⟨fits key member, faithful key member⟩
  | _ => simp [zodToJsonSchema, validates_closed]

/-- The schema takes exactly the values that fit and that it takes as they are meant. By
induction on the type.
-/
theorem validates_iff {type : ZodType} {value : Json}
    : (zodToJsonSchema type).validates value = true
      ↔ Fits type (some value) ∧ Faithful type value := by
  induction type generalizing value with
  | string =>
      rw [zodToJsonSchema, validates_type, Fits]
      cases value <;> simp [SimpleType.admits, Faithful]
  | number =>
      rw [zodToJsonSchema, validates_type, Fits]
      cases value <;> simp [SimpleType.admits, Faithful]
  | boolean =>
      rw [zodToJsonSchema, validates_type, Fits]
      cases value <;> simp [SimpleType.admits, Faithful]
  | literal constant =>
      rw [zodToJsonSchema, validates_const, Fits, Option.some.injEq, Faithful]
      refine and_congr_right ?_
      intro same
      rw [same, typeof_admits]
  | enum values =>
      rw [zodToJsonSchema, validates_enum, Fits]
      cases value <;> simp [SimpleType.admits, Faithful, Primitive.toJson]
  | array type ih =>
      rw [zodToJsonSchema, validates_items, Fits]
      cases value <;> simp [Faithful, ih, forall_and]
  | optional innerType ih =>
      rw [zodToJsonSchema, ih, Fits, Faithful]
      simp
  | nullable innerType ih => exact validates_nullable_iff ih
  | default innerType defaultValue ih =>
      rw [zodToJsonSchema, validates_default, ih, Fits, Faithful]
      simp
  | object keys shape ih => exact validates_object_iff ih
  | record valueType ih =>
      rw [zodToJsonSchema, validates_each, Fits]
      cases value <;> simp [Faithful, ih, forall_and]
  | union count options ih =>
      have chosen
          : (zodToJsonSchema (.union count options)).validates value = true
            ↔ Faithful (.union count options) value := by
        rw [zodToJsonSchema, validates_oneOf_ofFn, Faithful]
        exact existsUnique_congr (fun i => ih i)
      refine chosen.trans ⟨fun faithful => ⟨?_, faithful⟩, And.right⟩
      rw [Faithful] at faithful
      obtain ⟨i, ⟨fits, _⟩, _⟩ := faithful
      exact ⟨i, fits⟩

end Schema

-----------------------------------------------------------------------------------------
-- What Zod says
-----------------------------------------------------------------------------------------

/-- Every default value satisfies the type it is a default of. -/
def ZodType.DefaultsSatisfy (zod : Zod) : ZodType → Prop
  | .array type => type.DefaultsSatisfy zod
  | .optional innerType => innerType.DefaultsSatisfy zod
  | .nullable innerType => innerType.DefaultsSatisfy zod
  | .default innerType defaultValue =>
      innerType.DefaultsSatisfy zod ∧ zod.safeParse innerType (defaultValue ()) = true
  | .object keys shape => ∀ key ∈ keys, (shape key).DefaultsSatisfy zod
  | .record valueType => valueType.DefaultsSatisfy zod
  | .union _ options => ∀ i, (options i).DefaultsSatisfy zod
  | _ => True

/-- Nothing inherited is read in place of a field of the value: one that an object leaves out
is not named like a method that all objects inherit, and if it is named `__proto__` its type
has `Object.prototype`. Of a union this concerns the option whose schema takes the value.
-/
def ReadsOwnFields (zod : Zod) : ZodType → Json → Prop
  | .array type, .arr items => ∀ item ∈ items, ReadsOwnFields zod type item
  | .optional innerType, value => ReadsOwnFields zod innerType value
  | .nullable innerType, value => ReadsOwnFields zod innerType value
  | .default innerType _, value => ReadsOwnFields zod innerType value
  | .object keys shape, .obj fields =>
      ∀ key ∈ keys,
        match fields.lookup key with
        | none =>
            key ∉ inheritedMethods
            ∧ (key = "__proto__" → zod.safeParse (shape key) .prototype = true)
        | some value => ReadsOwnFields zod (shape key) value
  | .record valueType, .obj fields => ∀ field ∈ fields, ReadsOwnFields zod valueType field.2
  | .union _ options, value =>
      ∀ i, (zodToJsonSchema (options i)).validates value = true
        → ReadsOwnFields zod (options i) value
  | _, _ => True

section Library

variable (zod : Zod)

/-- What Zod accepts fits if the schema takes it as it is meant, by induction on the type. -/
theorem fits_of_safeParse {type : ZodType} {value : Json}
    (accepted : zod.safeParse type (.json value) = true) (faithful : Faithful type value)
    : Fits type (some value) := by
  induction type generalizing value with
  | string =>
      obtain ⟨text, same⟩ := (zod.string _).mp accepted
      exact ⟨text, congrArg some (Input.json.inj same)⟩
  | number =>
      obtain ⟨number, same⟩ := (zod.number _).mp accepted
      exact ⟨number, congrArg some (Input.json.inj same)⟩
  | boolean =>
      obtain ⟨bool, same⟩ := (zod.boolean _).mp accepted
      exact ⟨bool, congrArg some (Input.json.inj same)⟩
  | literal constant =>
      exact congrArg some (Input.json.inj ((zod.literal _ _).mp accepted))
  | enum values =>
      obtain ⟨text, member, same⟩ := (zod.enum _ _).mp accepted
      exact ⟨text, member, congrArg some (Input.json.inj same)⟩
  | array type ih =>
      obtain ⟨items, same, all⟩ := (zod.array _ _).mp accepted
      obtain rfl := Input.json.inj same
      exact ⟨items, rfl, fun item member => ih (all item member) (faithful item member)⟩
  | optional innerType ih =>
      rcases (zod.optional _ _).mp accepted with absent | inner
      · contradiction
      · exact .inr (ih inner faithful)
  | nullable innerType ih =>
      rcases (zod.nullable _ _).mp accepted with null | inner
      · exact .inl (congrArg some (Input.json.inj null))
      · by_cases null : value = .null
        · exact .inl (congrArg some null)
        · rw [Faithful] at faithful
          · exact .inr (ih inner faithful)
          · exact null
  | default innerType defaultValue ih =>
      have inner := ((zod.default _ _ _).mp accepted).2 (by simp)
      exact .inr (ih inner faithful)
  | object keys shape ih =>
      obtain ⟨fields, read, same, known, all⟩ := (zod.object _ _ _).mp accepted
      cases value with
      | obj own =>
          obtain ⟨rfl, rfl⟩ := Prod.mk.inj (Option.some.inj same)
          refine ⟨own, rfl, known, ?_⟩
          intro key member
          have said := faithful key member
          have parsed := all key member
          cases found : own.lookup key with
          | none =>
              rw [found] at said
              exact fits_none said
          | some value =>
              rw [found] at said
              rw [readField, found] at parsed
              exact ih key parsed said.2
      | _ => contradiction
  | record valueType ih =>
      obtain ⟨fields, read, same, all⟩ := (zod.record _ _).mp accepted
      cases value with
      | obj own =>
          obtain ⟨rfl, rfl⟩ := Prod.mk.inj (Option.some.inj same)
          exact ⟨own, rfl, fun field member => ih (all field member) (faithful field member)⟩
      | _ => contradiction
  | union count options ih =>
      obtain ⟨i, ⟨fits, _⟩, _⟩ := faithful
      exact ⟨i, fits⟩

/-- With satisfying defaults, an Optional or Default type accepts undefined. -/
theorem safeParse_undefined {type : ZodType} (satisfy : type.DefaultsSatisfy zod)
    (optional : type.isOptionalOrDefault = true)
    : zod.safeParse type .undefined = true := by
  cases type with
  | optional innerType => exact (zod.optional _ _).mpr (.inl rfl)
  | default innerType defaultValue =>
      exact (zod.default _ _ _).mpr ⟨fun _ => satisfy.2, fun given => absurd rfl given⟩
  | _ => contradiction

/-- With satisfying defaults, Zod accepts what the schema takes if it reads nothing inherited.
By induction on the type.
-/
theorem safeParse_of_validates {type : ZodType} {value : Json}
    (satisfy : type.DefaultsSatisfy zod) (own : ReadsOwnFields zod type value)
    (valid : (zodToJsonSchema type).validates value = true)
    : zod.safeParse type (.json value) = true := by
  induction type generalizing value with
  | string =>
      obtain ⟨⟨text, same⟩, _⟩ := validates_iff.mp valid
      exact (zod.string _).mpr ⟨text, congrArg Input.json (Option.some.inj same)⟩
  | number =>
      obtain ⟨⟨number, same⟩, _⟩ := validates_iff.mp valid
      exact (zod.number _).mpr ⟨number, congrArg Input.json (Option.some.inj same)⟩
  | boolean =>
      obtain ⟨⟨bool, same⟩, _⟩ := validates_iff.mp valid
      exact (zod.boolean _).mpr ⟨bool, congrArg Input.json (Option.some.inj same)⟩
  | literal constant =>
      have same := (validates_iff.mp valid).1
      exact (zod.literal _ _).mpr (congrArg Input.json (Option.some.inj same))
  | enum values =>
      obtain ⟨⟨text, member, same⟩, _⟩ := validates_iff.mp valid
      exact (zod.enum _ _).mpr ⟨text, member, congrArg Input.json (Option.some.inj same)⟩
  | array type ih =>
      rw [zodToJsonSchema, validates_items] at valid
      obtain ⟨items, rfl, all⟩ := valid
      exact
        (zod.array _ _).mpr
          ⟨items, rfl, fun item member => ih satisfy (own item member) (all item member)⟩
  | optional innerType ih =>
      exact (zod.optional _ _).mpr (.inr (ih satisfy own valid))
  | nullable innerType ih =>
      by_cases null : value = .null
      · exact (zod.nullable _ _).mpr (.inl (congrArg Input.json null))
      · have inner := (validates_nullable_of_ne null).mp valid
        exact (zod.nullable _ _).mpr (.inr (ih satisfy own inner))
  | default innerType defaultValue ih =>
      rw [zodToJsonSchema, validates_default] at valid
      refine (zod.default _ _ _).mpr ⟨?_, fun _ => ih satisfy.1 own valid⟩
      intro absent
      contradiction
  | object keys shape ih =>
      obtain ⟨⟨fields, same, known, _⟩, _⟩ := validates_iff.mp valid
      obtain rfl := Option.some.inj same
      have each := (validates_object.mp valid).2
      refine (zod.object _ _ _).mpr ⟨fields, readField fields, rfl, known, ?_⟩
      intro key member
      have said := each key member
      have reads := own key member
      cases found : fields.lookup key with
      | none =>
          rw [found] at said reads
          rw [readField, found]
          dsimp only [inherited]
          split
          next proto => exact reads.2 proto
          next =>
            rw [if_neg reads.1]
            exact safeParse_undefined zod (satisfy key member) said
      | some value =>
          rw [found] at said reads
          rw [readField, found]
          exact ih key (satisfy key member) reads said.2
  | record valueType ih =>
      rw [zodToJsonSchema, validates_each] at valid
      obtain ⟨fields, rfl, all⟩ := valid
      exact
        (zod.record _ _).mpr
          ⟨fields, readField fields, rfl,
            fun field member => ih satisfy (own field member) (all field member)⟩
  | union count options ih =>
      obtain ⟨⟨i, fits⟩, faithful⟩ := validates_iff.mp valid
      obtain ⟨i, taken, _⟩ := faithful
      have taken := validates_iff.mpr taken
      exact (zod.union _ _ _).mpr ⟨i, ih i (satisfy i) (own i taken) taken⟩

/-- No type has a method, by induction on the type. -/
theorem safeParse_method (type : ZodType) : ¬zod.safeParse type .method = true := by
  induction type with
  | string => rw [zod.string]; simp
  | number => rw [zod.number]; simp
  | boolean => rw [zod.boolean]; simp
  | literal constant => rw [zod.literal]; simp
  | enum values => rw [zod.enum]; simp
  | array type ih => rw [zod.array]; simp
  | optional innerType ih => rw [zod.optional]; simp [ih]
  | nullable innerType ih => rw [zod.nullable]; simp [ih]
  | default innerType defaultValue ih => rw [zod.default]; simp [ih]
  | object keys shape ih => rw [zod.object]; simp [Input.asObject]
  | record valueType ih => rw [zod.record]; simp [Input.asObject]
  | union count options ih => rw [zod.union]; simp [ih]

/-- So an object that leaves out a field named like one is rejected, even if the field is
optional.
-/
theorem safeParse_leftOut {keys : List String} {shape : String → ZodType}
    {fields : List (String × Json)} {key : String} (member : key ∈ keys)
    (method : key ∈ inheritedMethods) (absent : fields.lookup key = none)
    : ¬zod.safeParse (.object keys shape) (.json (.obj fields)) = true := by
  intro accepted
  obtain ⟨_, _, same, _, all⟩ := (zod.object _ _ _).mp accepted
  obtain ⟨rfl, rfl⟩ := Prod.mk.inj (Option.some.inj same)
  have proto : key ≠ "__proto__" := by
    rintro rfl
    exact absurd method (by decide)
  have parsed := all key member
  rw [readField, absent] at parsed
  dsimp only [inherited] at parsed
  rw [if_neg proto, if_pos method] at parsed
  exact safeParse_method zod _ parsed

end Library

/-- The generated schema takes what Zod accepts exactly when Zod rejects the value or the
schema takes it as it is meant.
-/
theorem schema_takesAccepted_iff (zod : Zod) (type : ZodType) (value : Json)
    : (zod.safeParse type (.json value) = true
        → (zodToJsonSchema type).validates value = true)
      ↔ (zod.safeParse type (.json value) = true → Faithful type value) := by
  refine ⟨?_, ?_⟩
  · intro takes accepted
    exact (validates_iff.mp (takes accepted)).2
  · intro faithful accepted
    have meant := faithful accepted
    exact validates_iff.mpr ⟨fits_of_safeParse zod accepted meant, meant⟩

/-- The schema of the literal null rejects null, because `typeof` calls it an object. -/
theorem schema_rejectsNull
    : ¬∀ (zod : Zod) type value,
        zod.safeParse type (.json value) = true
        → (zodToJsonSchema type).validates value = true := by
  intro takes
  have valid := takes zod (.literal .null) .null ((zod.literal _ _).mpr rfl)
  rw [zodToJsonSchema, validates_const] at valid
  exact typeof_admits.mp valid.2 rfl

/-- The generated schema takes only what Zod accepts, when the default values satisfy their
types and Zod reads nothing that the objects of the value inherit.
-/
theorem schema_takesOnlyAccepted (zod : Zod) (type : ZodType) (value : Json)
    (satisfy : type.DefaultsSatisfy zod) (own : ReadsOwnFields zod type value)
    (valid : (zodToJsonSchema type).validates value = true)
    : zod.safeParse type (.json value) = true :=
  safeParse_of_validates zod satisfy own valid

/-- An object with an optional field that has the name of a method. -/
def namedConstructor : ZodType :=
  .object ["constructor"] (fun _ => .optional .string)

/-- The schema takes the empty object for it, and Zod does not. -/
theorem schema_takesInherited
    : ¬∀ (zod : Zod) (type : ZodType) value,
        type.DefaultsSatisfy zod
        → (zodToJsonSchema type).validates value = true
        → zod.safeParse type (.json value) = true := by
  intro takes
  have satisfy : namedConstructor.DefaultsSatisfy zod := fun _ _ => trivial
  exact safeParse_leftOut zod List.mem_cons_self (by decide) rfl
    (takes zod namedConstructor (.obj []) satisfy rfl)

/-- A search tool's input: a query, a limit with a default, and an optional order. -/
def searchInput : ZodType :=
  .object ["query", "limit", "order"] fun key =>
    if key = "query" then .string
    else if key = "limit" then .default .number (fun _ => .json (.num 10))
    else .optional (.nullable (.enum ["newest", "oldest"]))

/-- A search that leaves the limit out. -/
def searchArguments : Json :=
  .obj [("query", .str "lean"), ("order", .null)]

theorem schema_takesOnlyAccepted_search
    : zod.safeParse searchInput (.json searchArguments) = true := by
  refine schema_takesOnlyAccepted zod searchInput searchArguments ?_ ?_ rfl
  · intro key member
    rcases member with _ | ⟨_, _ | ⟨_, _ | ⟨_, none⟩⟩⟩
    · exact trivial
    · exact ⟨trivial, rfl⟩
    · exact trivial
    · contradiction
  · intro key member
    rcases member with _ | ⟨_, _ | ⟨_, _ | ⟨_, none⟩⟩⟩
    · exact trivial
    · exact ⟨by decide, by decide⟩
    · exact trivial
    · contradiction

end Intellisphere.Sdk
