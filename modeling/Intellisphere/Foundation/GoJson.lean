import Intellisphere.Foundation.Json

/-! Decoding of JSON into Go variables as `encoding/json` does it: null leaves a variable of a
basic type alone, unknown names are skipped, and names match up to letter case where none
matches exactly. The text of an error is not kept.
-/

namespace Intellisphere.Foundation.GoJson

/-- Decode a value into a variable, which has a value already; none is an error. -/
abbrev Decoder (T : Type) :=
  T → Json → Option T

def string : Decoder String
  | current, .null => some current
  | _, .str value => some value
  | _, _ => none

def bool : Decoder Bool
  | current, .null => some current
  | _, .bool value => some value
  | _, _ => none

/-- The numbers of the language are exactly those of this type that are finite. -/
def float64 : Decoder Rat
  | current, .null => some current
  | _, .num value => some value
  | _, _ => none

/-- The integers of 64 bits. -/
def fitsInt (value : Int) : Bool :=
  -9223372036854775808 ≤ value && value ≤ 9223372036854775807

/-- A number with a fraction, or one out of range, is an error. -/
def int : Decoder Int
  | current, .null => some current
  | _, .num value => if value.isInt && fitsInt value.num then some value.num else none
  | _, _ => none

/-- An array replaces the elements of a slice. -/
def slice {T : Type} (zero : T) (element : Decoder T) : Decoder (List T)
  | _, .null => some []
  | _, .arr items => items.mapM (element zero)
  | _, _ => none

/-- A `map[string]interface{}`; an object adds its entries. -/
def map : Decoder (List (String × Json))
  | _, .null => some []
  | current, .obj entries =>
      some
        (current.filter (fun entry => (entries.lookup entry.1).isNone) ++ entries)
  | _, _ => none

def pointer {T : Type} (zero : T) (target : Decoder T) : Decoder (Option T)
  | _, .null => some none
  | current, json => (target (current.getD zero) json).map some

/-- A field of a struct with the name in its tag. -/
structure Field (S : Type) where
  name : String
  decode : Decoder S

/-- The field with a getter, a setter and the decoder of its type. -/
def field {S T : Type} (name : String) (get : S → T) (set : S → T → S) (decoder : Decoder T)
    : Field S where
  name := name
  decode := fun record json => (decoder (get record) json).map (set record)

/-- A character regardless of case, as far as it can equal one of ASCII. -/
def foldChar (c : Char) : Char :=
  if c.toNat = 0x17F then 's' else if c.toNat = 0x212A then 'k' else c.toLower

def equalFold (left right : String) : Bool :=
  left.toList.map foldChar = right.toList.map foldChar

/-- The field that a key of an object names. -/
def fieldOf {S : Type} (fields : List (Field S)) (key : String) : Option (Field S) :=
  (fields.find? (fun field => field.name = key)).or
    (fields.find? (fun field => equalFold field.name key))

/-- The entries of an object go to their fields one after the other. -/
def entries {S : Type} (fields : List (Field S)) (record : S)
    : List (String × Json) → Option S
  | [] => some record
  | (key, json) :: rest => do
      let next ←
        match fieldOf fields key with
        | none => some record
        | some field => field.decode record json
      entries fields next rest

def struct {S : Type} (fields : List (Field S)) : Decoder S
  | current, .null => some current
  | current, .obj members => entries fields current members
  | _, _ => none

/-- The entries of an object are decoded one part after the other, by induction on the first.
-/
theorem entries_append {S : Type} (fields : List (Field S)) (record : S)
    (first second : List (String × Json))
    : entries fields record (first ++ second)
      = (entries fields record first).bind (fun next => entries fields next second) := by
  induction first generalizing record with
  | nil => rfl
  | cons entry rest ih =>
      obtain ⟨key, json⟩ := entry
      simp only [List.cons_append, entries, bind, ih]
      cases fieldOf fields key with
      | none => rfl
      | some field => rw [Option.bind_assoc]

/-- A number goes into an integer exactly when it is one of 64 bits. -/
theorem int_num_eq_some {current : Int} {value : Rat} {result : Int}
    : int current (.num value) = some result
      ↔ value.isInt = true ∧ fitsInt value.num = true ∧ value.num = result := by
  simp [int, and_assoc]

section Slices

variable {Item Result : Type} {read : Item → Option Result}

theorem mapM_cons_eq_some {item : Item} {rest : List Item} {results : List Result}
    : (item :: rest).mapM read = some results
      ↔ ∃ head tail,
          read item = some head ∧ rest.mapM read = some tail ∧ results = head :: tail := by
  rw [List.mapM_cons]
  cases read item <;> cases rest.mapM read <;> simp [eq_comm]

/-- A list is read with a property of its items exactly when each item is, by induction on
the items.
-/
theorem mapM_and_forall_iff (Meets : Result → Prop) (items : List Item)
    : (∃ results, items.mapM read = some results ∧ ∀ result ∈ results, Meets result)
      ↔ ∀ item ∈ items, ∃ result, read item = some result ∧ Meets result := by
  induction items with
  | nil => simp
  | cons item rest ih =>
      rw [List.forall_mem_cons, ← ih]
      refine ⟨?_, ?_⟩
      · intro ⟨results, all, meets⟩
        obtain ⟨head, tail, first, others, rfl⟩ := mapM_cons_eq_some.mp all
        rw [List.forall_mem_cons] at meets
        exact ⟨⟨head, first, meets.1⟩, tail, others, meets.2⟩
      · intro ⟨⟨head, first, headMeets⟩, tail, others, tailMeets⟩
        refine ⟨head :: tail, mapM_cons_eq_some.mpr ⟨head, tail, first, others, rfl⟩, ?_⟩
        exact List.forall_mem_cons.mpr ⟨headMeets, tailMeets⟩

/-- A part of each item that reading keeps is kept in the list, by induction on the items. -/
theorem mapM_keeps {Part : Type} {ofItem : Item → Part} {ofResult : Result → Part}
    (keeps : ∀ item result, read item = some result → ofResult result = ofItem item)
    {items : List Item} {results : List Result} (all : items.mapM read = some results)
    : results.map ofResult = items.map ofItem := by
  induction items generalizing results with
  | nil =>
      obtain rfl := Option.some.inj all
      rfl
  | cons item rest ih =>
      obtain ⟨head, tail, first, others, rfl⟩ := mapM_cons_eq_some.mp all
      rw [List.map_cons, List.map_cons, keeps item head first, ih others]

end Slices

end Intellisphere.Foundation.GoJson
