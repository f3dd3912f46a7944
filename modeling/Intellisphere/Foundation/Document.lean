import Mathlib.Data.Rat.Defs

/-! Configuration documents and reading them with defaults. A field that is missing gets its
default; a section may be left out as well as left empty when both give the same value, and
this passes from nested sections to the sections around them.
-/

namespace Intellisphere.Foundation

/-- A document tree; the first entry of a mapping under a key counts. -/
inductive Document where
  | null
  | bool (value : Bool)
  | int (value : Int)
  | float (value : Rat)
  | str (value : String)
  | seq (items : List Document)
  | mapping (entries : List (String × Document))

namespace Document

/-- The entries of a mapping. -/
abbrev Entries :=
  List (String × Document)

section Reading

variable {α : Type}

/-- Read the field with the given name, which has a value when it is missing or is required. -/
def field (decode : Document → Option α) (missing : Option α) (name : String)
    (entries : Entries)
    : Option α :=
  match entries.lookup name with
  | some value => decode value
  | none => missing

/-- A section is read from the entries of a mapping; or from a sequence of the values of its
fields, of which those needed are there. Items beyond the fields are not looked at.
-/
def asSection (fields : List String) (needed : Nat) (read : Entries → Option α)
    : Document → Option α
  | mapping entries => read entries
  | seq items => if items.length < needed then none else read (fields.zip items)
  | _ => none

/-- A variant is read from the entries of a mapping, one of which is the tag; or from a
sequence of the tag and the values of the fields of its variant.
-/
def asVariant (tag : String) (fieldsOf : String → Option (List String))
    (read : Entries → Option α)
    : Document → Option α
  | mapping entries => read entries
  | seq (str variant :: items) => do
      let fields ← fieldsOf variant
      if fields.length = items.length then
        read ((tag, str variant) :: fields.zip items)
      else none
  | _ => none

/-- A map is read from the entries of a mapping only. -/
def asMap (read : Entries → Option α) : Document → Option α
  | mapping entries => read entries
  | _ => none

def asBool : Document → Option Bool
  | bool value => some value
  | _ => none

def asString : Document → Option String
  | str value => some value
  | _ => none

/-- An integer below the bound of an unsigned type. -/
def asUnsigned (bound : Nat) : Document → Option Nat
  | int value => if 0 ≤ value ∧ value.toNat < bound then some value.toNat else none
  | _ => none

/-- An optional value may be null. -/
def asOption (decode : Document → Option α) : Document → Option (Option α)
  | null => some none
  | document => (decode document).map some

def asList (decode : Document → Option α) : Document → Option (List α)
  | seq items => items.mapM decode
  | _ => none

end Reading

-----------------------------------------------------------------------------------------
-- Adding an empty section
-----------------------------------------------------------------------------------------

/-- Set the entry under a key. -/
def put (key : String) (value : Document) : Entries → Entries
  | [] => [(key, value)]
  | entry :: rest =>
      if entry.1 = key then (key, value) :: rest else entry :: put key value rest

/-- An empty section inside the sections of a path. -/
def nestedEmpty : List String → Document
  | [] => mapping []
  | key :: path => mapping [(key, nestedEmpty path)]

/-- Add an empty section at a path, with the sections on the way that are missing. -/
def withEmpty : List String → Document → Document
  | key :: path, mapping entries =>
      mapping
        (put key
          (match entries.lookup key with
          | some inner => inner.withEmpty path
          | none => nestedEmpty path)
          entries)
  | _, document => document

/-- There is room for a section at the path: it is missing, and what is there of the
sections on the way are mappings.
-/
def lacks : List String → Document → Bool
  | key :: path, mapping entries =>
      match entries.lookup key with
      | some inner => inner.lacks path
      | none => true
  | _, _ => false

/-- What `withEmpty` does to the entries of a mapping. -/
def addEmpty (key : String) (path : List String) (entries : Entries) : Entries :=
  put key
    (match entries.lookup key with
    | some inner => inner.withEmpty path
    | none => nestedEmpty path)
    entries

theorem withEmpty_mapping (key : String) (path : List String) (entries : Entries)
    : (mapping entries).withEmpty (key :: path) = mapping (addEmpty key path entries) := by
  rw [withEmpty, addEmpty]

theorem lookup_put_self (key : String) (value : Document) (entries : Entries)
    : (put key value entries).lookup key = some value := by
  induction entries with
  | nil => simp [put]
  | cons entry rest ih =>
      obtain ⟨name, old⟩ := entry
      by_cases same : name = key
      · simp [put, same]
      · have differs : (key == name) = false := by simpa using Ne.symm same
        simpa only [put, if_neg same, List.lookup_cons, differs] using ih

theorem lookup_put_other {key other : String} (different : other ≠ key) (value : Document)
    (entries : Entries)
    : (put key value entries).lookup other = entries.lookup other := by
  have apart : (other == key) = false := by simpa using different
  induction entries with
  | nil => simp [put, List.lookup_cons, apart]
  | cons entry rest ih =>
      obtain ⟨name, old⟩ := entry
      by_cases same : name = key
      · subst same
        simp [put, List.lookup_cons, apart]
      · simp only [put, if_neg same, List.lookup_cons, ih]

section Sections

variable {α : Type} {decode : Document → Option α}

/-- Other fields do not see the added section. -/
theorem field_addEmpty_other {missing : Option α} {name key : String}
    (different : name ≠ key) (path : List String) (entries : Entries)
    : field decode missing name (addEmpty key path entries)
      = field decode missing name entries := by
  rw [field, addEmpty, lookup_put_other different, field]

theorem lookup_of_lacks {name : String} {entries : Entries}
    (absent : (mapping entries).lacks [name] = true)
    : entries.lookup name = none := by
  rw [lacks] at absent
  cases found : entries.lookup name with
  | none => rfl
  | some inner => simp [found, lacks] at absent

/-- The field of a missing section, and of the same section added. -/
theorem field_of_lacks {missing : Option α} {name : String} {entries : Entries}
    (absent : (mapping entries).lacks [name] = true)
    : field decode missing name entries = missing := by
  rw [field, lookup_of_lacks absent]

theorem field_addEmpty_of_lacks {missing : Option α} {name : String} {entries : Entries}
    (absent : (mapping entries).lacks [name] = true)
    : field decode missing name (addEmpty name [] entries) = decode (mapping []) := by
  rw [field, addEmpty, lookup_put_self, lookup_of_lacks absent, nestedEmpty]

/-- A section that may be left out: read empty it has its default, and adding an empty
section at one of the paths inside makes no difference.
-/
structure OptionalSection (decode : Document → Option α) (default : α)
    (paths : List (List String))
    : Prop where
  empty : decode (mapping []) = some default
  kept
    : ∀ path ∈ paths, ∀ document : Document, document.lacks path = true
      → decode (document.withEmpty path) = decode document

/-- Nested empty sections read as the default. -/
theorem OptionalSection.fresh {default : α} {paths : List (List String)}
    (optional : OptionalSection decode default paths) {path : List String}
    (member : path ∈ paths)
    : decode (nestedEmpty path) = some default := by
  cases path with
  | nil => exact optional.empty
  | cons key rest =>
      have added : nestedEmpty (key :: rest) = (mapping []).withEmpty (key :: rest) := by
        simp [nestedEmpty, withEmpty, put]
      rw [added, optional.kept (key :: rest) member (mapping []) (by simp [lacks]),
        optional.empty]

/-- The field of such a section does not see what is added to it. -/
theorem OptionalSection.field_addEmpty {default : α} {paths : List (List String)}
    (optional : OptionalSection decode default paths) {path : List String}
    (member : path ∈ paths) {name : String} {entries : Entries}
    (absent : (mapping entries).lacks (name :: path) = true)
    : field decode (some default) name (addEmpty name path entries)
      = field decode (some default) name entries := by
  rw [field, addEmpty, lookup_put_self, field]
  rw [lacks] at absent
  cases found : entries.lookup name with
  | none => exact optional.fresh member
  | some inner =>
      rw [found] at absent
      exact optional.kept path member inner absent

/-- Sections are optional when their entries read so. -/
theorem OptionalSection.ofEntries {fields : List String} {needed : Nat}
    {read : Entries → Option α} {default : α} {paths : List (List String)}
    (empty : read [] = some default)
    (kept
      : ∀ key path, key :: path ∈ paths
        → ∀ entries, (mapping entries).lacks (key :: path) = true
          → read (addEmpty key path entries) = read entries)
    : OptionalSection (asSection fields needed read) default paths := by
  refine { empty := empty, kept := ?_ }
  intro path member document absent
  cases path with
  | nil => simp [lacks] at absent
  | cons key path =>
      cases document with
      | mapping entries =>
          rw [withEmpty_mapping]
          exact kept key path member entries absent
      | _ => simp [lacks] at absent

/-- What is read without sections inside. -/
theorem OptionalSection.leaf {default : α} (empty : decode (mapping []) = some default)
    : OptionalSection decode default [[]] where
  empty := empty
  kept path member document absent := by
    obtain rfl := List.mem_singleton.mp member
    simp [lacks] at absent

end Sections

end Document

end Intellisphere.Foundation
