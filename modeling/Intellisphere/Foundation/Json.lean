import Intellisphere.Foundation.Text

/-! JSON values and the compact text of JSON strings. Parsing is left to a parameter where
it is used: the programs only rely on what a parser makes of text they rendered.
-/

namespace Intellisphere.Foundation

/-- A JSON value; the fields of an object have distinct names. -/
inductive Json where
  | null
  | bool (value : Bool)
  | num (value : Rat)
  | str (value : String)
  | arr (items : List Json)
  | obj (fields : List (String × Json))

/-- The field of an object with the given name. -/
def Json.get? (json : Json) (name : String) : Option Json :=
  match json with
  | .obj fields => fields.lookup name
  | _ => none

def Json.asStr : Json → Option String
  | .str value => some value
  | _ => none

def Json.asBool : Json → Option Bool
  | .bool value => some value
  | _ => none

/-- A character inside a JSON string: quotes, backslashes and C0 controls are escaped. -/
def escapeJsonChar (c : Char) : List Char :=
  if c == '"' then ['\\', '"']
  else if c == '\\' then ['\\', '\\']
  else if c.toNat = 0x08 then ['\\', 'b']
  else if c == '\t' then ['\\', 't']
  else if c == '\n' then ['\\', 'n']
  else if c.toNat = 0x0C then ['\\', 'f']
  else if c == '\r' then ['\\', 'r']
  else if c.toNat < 0x20 then
    ['\\', 'u', '0', '0', hexDigit (c.toNat / 16), hexDigit (c.toNat % 16)]
  else [c]

/-- The quoted text of a JSON string. -/
def jsonString (text : String) : String :=
  String.ofList (['"'] ++ text.toList.flatMap escapeJsonChar ++ ['"'])

/-- The compact text of an object with rendered field values. -/
def jsonObject (fields : List (String × String)) : String :=
  "\x7b"
  ++ ",".intercalate (fields.map (fun field => jsonString field.1 ++ ":" ++ field.2))
  ++ "\x7d"

@[simp]
theorem jsonString_toList (text : String)
    : (jsonString text).toList = '"' :: (text.toList.flatMap escapeJsonChar ++ ['"']) := by
  unfold jsonString
  rw [String.toList_ofList, List.append_assoc]
  rfl

/-- The text of an object with two fields. -/
theorem jsonObject_pair_toList (name name' value value' : String)
    : (jsonObject [(name, value), (name', value')]).toList
      = '\x7b' :: (jsonString name).toList
        ++ ':' :: value.toList
        ++ ',' :: (jsonString name').toList
        ++ ':' :: value'.toList
        ++ ['\x7d'] := by
  unfold jsonObject
  simp [String.intercalate_cons_cons]

/-- Characters that JSON does not escape stay as they are. -/
theorem flatMap_escapeJsonChar_replicate {c : Char} (plain : escapeJsonChar c = [c])
    (count : Nat)
    : (List.replicate count c).flatMap escapeJsonChar = List.replicate count c := by
  induction count with
  | zero => rfl
  | succ count ih =>
      rw [List.replicate_succ, List.flatMap_cons, plain, ih]
      rfl

end Intellisphere.Foundation
