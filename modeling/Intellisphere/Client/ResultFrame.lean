import Intellisphere.Client.Sanitisation

/-! What the guardrails leave alone: the data of a result without redacted properties, and its
other fields. Once a property is redacted anywhere, data are copied property by property into
a new object, which turns an array into an object and loses a property named `__proto__`.
-/

namespace Intellisphere.Client

open Intellisphere.Foundation Intellisphere.Foundation.Js

/-- The value can be written, in no more bytes than the limit in force. -/
def SatelliteGuardrails.Admits (guardrails : SatelliteGuardrails) (platform : Platform)
    (tool : EdgeTool) (value : Value)
    : Prop :=
  ∃ json,
    stringify value = .ok json
    ∧ (guardrails.maxBytes tool).lt (.finite (platform.byteLength json)) = false

/-- No property of an object is redacted. -/
def Unredacted (config : GuardrailsConfig) : Value → Prop
  | .object fields => ∀ field ∈ fields, field.1 ∉ config.redactedAttributes.getD []
  | _ => True

/-- A copy of the properties is the value again: it is no array, and what it has under
`__proto__`, if anything, is not written.
-/
def SurvivesCopy : Value → Prop
  | .array _ => False
  | .object fields => ∀ field ∈ fields, field.1 = "__proto__" → field.2.isLeftOut = true
  | _ => True

/-- The sanitised result has data that are written like the original ones, and the other
fields of the original.
-/
structure SaysTheSame (original sanitised : Value) : Prop where
  data : stringify (sanitised.get "data") = stringify (dataOf original)
  success : sanitised.get "success" = original.get "success"
  error : sanitised.get "error" = original.get "error"
  trustCost : sanitised.get "trustCost" = original.get "trustCost"
  durationMs : sanitised.get "durationMs" = original.get "durationMs"

-----------------------------------------------------------------------------------------
-- Copying properties
-----------------------------------------------------------------------------------------

/-- Of some properties no more is written than of all, and the same exactly when the others
are left out anyway. By induction on the properties.
-/
theorem stringifyFields_filter (keep : String × Value → Bool) {fields : List (String × Value)}
    {json : List (String × Json)} (written : stringifyFields fields = .ok json)
    : ∃ kept,
        stringifyFields (fields.filter keep) = .ok kept
        ∧ kept.length ≤ json.length
        ∧ (kept = json
          ↔ ∀ field ∈ fields, keep field = false → field.2.isLeftOut = true) := by
  induction fields generalizing json with
  | nil =>
      obtain rfl := Except.ok.inj written
      exact ⟨[], rfl, Nat.le_refl _, by simp⟩
  | cons field rest ih =>
      obtain ⟨name, value⟩ := field
      rw [stringifyFields] at written
      cases first : stringify value with
      | error message => simp [first, bind, Except.bind] at written
      | ok head =>
          cases others : stringifyFields rest with
          | error message => simp [first, others, bind, Except.bind] at written
          | ok later =>
              simp only [first, others, bind, Except.bind, pure, Except.pure] at written
              obtain rfl := Except.ok.inj written
              obtain ⟨kept, copied, fewer, same⟩ := ih others
              rw [List.forall_mem_cons]
              cases keeps : keep (name, value) with
              | true =>
                  refine ⟨(head.map (fun json => (name, json))).toList ++ kept, ?_, ?_, ?_⟩
                  · rw [List.filter_cons_of_pos keeps, stringifyFields, first, copied]
                    rfl
                  · simpa using fewer
                  · simpa using same
              | false =>
                  rw [List.filter_cons_of_neg (by simp [keeps])]
                  refine ⟨kept, copied, ?_, ?_⟩
                  · rw [List.length_append]
                    omega
                  · rw [← stringify_eq_none_iff, first]
                    cases head with
                    | none => simpa using same
                    | some json =>
                        have longer : kept ≠ (name, json) :: later := by
                          intro equal
                          have lengths := congrArg List.length equal
                          rw [List.length_cons] at lengths
                          omega
                        simpa using longer

/-- An object is written like its copy exactly when it survives the copying, an array never
is.
-/
theorem stripRedacted_writes_iff (guardrails : SatelliteGuardrails) {value : Value}
    (redacting : guardrails.redactedAttributes ≠ []) (accepted : value.isRefused = false)
    (compound : (value.typeof = "object" && !value.isNullish) = true)
    (unredacted
      : ∀ fields,
          value = .object fields
          → ∀ field ∈ fields, field.1 ∉ guardrails.redactedAttributes)
    : stringify (guardrails.stripRedacted value) = stringify value ↔ SurvivesCopy value := by
  have copied
      : guardrails.stripRedacted value
        = .object
            ((entries value).filter
              (fun entry =>
                entry.1 ∉ guardrails.redactedAttributes ∧ entry.1 ≠ "__proto__")) := by
    simp [SatelliteGuardrails.stripRedacted, redacting]
  cases value with
  | array items =>
      obtain ⟨json, written⟩ : ∃ json, stringifyItems items = .ok json := by
        rw [stringifyItems_ok_iff]
        exact accepted
      rw [stringify_array written, copied, stringify]
      simp only [SurvivesCopy, iff_false]
      cases stringifyFields _ <;> simp [bind, Except.bind, pure, Except.pure]
  | object fields =>
      obtain ⟨json, written⟩ : ∃ json, stringifyFields fields = .ok json := by
        rw [stringifyFields_ok_iff]
        exact accepted
      obtain ⟨kept, filtered, -, same⟩ :=
        stringifyFields_filter
          (fun entry => entry.1 ∉ guardrails.redactedAttributes ∧ entry.1 ≠ "__proto__")
          written
      rw [copied, entries, stringify_object filtered, stringify_object written]
      simp only [Except.ok.injEq, Option.some.injEq, Json.obj.injEq]
      rw [same]
      have dropped : ∀ field ∈ fields, field.1 ∉ guardrails.redactedAttributes :=
        unredacted fields rfl
      refine ⟨fun leftOut field member named => ?_, fun leftOut field member gone => ?_⟩
      · exact leftOut field member (by simp [named])
      · exact leftOut field member (by simpa [dropped field member] using gone)
  | circular => simp [Value.isRefused] at accepted
  | _ => simp [Value.typeof, Value.isNullish] at compound

-----------------------------------------------------------------------------------------
-- What is sent and what was there
-----------------------------------------------------------------------------------------

/-- Without redacted properties the data are sent as they are written exactly if nothing is
ever redacted or they survive copying.
-/
theorem resultData_writes_iff (config : GuardrailsConfig) {result : Value}
    (accepted : (dataOf result).isRefused = false)
    (unredacted : Unredacted config (dataOf result))
    : stringify ((SatelliteGuardrails.new config).resultData result)
        = stringify (dataOf result)
      ↔ config.redactedAttributes.getD [] = [] ∨ SurvivesCopy (dataOf result) := by
  unfold SatelliteGuardrails.resultData
  dsimp only
  generalize dataOf result = data at accepted unredacted ⊢
  by_cases redacting : (SatelliteGuardrails.new config).redactedAttributes = []
  · have same : (SatelliteGuardrails.new config).stripRedacted data = data := by
      simp [SatelliteGuardrails.stripRedacted, redacting]
    simp only [same, ite_self, true_iff]
    exact .inl redacting
  · have never : ¬config.redactedAttributes.getD [] = [] := redacting
    split
    next compound =>
      rw [stripRedacted_writes_iff _ redacting accepted compound]
      · simp [never]
      · intro fields equal
        subst equal
        exact unredacted
    next simple =>
      cases data <;> simp_all [SurvivesCopy, Value.typeof, Value.isNullish]

/-- A property that a value does not have is undefined. -/
theorem get_of_not_own {value : Value} {name : String} (absent : name ∉ ownKeys value)
    : value.get name = .undefined := by
  cases value with
  | object fields =>
      have missing : fields.lookup name = none := by
        rw [List.lookup_eq_none_iff]
        intro field member
        have other : name ≠ field.1 := fun equal =>
          absent (equal ▸ List.mem_map_of_mem member)
        simpa using other
      simp [Value.get, missing]
  | _ => rfl

/-- A result within the limit in force keeps all its other fields. -/
theorem sanitiseResult_of_fits (guardrails : SatelliteGuardrails) (platform : Platform)
    (result : Value) (tool : EdgeTool) {json : Option Json}
    (present : result.isNullish = false)
    (written : stringify (guardrails.resultData result) = .ok json)
    (fits : (guardrails.maxBytes tool).lt (.finite (platform.byteLength json)) = false)
    (same : stringify (guardrails.resultData result) = stringify (dataOf result))
    : ∃ sanitised,
        guardrails.sanitiseResult platform result tool = .ok sanitised
        ∧ SaysTheSame result sanitised := by
  let sanitised : Value :=
    .object
      [
        ("success", result.get "success"),
        ("data", guardrails.resultData result),
        ("error", result.get "error"),
        ("trustCost", result.get "trustCost"),
        ("durationMs", result.get "durationMs")
      ]
  have returned : guardrails.sanitiseResult platform result tool = .ok sanitised := by
    simp [SatelliteGuardrails.sanitiseResult, present, written, fits, bind, Except.bind, pure,
      Except.pure, sanitised]
  exact ⟨sanitised, returned, same, rfl, rfl, rfl, rfl⟩

/-- A result whose data fit the limit in force, without redacted properties, comes out of the
guardrails with data that are written as before and with its other fields exactly if nothing
is ever redacted or the data survive copying.
-/
theorem sanitiseResult_frame_iff (config : GuardrailsConfig) (platform : Platform)
    (result : Value) (tool : EdgeTool) (present : result.isNullish = false)
    (unredacted : Unredacted config (dataOf result))
    (fits : (SatelliteGuardrails.new config).Admits platform tool (dataOf result))
    : (∃ sanitised,
        (SatelliteGuardrails.new config).sanitiseResult platform result tool = .ok sanitised
        ∧ SaysTheSame result sanitised)
      ↔ config.redactedAttributes.getD [] = [] ∨ SurvivesCopy (dataOf result) := by
  obtain ⟨json, written, within⟩ := fits
  have accepted : (dataOf result).isRefused = false :=
    (stringify_ok_iff _).mp ⟨json, written⟩
  refine ⟨fun ⟨sanitised, returned, same⟩ => ?_, fun survives => ?_⟩
  · obtain ⟨sent, sentWritten⟩ :=
      (stringify_ok_iff _).mpr
        (resultData_notRefused (SatelliteGuardrails.new config) accepted)
    obtain ⟨also, returnedAlso, shape⟩ :=
      sanitiseResult_spec (SatelliteGuardrails.new config) platform result tool present
        sentWritten
    obtain rfl := Except.ok.inj (returnedAlso.symm.trans returned)
    split at shape
    next exceeded =>
      -- a failure has no data, so there were none to write
      have nothing := same.data
      rw [get_of_not_own shape.1, eq_comm] at nothing
      have leftOut := (stringify_eq_none_iff _).mp nothing
      refine .inr ?_
      generalize dataOf result = data at leftOut
      cases data <;> simp_all [SurvivesCopy, Value.isLeftOut]
    next =>
      rw [← resultData_writes_iff config accepted unredacted, ← shape.2]
      exact same.data
  · have same := (resultData_writes_iff config accepted unredacted).mpr survives
    exact
      sanitiseResult_of_fits (SatelliteGuardrails.new config) platform result tool present
        (same.trans written) within same

/-- A platform that writes lists of strings and objects of strings. -/
def listsPlatform : Platform where
  json := {
    stringify
      | .arr items =>
          "[" ++ ",".intercalate (items.map (fun item => jsonString (item.asStr.getD "")))
            ++ "]"
      | json => stringsText json
    parse := fun _ => none
  }
  numberText := fun _ => "0"

/-- A result whose data are a list of one name. -/
def listResult : Value :=
  .object
    [
      ("success", .bool true),
      ("data", .array [.string "ada"]),
      ("trustCost", .number (.finite 0)),
      ("durationMs", .number (.finite 0))
    ]

/-- Within a thousand bytes, a user without anything secret stays as it is. -/
theorem sanitiseResult_frame_iff_name
    : ∃ sanitised,
        (SatelliteGuardrails.new (secretConfig (.finite 1000))).sanitiseResult
            stringsPlatform (.object [("data", .object [("user", .string "ada")])]) countTool
          = .ok sanitised
        ∧ SaysTheSame (.object [("data", .object [("user", .string "ada")])]) sanitised :=
  (sanitiseResult_frame_iff (secretConfig (.finite 1000)) stringsPlatform
    (.object [("data", .object [("user", .string "ada")])]) countTool rfl
    (by simp [Unredacted, dataOf, Value.get, secretConfig]) ⟨_, rfl, by decide +kernel⟩).mpr
    (.inr (by simp [SurvivesCopy, dataOf, Value.get]))

/-- Where secrets are redacted, a list of one name becomes an object. -/
theorem sanitiseResult_list
    : ¬∀ (config : GuardrailsConfig) (platform : Platform) (result : Value) (tool : EdgeTool),
        result.isNullish = false
        → Unredacted config (dataOf result)
        → (SatelliteGuardrails.new config).Admits platform tool (dataOf result)
        → ∃ sanitised,
            (SatelliteGuardrails.new config).sanitiseResult platform result tool
              = .ok sanitised
            ∧ SaysTheSame result sanitised := by
  intro frame
  obtain ⟨sanitised, returned, same⟩ :=
    frame (secretConfig (.finite 1000)) listsPlatform listResult countTool rfl trivial
      ⟨_, rfl, by decide +kernel⟩
  have sent
      : stringify ((SatelliteGuardrails.new (secretConfig (.finite 1000))).resultData
          listResult)
        = .ok (some (.obj [("0", .str "ada")])) := by
    rfl
  obtain ⟨also, returnedAlso, shape⟩ :=
    sanitiseResult_spec (SatelliteGuardrails.new (secretConfig (.finite 1000)))
      listsPlatform listResult countTool rfl sent
  obtain rfl := Except.ok.inj (returnedAlso.symm.trans returned)
  rw [if_neg (by decide +kernel)] at shape
  have data := same.data
  rw [shape.2, sent] at data
  have array : stringify (dataOf listResult) = .ok (some (.arr [.str "ada"])) := rfl
  rw [array] at data
  simp at data

end Intellisphere.Client
