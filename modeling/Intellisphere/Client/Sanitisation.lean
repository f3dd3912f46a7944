import Intellisphere.Client.ToolProposal
import Mathlib.Algebra.Order.Field.Rat
import Mathlib.Tactic.Linarith

/-! What the guardrails let through of a result: no redacted property, and no more bytes than
the limits allow. A global limit of zero is taken for none.
-/

namespace Intellisphere.Client

open Intellisphere.Foundation Intellisphere.Foundation.Js

/-- The names of a value's own properties. -/
def ownKeys (value : Value) : List String :=
  (entries value).map Prod.fst

/-- The text of the value in JSON has no more bytes than the limit. -/
def Platform.FitsIn (platform : Platform) (value : Value) (limit : Number) : Prop :=
  ∃ json,
    stringify value = .ok json
    ∧ (Number.finite (platform.byteLength json)).le limit = true

/-- A sanitised result carries data without redacted properties and within both limits, or
it is a failure without data.
-/
inductive SafelySanitised (config : GuardrailsConfig) (platform : Platform) (tool : EdgeTool)
    (sanitised : Value) : Prop where
  | data (carried : "data" ∈ ownKeys sanitised)
    (clean
      : ∀ key ∈ ownKeys (sanitised.get "data"), key ∉ config.redactedAttributes.getD [])
    (withinTool : platform.FitsIn (sanitised.get "data") tool.edge.maxResultBytes)
    (withinGlobal
      : ∀ limit ∈ config.globalMaxResultBytes,
          platform.FitsIn (sanitised.get "data") limit)
  | failure (absent : "data" ∉ ownKeys sanitised)
    (failed : sanitised.get "success" = .bool false)

/-- The data without redacted properties take no bytes, or more than the tool's own limit. -/
def SizeDecided (config : GuardrailsConfig) (platform : Platform) (result : Value)
    (tool : EdgeTool) : Prop :=
  ∃ json,
    stringify ((SatelliteGuardrails.new config).resultData result) = .ok json
    ∧ (platform.byteLength json = 0
      ∨ tool.edge.maxResultBytes.lt (.finite (platform.byteLength json)) = true)

/-- The limit of the tool is a number, and a global limit of zero makes no difference. -/
structure LimitsSeen (config : GuardrailsConfig) (platform : Platform) (result : Value)
    (tool : EdgeTool) : Prop where
  toolLimit : tool.edge.maxResultBytes ≠ .nan
  globalZero
    : config.globalMaxResultBytes = some (.finite 0)
      → SizeDecided config platform result tool

-----------------------------------------------------------------------------------------
-- Two limits and the smaller of them
-----------------------------------------------------------------------------------------

/-- A size is no more than a limit, unless the limit is less than it or is NaN. -/
theorem finite_le_iff (size : ℚ) (limit : Number)
    : (Number.finite size).le limit = true
      ↔ limit ≠ .nan ∧ limit.lt (.finite size) = false := by
  cases limit with
  | finite bound =>
      simp only [Number.le, Number.lt, Bool.or_eq_true, decide_eq_true_eq,
        Number.finite.injEq, ne_eq, reduceCtorEq, not_false_eq_true, true_and,
        decide_eq_false_iff_not, not_lt]
      exact le_iff_lt_or_eq.symm
  | _ => simp [Number.le, Number.lt]

/-- The smaller of two limits is exceeded when one of them is. -/
theorem min_lt_iff (left right : Number) (size : ℚ) (leftNumber : left ≠ .nan)
    (rightNumber : right ≠ .nan)
    : (Number.min left right).lt (.finite size) = true
      ↔ left.lt (.finite size) = true ∨ right.lt (.finite size) = true := by
  cases left with
  | nan => exact (leftNumber rfl).elim
  | finite first =>
      cases right with
      | nan => exact (rightNumber rfl).elim
      | finite second =>
          by_cases less : second < first
          · have either : first < size → second < size := less.trans
            simpa [Number.min, Number.lt, less] using either
          · have either : second < size → first < size := (not_lt.mp less).trans_lt
            simpa [Number.min, Number.lt, less] using either
      | infinity => simp [Number.min, Number.lt]
      | negInfinity => simp [Number.min, Number.lt]
  | infinity => cases right <;> simp_all [Number.min, Number.lt]
  | negInfinity => cases right <;> simp_all [Number.min, Number.lt]

/-- What is not over the limit in force is within both limits, unless the tool's is NaN or
the global one is zero and left out of account. By cases on the global limit.
-/
theorem withinLimits_iff (guardrails : SatelliteGuardrails) (tool : EdgeTool) (size : Nat)
    (meaningful
      : ∀ limit ∈ guardrails.globalMaxResultBytes, (Number.finite 0).le limit = true)
    : ((guardrails.maxBytes tool).lt (.finite size) = false
        → (Number.finite size).le tool.edge.maxResultBytes = true
          ∧ ∀ limit ∈ guardrails.globalMaxResultBytes,
              (Number.finite size).le limit = true)
      ↔ tool.edge.maxResultBytes ≠ .nan
        ∧ (guardrails.globalMaxResultBytes = some (.finite 0)
          → size = 0 ∨ tool.edge.maxResultBytes.lt (.finite size) = true) := by
  by_cases toolLimit : tool.edge.maxResultBytes = .nan
  · have unlimited : guardrails.maxBytes tool = .nan := by
      unfold SatelliteGuardrails.maxBytes
      rw [toolLimit]
      cases guardrails.globalMaxResultBytes with
      | none => rfl
      | some limit => dsimp only; split <;> rfl
    simp [unlimited, toolLimit, finite_le_iff, Number.lt]
  · cases globalLimit : guardrails.globalMaxResultBytes with
    | none =>
        simp [SatelliteGuardrails.maxBytes, globalLimit, toolLimit, finite_le_iff]
    | some limit =>
        have number : limit ≠ .nan := by
          intro nan
          simpa [nan, Number.le, Number.lt] using meaningful limit globalLimit
        by_cases zero : limit = .finite 0
        · subst zero
          have ignored : guardrails.maxBytes tool = tool.edge.maxResultBytes := by
            simp [SatelliteGuardrails.maxBytes, globalLimit]
          have nothing : (Number.finite 0).lt (.finite size) = false ↔ size = 0 := by
            simp [Number.lt]
          rw [ignored]
          cases exceeded : tool.edge.maxResultBytes.lt (.finite size) <;>
            simp [finite_le_iff, exceeded, toolLimit, nothing]
        · have smaller
              : guardrails.maxBytes tool = Number.min tool.edge.maxResultBytes limit := by
            simp [SatelliteGuardrails.maxBytes, globalLimit, zero, number]
          have exceeded := min_lt_iff tool.edge.maxResultBytes limit size toolLimit number
          rw [smaller, ← Bool.not_eq_true, exceeded]
          simp [finite_le_iff, toolLimit, number, zero]

-----------------------------------------------------------------------------------------
-- Dropping the redacted properties
-----------------------------------------------------------------------------------------

/-- The properties of a value are not refused if the value is not. -/
theorem entries_notRefused {value : Value} (accepted : value.isRefused = false)
    : ∀ entry ∈ entries value, entry.2.isRefused = false := by
  intro entry member
  cases value with
  | object fields =>
      rw [Value.isRefused, anyFieldRefused_eq_any, List.any_eq_false] at accepted
      simpa using accepted entry member
  | array items =>
      rw [Value.isRefused, anyRefused_eq_any, List.any_eq_false] at accepted
      obtain ⟨item, indexed, rfl⟩ := List.mem_map.mp member
      simpa using accepted item.1 (List.fst_mem_of_mem_zipIdx indexed)
  | _ => simp [entries] at member

theorem stripRedacted_notRefused (guardrails : SatelliteGuardrails) {value : Value}
    (accepted : value.isRefused = false)
    : (guardrails.stripRedacted value).isRefused = false := by
  unfold SatelliteGuardrails.stripRedacted
  split
  · exact accepted
  · rw [Value.isRefused, anyFieldRefused_eq_any, List.any_eq_false]
    intro entry member
    simpa using entries_notRefused accepted entry (List.mem_filter.mp member).1

/-- No redacted property is left. -/
theorem stripRedacted_clean (guardrails : SatelliteGuardrails) (value : Value)
    : ∀ key ∈ ownKeys (guardrails.stripRedacted value),
        key ∉ guardrails.redactedAttributes := by
  intro key member
  unfold SatelliteGuardrails.stripRedacted at member
  split at member
  next none => simp [List.isEmpty_iff.mp none]
  next =>
    obtain ⟨entry, kept, rfl⟩ := List.mem_map.mp member
    exact (of_decide_eq_true (List.mem_filter.mp kept).2).1

theorem resultData_notRefused (guardrails : SatelliteGuardrails) {result : Value}
    (accepted : (dataOf result).isRefused = false)
    : (guardrails.resultData result).isRefused = false := by
  unfold SatelliteGuardrails.resultData
  dsimp only
  split
  · exact stripRedacted_notRefused guardrails accepted
  · exact accepted

/-- Only objects have properties, and those are stripped. -/
theorem resultData_clean (guardrails : SatelliteGuardrails) (result : Value)
    : ∀ key ∈ ownKeys (guardrails.resultData result),
        key ∉ guardrails.redactedAttributes := by
  unfold SatelliteGuardrails.resultData
  dsimp only
  split
  · exact stripRedacted_clean guardrails (dataOf result)
  next simple =>
    generalize dataOf result = data at simple
    cases data <;> simp_all [ownKeys, entries, Value.typeof, Value.isNullish]

-----------------------------------------------------------------------------------------
-- Both ways of returning
-----------------------------------------------------------------------------------------

/-- A result whose data are too large becomes a failure without data, and every other one
keeps its data.
-/
theorem sanitiseResult_spec (guardrails : SatelliteGuardrails) (platform : Platform)
    (result : Value) (tool : EdgeTool) {json : Option Json}
    (present : result.isNullish = false)
    (written : stringify (guardrails.resultData result) = .ok json)
    : ∃ sanitised,
        guardrails.sanitiseResult platform result tool = .ok sanitised
        ∧ if (guardrails.maxBytes tool).lt (.finite (platform.byteLength json)) = true then
            "data" ∉ ownKeys sanitised ∧ sanitised.get "success" = .bool false
          else
            "data" ∈ ownKeys sanitised
            ∧ sanitised.get "data" = guardrails.resultData result := by
  cases exceeded : (guardrails.maxBytes tool).lt (.finite (platform.byteLength json)) <;>
    simp [SatelliteGuardrails.sanitiseResult, present, written, exceeded, bind, Except.bind,
      pure, Except.pure, ownKeys, entries, Value.get, List.lookup_cons]

theorem Platform.fitsIn_iff {platform : Platform} {value : Value} {json : Option Json}
    (written : stringify value = .ok json) (limit : Number)
    : platform.FitsIn value limit
      ↔ (Number.finite (platform.byteLength json)).le limit = true := by
  simp [Platform.FitsIn, written]

-----------------------------------------------------------------------------------------
-- When what is let through is safe
-----------------------------------------------------------------------------------------

/-- A sanitised result with its data is safe exactly when they are within both limits. -/
theorem safelySanitised_iff_of_carried {config : GuardrailsConfig} {platform : Platform}
    {tool : EdgeTool} {result sanitised : Value} {json : Option Json}
    (written : stringify ((SatelliteGuardrails.new config).resultData result) = .ok json)
    (carried : "data" ∈ ownKeys sanitised)
    (data : sanitised.get "data" = (SatelliteGuardrails.new config).resultData result)
    : SafelySanitised config platform tool sanitised
      ↔ (Number.finite (platform.byteLength json)).le tool.edge.maxResultBytes = true
        ∧ ∀ limit ∈ config.globalMaxResultBytes,
            (Number.finite (platform.byteLength json)).le limit = true := by
  refine ⟨fun safe => ?_, fun ⟨own, shared⟩ => ?_⟩
  · cases safe with
    | data _ _ withinTool withinGlobal =>
        rw [data] at withinTool withinGlobal
        simp only [Platform.fitsIn_iff written] at withinTool withinGlobal
        exact ⟨withinTool, withinGlobal⟩
    | failure absent _ => exact (absent carried).elim
  · refine .data carried ?_ ?_ ?_ <;> rw [data]
    · exact resultData_clean (SatelliteGuardrails.new config) result
    · exact (Platform.fitsIn_iff written _).mpr own
    · exact fun limit member => (Platform.fitsIn_iff written _).mpr (shared limit member)

/-- What is returned is safe exactly when data that are not too large for the limit in force
are within both limits. By cases on the two ways of returning.
-/
theorem sanitiseResult_safe_iff_within {config : GuardrailsConfig} {platform : Platform}
    {tool : EdgeTool} {result : Value} {json : Option Json}
    (present : result.isNullish = false)
    (written : stringify ((SatelliteGuardrails.new config).resultData result) = .ok json)
    : (∃ sanitised,
        (SatelliteGuardrails.new config).sanitiseResult platform result tool = .ok sanitised
        ∧ SafelySanitised config platform tool sanitised)
      ↔ (((SatelliteGuardrails.new config).maxBytes tool).lt
              (.finite (platform.byteLength json))
            = false
          → (Number.finite (platform.byteLength json)).le tool.edge.maxResultBytes = true
            ∧ ∀ limit ∈ config.globalMaxResultBytes,
                (Number.finite (platform.byteLength json)).le limit = true) := by
  obtain ⟨sanitised, returned, shape⟩ :=
    sanitiseResult_spec (SatelliteGuardrails.new config) platform result tool present written
  have outcome
      : (∃ sanitised,
          (SatelliteGuardrails.new config).sanitiseResult platform result tool
            = .ok sanitised
          ∧ SafelySanitised config platform tool sanitised)
        ↔ SafelySanitised config platform tool sanitised := by
    simp [returned]
  rw [outcome]
  split at shape
  next exceeded =>
    simp only [exceeded, reduceCtorEq, false_implies, iff_true]
    exact .failure shape.1 shape.2
  next fits =>
    simp only [fits, true_implies]
    exact safelySanitised_iff_of_carried written shape.1 shape.2

/-- A result that can be written is sanitised to data without redacted properties and within
both limits, or to a failure without data, exactly if a global limit of zero makes no
difference and the tool's own limit is a number.
-/
theorem sanitiseResult_safe_iff (config : GuardrailsConfig) (platform : Platform)
    (result : Value) (tool : EdgeTool) (present : result.isNullish = false)
    (accepted : (dataOf result).isRefused = false)
    (meaningful
      : ∀ limit ∈ config.globalMaxResultBytes, (Number.finite 0).le limit = true)
    : (∃ sanitised,
        (SatelliteGuardrails.new config).sanitiseResult platform result tool = .ok sanitised
        ∧ SafelySanitised config platform tool sanitised)
      ↔ LimitsSeen config platform result tool := by
  obtain ⟨json, written⟩ :=
    (stringify_ok_iff _).mpr
      (resultData_notRefused (SatelliteGuardrails.new config) accepted)
  have decided
      : SizeDecided config platform result tool
        ↔ platform.byteLength json = 0
          ∨ tool.edge.maxResultBytes.lt (.finite (platform.byteLength json)) = true := by
    simp [SizeDecided, written]
  have limits
      : LimitsSeen config platform result tool
        ↔ tool.edge.maxResultBytes ≠ .nan
          ∧ (config.globalMaxResultBytes = some (.finite 0)
            → SizeDecided config platform result tool) :=
    ⟨fun seen => ⟨seen.toolLimit, seen.globalZero⟩, fun ⟨own, zero⟩ => ⟨own, zero⟩⟩
  rw [sanitiseResult_safe_iff_within present written, limits, decided]
  exact
    withinLimits_iff (SatelliteGuardrails.new config) tool (platform.byteLength json)
      meaningful

/-- A platform that writes objects of strings. -/
def stringsPlatform : Platform where
  json := {
    stringify := stringsText
    parse := fun _ => none
  }
  numberText := fun _ => "0"

/-- A result with a name and a secret. -/
def userResult : Value :=
  .object
    [
      ("success", .bool true),
      ("data", .object [("user", .string "ada"), ("secret", .string "x")]),
      ("trustCost", .number (.finite 0)),
      ("durationMs", .number (.finite 0))
    ]

/-- Guardrails that keep secrets and have a global limit. -/
def secretConfig (limit : Number) : GuardrailsConfig where
  allowedTools := ["count"]
  redactedAttributes := some ["secret"]
  globalMaxResultBytes := some limit

/-- Within fourteen bytes the name is let through and the secret is not. -/
theorem sanitiseResult_safe_iff_user
    : ∃ sanitised,
        (SatelliteGuardrails.new (secretConfig (.finite 14))).sanitiseResult stringsPlatform
            userResult countTool
          = .ok sanitised
        ∧ SafelySanitised (secretConfig (.finite 14)) stringsPlatform countTool sanitised :=
  (sanitiseResult_safe_iff (secretConfig (.finite 14)) stringsPlatform userResult countTool
    rfl (by decide) (by simp [secretConfig, Number.le, Number.lt])).mpr
    ⟨by simp [countTool], by simp [secretConfig]⟩

/-- Under a global limit of zero bytes, fourteen bytes are let through. -/
theorem sanitiseResult_zeroLimit
    : ¬∀ (config : GuardrailsConfig) (platform : Platform) (result : Value) (tool : EdgeTool),
        result.isNullish = false
        → (dataOf result).isRefused = false
        → (∀ limit ∈ config.globalMaxResultBytes, (Number.finite 0).le limit = true)
        → ∃ sanitised,
            (SatelliteGuardrails.new config).sanitiseResult platform result tool
              = .ok sanitised
            ∧ SafelySanitised config platform tool sanitised := by
  intro safe
  obtain ⟨sanitised, returned, safely⟩ :=
    safe (secretConfig (.finite 0)) stringsPlatform userResult countTool rfl (by decide)
      (by simp [secretConfig, Number.le])
  have written
      : stringify ((SatelliteGuardrails.new (secretConfig (.finite 0))).resultData userResult)
        = .ok (some (.obj [("user", .str "ada")])) := by
    rfl
  obtain ⟨same, also, shape⟩ :=
    sanitiseResult_spec (SatelliteGuardrails.new (secretConfig (.finite 0))) stringsPlatform
      userResult countTool rfl written
  obtain rfl := Except.ok.inj (also.symm.trans returned)
  rw [if_neg (by decide +kernel)] at shape
  cases safely with
  | data _ _ _ withinGlobal =>
      have within := withinGlobal (.finite 0) rfl
      rw [shape.2, Platform.fitsIn_iff written] at within
      exact absurd within (by decide +kernel)
  | failure absent _ => exact absent shape.1

end Intellisphere.Client
