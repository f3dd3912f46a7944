import Intellisphere.Core.Status
import Mathlib.Data.List.Infix

/-! The gRPC code of a failure that the provider reported with an HTTP status. The code depends
on what else the text mentions, and few of the server errors are listed.
-/

namespace Intellisphere.Core

open Intellisphere.Foundation

/-- The text mentions the pattern. -/
def Mentions (errMsg : GoString) (pattern : String) : Prop :=
  contains errMsg (utf8Bytes pattern) = true

/-- The text of an error that names an HTTP status. -/
def errorText (start : GoString) (httpStatus : Nat) (rest : GoString) : GoString :=
  start ++ utf8Bytes (toString httpStatus) ++ rest

/-- The code the error contract gives an HTTP status. -/
def contractCode (httpStatus : Nat) : Code :=
  if httpStatus = 401 then .unauthenticated
  else if httpStatus = 429 then .resourceExhausted
  else .unavailable

/-- The text mentions one of the patterns. -/
def MentionsAny (errMsg : GoString) (patterns : List String) : Prop :=
  ∃ pattern ∈ patterns, Mentions errMsg pattern

/-- What the text must be like for the contract: it mentions a rate limit only for status 429,
and for a server error nothing of authentication or a time limit, but one of the three server
errors that are listed.
-/
def Unmistakable (httpStatus : Nat) (errMsg : GoString) : Prop :=
  httpStatus = 429
  ∨ (¬MentionsAny errMsg ["rate limit", "429"]
    ∧ (httpStatus = 401
      ∨ (¬MentionsAny errMsg
            ["unauthorized", "401", "invalid api key", "timeout", "deadline"]
        ∧ MentionsAny errMsg ["500", "502", "503"])))

/-- The search finds exactly the parts of a text. -/
theorem contains_iff (s substr : GoString) : contains s substr = true ↔ substr <:+: s := by
  have lower : containsLower s substr = true ↔ substr <:+: s := by
    simp only [containsLower, List.any_eq_true, List.mem_range, beq_iff_eq]
    refine ⟨?_, ?_⟩
    · intro found
      obtain ⟨i, _, same⟩ := found
      have part :=
        (List.take_prefix substr.length _).isInfix.trans (List.drop_suffix i s).isInfix
      rwa [same] at part
    · intro inside
      obtain ⟨left, right, rfl⟩ := inside
      refine ⟨left.length, ?_, by simp⟩
      simp only [List.length_append]
      omega
  simp only [contains, Bool.and_eq_true, Bool.or_eq_true, decide_eq_true_eq, beq_iff_eq, lower]
  refine ⟨?_, ?_⟩
  · intro found
    rcases found.2 with rfl | ⟨_, inside⟩
    · exact List.infix_rfl
    · exact inside
  · intro inside
    refine ⟨inside.length_le, ?_⟩
    cases s with
    | nil => exact .inl (List.infix_nil.mp inside).symm
    | cons byte rest => exact .inr ⟨by simp, inside⟩

/-- The text mentions the status it names. -/
theorem mentions_errorText (start rest : GoString) (httpStatus : Nat)
    : Mentions (errorText start httpStatus rest) (toString httpStatus) := by
  rw [Mentions, contains_iff]
  exact ⟨start, rest, rfl⟩

instance (errMsg : GoString) (patterns : List String)
    : Decidable (MentionsAny errMsg patterns) :=
  List.decidableBEx (fun pattern => contains errMsg (utf8Bytes pattern) = true) patterns

/-- The code is that of the first group of patterns the text mentions one of. -/
theorem mapAdapterError_code (errMsg : GoString)
    : (mapAdapterError errMsg).code
      = if MentionsAny errMsg ["rate limit", "429"] then .resourceExhausted
        else if MentionsAny errMsg ["unauthorized", "401", "invalid api key"] then
          .unauthenticated
        else if MentionsAny errMsg ["timeout", "deadline"] then .deadlineExceeded
        else if MentionsAny errMsg ["500", "502", "503"] then .unavailable
        else .internal := by
  simp only [mapAdapterError, MentionsAny, Mentions, List.exists_mem_cons_iff,
    List.not_mem_nil, false_and, exists_const, or_false, Bool.or_eq_true, or_assoc]

theorem mentionsAny_append (errMsg : GoString) (patterns others : List String)
    : MentionsAny errMsg (patterns ++ others)
      ↔ MentionsAny errMsg patterns ∨ MentionsAny errMsg others := by
  simp only [MentionsAny, List.mem_append, or_and_right, exists_or]

/-- The code of an error that names a failing status is that of the contract exactly if its text
is unmistakable.
-/
theorem mapAdapterError_code_iff (start rest : GoString) (httpStatus : Nat)
    (failing : httpStatus = 401 ∨ httpStatus = 429 ∨ 500 ≤ httpStatus)
    : (mapAdapterError (errorText start httpStatus rest)).code = contractCode httpStatus
      ↔ Unmistakable httpStatus (errorText start httpStatus rest) := by
  have named := mentions_errorText start rest httpStatus
  generalize errorText start httpStatus rest = errMsg at named ⊢
  have others
      : MentionsAny errMsg ["unauthorized", "401", "invalid api key", "timeout", "deadline"]
        ↔ MentionsAny errMsg ["unauthorized", "401", "invalid api key"]
          ∨ MentionsAny errMsg ["timeout", "deadline"] :=
    mentionsAny_append errMsg ["unauthorized", "401", "invalid api key"]
      ["timeout", "deadline"]
  rw [mapAdapterError_code, Unmistakable]
  rcases failing with rfl | rfl | server
  · have key : MentionsAny errMsg ["unauthorized", "401", "invalid api key"] :=
      ⟨"401", by simp, named⟩
    by_cases limit : MentionsAny errMsg ["rate limit", "429"]
    · simp [limit, contractCode]
    · simp [limit, key, contractCode]
  · have limit : MentionsAny errMsg ["rate limit", "429"] := ⟨"429", by simp, named⟩
    simp [limit, contractCode]
  · have unavailable : contractCode httpStatus = .unavailable := by
      rw [contractCode, if_neg (by omega), if_neg (by omega)]
    have first : httpStatus ≠ 429 := by omega
    have second : httpStatus ≠ 401 := by omega
    simp only [unavailable, first, second, false_or]
    by_cases limit : MentionsAny errMsg ["rate limit", "429"]
    · simp [limit]
    · by_cases key : MentionsAny errMsg ["unauthorized", "401", "invalid api key"]
      · have mentioned := others.mpr (.inl key)
        simp [limit, key, mentioned]
      · by_cases time : MentionsAny errMsg ["timeout", "deadline"]
        · have mentioned := others.mpr (.inr time)
          simp [limit, key, time, mentioned]
        · have silent := mt others.mp (not_or_intro key time)
          by_cases listed : MentionsAny errMsg ["500", "502", "503"]
          · simp [limit, key, time, silent, listed]
          · simp [limit, key, time, silent, listed]

/-- A plain server error is unavailable. -/
theorem mapAdapterError_code_iff_plain
    : (mapAdapterError (errorText (utf8Bytes "HTTP ") 503 (utf8Bytes " unavailable"))).code
      = .unavailable :=
  (mapAdapterError_code_iff (utf8Bytes "HTTP ") (utf8Bytes " unavailable") 503
    (.inr (.inr (by decide)))).mpr
    (.inr ⟨by decide +kernel, .inr ⟨by decide +kernel, by decide +kernel⟩⟩)

/-- A gateway that times out with status 504 is not unavailable. -/
theorem mapAdapterError_gatewayTimeout
    : ¬∀ (start rest : GoString) (httpStatus : Nat),
        httpStatus = 401 ∨ httpStatus = 429 ∨ 500 ≤ httpStatus
        → (mapAdapterError (errorText start httpStatus rest)).code
          = contractCode httpStatus := by
  intro contract
  have code := contract (utf8Bytes "HTTP ") (utf8Bytes " Gateway Timeout") 504 (by decide)
  exact absurd code (by decide +kernel)

end Intellisphere.Core
