import Intellisphere.Sphere.Tools.Dispatch

/-! How large the results are that go back to the model. Only the result of a handler is cut
at the size limit; an error result quotes a name, a requirement or an error text as it is.
-/

namespace Intellisphere.Sphere

open Intellisphere.Foundation

/-- The bytes a text takes inside a JSON string. -/
def escapedLength (text : String) : Nat :=
  byteLength (text.toList.flatMap escapeJsonChar)

section Quotes

variable (libraries : ToolLibraries) (registry : ToolRegistry) (identity : Option Identity)
  (toolCall : ToolCall)

/-- The error result of the call quotes this text, with so many bytes of fixed text around
it.
-/
inductive Quotes : String → Nat → Prop
  | name (unregistered : registry.get toolCall.name = none) : Quotes toolCall.name 64
  | scope {registration : ToolRegistration} {holder : Identity} {scope : String}
    (registered : registry.get toolCall.name = some registration)
    (held : identity = some holder)
    (missing : firstMissing holder.scopes registration.requiredScopes = some scope)
    : Quotes scope 69
  | role {registration : ToolRegistration} {holder : Identity} {role : String}
    (registered : registry.get toolCall.name = some registration)
    (held : identity = some holder)
    (scopesHeld : firstMissing holder.scopes registration.requiredScopes = none)
    (missing : firstMissing holder.roles registration.requiredRoles = some role)
    : Quotes role 68
  | arguments {registration : ToolRegistration} {message : String}
    (registered : registry.get toolCall.name = some registration)
    (authorized : registration.Authorizes identity)
    (unparsed : libraries.parseJson toolCall.argumentsJson = .error message)
    : Quotes message 85
  | schema {registration : ToolRegistration} {params : Json} {message : String}
    (registered : registry.get toolCall.name = some registration)
    (authorized : registration.Authorizes identity)
    (parsed : libraries.parseJson toolCall.argumentsJson = .ok params)
    (unparsed : libraries.parseJson registration.inputSchemaJson = .error message)
    : Quotes message 87
  | validator {registration : ToolRegistration} {params schema : Json} {message : String}
    (registered : registry.get toolCall.name = some registration)
    (authorized : registration.Authorizes identity)
    (parsed : libraries.parseJson toolCall.argumentsJson = .ok params)
    (schemaParsed : libraries.parseJson registration.inputSchemaJson = .ok schema)
    (uncompiled : libraries.validatorFor schema = .error message)
    : Quotes message 92
  | errors {registration : ToolRegistration} {params schema : Json}
    {iterErrors : Json → List String}
    (registered : registry.get toolCall.name = some registration)
    (authorized : registration.Authorizes identity)
    (parsed : libraries.parseJson toolCall.argumentsJson = .ok params)
    (schemaParsed : libraries.parseJson registration.inputSchemaJson = .ok schema)
    (compiled : libraries.validatorFor schema = .ok iterErrors)
    (found : iterErrors params ≠ [])
    : Quotes ("; ".intercalate (iterErrors params)) 71

end Quotes

/-- The results of a list of calls keep to the size limit. -/
def WithinLimit (results : List ToolResult) : Prop :=
  ∀ result ∈ results, result.resultJson.utf8ByteSize ≤ maxResultSize

-----------------------------------------------------------------------------------------
-- The size of an error result
-----------------------------------------------------------------------------------------

theorem escapedLength_append (first second : String)
    : escapedLength (first ++ second) = escapedLength first + escapedLength second := by
  unfold escapedLength
  rw [String.toList_append, List.flatMap_append, byteLength_append]

/-- A JSON string has two more bytes than its escaped text. -/
theorem byteLength_jsonString (text : String)
    : byteLength (jsonString text).toList = escapedLength text + 2 := by
  have quote : byteLength ['"'] = 1 := by decide
  have quotes : (jsonString text).toList
      = ['"'] ++ text.toList.flatMap escapeJsonChar ++ ['"'] := by
    rw [jsonString_toList]
    rfl
  rw [quotes, byteLength_append, byteLength_append, quote, escapedLength]
  omega

/-- An error result has 25 bytes around its code and message. -/
theorem errorResult_size (callId code message : String)
    : (errorResult callId code message).resultJson.utf8ByteSize
      = escapedLength code + escapedLength message + 25 := by
  have error : escapedLength "error" = 5 := by decide
  have name : escapedLength "message" = 7 := by decide
  have opens : '\x7b'.utf8Size = 1 := by decide
  have closes : '\x7d'.utf8Size = 1 := by decide
  have colon : ':'.utf8Size = 1 := by decide
  have comma : ','.utf8Size = 1 := by decide
  unfold errorResult
  rw [utf8ByteSize_eq, jsonObject_pair_toList]
  simp only [byteLength_append, byteLength, List.cons_append, byteLength_jsonString, error,
    name, opens, closes, colon, comma]
  omega

-----------------------------------------------------------------------------------------
-- What each refusal quotes
-----------------------------------------------------------------------------------------

section Sizes

variable {libraries : ToolLibraries} {registry : ToolRegistry} {executor : ToolExecutor}
  {identity : Option Identity} {toolCall : ToolCall} {registration : ToolRegistration}

theorem checkAuthorization_missingScope {holder : Identity} {scope : String}
    (held : identity = some holder)
    (missing : firstMissing holder.scopes registration.requiredScopes = some scope)
    : checkAuthorization registration identity
      = .error ("Missing required scope: " ++ scope) := by
  have required : registration.requiredScopes.isEmpty = false := by
    cases scopes : registration.requiredScopes with
    | nil => simp [scopes, firstMissing] at missing
    | cons first rest => rfl
  unfold checkAuthorization
  simp only [required, Bool.false_and, Bool.false_eq_true, if_false, held, missing]

theorem checkAuthorization_missingRole {holder : Identity} {role : String}
    (held : identity = some holder)
    (scopesHeld : firstMissing holder.scopes registration.requiredScopes = none)
    (missing : firstMissing holder.roles registration.requiredRoles = some role)
    : checkAuthorization registration identity
      = .error ("Missing required role: " ++ role) := by
  have required : registration.requiredRoles.isEmpty = false := by
    cases roles : registration.requiredRoles with
    | nil => simp [roles, firstMissing] at missing
    | cons first rest => rfl
  unfold checkAuthorization
  simp only [required, Bool.and_false, Bool.false_eq_true, if_false, held, scopesHeld,
    missing]

theorem processCall_denied {message : String} (world : ToolWorld)
    (registered : registry.get toolCall.name = some registration)
    (denied : checkAuthorization registration identity = .error message)
    : processCall libraries registry executor identity world toolCall
      = .ok (errorResult toolCall.callId "AUTHORIZATION_DENIED" message) := by
  unfold processCall
  simp only [registered, denied]

theorem processCall_invalid {message : String} (world : ToolWorld)
    (registered : registry.get toolCall.name = some registration)
    (authorized : registration.Authorizes identity)
    (invalid
      : validateParams libraries toolCall.argumentsJson registration.inputSchemaJson
        = .error message)
    : processCall libraries registry executor identity world toolCall
      = .ok
          (errorResult toolCall.callId "VALIDATION_FAILED"
            ("Parameter validation failed: " ++ message)) := by
  unfold processCall
  simp only [registered, checkAuthorization_ok_iff.mpr authorized, invalid]

/-- The bytes of an authorization error are those of its text and 45 more. -/
theorem denied_size (callId before text : String)
    : (errorResult callId "AUTHORIZATION_DENIED" (before ++ text)).resultJson.utf8ByteSize
      = escapedLength text + (escapedLength before + 45) := by
  have code : escapedLength "AUTHORIZATION_DENIED" = 20 := by decide
  rw [errorResult_size, escapedLength_append, code]
  omega

/-- The bytes of a validation error are those of its text and 71 more. -/
theorem invalid_size (callId before text : String)
    : (errorResult callId "VALIDATION_FAILED"
          ("Parameter validation failed: " ++ (before ++ text))).resultJson.utf8ByteSize
      = escapedLength text + (escapedLength before + 71) := by
  have code : escapedLength "VALIDATION_FAILED" = 17 := by decide
  have opening : escapedLength "Parameter validation failed: " = 29 := by decide
  rw [errorResult_size, escapedLength_append, escapedLength_append, code, opening]
  omega

/-- A call that is not authorized is answered with the text of the authorization error. -/
theorem processCall_denied_size {before text : String} {fixed : Nat}
    (executor : ToolExecutor) (world : ToolWorld)
    (registered : registry.get toolCall.name = some registration)
    (denied : checkAuthorization registration identity = .error (before ++ text))
    (around : escapedLength before + 45 = fixed)
    : ∃ result,
        processCall libraries registry executor identity world toolCall = .ok result
        ∧ result.resultJson.utf8ByteSize = escapedLength text + fixed := by
  refine ⟨_, processCall_denied world registered denied, ?_⟩
  rw [denied_size, around]

/-- A call with invalid arguments is answered with the text of the validation error. -/
theorem processCall_invalid_size {before text : String} {fixed : Nat}
    (executor : ToolExecutor) (world : ToolWorld)
    (registered : registry.get toolCall.name = some registration)
    (authorized : registration.Authorizes identity)
    (invalid
      : validateParams libraries toolCall.argumentsJson registration.inputSchemaJson
        = .error (before ++ text))
    (around : escapedLength before + 71 = fixed)
    : ∃ result,
        processCall libraries registry executor identity world toolCall = .ok result
        ∧ result.resultJson.utf8ByteSize = escapedLength text + fixed := by
  refine ⟨_, processCall_invalid world registered authorized invalid, ?_⟩
  rw [invalid_size, around]

theorem processCall_unregistered_size (executor : ToolExecutor) (world : ToolWorld)
    (unregistered : registry.get toolCall.name = none)
    : ∃ result,
        processCall libraries registry executor identity world toolCall = .ok result
        ∧ result.resultJson.utf8ByteSize = escapedLength toolCall.name + 64 := by
  have code : escapedLength "TOOL_NOT_FOUND" = 14 := by decide
  have before : escapedLength "Tool '" = 6 := by decide
  have after : escapedLength "' is not registered" = 19 := by decide
  refine
    ⟨errorResult toolCall.callId "TOOL_NOT_FOUND"
      ("Tool '" ++ toolCall.name ++ "' is not registered"), ?_, ?_⟩
  · unfold processCall
    rw [unregistered]
  · rw [errorResult_size, escapedLength_append, escapedLength_append, code, before, after]
    omega

/-- A call whose error result quotes a text is answered with that text and the fixed one.
Case analysis on the text.
-/
theorem Quotes.size {text : String} {fixed : Nat} (executor : ToolExecutor)
    (world : ToolWorld)
    (quotes : Quotes libraries registry identity toolCall text fixed)
    : ∃ result,
        processCall libraries registry executor identity world toolCall = .ok result
        ∧ result.resultJson.utf8ByteSize = escapedLength text + fixed := by
  cases quotes with
  | name unregistered => exact processCall_unregistered_size executor world unregistered
  | scope registered held missing =>
      have denied := checkAuthorization_missingScope held missing
      exact processCall_denied_size executor world registered denied (by decide)
  | role registered held scopesHeld missing =>
      have denied := checkAuthorization_missingRole held scopesHeld missing
      exact processCall_denied_size executor world registered denied (by decide)
  | @arguments registration _ registered authorized unparsed =>
      have invalid
          : validateParams libraries toolCall.argumentsJson registration.inputSchemaJson
            = .error ("Invalid JSON: " ++ text) := by
        unfold validateParams
        rw [unparsed]
      exact processCall_invalid_size executor world registered authorized invalid
        (by decide)
  | @schema registration params _ registered authorized parsed unparsed =>
      have invalid
          : validateParams libraries toolCall.argumentsJson registration.inputSchemaJson
            = .error ("Invalid schema: " ++ text) := by
        unfold validateParams
        simp only [parsed, unparsed]
      exact processCall_invalid_size executor world registered authorized invalid
        (by decide)
  | @validator registration params schema _ registered authorized parsed schemaParsed
      uncompiled =>
      have invalid
          : validateParams libraries toolCall.argumentsJson registration.inputSchemaJson
            = .error ("Invalid JSON Schema: " ++ text) := by
        unfold validateParams
        simp only [parsed, schemaParsed, uncompiled]
      exact processCall_invalid_size executor world registered authorized invalid
        (by decide)
  | @errors registration params schema iterErrors registered authorized parsed schemaParsed
      compiled found =>
      have invalid
          : validateParams libraries toolCall.argumentsJson registration.inputSchemaJson
            = .error ("" ++ "; ".intercalate (iterErrors params)) := by
        unfold validateParams
        simp only [parsed, schemaParsed, compiled]
        simp [found]
      exact processCall_invalid_size executor world registered authorized invalid
        (by decide)

/-- The result of a handler is cut at the limit, and a panic is answered with a short text. -/
theorem executeWithContainment_size {world : ToolWorld} {result : ToolResult}
    (answered
      : executeWithContainment libraries executor world toolCall registration = .ok result)
    : result.resultJson.utf8ByteSize ≤ maxResultSize := by
  simp only [executeWithContainment] at answered
  split at answered
  · obtain rfl := Except.ok.inj answered
    have code : escapedLength "EXECUTION_ERROR" = 15 := by decide
    have message : escapedLength "Tool handler encountered an internal error" = 42 := by decide
    rw [errorResult_size, code, message, maxResultSize]
    omega
  · split at answered
    · split at answered
      next kept sliced =>
        obtain rfl := Except.ok.inj answered
        rw [utf8ByteSize_eq, String.toList_ofList, (sliceTo_spec sliced).2]
      · contradiction
    next short =>
      obtain rfl := Except.ok.inj answered
      exact Nat.le_of_not_lt short

/-- An authorization error quotes the first missing scope or role, or nothing. -/
theorem checkAuthorization_error {message : String}
    (registered : registry.get toolCall.name = some registration)
    (denied : checkAuthorization registration identity = .error message)
    : (∃ text fixed, Quotes libraries registry identity toolCall text fixed)
      ∨ message = "Authentication required for this tool" := by
  unfold checkAuthorization at denied
  split at denied
  · contradiction
  · split at denied
    · exact Or.inr (Except.error.inj denied).symm
    next holder =>
      split at denied
      next scope missing => exact Or.inl ⟨_, _, .scope registered rfl missing⟩
      next scopesHeld =>
        split at denied
        next role missing => exact Or.inl ⟨_, _, .role registered rfl scopesHeld missing⟩
        next => contradiction

/-- A validation error always quotes a text. -/
theorem validateParams_error {message : String}
    (registered : registry.get toolCall.name = some registration)
    (authorized : registration.Authorizes identity)
    (invalid
      : validateParams libraries toolCall.argumentsJson registration.inputSchemaJson
        = .error message)
    : ∃ text fixed, Quotes libraries registry identity toolCall text fixed := by
  unfold validateParams at invalid
  split at invalid
  next _ unparsed => exact ⟨_, _, .arguments registered authorized unparsed⟩
  next params parsed =>
    split at invalid
    next _ unparsed => exact ⟨_, _, .schema registered authorized parsed unparsed⟩
    next schema schemaParsed =>
      split at invalid
      next _ uncompiled =>
        exact ⟨_, _, .validator registered authorized parsed schemaParsed uncompiled⟩
      next iterErrors compiled =>
        have found : iterErrors params ≠ [] := by
          intro none
          simp [none] at invalid
        exact ⟨_, _, .errors registered authorized parsed schemaParsed compiled found⟩

/-- A call whose error result quotes nothing is answered within the limit. Case analysis on
the step that decides the call.
-/
theorem processCall_size {world : ToolWorld} {result : ToolResult}
    (answered
      : processCall libraries registry executor identity world toolCall = .ok result)
    : (∃ text fixed, Quotes libraries registry identity toolCall text fixed)
      ∨ result.resultJson.utf8ByteSize ≤ maxResultSize := by
  unfold processCall at answered
  split at answered
  next unregistered => exact Or.inl ⟨_, _, .name unregistered⟩
  next registration registered =>
    split at answered
    next message denied =>
      rcases checkAuthorization_error registered denied with quotes | rfl
      · exact Or.inl quotes
      · obtain rfl := Except.ok.inj answered
        have code : escapedLength "AUTHORIZATION_DENIED" = 20 := by decide
        have text : escapedLength "Authentication required for this tool" = 37 := by decide
        right
        rw [errorResult_size, code, text, maxResultSize]
        omega
    next authorized =>
      split at answered
      next message invalid =>
        exact Or.inl
          (validateParams_error registered (checkAuthorization_ok_iff.mp authorized) invalid)
      next => exact Or.inr (executeWithContainment_size answered)

/-- One answered call keeps to the limit exactly when what its error result quotes fits. -/
theorem processCall_within_iff {world : ToolWorld} {result : ToolResult}
    (answered
      : processCall libraries registry executor identity world toolCall = .ok result)
    : result.resultJson.utf8ByteSize ≤ maxResultSize
      ↔ ∀ text fixed,
          Quotes libraries registry identity toolCall text fixed
          → escapedLength text + fixed ≤ maxResultSize := by
  constructor
  · intro within text fixed quotes
    obtain ⟨own, same, size⟩ := quotes.size executor world
    obtain rfl := Except.ok.inj (same.symm.trans answered)
    exact size ▸ within
  · intro fits
    rcases processCall_size answered with ⟨text, fixed, quotes⟩ | within
    · obtain ⟨own, same, size⟩ := quotes.size executor world
      obtain rfl := Except.ok.inj (same.symm.trans answered)
      exact size ▸ fits text fixed quotes
    · exact within

end Sizes

/-- All results keep to the size limit exactly when, for every call whose error result quotes
a text, the text as escaped in JSON and the fixed text around it fit in.
-/
theorem process_withinLimit_iff {libraries : ToolLibraries} {registry : ToolRegistry}
    {executor : ToolExecutor} {identity : Option Identity} {worlds : Nat → ToolWorld}
    {toolCalls : List ToolCall} {results : List ToolResult}
    (answered : process libraries registry executor identity worlds toolCalls = .ok results)
    : WithinLimit results
      ↔ ∀ toolCall ∈ toolCalls,
          ∀ text fixed,
            Quotes libraries registry identity toolCall text fixed
            → escapedLength text + fixed ≤ maxResultSize := by
  have lengths := congrArg List.length (process_callIds answered)
  rw [List.length_map, List.length_map] at lengths
  constructor
  · intro within toolCall member
    obtain ⟨i, found⟩ := List.mem_iff_getElem?.mp member
    obtain ⟨_, result, own, kept⟩ := process_each answered found
    exact (processCall_within_iff own).mp (within result (List.mem_of_getElem? kept))
  · intro fits result member
    obtain ⟨i, kept⟩ := List.mem_iff_getElem?.mp member
    have inside : i < toolCalls.length := lengths ▸ (List.getElem?_eq_some_iff.mp kept).1
    have found := List.getElem?_eq_getElem inside
    obtain ⟨_, other, own, same⟩ := process_each answered found
    obtain rfl := Option.some.inj (same.symm.trans kept)
    exact (processCall_within_iff own).mpr (fits _ (List.mem_of_getElem? found))

/-- A call of a tool that is not registered. -/
def unknownCall (name : String) : ToolCall :=
  { callId := "c-1", name, argumentsJson := "\x7b\x7d" }

/-- The result of a call of an unknown tool with a short name. -/
theorem process_withinLimit_iff_unknown
    : WithinLimit
        [
          errorResult "c-1" "TOOL_NOT_FOUND" ("Tool '" ++ "missing" ++ "' is not registered")
        ] := by
  have unregistered : ToolRegistry.builtin.get "missing" = none := by decide
  have limited := @process_withinLimit_iff (echoLibraries "") .builtin (.new []) none
    (fun _ => standingToolWorld) [unknownCall "missing"] _ rfl
  refine limited.mpr ?_
  intro toolCall member text fixed quotes
  obtain rfl := List.mem_singleton.mp member
  have none (registration : ToolRegistration)
      : ToolRegistry.builtin.get "missing" ≠ some registration := by
    rw [unregistered]
    simp
  cases quotes with
  | name => decide
  | scope registered => exact (none _ registered).elim
  | role registered => exact (none _ registered).elim
  | arguments registered => exact (none _ registered).elim
  | schema registered => exact (none _ registered).elim
  | validator registered => exact (none _ registered).elim
  | errors registered => exact (none _ registered).elim

/-- The error result of a long run of letters as a name is that long and more. -/
theorem unknownCall_size {name : String} {count : Nat}
    (letters : name.toList = List.replicate count 'a') (long : 18 < count)
    : ∃ result,
        processCall (echoLibraries "") .builtin (.new []) none standingToolWorld
            (unknownCall name)
          = .ok result
        ∧ result.resultJson.utf8ByteSize = count + 64 := by
  have unregistered : ToolRegistry.builtin.get name = none := by
    have differs : name ≠ echoRegistration.name := by
      intro same
      have lengths := congrArg (fun name : String => name.toList.length) same
      have short : echoRegistration.name.toList.length = 18 := by decide
      simp only [letters, List.length_replicate, short] at lengths
      omega
    unfold ToolRegistry.builtin ToolRegistry.get
    rw [AList.lookup_insert_ne differs]
    exact AList.lookup_empty name
  have quotes : Quotes (echoLibraries "") .builtin none (unknownCall name) name 64 :=
    .name unregistered
  obtain ⟨result, answered, size⟩ := quotes.size (.new []) standingToolWorld
  have plain : escapeJsonChar 'a' = ['a'] := by decide
  have one : 'a'.utf8Size = 1 := by decide
  rw [escapedLength, letters, flatMap_escapeJsonChar_replicate plain, byteLength_replicate,
    one, Nat.mul_one] at size
  exact ⟨result, answered, size⟩

/-- A name of a mebibyte. -/
def longName : String :=
  String.ofList (List.replicate 1048576 'a')

/-- The error result that quotes the name is longer than the limit. -/
theorem process_exceedsLimit
    : ∃ results,
        process (echoLibraries "") .builtin (.new []) none (fun _ => standingToolWorld)
            [unknownCall longName]
          = .ok results
        ∧ ¬WithinLimit results := by
  have letters : longName.toList = List.replicate 1048576 'a' := by
    unfold longName
    exact String.toList_ofList
  obtain ⟨result, answered, size⟩ := unknownCall_size letters (by decide)
  refine ⟨[result], process_single_ok answered, ?_⟩
  intro within
  have bounded := within result List.mem_cons_self
  have limit : maxResultSize < 1048576 + 64 := by decide
  rw [size] at bounded
  exact limit.not_ge bounded

end Intellisphere.Sphere
