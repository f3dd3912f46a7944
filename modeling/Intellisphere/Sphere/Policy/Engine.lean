import Intellisphere.Sphere.Pipeline.Filter
import Mathlib.Data.List.Flatten

/-! Policies and the violations they report. Which rules are violated depends on the identity
only through the roles it has and whether it is verified, and more of both never makes a
violation.
-/

namespace Intellisphere.Sphere

structure Policy where
  name : String
  scope : PolicyScope
  rules : List PolicyRule
  action : PolicyAction
  deriving DecidableEq

inductive PolicyEvent where
  | requestReceived
  | toolCallRequested (toolName : String)
  | sessionUpdate

structure PolicyViolation where
  policyName : String
  action : PolicyAction
  reason : String
  deriving DecidableEq

structure PolicyEngine where
  policies : List Policy

def PolicyEngine.loadFromConfig (configs : List PolicyConfig) : PolicyEngine where
  policies :=
    configs.map
      (fun config =>
        {
          name := config.name
          scope := config.scope
          rules := config.rules
          action := config.action
        })

/-- The value of decimal digits. -/
def digitsValue (digits : List Char) : Nat :=
  digits.foldl (fun value digit => 10 * value + (digit.toNat - '0'.toNat)) 0

/-- Read a machine word: digits, after a plus sign if there is one. -/
def parseUsize (text : String) : Option Nat :=
  let digits :=
    match text.toList with
    | '+' :: rest => rest
    | chars => chars
  if !digits.isEmpty && digits.all Char.isDigit && digitsValue digits < 18446744073709551616
  then some (digitsValue digits)
  else none

/-- Session and identity policies always apply. -/
def scopeMatches (scope : PolicyScope) (event : PolicyEvent) : Bool :=
  match scope with
  | .global => true
  | .session => true
  | .identity => true
  | .tool name =>
      match event with
      | .toolCallRequested toolName => toolName == name
      | _ => false

/-- The reason why a rule is violated, if it is. -/
def evaluateRule (rule : PolicyRule) (context : PipelineContext) (event : PolicyEvent)
    : Option String :=
  match rule with
  | .maxToolCallsPerSession limit =>
      match event with
      | .requestReceived => none
      | .toolCallRequested _ | .sessionUpdate =>
          match context.turnCount with
          | none => none
          | some turnCount =>
              if turnCount > limit then
                some
                  ("Tool call count " ++ toString turnCount ++ " exceeds session limit of "
                    ++ toString limit)
              else none
  | .maxTokensPerIdentityPerHour limit =>
      match context.sessionTokenCount with
      | none => none
      | some sessionTokens =>
          if sessionTokens > limit then
            some
              ("Token count " ++ toString sessionTokens ++ " exceeds hourly limit of "
                ++ toString limit)
          else none
  | .requireMfa =>
      match context.identity with
      | none => some "MFA is required but no identity present"
      | some identity =>
          let hasMfa := ((identity.metadata.lookup "mfa_verified").map (· == "true")).getD false
          if !hasMfa then some "MFA is required but not verified" else none
  | .requireRoles roles =>
      match context.identity with
      | none => some "Roles required but no identity present"
      | some identity =>
          let missing := roles.filter (fun role => role ∉ identity.roles)
          if !missing.isEmpty then
            some ("Missing required roles: " ++ ", ".intercalate missing)
          else none
  | .maxResultSize limit =>
      match (context.getAnnotations "result_size").bind List.getLast? with
      | none => none
      | some text =>
          match parseUsize text with
          | none => none
          | some size =>
              if size > limit then
                some
                  ("Result size " ++ toString size ++ " exceeds limit of " ++ toString limit)
              else none

/-- The violations of all applicable policies. -/
def PolicyEngine.evaluate (engine : PolicyEngine) (context : PipelineContext)
    (event : PolicyEvent)
    : List PolicyViolation :=
  engine.policies.flatMap
    (fun policy =>
      if !scopeMatches policy.scope event then []
      else
        policy.rules.filterMap
          (fun rule =>
            (evaluateRule rule context event).map
              (fun reason => { policyName := policy.name, action := policy.action, reason })))

/-- The policies and rules for which there is a violation, in the order of the violations. -/
def PolicyEngine.violated (engine : PolicyEngine) (context : PipelineContext)
    (event : PolicyEvent)
    : List (Policy × PolicyRule) :=
  engine.policies.flatMap
    (fun policy =>
      if !scopeMatches policy.scope event then []
      else
        (policy.rules.filter (fun rule => (evaluateRule rule context event).isSome)).map
          (fun rule => (policy, rule)))

/-- The second identity has the roles of the first, and is verified if the first is. -/
structure Identity.AtMost (weak strong : Identity) : Prop where
  roles : ∀ role ∈ weak.roles, role ∈ strong.roles
  verified
    : weak.metadata.lookup "mfa_verified" = some "true"
      → strong.metadata.lookup "mfa_verified" = some "true"

section Privilege

variable (engine : PolicyEngine) (context : PipelineContext) (event : PolicyEvent)

/-- Each violation is one of the violated rules, under the name and the action of its policy.
-/
theorem PolicyEngine.evaluate_violated
    : (engine.evaluate context event).map
        (fun violation => (violation.policyName, violation.action))
      = (engine.violated context event).map (fun pair => (pair.1.name, pair.1.action)) := by
  unfold evaluate violated
  rw [List.map_flatMap, List.map_flatMap]
  refine List.flatMap_congr (fun policy _ => ?_)
  cases scopeMatches policy.scope event with
  | false => rfl
  | true =>
      simp only [Bool.not_true, Bool.false_eq_true, if_false]
      induction policy.rules with
      | nil => rfl
      | cons rule rest ih =>
          cases reason : evaluateRule rule context event with
          | none => simpa [reason] using ih
          | some reason' => simpa [reason] using ih

/-- Verification is required of an identity that has not got it. -/
theorem evaluateRule_requireMfa_isSome {identity : Identity}
    (present : context.identity = some identity)
    : (evaluateRule .requireMfa context event).isSome = true
      ↔ identity.metadata.lookup "mfa_verified" ≠ some "true" := by
  simp only [evaluateRule, present]
  cases identity.metadata.lookup "mfa_verified" with
  | none => simp
  | some value =>
      by_cases verified : value = "true" <;> simp [verified]

/-- Roles are required of an identity that lacks one of them. -/
theorem evaluateRule_requireRoles_isSome {identity : Identity} (roles : List String)
    (present : context.identity = some identity)
    : (evaluateRule (.requireRoles roles) context event).isSome = true
      ↔ ∃ role ∈ roles, role ∉ identity.roles := by
  simp only [evaluateRule, present]
  split
  next missing => simpa using missing
  next complete => simpa using complete

/-- A rule that is violated with a stronger identity is violated with a weaker one, or with
none. By cases on the rule.
-/
theorem evaluateRule_isSome_of_atMost {rule : PolicyRule} {strong : Identity}
    (atMost : ∀ weak ∈ context.identity, weak.AtMost strong)
    (violated
      : (evaluateRule rule { context with identity := some strong } event).isSome = true)
    : (evaluateRule rule context event).isSome = true := by
  cases rule with
  | maxToolCallsPerSession limit => exact violated
  | maxTokensPerIdentityPerHour limit => exact violated
  | maxResultSize limit => exact violated
  | requireMfa =>
      cases present : context.identity with
      | none => simp [evaluateRule, present]
      | some weak =>
          rw [evaluateRule_requireMfa_isSome _ _ rfl] at violated
          rw [evaluateRule_requireMfa_isSome _ _ present]
          exact fun verified => violated ((atMost weak present).verified verified)
  | requireRoles roles =>
      cases present : context.identity with
      | none => simp [evaluateRule, present]
      | some weak =>
          rw [evaluateRule_requireRoles_isSome _ _ roles rfl] at violated
          rw [evaluateRule_requireRoles_isSome _ _ roles present]
          obtain ⟨role, required, lacking⟩ := violated
          exact
            ⟨role, required, fun held => lacking ((atMost weak present).roles role held)⟩

/-- The rules violated with a stronger identity are among those violated with a weaker one. -/
theorem PolicyEngine.violated_sublist {strong : Identity}
    (atMost : ∀ weak ∈ context.identity, weak.AtMost strong)
    : (engine.violated { context with identity := some strong } event).Sublist
        (engine.violated context event) := by
  refine List.Sublist.flatMap_right engine.policies (fun policy _ => ?_)
  split
  · exact List.Sublist.refl _
  · refine List.Sublist.map _ (List.monotone_filter_right policy.rules (fun rule => ?_))
    exact evaluateRule_isSome_of_atMost context event atMost

/-- More policies report every violation of fewer ones. -/
theorem PolicyEngine.evaluate_sublist {larger : PolicyEngine}
    (added : engine.policies.Sublist larger.policies)
    : (engine.evaluate context event).Sublist (larger.evaluate context event) :=
  added.flatMap _

/-- With a stronger identity fewer rules are violated, the policies' names and actions going
with them, and with more policies no fewer violations are reported.
-/
theorem PolicyEngine.evaluate_monotone (strong : Identity)
    (atMost : ∀ weak ∈ context.identity, weak.AtMost strong)
    : (engine.violated { context with identity := some strong } event).Sublist
          (engine.violated context event)
      ∧ ((engine.evaluate { context with identity := some strong } event).map
            (fun violation => (violation.policyName, violation.action))).Sublist
          ((engine.evaluate context event).map
            (fun violation => (violation.policyName, violation.action)))
      ∧ ∀ larger : PolicyEngine,
          engine.policies.Sublist larger.policies
          → (engine.evaluate context event).Sublist (larger.evaluate context event) := by
  have fewer := engine.violated_sublist context event atMost
  refine ⟨fewer, ?_, fun larger added => engine.evaluate_sublist context event added⟩
  rw [evaluate_violated, evaluate_violated]
  exact fewer.map _

end Privilege

/-- A policy that asks for verification and for the role `admin`. -/
def adminPolicy : Policy where
  name := "admins"
  scope := .global
  rules := [.requireMfa, .requireRoles ["admin"]]
  action := .block

/-- Nobody violates both rules, an administrator only the first. -/
theorem PolicyEngine.evaluate_monotone_admin
    : ((PolicyEngine.mk [adminPolicy]).evaluate
            {
              PipelineContext.new "r" "s" with
              identity := some { Identity.anonymous with roles := ["admin"] }
            }
            .requestReceived).map
          (fun violation => (violation.policyName, violation.action))
        = [("admins", .block)]
      ∧ (((PolicyEngine.mk [adminPolicy]).evaluate
              {
                PipelineContext.new "r" "s" with
                identity := some { Identity.anonymous with roles := ["admin"] }
              }
              .requestReceived).map
            (fun violation => (violation.policyName, violation.action))).Sublist
          (((PolicyEngine.mk [adminPolicy]).evaluate (.new "r" "s") .requestReceived).map
            (fun violation => (violation.policyName, violation.action))) :=
  ⟨by decide +kernel,
    ((PolicyEngine.mk [adminPolicy]).evaluate_monotone (.new "r" "s") .requestReceived
      { Identity.anonymous with roles := ["admin"] }
      (by simp [PipelineContext.new])).2.1⟩

end Intellisphere.Sphere
