import Intellisphere.Foundation.Erasure
import Intellisphere.Sphere.Pipeline.Redaction

/-! Redaction of personal data in what a caller sends. Masking leaves no entity; removing
leaves one only where it joins what stood on the two sides of a match.
-/

namespace Intellisphere.Sphere

open Intellisphere.Foundation Intellisphere.Foundation.Regex

inductive RedactionStrategy where
  | mask
  | replace
  | remove
  deriving DecidableEq

/-- A kind of personal data with its label and a harmless value. -/
structure RedactionPattern extends PiiPattern where
  replacement : String

/-- The patterns of the inbound filter, in the order it applies them. -/
def redactionPatterns (tables : UnicodeTables) : List RedactionPattern :=
  [
    {
      name := "EMAIL"
      pattern := ⟨emailRegex, emailRegex_solid⟩
      maskLabel := "[EMAIL_REDACTED]"
      replacement := "user@example.com"
    },
    {
      name := "PHONE"
      pattern := ⟨phoneRegex tables, phoneRegex_solid tables⟩
      maskLabel := "[PHONE_REDACTED]"
      replacement := "555-000-0000"
    },
    {
      name := "SSN"
      pattern := ⟨ssnRegex tables, ssnRegex_solid tables⟩
      maskLabel := "[SSN_REDACTED]"
      replacement := "000-00-0000"
    },
    {
      name := "CREDIT_CARD"
      pattern := ⟨creditCardRegex tables, creditCardRegex_solid tables⟩
      maskLabel := "[CREDIT_CARD_REDACTED]"
      replacement := "0000-0000-0000-0000"
    }
  ]

/-- What takes the place of a match. -/
def RedactionStrategy.label (strategy : RedactionStrategy) (entity : RedactionPattern)
    : List Char :=
  match strategy with
  | .mask => entity.maskLabel.toList
  | .replace => entity.replacement.toList
  | .remove => []

/-- Go through the patterns in order, counting the matches, and replace those of each in the
text that the next pattern sees. The count is a machine integer that wraps around.
-/
def redactMatches (tables : UnicodeTables) (strategy : RedactionStrategy)
    : List RedactionPattern → List Char → UInt32 → PipelineContext
      → List Char × UInt32 × PipelineContext
  | [], content, detectedCount, context => (content, detectedCount, context)
  | entity :: rest, content, detectedCount, context =>
      let matchCount := (entity.pattern.findIter tables.word content).length
      if matchCount > 0 then
        redactMatches tables strategy rest
          (entity.pattern.replaceAll tables.word (strategy.label entity) content)
          (detectedCount + UInt32.ofNat matchCount)
          (context.annotate "pii_detected" entity.name)
      else redactMatches tables strategy rest content detectedCount context

def piiRedactionApply (tables : UnicodeTables) (strategy : RedactionStrategy)
    (message : Message) (context : PipelineContext)
    : FilterRun SphereError :=
  let (content, detectedCount, annotated) :=
    redactMatches tables strategy (redactionPatterns tables) message.content.toList 0 context
  {
    result := .ok ()
    message := { message with content := String.ofList content }
    context :=
      if detectedCount > 0 then
        annotated.annotate "pii_entity_count" (toString detectedCount)
      else annotated
  }

def piiRedactionFilter (tables : UnicodeTables) (strategy : RedactionStrategy)
    : Filter SphereError :=
  { name := "PIIRedaction", apply := piiRedactionApply tables strategy }

/-- Nothing of the four kinds is left after the filter, which changes nothing when it is
applied again.
-/
def RedactsCompletely (tables : UnicodeTables) (strategy : RedactionStrategy)
    (message : Message) (context : PipelineContext)
    : Prop :=
  let run := piiRedactionApply tables strategy message context
  (∀ entity ∈ redactionPatterns tables,
    entity.pattern.isMatch tables.word run.message.content.toList = false)
  ∧ piiRedactionApply tables strategy run.message run.context = run

/-- The characters that no pattern takes when each one's matches are removed in its turn. -/
def cellsKept (tables : UnicodeTables) (text : List Char) : List Cell :=
  (redactionPatterns tables).foldl
    (fun cells entity => entity.pattern.replaceCells tables.word [] cells)
    (placed text)

section Redacting

variable (tables : UnicodeTables) (strategy : RedactionStrategy)

/-- The patterns are those of the outbound filter. -/
theorem redactionPatterns_entities
    : (redactionPatterns tables).map RedactionPattern.toPiiPattern = piiPatterns tables :=
  rfl

theorem mem_piiPatterns {entity : RedactionPattern}
    (member : entity ∈ redactionPatterns tables)
    : entity.toPiiPattern ∈ piiPatterns tables :=
  redactionPatterns_entities tables ▸ List.mem_map_of_mem member

/-- The filter replaces the matches of every pattern in turn, by induction on the patterns.
-/
theorem redactMatches_content (patterns : List RedactionPattern) (content : List Char)
    (detectedCount : UInt32) (context : PipelineContext)
    : (redactMatches tables strategy patterns content detectedCount context).1
      = patterns.foldl
          (fun content entity =>
            entity.pattern.replaceAll tables.word (strategy.label entity) content)
          content := by
  induction patterns generalizing content detectedCount context with
  | nil => rfl
  | cons entity rest ih =>
      simp only [redactMatches, List.foldl_cons]
      split
      · exact ih _ _ _
      next nothing =>
        have absent : ¬entity.pattern.regex.Occurs tables.word content := by
          rw [← Pattern.findIter_eq_nil_iff, ← List.length_eq_zero_iff]
          omega
        rw [Pattern.replaceAll_of_absent absent]
        exact ih _ _ _

/-- Where no pattern occurs nothing is replaced, counted or noted, by induction on the
patterns.
-/
theorem redactMatches_of_absent (patterns : List RedactionPattern) {content : List Char}
    (absent : ∀ entity ∈ patterns, ¬entity.pattern.regex.Occurs tables.word content)
    (detectedCount : UInt32) (context : PipelineContext)
    : redactMatches tables strategy patterns content detectedCount context
      = (content, detectedCount, context) := by
  induction patterns with
  | nil => rfl
  | cons entity rest ih =>
      have nothing := Pattern.findIter_eq_nil_iff.mpr (absent entity (by simp))
      rw [redactMatches, nothing]
      exact ih (fun later member => absent later (by simp [member]))

/-- The text left by the filter. -/
theorem piiRedactionApply_content (message : Message) (context : PipelineContext)
    : (piiRedactionApply tables strategy message context).message.content.toList
      = (redactionPatterns tables).foldl
          (fun content entity =>
            entity.pattern.replaceAll tables.word (strategy.label entity) content)
          message.content.toList := by
  rw [← redactMatches_content tables strategy _ _ 0 context, piiRedactionApply,
    String.toList_ofList]

/-- Redaction is complete exactly when no pattern occurs in the text it leaves. -/
theorem redactsCompletely_iff (message : Message) (context : PipelineContext)
    : RedactsCompletely tables strategy message context
      ↔ ∀ entity ∈ redactionPatterns tables,
          ¬entity.pattern.regex.Occurs tables.word
            (piiRedactionApply tables strategy message context).message.content.toList := by
  simp only [RedactsCompletely, Pattern.isMatch, isMatch_eq_false_iff]
  refine ⟨fun complete => complete.1, fun absent => ⟨absent, ?_⟩⟩
  have nothing :=
    redactMatches_of_absent tables strategy (redactionPatterns tables) absent 0
      (piiRedactionApply tables strategy message context).context
  rw [piiRedactionApply, nothing]
  simp only [String.ofList_toList, gt_iff_lt, UInt32.lt_irrefl, if_false]
  rfl

-----------------------------------------------------------------------------------------
-- Masking and removing
-----------------------------------------------------------------------------------------

/-- Masking is what the outbound filter does. -/
theorem piiRedactionApply_mask (message : Message) (context : PipelineContext)
    : (piiRedactionApply tables .mask message context).message.content.toList
      = redactPii tables message.content.toList := by
  rw [piiRedactionApply_content, redactPii, ← redactionPatterns_entities, List.foldl_map]
  rfl

/-- Removing leaves the text that the kept characters spell, by induction on the patterns.
-/
theorem spell_foldl_erase (patterns : List RedactionPattern) (cells : List Cell)
    : spell
        (patterns.foldl
          (fun cells entity => entity.pattern.replaceCells tables.word [] cells) cells)
      = patterns.foldl
          (fun content entity => entity.pattern.replaceAll tables.word [] content)
          (spell cells) := by
  induction patterns generalizing cells with
  | nil => rfl
  | cons entity rest ih => rw [List.foldl_cons, ih, spell_replaceCells, List.foldl_cons]

theorem piiRedactionApply_remove (message : Message) (context : PipelineContext)
    : (piiRedactionApply tables .remove message context).message.content.toList
      = spell (cellsKept tables message.content.toList) := by
  rw [piiRedactionApply_content, cellsKept, spell_foldl_erase, spell_placed]
  rfl

/-- Entities keep their shapes as patterns of the inbound filter. -/
theorem redactionPatterns_shape
    : ∀ entity ∈ redactionPatterns tables,
        entity.pattern.regex.Plain ∨ Guarded tables.word entity.pattern.regex :=
  fun _ member => piiPatterns_shape tables _ (mem_piiPatterns tables member)

theorem redactionPatterns_order
    : (redactionPatterns tables).Pairwise
        (fun other entity =>
          other.pattern.regex.Plain
          ∨ (Guarded tables.word entity.pattern.regex
            ∧ Guarded tables.word other.pattern.regex)) := by
  have order := piiPatterns_order tables
  rw [← redactionPatterns_entities, List.pairwise_map] at order
  exact order.imp (fun shape => shape.imp_right And.symm)

/-- No pattern matches characters that stood together and were kept: each pass leaves none
for its own pattern, and brings none for the earlier ones.
-/
theorem cellsKept_not_together (text : List Char)
    : ∀ entity ∈ redactionPatterns tables,
        ¬entity.pattern.regex.OccursAs Together tables.word (cellsKept tables text) := by
  let valid (cells : List Cell) : Prop := Ordered cells ∧ AllPlaced cells
  let absent (entity : RedactionPattern) (cells : List Cell) : Prop :=
    ¬entity.pattern.regex.OccursAs Together tables.word cells
  refine @foldl_removes _ _ _ valid absent ?_ (redactionPatterns tables) ?_ ?_ (placed text)
    ⟨placed_ordered text, placed_allPlaced text⟩
  · exact fun _ _ ⟨ordered, allPlaced⟩ => ⟨ordered.replaceCells [], allPlaced.erase⟩
  · intro entity member cells ⟨ordered, allPlaced⟩
    exact not_occursAs_self (redactionPatterns_shape tables entity member) ordered allPlaced
  · refine (redactionPatterns_order tables).imp ?_
    intro other entity shape cells ⟨ordered, allPlaced⟩ missing
    exact not_occursAs_of_erased shape ordered allPlaced missing

/-- They are characters of the text in their order, by induction on the patterns. -/
theorem cellsKept_sublist (text : List Char)
    : (cellsKept tables text).Sublist (placed text) := by
  have each (patterns : List RedactionPattern) (cells : List Cell)
      : (patterns.foldl
            (fun cells entity => entity.pattern.replaceCells tables.word [] cells)
            cells).Sublist cells := by
    induction patterns generalizing cells with
    | nil => exact List.Sublist.refl cells
    | cons entity rest ih => exact (ih _).trans (scan_laid _ _ cells).erased_sublist
  exact each (redactionPatterns tables) (placed text)

/-- Masking redacts completely. Removing leaves characters of the text, and no pattern matches
such that stood together there: a match that is left was joined by the removal.
-/
theorem piiRedaction_complete (message : Message) (context : PipelineContext)
    : RedactsCompletely tables .mask message context
      ∧ (piiRedactionApply tables .remove message context).message.content.toList
        = spell (cellsKept tables message.content.toList)
      ∧ (cellsKept tables message.content.toList).Sublist (placed message.content.toList)
      ∧ ∀ entity ∈ redactionPatterns tables,
          ¬entity.pattern.regex.OccursAs Together tables.word
            (cellsKept tables message.content.toList) := by
  refine ⟨?_, ?_, ?_, ?_⟩
  · rw [redactsCompletely_iff, piiRedactionApply_mask]
    exact fun entity member => redactPii_removes tables _ _ (mem_piiPatterns tables member)
  · exact piiRedactionApply_remove tables message context
  · exact cellsKept_sublist tables message.content.toList
  · exact cellsKept_not_together tables message.content.toList

end Redacting

/-- A caller's message of the model. -/
def callerText (content : String) : Message :=
  { role := "user", content, toolResults := [], toolCalls := [] }

/-- Removing the phone number inside `a@b.c5551234567om` makes an email address. -/
theorem piiRedaction_joins_email
    : ¬∀ strategy : RedactionStrategy,
        strategy = .mask ∨ strategy = .remove
        → ∀ (tables : UnicodeTables) (message : Message) (context : PipelineContext),
            RedactsCompletely tables strategy message context := by
  intro complete
  have absent :=
    (complete .remove (.inr rfl) asciiTables (callerText "a@b.c5551234567om")
      (.new "r" "s")).1
  have none
      : (redactionPatterns asciiTables).all
          (fun entity =>
            !entity.pattern.isMatch asciiTables.word
              (piiRedactionApply asciiTables .remove (callerText "a@b.c5551234567om")
                (.new "r" "s")).message.content.toList)
        = true := by
    refine List.all_eq_true.mpr (fun entity member => ?_)
    exact (Bool.not_eq_true' _).mpr (absent entity member)
  exact absurd none (by decide +kernel)

end Intellisphere.Sphere
