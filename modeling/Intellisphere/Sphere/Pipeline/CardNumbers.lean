import Intellisphere.Sphere.Pipeline.Entities
import Intellisphere.Sphere.Pipeline.InboundRedaction

/-! What masking leaves of the card numbers in a text. The card pattern comes last: of a card
number of which another pattern took a part, the rest need not be one.
-/

namespace Intellisphere.Sphere

open Intellisphere.Foundation Intellisphere.Foundation.Regex

/-- The pattern of card numbers. -/
def creditCardPattern (tables : UnicodeTables) : Pattern :=
  ⟨creditCardRegex tables, creditCardRegex_solid tables⟩

/-- The characters of a text in its card numbers. -/
def cardCells (tables : UnicodeTables) (text : List Char) : List Cell :=
  (creditCardPattern tables).matchCells tables.word (placed text)

/-- The output is the text masked by all patterns, and no digit of a card number of the text
is in it.
-/
def CardDigitsGone (tables : UnicodeTables) (text output : List Char) : Prop :=
  output = spell (maskCells tables (piiPatterns tables) (placed text))
  ∧ ∀ cell ∈ cardCells tables text,
      tables.digit cell.char = true
      → cell ∉ maskCells tables (piiPatterns tables) (placed text)

/-- Every digit of the card numbers of a text lies in one of its entities. -/
def CardDigitsMatched (tables : UnicodeTables) (text : List Char) : Prop :=
  ∀ cell ∈ cardCells tables text,
    tables.digit cell.char = true → ∃ hit ∈ (entities tables text).hits, cell ∈ hit.2

section Cards

variable (tables : UnicodeTables)

/-- A character of the text is left when it is in none of the text's entities. -/
theorem mem_maskCells_iff (text : List Char) {cell : Cell} (member : cell ∈ placed text)
    : cell ∈ maskCells tables (piiPatterns tables) (placed text)
      ↔ ∀ hit ∈ (entities tables text).hits, cell ∉ hit.2 := by
  obtain ⟨place, found⟩ := placed_allPlaced text cell member
  have ordered : Ordered (entities tables text).source := by
    rw [entities_source]
    exact placed_ordered text
  rw [← entities_masked, Division.mem_masked_iff ordered found, entities_source]
  exact and_iff_right member

/-- Both redacting filters leave the masked text. -/
theorem redacting_content (message : Message) (context : PipelineContext)
    : (piiLeakDetectionApply tables .redact message context).message.content.toList
        = spell (maskCells tables (piiPatterns tables) (placed message.content.toList))
      ∧ (piiRedactionApply tables .mask message context).message.content.toList
        = spell (maskCells tables (piiPatterns tables) (placed message.content.toList)) := by
  rw [spell_maskCells, spell_placed]
  refine ⟨?_, piiRedactionApply_mask tables message context⟩
  rw [piiLeakDetectionApply_redact, String.toList_ofList]
  rfl

/-- No digit of a card number is left by the two redacting filters exactly if all of them lie
in entities of the text.
-/
theorem cardDigits_gone_iff (message : Message) (context : PipelineContext)
    : CardDigitsGone tables message.content.toList
          (piiLeakDetectionApply tables .redact message context).message.content.toList
        ∧ CardDigitsGone tables message.content.toList
          (piiRedactionApply tables .mask message context).message.content.toList
      ↔ CardDigitsMatched tables message.content.toList := by
  obtain ⟨leak, inbound⟩ := redacting_content tables message context
  simp only [CardDigitsGone, leak, inbound, true_and, and_self, CardDigitsMatched]
  refine forall₃_congr (fun cell member digit => ?_)
  rw [mem_maskCells_iff tables _ (matchCells_subset member)]
  simp only [not_forall, exists_prop, not_not]

/-- Masking patterns that do not occur changes nothing, by induction on them. -/
theorem maskCells_of_absent (entities : List PiiPattern) {cells : List Cell}
    (absent : ∀ entity ∈ entities, ¬entity.pattern.regex.Occurs tables.word (spell cells))
    : maskCells tables entities cells = cells := by
  induction entities with
  | nil => rfl
  | cons entity rest ih =>
      rw [maskCells, List.foldl_cons, replaceCells_of_absent (absent entity (by simp))]
      exact ih (fun later member => absent later (by simp [member]))

/-- Where the other patterns match nothing, no digit of a card number is left. -/
theorem cardDigitsMatched_of_absent {text : List Char}
    (absent
      : ∀ entity ∈ (piiPatterns tables).take 3,
          ¬entity.pattern.regex.Occurs tables.word text)
    : CardDigitsMatched tables text := by
  have untouched : maskCells tables ((piiPatterns tables).take 3) (placed text) = placed text :=
    maskCells_of_absent tables _ (by rwa [spell_placed])
  have masked
      : maskCells tables (piiPatterns tables) (placed text)
        = (creditCardPattern tables).replaceCells tables.word "[CREDIT_CARD_REDACTED]".toList
            (maskCells tables ((piiPatterns tables).take 3) (placed text)) :=
    rfl
  intro cell member _
  have inText := matchCells_subset member
  obtain ⟨place, found⟩ := placed_allPlaced text cell inText
  by_contra unmatched
  have left := (mem_maskCells_iff tables text inText).mpr (by simpa using unmatched)
  rw [masked, untouched, mem_replaceCells_iff (placed_ordered text) _ found] at left
  exact left.2 member

end Cards

/-- Of sixteen digits in a row the first ten are masked as a phone number. -/
theorem cardDigits_left
    : ¬∀ (tables : UnicodeTables) (message : Message) (context : PipelineContext),
        CardDigitsGone tables message.content.toList
            (piiLeakDetectionApply tables .redact message context).message.content.toList
        ∧ CardDigitsGone tables message.content.toList
            (piiRedactionApply tables .mask message context).message.content.toList := by
  intro gone
  have last : (⟨'1', some 15⟩ : Cell) ∈ cardCells asciiTables "4111111111111111".toList := by
    decide +kernel
  have absent :=
    (gone asciiTables (callerText "4111111111111111") (.new "r" "s")).1.2 ⟨'1', some 15⟩ last
      rfl
  exact absurd
    (show (⟨'1', some 15⟩ : Cell)
        ∈ maskCells asciiTables (piiPatterns asciiTables)
            (placed "4111111111111111".toList) by
      decide +kernel)
    absent

end Intellisphere.Sphere
