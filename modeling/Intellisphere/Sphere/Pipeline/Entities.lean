import Intellisphere.Foundation.Division
import Intellisphere.Sphere.Pipeline.Redaction

/-! The personal data in a text: its e-mail addresses, the phone numbers in the stretches
between them, the social security numbers between these, and the card numbers in what is left.
Redaction masks just these.
-/

namespace Intellisphere.Sphere

open Intellisphere.Foundation Intellisphere.Foundation.Regex

/-- The text divided by its entities. Each pattern is tried on the stretches between the matches
of those before it, every stretch as a text of its own.
-/
def entities (tables : UnicodeTables) (text : List Char) : Division :=
  (piiPatterns tables).foldl
    (fun division entity =>
      division.search tables.word entity.pattern entity.maskLabel.toList)
    (.stretch (placed text))

/-- The cells after masking the matches of the patterns, one pattern after the other. -/
def maskCells (tables : UnicodeTables) (entities : List PiiPattern) (cells : List Cell)
    : List Cell :=
  entities.foldl
    (fun cells entity =>
      entity.pattern.replaceCells tables.word entity.maskLabel.toList cells)
    cells

section Entities

variable (tables : UnicodeTables)

/-- Masked cells spell the masked text, by induction on the patterns. -/
theorem spell_maskCells (entities : List PiiPattern) (cells : List Cell)
    : spell (maskCells tables entities cells)
      = entities.foldl (fun text entity => entity.mask tables.word text) (spell cells) := by
  induction entities generalizing cells with
  | nil => rfl
  | cons entity rest ih =>
      rw [maskCells, List.foldl_cons, List.foldl_cons, PiiPattern.mask, ← spell_replaceCells]
      exact ih _

/-- The labels of the division are those of entities. -/
def Labelled (division : Division) : Prop :=
  ∀ hit ∈ division.hits, ∃ entity ∈ piiPatterns tables, hit.1 = entity.maskLabel.toList

/-- Every entity avoids these labels. -/
theorem Labelled.fenced {division : Division} (labelled : Labelled tables division)
    {other : PiiPattern} (member : other ∈ piiPatterns tables)
    : division.Fenced tables.word other.pattern.regex := by
  intro hit inside
  obtain ⟨entity, known, same⟩ := labelled hit inside
  obtain ⟨mask, maskable⟩ := piiPatterns_maskable tables entity known
  exact ⟨mask, same.trans maskable.text, maskable.avoids tables member⟩

theorem Labelled.search {division : Division} (labelled : Labelled tables division)
    {entity : PiiPattern} (member : entity ∈ piiPatterns tables)
    : Labelled tables
        (division.search tables.word entity.pattern entity.maskLabel.toList) := by
  intro hit found
  rcases Division.label_of_mem_search found with same | ⟨other, earlier, same⟩
  · exact ⟨entity, member, same⟩
  · rw [same]
    exact labelled other earlier

/-- Searching the stretches masks what the patterns mask one after the other, and keeps the
text. By induction on the patterns.
-/
theorem foldl_search {patterns : List PiiPattern}
    (known : ∀ entity ∈ patterns, entity ∈ piiPatterns tables) {division : Division}
    (labelled : Labelled tables division)
    : let divided :=
        patterns.foldl
          (fun division entity =>
            division.search tables.word entity.pattern entity.maskLabel.toList)
          division
      divided.masked = maskCells tables patterns division.masked
      ∧ divided.source = division.source := by
  induction patterns generalizing division with
  | nil => exact ⟨rfl, rfl⟩
  | cons entity rest ih =>
      have member := known entity List.mem_cons_self
      obtain ⟨masked, source⟩ :=
        ih (fun later inside => known later (List.mem_cons_of_mem entity inside))
          (labelled.search tables member)
      rw [Division.masked_search division (labelled.fenced tables member)] at masked
      rw [Division.source_search] at source
      exact ⟨masked, source⟩

/-- What redaction leaves is the text with the labels in place of its entities. -/
theorem entities_masked (text : List Char)
    : (entities tables text).masked = maskCells tables (piiPatterns tables) (placed text) :=
  (foldl_search tables (fun _ member => member) (fun _ inside => by contradiction)).1

@[simp]
theorem entities_source (text : List Char) : (entities tables text).source = placed text :=
  (foldl_search tables (fun _ member => member) (fun _ inside => by contradiction)).2

theorem redactPii_eq_entities (text : List Char)
    : redactPii tables text = spell (entities tables text).masked := by
  rw [entities_masked, spell_maskCells, spell_placed, redactPii]

/-- What is bracketed behind a text and has no telling characters is left as it is, by
induction on the patterns.
-/
theorem redactPii_append_bracketed {inner : List Char} (silent : ∀ c ∈ inner, ¬Telling tables c)
    (text : List Char)
    : redactPii tables (text ++ (labelMask tables inner).text)
      = redactPii tables text ++ (labelMask tables inner).text := by
  have each {patterns : List PiiPattern}
      (known : ∀ entity ∈ patterns, entity ∈ piiPatterns tables) (text : List Char)
      : patterns.foldl (fun content entity => entity.mask tables.word content)
            (text ++ (labelMask tables inner).text)
        = patterns.foldl (fun content entity => entity.mask tables.word content) text
          ++ (labelMask tables inner).text := by
    induction patterns generalizing text with
    | nil => rfl
    | cons entity rest ih =>
        have avoids := piiPatterns_avoid tables silent (known entity List.mem_cons_self)
        rw [List.foldl_cons, List.foldl_cons, PiiPattern.mask,
          Pattern.replaceAll_append_mask avoids]
        exact ih (fun later member => known later (List.mem_cons_of_mem entity member)) _
  exact each (fun _ member => member) text

/-- Redaction exchanges the entities of a text for their labels. -/
theorem byteLength_redactPii (text : List Char)
    : byteLength (redactPii tables text) + (entities tables text).hitBytes
      = byteLength text + (entities tables text).labelBytes := by
  have exchanged := (entities tables text).byteLength_masked
  rwa [entities_source, spell_placed, ← redactPii_eq_entities] at exchanged

end Entities

end Intellisphere.Sphere
