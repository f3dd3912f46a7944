import Intellisphere.Sphere.Pipeline.Chain

/-! Redaction is complete: no entity pattern matches what the outbound chain lets through.
Labels are bracketed, the patterns use no brackets, and each match holds an at sign or a
digit, which the labels lack.
-/

namespace Intellisphere.Sphere

open Intellisphere.Foundation Intellisphere.Foundation.Regex

/-- A character that is neither of the two label brackets. -/
def NotBracket (c : Char) : Prop :=
  c ≠ '[' ∧ c ≠ ']'

/-- A fixed class that rejects both brackets has no bracket. -/
theorem chars_unbracketed {accepts : Char → Bool} (opening : accepts '[' = false)
    (closing : accepts ']' = false)
    : (chars accepts).Within NotBracket := by
  intro c accepted
  refine ⟨?_, ?_⟩
  · intro same
    rw [same, opening] at accepted
    contradiction
  · intro same
    rw [same, closing] at accepted
    contradiction

/-- An optional regex adds no characters. -/
theorem opt_unbracketed {r : Regex} (shape : r.Within NotBracket)
    : (opt r).Within NotBracket :=
  ⟨shape, trivial⟩

section Entities

variable (tables : UnicodeTables)

/-- A character that labels lack and every match has: an at sign or a digit. -/
def Telling (c : Char) : Prop :=
  c = '@' ∨ tables.digit c = true

instance : DecidablePred (Telling tables) :=
  fun c => inferInstanceAs (Decidable (c = '@' ∨ tables.digit c = true))

/-- ASCII characters other than the at sign and the ten digits. -/
def isMute (c : Char) : Bool :=
  decide (c.toNat < 128) && c != '@' && !c.isDigit

/-- Mute characters are not telling. -/
theorem not_telling_of_isMute {c : Char} (mute : isMute c = true) : ¬Telling tables c := by
  simp only [isMute, Bool.and_eq_true, decide_eq_true_eq, bne_iff_ne, Bool.not_eq_true']
    at mute
  obtain ⟨⟨ascii, noAt⟩, noDigit⟩ := mute
  intro telling
  rcases telling with same | digit
  · exact noAt same
  · rw [tables.digitAscii c ascii, noDigit] at digit
    contradiction

/-- Digits are not brackets. -/
theorem digits_unbracketed : (chars tables.digit).Within NotBracket :=
  chars_unbracketed
    ((tables.digitAscii '[' (by decide)).trans rfl)
    ((tables.digitAscii ']' (by decide)).trans rfl)

/-- Email addresses use no bracket. -/
theorem emailRegex_unbracketed : emailRegex.Within NotBracket := by
  have leading : (chars isEmailLocal).Within NotBracket := chars_unbracketed rfl rfl
  have at_sign : (char '@').Within NotBracket := chars_unbracketed rfl rfl
  have domain : (chars isEmailDomain).Within NotBracket := chars_unbracketed rfl rfl
  have dot : (char '.').Within NotBracket := chars_unbracketed rfl rfl
  have ending : (chars Char.isAlpha).Within NotBracket := chars_unbracketed rfl rfl
  exact ⟨⟨leading, leading⟩, at_sign, ⟨domain, domain⟩, dot, ending.times 2, ending⟩

/-- Phone numbers use no bracket. -/
theorem phoneRegex_unbracketed : (phoneRegex tables).Within NotBracket := by
  have digits := digits_unbracketed tables
  have plus_sign : (char '+').Within NotBracket := chars_unbracketed rfl rfl
  have one : (char '1').Within NotBracket := chars_unbracketed rfl rfl
  have separator : (opt (chars isPhoneSeparator)).Within NotBracket :=
    opt_unbracketed (chars_unbracketed rfl rfl)
  have opening : (opt (char '(')).Within NotBracket :=
    opt_unbracketed (chars_unbracketed rfl rfl)
  have closing : (opt (char ')')).Within NotBracket :=
    opt_unbracketed (chars_unbracketed rfl rfl)
  exact
    ⟨
      opt_unbracketed ⟨opt_unbracketed plus_sign, one, separator⟩,
      opening,
      digits.times 3,
      closing,
      separator,
      digits.times 3,
      separator,
      digits.times 4
    ⟩

/-- Social security numbers use no bracket. -/
theorem ssnRegex_unbracketed : (ssnRegex tables).Within NotBracket := by
  have digits := digits_unbracketed tables
  have dash : (char '-').Within NotBracket := chars_unbracketed rfl rfl
  exact ⟨trivial, ⟨digits.times 3, dash, digits.times 2, dash, digits.times 4⟩, trivial⟩

/-- Card numbers use no bracket. -/
theorem creditCardRegex_unbracketed : (creditCardRegex tables).Within NotBracket := by
  have separated
      : (seqAll [chars tables.digit, star false (chars isCardSeparator)]).Within NotBracket :=
    ⟨digits_unbracketed tables, chars_unbracketed rfl rfl⟩
  exact ⟨trivial, ⟨separated.times 13, separated.upTo 6⟩, trivial⟩

/-- No entity pattern uses a bracket. -/
theorem piiPatterns_unbracketed
    : ∀ entity ∈ piiPatterns tables, entity.pattern.regex.Within NotBracket := by
  simp only [piiPatterns, List.forall_mem_cons]
  exact
    ⟨
      emailRegex_unbracketed,
      phoneRegex_unbracketed tables,
      ssnRegex_unbracketed tables,
      creditCardRegex_unbracketed tables,
      by simp
    ⟩

/-- Every match of an entity pattern has an at sign or a digit. -/
theorem piiPatterns_telling
    : ∀ entity ∈ piiPatterns tables, entity.pattern.regex.Demands (Telling tables) := by
  have digit : (chars tables.digit).Demands (Telling tables) := fun _ => .inr
  have at_sign : (char '@').Demands (Telling tables) := by
    intro c accepted
    exact .inl (by simpa using accepted)
  simp only [piiPatterns, List.forall_mem_cons]
  refine ⟨.inr (.inl at_sign), ?_, ?_, ?_, by simp⟩
  · exact .inr (.inr (.inl (.inl digit)))
  · exact .inr (.inl (.inl (.inl digit)))
  · exact .inr (.inl (.inl (.inl (.inl digit))))

/-- Social security numbers are whole words. -/
theorem ssnRegex_guarded : Guarded tables.word (ssnRegex tables) := by
  have leads : (chars tables.digit).Leads (fun c => tables.digit c = true) := fun _ => id
  exact guarded_of_leads leads tables.wordOfDigit

/-- Card numbers are whole words. -/
theorem creditCardRegex_guarded : Guarded tables.word (creditCardRegex tables) := by
  have leads : (chars tables.digit).Leads (fun c => tables.digit c = true) := fun _ => id
  exact guarded_of_leads leads tables.wordOfDigit

/-- A label between brackets, which are not word characters. -/
def labelMask (inner : List Char) : Mask tables.word where
  opening := '['
  inner
  closing := ']'
  openingOutside := (tables.wordAscii '[' (by decide)).trans rfl
  closingOutside := (tables.wordAscii ']' (by decide)).trans rfl

/-- What makes an entity maskable: its matches have no bracket but a telling character, and
its label is bracketed and has none.
-/
structure Maskable (entity : PiiPattern) (mask : Mask tables.word) : Prop where
  text : entity.maskLabel.toList = mask.text
  opening : mask.opening = '['
  closing : mask.closing = ']'
  silent : ∀ c ∈ mask.inner, ¬Telling tables c

/-- Every entity has a bracketed label without telling characters. -/
theorem piiPatterns_maskable
    : ∀ entity ∈ piiPatterns tables, ∃ mask, Maskable tables entity mask := by
  have bracketed (entity : PiiPattern) (inner : List Char)
      (label : entity.maskLabel.toList = '[' :: (inner ++ [']']))
      (mute : inner.all isMute = true)
      : ∃ mask, Maskable tables entity mask := by
    refine ⟨labelMask tables inner, label, rfl, rfl, ?_⟩
    intro c member
    exact not_telling_of_isMute tables (List.all_eq_true.mp mute c member)
  simp only [piiPatterns, List.forall_mem_cons]
  refine ⟨?_, ?_, ?_, ?_, by simp⟩
  · exact bracketed _ "EMAIL_REDACTED".toList (by dsimp only; decide) (by decide)
  · exact bracketed _ "PHONE_REDACTED".toList (by dsimp only; decide) (by decide)
  · exact bracketed _ "SSN_REDACTED".toList (by dsimp only; decide) (by decide)
  · exact bracketed _ "CREDIT_CARD_REDACTED".toList (by dsimp only; decide) (by decide)

/-- Entity patterns avoid what is bracketed and has no telling characters. -/
theorem piiPatterns_avoid {inner : List Char} (silent : ∀ c ∈ inner, ¬Telling tables c)
    {entity : PiiPattern} (member : entity ∈ piiPatterns tables)
    : Avoids entity.pattern.regex (labelMask tables inner) := by
  have unbracketed := piiPatterns_unbracketed tables entity member
  refine ⟨?_, ?_, ?_⟩
  · exact unbracketed.mono (fun c h => h.1)
  · exact unbracketed.mono (fun c h => h.2)
  · exact (piiPatterns_telling tables entity member).mono
      (fun c telling member => silent c member telling)

/-- So they avoid every entity's label. -/
theorem Maskable.avoids {entity other : PiiPattern} {mask : Mask tables.word}
    (maskable : Maskable tables entity mask) (member : other ∈ piiPatterns tables)
    : Avoids other.pattern.regex mask := by
  obtain ⟨opening, inner, closing, _, _⟩ := mask
  obtain rfl : opening = '[' := maskable.opening
  obtain rfl : closing = ']' := maskable.closing
  exact piiPatterns_avoid tables maskable.silent member

/-- Masking any entity keeps a boundary-free entity out of the text. -/
theorem mask_absent_of_plain {entity other : PiiPattern}
    (member : entity ∈ piiPatterns tables) (otherMember : other ∈ piiPatterns tables)
    (plain : other.pattern.regex.Plain) {text : List Char}
    (absent : ¬other.pattern.regex.Occurs tables.word text)
    : ¬other.pattern.regex.Occurs tables.word (entity.mask tables.word text) := by
  obtain ⟨mask, maskable⟩ := piiPatterns_maskable tables entity member
  rw [PiiPattern.mask, maskable.text]
  exact not_occurs_of_plain plain (maskable.avoids tables otherMember) absent

/-- Masking a whole-word entity keeps a whole-word entity out of the text. -/
theorem mask_absent_of_guarded {entity other : PiiPattern}
    (member : entity ∈ piiPatterns tables) (otherMember : other ∈ piiPatterns tables)
    (guarded : Guarded tables.word entity.pattern.regex)
    (otherGuarded : Guarded tables.word other.pattern.regex) {text : List Char}
    (absent : ¬other.pattern.regex.Occurs tables.word text)
    : ¬other.pattern.regex.Occurs tables.word (entity.mask tables.word text) := by
  obtain ⟨mask, maskable⟩ := piiPatterns_maskable tables entity member
  rw [PiiPattern.mask, maskable.text]
  exact not_occurs_of_guarded guarded otherGuarded (maskable.avoids tables otherMember) absent

/-- Masking an entity removes it. -/
theorem mask_absent_self {entity : PiiPattern} (member : entity ∈ piiPatterns tables)
    (shape : entity.pattern.regex.Plain ∨ Guarded tables.word entity.pattern.regex)
    (text : List Char)
    : ¬entity.pattern.regex.Occurs tables.word (entity.mask tables.word text) := by
  obtain ⟨mask, maskable⟩ := piiPatterns_maskable tables entity member
  rw [PiiPattern.mask, maskable.text]
  rcases shape with plain | guarded
  · exact not_occurs_self_of_plain plain (maskable.avoids tables member) text
  · exact not_occurs_self_of_guarded guarded (maskable.avoids tables member) text

-----------------------------------------------------------------------------------------
-- Masking one entity after another
-----------------------------------------------------------------------------------------

/-- (entity.Spares other) says masking the entity never brings the other one into a text. -/
def PiiPattern.Spares (word : Char → Bool) (entity other : PiiPattern) : Prop :=
  ∀ text,
    ¬other.pattern.regex.Occurs word text
    → ¬other.pattern.regex.Occurs word (entity.mask word text)

/-- When each mask removes its entity and spares the earlier ones, none is left at the end.
-/
theorem foldl_mask_removes {word : Char → Bool} (entities : List PiiPattern)
    (removes
      : ∀ entity ∈ entities, ∀ text,
          ¬entity.pattern.regex.Occurs word (entity.mask word text))
    (spares : entities.Pairwise (fun other entity => entity.Spares word other))
    (text : List Char)
    : ∀ entity ∈ entities,
        ¬entity.pattern.regex.Occurs word
          (entities.foldl (fun text entity => entity.mask word text) text) := by
  let absent (entity : PiiPattern) (text : List Char) : Prop :=
    ¬entity.pattern.regex.Occurs word text
  refine @foldl_removes _ _ _ (fun _ => True) absent (fun _ _ _ => trivial) entities ?_ ?_ text
    trivial
  · exact fun entity member text _ => removes entity member text
  · exact spares.imp (fun spare text _ => spare text)

/-- Emails and phone numbers come first and are boundary-free; the later entities are
whole words.
-/
theorem piiPatterns_order
    : (piiPatterns tables).Pairwise
        (fun other entity =>
          other.pattern.regex.Plain
          ∨ (Guarded tables.word other.pattern.regex
            ∧ Guarded tables.word entity.pattern.regex)) := by
  have email : emailRegex.Plain := by
    simp [emailRegex, seqAll, plus, atLeast, times, char, Plain]
  have phone : (phoneRegex tables).Plain := by
    simp [phoneRegex, seqAll, opt, times, char, Plain]
  have ssn := ssnRegex_guarded tables
  have card := creditCardRegex_guarded tables
  simp [piiPatterns, email, phone, ssn, card]

/-- Every entity is boundary-free or a whole word. -/
theorem piiPatterns_shape
    : ∀ entity ∈ piiPatterns tables,
        entity.pattern.regex.Plain ∨ Guarded tables.word entity.pattern.regex := by
  have email : emailRegex.Plain := by
    simp [emailRegex, seqAll, plus, atLeast, times, char, Plain]
  have phone : (phoneRegex tables).Plain := by
    simp [phoneRegex, seqAll, opt, times, char, Plain]
  have ssn := ssnRegex_guarded tables
  have card := creditCardRegex_guarded tables
  simp [piiPatterns, email, phone, ssn, card]

/-- After redaction no entity occurs in the text. -/
theorem redactPii_removes (text : List Char)
    : ∀ entity ∈ piiPatterns tables,
        ¬entity.pattern.regex.Occurs tables.word (redactPii tables text) := by
  apply foldl_mask_removes
  · intro entity member
    exact mask_absent_self tables member (piiPatterns_shape tables entity member)
  · apply (piiPatterns_order tables).imp_of_mem
    intro other entity otherMember member order text absent
    rcases order with plain | ⟨otherGuarded, guarded⟩
    · exact mask_absent_of_plain tables member otherMember plain absent
    · exact mask_absent_of_guarded tables member otherMember guarded otherGuarded absent

-----------------------------------------------------------------------------------------
-- Redaction is visible
-----------------------------------------------------------------------------------------

/-- Masking absent entities changes nothing, by induction on them. -/
theorem foldl_mask_of_absent {word : Char → Bool} (entities : List PiiPattern)
    {text : List Char}
    (absent : ∀ entity ∈ entities, ¬entity.pattern.regex.Occurs word text)
    : entities.foldl (fun text entity => entity.mask word text) text = text := by
  induction entities with
  | nil => rfl
  | cons entity rest ih =>
      rw [List.foldl_cons, PiiPattern.mask,
        Pattern.replaceAll_of_absent (absent entity (by simp))]
      exact ih (fun later member => absent later (by simp [member]))

/-- An overwritten text stays overwritten while entities are masked, by induction on them.
-/
theorem foldl_mask_overwritten {entities : List PiiPattern}
    (known : ∀ entity ∈ entities, entity ∈ piiPatterns tables) {kept out : List Char}
    (overwritten : Overwrites '[' kept out)
    : Overwrites '[' kept
        (entities.foldl (fun text entity => entity.mask tables.word text) out) := by
  induction entities generalizing out with
  | nil => exact overwritten
  | cons entity rest ih =>
      refine ih (fun later member => known later (by simp [member])) ?_
      have member := known entity (by simp)
      obtain ⟨mask, maskable⟩ := piiPatterns_maskable tables entity member
      simp only [PiiPattern.mask, maskable.text]
      rw [← maskable.opening] at overwritten ⊢
      exact overwritten.replaceAll (maskable.avoids tables member).opening

/-- Masking entities of which one occurs overwrites the text up to a suffix without telling
characters. By induction on the entities, up to the first that occurs.
-/
theorem foldl_mask_overwrites {entities : List PiiPattern}
    (known : ∀ entity ∈ entities, entity ∈ piiPatterns tables) {kept suffix : List Char}
    (silent : ∀ c ∈ suffix, ¬Telling tables c)
    (occurs
      : ∃ entity ∈ entities, entity.pattern.regex.Occurs tables.word (kept ++ suffix))
    : Overwrites '[' kept
        (entities.foldl (fun text entity => entity.mask tables.word text)
          (kept ++ suffix)) := by
  induction entities with
  | nil => simp at occurs
  | cons entity rest ih =>
      have member := known entity (by simp)
      have others (later : PiiPattern) (tail : later ∈ rest) := known later (by simp [tail])
      rw [List.foldl_cons]
      by_cases here : entity.pattern.regex.Occurs tables.word (kept ++ suffix)
      · obtain ⟨mask, maskable⟩ := piiPatterns_maskable tables entity member
        refine foldl_mask_overwritten tables others ?_
        rw [PiiPattern.mask, maskable.text, ← maskable.opening]
        exact replaceAll_overwrites (maskable.avoids tables member).opening
          (piiPatterns_telling tables entity member) silent here
      · rw [PiiPattern.mask, Pattern.replaceAll_of_absent here]
        refine ih others ?_
        obtain ⟨found, inside, matched⟩ := occurs
        rcases List.mem_cons.mp inside with rfl | later
        · exact (here matched).elim
        · exact ⟨found, later, matched⟩

/-- Redacting a text with an entity overwrites it up to a suffix without telling
characters.
-/
theorem redactPii_overwrites {kept suffix : List Char}
    (silent : ∀ c ∈ suffix, ¬Telling tables c)
    (occurs
      : ∃ entity ∈ piiPatterns tables,
          entity.pattern.regex.Occurs tables.word (kept ++ suffix))
    : Overwrites '[' kept (redactPii tables (kept ++ suffix)) :=
  foldl_mask_overwrites tables (fun _ member => member) silent occurs

/-- Redaction leaves a text alone exactly when no entity occurs in it. -/
theorem redactPii_eq_self_iff {text : List Char}
    : redactPii tables text = text
      ↔ ∀ entity ∈ piiPatterns tables, ¬entity.pattern.regex.Occurs tables.word text := by
  refine ⟨?_, fun absent => foldl_mask_of_absent (piiPatterns tables) absent⟩
  intro same entity member occurs
  rw [← List.append_nil text] at occurs
  have overwritten := redactPii_overwrites tables (by simp) ⟨entity, member, occurs⟩
  rw [List.append_nil, same] at overwritten
  exact overwritten.not_prefix (List.prefix_refl text)

/-- The truncation suffix has no telling character. -/
theorem truncationSuffix_silent : ∀ c ∈ truncationSuffix.toList, ¬Telling tables c := by
  have mute : truncationSuffix.toList.all isMute = true := by decide
  intro c member
  exact not_telling_of_isMute tables (List.all_eq_true.mp mute c member)

/-- When the outbound chain leaves a text alone: it fits the size limit, or is the bare
truncation suffix, and no entity pattern matches it, as far as these filters are enabled.
-/
def OutboundConfig.Spares (config : OutboundConfig) (content : String) : Prop :=
  (config.resultSize.enabled = false
    ∨ byteLength content.toList ≤ config.resultSize.maxChars
    ∨ content = truncationSuffix)
  ∧ (config.piiLeakDetection.enabled = false
    ∨ ∀ entity ∈ piiPatterns tables,
        entity.pattern.isMatch tables.word content.toList = false)

/-- Limiting the size and redacting give back a long text only when it is the bare suffix:
a cut text is shorter than the limit allows, and a masked one is overwritten within the
part that was kept.
-/
theorem redactPii_limitSize_eq_self {maxChars : Nat} {content : List Char}
    (same : redactPii tables (limitSize maxChars content) = content)
    : limitSize maxChars content = content := by
  rcases Nat.lt_or_ge maxChars (byteLength content) with long | short
  · obtain ⟨kept, limited, isPrefix, _⟩ := limitSize_of_gt long
    by_cases occurs
        : ∃ entity ∈ piiPatterns tables,
            entity.pattern.regex.Occurs tables.word (kept ++ truncationSuffix.toList)
    · have overwritten := redactPii_overwrites tables (truncationSuffix_silent tables) occurs
      rw [← limited, same] at overwritten
      exact (overwritten.not_prefix isPrefix).elim
    · have absent := (redactPii_eq_self_iff tables
        ).mpr (fun entity member found => occurs ⟨entity, member, found⟩)
      rw [limited] at same ⊢
      rwa [absent] at same
  · exact limitSize_of_le short

/-- The outbound chain leaves a text alone exactly when its configuration spares it. -/
theorem OutboundConfig.rewrite_eq_self_iff (config : OutboundConfig) (content : String)
    : config.rewrite tables content = content ↔ config.Spares tables content := by
  have unmatched
      : (∀ entity ∈ piiPatterns tables,
          entity.pattern.isMatch tables.word content.toList = false)
        ↔ redactPii tables content.toList = content.toList := by
    simp only [redactPii_eq_self_iff, Pattern.isMatch, isMatch_eq_false_iff]
  have sized
      : byteLength content.toList ≤ config.resultSize.maxChars ∨ content = truncationSuffix
        ↔ limitSize config.resultSize.maxChars content.toList = content.toList := by
    rw [limitSize_eq_self_iff, String.toList_inj]
  have text (chars : List Char)
      : String.ofList chars = content ↔ chars = content.toList := by
    rw [← String.toList_inj, String.toList_ofList]
  simp only [Spares, rewrite, text, unmatched, sized]
  cases config.resultSize.enabled <;> cases config.piiLeakDetection.enabled <;>
    simp only [Bool.false_eq_true, if_false, if_true, true_or, false_or, and_true, true_and,
      reduceCtorEq]
  refine ⟨?_, ?_⟩
  · intro same
    have limited := redactPii_limitSize_eq_self tables same
    rw [limited] at same
    exact ⟨limited, same⟩
  · intro both
    rw [both.1, both.2]

/-- With leak detection enabled, no entity pattern matches the content that leaves the
outbound chain. Witness: the chain rewrites the content, last by redaction.
-/
theorem PipelineChain.runOutbound_no_pii (config : PipelineConfig)
    (enabled : config.outbound.piiLeakDetection.enabled = true) (message : Message)
    (context : PipelineContext)
    : ∀ entity ∈ piiPatterns tables,
        entity.pattern.isMatch tables.word
            ((fromConfig tables config).runOutbound message context).message.content.toList
          = false := by
  intro entity member
  rw [runOutbound, (fromConfig_outbound tables config).message]
  simp only [OutboundConfig.rewrite, enabled, if_true, String.toList_ofList]
  exact isMatch_eq_false_iff.mpr (redactPii_removes tables _ entity member)

end Entities

/-- A message of the model with the given text. -/
def assistantText (content : String) : Message :=
  { role := "assistant", content, toolResults := [], toolCalls := [] }

/-- A chain with leak detection enabled. -/
def leakDetection : PipelineConfig :=
  { outbound := { piiLeakDetection := { enabled := true } } }

/-- What the chain makes of a text with an email address and a phone number. -/
def redactedReply : List Char :=
  ((PipelineChain.fromConfig asciiTables leakDetection).runOutbound
      (assistantText "mail a@b.io or call 555-123-4567") (.new "r" "s")
    ).message.content.toList

/-- Redaction at work on that text. -/
theorem PipelineChain.runOutbound_no_pii_example
    : (piiPatterns asciiTables).all
        (fun entity => !entity.pattern.isMatch asciiTables.word redactedReply)
      = true := by
  refine List.all_eq_true.mpr (fun entity member => ?_)
  have absent :=
    PipelineChain.runOutbound_no_pii asciiTables leakDetection rfl
      (assistantText "mail a@b.io or call 555-123-4567") (.new "r" "s") entity member
  exact (Bool.not_eq_true' _).mpr absent

end Intellisphere.Sphere
