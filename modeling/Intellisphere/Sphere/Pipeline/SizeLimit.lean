import Intellisphere.Sphere.Pipeline.Entities

/-! How long the text is that leaves the outbound chain. The size limit runs first, so its
bound holds at the end only when the suffix fits into it and the labels that are written
afterwards are no longer than the entities they replace and the room that is left.
-/

namespace Intellisphere.Sphere

open Intellisphere.Foundation Intellisphere.Foundation.Pattern

/-- The limit leaves room for the suffix, if the suffix is needed. -/
def SuffixFits (maxChars : Nat) (content : List Char) : Prop :=
  byteLength content ≤ maxChars ∨ byteLength truncationSuffix.toList ≤ maxChars

/-- With room for the suffix a limited text fits the limit. -/
theorem limitSize_fits {maxChars : Nat} {content : List Char}
    (fits : SuffixFits maxChars content)
    : byteLength (limitSize maxChars content) ≤ maxChars := by
  rcases Nat.lt_or_ge maxChars (byteLength content) with long | short
  · obtain ⟨kept, limited, _, room⟩ := limitSize_of_gt long
    rw [limited, byteLength_append]
    rcases fits with short | suffix
    · omega
    · omega
  · rwa [limitSize_of_le short]

/-- Without it the bare suffix is left, which is too long. -/
theorem limitSize_of_not_fits {maxChars : Nat} {content : List Char}
    (tight : ¬SuffixFits maxChars content)
    : limitSize maxChars content = truncationSuffix.toList := by
  simp only [SuffixFits, not_or, Nat.not_le] at tight
  obtain ⟨kept, limited, _, room⟩ := limitSize_of_gt tight.1
  have empty : kept = [] := byteLength_eq_zero (by omega)
  rw [limited, empty, List.nil_append]

/-- Redaction finds nothing in the bare suffix. -/
theorem redactPii_truncationSuffix (tables : UnicodeTables)
    : redactPii tables truncationSuffix.toList = truncationSuffix.toList := by
  apply (redactPii_eq_self_iff tables).mpr
  intro entity member occurs
  obtain ⟨left, w, right, whole, matched⟩ := occurs
  obtain ⟨c, inside, telling⟩ := matched.demands (piiPatterns_telling tables entity member)
  apply truncationSuffix_silent tables c
  · rw [whole]
    simp [inside]
  · exact telling

/-- The part of a text that the limit keeps; of the suffix that follows it when it is cut, the
blank belongs to it.
-/
def keptPart (maxChars : Nat) (content : List Char) : List Char :=
  if byteLength content ≤ maxChars then content
  else takeBytes (maxChars - byteLength truncationSuffix.toList) content ++ [' ']

/-- The bytes that are left up to the limit behind that part and the rest of the suffix. -/
def sizeRoom (maxChars : Nat) (content : List Char) : Nat :=
  if byteLength content ≤ maxChars then maxChars - byteLength content
  else
    let truncateAt := maxChars - byteLength truncationSuffix.toList
    truncateAt - byteLength (takeBytes truncateAt content)

/-- The limit can be kept: there is room for the suffix, and with leak detection enabled the
labels of the entities in the part that is kept are no longer than these entities and the
room that is left.
-/
def OutboundConfig.KeepsLimit (tables : UnicodeTables) (config : OutboundConfig)
    (content : List Char)
    : Prop :=
  let maxChars := config.resultSize.maxChars
  let divided := entities tables (keptPart maxChars content)
  SuffixFits maxChars content
  ∧ (config.piiLeakDetection.enabled = true
    → divided.labelBytes ≤ divided.hitBytes + sizeRoom maxChars content)

/-- With room for the suffix, redacting the limited text stays within the limit exactly if the
labels are short enough.
-/
theorem redactPii_limitSize_fits_iff (tables : UnicodeTables) {maxChars : Nat}
    {content : List Char} (fits : SuffixFits maxChars content)
    : byteLength (redactPii tables (limitSize maxChars content)) ≤ maxChars
      ↔ (entities tables (keptPart maxChars content)).labelBytes
        ≤ (entities tables (keptPart maxChars content)).hitBytes
          + sizeRoom maxChars content := by
  have exchanged := byteLength_redactPii tables (keptPart maxChars content)
  rcases Nat.lt_or_ge maxChars (byteLength content) with long | short
  · have suffix : byteLength truncationSuffix.toList ≤ maxChars :=
      fits.resolve_left (Nat.not_le.mpr long)
    have within :=
      (takeBytes_spec (maxChars - byteLength truncationSuffix.toList) content).2
    have split
        : truncationSuffix.toList
          = [' '] ++ (labelMask tables "truncated".toList).text :=
      rfl
    have silent : ∀ c ∈ "truncated".toList, ¬Telling tables c := by
      have mute : "truncated".toList.all isMute = true := by decide
      exact fun c member => not_telling_of_isMute tables (List.all_eq_true.mp mute c member)
    have suffixBytes := congrArg byteLength split
    rw [byteLength_append] at suffixBytes
    rw [keptPart, if_neg (Nat.not_le.mpr long)] at exchanged ⊢
    rw [limitSize_eq_takeBytes long, split, ← List.append_assoc,
      redactPii_append_bracketed tables silent, byteLength_append, ← split, sizeRoom,
      if_neg (Nat.not_le.mpr long)]
    rw [byteLength_append] at exchanged
    dsimp only
    omega
  · rw [keptPart, if_pos short] at exchanged ⊢
    rw [limitSize_of_le short, sizeRoom, if_pos short]
    omega

/-- The text that leaves the outbound chain keeps the enabled size limit exactly when the
suffix fits and the labels of its entities take no more room than there is.
-/
theorem PipelineChain.runOutbound_keepsLimit_iff (tables : UnicodeTables)
    (config : PipelineConfig) (enabled : config.outbound.resultSize.enabled = true)
    (message : Message) (context : PipelineContext)
    : let run := (fromConfig tables config).runOutbound message context
      (run.result = .ok ()
        → byteLength run.message.content.toList ≤ config.outbound.resultSize.maxChars)
      ↔ config.outbound.KeepsLimit tables message.content.toList := by
  have rewrites := fromConfig_outbound tables config
  simp only [runOutbound, rewrites.ok, rewrites.message, forall_const, OutboundConfig.rewrite,
    enabled, if_true, String.toList_ofList, OutboundConfig.KeepsLimit]
  by_cases fits : SuffixFits config.outbound.resultSize.maxChars message.content.toList
  · have sized := limitSize_fits fits
    have redacted := redactPii_limitSize_fits_iff tables fits
    cases config.outbound.piiLeakDetection.enabled with
    | false => simp only [Bool.false_eq_true, if_false, sized, fits, true_and, false_implies]
    | true => simp only [if_true, fits, true_and, forall_const, redacted]
  · have bare := limitSize_of_not_fits fits
    simp only [bare, redactPii_truncationSuffix, ite_self, fits, false_and, iff_false]
    simp only [SuffixFits, not_or] at fits
    exact fits.2

/-- A size limit together with leak detection. -/
def limitedRedaction (maxChars : Nat) : PipelineConfig :=
  {
    outbound :=
      {
        resultSize := { enabled := true, maxChars }
        piiLeakDetection := { enabled := true }
      }
  }

/-- A text of 52 bytes is cut to 50, which keeps an address of 20 bytes; its label has 16. -/
theorem PipelineChain.runOutbound_keepsLimit_iff_example
    : let run := (fromConfig asciiTables (limitedRedaction 50)).runOutbound
        (assistantText "please write to someone.else@mail.io about the order") (.new "r" "s")
      run.result = .ok () → byteLength run.message.content.toList ≤ 50 :=
  (runOutbound_keepsLimit_iff asciiTables (limitedRedaction 50) rfl
    (assistantText "please write to someone.else@mail.io about the order") (.new "r" "s")).mpr
    ⟨.inr (by decide), fun _ => by decide +kernel⟩

/-- An address of six bytes within the limit of ten becomes a mask of sixteen. -/
theorem PipelineChain.runOutbound_exceedsLimit
    : ¬∀ (tables : UnicodeTables) (config : PipelineConfig),
        config.outbound.resultSize.enabled = true
        → ∀ message context,
            let run := (fromConfig tables config).runOutbound message context
            run.result = .ok ()
            → byteLength run.message.content.toList ≤ config.outbound.resultSize.maxChars := by
  intro kept
  have bounded := kept asciiTables (limitedRedaction 10) rfl (assistantText "a@b.io")
    (.new "r" "s")
  have exceeded
      : let run := (fromConfig asciiTables (limitedRedaction 10)).runOutbound
          (assistantText "a@b.io") (.new "r" "s")
        run.result = .ok () ∧ ¬byteLength run.message.content.toList ≤ 10 := by
    decide +kernel
  exact exceeded.2 (bounded exceeded.1)

end Intellisphere.Sphere
