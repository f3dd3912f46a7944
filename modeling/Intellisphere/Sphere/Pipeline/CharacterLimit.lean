import Intellisphere.Sphere.Pipeline.Outbound

/-! The size limit as a limit on characters. It is compared with the length in bytes, and the
suffix of a cut text counts towards it, if it fits at all.
-/

namespace Intellisphere.Sphere

open Intellisphere.Foundation

/-- The filter succeeds with a text of no more characters than the limit. A text that had no
more is left alone, and one that is changed is cut and marked with the suffix.
-/
structure LimitsCharacters (maxChars : Nat) (content : String) (run : FilterRun Failure) : Prop
    where
  ok : run.result = .ok ()
  limited : run.message.content.toList.length ≤ maxChars
  unchanged : content.toList.length ≤ maxChars → run.message.content = content
  cut
    : run.message.content ≠ content
      → ∃ kept,
          kept <+: content.toList
          ∧ run.message.content.toList = kept ++ truncationSuffix.toList

/-- The limit in bytes is one in characters: the text fits in bytes, or it is too long in
characters and the suffix fits.
-/
def CharactersFollowBytes (maxChars : Nat) (content : List Char) : Prop :=
  byteLength content ≤ maxChars
  ∨ (maxChars < content.length ∧ byteLength truncationSuffix.toList ≤ maxChars)

/-- The suffix has as many characters as bytes. -/
theorem truncationSuffix_length
    : truncationSuffix.toList.length = byteLength truncationSuffix.toList := by
  decide

/-- A text that is too long in bytes is limited in characters exactly if it is too long in
characters as well and the suffix fits.
-/
theorem limitSize_characters_iff {maxChars : Nat} {content : List Char}
    (long : maxChars < byteLength content)
    : (limitSize maxChars content).length ≤ maxChars
        ∧ (content.length ≤ maxChars → limitSize maxChars content = content)
      ↔ maxChars < content.length ∧ byteLength truncationSuffix.toList ≤ maxChars := by
  obtain ⟨kept, limited, _, room⟩ := limitSize_of_gt long
  have fewer := length_le_byteLength kept
  have suffix := truncationSuffix_length
  have length
      : (limitSize maxChars content).length
        = kept.length + truncationSuffix.toList.length := by
    rw [limited, List.length_append]
  refine ⟨?_, ?_⟩
  · intro both
    obtain ⟨fits, unchanged⟩ := both
    have suffixFits : byteLength truncationSuffix.toList ≤ maxChars := by omega
    refine ⟨?_, suffixFits⟩
    by_contra short
    have same := congrArg byteLength (unchanged (Nat.le_of_not_lt short))
    rw [limited, byteLength_append] at same
    omega
  · intro both
    obtain ⟨longer, suffixFits⟩ := both
    refine ⟨by omega, ?_⟩
    intro short
    omega

/-- The size limit limits characters exactly where characters follow bytes. -/
theorem resultSize_limitsCharacters_iff (maxChars : Nat) (message : Message)
    (context : PipelineContext)
    : LimitsCharacters maxChars message.content (resultSizeApply maxChars message context)
      ↔ CharactersFollowBytes maxChars message.content.toList := by
  obtain ⟨truncated, same, ok, rewritten⟩ := resultSizeApply_spec maxChars message context
  have content
      : (resultSizeApply maxChars message context).message.content.toList
        = limitSize maxChars message.content.toList := by
    rw [rewritten, limitSize, same, String.toList_ofList]
  have text (other : String)
      : (resultSizeApply maxChars message context).message.content = other
        ↔ limitSize maxChars message.content.toList = other.toList := by
    rw [← String.toList_inj, content]
  unfold CharactersFollowBytes
  rcases Nat.lt_or_ge maxChars (byteLength message.content.toList) with long | short
  · have exceeded : ¬byteLength message.content.toList ≤ maxChars := by omega
    rw [← limitSize_characters_iff long]
    simp only [exceeded, false_or]
    refine ⟨?_, ?_⟩
    · intro limits
      exact ⟨content ▸ limits.limited, fun few => (text _).mp (limits.unchanged few)⟩
    · intro both
      obtain ⟨limited, unchanged⟩ := both
      obtain ⟨kept, cut, isPrefix, _⟩ := limitSize_of_gt long
      refine ⟨ok, content ▸ limited, fun few => (text _).mpr (unchanged few), fun _ => ?_⟩
      exact ⟨kept, isPrefix, content.trans cut⟩
  · have few := length_le_byteLength message.content.toList
    have unchanged := (text message.content).mpr (limitSize_of_le short)
    simp only [short, true_or, iff_true]
    refine ⟨ok, ?_, fun _ => unchanged, fun changed => absurd unchanged changed⟩
    rw [unchanged]
    omega

/-- Eight characters of two bytes each are cut under a limit of fifteen. -/
theorem resultSize_cuts_characters
    : ¬∀ (maxChars : Nat) (message : Message) (context : PipelineContext),
        LimitsCharacters maxChars message.content
          (resultSizeApply maxChars message context) := by
  intro limits
  have unchanged :=
    (limits 15
      {
        role := "assistant"
        content := "éééééééé"
        toolResults := []
        toolCalls := []
      }
      (.new "r" "s")).unchanged
      (by decide +kernel)
  exact absurd unchanged (by decide +kernel)

end Intellisphere.Sphere
