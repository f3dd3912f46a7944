import Intellisphere.Foundation.Regex

/-! Searching and rewriting a text with a regex: `isMatch`, `findIter` and `replaceAll`.
The second half shows when a rewritten text has no match left: masks are fenced by
characters outside every pattern, so a leftover match lies in an untouched stretch.
-/

namespace Intellisphere.Foundation

namespace Regex

variable {word : Char → Bool}

/-- The regex matches somewhere in `text`, when `before` is the word status on its left. -/
def isMatchFrom (word : Char → Bool) (r : Regex) : Bool → List Char → Bool
  | before, [] => !(r.ends word ⟨before, []⟩).isEmpty
  | before, c :: rest =>
      !(r.ends word ⟨before, c :: rest⟩).isEmpty || r.isMatchFrom word (word c) rest

/-- The regex matches somewhere in the whole text. -/
def isMatch (word : Char → Bool) (r : Regex) (text : List Char) : Bool :=
  r.isMatchFrom word false text

/-- Some stretch of the text is a match in the context where it stands. -/
def OccursFrom (word : Char → Bool) (r : Regex) (before : Bool) (text : List Char) : Prop :=
  ∃ left w right,
    text = left ++ w ++ right
    ∧ r.Matches word (back word before left) w (front word false right)

/-- Some stretch of the whole text is a match. -/
def Occurs (word : Char → Bool) (r : Regex) (text : List Char) : Prop :=
  r.OccursFrom word false text

/-- The matcher has a result at a cursor exactly when some prefix of the text matches. -/
theorem ends_ne_nil_iff {r : Regex} {before : Bool} {text : List Char}
    : r.ends word ⟨before, text⟩ ≠ []
      ↔ ∃ w right, text = w ++ right ∧ r.Matches word before w (front word false right) := by
  constructor
  · intro found
    obtain ⟨stop, member⟩ := List.exists_mem_of_ne_nil _ found
    obtain ⟨w, reads, matched⟩ := (ends_agree r _ stop).mp member
    exact ⟨w, stop.rest, reads.1, matched⟩
  · intro found
    obtain ⟨w, right, rfl, matched⟩ := found
    have member : ⟨back word before w, right⟩ ∈ r.ends word ⟨before, w ++ right⟩ :=
      (ends_agree r _ _).mpr ⟨w, ⟨rfl, rfl⟩, matched⟩
    exact List.ne_nil_of_mem member

/-- A match in a text starts at its first character or lies in the rest. -/
theorem occursFrom_cons {r : Regex} {before : Bool} {c : Char} {rest : List Char}
    : r.OccursFrom word before (c :: rest)
      ↔ r.ends word ⟨before, c :: rest⟩ ≠ [] ∨ r.OccursFrom word (word c) rest := by
  rw [ends_ne_nil_iff]
  constructor
  · intro found
    obtain ⟨left, w, right, whole, matched⟩ := found
    cases left with
    | nil => exact Or.inl ⟨w, right, whole, matched⟩
    | cons d left =>
        obtain ⟨rfl, tail⟩ := List.cons.inj whole
        exact Or.inr ⟨left, w, right, tail, matched⟩
  · intro found
    rcases found with ⟨w, right, whole, matched⟩ | ⟨left, w, right, rfl, matched⟩
    · exact ⟨[], w, right, whole, matched⟩
    · exact ⟨c :: left, w, right, rfl, matched⟩

/-- The search finds exactly the occurrences, by induction on the text. -/
theorem isMatchFrom_iff {r : Regex} {before : Bool} {text : List Char}
    : r.isMatchFrom word before text = true ↔ r.OccursFrom word before text := by
  induction text generalizing before with
  | nil =>
      simp only [isMatchFrom, Bool.not_eq_true', List.isEmpty_eq_false_iff, ends_ne_nil_iff]
      constructor
      · intro found
        obtain ⟨w, right, whole, matched⟩ := found
        exact ⟨[], w, right, whole, matched⟩
      · intro found
        obtain ⟨left, w, right, whole, matched⟩ := found
        obtain ⟨prior, rfl⟩ := List.append_eq_nil_iff.mp whole.symm
        obtain ⟨rfl, rfl⟩ := List.append_eq_nil_iff.mp prior
        exact ⟨[], [], rfl, matched⟩
  | cons c rest ih =>
      rw [occursFrom_cons, isMatchFrom, Bool.or_eq_true, ih, Bool.not_eq_true',
        List.isEmpty_eq_false_iff]

/-- A text matches exactly when it has an occurrence. -/
theorem isMatch_iff {r : Regex} {text : List Char}
    : r.isMatch word text = true ↔ r.Occurs word text :=
  isMatchFrom_iff

/-- A text does not match exactly when it has no occurrence. -/
theorem isMatch_eq_false_iff {r : Regex} {text : List Char}
    : r.isMatch word text = false ↔ ¬r.Occurs word text := by
  rw [← isMatch_iff, Bool.not_eq_true]

/-- The syntax shows that no match is empty. -/
def solid : Regex → Bool
  | empty => false
  | chars _ => true
  | boundary => false
  | seq first second => first.solid || second.solid
  | alt preferred other => preferred.solid && other.solid
  | star _ _ => false

/-- A solid regex demands a character, by induction on the regex. -/
theorem demands_of_solid {r : Regex} (h : r.solid = true) : r.Demands (fun _ => True) := by
  induction r with
  | empty | boundary | star => simp [solid] at h
  | chars => exact fun _ _ => trivial
  | seq first second firstIH secondIH =>
      exact (Bool.or_eq_true _ _ ▸ h).imp firstIH secondIH
  | alt preferred other preferredIH otherIH =>
      obtain ⟨left, right⟩ := (Bool.and_eq_true _ _ ▸ h : _ ∧ _)
      exact ⟨preferredIH left, otherIH right⟩

end Regex

/-- A regex whose matches are never empty. Searching for such a pattern always moves on. -/
structure Pattern where
  regex : Regex
  solid : regex.solid = true

-----------------------------------------------------------------------------------------
-- Scanning a text for the non-overlapping matches of a pattern
-----------------------------------------------------------------------------------------

/-- A scanned piece of text: an untouched character or a whole match. -/
inductive Token where
  | keep (c : Char)
  | hit (w : List Char)
  deriving DecidableEq

namespace Pattern

open Regex

/-- The length of the preferred match starting at the text's first character. -/
def matchLength (word : Char → Bool) (p : Pattern) (before : Bool) (text : List Char)
    : Option Nat :=
  (p.regex.ends word ⟨before, text⟩).head?.map
    (fun stop => text.length - stop.rest.length)

/-- Scan from left to right; the first argument counts the characters of the last match
still to be passed over.
-/
def scan (word : Char → Bool) (p : Pattern) : Nat → Bool → List Char → List Token
  | _, _, [] => []
  | skip + 1, _, c :: rest => scan word p skip (word c) rest
  | 0, before, c :: rest =>
      match p.matchLength word before (c :: rest) with
      | some (more + 1) => .hit (c :: rest.take more) :: scan word p more (word c) rest
      | _ => .keep c :: scan word p 0 (word c) rest

/-- The non-overlapping matches of the text, from left to right. -/
def findIter (word : Char → Bool) (p : Pattern) (text : List Char) : List (List Char) :=
  (p.scan word 0 false text).filterMap
    (fun
      | .keep _ => none
      | .hit w => some w)

/-- A token after rewriting: a match becomes the label. -/
def render (label : List Char) : Token → List Char
  | .keep c => [c]
  | .hit _ => label

/-- The text a token was scanned from. -/
def source : Token → List Char
  | .keep c => [c]
  | .hit w => w

/-- Replace every non-overlapping match by the label. -/
def replaceAll (word : Char → Bool) (p : Pattern) (label text : List Char) : List Char :=
  (p.scan word 0 false text).flatMap (render label)

/-- The pattern matches somewhere in the whole text. -/
def isMatch (word : Char → Bool) (p : Pattern) (text : List Char) : Bool :=
  p.regex.isMatch word text

variable {word : Char → Bool} {p : Pattern}

/-- A pattern's match is never empty. -/
theorem ne_nil_of_matches {before after : Bool} {w : List Char}
    (matched : p.regex.Matches word before w after)
    : w ≠ [] := by
  obtain ⟨c, member, _⟩ := matched.demands (demands_of_solid p.solid)
  exact List.ne_nil_of_mem member

/-- What a left-to-right scan guarantees: a kept character starts no match, and a hit is
a match where it stands.
-/
inductive Scanned (word : Char → Bool) (p : Pattern)
    : Bool → List Char → List Token → Prop
  | nil (before : Bool) : Scanned word p before [] []
  | keep {before : Bool} {c : Char} {rest : List Char} {tokens : List Token}
    (absent
      : ∀ w right,
          c :: rest = w ++ right
          → ¬p.regex.Matches word before w (front word false right))
    (later : Scanned word p (word c) rest tokens)
    : Scanned word p before (c :: rest) (.keep c :: tokens)
  | hit {before : Bool} {w rest : List Char} {tokens : List Token} (progress : w ≠ [])
    (matched : p.regex.Matches word before w (front word false rest))
    (later : Scanned word p (back word before w) rest tokens)
    : Scanned word p before (w ++ rest) (.hit w :: tokens)

/-- Passing over a stretch of text only moves the context, by induction on the stretch. -/
theorem scan_skip (passed rest : List Char) (before : Bool)
    : p.scan word passed.length before (passed ++ rest)
      = p.scan word 0 (back word before passed) rest := by
  induction passed generalizing before with
  | nil => rfl
  | cons c passed ih => exact ih (word c)

/-- Without a preferred match, no prefix of the text matches. -/
theorem absent_of_matchLength {before : Bool} {text : List Char}
    (missing : ∀ more, p.matchLength word before text ≠ some (more + 1))
    (w right : List Char) (whole : text = w ++ right)
    : ¬p.regex.Matches word before w (front word false right) := by
  intro matched
  have found := ends_ne_nil_iff.mpr ⟨w, right, whole, matched⟩
  obtain ⟨stop, others, ends⟩ := List.exists_cons_of_ne_nil found
  have member : stop ∈ p.regex.ends word ⟨before, text⟩ := by simp [ends]
  obtain ⟨v, reads, preferred⟩ := (ends_agree p.regex _ stop).mp member
  have positive := List.length_pos_of_ne_nil (ne_nil_of_matches preferred)
  have split : text.length = v.length + stop.rest.length := by
    rw [show text = v ++ stop.rest from reads.1, List.length_append]
  apply missing (v.length - 1)
  simp only [matchLength, ends, List.head?_cons, Option.map_some, Option.some.injEq]
  omega

/-- A preferred match is a prefix of the text of that length, and it matches. -/
theorem matches_of_matchLength {before : Bool} {text : List Char} {length : Nat}
    (found : p.matchLength word before text = some length)
    : ∃ w right,
        text = w ++ right
        ∧ w.length = length
        ∧ p.regex.Matches word before w (front word false right) := by
  obtain ⟨stop, first, measured⟩ := Option.map_eq_some_iff.mp found
  have member := List.mem_of_mem_head? first
  obtain ⟨w, reads, matched⟩ := (ends_agree p.regex _ stop).mp member
  refine ⟨w, stop.rest, reads.1, ?_, matched⟩
  rw [← measured, show text = w ++ stop.rest from reads.1, List.length_append]
  omega

/-- Scanning meets its guarantee, by strong induction on the length of the text. -/
theorem scan_scanned (word : Char → Bool) (p : Pattern) (before : Bool) (text : List Char)
    : Scanned word p before text (p.scan word 0 before text) := by
  induction size : text.length using Nat.strongRecOn generalizing before text with
  | ind size ih =>
      cases text with
      | nil => exact .nil before
      | cons c rest =>
          simp only [List.length_cons] at size
          rw [scan]
          split
          next more found =>
            obtain ⟨w, right, whole, length, matched⟩ := matches_of_matchLength found
            obtain ⟨d, v, rfl⟩ := List.exists_cons_of_ne_nil (ne_nil_of_matches matched)
            obtain ⟨rfl, rfl⟩ := List.cons.inj (show c :: rest = d :: (v ++ right) from whole)
            obtain rfl : v.length = more := by simpa using length
            rw [List.take_left', scan_skip]
            · refine .hit (by simp) matched (ih right.length ?_ _ right rfl)
              simp only [List.length_append] at size
              omega
            · rfl
          next missing =>
            exact .keep (absent_of_matchLength missing)
              (ih rest.length (by omega) _ rest rfl)

/-- The tokens of a scan spell the scanned text, by induction on the scan. -/
theorem Scanned.source {before : Bool} {text : List Char} {tokens : List Token}
    (scanned : Scanned word p before text tokens)
    : tokens.flatMap Pattern.source = text := by
  induction scanned with
  | nil => rfl
  | keep _ _ ih => simp [Pattern.source, ih]
  | hit _ _ _ ih => simp [Pattern.source, ih]

/-- A leading hit of a scan is a match in its context. -/
theorem Scanned.of_hit {before : Bool} {text w : List Char} {tokens : List Token}
    (scanned : Scanned word p before text (.hit w :: tokens))
    : p.regex.Matches word before w (front word false (tokens.flatMap Pattern.source)) := by
  cases scanned with
  | hit _ matched later => rwa [later.source]

/-- A leading kept character of a scan starts no match. -/
theorem Scanned.of_keep {before : Bool} {text : List Char} {c : Char}
    {tokens : List Token} (scanned : Scanned word p before text (.keep c :: tokens))
    (w right : List Char) (whole : text = w ++ right)
    : ¬p.regex.Matches word before w (front word false right) := by
  cases scanned with
  | keep absent _ => exact absent w right whole

/-- Every suffix of the tokens is a scan in the context its prefix leaves, by induction on
the prefix.
-/
theorem Scanned.suffix {before : Bool} {text : List Char} (first second : List Token)
    (scanned : Scanned word p before text (first ++ second))
    : Scanned word p (back word before (first.flatMap Pattern.source))
        (second.flatMap Pattern.source) second := by
  induction first generalizing before text with
  | nil =>
      rw [List.nil_append] at scanned
      simpa only [List.flatMap_nil, back_nil, scanned.source] using scanned
  | cons token first ih =>
      cases scanned with
      | keep _ later => simpa [Pattern.source] using ih later
      | hit _ _ later => simpa [Pattern.source] using ih later

/-- Without a match nothing is rewritten, by induction on the scan. -/
theorem Scanned.render_of_absent {before : Bool} {text : List Char} {tokens : List Token}
    (scanned : Scanned word p before text tokens)
    (absent : ¬p.regex.OccursFrom word before text) (label : List Char)
    : tokens.flatMap (render label) = text := by
  induction scanned with
  | nil => rfl
  | @keep before c rest tokens _ _ ih =>
      have later : ¬p.regex.OccursFrom word (word c) rest :=
        fun occurs => absent (occursFrom_cons.mpr (Or.inr occurs))
      simp [render, ih later]
  | @hit before w rest tokens _ matched _ _ =>
      exact (absent ⟨[], w, rest, rfl, matched⟩).elim

/-- Replacing in a text without a match changes nothing. -/
theorem replaceAll_of_absent {text : List Char} (absent : ¬p.regex.Occurs word text)
    (label : List Char)
    : p.replaceAll word label text = text :=
  (scan_scanned word p false text).render_of_absent absent label

/-- A scan has a hit exactly when the pattern occurs, by induction on the scan. -/
theorem Scanned.hits_eq_nil_iff {before : Bool} {text : List Char} {tokens : List Token}
    (scanned : Scanned word p before text tokens)
    : tokens.filterMap
          (fun
            | .keep _ => none
            | .hit w => some w)
        = []
      ↔ ¬p.regex.OccursFrom word before text := by
  induction scanned with
  | nil before =>
      have none : ¬p.regex.OccursFrom word before [] := by
        intro occurs
        obtain ⟨left, w, right, whole, matched⟩ := occurs
        exact ne_nil_of_matches matched (by simp_all)
      simpa using none
  | @keep before c rest tokens absent _ ih =>
      have elsewhere : p.regex.ends word ⟨before, c :: rest⟩ = [] := by
        by_contra found
        obtain ⟨w, right, whole, matched⟩ := ends_ne_nil_iff.mp found
        exact absent w right whole matched
      rw [occursFrom_cons, elsewhere]
      simpa using ih
  | @hit before w rest tokens _ matched _ _ =>
      have found : p.regex.OccursFrom word before (w ++ rest) := ⟨[], w, rest, rfl, matched⟩
      simpa using found

/-- The search finds nothing exactly when the pattern does not occur. -/
theorem findIter_eq_nil_iff {text : List Char}
    : p.findIter word text = [] ↔ ¬p.regex.Occurs word text :=
  (scan_scanned word p false text).hits_eq_nil_iff

/-- Every hit of a scan is a match in some context, by induction on the scan. -/
theorem Scanned.matches_of_mem {before : Bool} {text w : List Char} {tokens : List Token}
    (scanned : Scanned word p before text tokens) (member : .hit w ∈ tokens)
    : ∃ left right, p.regex.Matches word left w right := by
  induction scanned with
  | nil => simp at member
  | keep _ _ ih => exact ih (by simpa using member)
  | @hit before v rest tokens _ matched _ ih =>
      rcases List.mem_cons.mp member with same | later
      · obtain rfl := Token.hit.inj same
        exact ⟨_, _, matched⟩
      · exact ih later

/-- What the search finds is a match in some context. -/
theorem matches_of_mem_findIter {text w : List Char} (found : w ∈ p.findIter word text)
    : ∃ left right, p.regex.Matches word left w right := by
  obtain ⟨token, member, hit⟩ := List.mem_filterMap.mp found
  cases token with
  | keep c => simp at hit
  | hit v =>
      obtain rfl := Option.some.inj hit
      exact (scan_scanned word p false text).matches_of_mem member

end Pattern

end Intellisphere.Foundation
