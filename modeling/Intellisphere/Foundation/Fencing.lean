import Intellisphere.Foundation.Masking

/-! Searching a text piece by piece. What a pattern matches in front of a fence, a non-word
character that it does not use, does not depend on what follows the fence, and nothing is
matched in a mask that it avoids.
-/

namespace Intellisphere.Foundation

namespace Regex

/-- The cursor in a text with more behind it. -/
def Cursor.onto (tail : List Char) (cursor : Cursor) : Cursor :=
  { cursor with rest := cursor.rest ++ tail }

@[simp]
theorem Cursor.onto_wordBefore (tail : List Char) (cursor : Cursor)
    : (cursor.onto tail).wordBefore = cursor.wordBefore :=
  rfl

@[simp]
theorem Cursor.onto_rest (tail : List Char) (cursor : Cursor)
    : (cursor.onto tail).rest = cursor.rest ++ tail :=
  rfl

section Fuel

variable {body : Cursor → List Cursor} {greedy : Bool}

/-- Fuel beyond one round for each remaining character changes nothing, by induction on the
fuel.
-/
theorem rounds_add {fuel : Nat} {start : Cursor} (enough : start.rest.length ≤ fuel)
    (extra : Nat)
    : rounds body greedy (fuel + extra) start = rounds body greedy fuel start := by
  induction fuel generalizing start with
  | zero =>
      have empty : start.rest.length = 0 := Nat.le_zero.mp enough
      cases extra with
      | zero => rfl
      | succ extra => simp [rounds, empty]
  | succ fuel ih =>
      rw [Nat.succ_add]
      have rest
          : ∀ stop ∈ (body start).filter
                (fun stop => stop.rest.length < start.rest.length),
              rounds body greedy (fuel + extra) stop = rounds body greedy fuel stop := by
        intro stop member
        have shorter := of_decide_eq_true (List.mem_filter.mp member).2
        exact ih (by omega)
      simp only [rounds, List.flatMap_congr rest]

end Fuel

section Fence

variable {word : Char → Bool} {fence : Char} {tail : List Char}

/-- A fence counts as the end of the text for word boundaries. -/
theorem front_append_fence (outside : word fence = false) (text : List Char)
    : front word false (text ++ fence :: tail) = front word false text := by
  cases text with
  | nil => exact outside
  | cons c rest => rfl

/-- Rounds in front of a fence, by induction on the fuel. -/
theorem rounds_onto {body : Cursor → List Cursor}
    (inner
      : ∀ start,
          body (start.onto (fence :: tail)) = (body start).map (·.onto (fence :: tail)))
    (greedy : Bool) (fuel : Nat) (start : Cursor)
    : rounds body greedy fuel (start.onto (fence :: tail))
      = (rounds body greedy fuel start).map (·.onto (fence :: tail)) := by
  induction fuel generalizing start with
  | zero => rfl
  | succ fuel ih =>
      have progress (stop : Cursor)
          : decide
                ((stop.onto (fence :: tail)).rest.length
                  < (start.onto (fence :: tail)).rest.length)
            = decide (stop.rest.length < start.rest.length) := by
        simp
      have more
          : ((body (start.onto (fence :: tail))).filter
                (fun stop => stop.rest.length < (start.onto (fence :: tail)).rest.length)
              ).flatMap (rounds body greedy fuel)
            = (((body start).filter (fun stop => stop.rest.length < start.rest.length)
                ).flatMap (rounds body greedy fuel)).map (·.onto (fence :: tail)) := by
        rw [inner, List.filter_map, List.flatMap_map, List.map_flatMap]
        simp only [Function.comp_def, progress, ih]
      simp only [rounds]
      rw [more]
      cases greedy <;> simp

/-- The matcher in front of a fence, by induction on the regex. -/
theorem ends_onto {r : Regex} (unfenced : r.Within (· ≠ fence)) (outside : word fence = false)
    (start : Cursor)
    : r.ends word (start.onto (fence :: tail))
      = (r.ends word start).map (·.onto (fence :: tail)) := by
  induction r generalizing start with
  | empty => rfl
  | chars accepts =>
      obtain ⟨before, rest⟩ := start
      cases rest with
      | nil =>
          have refused : accepts fence = false := by
            by_contra accepted
            exact unfenced fence (by simpa using accepted) rfl
          simp [ends, Cursor.onto, refused]
      | cons c rest =>
          simp only [ends, Cursor.onto, List.cons_append]
          split <;> rfl
  | boundary =>
      simp only [ends, Cursor.onto_wordBefore, Cursor.onto_rest, front_append_fence outside]
      split <;> rfl
  | seq first second firstIH secondIH =>
      simp only [ends, firstIH unfenced.1, List.flatMap_map, List.map_flatMap,
        secondIH unfenced.2]
  | alt preferred other preferredIH otherIH =>
      simp only [ends, preferredIH unfenced.1, otherIH unfenced.2, List.map_append]
  | star greedy body ih =>
      have enough : (start.onto (fence :: tail)).rest.length
          = start.rest.length + (fence :: tail).length := by
        simp [Cursor.onto]
      rw [ends, enough, rounds_onto (ih unfenced), rounds_add (Nat.le_refl _), ends]

end Fence

end Regex

namespace Pattern

open Regex

variable {word : Char → Bool} {p : Pattern}

section Fence

variable {fence : Char} {tail : List Char}

theorem matchLength_append (unfenced : p.regex.Within (· ≠ fence))
    (outside : word fence = false) (before : Bool) (text : List Char)
    : p.matchLength word before (text ++ fence :: tail) = p.matchLength word before text := by
  have ends := @ends_onto word fence tail p.regex unfenced outside ⟨before, text⟩
  rw [Cursor.onto] at ends
  rw [matchLength, ends, matchLength, List.head?_map, Option.map_map]
  congr 1
  funext stop
  simp only [Function.comp_apply, Cursor.onto, List.length_append]
  omega

/-- A text is searched up to a fence as if it ended there. By strong induction on its length.
-/
theorem scan_append (unfenced : p.regex.Within (· ≠ fence)) (outside : word fence = false)
    (before : Bool) (text : List Char)
    : p.scan word 0 before (text ++ fence :: tail)
      = p.scan word 0 before text
        ++ p.scan word 0 (back word before text) (fence :: tail) := by
  induction size : text.length using Nat.strongRecOn generalizing before text with
  | ind size ih =>
      cases text with
      | nil => rfl
      | cons c rest =>
          have same := @matchLength_append word p fence tail unfenced outside before (c :: rest)
          simp only [List.length_cons] at size
          rw [List.cons_append] at same ⊢
          rw [scan, scan, same]
          split
          next more found =>
            obtain ⟨w, right, whole, length, _⟩ := matches_of_matchLength found
            obtain ⟨d, v, rfl⟩ : ∃ d v, w = d :: v := by
              cases w with
              | nil => simp at length
              | cons d v => exact ⟨d, v, rfl⟩
            obtain ⟨rfl, rfl⟩ := List.cons.inj (show c :: rest = d :: (v ++ right) from whole)
            obtain rfl : v.length = more := by simpa using length
            simp only [List.length_append] at size
            rw [List.append_assoc, List.take_left, List.take_left, scan_skip, scan_skip,
              ih right.length (by omega) _ right rfl, List.cons_append, back_cons, back_append]
          next =>
            rw [ih rest.length (by omega) _ rest rfl, List.cons_append, back_cons]

end Fence

/-- A character at which no match starts is kept. -/
theorem scan_keep {before : Bool} {c : Char} {rest : List Char}
    (absent
      : ∀ w right,
          c :: rest = w ++ right
          → ¬p.regex.Matches word before w (front word false right))
    : p.scan word 0 before (c :: rest) = .keep c :: p.scan word 0 (word c) rest := by
  rw [scan]
  split
  next more found =>
    obtain ⟨w, right, whole, _, matched⟩ := matches_of_matchLength found
    exact (absent w right whole matched).elim
  next => rfl

section Mask

variable {mask : Mask word}

/-- A match in a text that starts inside a mask does not exist: it would be inside it or reach
its end.
-/
theorem not_matches_of_inside (avoids : Avoids p.regex mask) {inside : List Char}
    (part : inside ⊆ mask.inner) {before after : Bool} {w right rest : List Char}
    (whole : inside ++ mask.closing :: rest = w ++ right)
    : ¬p.regex.Matches word before w after := by
  intro matched
  obtain ⟨c, member, foreign⟩ := matched.demands avoids.outside
  rcases List.append_eq_append_iff.mp whole with ⟨gap, longer, split⟩ | ⟨gap, shorter, _⟩
  · cases gap with
    | nil =>
        rw [List.append_nil] at longer
        exact foreign (part (longer ▸ member))
    | cons d gap =>
        obtain ⟨rfl, _⟩ := List.cons.inj split
        exact matched.within avoids.closing mask.closing (by simp [longer]) rfl
  · exact foreign (part (shorter ▸ List.mem_append_left _ member))

/-- The rest of a mask is kept, by induction on it. -/
theorem scan_inside (avoids : Avoids p.regex mask) {inside : List Char}
    (part : inside ⊆ mask.inner) (before : Bool) (rest : List Char)
    : p.scan word 0 before (inside ++ mask.closing :: rest)
      = inside.map Token.keep ++ .keep mask.closing :: p.scan word 0 false rest := by
  induction inside generalizing before with
  | nil =>
      have absent (w right : List Char) (whole : mask.closing :: rest = w ++ right)
          : ¬p.regex.Matches word before w (front word false right) :=
        not_matches_of_inside avoids (List.nil_subset _) whole
      rw [List.nil_append, scan_keep absent, mask.closingOutside]
      rfl
  | cons c inside ih =>
      have absent (w right : List Char)
          (whole : c :: (inside ++ mask.closing :: rest) = w ++ right)
          : ¬p.regex.Matches word before w (front word false right) :=
        not_matches_of_inside avoids part whole
      rw [List.cons_append, scan_keep absent,
        ih (fun _ member => part (List.mem_cons_of_mem c member))]
      rfl

/-- A mask is kept, and what follows it is searched on its own. -/
theorem scan_mask (avoids : Avoids p.regex mask) (before : Bool) (rest : List Char)
    : p.scan word 0 before (mask.text ++ rest)
      = mask.text.map Token.keep ++ p.scan word 0 false rest := by
  have absent (w right : List Char)
      (whole : mask.opening :: (mask.inner ++ mask.closing :: rest) = w ++ right)
      : ¬p.regex.Matches word before w (front word false right) := by
    intro matched
    cases w with
    | nil => exact ne_nil_of_matches matched rfl
    | cons c w =>
        obtain ⟨rfl, _⟩ := List.cons.inj whole
        exact matched.within avoids.opening mask.opening (by simp) rfl
  simp only [Mask.text, List.cons_append, List.append_assoc, List.nil_append]
  rw [scan_keep absent, scan_inside avoids (List.Subset.refl _)]
  simp

/-- A text is searched up to a mask and behind it, each part on its own. -/
theorem scan_append_mask (avoids : Avoids p.regex mask) (text rest : List Char)
    : p.scan word 0 false (text ++ (mask.text ++ rest))
      = p.scan word 0 false text ++ mask.text.map Token.keep ++ p.scan word 0 false rest := by
  have fence : mask.text ++ rest = mask.opening :: (mask.inner ++ [mask.closing] ++ rest) :=
    rfl
  rw [fence, scan_append avoids.opening mask.openingOutside, ← fence, scan_mask avoids,
    List.append_assoc]

theorem render_map_keep (label text : List Char)
    : (text.map Token.keep).flatMap (render label) = text := by
  induction text with
  | nil => rfl
  | cons c rest ih => rw [List.map_cons, List.flatMap_cons, ih, render, List.singleton_append]

/-- A mask behind a text is left as it is. -/
theorem replaceAll_append_mask (avoids : Avoids p.regex mask) (label text : List Char)
    : p.replaceAll word label (text ++ mask.text)
      = p.replaceAll word label text ++ mask.text := by
  have scanned := scan_append_mask avoids text []
  rw [List.append_nil] at scanned
  rw [replaceAll, scanned, List.flatMap_append, List.flatMap_append, render_map_keep, scan,
    List.flatMap_nil, List.append_nil]
  rfl

end Mask

end Pattern

end Intellisphere.Foundation
