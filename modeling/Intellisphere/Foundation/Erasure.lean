import Intellisphere.Foundation.Provenance
import Mathlib.Data.List.Induction

/-! Erasing the matches of patterns from a text. Within a stretch of the original text no match
is left, so a match in what is left was joined over the place of an erased one.
-/

namespace Intellisphere.Foundation

/-- The cells are a stretch of the original text that begins at the given place. -/
def StandsAt (start : Nat) (cells : List Cell) : Prop :=
  cells.map Cell.place = (List.range' start cells.length).map some

/-- The cells are a stretch of the original text. -/
def Together (cells : List Cell) : Prop :=
  ∃ start, StandsAt start cells

/-- Every cell comes from the original text. -/
def AllPlaced (cells : List Cell) : Prop :=
  ∀ cell ∈ cells, ∃ place, cell.place = some place

namespace Regex

/-- The regex matches cells that have the property, in the context where they stand. -/
def OccursAs (shape : List Cell → Prop) (word : Char → Bool) (r : Regex) (cells : List Cell)
    : Prop :=
  ∃ left w right,
    cells = left ++ w ++ right
    ∧ shape w
    ∧ r.Matches word (back word false (spell left)) (spell w) (front word false (spell right))

end Regex

section Erasing

open Pattern Regex

variable {word : Char → Bool} {p : Pattern} {q : Regex} {tokens : List Token}
  {cells : List Cell}

@[simp]
theorem standsAt_cons (start : Nat) (cell : Cell) (cells : List Cell)
    : StandsAt start (cell :: cells)
      ↔ cell.place = some start ∧ StandsAt (start + 1) cells := by
  simp [StandsAt, List.range'_succ]

theorem placed_allPlaced (text : List Char) : AllPlaced (placed text) := by
  intro cell member
  obtain ⟨item, _, rfl⟩ := List.mem_map.mp member
  exact ⟨item.2, rfl⟩

/-- What is left after erasing was there before, in the same order. -/
theorem Laid.erased_sublist (laid : Laid tokens cells)
    : (renderCells [] tokens cells).Sublist cells := by
  induction laid with
  | nil => exact List.Sublist.refl _
  | keep cell _ ih => exact ih.cons_cons cell
  | hit _ _ ih =>
      rw [renderCells_hit]
      exact ih.trans (List.sublist_append_right _ _)

theorem AllPlaced.erase (allPlaced : AllPlaced cells)
    : AllPlaced (p.replaceCells word [] cells) :=
  fun cell member =>
    allPlaced cell ((scan_laid word p cells).erased_sublist.subset member)

/-- Cells that follow a kept one and stood right after it in the original text were kept one
by one. By induction on them.
-/
theorem Laid.kept_of_prefix {last : Cell} {start : Nat} {w right : List Cell}
    (laid : Laid tokens cells) (ordered : Ordered (last :: cells))
    (allPlaced : AllPlaced cells) (lastPlaced : last.place = some start)
    (stretch : StandsAt (start + 1) w)
    (rendered : renderCells [] tokens cells = w ++ right)
    : ∃ second later,
        tokens = (spell w).map Token.keep ++ second
        ∧ cells = w ++ later
        ∧ Laid second later
        ∧ right = renderCells [] second later := by
  induction w generalizing tokens cells last start with
  | nil => exact ⟨tokens, cells, rfl, rfl, laid, rendered.symm⟩
  | cons c w ih =>
      obtain ⟨placedHere, onward⟩ := (standsAt_cons _ _ _).mp stretch
      have parted : Ordered ([last] ++ cells) := ordered
      cases laid with
      | nil => simp [renderCells] at rendered
      | @keep tokens cells cell later =>
          obtain ⟨rfl, rest⟩ := List.cons.inj rendered
          obtain ⟨second, behind, rfl, rfl, laid, rfl⟩ :=
            ih later parted.right (fun cell member => allPlaced cell (by simp [member]))
              placedHere onward rest
          exact ⟨second, behind, rfl, rfl, laid, rfl⟩
      | @hit own tokens cells progress later =>
          -- the erased cells would have to stand between two neighbours
          obtain ⟨head, tail, rfl⟩ := List.exists_cons_of_ne_nil progress
          obtain ⟨place, found⟩ := allPlaced head (by simp)
          have member : c ∈ cells := by
            refine later.erased_sublist.subset ?_
            rw [renderCells_hit] at rendered
            simp [show renderCells [] tokens cells = c :: (w ++ right) from rendered]
          have after := parted.lt (List.mem_singleton_self last)
            (show head ∈ (head :: tail) ++ cells by simp) lastPlaced found
          have before := parted.right.lt (show head ∈ head :: tail by simp) member found
            placedHere
          omega

/-- A stretch of the original text that is left was kept as it stands. By induction on the
tokens up to it.
-/
theorem Laid.kept_of_together {left w right : List Cell} (laid : Laid tokens cells)
    (ordered : Ordered cells) (allPlaced : AllPlaced cells) (nonempty : w ≠ [])
    (together : Together w) (rendered : renderCells [] tokens cells = left ++ w ++ right)
    : ∃ first second before later,
        tokens = first ++ (spell w).map Token.keep ++ second
        ∧ cells = before ++ w ++ later
        ∧ Laid first before
        ∧ Laid second later
        ∧ left = renderCells [] first before
        ∧ right = renderCells [] second later := by
  induction laid generalizing left with
  | nil => simp_all [renderCells]
  | @keep tokens cells cell laid ih =>
      have parted : Ordered ([cell] ++ cells) := ordered
      have rest : AllPlaced cells := fun cell member => allPlaced cell (by simp [member])
      cases left with
      | nil =>
          obtain ⟨c, w, rfl⟩ := List.exists_cons_of_ne_nil nonempty
          obtain ⟨rfl, tail⟩ := List.cons.inj rendered
          obtain ⟨start, stretch⟩ := together
          obtain ⟨placedHere, stretch⟩ := (standsAt_cons _ _ _).mp stretch
          obtain ⟨second, later, rfl, rfl, laid, rfl⟩ :=
            laid.kept_of_prefix ordered rest placedHere stretch tail
          exact ⟨[], second, [], later, rfl, rfl, .nil, laid, rfl, rfl⟩
      | cons c left =>
          obtain ⟨rfl, tail⟩ := List.cons.inj rendered
          obtain ⟨first, second, before, later, rfl, rfl, front, behind, rfl, rfl⟩ :=
            ih parted.right rest tail
          exact
            ⟨.keep cell.char :: first, second, cell :: before, later, rfl, rfl,
              .keep cell front, behind, rfl, rfl⟩
  | @hit own tokens cells progress laid ih =>
      have rest : AllPlaced cells := fun cell member => allPlaced cell (by simp [member])
      rw [renderCells_hit] at rendered
      obtain ⟨first, second, before, later, rfl, rfl, front, behind, rfl, rfl⟩ :=
        ih ordered.right rest rendered
      refine
        ⟨.hit (spell own) :: first, second, own ++ before, later, rfl, by simp,
          .hit progress front, behind, ?_, rfl⟩
      rw [renderCells_hit]
      rfl

-----------------------------------------------------------------------------------------
-- Whole words in their context
-----------------------------------------------------------------------------------------

/-- Before a match of a whole word stands no word character, erased matches left out. By
induction on the tokens before it, from the right.
-/
theorem back_erased_of_hit (guarded : Guarded word p.regex) (first : List Token)
    {h : List Char} {text : List Char} {second : List Token}
    (scanned : Scanned word p false text (first ++ .hit h :: second))
    : back word false (first.flatMap (render [])) = false := by
  induction first using List.reverseRecOn generalizing h second with
  | nil => rfl
  | append_singleton first token ih =>
      rw [List.append_assoc, List.singleton_append] at scanned
      cases token with
      | keep c =>
          have whole : first ++ .keep c :: .hit h :: second
              = (first ++ [.keep c]) ++ .hit h :: second := by
            simp
          rw [whole] at scanned
          have opens := (guarded.opens (scanned.suffix _ _).of_hit).1
          simpa [render, Pattern.source] using opens
      | hit h' => simpa [render] using ih scanned

/-- The left context of a kept word is the same before and after erasing whole words. -/
theorem left_context_erased (guarded : Guarded word p.regex) (first : List Token)
    {w text : List Char} {second : List Token}
    (scanned : Scanned word p false text (first ++ w.map Token.keep ++ second))
    (starts : ∀ after, front word after w = true)
    : back word false (first.flatMap (render []))
      = back word false (first.flatMap Pattern.source) := by
  rcases List.eq_nil_or_concat first with rfl | ⟨earlier, last, rfl⟩
  · rfl
  rw [List.concat_eq_append, List.append_assoc, List.append_assoc, List.singleton_append]
    at scanned
  cases last with
  | keep c => simp [render, Pattern.source]
  | hit h =>
      have closes := guarded.closes (scanned.suffix earlier _).of_hit
      rw [List.flatMap_append, source_map_keep, front_append, starts] at closes
      have before := back_erased_of_hit guarded earlier scanned
      simp only [List.concat_eq_append, List.flatMap_append, List.flatMap_cons,
        List.flatMap_nil, List.append_nil, back_append, render, Pattern.source, before]
      exact (Bool.eq_false_iff.mpr closes.symm).symm

/-- The right context of a kept word is the same before and after erasing whole words. -/
theorem right_context_erased (guarded : Guarded word p.regex) {first : List Token}
    {w text : List Char} {second : List Token}
    (scanned : Scanned word p false text (first ++ w.map Token.keep ++ second))
    (stops
      : ∀ before, front word false (second.flatMap (render [])) ≠ back word before w)
    : front word false (second.flatMap (render []))
      = front word false (second.flatMap Pattern.source) := by
  cases second with
  | nil => rfl
  | cons next later =>
      cases next with
      | keep c => rfl
      | hit h =>
          obtain ⟨opens, starts⟩ := guarded.opens (scanned.suffix _ _).of_hit
          rw [List.flatMap_append, source_map_keep, back_append] at opens
          have wordAfter
              : front word false ((Token.hit h :: later).flatMap Pattern.source) = true := by
            rw [List.flatMap_cons, front_append]
            exact starts
          have differs := stops (back word false (first.flatMap Pattern.source))
          rw [opens] at differs
          rw [wordAfter]
          exact eq_true_of_ne_false differs

-----------------------------------------------------------------------------------------
-- No match survives within the original text
-----------------------------------------------------------------------------------------

/-- A match within the original text that is left after erasing was kept one by one, and it
matched before, in the context it had then.
-/
theorem kept_of_occursAs {other : Pattern}
    (shape
      : other.regex.Plain ∨ (Guarded word p.regex ∧ Guarded word other.regex))
    (ordered : Ordered cells) (allPlaced : AllPlaced cells)
    (occurs : other.regex.OccursAs Together word (p.replaceCells word [] cells))
    : ∃ first second before w later,
        p.scan word 0 false (spell cells) = first ++ (spell w).map Token.keep ++ second
        ∧ cells = before ++ w ++ later
        ∧ first.flatMap Pattern.source = spell before
        ∧ second.flatMap Pattern.source = spell later
        ∧ Together w
        ∧ other.regex.Matches word (back word false (spell before)) (spell w)
            (front word false (spell later)) := by
  obtain ⟨left, w, right, rendered, together, matched⟩ := occurs
  have nonempty : w ≠ [] := by
    intro empty
    exact ne_nil_of_matches matched (by simp [empty])
  obtain ⟨first, second, before, later, tokens, whole, front, behind, rfl, rfl⟩ :=
    (scan_laid word p cells).kept_of_together ordered allPlaced nonempty together rendered
  refine
    ⟨first, second, before, w, later, tokens, whole, front.source, behind.source, together, ?_⟩
  rw [front.spell_renderCells, behind.spell_renderCells] at matched
  rw [← front.source, ← behind.source]
  rcases shape with plain | ⟨guarded, otherGuarded⟩
  · exact matched.anywhere plain _ _
  · have scanned := scan_scanned word p false (spell cells)
    rw [tokens] at scanned
    have opens := otherGuarded.opens matched
    have closes := otherGuarded.closes matched
    have starts : ∀ after, Regex.front word after (spell w) = true := by
      obtain ⟨c, rest, rfl⟩ := List.exists_cons_of_ne_nil nonempty
      exact fun _ => opens.2
    have stops
        : ∀ before,
            Regex.front word false (second.flatMap (render []))
            ≠ back word before (spell w) := by
      obtain ⟨c, rest, rfl⟩ := List.exists_cons_of_ne_nil nonempty
      exact fun _ => closes
    rwa [left_context_erased guarded first scanned starts,
      right_context_erased guarded scanned stops] at matched

/-- Erasing brings no match of another pattern into a stretch of the original text. -/
theorem not_occursAs_of_erased {other : Pattern}
    (shape
      : other.regex.Plain ∨ (Guarded word p.regex ∧ Guarded word other.regex))
    (ordered : Ordered cells) (allPlaced : AllPlaced cells)
    (absent : ¬other.regex.OccursAs Together word cells)
    : ¬other.regex.OccursAs Together word (p.replaceCells word [] cells) := by
  intro occurs
  obtain ⟨_, _, before, w, later, _, whole, _, _, together, matched⟩ :=
    kept_of_occursAs shape ordered allPlaced occurs
  exact absent ⟨before, w, later, whole, together, matched⟩

/-- Erasing leaves no match of the pattern in a stretch of the original text. -/
theorem not_occursAs_self (shape : p.regex.Plain ∨ Guarded word p.regex)
    (ordered : Ordered cells) (allPlaced : AllPlaced cells)
    : ¬p.regex.OccursAs Together word (p.replaceCells word [] cells) := by
  intro occurs
  obtain ⟨first, second, before, w, later, tokens, _, front, behind, _, matched⟩ :=
    kept_of_occursAs (shape.imp_right (fun guarded => ⟨guarded, guarded⟩)) ordered allPlaced
      occurs
  have nonempty := ne_nil_of_matches matched
  rw [← front, ← behind] at matched
  exact not_matches_of_kept tokens nonempty matched

end Erasing

end Intellisphere.Foundation
