import Intellisphere.Foundation.Masking

/-! Where the characters of a rewritten text come from. A cell is a character with its place
in the original text; rewriting keeps the cells outside the matches and puts labels without a
place where the matches stood.
-/

namespace Intellisphere.Foundation

/-- A character and its place in the original text, if it comes from there. -/
structure Cell where
  char : Char
  place : Option Nat
  deriving DecidableEq

/-- The text that cells spell. -/
def spell (cells : List Cell) : List Char :=
  cells.map Cell.char

/-- The characters of a text, each in its place. -/
def placed (text : List Char) : List Cell :=
  text.zipIdx.map (fun item => { char := item.1, place := some item.2 })

/-- The characters of a label come from nowhere. -/
def labelCells (label : List Char) : List Cell :=
  label.map (fun c => { char := c, place := none })

/-- The cells after rewriting: a kept character has its own, a match those of the label. -/
def renderCells (label : List Char) : List Token → List Cell → List Cell
  | [], _ => []
  | .keep _ :: tokens, cells => cells.take 1 ++ renderCells label tokens (cells.drop 1)
  | .hit w :: tokens, cells =>
      labelCells label ++ renderCells label tokens (cells.drop w.length)

/-- The cells of the matches. -/
def hitCells : List Token → List Cell → List Cell
  | [], _ => []
  | .keep _ :: tokens, cells => hitCells tokens (cells.drop 1)
  | .hit w :: tokens, cells => cells.take w.length ++ hitCells tokens (cells.drop w.length)

namespace Pattern

/-- Replace every non-overlapping match by the label. -/
def replaceCells (word : Char → Bool) (p : Pattern) (label : List Char) (cells : List Cell)
    : List Cell :=
  renderCells label (p.scan word 0 false (spell cells)) cells

/-- The cells of the non-overlapping matches. -/
def matchCells (word : Char → Bool) (p : Pattern) (cells : List Cell) : List Cell :=
  hitCells (p.scan word 0 false (spell cells)) cells

end Pattern

/-- The places of the cells that have one, in order. -/
def places (cells : List Cell) : List Nat :=
  cells.filterMap Cell.place

/-- The cells that come from the original text stand in its order. -/
def Ordered (cells : List Cell) : Prop :=
  (places cells).Pairwise (· < ·)

/-- Tokens laid over the cells they were scanned from. -/
inductive Laid : List Token → List Cell → Prop
  | nil : Laid [] []
  | keep {tokens : List Token} {cells : List Cell} (cell : Cell) (later : Laid tokens cells)
    : Laid (.keep cell.char :: tokens) (cell :: cells)
  | hit {own : List Cell} {tokens : List Token} {cells : List Cell} (progress : own ≠ [])
    (later : Laid tokens cells)
    : Laid (.hit (spell own) :: tokens) (own ++ cells)

section Tracing

open Pattern Regex

variable {word : Char → Bool} {p : Pattern} {label : List Char} {tokens : List Token}
  {cells : List Cell}

@[simp]
theorem spell_nil : spell [] = [] :=
  rfl

@[simp]
theorem spell_cons (cell : Cell) (cells : List Cell)
    : spell (cell :: cells) = cell.char :: spell cells :=
  rfl

@[simp]
theorem spell_append (first second : List Cell)
    : spell (first ++ second) = spell first ++ spell second :=
  List.map_append

@[simp]
theorem length_spell (cells : List Cell) : (spell cells).length = cells.length :=
  List.length_map _

@[simp]
theorem spell_placed (text : List Char) : spell (placed text) = text := by
  rw [spell, placed, List.map_map]
  exact List.zipIdx_map_fst 0 text

@[simp]
theorem spell_labelCells (label : List Char) : spell (labelCells label) = label := by
  rw [spell, labelCells, List.map_map]
  exact List.map_id label

/-- The characters of a label have no place. -/
theorem place_of_mem_labelCells {cell : Cell} (member : cell ∈ labelCells label)
    : cell.place = none := by
  obtain ⟨c, _, rfl⟩ := List.mem_map.mp member
  rfl

@[simp]
theorem renderCells_keep (c : Char) (cell : Cell)
    : renderCells label (.keep c :: tokens) (cell :: cells)
      = cell :: renderCells label tokens cells :=
  rfl

@[simp]
theorem renderCells_hit (own : List Cell)
    : renderCells label (.hit (spell own) :: tokens) (own ++ cells)
      = labelCells label ++ renderCells label tokens cells := by
  simp [renderCells]

@[simp]
theorem hitCells_keep (c : Char) (cell : Cell)
    : hitCells (.keep c :: tokens) (cell :: cells) = hitCells tokens cells :=
  rfl

@[simp]
theorem hitCells_hit (own : List Cell)
    : hitCells (.hit (spell own) :: tokens) (own ++ cells)
      = own ++ hitCells tokens cells := by
  simp [hitCells]

/-- The tokens of a scan lie over the cells of the scanned text, by induction on the scan.
-/
theorem Pattern.Scanned.laid {before : Bool} {text : List Char}
    (scanned : Scanned word p before text tokens) (spelled : text = spell cells)
    : Laid tokens cells := by
  induction scanned generalizing cells with
  | nil =>
      obtain rfl := List.map_eq_nil_iff.mp spelled.symm
      exact .nil
  | keep _ _ ih =>
      obtain ⟨cell, later, rfl, rfl, rest⟩ := List.map_eq_cons_iff.mp spelled.symm
      exact .keep cell (ih rest.symm)
  | hit progress _ _ ih =>
      obtain ⟨own, later, rfl, rfl, rest⟩ := List.map_eq_append_iff.mp spelled.symm
      exact .hit (by simpa using progress) (ih rest.symm)

theorem scan_laid (word : Char → Bool) (p : Pattern) (cells : List Cell)
    : Laid (p.scan word 0 false (spell cells)) cells :=
  (scan_scanned word p false (spell cells)).laid rfl

/-- The tokens spell the cells they lie over, by induction on them. -/
theorem Laid.source (laid : Laid tokens cells)
    : tokens.flatMap Pattern.source = spell cells := by
  induction laid with
  | nil => rfl
  | keep cell _ ih => simp [Pattern.source, ih]
  | hit _ _ ih => simp [Pattern.source, ih]

/-- The cells after rewriting spell the rewritten text, by induction on the tokens. -/
theorem Laid.spell_renderCells (laid : Laid tokens cells) (label : List Char)
    : spell (renderCells label tokens cells) = tokens.flatMap (render label) := by
  induction laid with
  | nil => rfl
  | keep cell _ ih => simp [render, ih]
  | hit _ _ ih => simp [render, ih]

@[simp]
theorem spell_replaceCells (label : List Char) (cells : List Cell)
    : spell (p.replaceCells word label cells) = p.replaceAll word label (spell cells) :=
  (scan_laid word p cells).spell_renderCells label

-----------------------------------------------------------------------------------------
-- Which cells are left
-----------------------------------------------------------------------------------------

@[simp]
theorem places_append (first second : List Cell)
    : places (first ++ second) = places first ++ places second :=
  List.filterMap_append

theorem places_cons (cell : Cell) (cells : List Cell)
    : places (cell :: cells) = places [cell] ++ places cells :=
  places_append [cell] cells

theorem mem_places {cell : Cell} {place : Nat} (member : cell ∈ cells)
    (found : cell.place = some place)
    : place ∈ places cells :=
  List.mem_filterMap.mpr ⟨cell, member, found⟩

/-- The characters of the original text stand in order. -/
theorem placed_ordered (text : List Char) : Ordered (placed text) := by
  have indices : places (placed text) = List.range' 0 text.length := by
    rw [places, placed, List.filterMap_map]
    have second : (Cell.place ∘ fun item : Char × Nat => ⟨item.1, some item.2⟩)
        = fun item => some item.2 :=
      rfl
    rw [second, List.filterMap_eq_map', List.zipIdx_map_snd]
  rw [Ordered, indices]
  exact List.pairwise_lt_range'

/-- Rewriting adds no places, by induction on the tokens. -/
theorem Laid.places_sublist (laid : Laid tokens cells) (label : List Char)
    : (places (renderCells label tokens cells)).Sublist (places cells) := by
  have unplaced : places (labelCells label) = [] :=
    List.filterMap_eq_nil_iff.mpr (fun _ => place_of_mem_labelCells)
  induction laid with
  | nil => exact List.Sublist.refl _
  | @keep tokens cells cell _ ih =>
      rw [renderCells_keep, places_cons cell cells,
        places_cons cell (renderCells label tokens cells)]
      exact (List.Sublist.refl _).append ih
  | @hit own _ _ _ _ ih =>
      rw [renderCells_hit, places_append, places_append, unplaced, List.nil_append]
      exact ih.trans (List.sublist_append_right _ _)

/-- Rewriting keeps the order. -/
theorem Ordered.replaceCells (ordered : Ordered cells) (label : List Char)
    : Ordered (p.replaceCells word label cells) :=
  ordered.sublist ((scan_laid word p cells).places_sublist label)

/-- In two parts of ordered cells the places of the first come first. -/
theorem Ordered.lt {first second : List Cell} (ordered : Ordered (first ++ second))
    {left right : Cell} (leftMember : left ∈ first) (rightMember : right ∈ second)
    {leftPlace rightPlace : Nat} (leftPlaced : left.place = some leftPlace)
    (rightPlaced : right.place = some rightPlace)
    : leftPlace < rightPlace := by
  rw [Ordered, places_append] at ordered
  exact
    (List.pairwise_append.mp ordered).2.2 leftPlace (mem_places leftMember leftPlaced)
      rightPlace (mem_places rightMember rightPlaced)

theorem Ordered.right {first second : List Cell} (ordered : Ordered (first ++ second))
    : Ordered second := by
  rw [Ordered, places_append] at ordered
  exact (List.pairwise_append.mp ordered).2.1

theorem Laid.mem_of_mem_hitCells (laid : Laid tokens cells) {cell : Cell}
    (member : cell ∈ hitCells tokens cells)
    : cell ∈ cells := by
  induction laid with
  | nil => exact member
  | keep own _ ih => exact List.mem_cons_of_mem own (ih member)
  | hit _ _ ih =>
      rw [hitCells_hit] at member
      rcases List.mem_append.mp member with own | later
      · exact List.mem_append_left _ own
      · exact List.mem_append_right _ (ih later)

/-- A character of the original text is left exactly when it is in none of the matches, by
induction on the tokens.
-/
theorem Laid.mem_renderCells_iff (laid : Laid tokens cells) (ordered : Ordered cells)
    (label : List Char) {cell : Cell} {place : Nat} (found : cell.place = some place)
    : cell ∈ renderCells label tokens cells
      ↔ cell ∈ cells ∧ cell ∉ hitCells tokens cells := by
  induction laid with
  | nil => simp [renderCells]
  | @keep tokens cells own laid ih =>
      have parted : Ordered ([own] ++ cells) := ordered
      have apart : cell ∈ cells → cell ≠ own := by
        intro later same
        have before := parted.lt (List.mem_singleton_self own) later (same ▸ found) found
        omega
      rw [renderCells_keep, hitCells_keep, List.mem_cons, List.mem_cons, ih parted.right]
      refine ⟨?_, ?_⟩
      · intro left
        rcases left with same | ⟨later, kept⟩
        · exact ⟨.inl same, fun hit => apart (laid.mem_of_mem_hitCells hit) same⟩
        · exact ⟨.inr later, kept⟩
      · intro ⟨member, kept⟩
        exact member.imp_right (fun later => ⟨later, kept⟩)
  | @hit own tokens cells progress laid ih =>
      have apart : cell ∈ cells → cell ∉ own := by
        intro later here
        have before := ordered.lt here later found found
        omega
      have fresh : cell ∉ labelCells label := by
        intro member
        simp [place_of_mem_labelCells member] at found
      rw [renderCells_hit, hitCells_hit, List.mem_append, List.mem_append, List.mem_append,
        ih ordered.right]
      refine ⟨?_, ?_⟩
      · intro left
        rcases left with label | ⟨later, kept⟩
        · exact (fresh label).elim
        · exact ⟨.inr later, fun hit => hit.elim (apart later) kept⟩
      · intro ⟨member, kept⟩
        rcases member with here | later
        · exact (kept (.inl here)).elim
        · exact .inr ⟨later, fun hit => kept (.inr hit)⟩

theorem mem_replaceCells_iff (ordered : Ordered cells) (label : List Char) {cell : Cell}
    {place : Nat} (found : cell.place = some place)
    : cell ∈ p.replaceCells word label cells
      ↔ cell ∈ cells ∧ cell ∉ p.matchCells word cells :=
  (scan_laid word p cells).mem_renderCells_iff ordered label found

/-- The cells of matches are cells of the text. -/
theorem matchCells_subset {cell : Cell} (member : cell ∈ p.matchCells word cells)
    : cell ∈ cells :=
  (scan_laid word p cells).mem_of_mem_hitCells member

/-- Rewriting a text without a match leaves its cells, by induction on the scan. -/
theorem Pattern.Scanned.renderCells_of_absent {before : Bool} {text : List Char}
    (scanned : Scanned word p before text tokens) (spelled : text = spell cells)
    (absent : ¬p.regex.OccursFrom word before text)
    : renderCells label tokens cells = cells := by
  induction scanned generalizing cells with
  | nil =>
      obtain rfl := List.map_eq_nil_iff.mp spelled.symm
      rfl
  | @keep before c rest tokens _ _ ih =>
      obtain ⟨cell, later, rfl, rfl, tail⟩ := List.map_eq_cons_iff.mp spelled.symm
      rw [renderCells_keep,
        ih tail.symm (fun occurs => absent (occursFrom_cons.mpr (.inr occurs)))]
  | @hit before w rest tokens _ matched _ _ =>
      exact (absent ⟨[], w, rest, rfl, matched⟩).elim

theorem replaceCells_of_absent (absent : ¬p.regex.Occurs word (spell cells))
    : p.replaceCells word label cells = cells :=
  (scan_scanned word p false (spell cells)).renderCells_of_absent rfl absent

end Tracing

end Intellisphere.Foundation
