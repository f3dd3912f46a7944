import Intellisphere.Foundation.Fencing
import Intellisphere.Foundation.Provenance
import Intellisphere.Foundation.Text

/-! What patterns find in a text when each is tried, one after the other, on the stretches that
those before it left. Masking the text pattern by pattern masks just these matches.
-/

namespace Intellisphere.Foundation

/-- A text divided by matches: a stretch, or a stretch before a match, which has a label, and
what follows it.
-/
inductive Division where
  | stretch (cells : List Cell)
  | found (cells : List Cell) (label : List Char) (own : List Cell) (rest : Division)

namespace Division

/-- The whole text. -/
def source : Division → List Cell
  | .stretch cells => cells
  | .found cells _ own rest => cells ++ (own ++ rest.source)

/-- The text with the labels in place of the matches. -/
def masked : Division → List Cell
  | .stretch cells => cells
  | .found cells label _ rest => cells ++ (labelCells label ++ rest.masked)

/-- The matches, each with its label. -/
def hits : Division → List (List Char × List Cell)
  | .stretch _ => []
  | .found _ label own rest => (label, own) :: rest.hits

/-- More cells in front of the first stretch. -/
def prepend (front : List Cell) : Division → Division
  | .stretch cells => .stretch (front ++ cells)
  | .found cells label own rest => .found (front ++ cells) label own rest

/-- A match behind the last stretch, and what follows it. -/
def followedBy : Division → List Char → List Cell → Division → Division
  | .stretch cells, label, own, rest => .found cells label own rest
  | .found cells label' own' rest', label, own, rest =>
      .found cells label' own' (rest'.followedBy label own rest)

/-- The division of scanned cells. -/
def ofTokens (label : List Char) : List Token → List Cell → Division
  | [], _ => .stretch []
  | .keep _ :: tokens, cells => (ofTokens label tokens (cells.drop 1)).prepend (cells.take 1)
  | .hit w :: tokens, cells =>
      .found [] label (cells.take w.length) (ofTokens label tokens (cells.drop w.length))

/-- Search a stretch, as a text of its own. -/
def ofStretch (word : Char → Bool) (p : Pattern) (label : List Char) (cells : List Cell)
    : Division :=
  ofTokens label (p.scan word 0 false (spell cells)) cells

/-- Search every stretch for a pattern. -/
def search (word : Char → Bool) (p : Pattern) (label : List Char) : Division → Division
  | .stretch cells => ofStretch word p label cells
  | .found cells label' own rest =>
      (ofStretch word p label cells).followedBy label' own (rest.search word p label)

section Parts

variable {label : List Char} {tokens : List Token} {cells own : List Cell}

@[simp]
theorem source_prepend (division : Division)
    : (division.prepend cells).source = cells ++ division.source := by
  cases division <;> simp [prepend, source]

@[simp]
theorem masked_prepend (division : Division)
    : (division.prepend cells).masked = cells ++ division.masked := by
  cases division <;> simp [prepend, masked]

@[simp]
theorem hits_prepend (division : Division) : (division.prepend cells).hits = division.hits := by
  cases division <;> rfl

@[simp]
theorem source_followedBy (rest division : Division)
    : (division.followedBy label own rest).source
      = division.source ++ (own ++ rest.source) := by
  induction division with
  | stretch cells => rfl
  | found cells label' own' rest' ih => simp [followedBy, source, ih]

@[simp]
theorem masked_followedBy (rest division : Division)
    : (division.followedBy label own rest).masked
      = division.masked ++ (labelCells label ++ rest.masked) := by
  induction division with
  | stretch cells => rfl
  | found cells label' own' rest' ih => simp [followedBy, masked, ih]

@[simp]
theorem hits_followedBy (rest division : Division)
    : (division.followedBy label own rest).hits
      = division.hits ++ (label, own) :: rest.hits := by
  induction division with
  | stretch cells => rfl
  | found cells label' own' rest' ih => simp [followedBy, hits, ih]

theorem source_ofTokens (laid : Laid tokens cells)
    : (ofTokens label tokens cells).source = cells := by
  induction laid with
  | nil => rfl
  | keep cell _ ih => simp [ofTokens, ih]
  | hit _ _ ih => simp [ofTokens, source, ih]

/-- Scanned cells are masked by rewriting them. -/
theorem masked_ofTokens (laid : Laid tokens cells)
    : (ofTokens label tokens cells).masked = renderCells label tokens cells := by
  induction laid with
  | nil => rfl
  | keep cell _ ih => simp [ofTokens, ih]
  | hit _ _ ih => simp [ofTokens, masked, ih]

theorem label_of_mem_ofTokens {hit : List Char × List Cell}
    (member : hit ∈ (ofTokens label tokens cells).hits)
    : hit.1 = label := by
  induction tokens generalizing cells with
  | nil => simp [ofTokens, hits] at member
  | cons token tokens ih =>
      cases token with
      | keep c =>
          rw [ofTokens, hits_prepend] at member
          exact ih member
      | hit w =>
          rw [ofTokens, hits] at member
          rcases List.mem_cons.mp member with rfl | later
          · rfl
          · exact ih later

end Parts

-----------------------------------------------------------------------------------------
-- Masking one pattern after another
-----------------------------------------------------------------------------------------

section Search

variable {word : Char → Bool} {p : Pattern} {label : List Char}

/-- Rewriting goes through the parts of a text. -/
theorem renderCells_append {first : List Token} {front : List Cell} (laid : Laid first front)
    (second : List Token) (back : List Cell)
    : renderCells label (first ++ second) (front ++ back)
      = renderCells label first front ++ renderCells label second back := by
  induction laid with
  | nil => rfl
  | keep cell _ ih => simp [ih]
  | hit _ _ ih => simp [ih]

theorem laid_keep (cells : List Cell) : Laid ((spell cells).map Token.keep) cells := by
  induction cells with
  | nil => exact .nil
  | cons cell rest ih => exact .keep cell ih

theorem renderCells_map_keep (cells : List Cell)
    : renderCells label ((spell cells).map Token.keep) cells = cells := by
  induction cells with
  | nil => rfl
  | cons cell rest ih => simp [ih]

/-- A pattern is masked in front of a label and behind it, each part on its own. -/
theorem replaceCells_append_label {mask : Mask word} (avoids : Avoids p.regex mask)
    (front back : List Cell)
    : p.replaceCells word label (front ++ (labelCells mask.text ++ back))
      = p.replaceCells word label front
        ++ (labelCells mask.text ++ p.replaceCells word label back) := by
  have kept := laid_keep (labelCells mask.text)
  have unchanged := @renderCells_map_keep label (labelCells mask.text)
  rw [spell_labelCells] at kept unchanged
  rw [Pattern.replaceCells, spell_append, spell_append, spell_labelCells,
    Pattern.scan_append_mask avoids, List.append_assoc,
    renderCells_append (scan_laid word p front), renderCells_append kept, unchanged]
  rfl

@[simp]
theorem source_search (division : Division)
    : (division.search word p label).source = division.source := by
  induction division with
  | stretch cells => exact source_ofTokens (scan_laid word p cells)
  | found cells label' own rest ih =>
      rw [search, source_followedBy, ofStretch, source_ofTokens (scan_laid word p cells), ih,
        source]

/-- The labels of a division are masks that the pattern avoids. -/
def Fenced (word : Char → Bool) (r : Regex) (division : Division) : Prop :=
  ∀ hit ∈ division.hits, ∃ mask : Mask word, hit.1 = mask.text ∧ Avoids r mask

/-- Searching the stretches masks what the pattern matches in the masked text. By induction on
the division.
-/
theorem masked_search (division : Division) (fenced : division.Fenced word p.regex)
    : (division.search word p label).masked = p.replaceCells word label division.masked := by
  induction division with
  | stretch cells => exact masked_ofTokens (scan_laid word p cells)
  | found cells label' own rest ih =>
      obtain ⟨mask, rfl, avoids⟩ := fenced (label', own) List.mem_cons_self
      have later := ih (fun hit member => fenced hit (List.mem_cons_of_mem _ member))
      rw [search, masked_followedBy, ofStretch, masked_ofTokens (scan_laid word p cells), later,
        masked, replaceCells_append_label avoids]
      rfl

/-- Searching adds one label. -/
theorem label_of_mem_search {division : Division} {hit : List Char × List Cell}
    (member : hit ∈ (division.search word p label).hits)
    : hit.1 = label ∨ ∃ other ∈ division.hits, hit.1 = other.1 := by
  induction division with
  | stretch cells => exact .inl (label_of_mem_ofTokens member)
  | found cells label' own rest ih =>
      rw [search, hits_followedBy] at member
      rcases List.mem_append.mp member with here | later
      · exact .inl (label_of_mem_ofTokens here)
      · rcases List.mem_cons.mp later with rfl | later
        · exact .inr ⟨(label', own), List.mem_cons_self, rfl⟩
        · refine (ih later).imp_right ?_
          intro found
          obtain ⟨other, member, same⟩ := found
          exact ⟨other, List.mem_cons_of_mem _ member, same⟩

end Search

-----------------------------------------------------------------------------------------
-- What is left of the text
-----------------------------------------------------------------------------------------

/-- The cells of the matches are cells of the text. -/
theorem mem_source_of_mem_hits {division : Division} {hit : List Char × List Cell}
    (member : hit ∈ division.hits) {cell : Cell} (inside : cell ∈ hit.2)
    : cell ∈ division.source := by
  induction division with
  | stretch cells => contradiction
  | found cells label own rest ih =>
      rw [source]
      rcases List.mem_cons.mp member with rfl | later
      · exact List.mem_append_right _ (List.mem_append_left _ inside)
      · exact List.mem_append_right _ (List.mem_append_right _ (ih later))

/-- A character of the text is left when it is in none of the matches, by induction on the
division.
-/
theorem mem_masked_iff {division : Division} (ordered : Ordered division.source) {cell : Cell}
    {place : Nat} (placed : cell.place = some place)
    : cell ∈ division.masked
      ↔ cell ∈ division.source ∧ ∀ hit ∈ division.hits, cell ∉ hit.2 := by
  induction division with
  | stretch cells => simp [masked, source, hits]
  | found cells label own rest ih =>
      have fresh : cell ∉ labelCells label := by
        intro member
        simp [place_of_mem_labelCells member] at placed
      have inFront : cell ∈ cells → cell ∉ own ++ rest.source := by
        intro here member
        have less := ordered.lt here member placed placed
        omega
      have inOwn : cell ∈ own → cell ∉ rest.source := by
        intro here member
        have less := ordered.right.lt here member placed placed
        omega
      rw [masked, source, hits, List.forall_mem_cons, List.mem_append, List.mem_append,
        List.mem_append, List.mem_append, ih ordered.right.right]
      refine ⟨?_, ?_⟩
      · intro left
        rcases left with here | label | ⟨later, free⟩
        · have away := inFront here
          refine ⟨.inl here, fun member => away (List.mem_append_left _ member), ?_⟩
          intro hit member inside
          exact away (List.mem_append_right _ (mem_source_of_mem_hits member inside))
        · exact (fresh label).elim
        · exact ⟨.inr (.inr later), fun here => inOwn here later, free⟩
      · intro kept
        obtain ⟨member, notOwn, free⟩ := kept
        rcases member with here | here | later
        · exact .inl here
        · exact (notOwn here).elim
        · exact .inr (.inr ⟨later, free⟩)

/-- The bytes of the matches. -/
def hitBytes : Division → Nat
  | .stretch _ => 0
  | .found _ _ own rest => byteLength (spell own) + rest.hitBytes

/-- The bytes of their labels. -/
def labelBytes : Division → Nat
  | .stretch _ => 0
  | .found _ label _ rest => byteLength label + rest.labelBytes

/-- Masking exchanges the matches for their labels, by induction on the division. -/
theorem byteLength_masked (division : Division)
    : byteLength (spell division.masked) + division.hitBytes
      = byteLength (spell division.source) + division.labelBytes := by
  induction division with
  | stretch cells => rfl
  | found cells label own rest ih =>
      simp only [masked, source, hitBytes, labelBytes, spell_append, spell_labelCells,
        byteLength_append] at ih ⊢
      omega

end Division

end Intellisphere.Foundation
