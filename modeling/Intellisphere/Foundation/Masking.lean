import Intellisphere.Foundation.RegexRewriting

/-! Replacing matches by masks. A mask is fenced by two non-word characters that no pattern
uses, so a match left in the masked text stood untouched in the original text, and the
place where the first match stood is visibly overwritten.
-/

namespace Intellisphere.Foundation

open Regex Pattern

/-- A replacement label fenced by non-word characters. -/
structure Mask (word : Char → Bool) where
  opening : Char
  inner : List Char
  closing : Char
  openingOutside : word opening = false
  closingOutside : word closing = false

/-- The label as text. -/
def Mask.text {word : Char → Bool} (mask : Mask word) : List Char :=
  mask.opening :: (mask.inner ++ [mask.closing])

/-- No match of the regex overlaps the mask: matches never use its fences, and each has a
character that its inside lacks.
-/
structure Avoids {word : Char → Bool} (r : Regex) (mask : Mask word) : Prop where
  opening : r.Within (· ≠ mask.opening)
  closing : r.Within (· ≠ mask.closing)
  outside : r.Demands (· ∉ mask.inner)

/-- Matches start and end at word boundaries and start with a word character. -/
structure Guarded (word : Char → Bool) (r : Regex) : Prop where
  opens
    : ∀ {before w after},
        r.Matches word before w after → before = false ∧ front word after w = true
  closes : ∀ {before w after}, r.Matches word before w after → after ≠ back word before w

/-- A body between two word boundaries is guarded when it leads with word characters. -/
theorem guarded_of_leads {word : Char → Bool} {P : Char → Prop} {body : Regex}
    (leads : body.Leads P) (words : ∀ c, P c → word c = true)
    : Guarded word (.seq .boundary (.seq body .boundary)) := by
  constructor
  · intro before w after found
    obtain ⟨_, v, rfl, ⟨rfl, differs⟩, u, _, rfl, matched, rfl, _⟩ := found
    obtain ⟨c, rest, rfl, holds⟩ := matched.leads leads
    have first := words c holds
    simp_all
  · intro before w after found
    obtain ⟨_, v, rfl, ⟨rfl, _⟩, u, _, rfl, _, rfl, differs⟩ := found
    simpa using differs.symm

section Residue

variable {word : Char → Bool} {mask : Mask word} {p : Pattern} {q : Regex}

/-- Text free of opening fences at the front of a rendering was kept character by
character, by induction on that text.
-/
theorem kept_of_prefix {tokens : List Token} {w right : List Char}
    (rendered : tokens.flatMap (render mask.text) = w ++ right) (free : mask.opening ∉ w)
    : ∃ second,
        tokens = w.map Token.keep ++ second
        ∧ right = second.flatMap (render mask.text) := by
  induction w generalizing tokens with
  | nil => exact ⟨tokens, rfl, rendered.symm⟩
  | cons c w ih =>
      cases tokens with
      | nil => simp at rendered
      | cons token tokens =>
          cases token with
          | keep d =>
              simp only [List.flatMap_cons, render, List.cons_append] at rendered
              obtain ⟨rfl, tail⟩ := List.cons.inj rendered
              obtain ⟨second, rfl, rest⟩ := ih tail (fun member => free (by simp [member]))
              exact ⟨second, rfl, rest⟩
          | hit h =>
              simp only [List.flatMap_cons, render, Mask.text, List.cons_append] at rendered
              obtain ⟨same, _⟩ := List.cons.inj rendered
              exact (free (by simp [same])).elim

/-- A fence-free stretch with a character foreign to the mask does not start inside one: it
would either end inside it or cross its closing fence.
-/
theorem covered_eq_nil {left inside later w right : List Char}
    (label : mask.text = left ++ inside) (tail : w ++ right = inside ++ later)
    (openingFree : mask.opening ∉ w) (closingFree : mask.closing ∉ w)
    (foreign : ∃ c ∈ w, c ∉ mask.inner)
    : inside = [] := by
  rcases List.eq_nil_or_concat inside with none | ⟨body, last, rfl⟩
  · exact none
  · have lastEq : last = mask.closing := by
      have ends := congrArg List.getLast? label
      simpa [Mask.text, List.getLast?_cons] using ends.symm
    subst lastEq
    rcases List.append_eq_append_iff.mp tail with ⟨rest, covered, _⟩ | ⟨rest, crossing, _⟩
    · obtain ⟨c, member, outside⟩ := foreign
      have inLabel : c ∈ mask.text := by
        rw [label, covered]
        simp [member]
      simp only [Mask.text, List.mem_cons, List.mem_append, List.not_mem_nil, or_false]
        at inLabel
      rcases inLabel with rfl | inner | rfl
      · exact (openingFree member).elim
      · exact (outside inner).elim
      · exact (closingFree member).elim
    · exact (closingFree (by simp [crossing])).elim

/-- A fence-free stretch with a character foreign to the mask overlaps no mask, so it was
kept as it stands. By induction on the tokens.
-/
theorem kept_of_rendered {tokens : List Token} {left w right : List Char}
    (rendered : tokens.flatMap (render mask.text) = left ++ w ++ right)
    (openingFree : mask.opening ∉ w) (closingFree : mask.closing ∉ w)
    (foreign : ∃ c ∈ w, c ∉ mask.inner)
    : ∃ first second,
        tokens = first ++ w.map Token.keep ++ second
        ∧ left = first.flatMap (render mask.text)
        ∧ right = second.flatMap (render mask.text) := by
  induction tokens generalizing left with
  | nil =>
      obtain ⟨c, member, _⟩ := foreign
      have empty : w = [] := by simp_all
      simp [empty] at member
  | cons token tokens ih =>
      cases token with
      | keep c =>
          cases left with
          | nil =>
              obtain ⟨second, whole, rest⟩ := kept_of_prefix rendered openingFree
              exact ⟨[], second, whole, rfl, rest⟩
          | cons d left =>
              simp only [List.flatMap_cons, render, List.cons_append] at rendered
              obtain ⟨rfl, tail⟩ := List.cons.inj rendered
              obtain ⟨first, second, rfl, rfl, rest⟩ := ih tail
              exact ⟨.keep c :: first, second, rfl, rfl, rest⟩
      | hit h =>
          simp only [List.flatMap_cons, render, List.append_assoc] at rendered
          obtain ⟨left', before, tail⟩
              : ∃ left',
                  left = mask.text ++ left'
                  ∧ tokens.flatMap (render mask.text) = left' ++ (w ++ right) := by
            rcases List.append_eq_append_iff.mp rendered with past | ⟨inside, label, tail⟩
            · exact past
            · obtain rfl := covered_eq_nil label tail openingFree closingFree foreign
              exact ⟨[], by simpa using label.symm, by simpa using tail.symm⟩
          obtain ⟨first, second, rfl, rfl, rest⟩ := ih (by rw [tail, List.append_assoc])
          exact ⟨.hit h :: first, second, rfl, by rw [before]; rfl, rest⟩

/-- A match in the masked text is a kept stretch of the scan, matching in the context the
masks give it.
-/
theorem kept_of_occurs (avoids : Avoids q mask) {text : List Char}
    (occurs : q.Occurs word (p.replaceAll word mask.text text))
    : ∃ first w second,
        p.scan word 0 false text = first ++ w.map Token.keep ++ second
        ∧ w ≠ []
        ∧ q.Matches word (back word false (first.flatMap (render mask.text))) w
            (front word false (second.flatMap (render mask.text))) := by
  obtain ⟨left, w, right, rendered, matched⟩ := occurs
  have foreign := matched.demands avoids.outside
  obtain ⟨first, second, tokens, rfl, rfl⟩ :=
    kept_of_rendered rendered (fun member => matched.within avoids.opening _ member rfl)
      (fun member => matched.within avoids.closing _ member rfl) foreign
  obtain ⟨c, member, _⟩ := foreign
  exact ⟨first, w, second, tokens, List.ne_nil_of_mem member, matched⟩

/-- The source of a kept stretch is the stretch. -/
theorem source_map_keep (w : List Char)
    : (w.map Token.keep).flatMap Pattern.source = w := by
  induction w with
  | nil => rfl
  | cons c w ih => simp [Pattern.source, ih]

/-- A regex that matches a kept stretch in its original context occurs in the original
text.
-/
theorem occurs_of_kept {text w : List Char} {first second : List Token}
    (tokens : p.scan word 0 false text = first ++ w.map Token.keep ++ second)
    (matched
      : q.Matches word (back word false (first.flatMap Pattern.source)) w
          (front word false (second.flatMap Pattern.source)))
    : q.Occurs word text := by
  have spelled := (scan_scanned word p false text).source
  rw [tokens, List.flatMap_append, List.flatMap_append, source_map_keep] at spelled
  exact ⟨_, w, _, spelled.symm, matched⟩

/-- The scanned pattern itself does not match a kept stretch in its original context. -/
theorem not_matches_of_kept {text w : List Char} {first second : List Token}
    (tokens : p.scan word 0 false text = first ++ w.map Token.keep ++ second)
    (nonempty : w ≠ [])
    : ¬p.regex.Matches word (back word false (first.flatMap Pattern.source)) w
        (front word false (second.flatMap Pattern.source)) := by
  have scanned := scan_scanned word p false text
  rw [tokens, List.append_assoc] at scanned
  have later := scanned.suffix first _
  obtain ⟨c, v, rfl⟩ := List.exists_cons_of_ne_nil nonempty
  simp only [List.map_cons, List.cons_append, List.flatMap_cons, List.flatMap_append,
    source_map_keep] at later
  exact later.of_keep (c :: v) _ rfl

-----------------------------------------------------------------------------------------
-- No match survives masking
-----------------------------------------------------------------------------------------

/-- Masking never brings a boundary-free regex into the text. -/
theorem not_occurs_of_plain (plain : q.Plain) (avoids : Avoids q mask) {text : List Char}
    (absent : ¬q.Occurs word text)
    : ¬q.Occurs word (p.replaceAll word mask.text text) := by
  intro occurs
  obtain ⟨first, w, second, tokens, _, matched⟩ := kept_of_occurs avoids occurs
  exact absent (occurs_of_kept tokens (matched.anywhere plain _ _))

/-- Masking a boundary-free pattern leaves no match of it. -/
theorem not_occurs_self_of_plain (plain : p.regex.Plain) (avoids : Avoids p.regex mask)
    (text : List Char)
    : ¬p.regex.Occurs word (p.replaceAll word mask.text text) := by
  intro occurs
  obtain ⟨first, w, second, tokens, nonempty, matched⟩ := kept_of_occurs avoids occurs
  exact not_matches_of_kept tokens nonempty (matched.anywhere plain _ _)

/-- The left context of a kept guarded match is the same before and after masking: a match
of the guarded pattern just before it would have to end with a non-word character, like
the mask.
-/
theorem left_context_eq (mask : Mask word) (pGuarded : Guarded word p.regex)
    {text w : List Char}
    {first second : List Token}
    (tokens : p.scan word 0 false text = first ++ w.map Token.keep ++ second)
    (starts : ∀ after, front word after w = true)
    : back word false (first.flatMap (render mask.text))
      = back word false (first.flatMap Pattern.source) := by
  rcases List.eq_nil_or_concat first with rfl | ⟨earlier, last, rfl⟩
  · rfl
  cases last with
  | keep c => simp [render, Pattern.source]
  | hit h =>
      have scanned := scan_scanned word p false text
      rw [tokens, List.concat_eq_append, List.append_assoc, List.append_assoc,
        List.singleton_append] at scanned
      have later := scanned.suffix earlier _
      have closes := pGuarded.closes later.of_hit
      rw [List.flatMap_append, source_map_keep, front_append, starts] at closes
      simp only [List.concat_eq_append, List.flatMap_append, List.flatMap_cons,
        List.flatMap_nil, List.append_nil, back_append, render, Pattern.source, Mask.text,
        back_cons, back_nil, mask.closingOutside]
      exact (Bool.eq_false_iff.mpr closes.symm).symm

/-- The right context of a kept guarded match is the same before and after masking: no
mask stands just after it, since the match ends with a word character there.
-/
theorem right_context_eq (mask : Mask word) (pGuarded : Guarded word p.regex)
    {text w : List Char}
    {first second : List Token}
    (tokens : p.scan word 0 false text = first ++ w.map Token.keep ++ second)
    (stops
      : ∀ before, front word false (second.flatMap (render mask.text)) ≠ back word before w)
    : front word false (second.flatMap (render mask.text))
      = front word false (second.flatMap Pattern.source) := by
  cases second with
  | nil => rfl
  | cons next later =>
      cases next with
      | keep c => rfl
      | hit h =>
          have scanned := scan_scanned word p false text
          rw [tokens] at scanned
          have suffix := scanned.suffix _ _
          have opens := (pGuarded.opens suffix.of_hit).1
          rw [List.flatMap_append, source_map_keep, back_append] at opens
          exact (stops _ (mask.openingOutside.trans opens.symm)).elim

/-- A guarded match left in text masked by a guarded pattern is a match of the original
text in its original context.
-/
theorem matches_source_of_kept (pGuarded : Guarded word p.regex) (qGuarded : Guarded word q)
    {text w : List Char} {first second : List Token}
    (tokens : p.scan word 0 false text = first ++ w.map Token.keep ++ second)
    (nonempty : w ≠ [])
    (matched
      : q.Matches word (back word false (first.flatMap (render mask.text))) w
          (front word false (second.flatMap (render mask.text))))
    : q.Matches word (back word false (first.flatMap Pattern.source)) w
        (front word false (second.flatMap Pattern.source)) := by
  obtain ⟨c, v, rfl⟩ := List.exists_cons_of_ne_nil nonempty
  have left := left_context_eq mask pGuarded tokens
    (fun _ => (qGuarded.opens matched).2)
  have right := right_context_eq mask pGuarded tokens
    (fun _ => by simpa using qGuarded.closes matched)
  rwa [left, right] at matched

/-- Masking a guarded pattern never brings a guarded regex into the text. -/
theorem not_occurs_of_guarded (pGuarded : Guarded word p.regex) (qGuarded : Guarded word q)
    (avoids : Avoids q mask) {text : List Char} (absent : ¬q.Occurs word text)
    : ¬q.Occurs word (p.replaceAll word mask.text text) := by
  intro occurs
  obtain ⟨first, w, second, tokens, nonempty, matched⟩ := kept_of_occurs avoids occurs
  exact absent (occurs_of_kept tokens
    (matches_source_of_kept pGuarded qGuarded tokens nonempty matched))

/-- Masking a guarded pattern leaves no match of it. -/
theorem not_occurs_self_of_guarded (guarded : Guarded word p.regex)
    (avoids : Avoids p.regex mask) (text : List Char)
    : ¬p.regex.Occurs word (p.replaceAll word mask.text text) := by
  intro occurs
  obtain ⟨first, w, second, tokens, nonempty, matched⟩ := kept_of_occurs avoids occurs
  exact not_matches_of_kept tokens nonempty
    (matches_source_of_kept guarded guarded tokens nonempty matched)

end Residue

-----------------------------------------------------------------------------------------
-- Masking is visible
-----------------------------------------------------------------------------------------

/-- The first difference between `kept` and `out` is a character of `kept` overwritten by
the mark.
-/
def Overwrites (mark : Char) (kept out : List Char) : Prop :=
  ∃ u c v rest, kept = u ++ c :: v ∧ out = u ++ mark :: rest ∧ c ≠ mark

/-- An overwritten text is not a prefix of the outcome, by cancelling the common part. -/
theorem Overwrites.not_prefix {mark : Char} {kept out : List Char}
    (overwritten : Overwrites mark kept out)
    : ¬kept <+: out := by
  obtain ⟨u, c, v, rest, rfl, rfl, differs⟩ := overwritten
  intro found
  obtain ⟨tail, same⟩ := found
  rw [List.append_assoc] at same
  exact differs (List.cons.inj (List.append_cancel_left same)).1

/-- A character in front of both texts keeps the difference. -/
theorem Overwrites.cons {mark : Char} {kept out : List Char}
    (overwritten : Overwrites mark kept out) (c : Char)
    : Overwrites mark (c :: kept) (c :: out) := by
  obtain ⟨u, d, v, rest, rfl, rfl, differs⟩ := overwritten
  exact ⟨c :: u, d, v, rest, rfl, rfl, differs⟩

/-- Overwriting again leaves a difference to the first text: the earlier of the two marks
is one. Witness: comparison of the two unchanged prefixes.
-/
theorem Overwrites.trans {mark : Char} {kept middle out : List Char}
    (first : Overwrites mark kept middle) (second : Overwrites mark middle out)
    : Overwrites mark kept out := by
  obtain ⟨u, c, v, rest, rfl, rfl, differs⟩ := first
  obtain ⟨u', d, v', rest', split, rfl, differs'⟩ := second
  rcases List.append_eq_append_iff.mp split with ⟨gap, longer, tail⟩ | ⟨gap, shorter, tail⟩
  · cases gap with
    | nil => exact (differs' (List.cons.inj tail).1.symm).elim
    | cons e gap =>
        obtain ⟨rfl, _⟩ := List.cons.inj tail
        exact ⟨u, c, v, gap ++ mark :: rest', rfl, by simp [longer], differs⟩
  · cases gap with
    | nil => exact (differs' (List.cons.inj tail).1).elim
    | cons e gap =>
        obtain ⟨rfl, _⟩ := List.cons.inj tail
        exact ⟨u', d, gap ++ c :: v, rest', by simp [shorter], rfl, differs'⟩

section Visible

variable {word : Char → Bool} {mask : Mask word} {p : Pattern} {P : Char → Prop}

/-- Rewriting a text with a match overwrites the part before any suffix that lacks the
pattern's demanded characters, by induction on the scan up to the first hit.
-/
theorem Pattern.Scanned.overwrites (unfenced : p.regex.Within (· ≠ mask.opening))
    (demands : p.regex.Demands P) {before : Bool} {text kept suffix : List Char}
    {tokens : List Token} (scanned : Scanned word p before text tokens)
    (split : text = kept ++ suffix) (lacking : ∀ c ∈ suffix, ¬P c)
    (occurs : p.regex.OccursFrom word before text)
    : Overwrites mask.opening kept (tokens.flatMap (render mask.text)) := by
  induction scanned generalizing kept with
  | nil =>
      obtain ⟨left, w, right, whole, matched⟩ := occurs
      exact (ne_nil_of_matches matched (by simp_all)).elim
  | @keep before c rest tokens absent _ ih =>
      have later : p.regex.OccursFrom word (word c) rest := by
        rcases occursFrom_cons.mp occurs with here | later
        · obtain ⟨w, right, whole, matched⟩ := ends_ne_nil_iff.mp here
          exact (absent w right whole matched).elim
        · exact later
      cases kept with
      | nil =>
          obtain ⟨left, w, right, whole, matched⟩ := later
          obtain ⟨d, member, demanded⟩ := matched.demands demands
          have inSuffix : d ∈ suffix := by
            rw [← List.nil_append suffix, ← split, whole]
            simp [member]
          exact (lacking d inSuffix demanded).elim
      | cons d kept =>
          obtain ⟨rfl, tail⟩ := List.cons.inj split
          exact (ih tail later).cons c
  | @hit before w rest tokens progress matched _ _ =>
      obtain ⟨c, w, rfl⟩ := List.exists_cons_of_ne_nil progress
      cases kept with
      | nil =>
          obtain ⟨d, member, demanded⟩ := matched.demands demands
          have inSuffix : d ∈ suffix := by
            rw [← List.nil_append suffix, ← split]
            exact List.mem_append_left _ member
          exact (lacking d inSuffix demanded).elim
      | cons d kept =>
          obtain ⟨rfl, _⟩ := List.cons.inj split
          refine ⟨[], c, kept, _, rfl, rfl, matched.within unfenced c (by simp)⟩

/-- Masking a text with a match visibly overwrites it, up to a suffix that lacks the
pattern's demanded characters.
-/
theorem replaceAll_overwrites (unfenced : p.regex.Within (· ≠ mask.opening))
    (demands : p.regex.Demands P) {kept suffix : List Char}
    (lacking : ∀ c ∈ suffix, ¬P c) (occurs : p.regex.Occurs word (kept ++ suffix))
    : Overwrites mask.opening kept (p.replaceAll word mask.text (kept ++ suffix)) :=
  (scan_scanned word p false (kept ++ suffix)).overwrites unfenced demands rfl lacking occurs

/-- Once a text is overwritten, masking more patterns leaves it overwritten. -/
theorem Overwrites.replaceAll (unfenced : p.regex.Within (· ≠ mask.opening))
    {kept out : List Char} (overwritten : Overwrites mask.opening kept out)
    : Overwrites mask.opening kept (p.replaceAll word mask.text out) := by
  by_cases occurs : p.regex.Occurs word out
  · rw [← List.append_nil out] at occurs
    have again := replaceAll_overwrites unfenced (demands_of_solid p.solid) (by simp) occurs
    rw [List.append_nil] at again
    exact overwritten.trans again
  · rwa [replaceAll_of_absent occurs]

end Visible

-----------------------------------------------------------------------------------------
-- One pass after another
-----------------------------------------------------------------------------------------

section Passes

variable {State Pass : Type} {step : State → Pass → State} {Valid : State → Prop}
  {Absent : Pass → State → Prop}

/-- What is absent stays absent through passes that spare it, by induction on them. -/
theorem foldl_absent (valid : ∀ state pass, Valid state → Valid (step state pass)) {kind : Pass}
    (passes : List Pass)
    (spares
      : ∀ pass ∈ passes, ∀ state,
          Valid state → Absent kind state → Absent kind (step state pass))
    {state : State} (start : Valid state) (absent : Absent kind state)
    : Absent kind (passes.foldl step state) := by
  induction passes generalizing state with
  | nil => exact absent
  | cons pass rest ih =>
      exact ih (fun later member => spares later (by simp [member])) (valid state pass start)
        (spares pass (by simp) state start absent)

/-- When each pass removes its own kind and spares the earlier ones, none is left at the end.
By induction on the passes.
-/
theorem foldl_removes (valid : ∀ state pass, Valid state → Valid (step state pass))
    (passes : List Pass)
    (removes : ∀ pass ∈ passes, ∀ state, Valid state → Absent pass (step state pass))
    (spares
      : passes.Pairwise
          (fun earlier later =>
            ∀ state, Valid state → Absent earlier state → Absent earlier (step state later)))
    {state : State} (start : Valid state)
    : ∀ pass ∈ passes, Absent pass (passes.foldl step state) := by
  induction passes generalizing state with
  | nil => simp
  | cons first rest ih =>
      obtain ⟨sparesFirst, sparesRest⟩ := List.pairwise_cons.mp spares
      intro pass member
      rcases List.mem_cons.mp member with rfl | later
      · exact foldl_absent valid rest sparesFirst (valid state pass start)
          (removes pass (by simp) state start)
      · exact ih (fun later member => removes later (by simp [member])) sparesRest
          (valid state first start) pass later

end Passes

end Intellisphere.Foundation
