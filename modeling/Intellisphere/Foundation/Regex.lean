import Mathlib.Data.List.Basic

/-! Regular expressions with word boundaries, under leftmost-first matching.
`Regex.ends` is the backtracking matcher: it lists the places a match may stop, the
preferred one first. `Regex.Matches` is the language, with the word status of the two
neighbouring characters as context, and the two agree.
-/

namespace Intellisphere.Foundation

/-- Regular-expression syntax. A character class is its membership test; `alt` prefers its
first branch, and a greedy `star` prefers another round over stopping.
-/
inductive Regex where
  | empty
  | chars (accepts : Char → Bool)
  | boundary
  | seq (first second : Regex)
  | alt (preferred other : Regex)
  | star (greedy : Bool) (body : Regex)

namespace Regex

/-- (opt r) is the greedy `r?`. -/
def opt (r : Regex) : Regex :=
  alt r empty

/-- (plus r) is the greedy `r+`. -/
def plus (r : Regex) : Regex :=
  seq r (star true r)

/-- (times n r) is `r{n}`. -/
def times : Nat → Regex → Regex
  | 0, _ => empty
  | count + 1, r => seq r (times count r)

/-- (upTo n r) is the greedy `r{0,n}`. -/
def upTo : Nat → Regex → Regex
  | 0, _ => empty
  | count + 1, r => opt (seq r (upTo count r))

/-- (between m n r) is the greedy `r{m,n}`. -/
def between (least most : Nat) (r : Regex) : Regex :=
  seq (times least r) (upTo (most - least) r)

/-- (atLeast m r) is the greedy `r{m,}`. -/
def atLeast (least : Nat) (r : Regex) : Regex :=
  seq (times least r) (star true r)

/-- The regex of one fixed character. -/
def char (c : Char) : Regex :=
  chars (· == c)

/-- The regex of a fixed text. -/
def literal : List Char → Regex
  | [] => empty
  | c :: rest => seq (char c) (literal rest)

/-- (oneOf rs) tries the alternatives in order; with none left nothing matches. -/
def oneOf : List Regex → Regex
  | [] => chars (fun _ => false)
  | [r] => r
  | r :: rest => alt r (oneOf rest)

/-- Word status of the first character of `text`, or `after` when there is none. -/
def front (word : Char → Bool) (after : Bool) : List Char → Bool
  | [] => after
  | c :: _ => word c

/-- Word status of the last character of `text`, or `before` when there is none. -/
def back (word : Char → Bool) (before : Bool) : List Char → Bool
  | [] => before
  | c :: rest => back word (word c) rest

section Contexts

variable (word : Char → Bool)

@[simp]
theorem front_cons (after : Bool) (c : Char) (rest : List Char)
    : front word after (c :: rest) = word c :=
  rfl

@[simp]
theorem back_nil (before : Bool) : back word before [] = before :=
  rfl

@[simp]
theorem back_cons (before : Bool) (c : Char) (rest : List Char)
    : back word before (c :: rest) = back word (word c) rest :=
  rfl

/-- The front of a concatenation is the front of its first part. -/
@[simp]
theorem front_append (after : Bool) (first second : List Char)
    : front word after (first ++ second) = front word (front word after second) first := by
  cases first <;> rfl

/-- The back of a concatenation is the back of its second part, by list induction. -/
@[simp]
theorem back_append (before : Bool) (first second : List Char)
    : back word before (first ++ second) = back word (back word before first) second := by
  induction first generalizing before with
  | nil => rfl
  | cons c rest ih => exact ih (word c)

end Contexts

/-- Finitely many nonempty rounds of `round`, each in the context its neighbours give. -/
inductive Iterated (word : Char → Bool) (round : Bool → List Char → Bool → Prop)
    : Bool → List Char → Bool → Prop
  | done (before after : Bool) : Iterated word round before [] after
  | more {before after : Bool} {first rest : List Char} (progress : first ≠ [])
    (head : round before first (front word after rest))
    (tail : Iterated word round (back word before first) rest after)
    : Iterated word round before (first ++ rest) after

/-- `r.Matches word before w after`: the regex matches exactly `w` when the character to
its left has word status `before` and the one to its right has `after`.
-/
def Matches (word : Char → Bool) : Regex → Bool → List Char → Bool → Prop
  | empty, _, w, _ => w = []
  | chars accepts, _, w, _ => ∃ c, w = [c] ∧ accepts c = true
  | boundary, before, w, after => w = [] ∧ before ≠ after
  | seq first second, before, w, after =>
      ∃ u v,
        w = u ++ v
        ∧ first.Matches word before u (front word after v)
        ∧ second.Matches word (back word before u) v after
  | alt preferred other, before, w, after =>
      preferred.Matches word before w after ∨ other.Matches word before w after
  | star _ body, before, w, after => Iterated word (body.Matches word) before w after

/-- A fixed text matches only itself, by induction on it. -/
theorem matches_literal {word : Char → Bool} {text w : List Char} {before after : Bool}
    (matched : (literal text).Matches word before w after)
    : w = text := by
  induction text generalizing before w with
  | nil => exact matched
  | cons c rest ih =>
      obtain ⟨u, v, rfl, ⟨d, rfl, same⟩, tail⟩ := matched
      rw [ih tail, eq_of_beq same]
      rfl

-----------------------------------------------------------------------------------------
-- The backtracking matcher
-----------------------------------------------------------------------------------------

/-- A place in the text: the word status of the character before it and what follows. -/
structure Cursor where
  wordBefore : Bool
  rest : List Char
  deriving DecidableEq

/-- The cursor reached by reading `w`, when `rest` follows it. -/
def Cursor.Reads (word : Char → Bool) (start : Cursor) (w : List Char) (stop : Cursor)
    : Prop :=
  start.rest = w ++ stop.rest ∧ stop.wordBefore = back word start.wordBefore w

/-- Rounds of a loop body in priority order; a round that reads nothing ends the loop. -/
def rounds (body : Cursor → List Cursor) (greedy : Bool) : Nat → Cursor → List Cursor
  | 0, start => [start]
  | fuel + 1, start =>
      let more :=
        ((body start).filter (fun stop => stop.rest.length < start.rest.length)).flatMap
          (rounds body greedy fuel)
      if greedy then more ++ [start] else start :: more

/-- Every place a match starting at the cursor may stop, in the order a backtracking
matcher tries them. A loop gets one round for each remaining character, since a round that
reads nothing is not repeated.
-/
def ends (word : Char → Bool) : Regex → Cursor → List Cursor
  | empty, start => [start]
  | chars accepts, start =>
      match start.rest with
      | [] => []
      | c :: rest => if accepts c then [⟨word c, rest⟩] else []
  | boundary, start =>
      if start.wordBefore = front word false start.rest then [] else [start]
  | seq first second, start => (first.ends word start).flatMap (second.ends word)
  | alt preferred other, start => preferred.ends word start ++ other.ends word start
  | star greedy body, start => rounds (body.ends word) greedy start.rest.length start

section Correctness

variable {word : Char → Bool}

/-- Reading nothing stays in place. -/
theorem Cursor.Reads.nil (start : Cursor) : start.Reads word [] start :=
  ⟨rfl, rfl⟩

/-- Reading nothing reaches no other place. -/
theorem Cursor.Reads.eq_of_nil {start stop : Cursor} (reads : start.Reads word [] stop)
    : stop = start := by
  obtain ⟨rest, before⟩ := reads
  cases start
  cases stop
  simp_all

/-- Reads compose, by the concatenation of the texts read. -/
theorem Cursor.Reads.append {start middle stop : Cursor} {u v : List Char}
    (first : start.Reads word u middle) (second : middle.Reads word v stop)
    : start.Reads word (u ++ v) stop := by
  refine ⟨?_, ?_⟩
  · rw [first.1, second.1, List.append_assoc]
  · rw [second.2, first.2, back_append]

/-- A read of a concatenation passes through the cursor between its parts. -/
theorem Cursor.Reads.split {start stop : Cursor} {u v : List Char}
    (reads : start.Reads word (u ++ v) stop)
    : ∃ middle : Cursor, start.Reads word u middle ∧ middle.Reads word v stop := by
  obtain ⟨rest, before⟩ := reads
  refine ⟨⟨back word start.wordBefore u, v ++ stop.rest⟩, ⟨?_, rfl⟩, rfl, ?_⟩
  · rw [rest, List.append_assoc]
  · rw [before, back_append]

/-- A matcher and a language agree at every cursor. -/
def Agree (word : Char → Bool) (matcher : Cursor → List Cursor)
    (language : Bool → List Char → Bool → Prop)
    : Prop :=
  ∀ start stop,
    stop ∈ matcher start
    ↔ ∃ w,
        start.Reads word w stop
        ∧ language start.wordBefore w (front word false stop.rest)

/-- A round is accepted by the loop exactly when it stops strictly further on. -/
theorem mem_rounds_succ {body : Cursor → List Cursor} {greedy : Bool} {fuel : Nat}
    {start stop : Cursor}
    : stop ∈ rounds body greedy (fuel + 1) start
      ↔ stop = start
        ∨ ∃ middle ∈ body start,
            middle.rest.length < start.rest.length
            ∧ stop ∈ rounds body greedy fuel middle := by
  cases greedy <;>
    simp [rounds, List.mem_flatMap, List.mem_filter, and_assoc, or_comm]

/-- The loop matcher agrees with iteration when its fuel covers the text, by induction on
the fuel; each accepted round uses up at least one character.
-/
theorem rounds_agree {body : Cursor → List Cursor}
    {language : Bool → List Char → Bool → Prop} (agree : Agree word body language)
    (greedy : Bool) (fuel : Nat) (start stop : Cursor)
    (enough : start.rest.length ≤ fuel)
    : stop ∈ rounds body greedy fuel start
      ↔ ∃ w,
          start.Reads word w stop
          ∧ Iterated word language start.wordBefore w (front word false stop.rest) := by
  induction fuel generalizing start with
  | zero =>
      have empty : start.rest = [] := List.eq_nil_of_length_eq_zero (by omega)
      simp only [rounds, List.mem_singleton]
      constructor
      · intro same
        subst same
        exact ⟨[], .nil stop, .done _ _⟩
      · intro found
        obtain ⟨w, reads, _⟩ := found
        have nothing := reads.1
        rw [empty] at nothing
        obtain ⟨rfl, _⟩ := List.append_eq_nil_iff.mp nothing.symm
        exact reads.eq_of_nil
  | succ fuel ih =>
      rw [mem_rounds_succ]
      constructor
      · intro found
        rcases found with rfl | ⟨middle, found, shorter, later⟩
        · exact ⟨[], .nil stop, .done _ _⟩
        · obtain ⟨u, first, head⟩ := (agree start middle).mp found
          obtain ⟨v, second, tail⟩ := (ih middle (by omega)).mp later
          refine ⟨u ++ v, first.append second, .more ?_ ?_ ?_⟩
          · intro same
            subst same
            obtain rfl := first.eq_of_nil
            omega
          · simpa only [second.1, front_append] using head
          · simpa only [first.2] using tail
      · intro found
        obtain ⟨w, reads, iterated⟩ := found
        generalize after : front word false stop.rest = final at iterated
        cases iterated with
        | done => exact Or.inl reads.eq_of_nil
        | @more _ _ u v progress head tail =>
            subst after
            obtain ⟨middle, first, second⟩ := reads.split
            have shorter : middle.rest.length < start.rest.length := by
              have positive := List.length_pos_of_ne_nil progress
              rw [first.1, List.length_append]
              omega
            refine Or.inr ⟨middle, ?_, shorter, ?_⟩
            · exact (agree start middle).mpr
                ⟨u, first, by simpa only [second.1, front_append] using head⟩
            · exact (ih middle (by omega)).mpr
                ⟨v, second, by simpa only [first.2] using tail⟩

/-- A character class takes the next character if that is one of it. -/
theorem chars_agree (accepts : Char → Bool)
    : Agree word ((chars accepts).ends word) ((chars accepts).Matches word) := by
  intro start stop
  obtain ⟨before, rest⟩ := start
  obtain ⟨stopBefore, stopRest⟩ := stop
  cases rest with
  | nil =>
      simp only [ends, List.not_mem_nil, Matches, Cursor.Reads, false_iff]
      intro found
      obtain ⟨w, ⟨reads, _⟩, c, rfl, _⟩ := found
      simp at reads
  | cons c rest =>
      by_cases accepted : accepts c = true
      · simp only [ends, accepted, if_true, List.mem_singleton, Cursor.mk.injEq, Matches,
          Cursor.Reads]
        constructor
        · intro found
          obtain ⟨rfl, rfl⟩ := found
          exact ⟨[c], ⟨rfl, rfl⟩, c, rfl, accepted⟩
        · intro found
          obtain ⟨w, ⟨reads, status⟩, d, rfl, _⟩ := found
          obtain ⟨rfl, rfl⟩ := List.cons.inj reads
          exact ⟨status, rfl⟩
      · simp only [ends, accepted, Bool.false_eq_true, if_false, List.not_mem_nil, Matches,
          Cursor.Reads, false_iff]
        intro found
        obtain ⟨w, ⟨reads, _⟩, d, rfl, member⟩ := found
        obtain ⟨rfl, rfl⟩ := List.cons.inj reads
        exact accepted member

/-- A word boundary takes nothing, between two positions of different status. -/
theorem boundary_agree : Agree word (boundary.ends word) (boundary.Matches word) := by
  intro start stop
  by_cases same : start.wordBefore = front word false start.rest
  · simp only [ends, same, if_true, List.not_mem_nil, Matches, false_iff]
    intro found
    obtain ⟨w, reads, rfl, differ⟩ := found
    obtain rfl := reads.eq_of_nil
    exact differ rfl
  · simp only [ends, same, if_false, List.mem_singleton, Matches]
    constructor
    · intro same
      subst same
      exact ⟨[], .nil stop, rfl, same⟩
    · intro found
      obtain ⟨w, reads, rfl, _⟩ := found
      exact reads.eq_of_nil

/-- A sequence takes what its parts take one after the other. -/
theorem seq_agree {first second : Regex}
    (firstIH : Agree word (first.ends word) (first.Matches word))
    (secondIH : Agree word (second.ends word) (second.Matches word))
    : Agree word ((first.seq second).ends word) ((first.seq second).Matches word) := by
  intro start stop
  simp only [ends, List.mem_flatMap, Matches]
  constructor
  · intro found
    obtain ⟨middle, found, later⟩ := found
    obtain ⟨u, firstReads, head⟩ := (firstIH start middle).mp found
    obtain ⟨v, secondReads, tail⟩ := (secondIH middle stop).mp later
    refine ⟨u ++ v, firstReads.append secondReads, u, v, rfl, ?_, ?_⟩
    · simpa only [secondReads.1, front_append] using head
    · simpa only [firstReads.2] using tail
  · intro found
    obtain ⟨w, reads, u, v, rfl, head, tail⟩ := found
    obtain ⟨middle, firstReads, secondReads⟩ := reads.split
    refine ⟨middle, (firstIH start middle).mpr ?_, (secondIH middle stop).mpr ?_⟩
    · exact ⟨u, firstReads, by simpa only [secondReads.1, front_append] using head⟩
    · exact ⟨v, secondReads, by simpa only [firstReads.2] using tail⟩

/-- The backtracking matcher finds exactly the matches of the language, by induction on
the regex.
-/
theorem ends_agree (r : Regex) : Agree word (r.ends word) (r.Matches word) := by
  induction r with
  | empty =>
      intro start stop
      simp only [ends, List.mem_singleton, Matches]
      constructor
      · intro same
        subst same
        exact ⟨[], .nil stop, rfl⟩
      · intro found
        obtain ⟨w, reads, rfl⟩ := found
        exact reads.eq_of_nil
  | chars accepts => exact chars_agree accepts
  | boundary => exact boundary_agree
  | seq first second firstIH secondIH => exact seq_agree firstIH secondIH
  | alt preferred other preferredIH otherIH =>
      intro start stop
      simp only [ends, List.mem_append, Matches, preferredIH start stop, otherIH start stop,
        and_or_left, exists_or]
  | star greedy body ih =>
      intro start stop
      exact rounds_agree ih greedy start.rest.length start stop (Nat.le_refl _)

end Correctness

-----------------------------------------------------------------------------------------
-- Shape facts read off the syntax
-----------------------------------------------------------------------------------------

/-- Every character class of the regex lies within `P`. -/
def Within (P : Char → Prop) : Regex → Prop
  | empty => True
  | chars accepts => ∀ c, accepts c = true → P c
  | boundary => True
  | seq first second => first.Within P ∧ second.Within P
  | alt preferred other => preferred.Within P ∧ other.Within P
  | star _ body => body.Within P

/-- Every match of the regex has a character within `P`, as far as the syntax shows. -/
def Demands (P : Char → Prop) : Regex → Prop
  | empty => False
  | chars accepts => ∀ c, accepts c = true → P c
  | boundary => False
  | seq first second => first.Demands P ∨ second.Demands P
  | alt preferred other => preferred.Demands P ∧ other.Demands P
  | star _ _ => False

/-- Every match of the regex starts with a character within `P`, as far as the syntax
shows.
-/
def Leads (P : Char → Prop) : Regex → Prop
  | chars accepts => ∀ c, accepts c = true → P c
  | seq first _ => first.Leads P
  | alt preferred other => preferred.Leads P ∧ other.Leads P
  | _ => False

/-- The regex has no word boundary, so its matches do not depend on their neighbours. -/
def Plain : Regex → Prop
  | empty => True
  | chars _ => True
  | boundary => False
  | seq first second => first.Plain ∧ second.Plain
  | alt preferred other => preferred.Plain ∧ other.Plain
  | star _ body => body.Plain

section Shapes

variable {word : Char → Bool} {P : Char → Prop}

/-- The characters of a match lie where the classes lie, by induction on the regex. -/
theorem Matches.within {r : Regex} (shape : r.Within P) {before after : Bool}
    {w : List Char} (matched : r.Matches word before w after)
    : ∀ c ∈ w, P c := by
  induction r generalizing before w after with
  | empty => simp_all [Matches]
  | chars accepts =>
      obtain ⟨c, rfl, accepted⟩ := matched
      simpa using shape c accepted
  | boundary => simp_all [Matches]
  | seq first second firstIH secondIH =>
      obtain ⟨u, v, rfl, head, tail⟩ := matched
      intro c member
      rcases List.mem_append.mp member with left | right
      · exact firstIH shape.1 head c left
      · exact secondIH shape.2 tail c right
  | alt preferred other preferredIH otherIH =>
      rcases matched with matched | matched
      · exact preferredIH shape.1 matched
      · exact otherIH shape.2 matched
  | star greedy body ih =>
      induction matched with
      | done => simp
      | more _ head _ tailIH =>
          intro c member
          rcases List.mem_append.mp member with left | right
          · exact ih shape head c left
          · exact tailIH c right

/-- A match contains a demanded character, by induction on the regex. -/
theorem Matches.demands {r : Regex} (shape : r.Demands P) {before after : Bool}
    {w : List Char} (matched : r.Matches word before w after)
    : ∃ c ∈ w, P c := by
  induction r generalizing before w after with
  | empty | boundary | star => exact False.elim shape
  | chars accepts =>
      obtain ⟨c, rfl, accepted⟩ := matched
      exact ⟨c, by simp, shape c accepted⟩
  | seq first second firstIH secondIH =>
      obtain ⟨u, v, rfl, head, tail⟩ := matched
      rcases shape with shape | shape
      · obtain ⟨c, member, holds⟩ := firstIH shape head
        exact ⟨c, List.mem_append_left _ member, holds⟩
      · obtain ⟨c, member, holds⟩ := secondIH shape tail
        exact ⟨c, List.mem_append_right _ member, holds⟩
  | alt preferred other preferredIH otherIH =>
      rcases matched with matched | matched
      · exact preferredIH shape.1 matched
      · exact otherIH shape.2 matched

/-- A wider class is also enough for every character class, by induction on the regex. -/
theorem Within.mono {Q : Char → Prop} (wider : ∀ c, P c → Q c) {r : Regex}
    (shape : r.Within P)
    : r.Within Q := by
  induction r with
  | empty | boundary => trivial
  | chars accepts => exact fun c accepted => wider c (shape c accepted)
  | seq first second firstIH secondIH => exact ⟨firstIH shape.1, secondIH shape.2⟩
  | alt preferred other preferredIH otherIH =>
      exact ⟨preferredIH shape.1, otherIH shape.2⟩
  | star greedy body ih => exact ih shape

/-- A character of a narrower class is also one of a wider class, by induction on the
regex.
-/
theorem Demands.mono {Q : Char → Prop} (wider : ∀ c, P c → Q c) {r : Regex}
    (shape : r.Demands P)
    : r.Demands Q := by
  induction r with
  | empty | boundary | star => exact shape.elim
  | chars accepts => exact fun c accepted => wider c (shape c accepted)
  | seq first second firstIH secondIH => exact shape.imp firstIH secondIH
  | alt preferred other preferredIH otherIH =>
      exact ⟨preferredIH shape.1, otherIH shape.2⟩

/-- Repeating a regex adds no characters, by induction on the count. -/
theorem Within.times {r : Regex} (shape : r.Within P) (count : Nat)
    : (r.times count).Within P := by
  induction count with
  | zero => trivial
  | succ count ih => exact ⟨shape, ih⟩

/-- Repeating a regex up to a bound adds no characters, by induction on the bound. -/
theorem Within.upTo {r : Regex} (shape : r.Within P) (count : Nat)
    : (r.upTo count).Within P := by
  induction count with
  | zero => trivial
  | succ count ih => exact ⟨⟨shape, ih⟩, trivial⟩

/-- A match starts with a leading character, by induction on the regex. -/
theorem Matches.leads {r : Regex} (shape : r.Leads P) {before after : Bool}
    {w : List Char} (matched : r.Matches word before w after)
    : ∃ c rest, w = c :: rest ∧ P c := by
  induction r generalizing before w after with
  | empty | boundary | star => exact False.elim shape
  | chars accepts =>
      obtain ⟨c, rfl, accepted⟩ := matched
      exact ⟨c, [], rfl, shape c accepted⟩
  | seq first second firstIH _ =>
      obtain ⟨u, v, rfl, head, _⟩ := matched
      obtain ⟨c, rest, rfl, holds⟩ := firstIH shape head
      exact ⟨c, rest ++ v, rfl, holds⟩
  | alt preferred other preferredIH otherIH =>
      rcases matched with matched | matched
      · exact preferredIH shape.1 matched
      · exact otherIH shape.2 matched

/-- Without word boundaries a match is a match in every context, by induction on the regex.
-/
theorem Matches.anywhere {r : Regex} (plain : r.Plain) {before after : Bool}
    {w : List Char} (matched : r.Matches word before w after) (left right : Bool)
    : r.Matches word left w right := by
  induction r generalizing before w after left right with
  | empty => exact matched
  | chars accepts => exact matched
  | boundary => exact False.elim plain
  | seq first second firstIH secondIH =>
      obtain ⟨u, v, rfl, head, tail⟩ := matched
      exact ⟨u, v, rfl, firstIH plain.1 head _ _, secondIH plain.2 tail _ _⟩
  | alt preferred other preferredIH otherIH =>
      exact matched.imp (fun h => preferredIH plain.1 h left right)
        (fun h => otherIH plain.2 h left right)
  | star greedy body ih =>
      induction matched generalizing left with
      | done => exact .done _ _
      | more progress head _ tailIH =>
          exact .more progress (ih plain head _ _) (tailIH _)

end Shapes

end Regex

end Intellisphere.Foundation
