import Mathlib.Data.List.Infix

/-! Paths of Unix: where they lead in a tree without links, and what the functions of a path
library make of them without looking at the tree.
-/

namespace Intellisphere.Foundation

/-- A place in a file tree: the names on the way to it from the root. -/
abbrev Place :=
  List (List Char)

/-- The names along a path. There is an empty one wherever two slashes meet. -/
def pathNames (path : List Char) : List (List Char) :=
  path.splitOn '/'

def isRooted (path : List Char) : Bool :=
  path.head? = some '/'

/-- Where names lead from a place. The root is its own parent. -/
def walk (place : Place) : List (List Char) → Place
  | [] => place
  | name :: rest =>
      if name = [] ∨ name = ['.'] then walk place rest
      else if name = ['.', '.'] then walk place.dropLast rest
      else walk (place ++ [name]) rest

/-- Where a path leads from a working directory. -/
def resolve (here : Place) (path : List Char) : Place :=
  walk (if isRooted path then [] else here) (pathNames path)

/-- Add a name to those that are kept of a path. -/
def cleanName (rooted : Bool) (kept : List (List Char)) (name : List Char)
    : List (List Char) :=
  if name = [] ∨ name = ['.'] then kept
  else if name = ['.', '.'] then
    match kept.getLast? with
    | none => if rooted then kept else [['.', '.']]
    | some last => if last = ['.', '.'] then kept ++ [['.', '.']] else kept.dropLast
  else kept ++ [name]

/-- The shortest path that leads to the same place. -/
def clean (path : List Char) : List Char :=
  let body := ['/'].intercalate ((pathNames path).foldl (cleanName (isRooted path)) [])
  if isRooted path then '/' :: body
  else if body = [] then ['.']
  else body

/-- Paths one after the other; empty ones in front are skipped. -/
def join (paths : List (List Char)) : List Char :=
  match paths.dropWhile List.isEmpty with
  | [] => []
  | paths => clean (['/'].intercalate paths)

theorem walk_append (place : Place) (first second : List (List Char))
    : walk place (first ++ second) = walk (walk place first) second := by
  induction first generalizing place with
  | nil => rfl
  | cons name rest ih =>
      simp only [List.cons_append, walk]
      split
      · exact ih place
      · split
        · exact ih place.dropLast
        · exact ih (place ++ [name])

/-- Names that are neither dots nor empty lead further down. -/
theorem walk_plain {names : List (List Char)} (plain : ∀ name ∈ names, '.' ∉ name)
    (place : Place)
    : walk place names = place ++ names.filter (· ≠ []) := by
  induction names generalizing place with
  | nil => simp [walk]
  | cons name rest ih =>
      rw [List.forall_mem_cons] at plain
      have dots : name ≠ ['.'] ∧ name ≠ ['.', '.'] := by
        refine ⟨?_, ?_⟩ <;> rintro rfl <;> exact plain.1 (by simp)
      by_cases empty : name = []
      · simp [walk, empty, ih plain.2]
      · simp [walk, empty, dots.1, dots.2, ih plain.2]

/-- A name that may stand in a path that is clean. -/
structure Kept (name : List Char) : Prop where
  nonempty : name ≠ []
  notDot : name ≠ ['.']
  noSlash : '/' ∉ name

instance (name : List Char) : Decidable (Kept name) :=
  decidable_of_iff (name ≠ [] ∧ name ≠ ['.'] ∧ '/' ∉ name)
    ⟨fun kept => ⟨kept.1, kept.2.1, kept.2.2⟩, fun kept => ⟨kept.1, kept.2, kept.3⟩⟩

theorem kept_of_mem_cleanName {rooted : Bool} {kept : List (List Char)} {name : List Char}
    (all : ∀ other ∈ kept, Kept other) (noSlash : '/' ∉ name)
    : ∀ other ∈ cleanName rooted kept name, Kept other := by
  intro other member
  have dots : Kept ['.', '.'] := ⟨by simp, by simp, by simp⟩
  unfold cleanName at member
  split at member
  case isTrue => exact all other member
  case isFalse skipped =>
    rw [not_or] at skipped
    split at member
    case isTrue =>
      split at member
      · split at member
        · exact all other member
        · rw [List.mem_singleton.mp member]
          exact dots
      · split at member
        · rcases List.mem_append.mp member with old | new
          · exact all other old
          · rw [List.mem_singleton.mp new]
            exact dots
        · exact all other (List.mem_of_mem_dropLast member)
    case isFalse =>
      rcases List.mem_append.mp member with old | new
      · exact all other old
      · rw [List.mem_singleton.mp new]
        exact ⟨skipped.1, skipped.2, noSlash⟩

/-- The names that are kept lead where all of them lead. -/
theorem walk_cleanName {rooted : Bool} {place : Place} (root : rooted = true → place = [])
    {kept : List (List Char)} (all : ∀ other ∈ kept, Kept other) (name : List Char)
    : walk place (cleanName rooted kept name) = walk (walk place kept) [name] := by
  unfold cleanName
  split
  case isTrue skipped => simp [walk, skipped]
  case isFalse skipped =>
    split
    case isTrue up =>
      split
      case h_1 none =>
        rw [List.getLast?_eq_none_iff] at none
        split
        · simp [walk, up, none, root ‹_›]
        · simp [walk, up, none]
      case h_2 last found =>
        split
        · rw [walk_append, up]
        · obtain ⟨front, rfl⟩ := List.getLast?_eq_some_iff.mp found
          have last := all last (by simp)
          rw [walk_append, List.dropLast_concat]
          simp [walk, last.nonempty, last.notDot, *]
    case isFalse => rw [walk_append]

/-- By induction on the names. -/
theorem foldl_cleanName {rooted : Bool} {place : Place} (root : rooted = true → place = [])
    {names : List (List Char)} (noSlash : ∀ name ∈ names, '/' ∉ name)
    {kept : List (List Char)} (all : ∀ other ∈ kept, Kept other)
    : (∀ other ∈ names.foldl (cleanName rooted) kept, Kept other)
      ∧ walk place (names.foldl (cleanName rooted) kept) = walk (walk place kept) names := by
  induction names generalizing kept with
  | nil => exact ⟨all, rfl⟩
  | cons name rest ih =>
      rw [List.forall_mem_cons] at noSlash
      obtain ⟨later, leads⟩ := ih noSlash.2 (kept_of_mem_cleanName all noSlash.1)
      refine ⟨later, ?_⟩
      rw [List.foldl_cons, leads, walk_cleanName root all, ← walk_append,
        List.singleton_append]

/-- By induction on the path. -/
theorem mem_pathNames {path name : List Char} (member : name ∈ pathNames path)
    : (∀ c ∈ name, c ∈ path) ∧ '/' ∉ name := by
  unfold pathNames at member
  induction path generalizing name with
  | nil =>
      obtain rfl := List.mem_singleton.mp member
      simp
  | cons c rest ih =>
      rw [List.splitOn_cons_eq_if_modifyHead] at member
      obtain ⟨first, later, split⟩ := List.exists_cons_of_ne_nil (List.splitOn_ne_nil '/' rest)
      rw [split] at ih member
      split at member
      case isTrue =>
        rcases List.mem_cons.mp member with rfl | old
        · simp
        · obtain ⟨inside, noSlash⟩ := ih old
          exact ⟨fun d among => List.mem_cons_of_mem c (inside d among), noSlash⟩
      case isFalse other =>
        rcases List.mem_cons.mp member with rfl | old
        · obtain ⟨inside, noSlash⟩ := ih List.mem_cons_self
          refine ⟨?_, ?_⟩
          · intro d among
            exact List.mem_cons.mpr ((List.mem_cons.mp among).imp_right (inside d))
          · intro slash
            rcases List.mem_cons.mp slash with rfl | within
            · exact other (beq_self_eq_true '/')
            · exact noSlash within
        · obtain ⟨inside, noSlash⟩ := ih (List.mem_cons_of_mem first old)
          exact ⟨fun d among => List.mem_cons_of_mem c (inside d among), noSlash⟩

/-- Names other than the parent's lead further down. -/
theorem walk_kept {names : List (List Char)}
    (kept : ∀ name ∈ names, Kept name ∧ name ≠ ['.', '.']) (place : Place)
    : walk place (names.flatMap pathNames) = place ++ names := by
  induction names generalizing place with
  | nil => simp [walk]
  | cons name rest ih =>
      rw [List.forall_mem_cons] at kept
      obtain ⟨⟨plain, down⟩, later⟩ := kept
      have single : pathNames name = [name] := List.splitOn_eq_singleton plain.noSlash
      simp [single, walk, plain.nonempty, plain.notDot, down, ih later]

/-- Two paths with a slash between them. -/
theorem pathNames_slash (first second : List Char)
    : pathNames (first ++ '/' :: second) = pathNames first ++ pathNames second :=
  List.splitOn_append_cons_self first second

/-- A relative path of names that are kept does not start with a slash. -/
theorem isRooted_intercalate {names : List (List Char)} (all : ∀ name ∈ names, Kept name)
    : isRooted (['/'].intercalate names) = false := by
  cases names with
  | nil => rfl
  | cons name rest =>
      have kept := all name List.mem_cons_self
      obtain ⟨c, cs, rfl⟩ := List.exists_cons_of_ne_nil kept.nonempty
      have other : c ≠ '/' := fun same => kept.noSlash (by simp [same])
      cases rest <;> simpa [isRooted, List.intercalate_cons_cons] using other

theorem walk_intercalate {names : List (List Char)} (all : ∀ name ∈ names, Kept name)
    (place : Place)
    : walk place (pathNames (['/'].intercalate names)) = walk place names := by
  cases names with
  | nil => rfl
  | cons name rest =>
      rw [pathNames, List.splitOn_intercalate '/' (fun name member => (all name member).noSlash)
        (List.cons_ne_nil _ _)]

theorem clean_ne_nil (path : List Char) : clean path ≠ [] := by
  unfold clean
  dsimp only
  split
  · exact List.cons_ne_nil _ _
  · split
    · exact List.cons_ne_nil _ _
    · assumption

/-- What is kept of a path leads where the path leads. -/
theorem exists_kept (path : List Char)
    : ∃ kept,
        (pathNames path).foldl (cleanName (isRooted path)) [] = kept
        ∧ (∀ name ∈ kept, Kept name)
        ∧ ∀ here, resolve here path = walk (if isRooted path then [] else here) kept := by
  have noSlash : ∀ name ∈ pathNames path, '/' ∉ name :=
    fun name member => (mem_pathNames member).2
  have kept {place : Place} (root : isRooted path = true → place = []) :=
    foldl_cleanName root noSlash (fun other none => absurd none List.not_mem_nil)
  refine ⟨_, rfl, (kept (fun _ => rfl)).1, ?_⟩
  intro here
  exact (kept (fun rooted => if_pos rooted)).2.symm

/-- A clean path is relative if the path is, and leads to the same place. -/
theorem clean_leads (path : List Char)
    : isRooted (clean path) = isRooted path
      ∧ ∀ here, resolve here (clean path) = resolve here path := by
  obtain ⟨kept, folded, all, leads⟩ := exists_kept path
  simp only [leads, clean, folded]
  cases rooted : isRooted path with
  | true =>
      refine ⟨rfl, ?_⟩
      intro here
      rw [if_pos rfl, ← walk_intercalate all]
      refine (congrArg (walk []) (pathNames_slash [] _)).trans ?_
      rfl
  | false =>
      have relative := isRooted_intercalate all
      have same (here : Place) := walk_intercalate all here
      simp only [Bool.false_eq_true, if_false]
      split
      case isTrue empty =>
        refine ⟨rfl, ?_⟩
        intro here
        rw [← same, empty]
        rfl
      case isFalse =>
        refine ⟨relative, ?_⟩
        intro here
        rw [resolve, relative, ← same]
        rfl

/-- The names along paths with slashes between them, by induction on the paths. -/
theorem pathNames_intercalate (first : List Char) (rest : List (List Char))
    : pathNames (['/'].intercalate (first :: rest))
      = pathNames first ++ rest.flatMap pathNames := by
  induction rest generalizing first with
  | nil => simp
  | cons second rest ih =>
      rw [List.intercalate_cons_cons, List.append_assoc, List.singleton_append,
        pathNames_slash, ih, List.flatMap_cons]

/-- Joined paths lead on from where the first leads. -/
theorem resolve_join (here : Place) {first : List Char} (nonempty : first ≠ [])
    (rest : List (List Char))
    : join (first :: rest) ≠ []
      ∧ resolve here (join (first :: rest))
        = walk (resolve here first) (rest.flatMap pathNames) := by
  obtain ⟨c, cs, rfl⟩ := List.exists_cons_of_ne_nil nonempty
  have joined : join ((c :: cs) :: rest) = clean (['/'].intercalate ((c :: cs) :: rest)) := by
    simp [join]
  have rooted : isRooted (['/'].intercalate ((c :: cs) :: rest)) = isRooted (c :: cs) := by
    cases rest <;> simp [isRooted, List.intercalate_cons_cons]
  rw [joined, (clean_leads _).2, resolve, resolve, rooted, pathNames_intercalate, walk_append]
  exact ⟨clean_ne_nil _, rfl⟩

end Intellisphere.Foundation
