import Intellisphere.Foundation.FilePath
import Mathlib.Logic.Function.Basic

/-! A tree of files without links, where only what is in the way makes an operation fail. -/

namespace Intellisphere.Foundation

inductive FileNode where
  | directory
  | file (text : String)
  deriving DecidableEq

/-- A tree: what is at each place. Whatever is there is in a directory. -/
structure FileTree where
  node : Place → Option FileNode
  root : node [] = some .directory
  parent : ∀ place name, node (place ++ [name]) ≠ none → node place = some .directory

/-- Why an operation failed: it met something else than a directory, or a directory. -/
inductive FileError where
  | notDirectory
  | isDirectory
  deriving DecidableEq

namespace FileTree

/-- Put something in a directory, where no directory is. -/
def put (tree : FileTree) (place : Place) (node : FileNode)
    (up : tree.node place.dropLast = some .directory)
    (free : tree.node place ≠ some .directory)
    : FileTree where
  node := Function.update tree.node place (some node)
  root := by
    rw [Function.update_of_ne]
    · exact tree.root
    · rintro rfl
      exact free tree.root
  parent := by
    intro above name there
    by_cases within : above = place
    · rw [Function.update_of_ne (by simp [← within])] at there
      exact absurd (within ▸ tree.parent above name there) free
    · rw [Function.update_of_ne within]
      by_cases same : above ++ [name] = place
      · rw [← same, List.dropLast_concat] at up
        exact up
      · rw [Function.update_of_ne same] at there
        exact tree.parent above name there

/-- Make the directories below a place that are not there. -/
def makeBelow (tree : FileTree) (place : Place) : List (List Char) → FileTree × Option FileError
  | [] => (tree, none)
  | name :: rest =>
      match found : tree.node (place ++ [name]) with
      | some .directory => tree.makeBelow (place ++ [name]) rest
      | some (.file _) => (tree, some .notDirectory)
      | none =>
          if up : tree.node (place ++ [name]).dropLast = some .directory then
            (tree.put (place ++ [name]) .directory up (by simp [found])).makeBelow
              (place ++ [name]) rest
          else (tree, some .notDirectory)

/-- Make a directory and those above it. -/
def mkdirAll (tree : FileTree) (place : Place) : FileTree × Option FileError :=
  tree.makeBelow [] place

/-- Write a file, over the one that is there. -/
def writeFile (tree : FileTree) (place : Place) (text : String)
    : FileTree × Option FileError :=
  if free : tree.node place ≠ some .directory then
    if up : tree.node place.dropLast = some .directory then
      (tree.put place (.file text) up free, none)
    else (tree, some .notDirectory)
  else (tree, some .isDirectory)

/-- There is a file at a place or above it. -/
def Blocked (tree : FileTree) (place : Place) : Prop :=
  ∃ above text, above <+: place ∧ tree.node above = some (.file text)

section Directories

variable {tree : FileTree} {place : Place}

theorem node_put_self {node : FileNode} (up : tree.node place.dropLast = some .directory)
    (free : tree.node place ≠ some .directory)
    : (tree.put place node up free).node place = some node :=
  Function.update_self _ _ _

theorem node_put_of_ne {node : FileNode} (up : tree.node place.dropLast = some .directory)
    (free : tree.node place ≠ some .directory) {other : Place} (ne : other ≠ place)
    : (tree.put place node up free).node other = tree.node other :=
  Function.update_of_ne ne _ _

/-- A new directory is in no way. -/
theorem not_blocked_put_directory {up : tree.node place.dropLast = some .directory}
    {free : tree.node place ≠ some .directory} {below : Place} (free' : ¬tree.Blocked below)
    : ¬(tree.put place .directory up free).Blocked below := by
  rintro ⟨above, text, inside, file⟩
  by_cases same : above = place
  · rw [same, node_put_self] at file
    simp at file
  · rw [node_put_of_ne _ _ same] at file
    exact free' ⟨above, text, inside, file⟩

/-- Whatever is there is below directories only, by induction on the names between. -/
theorem directory_of_below {name : List Char} {rest : List (List Char)} {node : FileNode}
    (there : tree.node (place ++ name :: rest) = some node)
    : tree.node place = some .directory := by
  induction rest generalizing place name with
  | nil => exact tree.parent place name (by simp [there])
  | cons next rest ih =>
      have up : tree.node (place ++ [name]) = some .directory := ih (by simpa using there)
      exact tree.parent place name (by simp [up])

theorem directory_of_prefix {above : Place} (directory : tree.node place = some .directory)
    (prior : above <+: place)
    : tree.node above = some .directory := by
  obtain ⟨names, rfl⟩ := prior
  cases names with
  | nil => simpa using directory
  | cons name rest => exact directory_of_below directory

/-- No file is above what is there, nor in its place unless it is the file. -/
theorem not_blocked_of_directory (directory : tree.node place = some .directory)
    : ¬tree.Blocked place := by
  rintro ⟨above, text, prior, file⟩
  have up := directory_of_prefix directory prior
  simp [file] at up

/-- A file on the way is below this place, and something is at each place before it. -/
theorem there_of_blocked {name : List Char} {rest : List (List Char)}
    (up : tree.node place = some .directory) (blocked : tree.Blocked (place ++ name :: rest))
    : tree.node (place ++ [name]) ≠ none := by
  obtain ⟨above, text, inside, file⟩ := blocked
  have next : place ++ [name] <+: place ++ name :: rest := ⟨rest, by simp⟩
  rcases List.prefix_or_prefix_of_prefix inside next with before | after
  · rcases List.prefix_concat_iff.mp before with same | before
    · simp [← same, file]
    · exact absurd ⟨above, text, before, file⟩ (not_blocked_of_directory up)
  · obtain ⟨names, rfl⟩ := after
    cases names with
    | nil =>
        rw [List.append_nil] at file
        simp [file]
    | cons name rest => simp [directory_of_below file]

/-- Making directories fails at a file, before it has made any. -/
theorem makeBelow_blocked {rest : List (List Char)} (up : tree.node place = some .directory)
    (blocked : tree.Blocked (place ++ rest))
    : tree.makeBelow place rest = (tree, some .notDirectory) := by
  induction rest generalizing place with
  | nil =>
      rw [List.append_nil] at blocked
      exact absurd blocked (not_blocked_of_directory up)
  | cons name rest ih =>
      have there := there_of_blocked up blocked
      unfold makeBelow
      split
      case h_1 found => exact ih found (by simpa using blocked)
      case h_2 => rfl
      case h_3 found => exact absurd found there

/-- Between a place and one below the next there is only the place. -/
theorem between_iff {name : List Char} {rest : List (List Char)} {other : Place}
    : place <+: other ∧ other <+: place ++ name :: rest
      ↔ other = place ∨ place ++ [name] <+: other ∧ other <+: place ++ name :: rest := by
  refine ⟨?_, ?_⟩
  · rintro ⟨⟨names, rfl⟩, inside⟩
    cases names with
    | nil => exact .inl (List.append_nil place)
    | cons next names =>
        have same : next = name := (List.cons_prefix_cons.mp
          ((List.prefix_append_right_inj place).mp inside)).1
        exact .inr ⟨⟨names, by simp [same]⟩, inside⟩
  · rintro (rfl | ⟨below, inside⟩)
    · exact ⟨List.prefix_rfl, List.prefix_append _ _⟩
    · exact ⟨(List.prefix_append _ _).trans below, inside⟩

/-- Otherwise it makes those that are not there, and changes nothing else. -/
theorem makeBelow_free {rest : List (List Char)} (up : tree.node place = some .directory)
    (free : ¬tree.Blocked (place ++ rest))
    : (tree.makeBelow place rest).2 = none
      ∧ ∀ other,
          (tree.makeBelow place rest).1.node other
          = if place <+: other ∧ other <+: place ++ rest then some .directory
            else tree.node other := by
  induction rest generalizing tree place with
  | nil =>
      refine ⟨rfl, ?_⟩
      intro other
      simp only [List.append_nil]
      split
      case isTrue both =>
        rw [makeBelow, ← List.IsPrefix.eq_of_length_le both.1 both.2.length_le, up]
      case isFalse => rfl
  | cons name rest ih =>
      have onward : (place ++ [name]) ++ rest = place ++ name :: rest := by simp
      rw [← onward] at free
      unfold makeBelow
      simp only [between_iff]
      split
      case h_1 found =>
        obtain ⟨done, made⟩ := ih found free
        refine ⟨done, ?_⟩
        intro other
        rw [made, onward]
        by_cases same : other = place <;> simp [same, up]
      case h_2 text found =>
        exact absurd ⟨place ++ [name], text, List.prefix_append _ _, found⟩ free
      case h_3 found =>
        have above : tree.node (place ++ [name]).dropLast = some .directory := by
          rwa [List.dropLast_concat]
        rw [dif_pos above]
        obtain ⟨done, made⟩ := ih (node_put_self _ _) (not_blocked_put_directory free)
        refine ⟨done, ?_⟩
        intro other
        rw [made, onward]
        by_cases next : other = place ++ [name]
        · simp [next, List.prefix_append_right_inj]
        · rw [node_put_of_ne _ _ next]
          by_cases same : other = place <;> simp [same, up]

/-- A directory is not made where a file is on the way. -/
theorem mkdirAll_blocked (blocked : tree.Blocked place)
    : tree.mkdirAll place = (tree, some .notDirectory) :=
  makeBelow_blocked tree.root blocked

/-- Otherwise it is there, with those above it. -/
theorem mkdirAll_free (free : ¬tree.Blocked place)
    : ∃ made : FileTree,
        tree.mkdirAll place = (made, none)
        ∧ ∀ other,
            made.node other
            = if other <+: place then some .directory else tree.node other := by
  obtain ⟨done, made⟩ := makeBelow_free tree.root free
  refine ⟨_, Prod.ext rfl done, ?_⟩
  intro other
  simpa [mkdirAll] using made other

/-- What is written is in its place, and nothing else changes. -/
theorem writeFile_free (up : tree.node place.dropLast = some .directory)
    (free : tree.node place ≠ some .directory) (text : String)
    : (tree.writeFile place text).2 = none
      ∧ ∀ other,
          (tree.writeFile place text).1.node other
          = if other = place then some (.file text) else tree.node other := by
  rw [writeFile, dif_pos free, dif_pos up]
  refine ⟨rfl, ?_⟩
  intro other
  exact Function.update_apply _ _ _ _

theorem writeFile_isDirectory (directory : tree.node place = some .directory) (text : String)
    : tree.writeFile place text = (tree, some .isDirectory) := by
  rw [writeFile, dif_neg (not_not.mpr directory)]

end Directories

end FileTree

end Intellisphere.Foundation
