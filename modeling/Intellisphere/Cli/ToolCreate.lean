import Intellisphere.Foundation.FileTree
import Mathlib.Data.List.TakeWhile

/-! The scaffold of a new tool, in a tree of files: when it is created, and that only what is
below the working directory changes. Quoting with `%q` is a parameter, which only the contents
of a file and what is printed depend on.
-/

namespace Intellisphere.Cli

open Intellisphere.Foundation

/-- Why nothing, or not all of a tool, was created. -/
inductive CreateError where
  | usage
  | creatingDirectory (error : FileError)
  | writing (path : List Char) (error : FileError)

/-- What is printed of an error, given the text of the system's own. -/
def CreateError.lines (describe : FileError → String) : CreateError → List String
  | .usage =>
      [
        "Usage: intellisphere tool create <name>",
        "  <name>  Tool name in dot-notation (e.g. web.search)"
      ]
  | .creatingDirectory error => ["Error creating directory: " ++ describe error]
  | .writing path error =>
      ["Error writing " ++ String.ofList path ++ ": " ++ describe error]

section Scaffold

variable (quoted : String → String)

/-- A directory name for a tool: its name without dots. -/
def dirNameOf (toolName : String) : List Char :=
  toolName.toList.map (fun c => if c = '.' then '-' else c)

def scaffoldPackageJSON (dirName : List Char) : String :=
  "\x7b\n"
  ++ "  \"name\": \"@intellisphere/tool-" ++ String.ofList dirName ++ "\",\n"
  ++ "  \"version\": \"0.1.0\",\n"
  ++ "  \"type\": \"module\",\n"
  ++ "  \"main\": \"dist/index.js\",\n"
  ++ "  \"types\": \"dist/index.d.ts\",\n"
  ++ "  \"scripts\": \x7b\n"
  ++ "    \"build\": \"tsc\",\n"
  ++ "    \"test\": \"node --test dist/**/*.test.js\"\n"
  ++ "  \x7d,\n"
  ++ "  \"dependencies\": \x7b\n"
  ++ "    \"@intellisphere/sdk\": \"workspace:*\",\n"
  ++ "    \"zod\": \"^3.23.0\"\n"
  ++ "  \x7d,\n"
  ++ "  \"devDependencies\": \x7b\n"
  ++ "    \"typescript\": \"^5.4.0\",\n"
  ++ "    \"@types/node\": \"^22.0.0\"\n"
  ++ "  \x7d\n"
  ++ "\x7d\n"

def scaffoldTSConfig : String :=
  "\x7b\n"
  ++ "  \"compilerOptions\": \x7b\n"
  ++ "    \"target\": \"ES2022\",\n"
  ++ "    \"module\": \"NodeNext\",\n"
  ++ "    \"moduleResolution\": \"NodeNext\",\n"
  ++ "    \"lib\": [\"ES2022\"],\n"
  ++ "    \"outDir\": \"dist\",\n"
  ++ "    \"rootDir\": \"src\",\n"
  ++ "    \"declaration\": true,\n"
  ++ "    \"strict\": true,\n"
  ++ "    \"skipLibCheck\": true,\n"
  ++ "    \"esModuleInterop\": true,\n"
  ++ "    \"isolatedModules\": true\n"
  ++ "  \x7d,\n"
  ++ "  \"include\": [\"src/**/*.ts\"],\n"
  ++ "  \"exclude\": [\"node_modules\", \"dist\"]\n"
  ++ "\x7d\n"

def scaffoldIndexTS (toolName : String) : String :=
  "import \x7b z \x7d from \"zod\";\n"
  ++ "import \x7b defineTool, ToolZone \x7d from \"@intellisphere/sdk\";\n"
  ++ "\n"
  ++ "/**\n"
  ++ " * " ++ toolName ++ " — TODO: describe your tool.\n"
  ++ " */\n"
  ++ "export const tool = defineTool(\x7b\n"
  ++ "  name: " ++ quoted toolName ++ ",\n"
  ++ "  description: \"TODO: describe what this tool does.\",\n"
  ++ "  inputSchema: z.object(\x7b\n"
  ++ "    // Define your input fields here.\n"
  ++ "    query: z.string().min(1).describe(\"The input query\"),\n"
  ++ "  \x7d),\n"
  ++ "  zones: [ToolZone.Sphere],\n"
  ++ "  defaultTrustCost: 1,\n"
  ++ "  handler: async (input, ctx) => \x7b\n"
  ++ "    const start = Date.now();\n"
  ++ "\n"
  ++ "    // TODO: implement your tool logic here.\n"
  ++ "    const result = \x7b echo: input.query \x7d;\n"
  ++ "\n"
  ++ "    return \x7b\n"
  ++ "      success: true,\n"
  ++ "      data: result,\n"
  ++ "      trustCost: 1,\n"
  ++ "      durationMs: Date.now() - start,\n"
  ++ "    \x7d;\n"
  ++ "  \x7d,\n"
  ++ "\x7d);\n"

/-- The files of a new tool in its directory. -/
def scaffoldFiles (toolName : String) (toolDir : List Char) : List (List Char × String) :=
  [
    (join [toolDir, "package.json".toList], scaffoldPackageJSON (dirNameOf toolName)),
    (join [toolDir, "tsconfig.json".toList], scaffoldTSConfig),
    (join [toolDir, "src".toList, "index.ts".toList], scaffoldIndexTS quoted toolName)
  ]

/-- Write files in order, until one cannot be written. -/
def writeFiles (here : Place) (tree : FileTree)
    : List (List Char × String) → FileTree × Option CreateError
  | [] => (tree, none)
  | (path, content) :: rest =>
      match tree.writeFile (resolve here path) content with
      | (left, some error) => (left, some (.writing path error))
      | (left, none) => writeFiles here left rest

/-- Create a tool below a working directory: what becomes of the tree, and what is printed. -/
def runToolCreate (here : Place) (tree : FileTree)
    : List String → FileTree × Except CreateError (List String)
  | [] => (tree, .error .usage)
  | toolName :: _ =>
      let dirName := dirNameOf toolName
      let toolDir := join [['.'], dirName]
      match tree.mkdirAll (resolve here (join [toolDir, "src".toList])) with
      | (left, some error) => (left, .error (.creatingDirectory error))
      | (made, none) =>
          match writeFiles here made (scaffoldFiles quoted toolName toolDir) with
          | (left, some error) => (left, .error error)
          | (written, none) =>
              (
                written,
                .ok
                  [
                    "Scaffolded tool " ++ quoted toolName ++ " in ./" ++ String.ofList dirName
                      ++ "/",
                    "Next steps:",
                    "  1. cd " ++ String.ofList dirName,
                    "  2. npm install",
                    "  3. Edit src/index.ts to implement your tool handler",
                    "  4. npm run build"
                  ]
              )

-----------------------------------------------------------------------------------------
-- What becomes of the tree
-----------------------------------------------------------------------------------------

/-- Where files are to be written: their places and texts. -/
def placed (here : Place) (files : List (List Char × String)) : List (Place × String) :=
  files.map (fun file => (resolve here file.1, file.2))

@[simp]
theorem placed_cons (here : Place) (file : List Char × String)
    (rest : List (List Char × String))
    : placed here (file :: rest) = (resolve here file.1, file.2) :: placed here rest :=
  rfl

/-- The files before the first in whose place a directory is. -/
def reached (tree : FileTree) (files : List (Place × String)) : List (Place × String) :=
  files.takeWhile (fun file => tree.node file.1 ≠ some .directory)

theorem reached_congr {tree other : FileTree} {files : List (Place × String)}
    (same
      : ∀ file ∈ files,
          other.node file.1 = some .directory ↔ tree.node file.1 = some .directory)
    : reached other files = reached tree files := by
  induction files with
  | nil => rfl
  | cons file rest ih =>
      rw [List.forall_mem_cons] at same
      have later := ih same.2
      simp only [reached, ne_eq] at later ⊢
      simp only [List.takeWhile_cons, same.1, later]

/-- A file is written in its place. -/
theorem writeFile_written {here : Place} {tree : FileTree} {file : List Char × String}
    (up : tree.node (resolve here file.1).dropLast = some .directory)
    (free : tree.node (resolve here file.1) ≠ some .directory)
    : ∃ left : FileTree,
        (∀ other,
          left.node other
          = if other = resolve here file.1 then some (.file file.2) else tree.node other)
        ∧ (∀ other, left.node other = some .directory ↔ tree.node other = some .directory)
        ∧ ∀ rest, writeFiles here tree (file :: rest) = writeFiles here left rest := by
  obtain ⟨path, text⟩ := file
  obtain ⟨done, written⟩ := FileTree.writeFile_free up free text
  have first
      : tree.writeFile (resolve here path) text
        = ((tree.writeFile (resolve here path) text).1, none) :=
    Prod.ext rfl done
  refine ⟨_, written, ?_, ?_⟩
  · intro other
    rw [written]
    split
    case isTrue same => simpa [same] using free
    case isFalse => rfl
  · intro rest
    rw [writeFiles, first]

/-- Files in directories are written up to the first directory in the place of one, by
induction on the files.
-/
theorem writeFiles_reached {here : Place} {tree : FileTree}
    {files : List (List Char × String)}
    (up : ∀ file ∈ placed here files, tree.node file.1.dropLast = some .directory)
    (apart : ((placed here files).map Prod.fst).Nodup)
    : ((writeFiles here tree files).2 = none
        ↔ ∀ file ∈ placed here files, tree.node file.1 ≠ some .directory)
      ∧ ∀ other,
          (writeFiles here tree files).1.node other
          = (((reached tree (placed here files)).lookup other).map FileNode.file).or
              (tree.node other) := by
  induction files generalizing tree with
  | nil => exact ⟨by simp [writeFiles, placed], fun _ => rfl⟩
  | cons file rest ih =>
      simp only [placed_cons, List.forall_mem_cons, List.map_cons, List.nodup_cons]
        at up apart ⊢
      by_cases directory : tree.node (resolve here file.1) = some .directory
      · simp [writeFiles, FileTree.writeFile_isDirectory directory, directory, reached]
      · obtain ⟨left, written, kept, next⟩ := writeFile_written up.1 directory
        obtain ⟨all, made⟩ := ih (fun file member => (kept _).mpr (up.2 file member)) apart.2
        have onward : reached left (placed here rest) = reached tree (placed here rest) :=
          reached_congr (fun file _ => kept file.1)
        rw [next, all]
        refine ⟨by simp only [ne_eq, kept, directory, not_false_eq_true, true_and], ?_⟩
        intro other
        have first
            : reached tree ((resolve here file.1, file.2) :: placed here rest)
              = (resolve here file.1, file.2) :: reached tree (placed here rest) := by
          simp [reached, directory]
        rw [made, written, onward, first, List.lookup_cons]
        by_cases same : other = resolve here file.1
        · subst same
          have absent
              : (reached tree (placed here rest)).lookup (resolve here file.1) = none := by
            rw [List.lookup_eq_none_iff]
            intro later member
            have differs : resolve here file.1 ≠ later.1 := by
              intro same
              exact apart.1 (List.mem_map.mpr
                ⟨later, List.takeWhile_subset _ member, same.symm⟩)
            simpa using differs
          simp [absent]
        · have other : (other == resolve here file.1) = false := by simpa using same
          simp [same, other]

/-- The place of a new tool: the names between the slashes, below the working directory. -/
def toolPlace (here : Place) (toolName : String) : Place :=
  here ++ (pathNames (dirNameOf toolName)).filter (· ≠ [])

example : toolPlace [] "web.search" = ["web-search".toList] := by decide

/-- The places of its files, with what is written there. -/
def placedFiles (here : Place) (toolName : String) : List (Place × String) :=
  let place := toolPlace here toolName
  [
    (place ++ ["package.json".toList], scaffoldPackageJSON (dirNameOf toolName)),
    (place ++ ["tsconfig.json".toList], scaffoldTSConfig),
    (place ++ ["src".toList, "index.ts".toList], scaffoldIndexTS quoted toolName)
  ]

/-- The place of its innermost directory. -/
def srcPlace (here : Place) (toolName : String) : Place :=
  toolPlace here toolName ++ ["src".toList]

/-- Without dots a name leads only down. -/
theorem resolve_toolDir (here : Place) (toolName : String)
    : join [['.'], dirNameOf toolName] ≠ []
      ∧ resolve here (join [['.'], dirNameOf toolName]) = toolPlace here toolName := by
  obtain ⟨nonempty, leads⟩ :=
    resolve_join here (List.cons_ne_nil '.' []) [dirNameOf toolName]
  refine ⟨nonempty, ?_⟩
  rw [leads, List.flatMap_cons, List.flatMap_nil, List.append_nil, walk_plain]
  · rfl
  · intro name member dot
    obtain ⟨c, _, dashed⟩ := List.mem_map.mp ((mem_pathNames member).1 '.' dot)
    split at dashed
    · simp at dashed
    · exact absurd dashed ‹_›

/-- Names within the new tool lead down from it. -/
theorem resolve_inTool (here : Place) (toolName : String) {names : List (List Char)}
    (kept : ∀ name ∈ names, Kept name ∧ name ≠ ['.', '.'])
    : resolve here (join (join [['.'], dirNameOf toolName] :: names))
      = toolPlace here toolName ++ names := by
  obtain ⟨nonempty, leads⟩ := resolve_toolDir here toolName
  rw [(resolve_join here nonempty names).2, leads, walk_kept kept]

theorem resolve_src (here : Place) (toolName : String)
    : resolve here (join [join [['.'], dirNameOf toolName], "src".toList])
      = srcPlace here toolName :=
  resolve_inTool here toolName (by decide)

/-- The files are written at their places. -/
theorem scaffoldFiles_placed (here : Place) (toolName : String)
    : placed here (scaffoldFiles quoted toolName (join [['.'], dirNameOf toolName]))
      = placedFiles quoted here toolName := by
  have plain : ∀ name ∈ ["package.json".toList, "tsconfig.json".toList, "src".toList,
      "index.ts".toList], Kept name ∧ name ≠ ['.', '.'] := by
    decide
  simp only [placed, scaffoldFiles, placedFiles, List.map_cons, List.map_nil]
  rw [resolve_inTool, resolve_inTool, resolve_inTool]
  all_goals
    intro name member
    exact plain name (by simp at member ⊢; tauto)

/-- The files are in directories that are made, and nowhere on the way to these. -/
theorem placedFiles_beside {here : Place} {toolName : String} {file : Place × String}
    (member : file ∈ placedFiles quoted here toolName)
    : file.1.dropLast <+: srcPlace here toolName ∧ ¬file.1 <+: srcPlace here toolName := by
  simp only [placedFiles, List.mem_cons, List.not_mem_nil, or_false] at member
  rcases member with rfl | rfl | rfl <;>
    simp [srcPlace, List.prefix_append_right_inj, List.dropLast_append_of_ne_nil]

theorem srcPlace_below (here : Place) (toolName : String) : here <+: srcPlace here toolName :=
  (List.prefix_append here _).trans (List.prefix_append _ _)

theorem placedFiles_below {here : Place} {toolName : String} {file : Place × String}
    (member : file ∈ placedFiles quoted here toolName)
    : here <+: file.1 := by
  simp only [placedFiles, List.mem_cons, List.not_mem_nil, or_false] at member
  rcases member with rfl | rfl | rfl <;>
    exact (List.prefix_append here _).trans (List.prefix_append _ _)

theorem placedFiles_apart (here : Place) (toolName : String)
    : ((placedFiles quoted here toolName).map Prod.fst).Nodup := by
  simp [placedFiles]

/-- With a file on the way to its directories nothing of a tool is created. -/
theorem runToolCreate_blocked {here : Place} {tree : FileTree} {toolName : String}
    (blocked : tree.Blocked (srcPlace here toolName)) (rest : List String)
    : runToolCreate quoted here tree (toolName :: rest)
      = (tree, .error (.creatingDirectory .notDirectory)) := by
  simp only [runToolCreate, resolve_src, FileTree.mkdirAll_blocked blocked]

/-- Otherwise its directories are made, and its files written up to the first in whose place
a directory is.
-/
theorem runToolCreate_clear {here : Place} {tree : FileTree} {toolName : String}
    (clear : ¬tree.Blocked (srcPlace here toolName)) (rest : List String)
    : ((∃ lines, (runToolCreate quoted here tree (toolName :: rest)).2 = .ok lines)
        ↔ ∀ file ∈ placedFiles quoted here toolName, tree.node file.1 ≠ some .directory)
      ∧ ∀ other,
          (runToolCreate quoted here tree (toolName :: rest)).1.node other
          = (((reached tree (placedFiles quoted here toolName)).lookup other).map
              FileNode.file).or
              (if other <+: srcPlace here toolName then some .directory
              else tree.node other) := by
  obtain ⟨made, below, directories⟩ := FileTree.mkdirAll_free clear
  have beside : ∀ file ∈ placedFiles quoted here toolName,
      made.node file.1 = tree.node file.1 := by
    intro file member
    rw [directories, if_neg (placedFiles_beside quoted member).2]
  have up : ∀ file ∈ placedFiles quoted here toolName,
      made.node file.1.dropLast = some .directory := by
    intro file member
    rw [directories, if_pos (placedFiles_beside quoted member).1]
  have same
      : reached made (placedFiles quoted here toolName)
        = reached tree (placedFiles quoted here toolName) := by
    apply reached_congr
    intro file member
    rw [beside file member]
  have apart := placedFiles_apart quoted here toolName
  rw [← scaffoldFiles_placed] at up apart
  obtain ⟨all, written⟩ := writeFiles_reached up apart
  rw [scaffoldFiles_placed] at all written
  have free
      : (∀ file ∈ placedFiles quoted here toolName, made.node file.1 ≠ some .directory)
        ↔ ∀ file ∈ placedFiles quoted here toolName, tree.node file.1 ≠ some .directory :=
    forall₂_congr (fun file member => by rw [beside file member])
  rw [free] at all
  simp only [same, directories] at written
  simp only [runToolCreate, resolve_src, below]
  generalize writeFiles here made
      (scaffoldFiles quoted toolName (join [['.'], dirNameOf toolName])) = outcome
    at all written ⊢
  obtain ⟨left, _ | error⟩ := outcome
  · exact ⟨iff_of_true ⟨_, rfl⟩ (all.mp rfl), written⟩
  · refine ⟨iff_of_false ?_ ?_, written⟩
    · simp
    · simpa using all

/-- A tool is created if no file is on the way to its directories and no directory in the
place of one of its files.
-/
theorem runToolCreate_ok_iff {here : Place} {tree : FileTree} {toolName : String}
    (rest : List String)
    : (∃ lines, (runToolCreate quoted here tree (toolName :: rest)).2 = .ok lines)
      ↔ ¬tree.Blocked (srcPlace here toolName)
        ∧ ∀ file ∈ placedFiles quoted here toolName, tree.node file.1 ≠ some .directory := by
  by_cases blocked : tree.Blocked (srcPlace here toolName)
  · simp [runToolCreate_blocked quoted blocked, blocked]
  · simp only [runToolCreate_clear quoted blocked, blocked, not_false_eq_true, true_and]

/-- All of its files are there when it says so. -/
theorem runToolCreate_scaffolded {here : Place} {tree : FileTree} {toolName : String}
    {rest lines : List String}
    (scaffolded : (runToolCreate quoted here tree (toolName :: rest)).2 = .ok lines)
    {file : Place × String} (member : file ∈ placedFiles quoted here toolName)
    : (runToolCreate quoted here tree (toolName :: rest)).1.node file.1
      = some (.file file.2) := by
  obtain ⟨clear, free⟩ := (runToolCreate_ok_iff quoted rest).mp ⟨lines, scaffolded⟩
  have all
      : reached tree (placedFiles quoted here toolName) = placedFiles quoted here toolName :=
    List.takeWhile_eq_self_iff.mpr (fun other member => by simpa using free other member)
  obtain ⟨before, after, split⟩ := List.append_of_mem member
  have found : (placedFiles quoted here toolName).lookup file.1 = some file.2 := by
    refine List.lookup_eq_some_iff.mpr ⟨before, after, split, ?_⟩
    intro earlier among
    have apart := placedFiles_apart quoted here toolName
    rw [split, List.map_append, List.map_cons, List.nodup_append] at apart
    simpa using (apart.2.2 _ (List.mem_map_of_mem among) _ List.mem_cons_self).symm
  rw [(runToolCreate_clear quoted clear rest).2, all, found]
  rfl

/-- What changes is on the way to its directories or the place of a file, and no directory. -/
theorem runToolCreate_changes {here : Place} {tree : FileTree} {toolName : String}
    {rest : List String} {other : Place}
    (changed
      : (runToolCreate quoted here tree (toolName :: rest)).1.node other ≠ tree.node other)
    : tree.node other ≠ some .directory
      ∧ (other <+: srcPlace here toolName
        ∨ ∃ text, (other, text) ∈ placedFiles quoted here toolName) := by
  by_cases blocked : tree.Blocked (srcPlace here toolName)
  · rw [runToolCreate_blocked quoted blocked] at changed
    exact absurd rfl changed
  rw [(runToolCreate_clear quoted blocked rest).2] at changed
  cases found : (reached tree (placedFiles quoted here toolName)).lookup other with
  | none =>
      rw [found] at changed
      simp only [Option.map_none, Option.none_or, ne_eq, ite_eq_right_iff,
        Classical.not_imp] at changed
      exact ⟨fun directory => changed.2 directory.symm, .inl changed.1⟩
  | some text =>
      obtain ⟨before, after, split, _⟩ := List.lookup_eq_some_iff.mp found
      have member : (other, text) ∈ reached tree (placedFiles quoted here toolName) := by
        simp [split]
      refine ⟨by simpa using List.mem_takeWhile_imp member, .inr ⟨text, ?_⟩⟩
      exact List.takeWhile_subset _ member

/-- Whatever it is given, and whatever fails, it changes only what is below the working
directory, and no directory there.
-/
theorem runToolCreate_confined {here : Place} {tree : FileTree}
    (there : tree.node here = some .directory) (args : List String) {other : Place}
    (changed : (runToolCreate quoted here tree args).1.node other ≠ tree.node other)
    : tree.node other ≠ some .directory ∧ here <+: other ∧ other ≠ here := by
  cases args with
  | nil => exact absurd rfl changed
  | cons toolName rest =>
      obtain ⟨kept, place⟩ := runToolCreate_changes quoted changed
      have below : here <+: other := by
        rcases place with onWay | ⟨text, member⟩
        · have start : here <+: srcPlace here toolName := srcPlace_below here toolName
          rcases List.prefix_or_prefix_of_prefix onWay start with above | below
          · exact absurd (FileTree.directory_of_prefix there above) kept
          · exact below
        · exact placedFiles_below quoted member
      refine ⟨kept, below, ?_⟩
      rintro rfl
      exact kept there

end Scaffold

end Intellisphere.Cli
