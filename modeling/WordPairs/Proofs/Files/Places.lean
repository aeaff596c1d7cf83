import WordPairs.Files.Tree

/-!
# Places that paths lead to

Where a path leads depends on the directories of a tree alone. A file that is put where none of them
stands changes no way, so that a file moved to a path is what is read from the path afterwards.
-/

namespace WordPairs

/-- The place that one name leads to from another, if a place can have the name. -/
def Location.step? (location : Location) (name : String) : Option Location :=
  if name = "." then some location
  else if name = ".." then some location.above
  else if Path.nameLimit < name.utf8ByteSize then none
  else some (location.child name)

namespace Tree

variable {tree other : Tree}

/-- A place is a directory exactly if it may stand on a way. -/
theorem requireDirectory_eq_ok_iff {place : Location} :
    tree.requireDirectory place = .ok () ↔ tree.node? place = some .directory := by
  unfold requireDirectory
  split <;> simp_all

/-- Trees with the same directories. -/
def SameDirectories (tree other : Tree) : Prop :=
  ∀ place, tree.node? place = some .directory ↔ other.node? place = some .directory

/-- What stands at the places does not depend on the temporary files. -/
theorem node?_congr (same : tree.named = other.named) (place : Location) :
    tree.node? place = other.node? place := by
  rw [node?, node?, same]

/-- A file that stands where no directory was changes no directory. -/
theorem sameDirectories_put {place : Location} (named : place.names ≠ [])
    (free : tree.node? place ≠ some .directory) (content : List UInt8) :
    SameDirectories tree (tree.put place (.file content)) := by
  intro current
  by_cases same : current = place
  · subst same
    rw [tree.node?_put_self _ named]
    simpa using free
  · rw [tree.node?_put_of_ne _ same]

/-- A way begins in a directory, with the step that its first name takes. -/
theorem walk_cons_eq_ok_iff {name : String} {names : List String} {start place : Location} :
    tree.walk (name :: names) start = .ok place ↔ tree.node? start = some .directory ∧
      ∃ next, start.step? name = some next ∧ tree.walk names next = .ok place := by
  rw [walk, ← requireDirectory_eq_ok_iff, Location.step?]
  cases required : tree.requireDirectory start with
  | error cause => simp
  | ok =>
    by_cases dot : name = "."
    · simp [dot]
    · by_cases dots : name = ".."
      · simp [dots]
      · by_cases long : Path.nameLimit < name.utf8ByteSize <;> simp [dot, dots, long]

/-- A way is the same in a tree with the same directories. -/
theorem walk_of_sameDirectories (same : SameDirectories tree other) {names : List String}
    {start place : Location} (walked : tree.walk names start = .ok place) :
    other.walk names start = .ok place := by
  induction names generalizing start with
  | nil => exact walked
  | cons name names ih =>
    obtain ⟨inside, next, step, rest⟩ := walk_cons_eq_ok_iff.1 walked
    exact walk_cons_eq_ok_iff.2 ⟨(same start).1 inside, next, step, ih rest⟩

/-- A way goes on where its front leads. -/
theorem walk_append {front back : List String} {start middle place : Location}
    (first : tree.walk front start = .ok middle) (second : tree.walk back middle = .ok place) :
    tree.walk (front ++ back) start = .ok place := by
  induction front generalizing start with
  | nil =>
    cases first
    exact second
  | cons name names ih =>
    obtain ⟨inside, next, step, rest⟩ := walk_cons_eq_ok_iff.1 first
    exact walk_cons_eq_ok_iff.2 ⟨inside, next, step, ih rest⟩

/-- A path can be the goal of a move: it names a place in a directory that is no directory. -/
structure Goes (tree : Tree) (path : Path) (directory : Location) (name : String) : Prop where
  /-- The path can be given to the system. -/
  passable : path.hasNul = false ∧ path.isEmpty = false ∧ path.isTooLong = false
  /-- The name at the end of the path. -/
  last : path.names.getLast? = some name
  /-- The way to the directory. -/
  way : tree.walk path.names.dropLast path.start = .ok directory
  /-- The way ends at a directory. -/
  inside : tree.node? directory = some .directory
  /-- The name is one that a file can have. -/
  proper : (name ≠ "." ∧ name ≠ "..") ∧ ¬Path.nameLimit < name.utf8ByteSize
  /-- The path does not ask for a directory. -/
  plain : path.endsInSlash = false
  /-- No directory stands at the place. -/
  free : tree.node? (directory.child name) ≠ some .directory

/-- The goals of moves are the places that paths go to. -/
theorem goal_eq_ok_iff {path : Path} {place : Location} :
    tree.goal path = .ok place ↔
      ∃ directory name, tree.Goes path directory name ∧ place = directory.child name := by
  constructor
  · intro found
    unfold goal at found
    split at found
    · contradiction
    split at found
    · contradiction
    split at found
    · contradiction
    split at found
    · contradiction
    · contradiction
    rename_i nul empty long _ _ name directory last way
    split at found
    · contradiction
    rename_i required
    split at found
    · contradiction
    split at found
    · contradiction
    split at found
    · contradiction
    split at found
    · contradiction
    rename_i dots limit slash free
    cases found
    exact ⟨directory, name, ⟨⟨by simpa using nul, by simpa using empty, by simpa using long⟩, last,
      way, requireDirectory_eq_ok_iff.1 required, ⟨not_or.1 dots, limit⟩, by simpa using slash,
      free⟩, rfl⟩
  · rintro ⟨directory, name, goes, rfl⟩
    obtain ⟨nul, empty, long⟩ := goes.passable
    obtain ⟨dots, limit⟩ := goes.proper
    simp only [goal, nul, empty, long, goes.last, goes.way, goes.plain, goes.free,
      requireDirectory_eq_ok_iff.2 goes.inside, dots, limit, Bool.false_eq_true, if_false, or_self]

/-- The goal of a move is the same in a tree with the same directories. -/
theorem goal_of_sameDirectories (same : SameDirectories tree other) {path : Path}
    {place : Location} (found : tree.goal path = .ok place) : other.goal path = .ok place := by
  obtain ⟨directory, name, goes, rfl⟩ := goal_eq_ok_iff.1 found
  exact goal_eq_ok_iff.2 ⟨directory, name, { goes with
    way := walk_of_sameDirectories same goes.way
    inside := (same directory).1 goes.inside
    free := fun taken => goes.free ((same _).2 taken) }, rfl⟩

/-- The goal of a move is a place with a name where no directory stands. -/
theorem names_ne_nil_of_goal {path : Path} {place : Location} (found : tree.goal path = .ok place) :
    place.names ≠ [] ∧ tree.node? place ≠ some .directory := by
  obtain ⟨directory, name, goes, rfl⟩ := goal_eq_ok_iff.1 found
  exact ⟨by simp [Location.child], goes.free⟩

/-- What stands at the goal of a path is read from the path. -/
theorem read_of_goal (same : SameDirectories tree other) {path : Path} {place : Location}
    (found : tree.goal path = .ok place) {content : List UInt8}
    (holds : other.node? place = some (.file content)) : other.read path = .ok content := by
  obtain ⟨directory, name, goes, rfl⟩ := goal_eq_ok_iff.1 found
  obtain ⟨nul, empty, long⟩ := goes.passable
  obtain ⟨⟨dot, dots⟩, limit⟩ := goes.proper
  have step : directory.step? name = some (directory.child name) := by
    rw [Location.step?, if_neg dot, if_neg dots, if_neg limit]
  have final : other.walk [name] directory = .ok (directory.child name) :=
    walk_cons_eq_ok_iff.2 ⟨(same directory).1 goes.inside, _, step, rfl⟩
  have whole : path.names.dropLast ++ [name] = path.names := by
    obtain ⟨front, names⟩ := List.getLast?_eq_some_iff.1 goes.last
    rw [names, List.dropLast_concat]
  have way : other.walk path.names path.start = .ok (directory.child name) :=
    whole ▸ walk_append (walk_of_sameDirectories same goes.way) final
  simp only [read, nul, empty, long, way, holds, goes.plain, Bool.false_eq_true, if_false]

/-- A file that is put at the goal of a path is what is read from the path. -/
theorem read_put_of_goal {path : Path} {place : Location} (found : tree.goal path = .ok place)
    (content : List UInt8) : (tree.put place (.file content)).read path = .ok content := by
  obtain ⟨named, free⟩ := names_ne_nil_of_goal found
  have stands := tree.node?_put_self (.file content) named
  exact read_of_goal (sameDirectories_put named free content) found stands

/-- A way does not depend on the temporary files. -/
theorem walk_congr (same : tree.named = other.named) (names : List String) (start : Location) :
    tree.walk names start = other.walk names start := by
  induction names generalizing start with
  | nil => rfl
  | cons name names ih => simp only [walk, requireDirectory, node?_congr same, ih]

/-- The goal of a move does not depend on the temporary files. -/
theorem goal_congr (same : tree.named = other.named) (path : Path) :
    tree.goal path = other.goal path := by
  simp only [goal, walk_congr same, requireDirectory, node?_congr same]

end Tree

end WordPairs
