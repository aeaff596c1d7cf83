import WordPairs.Files.Tree

/-!
# Temporary files of a tree

What is done with one temporary file of a tree changes neither the others nor what stands at the
places of the tree. A temporary file that is removed takes with it all that was written to it.
-/

namespace WordPairs.Tree

/-- The serial numbers of the temporary files. -/
def serials (tree : Tree) : List Nat := tree.temporaries.map (·.serial)

variable (tree : Tree)

/-- The serial number of a new temporary file belongs to no other. -/
theorem freshSerial_notMem : tree.freshSerial ∉ tree.serials := by
  intro member
  obtain ⟨file, inside, same⟩ := List.mem_map.1 member
  exact Nat.ne_of_lt (tree.lt_freshSerial inside) same

/-- Writing to temporary files gives them no other numbers. -/
theorem serials_appendTemporary (serial : Nat) (bytes : List UInt8) :
    (tree.appendTemporary serial bytes).serials = tree.serials := by
  rw [serials, appendTemporary, List.map_map]
  refine List.map_congr_left fun file _ => ?_
  by_cases same : file.serial = serial <;> simp [same]

/-- Removing a temporary file removes its number. -/
theorem serials_removeTemporary (serial : Nat) :
    (tree.removeTemporary serial).serials = tree.serials.filter (· ≠ serial) := by
  rw [serials, serials, removeTemporary, List.filter_map]
  rfl

/-- A temporary file is found under its number, whatever is written to one of them. -/
theorem find?_appendTemporary (serial other : Nat) (bytes : List UInt8) :
    (tree.appendTemporary serial bytes).temporaries.find? (·.serial = other) =
      (tree.temporaries.find? (·.serial = other)).map fun file =>
        if file.serial = serial then { file with content := file.content ++ bytes } else file := by
  rw [appendTemporary, List.find?_map]
  congr 2
  funext file
  by_cases same : file.serial = serial <;> simp [same]

/-- Behind the bytes of a temporary file stand those that were written last. -/
theorem temporary_appendTemporary_self {serial : Nat} (present : serial ∈ tree.serials)
    (bytes : List UInt8) :
    (tree.appendTemporary serial bytes).temporary serial = tree.temporary serial ++ bytes := by
  obtain ⟨file, inside, same⟩ := List.mem_map.1 present
  have finds : (tree.temporaries.find? (·.serial = serial)).isSome :=
    List.find?_isSome.2 ⟨file, inside, decide_eq_true same⟩
  obtain ⟨found, first⟩ := Option.isSome_iff_exists.1 finds
  have named := List.find?_some first
  rw [decide_eq_true_eq] at named
  rw [temporary, find?_appendTemporary, temporary, first, Option.map_some, if_pos named]

/-- Removing one temporary file changes no other. -/
theorem temporary_removeTemporary_of_ne {serial other : Nat} (distinct : other ≠ serial) :
    (tree.removeTemporary serial).temporary other = tree.temporary other := by
  have kept : (tree.temporaries.filter (·.serial ≠ serial)).find? (·.serial = other) =
      tree.temporaries.find? (·.serial = other) := by
    rw [List.find?_filter]
    congr 1
    funext file
    by_cases same : file.serial = other <;> simp [same, distinct]
  rw [temporary, removeTemporary, kept, temporary]

/-- What was written to a temporary file goes with it. -/
theorem removeTemporary_appendTemporary (serial : Nat) (bytes : List UInt8) :
    (tree.appendTemporary serial bytes).removeTemporary serial = tree.removeTemporary serial := by
  have kept : (tree.appendTemporary serial bytes).temporaries.filter (·.serial ≠ serial) =
      tree.temporaries.filter (·.serial ≠ serial) := by
    rw [appendTemporary]
    induction tree.temporaries with
    | nil => rfl
    | cons file files ih =>
      by_cases same : file.serial = serial <;> simpa [List.filter_cons, same] using ih
  exact congrArg (Tree.mk tree.workingLength tree.named) kept

/-- Removing a temporary file changes no place. -/
theorem named_removeTemporary (serial : Nat) : (tree.removeTemporary serial).named = tree.named :=
  rfl

/-- Temporary files can be removed in any order. -/
theorem removeTemporary_comm (first second : Nat) :
    (tree.removeTemporary first).removeTemporary second =
      (tree.removeTemporary second).removeTemporary first := by
  rw [removeTemporary, removeTemporary, removeTemporary, removeTemporary, List.filter_filter,
    List.filter_filter]
  exact congrArg (Tree.mk tree.workingLength tree.named)
    (List.filter_congr fun file _ => Bool.and_comm _ _)

/-- What a tree is after a temporary file was created in it. -/
theorem createTemporary_eq_ok {path : Path} {serial : Nat} {next : Tree}
    (created : tree.createTemporary path = .ok (serial, next)) :
    serial = tree.freshSerial ∧ ∃ directory, tree.parent path = .ok directory ∧
      next = { tree with temporaries := ⟨serial, directory, #[]⟩ :: tree.temporaries } := by
  unfold createTemporary at created
  split at created
  · cases created
  · rename_i directory found
    cases created
    exact ⟨rfl, directory, found, rfl⟩

/-- A temporary file has no bytes when it is created. -/
theorem temporary_of_createTemporary {path : Path} {serial : Nat} {next : Tree}
    (created : tree.createTemporary path = .ok (serial, next)) : next.temporary serial = #[] := by
  obtain ⟨_, _, _, rfl⟩ := tree.createTemporary_eq_ok created
  simp [temporary]

/-- The number of a temporary file that is created comes in front of the others. -/
theorem serials_of_createTemporary {path : Path} {serial : Nat} {next : Tree}
    (created : tree.createTemporary path = .ok (serial, next)) :
    next.serials = serial :: tree.serials := by
  obtain ⟨_, _, _, rfl⟩ := tree.createTemporary_eq_ok created
  rfl

end WordPairs.Tree
