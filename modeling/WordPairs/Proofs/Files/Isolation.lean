import WordPairs.Proofs.Files.History
import WordPairs.Proofs.Files.Staged

/-!
# Files of a session do not disturb each other

Each open file of a session has a temporary file of its own, so that whatever is done with one file
leaves the bytes of the others as they are, also if they have the same target. What stands at the
places changes only when a file is finished. So a session is what its history says, whatever order
the steps came in.
-/

namespace WordPairs

/-- A staged file as seen from outside: its target and its bytes. -/
def Staged.holding (staged : Staged) (tree : Tree) : Holding :=
  ⟨staged.target, staged.content tree⟩

namespace Session

/-- The serial numbers of the temporary files of open files. -/
def serials (files : List (String × Staged)) : List Nat := files.map (·.2.serial)

section Files

variable {session : Session} {name other : String} {staged : Staged}

/-- A file that was added is found under its name, and the others under theirs. -/
theorem file?_cons (tree : Tree) (name other : String) (staged : Staged)
    (files : List (String × Staged)) :
    file? ⟨tree, (name, staged) :: files⟩ other =
      if other = name then some staged else file? ⟨tree, files⟩ other := by
  by_cases same : other = name
  · rw [if_pos same, file?, same, List.lookup_cons_self]
  · rw [if_neg same, file?, List.lookup_cons, beq_false_of_ne same]
    rfl

/-- A file that was closed is not found, and the others are. -/
theorem file?_close (session : Session) (name other : String) (tree : Tree) :
    (session.close name tree).file? other =
      if other = name then none else session.file? other := by
  obtain ⟨_, files⟩ := session
  show file? ⟨tree, files.filter (·.1 ≠ name)⟩ other =
    if other = name then none else file? ⟨tree, files⟩ other
  induction files with
  | nil => simp [file?]
  | cons entry files ih =>
    obtain ⟨key, staged⟩ := entry
    by_cases closed : key = name
    · rw [List.filter_cons_of_neg (by simpa using closed), ih, file?_cons, closed]
      by_cases same : other = name <;> simp only [same, if_true, if_false]
    · rw [List.filter_cons_of_pos (by simpa using closed), file?_cons, file?_cons, ih]
      by_cases found : other = key
      · have distinct : other ≠ name := found ▸ closed
        rw [if_pos found, if_neg distinct, if_pos found]
      · rw [if_neg found, if_neg found]

/-- An open file and the others are all the open files. -/
theorem perm_of_file? (names : (session.files.map (·.1)).Nodup)
    (found : session.file? name = some staged) :
    session.files.Perm ((name, staged) :: session.without name) := by
  obtain ⟨front, back, split, before⟩ := List.lookup_eq_some_iff.1 found
  have kept : session.without name = front ++ back := by
    rw [split, List.map_append, List.map_cons, List.nodup_append] at names
    have fresh := List.nodup_cons.1 names.2.1
    rw [without, split, List.filter_append, List.filter_cons_of_neg (by simp)]
    congr 1
    · refine List.filter_eq_self.2 fun entry member => ?_
      have differs := before entry member
      exact decide_eq_true fun same => by simp [same] at differs
    · refine List.filter_eq_self.2 fun entry member => decide_eq_true fun same => ?_
      exact fresh.1 (List.mem_map.2 ⟨entry, member, same⟩)
  rw [kept, split]
  exact List.perm_middle

/-- Where no file has a name, all files have others. -/
theorem without_of_free (free : session.file? name = none) :
    session.without name = session.files := by
  refine List.filter_eq_self.2 fun entry member => decide_eq_true fun same => ?_
  have differs := List.lookup_eq_none_iff.1 free entry member
  simp [same] at differs

/-- A file that is found is among the open files. -/
theorem mem_of_file? (found : session.file? name = some staged) :
    (name, staged) ∈ session.files := by
  obtain ⟨front, back, split, _⟩ := List.lookup_eq_some_iff.1 found
  rw [split]
  exact List.mem_append_right front List.mem_cons_self

end Files

/-- A session holds certain files and has certain things at its places, and its temporary files are
those of a tree and one for each open file. -/
structure Sound (tree : Tree) (held : String → Option Holding) (stands : Location → Option Node)
    (session : Session) : Prop where
  /-- What stands at the places. -/
  places : ∀ place, session.tree.node? place = stands place
  /-- What the open files are. -/
  holds : ∀ name, (session.file? name).map (·.holding session.tree) = held name
  /-- The bytes of the open files are counted. -/
  counts : ∀ name staged, session.file? name = some staged →
    staged.accepted = (staged.content session.tree).length
  /-- The open files have different names. -/
  names : (session.files.map (·.1)).Nodup
  /-- There are the temporary files of the open files and those of the tree. -/
  temporaries : session.tree.serials.Perm (serials session.files ++ tree.serials)
  /-- The open files have different temporary files. -/
  distinct : (serials session.files).Nodup
  /-- The open files have other temporary files than the tree. -/
  foreign : ∀ serial ∈ serials session.files, serial ∉ tree.serials

namespace Sound

variable {tree : Tree} {held : String → Option Holding} {stands : Location → Option Node}
  {session : Session} {name : String} {staged : Staged}

/-- A session in which no file is open holds none. -/
theorem start (tree : Tree) : Sound tree (fun _ => none) tree.node? (start tree) where
  places _ := rfl
  holds _ := rfl
  counts _ _ found := by cases found
  names := List.nodup_nil
  temporaries := .refl _
  distinct := List.nodup_nil
  foreign _ member := by cases member

/-- What a session holds and has at its places can be told in other ways. -/
theorem congr (sound : Sound tree held stands session) {held' : String → Option Holding}
    {stands' : Location → Option Node} (holds : ∀ name, held name = held' name)
    (places : ∀ place, stands place = stands' place) : Sound tree held' stands' session :=
  { sound with
    places := fun place => (sound.places place).trans (places place)
    holds := fun name => (sound.holds name).trans (holds name) }

/-- The numbers of the temporary files of an open file and of the others. -/
theorem perm_serials (sound : Sound tree held stands session)
    (found : session.file? name = some staged) :
    (serials session.files).Perm (staged.serial :: serials (session.without name)) :=
  (perm_of_file? sound.names found).map fun (entry : String × Staged) => entry.2.serial

/-- The temporary file of an open file is there. -/
theorem present (sound : Sound tree held stands session)
    (found : session.file? name = some staged) : staged.serial ∈ session.tree.serials := by
  refine sound.temporaries.mem_iff.2 (List.mem_append_left _ ?_)
  exact List.mem_map.2 ⟨_, mem_of_file? found, rfl⟩

/-- The temporary file of an open file belongs to no other. -/
theorem alone (sound : Sound tree held stands session)
    (found : session.file? name = some staged) :
    staged.serial ∉ serials (session.without name) ∧
      (serials (session.without name)).Nodup :=
  List.nodup_cons.1 ((sound.perm_serials found).nodup_iff.1 sound.distinct)

/-- The temporary files are those of an open file, of the others and of the tree. -/
theorem perm_split (sound : Sound tree held stands session)
    (found : session.file? name = some staged) :
    session.tree.serials.Perm
      (staged.serial :: (serials (session.without name) ++ tree.serials)) :=
  sound.temporaries.trans ((sound.perm_serials found).append_right tree.serials)

/-- The temporary files that are left when an open file is closed. -/
theorem perm_removeTemporary (sound : Sound tree held stands session)
    (found : session.file? name = some staged) :
    (session.tree.removeTemporary staged.serial).serials.Perm
      (serials (session.without name) ++ tree.serials) := by
  have unused := (sound.alone found).1
  have foreign := sound.foreign _ ((sound.perm_serials found).mem_iff.2 List.mem_cons_self)
  have others : (serials (session.without name) ++ tree.serials).filter (· ≠ staged.serial) =
      serials (session.without name) ++ tree.serials := by
    refine List.filter_eq_self.2 fun serial member => decide_eq_true fun same => ?_
    rcases List.mem_append.1 (same ▸ member) with used | used
    · exact unused used
    · exact foreign used
  have left := (sound.perm_split found).filter (· ≠ staged.serial)
  rw [List.filter_cons_of_neg (by simp), others] at left
  rw [Tree.serials_removeTemporary]
  exact left

/-- The bytes of a file stay when another one is closed. -/
theorem content_discard (sound : Sound tree held stands session)
    (found : session.file? name = some staged) {other : String} {old : Staged}
    (distinct : other ≠ name) (present : session.file? other = some old) :
    old.content (staged.discard session.tree) = old.content session.tree := by
  have still : (session.close name session.tree).file? other = some old := by
    rw [file?_close, if_neg distinct, present]
  have serial : old.serial ∈ serials (session.without name) :=
    List.mem_map.2 ⟨_, mem_of_file? still, rfl⟩
  have apart : old.serial ≠ staged.serial := fun same =>
    (sound.alone found).1 (same ▸ serial)
  rw [Staged.content, Staged.content, Staged.discard,
    session.tree.temporary_removeTemporary_of_ne apart]

/-- A file that is closed with its temporary file takes nothing from the others. -/
theorem close (sound : Sound tree held stands session)
    (found : session.file? name = some staged) :
    Sound tree (fun other => if other = name then none else held other) stands
      (session.close name (staged.discard session.tree)) where
  places place := sound.places place
  holds other := by
    rw [file?_close]
    by_cases same : other = name
    · rw [if_pos same, if_pos same]
      rfl
    · rw [if_neg same, if_neg same, ← sound.holds other]
      cases present : session.file? other with
      | none => rfl
      | some old =>
        have content := sound.content_discard found same present
        exact congrArg (fun bytes => some (Holding.mk old.target bytes)) content
  counts other old present := by
    rw [file?_close] at present
    by_cases same : other = name
    · rw [if_pos same] at present
      cases present
    · rw [if_neg same] at present
      have content := sound.content_discard found same present
      rw [sound.counts other old present]
      exact congrArg List.length content.symm
  names := sound.names.sublist (List.filter_sublist.map _)
  temporaries := sound.perm_removeTemporary found
  distinct := (sound.alone found).2
  foreign serial member :=
    sound.foreign serial ((sound.perm_serials found).mem_iff.2 (List.mem_cons_of_mem _ member))

/-- A file that is added with a temporary file of its own takes nothing from the others. -/
theorem add (sound : Sound tree held stands session) (free : session.file? name = none)
    {next : Tree} (restored : next.removeTemporary staged.serial = session.tree)
    (serials : next.serials.Perm (staged.serial :: session.tree.serials))
    (counted : staged.accepted = (staged.content next).length) :
    Sound tree (fun other => if other = name then some (staged.holding next) else held other)
      stands ⟨next, (name, staged) :: session.files⟩ := by
  have new : staged.serial ∉ session.tree.serials := by
    rw [← restored, Tree.serials_removeTemporary]
    simp
  have unused : staged.serial ∉ Session.serials session.files := fun used =>
    new (sound.temporaries.mem_iff.2 (List.mem_append_left _ used))
  have foreign : staged.serial ∉ tree.serials := fun used =>
    new (sound.temporaries.mem_iff.2 (List.mem_append_right _ used))
  have unnamed : name ∉ session.files.map (·.1) := by
    intro member
    obtain ⟨entry, inside, same⟩ := List.mem_map.1 member
    have differs := List.lookup_eq_none_iff.1 free entry inside
    simp [same] at differs
  have content : ∀ other old, session.file? other = some old →
      old.content next = old.content session.tree := by
    intro other old present
    have apart : old.serial ≠ staged.serial := fun same => new (same ▸ sound.present present)
    rw [Staged.content, Staged.content, ← restored, next.temporary_removeTemporary_of_ne apart]
  refine ⟨fun place => ?_, fun other => ?_, fun other old present => ?_,
    List.nodup_cons.2 ⟨unnamed, sound.names⟩, serials.trans (sound.temporaries.cons _),
    List.nodup_cons.2 ⟨unused, sound.distinct⟩, fun serial member => ?_⟩
  · have named : next.named = session.tree.named := by
      rw [← restored]
      rfl
    rw [Tree.node?_congr named, sound.places]
  · rw [file?_cons]
    by_cases same : other = name
    · rw [if_pos same, if_pos same]
      rfl
    · rw [if_neg same, if_neg same, ← sound.holds other]
      cases present : file? ⟨next, session.files⟩ other with
      | none =>
        have present : session.file? other = none := present
        rw [present]
        rfl
      | some old =>
        have present : session.file? other = some old := present
        rw [present]
        exact congrArg (fun bytes => some (Holding.mk old.target bytes)) (content other old present)
  · rw [file?_cons] at present
    by_cases same : other = name
    · rw [if_pos same] at present
      cases present
      exact counted
    · rw [if_neg same] at present
      rw [sound.counts other old present]
      exact congrArg List.length (content other old present).symm
  · rcases List.mem_cons.1 member with rfl | member
    · exact foreign
    · exact sound.foreign serial member

/-- The temporary file of an open file comes to the others when the file is not closed. -/
theorem perm_present (sound : Sound tree held stands session)
    (found : session.file? name = some staged) :
    session.tree.serials.Perm
      (staged.serial :: (session.tree.removeTemporary staged.serial).serials) :=
  (sound.perm_split found).trans ((sound.perm_removeTemporary found).symm.cons staged.serial)

/-- A file that accepts bytes takes nothing from the others. -/
theorem keep (sound : Sound tree held stands session)
    (found : session.file? name = some staged) {last : Staged × Tree} {bytes : List UInt8}
    (follows : Staged.Follows (staged, session.tree) last bytes) :
    Sound tree (fun other => if other = name then (held name).map (·.with bytes) else held other)
      stands (session.keep name last) := by
  -- The file is closed and added again with its new bytes, which comes to the same.
  have free : (session.close name (staged.discard session.tree)).file? name = none := by
    rw [file?_close, if_pos rfl]
  have restored : last.2.removeTemporary last.1.serial = staged.discard session.tree := by
    rw [follows.serial]
    exact follows.rest
  have serials : last.2.serials.Perm
      (last.1.serial :: (staged.discard session.tree).serials) := by
    rw [follows.serials, follows.serial]
    exact sound.perm_present found
  have counted : last.1.accepted = (last.1.content last.2).length := by
    rw [follows.accepted, follows.content, List.length_append, sound.counts name staged found]
  have added := (sound.close found).add free restored serials counted
  have grown : (held name).map (·.with bytes) = some (last.1.holding last.2) := by
    rw [← sound.holds name, found, Staged.holding, follows.target, follows.content]
    rfl
  refine added.congr (fun other => ?_) fun _ => rfl
  by_cases same : other = name
  · rw [if_pos same, if_pos same, grown]
  · rw [if_neg same, if_neg same, if_neg same]

/-- A file that is begun takes nothing from the others. -/
theorem create (sound : Sound tree held stands session) (free : session.file? name = none)
    {target : Path} {next : Tree}
    (created : Staged.create target session.tree = .ok (staged, next)) :
    Sound tree (fun other => if other = name then some ⟨target, []⟩ else held other) stands
      (session.keep name (staged, next)) := by
  obtain ⟨made, aimed, uncounted, empty⟩ := Staged.create_eq_ok created
  have counted : staged.accepted = (staged.content next).length := by
    rw [uncounted, empty, List.length_nil]
  have serials : next.serials.Perm (staged.serial :: session.tree.serials) := by
    rw [session.tree.serials_of_createTemporary made]
  have added := sound.add free (Tree.removeTemporary_of_createTemporary made) serials counted
  rw [Staged.holding, aimed, empty] at added
  rw [Session.keep, without_of_free free]
  exact added

/-- A file that is begun in place of another one takes nothing from the others. -/
theorem recreate (sound : Sound tree held stands session) {old : Staged}
    (found : session.file? name = some old) {target : Path} {next : Tree}
    (created : Staged.create target session.tree = .ok (staged, next)) :
    Sound tree (fun other => if other = name then some ⟨target, []⟩ else held other) stands
      (session.keep name (staged, old.discard next)) := by
  -- The old file is closed first here, though it is given up last. So the new temporary file must
  -- not be the one that goes.
  obtain ⟨made, aimed, uncounted, empty⟩ := Staged.create_eq_ok created
  have apart : staged.serial ≠ old.serial := by
    intro same
    have fresh := (session.tree.createTemporary_eq_ok made).1
    exact session.tree.freshSerial_notMem (fresh ▸ same ▸ sound.present found)
  have free : (session.close name (old.discard session.tree)).file? name = none := by
    rw [file?_close, if_pos rfl]
  have restored : (old.discard next).removeTemporary staged.serial = old.discard session.tree := by
    rw [Staged.discard, next.removeTemporary_comm, Tree.removeTemporary_of_createTemporary made]
    rfl
  have serials : (old.discard next).serials.Perm
      (staged.serial :: (old.discard session.tree).serials) := by
    rw [Staged.discard, Staged.discard, Tree.serials_removeTemporary, Tree.serials_removeTemporary,
      session.tree.serials_of_createTemporary made, List.filter_cons_of_pos (by simpa using apart)]
  have content : staged.content (old.discard next) = [] := by
    rw [← empty, Staged.content, Staged.content, Staged.discard,
      next.temporary_removeTemporary_of_ne apart]
  have counted : staged.accepted = (staged.content (old.discard next)).length := by
    rw [uncounted, content, List.length_nil]
  have added := (sound.close found).add free restored serials counted
  rw [Staged.holding, aimed, content] at added
  refine added.congr (fun other => ?_) fun _ => rfl
  by_cases same : other = name
  · rw [if_pos same, if_pos same]
  · rw [if_neg same, if_neg same, if_neg same]

/-- A file that comes to stand at a place takes nothing from the open files. -/
theorem put (sound : Sound tree held stands session) {place : Location}
    (named : place.names ≠ []) (content : List UInt8) :
    Sound tree held (fun other => if other = place then some (.file content) else stands other)
      ⟨session.tree.put place (.file content), session.files⟩ where
  places other := by
    by_cases same : other = place
    · rw [if_pos same, same, session.tree.node?_put_self _ named]
    · rw [if_neg same, session.tree.node?_put_of_ne _ same, sound.places]
  holds := sound.holds
  counts := sound.counts
  names := sound.names
  temporaries := sound.temporaries
  distinct := sound.distinct
  foreign := sound.foreign

end Sound

end Session

end WordPairs
