import WordPairs.Files.Staged
import WordPairs.Proofs.Files.Places
import WordPairs.Proofs.Files.Temporaries
import WordPairs.Proofs.Generation.Draft
import WordPairs.Proofs.Writer.Offers

/-!
# Bytes of a staged file

The bytes that a staged file has accepted are partly in its temporary file and partly held back.
Wherever the line between them runs, together they are all bytes accepted since the file was begun,
and nothing else in the tree has changed.
-/

namespace WordPairs.Staged

/-- The bytes of a staged file: those in its temporary file, and those held back behind them. -/
def content (staged : Staged) (tree : Tree) : List UInt8 :=
  (tree.temporary staged.serial).toList ++ staged.pending.toList

/-- A staged file and its tree after some bytes were accepted. -/
structure Follows (before after : Staged × Tree) (bytes : List UInt8) : Prop where
  /-- The target stays. -/
  target : after.1.target = before.1.target
  /-- The temporary file stays. -/
  serial : after.1.serial = before.1.serial
  /-- The bytes are counted. -/
  accepted : after.1.accepted = before.1.accepted + bytes.length
  /-- The bytes come last. -/
  content : after.1.content after.2 = before.1.content before.2 ++ bytes
  /-- There are the same temporary files. -/
  serials : after.2.serials = before.2.serials
  /-- The tree is the same but for the temporary file. -/
  rest : after.2.removeTemporary before.1.serial = before.2.removeTemporary before.1.serial

/-- Nothing has been accepted. -/
theorem Follows.refl (state : Staged × Tree) : Follows state state [] :=
  ⟨rfl, rfl, rfl, by simp, rfl, rfl⟩

/-- What was accepted first comes first. -/
theorem Follows.trans {first second third : Staged × Tree} {front back : List UInt8}
    (former : Follows first second front) (latter : Follows second third back) :
    Follows first third (front ++ back) where
  target := latter.target.trans former.target
  serial := latter.serial.trans former.serial
  accepted := by
    rw [latter.accepted, former.accepted, List.length_append, Nat.add_assoc]
  content := by rw [latter.content, former.content, List.append_assoc]
  serials := latter.serials.trans former.serials
  rest := by
    have rest := latter.rest
    rw [former.serial] at rest
    exact rest.trans former.rest

/-- Accepting bytes changes no place. -/
theorem Follows.named {before after : Staged × Tree} {bytes : List UInt8}
    (follows : Follows before after bytes) : after.2.named = before.2.named := by
  have rest := congrArg Tree.named follows.rest
  exact rest

variable {staged : Staged} {tree : Tree}

/-- What is passed on to the temporary file is accepted no second time. -/
theorem spill_follows (present : staged.serial ∈ tree.serials) :
    Follows (staged, tree) (staged.spill tree) [] where
  target := rfl
  serial := rfl
  accepted := rfl
  content := by
    show (tree.appendTemporary staged.serial staged.pending.toList |>.temporary
      staged.serial).toList ++ [] = _
    rw [tree.temporary_appendTemporary_self present]
    simp [content]
  serials := tree.serials_appendTemporary _ _
  rest := tree.removeTemporary_appendTemporary _ _

/-- Bytes that are held back come last. -/
theorem hold_follows (bytes : List UInt8) :
    Follows (staged, tree)
      ({ staged with
        accepted := staged.accepted + bytes.length
        pending := staged.pending ++ bytes }, tree) bytes :=
  ⟨rfl, rfl, rfl, by simp [content], rfl, rfl⟩

/-- Bytes that are passed on at once come last if none are held back. -/
theorem pass_follows (present : staged.serial ∈ tree.serials) (empty : staged.pending = #[])
    (bytes : List UInt8) :
    Follows (staged, tree)
      ({ staged with accepted := staged.accepted + bytes.length },
        tree.appendTemporary staged.serial bytes) bytes where
  target := rfl
  serial := rfl
  accepted := rfl
  content := by
    show (tree.appendTemporary staged.serial bytes |>.temporary staged.serial).toList ++
      staged.pending.toList = _
    rw [tree.temporary_appendTemporary_self present, content, empty]
    simp
  serials := tree.serials_appendTemporary _ _
  rest := tree.removeTemporary_appendTemporary _ _

/-- Bytes that are accepted come last, wherever they are put. -/
theorem accept_follows (present : staged.serial ∈ tree.serials) (bytes : List UInt8) :
    Follows (staged, tree) (staged.accept bytes tree) bytes := by
  have spilled := spill_follows present
  have still : (staged.spill tree).1.serial ∈ (staged.spill tree).2.serials :=
    spilled.serials ▸ present
  simp only [accept]
  by_cases crowded : capacity < staged.pending.size + bytes.length
  · simp only [if_pos crowded]
    split
    · exact spilled.trans (pass_follows still rfl bytes)
    · exact spilled.trans (hold_follows bytes)
  · simp only [if_neg crowded]
    split
    · have empty : staged.pending = #[] := Array.eq_empty_of_size_eq_zero (by omega)
      exact pass_follows present empty bytes
    · exact hold_follows bytes

/-- A staged file and its tree as a writer that takes everything, from some state on. -/
def intake (base : Staged × Tree) : Intake (Staged × Tree) where
  taken state := state.1.content state.2
  Willing state := base.1.serial ∈ base.2.serials ∧ ∃ bytes, Follows base state bytes
  Calm _ := True
  takes {state bytes} willing _ nonempty := by
    obtain ⟨present, before, former⟩ := willing
    have still : state.1.serial ∈ state.2.serials := by
      rw [former.serial, former.serials]
      exact present
    have latter := accept_follows still bytes
    refine ⟨bytes.length, _, rfl, List.length_pos_iff.2 nonempty, ?_, present, _,
      former.trans latter⟩
    rw [latter.content, List.take_length]
  resumes _ disturbed _ := absurd trivial disturbed
  flushes {state} willing := by
    obtain ⟨present, before, former⟩ := willing
    have still : state.1.serial ∈ state.2.serials := by
      rw [former.serial, former.serials]
      exact present
    exact (spill_follows still).content.trans (List.append_nil _)

/-- A staged file takes everything as soon as it has a temporary file. -/
theorem willing (present : staged.serial ∈ tree.serials) :
    (intake (staged, tree)).Willing (staged, tree) := ⟨present, [], .refl _⟩

/-- What a staged file has taken was accepted. -/
theorem follows_of_taken {base state : Staged × Tree} {bytes : List UInt8}
    (willing : (intake base).Willing state)
    (taken : (intake base).taken state = (intake base).taken base ++ bytes) :
    Follows base state bytes := by
  obtain ⟨_, accepted, follows⟩ := willing
  have same : accepted = bytes := List.append_cancel_left (follows.content.symm.trans taken)
  exact same ▸ follows

/-- A staged file has no bytes when it is begun. -/
theorem create_eq_ok {target : Path} {next : Tree}
    (created : create target tree = .ok (staged, next)) :
    tree.createTemporary target = .ok (staged.serial, next) ∧ staged.target = target ∧
      staged.accepted = 0 ∧ staged.content next = [] := by
  unfold create at created
  cases made : tree.createTemporary target with
  | error cause => simp [made, Except.map] at created
  | ok pair =>
    obtain ⟨serial, after⟩ := pair
    simp only [made, Except.map, Except.ok.injEq, Prod.mk.injEq] at created
    obtain ⟨rfl, rfl⟩ := created
    refine ⟨rfl, rfl, rfl, ?_⟩
    rw [content, tree.temporary_of_createTemporary made]
    rfl

/-- A staged file is finished by moving it, once nothing is held back. -/
theorem finish_eq_commit (staged : Staged) (tree : Tree) :
    let moved := (staged.spill tree).2.commit staged.serial staged.target
    staged.finish tree = (moved.1.map fun () => staged.accepted, moved.2) := by
  have commits : (staged.spill tree).2.commit (staged.spill tree).1.serial
      (staged.spill tree).1.target = (staged.spill tree).2.commit staged.serial staged.target := rfl
  simp only [finish, commits]
  cases (staged.spill tree).2.commit staged.serial staged.target with
  | mk result next => cases result <;> rfl

/-- A staged file that is finished comes to stand, with all its bytes, where its target goes. -/
theorem finish_of_goal (present : staged.serial ∈ tree.serials) {place : Location}
    (found : tree.goal staged.target = .ok place) :
    staged.finish tree = (.ok staged.accepted,
      (tree.removeTemporary staged.serial).put place (.file (staged.content tree))) := by
  have spilled := spill_follows present
  have same : (staged.spill tree).2.named = tree.named := rfl
  rw [← Tree.goal_congr same] at found
  have removed : (staged.spill tree).2.removeTemporary staged.serial =
      tree.removeTemporary staged.serial := spilled.rest
  have moved : ((staged.spill tree).2.temporary staged.serial).toList = staged.content tree := by
    simpa [content, spill] using spilled.content
  simp only [finish_eq_commit, Tree.commit, found, removed, moved, Except.map]

/-- A staged file whose target goes nowhere is gone when it is finished, and nothing else has
changed. -/
theorem finish_of_no_goal (present : staged.serial ∈ tree.serials) {cause : IoError}
    (failed : tree.goal staged.target = .error cause) :
    staged.finish tree = (.error cause, tree.removeTemporary staged.serial) := by
  have same : (staged.spill tree).2.named = tree.named := rfl
  rw [← Tree.goal_congr same] at failed
  have removed : (staged.spill tree).2.removeTemporary staged.serial =
      tree.removeTemporary staged.serial := (spill_follows present).rest
  simp only [finish_eq_commit, Tree.commit, failed, removed, Except.map]

/-! ## What can be written to a staged file -/

/-- All of some bytes can be written to a staged file. -/
theorem writeAll_follows (present : staged.serial ∈ tree.serials) (bytes : List UInt8) :
    ∃ last, ByteWriter.writeAll bytes (staged, tree) = (.ok (), last) ∧
      Follows (staged, tree) last bytes := by
  obtain ⟨last, wrote, taken, still⟩ :=
    (intake (staged, tree)).writeAll_takes bytes (willing present)
  exact ⟨last, wrote, follows_of_taken still taken⟩

/-- A staged file takes what it is offered. -/
instance : HonestWriter (Staged × Tree) where
  count_le wrote := by
    cases wrote
    exact Nat.le_refl _

/-- Writing all of some bytes to a staged file is offering them until all are taken. -/
theorem exists_writesAll_eq_iff (present : staged.serial ∈ tree.serials) {bytes : List UInt8}
    {outcome : Except IoError Unit × Staged × Tree} :
    (∃ offers, ByteWriter.WritesAll offers bytes (staged, tree) outcome) ↔
      ByteWriter.writeAll bytes (staged, tree) = outcome :=
  (intake (staged, tree)).quota.exists_writesAll_eq_iff (willing present)

/-- Records can be written to a staged file, wherever its bytes are passed on. -/
theorem writeRecords_follows (present : staged.serial ∈ tree.serials) (records : List Record) :
    ∃ last, ByteWriter.writeRecords records (staged, tree) =
        (.ok (Record.concat records).length, last) ∧
      Follows (staged, tree) last (Record.concat records) := by
  obtain ⟨last, taken, still, wrote⟩ :=
    (intake (staged, tree)).writeRecords_takes records (willing present)
  have follows := follows_of_taken still taken
  have there : last.1.serial ∈ last.2.serials := by
    rw [follows.serial, follows.serials]
    exact present
  have whole := follows.trans (spill_follows there)
  rw [List.append_nil] at whole
  exact ⟨_, wrote, whole⟩

/-- The records of a budget that are completed are written to a staged file, also when a later one
fails. -/
theorem writeTo_follows {σ : Type} [IndexSource σ] (present : staged.serial ∈ tree.serials)
    (generator : Generator) (list : WordList) (budget : UInt64) (source : σ) :
    let draft := generator.draftFor list budget source
    ∃ last, generator.writeTo list budget source (staged, tree) =
        ⟨draft.result.map fun () => recordCount budget * 32, (draft.source, last),
          generator.announcement list budget⟩ ∧
      Follows (staged, tree) last (Record.concat draft.records) := by
  obtain ⟨last, wrote, taken, still⟩ := Generator.writeTo_eq_draftFor (intake (staged, tree))
    generator list budget source (willing present)
  exact ⟨last, wrote, follows_of_taken still taken⟩

/-! ## From the beginning to the end of a staged file -/

section Life

variable {target : Path} {next : Tree} {last : Staged × Tree} {bytes : List UInt8}

/-- A staged file that was begun has a temporary file. -/
theorem serial_mem_of_create (created : create target tree = .ok (staged, next)) :
    staged.serial ∈ next.serials := by
  rw [tree.serials_of_createTemporary (create_eq_ok created).1]
  exact List.mem_cons_self

/-- A staged file that is given up leaves no trace, whatever it accepted. -/
theorem discard_of_follows (created : create target tree = .ok (staged, next))
    (follows : Follows (staged, next) last bytes) : last.1.discard last.2 = tree := by
  have begun := Tree.removeTemporary_of_createTemporary (create_eq_ok created).1
  rw [discard, follows.serial]
  exact follows.rest.trans begun

/-- A staged file changes no place until it is finished. -/
theorem named_of_follows (created : create target tree = .ok (staged, next))
    (follows : Follows (staged, next) last bytes) : last.2.named = tree.named := by
  rw [← discard_of_follows created follows]
  rfl

/-- A staged file still has its temporary file after it accepted bytes. -/
theorem serial_mem_of_follows (created : create target tree = .ok (staged, next))
    (follows : Follows (staged, next) last bytes) : last.1.serial ∈ last.2.serials := by
  rw [follows.serial, follows.serials]
  exact serial_mem_of_create created

/-- A staged file that is finished changes one place only, where all that it accepted stands. -/
theorem finish_of_follows (created : create target tree = .ok (staged, next))
    (follows : Follows (staged, next) last bytes) {place : Location}
    (found : tree.goal target = .ok place) :
    last.1.finish last.2 = (.ok bytes.length, tree.put place (.file bytes)) := by
  obtain ⟨_, aimed, uncounted, empty⟩ := create_eq_ok created
  have restored : last.2.removeTemporary last.1.serial = tree := discard_of_follows created follows
  have same := named_of_follows created follows
  have reached : last.2.goal last.1.target = .ok place := by
    rw [Tree.goal_congr same, follows.target, aimed, found]
  have counted : last.1.accepted = bytes.length := by
    rw [follows.accepted, uncounted, Nat.zero_add]
  have content : last.1.content last.2 = bytes := by
    rw [follows.content, empty, List.nil_append]
  rw [finish_of_goal (serial_mem_of_follows created follows) reached, restored, counted, content]

/-- A staged file that cannot be finished leaves no trace. -/
theorem finish_of_follows_no_goal (created : create target tree = .ok (staged, next))
    (follows : Follows (staged, next) last bytes) {cause : IoError}
    (failed : tree.goal target = .error cause) : last.1.finish last.2 = (.error cause, tree) := by
  have restored : last.2.removeTemporary last.1.serial = tree := discard_of_follows created follows
  have same := named_of_follows created follows
  have lost : last.2.goal last.1.target = .error cause := by
    rw [Tree.goal_congr same, follows.target, (create_eq_ok created).2.1, failed]
  rw [finish_of_no_goal (serial_mem_of_follows created follows) lost, restored]

end Life

end WordPairs.Staged
