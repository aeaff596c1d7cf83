import Mathlib
import WordPairs.Draw.Replay
import WordPairs.Job
import WordPairs.Proofs.Files.Staged

/-!
# Jobs are done as a whole or not at all

A job fails where its first step fails: loading the list, beginning the file, drawing the records,
or moving the file. Each of these leaves the tree as it was. If none fails, the tree differs from
what it was in the output alone, which holds the records of the budget and nothing else.
-/

namespace WordPairs.Job

variable {σ : Type} [IndexSource σ]

/-- What drawing the records of a job comes to. -/
def draft (job : Job) (list : WordList) (source : σ) : Draft σ :=
  (Generator.withAttempts job.attempts).draftFor list job.budget source

/-- What is told when the records of a job are drawn. -/
def announcement (job : Job) (list : WordList) : List Event :=
  (Generator.withAttempts job.attempts).announcement list job.budget

/-- What a job that is done has done: the words, the records and their bytes. -/
def summary (job : Job) (list : WordList) : Summary :=
  let records := (recordCount job.budget).toNat
  ⟨list.size, records, 32 * records⟩

/-- The records of a job are those of its draft, if that succeeds. -/
theorem generate_eq_draft (job : Job) (list : WordList) (source : σ) :
    (Generator.withAttempts job.attempts).generate list job.budget source =
      ⟨(job.draft list source).result.map fun () => (job.draft list source).records,
        (job.draft list source).source, job.announcement list⟩ :=
  Generator.generate_eq_draftFor _ list job.budget source

/-- The records of a job take 32 bytes each. -/
theorem length_concat_draft {job : Job} {list : WordList} {source : σ}
    (drawn : (job.draft list source).result = .ok ()) :
    (Record.concat (job.draft list source).records).length =
      32 * (recordCount job.budget).toNat := by
  have count : (job.draft list source).records.length = (recordCount job.budget).toNat :=
    Generator.length_draftFor_of_ok drawn
  rw [Record.length_concat, count]
  rfl

section Stages

variable {job : Job} (list : WordList) (source : σ) {tree next : Tree} {staged : Staged}

/-- A job whose file cannot be begun draws nothing. -/
theorem write_of_not_created {cause : IoError}
    (failed : Staged.create job.output tree = .error cause) :
    job.write list source tree = ⟨.error (.error (.io cause)), (source, tree), []⟩ := by
  rw [write, failed]

/-- A job that has begun its file fills it with the records that it can draw. -/
theorem writeTo_of_created (created : Staged.create job.output tree = .ok (staged, next)) :
    ∃ last, (Generator.withAttempts job.attempts).writeTo list job.budget source (staged, next) =
        ⟨(job.draft list source).result.map fun () => recordCount job.budget * 32,
          ((job.draft list source).source, last), job.announcement list⟩ ∧
      Staged.Follows (staged, next) last (Record.concat (job.draft list source).records) :=
  Staged.writeTo_follows (Staged.serial_mem_of_create created) _ list job.budget source

/-- A job that breaks off while it draws removes its file. -/
theorem write_of_not_drawn (created : Staged.create job.output tree = .ok (staged, next))
    {failure : Failure} (broke : (job.draft list source).result = .error failure) :
    job.write list source tree =
      ⟨.error failure, ((job.draft list source).source, tree), job.announcement list⟩ := by
  obtain ⟨last, wrote, follows⟩ := writeTo_of_created list source created
  have removed := Staged.discard_of_follows created follows
  simp only [write, created, wrote, broke, Except.map, removed]

/-- A job whose file cannot be moved removes its file, and has drawn all the records. -/
theorem write_of_not_moved (created : Staged.create job.output tree = .ok (staged, next))
    (drawn : (job.draft list source).result = .ok ()) {cause : IoError}
    (failed : tree.goal job.output = .error cause) :
    job.write list source tree = ⟨.error (.error (.io cause)),
      ((job.draft list source).source, tree), job.announcement list⟩ := by
  obtain ⟨last, wrote, follows⟩ := writeTo_of_created list source created
  have removed := Staged.finish_of_follows_no_goal created follows failed
  simp only [write, created, wrote, drawn, Except.map, removed]

/-- A job that is done puts the records of its budget at its output. -/
theorem write_of_done (created : Staged.create job.output tree = .ok (staged, next))
    (drawn : (job.draft list source).result = .ok ()) {place : Location}
    (found : tree.goal job.output = .ok place) :
    job.write list source tree = ⟨.ok (job.summary list),
      ((job.draft list source).source,
        tree.put place (.file (Record.concat (job.draft list source).records))),
      job.announcement list ++ [.wrote job.output.text (job.summary list).records
        (job.summary list).bytes]⟩ := by
  obtain ⟨last, wrote, follows⟩ := writeTo_of_created list source created
  have moved := Staged.finish_of_follows created follows found
  rw [length_concat_draft drawn] at moved
  simp only [write, created, wrote, drawn, Except.map, moved]
  rfl

/-- How a job that has a list ends, by the first of its stages that fails. -/
inductive Ended (job : Job) (list : WordList) (source : σ) (tree : Tree) :
    Outcome (σ × Tree) Summary → Prop
  /-- The file cannot be begun. -/
  | notCreated {cause : IoError} (failed : Staged.create job.output tree = .error cause) :
    Ended job list source tree ⟨.error (.error (.io cause)), (source, tree), []⟩
  /-- The file is begun, but the records cannot all be drawn. -/
  | notDrawn {begun : Staged × Tree} {failure : Failure}
      (created : Staged.create job.output tree = .ok begun)
      (broke : (job.draft list source).result = .error failure) :
    Ended job list source tree
      ⟨.error failure, ((job.draft list source).source, tree), job.announcement list⟩
  /-- The records are drawn, but the file cannot be moved. -/
  | notMoved {begun : Staged × Tree} {cause : IoError}
      (created : Staged.create job.output tree = .ok begun)
      (drawn : (job.draft list source).result = .ok ())
      (failed : tree.goal job.output = .error cause) :
    Ended job list source tree ⟨.error (.error (.io cause)),
      ((job.draft list source).source, tree), job.announcement list⟩
  /-- The file is moved to its place. -/
  | done {begun : Staged × Tree} {place : Location}
      (created : Staged.create job.output tree = .ok begun)
      (drawn : (job.draft list source).result = .ok ()) (found : tree.goal job.output = .ok place) :
    Ended job list source tree ⟨.ok (job.summary list),
      ((job.draft list source).source,
        tree.put place (.file (Record.concat (job.draft list source).records))),
      job.announcement list ++ [.wrote job.output.text (job.summary list).records
        (job.summary list).bytes]⟩

/-- A job that has a list ends in one of these ways. -/
theorem write_ended (job : Job) (tree : Tree) :
    job.Ended list source tree (job.write list source tree) := by
  cases created : Staged.create job.output tree with
  | error cause =>
    rw [write_of_not_created list source created]
    exact .notCreated created
  | ok begun =>
    cases drawn : (job.draft list source).result with
    | error failure =>
      rw [write_of_not_drawn list source created drawn]
      exact .notDrawn created drawn
    | ok =>
      cases found : tree.goal job.output with
      | error cause =>
        rw [write_of_not_moved list source created drawn found]
        exact .notMoved created drawn found
      | ok place =>
        rw [write_of_done list source created drawn found]
        exact .done created drawn found

/-- A job that has a list is done, or it fails and leaves the tree as it was. -/
theorem write_cases (job : Job) (tree : Tree) :
    (∃ place, tree.goal job.output = .ok place ∧ (job.draft list source).result = .ok () ∧
      (job.write list source tree).result = .ok (job.summary list) ∧
      (job.write list source tree).state = ((job.draft list source).source,
        tree.put place (.file (Record.concat (job.draft list source).records)))) ∨
      ((∃ failure, (job.write list source tree).result = .error failure) ∧
        (job.write list source tree).state.2 = tree) := by
  have ended := write_ended list source job tree
  generalize job.write list source tree = outcome at ended ⊢
  cases ended with
  | notCreated failed => exact .inr ⟨⟨_, rfl⟩, rfl⟩
  | notDrawn created broke => exact .inr ⟨⟨_, rfl⟩, rfl⟩
  | notMoved created drawn failed => exact .inr ⟨⟨_, rfl⟩, rfl⟩
  | done created drawn found => exact .inl ⟨_, found, drawn, rfl, rfl⟩

end Stages

section Runs

variable {origin : WordOrigin} {network : Web.Network} {tree : Tree}

/-- A job without a list does nothing. -/
theorem run_of_not_loaded (job : Job) (source : σ) {cause : Error}
    (failed : (origin.load network tree).result = .error cause) :
    job.run origin network source tree = ⟨.error (.error cause), source, tree,
      (origin.load network tree).events, (origin.load network tree).requests⟩ := by
  simp only [run, failed]

/-- A job that has loaded its list goes on with the list alone. -/
theorem run_of_loaded (job : Job) (source : σ) {list : WordList}
    (loaded : (origin.load network tree).result = .ok list) :
    let outcome := job.write list source tree
    job.run origin network source tree = ⟨outcome.result, outcome.state.1, outcome.state.2,
      (origin.load network tree).events ++ outcome.events,
      (origin.load network tree).requests⟩ := by
  simp only [run, loaded]

end Runs

/-- A job is done as a whole or not at all. If it is done, its output holds exactly the records that
are generated for its budget from the list and the source, the source is left as that leaves it,
and no other place and no temporary file has changed. If it fails, wherever it does, the tree is
exactly what it was. -/
theorem run_all_or_nothing (job : Job) (origin : WordOrigin) (network : Web.Network) (source : σ)
    (tree : Tree) :
    let report := job.run origin network source tree
    (∀ summary, report.result = .ok summary → ∃ list records place,
      let generated := (Generator.withAttempts job.attempts).generate list job.budget source
      (origin.load network tree).result = .ok list ∧
        generated.result = .ok records ∧ report.source = generated.state ∧
        tree.goal job.output = .ok place ∧
        report.tree.node? place = some (.file (Record.concat records)) ∧
        report.tree.read job.output = .ok (Record.concat records) ∧
        (∀ other, other ≠ place → report.tree.node? other = tree.node? other) ∧
        report.tree.temporaries = tree.temporaries ∧
        summary.words = list.size ∧ summary.records = job.budget.toNat / 32 ∧
        summary.bytes = 32 * summary.records ∧
        summary.bytes = (Record.concat records).length) ∧
      ∀ failure, report.result = .error failure → report.tree = tree := by
  intro report
  cases loaded : (origin.load network tree).result with
  | error cause =>
    have failed : report = _ := run_of_not_loaded job source loaded
    rw [failed]
    exact ⟨nofun, fun _ _ => rfl⟩
  | ok list =>
    have same : report = _ := run_of_loaded job source loaded
    rw [same]
    obtain ⟨place, found, drawn, done, state⟩ | ⟨⟨failure, failed⟩, kept⟩ :=
      write_cases list source job tree
    · rw [done, state]
      refine ⟨fun summary succeeded => ?_, nofun⟩
      cases succeeded
      have named := (Tree.names_ne_nil_of_goal found).1
      refine ⟨list, (job.draft list source).records, place, rfl, ?_, ?_, found,
        tree.node?_put_self _ named, Tree.read_put_of_goal found _,
        fun other distinct => tree.node?_put_of_ne _ distinct, rfl, rfl, ?_, rfl, ?_⟩
      · rw [generate_eq_draft, drawn]
        rfl
      · rw [generate_eq_draft]
      · exact UInt64.toNat_div job.budget 32
      · exact (length_concat_draft drawn).symm
    · rw [failed]
      exact ⟨nofun, fun _ _ => kept⟩

/-- A job replaces its output by one record, and with other draws, of which two in a row give a long
word, leaves it as it was. -/
theorem run_all_or_nothing_replacing :
    let list : WordList := ⟨#[List.replicate 17 97, [99, 97, 116]], by decide⟩
    let job : Job := ⟨40, ⟨"out"⟩, 2⟩
    let tree := Tree.empty.addFile ⟨"out"⟩ [1, 2, 3]
    let done := job.run (.given list) .unreachable (Replay.ofList [0, 1, 1]) tree
    let broken := job.run (.given list) .unreachable (Replay.ofList [0]) tree
    done.result = .ok ⟨2, 1, 32⟩ ∧
      done.tree.read ⟨"out"⟩ = .ok (Record.encode [99, 97, 116] [99, 97, 116]).bytes ∧
      broken.result = .error (.error (.noQualifyingWord 2)) ∧ broken.tree = tree := by
  intro list job tree done broken
  have succeeded : done.result = .ok ⟨2, 1, 32⟩ := by cbv
  have failed : broken.result = .error (.error (.noQualifyingWord 2)) := by cbv
  have generated : ((Generator.withAttempts 2).generate list 40 (Replay.ofList [0, 1, 1])).result =
      .ok [Record.encode [99, 97, 116] [99, 97, 116]] := by cbv
  obtain ⟨loaded, records, _, given, returned, _, _, _, read, _⟩ :=
    (run_all_or_nothing job (.given list) .unreachable (Replay.ofList [0, 1, 1]) tree).1 _ succeeded
  cases given
  have same := generated.symm.trans returned
  cases same
  refine ⟨succeeded, ?_, failed, ?_⟩
  · simpa [Record.concat] using read
  · exact (run_all_or_nothing job (.given list) .unreachable (Replay.ofList [0]) tree).2 _ failed

end WordPairs.Job
