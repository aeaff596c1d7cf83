import WordPairs.Proofs.Job

/-!
# The first stage that fails

A job loads its list, begins its file, generates its records and moves the file, in this order. Each
stage can fail whatever the others do, and several may be bound to. What the job returns, how it
leaves the source, and what it tells are decided by the first that fails, as if there were no later
ones.
-/

namespace WordPairs

/-- What is told while a list is loaded is told by the part that loads. -/
theorem WordOrigin.target_of_mem_load {origin : WordOrigin} {network : Web.Network} {tree : Tree}
    {event : Event} (told : event ∈ (origin.load network tree).events) :
    event.target = "wordrec::words" := by
  cases origin with
  | given list => cases told
  | file path =>
    simp only [load, loadFile] at told
    split at told
    · cases told
    · split at told
      · cases told
      · rw [List.mem_singleton.1 told]
        rfl
  | web url =>
    simp only [load, loadWeb] at told
    split at told
    · rw [List.mem_singleton.1 told]
      rfl
    · split at told
      · rw [List.mem_singleton.1 told]
        rfl
      · rcases List.mem_pair.1 told with rfl | rfl <;> rfl

/-- What is told when records are generated is told by the part that generates. -/
theorem Generator.target_of_mem_announcement {generator : Generator} {list : WordList}
    {budget : UInt64} {event : Event} (told : event ∈ generator.announcement list budget) :
    event.target = "wordrec::generator" := by
  simp only [announcement] at told
  split at told
  · cases told
  · split at told
    · rw [List.mem_singleton.1 told]
      rfl
    · rw [List.mem_singleton.1 told]
      rfl

namespace Job

variable {σ : Type} [IndexSource σ]

/-- Whether a run tells that its job is done: once and last if the job is, and never otherwise. -/
inductive Tells (job : Job) : Except Failure Summary → List Event → Prop
  /-- The last event, and no other, tells what the finished job has done. -/
  | finished {summary : Summary} {before : List Event}
      (others : ∀ event ∈ before, event.target ≠ "wordrec::config") :
    Tells job (.ok summary)
      (before ++ [.wrote job.output.text summary.records summary.bytes])
  /-- No event tells of a job that failed. -/
  | failed {failure : Failure} {events : List Event}
      (others : ∀ event ∈ events, event.target ≠ "wordrec::config") :
    Tells job (.error failure) events

namespace Tells

variable {job : Job} {result : Except Failure Summary} {events : List Event}

/-- Events of other parts may come before. -/
theorem append (tells : job.Tells result events) {before : List Event}
    (others : ∀ event ∈ before, event.target ≠ "wordrec::config") :
    job.Tells result (before ++ events) := by
  cases tells with
  | finished rest =>
    rw [← List.append_assoc]
    exact .finished (List.forall_mem_append.2 ⟨others, rest⟩)
  | failed rest => exact .failed (List.forall_mem_append.2 ⟨others, rest⟩)

/-- It is told that a job is done exactly if it is. -/
theorem isDone_iff (tells : job.Tells result events) :
    (∃ summary, result = .ok summary) ↔
      ∃ output records bytes, .wrote output records bytes ∈ events := by
  cases tells with
  | finished others =>
    have last : ∀ event : Event, event ∈ [event] := fun _ => List.mem_singleton_self _
    exact ⟨fun _ => ⟨_, _, _, List.mem_append_right _ (last _)⟩, fun _ => ⟨_, rfl⟩⟩
  | failed others =>
    constructor
    · rintro ⟨summary, succeeded⟩
      cases succeeded
    · rintro ⟨output, records, bytes, told⟩
      exact absurd rfl (others _ told)

/-- Where it is told that a job is done, it is told last, and only once. -/
theorem exists_before {summary : Summary} (tells : job.Tells (.ok summary) events) :
    ∃ before, events = before ++ [.wrote job.output.text summary.records summary.bytes] ∧
      ∀ output records bytes, .wrote output records bytes ∉ before := by
  cases tells with
  | finished others =>
    exact ⟨_, rfl, fun output records bytes told => absurd rfl (others _ told)⟩

end Tells

/-- A job that has a list tells rightly whether it is done. -/
theorem write_tells (job : Job) (list : WordList) (source : σ) (tree : Tree) :
    job.Tells (job.write list source tree).result (job.write list source tree).events := by
  have others : ∀ event ∈ job.announcement list, event.target ≠ "wordrec::config" := by
    intro event told
    rw [Generator.target_of_mem_announcement told]
    decide
  have ended := write_ended list source job tree
  generalize job.write list source tree = outcome at ended ⊢
  cases ended with
  | notCreated failed => exact .failed (List.forall_mem_nil _)
  | notDrawn created broke => exact .failed others
  | notMoved created drawn failed => exact .failed others
  | done created drawn found => exact .finished others

/-- A job tells rightly whether it is done. -/
theorem run_tells (job : Job) (origin : WordOrigin) (network : Web.Network) (source : σ)
    (tree : Tree) :
    job.Tells (job.run origin network source tree).result
      (job.run origin network source tree).events := by
  have others : ∀ event ∈ (origin.load network tree).events,
      event.target ≠ "wordrec::config" := by
    intro event told
    rw [WordOrigin.target_of_mem_load told]
    decide
  cases loaded : (origin.load network tree).result with
  | error cause =>
    rw [run_of_not_loaded job source loaded]
    exact .failed others
  | ok list =>
    rw [run_of_loaded job source loaded]
    exact (job.write_tells list source tree).append others

/-- The first stage of a job that fails decides what the job comes to. If no list is loaded, nothing
else happens. If a list is loaded, but no file can be begun, the source is untouched, and nothing
is told of generating, whatever the list. If the file is begun, the records are generated, and if
they cannot be, the job fails as that does and leaves the source as that does. Only if they can be,
it matters whether the file can be moved to its output: if not, the source is nevertheless left as
by all of the records. In all these cases the tree is left as it was. It is told that the job is
done exactly if it is, once, and last. -/
theorem run_decided_by_first_failure (job : Job) (origin : WordOrigin) (network : Web.Network)
    (source : σ) (tree : Tree) :
    let report := job.run origin network source tree
    let loading := origin.load network tree
    (∀ cause, loading.result = .error cause →
      report = ⟨.error (.error cause), source, tree, loading.events, loading.requests⟩) ∧
    (∀ list, loading.result = .ok list →
      let generated := (Generator.withAttempts job.attempts).generate list job.budget source
      let told := loading.events ++ generated.events
      (∀ cause, Staged.create job.output tree = .error cause →
        report = ⟨.error (.error (.io cause)), source, tree, loading.events, loading.requests⟩) ∧
      ∀ begun, Staged.create job.output tree = .ok begun →
        (∀ failure, generated.result = .error failure →
          report = ⟨.error failure, generated.state, tree, told, loading.requests⟩) ∧
        ∀ records, generated.result = .ok records →
          (∀ cause, tree.goal job.output = .error cause →
            report = ⟨.error (.error (.io cause)), generated.state, tree, told,
              loading.requests⟩) ∧
          ∀ place, tree.goal job.output = .ok place →
            report = ⟨.ok ⟨list.size, records.length, 32 * records.length⟩, generated.state,
              tree.put place (.file (Record.concat records)),
              told ++ [.wrote job.output.text records.length (32 * records.length)],
              loading.requests⟩) ∧
    (∀ event ∈ loading.events, event.target = "wordrec::words") ∧
    ((∃ summary, report.result = .ok summary) ↔
      ∃ output records bytes, .wrote output records bytes ∈ report.events) ∧
    ∀ summary, report.result = .ok summary → ∃ before,
      report.events = before ++ [.wrote job.output.text summary.records summary.bytes] ∧
        ∀ output records bytes, .wrote output records bytes ∉ before := by
  intro report loading
  have tells : job.Tells report.result report.events := job.run_tells origin network source tree
  refine ⟨fun cause failed => run_of_not_loaded job source failed, fun list loaded => ?_,
    fun event told => WordOrigin.target_of_mem_load told, tells.isDone_iff,
    fun summary done => ?_⟩
  · intro generated told
    -- The stages are known by the draft of the job, which is what is generated.
    have same : report = _ := run_of_loaded job source loaded
    have made : generated = _ := job.generate_eq_draft list source
    have left : (job.draft list source).source = generated.state := by rw [made]
    have announced : job.announcement list = generated.events := by rw [made]
    refine ⟨fun cause failed => ?_, fun begun created => ⟨fun failure failed => ?_,
      fun records succeeded => ?_⟩⟩
    · rw [same, write_of_not_created list source failed, List.append_nil]
    · have broke : (job.draft list source).result = .error failure :=
        Generator.generate_eq_error_iff.1 failed
      rw [same, write_of_not_drawn list source created broke, left, announced]
    · obtain ⟨drawn, rfl⟩ := Generator.generate_eq_ok_iff.1 succeeded
      have drawn : (job.draft list source).result = .ok () := drawn
      have count : (job.draft list source).records.length = (recordCount job.budget).toNat :=
        Generator.length_draftFor_of_ok drawn
      refine ⟨fun cause failed => ?_, fun place found => ?_⟩
      · rw [same, write_of_not_moved list source created drawn failed, left, announced]
      · rw [same, write_of_done list source created drawn found, left, announced,
          ← List.append_assoc, summary, ← count]
        rfl
  · rw [done] at tells
    exact tells.exists_before

/-- A job whose output is a directory draws all of its words before it fails. In a directory that is
not there it fails before it draws, and tells nothing, though its list has no short word. -/
theorem run_decided_by_first_failure_directory :
    let list : WordList := ⟨#[[99, 97, 116]], by decide⟩
    let long : WordList := ⟨#[List.replicate 17 97], by decide⟩
    let tree := Tree.empty.addDirectory ⟨"out"⟩
    let source := Replay.ofList [0]
    let refused := Job.run ⟨32, ⟨"out"⟩, 1⟩ (.given list) .unreachable source tree
    let outside := Job.run ⟨32, ⟨"a/b"⟩, 1⟩ (.given long) .unreachable source tree
    refused.result = .error (.error (.io .isADirectory)) ∧ refused.source.drawn = 2 ∧
      refused.tree = tree ∧
      outside = ⟨.error (.error (.io .notFound)), source, tree, [], []⟩ := by
  intro list long tree source refused outside
  have absent : (Tree.empty.addDirectory ⟨"out"⟩).parent ⟨"a/b"⟩ = .error .notFound := by cbv
  have missing : Staged.create ⟨"a/b"⟩ tree = .error .notFound := by
    rw [Staged.create, Tree.createTemporary, absent]
    rfl
  have placed : (Tree.empty.addDirectory ⟨"out"⟩).parent ⟨"out"⟩ = .ok .working := by cbv
  obtain ⟨state, created⟩ : ∃ state, Staged.create ⟨"out"⟩ tree = .ok state := by
    rw [Staged.create, Tree.createTemporary, placed]
    exact ⟨_, rfl⟩
  have generated : ((Generator.withAttempts 1).generate list 32 source).result =
      .ok [Record.encode [99, 97, 116] [99, 97, 116]] := by cbv
  have drawn : ((Generator.withAttempts 1).generate list 32 source).state.drawn = 2 := by cbv
  have occupied : (Tree.empty.addDirectory ⟨"out"⟩).goal ⟨"out"⟩ = .error .isADirectory := by cbv
  have stages := ((run_decided_by_first_failure ⟨32, ⟨"out"⟩, 1⟩ (.given list) .unreachable source
    tree).2.1 list rfl).2 state created
  have same : refused = _ := (stages.2 _ generated).1 _ occupied
  rw [same]
  exact ⟨rfl, drawn, rfl, ((run_decided_by_first_failure ⟨32, ⟨"a/b"⟩, 1⟩ (.given long)
    .unreachable source tree).2.1 long rfl).1 _ missing⟩

end Job

end WordPairs
