import WordPairs.CommandLine.Program
import WordPairs.Proofs.CommandLine.Arguments
import WordPairs.Proofs.CommandLine.Filter
import WordPairs.Proofs.Generation.Safety
import WordPairs.Proofs.Job
import WordPairs.Proofs.WordList.Origin

/-!
# The command is its job

Arguments that ask for a file lead to one job, and the command leaves behind what the job does. The
job never ends in a fault, so that what the command reports is an error. The log setting decides
which events are shown and nothing else, unless it cannot be read: then the command stops before the
job begins. Arguments that ask for no file lead to nothing at all.
-/

namespace WordPairs

namespace Job

variable {σ : Type} [IndexSource σ] {fails : σ → Fault → Prop}

/-- A job on a reliable source ends in a fault only if the source has a cause for it. -/
theorem fails_of_write (reliable : Reliable σ fails) (job : Job) {list : WordList}
    (fits : list.size < Word64.modulus) (source : σ) (tree : Tree) {cause : Fault}
    (failed : (job.write list source tree).result = .error (.fault cause)) :
    fails (job.write list source tree).state.1 cause := by
  have ended := write_ended list source job tree
  generalize job.write list source tree = outcome at ended failed ⊢
  cases ended with
  | notCreated created => cases failed
  | notDrawn created broke =>
    cases failed
    have safe := ((Generator.withAttempts job.attempts).safe_of_reliable job.budget reliable fits
      source).generate_fails
    rw [generate_eq_draft, broke] at safe
    exact safe cause rfl
  | notMoved created drawn found => cases failed
  | done created drawn found => cases failed

/-- With a list from the web and the generator of this library, a job that fails has met with an
error, if the bodies of all responses are as long as can be counted. -/
theorem exists_error_of_run_web {network : Web.Network}
    (counted : ∀ response, network.Answers response → response.body.length < Word64.modulus)
    (job : Job) (url : String) (source : Weyl) (tree : Tree) {failure : Failure}
    (failed : (job.run (.web url) network source tree).result = .error failure) :
    ∃ cause, failure = .error cause := by
  cases loaded : ((WordOrigin.web url).load network tree).result with
  | error cause =>
    rw [run_of_not_loaded job source loaded] at failed
    cases failed
    exact ⟨cause, rfl⟩
  | ok list =>
    rw [run_of_loaded job source loaded] at failed
    obtain ⟨response, answers, bounded⟩ := WordOrigin.size_le_of_loadWeb loaded
    have fits : list.size < Word64.modulus := Nat.lt_of_le_of_lt bounded (counted response answers)
    cases failure with
    | error cause => exact ⟨cause, rfl⟩
    | fault cause => exact (fails_of_write Weyl.reliable job fits source tree failed).elim

/-- A job that fails leaves the tree as it was. -/
theorem tree_of_run_failed (job : Job) (origin : WordOrigin) (network : Web.Network) (source : σ)
    (tree : Tree) {failure : Failure}
    (failed : (job.run origin network source tree).result = .error failure) :
    (job.run origin network source tree).tree = tree := by
  cases loaded : (origin.load network tree).result with
  | error cause => rw [run_of_not_loaded job source loaded]
  | ok list =>
    rw [run_of_loaded job source loaded] at failed ⊢
    obtain ⟨_, _, _, done, _⟩ | ⟨_, kept⟩ := write_cases list source job tree
    · rw [done] at failed
      contradiction
    · exact kept

end Job

namespace CommandLine

variable {arguments : List String} {budget : UInt64} {output : String} {setting : Option String}

/-- Arguments that ask for a file lead to it, if the setting can be read. -/
theorem execute_of_asksFor (asks : AsksFor arguments budget output) {filter : Filter}
    (readable : Filter.ofSetting setting = .ok filter) (network : Web.Network) (tree : Tree) :
    execute arguments setting network tree = generate budget output filter network tree := by
  simp only [execute, readArguments_eq_generate_iff.2 asks, readable]

/-- A setting that cannot be read stops the command before it does anything. -/
theorem execute_of_unreadable (asks : AsksFor arguments budget output) {cause : DirectiveError}
    (unreadable : Filter.ofSetting setting = .error cause) (network : Web.Network) (tree : Tree) :
    execute arguments setting network tree = ⟨stoppedCode, "", none, [], [], tree⟩ := by
  simp only [execute, readArguments_eq_generate_iff.2 asks, unreadable]

/-- Arguments that ask for no file lead to a text and a code, whatever the setting is. -/
theorem execute_of_not_asksFor (idle : ∀ budget output, ¬AsksFor arguments budget output) :
    ∃ code output complaint, ∀ setting network tree,
      execute arguments setting network tree = ⟨code, output, complaint, [], [], tree⟩ := by
  cases request : readArguments arguments with
  | error cause =>
    refine ⟨2, "", some ("error: " ++ cause.message), fun setting network tree => ?_⟩
    simp only [execute, request]
  | ok asked =>
    cases asked with
    | help =>
      refine ⟨0, helpText, none, fun setting network tree => ?_⟩
      simp only [execute, request]
    | generate budget output =>
      exact absurd (readArguments_eq_generate_iff.1 request) (idle budget output)

section Generating

variable (filter : Filter) {network : Web.Network} {tree : Tree} {report : Report Weyl}
  (ran : (Job.ofBudget budget ⟨output⟩).run (.web WordOrigin.defaultUrl) network Weyl.default tree =
    report)
include ran

/-- A job that is done leads to the code of success, and nothing is reported. -/
theorem generate_of_done {summary : Summary} (done : report.result = .ok summary) :
    generate budget output filter network tree =
      ⟨0, "", none, report.events.filter filter.admits, report.requests, report.tree⟩ := by
  rw [generate, ran]
  simp only [done]

/-- A job that fails leads to the code of a failure, which is reported. -/
theorem generate_of_failed {failure : Failure} (failed : report.result = .error failure) :
    generate budget output filter network tree = ⟨1, "", some ("error: " ++ failure.message),
      report.events.filter filter.admits, report.requests, report.tree⟩ := by
  rw [generate, ran]
  simp only [failed]

end Generating

/-- Two filters make a difference to the events that are shown, and to nothing else. -/
theorem generate_eq_of_filter (filter other : Filter) (network : Web.Network) (tree : Tree) :
    generate budget output filter network tree =
      { generate budget output other network tree with
        log := (generate budget output filter network tree).log } := by
  cases ended : ((Job.ofBudget budget ⟨output⟩).run (.web WordOrigin.defaultUrl) network
    Weyl.default tree).result with
  | ok summary => rw [generate_of_done filter rfl ended, generate_of_done other rfl ended]
  | error failure => rw [generate_of_failed filter rfl ended, generate_of_failed other rfl ended]

/-- The command is its job, and the log setting decides about its log alone. If the arguments ask
for a file and the setting can be read, then the command makes the requests of the job, leaves its
tree, and shows those events of the job that the filter lets through. Its code tells whether the job
is done; if not, the error is reported, and the tree is as it was. If they ask for no file, then
nothing is requested, logged or changed. Two settings that can be read differ in the log alone. Only
a directive that has a blank in front and a character of several bytes may fail to be read, and then
the command stops before it does anything. -/
theorem execute_is_job (arguments : List String) (network : Web.Network) (tree : Tree) :
    (∀ budget output, AsksFor arguments budget output →
      let report := (Job.ofBudget budget ⟨output⟩).run (.web WordOrigin.defaultUrl) network
        (⟨1234⟩ : Weyl) tree
      (∀ setting filter, Filter.ofSetting setting = .ok filter →
        let exit := execute arguments setting network tree
        exit.requests = report.requests ∧ exit.tree = report.tree ∧ exit.output = "" ∧
          exit.log = report.events.filter filter.admits ∧
          (∀ summary, report.result = .ok summary → exit.code = 0 ∧ exit.complaint = none) ∧
          ∀ failure, report.result = .error failure →
            exit.code = 1 ∧ exit.complaint = some ("error: " ++ failure.message) ∧
              exit.tree = tree ∧
              ((∀ response, network.Answers response → response.body.length < 2 ^ 64) →
                ∃ cause, failure = .error cause)) ∧
        ∀ setting cause, Filter.ofSetting setting = .error cause →
          execute arguments setting network tree = ⟨101, "", none, [], [], tree⟩) ∧
      ((∀ budget output, ¬AsksFor arguments budget output) → ∀ setting,
        let exit := execute arguments setting network tree
        exit.requests = [] ∧ exit.log = [] ∧ exit.tree = tree) ∧
      (∀ setting other filter another, Filter.ofSetting setting = .ok filter →
        Filter.ofSetting other = .ok another →
        let exit := execute arguments setting network tree
        let again := execute arguments other network tree
        exit = { again with log := exit.log }) ∧
      ∀ setting, Filter.Cuttable setting → ∃ filter, Filter.ofSetting setting = .ok filter := by
  refine ⟨?_, ?_, ?_, fun setting cuttable => Filter.exists_ofSetting cuttable⟩
  · intro budget output asks report
    have ran : (Job.ofBudget budget ⟨output⟩).run (.web WordOrigin.defaultUrl) network Weyl.default
        tree = report := rfl
    have kept {failure : Failure} (failed : report.result = .error failure) : report.tree = tree :=
      Job.tree_of_run_failed _ _ network (⟨1234⟩ : Weyl) tree failed
    have only {failure : Failure} (failed : report.result = .error failure)
        (counted : ∀ response, network.Answers response → response.body.length < 2 ^ 64) :
        ∃ cause, failure = .error cause :=
      Job.exists_error_of_run_web counted _ _ (⟨1234⟩ : Weyl) tree failed
    clear_value report
    refine ⟨fun setting filter readable => ?_, fun setting cause unreadable =>
      execute_of_unreadable asks unreadable network tree⟩
    rw [execute_of_asksFor asks readable]
    cases ended : report.result with
    | ok summary =>
      rw [generate_of_done filter ran ended]
      exact ⟨rfl, rfl, rfl, rfl, fun _ _ => ⟨rfl, rfl⟩, nofun⟩
    | error failure =>
      rw [generate_of_failed filter ran ended]
      refine ⟨rfl, rfl, rfl, rfl, nofun, fun cause failed => ?_⟩
      cases failed
      exact ⟨rfl, rfl, kept ended, only ended⟩
  · intro idle setting
    obtain ⟨code, output, complaint, same⟩ := execute_of_not_asksFor idle
    rw [same]
    exact ⟨rfl, rfl, rfl⟩
  · intro setting other filter another readable legible
    by_cases idle : ∀ budget output, ¬AsksFor arguments budget output
    · obtain ⟨code, output, complaint, same⟩ := execute_of_not_asksFor idle
      rw [same, same]
    · simp only [not_forall, not_not] at idle
      obtain ⟨budget, output, asks⟩ := idle
      rw [execute_of_asksFor asks readable, execute_of_asksFor asks legible]
      exact generate_eq_of_filter filter another network tree

/-- A response of one word leads to a file of one record and to success, with no log setting and
with an empty one. Where nothing answers, an error is reported, and one argument leads to no
request. -/
theorem execute_is_job_done :
    let network : Web.Network := .serving [.answered ⟨200, none, [99, 97, 116, 10], 0, rfl⟩]
    let arguments := ["--", "32", "o"]
    AsksFor arguments 32 "o" ∧ Filter.Cuttable (some "") ∧
      (execute arguments none network .empty).code = 0 ∧
      (execute arguments (some "") network .empty).code = 0 ∧
      (∃ cause : Error, (execute arguments none (.serving []) .empty).complaint =
        some ("error: " ++ cause.message)) ∧
      (∀ budget output, ¬AsksFor ["32"] budget output) ∧
      (execute ["32"] none network .empty).requests = [] := by
  intro network arguments
  have asks : AsksFor arguments 32 "o" := readArguments_eq_generate_iff.1 rfl
  have standard : Filter.ofSetting none = .ok .standard := rfl
  have empty : Filter.Cuttable (some "") := by
    have alone : "".splitOn "," = [""] := by
      rw [String.splitOn, if_neg (by decide), String.splitOnAux, if_pos (by decide)]
      decide
    intro text set part among
    cases set
    rw [alone, List.mem_singleton] at among
    rw [among]
    exact .inr fun char inside => absurd inside List.not_mem_nil
  have idle : ∀ budget output, ¬AsksFor ["32"] budget output := by
    intro budget output asks
    have read : readArguments ["32"] = .error .missingArguments := by rfl
    rw [← readArguments_eq_generate_iff, read] at asks
    contradiction
  -- The only response is the answer, and its body is a list of one word.
  have got : (Web.get WordOrigin.defaultUrl network).result =
      .ok ⟨200, none, [99, 97, 116, 10], 0, rfl⟩ := by
    have answered : (Web.get WordOrigin.defaultUrl network).result.isOk := by decide +kernel
    cases result : (Web.get WordOrigin.defaultUrl network).result with
    | error cause =>
      rw [result] at answered
      contradiction
    | ok response =>
      obtain ⟨handling, member, sent⟩ := Web.answers_of_get result
      cases List.mem_singleton.1 member
      cases sent
      rfl
  have loaded : ((WordOrigin.web WordOrigin.defaultUrl).load network .empty).result =
      .ok ⟨#[[99, 97, 116]], by decide⟩ := by
    have parsed : WordList.parse [99, 97, 116, 10] = .ok ⟨#[[99, 97, 116]], by decide⟩ := by cbv
    have held : WordOrigin.ofResponse WordOrigin.defaultUrl ⟨200, none, [99, 97, 116, 10], 0, rfl⟩ =
        WordList.parse [99, 97, 116, 10] := rfl
    simp only [WordOrigin.load, WordOrigin.loadWeb, got, held, parsed]
  have written : ((Job.ofBudget 32 ⟨"o"⟩).write ⟨#[[99, 97, 116]], by decide⟩ (⟨1234⟩ : Weyl)
      .empty).result = .ok ⟨1, 1, 32⟩ := by cbv
  have done : ((Job.ofBudget 32 ⟨"o"⟩).run (.web WordOrigin.defaultUrl) network (⟨1234⟩ : Weyl)
      .empty).result = .ok ⟨1, 1, 32⟩ := by
    rw [Job.run_of_loaded _ _ loaded]
    exact written
  obtain ⟨jobs, _, same, readable⟩ := execute_is_job arguments network .empty
  obtain ⟨_, _, _, _, succeeds, _⟩ := (jobs 32 "o" asks).1 none .standard standard
  have code := (succeeds _ done).1
  obtain ⟨others, _⟩ := execute_is_job arguments (.serving []) .empty
  obtain ⟨_, _, _, _, finishes, fails⟩ := (others 32 "o" asks).1 none .standard standard
  obtain ⟨_, nothing, _⟩ := execute_is_job ["32"] network .empty
  refine ⟨asks, empty, code, ?_, ?_, idle, (nothing idle none).1⟩
  · obtain ⟨errors, legible⟩ := readable (some "") empty
    exact (congrArg Exit.code (same none (some "") _ _ standard legible)).symm.trans code
  · cases ended : ((Job.ofBudget 32 ⟨"o"⟩).run (.web WordOrigin.defaultUrl) (.serving [])
      (⟨1234⟩ : Weyl) .empty).result with
    | ok summary =>
      have failed : (execute arguments none (.serving []) .empty).code = 1 := by decide +kernel
      rw [(finishes _ ended).1] at failed
      contradiction
    | error failure =>
      obtain ⟨_, reported, _, only⟩ := fails _ ended
      have silent (response : Web.Response) : ¬(Web.Network.serving []).Answers response := by
        rintro ⟨_, member, _⟩
        contradiction
      obtain ⟨cause, rfl⟩ := only fun response answers => absurd answers (silent response)
      exact ⟨cause, reported⟩

/-- A blank in front of a directive moves the cut behind its name into the last character of the
name, and the command stops where it is to report that there is no answer. -/
theorem execute_stopped_in_character :
    let unset := execute ["64", "o"] none (.serving []) .empty
    AsksFor ["64", "o"] 64 "o" ∧
      execute ["64", "o"] (some " aé=off") (.serving []) .empty = ⟨101, "", none, [], [], .empty⟩ ∧
      unset.code = 1 ∧ unset.complaint =
        some ("error: failed to fetch word list: error sending request for url (" ++
          WordOrigin.defaultUrl ++ ")") := by
  intro unset
  have asks : AsksFor ["64", "o"] 64 "o" := readArguments_eq_generate_iff.1 rfl
  have alone : " aé=off".splitOn "," = [" aé=off"] := by
    rw [String.splitOn, if_neg (by decide)]
    repeat rw [String.splitOnAux, if_neg (by decide), if_neg (by decide)]
    rw [String.splitOnAux, if_pos (by decide)]
    decide
  have broken : Directive.read " aé=off".toList = .error .brokenCharacter := by rfl
  have unreadable := Filter.ofSetting_of_broken alone (by decide) broken
  exact ⟨asks, execute_of_unreadable asks unreadable _ _, by decide +kernel⟩

end CommandLine

end WordPairs
