import WordPairs.CommandLine.Arguments

/-!
# What arguments ask for a file

Arguments ask for a file if they give two values, a number of bytes and a name. Besides these there
may be one mark, behind which nothing is taken for an option; in front of it no value looks like
one.
-/

namespace WordPairs.CommandLine

/-- Arguments give values, none of which looks like an option unless it stands behind the mark. -/
inductive Gives : List String → List String → Prop where
  /-- No argument gives no value. -/
  | nil : Gives [] []
  /-- What does not look like an option is a value. -/
  | value {value : String} {arguments values : List String} :
    kindOf value = .value → Gives arguments values → Gives (value :: arguments) (value :: values)
  /-- Behind the mark all are values. -/
  | mark (values : List String) : Gives ("--" :: values) values

/-- Arguments ask for a file: they give a number of bytes and a name. -/
def AsksFor (arguments : List String) (budget : UInt64) (output : String) : Prop :=
  ∃ number, Gives arguments [number, output] ∧ readNumber number = .ok budget ∧ output ≠ ""

/-- What is asked for when values follow and nothing else. -/
def Seen.finishWith (seen : Seen) : List String → Except UsageError Request
  | [] => seen.finish
  | value :: values => seen.add value >>= fun seen => seen.finishWith values

/-- What is taken for the mark is two dashes. -/
theorem kindOf_eq_separator_iff {argument : String} :
    kindOf argument = .separator ↔ argument = "--" := by
  constructor
  · intro mark
    rw [kindOf] at mark
    split at mark
    · next dashes => exact String.toList_injective dashes
    · dsimp only at mark
      split at mark <;> contradiction
    all_goals contradiction
  · rintro rfl
    rfl

/-- The first of some arguments is the mark, and all others are values, or it is a value itself. -/
theorem gives_cons_iff {argument : String} {rest values : List String} :
    Gives (argument :: rest) values ↔
      kindOf argument = .separator ∧ values = rest ∨
        kindOf argument = .value ∧ ∃ others, values = argument :: others ∧ Gives rest others := by
  constructor
  · intro gives
    cases gives with
    | value isValue gives => exact .inr ⟨isValue, _, rfl, gives⟩
    | mark => exact .inl ⟨kindOf_eq_separator_iff.2 rfl, rfl⟩
  · rintro (⟨isMark, rfl⟩ | ⟨isValue, others, rfl, gives⟩)
    · rw [kindOf_eq_separator_iff.1 isMark]
      exact .mark values
    · exact .value isValue gives

/-- Behind the mark, arguments are values. -/
theorem readFrom_true (seen : Seen) (arguments : List String) :
    readFrom true seen arguments = seen.finishWith arguments := by
  induction arguments generalizing seen with
  | nil => rfl
  | cons argument rest ih =>
    simp only [readFrom, if_pos, Seen.finishWith]
    cases seen.add argument with
    | error => rfl
    | ok next => exact ih next

/-- Arguments lead to a file if the values that they give do. -/
theorem readFrom_false_eq_generate_iff {seen : Seen} {arguments : List String} {budget : UInt64}
    {output : String} :
    readFrom false seen arguments = .ok (.generate budget output) ↔
      ∃ values, Gives arguments values ∧
        seen.finishWith values = .ok (.generate budget output) := by
  induction arguments generalizing seen with
  | nil =>
    constructor
    · intro finished
      exact ⟨[], .nil, finished⟩
    · rintro ⟨_, ⟨⟩, finished⟩
      exact finished
  | cons argument rest ih =>
    simp only [readFrom, Bool.false_eq_true, if_false, gives_cons_iff]
    cases kind : kindOf argument with
    | separator => simp [readFrom_true]
    | help => cases checked : seen.check <;> simp [Except.map]
    | wrong cause => simp
    | value =>
      simp only [reduceCtorEq, false_and, true_and, false_or]
      constructor
      · intro finished
        cases added : seen.add argument with
        | error cause =>
          rw [added] at finished
          contradiction
        | ok next =>
          rw [added] at finished
          obtain ⟨values, gives, finished⟩ := ih.1 finished
          refine ⟨argument :: values, ⟨values, rfl, gives⟩, ?_⟩
          rw [Seen.finishWith, added]
          exact finished
      · rintro ⟨_, ⟨values, rfl, gives⟩, finished⟩
        rw [Seen.finishWith] at finished
        cases added : seen.add argument with
        | error cause =>
          rw [added] at finished
          contradiction
        | ok next =>
          rw [added] at finished
          exact ih.2 ⟨values, gives, finished⟩

namespace Seen

variable {values : List String} {budget : UInt64} {output : String}

/-- Behind a number and a name there is no room for a value. -/
theorem both_finishWith_iff {counted : UInt64} {name : String} :
    (both counted name).finishWith values = .ok (.generate budget output) ↔
      values = [] ∧ counted = budget ∧ name = output ∧ output ≠ "" := by
  cases values with
  | nil =>
    by_cases empty : name = ""
    · simp [finishWith, finish, check, empty]
    · have finished : (both counted name).finishWith [] = .ok (.generate counted name) := by
        simp [finishWith, finish, check, empty]
      rw [finished, Except.ok.injEq, Request.generate.injEq]
      constructor
      · rintro ⟨rfl, rfl⟩
        exact ⟨rfl, rfl, rfl, empty⟩
      · rintro ⟨_, rfl, rfl, _⟩
        exact ⟨rfl, rfl⟩
  | cons value values => simp [finishWith, add, bind, Except.bind]

/-- Behind what should be a number a name is needed. -/
theorem number_finishWith_iff {text : String} :
    (number text).finishWith values = .ok (.generate budget output) ↔
      values = [output] ∧ readNumber text = .ok budget ∧ output ≠ "" := by
  cases isNumber : readNumber text with
  | error cause =>
    have wrong : checkNumber text = .error (.invalidNumber text cause) := by
      rw [checkNumber, isNumber]
    cases values with
    | nil => simp [finishWith, finish, check, wrong, Except.map]
    | cons name values => simp [finishWith, add, wrong, Except.map, bind, Except.bind]
  | ok counted =>
    have right : checkNumber text = .ok counted := by rw [checkNumber, isNumber]
    cases values with
    | nil => simp [finishWith, finish, check, right, Except.map]
    | cons name values =>
      rw [finishWith, add, right]
      show (both counted name).finishWith values = _ ↔ _
      rw [both_finishWith_iff, List.cons.injEq, Except.ok.injEq]
      constructor
      · rintro ⟨rfl, rfl, rfl, named⟩
        exact ⟨⟨rfl, rfl⟩, rfl, named⟩
      · rintro ⟨⟨rfl, rfl⟩, rfl, named⟩
        exact ⟨rfl, rfl, rfl, named⟩

end Seen

/-- Two values lead to a file if the first is a number and the second is not empty, and so do no
other values. -/
theorem finishWith_eq_generate_iff {values : List String} {budget : UInt64} {output : String} :
    Seen.nothing.finishWith values = .ok (.generate budget output) ↔
      ∃ number, values = [number, output] ∧ readNumber number = .ok budget ∧ output ≠ "" := by
  cases values with
  | nil => simp [Seen.finishWith, Seen.finish, Seen.check]
  | cons number values =>
    show (Seen.number number).finishWith values = _ ↔ _
    rw [Seen.number_finishWith_iff]
    constructor
    · rintro ⟨rfl, isNumber, named⟩
      exact ⟨number, rfl, isNumber, named⟩
    · rintro ⟨_, same, isNumber, named⟩
      cases same
      exact ⟨rfl, isNumber, named⟩

/-- The arguments that ask for a file are those that are taken to ask for it. -/
theorem readArguments_eq_generate_iff {arguments : List String} {budget : UInt64}
    {output : String} :
    readArguments arguments = .ok (.generate budget output) ↔ AsksFor arguments budget output := by
  rw [readArguments, readFrom_false_eq_generate_iff]
  simp only [finishWith_eq_generate_iff]
  constructor
  · rintro ⟨_, gives, number, rfl, isNumber, named⟩
    exact ⟨number, gives, isNumber, named⟩
  · rintro ⟨number, gives, isNumber, named⟩
    exact ⟨_, gives, number, rfl, isNumber, named⟩

end WordPairs.CommandLine
