import WordPairs.Proofs.Generation.Blocks

/-!
# Lists that are refused

A list without a short word is refused before anything is drawn, and the error says that no attempt
was made. It says so of no other list: there the drawing makes one attempt at least before it fails
for want of a short word, and the error tells how many. A budget that pays for no record asks
nothing of the list.
-/

namespace WordPairs

namespace WordList

variable {σ : Type} [IndexSource σ] {list : WordList}

/-- A list is found to have no short word exactly if all of its words have 16 bytes or more. -/
theorem hasShortWord_eq_false_iff :
    list.hasShortWord = false ↔ ∀ word ∈ list.toList, 16 ≤ word.length := by
  rw [← Bool.not_eq_true, hasShortWord_iff]
  simp only [not_exists, not_and, Nat.not_lt]

/-- A short word that is not found is an error which tells how many draws were made for it. -/
theorem cause_of_drawShort {attempts left : Nat} {source : σ} {cause : Error}
    (failed : (list.drawShort attempts left source).1 = .error (.error cause)) :
    cause = .noQualifyingWord attempts := by
  induction left generalizing source with
  | zero =>
    cases failed
    rfl
  | succ left ih =>
    rw [drawShort] at failed
    split at failed
    · cases failed
    · split at failed
      · cases failed
      · exact ih failed

end WordList

namespace Generator

variable {σ : Type} [IndexSource σ] {generator : Generator} {list : WordList}

/-- A record that cannot be drawn for an error is one without a first word. -/
theorem cause_of_drawRecord {source : σ} {cause : Error}
    (failed : (generator.drawRecord list source).1 = .error (.error cause)) :
    cause = .noQualifyingWord generator.attempts := by
  rw [drawRecord] at failed
  split at failed
  · next failure last picked =>
    cases failed
    exact WordList.cause_of_drawShort (congrArg Prod.fst picked)
  · split at failed <;> cases failed

/-- A draft that fails for an error is one that lacks a first word. -/
theorem cause_of_draft {count : Nat} {source : σ} {cause : Error}
    (failed : (generator.draft list count source).result = .error (.error cause)) :
    cause = .noQualifyingWord generator.attempts := by
  obtain ⟨before, _, _, broke⟩ := draft_of_error failed
  exact cause_of_drawRecord (congrArg Prod.fst broke)

/-- A draft of a budget that fails for an error is one that lacks a first word, with as many draws
for it as are made from such a list. -/
theorem cause_of_draftFor {budget : UInt64} {source : σ} {cause : Error}
    (failed : (generator.draftFor list budget source).result = .error (.error cause)) :
    cause = .noQualifyingWord (if list.hasShortWord then generator.attempts else 0) := by
  by_cases short : list.hasShortWord
  · rw [draftFor_of_admitted (.inr short)] at failed
    rw [if_pos short]
    exact cause_of_draft failed
  · rw [if_neg short]
    by_cases empty : (recordCount budget).toNat = 0
    · rw [draftFor_of_admitted (.inl empty), empty] at failed
      cases failed
    · rw [draftFor_of_refused (not_or.2 ⟨empty, short⟩)] at failed
      cases failed
      rfl

/-- Drawing for a receiver that is content with each record fails for an error only if it lacks a
first word. -/
theorem cause_of_drawEach {ω : Type} {receive : Record → ω → Except Failure Unit × ω}
    (content : ∀ record receiver reported,
      (receive record receiver).1 ≠ .error (.error (.noQualifyingWord reported)))
    {count reported : Nat} {source : σ} {receiver : ω}
    (failed : (generator.drawEach list receive count source receiver).1 =
      .error (.error (.noQualifyingWord reported))) :
    reported = generator.attempts := by
  have keeps : Keeps receive fun _ _ => True := fun _ _ _ _ _ _ => trivial
  have handed : generator.Handed list receive (fun _ _ => True) source []
      (generator.draft list count source)
      (generator.drawEach list receive count source receiver) :=
    drawEach_handed keeps generator list count source trivial
  generalize generator.drawEach list receive count source receiver = ended at handed failed
  cases handed with
  | all _ => exact Error.noQualifyingWord.inj (cause_of_draft failed)
  | refused _ _ _ refused =>
    cases failed
    exact absurd (congrArg Prod.fst refused) (content _ _ _)

end Generator

/-- How a run answers to its list and its budget, when so many draws are made for a short word. It
begins in a state and has nothing to show as long as no record is drawn. -/
structure Answers {σ α : Type} (attempts : Nat) (list : WordList) (budget : UInt64) (start : σ)
    (nothing : α) (outcome : Outcome σ α) : Prop where
  /-- No attempt is reported exactly if a record is paid for and no word can stand first. -/
  hopeless : outcome.result = .error (.error (.noQualifyingWord 0)) ↔
    32 ≤ budget.toNat ∧ ∀ word ∈ list.toList, 16 ≤ word.length
  /-- Then nothing happens but that a warning is told. -/
  refused : outcome.result = .error (.error (.noQualifyingWord 0)) →
    outcome.state = start ∧ outcome.events = [.noShortWord list.size] ∧
      outcome.events.map Event.level = [.warn]
  /-- If no record is paid for, nothing happens at all. -/
  idle : budget.toNat < 32 → outcome.result = .ok nothing ∧ outcome.state = start ∧
    outcome.events = []
  /-- Otherwise it is told that records are generated, and if they cannot be for want of a first
  word, all attempts have been made. -/
  tried : 32 ≤ budget.toNat → (∃ word ∈ list.toList, word.length < 16) →
    outcome.events = [.generating (budget.toNat / 32) list.size attempts] ∧
      outcome.events.map Event.level = [.debug] ∧
      ∀ reported, outcome.result = .error (.error (.noQualifyingWord reported)) →
        reported = attempts

section Answers

variable {σ τ α β : Type} {attempts : Nat} {list : WordList} {budget : UInt64}

/-- A run that does nothing answers a budget that pays for no record. -/
theorem answers_of_few (few : budget.toNat < 32) (start : σ) (nothing : α) :
    Answers attempts list budget start nothing ⟨.ok nothing, start, []⟩ where
  hopeless := ⟨nofun, fun ⟨paid, _⟩ => absurd few (Nat.not_lt.2 paid)⟩
  refused := nofun
  idle _ := ⟨rfl, rfl, rfl⟩
  tried paid := absurd few (Nat.not_lt.2 paid)

/-- A run that is refused answers a list without a short word. -/
theorem answers_of_long (paid : 32 ≤ budget.toNat) (long : ∀ word ∈ list.toList, 16 ≤ word.length)
    (start : σ) (nothing : α) :
    Answers attempts list budget start nothing
      ⟨.error (.error (.noQualifyingWord 0)), start, [.noShortWord list.size]⟩ where
  hopeless := ⟨fun _ => ⟨paid, long⟩, fun _ => rfl⟩
  refused _ := ⟨rfl, rfl, rfl⟩
  idle few := absurd few (Nat.not_lt.2 paid)
  tried _ short := by
    obtain ⟨word, member, fewer⟩ := short
    exact absurd fewer (Nat.not_lt.2 (long word member))

/-- A run that reports no other number than that of the draws it makes for a short word answers a
list that has one. -/
theorem answers_of_short (paid : 32 ≤ budget.toNat) (short : ∃ word ∈ list.toList, word.length < 16)
    (positive : 0 < attempts) (start : σ) (nothing : α) {result : Except Failure α} (state : σ)
    (reports : ∀ reported, result = .error (.error (.noQualifyingWord reported)) →
      reported = attempts) :
    Answers attempts list budget start nothing
      ⟨result, state, [.generating (budget.toNat / 32) list.size attempts]⟩ where
  hopeless := by
    obtain ⟨word, member, fewer⟩ := short
    refine ⟨fun failed => absurd (reports 0 failed) (Nat.ne_of_lt positive), fun ⟨_, long⟩ => ?_⟩
    exact absurd fewer (Nat.not_lt.2 (long word member))
  refused failed := absurd (reports 0 failed) (Nat.ne_of_lt positive)
  idle few := absurd few (Nat.not_lt.2 paid)
  tried _ _ := ⟨rfl, rfl, reports⟩

/-- What is made of the value and the state of a run answers in the same way. -/
theorem Answers.map {start : σ} {nothing : α} {none : β} {outcome : Outcome σ α}
    (answers : Answers attempts list budget start nothing outcome) (change : σ → α → β)
    (keep : σ → τ) (same : budget.toNat < 32 → change start nothing = none) :
    Answers attempts list budget (keep start) none
      ⟨outcome.result.map (change outcome.state), keep outcome.state, outcome.events⟩ := by
  have failure (cause : Failure) :
      outcome.result.map (change outcome.state) = .error cause ↔ outcome.result = .error cause := by
    cases outcome.result <;> simp [Except.map]
  refine ⟨?_, fun failed => ?_, fun few => ?_, fun paid short => ?_⟩
  · rw [failure]
    exact answers.hopeless
  · obtain ⟨state, events, level⟩ := answers.refused ((failure _).1 failed)
    exact ⟨congrArg keep state, events, level⟩
  · obtain ⟨result, state, events⟩ := answers.idle few
    refine ⟨?_, congrArg keep state, events⟩
    rw [result, state, ← same few]
    rfl
  · obtain ⟨events, level, reports⟩ := answers.tried paid short
    exact ⟨events, level, fun reported failed => reports reported ((failure _).1 failed)⟩

end Answers

namespace Generator

variable {σ : Type} [IndexSource σ]

/-- How drawing the records of a budget answers, for a receiver that is content with each record. -/
theorem eachRecord_answers {ω : Type} {receive : Record → ω → Except Failure Unit × ω}
    (content : ∀ record receiver reported,
      (receive record receiver).1 ≠ .error (.error (.noQualifyingWord reported)))
    (generator : Generator) (list : WordList) (budget : UInt64) (source : σ) (receiver : ω) :
    Answers generator.attempts list budget (source, receiver) ()
      (generator.eachRecord list (recordCount budget) receive source receiver) := by
  have count : (recordCount budget).toNat = budget.toNat / 32 := rfl
  by_cases few : budget.toNat < 32
  · have none : (recordCount budget).toNat = 0 := Nat.div_eq_of_lt few
    rw [eachRecord_of_none none]
    exact answers_of_few few (source, receiver) ()
  · have paid : 32 ≤ budget.toNat := Nat.le_of_not_lt few
    have some : (recordCount budget).toNat ≠ 0 := by omega
    by_cases short : list.hasShortWord
    · rw [eachRecord_of_short some short]
      exact answers_of_short paid (WordList.hasShortWord_iff.1 short) generator.positive
        (source, receiver) () _ fun _ failed => cause_of_drawEach content failed
    · rw [eachRecord_of_long some short]
      have long := WordList.hasShortWord_eq_false_iff.1 (eq_false_of_ne_true short)
      exact answers_of_long paid long (source, receiver) ()

/-- How a run answers that returns its records. -/
theorem generate_answers (generator : Generator) (list : WordList) (budget : UInt64) (source : σ) :
    Answers generator.attempts list budget source []
      (generator.generate list budget source) := by
  have content (record : Record) (records : Array Record) (reported : Nat) :
      (collect record records).1 ≠ .error (.error (.noQualifyingWord reported)) := by
    rw [collect]
    nofun
  have drawn := eachRecord_answers content generator list budget source #[]
  -- Its own exit and check answer as those that follow do, so that what it tells is told once.
  rw [generate_eq_eachRecord]
  exact drawn.map (fun state () => state.2.toList) Prod.fst fun _ => rfl

/-- How a run answers that writes its records, whatever the writer. -/
theorem writeTo_answers {ω : Type} [ByteWriter ω] (generator : Generator) (list : WordList)
    (budget : UInt64) (source : σ) (writer : ω) :
    Answers generator.attempts list budget (source, writer) 0
      (generator.writeTo list budget source writer) := by
  have content (record : Record) (reached : ω) (reported : Nat) :
      (ByteWriter.writeRecord record reached).1 ≠ .error (.error (.noQualifyingWord reported)) := by
    rw [ByteWriter.result_writeRecord]
    cases (ByteWriter.writeAll record.bytes reached).1 <;> nofun
  have drawn := eachRecord_answers content generator list budget source writer
  rw [writeTo_eq_eachRecord]
  refine drawn.map (fun _ () => recordCount budget * 32) id fun few => ?_
  have empty : (recordCount budget).toNat = 0 := Nat.div_eq_of_lt few
  apply UInt64.toNat.inj
  rw [toNat_recordCount_mul, empty]
  rfl

/-- A list is refused without an attempt just if a record is paid for and all of its words have 16
bytes or more. Then a warning is told, no index is drawn and nothing is written. If no record is
paid for, there is nothing to draw, to write or to tell, whatever the list. In all other cases it is
told once that records are generated, and if no short word is found, then after as many draws as are
allowed, of which there is one at least. All this holds whether the records are returned or
written. -/
theorem answers_to_list_and_budget (list : WordList) (budget : UInt64) (attempts : Nat)
    (source : σ) :
    Answers (max 1 attempts) list budget source []
        ((withAttempts attempts).generate list budget source) ∧
      ∀ {ω : Type} [ByteWriter ω] (writer : ω),
        Answers (max 1 attempts) list budget (source, writer) 0
          ((withAttempts attempts).writeTo list budget source writer) :=
  ⟨generate_answers (withAttempts attempts) list budget source,
    writeTo_answers (withAttempts attempts) list budget source⟩

end Generator

end WordPairs
