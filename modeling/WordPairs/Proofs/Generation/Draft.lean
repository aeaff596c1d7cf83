import WordPairs.Proofs.Generation.Checks
import WordPairs.Proofs.Writer.Intake

/-!
# Drafts

A draft is what drawing records comes to, whatever becomes of the records: those completed, how the
drawing ended, and the source that it left. A receiver that refuses no record receives the records
of the draft and has no other influence; one that refuses a record ends the drawing with it. So the
records of a budget and the bytes written for it have the same draft, and what differs is what is
done with it.
-/

namespace WordPairs

/-- What drawing several records comes to. -/
structure Draft (σ : Type) where
  /-- The records completed, in order. -/
  records : List Record
  /-- How the drawing ended. -/
  result : Except Failure Unit
  /-- The source that it left. -/
  source : σ

/-- The bytes of the records of a budget can be counted in a word. -/
theorem mul_recordCount (budget : UInt64) :
    Word64.mul (recordCount budget) 32 = .ok (recordCount budget * 32) := by
  have bound := budget.toNat_lt
  have fits : (recordCount budget).toNat * (32 : UInt64).toNat < Word64.modulus := by
    show budget.toNat / 32 * 32 < 2 ^ 64
    omega
  rw [Word64.mul, Word64.ofNat_of_lt fits, UInt64.ofNat_mul, UInt64.ofNat_toNat,
    UInt64.ofNat_toNat]

/-- The number of bytes that the records of a budget take, as a natural number. -/
theorem toNat_recordCount_mul (budget : UInt64) :
    (recordCount budget * 32).toNat = 32 * (recordCount budget).toNat := by
  rw [Word64.toNat_of_mul (mul_recordCount budget), Nat.mul_comm]
  rfl

/-- A budget of whole records pays for just these. -/
theorem toNat_recordCount_ofNat {count : Nat} (fits : 32 * count < Word64.modulus) :
    (recordCount (UInt64.ofNat (32 * count))).toNat = count := by
  have same : (UInt64.ofNat (32 * count)).toNat = 32 * count := UInt64.toNat_ofNat_of_lt fits
  rw [recordCount, UInt64.toNat_div, same]
  exact Nat.mul_div_cancel_left count (by decide)

namespace Generator

variable {σ : Type} [IndexSource σ]

/-- Draws so many records, one after the other. Those completed stay when a later one fails. -/
def draft (generator : Generator) (list : WordList) : Nat → σ → Draft σ
  | 0, source => ⟨[], .ok (), source⟩
  | count + 1, source =>
    match generator.drawRecord list source with
    | (.error failure, source) => ⟨[], .error failure, source⟩
    | (.ok record, source) =>
      let rest := generator.draft list count source
      ⟨record :: rest.records, rest.result, rest.source⟩

/-- The draft of a budget. If it pays for a record, a list without a short word is refused. -/
def draftFor (generator : Generator) (list : WordList) (budget : UInt64) (source : σ) : Draft σ :=
  let count := (recordCount budget).toNat
  if count = 0 ∨ list.hasShortWord then generator.draft list count source
  else ⟨[], .error (.error (.noQualifyingWord 0)), source⟩

/-- What is told when records are generated for a budget. -/
def announcement (generator : Generator) (list : WordList) (budget : UInt64) : List Event :=
  let count := (recordCount budget).toNat
  if count = 0 then []
  else if list.hasShortWord then [.generating count list.size generator.attempts]
  else [.noShortWord list.size]

/-- The drawing for a budget broke after some records: so many could be drawn and the next could
not, or the list was refused. -/
def BrokeAfter (generator : Generator) (list : WordList) (budget : UInt64) (source : σ)
    (done : List Record) (failure : Failure) (last : σ) : Prop :=
  (list.hasShortWord = false ∧ done = [] ∧ last = source) ∨
    ∃ before, generator.draft list done.length source = ⟨done, .ok (), before⟩ ∧
      done.length < (recordCount budget).toNat ∧
      generator.drawRecord list before = (.error failure, last)

/-- A draft that succeeds has all the records. -/
theorem length_draft_of_ok {generator : Generator} {list : WordList} {count : Nat} {source : σ}
    (succeeded : (generator.draft list count source).result = .ok ()) :
    (generator.draft list count source).records.length = count := by
  induction count generalizing source with
  | zero => rfl
  | succ count ih =>
    rw [draft] at succeeded ⊢
    split at succeeded
    · contradiction
    · rename_i record next drawn
      rw [List.length_cons, ih succeeded]

/-- A draft that fails has the records up to the one that could not be drawn. -/
theorem draft_of_error {generator : Generator} {list : WordList} {count : Nat} {source : σ}
    {failure : Failure} (failed : (generator.draft list count source).result = .error failure) :
    ∃ before, generator.draft list (generator.draft list count source).records.length source =
        ⟨(generator.draft list count source).records, .ok (), before⟩ ∧
      (generator.draft list count source).records.length < count ∧
      generator.drawRecord list before =
        (.error failure, (generator.draft list count source).source) := by
  induction count generalizing source with
  | zero => contradiction
  | succ count ih =>
    rw [draft] at failed ⊢
    split at failed
    · rename_i cause next drawn
      cases failed
      exact ⟨source, rfl, Nat.succ_pos _, drawn⟩
    · rename_i record next drawn
      obtain ⟨before, reached, fewer, broke⟩ := ih failed
      refine ⟨before, ?_, Nat.succ_lt_succ fewer, broke⟩
      rw [List.length_cons, draft, drawn]
      simp only [reached]

/-- A budget is drawn for unless it pays for a record and the list has no short word. -/
theorem draftFor_of_admitted {generator : Generator} {list : WordList} {budget : UInt64}
    {source : σ} (admitted : (recordCount budget).toNat = 0 ∨ list.hasShortWord) :
    generator.draftFor list budget source =
      generator.draft list (recordCount budget).toNat source := if_pos admitted

/-- A list that is refused is not drawn from. -/
theorem draftFor_of_refused {generator : Generator} {list : WordList} {budget : UInt64}
    {source : σ} (refused : ¬((recordCount budget).toNat = 0 ∨ list.hasShortWord)) :
    generator.draftFor list budget source =
      ⟨[], .error (.error (.noQualifyingWord 0)), source⟩ := if_neg refused

/-- A draft of a budget that succeeds has the records that the budget pays for. -/
theorem length_draftFor_of_ok {generator : Generator} {list : WordList} {budget : UInt64}
    {source : σ} (succeeded : (generator.draftFor list budget source).result = .ok ()) :
    (generator.draftFor list budget source).records.length = (recordCount budget).toNat := by
  by_cases admitted : (recordCount budget).toNat = 0 ∨ list.hasShortWord
  · rw [draftFor_of_admitted admitted] at succeeded ⊢
    exact length_draft_of_ok succeeded
  · rw [draftFor_of_refused admitted] at succeeded
    contradiction

/-- A draft of a budget that fails has the records after which the drawing broke. -/
theorem draftFor_of_error {generator : Generator} {list : WordList} {budget : UInt64} {source : σ}
    {failure : Failure} (failed : (generator.draftFor list budget source).result = .error failure) :
    let draft := generator.draftFor list budget source
    generator.BrokeAfter list budget source draft.records failure draft.source := by
  by_cases admitted : (recordCount budget).toNat = 0 ∨ list.hasShortWord
  · rw [draftFor_of_admitted admitted] at failed ⊢
    exact .inr (draft_of_error failed)
  · rw [draftFor_of_refused admitted]
    exact .inl ⟨by simpa using fun short => admitted (.inr short), rfl, rfl⟩

section Receivers

variable {ω : Type}

/-- How drawing records for a receiver ends, by the draft of these records and by what the receiver
is known to have after it received some. -/
inductive Handed (generator : Generator) (list : WordList)
    (receive : Record → ω → Except Failure Unit × ω) (Received : List Record → ω → Prop)
    (source : σ) (done : List Record) (draft : Draft σ) : Except Failure Unit × σ × ω → Prop
  /-- The receiver received all the records that could be drawn. -/
  | all {last : ω} (received : Received (done ++ draft.records) last) :
      Handed generator list receive Received source done draft (draft.result, draft.source, last)
  /-- The receiver refused a record, and none was drawn after it. -/
  | refused {front rest : List Record} {record : Record} {before last : ω} {next : σ}
      {failure : Failure} (drawn : draft.records = front ++ record :: rest)
      (reached : generator.draft list (front.length + 1) source =
        ⟨front ++ [record], .ok (), next⟩)
      (received : Received (done ++ front) before)
      (refused : receive record before = (.error failure, last)) :
      Handed generator list receive Received source done draft (.error failure, next, last)

variable {generator : Generator} {list : WordList}
  {receive : Record → ω → Except Failure Unit × ω} {Received : List Record → ω → Prop}

/-- A receiver that is handed nothing has what it had. -/
theorem Handed.nothing {source next : σ} {done : List Record} {receiver : ω}
    {result : Except Failure Unit} (received : Received done receiver) :
    generator.Handed list receive Received source done ⟨[], result, next⟩
      (result, next, receiver) := by
  apply Handed.all
  rw [List.append_nil]
  exact received

/-- A receiver that refuses the first record is handed no other. -/
theorem Handed.first {source next : σ} {done : List Record} {record : Record} {rest : Draft σ}
    {receiver last : ω} {failure : Failure}
    (drawn : generator.drawRecord list source = (.ok record, next))
    (received : Received done receiver)
    (refused : receive record receiver = (.error failure, last)) :
    generator.Handed list receive Received source done
      ⟨record :: rest.records, rest.result, rest.source⟩ (.error failure, next, last) := by
  have reached : generator.draft list 1 source = ⟨[record], .ok (), next⟩ := by
    simp only [draft, drawn]
  have before : Received (done ++ []) receiver := by
    rw [List.append_nil]
    exact received
  exact .refused (List.nil_append _).symm reached before refused

/-- A record that was received comes before those of the rest of the drawing. -/
theorem Handed.cons {source next : σ} {done : List Record} {record : Record} {rest : Draft σ}
    {outcome : Except Failure Unit × σ × ω}
    (drawn : generator.drawRecord list source = (.ok record, next))
    (handed : generator.Handed list receive Received next (done ++ [record]) rest outcome) :
    generator.Handed list receive Received source done
      ⟨record :: rest.records, rest.result, rest.source⟩ outcome := by
  cases handed with
  | all received =>
    rw [List.append_assoc] at received
    exact .all received
  | @refused front behind other before last after failure split reached received refused =>
    rw [List.append_assoc] at received
    have further : generator.draft list ((record :: front).length + 1) source =
        ⟨record :: front ++ [other], .ok (), after⟩ := by
      rw [List.length_cons, draft, drawn]
      simp only [reached, List.cons_append]
    have whole : record :: rest.records = record :: front ++ other :: behind :=
      congrArg (record :: ·) split
    exact .refused whole further received refused

/-- A receiver that does not refuse a record is known to have it. -/
def Keeps (receive : Record → ω → Except Failure Unit × ω) (Received : List Record → ω → Prop) :
    Prop :=
  ∀ done receiver record next, Received done receiver →
    receive record receiver = (.ok (), next) → Received (done ++ [record]) next

/-- Drawing records for a receiver ends with the draft or with the record that is refused. -/
theorem drawEach_handed (keeps : Keeps receive Received) (generator : Generator)
    (list : WordList) (count : Nat) (source : σ) {done : List Record} {receiver : ω}
    (received : Received done receiver) :
    generator.Handed list receive Received source done (generator.draft list count source)
      (generator.drawEach list receive count source receiver) := by
  induction count generalizing source done receiver with
  | zero => exact .nothing received
  | succ count ih =>
    rcases drawn : generator.drawRecord list source with ⟨failure | record, next⟩
    · simp only [drawEach, draft, drawn]
      exact .nothing received
    · rcases handed : receive record receiver with ⟨failure | _, kept⟩
      · simp only [drawEach, draft, drawn, handed]
        exact .first drawn received handed
      · simp only [drawEach, draft, drawn, handed]
        have more := keeps done receiver record kept received handed
        exact .cons drawn (ih next more)

/-- Drawing the records of a budget ends with the draft or with the record that is refused. -/
theorem eachRecord_handed (keeps : Keeps receive Received) (generator : Generator)
    (list : WordList) (budget : UInt64) (source : σ) {done : List Record} {receiver : ω}
    (received : Received done receiver) :
    ∃ result state,
      generator.eachRecord list (recordCount budget) receive source receiver =
        ⟨result, state, generator.announcement list budget⟩ ∧
      generator.Handed list receive Received source done (generator.draftFor list budget source)
        (result, state) := by
  rw [announcement]
  by_cases none : (recordCount budget).toNat = 0
  · rw [eachRecord_of_none none, draftFor_of_admitted (.inl none), if_pos none, none]
    exact ⟨_, _, rfl, .nothing received⟩
  · by_cases short : list.hasShortWord
    · rw [eachRecord_of_short none short, draftFor_of_admitted (.inr short), if_neg none,
        if_pos short]
      exact ⟨_, _, rfl, drawEach_handed keeps generator list _ source received⟩
    · rw [eachRecord_of_long none short, draftFor_of_refused (not_or.2 ⟨none, short⟩),
        if_neg none, if_neg short]
      exact ⟨_, _, rfl, .nothing received⟩

variable (receive Received) in
/-- Drawing the records of a budget ends with the draft if no record is refused. -/
theorem eachRecord_eq_draftFor (accepts : ∀ done receiver record, Received done receiver →
      ∃ next, receive record receiver = (.ok (), next) ∧ Received (done ++ [record]) next)
    (generator : Generator) (list : WordList) (budget : UInt64) (source : σ)
    {done : List Record} {receiver : ω} (received : Received done receiver) :
    let draft := generator.draftFor list budget source
    ∃ last, generator.eachRecord list (recordCount budget) receive source receiver =
        ⟨draft.result, (draft.source, last), generator.announcement list budget⟩ ∧
      Received (done ++ draft.records) last := by
  have keeps : Keeps receive Received := by
    intro done receiver record next received took
    obtain ⟨other, accepted, grown⟩ := accepts done receiver record received
    rw [took] at accepted
    cases accepted
    exact grown
  obtain ⟨result, state, drawn, handed⟩ :=
    eachRecord_handed keeps generator list budget source received
  cases handed with
  | all received => exact ⟨_, drawn, received⟩
  | refused split reached received refused =>
    obtain ⟨next, accepted, _⟩ := accepts _ _ _ received
    rw [refused] at accepted
    cases accepted

end Receivers

/-- The records of a budget are those of its draft, if that succeeds. -/
theorem generate_eq_draftFor (generator : Generator) (list : WordList) (budget : UInt64)
    (source : σ) :
    let draft := generator.draftFor list budget source
    generator.generate list budget source =
      ⟨draft.result.map fun () => draft.records, draft.source,
        generator.announcement list budget⟩ := by
  obtain ⟨last, drawn, total⟩ := eachRecord_eq_draftFor collect
    (fun done records => records.toList = done)
    (fun done records record received => ⟨records.push record, rfl, by simp [received]⟩)
    generator list budget source (show (#[] : Array Record).toList = [] from rfl)
  simp only [generate_eq_eachRecord, drawn, total, List.nil_append]

/-- Generating ends in the state that the draft leaves. -/
theorem state_generate (generator : Generator) (list : WordList) (budget : UInt64) (source : σ) :
    (generator.generate list budget source).state =
      (generator.draftFor list budget source).source := by
  rw [generate_eq_draftFor]

/-- Records are returned exactly if the draft succeeds, and are those of the draft. -/
theorem generate_eq_ok_iff {generator : Generator} {list : WordList} {budget : UInt64} {source : σ}
    {records : List Record} :
    (generator.generate list budget source).result = .ok records ↔
      (generator.draftFor list budget source).result = .ok () ∧
        (generator.draftFor list budget source).records = records := by
  rw [generate_eq_draftFor]
  cases (generator.draftFor list budget source).result <;> simp [Except.map]

/-- Generating fails exactly as the draft does. -/
theorem generate_eq_error_iff {generator : Generator} {list : WordList} {budget : UInt64}
    {source : σ} {failure : Failure} :
    (generator.generate list budget source).result = .error failure ↔
      (generator.draftFor list budget source).result = .error failure := by
  rw [generate_eq_draftFor]
  cases (generator.draftFor list budget source).result <;> simp [Except.map]

/-- Writing the records of a budget hands them to the writer, and counts their bytes. -/
theorem writeTo_eq_eachRecord {ω : Type} [ByteWriter ω] (generator : Generator) (list : WordList)
    (budget : UInt64) (source : σ) (writer : ω) :
    let outcome :=
      generator.eachRecord list (recordCount budget) ByteWriter.writeRecord source writer
    generator.writeTo list budget source writer =
      ⟨outcome.result.map fun () => recordCount budget * 32, outcome.state, outcome.events⟩ := by
  simp only [writeTo, mul_recordCount]
  cases (generator.eachRecord list (recordCount budget) ByteWriter.writeRecord source
    writer).result <;> rfl

/-- Writing the records of a budget to a writer of limited room brings in the bytes of the draft as
far as they fit. If they do not, the last record drawn is the one that there is no room for. -/
theorem writeTo_lands {ω : Type} [ByteWriter ω] (quota : Quota ω) (generator : Generator)
    (list : WordList) (budget : UInt64) (source : σ) {writer : ω}
    (willing : quota.Willing writer) :
    let draft := generator.draftFor list budget source
    let written := generator.writeTo list budget source writer
    (∃ last, quota.Lands (Record.concat draft.records) writer (.ok (), last) ∧
      written = ⟨draft.result.map fun () => recordCount budget * 32, (draft.source, last),
        generator.announcement list budget⟩) ∨
    ∃ front next last,
      quota.Lands (Record.concat draft.records) writer (.error quota.whenFull.cause, last) ∧
      (∀ limit ∈ quota.room writer, front.length = limit / 32 + 1) ∧
      front <+: draft.records ∧
      generator.draft list front.length source = ⟨front, .ok (), next⟩ ∧
      written = ⟨.error (.error (.io quota.whenFull.cause)), (next, last),
        generator.announcement list budget⟩ := by
  let Received := fun (done : List Record) (reached : ω) =>
    quota.Lands (Record.concat done) writer (.ok (), reached)
  have keeps : Keeps ByteWriter.writeRecord Received := by
    intro done reached record next received wrote
    exact received.snoc (Quota.lands_of_writeRecord received.willing wrote)
  have begun : Received [] writer := .nil willing
  obtain ⟨result, state, drawn, handed⟩ :=
    eachRecord_handed keeps generator list budget source begun
  cases handed with
  | @all last received =>
    exact .inl ⟨last, received, by rw [writeTo_eq_eachRecord, drawn]⟩
  | @refused front rest record before last next failure split reached received refused =>
    obtain ⟨rfl, landed⟩ := Quota.lands_of_writeRecord_error received.willing refused
    have cut := received.snoc landed
    have begins : (generator.draftFor list budget source).records = front ++ [record] ++ rest := by
      rw [split, List.append_assoc, List.singleton_append]
    refine .inr ⟨front ++ [record], next, last, ?_, received.length_eq cut, ⟨rest, begins.symm⟩,
      ?_, ?_⟩
    · rw [begins, Record.concat_append]
      exact cut.cut_append _
    · rw [List.length_append, List.length_singleton]
      exact reached
    · rw [writeTo_eq_eachRecord, drawn]
      rfl

/-- Writing the records of a budget to a writer that takes everything brings in the bytes of the
draft. -/
theorem writeTo_eq_draftFor {ω : Type} [ByteWriter ω] (intake : Intake ω) (generator : Generator)
    (list : WordList) (budget : UInt64) (source : σ) {writer : ω}
    (willing : intake.Willing writer) :
    let draft := generator.draftFor list budget source
    ∃ last, generator.writeTo list budget source writer =
        ⟨draft.result.map fun () => recordCount budget * 32, (draft.source, last),
          generator.announcement list budget⟩ ∧
      intake.taken last = intake.taken writer ++ Record.concat draft.records ∧
      intake.Willing last := by
  obtain ⟨last, landed, wrote⟩ | ⟨front, next, last, landed, _⟩ :=
    writeTo_lands intake.quota generator list budget source willing
  · cases landed with
    | whole fits grown less again => exact ⟨last, wrote, grown, again⟩
  · cases landed with
    | cut room short grown => cases room

end Generator

end WordPairs
