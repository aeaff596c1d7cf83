import Mathlib.Logic.Relation
import WordPairs.Draw.Replay
import WordPairs.Proofs.Generation.Dependence
import WordPairs.Proofs.Generation.Refusal

/-!
# More draws for a short word

A generator that makes more draws for a short word draws the same words as one that makes fewer,
until that one gives up, and goes on from there. So the records are the same if fewer draws suffice,
and if they do not, then the records drawn until then are the first of those drawn with more, and
the draws made until then are the first of those made with more.
-/

namespace WordPairs

variable {σ : Type} [IndexSource σ]

/-- A source becomes another by one draw, whatever the length that it is asked for. -/
def Draws (source next : σ) : Prop :=
  ∃ length index, IndexSource.next length source = .ok (index, next)

/-- A source becomes another by draws. -/
def LeadsTo : σ → σ → Prop := Relation.ReflTransGen Draws

/-- A source is what no draw makes of it. -/
theorem LeadsTo.refl (source : σ) : LeadsTo source source := Relation.ReflTransGen.refl

/-- Draws can be followed by draws. -/
theorem LeadsTo.trans {source middle last : σ} (first : LeadsTo source middle)
    (second : LeadsTo middle last) : LeadsTo source last := Relation.ReflTransGen.trans first second

/-- What was noted before some draws stands in front of what is noted after them. -/
theorem LeadsTo.handed_begin {traced last : Traced σ} (leads : LeadsTo traced last) :
    traced.handed <+: last.handed := by
  induction leads with
  | refl => exact List.prefix_refl _
  | @tail middle last _ draws ih =>
    obtain ⟨length, index, drawn⟩ := draws
    have noted : (IndexSource.next length middle.source).map (fun drawn =>
        (drawn.1, (⟨drawn.2, middle.handed ++ [drawn.1]⟩ : Traced σ))) = .ok (index, last) := drawn
    cases next : IndexSource.next length middle.source with
    | error cause =>
      rw [next] at noted
      cases noted
    | ok handed =>
      rw [next] at noted
      cases noted
      exact ih.trans (List.prefix_append _ _)

namespace WordList

variable {list : WordList}

/-- Drawing a word is a draw. -/
theorem draw_leadsTo (list : WordList) (source : σ) : LeadsTo source (list.draw source).2 := by
  rw [draw]
  cases drawn : IndexSource.next list.size source with
  | error cause => exact .refl source
  | ok handed => exact Relation.ReflTransGen.single ⟨list.size, handed.1, drawn⟩

/-- Drawing a short word takes draws only. -/
theorem drawShort_leadsTo (list : WordList) (attempts left : Nat) (source : σ) :
    LeadsTo source (list.drawShort attempts left source).2 := by
  induction left generalizing source with
  | zero => exact .refl source
  | succ left ih =>
    have first := list.draw_leadsTo source
    rw [drawShort]
    rcases drawn : list.draw source with ⟨cause | word, middle⟩ <;> rw [drawn] at first
    · exact first
    · by_cases short : isShort word
      · simp only [short, if_true]
        exact first
      · simp only [short]
        exact first.trans (ih middle)

/-- Drawing a short word ends as it ends with fewer draws, or these are used up and it goes on with
the draws that are left. -/
theorem drawShort_add (list : WordList) (attempts others left more : Nat) (source : σ) :
    list.drawShort others (left + more) source = list.drawShort attempts left source ∨
      ∃ cause middle, list.drawShort attempts left source = (.error (.error cause), middle) ∧
        list.drawShort others (left + more) source = list.drawShort others more middle := by
  induction left generalizing source with
  | zero => exact .inr ⟨.noQualifyingWord attempts, source, rfl, by rw [Nat.zero_add]⟩
  | succ left ih =>
    rw [Nat.add_right_comm, drawShort, drawShort]
    rcases list.draw source with ⟨cause | word, middle⟩
    · exact .inl rfl
    · by_cases short : isShort word
      · left
        simp only [short, if_true]
      · simp only [short]
        exact ih middle

end WordList

namespace Generator

variable {list : WordList}

/-- The second word of a record is drawn behind the first. -/
theorem drawShort_leadsTo_drawRecord (generator : Generator) (list : WordList) (source : σ) :
    LeadsTo (list.drawShort generator.attempts generator.attempts source).2
      (generator.drawRecord list source).2 := by
  rw [drawRecord]
  rcases list.drawShort generator.attempts generator.attempts source with ⟨failure | first, middle⟩
  · exact .refl middle
  · have second := list.draw_leadsTo middle
    dsimp only
    rcases drawn : list.draw middle with ⟨cause | word, last⟩ <;> rw [drawn] at second <;>
      exact second

/-- Drawing a record takes draws only. -/
theorem drawRecord_leadsTo (generator : Generator) (list : WordList) (source : σ) :
    LeadsTo source (generator.drawRecord list source).2 :=
  (list.drawShort_leadsTo _ _ source).trans (generator.drawShort_leadsTo_drawRecord list source)

/-- Further records are drawn behind the first. -/
theorem drawRecord_leadsTo_draft (generator : Generator) (list : WordList) (count : Nat)
    (source : σ) :
    LeadsTo (generator.drawRecord list source).2
      (generator.draft list (count + 1) source).source := by
  induction count generalizing source with
  | zero =>
    rw [draft]
    rcases generator.drawRecord list source with ⟨failure | record, next⟩ <;> exact .refl next
  | succ count ih =>
    rw [draft]
    rcases generator.drawRecord list source with ⟨failure | record, next⟩
    · exact .refl next
    · exact (generator.drawRecord_leadsTo list next).trans (ih next)

/-- A drawing ends in the same way as another, or the other lacks a word and the drawing goes on
from there. -/
inductive Surpasses (further draft : Draft σ) : Prop where
  /-- Both drawings end in the same way. -/
  | same : further = draft → Surpasses further draft
  /-- The other drawing lacks a word. -/
  | longer {cause : Error} : draft.result = .error (.error cause) →
      draft.records <+: further.records → LeadsTo draft.source further.source →
      Surpasses further draft

/-- The records of a drawing come before those that another draws beyond it. -/
theorem Surpasses.records_begin {further draft : Draft σ} (surpasses : Surpasses further draft) :
    draft.records <+: further.records := by
  cases surpasses with
  | same equal => exact equal ▸ List.prefix_rfl
  | longer failed begins leads => exact begins

/-- What a drawing notes comes before what another notes beyond it. -/
theorem Surpasses.handed_begin {further draft : Draft (Traced σ)}
    (surpasses : Surpasses further draft) : draft.source.handed <+: further.source.handed := by
  cases surpasses with
  | same equal => exact equal ▸ List.prefix_rfl
  | longer failed begins leads => exact leads.handed_begin

/-- A drawing that succeeds is not surpassed. -/
theorem Surpasses.eq_of_ok {further draft : Draft σ} (surpasses : Surpasses further draft)
    (succeeded : draft.result = .ok ()) : further = draft := by
  cases surpasses with
  | same equal => exact equal
  | longer failed begins leads =>
    rw [succeeded] at failed
    cases failed

section More

variable {fewer more : Generator} (ordered : fewer.attempts ≤ more.attempts) (list : WordList)
include ordered

/-- A record is drawn in the same way with more draws for its first word, or fewer are used up and
the drawing goes on. -/
theorem drawRecord_of_more (source : σ) :
    more.drawRecord list source = fewer.drawRecord list source ∨
      ∃ cause middle, fewer.drawRecord list source = (.error (.error cause), middle) ∧
        LeadsTo middle (more.drawRecord list source).2 := by
  obtain ⟨others, enough⟩ := Nat.exists_eq_add_of_le ordered
  have goesOn := list.drawShort_add fewer.attempts more.attempts fewer.attempts others source
  rw [← enough] at goesOn
  rcases goesOn with same | ⟨cause, middle, failed, goesOn⟩
  · refine .inl ?_
    rw [drawRecord, drawRecord, same]
  · have second := more.drawShort_leadsTo_drawRecord list source
    rw [goesOn] at second
    have first := list.drawShort_leadsTo more.attempts others middle
    refine .inr ⟨cause, middle, ?_, first.trans second⟩
    rw [drawRecord, failed]

/-- More draws for each first word lead to the same records or to further ones. -/
theorem draft_of_more (count : Nat) (source : σ) :
    Surpasses (more.draft list count source) (fewer.draft list count source) := by
  induction count generalizing source with
  | zero => exact .same rfl
  | succ count ih =>
    rcases drawRecord_of_more ordered list source with same | ⟨cause, last, failed, leads⟩
    · rw [draft, draft, same]
      rcases fewer.drawRecord list source with ⟨failure | record, next⟩
      · exact .same rfl
      · cases ih next with
        | same equal =>
          refine .same ?_
          simp only [equal]
        | longer failed begins leads =>
          exact .longer failed ((List.prefix_cons_inj record).2 begins) leads
    · -- With fewer draws nothing comes behind this record, so nothing is left to compare.
      have ended : fewer.draft list (count + 1) source = ⟨[], .error (.error cause), last⟩ := by
        rw [draft, failed]
      rw [ended]
      exact .longer rfl List.nil_prefix
        (leads.trans (more.drawRecord_leadsTo_draft list count source))

/-- More draws for each first word lead to the same records of a budget or to further ones. -/
theorem draftFor_of_more (budget : UInt64) (source : σ) :
    Surpasses (more.draftFor list budget source) (fewer.draftFor list budget source) := by
  by_cases admitted : (recordCount budget).toNat = 0 ∨ list.hasShortWord
  · rw [draftFor_of_admitted admitted, draftFor_of_admitted admitted]
    exact draft_of_more ordered list _ source
  · rw [draftFor_of_refused admitted, draftFor_of_refused admitted]
    exact .same rfl

/-- Records that are returned when fewer draws are made are returned when more are made. -/
theorem generate_of_more {budget : UInt64} {source : σ} {records : List Record}
    (returned : (fewer.generate list budget source).result = .ok records) :
    (more.generate list budget source).result = .ok records ∧
      (more.generate list budget source).state = (fewer.generate list budget source).state := by
  obtain ⟨succeeded, drawn⟩ := generate_eq_ok_iff.1 returned
  have equal := (draftFor_of_more ordered list budget source).eq_of_ok succeeded
  rw [generate_eq_ok_iff, state_generate, state_generate, equal]
  exact ⟨⟨succeeded, drawn⟩, rfl⟩

/-- What is written when fewer draws are made is the beginning of what is written when more are
made. -/
theorem taken_writeTo_of_more {ω : Type} [ByteWriter ω] (intake : Intake ω) (budget : UInt64)
    (source : σ) {writer : ω} (willing : intake.Willing writer) :
    ∃ bytes rest,
      intake.taken (fewer.writeTo list budget source writer).state.2 =
        intake.taken writer ++ bytes ∧
      intake.taken (more.writeTo list budget source writer).state.2 =
        intake.taken writer ++ (bytes ++ rest) := by
  obtain ⟨rest, whole⟩ := (draftFor_of_more ordered list budget source).records_begin
  obtain ⟨_, wrote, taken, _⟩ := writeTo_eq_draftFor intake fewer list budget source willing
  obtain ⟨_, again, all, _⟩ := writeTo_eq_draftFor intake more list budget source willing
  rw [wrote, again]
  refine ⟨_, Record.concat rest, taken, ?_⟩
  rw [all, ← whole, Record.concat_append]

/-- The indices that are drawn when fewer draws are made are the first of those that are drawn when
more are made. -/
theorem handed_writeTo_of_more {ω : Type} [ByteWriter ω] (intake : Intake ω) (budget : UInt64)
    (source : σ) {writer : ω} (willing : intake.Willing writer) :
    (fewer.writeTo list budget (Traced.start source) writer).state.1.handed <+:
      (more.writeTo list budget (Traced.start source) writer).state.1.handed := by
  obtain ⟨_, wrote, _⟩ := writeTo_eq_draftFor intake fewer list budget (Traced.start source) willing
  obtain ⟨_, again, _⟩ := writeTo_eq_draftFor intake more list budget (Traced.start source) willing
  rw [wrote, again]
  exact (draftFor_of_more ordered list budget (Traced.start source)).handed_begin

end More

/-- An error of writing to a writer that takes everything is that no first word was found. -/
theorem cause_of_writeTo {ω : Type} [ByteWriter ω] (intake : Intake ω) {generator : Generator}
    {budget : UInt64} {source : σ} {writer : ω} (willing : intake.Willing writer) {cause : Error}
    (failed : (generator.writeTo list budget source writer).result = .error (.error cause)) :
    cause = .noQualifyingWord (if list.hasShortWord then generator.attempts else 0) := by
  obtain ⟨_, wrote, _⟩ := writeTo_eq_draftFor intake generator list budget source willing
  rw [wrote] at failed
  cases ended : (generator.draftFor list budget source).result with
  | ok =>
    rw [ended] at failed
    cases failed
  | error failure =>
    rw [ended] at failed
    cases failed
    exact cause_of_draftFor ended

/-- Tracing the source makes no difference to what is written. -/
theorem writeTo_traced {ω : Type} [ByteWriter ω] (generator : Generator) (list : WordList)
    (budget : UInt64) (source : σ) (writer : ω) :
    let outcome := generator.writeTo list budget source writer
    let traced := generator.writeTo list budget (Traced.start source) writer
    traced.result = outcome.result ∧ traced.state.1.source = outcome.state.1 := by
  obtain ⟨_, same⟩ := (generator.writeTo_depends list budget source writer).traced_eq
  obtain ⟨written, left⟩ := Prod.mk.inj same
  exact ⟨(Prod.mk.inj written).1, congrArg Traced.source left⟩

/-- Making more draws for a short word. Records that are returned when fewer draws are made are
returned as well when more are made, and the source is left in the same state. If fewer draws do not
suffice when the records are written, then what is written until then is the beginning of what is
written with more draws, and the indices that are drawn until then, as tracing the source shows, are
the first of those drawn with more. What is reported is that no attempt was made, with fewer draws
and with more, if the list has no short word. If it has one, what is reported is the number of draws
that are made for one word, and with more draws nothing but this can be reported. No draw counts as
one. -/
theorem more_attempts_go_on (list : WordList) (budget : UInt64) (source : σ) (fewer more : Nat)
    (ordered : max 1 fewer ≤ max 1 more) :
    (let outcome := (withAttempts fewer).generate list budget source
      let further := (withAttempts more).generate list budget source
      ∀ records, outcome.result = .ok records →
        further.result = .ok records ∧ further.state = outcome.state) ∧
      ∀ {ω : Type} [ByteWriter ω] (intake : Intake ω) (writer : ω), intake.Willing writer →
        let outcome := (withAttempts fewer).writeTo list budget source writer
        let further := (withAttempts more).writeTo list budget source writer
        let traced := (withAttempts fewer).writeTo list budget (Traced.start source) writer
        let tracedFurther := (withAttempts more).writeTo list budget (Traced.start source) writer
        ∀ reported, outcome.result = .error (.error (.noQualifyingWord reported)) →
          (∃ bytes rest, intake.taken outcome.state.2 = intake.taken writer ++ bytes ∧
            intake.taken further.state.2 = intake.taken writer ++ (bytes ++ rest)) ∧
          (traced.result = outcome.result ∧ traced.state.1.source = outcome.state.1) ∧
          (tracedFurther.result = further.result ∧
            tracedFurther.state.1.source = further.state.1) ∧
          traced.state.1.handed <+: tracedFurther.state.1.handed ∧
          ((∀ word ∈ list.toList, 16 ≤ word.length) →
            reported = 0 ∧ further.result = .error (.error (.noQualifyingWord 0))) ∧
          ((∃ word ∈ list.toList, word.length < 16) →
            reported = max 1 fewer ∧ ∀ cause, further.result = .error (.error cause) →
              cause = .noQualifyingWord (max 1 more)) := by
  refine ⟨fun records returned => generate_of_more ordered list returned, ?_⟩
  intro ω _ intake writer willing outcome further traced tracedFurther reported failed
  have given := Error.noQualifyingWord.inj (cause_of_writeTo intake willing failed)
  refine ⟨taken_writeTo_of_more ordered list intake budget source willing,
    writeTo_traced _ list budget source writer, writeTo_traced _ list budget source writer,
    handed_writeTo_of_more ordered list intake budget source willing, fun long => ?_,
    fun short => ?_⟩
  · rw [WordList.hasShortWord_eq_false_iff.2 long] at given
    have none : reported = 0 := given
    subst none
    -- The list is refused for the budget, whatever the number of draws.
    have fewerAnswers := writeTo_answers (withAttempts fewer) list budget source writer
    have moreAnswers := writeTo_answers (withAttempts more) list budget source writer
    exact ⟨rfl, moreAnswers.hopeless.2 (fewerAnswers.hopeless.1 failed)⟩
  · have short := WordList.hasShortWord_iff.2 short
    rw [if_pos short] at given
    refine ⟨given, fun cause again => ?_⟩
    have known := cause_of_writeTo intake willing again
    rwa [if_pos short] at known

/-- For the third record one draw does not suffice, and five do. What is written before comes
first. -/
theorem more_attempts_go_on_further :
    let list : WordList := ⟨#[List.replicate 17 97, [99, 97, 116]], by decide⟩
    let source := Replay.ofList [1, 0, 1, 1, 0, 0, 1, 1]
    let outcome := (withAttempts 0).writeTo list 96 source Device.unlimited
    let further := (withAttempts 5).writeTo list 96 source Device.unlimited
    max 1 0 ≤ max 1 5 ∧ outcome.result = .error (.error (.noQualifyingWord 1)) ∧
      further.result = .ok 96 ∧
      outcome.state.2.data.toList <+: further.state.2.data.toList := by
  intro list source outcome further
  have willing : Device.intake.Willing Device.unlimited := ⟨rfl, nofun, nofun⟩
  have broken : outcome.result = .error (.error (.noQualifyingWord 1)) := by cbv
  have done : further.result = .ok 96 := by cbv
  obtain ⟨⟨bytes, rest, taken, all⟩, _⟩ := (more_attempts_go_on list 96 source 0 5 (by decide)).2
    Device.intake Device.unlimited willing 1 broken
  have taken : outcome.state.2.data.toList = [] ++ bytes := taken
  have all : further.state.2.data.toList = [] ++ (bytes ++ rest) := all
  refine ⟨by decide, broken, done, ?_⟩
  rw [taken, all]
  exact List.prefix_append _ _

end Generator

end WordPairs
