import Mathlib.Algebra.BigOperators.Fin
import Mathlib.Data.Fintype.BigOperators
import Mathlib.Data.Set.Card
import Mathlib.Tactic.Ring
import WordPairs.Proofs.Generation.Blocks

/-!
# Pairs that are selected equally often

Which words a record is made of, and how many draws that takes, can be told from the indices that
are drawn: long words are rejected, the first short word stands first, and the draw behind it gives
the second word. Of all sequences of indices, equally many select each pair of a short word and any
word, whatever the number of draws that are rejected before.
-/

namespace WordPairs

/-- A source that hands out a list of indices, each once, and nothing behind them. -/
structure Script (size : Nat) where
  /-- The indices that are still to be handed out. -/
  rest : List (Fin size)

namespace Script

variable {size : Nat}

/-- The next index of the list. -/
def next : Script size → Except Fault (Nat × Script size)
  | ⟨[]⟩ => .error .exhausted
  | ⟨index :: rest⟩ => .ok (index.val, ⟨rest⟩)

instance : IndexSource (Script size) where
  next _ script := script.next

/-- A script hands out the indices at its front. -/
theorem hands (front rest : List (Fin size)) : Hands size (mk (front ++ rest)) front (mk rest) := by
  induction front with
  | nil => exact .nil _
  | cons index front ih => exact .cons rfl ih

end Script

namespace WordList

variable (list : WordList)

/-- The indices of the words that may stand first. -/
def shortIndices : Finset (Fin list.size) :=
  Finset.univ.filter fun index => isShort (list.wordAt index)

/-- The indices of the words that are rejected. -/
def longIndices : Finset (Fin list.size) :=
  Finset.univ.filter fun index => isShort (list.wordAt index) = false

variable {list}

/-- An index is one of those of short words if its word is short. -/
theorem mem_shortIndices {index : Fin list.size} :
    index ∈ list.shortIndices ↔ isShort (list.wordAt index) := by
  simp [shortIndices]

/-- An index is one of those of long words if its word is not short. -/
theorem mem_longIndices {index : Fin list.size} :
    index ∈ list.longIndices ↔ isShort (list.wordAt index) = false := by
  simp [longIndices]

/-- Every word of a list is short or long. -/
theorem card_longIndices : list.longIndices.card = list.size - list.shortIndices.card := by
  have split := Finset.card_filter_add_card_filter_not (s := Finset.univ)
    fun index : Fin list.size => isShort (list.wordAt index) = true
  rw [Finset.card_univ, Fintype.card_fin] at split
  simp only [Bool.not_eq_true] at split
  rw [longIndices, shortIndices]
  omega

/-! ## Drawing from a script -/

/-- An index of a script is drawn as the word at it. -/
theorem draw_script (index : Fin list.size) (rest : List (Fin list.size)) :
    list.draw (Script.mk (index :: rest)) = (.ok (list.wordAt index), .mk rest) :=
  draw_of_next rfl

/-- A short word is drawn from a script behind long words only, and while a draw is left. -/
theorem drawShort_script_eq_ok_iff {attempts left : Nat} {draws rest : List (Fin list.size)}
    {word : Word} :
    list.drawShort attempts left (Script.mk draws) = (.ok word, .mk rest) ↔
      ∃ rejected first, draws = rejected ++ first :: rest ∧
        (∀ index ∈ rejected, isShort (list.wordAt index) = false) ∧ rejected.length < left ∧
          isShort (list.wordAt first) ∧ list.wordAt first = word := by
  constructor
  · intro picked
    -- Each long word that is drawn uses up one of the draws left, and is the first of the rejected.
    induction left generalizing draws with
    | zero => cases picked
    | succ left ih =>
      cases draws with
      | nil => cases picked
      | cons index draws =>
        rw [drawShort, draw_script] at picked
        by_cases short : isShort (list.wordAt index)
        · simp only [short, if_true] at picked
          cases picked
          exact ⟨[], index, rfl, List.forall_mem_nil _, Nat.succ_pos left, short, rfl⟩
        · simp only [short] at picked
          obtain ⟨rejected, first, rfl, long, fewer, rest⟩ := ih picked
          refine ⟨index :: rejected, first, rfl, ?_, Nat.succ_lt_succ fewer, rest⟩
          exact List.forall_mem_cons.2 ⟨eq_false_of_ne_true short, long⟩
  · rintro ⟨rejected, first, rfl, long, fewer, short, rfl⟩
    obtain ⟨more, rfl⟩ : ∃ more, left = rejected.length + (more + 1) :=
      ⟨left - rejected.length - 1, by omega⟩
    have handed := Script.hands rejected (first :: rest)
    rw [drawShort_of_rejected handed long, drawShort, draw_script]
    simp only [short, if_true]

/-- No short word is drawn from a script whose front is made of as many long words as there are
draws. -/
theorem drawShort_script_eq_error_iff {attempts left : Nat} {draws rest : List (Fin list.size)}
    {cause : Error} :
    list.drawShort attempts left (Script.mk draws) = (.error (.error cause), .mk rest) ↔
      cause = .noQualifyingWord attempts ∧ ∃ rejected, draws = rejected ++ rest ∧
        (∀ index ∈ rejected, isShort (list.wordAt index) = false) ∧ rejected.length = left := by
  constructor
  · intro failed
    induction left generalizing draws with
    | zero =>
      cases failed
      exact ⟨rfl, [], rfl, List.forall_mem_nil _, rfl⟩
    | succ left ih =>
      cases draws with
      | nil => cases failed
      | cons index draws =>
        rw [drawShort, draw_script] at failed
        by_cases short : isShort (list.wordAt index)
        · simp only [short, if_true] at failed
          cases failed
        · simp only [short] at failed
          obtain ⟨told, rejected, rfl, long, all⟩ := ih failed
          refine ⟨told, index :: rejected, rfl, ?_, congrArg Nat.succ all⟩
          exact List.forall_mem_cons.2 ⟨eq_false_of_ne_true short, long⟩
  · rintro ⟨rfl, rejected, rfl, long, rfl⟩
    have handed := Script.hands rejected rest
    exact drawShort_of_rejected handed long attempts 0

end WordList

namespace Generator

/-- What the draws of a record select: so many are rejected, the next one gives the first word, the
one behind it the second, and no other is made. -/
structure Selects (generator : Generator) (list : WordList) (draws : List (Fin list.size))
    (rejected : Nat) (first second : Fin list.size) : Prop where
  /-- The short word is found behind the rejected draws. -/
  picked : list.drawShort generator.attempts generator.attempts (Script.mk draws) =
    (.ok (list.wordAt first), .mk (draws.drop (rejected + 1)))
  /-- The last draw made for the short word is that of the first index. -/
  accepted : draws[rejected]? = some first
  /-- The next draw is that of the second index. -/
  followed : draws[rejected + 1]? = some second
  /-- The record is made of the words at the two indices, and all other draws are left. -/
  ended : generator.drawRecord list (Script.mk draws) =
    (.ok (Record.encode (list.wordAt first) (list.wordAt second)), .mk (draws.drop (rejected + 2)))

section Selects

variable {generator : Generator} {list : WordList} {draws : List (Fin list.size)}
  {rejected : Nat} {first second : Fin list.size}

/-- Draws that begin with long words, a short word and any word select these two. -/
theorem selects_of_block (block : Block list generator.attempts) (rest : List (Fin list.size)) :
    generator.Selects list (block.indices ++ rest) block.rejected.length block.first
      block.second := by
  have whole : block.indices ++ rest = block.rejected ++ block.first :: block.second :: rest := by
    simp [Block.indices]
  have behindFirst : (block.indices ++ rest).drop (block.rejected.length + 1) =
      block.second :: rest := by
    rw [whole, List.drop_append, List.drop_of_length_le (by omega)]
    simp
  have behindSecond : (block.indices ++ rest).drop (block.rejected.length + 2) = rest := by
    rw [whole, List.drop_append, List.drop_of_length_le (by omega)]
    simp
  refine ⟨?_, ?_, ?_, ?_⟩
  · rw [behindFirst, WordList.drawShort_script_eq_ok_iff]
    exact ⟨block.rejected, block.first, whole, block.long, block.fewer, block.short, rfl⟩
  · rw [whole]
    simp
  · rw [whole]
    simp
  · rw [behindSecond]
    exact drawRecord_of_block block (Script.hands block.indices rest)

/-- Draws that select two words begin with the block of these. -/
theorem Selects.exists_block (selects : generator.Selects list draws rejected first second) :
    ∃ block : Block list generator.attempts, block.rejected.length = rejected ∧
      block.first = first ∧ block.second = second ∧
        draws = block.indices ++ draws.drop (rejected + 2) := by
  obtain ⟨front, other, split, long, fewer, short, _⟩ :=
    WordList.drawShort_script_eq_ok_iff.1 selects.picked
  obtain ⟨inside, known⟩ := List.getElem?_eq_some_iff.1 selects.accepted
  obtain ⟨further, next⟩ := List.getElem?_eq_some_iff.1 selects.followed
  have count : front.length = rejected := by
    have lengths := congrArg List.length split
    rw [List.length_append, List.length_cons, List.length_drop] at lengths
    omega
  have same : other = first := by
    have given := selects.accepted
    rw [split, ← count] at given
    simpa using given
  have behind : draws.drop (rejected + 1) = second :: draws.drop (rejected + 2) := by
    rw [List.drop_eq_getElem_cons further, next]
  subst same
  refine ⟨⟨front, other, second, long, fewer, short⟩, count, rfl, rfl, ?_⟩
  rw [behind] at split
  rw [Block.indices, List.append_assoc]
  exact split

/-- Which two words draws select can be told place by place. -/
theorem selects_iff : generator.Selects list draws rejected first second ↔
    rejected < generator.attempts ∧
      (∀ place < rejected, ∃ index ∈ list.longIndices, draws[place]? = some index) ∧
      first ∈ list.shortIndices ∧ draws[rejected]? = some first ∧
      draws[rejected + 1]? = some second := by
  constructor
  · intro selects
    obtain ⟨block, rfl, rfl, rfl, split⟩ := selects.exists_block
    refine ⟨block.fewer, fun place before => ?_, WordList.mem_shortIndices.2 block.short,
      selects.accepted, selects.followed⟩
    have member : block.rejected[place] ∈ block.rejected := List.getElem_mem before
    refine ⟨block.rejected[place], WordList.mem_longIndices.2 (block.long _ member), ?_⟩
    rw [split, Block.indices, List.append_assoc, List.getElem?_append_left before,
      List.getElem?_eq_getElem before]
  · rintro ⟨fewer, before, short, accepted, followed⟩
    obtain ⟨inside, known⟩ := List.getElem?_eq_some_iff.1 accepted
    obtain ⟨further, next⟩ := List.getElem?_eq_some_iff.1 followed
    have count : (draws.take rejected).length = rejected := by
      rw [List.length_take]
      omega
    have long : ∀ index ∈ draws.take rejected, isShort (list.wordAt index) = false := by
      intro index member
      obtain ⟨place, here, rfl⟩ := List.mem_take_iff_getElem.1 member
      obtain ⟨other, refused, same⟩ := before place (by omega)
      obtain ⟨_, same⟩ := List.getElem?_eq_some_iff.1 same
      rw [same]
      exact WordList.mem_longIndices.1 refused
    let block : Block list generator.attempts :=
      ⟨draws.take rejected, first, second, long, by omega, WordList.mem_shortIndices.1 short⟩
    have split : draws = block.indices ++ draws.drop (rejected + 2) := by
      have behind : draws.drop rejected = first :: second :: draws.drop (rejected + 2) := by
        rw [List.drop_eq_getElem_cons inside, known, List.drop_eq_getElem_cons further, next]
      have whole := List.take_append_drop rejected draws
      rw [behind] at whole
      rw [Block.indices, List.append_assoc]
      exact whole.symm
    have selects := selects_of_block block (draws.drop (rejected + 2))
    rw [← split] at selects
    simpa only [block, count] using selects

end Selects

end Generator

/-! ## Counting sequences of draws -/

namespace WordList

variable (list : WordList)

/-- The indices that may come at a place of the draws, where so many are rejected and the two behind
these are of given kinds. -/
def choices (rejected : Nat) (firsts seconds : Finset (Fin list.size)) (place : Nat) :
    Finset (Fin list.size) :=
  if place < rejected then list.longIndices
  else if place = rejected then firsts
  else if place = rejected + 1 then seconds
  else Finset.univ

/-- The choices at all places multiply. -/
theorem prod_card_choices (rejected more : Nat) (firsts seconds : Finset (Fin list.size)) :
    ∏ place : Fin (rejected + 2 + more), (list.choices rejected firsts seconds place).card =
      list.longIndices.card ^ rejected * (firsts.card * seconds.card) * list.size ^ more := by
  have front : ∀ place ∈ Finset.range rejected,
      (list.choices rejected firsts seconds place).card = list.longIndices.card := by
    intro place member
    rw [choices, if_pos (Finset.mem_range.1 member)]
  have back : ∀ place ∈ Finset.range more,
      (list.choices rejected firsts seconds (rejected + 2 + place)).card = list.size := by
    intro place _
    rw [choices, if_neg (by omega), if_neg (by omega), if_neg (by omega), Finset.card_univ,
      Fintype.card_fin]
  have pair : ∏ place ∈ Finset.range 2,
      (list.choices rejected firsts seconds (rejected + place)).card =
        firsts.card * seconds.card := by
    simp [Finset.prod_range_succ, choices]
  rw [Fin.prod_univ_eq_prod_range fun place => (list.choices rejected firsts seconds place).card,
    Finset.prod_range_add, Finset.prod_range_add, pair, Finset.prod_congr rfl front,
    Finset.prod_congr rfl back]
  simp only [Finset.prod_const, Finset.card_range]

end WordList

namespace Generator

variable {generator : Generator} {list : WordList} {rejected : Nat}

/-- Draws that select a word of one kind and a word of another are those with a choice at each
place. -/
theorem exists_selects_ofFn_iff (fewer : rejected < generator.attempts) (more : Nat)
    {firsts : Finset (Fin list.size)} (short : firsts ⊆ list.shortIndices)
    (seconds : Finset (Fin list.size)) (draws : Fin (rejected + 2 + more) → Fin list.size) :
    (∃ first ∈ firsts, ∃ second ∈ seconds,
        generator.Selects list (List.ofFn draws) rejected first second) ↔
      ∀ place : Fin (rejected + 2 + more),
        draws place ∈ list.choices rejected firsts seconds place := by
  have drawn (place : Fin (rejected + 2 + more)) :
      (List.ofFn draws)[place.val]? = some (draws place) := by
    rw [List.getElem?_ofFn, dif_pos place.isLt]
  constructor
  · rintro ⟨first, one, second, other, selects⟩ place
    obtain ⟨_, before, _, accepted, followed⟩ := selects_iff.1 selects
    have here := drawn place
    unfold WordList.choices
    split
    · next early =>
      obtain ⟨index, long, known⟩ := before place early
      rw [here, Option.some.injEq] at known
      rwa [known]
    · split
      · next found =>
        rw [found, accepted, Option.some.injEq] at here
        rwa [← here]
      · split
        · next behind =>
          rw [behind, followed, Option.some.injEq] at here
          rwa [← here]
        · exact Finset.mem_univ _
  · intro chosen
    have atFirst := chosen ⟨rejected, by omega⟩
    have atSecond := chosen ⟨rejected + 1, by omega⟩
    simp only [WordList.choices, Nat.lt_irrefl, if_false, if_true] at atFirst
    simp only [WordList.choices, Nat.not_succ_lt_self, Nat.succ_ne_self, if_false, if_true]
      at atSecond
    refine ⟨_, atFirst, _, atSecond, selects_iff.2 ⟨fewer, fun place before => ?_,
      short atFirst, drawn ⟨rejected, by omega⟩, drawn ⟨rejected + 1, by omega⟩⟩⟩
    have early := chosen ⟨place, by omega⟩
    rw [WordList.choices, if_pos before] at early
    exact ⟨_, early, drawn ⟨place, by omega⟩⟩

/-- How many sequences of draws select a word of one kind and a word of another. -/
theorem ncard_selects (fewer : rejected < generator.attempts) (more : Nat)
    {firsts : Finset (Fin list.size)} (short : firsts ⊆ list.shortIndices)
    (seconds : Finset (Fin list.size)) :
    {draws : Fin (rejected + 2 + more) → Fin list.size | ∃ first ∈ firsts, ∃ second ∈ seconds,
        generator.Selects list (List.ofFn draws) rejected first second}.ncard =
      list.longIndices.card ^ rejected * (firsts.card * seconds.card) * list.size ^ more := by
  have counted : {draws : Fin (rejected + 2 + more) → Fin list.size |
      ∃ first ∈ firsts, ∃ second ∈ seconds,
        generator.Selects list (List.ofFn draws) rejected first second} =
      (Fintype.piFinset fun place : Fin (rejected + 2 + more) =>
        list.choices rejected firsts seconds place : Finset _) := by
    ext draws
    rw [Set.mem_ofPred_eq, exists_selects_ofFn_iff fewer more short, Finset.mem_coe,
      Fintype.mem_piFinset]
  rw [counted, Set.ncard_coe_finset, Fintype.card_piFinset, list.prod_card_choices]

/-- A record lacks a first word if as many long words as there are draws come first. -/
theorem drawRecord_script_eq_error_iff {draws rest : List (Fin list.size)} :
    generator.drawRecord list (Script.mk draws) =
        (.error (.error (.noQualifyingWord generator.attempts)), .mk rest) ↔
      ∃ long, draws = long ++ rest ∧ (∀ index ∈ long, index ∈ list.longIndices) ∧
        long.length = generator.attempts := by
  simp only [WordList.mem_longIndices]
  constructor
  · intro failed
    rw [drawRecord] at failed
    split at failed
    · next failure last picked =>
      cases failed
      exact (WordList.drawShort_script_eq_error_iff.1 picked).2
    · split at failed <;> cases failed
  · rintro ⟨long, rfl, refused, all⟩
    exact drawRecord_of_rejected (Script.hands long rest) refused all

/-- How many sequences of draws lack a first word. -/
theorem ncard_rejected :
    {draws : Fin generator.attempts → Fin list.size |
      generator.drawRecord list (Script.mk (List.ofFn draws)) =
        (.error (.error (.noQualifyingWord generator.attempts)), .mk [])}.ncard =
      list.longIndices.card ^ generator.attempts := by
  have counted : {draws : Fin generator.attempts → Fin list.size |
      generator.drawRecord list (Script.mk (List.ofFn draws)) =
        (.error (.error (.noQualifyingWord generator.attempts)), .mk [])} =
      (Fintype.piFinset fun _ : Fin generator.attempts => list.longIndices : Finset _) := by
    ext draws
    rw [Set.mem_ofPred_eq, drawRecord_script_eq_error_iff, Finset.mem_coe, Fintype.mem_piFinset]
    simp only [List.append_nil]
    constructor
    · rintro ⟨long, rfl, refused, _⟩
      exact fun place => refused _ (List.mem_ofFn.2 ⟨place, rfl⟩)
    · intro refused
      refine ⟨_, rfl, ?_, List.length_ofFn⟩
      intro index member
      obtain ⟨place, rfl⟩ := List.mem_ofFn.1 member
      exact refused place
  rw [counted, Set.ncard_coe_finset, Fintype.card_piFinset_const]

/-- Of all sequences of draws, equally many select each pair of a short word and any word. The
number depends on how many draws are rejected, but not on the pair: the draws before it are those
of long words. Just the sequences of long words alone select nothing. So however many draws are
rejected, and however many indices come behind the draws of the record, the shares of the pairs are
all the same: short words of some kind and words of some kind are selected in proportion to the
number of such pairs. The draws tell all, whatever source hands them out. -/
theorem selection_unbiased (generator : Generator) (list : WordList) :
    let long := list.size - list.shortIndices.card
    (∀ rejected < generator.attempts, ∀ first ∈ list.shortIndices, ∀ second,
      {draws : Fin (rejected + 2) → Fin list.size |
        generator.Selects list (List.ofFn draws) rejected first second}.ncard = long ^ rejected) ∧
    {draws : Fin generator.attempts → Fin list.size |
      generator.drawRecord list (Script.mk (List.ofFn draws)) =
        (.error (.error (.noQualifyingWord generator.attempts)), .mk [])}.ncard =
      long ^ generator.attempts ∧
    (∀ rejected < generator.attempts, ∀ more, ∀ firsts ⊆ list.shortIndices,
      ∀ seconds : Finset (Fin list.size),
      {draws : Fin (rejected + 2 + more) → Fin list.size | ∃ first ∈ firsts, ∃ second ∈ seconds,
          generator.Selects list (List.ofFn draws) rejected first second}.ncard *
        (list.shortIndices.card * list.size) =
      firsts.card * seconds.card *
        {draws : Fin (rejected + 2 + more) → Fin list.size | ∃ first second,
          generator.Selects list (List.ofFn draws) rejected first second}.ncard) ∧
    (∀ draws rejected first second, generator.Selects list draws rejected first second →
      ∀ {σ : Type} [IndexSource σ] (source last : σ),
        Hands list.size source (draws.take (rejected + 2)) last →
          generator.drawRecord list source =
            (.ok (Record.encode (list.wordAt first) (list.wordAt second)), last)) := by
  intro long
  have rejections : list.longIndices.card = long := WordList.card_longIndices
  refine ⟨?_, ?_, ?_, ?_⟩
  · intro rejected fewer first short second
    have one : {first} ⊆ list.shortIndices := Finset.singleton_subset_iff.2 short
    have count := ncard_selects fewer 0 one {second}
    simp only [Finset.mem_singleton, exists_eq_left, Finset.card_singleton, Nat.mul_one, pow_zero]
      at count
    rw [← rejections]
    exact count
  · rw [← rejections]
    exact ncard_rejected
  · intro rejected fewer more firsts short seconds
    have total := ncard_selects fewer more (Finset.Subset.refl list.shortIndices) Finset.univ
    have everything : {draws : Fin (rejected + 2 + more) → Fin list.size | ∃ first second,
        generator.Selects list (List.ofFn draws) rejected first second} =
        {draws | ∃ first ∈ list.shortIndices, ∃ second ∈ Finset.univ,
          generator.Selects list (List.ofFn draws) rejected first second} := by
      ext draws
      constructor
      · rintro ⟨first, second, selects⟩
        exact ⟨first, (selects_iff.1 selects).2.2.1, second, Finset.mem_univ _, selects⟩
      · rintro ⟨first, _, second, _, selects⟩
        exact ⟨first, second, selects⟩
    rw [everything, total, ncard_selects fewer more short seconds, Finset.card_univ,
      Fintype.card_fin]
    ring
  · intro draws rejected first second selects σ _ source last handed
    obtain ⟨block, rfl, rfl, rfl, split⟩ := selects.exists_block
    have taken : draws.take (block.rejected.length + 2) = block.indices := by
      have count : block.indices.length = block.rejected.length + 2 := by simp [Block.indices]
      rw [split, ← count, List.take_left]
    rw [taken] at handed
    exact drawRecord_of_block block handed

/-- Of three words one is short. When two draws are made for it, one of which is rejected, two of
the sequences of three draws select the short word and the first of the long ones, and four of the
sequences of two draws select nothing. -/
theorem selection_unbiased_among_three :
    let list : WordList := ⟨#[List.replicate 17 97, [99, 97, 116], List.replicate 16 98], by decide⟩
    let generator := withAttempts 2
    let cat : Fin list.size := ⟨1, by decide⟩
    let other : Fin list.size := ⟨0, by decide⟩
    1 < generator.attempts ∧ cat ∈ list.shortIndices ∧
      {draws : Fin 3 → Fin list.size |
        generator.Selects list (List.ofFn draws) 1 cat other}.ncard = 2 ∧
      {draws : Fin 2 → Fin list.size | generator.drawRecord list (Script.mk (List.ofFn draws)) =
        (.error (.error (.noQualifyingWord 2)), .mk [])}.ncard = 4 := by
  intro list generator cat other
  have fewer : 1 < generator.attempts := by decide
  have short : cat ∈ list.shortIndices := by decide
  have long : list.size - list.shortIndices.card = 2 := by decide
  obtain ⟨selected, rejected, _⟩ := selection_unbiased generator list
  rw [long] at selected rejected
  exact ⟨fewer, short, selected 1 fewer cat short other, rejected⟩

end Generator

end WordPairs
