import WordPairs.Proofs.Draw.Ranges

/-!
# Copies of a replay

A replay can be copied at any time, and every copy can be asked and copied again, in any order. What
a copy answers is decided by the calls on the way to it: its own and, before it was made, those of
the replay that it is a copy of. One replay alone would answer these calls in the same way. An index
is the value whose turn it is behind the draws that were answered, and a call that is refused takes
no turn.
-/

namespace WordPairs.Replay

open Word64

/-- The steps of a call in their order, on a replay that each of them may change. A step that fails
leaves what the steps before it have made of the replay. -/
def call (length : Nat) : ExceptT Fault (StateM Replay) Nat := do
  if length = 0 then throw .emptyReplay
  let replay ← get
  let drawn ← ofExcept (Word64.add replay.drawn 1)
  set { replay with drawn }
  return replay.current length

/-- What a replay answers to a call, and what the call leaves of it. -/
def ask (replay : Replay) (length : Nat) : Except Fault Nat × Replay := (call length).run.run replay

/-- A call in steps answers as a draw does and leaves the replay behind the draw. If it is refused
it leaves the replay as it was, since all that can be refused comes before the change. -/
theorem ask_eq (replay : Replay) (length : Nat) :
    replay.ask length = match next length replay with
      | .ok (index, successor) => (.ok index, successor)
      | .error cause => (.error cause, replay) := by
  rw [next]
  by_cases empty : length = 0
  · rw [if_pos empty, empty]
    rfl
  · rw [if_neg empty, ask, call, if_neg empty]
    -- What is left to be refused is the sum, which is the same for both.
    show ((do
      let drawn ← ofExcept (Word64.add replay.drawn 1)
      set { replay with drawn }
      return replay.current length : ExceptT Fault (StateM Replay) Nat).run.run replay) = _
    cases Word64.add replay.drawn 1 with
    | error cause => rfl
    | ok drawn => rfl

/-- A call is refused because the range is empty, or gives the value whose turn it is and is
counted, or is refused because it cannot be counted. What is refused changes nothing. -/
theorem ask_cases (replay : Replay) (length : Nat) :
    length = 0 ∧ replay.ask length = (.error .emptyReplay, replay) ∨
      0 < length ∧ replay.drawn.toNat + 1 < modulus ∧ replay.ask length =
        (.ok (replay.current length), { replay with drawn := replay.drawn + 1 }) ∨
      0 < length ∧ modulus ≤ replay.drawn.toNat + 1 ∧
        replay.ask length = (.error .overflow, replay) := by
  rw [ask_eq]
  by_cases empty : length = 0
  · apply Or.inl
    rw [empty]
    exact ⟨rfl, rfl⟩
  · have positive : 0 < length := Nat.pos_of_ne_zero empty
    apply Or.inr
    by_cases room : replay.drawn.toNat + 1 < modulus
    · rw [next_of_lt positive room]
      exact .inl ⟨positive, room, rfl⟩
    · have full : modulus ≤ replay.drawn.toNat + 1 := Nat.le_of_not_lt room
      rw [next_of_full positive full]
      exact .inr ⟨positive, full, rfl⟩

/-- A draw is a call in steps. -/
theorem next_eq_ask (length : Nat) (replay : Replay) :
    next length replay =
      (replay.ask length).1.map fun index => (index, (replay.ask length).2) := by
  rw [ask_eq]
  cases next length replay with
  | error cause => rfl
  | ok drawn => rfl

/-- The value whose turn it is, found in the list of values. -/
theorem current_eq (replay : Replay) (length : Nat) :
    replay.current length =
      replay.values.toList.getD (replay.drawn.toNat % replay.values.size) 0 % length := by
  rw [current, List.getD_eq_getElem?_getD, Array.getElem?_toList]
  cases replay.values[replay.drawn.toNat % replay.values.size]? with
  | none => exact (Nat.zero_mod length).symm
  | some value => rfl

/-- A call of a replay. -/
structure Call where
  /-- An index was asked for below this length. -/
  length : Nat
  /-- The index, or the fault with which the call was refused. -/
  answer : Except Fault Nat
  deriving DecidableEq

/-- How many calls were answered with an index. -/
def answered (calls : List Call) : Nat := calls.countP (·.answer.isOk)

/-- A call behind so many draws is answered in turn. -/
structure Call.InTurn (values : List Nat) (turn : Nat) (call : Call) : Prop where
  /-- Nothing is drawn from an empty range. -/
  refused : call.length = 0 → call.answer = .error .emptyReplay
  /-- A draw that can still be counted gives the value whose turn it is when the values are gone
  through again and again, reduced to the length. Without values it gives zero. -/
  drawn : 0 < call.length → turn + 1 < 2 ^ 64 →
    call.answer = .ok (values.getD (turn % values.length) 0 % call.length)

/-- A replay and the calls that were made of it. -/
structure Noted where
  /-- The calls in the order in which they were made. -/
  calls : List Call
  /-- The replay behind these calls. -/
  replay : Replay

/-- One more call, which is noted. -/
def Noted.ask (noted : Noted) (length : Nat) : Noted :=
  let asked := noted.replay.ask length
  ⟨noted.calls ++ [⟨length, asked.1⟩], asked.2⟩

/-- One replay of some values that is asked for indices below some lengths. -/
def alone (values lengths : List Nat) : Noted := lengths.foldl Noted.ask ⟨[], ofList values⟩

/-- One more length is one more call. -/
theorem alone_concat (values lengths : List Nat) (length : Nat) :
    alone values (lengths ++ [length]) = (alone values lengths).ask length := by
  rw [alone, List.foldl_append]
  rfl

/-- A replay has answered its calls in turn, and has counted those with an index. -/
structure Noted.InTurn (values : List Nat) (noted : Noted) : Prop where
  /-- The values are those at the beginning. -/
  same : noted.replay.values = values.toArray
  /-- Each draw is counted, and nothing else. -/
  drawn : noted.replay.drawn.toNat = answered noted.calls
  /-- Each call was answered behind the draws before it. -/
  calls : ∀ earlier call later, noted.calls = earlier ++ call :: later →
    call.InTurn values (answered earlier)

/-- One more call is counted if it is answered with an index. -/
theorem answered_concat (calls : List Call) (call : Call) :
    answered (calls ++ [call]) = answered calls + if call.answer.isOk then 1 else 0 := by
  rw [answered, List.countP_append, List.countP_singleton]
  rfl

namespace Noted.InTurn

variable {values : List Nat} {noted : Noted}

/-- A replay of which nothing was asked is in turn. -/
theorem start (values : List Nat) : InTurn values ⟨[], ofList values⟩ where
  same := rfl
  drawn := rfl
  calls := by
    intro earlier call later split
    exact absurd split.symm (List.append_ne_nil_of_right_ne_nil _ (List.cons_ne_nil _ _))

/-- A replay in turn answers the next call in turn. -/
theorem answer (inTurn : noted.InTurn values) (length : Nat) :
    Call.InTurn values (answered noted.calls) ⟨length, (noted.replay.ask length).1⟩ := by
  have turn := inTurn.drawn
  have size : noted.replay.values.size = values.length := by
    rw [inTurn.same, List.size_toArray]
  rcases ask_cases noted.replay length with ⟨empty, asked⟩ | ⟨positive, room, asked⟩ |
    ⟨positive, full, asked⟩
  · rw [asked]
    exact ⟨fun _ => rfl, fun positive => absurd empty (Nat.ne_of_gt positive)⟩
  · rw [asked, current_eq, turn, size, inTurn.same]
    exact ⟨fun empty => absurd empty (Nat.ne_of_gt positive), fun _ _ => rfl⟩
  · have uncounted : ¬answered noted.calls + 1 < 2 ^ 64 := by
      rw [← turn]
      exact Nat.not_lt.2 full
    exact ⟨fun empty => absurd empty (Nat.ne_of_gt positive),
      fun _ counted => absurd counted uncounted⟩

/-- A replay in turn counts the next call if it answers with an index, and keeps its values. -/
theorem count (inTurn : noted.InTurn values) (length : Nat) :
    (noted.ask length).replay.values = values.toArray ∧
      (noted.ask length).replay.drawn.toNat = answered (noted.ask length).calls := by
  rw [Noted.ask, answered_concat, ← inTurn.drawn]
  rcases ask_cases noted.replay length with ⟨_, asked⟩ | ⟨_, room, asked⟩ | ⟨_, _, asked⟩
  · rw [asked]
    exact ⟨inTurn.same, rfl⟩
  · rw [asked]
    have sum : (noted.replay.drawn + 1).toNat = noted.replay.drawn.toNat + 1 :=
      toNat_of_add (add_of_lt room)
    exact ⟨inTurn.same, sum⟩
  · rw [asked]
    exact ⟨inTurn.same, rfl⟩

/-- A replay in turn is in turn behind the next call. -/
theorem ask (inTurn : noted.InTurn values) (length : Nat) : (noted.ask length).InTurn values := by
  obtain ⟨same, drawn⟩ := inTurn.count length
  refine ⟨same, drawn, fun earlier call later split => ?_⟩
  -- The call is the one that was just made, or it was made before.
  rcases List.eq_nil_or_concat later with rfl | ⟨front, last, rfl⟩
  · obtain ⟨rfl, rfl⟩ := List.append_singleton_inj.1 split
    exact inTurn.answer length
  · rw [List.concat_eq_append, ← List.cons_append, ← List.append_assoc] at split
    obtain ⟨before, -⟩ := List.append_singleton_inj.1 split
    exact inTurn.calls earlier call front before

/-- A replay in turn is in turn behind any calls. -/
theorem foldl_ask (inTurn : noted.InTurn values) (lengths : List Nat) :
    (lengths.foldl Noted.ask noted).InTurn values := by
  induction lengths generalizing noted with
  | nil => exact inTurn
  | cons length rest ih => exact ih (inTurn.ask length)

end Noted.InTurn

/-- What was done with the copies of a replay, of which there are so many in the end. A copy is
known by its number in the order in which they were made. -/
inductive History : Nat → Type where
  /-- There is the replay that was made of the values. -/
  | start : History 1
  /-- A copy was asked for an index below a length. -/
  | ask {size : Nat} (before : History size) (copy : Fin size) (length : Nat) : History size
  /-- One more copy was made of a copy. -/
  | duplicate {size : Nat} (before : History size) (copy : Fin size) : History (size + 1)

namespace History

variable {size : Nat}

/-- The copies that are there in the end. -/
def run (values : List Nat) {size : Nat} : History size → Vector Replay size
  | start => #v[ofList values]
  | ask before copy length =>
    let copies := before.run values
    copies.set copy (copies[copy].ask length).2
  | duplicate before copy =>
    let copies := before.run values
    copies.push copies[copy]

/-- The calls on the way to a copy, in order: its own and, before it was made, those on the way to
the one that it was made of. -/
def way (values : List Nat) {size : Nat} : History size → Fin size → List Call
  | start, _ => []
  | ask before copy length, other =>
    if other = copy then
      before.way values copy ++ [⟨length, ((before.run values)[copy].ask length).1⟩]
    else before.way values other
  | duplicate before copy, other => Fin.lastCases (before.way values copy) (before.way values) other

section Steps

variable (values : List Nat) (history : History size)

/-- A call leaves of the copy what it leaves of the replay that the copy is. -/
theorem run_ask_self (copy : Fin size) (length : Nat) :
    ((history.ask copy length).run values)[copy] =
      ((history.run values)[copy].ask length).2 := by
  rw [run]
  exact Vector.getElem_set_self copy.isLt

/-- A call does not show in another copy. -/
theorem run_ask_of_ne {copy other : Fin size} (distinct : other ≠ copy) (length : Nat) :
    ((history.ask other length).run values)[copy] = (history.run values)[copy] := by
  rw [run]
  exact Vector.getElem_set_ne other.isLt copy.isLt (Fin.val_ne_of_ne distinct)

/-- A call that asks for an index below zero changes no copy. -/
theorem run_ask_zero (copy : Fin size) :
    (history.ask copy 0).run values = history.run values := by
  have refused : (history.run values)[copy].ask 0 =
      (.error .emptyReplay, (history.run values)[copy]) := rfl
  rw [run, refused]
  exact Vector.set_getElem_self copy.isLt

/-- A new copy is what it was made of. -/
theorem run_duplicate_last (copy : Fin size) :
    ((history.duplicate copy).run values)[Fin.last size] = (history.run values)[copy] := by
  rw [run]
  exact Vector.getElem_push_last

/-- When a new copy is made, those that were there before stay as they are. -/
theorem run_duplicate_castSucc (other copy : Fin size) :
    ((history.duplicate other).run values)[copy.castSucc] = (history.run values)[copy] := by
  rw [run]
  exact Vector.getElem_push_lt copy.isLt

end Steps

/-- A copy is what one replay alone would be that was asked what was asked on the way to the copy,
and the answers on the way are those that it would have given. -/
theorem alone_way (values : List Nat) (history : History size) (copy : Fin size) :
    alone values ((history.way values copy).map Call.length) =
      ⟨history.way values copy, (history.run values)[copy]⟩ := by
  induction history with
  | start =>
    have only : copy = 0 := Subsingleton.elim copy 0
    rw [only]
    rfl
  | ask before asked length ih =>
    by_cases same : copy = asked
    · rw [same, way, if_pos rfl, List.map_append, List.map_singleton, alone_concat, ih asked,
        run_ask_self]
      rfl
    · rw [way, if_neg same, ih copy, run_ask_of_ne values before (Ne.symm same)]
  | duplicate before source ih =>
    induction copy using Fin.lastCases with
    | last => rw [way, Fin.lastCases_last, ih source, run_duplicate_last]
    | cast copy => rw [way, Fin.lastCases_castSucc, ih copy, run_duplicate_castSucc]

end History

/-- Copies of a replay answer in turn, each for itself. Whatever was asked of which copies, and
whenever these were made, a call on the way to a copy is refused if it asks for an index below zero.
Otherwise it gives the value whose turn it is behind the draws that were answered on the way,
reduced to the length, as long as these can be counted; and the copy has counted just these. A call
is the draw that a source makes. A refused one changes nothing, a call of another copy does not
show, and a new copy is what it was made of while the others stay as they are. So two copies of any
two histories that were asked the same on the way to them have answered the same and are the
same. -/
theorem copies_answer_in_turn (values : List Nat) {size : Nat} (history : History size)
    (copy : Fin size) :
    let replay := (history.run values)[copy]
    let way := history.way values copy
    (∀ earlier call later, way = earlier ++ call :: later →
        call.InTurn values (answered earlier)) ∧
      replay.drawn.toNat = answered way ∧
      (∀ length, IndexSource.next length replay =
        (replay.ask length).1.map fun index => (index, (replay.ask length).2)) ∧
      (history.ask copy 0).run values = history.run values ∧
      (∀ other length, other ≠ copy → ((history.ask other length).run values)[copy] = replay) ∧
      (∀ other, ((history.duplicate other).run values)[copy.castSucc] = replay) ∧
      ((history.duplicate copy).run values)[Fin.last size] = replay ∧
      ∀ {count : Nat} (other : History count) (twin : Fin count),
        (other.way values twin).map Call.length = way.map Call.length →
          other.way values twin = way ∧ (other.run values)[twin] = replay := by
  intro replay way
  have copied : alone values (way.map Call.length) = ⟨way, replay⟩ := history.alone_way values copy
  have inTurn : Noted.InTurn values ⟨way, replay⟩ := by
    rw [← copied]
    exact (Noted.InTurn.start values).foldl_ask _
  refine ⟨inTurn.calls, inTurn.drawn, fun length => next_eq_ask length replay,
    history.run_ask_zero values copy, fun other length distinct => ?_, fun other => ?_,
    history.run_duplicate_last values copy, fun other twin same => ?_⟩
  · exact history.run_ask_of_ne values distinct length
  · exact history.run_duplicate_castSucc values other copy
  · have alike := other.alone_way values twin
    rw [same, copied] at alike
    obtain ⟨ways, replays⟩ := Noted.mk.inj alike
    exact ⟨ways.symm, replays.symm⟩

/-- Two copies take turns. The second one is refused an index below zero and begins again with the
first value behind the last, and the draw of the first one in between does not show. -/
theorem copies_answer_in_turn_crossed :
    let parted : History 2 := (((History.start.ask 0 4).duplicate 0).ask 1 0).ask 1 3
    let history : History 2 := ((parted.ask 0 5).ask 1 7).ask 1 4
    let earlier : List Call := [⟨4, .ok 1⟩, ⟨0, .error .emptyReplay⟩, ⟨3, .ok 2⟩, ⟨7, .ok 2⟩]
    let last : Call := ⟨4, .ok 1⟩
    history.way [5, 8, 2] 1 = earlier ++ [last] ∧ last.InTurn [5, 8, 2] 3 ∧
      (history.run [5, 8, 2])[1].drawn.toNat = 4 ∧ (history.run [5, 8, 2])[0].drawn.toNat = 2 := by
  intro parted history earlier last
  have calls : history.way [5, 8, 2] 1 = earlier ++ [last] := by decide
  obtain ⟨inTurn, second, _⟩ := copies_answer_in_turn [5, 8, 2] history 1
  obtain ⟨_, first, _⟩ := copies_answer_in_turn [5, 8, 2] history 0
  refine ⟨calls, inTurn earlier last [] calls, second.trans ?_, first.trans ?_⟩
  · rw [calls]
    decide
  · decide

end WordPairs.Replay
