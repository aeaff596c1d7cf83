import WordPairs.Draw.Replay
import WordPairs.Draw.Zone
import WordPairs.Proofs.Draw.Interval
import WordPairs.Proofs.Draw.Unbiased

/-!
# Draws stay in range

Where there is something to draw, a draw has only two endings: a result in the range that was asked
for, or no result at all, when the generator shows no word that is accepted. No sum, difference or
product on the way leaves the 64-bit words. A replay ends in a result as well, unless its draws can
no longer be counted.
-/

namespace WordPairs

/-- A word of an interval is its least one and less than the number of its words, and the sum is a
word. -/
theorem Bound.Counts.sum_lt {stop : Bound} {least width offset : UInt64}
    (counts : stop.Counts least width) (inside : offset < width) :
    least.toNat + offset.toNat < Word64.modulus :=
  Nat.lt_of_lt_of_le (Nat.add_lt_add_left inside _) counts.inside

/-- The least word of an interval and less than the number of its words is a word of the
interval. -/
theorem Bound.Counts.admits_sum {start stop : Bound} {width offset : UInt64}
    (counts : stop.Counts start.least width) (held : ∃ word, admits start stop word)
    (inside : offset < width) : admits start stop (start.least + offset) := by
  have sum := Word64.toNat_of_add (Word64.add_of_lt (counts.sum_lt inside))
  have inside : offset.toNat < width.toNat := inside
  obtain ⟨above, below⟩ := (counts.admits_iff (start.least + offset)).2 (by omega)
  have first := (Bool.and_eq_true_iff.1 (admits_least_iff.2 held)).1
  exact Bool.and_eq_true_iff.2 ⟨admitsFrom_iff.2 ⟨first, above⟩, below⟩

section Generators

variable {γ : Type} [BitSource γ]

/-- Drawing until a word is accepted gives what is made of such a word, or every word was
refused. -/
theorem drawUntil_cases (accept : UInt64 → Option UInt64) (turns : Nat) (generator : γ) :
    (∃ word value next, accept word = some value ∧
      drawUntil accept turns generator = .ok (value, next)) ∨
      drawUntil accept turns generator = .error .exhausted := by
  induction turns generalizing generator with
  | zero => exact .inr rfl
  | succ turns ih =>
    rw [drawUntil]
    cases accepted : accept (BitSource.draw generator).1 with
    | some value => exact .inl ⟨_, value, _, accepted, rfl⟩
    | none => exact ih (BitSource.draw generator).2

/-- Drawing until a word is accepted ends with the first such word, if that one may be drawn. -/
theorem drawUntil_of_words {accept : UInt64 → Option UInt64} {states : Nat → γ}
    {words : Nat → UInt64} {value : UInt64} {count left : Nat}
    (draws : ∀ place, BitSource.draw (states place) = (words place, states (place + 1)))
    (inside : count < left) (refused : ∀ earlier < count, accept (words earlier) = none)
    (accepted : accept (words count) = some value) :
    drawUntil accept left (states 0) = .ok (value, states (count + 1)) := by
  induction count generalizing states words left with
  | zero =>
    obtain ⟨fewer, rfl⟩ := Nat.exists_eq_succ_of_ne_zero (Nat.ne_of_gt inside)
    rw [drawUntil, draws]
    simp only [accepted]
  | succ count ih =>
    obtain ⟨fewer, rfl⟩ := Nat.exists_eq_succ_of_ne_zero (Nat.ne_of_gt (Nat.zero_lt_of_lt inside))
    have first := refused 0 (Nat.succ_pos count)
    have further := ih (fun place => draws (place + 1)) (Nat.lt_of_succ_lt_succ inside)
      (fun earlier before => refused (earlier + 1) (Nat.succ_lt_succ before)) accepted
    rw [drawUntil, draws]
    simp only [first]
    exact further

namespace Uniform

/-- A draw below a width that is not zero gives a word below it, or every word was refused. -/
theorem below_cases {width : UInt64} (positive : 0 < width) (generator : γ) :
    (∃ value next, below width generator = .ok (value, next) ∧ value < width) ∨
      below width generator = .error .exhausted := by
  rw [below_of_pos positive, drawAccepted]
  rcases drawUntil_cases (reduce? width) (BitSource.turn generator) generator with
    ⟨word, value, next, accepted, drawn⟩ | refused
  · exact .inl ⟨value, next, drawn, lt_of_reduce? positive accepted⟩
  · exact .inr refused

/-- A word of an interval that holds all words is the next draw. A word of any other interval that
is not empty is the least one and a draw below the number of its words. -/
theorem between_eq {start stop : Bound} (held : ∃ word, Bound.admits start stop word)
    (generator : γ) :
    ((∀ word, Bound.admits start stop word) ∧ stop.width start.least = .ok none ∧
      between start stop generator = .ok (BitSource.draw generator)) ∨
      ∃ width, stop.Counts start.least width ∧
        between start stop generator =
          (below width generator).map fun drawn => (start.least + drawn.1, drawn.2) := by
  rw [between, if_pos (Bound.admits_least_iff.2 held)]
  rcases Bound.all_or_counts held with ⟨all, none⟩ | ⟨width, counts⟩
  · exact .inl ⟨all, none, by rw [none]; rfl⟩
  · refine .inr ⟨width, counts, ?_⟩
    rw [counts.computed]
    show (below width generator >>= fun drawn => do
      return (← Word64.add start.least drawn.1, drawn.2)) = _
    rcases below_cases counts.positive generator with ⟨offset, next, drawn, inside⟩ | refused
    · rw [drawn]
      show (Word64.add start.least offset >>= _) = _
      rw [Word64.add_of_lt (counts.sum_lt inside)]
      rfl
    · rw [refused]
      rfl

/-- A draw from an interval that is not empty gives one of its words, or every word was refused. -/
theorem between_cases {start stop : Bound} (held : ∃ word, Bound.admits start stop word)
    (generator : γ) :
    (∃ word next, between start stop generator = .ok (word, next) ∧
      Bound.admits start stop word) ∨
      between start stop generator = .error .exhausted := by
  rcases between_eq held generator with ⟨all, _, drawn⟩ | ⟨width, counts, drawn⟩
  · exact .inl ⟨_, _, drawn, all _⟩
  · rw [drawn]
    rcases below_cases counts.positive generator with ⟨offset, next, below, inside⟩ | refused
    · rw [below]
      exact .inl ⟨_, next, rfl, counts.admits_sum held inside⟩
    · rw [refused]
      exact .inr rfl

/-- The words in front of a length that is not zero are an interval with a word. -/
theorem exists_admits {length : Nat} (positive : 0 < length) (fits : length < Word64.modulus) :
    ∃ word, Bound.admits (.included 0) (.excluded (UInt64.ofNat length)) word := by
  have value : (UInt64.ofNat length).toNat = length := UInt64.toNat_ofNat_of_lt' fits
  refine ⟨0, Bool.and_eq_true_iff.2 ⟨decide_eq_true (UInt64.le_refl 0), decide_eq_true ?_⟩⟩
  rw [UInt64.lt_iff_toNat_lt, value]
  exact positive

/-- A draw below a length that is not zero gives an index below it, or every word was refused. -/
theorem next_cases {length : Nat} (positive : 0 < length) (fits : length < Word64.modulus)
    (generator : γ) :
    (∃ index successor, next length generator = .ok (index, successor) ∧ index < length) ∨
      next length generator = .error .exhausted := by
  have value : (UInt64.ofNat length).toNat = length := UInt64.toNat_ofNat_of_lt' fits
  rw [next, Word64.ofNat_of_lt fits]
  show (∃ index successor, (between _ _ generator >>= _) = Except.ok (index, successor) ∧ _) ∨
    (between _ _ generator >>= _) = Except.error Fault.exhausted
  rcases between_cases (exists_admits positive fits) generator with
    ⟨word, successor, drawn, admitted⟩ | refused
  · have below := of_decide_eq_true (Bool.and_eq_true_iff.1 admitted).2
    rw [UInt64.lt_iff_toNat_lt, value] at below
    rw [drawn]
    exact .inl ⟨word.toNat, successor, rfl, below⟩
  · rw [refused]
    exact .inr rfl

end Uniform

namespace Zone

/-- A draw that lies in the zone gives a word below the length. -/
theorem lt_of_reduce? {length word result : UInt64} (positive : 0 < length)
    (accepted : reduce? length word = some result) : result < length := by
  rw [reduce?, Option.ite_none_right_eq_some] at accepted
  rw [← Option.some.inj accepted.2]
  exact Word64.high_lt positive word

/-- Below a length that is not zero a sampler draws until a word is accepted. -/
theorem next_eq {length : Nat} (positive : 0 < length) (fits : length < Word64.modulus)
    (zone : Zone γ) :
    next length zone = (drawAccepted (reduce? (UInt64.ofNat length)) zone.generator).map
      fun drawn => (drawn.1.toNat, ⟨drawn.2⟩) := by
  rw [next, if_neg (Nat.ne_of_gt positive), Word64.ofNat_of_lt fits]
  show (drawAccepted _ zone.generator >>= _) = _
  cases drawAccepted (reduce? (UInt64.ofNat length)) zone.generator <;> rfl

/-- A sampler that is asked for an index below a length that is not zero gives one, or every word
lay outside of the zone. -/
theorem next_cases {length : Nat} (positive : 0 < length) (fits : length < Word64.modulus)
    (zone : Zone γ) :
    (∃ index successor, next length zone = .ok (index, successor) ∧ index < length) ∨
      next length zone = .error .exhausted := by
  have value : (UInt64.ofNat length).toNat = length := UInt64.toNat_ofNat_of_lt' fits
  have above : 0 < UInt64.ofNat length := by
    rw [UInt64.lt_iff_toNat_lt, value]
    exact positive
  rw [next_eq positive fits, drawAccepted]
  rcases drawUntil_cases (reduce? (UInt64.ofNat length)) (BitSource.turn zone.generator)
    zone.generator with ⟨word, result, successor, accepted, drawn⟩ | refused
  · have below := lt_of_reduce? above accepted
    rw [UInt64.lt_iff_toNat_lt, value] at below
    rw [drawn]
    exact .inl ⟨result.toNat, ⟨successor⟩, rfl, below⟩
  · rw [refused]
    exact .inr rfl

end Zone

end Generators

namespace Replay

/-- What a replay hands out is reduced to the length. -/
theorem current_lt {length : Nat} (positive : 0 < length) (replay : Replay) :
    replay.current length < length := by
  rw [current]
  split
  · exact Nat.mod_lt _ positive
  · exact positive

/-- A replay whose draws can still be counted hands out the value whose turn it is. -/
theorem next_of_lt {length : Nat} {replay : Replay} (positive : 0 < length)
    (room : replay.drawn.toNat + 1 < Word64.modulus) :
    next length replay =
      .ok (replay.current length, { replay with drawn := replay.drawn + 1 }) := by
  have counted : Word64.add replay.drawn 1 = .ok (replay.drawn + 1) := Word64.add_of_lt room
  rw [next, if_neg (Nat.ne_of_gt positive), counted]
  rfl

/-- A value that is an index is handed out as it is. -/
theorem next_of_turn {length value : Nat} {replay : Replay}
    (room : replay.drawn.toNat + 1 < Word64.modulus)
    (turn : replay.values[replay.drawn.toNat % replay.values.size]? = some value)
    (inside : value < length) :
    next length replay = .ok (value, { replay with drawn := replay.drawn + 1 }) := by
  rw [next_of_lt (Nat.zero_lt_of_lt inside) room, current]
  simp only [turn, Nat.mod_eq_of_lt inside]

/-- A replay whose draws cannot be counted any more hands out nothing. -/
theorem next_of_full {length : Nat} {replay : Replay} (positive : 0 < length)
    (full : Word64.modulus ≤ replay.drawn.toNat + 1) :
    next length replay = .error .overflow := by
  have uncounted : Word64.add replay.drawn 1 = .error .overflow := if_neg (Nat.not_lt.2 full)
  rw [next, if_neg (Nat.ne_of_gt positive), uncounted]
  rfl

/-- A replay that is asked for an index below a length that is not zero gives one, or the next draw
could not be counted any more. -/
theorem next_cases {length : Nat} (positive : 0 < length) (replay : Replay) :
    (∃ index successor, next length replay = .ok (index, successor) ∧ index < length) ∨
      next length replay = .error .overflow ∧ replay.drawn = Word64.largest := by
  by_cases room : replay.drawn.toNat + 1 < Word64.modulus
  · exact .inl ⟨_, _, next_of_lt positive room, current_lt positive replay⟩
  · have full : Word64.modulus ≤ replay.drawn.toNat + 1 := Nat.le_of_not_lt room
    have bound := replay.drawn.toNat_lt
    have all : replay.drawn.toNat = Word64.largest.toNat := by
      show replay.drawn.toNat = 2 ^ 64 - 1
      simp only [Word64.modulus, UInt64.size] at full
      omega
    exact .inr ⟨next_of_full positive full, UInt64.toNat.inj all⟩

end Replay

end WordPairs
