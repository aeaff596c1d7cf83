import Mathlib.Data.Nat.Factorization.Basic
import WordPairs.Proofs.Draw.Ranges

/-!
# The orbit of a generator

From its seed a generator goes through the orbit of the increment, which, being odd, leads through
all words. So every word is hashed by every generator, and two generators draw the same words with
one part of the orbit between them. Two words on the orbit have hashes next to each other, so that
below every width one of the two is accepted.
-/

namespace WordPairs.Weyl

open Word64 WordPairs.Uniform

/-- The state that so many draws lead to from a seed. -/
def orbit (seed : UInt64) (count : Nat) : UInt64 := seed + UInt64.ofNat count * increment

/-- The word that is drawn from a seed behind so many others. -/
def stream (seed : UInt64) (count : Nat) : UInt64 := hash (orbit seed count)

/-- The word by which the increment is undone. -/
def inverse : UInt64 := 0xC75AE59840B57FFF

/-- The increment is invertible. -/
theorem increment_mul_inverse : increment * inverse = 1 := by decide

/-- No draw leads nowhere. -/
@[simp] theorem orbit_zero (seed : UInt64) : orbit seed 0 = seed := by
  simp [orbit]

/-- Draws behind draws go on in the orbit. -/
theorem orbit_orbit (seed : UInt64) (first second : Nat) :
    orbit (orbit seed first) second = orbit seed (first + second) := by
  rw [orbit, orbit, orbit, UInt64.ofNat_add, UInt64.add_mul, UInt64.add_assoc]

/-- One draw adds the increment. -/
theorem orbit_one (seed : UInt64) : orbit seed 1 = seed + increment := by
  simp [orbit]

/-- The number of draws is known from where they lead, up to turns of the whole orbit. -/
theorem ofNat_eq (seed : UInt64) (count : Nat) :
    UInt64.ofNat count = (orbit seed count - seed) * inverse := by
  rw [orbit, UInt64.add_comm, UInt64.add_sub_cancel, UInt64.mul_assoc, increment_mul_inverse,
    UInt64.mul_one]

/-- Two numbers of draws lead to the same state exactly if they differ by whole turns. -/
theorem orbit_eq_iff {seed : UInt64} {first second : Nat} :
    orbit seed first = orbit seed second ↔ first % period = second % period := by
  have words : UInt64.ofNat first = UInt64.ofNat second ↔ first % period = second % period := by
    rw [← UInt64.toNat_inj, UInt64.toNat_ofNat', UInt64.toNat_ofNat']
    rfl
  rw [← words]
  constructor
  · intro same
    rw [ofNat_eq seed first, ofNat_eq seed second, same]
  · intro same
    rw [orbit, orbit, same]

/-- Every word is on the orbit of every seed, at one place of each turn. -/
theorem existsUnique_orbit (seed target : UInt64) :
    ∃! count, count < period ∧ orbit seed count = target := by
  refine ⟨((target - seed) * inverse).toNat, ⟨UInt64.toNat_lt_size _, ?_⟩, ?_⟩
  · show orbit seed ((target - seed) * inverse).toNat = target
    rw [orbit, UInt64.ofNat_toNat, UInt64.mul_assoc, UInt64.mul_comm inverse,
      increment_mul_inverse, UInt64.mul_one, UInt64.add_comm, UInt64.sub_add_cancel]
  · rintro count ⟨inside, rfl⟩
    rw [← ofNat_eq, UInt64.toNat_ofNat_of_lt' inside]

/-- What is drawn behind other draws is drawn later in the stream. -/
theorem stream_orbit (seed : UInt64) (first second : Nat) :
    stream (orbit seed first) second = stream seed (first + second) := by
  rw [stream, orbit_orbit, stream]

/-- Behind one draw comes the stream without its first word. -/
theorem stream_orbit_one (seed : UInt64) (count : Nat) :
    stream (orbit seed 1) count = stream seed (count + 1) := by
  rw [stream_orbit, Nat.add_comm]

/-- A draw takes the first word of the stream and one step of the orbit. -/
theorem draw_eq (seed : UInt64) : draw ⟨seed⟩ = (stream seed 0, ⟨orbit seed 1⟩) := by
  rw [stream, orbit_zero, orbit_one]
  rfl

/-- On the orbit a draw takes the word at its place of the stream and one more step. -/
theorem draw_orbit (seed : UInt64) (count : Nat) :
    BitSource.draw (⟨orbit seed count⟩ : Weyl) = (stream seed count, ⟨orbit seed (count + 1)⟩) := by
  show draw _ = _
  rw [draw_eq, stream_orbit, orbit_orbit]
  rfl

/-- One more draw is put behind those already made. The definition is opened as a whole, since the
equation for a successor would have the hash evaluated. -/
theorem drawsOnto_succ (reversed : List UInt64) (count : Nat) (generator : Weyl) :
    drawsOnto reversed (count + 1) generator =
      drawsOnto (generator.draw.1 :: reversed) count generator.draw.2 := by
  rw [drawsOnto.eq_def]

/-- Draws are put behind those already made. -/
theorem drawsOnto_eq (reversed : List UInt64) (count : Nat) (seed : UInt64) :
    drawsOnto reversed count ⟨seed⟩ =
      (reversed.reverse ++ (List.range count).map (stream seed), ⟨orbit seed count⟩) := by
  induction count generalizing reversed seed with
  | zero =>
    rw [drawsOnto.eq_def]
    simp
  | succ count ih =>
    rw [drawsOnto_succ, draw_eq, ih, orbit_orbit, Nat.add_comm 1, List.range_succ_eq_map]
    simp [Function.comp_def, stream_orbit_one]

/-- Several draws take as many words of the stream and as many steps of the orbit. -/
theorem draws_eq (count : Nat) (seed : UInt64) :
    draws count ⟨seed⟩ = ((List.range count).map (stream seed), ⟨orbit seed count⟩) :=
  drawsOnto_eq [] count seed

/-- A hash that keeps its value under one shift of the word keeps it under multiples of the
shift. -/
theorem hash_add_mul {shift : UInt64} (kept : ∀ word, hash (word + shift) = hash word)
    (count : Nat) (word : UInt64) : hash (word + UInt64.ofNat count * shift) = hash word := by
  induction count with
  | zero => simp
  | succ count ih =>
    rw [UInt64.ofNat_add, UInt64.add_mul, ← UInt64.add_assoc, UInt64.ofNat_one, UInt64.one_mul,
      kept, ih]

/-- Of the multiples of a word that is not zero one is half of the number of words. -/
theorem exists_mul_eq_half {shift : UInt64} (nonzero : shift ≠ 0) :
    ∃ count : Nat, UInt64.ofNat count * shift = 0x8000000000000000 := by
  have nonzero : shift.toNat ≠ 0 := fun zero => nonzero (UInt64.toNat.inj zero)
  obtain ⟨twos, odd, ⟨half, rfl⟩, factored⟩ := Nat.exists_eq_two_pow_mul_odd nonzero
  have bound : twos < 64 := by
    have most := shift.toNat_lt
    rw [factored] at most
    have power := Nat.lt_of_le_of_lt (Nat.le_mul_of_pos_right _ (Nat.succ_pos _)) most
    exact (Nat.pow_lt_pow_iff_right (by decide)).1 power
  refine ⟨2 ^ (63 - twos), UInt64.toNat.inj ?_⟩
  have product : 2 ^ (63 - twos) * shift.toNat = 2 ^ 63 + 2 ^ 64 * half := by
    rw [factored, ← Nat.mul_assoc, ← Nat.pow_add, Nat.sub_add_cancel (by omega)]
    omega
  rw [UInt64.toNat_mul, UInt64.toNat_ofNat', Nat.mod_mul_mod, product, Nat.add_mul_mod_self_left]
  rfl

/-- A seed is known from its stream. Otherwise the hash would be the same for words that differ by
half of the number of words, which it is not for zero. -/
theorem stream_injective {first second : UInt64}
    (same : ∀ count, stream first count = stream second count) : first = second := by
  by_contra different
  have nonzero : second - first ≠ 0 := by
    intro zero
    apply different
    rw [← UInt64.sub_add_cancel second first, zero, UInt64.zero_add]
  have kept (word : UInt64) : hash (word + (second - first)) = hash word := by
    obtain ⟨count, ⟨_, rfl⟩, _⟩ := existsUnique_orbit first word
    have shifted : orbit first count + (second - first) = orbit second count := by
      rw [orbit, orbit, UInt64.add_comm, ← UInt64.add_assoc, UInt64.sub_add_cancel]
    rw [shifted]
    exact (same count).symm
  obtain ⟨count, half⟩ := exists_mul_eq_half nonzero
  have equal := hash_add_mul kept count 0
  rw [half] at equal
  exact absurd equal (by decide)

/-- Below every width a generator draws a word that is accepted before its orbit is through. -/
theorem exists_accepted (seed : UInt64) {width : UInt64} (positive : 0 < width) :
    ∃ count < period, (reduce? width (stream seed count)).isSome := by
  -- Two states with hashes next to each other; both are on the orbit of the seed.
  obtain ⟨first, ⟨inside, reached⟩, _⟩ := existsUnique_orbit seed 4608793471
  obtain ⟨second, ⟨within, found⟩, _⟩ := existsUnique_orbit seed 7792677435
  have neighbours : (stream seed second).toNat = (stream seed first).toNat + 1 := by
    rw [stream, stream, reached, found]
    decide
  rcases isSome_reduce?_or positive neighbours with accepted | accepted
  · exact ⟨first, inside, accepted⟩
  · exact ⟨second, within, accepted⟩

/-- Drawing until a word is accepted ends with the first such word of the stream. -/
theorem drawUntil_of_stream {accept : UInt64 → Option UInt64} {seed value : UInt64}
    {count left : Nat} (inside : count < left)
    (refused : ∀ earlier < count, accept (stream seed earlier) = none)
    (accepted : accept (stream seed count) = some value) :
    drawUntil accept left (⟨seed⟩ : Weyl) = .ok (value, ⟨orbit seed (count + 1)⟩) := by
  let states : Nat → Weyl := fun place => ⟨orbit seed place⟩
  have begun : states 0 = ⟨seed⟩ := congrArg Weyl.mk (orbit_zero seed)
  rw [← begun]
  exact drawUntil_of_words (draw_orbit seed) inside refused accepted

/-- The first word of the stream that is accepted gives the word below a width. -/
theorem below_of_stream {width seed value : UInt64} {count : Nat} (positive : 0 < width)
    (inside : count < period)
    (refused : ∀ earlier < count, reduce? width (stream seed earlier) = none)
    (accepted : reduce? width (stream seed count) = some value) :
    below width (⟨seed⟩ : Weyl) = .ok (value, ⟨orbit seed (count + 1)⟩) := by
  rw [below_of_pos positive, drawAccepted]
  exact drawUntil_of_stream inside refused accepted

/-- Below every width the stream has a first word that is accepted, and it comes before the orbit is
through. -/
theorem exists_first_accepted (seed : UInt64) {width : UInt64} (positive : 0 < width) :
    ∃ count < period, ∃ value, reduce? width (stream seed count) = some value ∧
      ∀ earlier < count, reduce? width (stream seed earlier) = none := by
  have reached := exists_accepted seed positive
  obtain ⟨inside, accepted⟩ := Nat.find_spec reached
  obtain ⟨value, accepted⟩ := Option.isSome_iff_exists.1 accepted
  refine ⟨Nat.find reached, inside, value, accepted, fun earlier before => ?_⟩
  have minimal := Nat.find_min reached before
  rw [not_and, Option.not_isSome_iff_eq_none] at minimal
  exact minimal (Nat.lt_trans before inside)

/-- From every state a word below a width that is not zero is drawn. -/
theorem exists_below {width : UInt64} (positive : 0 < width) (generator : Weyl) :
    ∃ value next, below width generator = .ok (value, next) ∧ value < width := by
  obtain ⟨count, inside, value, accepted, refused⟩ :=
    exists_first_accepted generator.state positive
  have drawn := below_of_stream positive inside refused accepted
  exact ⟨value, _, drawn, lt_of_reduce? positive accepted⟩

/-- From every state a word of an interval is drawn that holds one. -/
theorem exists_between {start stop : Bound} (held : ∃ word, Bound.admits start stop word)
    (generator : Weyl) :
    ∃ word next, between start stop generator = .ok (word, next) ∧
      Bound.admits start stop word := by
  refine (between_cases held generator).resolve_right fun refused => ?_
  rcases between_eq held generator with ⟨_, _, drawn⟩ | ⟨width, counts, drawn⟩
  · rw [drawn] at refused
    contradiction
  · obtain ⟨_, _, below, _⟩ := exists_below counts.positive generator
    rw [drawn, below] at refused
    contradiction

/-- From every state an index is drawn below a length that is not zero. -/
theorem exists_next {length : Nat} (positive : 0 < length) (fits : length < modulus)
    (generator : Weyl) :
    ∃ index successor, next length generator = .ok (index, successor) ∧ index < length := by
  refine (next_cases positive fits generator).resolve_right fun refused => ?_
  obtain ⟨word, successor, drawn, _⟩ := exists_between (exists_admits positive fits) generator
  rw [next, ofNat_of_lt fits] at refused
  change (between _ _ generator >>= _) = _ at refused
  rw [drawn] at refused
  contradiction

end WordPairs.Weyl
