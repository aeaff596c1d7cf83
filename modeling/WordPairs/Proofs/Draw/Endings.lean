import WordPairs.Proofs.Draw.Orbit

/-!
# Every draw ends

Nothing becomes smaller while draws are refused, so that a loop that draws until one is accepted
could go on for ever. It does not, since the orbit of the generator leads to a word that is accepted
below every width. How often the loop may draw makes no difference then, as long as it is more often
than there are draws to be refused.
-/

namespace WordPairs.Weyl

open Word64 WordPairs.Uniform

/-- However often the loop may draw, it ends with the first word of the stream that is accepted, if
it may draw that one. -/
theorem exists_drawUntil (seed : UInt64) {width : UInt64} (positive : 0 < width) :
    ∃ count < period, modulus % width.toNat ≤ (stream seed count).toNat * width.toNat % modulus ∧
      ∀ turns, count < turns → drawUntil (reduce? width) turns (⟨seed⟩ : Weyl) =
        .ok (high (stream seed count) width, ⟨orbit seed (count + 1)⟩) := by
  obtain ⟨count, inside, value, accepted, refused⟩ := exists_first_accepted seed positive
  obtain ⟨low, quotient⟩ := (reduce?_eq_some_iff positive _ value).1 accepted
  have result : high (stream seed count) width = value := by
    rw [← UInt64.toNat_inj, toNat_high]
    exact quotient
  refine ⟨count, inside, low, fun turns enough => ?_⟩
  rw [result]
  exact drawUntil_of_stream enough refused accepted

/-- From every state every draw ends. Below a width that is not zero, some word within one turn of
the orbit has a product whose low half does not lie below the remainder, and the loop stops there
with the high half, whatever number of draws beyond that it is granted. So a word of an interval is
drawn if the interval holds one, and an index below a length if there is one. -/
theorem draws_end (state : UInt64) :
    (∀ width : UInt64, 0 < width → ∃ count < 2 ^ 64,
      let word := hash (state + UInt64.ofNat count * increment)
      let next : Weyl := ⟨state + UInt64.ofNat (count + 1) * increment⟩
      2 ^ 64 % width.toNat ≤ word.toNat * width.toNat % 2 ^ 64 ∧
        (∀ turns, count < turns →
          drawUntil (reduce? width) turns (⟨state⟩ : Weyl) = .ok (high word width, next)) ∧
        below width (⟨state⟩ : Weyl) = .ok (high word width, next)) ∧
      (∀ start stop, (∃ word, Bound.admits start stop word) →
        ∃ word next, between start stop (⟨state⟩ : Weyl) = .ok (word, next) ∧
          Bound.admits start stop word) ∧
      ∀ length, 0 < length → length < 2 ^ 64 →
        ∃ index next, IndexSource.next length (⟨state⟩ : Weyl) = .ok (index, next) ∧
          index < length := by
  refine ⟨fun width positive => ?_, fun start stop held => exists_between held ⟨state⟩,
    fun length positive fits => exists_next positive fits ⟨state⟩⟩
  obtain ⟨count, inside, low, ends⟩ := exists_drawUntil state positive
  refine ⟨count, inside, low, ends, ?_⟩
  rw [below_of_pos positive, drawAccepted]
  exact ends period inside

/-- From zero, of which the first word is zero as well, the first draw is refused below three, and
yet a word is drawn, as it is from the interval of the largest word alone and below one. -/
theorem draws_end_refused :
    (0 : UInt64) < 3 ∧ reduce? 3 (hash 0) = none ∧ (∃ drawn, below 3 (⟨0⟩ : Weyl) = .ok drawn) ∧
      (∃ next, between (.included largest) .unbounded (⟨0⟩ : Weyl) = .ok (largest, next)) ∧
      ∃ next, IndexSource.next 1 (⟨0⟩ : Weyl) = .ok (0, next) := by
  obtain ⟨narrow, held, short⟩ := draws_end 0
  obtain ⟨_, _, _, _, drawn⟩ := narrow 3 (by decide)
  obtain ⟨word, next, last, admitted⟩ :=
    held (.included largest) .unbounded ⟨largest, by decide⟩
  obtain ⟨index, other, first, inside⟩ := short 1 (by decide) (by decide)
  have only : word = largest := by
    have above := of_decide_eq_true (Bool.and_eq_true_iff.1 admitted).1
    exact UInt64.le_antisymm (Bound.le_largest word) above
  have zero : index = 0 := Nat.lt_one_iff.1 inside
  rw [only] at last
  rw [zero] at first
  exact ⟨by decide, by decide, ⟨_, drawn⟩, ⟨next, last⟩, ⟨other, first⟩⟩

end WordPairs.Weyl
