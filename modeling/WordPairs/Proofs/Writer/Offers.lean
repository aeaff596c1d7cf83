import WordPairs.Proofs.Writer.Quota

/-!
# Offers without a bound

Bytes are to be offered until all are taken, however often that is. Such a loop need not end, and
`ByteWriter.writeAll` makes no more offers than suffice for a writer that takes single bytes and is
interrupted every other time. Here the loop is a relation that no number of offers bounds, and it
holds of what `writeAll` returns unless that gave up. The writers of a `Quota` are never given up.

A writer that claims to have taken more than it was offered is no writer to such a loop, which is
why the claims of a writer must be honest.
-/

namespace WordPairs

/-- Writers that claim to have taken no more bytes than they were offered. -/
class HonestWriter (ω : Type) [ByteWriter ω] : Prop where
  /-- The number that is returned counts bytes of the offer. -/
  count_le : ∀ {bytes : List UInt8} {writer next : ω} {count : Nat},
    ByteWriter.write bytes writer = (.ok count, next) → count ≤ bytes.length

namespace ByteWriter

variable {ω : Type} [ByteWriter ω]

/-- How offering bytes until all are taken ends, after so many offers. -/
inductive WritesAll : Nat → List UInt8 → ω → Except IoError Unit × ω → Prop
  /-- There is nothing left to offer. -/
  | done {writer : ω} : WritesAll 0 [] writer (.ok (), writer)
  /-- Nothing is taken of an offer. -/
  | stuck {bytes : List UInt8} {writer next : ω} (nonempty : bytes ≠ [])
      (wrote : write bytes writer = (.ok 0, next)) :
      WritesAll 1 bytes writer (.error .writeZero, next)
  /-- An offer fails. -/
  | failed {bytes : List UInt8} {writer next : ω} {cause : IoError} (nonempty : bytes ≠ [])
      (wrote : write bytes writer = (.error cause, next)) (lasting : cause ≠ .interrupted) :
      WritesAll 1 bytes writer (.error cause, next)
  /-- Some bytes are taken, and the others are offered. -/
  | taken {offers count : Nat} {bytes : List UInt8} {writer next : ω}
      {outcome : Except IoError Unit × ω} (wrote : write bytes writer = (.ok count, next))
      (positive : 0 < count) (within : count ≤ bytes.length)
      (rest : WritesAll offers (bytes.drop count) next outcome) :
      WritesAll (offers + 1) bytes writer outcome
  /-- An offer is interrupted and made again. -/
  | again {offers : Nat} {bytes : List UInt8} {writer next : ω}
      {outcome : Except IoError Unit × ω} (nonempty : bytes ≠ [])
      (wrote : write bytes writer = (.error .interrupted, next))
      (rest : WritesAll offers bytes next outcome) :
      WritesAll (offers + 1) bytes writer outcome

variable {offers left : Nat} {bytes : List UInt8} {writer : ω}
  {outcome other : Except IoError Unit × ω}

/-- No loop ends with an interruption. -/
theorem WritesAll.ne_interrupted (ends : WritesAll offers bytes writer outcome) :
    outcome.1 ≠ .error .interrupted := by
  induction ends with
  | done => nofun
  | stuck => nofun
  | failed nonempty wrote lasting => exact fun same => lasting (Except.error.inj same)
  | taken wrote positive within rest ih => exact ih
  | again nonempty wrote rest ih => exact ih

/-- Any bound that leaves room for the offers of a loop makes no difference to how it ends. -/
theorem WritesAll.offer_eq (ends : WritesAll offers bytes writer outcome)
    (enough : offers ≤ left) : offer left bytes writer = outcome := by
  induction ends generalizing left with
  | done => cases left <;> rfl
  | @stuck bytes writer next nonempty wrote =>
    obtain ⟨byte, rest, rfl⟩ := List.exists_cons_of_ne_nil nonempty
    obtain ⟨left, rfl⟩ := Nat.exists_eq_add_of_le' enough
    simp only [offer, wrote]
  | @failed bytes writer next cause nonempty wrote lasting =>
    obtain ⟨byte, rest, rfl⟩ := List.exists_cons_of_ne_nil nonempty
    obtain ⟨left, rfl⟩ := Nat.exists_eq_add_of_le' enough
    rw [offer, wrote]
    cases cause with
    | interrupted => exact absurd rfl lasting
    | _ => rfl
  | @taken offers count bytes writer next outcome wrote positive within rest ih =>
    have nonempty : bytes ≠ [] := List.ne_nil_of_length_pos (Nat.lt_of_lt_of_le positive within)
    obtain ⟨byte, others, rfl⟩ := List.exists_cons_of_ne_nil nonempty
    obtain ⟨fewer, rfl⟩ := Nat.exists_eq_add_of_lt positive
    rw [Nat.zero_add] at wrote ih
    obtain ⟨left, rfl⟩ := Nat.exists_eq_add_of_le' (Nat.le_trans (Nat.le_add_left 1 _) enough)
    rw [offer_of_taken wrote]
    exact ih (Nat.le_of_succ_le_succ enough)
  | @again offers bytes writer next outcome nonempty wrote rest ih =>
    obtain ⟨byte, others, rfl⟩ := List.exists_cons_of_ne_nil nonempty
    obtain ⟨left, rfl⟩ := Nat.exists_eq_add_of_le' (Nat.le_trans (Nat.le_add_left 1 _) enough)
    rw [offer_of_interrupted wrote]
    exact ih (Nat.le_of_succ_le_succ enough)

/-- A loop ends in one way only. -/
theorem WritesAll.unique {others : Nat} (ends : WritesAll offers bytes writer outcome)
    (also : WritesAll others bytes writer other) : outcome = other := by
  have first := ends.offer_eq (Nat.le_max_left offers others)
  have second := also.offer_eq (Nat.le_max_right offers others)
  exact first.symm.trans second

variable [HonestWriter ω]

/-- Offers that are bounded and do not give up are the loop. -/
theorem exists_writesAll_of_offer (left : Nat) (bytes : List UInt8) (writer : ω)
    (ended : (offer left bytes writer).1 ≠ .error .interrupted) :
    ∃ offers ≤ left, WritesAll offers bytes writer (offer left bytes writer) := by
  induction left generalizing bytes writer with
  | zero =>
    cases bytes with
    | nil => exact ⟨0, Nat.le_refl 0, .done⟩
    | cons byte rest => exact absurd rfl ended
  | succ left ih =>
    cases bytes with
    | nil => exact ⟨0, Nat.zero_le _, .done⟩
    | cons byte rest =>
      have nonempty : byte :: rest ≠ [] := List.cons_ne_nil byte rest
      rcases wrote : write (byte :: rest) writer with ⟨cause | _ | fewer, next⟩
      · by_cases lasting : cause = .interrupted
        · subst lasting
          rw [offer_of_interrupted wrote] at ended ⊢
          obtain ⟨offers, few, ends⟩ := ih (byte :: rest) next ended
          exact ⟨offers + 1, Nat.succ_le_succ few, .again nonempty wrote ends⟩
        · have failed : offer (left + 1) (byte :: rest) writer = (.error cause, next) :=
            (WritesAll.failed nonempty wrote lasting).offer_eq (Nat.le_add_left 1 left)
          rw [failed]
          exact ⟨1, Nat.le_add_left 1 left, .failed nonempty wrote lasting⟩
      · have stuck : offer (left + 1) (byte :: rest) writer = (.error .writeZero, next) :=
          (WritesAll.stuck nonempty wrote).offer_eq (Nat.le_add_left 1 left)
        rw [stuck]
        exact ⟨1, Nat.le_add_left 1 left, .stuck nonempty wrote⟩
      · have within : fewer + 1 ≤ (byte :: rest).length := HonestWriter.count_le wrote
        rw [offer_of_taken wrote] at ended ⊢
        obtain ⟨offers, few, ends⟩ := ih ((byte :: rest).drop (fewer + 1)) next ended
        exact ⟨offers + 1, Nat.succ_le_succ few, .taken wrote (Nat.succ_pos fewer) within ends⟩

/-- The loop ends if and only if some number of offers is enough not to give up. -/
theorem exists_writesAll_iff :
    (∃ offers outcome, WritesAll offers bytes writer outcome) ↔
      ∃ left, (offer left bytes writer).1 ≠ .error .interrupted := by
  constructor
  · rintro ⟨offers, outcome, ends⟩
    refine ⟨offers, ?_⟩
    rw [ends.offer_eq (Nat.le_refl offers)]
    exact ends.ne_interrupted
  · rintro ⟨left, ended⟩
    obtain ⟨offers, _, ends⟩ := exists_writesAll_of_offer left bytes writer ended
    exact ⟨offers, _, ends⟩

/-- Unless it gives up, writing all of the bytes ends as the loop does. -/
theorem exists_writesAll_eq_iff (ended : (writeAll bytes writer).1 ≠ .error .interrupted) :
    (∃ offers, WritesAll offers bytes writer outcome) ↔ writeAll bytes writer = outcome := by
  obtain ⟨offers, _, ends⟩ := exists_writesAll_of_offer _ bytes writer ended
  constructor
  · rintro ⟨others, also⟩
    exact ends.unique also
  · rintro rfl
    exact ⟨offers, ends⟩

end ByteWriter

namespace Quota

variable {ω : Type} [ByteWriter ω] [HonestWriter ω] (quota : Quota ω)

/-- Writing all of the bytes to a writer with a quota is the loop without a bound, which ends. -/
theorem exists_writesAll_eq_iff {bytes : List UInt8} {writer : ω} (willing : quota.Willing writer)
    {outcome : Except IoError Unit × ω} :
    (∃ offers, ByteWriter.WritesAll offers bytes writer outcome) ↔
      ByteWriter.writeAll bytes writer = outcome := by
  apply ByteWriter.exists_writesAll_eq_iff
  have landed := quota.writeAll_lands bytes willing
  generalize ByteWriter.writeAll bytes writer = written at landed ⊢
  cases landed with
  | whole => nofun
  | cut => cases quota.whenFull <;> nofun

end Quota

namespace Device

/-- A device counts the bytes that it takes. -/
instance : HonestWriter Device where
  count_le {bytes device next count} wrote := by
    have wrote : write bytes device = (.ok count, next) := wrote
    simp only [write] at wrote
    split at wrote
    · cases wrote
    · split at wrote
      · split at wrote
        · cases wrote
        · cases wrote
          exact Nat.zero_le _
      · cases wrote
        exact List.length_take_le' _ _

/-- Writing all of the bytes to a steady device is the loop without a bound. -/
theorem exists_writesAll_eq_iff {bytes : List UInt8} {device : Device} (steady : device.Steady)
    {outcome : Except IoError Unit × Device} :
    (∃ offers, ByteWriter.WritesAll offers bytes device outcome) ↔
      ByteWriter.writeAll bytes device = outcome :=
  (quota device.whenFull).exists_writesAll_eq_iff ⟨steady, rfl⟩

end Device

end WordPairs
