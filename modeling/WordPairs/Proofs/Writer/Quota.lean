import WordPairs.Writer.Device

/-!
# Writers of limited room

Such a writer takes bytes while it has room for them, in pieces of any size, and of two offers in a
row one at least is not interrupted. Once the room is used up it fails, or takes nothing. What
becomes of bytes that are written to it depends on the room alone: all of them are taken if they
fit, and as many as there is room for otherwise. How much room there is, and what counts as taken,
is told by a `Quota`.
-/

namespace WordPairs

namespace WhenFull

/-- How a full writer answers an offer. -/
def answer : WhenFull → Except IoError Nat
  | .fails => .error .storageFull
  | .takesNothing => .ok 0

/-- The error that writing to a full writer ends in. -/
def cause : WhenFull → IoError
  | .fails => .storageFull
  | .takesNothing => .writeZero

end WhenFull

namespace ByteWriter

variable {ω : Type} [ByteWriter ω]

/-- Writing a record fails only with an error of the writer. -/
theorem result_writeRecord (record : Record) (writer : ω) :
    (writeRecord record writer).1 =
      (writeAll record.bytes writer).1.mapError fun cause => .error (.io cause) := by
  rw [writeRecord]
  rcases writeAll record.bytes writer with ⟨_ | _, _⟩ <;> rfl

variable {left fewer : Nat} {byte : UInt8} {rest : List UInt8} {writer next : ω}

/-- What an offer does not bring in is offered again. -/
theorem offer_of_taken (wrote : write (byte :: rest) writer = (.ok (fewer + 1), next)) :
    offer (left + 1) (byte :: rest) writer = offer left ((byte :: rest).drop (fewer + 1)) next := by
  simp only [offer, wrote]

/-- An interrupted offer is repeated. -/
theorem offer_of_interrupted (wrote : write (byte :: rest) writer = (.error .interrupted, next)) :
    offer (left + 1) (byte :: rest) writer = offer left (byte :: rest) next := by
  simp only [offer, wrote]

/-- A full writer is offered nothing again, whichever way it refuses. -/
theorem offer_of_full {whenFull : WhenFull}
    (refused : write (byte :: rest) writer = (whenFull.answer, next)) :
    offer (left + 1) (byte :: rest) writer = (.error whenFull.cause, next) := by
  cases whenFull with
  | fails => simp only [offer, refused, WhenFull.answer, WhenFull.cause]
  | takesNothing => simp only [offer, refused, WhenFull.answer, WhenFull.cause]

end ByteWriter

/-- What a writer has taken, how much more it takes, and what it does then. -/
structure Quota (ω : Type) [ByteWriter ω] where
  /-- The bytes taken so far, in order. -/
  taken : ω → List UInt8
  /-- How many more bytes there is room for, if there is a limit. -/
  room : ω → Option Nat
  /-- What happens once the room is used up. -/
  whenFull : WhenFull
  /-- The writers that take whatever they have room for. -/
  Willing : ω → Prop
  /-- The writers whose next offer is not interrupted. -/
  Calm : ω → Prop
  /-- An offer that is not interrupted brings in some bytes from the front, while there is room. -/
  takes : ∀ {writer : ω} {bytes : List UInt8}, Willing writer → Calm writer → bytes ≠ [] →
    room writer ≠ some 0 →
    ∃ count next, ByteWriter.write bytes writer = (.ok count, next) ∧ 0 < count ∧
      (∀ limit ∈ room writer, (bytes.take count).length ≤ limit) ∧
      taken next = taken writer ++ bytes.take count ∧
      room next = (room writer).map (· - (bytes.take count).length) ∧ Willing next
  /-- An offer to a full writer brings in nothing. -/
  refuses : ∀ {writer : ω} {bytes : List UInt8}, Willing writer → Calm writer → bytes ≠ [] →
    room writer = some 0 →
    ∃ next, ByteWriter.write bytes writer = (whenFull.answer, next) ∧ taken next = taken writer
  /-- An interrupted offer brings in nothing, and the one after it is not interrupted. -/
  resumes : ∀ {writer : ω} {bytes : List UInt8}, Willing writer → ¬Calm writer → bytes ≠ [] →
    ∃ next, ByteWriter.write bytes writer = (.error .interrupted, next) ∧
      taken next = taken writer ∧ room next = room writer ∧ Willing next ∧ Calm next

namespace Quota

variable {ω : Type} [ByteWriter ω]

/-- What becomes of bytes that are written to a writer, by the room that there is for them. -/
inductive Lands (quota : Quota ω) (bytes : List UInt8) (writer : ω) :
    Except IoError Unit × ω → Prop
  /-- Bytes that fit are taken, and so much room is used up. -/
  | whole {next : ω} (fits : ∀ limit ∈ quota.room writer, bytes.length ≤ limit)
      (grown : quota.taken next = quota.taken writer ++ bytes)
      (less : quota.room next = (quota.room writer).map (· - bytes.length))
      (again : quota.Willing next) : Lands quota bytes writer (.ok (), next)
  /-- Of bytes that do not fit, as many are taken as there is room for. -/
  | cut {limit : Nat} {next : ω} (room : quota.room writer = some limit)
      (short : limit < bytes.length)
      (grown : quota.taken next = quota.taken writer ++ bytes.take limit) :
      Lands quota bytes writer (.error quota.whenFull.cause, next)

variable {quota : Quota ω}

namespace Lands

variable {front back : List UInt8} {writer next : ω}

/-- There is always room for nothing. -/
theorem nil (willing : quota.Willing writer) : quota.Lands [] writer (.ok (), writer) :=
  .whole (fun _ _ => Nat.zero_le _) (List.append_nil _).symm (by cases quota.room writer <;> rfl)
    willing

/-- Bytes that are written behind others which fit have the room that these leave. -/
theorem append {outcome : Except IoError Unit × ω} (first : quota.Lands front writer (.ok (), next))
    (second : quota.Lands back next outcome) : quota.Lands (front ++ back) writer outcome := by
  cases first with
  | whole fits grown less again =>
    cases second with
    | whole fitsBehind grownBehind lessBehind still =>
      refine .whole ?_ ?_ ?_ still
      · intro limit known
        have before : front.length ≤ limit := fits limit known
        have left : quota.room next = some (limit - front.length) := by
          rw [less, Option.mem_def.1 known, Option.map_some]
        have behind : back.length ≤ limit - front.length := fitsBehind _ left
        rw [List.length_append]
        omega
      · rw [grownBehind, grown, List.append_assoc]
      · rw [lessBehind, less, Option.map_map, List.length_append]
        exact congrArg (Option.map · _) (funext fun limit => Nat.sub_sub ..)
    | cut room short grownBehind =>
      rw [less, Option.map_eq_some_iff] at room
      obtain ⟨limit, known, rfl⟩ := room
      have before : front.length ≤ limit := fits limit known
      refine .cut known ?_ ?_
      · rw [List.length_append]
        omega
      · rw [grownBehind, grown, List.append_assoc, List.take_append, List.take_of_length_le before]

/-- Nothing is taken of what is written behind bytes that do not fit. -/
theorem cut_append {cause : IoError} (first : quota.Lands front writer (.error cause, next))
    (back : List UInt8) : quota.Lands (front ++ back) writer (.error cause, next) := by
  cases first with
  | cut room short grown =>
    refine .cut room ?_ ?_
    · rw [List.length_append]
      omega
    · rw [grown, List.take_append_of_le_length (Nat.le_of_lt short)]

/-- A writer that had room for the bytes takes more. -/
theorem willing (landed : quota.Lands front writer (.ok (), next)) : quota.Willing next := by
  cases landed with
  | whole fits grown less again => exact again

/-- Bytes that were taken fit. -/
theorem length_le (landed : quota.Lands front writer (.ok (), next)) :
    ∀ limit ∈ quota.room writer, front.length ≤ limit := by
  cases landed with
  | whole fits grown less again => exact fits

/-- Bytes that were not taken do not fit. -/
theorem lt_length {cause : IoError} (landed : quota.Lands front writer (.error cause, next)) :
    ∀ limit ∈ quota.room writer, limit < front.length := by
  cases landed with
  | cut room short grown =>
    intro other known
    cases room.symm.trans known
    exact short

/-- An interrupted offer is as good as one of no bytes. -/
theorem idle {outcome : Except IoError Unit × ω} (same : quota.taken next = quota.taken writer)
    (unused : quota.room next = quota.room writer) (again : quota.Willing next)
    (landed : quota.Lands back next outcome) : quota.Lands back writer outcome := by
  have nothing : quota.Lands [] writer (.ok (), next) := by
    refine .whole (fun _ _ => Nat.zero_le _) (same.trans (List.append_nil _).symm) ?_ again
    rw [unused]
    cases quota.room writer <;> rfl
  exact nothing.append landed

end Lands

variable (quota)

/-- Two offers for each byte suffice, and one less if the first of them is not interrupted: finding
out that there is no room for a byte takes no more offers than bringing it in. -/
theorem offer_lands (left : Nat) (bytes : List UInt8) (writer : ω) (willing : quota.Willing writer)
    (enough : 2 * bytes.length ≤ left ∨ quota.Calm writer ∧ 2 * bytes.length ≤ left + 1) :
    quota.Lands bytes writer (ByteWriter.offer left bytes writer) := by
  induction left generalizing bytes writer with
  | zero =>
    cases bytes with
    | nil => exact .nil willing
    | cons byte rest =>
      simp only [List.length_cons] at enough
      omega
  | succ left ih =>
    cases bytes with
    | nil => exact .nil willing
    | cons byte rest =>
      have nonempty : byte :: rest ≠ [] := List.cons_ne_nil byte rest
      by_cases calm : quota.Calm writer
      · by_cases full : quota.room writer = some 0
        · obtain ⟨next, refused, same⟩ := quota.refuses willing calm nonempty full
          rw [ByteWriter.offer_of_full refused]
          exact .cut full (Nat.succ_pos _) (by rw [same, List.take_zero, List.append_nil])
        · obtain ⟨count, next, wrote, positive, fits, grown, less, again⟩ :=
            quota.takes willing calm nonempty full
          obtain ⟨fewer, rfl⟩ : ∃ fewer, count = fewer + 1 := ⟨count - 1, by omega⟩
          have shorter : ((byte :: rest).drop (fewer + 1)).length ≤ rest.length := by
            simp only [List.drop_succ_cons, List.length_drop]
            omega
          have behind := ih ((byte :: rest).drop (fewer + 1)) next again (by
            simp only [List.length_cons] at enough
            omega)
          have landed := (Lands.whole fits grown less again).append behind
          rw [List.take_append_drop] at landed
          rw [ByteWriter.offer_of_taken wrote]
          exact landed
      · obtain ⟨next, wrote, same, unused, again, calmed⟩ := quota.resumes willing calm nonempty
        have room := enough.resolve_right fun other => calm other.1
        rw [ByteWriter.offer_of_interrupted wrote]
        exact .idle same unused again (ih (byte :: rest) next again (.inr ⟨calmed, room⟩))

/-- What becomes of bytes that are written. -/
theorem writeAll_lands (bytes : List UInt8) {writer : ω} (willing : quota.Willing writer) :
    quota.Lands bytes writer (ByteWriter.writeAll bytes writer) :=
  quota.offer_lands _ bytes writer willing (.inl (by omega))

variable {quota} {record : Record} {writer next : ω}

/-- A record that was written was taken. -/
theorem lands_of_writeRecord (willing : quota.Willing writer)
    (wrote : ByteWriter.writeRecord record writer = (.ok (), next)) :
    quota.Lands record.bytes writer (.ok (), next) := by
  have landed := quota.writeAll_lands record.bytes willing
  rw [ByteWriter.writeRecord] at wrote
  rcases written : ByteWriter.writeAll record.bytes writer with ⟨_ | _, other⟩
  · rw [written] at wrote
    cases wrote
  · rw [written] at wrote landed
    cases wrote
    exact landed

/-- A record that was not written did not fit. -/
theorem lands_of_writeRecord_error (willing : quota.Willing writer) {failure : Failure}
    (broke : ByteWriter.writeRecord record writer = (.error failure, next)) :
    failure = .error (.io quota.whenFull.cause) ∧
      quota.Lands record.bytes writer (.error quota.whenFull.cause, next) := by
  have landed := quota.writeAll_lands record.bytes willing
  rw [ByteWriter.writeRecord] at broke
  rcases written : ByteWriter.writeAll record.bytes writer with ⟨cause | _, other⟩
  · rw [written] at broke landed
    cases broke
    cases landed with
    | cut room short grown => exact ⟨rfl, .cut room short grown⟩
  · rw [written] at broke
    cases broke

/-- A record that is written behind others has the room that these leave. -/
theorem Lands.snoc {done : List Record} {outcome : Except IoError Unit × ω}
    (first : quota.Lands (Record.concat done) writer (.ok (), next))
    (second : quota.Lands record.bytes next outcome) :
    quota.Lands (Record.concat (done ++ [record])) writer outcome := by
  rw [Record.concat_append, Record.concat_singleton]
  exact first.append second

/-- The record for which there is no room is known by the room. -/
theorem Lands.length_eq {done : List Record} {cause : IoError} {last : ω}
    (first : quota.Lands (Record.concat done) writer (.ok (), next))
    (second : quota.Lands (Record.concat (done ++ [record])) writer (.error cause, last)) :
    ∀ limit ∈ quota.room writer, (done ++ [record]).length = limit / 32 + 1 := by
  intro limit known
  have fits := first.length_le limit known
  have short := second.lt_length limit known
  simp only [Record.length_concat, Record.size, List.length_append, List.length_singleton]
    at fits short ⊢
  omega

variable (quota) in
/-- Records that are written back to back are taken as far as they fit, and if all do, their bytes
are counted. -/
theorem writeEach_lands (records : List Record) (written : Nat) {writer : ω}
    (willing : quota.Willing writer) :
    (∃ next, quota.Lands (Record.concat records) writer (.ok (), next) ∧
      ByteWriter.writeEach records written writer =
        (.ok (written + (Record.concat records).length), next)) ∨
    ∃ next, quota.Lands (Record.concat records) writer (.error quota.whenFull.cause, next) ∧
      ByteWriter.writeEach records written writer = (.error quota.whenFull.cause, next) := by
  induction records generalizing written writer with
  | nil => exact .inl ⟨writer, .nil willing, rfl⟩
  | cons record records ih =>
    have split : Record.concat (record :: records) = record.bytes ++ Record.concat records := rfl
    have landed := quota.writeAll_lands record.bytes willing
    rw [ByteWriter.writeEach, split]
    rcases wrote : ByteWriter.writeAll record.bytes writer with ⟨cause | _, middle⟩
    · rw [wrote] at landed
      cases landed with
      | cut room short grown =>
        exact .inr ⟨middle, (Lands.cut room short grown).cut_append _, rfl⟩
    · rw [wrote] at landed
      rcases ih (written + record.bytes.length) landed.willing with
        ⟨next, behind, each⟩ | ⟨next, behind, each⟩
      · refine .inl ⟨next, landed.append behind, ?_⟩
        simp only [each, List.length_append, Nat.add_assoc]
      · exact .inr ⟨next, landed.append behind, each⟩

variable (quota) in
/-- Writing records ends with one flush if all of their bytes fit, and with none otherwise. -/
theorem writeRecords_lands (records : List Record) {writer : ω} (willing : quota.Willing writer) :
    (∃ full, quota.Lands (Record.concat records) writer (.ok (), full) ∧
      (ByteWriter.writeEach records 0 writer).2 = full ∧
      ByteWriter.writeRecords records writer =
        ((ByteWriter.flush full).1.map fun () => (Record.concat records).length,
          (ByteWriter.flush full).2)) ∨
    ∃ last, quota.Lands (Record.concat records) writer (.error quota.whenFull.cause, last) ∧
      (ByteWriter.writeEach records 0 writer).2 = last ∧
      ByteWriter.writeRecords records writer = (.error quota.whenFull.cause, last) := by
  rcases quota.writeEach_lands records 0 willing with ⟨full, landed, each⟩ | ⟨last, landed, each⟩
  · refine .inl ⟨full, landed, by rw [each], ?_⟩
    rw [ByteWriter.writeRecords, each, Nat.zero_add]
    rcases flushed : ByteWriter.flush full with ⟨_ | _, next⟩ <;> simp [flushed, Except.map]
  · refine .inr ⟨last, landed, by rw [each], ?_⟩
    rw [ByteWriter.writeRecords, each]

end Quota

namespace Device

/-- A device takes a byte at least with every offer while it has room, and is not interrupted twice
in a row. -/
structure Steady (device : Device) : Prop where
  /-- A piece has one byte at least. -/
  pieces : ∀ piece ∈ device.piece, 0 < piece
  /-- Not every offer is interrupted. -/
  pauses : ∀ every ∈ device.interruptEvery, 2 ≤ every

/-- A device with room takes something of an offer that holds something. -/
theorem share_pos {device : Device} (steady : device.Steady) (roomy : device.free ≠ some 0)
    {length : Nat} (something : 0 < length) : 0 < device.share length := by
  have left : ∀ free, device.free = some free → 0 < free := by
    intro free known
    exact Nat.pos_of_ne_zero fun zero => roomy (zero ▸ known)
  rw [share]
  cases limit : device.piece with
  | none =>
    cases room : device.free with
    | none => exact something
    | some free => exact Nat.lt_min.2 ⟨left free room, something⟩
  | some piece =>
    have part : 0 < min piece length := Nat.lt_min.2 ⟨steady.pieces piece limit, something⟩
    cases room : device.free with
    | none => exact part
    | some free => exact Nat.lt_min.2 ⟨left free room, part⟩

/-- An offer that holds something brings something into a device with room. -/
theorem taken_pos {device : Device} (steady : device.Steady) (roomy : device.free ≠ some 0)
    {bytes : List UInt8} (nonempty : bytes ≠ []) :
    0 < (bytes.take (device.share bytes.length)).length := by
  have filled : 0 < bytes.length := List.length_pos_iff.2 nonempty
  rw [List.length_take]
  exact Nat.lt_min.2 ⟨share_pos steady roomy filled, filled⟩

/-- An offer brings no more into a device than there is room for. -/
theorem taken_le {device : Device} {limit : Nat} (free : device.free = some limit)
    (bytes : List UInt8) : (bytes.take (device.share bytes.length)).length ≤ limit := by
  have within : device.share bytes.length ≤ limit := by
    simp only [share, free]
    exact Nat.min_le_left _ _
  exact Nat.le_trans (List.length_take_le _ _) within

/-- As many bytes as an offer brings in are the bytes that it brings in. -/
theorem take_taken (device : Device) (bytes : List UInt8) :
    bytes.take (bytes.take (device.share bytes.length)).length =
      bytes.take (device.share bytes.length) := by
  rw [List.length_take, ← List.take_take, List.take_length]

/-- What an offer that is not refused brings into a device. -/
theorem write_of_calm {device : Device} (roomy : device.free ≠ some 0)
    (calm : device.isInterrupted (device.offers + 1) = false) (bytes : List UInt8) :
    write bytes device = (.ok (bytes.take (device.share bytes.length)).length,
      { device with
        offers := device.offers + 1
        data := device.data ++ bytes.take (device.share bytes.length) }) := by
  have free : Device.free { device with offers := device.offers + 1 } ≠ some 0 := roomy
  have calm : Device.isInterrupted { device with offers := device.offers + 1 }
      (device.offers + 1) = false := calm
  simp only [write, calm, if_neg free, Bool.false_eq_true, if_false]
  rfl

/-- What a full device answers. -/
theorem write_of_full {device : Device} (full : device.free = some 0)
    (calm : device.isInterrupted (device.offers + 1) = false) (bytes : List UInt8) :
    write bytes device = (device.whenFull.answer, { device with offers := device.offers + 1 }) := by
  have free : Device.free { device with offers := device.offers + 1 } = some 0 := full
  have calm : Device.isInterrupted { device with offers := device.offers + 1 }
      (device.offers + 1) = false := calm
  simp only [write, calm, if_pos free, Bool.false_eq_true, if_false]
  cases device.whenFull <;> rfl

/-- An offer changes nothing of a device but the number of offers and the bytes. -/
theorem exists_write (bytes : List UInt8) (device : Device) :
    ∃ offers data, (ByteWriter.write bytes device).2 =
      { device with offers := offers, data := data } := by
  show ∃ offers data, (write bytes device).2 = { device with offers := offers, data := data }
  simp only [write]
  split
  · exact ⟨_, _, rfl⟩
  · split
    · split <;> exact ⟨_, _, rfl⟩
    · exact ⟨_, _, rfl⟩

/-- An offer is no flush. -/
theorem flushes_write (bytes : List UInt8) (device : Device) :
    (ByteWriter.write bytes device).2.flushes = device.flushes := by
  obtain ⟨offers, data, offered⟩ := exists_write bytes device
  rw [offered]

/-- An interruption is over with the next offer. -/
theorem calm_of_interrupted {device : Device} (steady : device.Steady) {offer : Nat}
    (interrupted : device.isInterrupted offer) : device.isInterrupted (offer + 1) = false := by
  unfold isInterrupted at interrupted ⊢
  cases schedule : device.interruptEvery with
  | none => rfl
  | some every =>
    have long := steady.pauses every schedule
    simp only [schedule, beq_iff_eq] at interrupted
    simp only [beq_eq_false_iff_ne, ne_eq]
    rw [Nat.add_mod, interrupted, Nat.zero_add, Nat.mod_mod, Nat.mod_eq_of_lt long]
    decide

/-- Bytes that a device takes use up its room. -/
theorem free_append (device : Device) (offers : Nat) (bytes : List UInt8) :
    Device.free { device with offers := offers, data := device.data ++ bytes } =
      device.free.map (· - bytes.length) := by
  have size : (device.data ++ bytes).size = device.data.size + bytes.length := by
    rw [← Array.length_toList, Array.toList_appendList, List.length_append, Array.length_toList]
  simp only [free, size, Option.map_map]
  exact congrArg (Option.map · device.room) (funext fun room => (Nat.sub_sub ..).symm)

/-- Devices as writers of limited room. -/
def quota (whenFull : WhenFull) : Quota Device where
  taken device := device.data.toList
  room := free
  whenFull := whenFull
  Willing device := device.Steady ∧ device.whenFull = whenFull
  Calm device := device.isInterrupted (device.offers + 1) = false
  takes {device bytes} willing calm nonempty roomy := by
    have positive := taken_pos willing.1 roomy nonempty
    refine ⟨_, _, write_of_calm roomy calm bytes, positive, ?_, ?_, ?_,
      ⟨willing.1.pieces, willing.1.pauses⟩, willing.2⟩
    · intro limit free
      rw [take_taken]
      exact taken_le free bytes
    · rw [take_taken]
      simp
    · rw [take_taken]
      exact free_append device _ _
  refuses {device bytes} willing calm _ full := by
    have refused := write_of_full full calm bytes
    have answered : device.whenFull.answer = whenFull.answer := congrArg _ willing.2
    rw [answered] at refused
    exact ⟨_, refused, rfl⟩
  resumes {device bytes} willing disturbed _ := by
    have interrupted : device.isInterrupted (device.offers + 1) = true := by
      simpa using disturbed
    refine ⟨{ device with offers := device.offers + 1 }, ?_, rfl, rfl,
      ⟨⟨willing.1.pieces, willing.1.pauses⟩, willing.2⟩,
      calm_of_interrupted willing.1 interrupted⟩
    exact if_pos interrupted

end Device

end WordPairs
