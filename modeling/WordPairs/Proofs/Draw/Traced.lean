import WordPairs.Draw.Source

/-!
# Indices that a source hands out

`Hands` says which indices a source hands out one after the other, and what it is afterwards. The
indices of an endless stream are handed out in portions, each a `window` of the stream. A `Traced`
source keeps what it has handed out, so that a computation on it tells which draws were made.
-/

namespace WordPairs

variable {σ : Type}

/-- The indices of a stream from a position on, so many of them. -/
def window {α : Type} (stream : Nat → α) (start length : Nat) : List α :=
  (List.range' start length).map stream

section Window

variable {α : Type} (stream : Nat → α)

/-- A window has the length that was asked for. -/
@[simp] theorem length_window (start length : Nat) :
    (window stream start length).length = length := by
  rw [window, List.length_map, List.length_range']

/-- A window begins with the index at its start. -/
theorem window_succ (start length : Nat) :
    window stream start (length + 1) = stream start :: window stream (start + 1) length := by
  rw [window, List.range'_succ, List.map_cons]
  rfl

/-- Two windows next to each other are one. -/
theorem window_append (start first second : Nat) :
    window stream start first ++ window stream (start + first) second =
      window stream start (first + second) := by
  rw [window, window, window, ← List.map_append, List.range'_append_1]

/-- From a position on, a stream goes on with these indices. -/
def Continues (start : Nat) (indices : List α) : Prop :=
  indices = window stream start indices.length

/-- A window is what a stream goes on with. -/
theorem continues_window (start length : Nat) :
    Continues stream start (window stream start length) := by
  rw [Continues, length_window]

/-- What a stream goes on with comes in portions. -/
theorem continues_append {front back : List α} {start : Nat} :
    Continues stream start (front ++ back) ↔
      Continues stream start front ∧ Continues stream (start + front.length) back := by
  rw [Continues, Continues, Continues, List.length_append, ← window_append]
  constructor
  · intro joined
    exact List.append_inj joined (length_window stream start front.length).symm
  · rintro ⟨first, second⟩
    rw [← first, ← second]

end Window

/-- A source hands out indices below a size, one after the other, and becomes another source. -/
inductive Hands [IndexSource σ] (size : Nat) : σ → List (Fin size) → σ → Prop where
  /-- Handing out nothing leaves the source as it is. -/
  | nil (source : σ) : Hands size source [] source
  /-- The first index comes with the next source, which hands out the rest. -/
  | cons {source middle last : σ} {index : Fin size} {rest : List (Fin size)} :
    IndexSource.next size source = .ok (index.val, middle) → Hands size middle rest last →
      Hands size source (index :: rest) last

/-- Indices are handed out in portions. -/
theorem hands_append [IndexSource σ] {size : Nat} {source last : σ}
    {front back : List (Fin size)} :
    Hands size source (front ++ back) last ↔
      ∃ middle, Hands size source front middle ∧ Hands size middle back last := by
  induction front generalizing source with
  | nil =>
    constructor
    · intro all
      exact ⟨source, .nil source, all⟩
    · rintro ⟨middle, none, rest⟩
      cases none
      exact rest
  | cons index front ih =>
    constructor
    · intro all
      cases all with
      | cons drawn rest =>
        obtain ⟨middle, first, second⟩ := ih.1 rest
        exact ⟨middle, .cons drawn first, second⟩
    · rintro ⟨middle, first, second⟩
      cases first with
      | cons drawn rest => exact .cons drawn (ih.2 ⟨middle, rest, second⟩)

/-- A source that hands out a stream for a while hands out whatever the stream goes on with in that
time. -/
theorem hands_of_continues [IndexSource σ] {size limit : Nat} {stream : Nat → Fin size}
    {states : Nat → σ}
    (streams : ∀ draw < limit,
      IndexSource.next size (states draw) = .ok ((stream draw).val, states (draw + 1)))
    {start : Nat} {indices : List (Fin size)} (continues : Continues stream start indices)
    (inside : start + indices.length ≤ limit) :
    Hands size (states start) indices (states (start + indices.length)) := by
  induction indices generalizing start with
  | nil => exact .nil (states start)
  | cons index rest ih =>
    rw [Continues, List.length_cons, window_succ, List.cons.injEq] at continues
    obtain ⟨first, others⟩ := continues
    rw [List.length_cons] at inside ⊢
    rw [first, show start + (rest.length + 1) = start + 1 + rest.length by omega]
    exact .cons (streams start (by omega)) (ih others (by omega))

/-- A source together with the indices that it has handed out. -/
structure Traced (σ : Type) where
  /-- The source. -/
  source : σ
  /-- The indices in the order in which they were handed out. -/
  handed : List Nat

namespace Traced

variable [IndexSource σ]

/-- A source that is traced from here on. -/
def start (source : σ) : Traced σ := ⟨source, []⟩

/-- The next index, which is noted. -/
def next (length : Nat) (traced : Traced σ) : Except Fault (Nat × Traced σ) :=
  (IndexSource.next length traced.source).map fun drawn =>
    (drawn.1, ⟨drawn.2, traced.handed ++ [drawn.1]⟩)

instance : IndexSource (Traced σ) where
  next := next

/-- What a source hands out is noted behind what was noted before. -/
theorem hands {size : Nat} {source last : σ} {indices : List (Fin size)}
    (handed : Hands size source indices last) (before : List Nat) :
    Hands size (⟨source, before⟩ : Traced σ) indices
      ⟨last, before ++ indices.map Fin.val⟩ := by
  induction handed generalizing before with
  | nil source => simpa using Hands.nil (Traced.mk source before)
  | @cons source middle last index rest drawn _ ih =>
    have noted : IndexSource.next size (Traced.mk source before) =
        .ok (index.val, ⟨middle, before ++ [index.val]⟩) := by
      show next size (Traced.mk source before) = _
      rw [next, drawn]
      rfl
    refine .cons noted ?_
    simpa using ih (before ++ [index.val])

/-- What a source hands out of a stream from the start, it hands out as well when it is traced, and
notes just that. -/
theorem hands_of_stream {size limit : Nat} {stream : Nat → Fin size} {states : Nat → σ}
    (streams : ∀ draw < limit,
      IndexSource.next size (states draw) = .ok ((stream draw).val, states (draw + 1)))
    {indices : List (Fin size)} (continues : Continues stream 0 indices)
    (inside : indices.length ≤ limit) :
    Hands size (states 0) indices (states indices.length) ∧
      Hands size (Traced.start (states 0)) indices
        ⟨states indices.length, (window stream 0 indices.length).map Fin.val⟩ := by
  have handed := hands_of_continues streams continues (by rwa [Nat.zero_add])
  rw [Nat.zero_add] at handed
  have noted := hands handed []
  rw [← continues]
  exact ⟨handed, noted⟩

end Traced

end WordPairs
