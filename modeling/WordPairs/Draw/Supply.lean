import WordPairs.Draw.Replay
import WordPairs.Draw.Tape
import WordPairs.Draw.Weyl
import WordPairs.Draw.Zone

/-!
# The sources on offer

`Supply` is any one of the sources of this library, behind one type.
-/

namespace WordPairs

/-- One of the sources of indices. -/
inductive Supply where
  /-- The generator of this library. -/
  | weyl (generator : Weyl)
  /-- A list of recorded indices. -/
  | replay (values : Replay)
  /-- Zone rejection over a tape of words. -/
  | tape (zone : Zone (Counted Tape))
  /-- Zone rejection over the generator of this library. -/
  | hashed (zone : Zone (Counted Weyl))

namespace Supply

/-- The next index of the source that is held. -/
def next (length : Nat) : Supply → Except Fault (Nat × Supply)
  | weyl generator => do
    let (index, generator) ← Uniform.next length generator
    return (index, weyl generator)
  | replay values => do
    let (index, values) ← values.next length
    return (index, replay values)
  | tape zone => do
    let (index, zone) ← zone.next length
    return (index, tape zone)
  | hashed zone => do
    let (index, zone) ← zone.next length
    return (index, hashed zone)

instance : IndexSource Supply where
  next := next

end Supply

end WordPairs
