/-!
# Pack sizes

The outcome of searching a term for parameter packs. The outcomes of the parts of a term combine
from left to right: a deferral or a failure that was found first is kept, a part without packs
does not count, and two packs of different sizes fail.
-/
namespace ConstExpr

/-- What a search for parameter packs found, in the order in which outcomes compare. -/
inductive PackSize where
  /-- A pack that is not bound yet. -/
  | deferred
  /-- A pack bound to a single argument, or packs of different sizes. -/
  | failed
  /-- No pack at all. -/
  | absent
  /-- Packs of this many arguments. -/
  | count (arguments : Nat)
  deriving DecidableEq, Repr, Inhabited, Ord

namespace PackSize

/-- The outcome for a term of which the first part gave one outcome and the rest another. -/
def combine : PackSize → PackSize → PackSize
  | deferred, _ => deferred
  | failed, _ => failed
  | absent, other => other
  | count size, absent => count size
  | count _, deferred => deferred
  | count _, failed => failed
  | count size, count other => if size = other then count size else failed

/-- The outcome for a term whose parts gave these outcomes in order. -/
def combineAll (sizes : List PackSize) : PackSize := sizes.foldl combine absent

end PackSize

end ConstExpr
