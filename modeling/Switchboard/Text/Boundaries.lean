/-!
# Sets of code points by their boundaries

A property of characters is kept as the sorted list of the code points at which it changes. A code
point has the property when the number of boundaries at or below it is odd.
-/

namespace Switchboard.Text

/-- Membership in a set given by its boundaries. -/
def isWithin (boundaries : List Nat) (n : Nat) : Bool :=
  (boundaries.takeWhile (· ≤ n)).length % 2 == 1

end Switchboard.Text
