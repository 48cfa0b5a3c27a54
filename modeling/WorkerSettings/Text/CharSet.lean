/-!
# Sets of characters

A character property is given by its table: inclusive ranges of code points in
ascending order. Membership asks whether some range holds the code point, so the
order of a table is for its readers and never decides an answer.
-/

namespace WorkerSettings.Text

/-- A set of characters, given by inclusive ranges of code points. -/
structure CharSet where
  ranges : List (Nat × Nat)

namespace CharSet

def contains (s : CharSet) (c : Char) : Bool :=
  s.ranges.any fun range => range.1 ≤ c.toNat && c.toNat ≤ range.2

end CharSet

end WorkerSettings.Text
