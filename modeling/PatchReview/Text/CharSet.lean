/-!
Sets of characters, written as the code points where membership changes: outside before the
first, inside from the first to the second, and so on.
-/

namespace PatchReview.Text

/-- A set of characters, as the ascending code points where membership changes. -/
structure CharSet where
  turns : Array Nat

namespace CharSet

/-- How many of the ascending `turns` from `low` to `high` are at most `n`, counted from zero. -/
def countUpTo (turns : Array Nat) (n low high : Nat) : Nat :=
  if h : low < high then
    let middle := (low + high) / 2
    if turns.getD middle 0 ≤ n then countUpTo turns n (middle + 1) high
    else countUpTo turns n low middle
  else low
termination_by high - low

/-- A character is inside after an odd number of turns. -/
def contains (set : CharSet) (c : Char) : Bool :=
  countUpTo set.turns c.toNat 0 set.turns.size % 2 == 1

end CharSet

end PatchReview.Text
