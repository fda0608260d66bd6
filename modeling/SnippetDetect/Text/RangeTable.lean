/-!
Sets of characters as tables of code points.

A table lists where a run of members starts and where the next run of others starts,
in ascending order. A code point belongs to the set when an odd number of the listed
ones are at most it.
-/

namespace SnippetDetect.Text

/-- How many of the ascending `keys` are at most `n`, by halving the span `lo` to `hi` that
holds the answer. -/
def rankBetween (key : Nat → Nat) (n : Nat) : (fuel lo hi : Nat) → Nat
  | 0, lo, _ => lo
  | fuel + 1, lo, hi =>
      if lo < hi then
        let mid := (lo + hi) / 2
        if key mid ≤ n then rankBetween key n fuel (mid + 1) hi
        else rankBetween key n fuel lo mid
      else lo

/-- How many of the first `size` ascending `keys` are at most `n`. -/
def rank (key : Nat → Nat) (size n : Nat) : Nat :=
  rankBetween key n (size.log2 + 1) 0 size

/-- Alternating starts of members and of others. -/
structure RangeTable where
  bounds : Array Nat

def RangeTable.contains (t : RangeTable) (n : Nat) : Bool :=
  rank (fun i => t.bounds.getD i 0) t.bounds.size n % 2 == 1

end SnippetDetect.Text
