/-!
# Character classes as tables of ranges

A class of characters is stored as the inclusive ranges of its code points, in
increasing order and without overlap. The modules beside this one hold the
tables themselves, one per property of the Unicode character database; this
one only says how a table is asked.

The search halves the table at every step, so its fuel is the size of the
table and is never the reason for an answer: a range is examined once the
bounds are one apart.
-/

namespace Prune.Text

/-- Looks for a range that holds `n` among the entries from `lo` up to `hi`. -/
def searchRanges (table : Array (Nat × Nat)) (n : Nat) : Nat → Nat → Nat → Bool
  | 0, _, _ => false
  | fuel + 1, lo, hi =>
      if hi ≤ lo then false
      else
        let mid := (lo + hi) / 2
        match table[mid]? with
        | none => false
        | some (first, last) =>
            if n < first then searchRanges table n fuel lo mid
            else if last < n then searchRanges table n fuel (mid + 1) hi
            else true

/-- Whether a table of ranges holds the character. -/
def inRanges (table : Array (Nat × Nat)) (c : Char) : Bool :=
  searchRanges table c.toNat (table.size + 1) 0 table.size

end Prune.Text
