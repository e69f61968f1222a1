namespace AlertReceivers.Text

/-!
# Ranges of characters

Character properties are given as ascending lists of closed ranges of code
points.
-/

/-- Whether a code point lies in one of the closed ranges. -/
def inRanges
    (ranges : List (Nat × Nat))
    (code : Nat) :
    Bool :=
  ranges.any fun range => range.1 <= code && code <= range.2

end AlertReceivers.Text
