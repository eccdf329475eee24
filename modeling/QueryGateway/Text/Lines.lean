import QueryGateway.Text.Split

/-! # Lines of a text -/

namespace QueryGateway.Text

/-- The lines of a text. A carriage return before a line break belongs to it, and a line break at
the end starts no further line. -/
def lines (s : String) : List String :=
  let pieces := splitOn '\n' s
  let last := pieces.getLast?.filter (· ≠ "")
  pieces.dropLast.map (fun line => (dropEnding? "\r" line).getD line) ++ last.toList

end QueryGateway.Text
