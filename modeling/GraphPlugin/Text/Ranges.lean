/-! Sets of code points, given as closed ranges. -/
namespace GraphPlugin.Text

abbrev Ranges := List (Nat × Nat)

def Ranges.contains (rs : Ranges) (n : Nat) : Bool := rs.any fun r => r.1 ≤ n && n ≤ r.2

end GraphPlugin.Text
