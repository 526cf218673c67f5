namespace SlashCommands.Text

/-- Ascending, disjoint ranges of code points, each as its first and its last member. -/
abbrev Ranges := List (Nat × Nat)

namespace Ranges

def contains : Ranges → Nat → Bool
  | [], _ => false
  | (first, last) :: rest, n => if n < first then false else n ≤ last || contains rest n

end Ranges

end SlashCommands.Text
