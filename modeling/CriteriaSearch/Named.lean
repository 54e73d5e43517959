/-!
# Named things in order

Lists of things with distinct names, in the order in which the names first appeared.
-/

namespace CriteriaSearch

abbrev Named (α : Type) := List (String × α)

namespace Named

variable {α : Type}

def get? (xs : Named α) (name : String) : Option α := xs.lookup name

def has (xs : Named α) (name : String) : Bool := xs.any (·.1 == name)

/-- Replace the thing with a name in its place, or append it. -/
def set : Named α → String → α → Named α
  | [], name, a => [(name, a)]
  | (n, b) :: xs, name, a => if n = name then (n, a) :: xs else (n, b) :: set xs name a

end Named

end CriteriaSearch
