/-!
# Clients

The connection through which messages go. A client that was opened for a source is closed with it,
one that was handed to it stays open.
-/

namespace CriteriaSearch.Http

structure Client where
  owned : Bool
  closed : Bool := false
deriving DecidableEq, Repr

namespace Client

/-- A client opened for a source. -/
def opened : Client := { owned := true }

/-- A client handed to a source. -/
def handed : Client := { owned := false }

/-- The client when its source is closed. -/
def release (c : Client) : Client := { c with closed := c.closed || c.owned }

end Client

end CriteriaSearch.Http
