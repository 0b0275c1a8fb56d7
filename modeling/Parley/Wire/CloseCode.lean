/-!
# Close codes

The codes with which connections end, by what they mean to the client.
-/

namespace Parley.Wire.CloseCode

/-- The connection was closed on purpose. -/
def normal : Nat := 1000

/-- A close frame came without a code. -/
def absent : Nat := 1005

/-- The connection ended without a close frame. -/
def abnormal : Nat := 1006

/-- The token changed; dial again with the new one. -/
def tokenChanged : Nat := 4000

/-- The server wants no further connection. -/
def rejected : Nat := 4001

/-- After this code the client does not dial again by itself. -/
def isTerminal (code : Nat) : Bool :=
  code = normal ∨ code = rejected

end Parley.Wire.CloseCode
