import Parley.Text.Blank
import Parley.Token.Store

/-!
# Token sources

Where the token comes from: the command line, the environment or a file, in this order. Only the
file can bring a new token while the program runs.
-/

namespace Parley.Terminal

/-- Where the token comes from. -/
inductive TokenSource where
  | constant (token : String)
  | stored (store : Token.Store)
deriving DecidableEq, Repr

/-- The environment variable that holds a token. -/
def tokenVariable : String :=
  "NEOMIND_TOKEN"

namespace TokenSource

/-- The first token given that is not blank, or else what is in the token file. -/
def choose (tree : Files.Tree) (given : List String) (tokenPath : String) :
    Except String TokenSource :=
  match given.find? fun token => ! Text.isBlankText token.toList with
  | some token => .ok (.constant token)
  | none =>
      match Token.Store.ofPath tree tokenPath with
      | .ok store => .ok (.stored store)
      | .error _ => .error ("failed to read token file " ++ tokenPath)

def current : TokenSource → Option String
  | .constant token => Token.present (some token)
  | .stored store => store.current

/-- The file to write a token to if there is none at hand. -/
def missing? : TokenSource → Option String
  | .constant _ => none
  | .stored store => if store.current.isNone then some store.path else none

/-- The source after a look at the token file, and whether it has brought a new token. -/
def reread (tree : Files.Tree) : TokenSource → TokenSource × Bool
  | .constant token => (.constant token, false)
  | .stored store =>
      match store.reload tree with
      | .error _ => (.stored store, false)
      | .ok reloaded =>
          (.stored reloaded,
            reloaded.current.isSome && reloaded.current != store.current)

end TokenSource

end Parley.Terminal
