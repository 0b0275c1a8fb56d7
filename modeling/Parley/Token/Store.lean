import Parley.Files.Tree
import Parley.Json.Decoder
import Parley.Json.Printer
import Parley.Token.Basic
import Parley.Token.Moment

/-!
# Token store

A token kept in a file and held in memory. The file is private to its owner. What fails leaves the
held token as it was, except that clearing forgets it in any case.
-/

namespace Parley.Token

/-- A token and when it was saved. -/
structure Deposit where
  token : String
  savedAt : Moment
deriving DecidableEq, Repr

namespace Deposit

def record : Json.Record Deposit where
  start := ⟨"", ⟨⟨1970, 1, 1⟩, 0, 0, 0⟩⟩
  fields := [
    .of "token" true .text fun token stored => { stored with token },
    .of "saved_at" true (.refine .text Moment.parse?) fun savedAt stored =>
      { stored with savedAt }]

def render (stored : Deposit) : String :=
  Json.renderIndented [
    ("token", .string stored.token),
    ("saved_at", .string stored.savedAt.render)]

def parse (text : String) : Except Json.Fault Deposit :=
  record.decoder.parse text

end Deposit

inductive StoreFault where
  | file (refusal : Files.Refusal)
  | json (fault : Json.Fault)
deriving DecidableEq, Repr

/-- A store for the file at a path. -/
structure Store where
  path : String
  held : Option Deposit
deriving DecidableEq, Repr

/-- The token in the file at a path; none if there is no file. -/
def load (tree : Files.Tree) (path : String) : Except StoreFault (Option Deposit) :=
  if ! tree.pathExists path then .ok none
  else
    match tree.readText path with
    | .error refusal => .error (.file refusal)
    | .ok text =>
        match Deposit.parse text with
        | .error fault => .error (.json fault)
        | .ok stored => .ok (some stored)

namespace Store

/-- The store for a path, with the token that is in its file. -/
def ofPath (tree : Files.Tree) (path : String) : Except StoreFault Store := do
  .ok ⟨path, ← load tree path⟩

def current (store : Store) : Option String :=
  present (store.held.map (·.token))

/-- Saves a token: the store and the files after it. -/
def save (now : Moment) (token : String) (store : Store) (tree : Files.Tree) :
    Except Files.Refusal (Store × Files.Tree) := do
  let stored : Deposit := ⟨token, now⟩
  let tree ← tree.writePrivate store.path (Text.Utf8.encode stored.render.toList)
  .ok ({ store with held := some stored }, tree)

/-- Forgets the token: the store after it, and the files without its file. A file that does not
exist is gone already. -/
def clear (store : Store) (tree : Files.Tree) : Store × Except Files.Refusal Files.Tree :=
  ({ store with held := none },
    match tree.remove store.path with
    | .error .notFound => .ok tree
    | other => other)

/-- Holds what is in the file now. -/
def reload (tree : Files.Tree) (store : Store) : Except StoreFault Store := do
  .ok { store with held := ← load tree store.path }

end Store

end Parley.Token
