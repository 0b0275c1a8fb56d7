import Parley.Token.Store

/-!
# Several stores for one file

Stores that were opened for the same path share its file, also with programs that know of no store.
Each holds what it saved or read last itself.
-/

namespace Parley.Token

/-- The stores for a path, in the order in which they were opened, and the files. -/
structure Shelf where
  path : String
  tree : Files.Tree
  stores : List Store
deriving Repr

/-- Something that is done to one of the stores or to the files. -/
inductive Deed where
  /-- A further store is opened. -/
  | openStore
  /-- A store saves a token. A save that is refused leaves the files as `spoiled`. -/
  | save (index : Nat) (now : Moment) (token : String) (spoiled : Files.Tree)
  | clear (index : Nat)
  | reload (index : Nat)
  /-- Somebody else leaves the files as they are then. -/
  | change (tree : Files.Tree)

/-- The store to which something is done. -/
def Deed.index? : Deed → Option Nat
  | .save index _ _ _ => some index
  | .clear index => some index
  | .reload index => some index
  | _ => none

namespace Shelf

/-- No store was opened yet. -/
def ofFiles (path : String) (tree : Files.Tree) : Shelf :=
  ⟨path, tree, []⟩

/-- The shelf after a deed, and how the deed went; none if there is no such store. -/
def step (shelf : Shelf) : Deed → Option (Shelf × Except StoreFault Unit)
  | .openStore =>
      match Store.ofPath shelf.tree shelf.path with
      | .ok store => some ({ shelf with stores := shelf.stores ++ [store] }, .ok ())
      | .error fault => some (shelf, .error fault)
  | .save index now token spoiled =>
      shelf.stores[index]?.map fun store =>
        match store.save now token shelf.tree with
        | .ok (store, tree) =>
            ({ shelf with tree, stores := shelf.stores.set index store }, .ok ())
        | .error refusal => ({ shelf with tree := spoiled }, .error (.file refusal))
  | .clear index =>
      shelf.stores[index]?.map fun store =>
        let (store, files) := store.clear shelf.tree
        let stores := shelf.stores.set index store
        match files with
        | .ok tree => ({ shelf with tree, stores }, .ok ())
        | .error refusal => ({ shelf with stores }, .error (.file refusal))
  | .reload index =>
      shelf.stores[index]?.map fun store =>
        match store.reload shelf.tree with
        | .ok store => ({ shelf with stores := shelf.stores.set index store }, .ok ())
        | .error fault => (shelf, .error fault)
  | .change tree => some ({ shelf with tree }, .ok ())

def run : Shelf → List Deed → Option Shelf
  | shelf, [] => some shelf
  | shelf, deed :: rest => (shelf.step deed).bind fun outcome => outcome.1.run rest

def held (shelf : Shelf) (index : Nat) : Option Deposit :=
  shelf.stores[index]?.bind (·.held)

/-- The token that one of the stores hands out. -/
def current (shelf : Shelf) (index : Nat) : Option String :=
  shelf.stores[index]?.bind Store.current

end Shelf

end Parley.Token
