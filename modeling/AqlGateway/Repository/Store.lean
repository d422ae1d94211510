import AqlGateway.Tree.Filter

/-!
# Stores of trees

* `TreeStore` — the operations that both stores of trees offer, in the monad of the store;
* `notFound` — the error of a look-up that finds nothing.
-/

namespace AqlGateway

structure TreeStore (m : Type → Type) where
  create : Tree → m Unit
  findById : String → m Tree
  findByCode : String → m Tree
  findAll : TreeFilter → m (List Tree)
  /-- Writes the fields of a tree at an instant. -/
  update : Instant → Tree → m Unit
  /-- Writes the status and health of the tree with an id at an instant. -/
  updateStatus : Instant → String → Status → Int64 → m Unit
  delete : String → m Unit
  /-- A code that no stored tree has. -/
  nextCode : m String
  countByLocation : String → m Int64
  countByStatus : Status → m Int64

/-- The error of a look-up by `field` that finds no tree with `value`. -/
def notFound (field value : String) : Error := .notFound "tree" field value

end AqlGateway
