import PluginSandbox.Peg.Grammar
import PluginSandbox.Text.Bytes

/-!
# Parse trees

A node of a parse tree is a rule together with the part of the text that it matched. The
function `Tree.fold` visits the nodes from the leaves to the root; whatever a tree denotes is
computed through it.
-/
namespace PluginSandbox.Peg

/-- A parse tree. -/
inductive Tree (ρ : Type) where
  /-- A rule, the place where it starts, the offset where it ends, and its children. -/
  | node (rule : ρ) (start : Place) (stop : Nat) (children : List (Tree ρ))

/-- A node without its children. -/
structure Node (ρ : Type) where
  /-- The rule that matched. -/
  rule : ρ
  /-- The place where the match starts. -/
  place : Place
  /-- The offset of the end of the match. -/
  stop : Nat

/-- The offset of the start of a match. -/
def Node.start {ρ : Type} (node : Node ρ) : Nat := node.place.offset

/-- The characters of a match. -/
def Node.characters {ρ : Type} (node : Node ρ) : List Char :=
  Text.takeBytes (node.stop - node.start) node.place.rest

/-- The text of a match. -/
def Node.text {ρ : Type} (node : Node ρ) : String := String.ofList node.characters

namespace Tree

variable {ρ α : Type}

/-- The root of a tree. -/
def root : Tree ρ → Node ρ
  | .node rule start stop _ => ⟨rule, start, stop⟩

mutual

/-- The value of a tree, where a function computes the value of a node from the nodes below it
and their values. -/
def fold (value : Node ρ → List (Node ρ × α) → α) : Tree ρ → α
  | .node rule start stop children => value ⟨rule, start, stop⟩ (foldAll value children)

/-- The roots of trees, each with the value of its tree. -/
def foldAll (value : Node ρ → List (Node ρ × α) → α) : List (Tree ρ) → List (Node ρ × α)
  | [] => []
  | tree :: others => (tree.root, tree.fold value) :: foldAll value others

end

end Tree

end PluginSandbox.Peg
