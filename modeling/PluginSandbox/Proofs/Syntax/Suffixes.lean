import PluginSandbox.Syntax.Tree

/-!
# Accesses and calls after an object

A chain is an object with accesses and calls after it. As an expression it is nested to the left:
the last access or call is the outermost one.
-/
namespace PluginSandbox.Syntax

/-- An access or a call after an object. -/
inductive Suffix where
  /-- The property with a fixed name. -/
  | member (name : String) (optional : Bool)
  /-- The property whose key is computed. -/
  | index (key : Expr) (optional : Bool)
  /-- A call. -/
  | call (arguments : List Element) (optional : Bool)

namespace Suffix

/-- The access or call applied to an object. -/
def apply : Suffix → Expr → Expr
  | .member name optional, base => .member base name optional
  | .index key optional, base => .index base key optional
  | .call arguments optional, base => .call base arguments optional

/-- Whether the access or call gives up on an object that is null or undefined. -/
def isOptional : Suffix → Bool
  | .member _ optional | .index _ optional | .call _ optional => optional

/-- Accesses and calls applied to an object one after another. -/
def applyAll (suffixes : List Suffix) (base : Expr) : Expr :=
  suffixes.foldl (fun object suffix => suffix.apply object) base

/-- Some accesses and calls are applied after others. -/
theorem applyAll_append (first second : List Suffix) (e : Expr) :
    applyAll (first ++ second) e = applyAll second (applyAll first e) :=
  List.foldl_append

end Suffix

namespace Expr

/-- The object that a chain starts with. -/
def base : Expr → Expr
  | .member inner _ _ | .index inner _ _ | .call inner _ _ => inner.base
  | e => e

/-- The accesses and calls of a chain in order. -/
def suffixes : Expr → List Suffix
  | .member inner name optional => inner.suffixes ++ [.member name optional]
  | .index inner key optional => inner.suffixes ++ [.index key optional]
  | .call inner arguments optional => inner.suffixes ++ [.call arguments optional]
  | _ => []

variable (suffix : Suffix) (e : Expr)

/-- A chain with one more access or call starts as before. -/
theorem base_apply : (suffix.apply e).base = e.base := by
  cases suffix <;> rfl

/-- A chain with one more access or call has it last. -/
theorem suffixes_apply : (suffix.apply e).suffixes = e.suffixes ++ [suffix] := by
  cases suffix <;> rfl

variable {e}

/-- What holds of expressions that are no chains, and of a chain if it holds of the chain without
its last access or call, holds of all expressions. -/
theorem chainInduction {P : Expr → Prop} (alone : ∀ e : Expr, e.suffixes = [] → e.base = e → P e)
    (last : ∀ (suffix : Suffix) (e : Expr), P e → P (suffix.apply e)) (e : Expr) : P e :=
  match e with
  | .member inner name optional =>
    last (.member name optional) inner (chainInduction alone last inner)
  | .index inner key optional =>
    last (.index key optional) inner (chainInduction alone last inner)
  | .call inner arguments optional =>
    last (.call arguments optional) inner (chainInduction alone last inner)
  | .literal _ | .identifier _ | .this | .template _ _ | .array _ | .object _ | .function _
  | .arrow _ | .unary _ _ | .update _ _ _ | .binary _ _ _ | .logical _ _ _ | .assign _ _ _
  | .conditional _ _ _ | .new _ _ | .await _ => alone _ rfl rfl

/-- An expression is its object with its accesses and calls. -/
theorem applyAll_suffixes (e : Expr) : Suffix.applyAll e.suffixes e.base = e := by
  induction e using chainInduction with
  | alone e suffixes base => rw [suffixes, base, Suffix.applyAll, List.foldl_nil]
  | last suffix e ih =>
    rw [suffixes_apply, base_apply, Suffix.applyAll_append, ih]
    rfl

/-- What a chain starts with is no chain. -/
theorem base_base (e : Expr) : e.base.base = e.base ∧ e.base.suffixes = [] := by
  induction e using chainInduction with
  | alone e suffixes base => rw [base]; exact ⟨base, suffixes⟩
  | last suffix e ih => rwa [base_apply]

/-- Accesses and calls that are applied to an expression come after its own. -/
theorem suffixes_applyAll (suffixes : List Suffix) (e : Expr) :
    (Suffix.applyAll suffixes e).base = e.base ∧
      (Suffix.applyAll suffixes e).suffixes = e.suffixes ++ suffixes := by
  induction suffixes generalizing e with
  | nil => exact ⟨rfl, (List.append_nil _).symm⟩
  | cons suffix rest ih =>
    obtain ⟨base, all⟩ := ih (suffix.apply e)
    refine ⟨base.trans (base_apply suffix e), all.trans ?_⟩
    rw [suffixes_apply, List.append_assoc, List.singleton_append]

end Expr

end PluginSandbox.Syntax
