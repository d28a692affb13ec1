import PluginSandbox.Script.Object

/-!
# The heap

Objects, scopes and realms live on the heap and are never removed. A scope binds names; code
sees the scopes of its environment from the inside out, so a read or a write of a name goes to
the innermost scope that binds it. A binding exists from the start of its block but has no value
before its declaration runs.
-/
namespace PluginSandbox.Script

/-- What a name stands for in a scope. -/
structure Binding where
  /-- The value, none before the declaration runs. -/
  value : Option Value
  /-- Whether the value may be replaced. -/
  isMutable : Bool

/-- The names that a scope binds. -/
structure Scope where
  /-- The bindings by name. -/
  bindings : List (String × Binding) := []
  deriving Inhabited

namespace Scope

/-- The binding of a name. -/
def get? (scope : Scope) (name : String) : Option Binding := scope.bindings.lookup name

/-- The bindings with one replaced or added. -/
def insertBinding (name : String) (binding : Binding) :
    List (String × Binding) → List (String × Binding)
  | [] => [(name, binding)]
  | (other, old) :: rest =>
    if other = name then (name, binding) :: rest
    else (other, old) :: insertBinding name binding rest

/-- The scope with a name bound. -/
def set (scope : Scope) (name : String) (binding : Binding) : Scope :=
  ⟨insertBinding name binding scope.bindings⟩

end Scope

/-- The objects that provide the properties that values of a kind share. -/
structure Prototypes where
  /-- For values of every kind. -/
  object : Ref
  /-- For arrays. -/
  array : Ref
  /-- For texts. -/
  string : Ref
  /-- For numbers. -/
  number : Ref
  /-- For functions. -/
  function : Ref
  /-- For errors. -/
  error : Ref
  deriving DecidableEq, Repr, Inhabited

/-- The object that provides the properties of the kind of an object, beside those that all
values share. -/
def Prototypes.forObject? (prototypes : Prototypes) :
    Object → Option Ref
  | .array .. => some prototypes.array
  | .function .. => some prototypes.function
  | .error _ => some prototypes.error
  | _ => none

/-- A world of global names with a library of its own. -/
structure Realm where
  /-- The scope of the global names. -/
  globals : ScopeRef
  /-- The shared properties. -/
  prototypes : Prototypes
  /-- How many calls of script functions are running. -/
  callDepth : Nat := 0
  deriving DecidableEq, Repr, Inhabited

/-- Everything that scripts refer to. -/
structure Heap where
  /-- The objects. -/
  objects : Array Object := #[]
  /-- The scopes. -/
  scopes : Array Scope := #[]
  /-- The realms. -/
  realms : Array Realm := #[]
  deriving Inhabited

namespace Heap

/-- The object at a reference. -/
def object? (heap : Heap) (ref : Ref) : Option Object := heap.objects[ref.index]?

/-- The scope at a reference. -/
def scope (heap : Heap) (ref : ScopeRef) : Scope := (heap.scopes[ref.index]?).getD {}

/-- The realm at a reference. -/
def realm (heap : Heap) (ref : RealmRef) : Realm := (heap.realms[ref.index]?).getD default

/-- Puts an object on the heap. -/
def allocate (heap : Heap) (object : Object) : Ref × Heap :=
  (⟨heap.objects.size⟩, { heap with objects := heap.objects.push object })

/-- Puts an object on the heap and refers to it. -/
def allocateValue (heap : Heap) (object : Object) : Value × Heap :=
  let (ref, heap) := heap.allocate object
  (.object ref, heap)

/-- Replaces an object. -/
def replace (heap : Heap) (ref : Ref) (object : Object) : Heap :=
  { heap with objects := heap.objects.setIfInBounds ref.index object }

/-- Changes a scope. -/
def changeScope (heap : Heap) (ref : ScopeRef) (change : Scope → Scope) : Heap :=
  { heap with scopes := heap.scopes.modify ref.index change }

/-- Changes a realm. -/
def changeRealm (heap : Heap) (ref : RealmRef) (change : Realm → Realm) : Heap :=
  { heap with realms := heap.realms.modify ref.index change }

/-- Puts a scope on the heap, inside the given scopes. -/
def newScope (heap : Heap) (scope : Scope) (outer : List ScopeRef) : Environment × Heap :=
  (⟨⟨heap.scopes.size⟩, outer⟩, { heap with scopes := heap.scopes.push scope })

/-- An empty scope inside an environment. -/
def newChild (heap : Heap) (environment : Environment) : Environment × Heap :=
  heap.newScope {} environment.scopes

/-- Whether a scope binds a name itself. -/
def bindsOwn (heap : Heap) (ref : ScopeRef) (name : String) : Bool :=
  ((heap.scope ref).get? name).isSome

/-- Whether code sees a binding of a name. -/
def binds (heap : Heap) (environment : Environment) (name : String) : Bool :=
  environment.scopes.any fun ref => heap.bindsOwn ref name

/-- Declares a name in the innermost scope without giving it a value. -/
def declareName (heap : Heap) (environment : Environment) (name : String) (isMutable : Bool) :
    Heap :=
  heap.changeScope environment.innermost fun scope => scope.set name ⟨none, isMutable⟩

/-- Gives a name of the innermost scope its first value, declaring it if need be. -/
def bindName (heap : Heap) (environment : Environment) (name : String) (value : Value)
    (isMutable : Bool) : Heap :=
  heap.changeScope environment.innermost fun scope => scope.set name ⟨some value, isMutable⟩

/-- The error of a name that is read or written before its declaration runs. -/
def uninitialized (name : String) : RuntimeError :=
  .reference ("Cannot access '" ++ name ++ "' before initialization")

/-- The error of a name that nothing binds. -/
def notDefined (name : String) : RuntimeError := .reference (name ++ " is not defined")

/-- The innermost of some scopes that binds a name, with the binding. -/
def findBinding (heap : Heap) (name : String) : List ScopeRef → Option (ScopeRef × Binding)
  | [] => none
  | ref :: outer =>
    match (heap.scope ref).get? name with
    | some binding => some (ref, binding)
    | none => heap.findBinding name outer

/-- The value of a name. -/
def readName (heap : Heap) (environment : Environment) (name : String) :
    Except RuntimeError Value :=
  match heap.findBinding name environment.scopes with
  | some (_, ⟨some value, _⟩) => .ok value
  | some (_, ⟨none, _⟩) => .error (uninitialized name)
  | none => .error (notDefined name)

/-- The scope in which the value of a name may be replaced. -/
def writableScope (heap : Heap) (environment : Environment) (name : String) :
    Except RuntimeError ScopeRef :=
  match heap.findBinding name environment.scopes with
  | some (_, ⟨none, _⟩) => .error (uninitialized name)
  | some (_, ⟨some _, false⟩) => .error (.type "Assignment to constant variable.")
  | some (ref, ⟨some _, true⟩) => .ok ref
  | none => .error (notDefined name)

/-- Gives a variable of a scope a value. -/
def setVariable (heap : Heap) (ref : ScopeRef) (name : String) (value : Value) : Heap :=
  heap.changeScope ref fun scope => scope.set name ⟨some value, true⟩

/-- Replaces the value of a name. -/
def writeName (heap : Heap) (environment : Environment) (name : String) (value : Value) :
    Except RuntimeError Heap := do
  let ref ← heap.writableScope environment name
  return heap.setVariable ref name value

/-- The bindings of some names in a scope. -/
def copiedBindings (scope : Scope) (names : List String) : Scope :=
  names.foldl (fun copy name =>
    match scope.get? name with
    | some binding => copy.set name binding
    | none => copy) {}

/-- An environment whose innermost scope is a copy of the present one, for some names. -/
def copyScope (heap : Heap) (environment : Environment) (names : List String) :
    Environment × Heap :=
  heap.newScope (copiedBindings (heap.scope environment.innermost) names) environment.outer

end Heap

end PluginSandbox.Script
