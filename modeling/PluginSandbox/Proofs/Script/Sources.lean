import PluginSandbox.Script.Library.Arrays
import PluginSandbox.Script.Library.Globals
import PluginSandbox.Script.Operation

/-!
# What functions do

A function is created with what it does and keeps it: the code of a script in its environment, a
part of the library or of the host, or the loading of modules from a source. No operation on the
heap that scripts and their hosts perform brings in a function of another kind than the library and
the host have, so what holds of the functions on a heap holds of them later. In particular, they
load modules from the sources that they were created with.
-/
namespace PluginSandbox.Script

variable {allowed : ModuleSource → Prop}

/-- Whether a function loads modules from an allowed source, if it loads any. -/
def Callable.LoadsFrom (allowed : ModuleSource → Prop) : Callable → Prop
  | .require source => allowed source
  | _ => True

/-- Whether an object loads modules from an allowed source, if it loads any. -/
def Object.LoadsFrom (allowed : ModuleSource → Prop) : Object → Prop
  | .function _ callable _ => callable.LoadsFrom allowed
  | _ => True

/-- Whether all objects of a heap load modules from allowed sources alone. -/
def Heap.LoadsFrom (allowed : ModuleSource → Prop) (heap : Heap) : Prop :=
  ∀ object ∈ heap.objects, object.LoadsFrom allowed

/-- A rule for what functions do, which the functions of the library and of the host obey. -/
structure FunctionRule where
  /-- What functions may do. -/
  allows : Callable → Prop
  builtin : ∀ function, allows (.builtin function)
  host : ∀ behaviour waits, allows (.host behaviour waits)

namespace FunctionRule

/-- Functions load modules from allowed sources. -/
def loading (allowed : ModuleSource → Prop) : FunctionRule where
  allows := Callable.LoadsFrom allowed
  builtin _ := trivial
  host _ _ := trivial

/-- Functions of scripts see allowed scopes. -/
def seeing (allowed : ScopeRef → Prop) : FunctionRule where
  allows
    | .script _ environment _ => ∀ ref ∈ environment.scopes, allowed ref
    | _ => True
  builtin _ := trivial
  host _ _ := trivial

/-- Whether a rule allows the functions that a script brings about: those that load modules from
allowed sources, and those that it creates in environments that it may see. -/
structure Suits (rule : FunctionRule) (allowed : ModuleSource → Prop)
    (sees : Environment → Prop) : Prop where
  require : ∀ source, allowed source → rule.allows (.require source)
  script : ∀ definition environment this, sees environment →
    rule.allows (.script definition environment this)

theorem Suits.mono {rule : FunctionRule} {sees sees' : Environment → Prop}
    (suits : rule.Suits allowed sees) (fewer : ∀ environment, sees' environment →
      sees environment) : rule.Suits allowed sees' :=
  ⟨suits.require, fun definition environment this seen =>
    suits.script definition environment this (fewer environment seen)⟩

theorem suits_loading (allowed : ModuleSource → Prop) (sees : Environment → Prop) :
    (loading allowed).Suits allowed sees :=
  ⟨fun _ allowed => allowed, fun _ _ _ _ => trivial⟩

end FunctionRule

variable {rule : FunctionRule}

/-- Whether an object obeys a rule, if it is a function. -/
def Object.Obeys (rule : FunctionRule) : Object → Prop
  | .function _ callable _ => rule.allows callable
  | _ => True

/-- Whether all objects of a heap obey a rule. -/
def Heap.Obeys (rule : FunctionRule) (heap : Heap) : Prop :=
  ∀ object ∈ heap.objects, object.Obeys rule

namespace Object

theorem obeys_builtin (name : String) (function : Builtin) (properties : Properties) :
    (Object.function name (.builtin function) properties).Obeys rule := rule.builtin function

theorem obeys_ofError (name message : String) :
    (Object.ofError name message).Obeys rule := trivial

/-- A written element leaves an array. -/
theorem obeys_setElement (elements : List Value) (properties : Properties) (key : String)
    (length : Float) (value : Value) (object : Object)
    (set : setElement elements properties key length value = .ok object) :
    object.Obeys rule := by
  unfold setElement at set
  split at set
  · cases count : lengthOfNumber length with
    | error problem => simp [count, bind, Except.bind] at set
    | ok count =>
      simp only [‹lengthOfNumber length = _›, bind, Except.bind, pure, Except.pure] at set
      cases set
      trivial
  · split at set
    · split at set
      · cases set
        trivial
      · rename_i index _ _
        cases grown : checkedLength (index + 1) with
        | error problem => simp [grown, bind, Except.bind] at set
        | ok grown =>
          simp only [‹checkedLength (index + 1) = _›, bind, Except.bind, pure,
            Except.pure] at set
          cases set
          trivial
    · cases set
      trivial

/-- A write of a property keeps what a function does. -/
theorem Obeys.setOwn {object written : Object} (obeys : object.Obeys rule)
    (key : String) (length : Float) (value : Value)
    (set : object.setOwn key length value = .ok written) : written.Obeys rule := by
  cases object with
  | ordinary properties => cases set; trivial
  | error properties => cases set; trivial
  | function name callable properties => cases set; exact obeys
  | array elements properties => exact obeys_setElement _ _ _ _ _ _ set
  | view shown => cases set

/-- The deletion of a property keeps what a function does. -/
theorem Obeys.deleteOwn {object : Object} (obeys : object.Obeys rule)
    (key : String) : (object.deleteOwn key).Obeys rule := by
  cases object with
  | function name callable properties => exact obeys
  | array elements properties =>
    simp only [Object.deleteOwn]
    split <;> trivial
  | _ => trivial

end Object

namespace Heap

variable {heap : Heap}

/-- Only the objects matter. -/
theorem Obeys.of_objects {other : Heap} (obeys : heap.Obeys rule)
    (same : other.objects = heap.objects) : other.Obeys rule := by
  unfold Obeys
  rw [same]
  exact obeys

/-- The object at a reference obeys the rule. -/
theorem Obeys.object (obeys : heap.Obeys rule) {ref : Ref} {object : Object}
    (found : heap.object? ref = some object) : object.Obeys rule :=
  obeys object (Array.mem_of_getElem? found)

/-- The object that a value refers to obeys the rule. -/
theorem Obeys.objectOf (obeys : heap.Obeys rule) {value : Value} {object : Object}
    (found : heap.objectOf? value = some object) : object.Obeys rule := by
  cases value with
  | object ref => exact obeys.object found
  | _ => cases found

theorem Obeys.allocate (obeys : heap.Obeys rule) {object : Object}
    (new : object.Obeys rule) : (heap.allocate object).2.Obeys rule := by
  intro other member
  rcases Array.mem_push.mp member with old | rfl
  · exact obeys other old
  · exact new

theorem Obeys.allocateValue (obeys : heap.Obeys rule) {object : Object}
    (new : object.Obeys rule) : (heap.allocateValue object).2.Obeys rule :=
  obeys.allocate new

theorem Obeys.replace (obeys : heap.Obeys rule) (ref : Ref) {object : Object}
    (new : object.Obeys rule) : (heap.replace ref object).Obeys rule := by
  intro other member
  rcases Array.mem_or_eq_of_mem_setIfInBounds member with old | rfl
  · exact obeys other old
  · exact new

theorem Obeys.changeScope (obeys : heap.Obeys rule) (ref : ScopeRef)
    (change : Scope → Scope) : (heap.changeScope ref change).Obeys rule :=
  obeys.of_objects rfl

theorem Obeys.changeRealm (obeys : heap.Obeys rule) (ref : RealmRef)
    (change : Realm → Realm) : (heap.changeRealm ref change).Obeys rule :=
  obeys.of_objects rfl

theorem Obeys.newScope (obeys : heap.Obeys rule) (scope : Scope)
    (outer : List ScopeRef) : (heap.newScope scope outer).2.Obeys rule :=
  obeys.of_objects rfl

theorem Obeys.bindName (obeys : heap.Obeys rule) (environment : Environment)
    (name : String) (value : Value) (isMutable : Bool) :
    (heap.bindName environment name value isMutable).Obeys rule :=
  obeys.changeScope _ _

/-- The object of a write is the present one, as far as what it does goes. -/
theorem Obeys.written (obeys : heap.Obeys rule) {target value : Value}
    {key : String} {ref : Ref} {object : Object}
    (written : heap.written target key value = .ok (ref, object)) : object.Obeys rule := by
  unfold Heap.written at written
  split at written
  · rename_i place _
    have present : ((heap.object? place).getD default).Obeys rule := by
      cases found : heap.object? place with
      | none => trivial
      | some object => exact obeys.object found
    cases set : ((heap.object? place).getD default).setOwn key (heap.lengthNumber value) value with
    | error problem => simp [set, bind, Except.bind] at written
    | ok changed =>
      simp only [set, bind, Except.bind, pure, Except.pure, Except.ok.injEq,
        Prod.mk.injEq] at written
      exact written.2 ▸ present.setOwn key _ value set
  all_goals cases written

theorem Obeys.delete (obeys : heap.Obeys rule) (target : Value) (key : String) :
    (heap.delete target key).Obeys rule := by
  unfold Heap.delete
  split
  · split
    · rename_i found
      exact obeys.replace _ ((obeys.object found).deleteOwn key)
    · exact obeys
  · exact obeys

theorem Obeys.caught (obeys : heap.Obeys rule) (error : RuntimeError) :
    (heap.caught error).2.Obeys rule := by
  cases error with
  | thrown value => exact obeys
  | raised kind message => exact obeys.allocateValue (Object.obeys_ofError _ _)
  | importFailed failure => exact obeys.allocateValue (Object.obeys_ofError _ _)

theorem Obeys.createArray (obeys : heap.Obeys rule) (elements : List Value) :
    (heap.createArray elements).2.Obeys rule :=
  obeys.allocateValue trivial

theorem Obeys.createObject (obeys : heap.Obeys rule)
    (entries : List (String × Value)) : (heap.createObject entries).2.Obeys rule :=
  obeys.allocateValue trivial

mutual

/-- A host value brings functions of the host alone. -/
theorem Obeys.ofHost {heap : Heap} (obeys : heap.Obeys rule) (value : HostValue) :
    (heap.ofHost value).2.Obeys rule := by
  cases value with
  | array items => exact (obeys.ofHostItems items).createArray _
  | object members => exact (obeys.ofHostMembers members).createObject _
  | error name message => exact obeys.allocateValue (Object.obeys_ofError name message)
  | function name waits => exact obeys.allocateValue (rule.host (.ofName name) waits)
  | _ => exact obeys

theorem Obeys.ofHostItems {heap : Heap} (obeys : heap.Obeys rule)
    (items : List HostValue) : (heap.ofHostItems items).2.Obeys rule := by
  cases items with
  | nil => exact obeys
  | cons item rest => exact (obeys.ofHost item).ofHostItems rest

theorem Obeys.ofHostMembers {heap : Heap} (obeys : heap.Obeys rule)
    (members : List (String × HostValue)) : (heap.ofHostMembers members).2.Obeys rule := by
  cases members with
  | nil => exact obeys
  | cons member rest => exact (obeys.ofHost member.2).ofHostMembers rest

end

mutual

/-- A document brings no function at all. -/
theorem Obeys.ofJson {heap : Heap} (obeys : heap.Obeys rule) (json : Json) :
    (heap.ofJson json).2.Obeys rule := by
  cases json with
  | array items => exact (obeys.ofJsonItems items).createArray _
  | object members => exact (obeys.ofJsonMembers members).createObject _
  | _ => exact obeys

theorem Obeys.ofJsonItems {heap : Heap} (obeys : heap.Obeys rule)
    (items : List Json) : (heap.ofJsonItems items).2.Obeys rule := by
  cases items with
  | nil => exact obeys
  | cons item rest => exact (obeys.ofJson item).ofJsonItems rest

theorem Obeys.ofJsonMembers {heap : Heap} (obeys : heap.Obeys rule)
    (members : List (String × Json)) : (heap.ofJsonMembers members).2.Obeys rule := by
  cases members with
  | nil => exact obeys
  | cons member rest => exact (obeys.ofJson member.2).ofJsonMembers rest

end

end Heap

namespace Library

variable {heap : Heap}

theorem obeys_replaceElements (obeys : heap.Obeys rule) (this : Value)
    (elements : List Value) : (replaceElements heap this elements).Obeys rule := by
  unfold replaceElements
  split
  · split
    · exact obeys.replace _ trivial
    · exact obeys
  · exact obeys

theorem obeys_createMembers (obeys : heap.Obeys rule)
    (members : List (String × Member)) : (createMembers heap members).2.Obeys rule := by
  induction members generalizing heap with
  | nil => exact obeys
  | cons entry rest ih =>
    obtain ⟨name, member⟩ := entry
    cases member with
    | function function => exact ih (obeys.allocateValue (rule.builtin function))
    | number value => exact ih obeys

/-- The object of a global, a constructor or not, obeys. -/
theorem obeys_globalObject (constructor? : Option Builtin) (name : String)
    (properties : Properties) :
    (match constructor? with
      | some function => Object.function name (.builtin function) properties
      | none => .ordinary properties).Obeys rule := by
  cases constructor? with
  | none => trivial
  | some function => exact rule.builtin function

theorem obeys_installGlobal (obeys : heap.Obeys rule) (environment : Environment)
    (prototypes : Prototypes) (global : Global) :
    (installGlobal environment prototypes heap global).Obeys rule := by
  have members (shared : List (String × Member)) :=
    obeys_createMembers (obeys_createMembers obeys global.members) shared
  unfold installGlobal
  refine Heap.Obeys.bindName ?_ environment _ _ true
  cases global.kind? with
  | none => exact (members _).allocateValue (obeys_globalObject _ _ _)
  | some kind =>
    exact Heap.Obeys.replace ((members _).allocateValue (obeys_globalObject _ _ _)) _ trivial

/-- The installation of a list of globals, each of which brings in functions that obey. -/
theorem obeys_foldl {α : Type} (install : Heap → α → Heap) (items : List α)
    (each : ∀ heap : Heap, heap.Obeys rule → ∀ item, (install heap item).Obeys rule)
    (obeys : heap.Obeys rule) : (items.foldl install heap).Obeys rule := by
  induction items generalizing heap with
  | nil => exact obeys
  | cons item items ih => exact ih (each heap obeys item)

theorem obeys_installFunction (obeys : heap.Obeys rule) (environment : Environment)
    (entry : String × NumberFunction) :
    (installFunction environment heap entry).Obeys rule :=
  Heap.Obeys.bindName (obeys.allocateValue (Object.obeys_builtin _ _ _)) _ _ _ _

/-- A new realm has functions of the library alone. -/
theorem obeys_createRealm (obeys : heap.Obeys rule) :
    (createRealm heap).2.Obeys rule := by
  unfold createRealm
  -- The tables are no longer needed, and would be evaluated.
  generalize globals = library, numericFunctions = functions, constants = values
  refine Heap.Obeys.of_objects (obeys_foldl _ values
    (fun heap obeys entry => obeys.bindName _ _ _ _)
    (obeys_foldl _ functions
      (fun heap obeys entry => obeys_installFunction obeys _ entry)
      (obeys_foldl _ library
        (fun heap obeys global => obeys_installGlobal obeys _ _ global) ?_))) rfl
  have shared {heap : Heap} (obeys : heap.Obeys rule) :=
    obeys.allocate (show (Object.ordinary {}).Obeys rule from trivial)
  exact shared (shared (shared (shared (shared (shared (obeys.newScope {} []))))))

end Library

namespace Heap

variable {heap : Heap}

/-- An empty heap has no functions. -/
theorem loadsFrom_empty : LoadsFrom allowed {} := by simp [LoadsFrom]

/-- Any function may load modules if there is nothing to exclude. -/
theorem loadsFrom_anywhere (heap : Heap) : heap.LoadsFrom fun _ => True := by
  intro object _
  cases object with
  | function name callable properties => cases callable <;> trivial
  | _ => trivial

/-- Any function may see any scope if there is nothing to exclude. -/
theorem obeys_seeing_anything (heap : Heap) : heap.Obeys (.seeing fun _ => True) := by
  intro object _
  cases object with
  | function name callable properties =>
    cases callable with
    | script definition environment this => exact fun _ _ => trivial
    | _ => trivial
  | _ => trivial

variable (loads : heap.LoadsFrom allowed)
include loads

theorem LoadsFrom.obeys : heap.Obeys (.loading allowed) := loads

theorem LoadsFrom.of_objects {other : Heap} (same : other.objects = heap.objects) :
    other.LoadsFrom allowed :=
  loads.obeys.of_objects same

theorem LoadsFrom.allocateValue {object : Object} (new : object.LoadsFrom allowed) :
    (heap.allocateValue object).2.LoadsFrom allowed :=
  loads.obeys.allocateValue new

theorem LoadsFrom.changeRealm (ref : RealmRef) (change : Realm → Realm) :
    (heap.changeRealm ref change).LoadsFrom allowed :=
  loads.of_objects rfl

/-- The functions of the library load no modules. -/
theorem LoadsFrom.createRealm : (Library.createRealm heap).2.LoadsFrom allowed :=
  Library.obeys_createRealm loads.obeys

end Heap

end PluginSandbox.Script
