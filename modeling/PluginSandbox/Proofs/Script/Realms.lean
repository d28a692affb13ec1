import PluginSandbox.Script.Library.Arrays
import PluginSandbox.Script.Library.Globals
import PluginSandbox.Script.Operation

/-!
# Operations that leave scopes and realms alone

Most of what scripts and their hosts do on the heap creates and changes objects, and nothing else.
No operation touches a realm that is there: a realm changes only when a call of a script function
begins or ends in it, and a new realm comes after the others.
-/
namespace PluginSandbox.Script

/-- Whether a change of the heap concerns objects alone. -/
structure Heap.AltersObjects (before after : Heap) : Prop where
  /-- The scopes stay. -/
  scopes : after.scopes = before.scopes
  /-- The realms stay. -/
  realms : after.realms = before.realms

namespace Heap

theorem AltersObjects.refl (heap : Heap) : heap.AltersObjects heap := ⟨rfl, rfl⟩

theorem AltersObjects.trans {before heap after : Heap} (first : before.AltersObjects heap)
    (second : heap.AltersObjects after) : before.AltersObjects after :=
  ⟨second.scopes.trans first.scopes, second.realms.trans first.realms⟩

variable (heap : Heap)

theorem altersObjects_delete (target : Value) (key : String) :
    heap.AltersObjects (heap.delete target key) := by
  unfold Heap.delete
  split
  · split <;> exact ⟨rfl, rfl⟩
  · exact .refl heap

theorem altersObjects_caught (error : RuntimeError) :
    heap.AltersObjects (heap.caught error).2 := by
  cases error <;> exact ⟨rfl, rfl⟩

mutual

/-- A host value is made of objects. -/
theorem altersObjects_ofHost (heap : Heap) (value : HostValue) :
    heap.AltersObjects (heap.ofHost value).2 := by
  cases value with
  | array items =>
    have inner := heap.altersObjects_ofHostItems items
    exact ⟨inner.scopes, inner.realms⟩
  | object members =>
    have inner := heap.altersObjects_ofHostMembers members
    exact ⟨inner.scopes, inner.realms⟩
  | _ => exact ⟨rfl, rfl⟩

theorem altersObjects_ofHostItems (heap : Heap) (items : List HostValue) :
    heap.AltersObjects (heap.ofHostItems items).2 := by
  cases items with
  | nil => exact .refl heap
  | cons item rest =>
    exact (heap.altersObjects_ofHost item).trans
      ((heap.ofHost item).2.altersObjects_ofHostItems rest)

theorem altersObjects_ofHostMembers (heap : Heap) (members : List (String × HostValue)) :
    heap.AltersObjects (heap.ofHostMembers members).2 := by
  cases members with
  | nil => exact .refl heap
  | cons member rest =>
    exact (heap.altersObjects_ofHost member.2).trans
      ((heap.ofHost member.2).2.altersObjects_ofHostMembers rest)

end

mutual

/-- A document is made of objects. -/
theorem altersObjects_ofJson (heap : Heap) (json : Json) :
    heap.AltersObjects (heap.ofJson json).2 := by
  cases json with
  | array items =>
    have inner := heap.altersObjects_ofJsonItems items
    exact ⟨inner.scopes, inner.realms⟩
  | object members =>
    have inner := heap.altersObjects_ofJsonMembers members
    exact ⟨inner.scopes, inner.realms⟩
  | _ => exact ⟨rfl, rfl⟩

theorem altersObjects_ofJsonItems (heap : Heap) (items : List Json) :
    heap.AltersObjects (heap.ofJsonItems items).2 := by
  cases items with
  | nil => exact .refl heap
  | cons item rest =>
    exact (heap.altersObjects_ofJson item).trans
      ((heap.ofJson item).2.altersObjects_ofJsonItems rest)

theorem altersObjects_ofJsonMembers (heap : Heap) (members : List (String × Json)) :
    heap.AltersObjects (heap.ofJsonMembers members).2 := by
  cases members with
  | nil => exact .refl heap
  | cons member rest =>
    exact (heap.altersObjects_ofJson member.2).trans
      ((heap.ofJson member.2).2.altersObjects_ofJsonMembers rest)

end

end Heap

namespace Library

theorem altersObjects_replaceElements (heap : Heap) (this : Value) (elements : List Value) :
    heap.AltersObjects (replaceElements heap this elements) := by
  unfold replaceElements
  split
  · split <;> exact ⟨rfl, rfl⟩
  · exact .refl heap

theorem altersObjects_createMembers (heap : Heap) (members : List (String × Member)) :
    heap.AltersObjects (createMembers heap members).2 := by
  induction members generalizing heap with
  | nil => exact .refl heap
  | cons entry rest ih =>
    obtain ⟨name, member⟩ := entry
    cases member with
    | function function =>
      have later := ih (heap.createFunction name (.builtin function)).2
      exact ⟨later.scopes, later.realms⟩
    | number value => exact ih heap

end Library

end PluginSandbox.Script
