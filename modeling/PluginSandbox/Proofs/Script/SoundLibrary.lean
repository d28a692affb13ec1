import PluginSandbox.Proofs.Script.Conduct
import PluginSandbox.Script.Library

/-!
# The conduct of the library

A function of the library keeps to every conduct, if the functions that it calls back do.
-/
namespace PluginSandbox.Script

/-- Whether code may declare names in the innermost scope of a context. -/
abbrev Conduct.Owns (conduct : Conduct) (context : Context) : Prop :=
  conduct.declares context.environment.innermost

/-- Whether all that an interpreter runs keeps to a conduct, where it declares names in scopes in
which it may. -/
structure Interpreter.Sound (conduct : Conduct) (inner : Interpreter) : Prop where
  expression : ∀ expression context,
    conduct.Sound context.environment.scopes (inner.expression expression context)
  chain : ∀ expression context,
    conduct.Sound context.environment.scopes (inner.chain expression context)
  statement : ∀ statement context, conduct.Owns context →
    conduct.Sound context.environment.scopes (inner.statement statement context)
  rounds : ∀ test update body names context, conduct.Owns context →
    conduct.Sound context.environment.scopes (inner.rounds test update body names context)
  bind : ∀ pattern value isMutable context, conduct.Owns context →
    conduct.Sound context.environment.scopes (inner.bind pattern value isMutable context)
  call : ∀ {scopes} realm callee this arguments,
    conduct.Sound scopes (inner.call realm callee this arguments)

variable {conduct : Conduct} {self : Interpreter} {scopes : List ScopeRef}

/-- A write of a property keeps what functions do. -/
theorem writeProperty_sound (target : Value) (key : String) (value : Value) :
    conduct.Sound scopes (writeProperty target key value) :=
  .tryStep (fun heap => heap.written_faulty target key value) fun _ _ (_, _) written =>
    .heap _ (fun _ obeys => obeys.replace _ (obeys.written written)) rfl (.of_scopes rfl)

namespace Library

open Conduct (Sound)

section Objects

theorem copyProperties_sound (target source : Value) :
    conduct.Sound scopes (copyProperties target source) := by
  unfold copyProperties
  refine .ite (.pure _) (.bindTry (fun heap => coercibleEntries_faulty heap source)
    fun _ => .forM fun _ => writeProperty_sound _ _ _)

theorem runObject_sound (function : ObjectFunction) (this : Value) (arguments : List Value) :
    conduct.Sound scopes (runObject function this arguments) := by
  cases function with
  | construct =>
    simp only [runObject]
    split
    · exact .pure _
    · exact .create fun _ => trivial
  | keys =>
    exact .bindTry (fun heap => coercibleEntries_faulty heap _) fun _ => .createArray _
  | values =>
    exact .bindTry (fun heap => coercibleEntries_faulty heap _) fun _ => .createArray _
  | entries =>
    exact .bindTry (fun heap => coercibleEntries_faulty heap _) fun _ =>
      Sound.bind (.mapM fun _ => .createArray _) fun _ => .createArray _
  | assign =>
    exact .ite (.fault trivial) (Sound.bind (.forM fun _ => copyProperties_sound _ _) fun _ =>
      .pure _)
  | fromEntries =>
    exact .bindTry (fun heap => heap.itemsOf_faulty _) fun _ =>
      .updateHeap fun _ obeys => obeys.createObject _
  | freeze => exact .pure _
  | create =>
    simp only [runObject]
    split
    · exact .create fun _ => trivial
    · exact .create fun _ => trivial
    · exact .tryHeap fun _ => .error trivial
  | hasOwnProperty =>
    simp only [runObject]
    exact .readHeap
  | toText =>
    simp only [runObject]
    exact .readHeap

end Objects

section Arrays

theorem receiverElements_sound (this : Value) (function : String) :
    conduct.Sound scopes (receiverElements this function) := by
  refine .tryHeap fun heap => ?_
  split
  · exact .ok _
  · exact .error trivial

theorem setElements_sound (this : Value) (function : String) (elements : List Value) :
    conduct.Sound scopes (setElements this function elements) :=
  (receiverElements_sound this function).bind fun _ =>
    .changeHeap (fun _ obeys => obeys_replaceElements obeys this elements)
      fun heap => altersObjects_replaceElements heap this elements

theorem callbackSetting_sound (this : Value) (arguments : List Value) (function : String) :
    conduct.Sound scopes (callbackSetting this arguments function) := by
  refine (receiverElements_sound this function).bind fun _ =>
    Sound.bind (.tryHeap fun heap => ?_) fun _ => .pure _
  exact .ite (.ok _) (.error trivial)

section Callbacks

variable (sound : self.Sound conduct) (realm : RealmRef)
include sound

theorem callWith_sound (this callback : Value) (place : Value × Nat) :
    conduct.Sound scopes (callWith self realm this callback place) :=
  sound.call _ _ _ _

theorem findPlace?_sound (this : Value) (arguments : List Value) (function : String) :
    conduct.Sound scopes (findPlace? self realm this arguments function) :=
  (callbackSetting_sound this arguments function).bind fun (_, _) =>
    .findM? fun _ => (callWith_sound sound realm _ _ _).map

theorem mapElements_sound (this : Value) (arguments : List Value) (function : String) :
    conduct.Sound scopes (mapElements self realm this arguments function) :=
  (callbackSetting_sound this arguments function).bind fun (_, _) =>
    .mapM fun _ => callWith_sound sound realm _ _ _

theorem comesAfter_sound (comparator a b : Value) :
    conduct.Sound scopes (comesAfter self realm comparator a b) :=
  .ite .readHeap ((sound.call _ _ _ _).bind fun _ => .readHeap)

theorem arrayFrom_sound (arguments : List Value) :
    conduct.Sound scopes (arrayFrom self realm arguments) :=
  .bindTry (fun heap => heap.itemsOf_faulty _) fun _ =>
    .ite (.createArray _)
      (Sound.bind (.mapM fun (_, _) => sound.call _ _ _ _) fun _ => .createArray _)

theorem reduceReceiver_sound (this : Value) (arguments : List Value) :
    conduct.Sound scopes (reduceReceiver self realm this arguments) := by
  refine (callbackSetting_sound this arguments "reduce").bind fun (_, _) => ?_
  simp only
  split
  · exact .foldlM (fun _ _ => sound.call _ _ _ _) _
  · exact .foldlM (fun _ _ => sound.call _ _ _ _) _
  · exact .fault trivial

end Callbacks

theorem insertSorted_sound {after : Value → Value → Eval Bool}
    (compares : ∀ a b, conduct.Sound scopes (after a b)) (element : Value) (sorted : List Value) :
    conduct.Sound scopes (insertSorted after element sorted) := by
  induction sorted with
  | nil => exact .pure _
  | cons last before ih =>
    exact (compares last element).bind fun _ => .ite (ih.bind fun _ => .pure _) (.pure _)

theorem sortElements_sound {after : Value → Value → Eval Bool}
    (compares : ∀ a b, conduct.Sound scopes (after a b)) (elements : List Value) :
    conduct.Sound scopes (sortElements after elements) :=
  Sound.bind (.foldlM (fun _ _ => insertSorted_sound compares _ _) _) fun _ => .pure _

theorem sortReceiver_sound (sound : self.Sound conduct) (realm : RealmRef)
    (this comparator : Value) : conduct.Sound scopes (sortReceiver self realm this comparator) :=
  (receiverElements_sound this "sort").bind fun _ =>
    (sortElements_sound (fun _ _ => comesAfter_sound sound realm _ _ _) _).bind fun _ =>
      (setElements_sound this "sort" _).bind fun _ => .pure _

theorem joinReceiver_sound (this separator : Value) :
    conduct.Sound scopes (joinReceiver this separator) :=
  (receiverElements_sound this "join").bind fun _ =>
    .tryHeap fun _ => (checkedTextSize_faulty _).bind fun _ => .ok _

theorem spliceReceiver_sound (this : Value) (arguments : List Value) :
    conduct.Sound scopes (spliceReceiver this arguments) :=
  (receiverElements_sound this "splice").bind fun _ =>
    Sound.readHeap.bind fun _ => Sound.readHeap.bind fun _ =>
      (setElements_sound this "splice" _).bind fun _ => .createArray _

theorem runArray_sound (sound : self.Sound conduct) (realm : RealmRef)
    (function : ArrayFunction) (this : Value) (arguments : List Value) :
    conduct.Sound scopes (runArray self realm function this arguments) := by
  have elements (function : String) : conduct.Sound scopes (receiverElements this function) :=
    receiverElements_sound this function
  have set (function : String) (values : List Value) :
      conduct.Sound scopes (setElements this function values) :=
    setElements_sound this function values
  have calls (function : String) :
      conduct.Sound scopes (mapElements self realm this arguments function) :=
    mapElements_sound sound realm this arguments function
  have finds (function : String) :
      conduct.Sound scopes (findPlace? self realm this arguments function) :=
    findPlace?_sound sound realm this arguments function
  have setting (function : String) :
      conduct.Sound scopes (callbackSetting this arguments function) :=
    callbackSetting_sound this arguments function
  cases function with
  | construct =>
    simp only [runArray]
    split
    · exact (Sound.ofExcept (lengthOfNumber_faulty _)).bind fun _ => .createArray _
    · exact .createArray _
  | isArray =>
    simp only [runArray]
    exact .readHeap
  | ofItems => exact .createArray _
  | fromItems => exact arrayFrom_sound sound realm arguments
  | push =>
    exact (elements _).bind fun _ => (Sound.ofExcept (checkedLength_faulty _)).bind fun _ =>
      (set _ _).bind fun _ => .pure _
  | pop => exact (elements _).bind fun _ => (set _ _).bind fun _ => .pure _
  | shift => exact (elements _).bind fun _ => (set _ _).bind fun _ => .pure _
  | unshift => exact (elements _).bind fun _ => (set _ _).bind fun _ => .pure _
  | slice =>
    exact (elements _).bind fun _ => Sound.readHeap.bind fun _ => Sound.readHeap.bind fun _ =>
      .createArray _
  | splice => exact spliceReceiver_sound this arguments
  | indexOf => exact (elements _).bind fun _ => Sound.readHeap.bind fun _ => .pure _
  | lastIndexOf => exact (elements _).bind fun _ => .pure _
  | includes => exact (elements _).bind fun _ => .pure _
  | join => exact joinReceiver_sound this _
  | concat =>
    exact (elements _).bind fun _ =>
      .bindTry (fun heap => concatenate_faulty heap _ _) fun _ => .createArray _
  | reverse => exact (elements _).bind fun _ => (set _ _).bind fun _ => .pure _
  | flat =>
    exact (elements _).bind fun _ => Sound.readHeap.bind fun _ => Sound.readHeap.bind fun _ =>
      .createArray _
  | itemAt => exact (elements _).bind fun _ => Sound.readHeap.bind fun _ => .pure _
  | toText => exact (elements _).bind fun _ => .readHeap
  | forEach => exact (calls _).bind fun _ => .pure _
  | map => exact (calls _).bind fun _ => .createArray _
  | flatMap => exact (calls _).bind fun _ => Sound.readHeap.bind fun _ => .createArray _
  | filter =>
    exact (setting _).bind fun (_, _) =>
      Sound.bind (.filterM fun _ => (callWith_sound sound realm _ _ _).map) fun _ => .createArray _
  | reduce => exact reduceReceiver_sound sound realm this arguments
  | find => exact (finds _).bind fun _ => .pure _
  | findIndex => exact (finds _).bind fun _ => .pure _
  | some => exact (finds _).bind fun _ => .pure _
  | every =>
    exact (setting _).bind fun (_, _) =>
      Sound.bind (.allM fun _ => (callWith_sound sound realm _ _ _).map) fun _ => .pure _
  | sort => exact sortReceiver_sound sound realm this _

end Arrays

section Texts

theorem receiverText_sound (this : Value) : conduct.Sound scopes (receiverText this) := by
  refine .tryHeap fun heap => ?_
  split
  · exact .error trivial
  · exact .error trivial
  · exact .ok _

theorem runString_sound (function : StringFunction) (this : Value) (arguments : List Value) :
    conduct.Sound scopes (runString function this arguments) := by
  cases function with
  | construct =>
    cases arguments with
    | nil => exact .pure _
    | cons value rest =>
      simp only [runString]
      exact .readHeap
  | fromCharCode =>
    simp only [runString]
    exact .readHeap
  | split =>
    exact (receiverText_sound this).bind fun _ => Sound.readHeap.bind fun _ => .createArray _
  | onText function =>
    exact (receiverText_sound this).bind fun _ => .tryHeap fun heap =>
      applyText_faulty heap function _ arguments

end Texts

section Numbers

theorem receiverNumber_sound (this : Value) : conduct.Sound scopes (receiverNumber this) := by
  refine .tryHeap fun heap => ?_
  split
  · exact .ok _
  · exact .error trivial

theorem runNumber_sound (function : NumberFunction) (this : Value) (arguments : List Value) :
    conduct.Sound scopes (runNumber function this arguments) := by
  cases function with
  | construct =>
    cases arguments with
    | nil => exact .pure _
    | cons value rest =>
      simp only [runNumber]
      exact .readHeap
  | toFixed =>
    exact (receiverNumber_sound this).bind fun _ => .tryHeap fun _ => (fixedText_faulty _ _).map _
  | toText =>
    exact (receiverNumber_sound this).bind fun _ => .tryHeap fun _ => (numberText_faulty _ _).map _
  | isInteger => exact .pure _
  | isFinite => exact .pure _
  | isNaN => exact .pure _
  | _ =>
    simp only [runNumber]
    exact .readHeap

theorem runMath_sound (function : MathFunction) (arguments : List Value) :
    conduct.Sound scopes (runMath function arguments) := by
  refine Sound.readHeap.bind fun numbers => ?_
  split
  · exact .pure _
  · exact .admitted (fun state => (_, { state with random := nextRandomState state.random }))
      (fun _ holds => conduct.step holds (.draw _)) fun _ _ _ => trivial

end Numbers

section Documents

theorem runJson_sound (function : JsonFunction) (arguments : List Value) :
    conduct.Sound scopes (runJson function arguments) := by
  cases function with
  | parse =>
    refine Sound.readHeap.bind fun text => ?_
    split
    · exact .updateHeap (fun _ obeys => obeys.ofJson _) fun heap => heap.altersObjects_ofJson _
    · exact .fault trivial
  | stringify =>
    refine Sound.bind (.tryHeap fun heap => heap.jsonOf_faulty _) fun json? => ?_
    cases json? <;> exact .pure _

theorem runError_sound (name : String) (arguments : List Value) :
    conduct.Sound scopes (runError name arguments) :=
  Sound.readHeap.bind fun _ => .create fun _ => Object.obeys_ofError _ _

theorem runConsole_sound (level : LogLevel) (arguments : List Value) :
    conduct.Sound scopes (runConsole level arguments) :=
  Sound.readHeap.bind fun _ => (Sound.print _ _).bind fun _ => .pure _

end Documents

/-- The library keeps to every conduct. -/
theorem run_sound (sound : self.Sound conduct) (realm : RealmRef) (function : Builtin)
    (this : Value) (arguments : List Value) :
    conduct.Sound scopes (run self realm function this arguments) := by
  cases function with
  | object function => exact runObject_sound function this arguments
  | array function => exact runArray_sound sound realm function this arguments
  | string function => exact runString_sound function this arguments
  | number function => exact runNumber_sound function this arguments
  | math function => exact runMath_sound function arguments
  | json function => exact runJson_sound function arguments
  | error name => exact runError_sound name arguments
  | errorText =>
    simp only [run]
    exact .readHeap
  | console level => exact runConsole_sound level arguments

end Library

end PluginSandbox.Script
