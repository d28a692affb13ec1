import PluginSandbox.Proofs.Resolution.Admission

/-!
# The depth of calls

A realm counts the calls of script functions that run in it. What happens to calls is recorded,
so the count can be compared with the calls that have begun and not ended: they agree whenever
code waits or ends, and at each entry of the record in between. A call is refused exactly when as
many calls run as may, and code of every kind leaves the count as it found it, however it ends.
-/
namespace PluginSandbox.Script

open Evaluation (maximumDepth)

/-- How many calls in a realm have begun and not ended, by the record, latest first. -/
def running (realm : RealmRef) : List CallEvent → Nat
  | [] => 0
  | event :: earlier =>
    if event.realm = realm then
      match event.stage with
      | .began => running realm earlier + 1
      | .ended => running realm earlier - 1
      | .refused => running realm earlier
    else running realm earlier

/-- Whether an event may happen while some calls are running, and the realm counts right after
it. -/
def CallEvent.Follows (count : Nat) (event : CallEvent) : Prop :=
  match event.stage with
  | .began => count < maximumDepth ∧ event.depth = count + 1
  | .ended => event.depth + 1 = count
  | .refused => count = maximumDepth ∧ event.depth = count

/-- Whether every event in a realm was one that might happen. -/
def Orderly (realm : RealmRef) : List CallEvent → Prop
  | [] => True
  | event :: earlier =>
    (event.realm = realm → event.Follows (running realm earlier)) ∧ Orderly realm earlier

section Record

variable {realm other : RealmRef} {calls : List CallEvent}

/-- Events elsewhere do not matter. -/
theorem running_elsewhere (elsewhere : other ≠ realm) (stage : CallStage) (depth : Nat) :
    running realm (⟨stage, other, depth⟩ :: calls) = running realm calls := by
  simp [running, elsewhere]

theorem Orderly.elsewhere (orderly : Orderly realm calls) (elsewhere : other ≠ realm)
    (stage : CallStage) (depth : Nat) : Orderly realm (⟨stage, other, depth⟩ :: calls) :=
  ⟨fun here => absurd here elsewhere, orderly⟩

/-- Never do more calls run than may. -/
theorem Orderly.running_le (orderly : Orderly realm calls) :
    running realm calls ≤ maximumDepth := by
  induction calls with
  | nil => exact Nat.zero_le _
  | cons event earlier ih =>
    obtain ⟨follows, before⟩ := orderly
    have bounded := ih before
    by_cases here : event.realm = realm
    · have step := follows here
      rw [running, if_pos here]
      cases stage : event.stage with
      | began =>
        simp only [CallEvent.Follows, stage] at step
        exact step.1
      | ended => exact Nat.le_trans (Nat.sub_le _ _) bounded
      | refused => exact bounded
    · rw [running, if_neg here]
      exact bounded

/-- After an event that may happen, the realm counts the calls that are running then. -/
theorem CallEvent.Follows.depth_eq {event : CallEvent} (here : event.realm = realm)
    (follows : event.Follows (running realm calls)) :
    event.depth = running realm (event :: calls) := by
  rw [running, if_pos here]
  cases stage : event.stage <;> simp only [CallEvent.Follows, stage] at follows ⊢ <;> omega

/-- The record was in order before its latest events. -/
theorem Orderly.before {later : List CallEvent} (orderly : Orderly realm (later ++ calls)) :
    Orderly realm calls := by
  induction later with
  | nil => exact orderly
  | cons last later ih => exact ih orderly.2

end Record

section Tally

variable (realm : RealmRef)

/-- Whether a realm counts the calls that run in it, and always has. -/
structure Tallied (state : State) : Prop where
  /-- The realm is there. -/
  present : realm.index < state.heap.realms.size
  /-- It counts the calls that have begun and not ended. -/
  counted : (state.heap.realm realm).callDepth = running realm state.calls
  /-- So it did after every event. -/
  orderly : Orderly realm state.calls

/-- What others do while code waits that runs in a realm: they leave as many calls running as they
found, and the record goes on. -/
def Undisturbed (before after : State) : Prop :=
  Tallied realm after ∧ running realm after.calls = running realm before.calls ∧
    before.calls <:+ after.calls

variable {realm}

/-- Only the realms and the record matter. -/
theorem Tallied.of_same {before after : State} (tallied : Tallied realm before)
    (realms : after.heap.realms = before.heap.realms) (calls : after.calls = before.calls) :
    Tallied realm after := by
  obtain ⟨present, counted, orderly⟩ := tallied
  refine ⟨realms ▸ present, ?_, calls ▸ orderly⟩
  rw [calls, ← counted]
  simp only [Heap.realm, realms]

theorem Tallied.bounded {state : State} (tallied : Tallied realm state) :
    (state.heap.realm realm).callDepth ≤ maximumDepth :=
  tallied.counted ▸ tallied.orderly.running_le

/-- The calls of a realm are counted from the moment it is created. -/
theorem tallied_createRealm (state : State)
    (unused : ∀ event ∈ state.calls, event.realm ≠ ⟨state.heap.realms.size⟩) :
    Tallied ⟨state.heap.realms.size⟩
      { state with heap := (Library.createRealm state.heap).2 } := by
  obtain ⟨new, empty, _, realms⟩ := Library.realms_createRealm state.heap
  have silent (calls : List CallEvent)
      (unused : ∀ event ∈ calls, event.realm ≠ ⟨state.heap.realms.size⟩) :
      running ⟨state.heap.realms.size⟩ calls = 0 ∧ Orderly ⟨state.heap.realms.size⟩ calls := by
    induction calls with
    | nil => exact ⟨rfl, trivial⟩
    | cons event earlier ih =>
      obtain ⟨none, orderly⟩ := ih fun other member => unused other (List.mem_cons_of_mem _ member)
      have elsewhere := unused event List.mem_cons_self
      exact ⟨(running_elsewhere elsewhere event.stage event.depth).trans none,
        orderly.elsewhere elsewhere event.stage event.depth⟩
  obtain ⟨none, orderly⟩ := silent state.calls unused
  refine ⟨by simp [realms], ?_, orderly⟩
  rw [none]
  simp [Heap.realm, realms, empty]

/-- A new realm does not touch the others. -/
theorem Tallied.createRealm {state : State} (tallied : Tallied realm state) :
    Tallied realm { state with heap := (Library.createRealm state.heap).2 } := by
  obtain ⟨still, same⟩ := Library.realm_createRealm tallied.present
  exact ⟨still, (congrArg Realm.callDepth same).trans tallied.counted, tallied.orderly⟩

/-- A realm that is changed reads as changed. -/
theorem realm_changeRealm {heap : Heap} (present : realm.index < heap.realms.size)
    (change : Realm → Realm) : (heap.changeRealm realm change).realm realm =
      change (heap.realm realm) := by
  simp [Heap.realm, Heap.changeRealm, Array.getElem?_modify, Array.getElem?_eq_getElem present]

theorem realm_changeRealm_of_ne {heap : Heap} {other : RealmRef} (elsewhere : other ≠ realm)
    (change : Realm → Realm) : (heap.changeRealm other change).realm realm = heap.realm realm := by
  have index : other.index ≠ realm.index := by
    intro same
    exact elsewhere (congrArg RealmRef.mk same)
  simp [Heap.realm, Heap.changeRealm, Array.getElem?_modify, index]

/-- An event is counted if it may happen in the realm, or happens elsewhere. -/
theorem Tallied.record {before : State} (tallied : Tallied realm before) (after : State)
    (present : realm.index < after.heap.realms.size) (calls : after.calls = before.calls)
    (stage : CallStage) (other : RealmRef)
    (here : other = realm → CallEvent.Follows (running realm before.calls)
      ⟨stage, realm, (after.heap.realm realm).callDepth⟩)
    (elsewhere : other ≠ realm → after.heap.realm realm = before.heap.realm realm) :
    Tallied realm (after.recordCall stage other) := by
  by_cases same : other = realm
  · subst same
    have follows := here rfl
    rw [← calls] at follows
    exact ⟨present, follows.depth_eq rfl, fun _ => follows, calls ▸ tallied.orderly⟩
  · refine ⟨present, ?_, (calls ▸ tallied.orderly).elsewhere same stage _⟩
    change (after.heap.realm realm).callDepth = _
    rw [State.recordCall, running_elsewhere same, elsewhere same, calls, tallied.counted]

/-- A call that begins is counted. -/
theorem Tallied.begin {state : State} (tallied : Tallied realm state) (other : RealmRef)
    (free : (state.heap.realm other).callDepth < maximumDepth) :
    Tallied realm (Evaluation.beginCall other state) ∧
      running realm (Evaluation.beginCall other state).calls =
        if other = realm then running realm state.calls + 1 else running realm state.calls := by
  refine ⟨tallied.record (Evaluation.countCalls other (· + 1) state) ?_ rfl .began other ?_ ?_, ?_⟩
  · simpa [Evaluation.countCalls, Heap.changeRealm] using tallied.present
  · rintro rfl
    refine ⟨tallied.counted ▸ free, ?_⟩
    change ((state.heap.changeRealm other _).realm other).callDepth = _
    rw [realm_changeRealm tallied.present, ← tallied.counted]
  · exact fun elsewhere => realm_changeRealm_of_ne elsewhere _
  · rfl

/-- A call that ends is no longer counted. -/
theorem Tallied.leave {state : State} (tallied : Tallied realm state) (other : RealmRef)
    (busy : other = realm → 0 < running realm state.calls) :
    Tallied realm (Evaluation.leaveCall other state) ∧
      running realm (Evaluation.leaveCall other state).calls =
        if other = realm then running realm state.calls - 1 else running realm state.calls := by
  refine ⟨tallied.record (Evaluation.countCalls other (· - 1) state) ?_ rfl .ended other ?_ ?_, ?_⟩
  · simpa [Evaluation.countCalls, Heap.changeRealm] using tallied.present
  · rintro rfl
    have depth : ((Evaluation.countCalls other (· - 1) state).heap.realm other).callDepth =
        running other state.calls - 1 := by
      change ((state.heap.changeRealm other _).realm other).callDepth = _
      rw [realm_changeRealm tallied.present, ← tallied.counted]
    have busy := busy rfl
    simp only [CallEvent.Follows]
    omega
  · exact fun elsewhere => realm_changeRealm_of_ne elsewhere _
  · rfl

/-- A call that is refused changes nothing. -/
theorem Tallied.refuse {state : State} (tallied : Tallied realm state) (other : RealmRef)
    (full : maximumDepth ≤ (state.heap.realm other).callDepth) :
    Tallied realm (state.recordCall .refused other) ∧
      running realm (state.recordCall .refused other).calls = running realm state.calls := by
  refine ⟨tallied.record state tallied.present rfl .refused other ?_ fun _ => rfl, ?_⟩
  · rintro rfl
    refine ⟨Nat.le_antisymm tallied.orderly.running_le (tallied.counted ▸ full), tallied.counted⟩
  · simp [State.recordCall, running]

end Tally

section Counting

variable (realm : RealmRef)

/-- The conduct of code that leaves the count of a realm as it found it. -/
def counting : Conduct where
  source _ := True
  holds := Tallied realm
  acts before after := before.calls <:+ after.calls
  others before after :=
    running realm after.calls = running realm before.calls ∧ before.calls <:+ after.calls
  asks _ _ := True
  raises _ _ := True
  level count state := running realm state.calls = count
  callLevel other count := if other = realm then count + 1 else count
  acts_refl _ := List.suffix_rfl
  acts_trans := List.IsSuffix.trans
  raises_acts _ _ _ := trivial
  raises_others _ _ _ := trivial
  level_others others now := others.1.trans now
  loads {state} _ := state.heap.loadsFrom_anywhere
  step {before after} tallied step := by
    cases step with
    | heap heap loads realms =>
      exact ⟨List.suffix_rfl, tallied.of_same realms rfl, fun _ now => now⟩
    | draw random => exact ⟨List.suffix_rfl, tallied.of_same rfl rfl, fun _ now => now⟩
    | print level text => exact ⟨List.suffix_rfl, tallied.of_same rfl rfl, fun _ now => now⟩
    | pause => exact ⟨List.suffix_rfl, tallied.of_same rfl rfl, fun _ now => now⟩
    | refuse other full =>
      obtain ⟨refused, same⟩ := tallied.refuse other full
      exact ⟨List.suffix_cons _ _, refused, fun _ now => same.trans now⟩
  begins other tallied free := by
    obtain ⟨begun, more⟩ := tallied.begin other free
    refine ⟨List.suffix_cons _ _, begun, fun count now => ?_⟩
    rw [more, now]
  leaves other count tallied now := by
    obtain ⟨left, less⟩ := tallied.leave other fun here => by
      rw [if_pos here] at now
      omega
    refine ⟨List.suffix_cons _ _, left, ?_⟩
    rw [less, now]
    split <;> omega
  pauses _ := trivial

/-- The loading of modules does not touch the count: local modules run in realms of their own. -/
theorem counting_admits : Plugin.AdmitsImports (counting realm) where
  note _ _ tallied := ⟨List.suffix_rfl, tallied.of_same rfl rfl, fun _ now => now⟩
  turn _ tallied := ⟨List.suffix_rfl, tallied.of_same rfl rfl, fun _ now => now⟩
  request _ tallied := ⟨List.suffix_rfl, tallied.of_same rfl rfl, fun _ now => now⟩
  realm tallied := ⟨List.suffix_rfl, tallied.createRealm, fun _ now => now⟩
  conclude {state resolver} resolution _ tallied _ := by
    have heap := Plugin.conclude_heap resolver resolution state
    have calls := Plugin.conclude_calls resolver resolution state
    have running : running realm (Plugin.conclude resolver resolution state).calls =
        running realm state.calls := congrArg (running realm) calls
    have record : state.calls <:+ (Plugin.conclude resolver resolution state).calls :=
      calls ▸ List.suffix_rfl
    exact ⟨record, tallied.of_same (congrArg Heap.realms heap) calls,
      fun _ now => running.trans now⟩
  raise _ := trivial
  table _ _ _ := trivial
  nested _ _ _ := trivial
  free _ := trivial
  ask _ _ _ := trivial
  fetch _ _ _ := trivial

end Counting

/-- The depth of calls is bounded and always restored. Whatever code runs in a realm, however its
modules are loaded and however it ends, the realm counts as many calls in the end as at first.
Whenever the code waits, and at every event in the record in between, the realm counts the calls
that have begun and not ended, and those are never more than may run. A call is refused exactly if
as many calls run already as may, which leaves the count; any other call is counted until it
ends. -/
theorem calls_counted (bound : Nat) (realm : RealmRef) (source : ModuleSource) (body : String)
    (before : State) (tallied : Tallied realm before) :
    (∀ outcome after,
      (Plugin.execute (Interpreter.within bound) realm source body before).ComesTo
          (Undisturbed realm) outcome after →
        Tallied realm after ∧ before.calls <:+ after.calls ∧
        (after.heap.realm realm).callDepth = (before.heap.realm realm).callDepth) ∧
    (∀ request asking,
      (Plugin.execute (Interpreter.within bound) realm source body before).Asks
          (Undisturbed realm) request asking →
        Tallied realm asking ∧ before.calls <:+ asking.calls) ∧
    (∀ state, Tallied realm state →
      (state.heap.realm realm).callDepth ≤ maximumDepth ∧
      ∀ later event earlier, state.calls = later ++ event :: earlier → event.realm = realm →
        event.depth = running realm (event :: earlier) ∧ event.depth ≤ maximumDepth ∧
        (event.stage = .refused → event.depth = maximumDepth)) ∧
    ∀ definition environment this arguments state, Tallied realm state →
      Evaluation.callScript (Interpreter.within bound) realm definition environment this arguments
          state =
        if running realm state.calls = maximumDepth then
          .failed (.range "Maximum call stack size exceeded") (state.recordCall .refused realm)
        else
          Code.afterwards
            (do
              let inner ← Code.updateHeap fun heap => heap.newChild environment
              Evaluation.runBody (Interpreter.within bound) ⟨realm, inner, this⟩ definition
                arguments)
            (Evaluation.leaveCall realm) (Evaluation.beginCall realm state) := by
  have sound := Plugin.scripts_sound (counting_admits realm) bound
  have executing : (counting realm).Keeps (fun _ => True)
      (Plugin.execute (Interpreter.within bound) realm source body) _ _ :=
    Plugin.execute_keeps sound trivial realm body
  have keeps := executing _ before tallied rfl trivial
  have own {middle after : State} (acts : (counting realm).acts middle after)
      (now : before.calls <:+ middle.calls) : before.calls <:+ after.calls := now.trans acts
  have foreign {middle after : State} (others : (counting realm).others middle after)
      (now : before.calls <:+ middle.calls) : before.calls <:+ after.calls := now.trans others.2
  refine ⟨?_, ?_, ?_, ?_⟩
  · intro outcome after comes
    obtain ⟨last, done, failed⟩ := (keeps.frame own foreign List.suffix_rfl).comesTo comes
    have ended : running realm after.calls = running realm before.calls ∧
        before.calls <:+ after.calls := by
      cases outcome with
      | ok value => exact ⟨(done value rfl).1.2, (done value rfl).2⟩
      | error error => exact ⟨(failed error rfl).1.2, (failed error rfl).2⟩
    exact ⟨last, ended.2, last.counted.trans (ended.1.trans tallied.counted.symm)⟩
  · intro request asking asks
    obtain ⟨now, _, record⟩ := keeps.waits own foreign List.suffix_rfl asks
    exact ⟨now, record⟩
  · intro state tallied
    refine ⟨tallied.bounded, fun later event earlier split here => ?_⟩
    have orderly : Orderly realm (event :: earlier) := (split ▸ tallied.orderly).before
    have follows := orderly.1 here
    have depth := follows.depth_eq here
    refine ⟨depth, depth ▸ orderly.running_le, fun refused => ?_⟩
    simp only [CallEvent.Follows, refused] at follows
    exact follows.2.trans follows.1
  · intro definition environment this arguments state tallied
    rw [Evaluation.callScript, Evaluation.enterCall_bind, tallied.counted]
    have full : maximumDepth ≤ running realm state.calls ↔
        running realm state.calls = maximumDepth :=
      ⟨Nat.le_antisymm tallied.orderly.running_le, fun all => Nat.le_of_eq all.symm⟩
    simp only [full]

/-- The text that a run ends with at once, and the record of calls then. -/
def spoken? {ε : Type} : Run ε Value → Option (String × List CallEvent)
  | .done (.text text) after => some (text, after.calls)
  | _ => none

theorem comesTo_of_spoken {ε : Type} (others : State → State → Prop) {run : Run ε Value}
    {text : String} {calls : List CallEvent} (spoken : spoken? run = some (text, calls)) :
    ∃ after, run.ComesTo others (.ok (.text text)) after ∧ after.calls = calls := by
  cases run with
  | done value after =>
    cases value with
    | text said =>
      cases spoken
      exact ⟨after, ⟨rfl, rfl⟩, rfl⟩
    | _ => cases spoken
  | _ => cases spoken

/-- A realm without a library, in which nothing has run yet. -/
def bareRealm : State := { heap := { scopes := #[{}], realms := #[⟨⟨0⟩, default, 0⟩] } }

/-- A call is counted until it ends. -/
theorem calls_counted_once :
    ∃ after, (Plugin.execute (Interpreter.within 9) ⟨0⟩ (.table []) "return (() => 'x')();"
        bareRealm).ComesTo (Undisturbed ⟨0⟩) (.ok (.text "x")) after ∧
      after.calls = [⟨.ended, ⟨0⟩, 0⟩, ⟨.began, ⟨0⟩, 1⟩] ∧
      (after.heap.realm ⟨0⟩).callDepth = 0 := by
  have tallied : Tallied ⟨0⟩ bareRealm := ⟨by decide, rfl, trivial⟩
  have restores :=
    (calls_counted 9 ⟨0⟩ (.table []) "return (() => 'x')();" bareRealm tallied).1
  have computed : spoken? (Plugin.execute (Interpreter.within 9) ⟨0⟩ (.table [])
      "return (() => 'x')();" bareRealm) =
        some ("x", [⟨.ended, ⟨0⟩, 0⟩, ⟨.began, ⟨0⟩, 1⟩]) := by
    decide +kernel
  -- The run has been computed, and would be once more.
  generalize Plugin.execute (Interpreter.within 9) ⟨0⟩ (.table []) "return (() => 'x')();"
    bareRealm = run at restores computed ⊢
  obtain ⟨after, comes, calls⟩ := comesTo_of_spoken (Undisturbed ⟨0⟩) computed
  exact ⟨after, comes, calls, (restores _ after comes).2.2⟩

end PluginSandbox.Script
