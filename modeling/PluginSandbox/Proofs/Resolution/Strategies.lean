import PluginSandbox.Proofs.Resolution.Admission

/-!
# Which strategy satisfies an import

The strategies of a resolver are tried in a fixed order, and the first that applies settles the
matter: tokens and modules of the host settle it at once, a document settles it for a relative
path, tokens stand for a whole module, and the network comes last. What the later strategies
would do does not happen.
-/
namespace PluginSandbox.Plugin

open Script

/-- Whether a run ends at once: it asks for nothing and leaves the settings alone. -/
structure EndsAtOnce {ε α : Type} (run : Run ε α) (before : State) (outcome : Except ε α)
    (after : State) : Prop where
  /-- The run has come to its end. -/
  ended : run = .ended outcome after
  /-- Nothing was asked for. -/
  requests : after.journal.filterMap Event.request? = before.journal.filterMap Event.request?
  /-- The settings are as before. -/
  settings : after.settings = before.settings

/-- Whether there is no token for what an import asks for. -/
def LacksToken (resolver : Resolver) (statement : Import) : Prop :=
  ∀ name, statement.requestedAttribute? = some name →
    resolver.tokens.lookup statement.module name = none

/-- Fetches a module from an address to which the user has consented. -/
def fetchModule (module cdnUrl : String) : Code ResolveError Value := do
  Code.note .debug .host (Text.ticked module ++ ": CDN " ++ Text.ticked cdnUrl)
  match ← Code.request (.fetch module cdnUrl) with
  | .error problem => Code.fail (.fetch module problem)
  | .ok value => Code.updateHeap fun heap => heap.ofHost value

/-- How a request ends once a strategy for a module that the host does not know has come to an
outcome. A value is seen through the tokens of the module, and the attribute is taken out of it. -/
def provide (resolver : Resolver) (request : ImportRequest) (statement : Import) :
    Except ResolveError Value → State → Run ResolveError Value
  | .ok value, state =>
    let (shown, heap) :=
      if resolver.tokens.hasModule statement.module then
        state.heap.allocateValue (.view ⟨statement.module, value, resolver.tokens⟩)
      else (value, state.heap)
    .done (externalAttribute heap statement shown)
      (conclude resolver ⟨request, none⟩ { state with heap })
  | .error error, state => .failed error (conclude resolver ⟨request, some error⟩ state)

/-- How a request for what an import binds is satisfied, when it is not for types alone. -/
structure Precedence (interpreter : Interpreter) (resolver : Resolver) (request : ImportRequest)
    (statement : Import) (before : State) (run : Run ResolveError Value) : Prop where
  /-- A token for the attribute comes first. -/
  token : ∀ name token, statement.requestedAttribute? = some name →
    resolver.tokens.lookup statement.module name = some token →
    ∃ after, EndsAtOnce run before (.ok token) after
  /-- A module that the host knows comes next. It is seen through the tokens, and the default of a
  module without one is the module. -/
  known : ∀ value, LacksToken resolver statement →
    resolver.known.get? statement.module = some value →
    ∃ shown after,
      after.heap.objectOf? shown = some (.view ⟨statement.module, value, resolver.tokens⟩) ∧
      (statement.requestedAttribute? = none → EndsAtOnce run before (.ok shown) after) ∧
      (∀ name part, statement.requestedAttribute? = some name →
        after.heap.getOwn? shown name = some part → EndsAtOnce run before (.ok part) after) ∧
      ∀ name, statement.requestedAttribute? = some name → after.heap.getOwn? shown name = none →
        EndsAtOnce run before
          (if statement.isDefault then .ok shown
            else .error (.missingAttribute statement.module name)) after
  /-- A relative path names a document, and that is all. -/
  document : LacksToken resolver statement → resolver.known.get? statement.module = none →
    Path.isRelative statement.module = true →
    run = (loadLocal interpreter resolver statement.module before).andThen
      (provide resolver request statement)
  /-- Tokens for other attributes stand for a module without attributes of its own. -/
  tokens : LacksToken resolver statement → resolver.known.get? statement.module = none →
    Path.isRelative statement.module = false → resolver.tokens.hasModule statement.module = true →
    ∃ empty shown after,
      after.heap.objectOf? empty = some (.ordinary {}) ∧
      after.heap.objectOf? shown = some (.view ⟨statement.module, empty, resolver.tokens⟩) ∧
      EndsAtOnce run before
        (.ok (if statement.requestedAttribute? = none ∨ statement.isDefault then shown
          else .undefined)) after
  /-- Without a network nobody provides the module. -/
  nobody : LacksToken resolver statement → IsExternal resolver statement.module →
    resolver.hasRemote = false →
    ∃ after, EndsAtOnce run before (.error (.unresolvedModule statement.module)) after
  /-- The network comes last, after a check of the consent. -/
  network : LacksToken resolver statement → IsExternal resolver statement.module →
    resolver.hasRemote = true →
    run = ((checkConsent resolver.hasDialog statement.module >>= fetchModule statement.module)
      before).andThen (provide resolver request statement)
  /-- The user is not asked about a module, and it is not fetched, unless the network is left. -/
  last : ∀ (others : State → State → Prop) (consulted : Request) (asking : State),
    run.Asks others consulted asking → requestedModule? consulted = some statement.module →
    LacksToken resolver statement ∧ IsExternal resolver statement.module

/-- The conduct of code that asks the network for no relative path, in whatever state it runs and
whatever others do. -/
def sedentary : Conduct where
  source _ := True
  holds _ := True
  acts _ _ := True
  others _ _ := True
  asks request _ := ∀ module, requestedModule? request = some module →
    Path.isRelative module = false
  raises _ _ := True
  acts_refl _ := trivial
  acts_trans _ _ := trivial
  raises_acts _ _ _ := trivial
  raises_others _ _ _ := trivial
  loads {state} _ := state.heap.loadsFrom_anywhere
  step _ _ := ⟨trivial, trivial, fun _ now => now⟩
  begins _ _ _ := ⟨trivial, trivial, fun _ now => now⟩
  leaves _ _ _ _ := ⟨trivial, trivial, trivial⟩
  pauses _ := nofun

theorem sedentary_admits : AdmitsImports sedentary where
  note _ _ _ := ⟨trivial, trivial, fun _ now => now⟩
  turn _ _ := ⟨trivial, trivial, fun _ now => now⟩
  request _ _ := ⟨trivial, trivial, fun _ now => now⟩
  realm _ := ⟨trivial, trivial, fun _ now => now⟩
  conclude _ _ _ _ := ⟨trivial, trivial, fun _ now => now⟩
  raise _ := trivial
  table _ _ _ := trivial
  nested _ _ _ := trivial
  free {request state} free module asked := by rw [free] at asked; cases asked
  ask _ external _ module asked := by cases asked; exact external.foreign
  fetch _ external _ module asked := by cases asked; exact external.foreign

/-- A module of the host, seen through its tokens. -/
def shownModule (resolver : Resolver) (module : String) (value : Value) (state : State) : Value :=
  (state.heap.allocateValue (.view ⟨module, value, resolver.tokens⟩)).1

/-- The state in which a module of the host is seen through its tokens. -/
def showing (resolver : Resolver) (module : String) (value : Value) (state : State) : State :=
  { state with
    log := state.log ++ [⟨.debug, .host, Text.ticked module ++ ": known module"⟩]
    heap := (state.heap.allocateValue (.view ⟨module, value, resolver.tokens⟩)).2 }

section Chain

variable {self : Interpreter} {resolver : Resolver} {request : ImportRequest} {statement : Import}
  {before : State}

/-- A request whose action ends at once ends at once. -/
theorem EndsAtOnce.reporting (resolver : Resolver) (request : ImportRequest)
    {action : Code ResolveError Value} {outcome : Except ResolveError Value} {middle : State}
    (ends : EndsAtOnce (action before) before outcome middle) :
    EndsAtOnce (reporting resolver request action before) before outcome
      (conclude resolver ⟨request, failureOf outcome⟩ middle) := by
  refine ⟨?_, ?_, ?_⟩
  · rw [reporting_apply, ends.ended]
    cases outcome <;> rfl
  · rw [← ends.requests, conclude_requests]
  · rw [conclude_settings, ends.settings]

theorem requestedToken?_eq_none (lacks : LacksToken resolver statement) :
    requestedToken? resolver statement = none := by
  unfold requestedToken?
  cases requested : statement.requestedAttribute? with
  | none => rfl
  | some name => simp [lacks name requested]

variable (self before) in
/-- A token for the attribute settles the matter. -/
theorem resolveStatement_token {name : String} {token : Value}
    (requested : statement.requestedAttribute? = some name)
    (found : resolver.tokens.lookup statement.module name = some token) :
    ∃ after, EndsAtOnce (resolveStatement self resolver statement before) before (.ok token)
      after := by
  have provided : requestedToken? resolver statement = some (name, token) := by
    simp [requestedToken?, requested, found]
  unfold resolveStatement
  rw [provided]
  exact ⟨_, rfl, rfl, rfl⟩

theorem objectOf?_allocateValue (heap : Heap) (object : Object) :
    (heap.allocateValue object).2.objectOf? (heap.allocateValue object).1 = some object := by
  simp [Heap.allocateValue, Heap.allocate, Heap.objectOf?, Heap.object?]

/-- A new object replaces none. -/
theorem objectOf?_allocateValue_of_found {heap : Heap} {value : Value} {object : Object}
    (found : heap.objectOf? value = some object) (other : Object) :
    (heap.allocateValue other).2.objectOf? value = some object := by
  cases value with
  | object ref =>
    have bound := (Array.getElem?_eq_some_iff.mp found).1
    change (heap.objects.push other)[ref.index]? = some object
    rw [Array.getElem?_push_lt bound, ← Array.getElem?_eq_getElem bound]
    exact found
  | _ => cases found

/-- What a module of the host is shown as. -/
theorem objectOf?_shownModule (resolver : Resolver) (module : String) (value : Value)
    (state : State) :
    (showing resolver module value state).heap.objectOf?
        (shownModule resolver module value state) =
      some (.view ⟨module, value, resolver.tokens⟩) :=
  objectOf?_allocateValue _ _

theorem knownModule_runs {module : String} {value : Value}
    (known : resolver.known.get? module = some value) (state : State) :
    knownModule resolver module state =
      .done (some (shownModule resolver module value state))
        (showing resolver module value state) := by
  unfold knownModule
  rw [known]
  rfl

variable (self before) in
/-- A module that the host knows settles the matter. -/
theorem resolveStatement_known {value : Value} (lacks : LacksToken resolver statement)
    (known : resolver.known.get? statement.module = some value) :
    EndsAtOnce (resolveStatement self resolver statement before) before
      (knownAttribute (showing resolver statement.module value before).heap statement
        (shownModule resolver statement.module value before))
      (showing resolver statement.module value before) := by
  refine ⟨?_, rfl, rfl⟩
  unfold resolveStatement
  rw [requestedToken?_eq_none lacks]
  refine (Code.bind_of_done (knownModule_runs known before) _).trans ?_
  exact Code.tryHeap_apply (fun heap => knownAttribute heap statement _) _

/-- What an unknown module provides is what its strategy comes to. -/
theorem reporting_external (load : Code ResolveError Value) :
    reporting resolver request ((load >>= fun value =>
        if resolver.tokens.hasModule statement.module then
          viewThrough resolver.tokens statement.module value
        else pure value) >>= fun value =>
          Code.readHeap fun heap => externalAttribute heap statement value) before =
      (load before).andThen (provide resolver request statement) := by
  rw [reporting_apply, bind_assoc, Code.bind_apply, Run.andThen_assoc]
  congr 1
  funext outcome state
  cases outcome with
  | error error => rfl
  | ok value =>
    dsimp only [provide]
    cases resolver.tokens.hasModule statement.module <;> rfl

/-- Without a token for the attribute, an unknown module provides what the import asks for. -/
theorem resolveStatement_external (lacks : LacksToken resolver statement)
    (unknown : resolver.known.get? statement.module = none) :
    resolveStatement self resolver statement =
      externalModule self resolver statement.module >>= fun value =>
        Code.readHeap fun heap => externalAttribute heap statement value := by
  unfold resolveStatement resolveFromModule knownModule
  rw [requestedToken?_eq_none lacks, unknown]
  rfl

/-- A document alone settles the matter for a relative path. -/
theorem reporting_document (lacks : LacksToken resolver statement)
    (unknown : resolver.known.get? statement.module = none)
    (relative : Path.isRelative statement.module = true) :
    reporting resolver request (resolveStatement self resolver statement) before =
      (loadLocal self resolver statement.module before).andThen
        (provide resolver request statement) := by
  rw [resolveStatement_external lacks unknown, ← reporting_external]
  unfold externalModule
  rw [relative]
  rfl

/-- The network settles the matter for a module that nothing else provides. -/
theorem reporting_network (lacks : LacksToken resolver statement)
    (external : IsExternal resolver statement.module) :
    reporting resolver request (resolveStatement self resolver statement) before =
      (loadRemote resolver statement.module before).andThen
        (provide resolver request statement) := by
  rw [resolveStatement_external lacks external.unknown, ← reporting_external]
  unfold externalModule
  rw [external.foreign, external.tokenless]
  rfl

/-- A view is the outermost layer around what it shows. -/
theorem exists_layers_of_view {heap : Heap} {shown : Value} {view : TokenView}
    (seen : heap.objectOf? shown = some (.view view)) :
    ∃ bound, heap.layers shown = (view :: (heap.layersWithin bound view.target).1,
      (heap.layersWithin bound view.target).2) := by
  cases shown with
  | object ref =>
    unfold Heap.layers
    cases size : heap.objects.size with
    | zero =>
      have bound := (Array.getElem?_eq_some_iff.mp seen).1
      omega
    | succ bound =>
      simp only [Heap.objectOf?] at seen
      exact ⟨bound, by simp [Heap.layersWithin, seen]⟩
  | _ => cases seen

/-- What is seen through tokens is one layer below them, if it is no view itself. -/
theorem layers_of_view {heap : Heap} {shown : Value} {view : TokenView}
    (seen : heap.objectOf? shown = some (.view view))
    (plain : ∀ bound, heap.layersWithin bound view.target = ([], view.target)) :
    heap.layers shown = ([view], view.target) := by
  obtain ⟨bound, layers⟩ := exists_layers_of_view seen
  rw [layers, plain]

/-- An object without properties has only tokens for attributes when it is seen through them. -/
theorem getOwn?_emptyView {heap : Heap} {empty shown : Value} {view : TokenView}
    (bare : heap.objectOf? empty = some (.ordinary {}))
    (seen : heap.objectOf? shown = some (.view view)) (target : view.target = empty)
    (name : String) : heap.getOwn? shown name = view.lookup name := by
  subst target
  cases inner : view.target with
  | object ref =>
    rw [inner] at bare
    simp only [Heap.objectOf?] at bare
    have layers := layers_of_view seen fun bound => by
      rw [inner]
      cases bound <;> simp [Heap.layersWithin, bare]
    unfold Heap.getOwn?
    rw [layers, inner]
    cases token : view.lookup name <;>
      simp [Heap.tokenIn?, token, bare, Object.getOwn?, Object.properties, Properties.get?]
  | _ =>
    rw [inner] at bare
    cases bare

/-- Tokens for other attributes settle the matter for a module that has no value. -/
theorem reporting_tokens (lacks : LacksToken resolver statement)
    (unknown : resolver.known.get? statement.module = none)
    (foreign : Path.isRelative statement.module = false)
    (tokens : resolver.tokens.hasModule statement.module = true) :
    ∃ empty shown after,
      after.heap.objectOf? empty = some (.ordinary {}) ∧
      after.heap.objectOf? shown = some (.view ⟨statement.module, empty, resolver.tokens⟩) ∧
      EndsAtOnce (reporting resolver request (resolveStatement self resolver statement) before)
        before
        (.ok (if statement.requestedAttribute? = none ∨ statement.isDefault then shown
          else .undefined)) after := by
  let noted : State := { before with
    log := before.log ++ [⟨.debug, .host, Text.ticked statement.module ++ ": tokens only"⟩] }
  let empty := (noted.heap.allocateValue (.ordinary {})).1
  let created := (noted.heap.allocateValue (.ordinary {})).2
  let view : TokenView := ⟨statement.module, empty, resolver.tokens⟩
  let shown := (created.allocateValue (.view view)).1
  let heap := (created.allocateValue (.view view)).2
  have bare : heap.objectOf? empty = some (.ordinary {}) :=
    objectOf?_allocateValue_of_found (objectOf?_allocateValue _ _) _
  have seen : heap.objectOf? shown = some (.view view) := objectOf?_allocateValue _ _
  have taken : externalAttribute heap statement shown =
      if statement.requestedAttribute? = none ∨ statement.isDefault then shown
      else .undefined := by
    unfold externalAttribute
    cases requested : statement.requestedAttribute? with
    | none => simp
    | some name =>
      have absent : heap.getOwn? shown name = none :=
        (getOwn?_emptyView bare seen rfl name).trans (lacks name requested)
      simp [absent]
  refine ⟨empty, shown, conclude resolver ⟨request, none⟩ { noted with heap }, bare, seen, ?_, rfl,
    rfl⟩
  rw [← taken, resolveStatement_external lacks unknown]
  unfold externalModule
  rw [foreign, tokens]
  rfl

/-- The user is asked about a module, and it is fetched, only if nothing else provides it. -/
theorem reporting_consults (sound : self.Sound sedentary) {others : State → State → Prop}
    {consulted : Request} {asking : State}
    (asks : (reporting resolver request (resolveStatement self resolver statement)
      before).Asks others consulted asking)
    (concerned : requestedModule? consulted = some statement.module) :
    LacksToken resolver statement ∧ IsExternal resolver statement.module := by
  have silent {outcome : Except ResolveError Value} {after : State} (ends : EndsAtOnce
      (reporting resolver request (resolveStatement self resolver statement) before) before outcome
        after) : False :=
    Run.asks_ended (ends.ended ▸ asks)
  have lacks : LacksToken resolver statement := by
    intro name requested
    cases found : resolver.tokens.lookup statement.module name with
    | none => rfl
    | some token =>
      obtain ⟨_, ends⟩ := resolveStatement_token self before requested found
      exact (silent (ends.reporting resolver request)).elim
  have unknown : resolver.known.get? statement.module = none := by
    cases known : resolver.known.get? statement.module with
    | none => rfl
    | some value =>
      have ends := resolveStatement_known self before lacks known
      exact (silent (ends.reporting resolver request)).elim
  have resolving : sedentary.Keeps (fun _ => True) (resolveStatement self resolver statement) _ _ :=
    resolveStatement_keeps sedentary_admits sound trivial statement
  have keeps : sedentary.Keeps (fun _ => True) (reporting resolver request _) _ _ :=
    reporting_keeps sedentary_admits trivial request resolving
  have asked : sedentary.asks consulted asking :=
    (keeps.run before trivial trivial).asks (asks.mono fun _ => ⟨trivial, trivial⟩)
  have foreign : Path.isRelative statement.module = false := asked _ concerned
  refine ⟨lacks, foreign, unknown, ?_⟩
  cases tokens : resolver.tokens.hasModule statement.module with
  | false => rfl
  | true =>
    obtain ⟨_, _, _, _, _, ends⟩ := reporting_tokens lacks unknown foreign tokens
    exact (silent ends).elim

theorem reporting_precedence (sound : self.Sound sedentary) (request : ImportRequest)
    (statement : Import) (before : State) :
    Precedence self resolver request statement before
      (reporting resolver request (resolveStatement self resolver statement) before) where
  token name token requested found := by
    obtain ⟨after, ends⟩ := resolveStatement_token self before requested found
    exact ⟨_, ends.reporting resolver request⟩
  known value lacks known := by
    have seen := objectOf?_shownModule resolver statement.module value before
    have concluded := (resolveStatement_known self before lacks known).reporting resolver request
    generalize shownModule resolver statement.module value before = shown at seen concluded
    generalize showing resolver statement.module value before = after at seen concluded
    have heap := conclude_heap resolver
      ⟨request, failureOf (knownAttribute after.heap statement shown)⟩ after
    refine ⟨shown, _, heap.symm ▸ seen, fun requested => ?_, fun name part requested => ?_,
      fun name requested => ?_⟩
    · have outcome : knownAttribute after.heap statement shown = .ok shown := by
        simp [knownAttribute, requested]
      rw [← outcome]
      exact concluded
    · rw [heap]
      intro found
      have outcome : knownAttribute after.heap statement shown = .ok part := by
        simp [knownAttribute, requested, found]
      rw [← outcome]
      exact concluded
    · rw [heap]
      intro absent
      have outcome : knownAttribute after.heap statement shown =
          if statement.isDefault then .ok shown
          else .error (.missingAttribute statement.module name) := by
        simp [knownAttribute, requested, absent]
      rw [← outcome]
      exact concluded
  document lacks unknown relative := reporting_document lacks unknown relative
  tokens lacks unknown foreign tokens := reporting_tokens lacks unknown foreign tokens
  nobody lacks external remoteless := by
    refine ⟨conclude resolver ⟨request, some (.unresolvedModule statement.module)⟩ before, ?_,
      conclude_requests _ _ _, conclude_settings _ _ _⟩
    rw [reporting_network lacks external]
    unfold loadRemote
    rw [remoteless]
    rfl
  network lacks external remote := by
    rw [reporting_network lacks external]
    unfold loadRemote
    rw [remote]
    rfl
  last _ _ _ asks concerned := reporting_consults sound asks concerned

end Chain

/-- The first strategy that applies satisfies an import, and no later one does anything: a token
for the attribute, a module that the host knows, the document at a relative path, tokens for other
attributes, and the network after consent. An import of types does nothing at all, and a whole
module is resolved like an import of all of it. -/
theorem first_strategy_wins (bound : Nat) (resolver : Resolver) (before : State) :
    (∀ statement, statement.isTypeOnly = true →
      resolveImport (Interpreter.within bound) resolver statement before =
        .done .undefined before) ∧
    (∀ statement, statement.isTypeOnly = false →
      Precedence (Interpreter.within bound) resolver (.statement statement) statement before
        (resolveImport (Interpreter.within bound) resolver statement before)) ∧
    ∀ module name,
      Precedence (Interpreter.within bound) resolver (.module module) (.whole module name) before
        (resolve (Interpreter.within bound) resolver module before) := by
  have sound := scripts_sound sedentary_admits bound
  refine ⟨?_, ?_, ?_⟩
  · intro statement typeOnly
    simp only [resolveImport, typeOnly, if_true]
    rfl
  · intro statement valued
    simp only [resolveImport, valued, Bool.false_eq_true, if_false]
    exact reporting_precedence sound _ _ _
  · intro module name
    have whole : resolveModule (Interpreter.within bound) resolver module =
        resolveStatement (Interpreter.within bound) resolver (.whole module name) := by
      change resolveModule _ _ _ = resolveFromModule _ _ _
      unfold resolveModule resolveFromModule
      congr 1
      funext value?
      cases value? with
      | some value => rfl
      | none => exact (bind_pure _).symm
    unfold resolve
    rw [whole]
    exact reporting_precedence sound _ _ _

/-- A host with a module, with a token for it and one for another module, and with documents and a
network. -/
def mixedHost : Resolver :=
  { known := ({} : KnownModules).register "lib" (.text "abc")
    tokens := (({} : TokenRegistry).register "lib" "x" .null).register "only" "t" .null
    hasDocuments := true, hasRemote := true, hasDialog := true, basePath := some "main.js" }

/-- Each strategy has an import that it satisfies. -/
theorem first_strategy_wins_mixed :
    resolveImport (Interpreter.within 1) mixedHost ((Import.named "lib" "x").withTypeOnly true) {} =
      .done .undefined {} ∧
    (∃ after, EndsAtOnce (resolveImport (Interpreter.within 1) mixedHost (.named "lib" "x") {}) {}
      (.ok .null) after) ∧
    (∃ after, EndsAtOnce (resolveImport (Interpreter.within 1) mixedHost (.named "lib" "y") {}) {}
      (.error (.missingAttribute "lib" "y")) after) ∧
    resolve (Interpreter.within 1) mixedHost "./a.js" {} =
      (loadLocal (Interpreter.within 1) mixedHost "./a.js" {}).andThen
        (provide mixedHost (.module "./a.js") (.whole "./a.js" "a")) ∧
    (∃ after, EndsAtOnce (resolveImport (Interpreter.within 1) mixedHost (.named "only" "y") {}) {}
      (.ok .undefined) after) ∧
    resolve (Interpreter.within 1) mixedHost "left" {} =
      ((checkConsent true "left" >>= fetchModule "left") {}).andThen
        (provide mixedHost (.module "left") (.whole "left" "l")) := by
  obtain ⟨ofTypes, ofImports, ofModules⟩ := first_strategy_wins 1 mixedHost {}
  have lacks (module name : String) (absent : mixedHost.tokens.lookup module name = none) :
      LacksToken mixedHost (.named module name) := by
    rintro _ ⟨⟩
    exact absent
  refine ⟨ofTypes _ rfl, (ofImports _ rfl).token "x" _ rfl rfl, ?_, ?_, ?_, ?_⟩
  · obtain ⟨shown, after, seen, _, _, missing⟩ :=
      (ofImports (.named "lib" "y") rfl).known _ (lacks "lib" "y" rfl) rfl
    refine ⟨after, missing "y" rfl ?_⟩
    have layers := layers_of_view seen fun bound => by cases bound <;> rfl
    have nameless : arrayIndex? "y" = none := by decide +kernel
    unfold Heap.getOwn?
    rw [layers]
    change (arrayIndex? "y").bind (Heap.charAt? "abc") = none
    rw [nameless]
    rfl
  · exact (ofModules "./a.js" "a").document nofun rfl (by decide +kernel)
  · obtain ⟨_, _, after, _, _, ends⟩ :=
      (ofImports (.named "only" "y") rfl).tokens (lacks "only" "y" rfl) rfl (by decide +kernel) rfl
    exact ⟨after, ends⟩
  · exact (ofModules "left" "l").network nofun ⟨by decide +kernel, rfl, rfl⟩ rfl

end PluginSandbox.Plugin
