import PluginSandbox.Proofs.Syntax.Operands

/-!
# Keys of properties are read back

The fixed key of a property is printed as a name, as a numeral or as a quoted text. Names and quoted
texts are read back as they were. A numeral is read as the double nearest to it, which is written
out again; so the key comes back if it is how a double is written, as it is below `2 ^ 53`. The name
`async` before the parameters of a method is taken for the mark of a method that waits.
-/
namespace PluginSandbox.Syntax

open Peg (Node)
open Peg.Grammar (outermost inside)
open Peg.Expression (firstOf inOrder maybe)

/-- What the node inside the name of a property is asked to denote. -/
def SpellsKey (key : String) : Asked :=
  fun child => child.rule.isNoise = false ∧ child.key = .ok (.fixed key)

/-- What the name of a property is asked to denote. -/
def Names (key : String) : Asked :=
  fun child => child.rule = .propertyName ∧ child.key = .ok (.fixed key)

/-- What a property of an object expression is asked to denote. -/
def Gives (property : Property) : Asked :=
  fun child => child.rule.isNoise = false ∧ child.property = .ok property

/-- What a property of an object pattern is asked to denote. -/
def Takes (property : PatternProperty) : Asked :=
  fun child => child.rule.isNoise = false ∧ child.2 = .ok (.patternProperty property)

/-- What a target with or without an initial value is asked to denote. -/
def Targets (pattern : Pattern) : Asked :=
  fun child => child.rule.isNoise = false ∧ child.pattern = .ok pattern

/-- What the parameters of a function are asked to denote. -/
def Accepts (patterns : List Pattern) (remaining : Option Pattern) : Asked :=
  fun child => child.rule = .formalParameters ∧ child.2 = .ok (.parameters patterns remaining)

/-- What the body of a function is asked to denote. -/
def Executes (statements : List Statement) : Asked :=
  fun child => child.rule = .functionBody ∧ child.statements = .ok statements

/-- A text starts with the parameters and the body of a function. -/
def ReadsFunction (text rest : List Char) (patterns : List Pattern) (remaining : Option Pattern)
    (statements : List Statement) : Prop :=
  text.head? = some '(' ∧
    Reads outermost (.once (inOrder [.call .formalParameters, maybe (.call .typeAscription),
      .call .functionBody])) text rest [Accepts patterns remaining, Executes statements]

/-- The key that the text of a fixed key denotes. -/
def keyReadBack (name : String) : String :=
  if isCanonicalIndex name then
    Number.toText (Number.Decimal.toFloat ⟨Number.ofDigits name.toList, 0⟩)
  else name

section

variable {name : String}

/-- A canonical index is a run of digits, and a longer one does not start with a zero. -/
theorem isCanonicalIndex_digits (canonical : isCanonicalIndex name = true) :
    name.toList ≠ [] ∧ name.toList.all Char.isDigit = true ∧
      (1 < name.toList.length → name.toList.head? ≠ some '0') := by
  rw [isCanonicalIndex] at canonical
  split at canonical
  case h_1 => cases canonical
  case h_2 single =>
    rw [single]
    exact ⟨List.cons_ne_nil _ _, rfl, fun long => absurd long (Nat.lt_irrefl 1)⟩
  case h_3 => cases canonical
  case h_4 filled _ other =>
    refine ⟨filled, canonical, fun _ zero => ?_⟩
    obtain ⟨rest, same⟩ := List.head?_eq_some_iff.mp zero
    exact other rest same

/-- A canonical index starts with a digit. -/
theorem startsIn_numeral (canonical : isCanonicalIndex name = true) (rest : List Char) :
    StartsIn [.digit] (name.toList ++ rest) := by
  obtain ⟨filled, all, _⟩ := isCanonicalIndex_digits canonical
  cases spelled : name.toList with
  | nil => exact absurd spelled filled
  | cons c others =>
    rw [spelled, List.all_cons, Bool.and_eq_true] at all
    exact ⟨_, List.mem_singleton_self _, c, others ++ rest, rfl, mem_digits all.1⟩

/-- A name is no numeral. -/
theorem not_isCanonicalIndex (named : isIdentifierName name = true) :
    isCanonicalIndex name = false := by
  cases canonical : isCanonicalIndex name with
  | false => rfl
  | true =>
    obtain ⟨filled, all, _⟩ := isCanonicalIndex_digits canonical
    have starts := (isIdentifierName_word named).1
    cases spelled : name.toList with
    | nil => exact absurd spelled filled
    | cons c rest =>
      rw [spelled] at all starts
      rw [List.all_cons, Bool.and_eq_true] at all
      have digit : startsName (c :: rest) = false := startsName_digit rest (mem_digits all.1)
      rw [digit] at starts
      cases starts

/-- A fixed key is printed as a name, as a numeral or between quotes. -/
theorem renderFixedKey_cases (name : String) :
    (isIdentifierName name = true ∧ renderFixedKey name = name ∧ keyReadBack name = name) ∨
    (isCanonicalIndex name = true ∧ renderFixedKey name = name) ∨
    (renderFixedKey name = Text.Quoted.encode name ∧ keyReadBack name = name) := by
  rw [renderFixedKey, keyReadBack]
  by_cases named : isIdentifierName name = true
  · refine .inl ⟨named, ?_, ?_⟩
    · rw [named]
      rfl
    · rw [not_isCanonicalIndex named]
      rfl
  · by_cases canonical : isCanonicalIndex name = true
    · refine .inr (.inl ⟨canonical, ?_⟩)
      rw [canonical, Bool.or_true]
      rfl
    · refine .inr (.inr ?_)
      rw [Bool.not_eq_true] at named canonical
      rw [named, canonical]
      exact ⟨rfl, rfl⟩

/-- A numeral below `2 ^ 53` is how its double is written. -/
theorem keyReadBack_eq
    (exact : isCanonicalIndex name = true → Number.ofDigits name.toList < 2 ^ 53) :
    keyReadBack name = name := by
  rw [keyReadBack]
  split
  case isTrue canonical =>
    obtain ⟨filled, all, shortest⟩ := isCanonicalIndex_digits canonical
    have small := exact canonical
    have digits := (Number.digitsOf_ofDigits filled (List.all_eq_true.mp all) shortest).1
    rw [Number.toFloat_ofNat small, Number.toText_ofNat small, digits, String.ofList_toList]
  case isFalse => rfl

/-- The text of a fixed key starts with a word character or with a quote. -/
theorem renderFixedKey_head (name : String) (rest : List Char) :
    ∃ c others, (renderFixedKey name).toList ++ rest = c :: others ∧
      (isIdentifierChar c = true ∨ c = '"') := by
  rcases renderFixedKey_cases name with ⟨named, same, -⟩ | ⟨canonical, same⟩ | ⟨same, -⟩
  · rw [same]
    have starts := (isIdentifierName_word named).1
    cases spelled : name.toList with
    | nil =>
      rw [spelled] at starts
      cases starts
    | cons c others =>
      rw [spelled] at starts
      exact ⟨c, others ++ rest, rfl, .inl (isIdentifierChar_of_start starts)⟩
  · rw [same]
    obtain ⟨filled, all, _⟩ := isCanonicalIndex_digits canonical
    cases spelled : name.toList with
    | nil => exact absurd spelled filled
    | cons c others =>
      rw [spelled, List.all_cons, Bool.and_eq_true] at all
      refine ⟨c, others ++ rest, rfl, .inl ?_⟩
      simp [isIdentifierChar, Char.isAlphanum, all.1]
  · rw [same, Text.Quoted.encode, String.toList_ofList]
    exact ⟨_, _, rfl, .inr rfl⟩

/-- No blank starts where the text of a key does. -/
theorem settled_key (name : String) (rest : List Char) :
    startsBlank ((renderFixedKey name).toList ++ rest) = false := by
  obtain ⟨c, others, same, starts⟩ := renderFixedKey_head name rest
  rw [same]
  rcases starts with word | rfl
  · exact settled_of_word word
  · rfl

/-- The first word of the text of a key is the key, or there is none. -/
theorem firstWord_key (name : String) {rest : List Char} (ends : startsWord rest = false) :
    firstWord ((renderFixedKey name).toList ++ rest) = name.toList ∨
      firstWord ((renderFixedKey name).toList ++ rest) = [] := by
  rcases renderFixedKey_cases name with ⟨named, same, -⟩ | ⟨canonical, same⟩ | ⟨same, -⟩
  · rw [same]
    exact .inl (firstWord_append (isIdentifierName_word named).2 ends)
  · rw [same]
    refine .inl (firstWord_append ?_ ends)
    have all := (isCanonicalIndex_digits canonical).2.1
    rw [List.all_eq_true] at all ⊢
    intro c member
    simp [isIdentifierChar, Char.isAlphanum, all c member]
  · rw [same, Text.Quoted.encode, String.toList_ofList]
    exact .inr rfl

/-- Only the key `async` starts like the mark of a method that waits. -/
theorem Rejects.async_of_key (other : name ≠ "async") {rest : List Char}
    (ends : startsWord rest = false) :
    Rejects outermost (.once (.call (.keyword .async)))
      ((renderFixedKey name).toList ++ rest) := by
  refine .words (List.cons_ne_nil _ _) fun known => ?_
  have word : firstWord ((renderFixedKey name).toList ++ rest) = "async".toList :=
    List.mem_singleton.mp known
  rcases firstWord_key name ends with same | none
  · rw [same] at word
    exact other (String.toList_injective word)
  · rw [none] at word
    cases word

/-- The name of a property denotes the key that the node below it does. -/
theorem denotes_propertyName {node : Node Rule} {children : List Child}
    (same : node.rule = .propertyName) (meets : Meets children [SpellsKey name]) :
    Names name (node, assemble node children) := by
  have parts := filter_noise_all meets (show Shown _ from fun child asks => asks.1)
  cases meets with
  | @cons spelled _ _ _ asks none =>
  cases none with
  | nil =>
    obtain ⟨_, place, stop⟩ := node
    cases same
    have value : assemble ⟨.propertyName, place, stop⟩ [spelled] = .ok (.key (.fixed name)) := by
      unfold assemble
      rw [parts]
      change (do return Part.key (← spelled.key)) = _
      rw [asks.2]
      rfl
    refine ⟨rfl, ?_⟩
    rw [Child.key, value]
    rfl

/-- The text of a fixed key is read as the key that it denotes. -/
theorem Reads.propertyName (name : String) {rest : List Char} (ends : startsWord rest = false)
    (point : rest.head? ≠ some '.') :
    Reads outermost (.once (.call .propertyName)) ((renderFixedKey name).toList ++ rest) rest
      [Names (keyReadBack name)] := by
  have body : Reads (inside Rule.propertyName.kind outermost) (.once Rule.propertyName.body)
      ((renderFixedKey name).toList ++ rest) rest [SpellsKey (keyReadBack name)] := by
    rcases renderFixedKey_cases name with ⟨named, same, key⟩ | ⟨canonical, same⟩ | ⟨same, key⟩
    · rw [same, key]
      refine .choice_first ((Reads.identifierName named ends).imp fun child spells => ?_) _
      obtain ⟨rule, text, word⟩ := spells
      refine ⟨by rw [rule]; rfl, ?_⟩
      rw [Child.key, word, text]
      rfl
    · obtain ⟨filled, all, _⟩ := isCanonicalIndex_digits canonical
      rw [same, keyReadBack, if_pos canonical]
      have starts := startsIn_numeral canonical rest
      refine .choice_second (.of_heads starts (by decide) rfl rfl)
        (.choice_second (.of_heads starts (by decide) rfl rfl) (.choice_first ?_ _))
      refine (Reads.numeral filled all ends point).imp fun child denotes => ?_
      obtain ⟨rule, value⟩ := denotes
      refine ⟨by rw [rule]; rfl, ?_⟩
      rw [Child.key, value]
      rfl
    · rw [same, key]
      have quote : startsName ((Text.Quoted.encode name).toList ++ rest) = false := by
        rw [Text.Quoted.encode, String.toList_ofList]
        rfl
      refine .choice_second (.identifierName quote) (.choice_first ?_ _)
      refine (Reads.string name rest).imp fun child denotes => ?_
      obtain ⟨rule, _, value⟩ := denotes
      refine ⟨by rw [rule]; rfl, ?_⟩
      rw [Child.key, value]
      rfl
  exact .node (by decide) rfl body fun node children same _ meets =>
    denotes_propertyName same meets

/-- What comes right after the key of a property. -/
def afterKey : List Head := [.marks [':'], .marks ['(']]

/-- What comes right after a key goes on with none. -/
theorem ends_key {rest : List Char} (starts : StartsIn afterKey rest) :
    startsWord rest = false ∧ rest.head? ≠ some '.' ∧ startsBlank rest = false := by
  have settled := starts.settled (by decide)
  obtain ⟨head, member, fits⟩ := starts
  have marks : ∃ c, head = .marks [c] ∧ isIdentifierChar c = false ∧ c ≠ '.' := by
    rcases List.mem_cons.mp member with rfl | later
    · exact ⟨':', rfl, rfl, by decide⟩
    · rw [List.mem_singleton.mp later]
      exact ⟨'(', rfl, rfl, by decide⟩
  obtain ⟨c, rfl, word, point⟩ := marks
  obtain ⟨others, rfl⟩ := fits.2.2
  exact ⟨word, fun same => point (Option.some.inj same), settled⟩

/-- A key is no spread. -/
theorem Rejects.spread_of_key {rule : Rule} (body : ∃ tail, rule.body = .seq (.literal "...".toList) tail)
    (name : String) (rest : List Char) :
    Rejects outermost (.once (.call rule)) ((renderFixedKey name).toList ++ rest) := by
  obtain ⟨tail, body⟩ := body
  obtain ⟨c, others, same, starts⟩ := renderFixedKey_head name rest
  refine .call ?_
  rw [body, same]
  refine .seq (.literal_head _ _ _ ?_) _
  rintro rfl
  rcases starts with word | quote
  · cases word
  · cases quote

/-- Where a word that could be a mark is the key of a method, it is taken for the mark. -/
theorem Rejects.method_async {rest : List Char} (starts : StartsIn afterKey rest) :
    Rejects outermost (.once (.call .methodProperty)) ("async".toList ++ rest) := by
  obtain ⟨ends, _, settled⟩ := ends_key starts
  have word : firstWord ("async".toList ++ rest) = "async".toList :=
    firstWord_append (by decide) ends
  have mark := Reads.words_node (.keyword .async) ("async".toList ++ rest)
    (show outermost.makesNodes = true from rfl) (by rw [word]; decide)
  rw [dropWord_append (by decide) ends] at mark
  have body : Rejects outermost (.once Rule.methodProperty.body) ("async".toList ++ rest) := by
    refine .seq_late mark.maybe_some (.seq ?_ _)
    rw [padded_settled settled]
    exact .of_heads starts (by decide) rfl rfl
  exact .call body

/-- A key before a colon is the key of no method. -/
theorem Rejects.method_of_colon (name : String) {rest : List Char}
    (starts : StartsIn [.marks [':']] rest) :
    Rejects outermost (.once (.call .methodProperty)) ((renderFixedKey name).toList ++ rest) := by
  have after := starts.mono (List.cons_subset_cons _ (List.nil_subset [.marks ['(']]))
  obtain ⟨ends, point, settled⟩ := ends_key after
  by_cases async : name = "async"
  · subst async
    exact .method_async after
  · have body : Rejects outermost (.once Rule.methodProperty.body)
        ((renderFixedKey name).toList ++ rest) := by
      refine .seq_late (.maybe_none (.async_of_key async ends)) ?_
      rw [padded_settled (settled_key name rest)]
      refine .seq_late (.propertyName name ends point) ?_
      rw [padded_settled settled]
      refine .seq_late (.maybe_none (.of_heads starts (by decide) rfl rfl)) (.seq ?_ _)
      rw [padded_settled settled]
      exact .of_heads starts (by decide) rfl rfl
    exact .call body

end

section

variable {node : Node Rule} {children : List Child} {key : String}

/-- The node of a property with a value denotes it. -/
theorem denotes_keyValueProperty {value : Expr} (same : node.rule = .keyValueProperty)
    (meets : Meets children [Names key, Stands value]) :
    Gives (.init (.fixed key) value false) (node, assemble node children) := by
  have shown : Shown (Names key) := fun child names => by rw [names.1]; rfl
  have parts := filter_noise_all meets ⟨shown, fun child stands => stands.1⟩
  cases meets with
  | @cons first _ _ _ names more =>
  cases more with
  | @cons second _ _ _ stands none =>
  cases none with
  | nil =>
    obtain ⟨_, place, stop⟩ := node
    cases same
    have denoted : assemble ⟨.keyValueProperty, place, stop⟩ [first, second] =
        .ok (.property (.init (.fixed key) value false)) := by
      unfold assemble
      rw [parts]
      change (do
        let key ← first.key
        return Part.property (.init key (← second.expr) false)) = _
      rw [names.2, stands.expr]
      rfl
    refine ⟨rfl, ?_⟩
    rw [Child.property, denoted]
    rfl

/-- The node of a property of a pattern denotes it. -/
theorem denotes_aliasedBindingProperty {pattern : Pattern}
    (same : node.rule = .aliasedBindingProperty)
    (meets : Meets children [Names key, Targets pattern]) :
    Takes (.mk (.fixed key) pattern false) (node, assemble node children) := by
  have shown : Shown (Names key) := fun child names => by rw [names.1]; rfl
  have parts := filter_noise_all meets ⟨shown, fun child targets => targets.1⟩
  cases meets with
  | @cons first _ _ _ names more =>
  cases more with
  | @cons second _ _ _ targets none =>
  cases none with
  | nil =>
    obtain ⟨_, place, stop⟩ := node
    cases same
    refine ⟨rfl, ?_⟩
    unfold assemble
    rw [parts]
    change (do
      let key ← first.key
      return Part.patternProperty (.mk key (← second.pattern) false)) = _
    rw [names.2, targets.2]
    rfl

/-- What the node of a mark before a method is asked to be. -/
def markAsked (isAsync : Bool) : List Asked :=
  if isAsync then [Marks (.keyword .async)] else []

/-- The node of a mark is a mark. -/
theorem marks_only {isAsync : Bool} {marks : List Child} (marked : Meets marks (markAsked isAsync)) :
    ∀ child ∈ marks, child.rule = .keyword .async := by
  intro child member
  cases isAsync with
  | false =>
    cases marked
    cases member
  | true =>
    cases marked with
    | @cons mark _ _ _ is none =>
    cases none
    rw [List.mem_singleton.mp member]
    exact is

/-- What is no mark is looked for after the marks. -/
theorem find?_after_marks {marks : List Child}
    (only : ∀ child ∈ marks, child.rule = .keyword .async) (others : List Child)
    (wanted : Rule → Bool) (distinct : wanted (.keyword .async) = false) :
    (marks ++ others).find? (fun child => wanted child.rule) =
      others.find? (fun child => wanted child.rule) := by
  have none : marks.find? (fun child => wanted child.rule) = none := by
    apply List.find?_eq_none.mpr
    intro child member
    rw [only child member, distinct]
    exact Bool.false_ne_true
  rw [List.find?_append, none, Option.none_or]

section

variable {patterns : List Pattern} {remaining : Option Pattern} {statements : List Statement}
  {isAsync : Bool} {marks : List Child} {named head body : Child}

/-- The nodes of a method make up its function. -/
theorem assembleFunction_method (marked : Meets marks (markAsked isAsync))
    (names : Names key named) (accepts : Accepts patterns remaining head)
    (executes : Executes statements body) :
    assembleFunction node false (marks ++ [named, head, body]) =
      .ok (.mk none patterns remaining (.block statements) isAsync false) := by
  have asyncs : (marks ++ [named, head, body]).any (fun child => child.rule = .keyword .async) =
      isAsync := by
    cases isAsync with
    | false =>
      cases marked
      simp [names.1, accepts.1, executes.1]
    | true =>
      cases marked with
      | @cons mark _ _ _ is none =>
      have rule : mark.rule = .keyword .async := is
      simp [rule]
  have only := marks_only marked
  have unnamed : (marks ++ [named, head, body]).find? (fun child => child.rule = .identifier) =
      none := by
    rw [find?_after_marks only _ (fun rule => rule = .identifier) rfl]
    simp [names.1, accepts.1, executes.1]
  have parameters : (marks ++ [named, head, body]).find? (fun child =>
      child.rule = .formalParameters ∨ child.rule = .arrowParameters) = some head := by
    rw [find?_after_marks only _
      (fun rule => rule = .formalParameters ∨ rule = .arrowParameters) rfl]
    simp [names.1, accepts.1]
  have last : (marks ++ [named, head, body]).getLast? = some body := by simp
  unfold assembleFunction
  dsimp only
  rw [asyncs, unnamed, parameters, last]
  dsimp only
  rw [accepts.2]
  change (do
    let body ← if body.rule = Rule.functionBody then FunctionBody.block <$> body.statements
      else FunctionBody.expression <$> body.expr
    return Function.mk none patterns remaining body isAsync false) = _
  rw [if_pos executes.1, executes.2]
  rfl

/-- The nodes of a method denote it. -/
theorem assemble_method {place : Peg.Place} {stop : Nat} (marked : Meets marks (markAsked isAsync))
    (names : Names key named) (accepts : Accepts patterns remaining head)
    (executes : Executes statements body) :
    assemble ⟨.methodProperty, place, stop⟩ (marks ++ [named, head, body]) =
      .ok (.property (.method (.fixed key)
        (.mk none patterns remaining (.block statements) isAsync false))) := by
  have only := marks_only marked
  have parts : ((marks ++ [named, head, body]).filter fun child => !child.rule.isNoise) =
      marks ++ [named, head, body] := by
    apply List.filter_eq_self.mpr
    intro child member
    rcases List.mem_append.mp member with mark | part
    · rw [only child mark]
      rfl
    · simp only [List.mem_cons, List.not_mem_nil, or_false] at part
      rcases part with rfl | rfl | rfl
      · rw [names.1]
        rfl
      · rw [accepts.1]
        rfl
      · rw [executes.1]
        rfl
  have found : (marks ++ [named, head, body]).find? (fun child => child.rule = .propertyName) =
      some named := by
    rw [find?_after_marks only _ (fun rule => rule = .propertyName) rfl]
    simp [names.1]
  unfold assemble
  rw [parts]
  dsimp only
  rw [found]
  dsimp only
  rw [names.2, assembleFunction_method marked names accepts executes]
  rfl

end

/-- The node of a method denotes it. -/
theorem denotes_methodProperty {patterns : List Pattern} {remaining : Option Pattern}
    {statements : List Statement} {isAsync : Bool} (same : node.rule = .methodProperty)
    (meets : Meets children (markAsked isAsync ++
      [Names key, Accepts patterns remaining, Executes statements])) :
    Gives (.method (.fixed key) (.mk none patterns remaining (.block statements) isAsync false))
      (node, assemble node children) := by
  obtain ⟨marks, others, split, marked, more⟩ : ∃ marks others, children = marks ++ others ∧
      Meets marks (markAsked isAsync) ∧
      Meets others [Names key, Accepts patterns remaining, Executes statements] := by
    cases isAsync with
    | false => exact ⟨[], children, rfl, .nil, meets⟩
    | true =>
      cases meets with
      | @cons mark _ others _ is more => exact ⟨[mark], others, rfl, .cons is .nil, more⟩
  subst split
  cases more with
  | @cons named _ _ _ names more =>
  cases more with
  | @cons head _ _ _ accepts more =>
  cases more with
  | @cons body _ _ _ executes none =>
  cases none with
  | nil =>
    obtain ⟨_, place, stop⟩ := node
    cases same
    refine ⟨rfl, ?_⟩
    rw [Child.property, assemble_method marked names accepts executes]
    rfl

end

section

variable {name : String} {text rest : List Char}

/-- A key, a colon and what is read after them. -/
theorem Reads.after_colon {rule : Rule} {asked : List Asked} (name : String)
    (read : Reads outermost (.once (.call rule)) (afterBlanks text) rest asked) :
    Reads outermost (.once (inOrder [.call .propertyName, .literal [':'], .call rule]))
      ((renderFixedKey name).toList ++ ':' :: ' ' :: text) rest
      (Names (keyReadBack name) :: asked) := by
  have key : Reads outermost (.once (.call .propertyName))
      ((renderFixedKey name).toList ++ ':' :: ' ' :: text) (':' :: ' ' :: text)
      [Names (keyReadBack name)] := .propertyName name rfl nofun
  have colon : Reads outermost (.once (inOrder [.literal [':'], .call rule]))
      (padded outermost (':' :: ' ' :: text)) rest asked := by
    rw [padded_settled rfl]
    refine (Reads.literal outermost [':'] (' ' :: text)).seq ?_
    rw [padded_outermost, afterBlanks_blank _ rfl]
    exact read
  exact key.seq colon

/-- A property with a value is read. -/
theorem Reads.keyValue {value : Expr} (name : String)
    (read : Reads outermost (.once (.call .assignmentExpression)) (afterBlanks text) rest
      [Stands value]) :
    Reads outermost (.once (.call .objectProperty))
      ((renderFixedKey name).toList ++ ':' :: ' ' :: text) rest
      [Gives (.init (.fixed (keyReadBack name)) value false)] := by
  have colon : StartsIn [.marks [':']] (':' :: ' ' :: text) :=
    ⟨_, List.mem_singleton_self _, Head.marks_fits rfl (List.cons_ne_nil ':' []) _⟩
  have one : Reads outermost (.once (.call .keyValueProperty))
      ((renderFixedKey name).toList ++ ':' :: ' ' :: text) rest
      [Gives (.init (.fixed (keyReadBack name)) value false)] :=
    .node nofun rfl (.after_colon name read) fun node children same _ meets =>
      denotes_keyValueProperty same meets
  refine .hidden rfl (.choice_second (.spread_of_key ⟨_, rfl⟩ name _)
    (.choice_second (.method_of_colon name colon) (one.choice_first _)))

/-- A property of a pattern is read. -/
theorem Reads.aliased {pattern : Pattern} (name : String)
    (read : Reads outermost (.once (.call .bindingElement)) (afterBlanks text) rest
      [Targets pattern]) :
    Reads outermost (.once (.call .objectPatternProperty))
      ((renderFixedKey name).toList ++ ':' :: ' ' :: text) rest
      [Takes (.mk (.fixed (keyReadBack name)) pattern false)] := by
  have one : Reads outermost (.once (.call .aliasedBindingProperty))
      ((renderFixedKey name).toList ++ ':' :: ' ' :: text) rest
      [Takes (.mk (.fixed (keyReadBack name)) pattern false)] :=
    .node nofun rfl (.after_colon name read) fun node children same _ meets =>
      denotes_aliasedBindingProperty same meets
  exact .hidden rfl (.choice_second (.spread_of_key ⟨_, rfl⟩ name _) (one.choice_first _))

/-- A method is read, unless its key is taken for a mark. -/
theorem Reads.method {patterns : List Pattern} {remaining : Option Pattern}
    {statements : List Statement} {isAsync : Bool} (name : String)
    (free : isAsync = true ∨ name ≠ "async")
    (read : ReadsFunction text rest patterns remaining statements) :
    Reads outermost (.once (.call .objectProperty))
      ((if isAsync then "async " else "").toList ++ ((renderFixedKey name).toList ++ text)) rest
      [Gives (.method (.fixed (keyReadBack name))
        (.mk none patterns remaining (.block statements) isAsync false))] := by
  obtain ⟨opens, read⟩ := read
  obtain ⟨others, rfl⟩ := List.head?_eq_some_iff.mp opens
  have bracket : StartsIn [.marks ['(']] ('(' :: others) :=
    ⟨_, List.mem_singleton_self _, Head.marks_fits rfl (List.cons_ne_nil '(' []) _⟩
  have settled : startsBlank ('(' :: others) = false := rfl
  have key : Reads outermost (.once (.call .propertyName))
      ((renderFixedKey name).toList ++ '(' :: others) ('(' :: others)
      [Names (keyReadBack name)] := .propertyName name rfl nofun
  have function : Reads outermost (.once (inOrder [maybe (.call .typeParameters),
      .call .formalParameters, maybe (.call .typeAscription), .call .functionBody]))
      (padded outermost ('(' :: others)) rest
      [Accepts patterns remaining, Executes statements] := by
    rw [padded_settled settled]
    have none : Rejects outermost (.once (.call .typeParameters)) ('(' :: others) :=
      .of_heads bracket (by decide) rfl rfl
    refine (Reads.maybe_none none).seq ?_
    rw [padded_settled settled]
    exact read
  have tail : Reads outermost (.once (inOrder [.call .propertyName, maybe (.call .typeParameters),
      .call .formalParameters, maybe (.call .typeAscription), .call .functionBody]))
      ((renderFixedKey name).toList ++ '(' :: others) rest
      [Names (keyReadBack name), Accepts patterns remaining, Executes statements] :=
    key.seq function
  have body : Reads outermost (.once Rule.methodProperty.body)
      ((if isAsync then "async " else "").toList ++ ((renderFixedKey name).toList ++ '(' :: others))
      rest (markAsked isAsync ++
        [Names (keyReadBack name), Accepts patterns remaining, Executes statements]) := by
    cases isAsync with
    | false =>
      have other : name ≠ "async" := free.resolve_left Bool.false_ne_true
      refine (Reads.maybe_none (.async_of_key other rfl)).seq ?_
      rw [padded_settled (settled_key name _)]
      exact tail
    | true =>
      have word : firstWord ("async".toList ++ ' ' :: ((renderFixedKey name).toList ++ '(' :: others)) =
          "async".toList := firstWord_append (by decide) rfl
      have mark := Reads.words_node (.keyword .async)
        ("async".toList ++ ' ' :: ((renderFixedKey name).toList ++ '(' :: others))
        (show outermost.makesNodes = true from rfl) (by rw [word]; decide)
      rw [dropWord_append (by decide) rfl] at mark
      refine mark.maybe_some.seq ?_
      rw [padded_outermost, afterBlanks_spaced (settled_key name _)]
      exact tail
  have one : Reads outermost (.once (.call .methodProperty))
      ((if isAsync then "async " else "").toList ++ ((renderFixedKey name).toList ++ '(' :: others))
      rest [Gives (.method (.fixed (keyReadBack name))
        (.mk none patterns remaining (.block statements) isAsync false))] :=
    .node nofun rfl body fun node children same _ meets => denotes_methodProperty same meets
  refine .hidden rfl (.choice_second ?_ (one.choice_first _))
  cases isAsync with
  | false => exact .spread_of_key ⟨_, rfl⟩ name _
  | true => exact .call (.seq (.literal_head _ _ _ (by decide)) _)

end

section

variable (depth : Nat) (name : String) (rest : List Char)

/-- A list of one text is the text. -/
theorem commaList_singleton (text : String) : commaList [text] = text := rfl

/-- The text of a property with a value. -/
theorem toList_init (value : Expr) :
    (commaList (Property.renderAll depth [.init (.fixed name) value false])).toList ++ rest =
      (renderFixedKey name).toList ++ ':' :: ' ' :: ((value.render depth).toList ++ rest) := by
  have text : Property.renderAll depth [.init (.fixed name) value false] =
      [renderFixedKey name ++ ": " ++ value.render depth] := by
    cases value <;> rfl
  rw [text, commaList_singleton]
  simp only [String.toList_append, List.append_assoc]
  rfl

/-- The text of a method after its key. -/
def methodTail (parameters : List Pattern) (others : Option Pattern) (body : FunctionBody) : String :=
  parenthesized (commaList (Pattern.renderAll depth parameters ++ Pattern.renderRest depth others))
    ++ " " ++ body.render depth false

/-- The text of a method. -/
theorem toList_method (label : Option String) (parameters : List Pattern) (others : Option Pattern)
    (body : FunctionBody) (isAsync isArrow : Bool) :
    (commaList (Property.renderAll depth
      [.method (.fixed name) (.mk label parameters others body isAsync isArrow)])).toList ++ rest =
    (if isAsync then "async " else "").toList ++ ((renderFixedKey name).toList ++
      ((methodTail depth parameters others body).toList ++ rest)) := by
  have text : Property.renderAll depth
      [.method (.fixed name) (.mk label parameters others body isAsync isArrow)] =
      [(if isAsync then "async " else "") ++ renderFixedKey name ++
        parenthesized (commaList (Pattern.renderAll depth parameters ++
          Pattern.renderRest depth others)) ++ " " ++ body.render depth false] := rfl
  rw [text, commaList_singleton, methodTail]
  simp only [String.toList_append, List.append_assoc]

/-- The text of a property of a pattern. -/
theorem toList_aliased (pattern : Pattern) :
    (commaList (PatternProperty.renderAll depth [.mk (.fixed name) pattern false])).toList ++ rest =
      (renderFixedKey name).toList ++ ':' :: ' ' :: ((pattern.render depth).toList ++ rest) := by
  have text : PatternProperty.renderAll depth [.mk (.fixed name) pattern false] =
      [renderFixedKey name ++ ": " ++ pattern.render depth] := rfl
  rw [text, commaList_singleton]
  simp only [String.toList_append, List.append_assoc]
  rfl

end

/-- The text of the fixed key `name` is read as the fixed key `key`, wherever the grammar has the
names of properties. -/
structure KeyReadAs (depth : Nat) (name key : String) : Prop where
  /-- By itself, where no word and no point goes on. -/
  alone : ∀ {rest : List Char}, startsWord rest = false → rest.head? ≠ some '.' →
    Reads outermost (.once (.call .propertyName)) ((renderFixedKey name).toList ++ rest) rest
      [Names key]
  /-- In a property of an object, if its value is read. -/
  value : ∀ {value : Expr} {rest left : List Char},
    Reads outermost (.once (.call .assignmentExpression))
      (afterBlanks ((value.render depth).toList ++ rest)) left [Stands value] →
    Reads outermost (.once (.call .objectProperty))
      ((commaList (Property.renderAll depth [.init (.fixed name) value false])).toList ++ rest) left
      [Gives (.init (.fixed key) value false)]
  /-- In a method, if its parameters and its body are read and the key is not taken for a mark. -/
  method : ∀ {label : Option String} {parameters patterns : List Pattern}
      {others remaining : Option Pattern} {body : FunctionBody} {statements : List Statement}
      {isAsync isArrow : Bool} {rest left : List Char},
    isAsync = true ∨ name ≠ "async" →
    ReadsFunction ((methodTail depth parameters others body).toList ++ rest) left patterns remaining
      statements →
    Reads outermost (.once (.call .objectProperty))
      ((commaList (Property.renderAll depth
        [.method (.fixed name) (.mk label parameters others body isAsync isArrow)])).toList ++ rest)
      left
      [Gives (.method (.fixed key) (.mk none patterns remaining (.block statements) isAsync false))]
  /-- In a property of a pattern, if its target is read. -/
  pattern : ∀ {pattern : Pattern} {rest left : List Char},
    Reads outermost (.once (.call .bindingElement))
      (afterBlanks ((pattern.render depth).toList ++ rest)) left [Targets pattern] →
    Reads outermost (.once (.call .objectPatternProperty))
      ((commaList (PatternProperty.renderAll depth [.mk (.fixed name) pattern false])).toList ++ rest)
      left [Takes (.mk (.fixed key) pattern false)]

/-- The text of a fixed key is read as the key that `keyReadBack` gives. This is the key itself
unless the key is a canonical index from `2 ^ 53` on; and a method with the key `async` that does
not wait is not read as a method. -/
theorem fixed_keys_read_back (depth : Nat) (name : String) :
    KeyReadAs depth name (keyReadBack name) ∧
    ((isCanonicalIndex name = true → Number.ofDigits name.toList < 2 ^ 53) →
      keyReadBack name = name) ∧
    (name = "async" → ∀ (label : Option String) (parameters : List Pattern)
        (others : Option Pattern) (body : FunctionBody) (isArrow : Bool) (rest : List Char),
      Rejects outermost (.once (.call .methodProperty))
        ((commaList (Property.renderAll depth
          [.method (.fixed name) (.mk label parameters others body false isArrow)])).toList
            ++ rest)) := by
  refine ⟨⟨?alone, ?value, ?method, ?pattern⟩, keyReadBack_eq, ?mark⟩
  case alone =>
    intro rest ends point
    exact .propertyName name ends point
  case value =>
    intro value rest left read
    rw [toList_init]
    exact .keyValue name read
  case method =>
    intro label parameters patterns others remaining body statements isAsync isArrow rest left free
      read
    rw [toList_method]
    exact .method name free read
  case pattern =>
    intro pattern rest left read
    rw [toList_aliased]
    exact .aliased name read
  case mark =>
    rintro rfl label parameters others body isArrow rest
    rw [toList_method, methodTail, parenthesized]
    simp only [String.toList_append, List.append_assoc]
    exact .method_async ⟨_, .tail _ (List.mem_singleton_self _),
      Head.marks_fits rfl (List.cons_ne_nil '(' []) _⟩

/-- A quoted key comes back, and so does the largest index below `2 ^ 53`. -/
theorem fixed_keys_read_back_quoted :
    Reads outermost (.once (.call .objectProperty)) "\"a-b\": null\x7d".toList ['\x7d']
      [Gives (.init (.fixed "a-b") (.literal .null) false)] ∧
    keyReadBack "9007199254740991" = "9007199254740991" := by
  have lexed : Lexed ['\x7d'] := ⟨[.curly], rfl, .closed .curly .done⟩
  obtain ⟨seam, stays⟩ := Seam.closing lexed (show '\x7d' ∈ closingMarks by decide)
  have value : Reads outermost (.once (.call .assignmentExpression))
      (afterBlanks ((Expr.render 0 (.literal .null)).toList ++ ['\x7d'])) ['\x7d']
      [Stands (.literal .null)] := by
    have read := (Expr.IsOperation.null.isReadByAll.read.reads seam).imp
      fun child denotes => denotes.stands rfl
    have settled : startsBlank ((Expr.literal .null).characters ++ ['\x7d']) = false :=
      Expr.IsOperation.null.settled rfl
    rw [stays, ← afterBlanks_settled settled] at read
    exact read
  constructor
  · exact (fixed_keys_read_back 0 "a-b").1.value value
  · exact (fixed_keys_read_back 0 "9007199254740991").2.1 fun _ => by decide

/-- An index above `2 ^ 53` comes back as another key, and a method with the key `async` does not
come back as a method. -/
theorem fixed_keys_differ :
    Reads outermost (.once (.call .propertyName))
      ((renderFixedKey "9007199254740993").toList ++ [':']) [':'] [Names "9007199254740992"] ∧
    commaList (Property.renderAll 0
      [.method (.fixed "async") (.mk none [] none (.block []) false false)]) = "async() \x7b\x7d" ∧
    Rejects outermost (.once (.call .methodProperty)) "async() \x7b\x7d".toList := by
  have other : keyReadBack "9007199254740993" = "9007199254740992" := by decide +kernel
  have bracket : StartsIn afterKey "() \x7b\x7d".toList :=
    ⟨_, .tail _ (List.mem_singleton_self _),
      Head.marks_fits rfl (List.cons_ne_nil '(' []) ") \x7b\x7d".toList⟩
  refine ⟨?_, by decide +kernel, .method_async bracket⟩
  rw [← other]
  exact .propertyName "9007199254740993" rfl nofun

end PluginSandbox.Syntax
