import PluginSandbox.Proofs.Peg.Starts
import PluginSandbox.Proofs.Syntax.Items
import PluginSandbox.Proofs.Syntax.Prefixes

/-!
# Operators before the left operand of a power

The grammar wants to refuse an operand with a unary operator on the left of `**`. It tests whether
such an operator starts the operand, and tells a sign from a doubled sign by a test for a second
sign, before which blanks are passed over. So the operators before the left operand of a power may
be changes by one, and of the others just a sign that a sign of the same kind follows.
-/
namespace PluginSandbox.Syntax

open Peg (Derives Place Surroundings)
open Peg.Grammar (Settled SkipsOnce OpensFirmly inside shownIn)

/-- Blanks and comments are passed over at once. -/
theorem skipSpace_skipSpace (fuel more : Nat) (place : Place) (enough : place.rest.length < fuel) :
    skipSpace more (skipSpace fuel place) = skipSpace fuel place := by
  induction fuel generalizing place with
  | zero => exact absurd enough (Nat.not_lt_zero _)
  | succ fuel ih =>
    obtain ⟨text, offset⟩ := place
    have shorter : text.length ≤ fuel := Nat.le_of_lt_succ enough
    generalize last : skipSpace (fuel + 1) ⟨text, offset⟩ = stop
    unfold skipSpace at last
    split at last
    case h_1 comment =>
      cases ends : blockCommentEnd comment (offset + 2) with
      | some place =>
        rw [ends] at last
        obtain ⟨taken, takes⟩ := blockCommentEnd_takes comment _ place ends
        have lengths := takes.length
        rw [← last]
        apply ih
        rw [List.length_cons, List.length_cons] at shorter
        dsimp only at lengths
        omega
      | none =>
        rw [ends] at last
        rw [← last]
        cases more with
        | zero => rfl
        | succ more => simp only [skipSpace, ends]
    case h_2 comment =>
      obtain ⟨taken, takes⟩ := lineCommentEnd_takes comment (offset + 2)
      have lengths := takes.length
      rw [← last]
      apply ih
      rw [List.length_cons, List.length_cons] at shorter
      dsimp only at lengths
      omega
    case h_3 c others block line =>
      split at last
      case isTrue =>
        rw [← last]
        apply ih
        rw [List.length_cons] at shorter
        exact shorter
      case isFalse solid =>
        rw [← last]
        cases more with
        | zero => rfl
        | succ more =>
          unfold skipSpace
          split
          case h_1 comment same =>
            cases same
            exact absurd rfl (block comment rfl)
          case h_2 comment same =>
            cases same
            exact absurd rfl (line comment rfl)
          case h_3 same =>
            cases same
            rw [if_neg solid]
          case h_4 same => cases same
    case h_4 =>
      rw [← last]
      cases more <;> rfl

/-- Blanks and comments are passed over at once. -/
theorem skipsOnce : SkipsOnce grammar := fun place =>
  skipSpace_skipSpace _ _ place (Nat.lt_succ_self _)

/-- A part of a template starts with characters that are no blanks. -/
theorem opensFirmly : OpensFirmly grammar := by
  intro rule spaced
  have opens : rule = .templateSubstitution := by
    cases rule with
    | operator op => rcases op with op | op <;> cases op <;> cases spaced
    | templateSubstitution => rfl
    | _ => cases spaced
  rw [opens]
  refine ⟨['$', '\x7b'], _, rfl, fun place here => skipBlanks_settled place ?_⟩
  obtain ⟨stop, found⟩ := Option.ne_none_iff_exists'.mp here
  rw [(Place.Takes.after found).rest]
  rfl

/-- Whether operators may stand, in this order, before the left operand of a power. -/
def mayPrecedePower : List Rule → Bool
  | [] | .preIncrement :: _ | .preDecrement :: _ => true
  | .negate :: second :: _ => second = .negate || second = .preDecrement
  | .unaryPlus :: second :: _ => second = .unaryPlus || second = .preIncrement
  | _ => false

/-- The rules of the operators that stand before an operand. -/
def prefixesOf (operand : Peg.Tree Rule) : List Rule :=
  operand.children.dropLast.map fun tree => tree.root.rule

/-- Whether a node is the operator of a power. -/
def isPower (tree : Peg.Tree Rule) : Bool := tree.root.rule = .operator (.binary .exponent)

/-- The nodes that the operator of a power follows. -/
def powerBases : List (Peg.Tree Rule) → List (Peg.Tree Rule)
  | operand :: operator :: others =>
    if isPower operator then operand :: powerBases (operator :: others)
    else powerBases (operator :: others)
  | _ => []

/-- The operators before each left operand of a power in a parse tree. -/
def powerPrefixes (tree : Peg.Tree Rule) : List (List Rule) :=
  tree.subtrees.flatMap fun below =>
    if below.root.rule = .binaryExpression then (powerBases below.children).map prefixesOf else []

section

variable {around : Surroundings} {place stop : Place} {trees : List (Peg.Tree Rule)}

/-- A prefix operator is a node of one of the rules for them. -/
theorem node_of_prefixOperator (makes : around.makesNodes = true)
    (derived : Derives grammar around (.once (.call .prefixOperator)) place
      (some (stop, trees))) :
    ∃ rule ∈ prefixRules, trees.map (fun tree => tree.root.rule) = [rule] ∧
      Derives grammar around (.once (.call rule)) place (some (stop, trees)) := by
  have body := derived.body_of_call rfl
  change Derives grammar around (.once (Peg.Expression.firstOf (prefixRules.map .call))) place
    (some (stop, trees)) at body
  obtain ⟨rule, member, matched⟩ := body.of_firstOf
  have plain : grammar.kind rule ≠ .hidden ∧ shownIn (grammar.kind rule) around = around := by
    fin_cases member <;> exact ⟨nofun, rfl⟩
  obtain ⟨children, rfl, _⟩ := matched.node_of_call plain.1 (by rw [plain.2]; exact makes)
  exact ⟨rule, member, rfl, matched⟩

/-- A word that stands at a place is found there by a test too. -/
theorem word_found_by_test {word : Keyword} {other : Surroundings}
    (matched : Derives grammar around (.once (.call (.keyword word))) place (some (stop, trees)))
    (test : Derives grammar other (.once (.call (.keyword word))) place none) : False := by
  have listed : Rule.words (.keyword word) ≠ [] := nofun
  by_cases known : firstWord place.rest ∈ (Rule.words (.keyword word)).map String.toList
  · have reads : Reads (inside (Rule.kind (.keyword word)) other)
        (.once (Rule.body (.keyword word))) place.rest (dropWord place.rest) [] :=
      .words_body known
    obtain ⟨_, _, body, _⟩ := reads place rfl
    have shown : grammar.kind (.keyword word) ≠ .hidden := nofun
    cases test.unique (.callShown shown body)
  · exact (Rejects.words listed known).not_derives rfl matched

/-- Where the test for a lone sign fails, the sign is followed by another one after blanks. -/
theorem sign_follows {sign : Char} {middle : Place}
    (test : Derives grammar around (.once (.seq (.literal [sign]) (.notAhead (.literal [sign]))))
      place none)
    (first : place.after? [sign] = some middle) :
    ∃ second, (grammar.padded around middle).after? [sign] = some second := by
  cases test with
  | seqFails left =>
    cases left with
    | literalFails next => cases next.symm.trans first
  | seqFailsLate left right =>
    cases left with
    | literal next =>
      cases next.symm.trans first
      cases right with
      | notAheadFails second =>
        cases second with
        | literal found => exact ⟨_, found⟩

/-- Where a sign stands, the prefix operators that match are those that the sign opens. -/
theorem opens_of_sign {sign : Char} {next : Place} (signs : sign ∈ ['-', '+'])
    (found : place.after? [sign] = some next) {rule : Rule} (member : rule ∈ prefixRules)
    (derived : Derives grammar around (.once (.call rule)) place (some (stop, trees))) :
    (Head.marks [sign]).opens 64 (.call rule) = true := by
  have spelled : place.rest = sign :: next.rest := (Place.Takes.after found).rest
  have fits : (Head.marks [sign]).Fits (sign :: next.rest) := by
    have marks : startsWord [sign] = false := by
      fin_cases signs <;> rfl
    exact Head.marks_fits marks (List.cons_ne_nil _ _) _
  have solid : startsBlank (sign :: next.rest) = false := by
    fin_cases signs <;> rfl
  have filled : (Peg.Expression.call rule).isNullable ranking = false := by
    fin_cases member <;> rfl
  cases opens : (Head.marks [sign]).opens 64 (.call rule) with
  | true => rfl
  | false =>
    have rejects : Rejects around (.once (.call rule)) (sign :: next.rest) :=
      .of_head _ fits solid rfl filled opens
    exact (rejects.not_derives spelled derived).elim

/-- A rule for some characters matches just where they stand. -/
theorem after_of_marks {rule : Rule} {characters : List Char}
    (shown : grammar.kind rule ≠ .hidden) (spelled : grammar.body rule = .literal characters)
    {result : Peg.Match Rule}
    (derived : Derives grammar around (.once (.call rule)) place result) :
    place.after? characters = result.map Prod.fst := by
  cases derived with
  | callHidden hidden _ => exact absurd hidden shown
  | callShown _ body =>
    rw [spelled] at body
    cases body with
    | literal next => exact next
  | callFails _ body =>
    rw [spelled] at body
    cases body with
    | literalFails next => exact next

/-- Where a sign follows after blanks, the next prefix operator is one that the sign opens. -/
theorem next_of_sign (makes : around.makesNodes = true) {sign : Char} {single : Rule}
    (signs : sign ∈ ['-', '+']) (member : single ∈ prefixRules)
    (spelled : grammar.body single = .literal [sign]) {next : Place}
    (found : (grammar.padded around place).after? [sign] = some next)
    (more : Derives grammar around (.again (.call .prefixOperator)) place (some (stop, trees))) :
    ∃ second ∈ prefixRules, ∃ others, trees.map (fun tree => tree.root.rule) = second :: others ∧
      (Head.marks [sign]).opens 64 (.call second) = true := by
  cases more with
  | againNone none =>
    have body := none.body_of_call rfl
    change Derives grammar around (.once (Peg.Expression.firstOf (prefixRules.map .call))) _ _
      at body
    have fails := body.firstOf_fails _ (List.mem_map_of_mem member)
    have shown : grammar.kind single ≠ .hidden := by
      fin_cases member <;> nofun
    cases found.symm.trans (after_of_marks shown spelled fails)
  | @againSome _ _ _ _ _ _ others one more =>
    obtain ⟨second, inside, same, matched⟩ := node_of_prefixOperator makes one
    refine ⟨second, inside, others.map fun tree => tree.root.rule, ?_,
      opens_of_sign signs found inside matched⟩
    rw [List.map_append, same, List.singleton_append]

/-- What does not match where the test for a unary operator fails. -/
structure RefusesUnary (around : Surroundings) (place : Place) : Prop where
  /-- A minus sign without another one. -/
  minus : Derives grammar around (.once (.seq (.literal ['-']) (.notAhead (.literal ['-'])))) place
    none
  /-- A plus sign without another one. -/
  plus : Derives grammar around (.once (.seq (.literal ['+']) (.notAhead (.literal ['+'])))) place
    none
  /-- The sign of a logical complement. -/
  complement : place.after? ['!'] = none
  /-- The sign of a bitwise complement. -/
  bitwise : place.after? ['~'] = none
  /-- A word. -/
  word : ∀ word ∈ [Keyword.typeof, .void, .delete, .await],
    Derives grammar around (.once (.call (.keyword word))) place none

theorem refusesUnary_of_test
    (test : Derives grammar around (.once (.call .unaryOperatorStart)) place none) :
    RefusesUnary around place := by
  have fails := (test.body_of_call rfl).firstOf_fails
  have literal {c : Char} (fail : Derives grammar around (.once (.literal [c])) place none) :
      place.after? [c] = none := by
    cases fail with
    | literalFails next => exact next
  refine ⟨fails _ (.head _), fails _ (.tail _ (.head _)),
    literal (fails _ (.tail _ (.tail _ (.head _)))),
    literal (fails _ (.tail _ (.tail _ (.tail _ (.head _))))), fun word member => ?_⟩
  apply fails
  iterate 4 apply List.mem_cons_of_mem
  exact List.mem_map_of_mem (f := fun word => Peg.Expression.call (Rule.keyword word)) member

/-- A sign opens the operator that it spells and the doubled one. -/
theorem opened_by_sign : ∀ rule ∈ prefixRules,
    ((Head.marks ['-']).opens 64 (.call rule) = true → rule = .negate ∨ rule = .preDecrement) ∧
    ((Head.marks ['+']).opens 64 (.call rule) = true →
      rule = .unaryPlus ∨ rule = .preIncrement) := by
  decide +kernel

/-- The prefix operators of an operand at which the test for a unary operator fails may stand before
a power. -/
theorem mayPrecedePower_of_test {other : Surroundings} (makes : around.makesNodes = true)
    (alike : other.mode = around.mode)
    (test : Derives grammar other (.once (.call .unaryOperatorStart)) place none)
    (derived : Derives grammar around (.once (.many (.call .prefixOperator))) place
      (some (stop, trees))) :
    mayPrecedePower (trees.map fun tree => tree.root.rule) = true := by
  have refuses := refusesUnary_of_test test
  cases derived with
  | manyNone => rfl
  | @manySome _ _ _ middle _ _ others one more =>
    obtain ⟨rule, member, same, matched⟩ := node_of_prefixOperator makes one
    have padding : grammar.padded other middle = grammar.padded around middle := by
      rw [Peg.Grammar.padded, Peg.Grammar.padded, alike]
    have absent {c : Char} (spelled : grammar.body rule = .literal [c])
        (shown : grammar.kind rule ≠ .hidden) (none : place.after? [c] = none) : False := by
      cases none.symm.trans (after_of_marks shown spelled matched)
    -- A sign that is no test for a lone sign is followed by the same sign.
    have doubled {sign : Char} (signs : sign ∈ ['-', '+'])
        (spelled : grammar.body rule = .literal [sign])
        (shown : grammar.kind rule ≠ .hidden) (fails : Derives grammar other
          (.once (.seq (.literal [sign]) (.notAhead (.literal [sign])))) place none) :
        ∃ second ∈ prefixRules, ∃ rest, others.map (fun tree => tree.root.rule) = second :: rest ∧
          (Head.marks [sign]).opens 64 (.call second) = true := by
      obtain ⟨_, again⟩ := sign_follows fails (after_of_marks shown spelled matched)
      rw [padding] at again
      exact next_of_sign makes signs member spelled again more
    rw [List.map_append, same, List.singleton_append]
    simp only [prefixRules, List.mem_cons, List.not_mem_nil, or_false] at member
    rcases member with rfl | rfl | rfl | rfl | rfl | rfl | rfl | rfl | rfl | rfl
    case inl => rfl
    case inr.inl => rfl
    case inr.inr.inl => exact (absent rfl (by decide) refuses.complement).elim
    case inr.inr.inr.inl =>
      obtain ⟨second, inside, rest, next, opens⟩ :=
        doubled (by decide) rfl (by decide) refuses.minus
      rw [next]
      rcases (opened_by_sign second inside).1 opens with rfl | rfl <;> rfl
    case inr.inr.inr.inr.inl =>
      obtain ⟨second, inside, rest, next, opens⟩ :=
        doubled (by decide) rfl (by decide) refuses.plus
      rw [next]
      rcases (opened_by_sign second inside).2 opens with rfl | rfl <;> rfl
    case inr.inr.inr.inr.inr.inl => exact (absent rfl (by decide) refuses.bitwise).elim
    all_goals exact (word_found_by_test matched (refuses.word _ (by decide))).elim

/-- The node of an operand has the nodes of its prefix operators and one more. -/
theorem node_of_unaryExpression (makes : around.makesNodes = true)
    (derived : Derives grammar around (.once (.call .unaryExpression)) place (some (stop, trees))) :
    ∃ prefixes base middle,
      trees = [.node .unaryExpression place stop.offset (prefixes ++ [base])] ∧
      Derives grammar around (.once (.many (.call .prefixOperator))) place
        (some (middle, prefixes)) := by
  have shown : grammar.kind .unaryExpression ≠ .hidden := nofun
  have shownBelow : grammar.kind .postfixExpression ≠ .hidden := nofun
  obtain ⟨children, rfl, body⟩ := derived.node_of_call shown makes
  cases body with
  | @seq _ _ _ _ _ _ prefixes _ left right =>
    obtain ⟨below, rfl, _⟩ := right.node_of_call shownBelow makes
    exact ⟨prefixes, _, _, rfl, left⟩

/-- An operand has operators that may stand before a power, or no power follows it. -/
theorem operand_cases (makes : around.makesNodes = true) (settled : Settled grammar around place)
    (derived : Derives grammar around (.once (.call .binaryOperand)) place (some (stop, trees))) :
    ∃ operand, trees = [operand] ∧ isPower operand = false ∧
      (mayPrecedePower (prefixesOf operand) = true ∨
        Settled grammar around stop ∧ stop.after? ['*', '*'] = none) := by
  cases derived.body_of_call rfl with
  | choiceFirst left =>
    cases left with
    | seq test unary =>
      cases test with
      | notAhead test =>
        rw [settled] at unary
        obtain ⟨prefixes, base, middle, rfl, many⟩ := node_of_unaryExpression makes unary
        refine ⟨_, rfl, rfl, .inl ?_⟩
        have allowed := mayPrecedePower_of_test makes
          (by rw [Surroundings.refuting]; split <;> rfl) test many
        rw [prefixesOf, Peg.Tree.children, List.dropLast_concat]
        exact allowed
  | choiceSecond _ right =>
    cases right with
    | seq unary test =>
      cases test with
      | notAhead test =>
        obtain ⟨prefixes, base, middle, rfl, many⟩ := node_of_unaryExpression makes unary
        refine ⟨_, rfl, rfl, .inr ⟨skipsOnce.settled _ _, ?_⟩⟩
        have shown : grammar.kind (.operator (.binary .exponent)) ≠ .hidden := by decide
        exact after_of_marks shown rfl test

/-- An infix operator is a node, and that of a power matches where two stars stand. -/
theorem operator_cases (makes : around.makesNodes = true)
    (derived : Derives grammar around (.once (.call .binaryOperator)) place (some (stop, trees))) :
    ∃ operator, trees = [operator] ∧
      (isPower operator = true → place.after? ['*', '*'] ≠ none) := by
  have body := derived.body_of_call rfl
  have rules : grammar.body .binaryOperator = Peg.Expression.firstOf
      ((infixOperators.map Rule.operator).map .call) := by
    rw [List.map_map]
    rfl
  rw [rules] at body
  obtain ⟨rule, member, matched⟩ := body.of_firstOf
  obtain ⟨op, _, rfl⟩ := List.mem_map.mp member
  have plain : grammar.kind (.operator op) ≠ .hidden ∧
      shownIn (grammar.kind (.operator op)) around = around := by
    rcases op with op | op <;> cases op <;> exact ⟨nofun, rfl⟩
  obtain ⟨children, rfl, _⟩ := matched.node_of_call plain.1 (by rw [plain.2]; exact makes)
  refine ⟨_, rfl, fun power => ?_⟩
  obtain rfl : op = .binary .exponent := Rule.operator.inj (of_decide_eq_true power)
  have stars : place.after? ['*', '*'] = some stop := after_of_marks plain.1 rfl matched
  rw [stars]
  exact Option.some_ne_none _

/-- What is left of a chain of operations after an operand: every left operand of a power in it has
operators that may stand there, and if the chain goes on with a power, its stars stand at the place
or after the blanks there. -/
def ChainsFrom (around : Surroundings) (place : Place) (trees : List (Peg.Tree Rule)) : Prop :=
  (∀ operand ∈ powerBases trees, mayPrecedePower (prefixesOf operand) = true) ∧
    ∀ operator others, trees = operator :: others → isPower operator = true →
      place.after? ['*', '*'] ≠ none ∨ (grammar.padded around place).after? ['*', '*'] ≠ none

/-- An operand before what is left of a chain. -/
theorem ChainsFrom.operand {operand : Peg.Tree Rule} {trees : List (Peg.Tree Rule)}
    (rest : ChainsFrom around place trees)
    (first : mayPrecedePower (prefixesOf operand) = true ∨
      Settled grammar around place ∧ place.after? ['*', '*'] = none) :
    ∀ base ∈ powerBases (operand :: trees), mayPrecedePower (prefixesOf base) = true := by
  cases trees with
  | nil => nofun
  | cons operator others =>
    rw [powerBases]
    split
    case isTrue power =>
      intro base member
      rcases List.mem_cons.mp member with rfl | later
      · rcases first with allowed | ⟨settled, absent⟩
        · exact allowed
        · have stars := rest.2 operator others rfl power
          rw [settled, absent] at stars
          exact (stars.elim (· rfl) (· rfl)).elim
      · exact rest.1 base later
    case isFalse => exact rest.1

/-- All operations of a chain after its first operand. -/
theorem chainsFrom_many (makes : around.makesNodes = true)
    (derived : Derives grammar around
      (.once (.many (.seq (.call .binaryOperator) (.call .binaryOperand)))) place
        (some (stop, trees))) : ChainsFrom around place trees := by
  refine Peg.Derives.repeats (P := fun place trees _ => ChainsFrom around place trees)
    (fun place => ⟨nofun, nofun⟩) ?_ derived
  intro place start middle stop trees others here one rest
  cases one with
  | seq left right =>
    obtain ⟨operator, rfl, power⟩ := operator_cases makes left
    obtain ⟨operand, rfl, plain, cases⟩ := operand_cases makes (skipsOnce.settled _ _) right
    have inner := rest.operand cases
    refine ⟨?_, fun first later same isPower => ?_⟩
    · change ∀ base ∈ powerBases (operator :: operand :: others), _
      rw [powerBases, if_neg (by rw [plain]; exact Bool.false_ne_true)]
      exact inner
    · cases same
      rcases here with rfl | rfl
      · exact .inl (power isPower)
      · exact .inr (power isPower)

/-- The left operands of powers among the children of a node for a chain of operations. -/
theorem mayPrecedePower_of_stands {tree : Peg.Tree Rule} (stands : tree.Stands grammar)
    (chain : tree.root.rule = .binaryExpression) :
    ∀ operand ∈ powerBases tree.children, mayPrecedePower (prefixesOf operand) = true := by
  obtain ⟨rule, start, stop, children⟩ := tree
  obtain rfl : rule = .binaryExpression := chain
  obtain ⟨around, last, makes, _, settled, derived⟩ := stands
  have makesBelow : around.makesNodes = true := makes
  cases derived with
  | seq left right =>
    obtain ⟨operand, rfl, _, cases⟩ := operand_cases makesBelow settled left
    obtain ⟨inner, goesOn⟩ := chainsFrom_many makesBelow right
    refine ChainsFrom.operand ⟨inner, goesOn⟩ ?_
    refine cases.imp id fun ⟨settled, absent⟩ => ?_
    have same : grammar.padded around _ = _ := settled
    exact ⟨skipsOnce.settled _ _, same.symm ▸ absent⟩

end

/-- The nodes of a text below its root start where nothing is left to pass over. -/
theorem stands_of_parseTree {rule : Rule} {text : String} {tree below : Peg.Tree Rule}
    (whole : rule = .script ∨ rule = .moduleSource) (parsed : parseTree rule text = .ok tree)
    (member : below ∈ tree.subtrees) : below = tree ∨ below.Stands grammar := by
  refine (Peg.Tree.mem_subtrees.mp member).imp id fun ⟨child, inside, later⟩ => ?_
  have shown : grammar.kind rule ≠ .hidden := by
    rcases whole with rfl | rfl <;> nofun
  obtain ⟨grows, root⟩ := grows_of_parseTree shown parsed
  obtain ⟨top, start, stop, children⟩ := tree
  have same : top = rule := root
  obtain ⟨around, last, _, _, derived⟩ := grows
  refine Peg.Tree.Stands.below skipsOnce opensFirmly ?_ later
  have items : ∃ others, grammar.body top = .seq .atStart others := by
    rcases whole with kind | kind <;> rw [same, kind] <;> exact ⟨_, rfl⟩
  obtain ⟨others, opens⟩ := items
  rw [opens] at derived
  cases derived with
  | seq left right =>
    cases left with
    | atStart =>
      exact right.stands skipsOnce opensFirmly (fun _ _ => skipsOnce.settled _ _) child inside

/-- In every text that the grammar accepts, the operators before a left operand of a power are
none, or start with a change by one, or with a sign that a sign of the same kind follows. -/
theorem power_prefixes_restricted {rule : Rule} {text : String} {tree : Peg.Tree Rule}
    (whole : rule = .script ∨ rule = .moduleSource) (parsed : parseTree rule text = .ok tree) :
    ∀ prefixes ∈ powerPrefixes tree, mayPrecedePower prefixes = true := by
  intro prefixes member
  obtain ⟨below, inside, found⟩ := List.mem_flatMap.mp member
  split at found
  case isFalse => cases found
  case isTrue chain =>
    obtain ⟨operand, base, rfl⟩ := List.mem_map.mp found
    rcases stands_of_parseTree whole parsed inside with top | stands
    · have shown : grammar.kind rule ≠ .hidden := by
        rcases whole with rfl | rfl <;> nofun
      have root := (grows_of_parseTree shown parsed).2
      rw [← top, chain] at root
      rcases whole with rfl | rfl <;> cases root
    · exact mayPrecedePower_of_stands stands chain operand base

/-- Powers of a variable that is changed and of a number with two signs. -/
def signedPowers : String := "return ++i ** - /* two signs */ -2 ** 2;"

/-- The operators before the left operands of powers in a script. -/
def powerPrefixesOf (text : String) : Option (List (List Rule)) :=
  (parseTree .script text).toOption.map powerPrefixes

/-- A change by one and a sign that another one follows stand before left operands. -/
theorem power_prefixes_restricted_signs : ∃ tree, parseTree .script signedPowers = .ok tree ∧
    powerPrefixes tree = [[.preIncrement], [.negate, .negate]] ∧
      ∀ prefixes ∈ powerPrefixes tree, mayPrecedePower prefixes = true := by
  have found : powerPrefixesOf signedPowers = some [[.preIncrement], [.negate, .negate]] := by
    decide +kernel
  obtain ⟨tree, parsed, same⟩ := Option.map_eq_some_iff.mp found
  cases result : parseTree .script signedPowers with
  | error problem =>
    rw [result] at parsed
    cases parsed
  | ok other =>
    rw [result] at parsed
    cases parsed
    exact ⟨tree, rfl, same, power_prefixes_restricted (.inl rfl) result⟩

/-- A power of a number with two signs. -/
def twoSigns : String := "return - -2 ** 2;"

/-- A unary operator can stand before the left operand of a power. -/
theorem power_after_two_signs : powerPrefixesOf twoSigns = some [[.negate, .negate]] := by
  decide +kernel

end PluginSandbox.Syntax
