import PluginSandbox.Proofs.Number.Literals
import PluginSandbox.Proofs.Syntax.Denotations

/-!
# Parsing is total on the grammar

A text that the grammar accepts is assembled to the end, unless it has an early fault or a
hexadecimal literal that is too large. This follows from the leaves of the parse tree to its root:
every node that matters is sound.
-/
namespace PluginSandbox.Syntax

open Peg (Node Place)
open Peg.Grammar (inside)

/-- Whether a node is a hexadecimal literal for `2 ^ 64` or more. -/
def IsOversized (node : Node Rule) : Prop :=
  node.rule = .number ∧ ∃ x digits n, node.characters = '0' :: x :: digits ∧
    (x = 'x' ∨ x = 'X') ∧ Text.numeral? 16 digits = some n ∧ 2 ^ 64 ≤ n

/-- Whether a node stands in a tree and is a hexadecimal literal for `2 ^ 64` or more. -/
def OversizedIn (tree : Peg.Tree Rule) (node : Node Rule) : Prop :=
  IsOversized node ∧ ∃ below ∈ tree.subtrees, below.root = node

section Lexemes

variable {taken : List Char}

/-- The characters of a rule that is matched as a whole are spelled as its body says. -/
theorem spells_of_grows {tree : Peg.Tree Rule} (grows : tree.Grows grammar)
    (atomic : grammar.kind tree.root.rule = .atomic) :
    (grammar.body tree.root.rule).Spells tree.root.characters := by
  obtain ⟨rule, start, stop, children⟩ := tree
  obtain ⟨around, last, _, rfl, derived⟩ := grows
  change grammar.kind rule = .atomic at atomic
  rw [atomic] at derived
  obtain ⟨taken, takes, spells⟩ := derived.spells ranking_fits.forward (inside_atomic around)
  have same : (Peg.Tree.node rule start last.offset children).root.characters = taken :=
    characters_of_takes rule takes
  rw [same]
  exact spells

/-- The operator of an assignment is a known one. -/
theorem operator_of_spells (spells : (grammar.body .assignmentOperator).Spells taken) :
    ∃ op ∈ assignmentOperators, op.spelling = String.ofList taken := by
  rcases spells with ⟨_, _, rfl, rfl, rfl⟩ | rfl | rfl | rfl | rfl | rfl | rfl | rfl | rfl
  · exact ⟨.assign, by decide, by decide⟩
  · exact ⟨.add, by decide, by decide⟩
  · exact ⟨.subtract, by decide, by decide⟩
  · exact ⟨.multiply, by decide, by decide⟩
  · exact ⟨.divide, by decide, by decide⟩
  · exact ⟨.modulo, by decide, by decide⟩
  · exact ⟨.or, by decide, by decide⟩
  · exact ⟨.and, by decide, by decide⟩
  · exact ⟨.nullish, by decide, by decide⟩

/-- The exponent of a literal is one that can be read. -/
theorem isExponent_of_spells (spells : (Peg.Expression.maybe (.inOrder [.firstOf ["e", "E"],
      .maybe (.firstOf ["+", "-"]), .atLeastOnce Rule.digit])).Spells taken) :
    Number.IsExponent taken := by
  rcases spells with rfl | ⟨letter, _, rfl, letters, sign, digits, rfl, signs, run⟩
  · exact .inl rfl
  obtain ⟨filled, all⟩ := run.atLeastOnce_oneOf
  have signed : sign = [] ∨ sign = ['+'] ∨ sign = ['-'] := signs
  rcases letters with rfl | rfl
  · exact .inr ⟨'e', sign, digits, rfl, .inl rfl, signed, filled, all⟩
  · exact .inr ⟨'E', sign, digits, rfl, .inr rfl, signed, filled, all⟩

/-- A literal for a number has a value unless it is a large hexadecimal one. -/
theorem value_of_spells (spells : (grammar.body .number).Spells taken)
    (unread : Number.readLiteral? taken = none) :
    ∃ x digits n, taken = '0' :: x :: digits ∧ (x = 'x' ∨ x = 'X') ∧
      Text.numeral? 16 digits = some n ∧ 2 ^ 64 ≤ n := by
  rcases spells with ⟨_, _, rfl, rfl, x, digits, rfl, letters, run⟩ |
    ⟨parts, exponent, rfl, number, ends⟩
  · obtain ⟨filled, all⟩ := run.atLeastOnce_oneOf
    rcases letters with rfl | rfl
    · obtain ⟨n, same, large⟩ := Number.large_of_readLiteral? (.inl rfl) filled all unread
      exact ⟨'x', digits, n, rfl, .inl rfl, same, large⟩
    · obtain ⟨n, same, large⟩ := Number.large_of_readLiteral? (.inr rfl) filled all unread
      exact ⟨'X', digits, n, rfl, .inr rfl, same, large⟩
  · have decimal : Number.IsDecimal (parts ++ exponent) := by
      have isExponent := isExponent_of_spells ends
      rcases number with ⟨whole, fraction, rfl, run, rest⟩ | ⟨_, digits, rfl, rfl, run⟩
      · obtain ⟨filled, all⟩ := run.atLeastOnce_oneOf
        refine ⟨whole, fraction, exponent, List.append_assoc _ _ _, all, isExponent, ?_⟩
        rcases rest with rfl | ⟨_, digits, rfl, rfl, run⟩
        · exact .inl ⟨rfl, filled⟩
        · exact .inr ⟨digits, rfl, .inl filled, run.all_oneOf⟩
      · obtain ⟨filled, all⟩ := run.atLeastOnce_oneOf
        exact ⟨[], '.' :: digits, exponent, rfl, nofun, isExponent,
          .inr ⟨digits, rfl, .inr filled, all⟩⟩
    have value := Number.readLiteral?_isSome decimal
    rw [unread] at value
    cases value

end Lexemes

variable {refused : Node Rule → Prop}

/-- A node is sound if the nodes below it are. -/
theorem sound_of_parts {tree : Peg.Tree Rule} (grows : tree.Grows grammar)
    (below : ∀ child ∈ partsBelow tree, child.Sound refused)
    (large : IsOversized tree.root → refused tree.root) : (childOf tree).Sound refused := by
  obtain ⟨children, assembled, parts⟩ := childOf_snd tree
  refine ⟨fun kind known => ?_, fun operator => ?_⟩
  · change tree.root.rule.partKind = some kind at known
    change Delivers refused _ (Covers refused tree.root kind)
    rw [assembled]
    by_cases atomic : grammar.kind tree.root.rule = .atomic
    · by_cases number : tree.root.rule = .number
      · have spells := spells_of_grows grows atomic
        rw [number] at known spells
        cases known
        rw [assemble, number]
        exact .numeral fun unread => large ⟨number, value_of_spells spells unread⟩
      · exact denotes_atomic known atomic number _ _ _
    · have arranged : Arranged refused tree.root.rule (partsBelow tree) :=
        ⟨makes_partsBelow atomic grows below, below⟩
      have own : DenotingOwn refused tree.root.rule := denotingOwn atomic
      rw [DenotingOwn, known] at own
      exact own _ _ _ (parts ▸ arranged)
  · change tree.root.rule = .assignmentOperator at operator
    have spells := spells_of_grows grows (by rw [operator]; rfl)
    rw [operator] at spells
    exact operator_of_spells spells

mutual

/-- Every node of a parse tree is sound. -/
theorem sound_of_grows : ∀ tree : Peg.Tree Rule, tree.Grows grammar →
    (∀ below ∈ tree.subtrees, IsOversized below.root → refused below.root) →
      (childOf tree).Sound refused
  | .node rule start stop children, grows, large => by
    have all := sound_of_all children (by
      obtain ⟨around, last, _, _, derived⟩ := grows
      exact derived.grows) fun below member => large below (.tail _ member)
    refine sound_of_parts grows (fun child member => ?_) (large _ List.mem_cons_self)
    obtain ⟨tree, inside, rfl⟩ := List.mem_map.mp (List.mem_filter.mp member).1
    exact all tree inside

/-- Every root of some parse trees is sound. -/
theorem sound_of_all : ∀ trees : List (Peg.Tree Rule), (∀ tree ∈ trees, tree.Grows grammar) →
    (∀ below ∈ Peg.Tree.subtreesOfAll trees, IsOversized below.root → refused below.root) →
      ∀ tree ∈ trees, (childOf tree).Sound refused
  | [], _, _ => nofun
  | first :: others, grow, large => by
    intro tree member
    rcases List.mem_cons.mp member with same | later
    · rw [same]
      exact sound_of_grows first (grow first List.mem_cons_self) fun below inside =>
        large below (List.mem_append_left _ inside)
    · exact sound_of_all others (fun other inside => grow other (.tail _ inside))
        (fun below inside => large below (List.mem_append_right _ inside)) tree later

end

/-- A text that a rule for scripts or modules accepts is read as what the rule stands for, or it has
a problem that is foreseen. -/
theorem delivers_of_parseTree {rule : Rule} {kind : PartKind} {text : String}
    {tree : Peg.Tree Rule} (stands : rule.partKind = some kind)
    (shown : grammar.kind rule ≠ .hidden) (parsed : parseTree rule text = .ok tree) :
    Delivers (OversizedIn tree) (tree.fold assemble)
      (Covers (OversizedIn tree) tree.root kind) := by
  obtain ⟨grows, root⟩ := grows_of_parseTree shown parsed
  have sound : (childOf tree).Sound (OversizedIn tree) :=
    sound_of_grows tree grows fun below member large => ⟨large, below, member, rfl⟩
  have known : (childOf tree).rule.partKind = some kind := by
    rw [← stands, ← root]
    rfl
  exact sound.denotes kind known

/-- What a text that the grammar accepts is read as: a value, or a problem that is an early fault or
the refusal of a hexadecimal literal that is too large. -/
def Assembled {α : Type} (tree : Peg.Tree Rule) (result : Except Problem α) : Prop :=
  (∃ value, result = .ok value) ∨
    ∃ problem, result = .error problem ∧ Foreseen (OversizedIn tree) problem

theorem assembled_of_settles {α : Type} {tree : Peg.Tree Rule} {result : Except Problem α}
    (settles : Settles (OversizedIn tree) result) : Assembled tree result := by
  cases result with
  | ok value => exact .inl ⟨value, rfl⟩
  | error problem => exact .inr ⟨problem, rfl, settles⟩

/-- A script or a module that the grammar accepts is assembled, unless it has an early fault or a
hexadecimal literal that is too large: no other text is refused as meaningless. -/
theorem accepted_texts_assembled {text : String} {tree : Peg.Tree Rule} :
    (parseTree .script text = .ok tree → Assembled tree (parseScript text)) ∧
      (parseTree .moduleSource text = .ok tree → Assembled tree (parseModule text)) := by
  constructor
  · intro parsed
    have delivers := delivers_of_parseTree rfl (by decide) parsed
    refine assembled_of_settles ?_
    rw [parseScript, parsed]
    refine delivers.bind fun part covers => ?_
    cases covers
    exact trivial
  · intro parsed
    have delivers := delivers_of_parseTree rfl (by decide) parsed
    refine assembled_of_settles ?_
    rw [parseModule, parsed]
    refine delivers.bind fun part covers => ?_
    cases covers
    exact trivial

/-- A script with an early fault and a module without one. -/
def constantWithoutValue : String := "const a; return 0xff;"

/-- A module with numbers as keys. -/
def numberedKeys : String := "export default { 0xff: 1, 1e400: 2 };"

/-- Texts that are accepted are assembled, or have an early fault. -/
theorem accepted_texts_assembled_both :
    (∃ tree, parseTree .script constantWithoutValue = .ok tree ∧
      Assembled tree (parseScript constantWithoutValue)) ∧
    ∃ tree, parseTree .moduleSource numberedKeys = .ok tree ∧
      Assembled tree (parseModule numberedKeys) := by
  constructor
  · cases parsed : parseTree .script constantWithoutValue with
    | error problem =>
      have accepted : (parseTree .script constantWithoutValue).isOk = true := by decide +kernel
      rw [parsed] at accepted
      cases accepted
    | ok tree => exact ⟨tree, rfl, accepted_texts_assembled.1 parsed⟩
  · cases parsed : parseTree .moduleSource numberedKeys with
    | error problem =>
      have accepted : (parseTree .moduleSource numberedKeys).isOk = true := by decide +kernel
      rw [parsed] at accepted
      cases accepted
    | ok tree => exact ⟨tree, rfl, accepted_texts_assembled.2 parsed⟩

/-- A script with a hexadecimal literal for `2 ^ 64`. -/
def largeLiteral : String := "return 0x10000000000000000;"

/-- The problem of a text that is no script. -/
def scriptProblem (text : String) : Option Problem :=
  match parseScript text with
  | .ok _ => none
  | .error problem => some problem

/-- A text that the grammar accepts can be refused as meaningless. -/
theorem large_literal_refused : (parseTree .script largeLiteral).isOk = true ∧
    scriptProblem largeLiteral = some ⟨.meaningless .number 21, ⟨7, 26⟩⟩ := by
  decide +kernel

end PluginSandbox.Syntax
