import PluginSandbox.Proofs.Syntax.Compound

/-!
# Reading operations

Every rule that may read a printed operation reads it back. By induction on the operation: where
an operand is too weak for the place it stands in, its parentheses make it an object, and where it
is strong enough, the rule of the place reads it as it is.
-/
namespace PluginSandbox.Syntax

/-- What may come after an object that is printed without parentheses. -/
def Expr.after (e : Expr) : List Head := if e.isWrappedObject then afterObject else afterName

/-- Every rule that a printed operation is strong enough for reads it. -/
structure Expr.IsReadByAll (e : Expr) : Prop where
  /-- The rule for accesses and calls. -/
  object : callStrength ≤ e.strength → ReadsObject e.after false e
  /-- The rule for prefix operations. -/
  prefixed : unaryStrength ≤ e.strength → ReadsPrefixed false e
  /-- The rule for chains. -/
  chain : ∀ needed, conditionalStrength < needed → needed ≤ e.strength →
    ReadsChain needed false e
  /-- The rule for expressions. -/
  read : e.IsRead

section

variable {e : Expr}

/-- What comes after any operation comes after every object. -/
theorem Expr.subset_after (e : Expr) : afterObject ⊆ e.after := by
  rw [Expr.after]
  split
  case isTrue => exact List.Subset.refl _
  case isFalse => exact after_subset.1

namespace Expr.IsReadByAll

/-- A choice or an assignment is read by all that it is strong enough for. -/
theorem of_read (weak : e.strength ≤ conditionalStrength) (read : e.IsRead) : e.IsReadByAll where
  object strong := absurd (Nat.le_trans strong weak) (by decide)
  prefixed strong := absurd (Nat.le_trans strong weak) (by decide)
  chain _ more strong := absurd (Nat.lt_of_lt_of_le more strong) (Nat.not_lt.mpr weak)
  read := read

/-- An operation that is a chain is read by all that it is strong enough for. -/
theorem of_chain (operation : e.IsOperation) (weak : e.strength < unaryStrength)
    (chain : ∀ needed ≤ e.strength, ReadsChain needed false e) : e.IsReadByAll where
  object call := absurd (Nat.lt_of_le_of_lt call weak) (by decide)
  prefixed unary := absurd unary (Nat.not_le.mpr weak)
  chain needed _ := chain needed
  read := by
    have conditional := (chain e.strength (Nat.le_refl _)).conditional
    exact ReadsConditional.isRead (fun rest seam => conditional rest
      (seam.mono after_subset.2.2.2.2)) operation

/-- An operation that is read as prefix operators before an operand is a chain. -/
theorem readsChain (operation : e.IsOperation) (prefixed : ReadsPrefixed false e) (needed : Nat)
    (strong : needed ≤ e.strength) : ReadsChain needed false e :=
  prefixed.chain operation fun update {_} ends =>
    (operation.startsIn ends).mono (headsFrom_subset (Nat.le_trans update strong))

/-- A prefix operation is read by all that it is strong enough for. -/
theorem of_prefixed (operation : e.IsOperation)
    (object : callStrength ≤ e.strength → ReadsObject e.after false e)
    (prefixed : ReadsPrefixed false e) : e.IsReadByAll where
  object := object
  prefixed _ := prefixed
  chain needed _ := readsChain operation prefixed needed
  read := by
    have conditional := (readsChain operation prefixed _ (Nat.le_refl _)).conditional
    exact ReadsConditional.isRead (fun rest seam => conditional rest
      (seam.mono after_subset.2.2.2.2)) operation

/-- An object is read by all rules. -/
theorem of_object (operation : e.IsOperation) (strong : callStrength ≤ e.strength)
    (object : ReadsObject e.after false e) : e.IsReadByAll := by
  have starts {rest : List Char} (ends : startsWord rest = false) :
      StartsIn objectHeads (e.wrappedIf false ++ rest) :=
    (operation.startsIn ends).mono (headsFrom_subset strong)
  have operand : ReadsObject afterOperand false e :=
    object.mono (List.Subset.trans after_subset.2.1 e.subset_after)
  exact of_prefixed operation (fun _ => object)
    ((operand.unchanged starts).prefixed starts)

/-- An operation is read as an object, in parentheses where it needs them. -/
theorem readsObject (read : e.IsReadByAll) : ReadsObject afterName e.isWrappedObject e := by
  cases wrapped : e.isWrappedObject with
  | true => exact read.read.readsObject
  | false =>
    have object := read.object (strength_of_object wrapped)
    rwa [Expr.after, wrapped, if_neg Bool.false_ne_true] at object

/-- An operation is read after prefix operators, in parentheses where it needs them. -/
theorem readsPrefixed (read : e.IsReadByAll) {wrapped : Bool}
    (strong : wrapped = false → unaryStrength ≤ e.strength) : ReadsPrefixed wrapped e := by
  cases wrapped with
  | true =>
    have starts {rest : List Char} (_ : startsWord rest = false) :
        StartsIn objectHeads (e.wrappedIf true ++ rest) := startsIn_wrapped callStrength e rest
    exact (ReadsObject.unchanged read.read.readsObject starts).prefixed starts
  | false => exact read.prefixed (strong rfl)

/-- An operation is read as a chain, in parentheses where it needs them. -/
theorem readsChain_atLeast (read : e.IsReadByAll) {needed : Nat}
    (more : conditionalStrength < needed) : ReadsChain needed (e.strength < needed) e := by
  cases weak : decide (e.strength < needed) with
  | true =>
    have prefixed : ReadsPrefixed true e := read.readsPrefixed nofun
    exact prefixed.chain read.read.operation fun _ {rest} _ =>
      startsIn_wrapped updateStrength e rest
  | false => exact read.chain needed more (Nat.not_lt.mp (of_decide_eq_false weak))

/-- What can be written to is read by the rule for choices, before an assignment operator too. -/
theorem readsTarget (read : e.IsReadByAll) (writable : e.isWritable = true) :
    ReadsConditional afterConditional e :=
  (read.chain callStrength (by decide) (strength_of_isWritable writable)).conditional

/-- A prefix operation on an operation is read by all that it is strong enough for. -/
theorem applied (read : e.IsReadByAll) {operation : PrefixOperation}
    (allows : operation.Allows e) (isOperation : (operation.apply e).IsOperation) :
    (operation.apply e).IsReadByAll := by
  have weak : (operation.apply e).strength < callStrength := by
    rcases operation with operator | operator | _
    · exact show unaryStrength < callStrength by decide
    · exact show updateStrength < callStrength by decide
    · exact show unaryStrength < callStrength by decide
  have bare : operation.wraps e = false → unaryStrength ≤ e.strength := by
    intro none
    rcases operation with operator | operator | _
    · exact Nat.not_lt.mp (of_decide_eq_false (Bool.or_eq_false_iff.mp none).1)
    · exact Nat.le_trans (by decide) (strength_of_isWritable allows)
    · exact Nat.not_lt.mp (of_decide_eq_false none)
  exact of_prefixed isOperation (fun call => absurd call (Nat.not_le.mpr weak))
    ((read.readsPrefixed bare).applied read.read.operation allows)

/-- An access or a call on an operation is read by all rules. -/
theorem suffixed (read : e.IsReadByAll) {suffix : Suffix} (parts : suffix.IsRead)
    (isOperation : (suffix.apply e).IsOperation) : (suffix.apply e).IsReadByAll := by
  have strong : callStrength ≤ (suffix.apply e).strength := by
    cases suffix <;> exact Nat.le_refl _
  exact of_object isOperation strong (read.readsObject.suffixed parts)

end Expr.IsReadByAll

/-- Every operation is read by all rules that it is strong enough for. -/
theorem Expr.IsOperation.isReadByAll (operation : e.IsOperation) : e.IsReadByAll := by
  have primary : callStrength ≤ primaryStrength := Nat.le_succ _
  induction operation with
  | @identifier name named =>
    exact .of_object (.identifier named) primary (.of_primary fun _ seam => .variable named seam)
  | this =>
    exact .of_object .this primary (.of_primary fun _ seam => .this seam.ends)
  | null =>
    exact .of_object .null primary (.of_primary fun _ seam => .null seam.ends)
  | boolean value =>
    exact .of_object (.boolean value) primary
      (.of_primary fun _ seam => .boolean value seam.ends)
  | text value =>
    exact .of_object (.text value) primary (.of_primary fun rest _ => .quoted value rest)
  | @number n small =>
    exact .of_object (.number small) primary
      (.of_primary fun _ seam => .number small seam.ends (Seam.point seam))
  | template pieces parts ih =>
    exact .of_object (.template pieces parts) primary
      (.of_primary fun _ seam => .template pieces (fun e member => (ih e member).read) seam.lexed)
  | array parts ih =>
    exact .of_object (.array parts) primary
      (.of_primary fun _ seam => .array (fun element member => (ih element member).read) seam.lexed)
  | unary operator part ih =>
    exact @Expr.IsReadByAll.applied _ ih (.unary operator) trivial (.unary operator part)
  | await part ih => exact @Expr.IsReadByAll.applied _ ih .await trivial (.await part)
  | @update operator isPrefix target writable part ih =>
    cases isPrefix with
    | true =>
      exact @Expr.IsReadByAll.applied _ ih (.update operator) writable
        (.update operator true writable part)
    | false =>
      have strong := strength_of_isWritable writable
      have object : ReadsObject afterObject false target :=
        (ih.object strong).mono (Expr.subset_after _)
      have starts {rest : List Char} (_ : startsWord rest = false) :
          StartsIn objectHeads ((Expr.update operator false target).wrappedIf false ++ rest) := by
        change StartsIn objectHeads ((Expr.update operator false target).characters ++ rest)
        rw [characters_update operator false writable, if_neg Bool.false_ne_true, List.append_assoc]
        have ends : startsWord (operator.spelling.toList ++ rest) = false := by
          cases operator <;> rfl
        exact (part.startsIn ends).mono (headsFrom_subset strong)
      exact .of_prefixed (.update operator false writable part)
        (fun call => absurd call (show ¬ callStrength ≤ updateStrength by decide))
        ((object.changed part writable operator).prefixed starts)
  | @operation operator left right first second firstIH secondIH =>
    have needs : conditionalStrength < operator.leftNeed ∧
        conditionalStrength < operator.rightNeed := operator.needs
    refine .of_chain (.operation operator first second) ?_ fun needed strong => ?_
    · rw [strength_apply]
      exact Nat.lt_succ_of_le operator.strength_le
    · rw [strength_apply] at strong
      exact .apply strong (firstIH.readsChain_atLeast needs.1) (secondIH.readsChain_atLeast needs.2)
        second
  | conditional first second third firstIH secondIH thirdIH =>
    have choice := (firstIH.readsChain_atLeast (by decide)).choice secondIH.read thirdIH.read
    exact .of_read (Nat.le_refl _) (choice.isRead (.conditional first second third))
  | assign operator writable first second firstIH secondIH =>
    exact .of_read (Nat.le_succ _)
      ((firstIH.readsTarget writable).assigned first writable secondIH.read)
  | @member object name optional part named ih =>
    exact @Expr.IsReadByAll.suffixed object ih (.member name optional) named
      (.member optional part named)
  | @index object key optional first second firstIH secondIH =>
    exact @Expr.IsReadByAll.suffixed object firstIH (.index key optional) secondIH.read
      (.index optional first second)
  | @call callee arguments optional first parts firstIH partsIH =>
    exact @Expr.IsReadByAll.suffixed callee firstIH (.call arguments optional)
      (fun element member => (partsIH element member).read) (.call optional first parts)

end

end PluginSandbox.Syntax
