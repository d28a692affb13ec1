import PluginSandbox.Script.Evaluation.Calls

/-!
# Evaluation

The interpreter that works within a bound on nesting. Evaluations that stay within a bound have
the same outcome within any greater one, so the bound of a program is taken so large that no
machine reaches it.
-/
namespace PluginSandbox.Script

open Evaluation

/-- The interpreter that works within a bound on nesting. -/
def Interpreter.within : Nat → Interpreter
  | 0 => .exhausted
  | bound + 1 =>
    { expression := fun expression context =>
        evaluate (Interpreter.within bound) context expression
      chain := fun expression context =>
        evaluateChain (Interpreter.within bound) context expression
      statement := fun statement context =>
        runStatement (Interpreter.within bound) statement context
      rounds := fun test update body names context =>
        runRounds (Interpreter.within bound) test update body names context
      bind := fun pattern value isMutable context =>
        Evaluation.bind (Interpreter.within bound) context isMutable pattern value
      call := fun realm callee this arguments =>
        callValue (Interpreter.within bound) realm callee this arguments }

/-- A bound on nesting that programs do not reach. -/
def nestingBound : Nat := 1 <<< 62

/-- The interpreter of programs. -/
def interpreter : Interpreter := Interpreter.within nestingBound

end PluginSandbox.Script
