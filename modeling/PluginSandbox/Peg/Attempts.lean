import PluginSandbox.Peg.Matching

/-!
# The place of an error

A text that does not match is reported at the furthest place where a rule was tried in vain.
The attempts at that place say what was expected there and what was not. A rule that fails
stands for the rules it tried at its own start, unless that was exactly one: then the inner
rule says more.
-/
namespace PluginSandbox.Peg

/-- The furthest place of an attempt and the rules that were tried there. -/
structure Attempts (ρ : Type) where
  /-- The offset of the place. -/
  offset : Nat
  /-- The rules that were to match there, oldest first. -/
  expected : List ρ
  /-- The rules that were not to match there, oldest first. -/
  unexpected : List ρ
  deriving Repr, Inhabited

namespace Attempts

variable {ρ : Type}

/-- No attempts so far. -/
def empty : Attempts ρ := ⟨0, [], []⟩

/-- How many attempts are known at an offset. -/
def countAt (attempts : Attempts ρ) (offset : Nat) : Nat :=
  if attempts.offset = offset then attempts.expected.length + attempts.unexpected.length else 0

/-- The attempts without those at the given offset that are not in `before`, and without all
that are not as far. -/
def rewind (before attempts : Attempts ρ) (offset : Nat) : Attempts ρ :=
  if offset = attempts.offset then
    if before.offset = offset then
      ⟨offset, attempts.expected.take before.expected.length,
        attempts.unexpected.take before.unexpected.length⟩
    else ⟨offset, [], []⟩
  else if attempts.offset < offset then ⟨offset, [], []⟩
  else attempts

/-- The attempts with one more, if its place is the furthest. -/
def add (attempts : Attempts ρ) (offset : Nat) (isExpected : Bool) (rule : ρ) : Attempts ρ :=
  if offset ≠ attempts.offset then attempts
  else if isExpected then { attempts with expected := attempts.expected ++ [rule] }
  else { attempts with unexpected := attempts.unexpected ++ [rule] }

/-- Observes the end of a rule. Outside atomic rules, a rule counts as an attempt when it
fails where it was to match or matches where it was to fail. -/
def observe : Observer ρ (Attempts ρ) := fun ending before after =>
  let isNegative := ending.around.lookahead = .negative
  if ending.around.mode = .atomic ∨ ending.isMatch ≠ isNegative then after
  else if after.countAt ending.start = before.countAt ending.start + 1 then after
  else (rewind before after ending.start).add ending.start (!isNegative) ending.rule

end Attempts

end PluginSandbox.Peg
