import TokenGuard.Text.CaseFold
import TokenGuard.Text.CharSet
import TokenGuard.Text.DecimalDigit
import TokenGuard.Text.Word

/-! Regular expressions over characters, with assertions on the neighbours of a position. -/

namespace TokenGuard

/-- The characters that differ in case at most from one of a set. -/
def CharSet.foldCase (set : CharSet) : CharSet := fun c => (caseVariants c).any set

/-- An ASCII letter, digit or underscore. -/
def isAsciiWord (c : Char) : Bool := c.isAlphanum || c = '_'

/-- Whether exactly one side of a position is in a class, an end of the text being outside it. -/
def atBoundary (inWord : CharSet) (previous next : Option Char) : Bool :=
  previous.any inWord != next.any inWord

/-- A condition on a position. -/
inductive Assertion
  /-- The start of the text. -/
  | textStart
  /-- The end of the text. -/
  | textEnd
  /-- The start of a line. -/
  | lineStart
  /-- The end of a line. -/
  | lineEnd
  /-- The start of a line, where a carriage return may also end one. -/
  | anyLineStart
  /-- The end of a line, which a carriage return may also mark. -/
  | anyLineEnd
  /-- A boundary of a word. -/
  | boundary (inWord : CharSet)
  /-- No boundary of a word. -/
  | noBoundary (inWord : CharSet)
  /-- The start of a word. -/
  | wordStart (inWord : CharSet)
  /-- The end of a word. -/
  | wordEnd (inWord : CharSet)
  /-- Not inside or behind a word. -/
  | noWordBefore (inWord : CharSet)
  /-- Not before or inside a word. -/
  | noWordAfter (inWord : CharSet)

/-- Whether a condition holds between two neighbours. -/
def Assertion.holds (previous next : Option Char) : Assertion → Bool
  | textStart => previous.isNone
  | textEnd => next.isNone
  | lineStart => previous.all (· = '\n')
  | lineEnd => next.all (· = '\n')
  | anyLineStart =>
    previous.all (· = '\n') || (previous = some '\r' && next ≠ some '\n')
  | anyLineEnd =>
    next.all (· = '\r') || (next = some '\n' && previous ≠ some '\r')
  | boundary inWord => atBoundary inWord previous next
  | noBoundary inWord => !atBoundary inWord previous next
  | wordStart inWord => !previous.any inWord && next.any inWord
  | wordEnd inWord => previous.any inWord && !next.any inWord
  | noWordBefore inWord => !previous.any inWord
  | noWordAfter inWord => !next.any inWord

/-- A regular expression; of two alternatives the first is preferred. -/
inductive Regex
  /-- Nothing. -/
  | empty
  /-- One character of a set. -/
  | one (set : CharSet)
  /-- A condition on the position. -/
  | look (assertion : Assertion)
  /-- One expression behind another. -/
  | sequence (first second : Regex)
  /-- One of two expressions. -/
  | choice (first second : Regex)
  /-- One or more repetitions, as many or as few as possible. -/
  | plus (greedy : Bool) (body : Regex)

namespace Regex

/-- The greatest number of steps of an expression, which take 32 bytes each of ten mebibytes. -/
def stepLimit : Nat := 10 * 1024 * 1024 / 32

/-- The number of steps of an expression. -/
def steps : Regex → Nat
  | empty | one _ | look _ => 1
  | sequence first second => first.steps + second.steps
  | choice first second => first.steps + second.steps + 1
  | plus _ body => body.steps + 1

/-- Whether an expression never takes a character. -/
def takesNothing : Regex → Bool
  | empty | look _ => true
  | one _ => false
  | sequence first second | choice first second => first.takesNothing && second.takesNothing
  | plus _ body => body.takesNothing

/-- At most one repetition. -/
def optional (greedy : Bool) (body : Regex) : Regex :=
  if greedy then choice body empty else choice empty body

/-- Any number of repetitions. -/
def star (greedy : Bool) (body : Regex) : Regex := optional greedy (plus greedy body)

/-- A number of repetitions in front of something else. -/
def repeatBefore (body last : Regex) : Nat → Regex
  | 0 => last
  | count + 1 => sequence body (repeatBefore body last count)

/-- At most a number of repetitions. -/
def atMost (greedy : Bool) (body : Regex) : Nat → Regex
  | 0 => empty
  | count + 1 => optional greedy (sequence body (atMost greedy body count))

/-- At least a number of repetitions. -/
def atLeast (greedy : Bool) (body : Regex) : Nat → Regex
  | 0 => star greedy body
  | count + 1 => repeatBefore body (plus greedy body) count

/-- Repetitions between two limits, the upper one being optional. -/
def repeated (greedy : Bool) (body : Regex) (least : Nat) : Option Nat → Regex
  | none => atLeast greedy body least
  | some most => repeatBefore body (atMost greedy body (most - least)) least

/-- A number of repetitions as far as it matters: to what takes nothing, and to what is
too large. -/
def enough (body : Regex) (count : Nat) : Nat :=
  if body.takesNothing then min count 1 else min count (stepLimit / body.steps + 1)

/-- Expressions one behind the other. -/
def sequenceAll : List Regex → Regex
  | [] => empty
  | [only] => only
  | first :: rest => sequence first (sequenceAll rest)

/-- Alternatives in order of preference. -/
def choiceAll : List Regex → Regex
  | [] => empty
  | [only] => only
  | first :: rest => choice first (choiceAll rest)

end Regex

end TokenGuard
