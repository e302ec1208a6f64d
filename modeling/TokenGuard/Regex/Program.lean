import TokenGuard.Regex.Syntax
import TokenGuard.Text.Replace

/-! Matching by following all ways through an expression at once, in order of preference. -/

namespace TokenGuard.Regex

/-- A step of a program, with the places of the steps that may follow. -/
inductive Instruction
  /-- Take one character of a set. -/
  | take (set : CharSet) (next : Nat)
  /-- Go on if a condition holds. -/
  | check (assertion : Assertion) (next : Nat)
  /-- Go on at two places, preferring the first. -/
  | split (first second : Nat)
  /-- The expression has matched. -/
  | accept

/-- A compiled expression. -/
structure Program where
  /-- The instructions, each at its place. -/
  code : Array Instruction
  /-- The place to start from. -/
  entry : Nat

/-- Start with an instruction that is put behind others. -/
def startWith (code : Array Instruction) (instruction : Instruction) : Program :=
  let entry := code.size
  ⟨code.push instruction, entry⟩

/-- Put an expression, which leads to the place `next`, behind other instructions. -/
def placeBefore (next : Nat) (code : Array Instruction) : Regex → Program
  | empty => ⟨code, next⟩
  | one set => startWith code (.take set next)
  | look assertion => startWith code (.check assertion next)
  | sequence first second =>
    let ⟨code, middle⟩ := second.placeBefore next code
    first.placeBefore middle code
  | choice first second =>
    let ⟨code, left⟩ := first.placeBefore next code
    let ⟨code, right⟩ := second.placeBefore next code
    startWith code (.split left right)
  | plus greedy body =>
    -- The decision to go back has its place before the entry of the body is known.
    let decision := code.size
    let ⟨code, entry⟩ := body.placeBefore decision (code.push (.split next next))
    let decided := if greedy then Instruction.split entry next else .split next entry
    ⟨code.setIfInBounds decision decided, entry⟩

/-- Compile an expression, which leads to the instruction that accepts. -/
def compile (regex : Regex) : Program := regex.placeBefore 0 #[.accept]

namespace Program

/-- A way through a program: the place it has come to, and where in the text it started. -/
structure Way where
  place : Nat
  start : Nat

/-- The ways that wait for a character. -/
structure Frontier where
  /-- The ways, the least preferred first. -/
  waiting : List Way
  /-- The start of a match that ends here; every way that waits is preferred to it. -/
  matched : Option Nat

/-- Follow instructions that take no character; each place is entered once, by the preferred way. -/
def advance (program : Program) (previous next : Option Char) :
    Nat → List Way → Array Bool → List Way → Frontier
  | 0, _, _, waiting => ⟨waiting, none⟩
  | _ + 1, [], _, waiting => ⟨waiting, none⟩
  | fuel + 1, way :: ways, visited, waiting =>
    if visited.getD way.place true then program.advance previous next fuel ways visited waiting
    else
      let visited := visited.setIfInBounds way.place true
      match program.code[way.place]? with
      | some (.take ..) => program.advance previous next fuel ways visited (way :: waiting)
      | some (.check assertion after) =>
        let ways :=
          if assertion.holds previous next then { way with place := after } :: ways else ways
        program.advance previous next fuel ways visited waiting
      | some (.split first second) =>
        let ways := { way with place := first } :: { way with place := second } :: ways
        program.advance previous next fuel ways visited waiting
      | some .accept => ⟨waiting, some way.start⟩
      | none => program.advance previous next fuel ways visited waiting

/-- The ways that wait at a position, and the match that ends there. -/
def frontier (program : Program) (previous next : Option Char) (ways : List Way) : Frontier :=
  -- Every place is entered once and leads to two others at most.
  let unvisited := Array.replicate program.code.size false
  program.advance previous next (ways.length + 2 * program.code.size + 1) ways unvisited []

/-- A way behind the character that it waits for, if it takes this one. -/
def Way.after? (program : Program) (c : Char) (way : Way) : Option Way :=
  match program.code[way.place]? with
  | some (.take set next) => if set c then some { way with place := next } else none
  | _ => none

/-- A match in a text. -/
structure Match where
  /-- The number of characters before it. -/
  start : Nat
  /-- The number of its characters. -/
  length : Nat

/-- The preferred match of those that start first, `best` being the one found so far. -/
def run (program : Program) (ways : List Way) (previous : Option Char) (position : Nat)
    (best : Option Match) (text : Text) : Option Match :=
  -- A match may also start here, but all that started before are preferred.
  let ways := if best.isNone then ways ++ [⟨program.entry, position⟩] else ways
  let reached := program.frontier previous text.head? ways
  let best := (reached.matched.map fun start => ⟨start, position - start⟩).or best
  match text with
  | [] => best
  | c :: rest =>
    let ways := reached.waiting.reverse.filterMap (Way.after? program c)
    if ways.isEmpty && best.isSome then best
    else program.run ways (some c) (position + 1) best rest

/-- The first match in a text that follows a character. -/
def find? (program : Program) (previous : Option Char) (text : Text) : Option Match :=
  program.run [] previous 0 none text

/-- Replace matches from left to right; none is empty where the one before it ends. -/
def replaceFrom (program : Program) (new : Text) (previous : Option Char) (behindMatch : Bool)
    (text : Text) : Replaced :=
  match program.find? previous text with
  | none => ⟨text, 0⟩
  | some ⟨start, length⟩ =>
    match start + length, behindMatch with
    | 0, true =>
      match text with
      | [] => ⟨[], 0⟩
      | c :: rest =>
        let replaced := program.replaceFrom new (some c) false rest
        ⟨c :: replaced.text, replaced.count⟩
    | 0, false =>
      let replaced := program.replaceFrom new previous true text
      ⟨new ++ replaced.text, replaced.count + 1⟩
    | taken + 1, _ =>
      match _last : text.drop taken with
      | [] => ⟨text, 0⟩
      | c :: rest =>
        let replaced := program.replaceFrom new (some c) true rest
        ⟨text.take start ++ new ++ replaced.text, replaced.count + 1⟩
termination_by (text.length, if behindMatch then 0 else 1)
decreasing_by
  -- An empty match is behind a match the next time; all other steps take a character.
  · simp [Prod.lex_def]
  · simp [Prod.lex_def]
  · have := congrArg List.length _last
    simp [Prod.lex_def] at this ⊢
    omega

/-- Replace every match of a program by a fixed text. -/
def replaceAll (program : Program) (new text : Text) : Replaced :=
  program.replaceFrom new none false text

end Program

end TokenGuard.Regex
