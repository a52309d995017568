import Prune.Script.Grammar.Modules

/-!
# Reading a source file

The grammar as a whole, and the reading of a file with it. Each level of the
grammar calls the level below for what nests inside it, and the budget for the
levels grows with the length of the text, since nothing nests without taking
characters.

A text that breaks the rules yields faults and no tree: those that the parser
could pass over in the order they were met, and last the one that stopped it.
Where the reading was given up, the reason for that is all there is to say.
-/

namespace Prune.Script

namespace Grammar

/-- The grammar below the last level, which no text reaches. -/
def exhausted : Grammar :=
  let stop {α : Type} : Parser α := throw ⟨0, 0, .endOfText⟩
  { type := stop
    unconditionalType := stop
    operatorType := stop
    pattern := stop
    formalParams := stop
    expression := stop
    assignment := stop
    unary := stop
    operations := fun _ _ => stop
    construct := fun _ => stop
    callOrConstruct := stop
    subscripts := fun _ _ _ => stop
    template := fun _ => stop
    element := stop
    classExpr := fun _ _ => stop
    functionExpr := stop
    statement := fun _ => stop
    blockBody := stop
    moduleBody := stop }

/-- One level of the grammar on top of the levels below. -/
def above (below : Below) : Grammar where
  type := Parser.type below
  unconditionalType := Parser.unconditionalType below
  operatorType := Parser.operatorType below
  pattern := Parser.pattern below false
  formalParams := Parser.formalParams below
  expression := Parser.expression below
  assignment := Parser.assignment below
  unary := Parser.unary below
  operations := Parser.operations below
  construct := Parser.construct below
  callOrConstruct := Parser.callOrConstruct below
  subscripts := Parser.subscripts below
  template := Parser.template below
  element := Parser.element below
  classExpr := Parser.classExpr below
  functionExpr := do Parser.functionValue below (← Parser.position) false
  statement := Parser.statement below
  blockBody := Parser.blockBody below
  moduleBody := Parser.moduleBody below

/-- The grammar with a number of levels. -/
def levels : Nat → Below
  | 0, _ => exhausted
  | n + 1, _ => above (levels n)

end Grammar

/-- What the language of a file allows. -/
structure Dialect where
  elements : Bool
  decorators : Bool
deriving Repr, DecidableEq, Inhabited

/-- The place in a program where a file starts. -/
def Dialect.context (dialect : Dialect) : Context :=
  { elements := dialect.elements
    decorators := dialect.decorators
    ignoreFaults := false
    inType := false
    plainAngles := false
    inPropertyName := false
    inAsync := false
    inGenerator := false
    inFunction := false
    ownTarget := false
    inStaticBlock := false
    inParameters := false
    inClass := false
    inClassField := false
    hasSuperClass := false
    breakAllowed := false
    continueAllowed := false
    includeIn := false
    loopHead := false
    awaitLoopHead := false
    ambient := false
    inConditional := false
    expectsColon := false
    plainTypesOnly := false
    forcedElement := false }

/-- A source file that has been read: its characters, its items, and where the
expressions start that are marked as free of effects. -/
structure SourceFile where
  text : List Char
  items : List TopItem
  marks : List Nat
deriving Inhabited

/-- The characters of a text without the mark that may open a file. -/
def unmarked : List Char → List Char
  | '\ufeff' :: rest => rest
  | chars => chars

/-- Why a text is no source file. -/
inductive Unreadable where
  | faulty (faults : List Fault)
  | abandoned (reason : Abandonment)
deriving Repr, DecidableEq, Inhabited

/-- Reads a file, or says what is wrong with it. -/
def SourceFile.read (dialect : Dialect) (chars : List Char) :
    Except Unreadable SourceFile :=
  let text := unmarked chars
  let cursor := Cursor.start (Scan.start text dialect.context)
  let (result, cursor) :=
    (Parser.fileItems (Grammar.levels (8 * text.length + 64))).run cursor
  let faults := cursor.scan.faults.reverse
  match cursor.scan.abandoned, result with
  | some reason, _ => .error (.abandoned reason)
  | none, .error fault => .error (.faulty (faults ++ [fault]))
  | none, .ok items =>
      if faults.isEmpty then .ok { text, items, marks := cursor.scan.marks }
      else .error (.faulty faults)

end Prune.Script
