import Prune.Script.Complaint
import Prune.Script.Number

/-!
# Tokens

What the text of a source file is cut into. Words are kept by their text: which
of them are keywords, and which are reserved, depends on where they stand, so a
word is only asked about when it matters. A word that starts with an escape is
an `escapedWord` instead: it is never a keyword, whatever it spells. All
punctuation is a `mark`.

Some tokens open a new way of reading what follows. Whether a brace starts a
block or an object, and whether a quote ends a template, is known from the
tokens before it alone; `Token.allowsExpression` and `Token.allowsComment` are
the two facts about the last token that the reading of the next one needs.
-/

namespace Prune.Script

/-- Words that are keywords wherever a keyword may stand. -/
def keywords : List String :=
  ["await", "break", "case", "catch", "class", "const", "continue", "debugger",
    "default", "delete", "do", "else", "export", "extends", "finally", "for",
    "function", "if", "import", "in", "instanceof", "let", "new", "return",
    "super", "switch", "this", "throw", "try", "typeof", "var", "void", "while",
    "with", "yield"]

/-- Words that are literals. -/
def literalWords : List String := ["null", "true", "false"]

/-- Keywords after which an expression starts. -/
def openingKeywords : List String :=
  ["await", "case", "default", "delete", "do", "else", "extends", "in",
    "instanceof", "new", "return", "throw", "typeof", "void", "yield"]

/-- The operators between two operands, by how tightly they bind. -/
def binaryPrecedence (text : String) : Option Nat :=
  if text = "??" || text = "||" then some 1
  else if text = "&&" then some 2
  else if text = "|" then some 3
  else if text = "^" then some 4
  else if text = "&" then some 5
  else if ["==", "!=", "===", "!=="].contains text then some 6
  else if ["<", ">", "<=", ">="].contains text then some 7
  else if ["<<", ">>", ">>>"].contains text then some 8
  else if ["+", "-"].contains text then some 9
  else if ["*", "/", "%"].contains text then some 10
  else if text = "**" then some 11
  else none

def assignmentMarks : List String :=
  ["=", "+=", "-=", "*=", "/=", "%=", "**=", "<<=", ">>=", ">>>=", "&=", "|=",
    "^=", "&&=", "||=", "??="]

/-- A token of a source text. -/
inductive Token where
  | word (text : String)
  /-- A word whose first character was written with an escape. -/
  | escapedWord (text : String)
  | mark (text : String)
  | string (value raw : String)
  | number (raw : String)
  | bigInt (value raw : String)
  | regexp (body flags : String)
  /-- Template text, or why it cannot be read unless it is tagged. -/
  | template (raw : String) (fault : Option Fault)
  | elementName (name : String)
  | elementText (raw : String)
  | elementStart
  | elementEnd
  | shebang
  | fault (fault : Fault)
deriving Inhabited

namespace Token

/-- How a complaint about a text shows a token of it. -/
def describe (source : List Char) : Token → Shown
  | word text => .text text
  | escapedWord text => .text text
  | mark text => .text text
  | string value raw =>
      .text ("string literal (" ++ value ++ ", " ++ raw ++ ")")
  | number raw =>
      .text
        ("numeric literal (" ++ Decimal.plain (numberValue raw.toList) ++
          ", " ++ raw ++ ")")
  | bigInt value raw =>
      .text ("bigint literal (" ++ value ++ ", " ++ raw ++ ")")
  | regexp body flags =>
      .text ("regexp literal (" ++ body ++ ", " ++ flags ++ ")")
  | template raw _ => .text ("template token (" ++ raw ++ ")")
  | elementName name => .text ("jsx name (" ++ name ++ ")")
  | elementText raw => .text ("jsx text (" ++ raw ++ ")")
  | elementStart => .text "< (jsx tag start)"
  | elementEnd => .text "> (jsx tag end)"
  | shebang => .text "#!"
  | fault found => found.shownIn source

def isWord (token : Token) (text : String) : Bool :=
  match token with
  | word t => t = text
  | _ => false

def isMark (token : Token) (text : String) : Bool :=
  match token with
  | mark t => t = text
  | _ => false

def isKeyword : Token → Bool
  | word text => keywords.contains text
  | _ => false

def isBinary : Token → Bool
  | mark text => (binaryPrecedence text).isSome
  | _ => false

/-- Marks after which an expression starts, operators apart. -/
def openingMarks : List String :=
  ["=>", "...", "!", "(", "\x7b", "[", ";", ",", ":", "$\x7b", "?", "++",
    "--", "~"]

/-- Whether an expression may start after the token. -/
def allowsExpression : Token → Bool
  | word text => openingKeywords.contains text
  | mark text =>
      openingMarks.contains text || (binaryPrecedence text).isSome ||
        assignmentMarks.contains text
  | elementText _ => true
  | _ => false

/-- Marks that a comment on the same line belongs to. -/
def closingMarks : List String := [";", "\x7b", "\x7d", "$\x7b"]

/-- Whether the token can end an operand and is no punctuation of its own
kind. -/
def endsOperand : Token → Bool
  | word text => !keywords.contains text
  | mark text => ["]", "\x7d", "@", "#", "`"].contains text
  | escapedWord _ | string _ _ | number _ | bigInt _ _ | regexp _ _ | shebang
  | fault _ => true
  | template _ _ | elementName _ | elementText _ | elementStart | elementEnd =>
      false

/-- Whether a comment that follows on the same line belongs to the token. -/
def allowsComment : Token → Bool
  | word text => !(keywords.contains text || literalWords.contains text)
  | mark text => closingMarks.contains text
  | escapedWord _ | string _ _ | number _ | bigInt _ _ | regexp _ _ => true
  | _ => false

/-- The text of a word of either kind. -/
def wordText? : Token → Option String
  | word text | escapedWord text => some text
  | _ => none

end Token

end Prune.Script
