import AssignLang.Position

/-! Tokens: a kind, a text, and the position of the first character of the spelling. Every stream of
tokens ends with a terminal one, which says whether the text was read to its end. -/
namespace AssignLang
set_option autoImplicit false

inductive TokenKind
  | eof
  | error
  | number
  | string
  | identifier
  | declare
  | binaryOp
  | binaryOrUnaryOp
  | unaryOp
  | assign
  | leftParen
  | rightParen
  | leftSquare
  | rightSquare
  | leftCurly
  | rightCurly
deriving DecidableEq

namespace TokenKind

/-- The short name that a listing of tokens shows. -/
def name : TokenKind → String
  | eof => "Eof"
  | error => "Error"
  | number => "Number"
  | string => "String"
  | identifier => "Identifier"
  | declare => "Declare"
  | binaryOp => "BinaryOp"
  | binaryOrUnaryOp => "BinaryOrUnaryOp"
  | unaryOp => "UnaryOp"
  | assign => "Assign"
  | leftParen => "LParen"
  | rightParen => "RParen"
  | leftSquare => "LSquare"
  | rightSquare => "RSquare"
  | leftCurly => "LCurly"
  | rightCurly => "RCurly"

/-- The words for a kind in a message. All opening brackets share one wording, and so do all
closing ones: the text of the token tells them apart. -/
def description : TokenKind → String
  | eof => "end of file"
  | error => "invalid token"
  | number => "number"
  | string => "string"
  | identifier => "identifier"
  | declare => "declaration keyword"
  | binaryOp => "binary operator"
  | binaryOrUnaryOp => "operator"
  | unaryOp => "unary operator"
  | assign => "assignment"
  | leftParen | leftSquare | leftCurly => "opening bracket"
  | rightParen | rightSquare | rightCurly => "closing bracket"

def all : List TokenKind :=
  [eof, error, number, string, identifier, declare, binaryOp, binaryOrUnaryOp, unaryOp, assign,
    leftParen, rightParen, leftSquare, rightSquare, leftCurly, rightCurly]

theorem mem_all (k : TokenKind) : k ∈ all := by cases k <;> decide

def ofName? (s : String) : Option TokenKind :=
  all.find? (·.name = s)

theorem ofName?_name (k : TokenKind) : ofName? k.name = some k := by cases k <;> decide

theorem name_injective {j k : TokenKind} (h : j.name = k.name) : j = k :=
  Option.some.inj ((ofName?_name j).symm.trans ((congrArg ofName? h).trans (ofName?_name k)))

end TokenKind

structure Token where
  kind : TokenKind
  text : String
  position : Position
deriving DecidableEq

/-- No token follows a terminal one. -/
def Token.isTerminal (t : Token) : Bool :=
  t.kind = .eof || t.kind = .error

end AssignLang
