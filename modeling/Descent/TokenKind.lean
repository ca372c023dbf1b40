/-!
Kinds of tokens as observers see them, with their numeric codes.
-/

namespace Descent

inductive TokenKind where
  | unknown
  /-- Input that was skipped, or that a failing token had begun to match. -/
  | error
  | whitespace
  /-- A mark of no width. -/
  | position
  | endOfInput
  | any
  | literal
  | identifier
  | digits
  /-- A kind that a grammar defines for itself. -/
  | user (id : UInt16)
  deriving DecidableEq, Repr

namespace TokenKind

def userBase : Nat := 0x100

def code : TokenKind → Nat
  | unknown => 0
  | error => 1
  | whitespace => 2
  | position => 3
  | endOfInput => 4
  | any => 5
  | literal => 6
  | identifier => 7
  | digits => 8
  | user id => userBase + id.toNat

/-- The kind with a code; a code that no kind has is unknown. -/
def ofCode : Nat → TokenKind
  | 1 => error
  | 2 => whitespace
  | 3 => position
  | 4 => endOfInput
  | 5 => any
  | 6 => literal
  | 7 => identifier
  | 8 => digits
  | code =>
    if userBase ≤ code ∧ code < userBase + UInt16.size then user (UInt16.ofNat (code - userBase))
    else unknown

def name : TokenKind → String
  | unknown => "token"
  | error => "error"
  | whitespace => "whitespace"
  | position => "position"
  | endOfInput => "EOF"
  | any => "any"
  | literal => "literal"
  | identifier => "identifier"
  | digits => "digits"
  | user id => "token#" ++ Nat.repr id.toNat

end TokenKind
end Descent
