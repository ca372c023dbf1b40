import Descent.Pattern.Alternatives
import Descent.TokenKind
/-!
Tokens: a pattern, the kind that its matches are reported as, and the error that its failures are
reported as where that is not left to the pattern.
-/

namespace Descent

structure Token (U : Type) where
  pattern : Pattern U
  kind : TokenKind
  error : Option ParseError.Kind

namespace Token

variable {U : Type} [CodeUnit U]

def ofPattern (pattern : Pattern U) : Token U :=
  ⟨pattern, .unknown, none⟩

def withKind (token : Token U) (kind : TokenKind) : Token U :=
  { token with kind }

def ofKind (kind : TokenKind) (pattern : Pattern U) : Token U :=
  (ofPattern pattern).withKind kind

def withError (token : Token U) (error : ParseError.Kind) : Token U :=
  { token with error := some error }

def errorKind (token : Token U) (failure : MatchFailure) : ParseError.Kind :=
  token.error.getD (token.pattern.errorKind failure)

def literal (text : String) : Token U :=
  ofKind .literal (.literal (.ofText text))

def literalIgnoringCase (text : String) : Token U :=
  ofKind .literal (.literal (Literal.ofText text).ignoringCase)

def alternatives (options : Alternatives U) : Token U :=
  ofKind .literal options.toPattern

def keyword (text : String) (shape : IdentifierShape) : Token U :=
  ofKind .literal (.keyword (.ofText text) shape)

def identifier (shape : IdentifierShape) : Token U :=
  ofKind .identifier (.identifier shape)

def oneOf (members : UnitClass) : Token U :=
  ofPattern (.oneOf members)

def digits (content : DigitRun) : Token U :=
  ofKind .digits (.digits content)

def digitCount (content : DigitCount) : Token U :=
  ofKind .digits (.digitCount content)

def anything : Token U :=
  ofKind .any .anything

def endOfInput : Token U :=
  ofKind .endOfInput .endOfInput

def newline : Token U :=
  ofPattern .newline

def endOfLine : Token U :=
  ofPattern .endOfLine

def upTo (needle : Token U) (orEnd : Bool) : Token U :=
  ofPattern (.upTo needle.pattern orEnd)

/-- The token, except where the other one matches just the same. -/
def minus (token excluded : Token U) : Token U :=
  ofKind token.kind (.minus token.pattern excluded.pattern)

def classWhile (members : UnitClass) : Token U :=
  ofPattern (.repeated (.oneOf members))

def classWhileOnce (members : UnitClass) : Token U :=
  ofPattern (.repeatedOnce (.oneOf members))

/-- The input before the first match of a target, reported as skipped input. -/
def find (targets : List (Token U)) : Token U :=
  ofKind .error (.find (targets.map Token.pattern) [])

end Token
end Descent
