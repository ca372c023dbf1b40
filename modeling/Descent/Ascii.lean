/-!
The named classes of ASCII characters. Nothing above U+007F is in any of them.
-/

namespace Descent

inductive AsciiClass where
  | control
  /-- Space and tab. -/
  | blank
  /-- Line feed and carriage return. -/
  | newline
  /-- Form feed and vertical tab. -/
  | otherSpace
  /-- Blank, newline and other space. -/
  | space
  | digit
  | lower
  | upper
  | alpha
  | alphaUnderscore
  | alphaDigit
  /-- Letters, digits and the underscore. -/
  | word
  | hexDigit
  | hexLower
  | hexUpper
  | punct
  /-- Visible characters. -/
  | graph
  /-- Visible characters and the space. -/
  | print
  /-- All of ASCII. -/
  | char
  deriving DecidableEq, Repr

namespace AsciiClass

def inRange (low high : Char) (value : Nat) : Bool :=
  low.toNat ≤ value && value ≤ high.toNat

def isControl (value : Nat) : Bool := value < 0x20 || value == 0x7F
def isBlank (value : Nat) : Bool := value == 0x20 || value == 0x09
def isNewline (value : Nat) : Bool := value == 0x0A || value == 0x0D
def isOtherSpace (value : Nat) : Bool := value == 0x0B || value == 0x0C
def isDigit : Nat → Bool := inRange '0' '9'
def isLower : Nat → Bool := inRange 'a' 'z'
def isUpper : Nat → Bool := inRange 'A' 'Z'
def isAlpha (value : Nat) : Bool := isLower value || isUpper value
def isUnderscore (value : Nat) : Bool := value == '_'.toNat
def isGraph : Nat → Bool := inRange '!' '~'

def contains : AsciiClass → Nat → Bool
  | control, value => isControl value
  | blank, value => isBlank value
  | newline, value => isNewline value
  | otherSpace, value => isOtherSpace value
  | space, value => isBlank value || isNewline value || isOtherSpace value
  | digit, value => isDigit value
  | lower, value => isLower value
  | upper, value => isUpper value
  | alpha, value => isAlpha value
  | alphaUnderscore, value => isAlpha value || isUnderscore value
  | alphaDigit, value => isAlpha value || isDigit value
  | word, value => isAlpha value || isDigit value || isUnderscore value
  | hexDigit, value => isDigit value || inRange 'a' 'f' value || inRange 'A' 'F' value
  | hexLower, value => isDigit value || inRange 'a' 'f' value
  | hexUpper, value => isDigit value || inRange 'A' 'F' value
  | punct, value => isGraph value && !(isAlpha value || isDigit value)
  | graph, value => isGraph value
  | print, value => isGraph value || value == 0x20
  | char, value => value < 0x80

def name : AsciiClass → String
  | control => "ASCII.control"
  | blank => "ASCII.blank"
  | newline => "ASCII.newline"
  | otherSpace => "ASCII.other-space"
  | space => "ASCII.space"
  | digit => "ASCII.digit"
  | lower => "ASCII.lower"
  | upper => "ASCII.upper"
  | alpha => "ASCII.alpha"
  | alphaUnderscore => "ASCII.alpha-underscore"
  | alphaDigit => "ASCII.alpha-digit"
  | word => "ASCII.word"
  | hexDigit => "ASCII.hex-digit"
  | hexLower => "ASCII.hex-digit.lower"
  | hexUpper => "ASCII.hex-digit.upper"
  | punct => "ASCII.punct"
  | graph => "ASCII.graph"
  | print => "ASCII.print"
  | char => "ASCII"

end AsciiClass
end Descent
