import Descent.Text.Printable
/-!
Texts and characters between quotes, as messages show them.
-/

namespace Descent.Text

def quoted (text : String) : String :=
  "\x27" ++ text ++ "\x27"

/-- A character as it stands inside single quotes: those with a short escape sequence have it, and
those that cannot be read have their number in hexadecimal. -/
def escaped (c : Char) : String :=
  match c with
  | '\x00' => "\\0"
  | '\t' => "\\t"
  | '\r' => "\\r"
  | '\n' => "\\n"
  | '\\' => "\\\\"
  | '\x27' => "\\\x27"
  | c =>
    if isReadable c then String.singleton c
    else "\\u\x7b" ++ String.ofList (Nat.toDigits 16 c.toNat) ++ "\x7d"

def quotedChar (c : Char) : String :=
  quoted (escaped c)

end Descent.Text
