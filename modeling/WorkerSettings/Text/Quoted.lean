import WorkerSettings.Text.Printable

/-!
# Quoted text

A text between double quotes as it appears inside a message: the quote, the backslash
and the common control characters are escaped by a letter, every other character that
does not print on its own by its code point in braces.
-/

namespace WorkerSettings.Text

/-- One character of a quoted text. The single quote needs no escape. -/
def quotedChar (c : Char) : List Char :=
  match c with
  | '\x00' => ['\\', '0']
  | '\t' => ['\\', 't']
  | '\r' => ['\\', 'r']
  | '\n' => ['\\', 'n']
  | '"' => ['\\', '"']
  | '\\' => ['\\', '\\']
  | _ => if isPrintable c then [c] else "\\u\x7b".toList ++ Nat.toDigits 16 c.toNat ++ ['\x7d']

def quoted (s : String) : String :=
  String.ofList ('"' :: s.toList.flatMap quotedChar ++ ['"'])

end WorkerSettings.Text
