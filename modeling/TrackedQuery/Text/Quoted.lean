import TrackedQuery.Text.Visible

/-!
# Quoted text

Text inside a message stands between double quotes.  A quote or a backslash inside it follows a
backslash, four control characters have letters of their own, and a character that is not visible on
its own is written as its code point in hexadecimal.
-/

namespace TrackedQuery.Text

/-- A backslash and the code point in lower-case hexadecimal digits, between braces. -/
def numbered (char : Char) : List Char :=
  "\\u\x7b".toList ++ Nat.toDigits 16 char.toNat ++ ['\x7d']

/-- One character of quoted text. -/
def quotedChar (char : Char) : List Char :=
  match char with
  | '\x00' => ['\\', '0']
  | '\t' => ['\\', 't']
  | '\r' => ['\\', 'r']
  | '\n' => ['\\', 'n']
  | '\\' => ['\\', '\\']
  | '"' => ['\\', '"']
  | _ => if isVisible char then [char] else numbered char

/-- Text between double quotes. -/
def quoted (text : String) : String :=
  String.ofList ('"' :: text.toList.flatMap quotedChar ++ ['"'])

end TrackedQuery.Text
