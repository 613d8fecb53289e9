import QueryDsl.Text.Printable

/-!
# Quoted text

Text between double quotes in which the quote, the backslash and every character that is not printable is escaped, so
that a message shows exactly which characters it is about. The other quotation mark, `'`, stands for itself.
-/

namespace QueryDsl.Text

/-- The hexadecimal digits of a code point in braces, without padding. -/
def codePointEscape (c : Char) : List Char :=
  '\\' :: 'u' :: '{' :: Nat.toDigits 16 c.toNat ++ ['}']

/-- A character as it stands inside quotes. -/
def quotedChar (c : Char) : List Char :=
  match c with
  | '"' => ['\\', '"']
  | '\\' => ['\\', '\\']
  | '\n' => ['\\', 'n']
  | '\r' => ['\\', 'r']
  | '\t' => ['\\', 't']
  | '\x00' => ['\\', '0']
  | c => if isPrintable c then [c] else codePointEscape c

/-- A text between double quotes. -/
def quoted (s : String) : String :=
  String.ofList ('"' :: s.toList.flatMap quotedChar ++ ['"'])

end QueryDsl.Text
