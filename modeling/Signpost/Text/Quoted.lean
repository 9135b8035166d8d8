import Signpost.Text.Unseen

/-!
# Quoted text

A text as it is shown in a message: in double quotes, with escapes for quotes, backslashes and every
character that does not stand on its own.
-/

namespace Signpost.Text

/-- A code point in small hexadecimal letters and in braces. -/
def braced (n : Nat) : List Char :=
  '{' :: Nat.toDigits 16 n ++ ['}']

def quoteChar (c : Char) : List Char :=
  match c with
  | '\x00' => ['\\', '0']
  | '\t'   => ['\\', 't']
  | '\n'   => ['\\', 'n']
  | '\r'   => ['\\', 'r']
  | '"'    => ['\\', '"']
  | '\\'   => ['\\', '\\']
  | c      => if isUnseen c then '\\' :: 'u' :: braced c.toNat else [c]

def quoted (s : String) : String :=
  String.ofList ('"' :: s.toList.flatMap quoteChar ++ ['"'])

end Signpost.Text
