import Workings.Text.GraphemeExtend
import Workings.Text.Printable

/-!
# Quoted texts

A quoted text stands between double quotes. Inside it, quotes, backslashes and line ends are
escaped, and so is every character that cannot be seen or that would be drawn onto the one before
it.
-/

namespace Workings.Text

/-- The code point of a character in hexadecimal, between braces. -/
def codeEscape (char : Char) : List Char :=
  ['\\', 'u', '\x7b'] ++ Nat.toDigits 16 char.toNat ++ ['\x7d']

/-- A character as it is written inside quotes. -/
def escapeChar (char : Char) : List Char :=
  if char = '\x00' then ['\\', '0']
  else if char = '\t' then ['\\', 't']
  else if char = '\r' then ['\\', 'r']
  else if char = '\n' then ['\\', 'n']
  else if char = '\\' then ['\\', '\\']
  else if char = '"' then ['\\', '"']
  else if extendsGrapheme char then codeEscape char
  else if isPrintable char then [char]
  else codeEscape char

/-- The characters of a text between double quotes. -/
def quoteChars (chars : List Char) : List Char :=
  '"' :: (chars.flatMap escapeChar ++ ['"'])

/-- The text between double quotes. -/
def quote (source : String) : String :=
  String.ofList (quoteChars source.toList)

end Workings.Text
