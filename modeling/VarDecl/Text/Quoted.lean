/-
Quoted text: a text between quotation marks on one line, with everything that a reader could not see written out.

`encode` puts a backslash before a quotation mark and before a backslash, writes tab, line feed, carriage return and NUL
as a backslash and a letter or digit, and writes every other character that is not visible by its code point in lower
case hexadecimal between braces. All other characters stand for themselves; an apostrophe is among them.
-/
import VarDecl.Text.Visible

namespace VarDecl

namespace Text.Quoted

/-- the code point of a character, in the form of an escape -/
def codeEscape (c : Char) : Text := "\\u\x7b".toList ++ Nat.toDigits 16 c.toNat ++ "\x7d".toList

/-- how one character is written between the quotation marks -/
def escape (c : Char) : Text :=
  if c = '\x00' then "\\0".toList
  else if c = '\t' then "\\t".toList
  else if c = '\n' then "\\n".toList
  else if c = '\r' then "\\r".toList
  else if c = '\x22' then "\\\x22".toList
  else if c = '\\' then "\\\\".toList
  else if isVisible c then [c]
  else codeEscape c

/-- the text between quotation marks -/
def encode (t : Text) : Text := '\x22' :: t.flatMap escape ++ ['\x22']

end Text.Quoted

end VarDecl
