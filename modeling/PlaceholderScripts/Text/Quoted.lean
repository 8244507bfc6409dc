import PlaceholderScripts.Text.Casing
import PlaceholderScripts.Text.Quoted.Table

/-!
# Quoted texts

A text or a character between quotes, as it is shown inside a larger value. Quotes of the same kind
and backslashes are escaped, the usual controls have letters, and other characters that would not be
visible on their own are written by number.
-/

namespace PlaceholderScripts.Text

/-- `\u{…}` with the code point in hexadecimal. -/
def numberEscape (c : Char) : List Char :=
  "\\u\x7b".toList ++ Nat.toDigits 16 c.toNat ++ ['\x7d']

def isHidden (c : Char) : Bool :=
  c ≠ ' ' && (memberOf invisibleChanges c || memberOf extendingChanges c)

/-- A character between quotes of the kind `quote`. -/
def escapeChar (quote : Char) (c : Char) : List Char :=
  if c = '\x00' then ['\\', '0']
  else if c = '\t' then ['\\', 't']
  else if c = '\r' then ['\\', 'r']
  else if c = '\n' then ['\\', 'n']
  else if c = quote || c = '\\' then ['\\', c]
  else if isHidden c then numberEscape c
  else [c]

def quoted (text : String) : String :=
  String.ofList ('"' :: text.toList.flatMap (escapeChar '"') ++ ['"'])

def quotedChar (c : Char) : String := String.ofList ('\'' :: escapeChar '\'' c ++ ['\''])

end PlaceholderScripts.Text
