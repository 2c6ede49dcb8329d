/-
# Quoted text

Error messages show a text as it was read between double quotes: the quote,
the backslash, line feed, carriage return, tab and NUL have a short escape,
and a character that cannot be seen by itself (one without a printed form, or
one that extends the character before it) is written by its code point in
lower-case hexadecimal. Everything else stands for itself, the apostrophe too.
-/
import VulkanFoundry.Text.Number
import VulkanFoundry.Text.Unprintable
import VulkanFoundry.Text.Extending

namespace VulkanFoundry
namespace Text

/-- A character as it stands between the quotes. -/
def escapeChar (c : Char) : List Char :=
  if c = '"' then ['\\', '"']
  else if c = '\\' then ['\\', '\\']
  else if c = '\n' then ['\\', 'n']
  else if c = '\r' then ['\\', 'r']
  else if c = '\t' then ['\\', 't']
  else if c.toNat = 0 then ['\\', '0']
  else if isExtending c || isUnprintable c then
    ['\\', 'u', '\x7b'] ++ digits 16 c.toNat ++ ['\x7d']
  else [c]

/-- The text between double quotes, with escapes. -/
def quoted (s : String) : String :=
  String.ofList ('"' :: s.toList.flatMap escapeChar ++ ['"'])

end Text
end VulkanFoundry
