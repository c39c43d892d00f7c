import GraphPlugin.Text.Extending
import GraphPlugin.Text.Invisible

/-! Texts in double quotes, for listings meant to be read by people. A quote, a backslash, a
character that shows nothing and one that would join the character before it are written as escapes;
all other characters stand for themselves. -/
namespace GraphPlugin.Text

def isPlain (c : Char) : Bool := 0x20 ≤ c.toNat && c.toNat < 0x7F

/-- Six characters have an escape of their own, the others are named by their code point. -/
def escape (c : Char) : List Char :=
  if c = '"' then ['\\', '"']
  else if c = '\\' then ['\\', '\\']
  else if c = '\n' then ['\\', 'n']
  else if c = '\t' then ['\\', 't']
  else if c = '\r' then ['\\', 'r']
  else if c.toNat = 0 then ['\\', '0']
  else if isPlain c then [c]
  else if isExtending c || isInvisible c then
    ['\\', 'u', Char.ofNat 0x7B] ++ Nat.toDigits 16 c.toNat ++ [Char.ofNat 0x7D]
  else [c]

def quoted (s : String) : String :=
  String.ofList ('"' :: s.toList.flatMap escape ++ ['"'])

def commaSeparated (items : List String) : String := String.intercalate ", " items

end GraphPlugin.Text
