import Unmask.Text.Hidden

/-!
Quoted text, as messages show it: between quotes, on one line, with nothing that would not be
seen.
-/

namespace Unmask.Text

/-- The code point of `c` in hexadecimal, between `\u` and braces. -/
def codePoint (c : Char) : Text := ['\\', 'u', '\x7b'] ++ Nat.toDigits 16 c.toNat ++ ['\x7d']

/-- How `c` is written between two `quote`s. -/
def escape (quote c : Char) : Text :=
  if c = '\x00' then ['\\', '0']
  else if c = '\t' then ['\\', 't']
  else if c = '\r' then ['\\', 'r']
  else if c = '\n' then ['\\', 'n']
  else if c = quote ∨ c = '\\' then ['\\', c]
  else if isHidden c then codePoint c
  else [c]

def quoted (s : Text) : Text := '\x22' :: s.flatMap (escape '\x22') ++ ['\x22']

def quotedChar (c : Char) : Text := '\x27' :: escape '\x27' c ++ ['\x27']

end Unmask.Text
