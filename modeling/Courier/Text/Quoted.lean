import Courier.Hex
import Courier.Text.Printable

/-!
# Quoted text

A text shown between double quotes so that every character can be told from every other on a page.
A quote, a backslash and the four controls that have a letter are written with a backslash; a
character that cannot be shown, or would join the one before it, is written by its number in
braces. Everything else stands for itself, an apostrophe included.
-/

namespace Courier.Text

/-- One character inside quotes. -/
def quotedChar (c : Char) : List Char :=
  if c = '\x00' then ['\\', '0']
  else if c = '\t' then ['\\', 't']
  else if c = '\r' then ['\\', 'r']
  else if c = '\n' then ['\\', 'n']
  else if c = '\\' then ['\\', '\\']
  else if c = '"' then ['\\', '"']
  else if isCombining c || !isPrintable c then
    ['\\', 'u', '\x7b'] ++ Hex.digits c.toNat ++ ['\x7d']
  else [c]

/-- A text between quotes. -/
def quoted (s : String) : String :=
  String.ofList ('"' :: s.toList.flatMap quotedChar ++ ['"'])

end Courier.Text
