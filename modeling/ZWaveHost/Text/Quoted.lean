/-
  ZWaveHost.Text.Quoted — a text between double quotes, as messages show it.

  The quote, the backslash and the usual controls have two-character
  escapes; any other character that is not printable is written by its code
  point, `\u{1b}`.  A single quote stands for itself.
-/
import ZWaveHost.Text.Hex
import ZWaveHost.Text.Printable

namespace ZWaveHost.Text

/-- One character of a quoted text. -/
def quotedChar (c : Char) : List Char :=
  if c = '"' then ['\\', '"']
  else if c = '\\' then ['\\', '\\']
  else if c = '\n' then ['\\', 'n']
  else if c = '\r' then ['\\', 'r']
  else if c = '\t' then ['\\', 't']
  else if c.toNat = 0 then ['\\', '0']
  else if isPrintable c then [c]
  else '\\' :: 'u' :: '{' :: hexCode c.toNat ++ ['}']

/-- A text between double quotes. -/
def quoted (s : String) : String :=
  String.ofList ('"' :: s.toList.flatMap quotedChar ++ ['"'])

end ZWaveHost.Text
