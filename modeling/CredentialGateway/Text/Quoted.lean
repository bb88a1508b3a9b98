/-
Quoted texts, as they appear in descriptions of values for a human reader.

Quotes, backslashes and the usual control characters have a short escape; a
character without a visible form of its own is written by its number; all else
stands for itself.
-/
import CredentialGateway.Text.Hex
import CredentialGateway.Text.Printable.Table

namespace CredentialGateway.Text

/-- Whether a character has a visible form of its own. -/
def isVisible (c : Char) : Bool :=
  if c.toNat < 128 then 32 ≤ c.toNat && c.toNat < 127
  else !Runs.contains Printable.invisible c

/-- One character inside a quoted text. -/
def quoteChar (c : Char) : List Char :=
  if c = '"' then ['\\', '"']
  else if c = '\\' then ['\\', '\\']
  else if c = '\n' then ['\\', 'n']
  else if c = '\r' then ['\\', 'r']
  else if c = '\t' then ['\\', 't']
  else if c.toNat = 0 then ['\\', '0']
  else if isVisible c then [c]
  else ['\\', 'u', '\x7b'] ++ Hex.digits c.toNat ++ ['\x7d']

/-- A text between quotes. -/
def quote (text : List Char) : List Char :=
  '"' :: text.flatMap quoteChar ++ ['"']

/-- A string between quotes. -/
def quoteString (s : String) : String :=
  String.ofList (quote s.toList)

end CredentialGateway.Text
