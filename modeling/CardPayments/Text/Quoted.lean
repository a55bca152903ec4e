import CardPayments.Text.Digits
import CardPayments.Text.Hidden

/-! # Quoted text

A text in double quotes, as error messages show the input they refuse: quotes and backslashes take a
backslash, the four common controls have a letter, and every other character without a visible form
is shown by its number. -/
set_option autoImplicit false

namespace CardPayments.Text

def quotedChar (c : Char) : List Char :=
  if c = '"' then ['\\', '"']
  else if c = '\\' then ['\\', '\\']
  else if c = '\t' then ['\\', 't']
  else if c = '\n' then ['\\', 'n']
  else if c = '\r' then ['\\', 'r']
  else if c.toNat = 0 then ['\\', '0']
  else if isHidden c then ['\\', 'u', '{'] ++ hexNumber c.toNat ++ ['}']
  else [c]

def quoted (s : String) : String :=
  String.ofList ('"' :: s.toList.flatMap quotedChar ++ ['"'])

end CardPayments.Text
