import CardPayments.Json.Basic

/-! # Writing JSON

The compact text of a value: no blanks, fields in their order, and in strings a backslash before
quotes and backslashes, the five short escapes, and `\u00xx` for the other control characters. -/
set_option autoImplicit false

namespace CardPayments.Json

def escapeChar (c : Char) : List Char :=
  if c = '"' then ['\\', '"']
  else if c = '\\' then ['\\', '\\']
  else if c = '\n' then ['\\', 'n']
  else if c = '\r' then ['\\', 'r']
  else if c = '\t' then ['\\', 't']
  else if c.toNat = 8 then ['\\', 'b']
  else if c.toNat = 12 then ['\\', 'f']
  else if c.toNat < 32 then ['\\', 'u'] ++ Text.hexDigits 4 c.toNat
  else [c]

def quote (s : String) : List Char :=
  '"' :: (s.toList.flatMap escapeChar ++ ['"'])

mutual

def toList : Json → List Char
  | .null => "null".toList
  | .bool true => "true".toList
  | .bool false => "false".toList
  | .number n => n.toList
  | .string s => quote s
  | .unreadable => "null".toList
  | .array items => '[' :: (itemsToList items ++ [']'])
  | .object fields => '{' :: (fieldsToList fields ++ ['}'])

def itemsToList : List Json → List Char
  | [] => []
  | [item] => toList item
  | item :: rest => toList item ++ ',' :: itemsToList rest

def fieldsToList : List (String × Json) → List Char
  | [] => []
  | [(name, value)] => quote name ++ ':' :: toList value
  | (name, value) :: rest => quote name ++ ':' :: (toList value ++ ',' :: fieldsToList rest)

end

def render (j : Json) : String := String.ofList j.toList

end CardPayments.Json
