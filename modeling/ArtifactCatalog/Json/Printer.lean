/-
The compact text of a JSON value: no blanks, every control character escaped,
all other characters as they are.
-/

import ArtifactCatalog.Json.Value
import ArtifactCatalog.Number.Text
import ArtifactCatalog.Text.Hexadecimal

namespace ArtifactCatalog.Json

def renderChar (c : Char) : List Char :=
  if c = '"' then ['\\', '"']
  else if c = '\\' then ['\\', '\\']
  else if c.toNat = 8 then ['\\', 'b']
  else if c.toNat = 9 then ['\\', 't']
  else if c.toNat = 10 then ['\\', 'n']
  else if c.toNat = 12 then ['\\', 'f']
  else if c.toNat = 13 then ['\\', 'r']
  else if c.toNat < 0x20 then
    ['\\', 'u', '0', '0', Text.hexChar (c.toNat / 16), Text.hexChar (c.toNat % 16)]
  else [c]

def renderText (s : String) : List Char :=
  '"' :: (s.toList.flatMap renderChar ++ ['"'])

mutual

def render : Json → List Char
  | null => ['n', 'u', 'l', 'l']
  | boolean true => ['t', 'r', 'u', 'e']
  | boolean false => ['f', 'a', 'l', 's', 'e']
  | integer n => Number.intDigits n
  | decimal written => written.toList
  | text s => renderText s
  | list items => '[' :: (renderItems items ++ [']'])
  | object fields => '\x7b' :: (renderFields fields ++ ['\x7d'])

def renderItems : List Json → List Char
  | [] => []
  | item :: rest => render item ++ renderMoreItems rest

def renderMoreItems : List Json → List Char
  | [] => []
  | item :: rest => ',' :: (render item ++ renderMoreItems rest)

def renderFields : List (String × Json) → List Char
  | [] => []
  | (name, value) :: rest => renderText name ++ ':' :: (render value ++ renderMoreFields rest)

def renderMoreFields : List (String × Json) → List Char
  | [] => []
  | (name, value) :: rest =>
    ',' :: (renderText name ++ ':' :: (render value ++ renderMoreFields rest))

end

def compact (value : Json) : String := String.ofList (render value)

end ArtifactCatalog.Json
