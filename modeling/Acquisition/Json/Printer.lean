import Acquisition.Json.Basic
import Acquisition.Text.Hex

/-!
# Writing JSON

On one line and without spaces. Strings escape the quote, the backslash and the controls below the
space.
-/

namespace Acquisition.Json

def escapeChar (c : Char) : List Char :=
  if c = '"' then ['\\', '"']
  else if c = '\\' then ['\\', '\\']
  else if c = '\x08' then ['\\', 'b']
  else if c = '\x0c' then ['\\', 'f']
  else if c = '\n' then ['\\', 'n']
  else if c = '\r' then ['\\', 'r']
  else if c = '\t' then ['\\', 't']
  else if c.toNat < 0x20 then ['\\', 'u'] ++ Text.Hex.digits 4 c.toNat
  else [c]

def renderText (s : String) : String :=
  String.ofList ('"' :: s.toList.flatMap escapeChar ++ ['"'])

mutual

def render : Json → String
  | .null => "null"
  | .bool b => if b then "true" else "false"
  | .number n => n.render
  | .string s => renderText (s.getD "")
  | .array items => "[" ++ renderItems items ++ "]"
  | .object members => "\x7b" ++ renderMembers members ++ "\x7d"

def renderItems : List Json → String
  | [] => ""
  | [j] => render j
  | j :: rest => render j ++ "," ++ renderItems rest

def renderMembers : List (Option String × Json) → String
  | [] => ""
  | [(name, j)] => renderText (name.getD "") ++ ":" ++ render j
  | (name, j) :: rest => renderText (name.getD "") ++ ":" ++ render j ++ "," ++ renderMembers rest

end

end Acquisition.Json
