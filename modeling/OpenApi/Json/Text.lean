import OpenApi.Decimal.Layout
import OpenApi.Json.Basic
/-! JSON text of a value: compact, or indented by two spaces a level. -/
namespace OpenApi.Json

def floatLayout : Decimal.Layout where
  plainFrom := -5
  plainBelow := 16
  plusSign := true
  tie := .even

def Number.text : Number → String
  | .int i => toString i
  | .float bits => floatLayout.text bits

def hexDigit (n : Nat) : Char := (Nat.digitChar n)

def escapeChar (c : Char) : List Char :=
  match c with
  | '"' => ['\\', '"']
  | '\\' => ['\\', '\\']
  | '\n' => ['\\', 'n']
  | '\r' => ['\\', 'r']
  | '\t' => ['\\', 't']
  | '\x08' => ['\\', 'b']
  | '\x0c' => ['\\', 'f']
  | c =>
    if c.toNat < 0x20 then ['\\', 'u', '0', '0', hexDigit (c.toNat / 16), hexDigit (c.toNat % 16)]
    else [c]

def quote (s : String) : String :=
  "\"" ++ String.ofList (s.toList.flatMap escapeChar) ++ "\""

mutual
def compact : Json → String
  | .null => "null"
  | .bool b => if b then "true" else "false"
  | .number n => n.text
  | .string s => quote s
  | .array items => "[" ++ ",".intercalate (compactItems items) ++ "]"
  | .object fields => "\x7b" ++ ",".intercalate (compactFields fields) ++ "\x7d"
def compactItems : List Json → List String
  | [] => []
  | item :: rest => compact item :: compactItems rest
def compactFields : List (String × Json) → List String
  | [] => []
  | (key, value) :: rest => (quote key ++ ":" ++ compact value) :: compactFields rest
end

def block (level : Nat) (opening closing : String) (parts : List String) : String :=
  let line (n : Nat) := "\n" ++ String.ofList (List.replicate (2 * n) ' ')
  if parts.isEmpty then opening ++ closing
  else opening ++ line (level + 1) ++ ("," ++ line (level + 1)).intercalate parts ++
    line level ++ closing

mutual
def indented (level : Nat) : Json → String
  | .array items => block level "[" "]" (indentedItems (level + 1) items)
  | .object fields => block level "\x7b" "\x7d" (indentedFields (level + 1) fields)
  | .null => "null"
  | .bool b => if b then "true" else "false"
  | .number n => n.text
  | .string s => quote s
def indentedItems (level : Nat) : List Json → List String
  | [] => []
  | item :: rest => indented level item :: indentedItems level rest
def indentedFields (level : Nat) : List (String × Json) → List String
  | [] => []
  | (key, value) :: rest =>
    (quote key ++ ": " ++ indented level value) :: indentedFields level rest
end

def pretty (value : Json) : String := indented 0 value

end OpenApi.Json
