import OpenApi.Decimal.Layout
import OpenApi.Yaml.Scalar.Style
/-! YAML text of a value, in block form. Only empty collections stand in brackets. -/
namespace OpenApi.Yaml.Text

def floatLayout : Decimal.Layout where
  plainFrom := -5
  plainBelow := 16
  plusSign := false
  tie := .even

def number : Json.Number → String
  | .int i => toString i
  | .float bits => floatLayout.text bits

def pad (n : Nat) : List Char := List.replicate n ' '

def indentLines (margin : Nat) (fresh : Bool) : List Char → List Char
  | [] => []
  | c :: rest =>
    if Style.isLineBreak c then c :: indentLines margin true rest
    else if fresh then pad margin ++ c :: indentLines margin false rest
    else c :: indentLines margin false rest

def endsLine (text : List Char) : Bool := text.getLast?.any Style.isLineBreak

def single (margin : Nat) (text : List Char) : List Char :=
  let doubled := text.flatMap fun c => if c = '\'' then ['\'', '\''] else [c]
  '\'' :: indentLines margin false doubled ++ (if endsLine text then pad margin else []) ++ ['\'']

def letter? : Char → Option Char
  | '\x00' => some '0'
  | '\x07' => some 'a'
  | '\x08' => some 'b'
  | '\t' => some 't'
  | '\n' => some 'n'
  | '\x0b' => some 'v'
  | '\x0c' => some 'f'
  | '\r' => some 'r'
  | '\x1b' => some 'e'
  | '"' => some '"'
  | '\\' => some '\\'
  | '\x85' => some 'N'
  | '\u2028' => some 'L'
  | '\u2029' => some 'P'
  | _ => none

def hex (digits n : Nat) : List Char :=
  let text := (Nat.toDigits 16 n).map Char.toUpper
  List.replicate (digits - text.length) '0' ++ text

def escape (c : Char) : List Char :=
  if Style.isPrintable c && !Style.isLineBreak c && c ≠ '"' && c ≠ '\\' then [c]
  else match letter? c with
    | some l => ['\\', l]
    | none =>
      let n := c.toNat
      if n ≤ 0xFF then '\\' :: 'x' :: hex 2 n
      else if n ≤ 0xFFFF then '\\' :: 'u' :: hex 4 n
      else '\\' :: 'U' :: hex 8 n

def double (text : List Char) : List Char := '"' :: text.flatMap escape ++ ['"']

def endsOpen (text : List Char) : Bool :=
  match text.reverse with
  | [a] => Style.isLineBreak a
  | a :: b :: _ => Style.isLineBreak a && Style.isLineBreak b
  | [] => false

def literalHeader (text : List Char) : List Char :=
  let step := if text.head?.any fun c => c = ' ' || Style.isLineBreak c then ['2'] else []
  let chomp := if !endsLine text then ['-'] else if endsOpen text then ['+'] else []
  '|' :: step ++ chomp

def literal (margin : Nat) (text : List Char) : List Char :=
  literalHeader text ++ '\n' :: indentLines margin true text

def textLine (margin : Nat) (s : String) : String :=
  let text := s.toList
  let written := match Style.of s with
    | .plain => text
    | .single => single margin text
    | .double => double text
    | .literal => literal margin text
  String.ofList (if Style.of s = .literal && endsLine text then written else written ++ ['\n'])

def isSimpleKey (key : String) : Bool := !Style.isMultiline key.toList && key.utf8ByteSize ≤ 128

def keyText (key : String) : String :=
  let text := key.toList
  String.ofList <| match Style.of key with
    | .plain => text
    | .single => single 0 text
    | _ => double text

def padText (n : Nat) : String := String.ofList (pad n)

mutual
def lines (margin : Nat) : Json → String
  | .null => "null\n"
  | .bool b => if b then "true\n" else "false\n"
  | .number n => number n ++ "\n"
  | .string s => textLine margin s
  | .array items => if items.isEmpty then "[]\n" else itemLines margin true items
  | .object fields => if fields.isEmpty then "\x7b\x7d\n" else fieldLines margin true fields
def itemLines (margin : Nat) (first : Bool) : List Json → String
  | [] => ""
  | item :: rest =>
    (if first then "" else padText margin) ++ "- " ++ lines (margin + 2) item ++
      itemLines margin false rest
def fieldLines (margin : Nat) (first : Bool) : List (String × Json) → String
  | [] => ""
  | (key, value) :: rest =>
    (if first then "" else padText margin) ++
      (if isSimpleKey key then keyText key ++ ":" ++ valueLines margin value
      else "? " ++ textLine (margin + 2) key ++ padText margin ++ ": " ++ lines (margin + 2) value) ++
      fieldLines margin false rest
def valueLines (margin : Nat) : Json → String
  | .array items =>
    if items.isEmpty then " []\n" else "\n" ++ padText margin ++ itemLines margin true items
  | .object fields =>
    if fields.isEmpty then " \x7b\x7d\n"
    else "\n" ++ padText (margin + 2) ++ fieldLines (margin + 2) true fields
  | .null => " null\n"
  | .bool b => if b then " true\n" else " false\n"
  | .number n => " " ++ number n ++ "\n"
  | .string s => " " ++ textLine (margin + 2) s
end

mutual
def blocks : Json → List String
  | .string s => if Style.of s = .literal then [s] else []
  | .array items => blocksOfItems items
  | .object fields => blocksOfFields fields
  | _ => []
def blocksOfItems : List Json → List String
  | [] => []
  | item :: rest => blocks item ++ blocksOfItems rest
def blocksOfFields : List (String × Json) → List String
  | [] => []
  | (key, value) :: rest =>
    (if Style.of key = .literal then [key] else []) ++ blocks value ++ blocksOfFields rest
end

def render (value : Json) : String :=
  lines 0 value ++
    (if (blocks value).getLast?.any fun s => endsOpen s.toList then "...\n" else "")

end OpenApi.Yaml.Text
