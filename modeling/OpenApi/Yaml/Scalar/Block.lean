import OpenApi.Yaml.Scalar.Gap
/-! Block scalars: lines under a header, kept as they are or folded. -/
namespace OpenApi.Yaml.Block

inductive Chomp where
  | strip
  | clip
  | keep

structure Header where
  chomp : Chomp
  step : Option Nat

def chomp? : Char → Option Chomp
  | '+' => some .keep
  | '-' => some .strip
  | _ => none

def isStep (c : Char) : Bool := c.isDigit && c != '0'

def stepOf (c : Char) : Nat := c.toNat - '0'.toNat

def header (c : Cursor) : Header × Cursor :=
  let read (chomp : Option Chomp) (step : Option Nat) (n : Nat) :=
    (Header.mk (chomp.getD .clip) step, c.skip n)
  match c.rest with
  | a :: rest =>
    match chomp? a with
    | some chomp =>
      match rest with
      | b :: _ => if isStep b then read (some chomp) (some (stepOf b)) 2 else read (some chomp) none 1
      | [] => read (some chomp) none 1
    | none =>
      if isStep a then
        match rest.head?.bind chomp? with
        | some chomp => read (some chomp) (some (stepOf a)) 2
        | none => read none (some (stepOf a)) 1
      else read none none 0
  | [] => read none none 0

structure Margin where
  breaks : List Char
  width : Nat
  cursor : Cursor

def margin (indent width : Nat) (breaks : List Char) (spot : Spot) : List Char → Option Margin
  -- Skips indentation and takes breaks up to a line with text. An `indent` of zero is not yet
  -- known. A tab in the indentation is refused.
  | [] => some ⟨breaks, max width spot.column, ⟨spot, []⟩⟩
  | c :: rest =>
    let inside := indent = 0 || spot.column < indent
    if inside && c = ' ' then margin indent width breaks (spot.past c) rest
    else if inside && c = '\t' then none
    else if isBreak c then
      margin indent (max width spot.column) (breaks ++ [c]) (spot.past c) rest
    else some ⟨breaks, max width spot.column, ⟨spot, c :: rest⟩⟩

structure Lines where
  -- Lines read so far: their text, the break of the last one, the breaks of the empty lines behind
  -- it, and whether it began with a blank.
  text : List Char
  last : List Char
  empty : List Char
  blankStart : Bool

def Lines.join (literal : Bool) (l : Lines) (blankStart : Bool) : List Char :=
  if !literal && l.last = ['\n'] && !l.blankStart && !blankStart then
    (if l.empty.isEmpty then [' '] else l.empty)
  else l.last ++ l.empty

def lines (literal : Bool) (indent : Nat) : Nat → Lines → Cursor → Option (Lines × Cursor)
  | 0, l, c => some (l, c)
  | fuel + 1, l, c =>
    match c.rest with
    | [] => some (l, c)
    | d :: _ =>
      if c.spot.column = indent then do
        let blankStart := isBlank d
        let (line, c) := c.span (!isBreak ·)
        let last := match c.rest with
          | e :: _ => if isBreak e then [e] else []
          | [] => []
        let c := c.skipBreak
        let m ← margin indent 0 [] c.spot c.rest
        lines literal indent fuel
          ⟨l.text ++ l.join literal blankStart ++ line, last, m.breaks, blankStart⟩ m.cursor
      else some (l, c)

def scan (literal : Bool) (indent floor : Nat) (c : Cursor) : Option Scanned := do
  let (h, c) := header c
  let c := (← c.lineEnd?).skipBreak
  let given := h.step.elim 0 (indent + ·)
  let m ← margin given 0 [] c.spot c.rest
  let indent := if given = 0 then max m.width (max floor 1) else given
  let (l, c) ← lines literal indent (m.cursor.rest.length + 1) ⟨[], [], m.breaks, false⟩ m.cursor
  let tail := match h.chomp with
    | .strip => []
    | .clip => l.last
    | .keep => l.last ++ l.empty
  return ⟨l.text ++ tail, c, true⟩

end OpenApi.Yaml.Block
