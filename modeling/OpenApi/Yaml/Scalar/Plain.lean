import OpenApi.Yaml.Scalar.Gap
/-! Scalars without quotes. -/
namespace OpenApi.Yaml.Plain

def isFlowIndicator (c : Char) : Bool :=
  c = ',' || c = '[' || c = ']' || c = '\x7b' || c = '\x7d'

def colonClash (flow : Bool) (c : Char) (rest : List Char) : Bool :=
  flow && c = ':' && rest.head?.any fun d => isFlowIndicator d || d = '?'

def endsBefore (flow : Bool) (c : Char) (rest : List Char) : Bool :=
  (c = ':' && wordEnds rest) || (flow && isFlowIndicator c)

def endsAfterGap (flow : Bool) (floor : Nat) (spot : Spot) (c : Char) (rest : List Char) : Bool :=
  -- After blanks or breaks the scalar also ends at a comment, at a document mark, and in a block at
  -- a column below its own.
  (!flow && spot.column < floor) || c = '#' || atAnyDocumentMark spot (c :: rest)

def read (flow : Bool) (floor : Nat) (spot : Spot) (afterGap : Bool) (gap : Gap) (text : List Char) :
    List Char → Option Scanned
  | [] => some ⟨text.reverse, ⟨spot, []⟩, gap.crossed⟩
  | c :: rest =>
    if isBlank c || isBreak c then
      if c = '\t' && gap.crossed && spot.column < floor then none
      else read flow floor (spot.past c) true (gap.add c) text rest
    else if afterGap && endsAfterGap flow floor spot c rest then
      some ⟨text.reverse, ⟨spot, c :: rest⟩, gap.crossed⟩
    else if colonClash flow c rest then none
    else if endsBefore flow c rest then some ⟨text.reverse, ⟨spot, c :: rest⟩, gap.crossed⟩
    else read flow floor (spot.past c) false .empty (gap.close text c) rest

def scan (flow : Bool) (floor : Nat) (c : Cursor) : Option Scanned :=
  read flow floor c.spot false .empty [] c.rest

end OpenApi.Yaml.Plain
