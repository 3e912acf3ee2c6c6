import OpenApi.Yaml.Cursor
/-! Blanks and breaks between the words of a scalar, and what they come to. -/
namespace OpenApi.Yaml

/-- Blanks count until the first break. `crossed` tells that a line end was passed, one that was
escaped included; `first` is the first break and `more` the others. -/
structure Gap where
  blanks : List Char
  crossed : Bool
  first : List Char
  more : List Char

namespace Gap

def empty : Gap := ⟨[], false, [], []⟩

def joined : Gap := ⟨[], true, [], []⟩

def add (g : Gap) (c : Char) : Gap :=
  if isBreak c then
    if g.crossed then { g with more := g.more ++ [c] } else ⟨[], true, [c], []⟩
  else if g.crossed then g
  else { g with blanks := g.blanks ++ [c] }

def fold (g : Gap) : List Char :=
  if g.crossed then
    if g.first = ['\n'] then (if g.more.isEmpty then [' '] else g.more) else g.first ++ g.more
  else g.blanks

def close (g : Gap) (text : List Char) (c : Char) : List Char := c :: (g.fold.reverse ++ text)

end Gap

structure Scanned where
  text : List Char
  cursor : Cursor
  crossed : Bool

end OpenApi.Yaml
