import OpenApi.Text.Percent
import OpenApi.Text.Split
/-! Tables of code points, written as words. A word is a point or a range, `a-b`, of which `/2` takes
every other point. Behind a colon stands what is known of the points. -/
namespace OpenApi.Url.Domain

structure Span where
  first : Nat
  last : Nat
  step : Nat
  note : List Char

namespace Span

def hex (text : List Char) : Nat :=
  text.foldl (fun n c => 16 * n + (Text.Percent.hexValue? c).getD 0) 0

def ofWord (word : List Char) : Span :=
  let (place, note) := (Text.splitAtFirst? ':' word).getD (word, [])
  let (place, step) := ((Text.splitAtFirst? '/' place).map fun p => (p.1, 2)).getD (place, 1)
  let (first, last) := (Text.splitAtFirst? '-' place).getD (place, place)
  ⟨hex first, hex last, step, note⟩

def words (lines : List String) : List (List Char) :=
  lines.flatMap fun line => Text.splitAtEach ' ' line.toList

def ofLines (lines : List String) : List Span := (words lines).map ofWord

def has (s : Span) (n : Nat) : Bool := s.first ≤ n && n ≤ s.last && (n - s.first) % s.step == 0

def points (s : Span) : List Nat := (Text.splitAtEach ',' s.note).map hex

def note? (table : List Span) (c : Char) : Option (List Char) :=
  (table.find? (·.has c.toNat)).map (·.note)

def member (table : List Span) (c : Char) : Bool := table.any (·.has c.toNat)

end Span
end OpenApi.Url.Domain
