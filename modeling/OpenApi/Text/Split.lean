/-! Cutting text at a mark. -/
namespace OpenApi.Text

def splitAtEach (mark : Char) : List Char → List (List Char)
  | [] => [[]]
  | c :: rest =>
    if c = mark then [] :: splitAtEach mark rest
    else match splitAtEach mark rest with
      | piece :: pieces => (c :: piece) :: pieces
      | [] => [[c]]

def splitAtFirst? (mark : Char) : List Char → Option (List Char × List Char)
  | [] => none
  | c :: rest =>
    if c = mark then some ([], rest)
    else (splitAtFirst? mark rest).map fun (before, after) => (c :: before, after)

def joinPairs (a b c : Char) : List Char → List Char
  | x :: y :: rest => if x = a ∧ y = b then c :: joinPairs a b c rest else x :: joinPairs a b c (y :: rest)
  | rest => rest

end OpenApi.Text
