import OpenApi.Text.Split
/-! Slash-separated file paths. Empty parts and dots inside a path do not count. -/
namespace OpenApi.FilePath

inductive Part where
  | root
  | here
  | name (text : List Char)
  deriving DecidableEq, Repr

def isBlank (part : List Char) : Bool := part.isEmpty || part == ['.']

def parts (path : List Char) : List Part :=
  match Text.splitAtEach '/' path with
  | [] => []
  | first :: rest =>
    let tail := (rest.filter (!isBlank ·)).map Part.name
    if first.isEmpty then (if path.isEmpty then tail else .root :: tail)
    else if first = ['.'] then .here :: tail
    else .name first :: tail

def same (a b : List Char) : Bool := parts a = parts b

def trimEnd (pieces : List (List Char)) : List (List Char) :=
  match pieces with
  | [] => []
  | first :: rest => first :: (rest.reverse.dropWhile isBlank).reverse

def parent? (path : List Char) : Option (List Char) :=
  if path.isEmpty then none
  else
    let kept := trimEnd (Text.splitAtEach '/' path)
    match kept with
    | [] => none
    | [first] => if first.isEmpty then none else some []
    | first :: rest =>
      let kept := trimEnd (first :: rest.dropLast)
      if kept = [[]] then some ['/'] else some (['/'].intercalate kept)

def join (directory path : List Char) : List Char :=
  if path.head? = some '/' ∨ directory.isEmpty then path
  else if directory.getLast? = some '/' then directory ++ path
  else directory ++ '/' :: path

def fileName? (path : List Char) : Option (List Char) :=
  match (parts path).getLast? with
  | some (.name text) => if text = ['.', '.'] then none else some text
  | _ => none

def extension? (path : List Char) : Option (List Char) := do
  let name ← fileName? path
  let reversed := name.reverse
  let (after, before) ← Text.splitAtFirst? '.' reversed
  if before.isEmpty then none else some after.reverse

end OpenApi.FilePath
