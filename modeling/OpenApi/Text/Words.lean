import OpenApi.Text.Casing
import OpenApi.Text.Split
/-! Words of an identifier, and the identifier in which each word begins with a capital. -/
namespace OpenApi.Text

inductive Hump where
  | fresh
  | lower
  | upper
  deriving DecidableEq

def Hump.after (hump : Hump) (c : Char) : Hump :=
  if isLowercase c then .lower else if isUppercase c then .upper else hump

/-- Cuts a run of letters and digits where lower case is followed by a capital, and before the last
of several capitals that lower case follows. `begun` holds the current word, last character first. -/
def humps (hump : Hump) (begun : List Char) : List Char → List (List Char)
  | [] => []
  | [c] => [(c :: begun).reverse]
  | c :: next :: rest =>
    if hump.after c = .lower ∧ isUppercase next then
      (c :: begun).reverse :: humps .fresh [] (next :: rest)
    else if hump = .upper ∧ isUppercase c ∧ isLowercase next then
      begun.reverse :: humps .fresh [c] (next :: rest)
    else humps (hump.after c) (c :: begun) (next :: rest)

def words (text : List Char) : List (List Char) :=
  (splitAtEach ' ' (text.map fun c => if isAlphanumeric c then c else ' ')).flatMap (humps .fresh [])

def lowerTail : List Char → List Char
  | [] => []
  | [c] => if c = 'Σ' then ['ς'] else lower c
  | c :: rest => lower c ++ lowerTail rest

def capitalize : List Char → List Char
  | [] => []
  | c :: rest => upper c ++ lowerTail rest

def pascal (text : String) : String :=
  String.ofList ((words text.toList).flatMap capitalize)

end OpenApi.Text
