import OpenApi.Pointer
import OpenApi.Schema.Extract
/-! Requests to the command line tool, read from its arguments. -/
namespace OpenApi.Command

inductive Action where
  | resolve
  | flatten
  | check
  deriving DecidableEq, Repr

inductive Format where
  | json
  | yaml
  deriving DecidableEq, Repr

structure Request where
  action : Action
  input : String
  basePath : Option String
  output : Option String
  format : Option Format
  allowUnresolved : Bool
  maxDepth : Nat
  deriving DecidableEq, Repr

inductive Key where
  | basePath
  | output
  | format
  | allowUnresolved
  | maxDepth
  | verbose
  deriving DecidableEq, Repr

namespace Key

def long : Key → String
  | .basePath => "base-path"
  | .output => "output"
  | .format => "format"
  | .allowUnresolved => "allow-unresolved"
  | .maxDepth => "max-depth"
  | .verbose => "verbose"

def short? : Key → Option Char
  | .output => some 'o'
  | .verbose => some 'v'
  | _ => none

def takesValue : Key → Bool
  | .allowUnresolved | .verbose => false
  | _ => true

end Key

def Action.ofWord? : String → Option Action
  | "resolve" => some .resolve
  | "flatten" => some .flatten
  | "check" => some .check
  | _ => none

def Action.keys : Action → List Key
  | .resolve => [.basePath, .output, .format, .allowUnresolved, .verbose]
  | .flatten => [.basePath, .output, .format, .allowUnresolved, .maxDepth, .verbose]
  | .check => [.basePath, .verbose]

def Format.ofWord? : String → Option Format
  | "json" => some .json
  | "yaml" => some .yaml
  | _ => none

structure Given where
  input : Option String
  values : List (Key × String)
  flags : List Key

namespace Given

def empty : Given := ⟨none, [], []⟩

def positional? (g : Given) (text : String) : Option Given :=
  if g.input.isSome || text.isEmpty then none else some { g with input := some text }

def value? (g : Given) (key : Key) (text : String) : Option Given :=
  let fits := match key with
    | .output => !text.isEmpty
    | .format => (Format.ofWord? text).isSome
    | .maxDepth => (Pointer.index? text).isSome
    | _ => true
  if !fits || (g.values.lookup key).isSome then none
  else some { g with values := (key, text) :: g.values }

def flag? (g : Given) (key : Key) : Option Given :=
  if g.flags.contains key then none else some { g with flags := key :: g.flags }

end Given

abbrev Pending := Given × Option Key

def letters? (keys : List Key) (g : Given) : List Char → Option Pending
  | [] => some (g, none)
  | c :: rest => do
    let key ← keys.find? (·.short? = some c)
    if key.takesValue then
      match rest with
      | [] => some (g, some key)
      | '=' :: text => return (← g.value? key (String.ofList text), none)
      | text => return (← g.value? key (String.ofList text), none)
    else letters? keys (← g.flag? key) rest

def word? (keys : List Key) (g : Given) (text : List Char) : Option Pending := do
  match Text.splitAtFirst? '=' text with
  | some (name, value) =>
    let key ← keys.find? (·.long = String.ofList name)
    if key.takesValue then return (← g.value? key (String.ofList value), none) else none
  | none =>
    let key ← keys.find? (·.long = String.ofList text)
    if key.takesValue then return (g, some key) else return (← g.flag? key, none)

def isDashed (argument : String) : Bool := argument ≠ "-" && argument.toList.head? = some '-'

def given? (keys : List Key) (g : Given) (pending : Option Key) : List String → Option Given
  | [] => if pending.isNone then some g else none
  | argument :: rest => do
    match pending with
    | some key =>
      if isDashed argument then none else given? keys (← g.value? key argument) none rest
    | none =>
      if argument = "--" then rest.foldlM Given.positional? g
      else match argument.toList with
        | '-' :: '-' :: text =>
          let (g, pending) ← word? keys g text
          given? keys g pending rest
        | '-' :: c :: text =>
          let (g, pending) ← letters? keys g (c :: text)
          given? keys g pending rest
        | _ => given? keys (← g.positional? argument) none rest

def Given.request? (g : Given) (action : Action) : Option Request := do
  let input ← g.input
  let depth := ((g.values.lookup .maxDepth).bind Pointer.index?).getD Schema.defaultDepth
  return {
    action := action
    input := input
    basePath := g.values.lookup .basePath
    output := g.values.lookup .output
    format := (g.values.lookup .format).bind Format.ofWord?
    allowUnresolved := g.flags.contains .allowUnresolved
    maxDepth := depth }

/-- The request that a list of arguments makes, if it is one. Only the flag for a verbose run may
stand before the name of an action. -/
def Request.ofArguments? (arguments : List String) : Option Request :=
  match arguments with
  | [] => none
  | word :: rest =>
    match Action.ofWord? word with
    | some action => do (← given? action.keys .empty none rest).request? action
    | none => if word = "--verbose" || word = "-v" then flagged rest else none
where
  flagged : List String → Option Request
    | [] => none
    | word :: rest => do
      let action ← Action.ofWord? word
      (← given? action.keys .empty none rest).request? action

end OpenApi.Command
