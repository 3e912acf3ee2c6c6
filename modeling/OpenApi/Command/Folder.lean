import OpenApi.Command.Run
import OpenApi.FilePath
/-! Files and directories under one folder, and the whole course of a run in it. -/
namespace OpenApi.Command

inductive Item where
  | directory
  | file (content : ByteArray)

structure Folder where
  items : List (List String × Item)

inductive Place where
  | inside (names : List String)
  | above
  | elsewhere
  deriving DecidableEq, Repr

def Place.step : Place → String → Place
  | .inside names, name =>
    if name ≠ ".." then .inside (names ++ [name])
    else if names.isEmpty then .above
    else .inside names.dropLast
  | .above, name => if name = ".." then .above else .elsewhere
  | .elsewhere, _ => .elsewhere

namespace Folder

def isDirectory (f : Folder) (place : List String) : Bool :=
  place.isEmpty || f.items.any fun (path, item) =>
    match item with
    | .directory => place.isPrefixOf path
    | .file _ => path ≠ place && place.isPrefixOf path

def file? (f : Folder) (place : List String) : Option ByteArray :=
  f.items.findSome? fun (path, item) =>
    match item with
    | .file content => if path = place then some content else none
    | .directory => none

def walk (f : Folder) (place : Place) : List FilePath.Part → Place
  | [] => place
  | .root :: rest => walk f .above rest
  | .here :: rest => walk f place rest
  | .name name :: rest =>
    let passable := match place with
      | .inside names => f.isDirectory names
      | .above => true
      | .elsewhere => false
    if passable then walk f (place.step (String.ofList name)) rest else .elsewhere

def trailing (path : String) : List (List Char) :=
  ((Text.splitAtEach '/' path.toList).drop 1).reverse.takeWhile FilePath.isBlank

def isADirectory : String := "Is a directory (os error 21)"

def notADirectory : String := "Not a directory (os error 20)"

def notThere : String := "No such file or directory (os error 2)"

def read (f : Folder) (path : String) : Source :=
  match f.walk (.inside []) (FilePath.parts path.toList) with
  | .elsewhere => .missing
  | .above => .unreadable isADirectory
  | .inside names =>
    if f.isDirectory names then .unreadable isADirectory
    else if !(trailing path).isEmpty then .missing
    else match f.file? names with
      | none => .missing
      | some content =>
        match String.fromUTF8? content with
        | some text => .text text
        | none => .unreadable "stream did not contain valid UTF-8"

def makeDirectory (f : Folder) : Place → Except Obstacle Folder
  | .inside names =>
    if (f.file? names).isSome then .error (.directory notADirectory)
    else if f.isDirectory names then .ok f
    else .ok ⟨f.items ++ [(names, .directory)]⟩
  | _ => .ok f

def makeWay (f : Folder) (place : Place) : List String → Except Obstacle (Place × Folder)
  | [] => .ok (place, f)
  | name :: rest => do
    let place := place.step name
    makeWay (← f.makeDirectory place) place rest

def put (f : Folder) (pieces : List (List Char)) (place : Place) (text : String) :
    Except Obstacle Folder :=
  let refusal := if pieces.contains ['.'] then notThere else isADirectory
  match place with
  | .above => .error (.file isADirectory)
  | .elsewhere => if pieces.isEmpty then .ok f else .error (.file refusal)
  | .inside names =>
    if f.isDirectory names then .error (.file isADirectory)
    else if pieces.isEmpty then
      .ok ⟨(f.items.filter (·.1 ≠ names)) ++ [(names, .file text.toUTF8)]⟩
    else .error (.file (if (f.file? names).isSome then notADirectory else refusal))

def namesOf (parts : List FilePath.Part) : List String :=
  parts.filterMap fun
    | .name text => some (String.ofList text)
    | _ => none

def write (f : Folder) (path text : String) : Except Obstacle (Place × Folder) := do
  let parts := FilePath.parts path.toList
  let names := namesOf parts
  let start := if parts.head? = some .root then Place.above else .inside []
  match f.walk start (parts.filter (· ≠ .root)).dropLast with
  | .inside above => if (f.file? above).isSome then throw (.file notADirectory)
  | _ => pure ()
  let (directory, f) ← f.makeWay start names.dropLast
  let place := (names.getLast?).elim directory directory.step
  return (place, ← f.put (trailing path) place text)

end Folder

structure Outcome where
  exitCode : Nat
  stdout : String
  stderr : String
  written : Option (Place × String)

def course (f : Folder) (environment : Option String) (arguments : List String) : Outcome :=
  match Request.ofArguments? arguments with
  | none => ⟨usageCode, "", "", none⟩
  | some request =>
    let run := request.run environment (f.read request.input)
    match run.ending with
    | .done => ⟨0, run.stdout, run.stderr, none⟩
    | .failed failure => ⟨1, run.stdout, run.stderr ++ failureLine failure, none⟩
    | .write path text =>
      match f.write path text with
      | .ok (place, _) => ⟨0, run.stdout, run.stderr ++ writtenLine path, some (place, text)⟩
      | .error obstacle =>
        ⟨1, run.stdout, run.stderr ++ failureLine obstacle.failure, none⟩

end OpenApi.Command
