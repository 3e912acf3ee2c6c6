import OpenApi.Command.Request
import OpenApi.Flatten
import OpenApi.Yaml.Text
import OpenApi.Yaml.Value
/-! What a request leads to: texts for the two streams, and a file to be written or a failure. -/
namespace OpenApi.Command

inductive Source where
  | missing
  | unreadable (reason : String)
  | text (content : String)

inductive Ending where
  | done
  | failed (failure : Failure)
  | write (path text : String)

structure Run where
  stdout : String
  stderr : String
  ending : Ending

def document (content : String) : Except Failure Json :=
  match Yaml.read? content with
  | some document => .ok document
  | none => .error (.parse "Failed to parse OpenAPI document")

def Source.document (path : String) : Source → Except Failure Json
  | .missing => .error (.general ("Input file not found: " ++ Text.quoted path))
  | .unreadable reason => .error (.general ("Failed to read input file: " ++ reason))
  | .text content => Command.document content

def Request.outputFormat (r : Request) : Format :=
  match r.format, r.output.bind fun path => FilePath.extension? path.toList with
  | some format, _ => format
  | none, some extension =>
    if extension = "yaml".toList ∨ extension = "yml".toList then .yaml else .json
  | none, none => .json

def Format.render (value : Json) : Format → String
  | .json => value.pretty
  | .yaml => Yaml.Text.render value

def Request.deliver (r : Request) (stderr : String) (result : Json) : Run :=
  let text := r.outputFormat.render result
  match r.output with
  | some path => ⟨"", stderr, .write path text⟩
  | none => ⟨text ++ "\n", stderr, .done⟩

def countLine (resolved : Nat) : String := "Resolved " ++ toString resolved ++ " reference(s)"

def indentedLines (problems : List Problem) : String :=
  String.join (problems.map fun p => "  " ++ p.line ++ "\n")

def resolveRun (r : Request) (base : String) (root : Json) : Run :=
  let resolution := Resolution.resolve root base
  let stderr := countLine resolution.resolved ++ "\n" ++ indentedLines resolution.problems
  match resolution.cleanDocument, r.allowUnresolved with
  | .error failure, false => ⟨"", stderr, .failed failure⟩
  | _, _ => r.deliver stderr resolution.document

def flattenRun (r : Request) (base : String) (root : Json) : Run :=
  match flatten root base r.allowUnresolved r.maxDepth with
  | .error failure => ⟨"", "", .failed failure⟩
  | .ok f =>
    let stderr := countLine f.resolved ++ ", extracted " ++ toString f.schemas.size ++
      " schema(s)\n" ++ indentedLines f.problems
    r.deliver stderr f.schemas.toJson

def checkRun (base : String) (root : Json) : Run :=
  let resolution := Resolution.resolve root base
  let problems := String.join (resolution.problems.map fun p => p.line ++ "\n")
  let extracted := (Schema.extract resolution.document Schema.defaultDepth).mapError .integrity
  let told : String := match extracted with
    | .error failure => problems ++ Failure.message failure ++ "\n"
    | .ok _ => problems
  match resolution.isClean, extracted with
  | true, .ok schemas =>
    let summary := "OK: " ++ toString resolution.resolved ++ " reference(s) resolved, " ++
      toString schemas.size ++ " schema(s)\n"
    ⟨told ++ summary, "", .done⟩
  | true, .error failure => ⟨told, "", .failed failure⟩
  | false, _ => ⟨told, "", .failed (.resolution (Resolution.countText resolution.problems))⟩

def Request.run (r : Request) (environment : Option String) (source : Source) : Run :=
  match source.document r.input with
  | .error failure => ⟨"", "", .failed failure⟩
  | .ok root =>
    let base := (r.basePath.or environment).getD r.input
    match r.action with
    | .resolve => resolveRun r base root
    | .flatten => flattenRun r base root
    | .check => checkRun base root

inductive Obstacle where
  | directory (reason : String)
  | file (reason : String)

def Obstacle.failure : Obstacle → Failure
  | .directory reason => .general ("Failed to create output directory: " ++ reason)
  | .file reason => .general ("Failed to write output file: " ++ reason)

def writtenLine (path : String) : String := "Output written to " ++ Text.quoted path ++ "\n"

def failureLine (failure : Failure) : String := "Error: " ++ failure.report ++ "\n"

def usageCode : Nat := 2

end OpenApi.Command
