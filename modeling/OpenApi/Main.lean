import OpenApi.Command.Run
/-! The command line tool. -/
namespace OpenApi.Command

def reasonOf (error : IO.Error) : String :=
  let text (code : UInt32) (details : String) := details ++ " (os error " ++ toString code ++ ")"
  match error with
  | .alreadyExists _ code details | .inappropriateType _ code details
  | .noFileOrDirectory _ code details | .noSuchThing _ code details
  | .permissionDenied _ code details | .invalidArgument _ code details
  | .resourceExhausted _ code details => text code details
  | .otherError code details | .illegalOperation code details | .resourceBusy code details
  | .hardwareFault code details => text code details
  | error => toString error

def readSource (path : String) : IO Source := do
  match ← (IO.FS.readBinFile path).toBaseIO with
  | .ok content =>
    match String.fromUTF8? content with
    | some text => return .text text
    | none => return .unreadable "stream did not contain valid UTF-8"
  | .error (.noFileOrDirectory _ _ _) => return .missing
  | .error error => return .unreadable (reasonOf error)

def writeText (path text : String) : IO (Except Obstacle Unit) := do
  let parent := String.ofList ((FilePath.parent? path.toList).getD [])
  unless parent.isEmpty do
    if let .error error ← (IO.FS.createDirAll parent).toBaseIO then
      return .error (.directory (reasonOf error))
  match ← (IO.FS.writeFile path text).toBaseIO with
  | .ok () => return .ok ()
  | .error error => return .error (.file (reasonOf error))

def fail (failure : Failure) : IO UInt32 := do
  IO.eprint (failureLine failure)
  return 1

def Request.execute (request : Request) : IO UInt32 := do
  let environment ← IO.getEnv "OASFLAT_BASE_PATH"
  let run := request.run environment (← readSource request.input)
  IO.print run.stdout
  IO.eprint run.stderr
  match run.ending with
  | .done => return 0
  | .failed failure => Command.fail failure
  | .write path text =>
    match ← writeText path text with
    | .ok () =>
      IO.eprint (writtenLine path)
      return 0
    | .error obstacle => Command.fail obstacle.failure

end OpenApi.Command

def main (arguments : List String) : IO UInt32 := do
  match OpenApi.Command.Request.ofArguments? arguments with
  | some request => request.execute
  | none =>
    IO.eprintln "error: the arguments make no request"
    return OpenApi.Command.usageCode.toUInt32
