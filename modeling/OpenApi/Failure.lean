import OpenApi.Schema.Breach
import OpenApi.Text.Quoted
/-! Failures of the operations on documents and schema maps. -/
namespace OpenApi

inductive Failure where
  | io (text : String)
  | parse (text : String)
  | resolution (text : String)
  | integrity (breach : Schema.Breach)
  | general (text : String)
  deriving DecidableEq, Repr

namespace Failure

def word : Failure → String
  | .io _ => "Io"
  | .parse _ => "Parse"
  | .resolution _ => "Resolution"
  | .integrity _ => "Integrity"
  | .general _ => "General"

def message : Failure → String
  | .io text => "IO Error: " ++ text
  | .parse text => "Parse Error: " ++ text
  | .resolution text => "Resolution Error: " ++ text
  | .integrity breach => "Integrity Error: " ++ breach.message
  | .general text => "General Error: " ++ text

def source? : Failure → Option String
  | .io text => some text
  | .integrity breach => some breach.message
  | _ => none

def breachText (breach : Schema.Breach) : String :=
  match breach.details with
  | [] => breach.word
  | details =>
    breach.word ++ " \x7b " ++
      ", ".intercalate (details.map fun d => d.1 ++ ": " ++ Text.quoted d.2) ++ " \x7d"

def report : Failure → String
  | .integrity breach => "Integrity(" ++ breachText breach ++ ")"
  | .io text => "Io(" ++ text ++ ")"
  | .parse text => "Parse(" ++ Text.quoted text ++ ")"
  | .resolution text => "Resolution(" ++ Text.quoted text ++ ")"
  | .general text => "General(" ++ Text.quoted text ++ ")"

end Failure
end OpenApi
