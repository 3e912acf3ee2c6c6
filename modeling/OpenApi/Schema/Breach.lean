/-! Ways in which a schema map can break its own rules. -/
namespace OpenApi.Schema

inductive Breach where
  | emptyName
  | duplicateName (name : String)
  | keyMismatch (key name : String)
  | residualReference (name reference : String)
  | danglingName (owner target : String)
  deriving DecidableEq, Repr

namespace Breach

def word : Breach → String
  | .emptyName => "EmptyName"
  | .duplicateName _ => "DuplicateName"
  | .keyMismatch _ _ => "KeyMismatch"
  | .residualReference _ _ => "ResidualReference"
  | .danglingName _ _ => "DanglingName"

def details : Breach → List (String × String)
  | .emptyName => []
  | .duplicateName name => [("name", name)]
  | .keyMismatch key name => [("key", key), ("name", name)]
  | .residualReference name reference => [("name", name), ("reference", reference)]
  | .danglingName owner target => [("owner", owner), ("target", target)]

def message : Breach → String
  | .emptyName => "schema entry has an empty name"
  | .duplicateName name => "duplicate schema name '" ++ name ++ "'"
  | .keyMismatch key name =>
    "schema map key '" ++ key ++ "' does not match entry name '" ++ name ++ "'"
  | .residualReference name reference =>
    "schema '" ++ name ++ "' contains unresolved reference '" ++ reference ++ "'"
  | .danglingName owner target =>
    "schema '" ++ owner ++ "' refers to missing entry '" ++ target ++ "'"

def ofWord? (word a b : String) : Option Breach :=
  [emptyName, .duplicateName a, .keyMismatch a b, .residualReference a b, .danglingName a b].find?
    (·.word = word)

end Breach
end OpenApi.Schema
