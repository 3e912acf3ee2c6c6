import OpenApi.Yaml.Node
/-! The one document of a token stream. Missing nodes count as empty. -/
namespace OpenApi.Yaml

structure Parsing where
  tokens : List Token
  names : Fields Nat

abbrev Parser := StateT Parsing Option

namespace Parser

def peek : Parser (Option Token) := return (← get).tokens.head?

def skip : Parser Unit := modify fun p => { p with tokens := p.tokens.tail }

def expect (token : Token) : Parser Unit := do
  if (← peek) = some token then skip else failure

def accept (token : Token) : Parser Bool := do
  if (← peek) = some token then
    skip
    return true
  else return false

def nextIn (tokens : List Token) : Parser Bool := return (← peek).any tokens.contains

def anchorOf (name : List Char) : Parser Nat := do
  (Fields.get? (String.ofList name) (← get).names).elim failure pure

def setAnchor (name : List Char) : Parser Nat := do
  let number := (← get).names.length
  modify fun p => { p with names := Fields.set (String.ofList name) number p.names }
  return number

def acceptAnchor : Parser (Option (List Char)) := do
  match ← peek with
  | some (.anchor name) =>
    skip
    return some name
  | _ => return none

abbrev Handles := List (List Char × List Char)

def defaultHandles : Handles :=
  [(['!'], ['!']), (['!', '!'], "tag:yaml.org,2002:".toList)]

def acceptTag (handles : Handles) : Parser (Option (List Char)) := do
  match ← peek with
  | some (.tag handle suffix) =>
    skip
    if handle.isEmpty then return some suffix
    else match handles.lookup handle with
      | some stem => return some (stem ++ suffix)
      | none => failure
  | _ => return none

def properties (handles : Handles) : Parser (Option (List Char) × Option (List Char)) := do
  match ← acceptAnchor with
  | some name => return (some name, ← acceptTag handles)
  | none =>
    match ← acceptTag handles with
    | some tag => return (← acceptAnchor, some tag)
    | none => return (none, none)

/-- Where a node may stand: in a flow collection, in a block, or as a part of a block mapping, where a
sequence needs no indentation of its own. -/
inductive Place where
  | flow
  | block
  | entry
  deriving DecidableEq

mutual
def node (handles : Handles) : Nat → Place → Parser Node
  | 0, _ => failure
  | fuel + 1, place => do
    match ← peek with
    | some (.alias name) =>
      skip
      return .alias (← anchorOf name)
    | _ =>
      let (anchor, tag) ← properties handles
      let number ← anchor.mapM setAnchor
      let content ← content handles fuel place tag (anchor.isSome || tag.isSome)
      return number.elim content fun n => .anchored n content
def content (handles : Handles) : Nat → Place → Option (List Char) → Bool → Parser Node
  | 0, _, _, _ => failure
  | fuel + 1, place, tag, given => do
    match ← peek with
    | some (.scalar plain text) =>
      skip
      return .scalar tag plain text
    | some .flowSequenceStart =>
      skip
      return .sequence tag (← flowItems handles fuel true)
    | some .flowMappingStart =>
      skip
      return .mapping tag (← flowEntries handles fuel true)
    | token =>
      if token = some .blockEntry ∧ place = .entry then
        return .sequence tag (← looseItems handles fuel)
      else if token = some .blockSequenceStart ∧ place ≠ .flow then
        skip
        return .sequence tag (← blockItems handles fuel)
      else if token = some .blockMappingStart ∧ place ≠ .flow then
        skip
        return .mapping tag (← blockEntries handles fuel)
      else if given then return .empty tag
      else failure
def nodeUnless (handles : Handles) : Nat → Place → List Token → Parser Node
  | 0, _, _ => failure
  | fuel + 1, place, stops => do
    if ← nextIn stops then return .empty none else node handles fuel place
def blockItems (handles : Handles) : Nat → Parser (List Node)
  | 0 => failure
  | fuel + 1 => do
    if ← accept .blockEnd then return []
    else
      expect .blockEntry
      let item ← nodeUnless handles fuel .block [.blockEntry, .blockEnd]
      return item :: (← blockItems handles fuel)
def looseItems (handles : Handles) : Nat → Parser (List Node)
  | 0 => failure
  | fuel + 1 => do
    if ← accept .blockEntry then
      let item ← nodeUnless handles fuel .block [.blockEntry, .key, .value, .blockEnd]
      return item :: (← looseItems handles fuel)
    else return []
def blockEntries (handles : Handles) : Nat → Parser (List (Node × Node))
  | 0 => failure
  | fuel + 1 => do
    if ← accept .blockEnd then return []
    else
      expect .key
      let key ← nodeUnless handles fuel .entry [.key, .value, .blockEnd]
      let value ← if ← accept .value then
          nodeUnless handles fuel .entry [.key, .value, .blockEnd]
        else pure (.empty none)
      return (key, value) :: (← blockEntries handles fuel)
def flowItems (handles : Handles) : Nat → Bool → Parser (List Node)
  | 0, _ => failure
  | fuel + 1, first => do
    if ← accept .flowSequenceEnd then return []
    else
      unless first do expect .flowEntry
      if ← accept .flowSequenceEnd then return []
      else if ← accept .key then
        let pair ← flowPair handles fuel
        return .mapping none [pair] :: (← flowItems handles fuel false)
      else
        let item ← node handles fuel .flow
        return item :: (← flowItems handles fuel false)
def flowPair (handles : Handles) : Nat → Parser (Node × Node)
  | 0 => failure
  | fuel + 1 => do
    let key ← if ← nextIn [.value, .flowEntry, .flowSequenceEnd] then do
        skip
        pure (.empty none)
      else node handles fuel .flow
    let value ← if ← accept .value then
        nodeUnless handles fuel .flow [.flowEntry, .flowSequenceEnd]
      else pure (.empty none)
    return (key, value)
def flowEntries (handles : Handles) : Nat → Bool → Parser (List (Node × Node))
  | 0, _ => failure
  | fuel + 1, first => do
    if ← accept .flowMappingEnd then return []
    else
      unless first do expect .flowEntry
      if ← accept .flowMappingEnd then return []
      else if ← accept .key then
        let key ← nodeUnless handles fuel .flow [.value, .flowEntry, .flowMappingEnd]
        let value ← if ← accept .value then
            nodeUnless handles fuel .flow [.flowEntry, .flowMappingEnd]
          else pure (.empty none)
        return (key, value) :: (← flowEntries handles fuel false)
      else
        let key ← node handles fuel .flow
        return (key, .empty none) :: (← flowEntries handles fuel false)
end

def directives (version : Bool) (handles : Handles) : List Token → Option (Handles × List Token)
  | .versionDirective major minor :: rest =>
    if version ∨ major ≠ 1 ∨ (minor ≠ 1 ∧ minor ≠ 2) then none else directives true handles rest
  | .tagDirective handle stem :: rest =>
    if (handles.lookup handle).isSome then none
    else directives version ((handle, stem) :: handles) rest
  | rest => some (handles, rest)

def isDirective : Token → Bool
  | .versionDirective _ _ | .tagDirective _ _ => true
  | _ => false

def explicitContent (handles : Handles) (fuel : Nat) : Parser Node := do
  match ← peek with
  | none => return .empty none
  | some token =>
    if isDirective token || token = .documentStart || token = .documentEnd then
      return .empty none
    else node handles fuel .block

def document (fuel : Nat) : Parser Node := do
  let (handles, rest) ← directives false [] (← get).tokens
  let begun := rest.length < (← get).tokens.length
  modify fun p => { p with tokens := rest }
  let handles := handles ++ defaultHandles
  let content ← if begun || (← peek) = some .documentStart then do
      expect .documentStart
      explicitContent handles fuel
    else node handles fuel .block
  modify fun p => { p with tokens := p.tokens.dropWhile (· = .documentEnd) }
  if (← get).tokens.isEmpty then return content else failure

end Parser

def Node.ofTokens? (tokens : List Token) : Option Node :=
  if tokens.isEmpty then some (.empty none)
  else ((Parser.document (8 * tokens.length + 8)).run ⟨tokens, []⟩).map (·.1)

end OpenApi.Yaml
