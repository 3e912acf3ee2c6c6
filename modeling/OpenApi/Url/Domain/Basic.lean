import OpenApi.Url.Domain.Direction
import OpenApi.Url.Domain.Joiner
import OpenApi.Url.Domain.Mapping
import OpenApi.Url.Domain.Punycode
/-! Domain names. Whichever way a name is spelled, with other letter forms or in ASCII code, it is read
as the text that it stands for. -/
namespace OpenApi.Url.Domain

def isAscii (c : Char) : Bool := c.toNat < 0x80

def isForbiddenInHost (c : Char) : Bool :=
  "\x00\t\n\r #/:<>?@[\\]^|".toList.contains c

def isForbidden (c : Char) : Bool :=
  isForbiddenInHost c || c = '%' || c.toNat ≤ 0x20 || c.toNat = 0x7F

def codeMark : List Char := "xn--".toList

def maxCodeLength : Nat := 2000

def maxLabelLength : Nat := 1000

def isSound (label : List Char) : Bool :=
  !label.head?.any isMark && Joining.fits [] label &&
    (label.all isAscii || label.length ≤ maxLabelLength)

def decoded? (code : List Char) : Option (List Char) := do
  if code.isEmpty ∨ !code.all isAscii ∨ code.getLast? = some '-' ∨ maxCodeLength < code.length then
    none
  else
    let label ← Punycode.decode? code
    if label.all isKept ∧ compose label = label then some label else none

def label? (text : List Char) : Option (List Char) := do
  let label ← if codeMark.isPrefixOf text then decoded? (text.drop codeMark.length) else some text
  if isSound label then some label else none

def ofText? (text : List Char) : Option (List Char) := do
  let mapped := compose (← text.mapM mapped?).flatten
  if mapped.any isForbidden then none
  else
    let labels ← (Text.splitAtEach '.' mapped).mapM label?
    if Direction.isMixed labels ∧ !labels.all Direction.fits then none
    else some (['.'].intercalate labels)

end OpenApi.Url.Domain
