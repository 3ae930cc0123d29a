import Courier.Url.Domain.Canonical
import Courier.Url.Domain.Direction
import Courier.Url.Domain.Joining
import Courier.Url.Domain.Mapping
import Courier.Url.Punycode

/-!
# Domain names

A domain name is a sequence of labels with dots between them. Names that people take for the same
one have one written form, which is in ASCII:

1. each character is replaced by what it stands for, and the name is put into canonical form;
2. a label that bears the mark of Punycode is read; what it denotes must be in the form that the
   first step gives;
3. a label must not begin with a mark, joiners must fit, and where a label runs to the left all
   labels must read the same wherever they are shown;
4. labels with characters beyond ASCII are written in Punycode.

Labels may be empty and of any length, up to a limit for those that have to be written in Punycode.
-/

namespace Courier.Url.Domain

/-- A label as it is shown and as it is written. -/
structure Label where
  /-- What is shown. -/
  shown : List Char
  /-- What is written. -/
  written : List Char
  deriving DecidableEq, Repr

/-- Whether a text is in ASCII. -/
def isAscii (s : List Char) : Bool := s.all fun c => c.toNat < 128

/-- Whether the text that a label in Punycode denotes has the form of a label. -/
def isRead (shown : List Char) : Bool := shown.all isPlain && canonical shown == shown

/-- The most characters of a label that has to be written in Punycode. -/
def maxLabel : Nat := 1000

/-- Whether a label may be shown. -/
def isShowable (shown : List Char) : Bool :=
  (shown.head?.all fun c => !isMark c) && joinersFit [] shown &&
    (isAscii shown || shown.length ≤ maxLabel)

/-- The label that a text denotes. -/
def label? (s : List Char) : Option Label :=
  let read : Option Label :=
    if Punycode.mark.isPrefixOf s then
      match Punycode.decode? (s.drop Punycode.mark.length) with
      | some shown => if isRead shown then some ⟨shown, s⟩ else none
      | none => none
    else some ⟨s, if isAscii s then s else Punycode.encode s⟩
  read.filter fun label => isShowable label.shown

/-- The labels that a name denotes. -/
def labels? (name : List Char) : Option (List Label) := do
  let mapped ← mapText? name
  let labels ← (Text.split (· == '.') (canonical mapped)).mapM label?
  if labels.any fun label => runsLeft label.shown then
    if labels.all fun label => readsAlike label.shown then some labels else none
  else some labels

/-- The written form of a name. -/
def toAscii? (name : List Char) : Option (List Char) :=
  (labels? name).map fun labels => List.intercalate ['.'] (labels.map Label.written)

end Courier.Url.Domain
