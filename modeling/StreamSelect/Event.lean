import StreamSelect.Attributes
import StreamSelect.Location
import StreamSelect.Text.Blank

/-! The vocabulary of a markup stream. Payloads of declarations are carried as written and never
interpreted. -/
namespace StreamSelect

structure StartElement where
  name : Name
  attributes : Attributes
  location : Option Location
  deriving Repr, BEq, Inhabited

namespace StartElement

def ofName (name : Name) : StartElement := ⟨name, .empty, none⟩

def attribute? (e : StartElement) (name : Name) : Option String := e.attributes.get? name

end StartElement

structure EndElement where
  name : Name
  location : Option Location
  deriving Repr, BEq, Inhabited

structure Characters where
  text : String
  location : Option Location
  deriving Repr, BEq, Inhabited

/-- True of text without a visible character, the empty text among it. -/
def Characters.isBlank (c : Characters) : Bool := c.text.toList.all Text.isBlank

structure Doctype where
  text : String
  location : Option Location
  deriving Repr, BEq, Inhabited

structure EntityDeclaration where
  name : String
  replacement : Option String
  systemId : Option String
  location : Option Location
  deriving Repr, BEq, Inhabited

structure EntityReference where
  name : String
  location : Option Location
  deriving Repr, BEq, Inhabited

structure NotationDeclaration where
  name : String
  publicId : Option String
  systemId : Option String
  location : Option Location
  deriving Repr, BEq, Inhabited

/-- A declaration of the document, outside the tree of elements. -/
inductive DocumentDeclaration where
  | doctype (d : Doctype)
  | entity (d : EntityDeclaration)
  | reference (d : EntityReference)
  | notationDecl (d : NotationDeclaration)
  deriving Repr, BEq, Inhabited

def DocumentDeclaration.location : DocumentDeclaration → Option Location
  | .doctype d => d.location
  | .entity d => d.location
  | .reference d => d.location
  | .notationDecl d => d.location

inductive Event where
  | startElement (e : StartElement)
  | endElement (e : EndElement)
  | characters (c : Characters)
  | declaration (d : DocumentDeclaration)
  deriving Repr, BEq, Inhabited

namespace Event

def location : Event → Option Location
  | .startElement e => e.location
  | .endElement e => e.location
  | .characters c => c.location
  | .declaration d => d.location

def isDeclaration : Event → Bool
  | .declaration _ => true
  | _ => false

end Event
end StreamSelect
