import StreamSelect.Name
import StreamSelect.Markup.Tokenizer.Tag

/-! Namespace bindings. Those of a tag hold inside its element; of several for one label the latest
counts. -/
namespace StreamSelect.Markup

def xmlUri : List Char := "http://www.w3.org/XML/1998/namespace".toList
def xmlnsUri : List Char := "http://www.w3.org/2000/xmlns/".toList

inductive BindingFault where
  | xmlLabel (uri : List Char)
  | xmlnsLabel (uri : List Char)
  | labelForXml (label : List Char)
  | labelForXmlns (label : List Char)
  deriving Repr, DecidableEq, Inhabited

def hexByte (b : UInt8) : String := "0x" ++ String.ofList ((Nat.toDigits 16 b.toNat).map Char.toUpper)

/-- Bytes between double quotes; those that are no visible ASCII characters in hexadecimal. -/
def quotedBytes (text : List Char) : String :=
  let piece := fun (b : UInt8) =>
    if b = 34 then "\\\""
    else if 32 ≤ b && b ≤ 126 then (Char.ofNat b.toNat).toString
    else hexByte b
  "\"" ++ String.join ((String.ofList text).toUTF8.data.toList.map piece) ++ "\""

def BindingFault.message : BindingFault → String
  | .xmlLabel uri => "the namespace prefix 'xml' cannot be bound to '" ++ quotedBytes uri ++ "'"
  | .xmlnsLabel uri => "the namespace prefix 'xmlns' cannot be bound to '" ++ quotedBytes uri ++ "'"
  | .labelForXml label =>
    "the namespace prefix '" ++ quotedBytes label ++ "' cannot be bound to '" ++
      String.ofList xmlUri ++ "'"
  | .labelForXmlns label =>
    "the namespace prefix '" ++ quotedBytes label ++ "' cannot be bound to '" ++
      String.ofList xmlnsUri ++ "'"

/-- A label, or none for the default, and the namespace it stands for. -/
structure Binding where
  label : Option (List Char)
  uri : List Char
  deriving Repr, DecidableEq, Inhabited

/-- The label that an attribute binds: `none` if it binds none, `some none` for the default. -/
def boundLabel? (key : List Char) : Option (Option (List Char)) :=
  match Text.after? "xmlns".toList key with
  | some [] => some none
  | some (':' :: label) => some (some label)
  | _ => none

/-- The binding that an attribute makes. The reserved labels make none; an empty label counts as the
default. -/
def bindingOf? (a : RawAttribute) : Except BindingFault (Option Binding) :=
  match boundLabel? a.key with
  | none => .ok none
  | some none => .ok (some ⟨none, a.value⟩)
  | some (some label) =>
    if label = "xml".toList then if a.value = xmlUri then .ok none else .error (.xmlLabel a.value)
    else if label = "xmlns".toList then .error (.xmlnsLabel a.value)
    else if a.value = xmlUri then .error (.labelForXml label)
    else if a.value = xmlnsUri then .error (.labelForXmlns label)
    else .ok (some ⟨if label.isEmpty then none else some label, a.value⟩)

/-- Bindings in scope, the latest first. -/
abbrev Scope := List Binding

namespace Scope

def reserved : Scope :=
  [⟨some "xmlns".toList, xmlnsUri⟩, ⟨some "xml".toList, xmlUri⟩]

/-- The scope inside a tag with these attributes. -/
def enter (s : Scope) : List RawAttribute → Except BindingFault Scope
  | [] => .ok s
  | a :: rest => do
    match ← bindingOf? a with
    | some binding => enter (binding :: s) rest
    | none => enter s rest

def lookup (s : Scope) (label : Option (List Char)) : Option (List Char) :=
  (s.find? fun binding => binding.label = label).map (·.uri)

/-- The namespace of a label, which must be bound to one. -/
def resolveLabel (s : Scope) (label : List Char) : Except (List Char) (List Char) :=
  match if label.isEmpty then none else s.lookup (some label) with
  | some (c :: uri) => .ok (c :: uri)
  | _ => .error label

end Scope

/-- A name as written: the label before the first colon, if there is one, and the rest. -/
structure RawName where
  label : Option (List Char)
  localName : List Char
  deriving Repr, DecidableEq, Inhabited

namespace RawName

def ofText (text : List Char) : RawName :=
  match text.dropWhile (· != ':') with
  | [] => ⟨none, text⟩
  | _ :: localName => ⟨some (text.takeWhile (· != ':')), localName⟩

def qualified (n : RawName) (uri : List Char) : Name :=
  (Name.inNamespace (String.ofList uri) (String.ofList n.localName)).withQualifier
    (String.ofList (n.label.getD []))

/-- The name of an element: without a label it is in the default namespace. The error is a label
that is not bound. -/
def elementName (n : RawName) (s : Scope) : Except (List Char) Name :=
  match n.label with
  | none => .ok (n.qualified ((s.lookup none).getD []))
  | some label => (s.resolveLabel label).map n.qualified

/-- The name of an attribute: without a label it is in no namespace. -/
def attributeName (n : RawName) (s : Scope) : Except (List Char) Name :=
  match n.label with
  | none => .ok (n.qualified [])
  | some label => (s.resolveLabel label).map n.qualified

end RawName
end StreamSelect.Markup
