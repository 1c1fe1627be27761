/-! Namespace-qualified names. Two names are the same when namespace and local part agree; the
qualifier a name was written with is carried for display only. -/
namespace StreamSelect

/-- A name of an element or an attribute. -/
structure Name where
  uri : Option String
  localName : String
  qualifier : Option String
  deriving Repr, DecidableEq, Inhabited

namespace Name

/-- Text that may be absent; the empty text counts as absent. -/
def nonempty (text : String) : Option String := if text.isEmpty then none else some text

def plain (localName : String) : Name := ⟨none, localName, none⟩

/-- An empty namespace is no namespace. -/
def inNamespace (uri localName : String) : Name := ⟨nonempty uri, localName, none⟩

/-- An empty qualifier is no qualifier. -/
def withQualifier (n : Name) (qualifier : String) : Name := { n with qualifier := nonempty qualifier }

/-- What identifies a name. -/
def key (n : Name) : Option String × String := (n.uri, n.localName)

instance : BEq Name := ⟨fun a b => a.key == b.key⟩

theorem beq_iff_key {a b : Name} : (a == b) = true ↔ a.key = b.key := by
  change (a.key == b.key) = true ↔ _
  exact beq_iff_eq

instance : EquivBEq Name where
  rfl := beq_iff_key.2 rfl
  symm h := beq_iff_key.2 (beq_iff_key.1 h).symm
  trans h k := beq_iff_key.2 ((beq_iff_key.1 h).trans (beq_iff_key.1 k))

@[simp] theorem withQualifier_key (n : Name) (q : String) : (n.withQualifier q).key = n.key := rfl

/-- Clark notation: the namespace in braces, then the local part. -/
def display (n : Name) : String :=
  match n.uri with
  | some uri => "\x7b" ++ uri ++ "\x7d" ++ n.localName
  | none => n.localName

/-- The names of a list, each once. -/
def distinct (names : List Name) : List Name := names.eraseDups

end Name
end StreamSelect
