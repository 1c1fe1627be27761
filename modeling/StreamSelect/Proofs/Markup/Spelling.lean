import StreamSelect.Event

/-! Trees of elements and their spellings: empty elements are written in one way or the other, and
comments may stand between tags. -/
namespace StreamSelect.Markup

/-! ### Trees -/

inductive Node where
  | element (name : String) (attributes : List (String × String)) (children : List Node)
  | text (value : String)
  deriving Repr, Inhabited

namespace Node

def isText : Node → Bool
  | .element _ _ _ => false
  | .text _ => true

mutual

/-- The events of a tree in document order. -/
def events : Node → List Event
  | .element name attributes children =>
    .startElement ⟨.plain name, ⟨attributes.map fun a => (.plain a.1, a.2)⟩, none⟩ ::
      (eventsOf children ++ [.endElement ⟨.plain name, none⟩])
  | .text value => [.characters ⟨value, none⟩]

def eventsOf : List Node → List Event
  | [] => []
  | node :: nodes => node.events ++ eventsOf nodes

end

/-- One letter or more. -/
structure IsName (name : String) : Prop where
  nonempty : name.toList ≠ []
  letters : ∀ c ∈ name.toList, c.isAlpha = true

/-- Attributes of one element: different names, none of which declares a namespace. -/
structure AreAttributes (attributes : List (String × String)) : Prop where
  names : ∀ a ∈ attributes, IsName a.1
  different : (attributes.map Prod.fst).Nodup
  noDeclaration : ∀ a ∈ attributes, a.1 ≠ "xmlns"

/-- Siblings: texts are not empty, and no two of them stand side by side. -/
inductive WellFormed : List Node → Prop
  | nil : WellFormed []
  | text {value : String} {nodes : List Node} (hvalue : value.toList ≠ [])
    (hnext : ∀ node ∈ nodes.head?, node.isText = false) (hnodes : WellFormed nodes) :
    WellFormed (.text value :: nodes)
  | element {name : String} {attributes : List (String × String)} {children nodes : List Node}
    (hname : IsName name) (hattributes : AreAttributes attributes) (hchildren : WellFormed children)
    (hnodes : WellFormed nodes) : WellFormed (.element name attributes children :: nodes)

end Node

/-! ### Spellings -/

def escapeChar : Char → List Char
  | '<' => ['&', 'l', 't', ';']
  | '>' => ['&', 'g', 't', ';']
  | '&' => ['&', 'a', 'm', 'p', ';']
  | '\'' => ['&', 'a', 'p', 'o', 's', ';']
  | '"' => ['&', 'q', 'u', 'o', 't', ';']
  | c => [c]

def escape (text : List Char) : List Char := text.flatMap escapeChar

/-- The attributes of a tag, each between quotes of one kind. -/
inductive SpellsAttributes : List (String × String) → List Char → Prop
  | nil : SpellsAttributes [] []
  | cons {name value : String} {attributes : List (String × String)} {written : List Char}
    {quote : Char} (hquote : quote = '"' ∨ quote = '\'')
    (hrest : SpellsAttributes attributes written) :
    SpellsAttributes ((name, value) :: attributes)
      (' ' :: (name.toList ++ '=' :: quote :: (escape value.toList ++ quote :: written)))

/-- A text spells siblings. An element without children has two spellings, and comments may stand in
front of a sibling and behind the last one. -/
inductive Spells : List Node → List Char → Prop
  | nil : Spells [] []
  | comment {nodes : List Node} {inside rest : List Char}
    (hinside : ∀ c ∈ inside, c.isAlpha = true ∨ c = ' ') (hrest : Spells nodes rest) :
    Spells nodes ('<' :: '!' :: '-' :: '-' :: (inside ++ '-' :: '-' :: '>' :: rest))
  | text {value : String} {nodes : List Node} {rest : List Char} (hrest : Spells nodes rest) :
    Spells (.text value :: nodes) (escape value.toList ++ rest)
  | emptyTag {name : String} {attributes : List (String × String)} {nodes : List Node}
    {written rest : List Char} (hattributes : SpellsAttributes attributes written)
    (hrest : Spells nodes rest) :
    Spells (.element name attributes [] :: nodes)
      ('<' :: (name.toList ++ written ++ '/' :: '>' :: rest))
  | element {name : String} {attributes : List (String × String)} {children nodes : List Node}
    {written inside rest : List Char} (hattributes : SpellsAttributes attributes written)
    (hchildren : Spells children inside) (hrest : Spells nodes rest) :
    Spells (.element name attributes children :: nodes)
      ('<' :: (name.toList ++ written ++
        '>' :: (inside ++ '<' :: '/' :: (name.toList ++ '>' :: rest))))

/-! ### One spelling -/

def spellAttributes (attributes : List (String × String)) : List Char :=
  attributes.flatMap fun a => ' ' :: (a.1.toList ++ '=' :: '"' :: (escape a.2.toList ++ ['"']))

mutual

/-- The spelling without comments; `short` says how an element without children is written. -/
def Node.spell (short : Bool) : Node → List Char
  | .element name attributes children =>
    '<' :: (name.toList ++ spellAttributes attributes ++
      if short && children.isEmpty then ['/', '>']
      else '>' :: (Node.spellAll short children ++ '<' :: '/' :: (name.toList ++ ['>'])))
  | .text value => escape value.toList

def Node.spellAll (short : Bool) : List Node → List Char
  | [] => []
  | node :: nodes => node.spell short ++ Node.spellAll short nodes

end

theorem spellsAttributes_spellAttributes (attributes : List (String × String)) :
    SpellsAttributes attributes (spellAttributes attributes) := by
  induction attributes with
  | nil => exact .nil
  | cons a attributes ih =>
    have hall := @SpellsAttributes.cons a.1 a.2 _ _ '"' (.inl rfl) ih
    simpa [spellAttributes] using hall

mutual

theorem Node.spells_spell (short : Bool) (node : Node) {nodes : List Node} {rest : List Char}
    (hrest : Spells nodes rest) : Spells (node :: nodes) (node.spell short ++ rest) := by
  cases node with
  | text value => exact .text hrest
  | element name attributes children =>
    have hwritten := spellsAttributes_spellAttributes attributes
    rw [Node.spell]
    split
    · rename_i hshort
      obtain rfl : children = [] := by simp_all
      have hall := @Spells.emptyTag name _ _ _ _ hwritten hrest
      simpa using hall
    · have hall := @Spells.element name _ _ _ _ _ _ hwritten (Node.spells_spellAll short children)
        hrest
      simpa using hall

/-- Every tree has a spelling. -/
theorem Node.spells_spellAll (short : Bool) (nodes : List Node) :
    Spells nodes (Node.spellAll short nodes) := by
  cases nodes with
  | nil => exact .nil
  | cons node nodes => exact node.spells_spell short (Node.spells_spellAll short nodes)

end

/-! ### Letters -/

theorem ne_of_isAlpha {c d : Char} (hc : c.isAlpha = true) (hd : d.isAlpha = false) : c ≠ d := by
  rintro rfl
  rw [hc] at hd
  cases hd

end StreamSelect.Markup
