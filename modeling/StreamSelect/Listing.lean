import StreamSelect.Handler

/-! Lists of repeated items. The handler of a list declares its items as children of the list
element; a consumer is told of the list and of each item. -/
namespace StreamSelect

/-- What the data of a run do with a list. -/
structure ListConsumer (D : Type) where
  beginList : D → D := fun d => d
  itemStart : StartElement → D → Reaction D
  itemEnd : EndElement → D → Reaction D := fun _ d => { data := d }
  endList : D → D := fun d => d

namespace ListConsumer

variable {B D : Type}

/-- The handler of a list element, given the behaviour of its items. -/
def list (consumer : ListConsumer D) (item : Name) (itemBehaviour : B) : ElementHandler B D where
  onStart _ d := { data := consumer.beginList d }
  onEnd _ d := { data := consumer.endList d }
  declared _ := [{ statement := .select none [.select (.child item) []] [.attach itemBehaviour] }]

def item (consumer : ListConsumer D) : ElementHandler B D where
  onStart := consumer.itemStart
  onEnd := consumer.itemEnd

end ListConsumer

/-- The parts that handlers play in models that only collect lists. -/
inductive ListRole where
  | list (item : Name)
  | item
  deriving Repr, DecidableEq, Inhabited

def ListRole.behaviours {D : Type} (consumer : ListConsumer D) : Behaviours ListRole D where
  element
    | .list itemName => consumer.list itemName .item
    | .item => consumer.item
  observer _ := {}

/-- The items of the last list opened, in document order. -/
structure Collector (I : Type) where
  items : Array I := #[]
  deriving Inhabited

namespace Collector

variable {I : Type}

/-- Keeps what a mapping makes of each item; a list that opens starts afresh. -/
def consumer (map : StartElement → Except String I) : ListConsumer (Collector I) where
  beginList _ := {}
  itemStart e c :=
    match map e with
    | .ok i => { data := ⟨c.items.push i⟩ }
    | .error message => { data := c, failure := some message }

def describe (render : I → String) (c : Collector I) : String :=
  "VecListConsumer \x7b items: [" ++ ", ".intercalate (c.items.toList.map render) ++ "], .. \x7d"

end Collector
end StreamSelect
