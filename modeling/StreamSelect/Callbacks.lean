import StreamSelect.Handler

/-! Handlers put together from callbacks that cannot fail. -/
namespace StreamSelect

structure Callbacks (D : Type) where
  start : Option (StartElement → D → D) := none
  finish : Option (EndElement → D → D) := none
  text : Option (StartElement → Characters → D → D) := none

namespace Callbacks

variable {B D : Type}

/-- Sets what happens when an element opens. The callback set last counts. -/
def onStart (c : Callbacks D) (f : StartElement → D → D) : Callbacks D := { c with start := some f }

def onEnd (c : Callbacks D) (f : EndElement → D → D) : Callbacks D := { c with finish := some f }

def onText (c : Callbacks D) (f : StartElement → Characters → D → D) : Callbacks D :=
  { c with text := some f }

/-- A callback that is not set leaves the data as they are. -/
def handler (c : Callbacks D) : ElementHandler B D where
  onStart e d := { data := c.start.elim d fun f => f e d }
  onEnd e d := { data := c.finish.elim d fun f => f e d }
  onText e t d := { data := c.text.elim d fun f => f e t d }

def describe (c : Callbacks D) : String :=
  "FnHandler \x7b start: " ++ toString c.start.isSome ++ ", end: " ++ toString c.finish.isSome ++
    ", characters: " ++ toString c.text.isSome ++ " \x7d"

end Callbacks
end StreamSelect
