import StreamSelect.Markup.TextSource
import StreamSelect.Session

/-! Parsers: a model with the settings to run it on text or on any source of events. Every run starts
afresh. -/
namespace StreamSelect

structure Parser (B D : Type) where
  model : Model B
  behaviours : Behaviours B D
  filters : Filters
  settings : ParserSettings := {}

namespace Parser

variable {B D σ : Type}

def machine (p : Parser B D) : Machine B D := ⟨p.model, p.behaviours, p.filters, p.settings.run⟩

/-- The events of a text, read as the settings say. -/
def source (p : Parser B D) (text : String) : Markup.TextSource :=
  .ofText text p.settings.trimText

/-- Processes all events of a source. -/
def parse (p : Parser B D) (src : EventSource σ) (s : σ) (d : D) : Reply D :=
  p.machine.consume src s {} d

/-- Processes a whole text. -/
def parseText (p : Parser B D) (text : String) (d : D) : Reply D :=
  let reply := p.parse Markup.TextSource.events (p.source text) d
  { reply with notes := .reading text.utf8ByteSize p.settings.trimText :: reply.notes }

def start (source : σ) : Session σ := { source }

def startText (p : Parser B D) (text : String) : Session Markup.TextSource := start (p.source text)

def describe (p : Parser B D) : String :=
  "Parser \x7b model: " ++ p.model.describe ++ ", config: " ++ p.settings.describe ++ " \x7d"

end Parser
end StreamSelect
