import Rewind.Log.Logger

/-!
# Configuration

What all cursors over one buffer share: the character that ends a line, and the logger, if any.
Which elements a character ends a line with depends on their type, `LineElement`: among
characters it is that character alone, and numbers and strings end no line.
-/

namespace Rewind

/-- The settings of a buffer. -/
structure Config where
  /-- The character that ends a line. -/
  lineFeed : Char := '\n'
  /-- Where events are reported; `none` reports nothing. -/
  logger : Option Logger := none
  deriving DecidableEq

namespace Config

/-- Lines end in a line feed and nothing is logged. -/
def quiet : Config := {}

/-- Lines end in a line feed and the environment chooses the logger. -/
def ofEnvironment (env : Environment) : Config :=
  { logger := env.setting.logger }

/-- The same settings with another character to end a line. -/
def withLineFeed (config : Config) (c : Char) : Config :=
  { config with lineFeed := c }

/-- The same settings with another logger, or none. -/
def withLogger (config : Config) (logger : Option Logger) : Config :=
  { config with logger }

end Config

/-- A type of elements some of which may end a line. -/
class LineElement (α : Type) where
  /-- Whether an element is the line feed given. -/
  feeds (lineFeed : Char) : α → Bool

instance : LineElement Char := ⟨fun lineFeed c => c = lineFeed⟩

instance : LineElement Int := ⟨fun _ _ => false⟩

instance : LineElement String := ⟨fun _ _ => false⟩

/-- Whether an element ends a line under these settings. -/
def Config.feeds {α : Type} [LineElement α] (config : Config) : α → Bool :=
  LineElement.feeds config.lineFeed

end Rewind
