import Rewind.Text.Quoted
import Rewind.Unicode.WhiteSpace

/-!
# Log levels

Six levels, from the most talkative to the most severe. A level can be named in two ways, in
full or by three letters; reading a name disregards white space around it and the case of ASCII
letters.
-/

namespace Rewind

/-- How severe a log line is, mildest first. -/
inductive Level where
  | debug | verbose | info | warn | error | fatal
  deriving DecidableEq

namespace Level

/-- All levels, mildest first. -/
def all : List Level :=
  [debug, verbose, info, warn, error, fatal]

/-- The place of a level in the order of severity. -/
def rank : Level → Nat
  | debug => 0
  | verbose => 1
  | info => 2
  | warn => 3
  | error => 4
  | fatal => 5

instance : LE Level where
  le a b := a.rank ≤ b.rank

instance (a b : Level) : Decidable (a ≤ b) :=
  inferInstanceAs (Decidable (a.rank ≤ b.rank))

instance : Ord Level where
  compare a b := compare a.rank b.rank

/-- The name of a level. -/
def name : Level → String
  | debug => "Debug"
  | verbose => "Verbose"
  | info => "Info"
  | warn => "Warn"
  | error => "Error"
  | fatal => "Fatal"

/-- What a line of this level starts with. -/
def mark : Level → String
  | debug => "[DBG] "
  | verbose => "[VRB] "
  | info => "[INF] "
  | warn => "[WRN] "
  | error => "[ERR] "
  | fatal => "[FTL] "

/-- The terminal sequence that switches to the colour of this level. -/
def colour : Level → String
  | debug => "\x1b[38;5;6m"
  | verbose => "\x1b[38;5;8m"
  | info => "\x1b[39m"
  | warn => "\x1b[38;5;3m"
  | error => "\x1b[38;5;1m"
  | fatal => "\x1b[38;5;0;48;5;1m"

/-! ### Reading a level -/

/-- The text without the white space around it and with ASCII letters in lower case: the form in
which a level is looked up. -/
def normalise (s : String) : String :=
  let behind := s.toList.dropWhile Unicode.isWhiteSpace
  let within := (behind.reverse.dropWhile Unicode.isWhiteSpace).reverse
  String.ofList (within.map Char.toLower)

/-- A normalised text that names no level. -/
structure Unknown where
  name : String
  deriving DecidableEq

/-- The sentence that reports a text that names no level. -/
def Unknown.message (u : Unknown) : String :=
  "Unknown log level " ++ Text.quoteString u.name

/-- Read the name of a level. -/
def parse (s : String) : Except Unknown Level :=
  match normalise s with
  | "debug" | "dbg" => .ok debug
  | "verbose" | "vrb" => .ok verbose
  | "info" | "inf" => .ok info
  | "warn" | "wrn" => .ok warn
  | "error" | "err" => .ok error
  | "fatal" | "ftl" => .ok fatal
  | other => .error ⟨other⟩

end Level

end Rewind
