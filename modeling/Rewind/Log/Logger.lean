import Rewind.Log.Level

/-!
# Loggers

A logger writes the lines at or above its minimum level, each behind the mark of its level and,
if asked for, in the colour of its level.

**From the environment.** One variable names the minimum level, another one, by being there at
all, takes the colour away. Without the first variable, and also when its value is not valid
text, there is no logger; so it is with the value `off`. A value that names no level gives no
logger either, and one warning line.
-/

namespace Rewind

/-- A sink for log lines of some minimum level. -/
structure Logger where
  useColour : Bool
  minimum : Level
  deriving DecidableEq

namespace Logger

/-- Whether lines of this level are written. -/
def enabled (logger : Logger) (level : Level) : Bool :=
  logger.minimum ≤ level

/-- One log line, without its end. -/
def render (logger : Logger) (level : Level) (message : String) : String :=
  if logger.useColour then level.colour ++ level.mark ++ message ++ "\x1b[0m"
  else level.mark ++ message

/-- What logging a message writes: its line and the end of the line, or nothing below the minimum
level. -/
def write (logger : Logger) (level : Level) (message : String) : String :=
  if logger.enabled level then logger.render level message ++ "\n" else ""

/-- Log a message at the level `Level.debug`. -/
def debug (logger : Logger) (message : String) : String :=
  logger.write .debug message

/-- Log a message at the level `Level.verbose`. -/
def verbose (logger : Logger) (message : String) : String :=
  logger.write .verbose message

/-- Log a message at the level `Level.warn`. -/
def warn (logger : Logger) (message : String) : String :=
  logger.write .warn message

end Logger

/-- The two variables that configure the default logger, as bytes; `none` when unset. -/
structure Environment where
  /-- The variable with the minimum level. -/
  level : Option ByteArray
  /-- The variable whose presence takes the colour away. -/
  noColour : Option ByteArray

/-- What an environment asks for: a logger or none, and the text written while finding out. -/
structure Environment.Setting where
  logger : Option Logger
  warning : String

/-- Read the environment. -/
def Environment.setting (env : Environment) : Environment.Setting :=
  match env.level.bind String.fromUTF8? with
  | none => ⟨none, ""⟩
  | some text =>
    if Level.normalise text = "off" then ⟨none, ""⟩
    else match Level.parse text with
      | .ok minimum => ⟨some ⟨env.noColour.isNone, minimum⟩, ""⟩
      | .error unknown =>
        ⟨none, Level.warn.mark ++ unknown.message ++ ", logging disabled\n"⟩

end Rewind
