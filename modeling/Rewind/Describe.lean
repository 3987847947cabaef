import Rewind.Cursor.Open
import Rewind.Text.Outline
import Rewind.Text.Quoted

/-!
# Descriptions for readers

An outline for each kind of value a caller may want to look at while something goes wrong. The
elements of a buffer are not shown, only how many there are, and neither is a decision, since it
has no text.
-/

namespace Rewind

open Text (Outline)

/-- Values that have an outline. -/
class Describe (α : Type) where
  outline : α → Outline

export Describe (outline)

/-- The description of a value, on one line or indented. -/
def describe {α : Type} [Describe α] (x : α) (pretty : Bool) : String :=
  (outline x).render pretty

open Text.Outline

instance : Describe Nat := ⟨fun n => atom (toString n)⟩

instance : Describe Int := ⟨fun i => atom (toString i)⟩

instance : Describe Bool := ⟨fun b => atom (if b then "true" else "false")⟩

instance : Describe Char := ⟨fun c => atom (Text.quoteChar c)⟩

instance : Describe String := ⟨fun s => atom (Text.quoteString s)⟩

instance {α : Type} [Describe α] : Describe (Option α) := ⟨fun x => optional (x.map outline)⟩

instance : Describe Level := ⟨fun level => atom level.name⟩

instance : Describe Logger where
  outline logger := record "Logger"
    [("use_ansi_color", outline logger.useColour), ("minimum_level", outline logger.minimum)] false

instance : Describe Config where
  outline config := record "Config"
    [("line_feed", outline config.lineFeed), ("logger", outline config.logger)] false

instance : Describe Location where
  outline l :=
    match l.position with
    | none => record "Location" [("index", outline l.index)] false
    | some p => record "TextLocation"
        [("index", outline l.index), ("line", outline p.line), ("column", outline p.column)] false

instance {α : Type} [Describe α] : Describe (Matcher α) where
  outline
    | .exact x => wrap "Exact" (outline x)
    | .oneOf set => wrap "OneOf" (list (set.map outline))
    | .satisfying _ => .group .paren "Satisfies" [] true

instance {α : Type} : Describe (Buffer α) where
  outline b := record "Buffer"
    [("len", outline b.items.size), ("exhausted", outline b.exhausted)] true

instance {α : Type} : Describe (View α) where
  outline v :=
    let inner := record "Cursor"
      [("buffer", outline v.buffer), ("index", outline v.cursor.index),
        ("reached_end", outline v.cursor.reachedEnd)] false
    match v.cursor.position with
    | none => inner
    | some p => record "TextCursor"
        [("inner", inner), ("line", outline p.line), ("column", outline p.column)] false

end Rewind
