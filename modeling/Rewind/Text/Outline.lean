/-!
# Outlines of values

A description of a value for a reader is an outline: an atom of text, or a group of parts inside
brackets, which may end in a mark that more is there and not shown. An outline has two layouts.
**Inline**, everything stands on one line. **Indented**, each part of a group that has parts
stands on a line of its own, four columns further in, and ends in a comma; a group without parts
looks as it does inline.
-/

namespace Rewind.Text

/-- The brackets around a group, and the blanks that go with them on one line. -/
inductive Bracket where
  | brace
  | paren
  | square

namespace Bracket

/-- The opening bracket where a line ends after it. -/
def opening : Bracket → String
  | brace => " \x7b"
  | paren => "("
  | square => "["

/-- The closing bracket where a line starts with it. -/
def closing : Bracket → String
  | brace => "\x7d"
  | paren => ")"
  | square => "]"

/-- What braces keep between themselves and their parts on one line. -/
def gap : Bracket → String
  | brace => " "
  | paren | square => ""

end Bracket

/-- A value laid out as nested groups. Each part of a group has a label in front, which may be
empty; `more` says that the group holds parts that are not shown. -/
inductive Outline where
  | atom (text : String)
  | group (bracket : Bracket) (name : String) (parts : List (String × Outline)) (more : Bool)

namespace Outline

mutual

/-- The outline on one line. -/
def inline : Outline → String
  | atom text => text
  | group bracket name parts more =>
    let shown := inlineParts parts ++ if more then [".."] else []
    name ++ bracket.opening ++ bracket.gap ++ ", ".intercalate shown
      ++ bracket.gap ++ bracket.closing

/-- Each part on one line, its label in front. -/
def inlineParts : List (String × Outline) → List String
  | [] => []
  | (label, value) :: rest => (label ++ value.inline) :: inlineParts rest

end

/-- The start of a line at the given depth. -/
def newLine (depth : Nat) : String :=
  "\n" ++ String.ofList (List.replicate (4 * depth) ' ')

mutual

/-- The outline over several lines, for a group whose own line is `depth` steps in. -/
def indented (depth : Nat) : Outline → String
  | atom text => text
  | group bracket name parts more =>
    if parts.isEmpty then (group bracket name parts more).inline
    else name ++ bracket.opening ++ indentedParts (depth + 1) parts
      ++ (if more then newLine (depth + 1) ++ ".." else "")
      ++ newLine depth ++ bracket.closing

/-- Each part on a line of its own, its label in front and a comma behind. -/
def indentedParts (depth : Nat) : List (String × Outline) → String
  | [] => ""
  | (label, value) :: rest =>
    newLine depth ++ label ++ value.indented depth ++ "," ++ indentedParts depth rest

end

/-- The outline in the layout asked for. -/
def render (value : Outline) (pretty : Bool) : String :=
  if pretty then value.indented 0 else value.inline

/-! ### The groups in use -/

/-- Named fields in braces. -/
def record (name : String) (fields : List (String × Outline)) (more : Bool) : Outline :=
  group .brace name (fields.map fun (field, value) => (field ++ ": ", value)) more

/-- A name applied to one value. -/
def wrap (name : String) (value : Outline) : Outline :=
  group .paren name [("", value)] false

/-- A list of values. -/
def list (values : List Outline) : Outline :=
  group .square "" (values.map fun value => ("", value)) false

/-- A value that may be missing. -/
def optional : Option Outline → Outline
  | some value => wrap "Some" value
  | none => atom "None"

end Outline

end Rewind.Text
