import Rewind.Action
import Rewind.Config
import Rewind.Log.Event
import Rewind.Source

/-!
# Buffers

A buffer stands between a single-pass source and the cursors over it. It keeps every element the
source ever produced, so a place once seen can be seen again, and it pulls only when someone asks
for an element it has not got. Elements are only ever added at the end.

There is **one loop**, `fill`: it hands the script to `Source.draw` and takes in what comes. Every
other way to grow a buffer is `fill` with a limit: `ensure` asks for the elements up to a place,
`drain` for all there are. A failure of the source is raised at once; the buffer keeps what came
before it, and the source goes on behind it at the next pull. Exhaustion closes the buffer for
good: the source is dropped and never pulled again, whatever it would still have answered.

Besides, a buffer counts its pulls and keeps a log of what happened to it and its cursors, as far
as its logger listens.
-/

namespace Rewind

/-- The elements pulled from a source so far, with the source if it has not run out. -/
structure Buffer (α : Type) where
  /-- What tells this buffer from every other one, however equal their contents. -/
  key : Nat
  items : Array α := #[]
  /-- The source; `none` once it has reported exhaustion. -/
  source : Option (Source α)
  config : Config
  /-- How often the source has been pulled. -/
  pulls : Nat := 0
  /-- What has been logged, oldest first. -/
  log : Array Event := #[]
  deriving DecidableEq

/-- An action on a buffer that may pull from its source, and so may fail. -/
abbrev Peeking (α β : Type) := Action (Buffer α) β

namespace Buffer

variable {α : Type}

/-- Whether the source has reported exhaustion. -/
def exhausted (b : Buffer α) : Bool :=
  b.source.isNone

/-- Whether the logger of this buffer listens to an event. -/
def listens (b : Buffer α) (event : Event) : Bool :=
  b.config.logger.any (·.enabled event.level)

/-- Log an event, if the logger listens to it. -/
def record (b : Buffer α) (event : Event) : Buffer α :=
  if b.listens event then { b with log := b.log.push event } else b

/-- Drop the source for good. -/
def close (b : Buffer α) : Buffer α :=
  { b with source := none }.record (.exhausted b.items.size)

/-- Take in what a run of pulls brought. -/
def absorb (b : Buffer α) (haul : Haul α) : Buffer α :=
  { b with
    items := b.items ++ haul.elements.toArray
    source := some haul.rest
    pulls := b.pulls + haul.pulls }

/-- Pull until `limit` more elements have come, or without a limit, or until the source fails or
runs out. -/
def fill (limit : Option Nat) : Peeking α Unit := fun b =>
  match b.source with
  | none => .ok () b
  | some script =>
    let haul := script.draw limit
    match haul.stop with
    | .satisfied => .ok () (b.absorb haul)
    | .exhausted => .ok () (b.absorb haul).close
    | .failed message => .error (.source message) (b.absorb haul)

/-- Pull as far as the place `target` if it is not reached yet; whether it holds an element. -/
def ensure (target : Nat) : Peeking α Bool := do
  fill (some (target + 1 - (← get).items.size))
  return target < (← get).items.size

/-- Pull everything that is left; how many elements that brought. -/
def drain : Peeking α Nat := do
  let before := (← get).items.size
  fill none
  return (← get).items.size - before

/-- The element at a place, pulled if need be; `none` when the source runs out before it. -/
def fetch (target : Nat) : Peeking α (Option α) := do
  let _ ← ensure target
  return (← get).items[target]?

/-- Pull everything that is left and hand out all elements there ever were. The log tells when
this pulled elements that nobody had asked for. -/
def text : Peeking α (List α) := do
  let pulled ← drain
  if 0 < pulled then
    modify (·.record (.materialised pulled))
  return (← get).items.toList

/-! ### Whether a place holds an element now -/

/-- Whether the place `i` is in the buffer already. -/
def holds (b : Buffer α) (i : Int) : Bool :=
  0 ≤ i && i < b.items.size

/-- Whether an element ends a line under the settings of this buffer. -/
def feeds [LineElement α] (b : Buffer α) : α → Bool :=
  b.config.feeds

/-! ### New buffers -/

/-- A buffer that has not pulled yet. -/
def ofSource (key : Nat) (source : Source α) (config : Config) : Buffer α :=
  { key, source := some source, config }

/-- A buffer over a sequence that cannot fail, with the first answer of the sequence taken in by
hand: an element becomes the first one, and none closes the buffer at once. -/
def seeded (key : Nat) (xs : List (Option α)) (config : Config) : Buffer α :=
  let b := { ofSource key (Source.ofElements xs.tail) config with pulls := 1 }
  match xs.head?.join with
  | some x => { b with items := #[x] }
  | none => b.close

/-! ### What a log looks like -/

/-- The lines written for the events from the `start`-th on. -/
def transcript (b : Buffer α) (start : Nat) : String :=
  match b.config.logger with
  | none => ""
  | some logger =>
    String.join ((b.log.toList.drop start).map fun event => event.line logger ++ "\n")

/-! ### Logging changes the log alone -/

variable (b : Buffer α) (event : Event)

@[simp] theorem key_record : (b.record event).key = b.key := by
  unfold record; split <;> rfl

@[simp] theorem items_record : (b.record event).items = b.items := by
  unfold record; split <;> rfl

@[simp] theorem source_record : (b.record event).source = b.source := by
  unfold record; split <;> rfl

@[simp] theorem config_record : (b.record event).config = b.config := by
  unfold record; split <;> rfl

@[simp] theorem pulls_record : (b.record event).pulls = b.pulls := by
  unfold record; split <;> rfl

@[simp] theorem items_close : b.close.items = b.items := by
  simp [close]

@[simp] theorem source_close : b.close.source = none := by
  simp [close]

@[simp] theorem config_close : b.close.config = b.config := by
  simp [close]

@[simp] theorem pulls_close : b.close.pulls = b.pulls := by
  simp [close]

end Buffer

end Rewind
