import RegistryBench.Text.Cut
import RegistryBench.Text.Quoted
import RegistryBench.Text.Utf8

/-!
# Logging

What the bench reports while it works: events with a level, the module that reports, a message
and named values. A capture collects the lines of events and raw octets, and shows them as text.
-/

namespace RegistryBench

namespace Log

/-- How grave an event is. -/
inductive Level where
  /-- Every detail. -/
  | trace
  /-- A step of ordinary work. -/
  | debug
  /-- Something that should not happen. -/
  | warn
deriving DecidableEq

/-- The name of a level, to five columns. -/
def Level.column : Level → String
  | trace => "TRACE"
  | debug => "DEBUG"
  | warn => " WARN"

/-- Something that was reported. -/
structure Event where
  /-- How grave it is. -/
  level : Level
  /-- The module that reported it. -/
  reporter : String
  /-- What happened. -/
  message : String
  /-- Named values, already rendered. -/
  values : List (String × String)
deriving DecidableEq

namespace Event

/-- An event of ordinary work. -/
def debug (reporter message : String) (values : List (String × String)) : Event :=
  ⟨.debug, reporter, message, values⟩

/-- The line of an event that happened at some time. -/
def line (time : String) (e : Event) : String :=
  time ++ " " ++ e.level.column ++ " " ++ e.reporter ++ ": " ++ e.message ++
    String.join (e.values.map fun (name, value) => " " ++ name ++ "=" ++ value)

end Event

/-- A collection of log output, as octets. -/
structure Capture where
  /-- What was written so far. -/
  buffer : Bytes

namespace Capture

/-- A capture that has seen nothing. -/
def init : Capture := ⟨[]⟩

/-- Write octets. -/
def write (capture : Capture) (octets : Bytes) : Capture :=
  ⟨capture.buffer ++ octets⟩

/-- Write the lines of some events. -/
def record (capture : Capture) (time : String) (events : List Event) : Capture :=
  events.foldl (fun c e => c.write (Text.utf8 (e.line time ++ "\n"))) capture

/-- Forget what was written. -/
def clear (_ : Capture) : Capture := init

/-- What was written, as text. -/
def contents (capture : Capture) : String :=
  Text.lossy capture.buffer

/-- A line without the carriage return at its end. -/
def withoutReturn (line : List Char) : List Char :=
  if line.getLast? = some '\r' then line.dropLast else line

/-- The lines of a text: they end at line feeds, before which one carriage return is dropped, and
the last one may have no end unless it is empty. -/
def linesOf (text : List Char) : List (List Char) :=
  let pieces := Text.splitList '\n' text
  let ended := pieces.dropLast.map withoutReturn
  match pieces.getLast? with
  | none => ended
  | some last => if last = [] then ended else ended ++ [last]

/-- The lines that were written. -/
def lines (capture : Capture) : List String :=
  (linesOf capture.contents.toList).map String.ofList

/-- Whether what was written contains a text. -/
def contains (capture : Capture) (needle : String) : Bool :=
  Text.contains capture.contents needle

end Capture

end Log

end RegistryBench
