/-! # Log records

What a run tells about itself while it goes on: the images that it has emitted, the files that it
has completed, and the configuration that it has read.
-/

namespace DrawingCode

/-- How much a log record matters. -/
inductive LogLevel where
  | debug
  | info
deriving DecidableEq

/-- The part of the program that a log record comes from. -/
inductive LogSource where
  | assembly
  | configuration
deriving DecidableEq

/-- An event that is worth a record. -/
inductive LogEvent where
  /-- The code of an image is complete. -/
  | imageEmitted (name : String) (steps lines ids : Nat)
  /-- A file is complete. -/
  | fileGenerated (generator : String) (images : Nat)
  /-- A configuration file is about to be read. -/
  | loading (path : String)
  /-- A configuration file has been read and holds a configuration. -/
  | loaded
deriving DecidableEq

namespace LogEvent

/-- How much an event matters. -/
def level : LogEvent → LogLevel
  | imageEmitted .. => .debug
  | _ => .info

def source : LogEvent → LogSource
  | imageEmitted .. | fileGenerated .. => .assembly
  | loading _ | loaded => .configuration

def message : LogEvent → String
  | imageEmitted name steps lines ids =>
    "Emitted " ++ name ++ ": " ++ toString steps ++ " steps, " ++ toString lines ++ " lines, " ++
      toString ids ++ " resource ids"
  | fileGenerated generator images =>
    generator ++ " generated " ++ toString images ++ " image(s)"
  | loading path => "Loading configuration from " ++ path
  | loaded => "Configuration loaded successfully"

end LogEvent

end DrawingCode
