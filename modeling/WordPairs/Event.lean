/-!
# Events

An event tells what happened during the work. Each has a level of severity, belongs to one part of
the library, and is shown as one line.
-/

namespace WordPairs

/-- Severities, the gravest first. -/
inductive Level where
  /-- The work failed. -/
  | error
  /-- The work will not succeed as it stands. -/
  | warn
  /-- A step is complete. -/
  | info
  /-- A step begins. -/
  | debug
  /-- Anything else. -/
  | trace
  deriving DecidableEq

namespace Level

/-- The place of a level in the order of severity, the gravest first. -/
def rank : Level → Nat
  | error => 1
  | warn => 2
  | info => 3
  | debug => 4
  | trace => 5

/-- The name of a level. -/
def name : Level → String
  | error => "ERROR"
  | warn => "WARN"
  | info => "INFO"
  | debug => "DEBUG"
  | trace => "TRACE"

end Level

/-- What is told about the work. -/
inductive Event where
  /-- A request for a word list is about to be made. -/
  | fetching (url : String)
  /-- A word list was received. -/
  | fetched (url : String) (words : Nat)
  /-- A word list was read from a file. -/
  | loaded (path : String) (words : Nat)
  /-- Records are about to be generated. -/
  | generating (records words attempts : Nat)
  /-- No word of the list can stand first in a record. -/
  | noShortWord (words : Nat)
  /-- The output file is complete and in its place. -/
  | wrote (output : String) (records bytes : Nat)
  deriving DecidableEq

namespace Event

/-- How grave an event is. -/
def level : Event → Level
  | fetching _ => .debug
  | fetched _ _ => .info
  | loaded _ _ => .info
  | generating _ _ _ => .debug
  | noShortWord _ => .warn
  | wrote _ _ _ => .info

/-- The name of the part that tells an event, as filters know it. -/
def target : Event → String
  | fetching _ | fetched _ _ | loaded _ _ => "wordrec::words"
  | generating _ _ _ | noShortWord _ => "wordrec::generator"
  | wrote _ _ _ => "wordrec::config"

/-- The names of what an event tells. -/
def fields : Event → List String
  | fetching _ => ["message", "url"]
  | fetched _ _ => ["message", "url", "words"]
  | loaded _ _ => ["message", "path", "words"]
  | generating _ _ _ => ["message", "records", "words", "max_attempts"]
  | noShortWord _ => ["message", "words"]
  | wrote _ _ _ => ["message", "output", "records", "bytes"]

/-- What happened, with the values that belong to it. -/
def text : Event → String
  | fetching url => "fetching word list url=" ++ url
  | fetched url words => "fetched word list url=" ++ url ++ " words=" ++ toString words
  | loaded path words => "loaded word list path=" ++ path ++ " words=" ++ toString words
  | generating records words attempts =>
    "generating records records=" ++ toString records ++ " words=" ++ toString words
      ++ " max_attempts=" ++ toString attempts
  | noShortWord words => "word list has no word shorter than 16 bytes words=" ++ toString words
  | wrote output records bytes =>
    "wrote records output=" ++ output ++ " records=" ++ toString records
      ++ " bytes=" ++ toString bytes

/-- An event as one line. -/
def line (event : Event) : String := event.level.name ++ " " ++ event.text

end Event

end WordPairs
