import WordPairs.Fault
import WordPairs.Web.Status

/-!
# Errors

An error is an expected failure of the work: of a file, of a request, of a word list. Each has one
cause and one message. A `Failure` is an error or a fault, and is what a computation that can end
in either returns.
-/

namespace WordPairs

/-- Failures of files and writers. -/
inductive IoError where
  /-- A path, or a directory on it, does not exist. -/
  | notFound
  /-- A path leads through a file, or takes a file for a directory. -/
  | notADirectory
  /-- A directory stands where a file is wanted. -/
  | isADirectory
  /-- A path that is to be opened holds a NUL character. -/
  | nulInName
  /-- A path that is to be renamed to holds a NUL character. -/
  | invalidArgument
  /-- A path or one of its names is too long. -/
  | nameTooLong
  /-- The directory itself, or the one above it, cannot be replaced. -/
  | busy
  /-- A device takes no more bytes. -/
  | storageFull
  /-- A writer took none of the bytes it was given. -/
  | writeZero
  /-- A device could not be flushed. -/
  | brokenPipe
  /-- A write was interrupted and may be tried again. -/
  | interrupted
  deriving DecidableEq

/-- The text that reports a failure of a file or writer. -/
def IoError.message : IoError → String
  | notFound => "No such file or directory (os error 2)"
  | notADirectory => "Not a directory (os error 20)"
  | isADirectory => "Is a directory (os error 21)"
  | nulInName => "file name contained an unexpected NUL byte"
  | invalidArgument => "Invalid argument (os error 22)"
  | nameTooLong => "File name too long (os error 36)"
  | busy => "Device or resource busy (os error 16)"
  | storageFull => "disk full"
  | writeZero => "failed to write whole buffer"
  | brokenPipe => "flush failed"
  | interrupted => "operation interrupted"

/-- Failures to get any response to a request, or to get all of it. -/
inductive TransportError where
  /-- The address is no URL. -/
  | unparsable
  /-- The address names a scheme that requests cannot be made with. -/
  | unsupportedScheme (url : String)
  /-- The URL cannot be the target of a request. -/
  | unsendable (url : String)
  /-- No response came. -/
  | unanswered (url : String)
  /-- The server sent the client on too often. -/
  | tooManyRedirects (url : String)
  /-- The body ended before its promised length. -/
  | truncatedBody
  deriving DecidableEq

/-- The text that reports a failed request. -/
def TransportError.message : TransportError → String
  | unparsable => "builder error"
  | unsupportedScheme url => "builder error for url (" ++ url ++ ")"
  | unsendable url => "builder error for url (" ++ url ++ ")"
  | unanswered url => "error sending request for url (" ++ url ++ ")"
  | tooManyRedirects url => "error following redirect for url (" ++ url ++ ")"
  | truncatedBody => "error decoding response body"

/-- The ways in which the work can fail. -/
inductive Error where
  /-- There is no word to draw from. -/
  | emptyWordList
  /-- No draw gave a word that can stand first; no draw was made if the number is zero. -/
  | noQualifyingWord (attempts : Nat)
  /-- A request for a word list failed. -/
  | transport (cause : TransportError)
  /-- A request for a word list was answered, but not with a word list. -/
  | httpStatus (url : String) (status : Nat)
  /-- A file or writer failed. -/
  | io (cause : IoError)
  deriving DecidableEq

/-- The text that reports an error. -/
def Error.message : Error → String
  | emptyWordList => "word list is empty"
  | noQualifyingWord attempts =>
    "no word shorter than 16 bytes found after " ++ toString attempts ++ " attempts"
  | transport cause => "failed to fetch word list: " ++ cause.message
  | httpStatus url status =>
    "word list request to " ++ url ++ " returned " ++ Web.statusText status
  | io cause => cause.message

/-- How a computation can end early. -/
inductive Failure where
  /-- By a broken precondition. -/
  | fault (cause : Fault)
  /-- By an error of the work. -/
  | error (cause : Error)
  deriving DecidableEq

/-- The text that reports a failure. -/
def Failure.message : Failure → String
  | fault cause => cause.message
  | error cause => cause.message

end WordPairs
