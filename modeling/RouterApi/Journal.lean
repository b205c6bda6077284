import RouterApi.Error

/-!
# Journals

What a connection leaves behind for an observer: the entries of its log, and the calls of callbacks
in the order in which they were started.
-/

namespace RouterApi

/-- How important an entry of the log is. -/
inductive LogLevel
  | debug
  | info
  | warning
  | error
  deriving DecidableEq, Repr

/-- How a level is shown. -/
def LogLevel.name : LogLevel → Text
  | debug => literal "DEBUG"
  | info => literal "INFO"
  | warning => literal "WARNING"
  | error => literal "ERROR"

/-- The part of the program that an entry of the log comes from. -/
inductive LogSource
  | client
  | login
  | request
  deriving DecidableEq, Repr

/-- How a source is shown. -/
def LogSource.name : LogSource → Text
  | client => literal "tikapi.client"
  | login => literal "tikapi.login"
  | request => literal "tikapi.request"

/-- An entry of the log. -/
structure LogEntry where
  level : LogLevel
  source : LogSource
  message : Text
  deriving DecidableEq, Repr

/-- A call of a callback: with a data sentence, or on completion with the final error. The receipt
of a cancellation that a callback asked for is noted after its call. -/
inductive Call
  | delivered (tag : Text) (sentence : Sentence)
  | completed (tag : Text) (error : Option Error)
  | cancelled (receipt : Option Text)
  deriving DecidableEq

/-- The log and the calls of a connection, oldest first. -/
structure Journal where
  log : List LogEntry := []
  calls : List Call := []
  deriving DecidableEq

end RouterApi
