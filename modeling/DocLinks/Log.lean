/-!
# Log records

What the library reports while it works: a level, the logger that speaks, a message, and the part
of the project that it is about.
-/

namespace DocLinks

/-- How important a record is. -/
inductive LogLevel where
  | notSet
  | debug
  | info
  | warning
  | error
  | critical
  deriving DecidableEq, Repr, Inhabited

namespace LogLevel

/-- The number of a level; records below the number set for a logger are dropped. -/
def rank : LogLevel → Nat
  | notSet => 0
  | debug => 10
  | info => 20
  | warning => 30
  | error => 40
  | critical => 50

/-- The word that a record of the level carries. -/
def name : LogLevel → String
  | notSet => "NOTSET"
  | debug => "DEBUG"
  | info => "INFO"
  | warning => "WARNING"
  | error => "ERROR"
  | critical => "CRITICAL"

/-- The level that an upper-case word names; two levels have a second name. -/
def ofName? : String → Option LogLevel
  | "NOTSET" => some notSet
  | "DEBUG" => some debug
  | "INFO" => some info
  | "WARNING" | "WARN" => some warning
  | "ERROR" => some error
  | "CRITICAL" | "FATAL" => some critical
  | _ => none

end LogLevel

/-- What a record is about; whatever is not known is left out. -/
structure LogContext where
  component : Option String := none
  filePath : Option String := none
  lineNumber : Option Int := none
  errorCode : Option String := none
  operation : Option String := none
  deriving DecidableEq, Repr, Inhabited

/-- The context with its gaps filled from another one. -/
def LogContext.orElse (c other : LogContext) : LogContext where
  component := c.component <|> other.component
  filePath := c.filePath <|> other.filePath
  lineNumber := c.lineNumber <|> other.lineNumber
  errorCode := c.errorCode <|> other.errorCode
  operation := c.operation <|> other.operation

/-- A record. -/
structure LogRecord where
  level : LogLevel
  logger : String
  message : String
  context : LogContext := {}
  deriving DecidableEq, Repr, Inhabited

/-- The name of the logger that all others hang below. -/
def rootLogger : String := "linkmender"

/-- The logger of one part of the library. -/
def loggerOf (part : String) : String := rootLogger ++ "." ++ part

end DocLinks
