import PreMerge.Number.General

/-! Log records. A record bears the second it was written in, so none can be written while the clock shows
no number of seconds. -/

namespace PreMerge

/-- How serious a record is. -/
inductive Level
  | debug
  | warning
  | error
  deriving DecidableEq, Repr

/-- The parts of the program that write records. -/
inductive Channel
  | selector
  | engine
  | commands
  | orchestrator
  | scanCommand
  deriving DecidableEq, Repr

namespace Level

/-- The name a level is written under. -/
def label : Level → String
  | .debug => "DEBUG"
  | .warning => "WARNING"
  | .error => "ERROR"

/-- Whether records of a level appear although no details were asked for. -/
def isShown : Level → Bool
  | .debug => false
  | .warning | .error => true

end Level

/-- The name a channel is written under. -/
def Channel.label : Channel → String
  | .selector => "mergegate.scanner.selector"
  | .engine => "mergegate.scanner.engine"
  | .commands => "mergegate.pipeline.commands"
  | .orchestrator => "mergegate.pipeline.orchestrator"
  | .scanCommand => "mergegate.cli.scan"

/-- One record. -/
structure Record where
  level : Level
  channel : Channel
  text : String
  deriving DecidableEq, Repr

/-- The line a record is written as. -/
def Record.line (record : Record) : String :=
  record.level.label ++ " " ++ record.channel.label ++ ": " ++ record.text

/-- The records that appear at a verbosity. -/
def shownRecords (verbose : Bool) (log : List Record) : List Record :=
  log.filter fun record => verbose || record.level.isShown

/-- Why a record of a level cannot be written at a time, if records of that level are written at all. -/
def stampFault? (verbose : Bool) (level : Level) (now : Binary64) : Option Fault :=
  if verbose || level.isShown then
    match now.truncate with
    | .ok _ => none
    | .error fault => some fault
  else none

end PreMerge
