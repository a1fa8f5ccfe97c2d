import ResolverWatch.Log.Notice
import ResolverWatch.Log.Timestamp
import ResolverWatch.Text.Points

/-!
# Log records

A record is one line of the log (or several, if its message has line ends): its time, a tag for
its level in brackets, its logger and its message. What is attached to it, such as the trace of a fault,
stands below on lines of its own. A record has no text if its message cannot be put together or
its time has none.
-/

namespace ResolverWatch.Log

open Text

/-- An event as the log sees it. Any number may be its level, and there is no message if its parts do not fit. -/
structure Record where
  level : Int
  logger : Points
  message : Option Points
  time : Float
  attached : List Points

/-- Why a record has no text. -/
inductive RecordFault
  | message
  | time (f : TimeFault)
  deriving DecidableEq, Repr

/-- The tag of a level; one that has no name shows its number. -/
def levelTag (level : Int) : String :=
  if level = Level.debug.number then "[debug]"
  else if level = Level.info.number then "[info]"
  else if level = Level.warning.number then "[warn]"
  else if level = Level.error.number then "[error]"
  else if level = Level.critical.number then "[crit]"
  else s!"[lvl{level}]"

/-- The record of a notice, with the trace of the fault that it reports, if there is one. -/
def Notice.record (n : Notice) (time : Float) (trace : Points) : Record :=
  ⟨n.level.number, n.logger, some n.message, time, [trace]⟩

/-- A text with another one below it, which may be empty. -/
def attach (text below : Points) : Points :=
  if below.isEmpty then text
  else if text.getLast? = some (.char '\n') then text ++ below
  else text ++ .char '\n' :: below

/-- The message of a record with what is attached to it. -/
def Record.bare (r : Record) : Option Points :=
  r.message.map fun message => r.attached.foldl attach message

/-- The text of a record, with or without the name of its logger. -/
def Record.text (r : Record) (withLogger : Bool) : Except RecordFault Points :=
  match r.message, timeText r.time with
  | none, _ => .error .message
  | some _, .error f => .error (.time f)
  | some message, .ok time =>
    let logger := if withLogger then r.logger ++ (": " : Points) else []
    .ok (r.attached.foldl attach (pointsOf time ++ (s!" {levelTag r.level} " : Points) ++ logger ++ message))

end ResolverWatch.Log
