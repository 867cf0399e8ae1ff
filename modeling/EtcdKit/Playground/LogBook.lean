import EtcdKit.Calendar
import EtcdKit.Text.Field
/-!
# LogBook — everything that happened in a session, line by line

Lines are only ever appended, and each carries its place in the log.
-/
namespace EtcdKit.Playground

inductive LogLevel where
  | info
  | warn
  | error
  deriving DecidableEq, Repr, Inhabited

namespace LogLevel

def all : List LogLevel := [.info, .warn, .error]

def text : LogLevel → String
  | .info => "INFO"
  | .warn => "WARN"
  | .error => "ERROR"

def ofText? (word : String) : Option LogLevel := all.find? (fun level => level.text == word)

end LogLevel

/-- What the clock shows when the line at a place of the log is written. -/
abbrev Clock := Nat → Int

structure LogLine where
  /-- The place of the line, counted from zero. -/
  index : Nat
  level : LogLevel
  /-- When the line was appended, in seconds. -/
  moment : Int
  message : String
  deriving DecidableEq, Repr

namespace LogLine

def textWithStamp (line : LogLine) (stamp : String) : String :=
  "[" ++ Text.padLeft 4 (toString line.index) ++ "] " ++ stamp ++ " " ++
    Text.padRight 5 line.level.text ++ " " ++ line.message

def text (line : LogLine) : String := line.textWithStamp (Calendar.ofSeconds line.moment).text

end LogLine

structure LogBook where
  lines : List LogLine := []
  deriving DecidableEq, Repr

namespace LogBook

def size (log : LogBook) : Nat := log.lines.length

def append (log : LogBook) (moment : Int) (level : LogLevel) (message : String) : LogBook :=
  ⟨log.lines ++ [⟨log.size, level, moment, message⟩]⟩

/-- The log with one more line, for which the time is read anew. -/
def write (log : LogBook) (clock : Clock) (level : LogLevel) (message : String) : LogBook :=
  log.append (clock log.size) level message

def writeAll (log : LogBook) (clock : Clock) (level : LogLevel) (messages : List String) :
    LogBook :=
  messages.foldl (fun log message => log.write clock level message) log

def since (log : LogBook) (index : Nat) : List LogLine := log.lines.drop index

theorem size_append (log : LogBook) (moment : Int) (level : LogLevel) (message : String) :
    (log.append moment level message).size = log.size + 1 := by
  simp [append, size]

theorem size_write (log : LogBook) (clock : Clock) (level : LogLevel) (message : String) :
    (log.write clock level message).size = log.size + 1 := log.size_append _ level message

theorem since_size (log : LogBook) : log.since log.size = [] := by simp [since, size]

end LogBook
end EtcdKit.Playground
