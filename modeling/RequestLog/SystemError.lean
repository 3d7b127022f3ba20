import RequestLog.Value

/-!
System errors: failures that carry an error number and a reason, and may name the files that they
are about. Some numbers have categories of their own.
-/
namespace RequestLog

/-- A system error; a file that is not named is null. -/
structure SystemError where
  number : Value
  reason : Value
  file : Value
  target : Value

namespace SystemError

/-- The category of the numbers that have none of their own. -/
def general : String := "OSError"

/-- The category of operations that would have to wait. -/
def blocking : String := "BlockingIOError"

/-- The numbers that have categories of their own. -/
def categories : List (Int × String) :=
  [(1, "PermissionError"), (2, "FileNotFoundError"), (3, "ProcessLookupError"),
    (4, "InterruptedError"), (10, "ChildProcessError"), (11, blocking), (13, "PermissionError"),
    (17, "FileExistsError"), (20, "NotADirectoryError"), (21, "IsADirectoryError"),
    (32, "BrokenPipeError"), (103, "ConnectionAbortedError"), (104, "ConnectionResetError"),
    (108, "BrokenPipeError"), (110, "TimeoutError"), (111, "ConnectionRefusedError"),
    (114, blocking), (115, blocking)]

def categoryOf (number : Value) : String :=
  match number.whole? with
  | some n => (categories.lookup n).getD general
  | none => general

/-- What a third argument names: a file, unless it is the count of characters that an operation
which would have to wait has written. -/
def fileOf (number third : Value) : Value :=
  if categoryOf number = blocking && third.whole?.isSome then .null else third

/-- The system error of two to five arguments, the fourth of which stands for nothing. -/
def ofArguments? : List Value → Option SystemError
  | [number, reason] => some ⟨number, reason, .null, .null⟩
  | [number, reason, third] => some ⟨number, reason, fileOf number third, .null⟩
  | [number, reason, third, _] => some ⟨number, reason, fileOf number third, .null⟩
  | [number, reason, third, _, target] => some ⟨number, reason, fileOf number third, target⟩
  | _ => none

/-- The arguments that a system error shows: the number and the reason alone if it names a file. -/
def shownArguments (e : SystemError) (arguments : List Value) : List Value :=
  match e.file with
  | .null => arguments
  | _ => [e.number, e.reason]

/-- The files that a system error names, as its message ends with them. -/
def files (e : SystemError) : Except Refusal String :=
  match e.file, e.target with
  | .null, _ => .ok ""
  | file, .null => file.literal.map (": " ++ ·)
  | file, target => do return ": " ++ (← file.literal) ++ " -> " ++ (← target.literal)

def message (e : SystemError) : Except Refusal String := do
  return "[Errno " ++ (← e.number.display) ++ "] " ++ (← e.reason.display) ++ (← e.files)

end SystemError

end RequestLog
