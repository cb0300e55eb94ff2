import ScrollTimeline.CommandLine

/-!
The program: reads the scene file of a command and prints what the command answers.
-/
set_option autoImplicit false

namespace ScrollTimeline

/-- The cause that the system reports when a file cannot be opened. -/
def OpenError.ofSystem : IO.Error → OpenError
  | .noFileOrDirectory .. => .noSuchFile
  | .inappropriateType .. => .notADirectory
  | .invalidArgument _ 36 _ => .nameTooLong
  | .permissionDenied _ code details | .resourceExhausted _ code details
  | .invalidArgument _ code details | .otherError code details =>
    .other (details ++ " (os error " ++ toString code ++ ")")
  | error => .other (toString error)

namespace CommandLine

def readScene (path : String) : IO (Except OpenError (Option String)) := do
  match ← (IO.FS.Handle.mk path .read).toBaseIO with
  | .error error => return .error (.ofSystem error)
  | .ok handle =>
    match ← handle.readToEnd.toBaseIO with
    | .error _ => return .ok none
    | .ok text => return .ok (some text)

def answer (args : List String) : IO Outcome := do
  match parse args with
  | .error stop => return stop.outcome
  | .ok command => return command.run (← readScene command.path)

end CommandLine

end ScrollTimeline

open ScrollTimeline.CommandLine in
def main (args : List String) : IO UInt32 := do
  let outcome ← answer args
  IO.print outcome.stdout
  if let some message := outcome.error then IO.eprintln message
  return outcome.status.toUInt32
