import CardPayments.CommandLine
import Std.Time.DateTime.Timestamp

/-! # The program

Reads the files that the arguments name and the calendar, and prints what the run leaves behind. -/
set_option autoImplicit false

namespace CardPayments.CommandLine

def currentDay : IO Date := do
  let now ← Std.Time.Timestamp.now
  return Date.ofDayNumber (now.toSecondsSinceUnixEpoch.val / 86400)

def readBytes (path : String) : IO (Option (List UInt8)) := do
  try
    let bytes ← IO.FS.readBinFile path
    return some bytes.toList
  catch _ => return none

def readFiles (args : List String) : IO Files := do
  match request args with
  | .replay invocation =>
      let input ← readBytes invocation.input
      let config ←
        match invocation.config with
        | some path => readBytes path
        | none => pure none
      return fun path => if path = invocation.input then input else config
  | _ => return fun _ => none

def execute (args : List String) : IO UInt32 := do
  let files ← readFiles args
  let execution := run files (← currentDay) args
  if execution.warned then IO.eprintln warningText
  for e in execution.readErrors do
    IO.eprintln ("Error reading command: " ++ e.message)
  for line in execution.log do
    IO.eprintln line
  IO.print execution.output
  return UInt32.ofNat execution.exitCode

end CardPayments.CommandLine

def main (args : List String) : IO UInt32 := CardPayments.CommandLine.execute args
