import InetAddress.Report

/-!
# The command line
-/

open InetAddress

/-- Prints the report on the arguments. -/
def main (args : List String) : IO UInt32 := do
  let outcome := Report.run args "ipv6"
  (← IO.getStdout).putStr outcome.stdout
  (← IO.getStderr).putStr outcome.stderr
  return UInt32.ofNat outcome.code
