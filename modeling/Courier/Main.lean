import Courier.CommandLine.Send

/-!
# The command line program

Reads the variables that matter, runs `sms-send` with the arguments, and writes what the run says.
The exchange with the provider lies outside of this library: the program runs where the provider
cannot be reached, so that a message that passes all checks ends in a broken exchange.
-/

namespace Courier

/-- The variables that the program looks at. -/
def variableNames : List String :=
  ["TWILIO_API_BASE_URL", "TWILIO_API_VERSION", "SMS_HTTP_TIMEOUT", "TWILIO_ACCOUNT_SID",
    "TWILIO_AUTH_TOKEN", "TWILIO_FROM_NUMBER", "LOG_LEVEL"]

/-- The environment of this process. -/
def processEnvironment : IO Environment := do
  let mut env := Environment.empty
  for name in variableNames do
    if let some value ← IO.getEnv name then
      env := env.set (Text.ofString name) (Text.ofString value)
  return env

/-- The state of a process that cannot reach the provider. As no reply comes, the time does not
matter. -/
def offline (env : Environment) : State :=
  { State.initial 0 env Log.Setup.initial with
    replies := [.failure .connect (Text.ofString "the provider cannot be reached")] }

end Courier

open Courier Installation in
/-- Run the program and end with its status. -/
def main (arguments : List String) : IO UInt32 := do
  let start := offline (← processEnvironment)
  match ((CommandLine.Send.run (arguments.map Text.ofString)).run.run start).1 with
  | .ok report =>
    IO.print report.output.toString
    IO.eprint report.errors.toString
    return report.status.toUInt32
  | .error fault =>
    IO.eprintln fault.message.toString
    return 1
