import BrokerClient.Cli
/-!
The executable: reads the arguments and the `FOLKMQ_*` variables, draws a fresh message id, runs
the command line and writes what it returns.
-/

namespace BrokerClient.Main

/-- The variables the settings are read from. -/
def settingNames : List String :=
  ["FOLKMQ_SERVER_URLS", "FOLKMQ_NAME", "FOLKMQ_NAMESPACE", "FOLKMQ_REQUEST_TIMEOUT_MS",
   "FOLKMQ_SUBSCRIBE_TIMEOUT_MS", "FOLKMQ_HEARTBEAT_MS", "FOLKMQ_AUTO_ACK"]

/-- A fresh message id: 32 lowercase hex digits. -/
def freshId : IO String := do
  IO.setRandSeed (← IO.monoNanosNow)
  let digits ← (List.range 32).mapM fun _ => IO.rand 0 15
  pure (String.ofList (digits.map Text.Utf8.hexDigit))

end BrokerClient.Main

open BrokerClient in
/-- Runs the command line on the process arguments and environment. -/
def main (args : List String) : IO UInt32 := do
  let env ← Main.settingNames.filterMapM fun k => do
    pure ((← IO.getEnv k).map (k, ·))
  let o := Cli.run args (fun k => (env.find? (·.1 == k)).map (·.2)) (← Main.freshId)
  IO.print o.stdout
  IO.eprint o.stderr
  pure (UInt32.ofNat o.code)
