import Std.Time.Format
import PageAudit.CommandLine.Run
import PageAudit.Moment
/-!
The program. It does not reach the network itself: a scan reads the page from standard input, as the
answer to every request.
-/
namespace PageAudit.Program

def settingNames : List String :=
  ["TIMEOUT", "USER_AGENT", "ACCEPT", "LOG_LEVEL", "LOG_JSON"].map (Settings.variablePrefix ++ ·)

def readEnvironment : IO Environment :=
  settingNames.foldlM (fun env name => do
    match ← IO.getEnv name with
    | some value => return env.set name value
    | none => return env) .empty

def momentAfter (nanoseconds : Nat) : Moment :=
  let seconds := nanoseconds / 1000000000
  let (year, month, day) := Moment.ofDayNumber (Moment.dayNumber 1970 1 1 + seconds / 86400)
  ⟨year, month, day, seconds % 86400 / 3600, seconds % 3600 / 60, seconds % 60,
    nanoseconds % 1000000000 / 1000⟩

def readMoment : IO Moment := do
  return momentAfter (← Std.Time.Timestamp.now).toNanosecondsSinceUnixEpoch.val.toNat

partial def readAll (input : IO.FS.Stream) (done : ByteArray) : IO ByteArray := do
  let more ← input.read 65536
  if more.isEmpty then return done
  readAll input (done ++ more)

def asksForScan (args : List String) : Bool :=
  match CommandLine.readStart (CommandLine.withScan args) with
  | .ok (.command .scan rest) =>
    match CommandLine.readAction .scan rest with
    | .ok (.scan _) => true
    | _ => false
  | _ => false

def pageTransport (bytes : ByteArray) : Transport :=
  .ofReplies ⟨0, .response ⟨200, .empty, bytes.toList⟩⟩ []

def crashText : CommandLine.Crash → String
  | .settings e => e.fields.foldl (fun text (name, p) => s!"{text} {name} ({p.name})")
    "Invalid settings:"
  | .level e => e.message
  | .broken fault => fault.text
  | .report (.markup e) => e.message
  | .report (.score _) => "The score has no bar."

def finish (f : CommandLine.Finish) : IO UInt32 := do
  for line in f.output do IO.println (String.ofList line)
  for line in f.mistake do IO.eprintln line
  match f.listening with
  | some l =>
    IO.eprintln s!"Cannot listen on {l.host}:{l.port}."
    return 1
  | none => return UInt32.ofNat f.exitCode

def run (args : List String) : IO UInt32 := do
  let bytes ← if asksForScan args then readAll (← IO.getStdin) .empty else pure .empty
  let setting : CommandLine.Setting :=
    ⟨pageTransport bytes, ← readEnvironment, (← readMoment).stamp⟩
  match CommandLine.run setting args with
  | .ok f => finish f
  | .error e =>
    IO.eprintln (crashText e)
    return 1

end PageAudit.Program

def main (args : List String) : IO UInt32 := PageAudit.Program.run args
