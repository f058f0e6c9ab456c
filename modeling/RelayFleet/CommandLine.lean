/-
The command line. Flags say what the control plane works with; a flag is followed by its value, or
has it after an equals sign. The objects to be rendered are read one a line.
-/
import RelayFleet.Render.Wire
import RelayFleet.Store.Basic
import RelayFleet.Json.Text

namespace RelayFleet

/-- What is wrong with a command line or its input. -/
inductive CommandLineFlaw where
  | unknownFlag (flag : String)
  | valueMissing (flag : String)
  | valueInvalid (flag value : String)
  /-- A line of the input, counted from one, is no object. -/
  | unreadableLine (number : Nat)
  | refused (fault : Fault)
deriving DecidableEq

namespace CommandLineFlaw

/-- The text of a flaw. -/
def text : CommandLineFlaw → String
  | unknownFlag flag => "unknown flag " ++ flag
  | valueMissing flag => "no value for " ++ flag
  | valueInvalid flag value => "invalid value for " ++ flag ++ ": " ++ value
  | unreadableLine number => "line " ++ toString number ++ " is no object"
  | refused fault => fault.text

end CommandLineFlaw

namespace CommandLine

/-- Reads a truth value. -/
def flag? : String → Option Bool
  | "true" => some true
  | "false" => some false
  | _ => none

/-- The settings with the value of a flag; nothing for a value that does not read, and nothing at
all for an unknown flag. -/
def set? (s : Settings) (flag value : String) : Option (Option Settings) :=
  match flag with
  | "--controller-name" => some (some { s with controllerName := value })
  | "--endpoint-discovery" =>
    some ((flag? value).map fun b => { s with endpointDiscovery := b })
  | "--relay-to-cluster-ip" =>
    some ((flag? value).map fun b => { s with relayToClusterIp := b })
  | "--default-dataplane" => some (some { s with defaultDataplane := value })
  | "--status-retry-attempts" =>
    some (value.toNat?.map fun n => { s with statusRetryAttempts := n })
  | "--subscriber-buffer" => some (value.toNat?.map fun n => { s with subscriberBuffer := n })
  | _ => none

/-- Takes in one flag with its value. -/
def set (s : Settings) (flag value : String) : Except CommandLineFlaw Settings :=
  match set? s flag value with
  | none => .error (.unknownFlag flag)
  | some none => .error (.valueInvalid flag value)
  | some (some s) => .ok s

/-- The settings that flags make of others. -/
def settings (s : Settings) : List String → Except CommandLineFlaw Settings
  | [] => .ok s
  | arg :: rest =>
    match arg.splitOn "=" with
    | flag :: first :: more => do settings (← set s flag ("=".intercalate (first :: more))) rest
    | _ =>
      match rest with
      | [] => .error (.valueMissing arg)
      | value :: rest => do settings (← set s arg value) rest

/-- Stores the objects of numbered lines; blank lines hold none. -/
def store (s : Store) : List (String × Nat) → Except CommandLineFlaw Store
  | [] => .ok s
  | (line, number) :: rest =>
    if Blank.onlyBlanks line then store s rest
    else
      match (Json.parse? line).bind Object.ofKinded? with
      | none => .error (.unreadableLine number)
      | some o =>
        match s.apply (.upsert o) with
        | (.ok _, s) => store s rest
        | (.error f, _) => .error (.refused f)

/-- The sweep of the objects on lines, under the settings of flags. -/
def sweep (args lines : List String) : Except CommandLineFlaw Sweep := do
  let s ← settings {} args
  match s.validate with
  | .error f => .error (.refused f)
  | .ok () => return Sweep.ofSnapshot s (← store .empty (lines.zipIdx 1)).snapshot

end CommandLine

end RelayFleet
