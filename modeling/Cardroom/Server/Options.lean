import Cardroom.Server.Config
import Cardroom.Text.Decimal

/-!
# Command line options

The settings of a server can be given as options, each with its value after it.
-/

namespace Cardroom

inductive OptionError where
  | unknown (option : String)
  | missingValue (option : String)
  | badValue (option value : String)
deriving DecidableEq, Repr

namespace OptionError

def message : OptionError → String
  | unknown option => "unknown option " ++ option
  | missingValue option => "option " ++ option ++ " needs a value"
  | badValue option value => "bad value " ++ value ++ " for option " ++ option

end OptionError

namespace Config

/-- The settings with one of them changed, if the option is known and the value makes sense for it.
A server sweeps once a second at most. -/
def withOption (option value : String) (config : Config) : Except OptionError Config :=
  let number (use : Nat → Config) : Except OptionError Config :=
    match Text.number? value with
    | some count => .ok (use count)
    | none => .error (.badValue option value)
  match option with
  | "-H" | "--host" => .ok { config with host := value }
  | "-p" | "--port" =>
      match Text.number? value with
      | some port =>
          if port < 65536 then .ok { config with port } else .error (.badValue option value)
      | none => .error (.badValue option value)
  | "--max-sessions" => number fun count => { config with maxSessions := count }
  | "--max-rooms" => number fun count => { config with maxRooms := count }
  | "--heartbeat-timeout" =>
      number fun count => { config with heartbeatTimeout := Time.seconds count }
  | "--reconnect-timeout" =>
      number fun count => { config with reconnectTimeout := Time.seconds count }
  | "--sweep-interval" =>
      number fun count => { config with sweepInterval := Time.seconds (max count 1) }
  | _ => .error (.unknown option)

def ofArguments (config : Config) : List String → Except OptionError Config
  | [] => .ok config
  | "--shuffle" :: rest => ofArguments { config with shuffleDeck := true } rest
  | [option] => .error (.missingValue option)
  | option :: value :: rest => do
      let config ← config.withOption option value
      ofArguments config rest

end Config

end Cardroom
