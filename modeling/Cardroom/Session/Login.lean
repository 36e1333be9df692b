import Cardroom.Session.Token
import Cardroom.Text.Fields

/-!
# Login requests

A player logs in with a name. A player who was dropped gives the name, a bar and the token.
-/

namespace Cardroom

inductive LoginRequest where
  | new (nick : String)
  | reconnect (nick token : String)
deriving DecidableEq, Repr

inductive LoginError where
  | badNick
  | badToken
deriving DecidableEq, Repr

namespace LoginError

def message : LoginError → String
  | badNick => "Nickname must be 1 to 31 characters"
  | badToken => "Invalid token format"

end LoginError

namespace LoginRequest

def longestNick : Nat := 31

/-- Whether a text can be a player's name, as far as its length goes. -/
def isNick (nick : String) : Bool :=
  nick ≠ "" && nick.utf8ByteSize ≤ longestNick

/-- The request that a payload makes. The name is looked at first. -/
def ofPayload (payload : String) : Except LoginError LoginRequest :=
  match Text.cut? payload with
  | none => if isNick payload then .ok (.new payload) else .error .badNick
  | some (nick, token) =>
      if !isNick nick then .error .badNick
      else if Token.isWellFormed token then .ok (.reconnect nick token)
      else .error .badToken

end LoginRequest

end Cardroom
