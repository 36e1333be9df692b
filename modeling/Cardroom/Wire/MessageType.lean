import Cardroom.Text.Utf8

/-!
# Message types

Players and server exchange messages of forty-one types. On the wire a type is a code of four
capital letters.
-/

namespace Cardroom

inductive MessageType where
  -- Who a player is
  | login
  | quit
  | okay
  | error
  | reconnected
  -- Finding, opening and leaving a room
  | roomList
  | noRooms
  | createRoom
  | roomCreated
  | createFailed
  | joinRoom
  | roomJoined
  | joinFailed
  | leaveRoom
  | roomLeft
  | leaveFailed
  | owner
  | roomInfo
  -- Getting ready and starting
  | ready
  | playersReady
  | start
  | startFailed
  -- Playing
  | turn
  | wait
  | takeFromDeck
  | takeFromDiscard
  | discard
  | layDown
  | addCard
  | close
  | cards
  | state
  | matchEnd
  | playAgain
  | lobby
  | leaveToLobby
  -- Staying in touch
  | ping
  | pong
  | paused
  | resumed
  | notice
deriving DecidableEq, Repr

namespace MessageType

def all : List MessageType :=
  [.login, .quit, .okay, .error, .reconnected,
    .roomList, .noRooms, .createRoom, .roomCreated, .createFailed, .joinRoom, .roomJoined,
    .joinFailed, .leaveRoom, .roomLeft, .leaveFailed, .owner, .roomInfo,
    .ready, .playersReady, .start, .startFailed,
    .turn, .wait, .takeFromDeck, .takeFromDiscard, .discard, .layDown, .addCard, .close, .cards,
    .state, .matchEnd, .playAgain, .lobby, .leaveToLobby,
    .ping, .pong, .paused, .resumed, .notice]

def code : MessageType → String
  | .login => "LOGI"
  | .quit => "QUIT"
  | .okay => "OKAY"
  | .error => "ERRR"
  | .reconnected => "RECO"
  | .roomList => "RLIS"
  | .noRooms => "ELIS"
  | .createRoom => "RCRT"
  | .roomCreated => "OCRT"
  | .createFailed => "ECRT"
  | .joinRoom => "RCNT"
  | .roomJoined => "OCNT"
  | .joinFailed => "ECNT"
  | .leaveRoom => "RDIS"
  | .roomLeft => "ODIS"
  | .leaveFailed => "EDIS"
  | .owner => "BOSS"
  | .roomInfo => "RINF"
  | .ready => "REDY"
  | .playersReady => "PRDY"
  | .start => "STRT"
  | .startFailed => "ESTR"
  | .turn => "TURN"
  | .wait => "WAIT"
  | .takeFromDeck => "TAKP"
  | .takeFromDiscard => "TAKT"
  | .discard => "THRW"
  | .layDown => "UNLO"
  | .addCard => "ADDC"
  | .close => "CLOS"
  | .cards => "CRDS"
  | .state => "STAT"
  | .matchEnd => "GEND"
  | .playAgain => "PLAG"
  | .lobby => "LBBY"
  | .leaveToLobby => "CNNT"
  | .ping => "PING"
  | .pong => "PONG"
  | .paused => "PAUS"
  | .resumed => "RESU"
  | .notice => "NOTI"

def codeBytes (type : MessageType) : List UInt8 :=
  Text.bytes type.code

def ofCodeBytes? (bytes : List UInt8) : Option MessageType :=
  all.find? fun type => type.codeBytes == bytes

theorem length_codeBytes (type : MessageType) : type.codeBytes.length = 4 := by
  cases type <;> rfl

/-- No two types share a code. -/
theorem ofCodeBytes?_codeBytes (type : MessageType) : ofCodeBytes? type.codeBytes = some type := by
  cases type <;> decide

/-- The six actions with cards that a player may take on a turn. -/
def isMove : MessageType → Bool
  | .takeFromDeck | .takeFromDiscard | .layDown | .addCard | .discard | .close => true
  | _ => false

end MessageType

end Cardroom
