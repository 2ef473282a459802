import GoTor.Lib.Bytes

/-!
# Link cells

The cells of a link: a circuit ID, a command and a payload.
-/

namespace GoTor.Cell

abbrev Command := UInt8

namespace Command

def padding : Command := 0
def create : Command := 1
def created : Command := 2
def relay : Command := 3
def destroy : Command := 4
def createFast : Command := 5
def createdFast : Command := 6
def versions : Command := 7
def netinfo : Command := 8
def relayEarly : Command := 9
def create2 : Command := 10
def created2 : Command := 11
def vPadding : Command := 128
def certs : Command := 129
def authChallenge : Command := 130
def authenticate : Command := 131
def authorize : Command := 132

def string (c : Command) : String :=
  if c = padding then "PADDING"
  else if c = create then "CREATE"
  else if c = created then "CREATED"
  else if c = relay then "RELAY"
  else if c = destroy then "DESTROY"
  else if c = createFast then "CREATE_FAST"
  else if c = createdFast then "CREATED_FAST"
  else if c = versions then "VERSIONS"
  else if c = netinfo then "NETINFO"
  else if c = relayEarly then "RELAY_EARLY"
  else if c = create2 then "CREATE2"
  else if c = created2 then "CREATED2"
  else if c = vPadding then "VPADDING"
  else if c = certs then "CERTS"
  else if c = authChallenge then "AUTH_CHALLENGE"
  else if c = authenticate then "AUTHENTICATE"
  else if c = authorize then "AUTHORIZE"
  else s!"UNKNOWN({c})"

end Command

end GoTor.Cell

structure GoTor.Cell where
  circID : UInt32
  command : GoTor.Cell.Command
  payload : GoTor.Lib.Bytes
  deriving DecidableEq
