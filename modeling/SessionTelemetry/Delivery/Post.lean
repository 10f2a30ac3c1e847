import SessionTelemetry.Delivery.Address
import SessionTelemetry.Settings.Properties

/-!
# Posting payloads

Every payload is one request to the address of the backend, sent once, with the payload in UTF-8.
Any reply but one of success and any failure on the way is a failed delivery; other faults of the
client are passed on.
-/

namespace SessionTelemetry

structure PostRequest where
  method : String := "POST"
  address : String
  contentType : String := "application/json"
  body : List UInt8
  deriving DecidableEq, Repr

/-- A client that sends requests: it gets a status or fails, and has a state of its own. -/
abbrev Client (σ : Type) := σ → PostRequest → Except Fault Int × σ

abbrev AddressReader := String → Except Fault Address

/-- What makes clients, in an environment and for a timeout. It tells how long a reply may take. -/
abbrev ClientMaker := Properties → Value → Except Fault Value

/-- Makes clients where nothing in the environment concerns them. A tuple gives the limits of the
steps of a request one by one, that of connecting first and that of the reply next; any other value
is the limit of each step. -/
def ClientMaker.plain : ClientMaker
  | _, .tuple (_ :: limit :: _) => .ok limit
  | _, .tuple _ => .error .tooShort
  | _, limit => .ok limit

namespace Client

variable {σ : Type}

def successStatus : Int := 200

def outcome : Except Fault Int → Except Fault Unit
  | .ok status => if status = successStatus then .ok () else .error (.refusedStatus status)
  | .error fault =>
    if fault.isRequest then .error (.requestFailed (fault.message?.getD "")) else .error fault

def usable (address : Address) : Except Fault Int → Except Fault Int
  | .ok status =>
    if address.isComplete then .ok status
    else .error (.incompleteAddress (String.ofList (Text.quoted address.target.toList)))
  | .error fault => .error fault

/-- The address of a request, if it can be read, its host can be asked and, where it is incomplete,
what counts of it is not too long. -/
def readAddress : AddressReader := fun url => do
  let address ← Address.read url.toList
  if address.isComplete then Host.checkSendable address.host
  else if !address.fits then throw .malformedAddress
  return address

/-- Posts a payload to an address that is read in some way. Nothing is sent to one that cannot be
read. -/
def postVia (read : AddressReader) (send : Client σ) (url : String) (link : σ) (payload : String) :
    Except Fault Unit × σ :=
  match read url with
  | .error fault => (.error fault, link)
  | .ok address =>
    let (reply, link) := send link { address := address.target, body := Text.toUtf8 payload }
    (outcome (usable address reply), link)

def post (send : Client σ) (url : String) (link : σ) (payload : String) : Except Fault Unit × σ :=
  send.postVia readAddress url link payload

def logged (send : Client σ) : Client (σ × List PostRequest) := fun (link, sent) request =>
  let (reply, link) := send link request
  (reply, link, sent ++ [request])

/-- A client whose replies are listed; the last one is repeated, and without any all is well. -/
def listed : Client (List (Except Fault Int))
  | [], _ => (.ok successStatus, [])
  | [reply], _ => (reply, [reply])
  | reply :: rest, _ => (reply, rest)

end Client

end SessionTelemetry
