import RoomConsole.Client.Transport
import RoomConsole.Http.Message
import RoomConsole.Url.Parse
import RoomConsole.Event.ServerEvent
import RoomConsole.Room.Json
import RoomConsole.Room.Settings
import RoomConsole.Capabilities
import RoomConsole.Text.Base64
import RoomConsole.Text.Space
import RoomConsole.Json.Write

/-!
# The room server client

A `Client` holds the server's API root and the credentials it sends. The
root is the given URL with its path's trailing slashes dropped and `/api/`
added, unless the path already ends in `/api`, which gains only the slash:
`https://host` and `https://host/api` both give `https://host/api/`.

Fixed routes (`config/rooms`, `rooms`, `pull`, `docker-compose.yaml`,
`events`) are resolved against the root, so a query on the root is
dropped. A room's routes append `rooms`, the room's key and the action as
path segments, each percent-encoded as one segment and the root's query
kept; the keys ``, `.` and `..`, which no room carries, are refused
before any request.

A request goes only to `http` and `https` URLs. User name and password
written in the URL move into the authorization header. A success status
with a body that does not decode is a deserialization error previewing the
body; any other status is a refusal worded by the trimmed body, or by the
status line when the body is blank, and a 404 means not found.
-/

namespace RoomConsole.Client

open RoomConsole.Json RoomConsole.Http RoomConsole.Url

end RoomConsole.Client

namespace RoomConsole

open RoomConsole.Json RoomConsole.Http RoomConsole.Url RoomConsole.Client in
/-- A client of one room server. -/
structure Client where
  /-- The API root: a URL whose path ends in `/api/`. -/
  base : Url
  credentials : Option Credentials := none

end RoomConsole

namespace RoomConsole.Client

open RoomConsole.Json RoomConsole.Http RoomConsole.Url

/-- The API root for a server URL. -/
def normalizeBase (raw : String) : Except Error Url := do
  let u ← (Url.parse raw).mapError .invalidUrl
  let path := String.ofList (u.path.toList.reverse.dropWhile (· = '/')).reverse
  pure (if path.endsWith "/api" then u.setPath (path ++ "/") else u.setPath (path ++ "/api/"))

/-- A client with transport settings; the CA file is read with `read`. -/
def create (raw : String) (t : Transport) (read : FileReader) : Except Error Client := do
  t.check read
  let base ← normalizeBase raw
  pure { base, credentials := t.credentials }

/-- A client with no settings of its own. -/
def plain (raw : String) : Except Error Client := do
  pure { base := ← normalizeBase raw }

/-- A fixed route, resolved against the root. -/
def url (c : Client) (path : String) : Except Error Url := (c.base.join path).mapError .invalidUrl

/-- A room's route: `rooms/{key}` and the action, each one segment. -/
def roomUrl (c : Client) (key : String) (action : Option String) : Except Error Url :=
  if key = "" || key = "." || key = ".." then .error (.notFound ("room '" ++ key ++ "' not found"))
  else if c.base.cannotBeABase then .error (.invalidUrl .relativeUrlWithCannotBeABaseBase)
  else
    let u := (c.base.popIfEmpty.pushSegment "rooms").pushSegment key
    .ok (match action with
      | some a => u.pushSegment a
      | none => u)

/-- The authorization header for credentials. -/
def basicAuthorization (user : String) (password : String) : String × String :=
  ("authorization", "Basic " ++ Text.Base64.encode (user ++ ":" ++ password))

/-- The text of percent-encoded user information. -/
def decodedUserinfo (s : String) : String := Text.Utf8.decodeString (decodeBytes (Text.Utf8.encode s))

/-- A URL without its user information, and the header that carries it. -/
def moveUserinfo (u : Url) : Url × List (String × String) :=
  if u.authority && (!u.username.isEmpty || u.password.isSome) then
    ({ u with username := "", password := none },
     [basicAuthorization (decodedUserinfo u.username) (decodedUserinfo (u.password.getD ""))])
  else (u, [])

/-- The request the client makes. -/
def request (c : Client) (method : Method) (url : Url) (headers : List (String × String))
    (body : Option String) : Request :=
  let (url, fromUrl) := moveUserinfo url
  let auth := fromUrl ++ (c.credentials.map fun cr => basicAuthorization cr.username cr.password).toList
  let typed := if body.isSome then [("content-type", "application/json")] else []
  { method, url, headers := headers ++ auth ++ typed, body }

/-- Send a request over the network. -/
def send (net : Network) (req : Request) : Except TransportFault Response :=
  if req.url.scheme ≠ "http" && req.url.scheme ≠ "https" then
    .error { kind := .builder, url := some req.url.text }
  else
    match net req with
    | .ok r => .ok r
    | .error .unreachable => .error { kind := .request, url := some req.url.text, connectFailed := true }
    | .error .timedOut => .error { kind := .request, url := some req.url.text, timedOut := true }

/-- The body as text; a byte order mark is dropped. -/
def bodyText (r : Response) : Except TransportFault String :=
  if r.broken then .error { kind := .decode }
  else
    let cs := Text.Utf8.decode r.chunks.flatten
    .ok (String.ofList (match cs with
      | c :: rest => if c.toNat = 0xFEFF then rest else cs
      | [] => cs))

/-- A refusal from a status other than success. -/
def refusal (r : Response) : Error :=
  let m := Text.trim ((bodyText r).toOption.getD "")
  let m := if m.isEmpty then r.status.text else m
  if r.status.code = 404 then .notFound m else .api r.status.code m

/-- The decoded body of a success, or the refusal. -/
def decodeResponse {α : Type} (d : Decoder α) (r : Response) : Except Error α :=
  if r.status.isSuccess then do
    let body ← (bodyText r).mapError .transport
    match Decoder.decode d body with
    | .ok a => .ok a
    | .error e =>
      .error (.deserialization
        (e.message ++ " (body preview: " ++ Text.literal (String.ofList (body.toList.take 200)) ++ ")") body)
  else .error (refusal r)

/-- Nothing from a success, or the refusal. -/
def emptyResponse (r : Response) : Except Error Unit :=
  if r.status.isSuccess then .ok () else .error (refusal r)

/-- The text of a success, or the refusal. -/
def textResponse (r : Response) : Except Error String :=
  if r.status.isSuccess then (bodyText r).mapError .transport else .error (refusal r)

section

variable (net : Network) (c : Client)

/-- Send a request and take its response. -/
def fetch (method : Method) (url : Url) (body : Option String) : Except Error Response :=
  (send net (c.request method url [("accept", "*/*")] body)).mapError .transport

/-- Form-encoded pairs added to a URL's query. -/
def withQuery (url : Url) (pairs : List (String × String)) : Url := url.appendPairs pairs

/-- The server's capabilities. -/
def roomsConfig : Except Error Capabilities := do
  decodeResponse Capabilities.serverDecoder (← fetch net c .get (← c.url "config/rooms") none)

/-- The rooms, only those carrying every given label when some are given. -/
def listRooms (labels : List (String × String)) : Except Error (List Room.Entry) := do
  let u ← c.url "rooms"
  let u := if labels.isEmpty then u else withQuery u labels
  decodeResponse (Decoder.list Room.Entry.serverDecoder) (← fetch net c .get u none)

/-- Create a room, started at once when `start` holds. -/
def createRoom (settings : Room.Settings) (start : Bool) : Except Error Room.Entry := do
  let u := withQuery (← c.url "rooms") [("start", if start then "true" else "false")]
  decodeResponse Room.Entry.serverDecoder (← fetch net c .post u (some (Json.compact settings.toJson)))

/-- A room by id. -/
def getRoom (id : String) : Except Error Room.Entry := do
  decodeResponse Room.Entry.serverDecoder (← fetch net c .get (← c.roomUrl id none) none)

/-- A room by name. -/
def getRoomByName (name : String) : Except Error Room.Entry := do
  decodeResponse Room.Entry.serverDecoder (← fetch net c .get (← c.roomUrl name (some "by-name")) none)

/-- Remove a room. -/
def removeRoom (id : String) : Except Error Unit := do
  emptyResponse (← fetch net c .delete (← c.roomUrl id none) none)

/-- A room's settings. -/
def roomSettings (id : String) : Except Error Room.Settings := do
  decodeResponse Room.Settings.decoder (← fetch net c .get (← c.roomUrl id (some "settings")) none)

/-- A room's statistics. -/
def roomStats (id : String) : Except Error Room.Stats := do
  decodeResponse Room.Stats.decoder (← fetch net c .get (← c.roomUrl id (some "stats")) none)

/-- Post an action to a room: `start`, `stop`, `pause` or `restart`. -/
def roomAction (action id : String) : Except Error Unit := do
  emptyResponse (← fetch net c .post (← c.roomUrl id (some action)) none)

/-- Recreate a room's container, with new settings and running state when given. -/
def recreateRoom (id : String) (settings : Option Room.Settings) (start : Option Bool) :
    Except Error Room.Entry := do
  let u ← c.roomUrl id (some "recreate")
  let u := withQuery u (start.map fun s => ("start", if s then "true" else "false")).toList
  decodeResponse Room.Entry.serverDecoder
    (← fetch net c .post u (settings.map fun s => Json.compact s.toJson))

/-- Start pulling an image. -/
def pullStart (start : Pull.Start) : Except Error Pull.Status := do
  let u := withQuery (← c.url "pull") []
  decodeResponse Pull.Status.serverDecoder (← fetch net c .post u (some (Json.compact start.toJson)))

/-- The pull status. -/
def pullStatus : Except Error Pull.Status := do
  decodeResponse Pull.Status.serverDecoder (← fetch net c .get (← c.url "pull") none)

/-- Stop the running pull. -/
def pullStop : Except Error Unit := do
  emptyResponse (← fetch net c .delete (← c.url "pull") none)

/-- The compose file describing every room. -/
def exportCompose : Except Error String := do
  textResponse (← fetch net c .get (← c.url "docker-compose.yaml") none)

/-- Open the event stream: the items it yields, once the server accepts. -/
def subscribeEvents : Except Error (List (Except Error Event.ServerEvent)) := do
  let u := (← c.url "events").setQuery (some "sse")
  match send net (c.request .get u [("accept", "text/event-stream")] none) with
  | .error f => .error (.eventStream ("failed to connect: " ++ f.text))
  | .ok r =>
    if r.status.isSuccess then
      .ok (Event.subscriptionItems r.chunks
        (if r.broken then some (TransportFault.text { kind := .decode }) else none))
    else
      .error (.eventStream ("server answered " ++ r.status.text ++ ": " ++ Text.trim ((bodyText r).toOption.getD "")))

end

end RoomConsole.Client
