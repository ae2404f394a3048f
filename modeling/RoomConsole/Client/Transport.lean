import RoomConsole.Client.Error
import RoomConsole.Tls.Certificate

/-!
# Transport settings

How the client reaches the server: which certificates it trusts (the
system's, a CA file's, or any), how long a request may take, whether it
keeps cookies, and the user and password it sends with every request.

Building the client reads the CA file. A file that cannot be read, or that
holds something other than certificates, makes the client unusable and is
reported as a TLS error.
-/

namespace RoomConsole.Client

/-- A user name and password for HTTP basic authentication. -/
structure Credentials where
  username : String
  password : String
  deriving DecidableEq, Repr

/-- Which server certificates are trusted. -/
inductive TlsMode where
  | system
  /-- The certificates of a CA file, by path. -/
  | customCa (path : String)
  /-- Any certificate at all. -/
  | acceptInvalid
  deriving DecidableEq, Repr

/-- Settings of the connection to the server. -/
structure Transport where
  tls : TlsMode := .system
  /-- Milliseconds a request may take. -/
  timeoutMs : Nat := 30000
  cookies : Bool := false
  credentials : Option Credentials := none
  deriving DecidableEq, Repr

/-- Reads a file: its bytes, or the system's reason it could not. -/
abbrev FileReader := String → Except String (List UInt8)

/-- Check that the settings can make a client. -/
def Transport.check (t : Transport) (read : FileReader) : Except Error Unit :=
  match t.tls with
  | .customCa path =>
    match read path with
    | .error reason => .error (.tls ("failed to read CA cert: " ++ reason))
    | .ok bytes =>
      if Tls.caFileUsable bytes then .ok ()
      else .error (.tls ("failed to build HTTP client: " ++ TransportFault.text { kind := .builder }))
  | _ => .ok ()

end RoomConsole.Client
