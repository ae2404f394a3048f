import RoomConsole.Text.Base64
import RoomConsole.Text.Utf8

/-!
# CA certificates

A CA file holds PEM sections: a `-----BEGIN L-----` line, base64 lines,
and the `-----END L-----` line; text outside sections is ignored and only
sections labelled `CERTIFICATE` are certificates. A section with no end or
whose body is not base64 makes the file unreadable.

A certificate is accepted as a trust root when its DER has the shape of an
X.509 certificate: one SEQUENCE holding the signed part (itself a SEQUENCE
of an optional version, the serial number and five SEQUENCEs: algorithm,
issuer, validity, subject and key), the signature algorithm and the
signature, with every length exact.
-/

namespace RoomConsole.Tls

/-- A PEM section: its label and body lines. -/
structure Section where
  label : String
  body : List String

/-- The label of a boundary line with the given word (`BEGIN` or `END`). -/
def boundary? (word line : String) : Option String :=
  let pre := "-----" ++ word ++ " "
  if line.startsWith pre && line.endsWith "-----" && line.length ≥ pre.length + 5 then
    some (String.ofList ((line.toList.drop pre.length).take (line.length - pre.length - 5)))
  else none

/-- The sections of a text's lines; `none` when one has no end. `fuel`
bounds the sections. -/
def sections : Nat → List String → Option (List Section)
  | _, [] => some []
  | 0, _ :: _ => some []
  | fuel + 1, line :: rest =>
    match boundary? "BEGIN" line with
    | none => sections fuel rest
    | some label =>
      let body := rest.takeWhile fun l => (boundary? "END" l).isNone
      match rest.drop body.length with
      | [] => none
      | _ :: after => do
        let tail ← sections fuel after
        pure ({ label, body } :: tail)

/-- The DER certificates of a PEM text; `none` when it is unreadable. -/
def pemCertificates (text : String) : Option (List (List UInt8)) := do
  let lines := (text.splitOn "\n").map fun l => l.trimAscii.toString
  let found ← sections lines.length lines
  (found.filter (·.label == "CERTIFICATE")).mapM fun s =>
    Text.Base64.decode (String.join s.body).toList

/-- A DER element: its tag, its content and the bytes after it. -/
def element? (bytes : List UInt8) : Option (UInt8 × List UInt8 × List UInt8) :=
  match bytes with
  | tag :: first :: rest =>
    let (len, rest) : Option Nat × List UInt8 :=
      if first < 0x80 then (some first.toNat, rest)
      else
        let n := (first - 0x80).toNat
        if n = 0 || n > 4 || rest.length < n then (none, rest)
        else (some ((rest.take n).foldl (fun a b => a * 256 + b.toNat) 0), rest.drop n)
    match len with
    | some l => if rest.length < l then none else some (tag, rest.take l, rest.drop l)
    | none => none
  | _ => none

/-- The elements of a DER content, in order; `fuel` bounds their number. -/
def elements : Nat → List UInt8 → Option (List (UInt8 × List UInt8))
  | _, [] => some []
  | 0, _ :: _ => none
  | fuel + 1, bytes => do
    let (tag, content, rest) ← element? bytes
    let tail ← elements fuel rest
    pure ((tag, content) :: tail)

/-- Whether the signed part of a certificate has its fields. -/
def signedPartOk (content : List UInt8) : Bool :=
  match elements content.length content with
  | some items =>
    let items := match items with
      | (0xA0, _) :: rest => rest
      | _ => items
    match items with
    | (0x02, _) :: (0x30, _) :: (0x30, _) :: (0x30, _) :: (0x30, _) :: (0x30, _) :: _ => true
    | _ => false
  | none => false

/-- Whether DER bytes have the shape of a certificate. -/
def isCertificate (der : List UInt8) : Bool :=
  match element? der with
  | some (0x30, content, []) =>
    match elements content.length content with
    | some [(0x30, signed), (0x30, _), (0x03, _)] => signedPartOk signed
    | _ => false
  | _ => false

/-- Whether a CA file can be used: it reads, and each certificate in it is one. -/
def caFileUsable (bytes : List UInt8) : Bool :=
  match pemCertificates (Text.Utf8.decodeString bytes) with
  | some certs => certs.all isCertificate
  | none => false

end RoomConsole.Tls
