import RoomConsole.Url.Percent
import RoomConsole.Url.Punycode
import RoomConsole.Text.Lowercase

/-!
# Hosts

The host of a URL is a domain, an IPv4 address or an IPv6 address (written
in brackets). In special URLs a domain is percent-decoded, lower-cased, its
non-ASCII labels written in Punycode after `xn--`, and refused when it holds
a forbidden character (a control, a space, or one of `%#/:<>?@[\]^|`). A
domain whose last label is a number is read as an IPv4 address, whose parts
may be decimal, octal (leading `0`) or hexadecimal (leading `0x`), the last
part filling the bytes the others leave.

IPv6 addresses are written with lower-case hex pieces and the longest run of
two or more zero pieces shortened to `::`.

Non-special URLs keep their host as written (opaque), encoding controls and
non-ASCII bytes.
-/

namespace RoomConsole.Url

/-- Why a text is not a URL. -/
inductive ParseError where
  | emptyHost
  | idnaError
  | invalidPort
  | invalidIpv4Address
  | invalidIpv6Address
  | invalidDomainCharacter
  | relativeUrlWithoutBase
  | relativeUrlWithCannotBeABaseBase
  | setHostOnCannotBeABaseUrl
  | overflow
  deriving DecidableEq, Repr

/-- The message of a refusal. -/
def ParseError.message : ParseError → String
  | .emptyHost => "empty host"
  | .idnaError => "invalid international domain name"
  | .invalidPort => "invalid port number"
  | .invalidIpv4Address => "invalid IPv4 address"
  | .invalidIpv6Address => "invalid IPv6 address"
  | .invalidDomainCharacter => "invalid domain character"
  | .relativeUrlWithoutBase => "relative URL without a base"
  | .relativeUrlWithCannotBeABaseBase => "relative URL with a cannot-be-a-base base"
  | .setHostOnCannotBeABaseUrl => "a cannot-be-a-base URL doesn’t have a host to set"
  | .overflow => "URLs more than 4 GB are not supported"

/-- The host of a URL. -/
inductive Host where
  | domain (name : String)
  | ipv4 (address : Nat)
  | ipv6 (pieces : List Nat)
  deriving DecidableEq, Repr

/-! ## IPv6 -/

/-- The longest run of two or more zero pieces: its start and end. -/
def longestZeroRun (pieces : List Nat) : Option (Nat × Nat) :=
  let step (acc : Option (Nat × Nat) × Option Nat) (ip : Nat × Nat) : Option (Nat × Nat) × Option Nat :=
    let (best, start) := acc
    let (i, p) := ip
    if p = 0 then (best, some (start.getD i))
    else
      match start with
      | none => (best, none)
      | some s =>
        let better := match best with
          | some (bs, be) => if i - s > be - bs then some (s, i) else best
          | none => some (s, i)
        (better, none)
  let (best, start) := (pieces.zipIdx.map fun (p, i) => (i, p)).foldl step (none, none)
  let best := match start with
    | none => best
    | some s =>
      match best with
      | some (bs, be) => if 8 - s > be - bs then some (s, 8) else best
      | none => some (s, 8)
  match best with
  | some (s, e) => if e - s ≥ 2 then some (s, e) else none
  | none => none

/-- Lower-case hex of a piece. -/
def hexLower (n : Nat) : String := String.ofList (Nat.toDigits 16 n)

/-- The text of an IPv6 address, without brackets. -/
def ipv6Text (pieces : List Nat) : String :=
  match longestZeroRun pieces with
  | none => ":".intercalate (pieces.map hexLower)
  | some (s, e) =>
    ":".intercalate ((pieces.take s).map hexLower) ++ "::" ++ ":".intercalate ((pieces.drop e).map hexLower)

/-- Write a piece of an IPv6 address being read. -/
def setPiece (pieces : List Nat) (i v : Nat) : List Nat := pieces.set i v

/-- The IPv4 tail of an IPv6 address from `i`, into pieces from `pointer`. -/
def ipv6Tail (input : List UInt8) (pieces : List Nat) (pointer : Nat) : Nat → Nat → Nat →
    Except ParseError (List Nat × Nat × Nat)
  | 0, _, _ => .error .invalidIpv6Address
  | fuel + 1, i, seen =>
    if i ≥ input.length then
      if seen ≠ 4 then .error .invalidIpv6Address else .ok (pieces, pointer, i)
    else do
      let i ← if seen > 0 then
          if seen < 4 && input[i]? = some 0x2E then pure (i + 1) else throw .invalidIpv6Address
        else pure i
      let digits := (input.drop i).takeWhile fun c => 0x30 ≤ c && c ≤ 0x39
      if digits.isEmpty then throw .invalidIpv6Address
      if digits.length > 1 && digits.head? = some 0x30 then throw .invalidIpv6Address
      let v := digits.foldl (fun a c => a * 10 + (c.toNat - 0x30)) 0
      if v > 255 then throw .invalidIpv6Address
      let pieces := setPiece pieces pointer (pieces.getD pointer 0 * 256 + v)
      let seen := seen + 1
      let pointer := if seen = 2 || seen = 4 then pointer + 1 else pointer
      ipv6TailLoop input pieces pointer fuel (i + digits.length) seen
where
  /-- The same loop, named for the recursive call. -/
  ipv6TailLoop (input : List UInt8) (pieces : List Nat) (pointer : Nat) (fuel i seen : Nat) :
      Except ParseError (List Nat × Nat × Nat) :=
    ipv6Tail input pieces pointer fuel i seen

/-- The pieces of an IPv6 address, read from `i` with `pointer` pieces
filled and a compression at `compress`, if any. -/
def ipv6Pieces (input : List UInt8) : Nat → Nat → Nat → Option Nat → List Nat →
    Except ParseError (List Nat × Nat × Option Nat × Nat)
  | 0, i, pointer, compress, pieces => .ok (pieces, pointer, compress, i)
  | fuel + 1, i, pointer, compress, pieces =>
    if i ≥ input.length then .ok (pieces, pointer, compress, i)
    else if pointer = 8 then .error .invalidIpv6Address
    else if input[i]? = some 0x3A then
      if compress.isSome then .error .invalidIpv6Address
      else ipv6Pieces input fuel (i + 1) (pointer + 1) (some (pointer + 1)) pieces
    else
      let hex := ((input.drop i).take 4).takeWhile fun c => (hexDigit? c).isSome
      let value := hex.foldl (fun a c => a * 16 + (hexDigit? c).getD 0) 0
      let j := i + hex.length
      if j < input.length then
        if input[j]? = some 0x2E then
          if hex.isEmpty then .error .invalidIpv6Address
          else if pointer > 6 then .error .invalidIpv6Address
          else
            match ipv6Tail input pieces pointer (input.length + 1) i 0 with
            | .ok (pieces, pointer, k) => .ok (pieces, pointer, compress, k)
            | .error e => .error e
        else if input[j]? = some 0x3A then
          if j + 1 = input.length then .error .invalidIpv6Address
          else ipv6Pieces input fuel (j + 1) (pointer + 1) compress (setPiece pieces pointer value)
        else .error .invalidIpv6Address
      else ipv6Pieces input fuel j (pointer + 1) compress (setPiece pieces pointer value)

/-- Read an IPv6 address (the text between the brackets). -/
def parseIpv6 (text : String) : Except ParseError (List Nat) := do
  let input := Text.Utf8.encode text
  if input.length < 2 then throw .invalidIpv6Address
  let (start, pointer, compress) ←
    if input[0]? = some 0x3A then
      if input[1]? ≠ some 0x3A then throw .invalidIpv6Address
      else pure (2, 1, some 1)
    else pure (0, 0, none)
  let (pieces, pointer, compress, i) ←
    ipv6Pieces input (input.length + 1) start pointer compress (List.replicate 8 0)
  if i < input.length then throw .invalidIpv6Address
  match compress with
  | some c =>
    -- move the pieces after the compression to the end
    let moved := pieces.take c ++ List.replicate (8 - pointer) 0 ++ (pieces.drop c).take (pointer - c)
    pure (moved.take 8)
  | none => if pointer ≠ 8 then throw .invalidIpv6Address else pure pieces

/-! ## IPv4 -/

/-- One part of an IPv4 address: decimal, octal after `0`, hex after `0x`.
`none` when the text is no number; a number may exceed 32 bits. -/
def ipv4Number (part : String) : Option Nat :=
  let cs := part.toList
  if cs.isEmpty then none
  else
    let (radix, digits) :=
      match cs with
      | '0' :: 'x' :: rest => (16, rest)
      | '0' :: 'X' :: rest => (16, rest)
      | '0' :: rest@(_ :: _) => (8, rest)
      | _ => (10, cs)
    if digits.isEmpty then some 0
    else
      let value (c : Char) : Option Nat :=
        if '0' ≤ c && c ≤ '9' then some (c.toNat - 48)
        else if 'a' ≤ c && c ≤ 'f' then some (c.toNat - 87)
        else if 'A' ≤ c && c ≤ 'F' then some (c.toNat - 55)
        else none
      if digits.all fun c => match value c with | some v => v < radix | none => false then
        some (digits.foldl (fun a c => a * radix + (value c).getD 0) 0)
      else none

/-- The parts of a list between the elements that satisfy `p`. -/
def splitWhere {α : Type} (p : α → Bool) : List α → List (List α)
  | [] => [[]]
  | a :: rest =>
    if p a then [] :: splitWhere p rest
    else match splitWhere p rest with
      | first :: others => (a :: first) :: others
      | [] => [[a]]

/-- Whether the last label (before a final dot) is a number. -/
def endsInNumber (domain : String) : Bool :=
  let labels := ((splitWhere (· = '.') domain.toList).map String.ofList).reverse
  let last? := match labels with
    | "" :: l :: _ => some l
    | "" :: [] => none
    | l :: _ => some l
    | [] => none
  match last? with
  | none => false
  | some l => (!l.isEmpty && l.toList.all Char.isDigit) || (ipv4Number l).isSome

/-- Read an IPv4 address. -/
def parseIpv4 (domain : String) : Except ParseError Nat := do
  let parts := domain.splitOn "."
  let parts := if parts.getLast? = some "" then parts.dropLast else parts
  if parts.length > 4 then throw .invalidIpv4Address
  let numbers ← parts.mapM fun p => match ipv4Number p with
    | some n => if n < Nat.pow 2 32 then pure n else throw .invalidIpv4Address
    | none => throw .invalidIpv4Address
  match numbers.reverse with
  | [] => throw .invalidIpv4Address
  | last :: firstRev =>
    let first := firstRev.reverse
    if last ≥ Nat.pow 256 (4 - first.length) then throw .invalidIpv4Address
    if first.any (· > 255) then throw .invalidIpv4Address
    pure (first.zipIdx.foldl (fun acc (n, i) => acc + n * Nat.pow 256 (3 - i)) last)

/-- Dotted text of an IPv4 address. -/
def ipv4Text (a : Nat) : String :=
  ".".intercalate ([a / Nat.pow 2 24 % 256, a / Nat.pow 2 16 % 256, a / Nat.pow 2 8 % 256, a % 256].map toString)

/-! ## Domains -/

/-- Characters a domain may not hold. -/
def forbiddenInDomain (c : Char) : Bool :=
  c.toNat ≤ 0x20 || c.toNat = 0x7F || "%#/:<>?@[\\]^|".toList.contains c

/-- Full stops that separate labels besides `.`. -/
def isLabelSeparator (c : Char) : Bool := c = '.' || c.toNat = 0x3002 || c.toNat = 0xFF0E || c.toNat = 0xFF61

/-- A domain in ASCII: lower case, non-ASCII labels in Punycode. -/
def domainToAscii (domain : String) : Except ParseError String := do
  let lowered := Text.lowercase domain
  let labels := (splitWhere isLabelSeparator lowered.toList).map fun label =>
    if label.all (·.toNat < 128) then String.ofList label
    else "xn--" ++ Punycode.encode (label.map Char.toNat)
  let ascii := ".".intercalate labels
  if ascii.toList.any forbiddenInDomain then throw .idnaError
  pure ascii

/-- The host of a special URL. -/
def Host.parse (text : String) : Except ParseError Host := do
  if text.startsWith "[" then
    if !text.endsWith "]" then throw .invalidIpv6Address
    return .ipv6 (← parseIpv6 (String.ofList ((text.toList.drop 1).dropLast)))
  let decoded := Text.Utf8.decodeString (decodeBytes (Text.Utf8.encode text))
  let domain ← domainToAscii decoded
  if domain.isEmpty then throw .emptyHost
  if endsInNumber domain then return .ipv4 (← parseIpv4 domain)
  pure (.domain domain)

/-- Characters an opaque host may not hold. -/
def forbiddenInOpaqueHost (c : Char) : Bool :=
  c.toNat = 0 || "\t\n\r #/:<>?@[\\]^|".toList.contains c

/-- The host of a non-special URL, kept as written. -/
def Host.parseOpaque (text : String) : Except ParseError Host := do
  if text.startsWith "[" then
    if !text.endsWith "]" then throw .invalidIpv6Address
    return .ipv6 (← parseIpv6 (String.ofList ((text.toList.drop 1).dropLast)))
  if text.toList.any forbiddenInOpaqueHost then throw .invalidDomainCharacter
  pure (.domain (encode .controls text))

/-- The text of a host. -/
def Host.text : Host → String
  | .domain d => d
  | .ipv4 a => ipv4Text a
  | .ipv6 p => "[" ++ ipv6Text p ++ "]"

end RoomConsole.Url
