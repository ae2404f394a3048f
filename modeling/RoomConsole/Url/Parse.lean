import RoomConsole.Url.Basic

/-!
# Reading and changing URLs

`Url.parse` reads a URL by the WHATWG URL standard: leading and trailing
controls and spaces are trimmed, tabs and line breaks are ignored anywhere,
the scheme is lower-cased, the host is read as `Host` describes, a port equal
to the scheme's default is dropped, and the path is percent-encoded with its
`.` and `..` segments resolved. `Url.join` resolves a relative reference
against a base URL the same way.

The setters change one part and keep the others: `setPath` reads a new path,
`pushSegment` appends one path segment in which `/`, `?`, `#` and `%` are
encoded (so a segment never splits), `setQuery` replaces the query, and
`appendPairs` adds form-encoded `key=value` pairs to it.
-/

namespace RoomConsole.Url

/-- What the text being read is. -/
inductive Context where
  /-- A whole URL: `?` and `#` end the path. -/
  | whole
  /-- A path given to a setter. -/
  | setter
  /-- One path segment: `/` does not end it. -/
  | segment
  deriving DecidableEq

/-- Tab, line feed and carriage return, which are ignored. -/
def isTabOrNewline (c : Char) : Bool := c = '\t' || c = '\n' || c = '\r'

/-- C0 controls and space, which are trimmed from both ends. -/
def isC0OrSpace (c : Char) : Bool := c.toNat ≤ 0x20

/-- The text with its ends trimmed and tabs and line breaks removed. -/
def cleanInput (s : String) : List Char :=
  ((s.toList.dropWhile isC0OrSpace).reverse.dropWhile isC0OrSpace).reverse.filter (!isTabOrNewline ·)

/-- One character, percent-encoded by a set. -/
def encodeChar (set : EncodeSet) (c : Char) : List Char :=
  (encodeBytes set (Text.Utf8.encodeChar c)).toList

/-- The spellings of the segment `..`. -/
def isDoubleDot (seg : List Char) : Bool :=
  ["..", "%2e%2e", "%2e%2E", "%2E%2e", "%2E%2E", "%2e.", "%2E.", ".%2e", ".%2E"].contains (String.ofList seg)

/-- The spellings of the segment `.`. -/
def isSingleDot (seg : List Char) : Bool := [".", "%2e", "%2E"].contains (String.ofList seg)

/-- Drop the last segment of a path, keeping its slash. -/
def popSegment (path : List Char) : List Char :=
  match (path.zipIdx.filter (·.1 = '/')).getLast? with
  | some (_, i) => path.take (i + 1)
  | none => path

/-- Whether a path ending in `/` has another `/` before that one. -/
def slashBeforeLast (path : List Char) : Bool := path.dropLast.contains '/'

/-- One segment of a path: its encoded characters, whether a slash ended it,
and the rest of the input. -/
def readSegment (special : Bool) (ctx : Context) : List Char → List Char × Bool × List Char
  | [] => ([], false, [])
  | c :: rest =>
    if c = '/' && ctx ≠ .segment then ([], true, rest)
    else if c = '\\' && ctx ≠ .segment && special then ([], true, rest)
    else if (c = '?' || c = '#') && ctx = .whole then ([], false, c :: rest)
    else
      let set : EncodeSet :=
        if ctx = .segment then (if special then .specialPathSegment else .pathSegment) else .path
      let (seg, ended, rest') := readSegment special ctx rest
      (encodeChar set c ++ seg, ended, rest')

/-- Read path segments onto `path`, resolving dot segments; answers the path
and the input after it. -/
def parsePath (special : Bool) (ctx : Context) : Nat → List Char → List Char → List Char × List Char
  | 0, path, input => (path, input)
  | fuel + 1, path, input =>
    let (seg, ended, rest) := readSegment special ctx input
    let path' :=
      if isDoubleDot seg then
        let p := if path.getLast? = some '/' && slashBeforeLast path then path.dropLast else path
        let p := if p.isEmpty then p else popSegment p
        if ended && p.getLast? ≠ some '/' then p ++ ['/'] else p
      else if isSingleDot seg then
        if path.getLast? ≠ some '/' then path ++ ['/'] else path
      else if ended then path ++ seg ++ ['/'] else path ++ seg
    if ended then parsePath special ctx fuel path' rest else (path', rest)

/-- Read a path from its start: special URLs always begin it with `/`. -/
def parsePathStart (special : Bool) (ctx : Context) (path input : List Char) : List Char × List Char :=
  let fuel := input.length + 1
  if special then
    if path.getLast? ≠ some '/' then
      match input with
      | c :: rest => if c = '/' || c = '\\' then parsePath special ctx fuel (path ++ ['/']) rest
                     else parsePath special ctx fuel (path ++ ['/']) input
      | [] => parsePath special ctx fuel (path ++ ['/']) input
    else parsePath special ctx fuel path input
  else
    match input with
    | c :: _ =>
      if c = '?' || c = '#' then (path, input)
      else if c ≠ '/' then parsePath special ctx fuel (path ++ ['/']) input
      else parsePath special ctx fuel path input
    | [] => parsePath special ctx fuel path input

/-- The opaque path of a URL that cannot be a base. -/
def parseOpaquePath (ctx : Context) : List Char → List Char × List Char
  | [] => ([], [])
  | c :: rest =>
    if (c = '?' || c = '#') && ctx = .whole then ([], c :: rest)
    else
      let (p, r) := parseOpaquePath ctx rest
      (encodeChar .controls c ++ p, r)

/-- The query and fragment after a path. -/
def queryAndFragment (special : Bool) (input : List Char) : Option String × Option String :=
  let (query, rest) :=
    match input with
    | '?' :: rest =>
      let q := rest.takeWhile (· ≠ '#')
      (some (encode (if special then .specialQuery else .query) (String.ofList q)), rest.drop q.length)
    | _ => (none, input)
  let fragment :=
    match rest with
    | '#' :: f => some (encode .fragment (String.ofList f))
    | _ => none
  (query, fragment)

/-- The scheme, lower-cased, and the input after its colon. -/
def readScheme (input : List Char) : Option (String × List Char) :=
  match input with
  | c :: rest => if c.isAlpha then go [c.toLower] rest else none
  | [] => none
where
  /-- The rest of the scheme. -/
  go (acc : List Char) : List Char → Option (String × List Char)
    | [] => none
    | c :: rest =>
      if c.isAlphanum || c = '+' || c = '-' || c = '.' then go (acc ++ [c.toLower]) rest
      else if c = ':' then some (String.ofList acc, rest)
      else none

/-- Whether a character ends the authority. -/
def endsAuthority (special : Bool) (c : Char) : Bool := c = '/' || c = '?' || c = '#' || (special && c = '\\')

/-- The index of the last `@` in a list. -/
def lastAt (cs : List Char) : Option Nat := ((cs.zipIdx.filter (·.1 = '@')).getLast?).map (·.2)

/-- User name, password and the input after them. -/
def readUserinfo (special : Bool) (input : List Char) :
    Except ParseError (String × Option String × List Char) :=
  let auth := input.takeWhile (!endsAuthority special ·)
  match lastAt auth with
  | none => .ok ("", none, input)
  | some 0 =>
    let rest := input.drop 1
    match rest with
    | c :: _ => if endsAuthority special c then .error .emptyHost else .ok ("", none, rest)
    | [] => .ok ("", none, rest)
  | some k =>
    let info := input.take k
    let user := info.takeWhile (· ≠ ':')
    let afterColon := info.drop (user.length + 1)
    let password := if user.length < info.length && !afterColon.isEmpty then
        some (encode .userinfo (String.ofList afterColon)) else none
    .ok (encode .userinfo (String.ofList user), password, input.drop (k + 1))

/-- The host text: up to a colon outside brackets, or the end of the authority. -/
def hostText (special : Bool) : Bool → List Char → List Char × List Char
  | _, [] => ([], [])
  | inside, c :: rest =>
    if (c = ':' && !inside) || (c = '\\' && special) || c = '/' || c = '?' || c = '#' then ([], c :: rest)
    else
      let inside' := if c = '[' then true else if c = ']' then false else inside
      let (h, r) := hostText special inside' rest
      (c :: h, r)

/-- A port after its colon, dropped when it is the scheme's default. -/
def readPort (scheme : String) (input : List Char) : Except ParseError (Option Nat × List Char) :=
  let digits := input.takeWhile Char.isDigit
  let rest := input.drop digits.length
  let bad := match rest with
    | c :: _ => !(c = '/' || c = '\\' || c = '?' || c = '#')
    | [] => false
  let value := digits.foldl (fun a c => a * 10 + (c.toNat - 48)) 0
  -- a number too large is refused before any character after it
  if (digits.zipIdx.any fun (_, i) => (digits.take (i + 1)).foldl (fun a c => a * 10 + (c.toNat - 48)) 0 > 65535) then
    .error .invalidPort
  else if bad then .error .invalidPort
  else if digits.isEmpty || some value = defaultPort scheme then .ok (none, rest)
  else .ok (some value, rest)

/-- The rest of a URL after `scheme://`. -/
def afterDoubleSlash (scheme : String) (input : List Char) : Except ParseError Url := do
  let special := isSpecialScheme scheme
  let (username, password, rest) ← readUserinfo special input
  let hasUserinfo := !username.isEmpty || password.isSome
  let (htext, rest) := hostText special false rest
  if special && htext.isEmpty then throw .emptyHost
  let host ← if special then Host.parse (String.ofList htext) else Host.parseOpaque (String.ofList htext)
  let emptyDomain := host == .domain ""
  if emptyDomain && (rest.head? = some ':' || special) then throw .emptyHost
  let (port, rest) ← match rest with
    | ':' :: r => readPort scheme r
    | _ => pure (none, rest)
  if emptyDomain && hasUserinfo then throw .emptyHost
  let (path, rest) := parsePathStart special .whole [] rest
  let (query, fragment) := queryAndFragment special rest
  pure { scheme, authority := true, username, password, host := if emptyDomain then none else some host,
         port, path := String.ofList path, query, fragment }

/-- A file URL: an optional host after `//`, then the path. -/
def fileUrl (input : List Char) : Except ParseError Url := do
  let slashes := (input.takeWhile fun c => c = '/' || c = '\\').length
  if slashes ≥ 2 then
    let rest := input.drop 2
    let (htext, rest) := hostText true false rest
    let host ← if htext.isEmpty || String.ofList htext = "localhost" then pure none
      else some <$> Host.parse (String.ofList htext)
    let (path, rest) := parsePathStart true .whole [] rest
    let (query, fragment) := queryAndFragment true rest
    pure { scheme := "file", host, path := String.ofList path, query, fragment }
  else
    let (path, rest) := parsePathStart true .whole [] input
    let (query, fragment) := queryAndFragment true rest
    pure { scheme := "file", path := String.ofList path, query, fragment }

/-- A reference resolved against a base that can be one. -/
def relative (base : Url) (input : List Char) : Except ParseError Url :=
  let special := base.special
  match input with
  | [] => .ok { base with fragment := none }
  | '?' :: _ =>
    let (query, fragment) := queryAndFragment special input
    .ok { base with query, fragment }
  | '#' :: f => .ok { base with fragment := some (encode .fragment (String.ofList f)) }
  | c :: rest =>
    if c = '/' || c = '\\' then
      let slashes := (input.takeWhile fun c => c = '/' || c = '\\').length
      if slashes ≥ 2 then
        afterDoubleSlash base.scheme (if input.take 2 = ['/', '/'] then input.drop 2 else input.drop slashes)
      else
        let (path, rest') := parsePath special .whole (rest.length + 1) ['/'] rest
        let (query, fragment) := queryAndFragment special rest'
        .ok { base with path := String.ofList path, query, fragment }
    else
      let start := if base.path.isEmpty then [] else popSegment base.path.toList
      let start := if start.isEmpty && (special || !input.isEmpty) then ['/'] else start
      let (path, rest') := parsePath special .whole (input.length + 1) start input
      let (query, fragment) := queryAndFragment special rest'
      .ok { base with path := String.ofList path, query, fragment }

/-- Read a URL, resolving a relative reference against `base` when given. -/
def parseWith (base : Option Url) (text : String) : Except ParseError Url :=
  let input := cleanInput text
  match readScheme input with
  | some (scheme, rest) =>
    if scheme = "file" then fileUrl rest
    else if isSpecialScheme scheme then
      let slashes := (rest.takeWhile fun c => c = '/' || c = '\\').length
      match base with
      | some b =>
        if slashes < 2 && b.scheme = scheme then relative b rest
        else afterDoubleSlash scheme (rest.drop slashes)
      | none => afterDoubleSlash scheme (rest.drop slashes)
    else if rest.take 2 = ['/', '/'] then afterDoubleSlash scheme (rest.drop 2)
    else if rest.head? = some '/' then
      let (path, rest') := parsePath false .whole (rest.length + 1) ['/'] rest.tail
      let (query, fragment) := queryAndFragment false rest'
      .ok { scheme, authority := false, path := String.ofList path, query, fragment }
    else
      let (path, rest') := parseOpaquePath .whole rest
      let (query, fragment) := queryAndFragment false rest'
      .ok { scheme, authority := false, path := String.ofList path, query, fragment }
  | none =>
    match base with
    | none => .error .relativeUrlWithoutBase
    | some b =>
      match input with
      | '#' :: f => .ok { b with fragment := some (encode .fragment (String.ofList f)) }
      | _ => if b.cannotBeABase then .error .relativeUrlWithCannotBeABaseBase else relative b input

/-- Read a URL. -/
def parse (text : String) : Except ParseError Url := Url.parseWith none text

/-- Resolve a reference against this URL. -/
def join (base : Url) (reference : String) : Except ParseError Url := Url.parseWith (some base) reference

/-- Replace the path. -/
def setPath (u : Url) (path : String) : Url :=
  let input := path.toList.filter (!isTabOrNewline ·)
  if u.cannotBeABase then
    let (pfx, input) := if input.head? = some '/' then ("%2F".toList, input.tail) else ([], input)
    { u with path := String.ofList (pfx ++ (parseOpaquePath .setter input).1) }
  else { u with path := String.ofList (parsePathStart u.special .setter [] input).1 }

/-- Drop a final empty segment, keeping the root slash. -/
def popIfEmpty (u : Url) : Url :=
  if u.path.length > 1 && u.path.endsWith "/" then { u with path := String.ofList u.path.toList.dropLast }
  else u

/-- Append one path segment; `.` and `..` are skipped. -/
def pushSegment (u : Url) (segment : String) : Url :=
  if segment = "." || segment = ".." then u
  else
    let path := u.path.toList
    let path := if path.length > 1 || path.isEmpty then path ++ ['/'] else path
    let input := segment.toList.filter (!isTabOrNewline ·)
    { u with path := String.ofList (parsePath u.special .segment (input.length + 1) path input).1 }

/-- Replace the query. -/
def setQuery (u : Url) (query : Option String) : Url :=
  { u with query := query.map fun q =>
      encode (if u.special then .specialQuery else .query) (String.ofList (q.toList.filter (!isTabOrNewline ·))) }

/-- Append form-encoded pairs to the query; an empty query is dropped. -/
def appendPairs (u : Url) (pairs : List (String × String)) : Url :=
  let q := pairs.foldl (fun q (k, v) =>
    (if q.isEmpty then q else q ++ "&") ++ formEncode k ++ "=" ++ formEncode v) (u.query.getD "")
  { u with query := if q.isEmpty then none else some q }

end RoomConsole.Url
