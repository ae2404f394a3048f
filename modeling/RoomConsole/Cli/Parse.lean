import RoomConsole.Cli.Fault
import RoomConsole.Cli.Similar

/-!
# Reading a command line

A command line is read one command at a time. At each command the words are
taken in order: a word that names a subcommand hands the rest of the line to
it; `--` makes every later word a positional value; `--name`,
`--name=value`, `-n`, `-nvalue` and bundled short flags `-abc` are options;
a word after an option that takes a value is that value; any other word is
the next positional value.

An option's value is checked when the next argument is taken, or at the end
of the command; an unknown option found first wins over a bad value before
it. After the words, an argument not given takes its environment variable,
then its default; then the command checks what it needs: a subcommand, the
required arguments, no two arguments that exclude each other.

A subcommand is read, and checked, before the command above it finishes:
the deeper error is reported first.

Reading stops early to show help (`-h` short, `--help` long, or the `help`
subcommand), the version, or the short help when a command that needs
arguments is given none.
-/

namespace RoomConsole.Cli

/-- Where an argument's values came from; a later source wins. -/
inductive Origin where
  | defaultValue
  | environment
  | commandLine
  deriving DecidableEq, Repr

/-- The rank of a source: the command line over the environment over
defaults. -/
def Origin.rank : Origin → Nat
  | .defaultValue => 0
  | .environment => 1
  | .commandLine => 2

/-- Given by the user, on the command line or in the environment. -/
def Origin.explicit (o : Origin) : Bool := o ≠ .defaultValue

/-- An argument's values, as given. -/
structure Given where
  id : String
  origin : Origin
  values : List String := []
  deriving Repr

/-- How an argument was named when it was given. -/
inductive Naming where
  | short
  | long
  | positional
  | implicit
  deriving DecidableEq

/-- Values collected for an argument and not yet checked. -/
structure Pending where
  id : String
  naming : Naming
  values : List String := []

/-- What the next word may be. -/
inductive Awaiting where
  | nothing
  /-- The value of an option. -/
  | valueOf (id : String)
  /-- More values of a positional list. -/
  | moreOf (id : String)
  deriving DecidableEq

/-- The state of reading one command's words. -/
structure Level where
  given : List Given := []
  pending : Option Pending := none
  awaiting : Awaiting := .nothing
  /-- The index of the next positional value. -/
  position : Nat := 1
  validArgFound : Bool := false
  /-- After `--`: every word is a positional value. -/
  trailing : Bool := false

/-- Why reading stopped without a result. -/
inductive Stop where
  | fault (f : Fault)
  /-- Show a command's help, long or short. -/
  | help (c : Command) (long : Bool)
  /-- Show a command's version. -/
  | version (c : Command)
  /-- Show a command's short help as an error: it was given nothing. -/
  | helpOnEmpty (c : Command)

/-- A command line read to its end: each command on the way with the
arguments given to it. -/
abbrev Reading := List (Command × List Given)

/-! ## Values -/

/-- The error text of a failed integer reading. -/
def integerFault (tooLarge : Bool) : String :=
  if tooLarge then "number too large to fit in target type" else "number too small to fit in target type"

/-- Read decimal digits onto `acc`, failing at the first non-digit or when
the value leaves `[lo, hi]`; digits are taken from the left. -/
def digitsInto (lo hi : Int) (negative : Bool) : Int → List Char → Except String Int
  | acc, [] => .ok acc
  | acc, c :: rest =>
    if !c.isDigit then .error "invalid digit found in string"
    else
      let d : Int := (c.toNat - 48 : Nat)
      let next := if negative then acc * 10 - d else acc * 10 + d
      if next > hi then .error (integerFault true)
      else if next < lo then .error (integerFault false)
      else digitsInto lo hi negative next rest

/-- Read a whole number of a machine type with range `[lo, hi]`: an optional
`+`, or `-` when the type is signed, then decimal digits. -/
def readInteger (lo hi : Int) (s : String) : Except String Int :=
  match s.toList with
  | [] => .error "cannot parse integer from empty string"
  | ['+'] | ['-'] => .error "invalid digit found in string"
  | '+' :: ds => digitsInto lo hi false 0 ds
  | '-' :: ds => if lo < 0 then digitsInto lo hi true 0 ds else .error "invalid digit found in string"
  | ds => digitsInto lo hi false 0 ds

/-- The smallest signed 64-bit integer. -/
def minI64 : Int := -(Nat.pow 2 63 : Int)

/-- The greatest signed 64-bit integer. -/
def maxI64 : Int := (Nat.pow 2 63 : Int) - 1

/-- The greatest unsigned 64-bit integer. -/
def maxU64 : Int := (Nat.pow 2 64 : Int) - 1

/-- A fault about a command, with the pointer to its help. -/
def Command.fault (c : Command) (p : Problem) : Fault := { problem := p, tryHelp := c.helpPointer }

/-- A value that is not one of the names allowed, with the most similar one
as a tip. -/
def invalidChoice (c : Command) (a : Arg) (v : String) (names : List String) : Stop :=
  let f := c.fault (.invalidValue a.display v names)
  .fault { f with similar := (mostSimilar v names).map fun s => ("value", [s]) }

/-- Check one value of an argument. -/
def checkValue (c : Command) (a : Arg) (v : String) : Except Stop Unit :=
  match a.kind with
  | .text => .ok ()
  | .path => if v.isEmpty then .error (.fault (c.fault (.invalidValue a.display "" []))) else .ok ()
  | .bounded lo hi =>
    match readInteger minI64 maxI64 v with
    | .error e => .error (.fault (c.fault (.valueValidation a.display v e)))
    | .ok n =>
      if lo ≤ n && n ≤ hi then .ok ()
      else .error (.fault (c.fault (.valueValidation a.display (toString n)
        (toString n ++ " is not in " ++ toString lo ++ "..=" ++ toString hi))))
  | .natural =>
    match readInteger 0 maxU64 v with
    | .error e => .error (.fault (c.fault (.valueValidation a.display v e)))
    | .ok _ => .ok ()
  | .choice cs =>
    let names := cs.map (·.name)
    if names.contains v then .ok () else .error (invalidChoice c a v names)
  | .truth =>
    if v = "true" || v = "false" then .ok ()
    else .error (invalidChoice c a v ["true", "false"])

/-- Check every value of an argument, the first failure winning. -/
def checkValues (c : Command) (a : Arg) : List String → Except Stop Unit
  | [] => .ok ()
  | v :: rest => do checkValue c a v; checkValues c a rest

/-! ## Taking arguments -/

namespace Level

/-- The values given for an argument. -/
def find (lv : Level) (id : String) : Option Given := lv.given.find? (·.id = id)

/-- The argument was given. -/
def has (lv : Level) (id : String) : Bool := (lv.find id).isSome

/-- The argument was given by the user. -/
def hasExplicit (lv : Level) (id : String) : Bool :=
  match lv.find id with
  | some g => g.origin.explicit
  | none => false

/-- The ids of the arguments the user gave, in the order first given. -/
def explicitIds (lv : Level) : List String :=
  (lv.given.filter (·.origin.explicit)).map (·.id)

/-- Forget an argument's values. -/
def drop (lv : Level) (id : String) : Level := { lv with given := lv.given.filter (·.id ≠ id) }

end Level

/-- Take an argument with its values, the pending values already checked:
record its values, or stop for help and version. -/
def apply (c : Command) (lv : Level) (a : Arg) (naming : Naming) (origin : Origin)
    (values : List String) : Except Stop Level := do
  if origin = .commandLine && a.takesValue && !a.isPositional && values.isEmpty then
    throw (.fault (c.fault (.invalidValue a.display "" (a.choices.map (·.name)))))
  let twice : Stop := .fault { c.fault (.conflict a.display [a.display]) with
                               usage := some (c.usageLine []) }
  match a.action with
  | .set =>
    if lv.has a.id then throw twice
    checkValues c a values
    pure { lv with given := lv.given ++ [{ id := a.id, origin, values }] }
  | .append =>
    checkValues c a values
    match lv.find a.id with
    | some g =>
      pure { lv with given := lv.given.map fun x =>
        if x.id = a.id then { x with origin, values := g.values ++ values } else x }
    | none => pure { lv with given := lv.given ++ [{ id := a.id, origin, values }] }
  | .flag =>
    let values := if values.isEmpty then ["true"] else values
    if lv.has a.id then throw twice
    checkValues c a values
    pure { lv with given := lv.given ++ [{ id := a.id, origin, values }] }
  | .count =>
    let before := ((lv.find a.id).bind fun g => g.values.head?.bind String.toNat?).getD 0
    let values := if values.isEmpty then [toString (min 255 (before + 1))] else values
    pure { (lv.drop a.id) with given := (lv.drop a.id).given ++ [{ id := a.id, origin, values }] }
  | .help => throw (.help c (naming ≠ .short))
  | .version => throw (.version c)

/-- Take the pending values, if any. -/
def resolvePending (c : Command) (lv : Level) : Except Stop Level :=
  match lv.pending with
  | none => .ok lv
  | some p =>
    match c.findArg p.id with
    | some a => apply c { lv with pending := none } a p.naming .commandLine p.values
    | none => .ok { lv with pending := none }

/-- Take an argument after the pending values. -/
def react (c : Command) (lv : Level) (a : Arg) (naming : Naming) (origin : Origin)
    (values : List String) : Except Stop Level := do
  let lv ← resolvePending c lv
  apply c lv a naming origin values

/-- What an option word comes to. -/
inductive Taken where
  /-- The option and its value, if any, are taken. -/
  | done (lv : Level)
  /-- The option awaits its value in the next word. -/
  | expects (id : String) (lv : Level)
  /-- No option has this name. -/
  | unknown (name : String)
  /-- A value is attached to an option that takes none. -/
  | unneeded (value : String) (arg : Arg)

/-- Take an option that takes a value, given its attached value if any. -/
def takeValued (c : Command) (lv : Level) (a : Arg) (naming : Naming) (attached : Option String) :
    Except Stop Taken :=
  match attached with
  | some v => do return .done (← react c lv a naming .commandLine [v])
  | none => do
    let lv ← resolvePending c lv
    return .expects a.id { lv with pending := some { id := a.id, naming } }

/-- Take a word `--name` or `--name=value`. -/
def takeLong (c : Command) (lv : Level) (name : String) (attached : Option String) :
    Except Stop Taken :=
  match c.findLong name with
  | none => .ok (.unknown name)
  | some a =>
    let lv := { lv with validArgFound := true }
    if a.takesValue then takeValued c lv a .long attached
    else match attached with
      | some v => .ok (.unneeded v a)
      | none => do return .done (← react c lv a .long .commandLine [])

/-- Take the letters of a word `-abc`: flags in turn, and for an option that
takes a value, the rest of the word (after an optional `=`) as its value. -/
def takeShorts (c : Command) (lv : Level) : List Char → Except Stop Taken
  | [] => .ok (.done lv)
  | ch :: rest =>
    match c.findShort ch with
    | none => .ok (.unknown ("-" ++ String.singleton ch))
    | some a =>
      let lv := { lv with validArgFound := true }
      if a.takesValue then
        let attached := match rest with
          | [] => none
          | '=' :: v => some (String.ofList v)
          | v => some (String.ofList v)
        takeValued c lv a .short attached
      else do
        let lv ← react c lv a .short .commandLine []
        takeShorts c lv rest

/-! ## Errors about words -/

/-- The long names of a command's options, in order. -/
def Command.longNames (c : Command) : List String := c.args.filterMap (·.long)

/-- The first place a word stands in a list. -/
def positionIn (w : String) (ws : List String) : Option Nat := ws.findIdx? (· = w)

/-- A similar option: one of the command's, or else one of a subcommand named
later on the line, the one named soonest. -/
def similarOption (c : Command) (name : String) (rest : List String) : Option (String × Option String) :=
  match mostSimilar name c.longNames with
  | some l => some (l, none)
  | none =>
    let found := c.subcommands.filterMap fun s =>
      match mostSimilar name s.longNames, positionIn s.name rest with
      | some l, some p => some (p, l, s.name)
      | _, _ => none
    match found.foldl (fun best x => match best with
        | some b => if x.1 < b.1 then some x else some b
        | none => some x) none with
    | some (_, l, s) => some (l, some s)
    | none => none

/-- The tip for passing a word that looks like an option as a value. -/
def trailingTip (word : String) (before : String) : Styled :=
  Styled.text "to pass '" ++ Styled.tone .invalid word ++ Styled.text "' as a value, use '"
    ++ Styled.tone .valid (before ++ "-- " ++ word) ++ Styled.text "'"

/-- The error for an unknown long option, with a similar one as a tip. -/
def unknownLong (c : Command) (lv : Level) (name : String) (rest : List String) : Stop :=
  let similar := similarOption c name rest
  let lv : Level := match similar with
    | some (l, none) =>
      match c.findLong l with
      | some a => if lv.has a.id then lv
          else { lv with given := lv.given ++ [{ id := a.id, origin := .commandLine }] }
      | none => lv
    | _ => lv
  let arg := "--" ++ name
  let trailing := similar.isNone && !lv.trailing && !c.positionals.isEmpty
  let tips := (if trailing then [trailingTip arg ""] else [])
    ++ (match similar with
      | some (l, some s) => [Styled.text "'" ++ Styled.tone .valid (s ++ " --" ++ l) ++ Styled.text "' exists"]
      | _ => [])
  .fault { c.fault (.unknownArgument arg) with
    similar := (match similar with
      | some (l, none) => some ("argument", ["--" ++ l])
      | _ => none),
    tips, usage := some (c.usageLine lv.explicitIds) }

/-- The error for an unknown short option. -/
def unknownShort (c : Command) (lv : Level) (arg : String) : Stop :=
  let trailing := !lv.trailing && !c.positionals.isEmpty
  .fault { c.fault (.unknownArgument arg) with
    tips := if trailing then [trailingTip arg ""] else [],
    usage := some (c.usageLine []) }

/-- The error for a word that no positional value or subcommand takes. -/
def unplaced (c : Command) (lv : Level) (w : String) : Stop :=
  if lv.trailing && (c.findSubcommand w).isSome then
    .fault { c.fault (.unknownArgument w) with
      tips := [Styled.text "subcommand '" ++ Styled.tone .valid w
        ++ Styled.text "' exists; to use it, remove the '" ++ Styled.tone .invalid "--"
        ++ Styled.text "' before it"],
      usage := some (c.usageLine []) }
  else
    let trailing := !lv.trailing && !c.positionals.isEmpty && w.startsWith "-"
    let similar := similarNames w c.subcommandNames
    if !c.subcommands.isEmpty && !similar.isEmpty then
      .fault { c.fault (.unrecognizedSubcommand w) with
        similar := some ("subcommand", similar),
        tips := if trailing then [trailingTip w (c.path ++ " ")] else [],
        usage := some (c.usageLine []) }
    else if !c.subcommands.isEmpty && c.positionals.isEmpty then
      .fault { c.fault (.unrecognizedSubcommand w) with usage := some (c.usageLine []) }
    else
      .fault { c.fault (.unknownArgument w) with
        tips := if trailing then [trailingTip w ""] else [],
        usage := some (c.usageLine []) }

/-- Follow the words after `help` down the tree and show that command's long
help. -/
def helpFor (c : Command) : List String → Stop
  | [] => .help c true
  | w :: rest =>
    match c.findSubcommand w with
    | some s => helpFor s rest
    | none => .fault { c.fault (.unrecognizedSubcommand w) with usage := some (c.usageLine []) }

/-! ## Reading one command -/

/-- Take a word as the next positional value. -/
def takePositional (c : Command) (lv : Level) (w : String) : Except Stop Level :=
  match c.positionalAt lv.position with
  | none => .error (unplaced c lv w)
  | some p => do
    let same := match lv.pending with
      | some pd => pd.id = p.id
      | none => false
    let lv ← if same && p.action = .append then pure lv else resolvePending c lv
    let pending := match lv.pending with
      | some pd => if pd.id = p.id then { pd with values := pd.values ++ [w] }
                   else { id := p.id, naming := .positional, values := [w] }
      | none => { id := p.id, naming := .positional, values := [w] }
    let lv := { lv with pending := some pending, validArgFound := true }
    if p.action = .append then pure { lv with awaiting := .moreOf p.id }
    else pure { lv with position := lv.position + 1, awaiting := .nothing }

/-- Read a command's words up to a subcommand or the end: the state reached,
and the subcommand with the words after it. -/
def readWords (c : Command) (lv : Level) : List String → Except Stop (Level × Option (Command × List String))
  | [] => .ok (lv, none)
  | w :: rest =>
    let inList := match lv.awaiting with
      | .moreOf _ => true
      | _ => false
    if lv.trailing then do
      readWords c (← takePositional c lv w) rest
    else match (if inList then none else c.findSubcommand w) with
    | some s => if s.isHelp then .error (helpFor c rest) else .ok (lv, some (s, rest))
    | none =>
      if w = "--" then readWords c { lv with trailing := true } rest
      else if w.startsWith "--" then do
        let body := (w.toList.drop 2)
        let name := String.ofList (body.takeWhile (· ≠ '='))
        let attached := if body.contains '=' then some (String.ofList ((body.dropWhile (· ≠ '=')).drop 1))
                        else none
        match ← takeLong c lv name attached with
        | .done lv => readWords c { lv with awaiting := .nothing } rest
        | .expects id lv => readWords c { lv with awaiting := .valueOf id } rest
        | .unknown n => throw (unknownLong c lv n rest)
        | .unneeded v a =>
          let used := (lv.explicitIds.filter fun i => match c.findArg i with
            | some x => !x.required
            | none => true) ++ [a.id]
          throw (.fault { c.fault (.unexpectedValue v a.display) with usage := some (c.usageLine used) })
      else if w.startsWith "-" && w ≠ "-" then do
        match ← takeShorts c lv (w.toList.drop 1) with
        | .done lv => readWords c { lv with awaiting := .nothing } rest
        | .expects id lv => readWords c { lv with awaiting := .valueOf id } rest
        | .unknown n => throw (unknownShort c lv n)
        | .unneeded _ _ => readWords c lv rest
      else match lv.awaiting with
        | .valueOf id =>
          let pending := match lv.pending with
            | some pd => { pd with values := pd.values ++ [w] }
            | none => { id, naming := .implicit, values := [w] }
          readWords c { lv with pending := some pending, awaiting := .nothing } rest
        | _ => do readWords c (← takePositional c lv w) rest

/-- Give the arguments not on the command line their environment values,
then their defaults. -/
def fillIn (c : Command) (env : String → Option String) (lv : Level) : Except Stop Level := do
  let lv ← c.args.foldlM (fun lv a =>
    if lv.has a.id then pure lv
    else match a.env.bind env with
      | some v => react c lv a .implicit .environment [v]
      | none => pure lv) lv
  c.args.foldlM (fun lv a =>
    if lv.has a.id then pure lv
    else match a.implicitDefault with
      | some v => react c lv a .implicit .defaultValue [v]
      | none => pure lv) lv

/-- The arguments that exclude a given one among those the user gave: the
ones it names, and the ones that name it. -/
def conflictsOf (c : Command) (lv : Level) (id : String) : List String :=
  let own := ((c.findArg id).map (·.conflicts)).getD []
  (lv.explicitIds.filter fun o => o ≠ id && (own.contains o ||
    (((c.findArg o).map (·.conflicts)).getD []).contains id))

/-- The first argument given with one it excludes. -/
def checkConflicts (c : Command) (lv : Level) : Except Stop Unit :=
  match lv.explicitIds.find? fun id => !(conflictsOf c lv id).isEmpty with
  | none => .ok ()
  | some id =>
    let others := conflictsOf c lv id
    let shown := others.filterMap fun o => (c.findArg o).map (·.display)
    let used := lv.explicitIds.filter fun i => !others.contains i
    let display := ((c.findArg id).map (·.display)).getD id
    .error (.fault { c.fault (.conflict display shown.eraseDups) with usage := some (c.usageLine used) })

/-- The required arguments the user did not give: those always required
(unless they exclude one given), those required unless others are present,
and the positional values before the last one missing. -/
def missingArgs (c : Command) (lv : Level) : List String :=
  let absent := c.args.filter fun a => !lv.hasExplicit a.id
  let always := (absent.filter fun a => a.required && (conflictsOf c { lv with given := lv.given ++
      [{ id := a.id, origin := .commandLine }] } a.id).isEmpty).map (·.id)
  let unlessGiven := (absent.filter fun a => !a.requiredUnless.isEmpty &&
      !a.requiredUnless.any lv.hasExplicit).map (·.id)
  let missing := always ++ unlessGiven
  let highest := (missing.filterMap fun i => (c.findArg i).bind (·.index)).foldl max 0
  missing ++ (c.positionals.filter fun p => !lv.hasExplicit p.id && p.index.getD 0 < highest).map (·.id)

/-- How the missing arguments are listed: options first, then positional
values by index, each once. -/
def missingShown (c : Command) (lv : Level) (missing : List String) : List String :=
  let wanted := ((c.args.filter (·.required)).map (·.id) ++ missing).filter fun i => !lv.hasExplicit i
  let args := wanted.filterMap c.findArg
  let opts := ((args.filter fun a => !a.isPositional).map fun a => a.shown true).eraseDups
  let pos := (c.positionals.filter fun p => wanted.contains p.id).map fun p => p.shown true
  opts ++ pos

/-- Check what a command needs once its words are read. -/
def validate (c : Command) (lv : Level) (hasSub : Bool) : Except Stop Unit := do
  if let .valueOf id := lv.awaiting then
    if ((lv.find id).map (·.values.isEmpty)).getD true then
      match c.findArg id with
      | some a => throw (.fault (c.fault (.invalidValue a.display "" (a.choices.map (·.name)))))
      | none => pure ()
  if !hasSub && c.helpWhenEmpty && lv.explicitIds.isEmpty then throw (.helpOnEmpty c)
  if !hasSub && c.subcommandRequired then
    throw (.fault { c.fault (.missingSubcommand c.path c.subcommandNames) with
      usage := some (c.usageLine []) })
  checkConflicts c lv
  let missing := missingArgs c lv
  if !missing.isEmpty then
    throw (.fault { c.fault (.missingRequired (missingShown c lv missing)) with
      usage := some (c.usageLine (lv.explicitIds ++ missing)) })

/-- Read a command line against a command, with `fuel` bounding the depth of
subcommands. -/
def readWith (env : String → Option String) : Nat → Command → List String → Except Stop Reading
  | 0, _, _ => .ok []
  | fuel + 1, c, words => do
    let (lv, sub) ← readWords c {} words
    let below ← match sub with
      | some (s, rest) => readWith env fuel s rest
      | none => pure []
    let lv ← resolvePending c lv
    let lv ← fillIn c env lv
    validate c lv sub.isSome
    return (c, lv.given) :: below

/-- Read a command line against a command tree. -/
def read (root : Command) (env : String → Option String) (words : List String) : Except Stop Reading :=
  readWith env (words.length + 1) root words

/-! ## Global arguments -/

/-- The final values of the global arguments: along the commands read, a
value given at a deeper command wins unless the one above came from a
stronger source. -/
def globalValues (r : Reading) : List Given :=
  let ids := (r.flatMap fun (c, _) => (c.args.filter (·.isGlobal)).map (·.id)).eraseDups
  r.foldl (fun acc (_, given) =>
    ids.foldl (fun acc id =>
      match given.find? (·.id = id) with
      | none => acc
      | some g =>
        match acc.find? (·.id = id) with
        | some p => if p.origin.rank > g.origin.rank then acc
                    else acc.map fun x => if x.id = id then g else x
        | none => acc ++ [g]) acc) []

end RoomConsole.Cli
