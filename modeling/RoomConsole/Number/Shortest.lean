/-!
# Shortest decimal text of a double

A finite double is `m · 2^e`. Every real strictly between it and the
midpoints to its two neighbours reads back as the same double, and so do the
midpoints themselves when `m` is even (reading rounds half to even). The
**shortest** decimal of a double is the decimal with the fewest significant
digits inside that interval; of two such decimals the nearer one wins, and an
exact tie goes to the even last digit.

`shortest` finds it by trying the grids of 1, 2, … 17 significant digits in
exact `Nat` arithmetic: on each grid only the two grid points next to the
value can be the nearest hit, and 17 digits always hit.

`render` writes the result the way the diagnostics of this program do:
positional for magnitudes from `1e-5` up to `1e16`, otherwise one digit, a
point, the rest and an exponent with its sign (`1.8446744073709552e+19`);
positional text always shows a point (`1000.0`).
-/

namespace RoomConsole.Number

/-- A finite double split into sign, integer mantissa and binary exponent. -/
structure Binary where
  negative : Bool
  mantissa : Nat
  exponent : Int
  /-- The gap to the next smaller double is half the gap to the next larger
  one: the mantissa is the smallest of a binade above the subnormals. -/
  narrowBelow : Bool
  deriving Repr, DecidableEq

/-- The parts of a double given by its bits; `none` for infinities and NaN. -/
def Binary.ofBits (bits : UInt64) : Option Binary :=
  let b : Nat := bits.toNat
  let negative : Bool := b / Nat.pow 2 63 % 2 = 1
  let biased : Nat := b / Nat.pow 2 52 % Nat.pow 2 11
  let fraction : Nat := b % Nat.pow 2 52
  if biased = 2047 then none
  else if biased = 0 then some ⟨negative, fraction, -1074, false⟩
  else some ⟨negative, fraction + Nat.pow 2 52, (biased : Int) - 1075, fraction = 0 && biased > 1⟩

/-- A decimal `digits · 10^exponent`. -/
structure Decimal where
  digits : Nat
  exponent : Int
  deriving Repr, DecidableEq

/-- Drop trailing zero digits, raising the exponent; zero stays zero. -/
def Decimal.normalize (d : Decimal) : Decimal :=
  go d.digits d.exponent d.digits
where
  go (t : Nat) (k : Int) : Nat → Decimal
    | 0 => ⟨t, k⟩
    | fuel + 1 => if t ≠ 0 ∧ t % 10 = 0 then go (t / 10) (k + 1) fuel else ⟨t, k⟩

/-- The number of decimal digits of a positive number (1 for 0). -/
def digitCount (n : Nat) : Nat := (Nat.toDigits 10 n).length

/-- `⌊log₁₀ (num / den)⌋` for positive `num` and `den`. -/
def floorLog10 (num den : Nat) : Int :=
  if num ≥ den then
    ((digitCount (num / den) : Nat) : Int) - 1
  else
    -- the least `k` with `num · 10^k ≥ den`, found within the digits of `den`
    let k := (List.range (digitCount den + 1)).find? (fun k => num * Nat.pow 10 k ≥ den)
    Int.neg (k.getD (digitCount den))

/-- The value and the bounds of its rounding interval, all scaled by `2^a`
so that they are whole numbers: `(value, below, above)` where the interval is
`[value - below, value + above]`. -/
def Binary.scaled (x : Binary) : Nat × Nat × Nat × Nat :=
  let a : Nat := (2 - x.exponent).toNat
  let s : Nat := (x.exponent + a).toNat
  let value := x.mantissa * Nat.pow 2 s
  let above := Nat.pow 2 (s - 1)
  let below := if x.narrowBelow then Nat.pow 2 (s - 2) else Nat.pow 2 (s - 1)
  (value, below, above, a)

/-- Whether `c` lies in `[lo, hi]`, ends included exactly when `closed`. -/
def within (closed : Bool) (lo hi c : Nat) : Bool :=
  if closed then lo ≤ c && c ≤ hi else lo < c && c < hi

/-- On the grid `10^j`, the nearest grid point to the value that lies in the
rounding interval, if one does. -/
def Binary.gridHit (x : Binary) (j : Int) : Option Decimal :=
  let (value, below, above, a) := x.scaled
  let p := Nat.pow 10 (-j).toNat
  let unit := Nat.pow 10 j.toNat * Nat.pow 2 a
  let v := value * p
  let lo := v - below * p
  let hi := v + above * p
  let closed := x.mantissa % 2 = 0
  let tf := v / unit
  let tc := if v % unit = 0 then tf else tf + 1
  let okF := within closed lo hi (tf * unit)
  let okC := within closed lo hi (tc * unit)
  if okF && okC then
    let dF := v - tf * unit
    let dC := tc * unit - v
    if dF < dC then some ⟨tf, j⟩
    else if dC < dF then some ⟨tc, j⟩
    else if tf % 2 = 0 then some ⟨tf, j⟩ else some ⟨tc, j⟩
  else if okF then some ⟨tf, j⟩
  else if okC then some ⟨tc, j⟩
  else none

/-- The shortest decimal that reads back as the double (mantissa positive). -/
def Binary.shortest (x : Binary) : Decimal :=
  if x.mantissa = 0 then ⟨0, 0⟩
  else
    let (value, _, _, a) := x.scaled
    let e := floorLog10 value (Nat.pow 2 a)
    let hit := (List.range 17).findSome? fun i => x.gridHit (e - ((i : Nat) : Int))
    (hit.getD ⟨value, -(a : Int)⟩).normalize

/-- How positional and exponent notation split, and how exponents are marked. -/
structure Style where
  /-- Positional notation while the decimal point sits at most this many
  digits to the right of the first digit. -/
  maxPositional : Nat := 16
  /-- Positional notation while at most this many zeros follow the point
  before the first digit. -/
  maxLeadingZeros : Nat := 4
  /-- The mark between mantissa and exponent. -/
  exponentMark : String := "e"
  /-- Whether a positive exponent carries `+`. -/
  plusSign : Bool := true

/-- The text of the diagnostics: `3.5`, `1000.0`, `1.8446744073709552e+19`. -/
def Style.diagnostic : Style := {}

/-- The decimal text of a non-negative decimal with no trailing zero digits. -/
def Style.render (st : Style) (d : Decimal) : String :=
  let s := (Nat.toDigits 10 d.digits)
  let len : Int := s.length
  let kk := len + d.exponent
  let zeros (n : Nat) := String.ofList (List.replicate n '0')
  let expText (x : Int) :=
    st.exponentMark ++ (if x < 0 then "-" else if st.plusSign then "+" else "") ++ toString x.natAbs
  if d.digits = 0 then "0.0"
  else if 0 ≤ d.exponent ∧ kk ≤ st.maxPositional then
    String.ofList s ++ zeros d.exponent.toNat ++ ".0"
  else if 0 < kk ∧ kk ≤ st.maxPositional then
    String.ofList (s.take kk.toNat) ++ "." ++ String.ofList (s.drop kk.toNat)
  else if -(st.maxLeadingZeros + 1 : Int) < kk ∧ kk ≤ 0 then
    "0." ++ zeros (-kk).toNat ++ String.ofList s
  else if s.length = 1 then
    String.ofList s ++ expText (kk - 1)
  else
    String.ofList (s.take 1) ++ "." ++ String.ofList (s.drop 1) ++ expText (kk - 1)

/-- The shortest text of a double in the given style; infinities and NaN
are written `inf`, `-inf` and `NaN`. -/
def Style.ofFloat (st : Style) (f : Float) : String :=
  match Binary.ofBits f.toBits with
  | none => if f.isNaN then "NaN" else if f < 0 then "-inf" else "inf"
  | some x => (if x.negative then "-" else "") ++ st.render x.shortest

end RoomConsole.Number
