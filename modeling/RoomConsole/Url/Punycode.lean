/-!
# Punycode

Punycode writes a string of Unicode code points with ASCII letters, digits
and hyphens: the basic (ASCII) code points first, a hyphen if there were
any, then the others as variable-length integers that say where each goes
(the bootstring parameters of RFC 3492: base 36, tmin 1, tmax 26, skew 38,
damp 700, initial bias 72, initial n 128).
-/

namespace RoomConsole.Url.Punycode

/-- The digit of a value below 36: `a`-`z`, then `0`-`9`. -/
def digit (d : Nat) : Char := if d < 26 then Char.ofNat (97 + d) else Char.ofNat (22 + d)

/-- Adapt the bias after a delta. -/
def adapt (delta numPoints : Nat) (first : Bool) : Nat :=
  let delta := if first then delta / 700 else delta / 2
  let delta := delta + delta / numPoints
  go delta 0 10
where
  /-- Divide out the steps of `35`, with fuel enough for any delta below `36^10`. -/
  go (delta k : Nat) : Nat → Nat
    | 0 => k + (36 * delta) / (delta + 38)
    | fuel + 1 => if delta > 455 then go (delta / 35) (k + 36) fuel else k + (36 * delta) / (delta + 38)

/-- The digits of one variable-length integer `q` with bias `bias`. -/
def encodeInt (q bias : Nat) : List Char :=
  go q 36 q
where
  /-- Emit digits at position `k`; `fuel` bounds their number. -/
  go (q k : Nat) : Nat → List Char
    | 0 => [digit q]
    | fuel + 1 =>
      let t := if k ≤ bias then 1 else if k ≥ bias + 26 then 26 else k - bias
      if q < t then [digit q]
      else digit (t + (q - t) % (36 - t)) :: go ((q - t) / (36 - t)) (k + 36) fuel

/-- The Punycode of code points. -/
def encode (input : List Nat) : String :=
  let basic := input.filter (· < 128)
  let b := basic.length
  let out := basic.map Char.ofNat ++ (if b > 0 then ['-'] else [])
  let rec loop (n delta bias h : Nat) (acc : List Char) : Nat → List Char
    | 0 => acc
    | fuel + 1 =>
      if h ≥ input.length then acc
      else
        let m := (input.filter (· ≥ n)).foldl min (0x110000)
        let delta := delta + (m - n) * (h + 1)
        let (delta, bias, h, acc) := input.foldl (fun (delta, bias, h, acc) c =>
          if c < m then (delta + 1, bias, h, acc)
          else if c = m then
            let acc := acc ++ encodeInt delta bias
            (0, adapt delta (h + 1) (h == b), h + 1, acc)
          else (delta, bias, h, acc)) (delta, bias, h, acc)
        loop (m + 1) (delta + 1) bias h acc fuel
  String.ofList (loop 128 0 72 b out (input.length + 1))

end RoomConsole.Url.Punycode
