namespace StoryText

/-- A binary floating-point number of 64 bits. A finite one is `± m · 2 ^ e` with `m < 2 ^ 53` and
`-1074 ≤ e ≤ 971`, and `m` has 53 bits unless `e = -1074`. -/
inductive Binary64
  | finite (negative : Bool) (m : Nat) (e : Int)
  | infinite (negative : Bool)
  | nan
  deriving DecidableEq, Repr

namespace Binary64

def roundDiv (num den : Nat) : Nat :=
  let q := num / den
  let r := num % den
  if 2 * r < den then q
  else if den < 2 * r then q + 1
  else if q % 2 = 0 then q else q + 1

def unscale (num den : Nat) (e : Int) : Nat × Nat :=
  if 0 ≤ e then (num, den * Nat.pow 2 e.toNat) else (num * Nat.pow 2 (-e).toNat, den)

def exponentOf (num den : Nat) : Int :=
  let e := max ((Nat.log2 num : Int) - Nat.log2 den - 53) (-1074)
  let (n, d) := unscale num den e
  if Nat.pow 2 53 ≤ n / d then e + 1 else e

def ofFraction (negative : Bool) (num den : Nat) : Binary64 :=
  if num = 0 then finite negative 0 (-1074)
  else
    let e := exponentOf num den
    let (n, d) := unscale num den e
    let m := roundDiv n d
    let (m, e) := if m = Nat.pow 2 53 then (Nat.pow 2 52, e + 1) else (m, e)
    if 971 < e then infinite negative else finite negative m e

/-- The number nearest to `digits · 10 ^ e`. Outside of `10 ^ ± 400` it is infinite or zero whatever
the digits are. -/
def ofDecimal (negative : Bool) (digits : Nat) (e : Int) : Binary64 :=
  let size := (Nat.toDigits 10 digits).length + e
  if digits = 0 ∨ size < -400 then finite negative 0 (-1074)
  else if 400 < size then infinite negative
  else if 0 ≤ e then ofFraction negative (digits * Nat.pow 10 e.toNat) 1
  else ofFraction negative digits (Nat.pow 10 (-e).toNat)

def isFinite : Binary64 → Bool
  | finite .. => true
  | _ => false

def isZero : Binary64 → Bool
  | finite _ m _ => m == 0
  | _ => false

end Binary64

end StoryText
