import StoryText.Number.Binary64
import StoryText.Text.Digits

namespace StoryText.Binary64

open Text (decimal)

/-- The fractions that round to `m · 2 ^ e`, as bounds over one denominator with the value between
them. The bounds themselves belong to the interval if `m` is even. -/
structure Interval where
  lo : Nat
  mid : Nat
  hi : Nat
  den : Nat
  closed : Bool

def interval (m : Nat) (e : Int) : Interval :=
  let below := if m = Nat.pow 2 52 ∧ -1074 < e then 1 else 2
  let scale := Nat.pow 2 (e - 2).toNat
  ⟨(4 * m - below) * scale, 4 * m * scale, (4 * m + 2) * scale, Nat.pow 2 (2 - e).toNat, m % 2 == 0⟩

def Interval.contains (i : Interval) (num : Nat) : Bool :=
  if i.closed then decide (i.lo ≤ num) && decide (num ≤ i.hi)
  else decide (i.lo < num) && decide (num < i.hi)

def Interval.inUnits (i : Interval) (p : Int) : Interval × Nat :=
  let up := Nat.pow 10 (-p).toNat
  ({ i with lo := i.lo * up, mid := i.mid * up, hi := i.hi * up }, i.den * Nat.pow 10 p.toNat)

/-- The point of the grid of step `10 ^ p` nearest to the value, if it lies in the interval. Of two
that are equally near the upper one is taken. -/
def Interval.pick? (i : Interval) (p : Int) : Option Nat :=
  let (j, unit) := i.inUnits p
  let a := j.mid / unit
  let nearest := if 2 * (j.mid - a * unit) < unit then [a, a + 1] else [a + 1, a]
  nearest.find? fun k => j.contains (k * unit)

def Interval.coarsest (i : Interval) : Nat → Int → Nat × Int
  | 0, p => ((i.pick? p).getD 0, p)
  | fuel + 1, p => match i.pick? p with
    | some k => (k, p)
    | none => i.coarsest fuel (p - 1)

/-- The fewest digits that read back as a positive number, and the power of ten of the last. No
number reaches `10 ^ 309`, and all are apart by more than `10 ^ -324`. -/
def shortest (m : Nat) (e : Int) : Nat × Int := (interval m e).coarsest 633 309

def positional (digits : Nat) (e : Int) : Text :=
  let ds := decimal digits
  if 0 ≤ e then ds ++ List.replicate e.toNat '0'
  else
    let places := (-e).toNat
    let ds := Text.padLeft (places + 1) '0' ds
    ds.take (ds.length - places) ++ '.' :: ds.drop (ds.length - places)

def toText : Binary64 → Text
  | nan => "NaN".toList
  | infinite negative => (if negative then "-inf" else "inf").toList
  | finite negative m e =>
    let t := if m = 0 then ['0'] else positional (shortest m e).1 (shortest m e).2
    if negative then '-' :: t else t

def toPointText (x : Binary64) : Text :=
  let t := x.toText
  if x.isFinite && !t.contains '.' then t ++ ['.', '0'] else t

end StoryText.Binary64
