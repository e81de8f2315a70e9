/-
  ClockDiscipline.Number.Binary64 — doubles as exact numbers.

  A finite double is a sign, a mantissa `m` and a power of two `q`: its size is m * 2^q.
  `view` takes the bits apart; rounding to an integer and cutting off the fraction are
  exact integer arithmetic on the parts. A half is rounded away from zero.
-/

namespace ClockDiscipline.Binary64

/-- What the 64 bits of a double stand for. -/
inductive View where
  | finite (negative : Bool) (m : Nat) (q : Int)
  | infinite (negative : Bool)
  | nan
  deriving DecidableEq, Repr

/-- Bits 52 to 62, the exponent field. -/
def exponentField (bits : UInt64) : Nat := (bits / 0x10000000000000 % 0x800).toNat

/-- The low 52 bits. -/
def fractionField (bits : UInt64) : Nat := (bits % 0x10000000000000).toNat

def view (x : Float) : View :=
  let bits := x.toBits
  let negative := decide (0x8000000000000000 ≤ bits)
  let e := exponentField bits
  let f := fractionField bits
  if e = 2047 then (if f = 0 then .infinite negative else .nan)
  else if e = 0 then .finite negative f (-1074)
  else .finite negative (0x10000000000000 + f) ((e : Int) - 1075)

/-- Not zero, subnormal, infinite or NaN. -/
def isNormal (x : Float) : Bool :=
  let e := exponentField x.toBits
  e != 0 && e != 2047

/-- The size m * 2^q as a fraction. -/
def ratio (m : Nat) (q : Int) : Nat × Nat :=
  match q with
  | .ofNat k => (m * Nat.pow 2 k, 1)
  | .negSucc k => (m, Nat.pow 2 (k + 1))

/-- The integer next to `num / den`, a half going up. -/
def roundHalfUp (num den : Nat) : Nat := (2 * num + den) / (2 * den)

/-- The integer next to `num / den`, a half going to the even one. -/
def roundHalfEven (num den : Nat) : Nat :=
  let n := num / den
  let twice := 2 * (num % den)
  if twice < den then n else if den < twice then n + 1 else if n % 2 = 0 then n else n + 1

/-- The double with this sign and whole size. -/
def signed (negative : Bool) (n : Nat) : Float := if negative then -(Float.ofNat n) else Float.ofNat n

/-- The integer next to `x`, a half going away from zero; the sign of a zero is kept. -/
def round (x : Float) : Float :=
  match view x with
  | .finite negative m q =>
    if 0 ≤ q then x else let r := ratio m q; signed negative (roundHalfUp r.1 r.2)
  | _ => x

/-- The whole part of `x`, put between the ends of the 32-bit range; 0 for NaN. -/
def toInt32 (x : Float) : Int32 :=
  match view x with
  | .finite negative m q =>
    let r := ratio m q
    let n : Int := if negative then -((r.1 / r.2 : Nat) : Int) else ((r.1 / r.2 : Nat) : Int)
    Int32.ofInt (max (-2147483648) (min n 2147483647))
  | .infinite negative => if negative then Int32.minValue else Int32.maxValue
  | .nan => 0

end ClockDiscipline.Binary64
