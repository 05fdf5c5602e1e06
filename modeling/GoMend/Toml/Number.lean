import GoMend.Toml.Basic

/-!
# Numbers in TOML

A word is an integer if it is written to one of four bases and fits into 64 bits, and it
is a floating-point number if it has decimal places or an exponent.  A number that is too
large for a double is no word of the notation, unless it is negative.
-/

namespace GoMend.Toml

/-! ## Digits -/

/-- The value of a hexadecimal digit. -/
def hexDigit? (c : Char) : Option Nat :=
  if '0' ≤ c ∧ c ≤ '9' then some (c.toNat - '0'.toNat)
  else if 'a' ≤ c ∧ c ≤ 'f' then some (c.toNat - 'a'.toNat + 10)
  else if 'A' ≤ c ∧ c ≤ 'F' then some (c.toNat - 'A'.toNat + 10)
  else none

/-- The value of digits to a base, the first digit counting most. -/
def valueOf (base : Nat) (digits : List Nat) : Nat :=
  digits.foldl (fun value digit => value * base + digit) 0

/-- The values of digits to a base.  Single underscores may stand between them. -/
def digits? (base : Nat) : List Char → Option (List Nat)
  | [] => none
  | [c] => (digit? c).map ([·])
  | c :: '_' :: rest => do
      let digit ← digit? c
      return digit :: (← digits? base rest)
  | c :: rest => do
      let digit ← digit? c
      return digit :: (← digits? base rest)
where
  /-- The value of a digit below the base. -/
  digit? (c : Char) : Option Nat :=
    (hexDigit? c).filter (· < base)

/-- The value of decimal digits without superfluous zeros in front. -/
def decimal? : List Char → Option Nat
  | ['0'] => some 0
  | '0' :: _ => none
  | chars => (digits? 10 chars).map (valueOf 10)

/-- The text without a sign in front. -/
def dropSign : List Char → List Char
  | '+' :: rest | '-' :: rest => rest
  | chars => chars

/-! ## Integers -/

/-- An integer of 64 bits with a sign. -/
def integer? (word : List Char) : Option Int := do
  let value ←
    match word with
    | '0' :: 'x' :: rest => (digits? 16 rest).map fun digits => (valueOf 16 digits : Int)
    | '0' :: 'o' :: rest => (digits? 8 rest).map fun digits => (valueOf 8 digits : Int)
    | '0' :: 'b' :: rest => (digits? 2 rest).map fun digits => (valueOf 2 digits : Int)
    | '-' :: rest => (decimal? rest).map fun value => -(value : Int)
    | rest => (decimal? (dropSign rest)).map fun value => (value : Int)
  if Int64.minValue.toInt ≤ value ∧ value ≤ Int64.maxValue.toInt then return value else failure

/-! ## Floating-point numbers -/

/-- The value of an exponent, which is zero if there is none. -/
def exponent? : List Char → Option Int
  | [] => some 0
  | 'e' :: rest | 'E' :: rest => do
      let size := valueOf 10 (← digits? 10 (dropSign rest))
      return if rest.head? = some '-' then -(size : Int) else size
  | _ => none

/-- The digits of a number with decimal places or an exponent, and the power of ten that
the last of them counts. -/
def scientific? (unsigned : List Char) : Option (List Nat × Int) := do
  let isMark (c : Char) : Bool := c == '.' || c == 'e' || c == 'E'
  let whole := unsigned.takeWhile (!isMark ·)
  let _ ← decimal? whole
  let digits ← digits? 10 whole
  match unsigned.dropWhile (!isMark ·) with
  | [] => failure
  | '.' :: rest =>
      let places ← digits? 10 (rest.takeWhile (!isMark ·))
      let power ← exponent? (rest.dropWhile (!isMark ·))
      return (digits ++ places, power - places.length)
  | behind => return (digits, ← exponent? behind)

/-- The least number that is rounded to infinity: it lies halfway between the greatest
double and the next power of two. -/
def infinityBound : Nat :=
  Nat.pow 2 1024 - Nat.pow 2 970

/-- Whether digits that count a power of ten stand for a number too large for a double.
The number of digits decides unless the number is of the size of the bound, which has 309
digits. -/
def isTooLarge (digits : List Nat) (power : Int) : Bool :=
  let leading := digits.dropWhile (· == 0)
  let size := leading.length + power
  if leading.isEmpty ∨ size < 309 then false
  else if 309 < size then true
  else
    infinityBound * Nat.pow 10 (-power).toNat ≤ valueOf 10 leading * Nat.pow 10 power.toNat

/-- Whether a word is a floating-point number. -/
def isFloat (word : List Char) : Bool :=
  let unsigned := dropSign word
  if unsigned = "inf".toList ∨ unsigned = "nan".toList then true
  else
    match scientific? unsigned with
    | some (digits, power) => word.head? = some '-' || !isTooLarge digits power
    | none => false

end GoMend.Toml
