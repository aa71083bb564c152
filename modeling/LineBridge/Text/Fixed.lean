/-! Decimal text with a fixed number of places. A quotient is rounded to the nearest multiple
of the last place, and a half goes to the even neighbour. -/

namespace LineBridge.Fixed

/-- The whole number nearest to `num / den`, the even one of two. -/
def roundHalfEven (num den : Nat) : Nat :=
  let whole := num / den
  let rest := num % den
  if 2 * rest < den then whole
  else if den < 2 * rest then whole + 1
  else if whole % 2 = 0 then whole else whole + 1

/-- How many units of the last place make one. -/
def scale : Nat → Nat
  | 0 => 1
  | places + 1 => 10 * scale places

/-- A count of units of the last place, with the point put in. -/
def place (places units : Nat) : String :=
  let whole := toString (units / scale places)
  if places = 0 then whole
  else
    let digits := (toString (units % scale places)).toList
    whole ++ "." ++ String.ofList (List.replicate (places - digits.length) '0' ++ digits)

/-- `num / den` to a number of places. -/
def ofQuotient (places num den : Nat) : String :=
  place places (roundHalfEven (num * scale places) den)

/-- A double to a number of places. Its value is `mantissa * 2 ^ exponent`, taken exactly. -/
def ofFloat (places : Nat) (x : Float) : String :=
  let bits := x.toBits.toNat
  let sign := if bits >>> 63 = 1 then "-" else ""
  let exponent := (bits >>> 52) % 2048
  let fraction := bits % 4503599627370496
  if exponent = 2047 then if fraction = 0 then sign ++ "inf" else "NaN"
  else
    let mantissa := if exponent = 0 then fraction else fraction + 4503599627370496
    let power := max exponent 1
    let text := if 1075 ≤ power then ofQuotient places (mantissa <<< (power - 1075)) 1
      else ofQuotient places mantissa (1 <<< (1075 - power))
    sign ++ text

theorem two_mul_roundHalfEven_le (num : Nat) {den : Nat} (positive : 0 < den) :
    2 * (roundHalfEven num den * den) ≤ 2 * num + den ∧
      2 * num ≤ 2 * (roundHalfEven num den * den) + den := by
  have split := Nat.div_add_mod num den
  have below := Nat.mod_lt num positive
  have comm : den * (num / den) = num / den * den := Nat.mul_comm _ _
  have next : (num / den + 1) * den = num / den * den + den := Nat.succ_mul _ _
  unfold roundHalfEven
  simp only
  split
  · omega
  · split
    · omega
    · split <;> omega

end LineBridge.Fixed
