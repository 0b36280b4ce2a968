import AIRuntime.DecimalArithmetic
import AIRuntime.Failures
import AIRuntime.JsonText

set_option autoImplicit false

/-! Python's `float(value)` on what `json` reads and on integers, where a `float` is binary64 as `Float` is. -/
namespace AIRuntime.PythonFloats

open DecimalArithmetic PythonText Failures JsonText

section Texts

/-- The zeros of Unicode's decimal digits, each with its nine others after it. -/
def decimalZeros : List ℕ :=
  [0x30, 0x660, 0x6F0, 0x7C0, 0x966, 0x9E6, 0xA66, 0xAE6, 0xB66, 0xBE6, 0xC66, 0xCE6, 0xD66, 0xDE6, 0xE50, 0xED0,
    0xF20, 0x1040, 0x1090, 0x17E0, 0x1810, 0x1946, 0x19D0, 0x1A80, 0x1A90, 0x1B50, 0x1BB0, 0x1C40, 0x1C50, 0xA620,
    0xA8D0, 0xA900, 0xA9D0, 0xA9F0, 0xAA50, 0xABF0, 0xFF10, 0x104A0, 0x10D30, 0x11066, 0x110F0, 0x11136, 0x111D0,
    0x112F0, 0x11450, 0x114D0, 0x11650, 0x116C0, 0x11730, 0x118E0, 0x11950, 0x11C50, 0x11D50, 0x11DA0, 0x11F50,
    0x16A60, 0x16AC0, 0x16B50, 0x1D7CE, 0x1D7D8, 0x1D7E2, 0x1D7EC, 0x1D7F6, 0x1E140, 0x1E2F0, 0x1E4F0, 0x1E950,
    0x1FBF0]

def digitValue (c : Char) : Option ℕ :=
  (decimalZeros.find? fun first => first ≤ c.toNat && c.toNat < first + 10).map fun first => c.toNat - first

/-- `digitpart`: digits, with single underscores between them, and what follows them. -/
def digitPart : List Char → List ℕ × List Char
  | [] => ([], [])
  | c :: '_' :: next :: rest =>
    match digitValue c with
    | none => ([], c :: '_' :: next :: rest)
    | some digit =>
      if (digitValue next).isSome then (digit :: (digitPart (next :: rest)).1, (digitPart (next :: rest)).2)
      else ([digit], '_' :: next :: rest)
  | c :: rest =>
    match digitValue c with
    | none => ([], c :: rest)
    | some digit => (digit :: (digitPart rest).1, (digitPart rest).2)

def ofDigits (digits : List ℕ) : ℕ := digits.foldl (fun number digit => 10 * number + digit) 0

def fractionPart : List Char → List ℕ × List Char
  | '.' :: rest => digitPart rest
  | rest => ([], rest)

def exponentOf (cs : List Char) : Option ℤ :=
  let digits (rest : List Char) : Option ℕ :=
    match digitPart rest with
    | (digit :: more, []) => some (ofDigits (digit :: more))
    | _ => none
  match cs with
  | [] => some 0
  | mark :: rest =>
    if mark = 'e' ∨ mark = 'E' then
      match rest with
      | '-' :: rest => (digits rest).map fun exponent => -(exponent : ℤ)
      | '+' :: rest => (digits rest).map Int.ofNat
      | rest => (digits rest).map Int.ofNat
    else none

/-- `absfloatvalue`. -/
def unsignedFloat (cs : List Char) : Option Float :=
  let word := cs.map Char.toLower
  if word = "inf".toList ∨ word = "infinity".toList then some (1 / 0)
  else if word = "nan".toList then some (0 / 0)
  else
    let whole := digitPart cs
    let fraction := fractionPart whole.2
    if whole.1 = [] ∧ fraction.1 = [] then none
    else
      (exponentOf fraction.2).map fun exponent =>
        let scale : ℤ := exponent - fraction.1.length
        Float.ofScientific (ofDigits (whole.1 ++ fraction.1)) (scale < 0) scale.natAbs

/-- `float(text)`; `none` where it is no `floatvalue`. -/
def floatOfText (text : String) : Option Float :=
  match stripChars text.toList with
  | '-' :: rest => (unsignedFloat rest).map fun value => -value
  | '+' :: rest => unsignedFloat rest
  | rest => unsignedFloat rest

example : floatOfText " -1_0.25e+1\n" = some (-102.5) := by decide +kernel

example : floatOfText "1_" = none := by decide +kernel

end Texts

section Values

/-- Half a step below 2^1024: what is rounded to no finite number begins here. -/
@[irreducible] def overflowStart : ℕ := Nat.pow 2 1024 - Nat.pow 2 970

def TooLarge (n : ℤ) : Prop := overflowStart ≤ n.natAbs

instance (n : ℤ) : Decidable (TooLarge n) := Nat.decLe overflowStart n.natAbs

theorem overflowStart_le : overflowStart ≤ Nat.pow 10 400 := by decide +kernel

def overflowError : Exn := .other "OverflowError"

def float : Json → Except Exn Float
  | .bool b => .ok (if b then 1 else 0)
  | .int n => if TooLarge n then .error overflowError else .ok (Float.ofInt n)
  | .float text => ((floatOfText text).map Except.ok).getD (.error (.other "ValueError"))
  | .str text => ((floatOfText text).map Except.ok).getD (.error (.other "ValueError"))
  | .null => .error (.other "TypeError")
  | .arr _ => .error (.other "TypeError")
  | .obj _ => .error (.other "TypeError")

theorem float_error {value : Json} {err : Exn} (h : float value = .error err) :
    (∃ n, value = .int n ∧ TooLarge n ∧ err = overflowError) ∨ err = .other "ValueError" ∨
      err = .other "TypeError" := by
  have htext : ∀ text, ((floatOfText text).map Except.ok).getD (.error (.other "ValueError")) = .error err →
      err = .other "ValueError" := by
    intro text htext
    cases hvalue : floatOfText text with
    | none =>
      rw [hvalue] at htext
      cases htext
      rfl
    | some value =>
      rw [hvalue] at htext
      cases htext
  cases value with
  | null =>
    cases h
    exact .inr (.inr rfl)
  | bool b => cases h
  | int n =>
    by_cases hlarge : TooLarge n
    · rw [float, if_pos hlarge] at h
      cases h
      exact .inl ⟨n, rfl, hlarge, rfl⟩
    · rw [float, if_neg hlarge] at h
      cases h
  | float text => exact .inr (.inl (htext text h))
  | str text => exact .inr (.inl (htext text h))
  | arr items =>
    cases h
    exact .inr (.inr rfl)
  | obj members =>
    cases h
    exact .inr (.inr rfl)

theorem float_tooLarge {n : ℤ} (h : TooLarge n) : float (.int n) = .error overflowError := by
  rw [float, if_pos h]

/-- The bound is where `Float` becomes infinite. -/
example : ∀ n ∈ [overflowStart - 1, overflowStart], decide (TooLarge n) = !(Float.ofNat n).isFinite := by
  decide +kernel

/-- The integer that `float(n)` stands for: 53 binary digits are kept, and a tie goes to the even one. -/
def nearestDouble (n : ℤ) : ℤ :=
  let unit := 2 ^ (n.natAbs.log2 + 1 - 53)
  n.sign * (halfEven n.natAbs unit * unit)

def floatOfInt (n : ℤ) : Except Exn ℚ := if TooLarge n then .error overflowError else .ok (nearestDouble n)

theorem floatOfInt_ok {n : ℤ} (h : ¬ TooLarge n) : floatOfInt n = .ok (nearestDouble n) := if_neg h

theorem floatOfInt_tooLarge {n : ℤ} (h : TooLarge n) : floatOfInt n = .error overflowError := if_pos h

example : nearestDouble (2 ^ 53 + 1) = 2 ^ 53 ∧ nearestDouble (2 ^ 53 + 3) = 2 ^ 53 + 4 := by decide +kernel

end Values

end AIRuntime.PythonFloats
