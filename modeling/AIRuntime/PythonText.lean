import Mathlib.Data.List.TakeWhile

set_option autoImplicit false

/-! What the source uses of Python's `str`, over Unicode scalar values. -/
namespace AIRuntime.PythonText

/-- The characters `str.isspace` accepts, which are those `str.strip` removes. -/
def isSpace (c : Char) : Bool :=
  let n := c.toNat
  (9 ≤ n && n ≤ 13) || (28 ≤ n && n ≤ 32) || n = 0x85 || n = 0xA0 || n = 0x1680 ||
    (0x2000 ≤ n && n ≤ 0x200A) || n = 0x2028 || n = 0x2029 || n = 0x202F || n = 0x205F || n = 0x3000

/-- `not value.strip()`. -/
def isBlank (s : String) : Bool := s.toList.all isSpace

def stripChars (cs : List Char) : List Char :=
  ((cs.dropWhile isSpace).reverse.dropWhile isSpace).reverse

def strip (s : String) : String := String.ofList (stripChars s.toList)

/-- `str.lower` as far as its result can be ASCII: the Kelvin sign becomes a `k`. -/
def lower (s : String) : String :=
  String.ofList (s.toList.map fun c => if c.toNat = 0x212A then 'k' else c.toLower)

/-- `s.removeprefix(p)` when `s.startswith(p)`, `none` otherwise. -/
def stripPrefix? (p s : String) : Option String :=
  if p.toList.isPrefixOf s.toList then some (String.ofList (s.toList.drop p.length)) else none

theorem stripChars_eq_nil {cs : List Char} : stripChars cs = [] ↔ cs.all isSpace = true := by
  unfold stripChars
  rw [List.reverse_eq_nil_iff, List.dropWhile_eq_nil_iff, ← List.all_eq_true, List.all_reverse]
  induction cs with
  | nil => simp
  | cons c t ih =>
    cases hc : isSpace c
    · simp [List.dropWhile, hc]
    · simpa [List.dropWhile, hc] using ih

theorem isBlank_iff_strip (s : String) : isBlank s = true ↔ strip s = "" := by
  unfold isBlank strip
  rw [← stripChars_eq_nil]
  constructor
  · intro h
    rw [h]
  · intro h
    have hl := congrArg String.toList h
    rwa [String.toList_ofList] at hl

theorem isAlphanum_eq (c : Char) : c.isAlphanum = ((decide (c.val ≥ 'A'.val ∧ c.val ≤ 'Z'.val) ||
    (decide (c.val ≥ 'a'.val) && decide (c.val ≤ 'z'.val))) ||
    (decide (c.val ≥ '0'.val) && decide (c.val ≤ '9'.val))) := rfl

theorem isAlphanum_range {c : Char} (h : c.isAlphanum = true) : (65 ≤ c.toNat ∧ c.toNat ≤ 90) ∨
    (97 ≤ c.toNat ∧ c.toNat ≤ 122) ∨ (48 ≤ c.toNat ∧ c.toNat ≤ 57) := by
  simp only [isAlphanum_eq, Bool.or_eq_true, Bool.and_eq_true, decide_eq_true_eq, UInt32.le_iff_toNat_le] at h
  exact or_assoc.mp h

theorem stripPrefix?_append (p s : String) : stripPrefix? p (p ++ s) = some s := by
  have hp : p.toList.isPrefixOf (p ++ s).toList = true := by
    rw [List.isPrefixOf_iff_prefix, String.toList_append]
    exact List.prefix_append _ _
  unfold stripPrefix?
  rw [if_pos hp, String.toList_append, List.drop_left' String.length_toList, String.ofList_toList]

end AIRuntime.PythonText
