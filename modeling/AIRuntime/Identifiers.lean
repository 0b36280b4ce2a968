import AIRuntime.PythonText
import Mathlib.Algebra.GroupWithZero.Nat

set_option autoImplicit false

/-! `uuid.UUID`, and what the texts built from one say about it. -/
namespace AIRuntime.Identifiers

instance uuidRange : NeZero (2 ^ 128) := ⟨by decide⟩

structure UUID where
  int : Fin (2 ^ 128)
deriving DecidableEq

/-- `'%0kx' % n` for an `n` that fits. -/
def hexFixed : ℕ → ℕ → List Char
  | 0, _ => []
  | k + 1, n => hexFixed k (n / 16) ++ [Nat.digitChar (n % 16)]

def dashed (hex : List Char) : List Char :=
  hex.take 8 ++ '-' :: ((hex.drop 8).take 4 ++ '-' :: ((hex.drop 12).take 4 ++ '-' ::
    ((hex.drop 16).take 4 ++ '-' :: hex.drop 20)))

namespace UUID

def chars (u : UUID) : List Char := dashed (hexFixed 32 u.int.val)

/-- `str(u)`: 8-4-4-4-12 lower-case hexadecimal digits. -/
def str (u : UUID) : String := String.ofList u.chars

end UUID

theorem hexFixed_length (k n : ℕ) : (hexFixed k n).length = k := by
  induction k generalizing n with
  | zero => rfl
  | succ k ih => rw [hexFixed, List.length_append, ih]; rfl

theorem digitChar_inj {a b : ℕ} (ha : a < 16) (hb : b < 16) (h : Nat.digitChar a = Nat.digitChar b) :
    a = b := by
  revert h
  revert b
  revert a
  decide

theorem hexFixed_injective {k m n : ℕ} (hm : m < 16 ^ k) (hn : n < 16 ^ k)
    (h : hexFixed k m = hexFixed k n) : m = n := by
  induction k generalizing m n with
  | zero => omega
  | succ k ih =>
    rw [hexFixed, hexFixed] at h
    obtain ⟨hhigh, hlow⟩ := List.append_inj h (by rw [hexFixed_length, hexFixed_length])
    have hdigit := digitChar_inj (by omega) (by omega) (List.cons.inj hlow).1
    have hrest := ih (by rw [Nat.pow_succ] at hm; omega) (by rw [Nat.pow_succ] at hn; omega) hhigh
    omega

theorem dashed_length {hex : List Char} (h : hex.length = 32) : (dashed hex).length = 36 := by
  simp only [dashed, List.length_append, List.length_cons, List.length_take, List.length_drop]
  omega

theorem dashed_injective {a b : List Char} (ha : a.length = 32) (hb : b.length = 32)
    (h : dashed a = dashed b) : a = b := by
  have hsplit : ∀ l : List Char, l = l.take 8 ++ ((l.drop 8).take 4 ++ ((l.drop 12).take 4 ++
      ((l.drop 16).take 4 ++ l.drop 20))) := by
    intro l
    have h16 := (List.take_append_drop 4 (l.drop 16)).symm
    have h12 := (List.take_append_drop 4 (l.drop 12)).symm
    have h8 := (List.take_append_drop 4 (l.drop 8)).symm
    simp only [List.drop_drop] at h8 h12 h16
    rw [← h16, ← h12, ← h8, List.take_append_drop]
  unfold dashed at h
  obtain ⟨h0, h⟩ := List.append_inj h (by simp only [List.length_take]; omega)
  obtain ⟨h1, h⟩ := List.append_inj (List.cons.inj h).2 (by simp only [List.length_take, List.length_drop]; omega)
  obtain ⟨h2, h⟩ := List.append_inj (List.cons.inj h).2 (by simp only [List.length_take, List.length_drop]; omega)
  obtain ⟨h3, h⟩ := List.append_inj (List.cons.inj h).2 (by simp only [List.length_take, List.length_drop]; omega)
  have h4 := (List.cons.inj h).2
  rw [hsplit a, hsplit b, h0, h1, h2, h3, h4]

theorem UUID.chars_length (u : UUID) : u.chars.length = 36 :=
  dashed_length (hexFixed_length 32 _)

theorem UUID.int_lt (u : UUID) : u.int.val < 16 ^ 32 := by
  have hpow : 2 ^ 128 = 16 ^ 32 := by decide
  have hlt := u.int.isLt
  omega

theorem UUID.chars_injective {u v : UUID} (h : u.chars = v.chars) : u = v := by
  have hhex := dashed_injective (hexFixed_length 32 _) (hexFixed_length 32 _) h
  have hint := hexFixed_injective u.int_lt v.int_lt hhex
  obtain ⟨m⟩ := u
  obtain ⟨n⟩ := v
  exact congrArg UUID.mk (Fin.ext hint)

/-- Within one family of keys the text names the organization and what stands after it. -/
theorem scoped_injective {family r s : String} {a b : UUID}
    (h : family ++ a.str ++ r = family ++ b.str ++ s) : a = b ∧ r = s := by
  have hchars := congrArg String.toList h
  simp only [UUID.str, String.toList_append, String.toList_ofList, List.append_assoc,
    List.append_cancel_left_eq] at hchars
  obtain ⟨huuid, hrest⟩ := List.append_inj hchars (by rw [UUID.chars_length, UUID.chars_length])
  exact ⟨UUID.chars_injective huuid, String.toList_injective hrest⟩

end AIRuntime.Identifiers
