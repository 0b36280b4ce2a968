import Mathlib.Algebra.Order.Field.Basic
import Mathlib.Algebra.Order.Floor.Ring
import Mathlib.Algebra.Order.Floor.Semiring
import Mathlib.Tactic.Linarith
import Mathlib.Tactic.FieldSimp
import Mathlib.Tactic.Ring

set_option autoImplicit false

/-!
Meters that refill with time up to a capacity, and of which units are drawn one by one. A draw
stamps the level with its own reading of the clock, whatever the stamp was.
-/
namespace AIRuntime.BucketMeters

variable {K : Type} [Field K] [LinearOrder K]

structure Level (K : Type) where
  amount : K
  stamp : K
deriving DecidableEq

structure Meter (K : Type) [Field K] [LinearOrder K] where
  capacity : K
  rate : K
  capacity_ok : 1 ≤ capacity
  rate_ok : 0 < rate

namespace Meter

variable (m : Meter K)

def avail (now : K) (l : Level K) : K := min m.capacity (l.amount + max 0 (now - l.stamp) * m.rate)

def draw (now : K) (l : Level K) : Bool × Level K :=
  if 1 ≤ m.avail now l then (true, ⟨m.avail now l - 1, now⟩) else (false, ⟨m.avail now l, now⟩)

def draws : Level K → List K → List (Bool × Level K)
  | _, [] => []
  | l, now :: rest => m.draw now l :: draws (m.draw now l).2 rest

def drain : Level K → List K → Level K
  | l, [] => l
  | l, now :: rest => drain (m.draw now l).2 rest

section Draws

variable {m} {l : Level K} {now : K}

theorem draw_true (h : 1 ≤ m.avail now l) : m.draw now l = (true, ⟨m.avail now l - 1, now⟩) :=
  if_pos h

theorem draw_false (h : m.avail now l < 1) : m.draw now l = (false, ⟨m.avail now l, now⟩) :=
  if_neg (not_le.mpr h)

@[simp] theorem draw_stamp : (m.draw now l).2.stamp = now := by
  unfold draw
  split_ifs <;> rfl

theorem draw_allowed : (m.draw now l).1 = true ↔ 1 ≤ m.avail now l := by
  unfold draw
  by_cases h : 1 ≤ m.avail now l
  · simp only [h, ↓reduceIte]
  · simp only [h, ↓reduceIte, Bool.false_eq_true]

theorem avail_le_capacity : m.avail now l ≤ m.capacity :=
  min_le_left _ _

theorem draw_amount : (m.draw now l).2.amount + (if (m.draw now l).1 then 1 else 0) = m.avail now l := by
  by_cases h : 1 ≤ m.avail now l
  · rw [draw_true h]
    exact sub_add_cancel _ _
  · rw [draw_false (not_le.mp h)]
    exact add_zero _

theorem draws_take (l : Level K) (clocks : List K) (n : ℕ) :
    (m.draws l clocks).take n = m.draws l (clocks.take n) := by
  induction n generalizing l clocks with
  | zero => rfl
  | succ n ih =>
    cases clocks with
    | nil => rfl
    | cons now rest => exact congrArg (m.draw now l :: ·) (ih _ rest)

theorem draws_drop (l : Level K) (clocks : List K) (n : ℕ) :
    (m.draws l clocks).drop n = m.draws (m.drain l (clocks.take n)) (clocks.drop n) := by
  induction n generalizing l clocks with
  | zero => rfl
  | succ n ih =>
    cases clocks with
    | nil => rfl
    | cons now rest => exact ih _ rest

theorem count_cons (l : Level K) (now : K) (rest : List K) :
    ((m.draws l (now :: rest)).countP (·.1) : K) =
      m.avail now l - (m.draw now l).2.amount + ((m.draws (m.draw now l).2 rest).countP (·.1) : K) := by
  have hamount : (m.draw now l).2.amount + (if (m.draw now l).1 then 1 else 0) = m.avail now l := draw_amount
  change ((List.countP (·.1) (m.draw now l :: m.draws (m.draw now l).2 rest) : ℕ) : K) = _
  rw [List.countP_cons, ← hamount]
  push_cast
  ring

end Draws

section Bounds

variable [IsStrictOrderedRing K] {m} {l : Level K} {now : K}

theorem avail_nonneg (h : 0 ≤ l.amount) : 0 ≤ m.avail now l := by
  have hcapacity := m.capacity_ok
  have hrefill : 0 ≤ max 0 (now - l.stamp) * m.rate := mul_nonneg (le_max_left _ _) m.rate_ok.le
  exact le_min (by linarith) (by linarith)

theorem draw_bounded (h : 0 ≤ l.amount) : 0 ≤ (m.draw now l).2.amount ∧ (m.draw now l).2.amount ≤ m.capacity := by
  have hle : m.avail now l ≤ m.capacity := avail_le_capacity
  by_cases hdraw : 1 ≤ m.avail now l
  · rw [draw_true hdraw]
    exact ⟨by simpa using hdraw, by simp only; linarith⟩
  · rw [draw_false (not_le.mp hdraw)]
    exact ⟨avail_nonneg h, hle⟩

/-- However the clocks run, the level stays between nothing and the capacity. -/
theorem draws_bounded {clocks : List K} (h : 0 ≤ l.amount) :
    ∀ d ∈ m.draws l clocks, 0 ≤ d.2.amount ∧ d.2.amount ≤ m.capacity := by
  induction clocks generalizing l with
  | nil => exact fun d hd => nomatch hd
  | cons now rest ih =>
    intro d hd
    rcases List.mem_cons.mp hd with rfl | hd
    · exact draw_bounded h
    · exact ih (draw_bounded h).1 d hd

theorem drain_nonneg {clocks : List K} (h : 0 ≤ l.amount) : 0 ≤ (m.drain l clocks).amount := by
  induction clocks generalizing l with
  | nil => exact h
  | cons now rest ih => exact ih (draw_bounded h).1

theorem avail_le {now : K} (h : l.stamp ≤ now) : m.avail now l ≤ l.amount + m.rate * (now - l.stamp) := by
  unfold avail
  rw [max_eq_right (sub_nonneg.mpr h), mul_comm]
  exact min_le_right _ _

/-- While the clock does not run back, no more is drawn than there was and than came in. -/
theorem count_le {clocks : List K} {stop : K} (h : 0 ≤ l.amount) (hstop : l.stamp ≤ stop)
    (hrange : ∀ t ∈ clocks, l.stamp ≤ t ∧ t ≤ stop) (hclock : clocks.Pairwise (· ≤ ·)) :
    ((m.draws l clocks).countP (·.1) : K) ≤ l.amount + m.rate * (stop - l.stamp) := by
  induction clocks generalizing l with
  | nil =>
    have hrefill : 0 ≤ m.rate * (stop - l.stamp) := mul_nonneg m.rate_ok.le (sub_nonneg.mpr hstop)
    change ((0 : ℕ) : K) ≤ _
    rw [Nat.cast_zero]
    linarith
  | cons now rest ih =>
    obtain ⟨hnow, hnow'⟩ := hrange now List.mem_cons_self
    obtain ⟨hfirst, hrest⟩ := List.pairwise_cons.mp hclock
    have hlater := @ih (m.draw now l).2 (draw_bounded h).1
    rw [draw_stamp] at hlater
    have hcount := hlater hnow' (fun t ht => ⟨hfirst t ht, (hrange t (List.mem_cons_of_mem _ ht)).2⟩) hrest
    have havail : m.avail now l ≤ l.amount + m.rate * (now - l.stamp) := avail_le hnow
    have hsplit : m.rate * (stop - l.stamp) = m.rate * (stop - now) + m.rate * (now - l.stamp) := by ring
    rw [count_cons, hsplit]
    linarith

/-- In a window no more is drawn than the capacity, which the first draw finds at most, and than came in. -/
theorem window_le {start stop : K} {clocks : List K} (h : 0 ≤ l.amount)
    (hrange : ∀ t ∈ clocks, t ≤ stop) (hclock : (start :: clocks).Pairwise (· ≤ ·)) (hstop : start ≤ stop) :
    ((m.draws l (start :: clocks)).countP (·.1) : K) ≤ m.capacity + m.rate * (stop - start) := by
  obtain ⟨hfirst, hrest⟩ := List.pairwise_cons.mp hclock
  have hlater := @count_le K _ _ m _ (m.draw start l).2 clocks stop (draw_bounded h).1
  rw [draw_stamp] at hlater
  have hcount := hlater hstop (fun t ht => ⟨hfirst t ht, hrange t ht⟩) hrest
  have havail : m.avail start l ≤ m.capacity := avail_le_capacity
  rw [count_cons]
  linarith

end Bounds

section Skew

def decisions (l : Level K) (clocks : List K) : List Bool := (m.draws l clocks).map (·.1)

def Flips (xs ys : List Bool) : Prop := ∃ k : ℕ, xs[k]? = some false ∧ ys[k]? = some true

theorem Flips.cons {xs ys : List Bool} (h : Flips xs ys) (x y : Bool) : Flips (x :: xs) (y :: ys) := by
  obtain ⟨k, hx, hy⟩ := h
  exact ⟨k + 1, hx, hy⟩

variable {m} {l l' : Level K}

theorem flips_at {c : K} (h : m.avail c l < 1) (h' : 1 ≤ m.avail c l') :
    Flips (m.decisions l [c]) (m.decisions l' [c]) := by
  refine ⟨0, ?_, ?_⟩
  · simp only [decisions, draws, draw_false h, List.map_cons, List.getElem?_cons_zero]
  · simp only [decisions, draws, draw_true h', List.map_cons, List.getElem?_cons_zero]

variable [IsStrictOrderedRing K]

theorem avail_of_le {c : K} (h : c ≤ l.stamp) : m.avail c l = min m.capacity l.amount := by
  unfold avail
  rw [max_eq_left (sub_nonpos.mpr h), zero_mul, add_zero]

theorem avail_of_ge {c : K} (h : l.stamp ≤ c) : m.avail c l = min m.capacity (l.amount + (c - l.stamp) * m.rate) := by
  unfold avail
  rw [max_eq_right (sub_nonneg.mpr h)]

/-- Of two levels with the same stamp the fuller one reaches a unit first. -/
theorem fuller_flips (hstamp : l'.stamp = l.stamp) (h : l.amount < l'.amount) (h' : l'.amount ≤ 1) :
    ∃ c, Flips (m.decisions l [c]) (m.decisions l' [c]) := by
  have hrate := m.rate_ok
  have hcapacity := m.capacity_ok
  have hwait : 0 ≤ (1 - l'.amount) / m.rate := div_nonneg (by linarith) hrate.le
  have hrefill : (l.stamp + (1 - l'.amount) / m.rate - l.stamp) * m.rate = 1 - l'.amount := by
    rw [add_sub_cancel_left, div_mul_cancel₀ _ hrate.ne']
  refine ⟨l.stamp + (1 - l'.amount) / m.rate, flips_at ?_ ?_⟩
  · rw [avail_of_ge (by linarith), hrefill]
    exact min_lt_of_right_lt (by linarith)
  · rw [avail_of_ge (by linarith), hstamp, hrefill]
    exact le_min hcapacity (by linarith)

/-- Two levels with a whole number of units between what they offer at `b`, but less than one unit
apart: draw at `b` until only the first can give, after which the second is the fuller one. -/
theorem uneven_flips {b : K} {n : ℕ} (h' : m.avail b l' < n + 1) (h : (n + 1 : K) ≤ m.avail b l)
    (hclose : m.avail b l < m.avail b l' + 1) : ∃ rest, Flips (m.decisions l rest) (m.decisions l' rest) := by
  induction n generalizing l l' with
  | zero =>
    rw [Nat.cast_zero, zero_add] at h h'
    obtain ⟨c, hflips⟩ := @fuller_flips K _ _ m ⟨m.avail b l - 1, b⟩ ⟨m.avail b l', b⟩ _ rfl
      (by simp only; linarith) h'.le
    refine ⟨[b, c], ?_⟩
    have hcons := hflips.cons true false
    simpa only [decisions, draws, draw_true h, draw_false h', List.map_cons] using hcons
  | succ n ih =>
    rw [Nat.cast_succ] at h h'
    have hn : (0 : K) ≤ n := Nat.cast_nonneg n
    have hdraw : 1 ≤ m.avail b l := by linarith
    have hdraw' : 1 ≤ m.avail b l' := by linarith
    have hcap : m.avail b l ≤ m.capacity := avail_le_capacity
    have hcap' : m.avail b l' ≤ m.capacity := avail_le_capacity
    have hagain : ∀ x : K, x ≤ m.capacity → m.avail b ⟨x - 1, b⟩ = x - 1 := by
      intro x hx
      rw [@avail_of_le K _ _ m ⟨x - 1, b⟩ _ b le_rfl]
      exact min_eq_right (by simp only; linarith)
    obtain ⟨rest, hflips⟩ := @ih ⟨m.avail b l - 1, b⟩ ⟨m.avail b l' - 1, b⟩
      (by rw [hagain _ hcap']; linarith) (by rw [hagain _ hcap]; linarith)
      (by rw [hagain _ hcap, hagain _ hcap']; linarith)
    refine ⟨b :: rest, ?_⟩
    have hcons := hflips.cons true true
    simpa only [decisions, draws, draw_true hdraw, draw_true hdraw', List.map_cons] using hcons

/-- After a draw behind the stamp, a draw at `b` is newly allowed exactly when the time since that draw
brings in what the time since the stamp does not. -/
theorem skewed_draw_iff {a b : K} (ha : a < l.stamp) (hb : l.stamp ≤ b) :
    ((m.draw b (m.draw a l).2).1 = true → (m.draw b l).1 = true) ↔
      ¬(l.amount + (b - l.stamp) * m.rate < 1 ∧ 1 ≤ l.amount + (b - a) * m.rate) := by
  have hrate := m.rate_ok
  have hcapacity := m.capacity_ok
  have hrefill : 0 ≤ (b - l.stamp) * m.rate := mul_nonneg (by linarith) hrate.le
  rw [draw_allowed, draw_allowed, avail_of_ge hb]
  by_cases halone : l.amount + (b - l.stamp) * m.rate < 1
  · have hempty : m.avail a l = l.amount := by
      rw [avail_of_le ha.le]
      exact min_eq_right (by linarith)
    have hdenied : m.avail a l < 1 := by linarith
    rw [draw_false hdenied, avail_of_ge (by simp only; linarith), hempty]
    simp only [le_min_iff, hcapacity, true_and, halone, not_le.mpr halone, imp_false]
  · simp only [le_min_iff, hcapacity, true_and, not_lt.mp halone, implies_true, halone, false_and, not_false_iff]

theorem denied_skew_flips {a : K} (ha : a < l.stamp) (hdenied : m.avail a l < 1) :
    ∃ rest, Flips (m.decisions l rest) (m.decisions (m.draw a l).2 rest) := by
  have hrate := m.rate_ok
  have hskew : 0 < (l.stamp - a) * m.rate := mul_pos (by linarith) hrate
  rw [avail_of_le ha.le] at hdenied
  have hamount : l.amount < 1 := (min_lt_iff.mp hdenied).resolve_left (not_lt.mpr m.capacity_ok)
  have hempty : m.avail a l = l.amount := by
    rw [avail_of_le ha.le]
    exact min_eq_right (hamount.le.trans m.capacity_ok)
  rw [draw_false (hempty.trans_lt hamount), hempty]
  have hwait : (a + (1 - l.amount) / m.rate - a) * m.rate = 1 - l.amount := by
    rw [add_sub_cancel_left, div_mul_cancel₀ _ hrate.ne']
  have hpos : 0 < (1 - l.amount) / m.rate := div_pos (by linarith) hrate
  by_cases hlate : l.stamp ≤ a + (1 - l.amount) / m.rate
  · refine ⟨[a + (1 - l.amount) / m.rate], flips_at ?_ ?_⟩
    · rw [avail_of_ge hlate]
      have hshort : (a + (1 - l.amount) / m.rate - l.stamp) * m.rate = 1 - l.amount - (l.stamp - a) * m.rate := by
        rw [← sub_add_sub_cancel (a + (1 - l.amount) / m.rate) a l.stamp, add_mul, hwait]
        ring
      exact min_lt_of_right_lt (by rw [hshort]; linarith)
    · rw [avail_of_ge (by simp only; linarith)]
      exact le_min m.capacity_ok (by simp only [hwait]; linarith)
  · refine ⟨[l.stamp], flips_at ?_ ?_⟩
    · rw [avail_of_le le_rfl]
      exact min_lt_of_right_lt hamount
    · rw [avail_of_ge ha.le]
      have hlong : (a + (1 - l.amount) / m.rate - a) * m.rate ≤ (l.stamp - a) * m.rate :=
        mul_le_mul_of_nonneg_right (by linarith) hrate.le
      exact le_min m.capacity_ok (by simp only; linarith)

/-- An allowed draw behind the stamp takes one unit, of which a little comes back before the stamp. -/
theorem allowed_skew_flips [FloorSemiring K] {a : K} (ha : a < l.stamp) (hallowed : 1 ≤ m.avail a l) :
    ∃ rest, Flips (m.decisions l rest) (m.decisions (m.draw a l).2 rest) := by
  have hrate := m.rate_ok
  have hskew : 0 < (l.stamp - a) * m.rate := mul_pos (by linarith) hrate
  have hcap : m.avail a l ≤ m.capacity := avail_le_capacity
  obtain ⟨n, hn⟩ : ∃ n : ℕ, ⌊m.avail a l⌋₊ = n + 1 :=
    Nat.exists_eq_succ_of_ne_zero (Nat.floor_pos.mpr hallowed).ne'
  have hfloor : ((n + 1 : ℕ) : K) ≤ m.avail a l := hn ▸ Nat.floor_le (by linarith)
  have hceil : m.avail a l < ((n + 1 : ℕ) : K) + 1 := hn ▸ Nat.lt_floor_add_one (m.avail a l)
  rw [Nat.cast_succ] at hfloor hceil
  obtain ⟨e, he, heskew, heroom⟩ : ∃ e : K, 0 < e ∧ e < (l.stamp - a) * m.rate ∧
      e < (n + 1 + 1 : K) - m.avail a l := by
    obtain ⟨e, he, hmin⟩ := exists_between (lt_min hskew (sub_pos.mpr hceil))
    exact ⟨e, he, hmin.trans_le (min_le_left _ _), hmin.trans_le (min_le_right _ _)⟩
  have hback : (a + e / m.rate - a) * m.rate = e := by
    rw [add_sub_cancel_left, div_mul_cancel₀ _ hrate.ne']
  have hbefore : a + e / m.rate ≤ l.stamp := by
    have hlt : e / m.rate < l.stamp - a := (div_lt_iff₀ hrate).mpr heskew
    linarith
  have hplain : m.avail (a + e / m.rate) l = m.avail a l := by
    rw [avail_of_le hbefore, avail_of_le ha.le]
  have hdrawn : m.avail (a + e / m.rate) (m.draw a l).2 = m.avail a l - 1 + e := by
    rw [draw_true hallowed, avail_of_ge (by simp only; linarith [div_pos he hrate])]
    simp only [hback]
    exact min_eq_right (by linarith)
  exact uneven_flips (b := a + e / m.rate) (n := n) (by rw [hdrawn]; linarith) (by rw [hplain]; exact hfloor)
    (by rw [hdrawn, hplain]; linarith)

/-- No draw behind the stamp is harmless: some later draws are denied without it and allowed with it. -/
theorem skewed_draw_flips [FloorSemiring K] {a : K} (ha : a < l.stamp) :
    ∃ rest, Flips (m.decisions l rest) (m.decisions (m.draw a l).2 rest) := by
  by_cases hallowed : 1 ≤ m.avail a l
  · exact allowed_skew_flips ha hallowed
  · exact denied_skew_flips ha (not_le.mp hallowed)

end Skew

section Waits

variable [FloorRing K]

/-- The whole seconds until a unit has come in, after a draw that found none. -/
def wait (now : K) (l : Level K) : ℤ := ⌈(1 - m.avail now l) / m.rate⌉

variable [IsStrictOrderedRing K] {m} {l : Level K} {now : K}

/-- After a denied draw, drawing `k` later is allowed from the wait on and not before. -/
theorem draw_after_iff (h : m.avail now l < 1) {k : ℤ} (hk : 0 ≤ k) :
    (m.draw (now + k) (m.draw now l).2).1 = true ↔ m.wait now l ≤ k := by
  have hlater : (m.draw now l).2.stamp ≤ now + k := by
    rw [draw_stamp]
    exact le_add_of_nonneg_right (Int.cast_nonneg hk)
  have hsince : now + k - (m.draw now l).2.stamp = k := by
    rw [draw_stamp, add_sub_cancel_left]
  rw [draw_allowed, avail_of_ge hlater, hsince, draw_false h, le_min_iff, and_iff_right m.capacity_ok, wait,
    Int.ceil_le, div_le_iff₀ m.rate_ok, sub_le_iff_le_add']

theorem wait_pos (h : m.avail now l < 1) : 1 ≤ m.wait now l :=
  Int.ceil_pos.mpr (div_pos (sub_pos.mpr h) m.rate_ok)

/-- When there was time to fill it from nothing the meter is full. -/
theorem avail_full (h : 0 ≤ l.amount) (hlong : l.stamp + ⌈m.capacity / m.rate⌉ ≤ now) :
    m.avail now l = m.capacity := by
  have hfills : m.capacity / m.rate ≤ now - l.stamp := (Int.le_ceil _).trans (le_sub_iff_add_le'.mpr hlong)
  have hrefill : m.capacity ≤ (now - l.stamp) * m.rate := (div_le_iff₀ m.rate_ok).mp hfills
  have hcapacity := m.capacity_ok
  have hsince : 0 ≤ m.capacity / m.rate := div_nonneg (by linarith) m.rate_ok.le
  rw [avail_of_ge (by linarith)]
  exact min_eq_left (by linarith)

theorem wait_le (h : 0 ≤ l.amount) : m.wait now l ≤ ⌈m.capacity / m.rate⌉ := by
  have havail : 0 ≤ m.avail now l := avail_nonneg h
  have hcapacity := m.capacity_ok
  exact Int.ceil_mono (div_le_div_of_nonneg_right (by linarith) m.rate_ok.le)

end Waits

end Meter

end AIRuntime.BucketMeters
