import AIRuntime.JsonText

set_option autoImplicit false

/-!
`loads` inverts `dumps` on every value a Python program can hold: floats are float texts and the
keys of an object are distinct. So `dumps` is injective there.
-/
namespace AIRuntime.JsonText

/-- The text of a float as `dumps` writes one: it reads back as that float. -/
def isFloatText (text : String) : Bool :=
  match (scanConstant text.toList).or (scanNumber text.toList) with
  | some (.float u, []) => u = text
  | _ => false

mutual

/-- Values of Python: a `dict` has distinct keys. -/
def Json.Valid : Json → Prop
  | .float text => isFloatText text = true
  | .arr items => Json.ValidItems items
  | .obj members => (members.map Prod.fst).Nodup ∧ Json.ValidMembers members
  | _ => True

def Json.ValidItems : List Json → Prop
  | [] => True
  | x :: xs => x.Valid ∧ Json.ValidItems xs

def Json.ValidMembers : List (String × Json) → Prop
  | [] => True
  | (_, v) :: ms => v.Valid ∧ Json.ValidMembers ms

end

/-- What may follow a value: nothing, or a character that ends it. -/
def Closes (rest : List Char) : Prop :=
  ∀ c r, rest = c :: r → c = ',' ∨ c = ']' ∨ c = '\x7d'

theorem closes_nil : Closes [] := by
  intro c r h
  cases h

theorem closes_cons {c : Char} (h : c = ',' ∨ c = ']' ∨ c = '\x7d') (r : List Char) :
    Closes (c :: r) := by
  intro d t hd
  cases hd
  exact h

section Numbers

theorem spanDigits_closes {rest : List Char} (h : Closes rest) : spanDigits rest = ([], rest) := by
  cases rest with
  | nil => rfl
  | cons c r =>
    have hc : c.isDigit = false := by
      rcases h c r rfl with rfl | rfl | rfl <;> rfl
    simp [spanDigits, hc]

theorem spanDigits_append (cs : List Char) {rest : List Char} (h : Closes rest) :
    spanDigits (cs ++ rest) = ((spanDigits cs).1, (spanDigits cs).2 ++ rest) := by
  induction cs with
  | nil => exact spanDigits_closes h
  | cons c t ih =>
    cases hc : c.isDigit
    · simp [spanDigits, hc]
    · simp [spanDigits, hc, ih]

theorem spanDigits_all {ds : List Char} (h : ∀ c ∈ ds, c.isDigit = true) :
    spanDigits ds = (ds, []) := by
  induction ds with
  | nil => rfl
  | cons c t ih =>
    have hc := h c (by simp)
    have ht := ih fun d hd => h d (by simp [hd])
    simp [spanDigits, hc, ht]

theorem scanInt_append {cs ip r rest : List Char} (h : Closes rest) (hs : scanInt cs = some (ip, r)) :
    scanInt (cs ++ rest) = some (ip, r ++ rest) := by
  cases cs with
  | nil => cases hs
  | cons c t =>
    simp only [List.cons_append, scanInt] at hs ⊢
    split_ifs at hs ⊢ with h0 hd
    · simp only [Option.some.injEq, Prod.mk.injEq] at hs
      rw [← hs.1, ← hs.2]
    · simp only [Option.some.injEq, Prod.mk.injEq] at hs
      rw [spanDigits_append t h, ← hs.1, ← hs.2]

theorem scanFrac_append (cs : List Char) {rest : List Char} (h : Closes rest) :
    scanFrac (cs ++ rest) = ((scanFrac cs).1, (scanFrac cs).2 ++ rest) := by
  cases cs with
  | nil =>
    cases rest with
    | nil => rfl
    | cons c r =>
      have hc : c ≠ '.' := by
        rcases h c r rfl with rfl | rfl | rfl <;> decide
      simp [scanFrac, hc]
  | cons c t =>
    simp only [List.cons_append, scanFrac, spanDigits_append t h]
    split_ifs <;> rfl

theorem scanSign_append (cs : List Char) {rest : List Char} (h : Closes rest) :
    scanSign (cs ++ rest) = ((scanSign cs).1, (scanSign cs).2 ++ rest) := by
  cases cs with
  | nil =>
    cases rest with
    | nil => rfl
    | cons c r =>
      have hc : ¬ (c = '+' ∨ c = '-') := by
        rcases h c r rfl with rfl | rfl | rfl <;> decide
      simp [scanSign, hc]
  | cons c t =>
    simp only [List.cons_append, scanSign]
    split_ifs <;> rfl

theorem scanExp_append (cs : List Char) {rest : List Char} (h : Closes rest) :
    scanExp (cs ++ rest) = ((scanExp cs).1, (scanExp cs).2 ++ rest) := by
  cases cs with
  | nil =>
    cases rest with
    | nil => rfl
    | cons c r =>
      have hc : ¬ (c = 'e' ∨ c = 'E') := by
        rcases h c r rfl with rfl | rfl | rfl <;> decide
      simp [scanExp, hc]
  | cons c t =>
    simp only [List.cons_append, scanExp, scanSign_append t h, spanDigits_append _ h]
    split_ifs <;> rfl

theorem scanNumberParts_append {cs ip tail r rest : List Char} {neg : Bool} (h : Closes rest)
    (hs : scanNumberParts cs = some (neg, ip, tail, r)) :
    scanNumberParts (cs ++ rest) = some (neg, ip, tail, r ++ rest) := by
  cases cs with
  | nil => cases hs
  | cons c t =>
    have hm : scanMinus (c :: t ++ rest) = ((scanMinus (c :: t)).1, (scanMinus (c :: t)).2 ++ rest) := by
      simp only [List.cons_append, scanMinus]
      split_ifs <;> rfl
    unfold scanNumberParts at hs ⊢
    rw [hm]
    cases hi : scanInt (scanMinus (c :: t)).2 with
    | none => rw [hi] at hs; cases hs
    | some p =>
      obtain ⟨ip', r'⟩ := p
      rw [hi] at hs
      simp only [Option.some.injEq, Prod.mk.injEq] at hs
      obtain ⟨rfl, rfl, rfl, rfl⟩ := hs
      simp only [scanInt_append h hi, scanFrac_append _ h, scanExp_append _ h]

theorem scanNumber_append {cs r rest : List Char} {j : Json} (h : Closes rest)
    (hs : scanNumber cs = some (j, r)) : scanNumber (cs ++ rest) = some (j, r ++ rest) := by
  unfold scanNumber at hs ⊢
  cases hp : scanNumberParts cs with
  | none => rw [hp] at hs; cases hs
  | some p =>
    obtain ⟨neg, ip, tail, r'⟩ := p
    rw [hp] at hs
    simp only [Option.map_some, Option.some.injEq, Prod.mk.injEq] at hs
    obtain ⟨rfl, rfl⟩ := hs
    rw [scanNumberParts_append h hp]
    rfl

theorem toDigits_head_zero (n : ℕ) {ds : List Char} (h : Nat.toDigits 10 n = '0' :: ds) : n = 0 := by
  induction n using Nat.strongRecOn generalizing ds with
  | ind n ih =>
    by_cases hn : n < 10
    · rw [Nat.toDigits_of_lt_base hn] at h
      simp only [List.cons.injEq, Nat.digitChar_eq_zero] at h
      exact h.1
    · rw [Nat.toDigits_of_base_le (by omega) (by omega)] at h
      cases hd : Nat.toDigits 10 (n / 10) with
      | nil => exact absurd hd Nat.toDigits_ne_nil
      | cons d t =>
        rw [hd] at h
        simp only [List.cons_append, List.cons.injEq] at h
        rw [h.1] at hd
        have := ih (n / 10) (by omega) hd
        omega

theorem toDigits_isDigit (n : ℕ) : ∀ c ∈ Nat.toDigits 10 n, c.isDigit = true := by
  intro c hc
  exact Nat.isDigit_of_mem_toDigits (by omega) (by omega) hc

theorem scanInt_toDigits (n : ℕ) : scanInt (Nat.toDigits 10 n) = some (Nat.toDigits 10 n, []) := by
  have hall := toDigits_isDigit n
  cases hd : Nat.toDigits 10 n with
  | nil => exact absurd hd Nat.toDigits_ne_nil
  | cons c t =>
    rw [hd] at hall
    have hspan := spanDigits_all fun d h => hall d (List.mem_cons_of_mem c h)
    by_cases h0 : c = '0'
    · subst h0
      have hn := toDigits_head_zero n hd
      subst hn
      rw [Nat.toDigits_zero] at hd
      cases hd
      rfl
    · simp [scanInt, h0, hall c (by simp), hspan]

theorem scanNumber_dumpsInt (n : ℤ) : scanNumber (dumpsInt n) = some (.int n, []) := by
  have hi := scanInt_toDigits n.natAbs
  have hv : Nat.ofDigitChars 10 (Nat.toDigits 10 n.natAbs) 0 = n.natAbs := Nat.ofDigitChars_ten_toDigits
  unfold scanNumber scanNumberParts dumpsInt
  by_cases hn : n < 0
  · simp only [hn, ↓reduceIte, scanMinus, hi, scanFrac, scanExp, Option.map_some, numberValue, hv,
      List.append_nil]
    congr 3
    omega
  · cases hd : Nat.toDigits 10 n.natAbs with
    | nil => exact absurd hd Nat.toDigits_ne_nil
    | cons c t =>
      have hc : c ≠ '-' := by
        rintro rfl
        have := toDigits_isDigit n.natAbs '-' (by rw [hd]; simp)
        revert this
        decide
      rw [hd] at hi hv
      simp only [hn, ↓reduceIte, scanMinus, hc, hi, scanFrac, scanExp, Option.map_some, numberValue, hv,
        List.append_nil, Bool.false_eq_true]
      congr 3
      omega

theorem scanNumber_head {cs r : List Char} {j : Json} (h : scanNumber cs = some (j, r)) :
    ∃ c t, cs = c :: t ∧ (c.isDigit = true ∨ c = '-' ∧ ∃ d u, t = d :: u ∧ d.isDigit = true) := by
  have hint : ∀ ds : List Char, scanInt ds ≠ none → ∃ c t, ds = c :: t ∧ c.isDigit = true := by
    intro ds hds
    cases ds with
    | nil => exact absurd rfl hds
    | cons c t =>
      refine ⟨c, t, rfl, ?_⟩
      by_contra hc
      have h0 : c ≠ '0' := by
        rintro rfl
        exact hc rfl
      exact hds (by simp [scanInt, h0, hc])
  have hi : scanInt (scanMinus cs).2 ≠ none := by
    intro hn
    simp [scanNumber, scanNumberParts, hn] at h
  cases cs with
  | nil => exact absurd rfl hi
  | cons c t =>
    refine ⟨c, t, rfl, ?_⟩
    by_cases hc : c = '-'
    · subst hc
      exact .inr ⟨rfl, hint t hi⟩
    · simp only [scanMinus, hc, ↓reduceIte] at hi
      obtain ⟨d, u, hdu, hd⟩ := hint _ hi
      cases hdu
      exact .inl hd

end Numbers

section Strings

theorem hexVal_digitChar {d : ℕ} (h : d < 16) : hexVal (Nat.digitChar d) = some d := by
  revert h
  revert d
  decide

theorem hexValue_hex4 {u : ℕ} (h : u < 65536) :
    hexValue (Nat.digitChar (u / 4096 % 16)) (Nat.digitChar (u / 256 % 16))
      (Nat.digitChar (u / 16 % 16)) (Nat.digitChar (u % 16)) = some u := by
  simp only [hexValue, hexVal_digitChar (Nat.mod_lt _ (by omega : 16 > 0))]
  congr 1
  omega

theorem char_bound (c : Char) : c.toNat < 0xD800 ∨ 0xDFFF < c.toNat ∧ c.toNat < 0x110000 := c.valid

theorem units_bound (c : Char) : ∀ u ∈ units c, u < 65536 := by
  have hc := char_bound c
  intro u hu
  unfold units at hu
  split_ifs at hu with h
  · simp only [List.mem_singleton] at hu
    omega
  · simp only [List.mem_cons, List.not_mem_nil, or_false] at hu
    omega

theorem scanUnits_quote (rest : List Char) : scanUnits ('"' :: rest) = some ([], rest) := by
  rw [scanUnits.eq_def]
  rfl

theorem scanUnits_raw {c : Char} (h1 : c ≠ '"') (h2 : c ≠ '\\') (h3 : ¬ c.toNat < 32) (rest : List Char) :
    scanUnits (c :: rest) = (scanUnits rest).map fun p => (c.toNat :: p.1, p.2) := by
  rw [scanUnits.eq_def]
  simp only [h1, h2, h3, ↓reduceIte]

theorem scanUnits_simple {e : Char} {u : ℕ} (he : e ≠ 'u') (hu : simpleEscape e = some u)
    (rest : List Char) :
    scanUnits ('\\' :: e :: rest) = (scanUnits rest).map fun p => (u :: p.1, p.2) := by
  rw [scanUnits.eq_def]
  simp only [Char.reduceEq, ↓reduceIte, he, hu]

theorem scanUnits_unicode {a b c d : Char} {u : ℕ} (hu : hexValue a b c d = some u) (rest : List Char) :
    scanUnits ('\\' :: 'u' :: a :: b :: c :: d :: rest) =
      (scanUnits rest).map fun p => (u :: p.1, p.2) := by
  rw [scanUnits.eq_def]
  simp only [Char.reduceEq, ↓reduceIte, hu]

theorem scanUnits_hex {us : List ℕ} (h : ∀ u ∈ us, u < 65536) (rest : List Char) :
    scanUnits ((us.flatMap fun u => '\\' :: 'u' :: hex4 u) ++ rest) =
      (scanUnits rest).map fun p => (us ++ p.1, p.2) := by
  induction us with
  | nil => simp
  | cons u us ih =>
    have hu := hexValue_hex4 (h u (by simp))
    have hrest := ih fun v hv => h v (by simp [hv])
    simp only [List.flatMap_cons, hex4, List.cons_append, List.nil_append]
    rw [scanUnits_unicode hu]
    change Option.map _ (scanUnits ((us.flatMap fun u => '\\' :: 'u' :: hex4 u) ++ rest)) = _
    rw [hrest, Option.map_map]
    rfl

theorem scanUnits_escapeChar (c : Char) (rest : List Char) :
    scanUnits (escapeChar c ++ rest) = (scanUnits rest).map fun p => (units c ++ p.1, p.2) := by
  have hsmall : ∀ n, c.toNat = n → n < 0x10000 → units c = [n] := by
    intro n hn h
    subst hn
    simp [units, h]
  unfold escapeChar
  split_ifs with h1 h2 h3 h4 h5 h6 h7 h8
  · rw [hsmall 34 (by rw [h1]; rfl) (by omega)]
    exact scanUnits_simple (by decide) rfl rest
  · rw [hsmall 92 (by rw [h2]; rfl) (by omega)]
    exact scanUnits_simple (by decide) rfl rest
  · rw [hsmall 10 (by rw [h3]; rfl) (by omega)]
    exact scanUnits_simple (by decide) rfl rest
  · rw [hsmall 13 (by rw [h4]; rfl) (by omega)]
    exact scanUnits_simple (by decide) rfl rest
  · rw [hsmall 9 (by rw [h5]; rfl) (by omega)]
    exact scanUnits_simple (by decide) rfl rest
  · rw [hsmall 8 h6 (by omega)]
    exact scanUnits_simple (by decide) rfl rest
  · rw [hsmall 12 h7 (by omega)]
    exact scanUnits_simple (by decide) rfl rest
  · rw [hsmall c.toNat rfl (by omega)]
    exact scanUnits_raw h1 h2 (by omega) rest
  · exact scanUnits_hex (units_bound c) rest

theorem joinUnits_char (c : Char) (us : List ℕ) : joinUnits (c.toNat :: us) = (joinUnits us).map (c :: ·) := by
  have hc := char_bound c
  have hh : isHigh c.toNat = false := by
    simp only [isHigh, Bool.and_eq_false_imp, decide_eq_true_eq, decide_eq_false_iff_not]
    omega
  have hl : isLow c.toNat = false := by
    simp only [isLow, Bool.and_eq_false_imp, decide_eq_true_eq, decide_eq_false_iff_not]
    omega
  rw [joinUnits.eq_def]
  simp only [hh, hl, Char.ofNat_toNat, Bool.false_eq_true, ↓reduceIte]

theorem joinUnits_units (c : Char) (us : List ℕ) :
    joinUnits (units c ++ us) = (joinUnits us).map (c :: ·) := by
  have hc := char_bound c
  unfold units
  split_ifs with h
  · exact joinUnits_char c us
  · have hh : isHigh (0xD800 + (c.toNat - 0x10000) / 0x400) = true := by
      simp only [isHigh, Bool.and_eq_true, decide_eq_true_eq]
      omega
    have hl : isLow (0xDC00 + (c.toNat - 0x10000) % 0x400) = true := by
      simp only [isLow, Bool.and_eq_true, decide_eq_true_eq]
      omega
    have hv : 0x10000 + (0xD800 + (c.toNat - 0x10000) / 0x400 - 0xD800) * 0x400 +
        (0xDC00 + (c.toNat - 0x10000) % 0x400 - 0xDC00) = c.toNat := by
      omega
    rw [List.cons_append, List.singleton_append, joinUnits.eq_def]
    simp only [hh, hl, ↓reduceIte, hv, Char.ofNat_toNat]

/-- What a writer makes of the characters of a string is read as those characters. -/
def Escapes (escape : Char → List Char) : Prop :=
  ∃ encode : Char → List ℕ,
    (∀ c rest, scanUnits (escape c ++ rest) = (scanUnits rest).map fun p => (encode c ++ p.1, p.2)) ∧
    ∀ c us, joinUnits (encode c ++ us) = (joinUnits us).map (c :: ·)

theorem escapes_ascii : Escapes escapeChar := ⟨units, scanUnits_escapeChar, joinUnits_units⟩

theorem scanString_dumps {escape : Char → List Char} (hescape : Escapes escape) (s : String) (rest : List Char) :
    scanString (s.toList.flatMap escape ++ '"' :: rest) = some (s, rest) := by
  obtain ⟨encode, hscan, hjoin⟩ := hescape
  have hunits : ∀ cs : List Char, scanUnits (cs.flatMap escape ++ '"' :: rest) = some (cs.flatMap encode, rest) := by
    intro cs
    induction cs with
    | nil => exact scanUnits_quote rest
    | cons c cs ih =>
      rw [List.flatMap_cons, List.append_assoc, hscan, ih]
      rfl
  have hchars : ∀ cs : List Char, joinUnits (cs.flatMap encode) = some cs := by
    intro cs
    induction cs with
    | nil => rfl
    | cons c cs ih =>
      rw [List.flatMap_cons, hjoin, ih]
      rfl
  simp [scanString, hunits, hchars]

def plainUnits (c : Char) : List ℕ := if 32 ≤ c.toNat ∧ c ≠ '"' ∧ c ≠ '\\' then [c.toNat] else units c

theorem escapes_plain : Escapes plainEscape := by
  refine ⟨plainUnits, fun c rest => ?_, fun c us => ?_⟩
  · unfold plainEscape plainUnits
    split_ifs with h
    · exact scanUnits_raw h.2.1 h.2.2 (Nat.not_lt.mpr h.1) rest
    · exact scanUnits_escapeChar c rest
  · unfold plainUnits
    split_ifs with h
    · exact joinUnits_char c us
    · exact joinUnits_units c us

end Strings

section Values

variable {escape : Char → List Char}

/-- A value's text starts with a character that is neither whitespace nor a closing bracket. -/
def HeadOk (cs : List Char) : Prop :=
  ∃ c t, cs = c :: t ∧ isWhitespace c = false ∧ c ≠ ']'

theorem headOk_of_scanNumber {cs r : List Char} {j : Json} (h : scanNumber cs = some (j, r)) :
    HeadOk cs := by
  obtain ⟨c, t, rfl, hc⟩ := scanNumber_head h
  refine ⟨c, t, rfl, ?_, ?_⟩
  · rcases hc with hd | ⟨rfl, -⟩
    · simp only [isWhitespace, Bool.or_eq_false_iff, decide_eq_false_iff_not]
      refine ⟨⟨⟨?_, ?_⟩, ?_⟩, ?_⟩ <;> (rintro rfl; exact absurd hd (by decide))
    · rfl
  · rcases hc with hd | ⟨rfl, -⟩
    · rintro rfl
      exact absurd hd (by decide)
    · decide

theorem skipWs_headOk {cs : List Char} (h : HeadOk cs) (rest : List Char) :
    skipWs (cs ++ rest) = cs ++ rest := by
  obtain ⟨c, t, rfl, hc, -⟩ := h
  simp [skipWs, hc]

theorem scanConstant_number {cs r rest : List Char} {j : Json} (h : scanNumber cs = some (j, r)) :
    scanConstant (cs ++ rest) = none := by
  obtain ⟨c, t, rfl, hc⟩ := scanNumber_head h
  rcases hc with hd | ⟨rfl, d, u, rfl, hd⟩
  · have hne : ∀ p : Char, p.isDigit = false → p ≠ c := by
      rintro p hp rfl
      rw [hp] at hd
      cases hd
    simp [scanConstant, constants, stripPrefix?, hne 'n' rfl, hne 't' rfl, hne 'f' rfl, hne 'N' rfl,
      hne 'I' rfl, hne '-' rfl]
  · have hne : 'I' ≠ d := by
      rintro rfl
      exact absurd hd (by decide)
    simp [scanConstant, constants, stripPrefix?, hne]

theorem parseValue_number {cs rest : List Char} {j : Json} (n : ℕ) (h : Closes rest)
    (hs : scanNumber cs = some (j, [])) : parseValue (n + 1) (cs ++ rest) = some (j, rest) := by
  have hcon : scanConstant (cs ++ rest) = none := scanConstant_number hs
  have hnum := scanNumber_append h hs
  obtain ⟨c, t, rfl, hc⟩ := scanNumber_head hs
  have hne : c ≠ '"' ∧ c ≠ '[' ∧ c ≠ '\x7b' := by
    rcases hc with hd | ⟨rfl, -⟩
    · refine ⟨?_, ?_, ?_⟩ <;> (rintro rfl; exact absurd hd (by decide))
    · decide
  simp only [List.cons_append] at hcon hnum ⊢
  simp only [parseValue, hne.1, hne.2.1, hne.2.2, ↓reduceIte, hcon, hnum]
  rfl

theorem float_cases {text : String} (h : isFloatText text = true) :
    text = "NaN" ∨ text = "Infinity" ∨ text = "-Infinity" ∨
      scanNumber text.toList = some (.float text, []) := by
  unfold isFloatText at h
  cases hc : scanConstant text.toList with
  | none =>
    rw [hc] at h
    simp only [Option.none_or] at h
    split at h
    · rename_i u hu
      have hut := of_decide_eq_true h
      subst hut
      exact .inr (.inr (.inr hu))
    · cases h
  | some p =>
    rw [hc] at h
    simp only [Option.some_or] at h
    split at h
    · rename_i u hu
      have hut := of_decide_eq_true h
      subst hut
      rw [Option.some.inj hu] at hc
      obtain ⟨q, hq, hs⟩ := List.exists_of_findSome?_eq_some hc
      simp only [constants, List.mem_cons, List.not_mem_nil, or_false] at hq
      rcases hq with rfl | rfl | rfl | rfl | rfl | rfl <;>
        (cases hp : stripPrefix? _ _ <;> rw [hp] at hs <;> simp at hs)
      · exact .inl hs.1.symm
      · exact .inr (.inl hs.1.symm)
      · exact .inr (.inr (.inl hs.1.symm))
    · cases h

theorem dumps_headOk (escape : Char → List Char) (v : Json) (hv : v.Valid) : HeadOk (dumpsChars escape v) := by
  cases v with
  | null => exact ⟨'n', _, rfl, rfl, by decide⟩
  | bool b => cases b <;> exact ⟨_, _, rfl, rfl, by decide⟩
  | int n => exact headOk_of_scanNumber (scanNumber_dumpsInt n)
  | float text =>
    rcases float_cases hv with rfl | rfl | rfl | h
    · exact ⟨'N', _, rfl, rfl, by decide⟩
    · exact ⟨'I', _, rfl, rfl, by decide⟩
    · exact ⟨'-', _, rfl, rfl, by decide⟩
    · exact headOk_of_scanNumber h
  | str s => exact ⟨'"', _, rfl, rfl, by decide⟩
  | arr items => cases items <;> exact ⟨'[', _, rfl, rfl, by decide⟩
  | obj members =>
    cases members with
    | nil => exact ⟨'\x7b', _, rfl, rfl, by decide⟩
    | cons m ms => exact ⟨'\x7b', _, rfl, rfl, by decide⟩

theorem insertMember_new {key : String} (value : Json) {ms : List (String × Json)}
    (h : key ∉ ms.map Prod.fst) : insertMember key value ms = ms ++ [(key, value)] := by
  induction ms with
  | nil => rfl
  | cons m ms ih =>
    simp only [List.map_cons, List.mem_cons, not_or] at h
    simp [insertMember, Ne.symm h.1, ih h.2]

theorem foldl_insertMember {ms acc : List (String × Json)}
    (h : ((acc ++ ms).map Prod.fst).Nodup) :
    ms.foldl (fun a p => insertMember p.1 p.2 a) acc = acc ++ ms := by
  induction ms generalizing acc with
  | nil => simp
  | cons m ms ih =>
    have hnew : m.1 ∉ acc.map Prod.fst := by
      simp only [List.map_append, List.map_cons, List.nodup_append, List.nodup_cons] at h
      intro hm
      exact h.2.2 m.1 hm m.1 (by simp) rfl
    rw [List.foldl_cons, insertMember_new m.2 hnew, ih (by simpa using h)]
    simp

theorem ofPairs_nodup {ms : List (String × Json)} (h : (ms.map Prod.fst).Nodup) : ofPairs ms = ms :=
  foldl_insertMember (by rwa [List.nil_append])

mutual

/-- Fuel that reading the value's text takes. -/
def weight : Json → ℕ
  | .arr items => 1 + weightItems items
  | .obj members => 1 + weightMembers members
  | _ => 1

def weightItems : List Json → ℕ
  | [] => 0
  | x :: xs => 1 + weight x + weightItems xs

def weightMembers : List (String × Json) → ℕ
  | [] => 0
  | (_, v) :: ms => 1 + weight v + weightMembers ms

end

theorem weight_pos (v : Json) : 0 < weight v := by
  cases v <;> simp only [weight] <;> omega

theorem dumpsItems_closes (escape : Char → List Char) (xs : List Json) (rest : List Char) :
    Closes (dumpsItems escape xs ++ rest) := by
  cases xs with
  | nil => exact closes_cons (.inr (.inl rfl)) _
  | cons x xs => exact closes_cons (.inl rfl) _

theorem dumpsMembers_closes (escape : Char → List Char) (ms : List (String × Json)) (rest : List Char) :
    Closes (dumpsMembers escape ms ++ rest) := by
  cases ms with
  | nil => exact closes_cons (.inr (.inr rfl)) _
  | cons m ms => exact closes_cons (.inl rfl) _

theorem skipWs_cons {c : Char} (h : isWhitespace c = false) (r : List Char) :
    skipWs (c :: r) = c :: r := by
  simp [skipWs, h]

theorem parseItems_last {n : ℕ} {cs r : List Char} {v : Json}
    (hv : parseValue n cs = some (v, ']' :: r)) : parseItems (n + 1) cs = some ([v], r) := by
  rw [parseItems, hv]
  rfl

theorem parseItems_more {n : ℕ} {cs r r' : List Char} {v : Json} {vs : List Json}
    (hv : parseValue n cs = some (v, ',' :: r)) (hr : skipWs r = r)
    (hvs : parseItems n r = some (vs, r')) : parseItems (n + 1) cs = some (v :: vs, r') := by
  rw [parseItems, hv]
  simp only [skipWs_cons (c := ',') rfl, Char.reduceEq, ↓reduceIte, hr, hvs, Option.map_some]

theorem parseMembers_last (hescape : Escapes escape) {n : ℕ} {key : String} {cs r : List Char} {v : Json}
    (hcs : skipWs cs = cs)
    (hv : parseValue n cs = some (v, '\x7d' :: r)) :
    parseMembers (n + 1) (dumpsString escape key ++ ':' :: cs) = some ([(key, v)], r) := by
  have hk := scanString_dumps hescape key (':' :: cs)
  simp only [dumpsString, List.cons_append, List.append_assoc, List.nil_append]
  rw [parseMembers]
  simp only [↓reduceIte, hk, skipWs_cons (c := ':') rfl, hcs, hv, skipWs_cons (c := '\x7d') rfl]

theorem parseMembers_more (hescape : Escapes escape) {n : ℕ} {key : String} {cs r r' : List Char} {v : Json}
    {ms : List (String × Json)} (hcs : skipWs cs = cs) (hv : parseValue n cs = some (v, ',' :: r))
    (hr : skipWs r = r) (hms : parseMembers n r = some (ms, r')) :
    parseMembers (n + 1) (dumpsString escape key ++ ':' :: cs) = some ((key, v) :: ms, r') := by
  have hk := scanString_dumps hescape key (':' :: cs)
  simp only [dumpsString, List.cons_append, List.append_assoc, List.nil_append]
  rw [parseMembers]
  simp only [↓reduceIte, hk, skipWs_cons (c := ':') rfl, hcs, hv, skipWs_cons (c := ',') rfl,
    Char.reduceEq, hr, hms, Option.map_some]

theorem skipWs_dumpsString (escape : Char → List Char) (key : String) (r : List Char) :
    skipWs (dumpsString escape key ++ r) = dumpsString escape key ++ r :=
  skipWs_cons rfl _

theorem parseValue_arr {n : ℕ} {cs r : List Char} {vs : List Json} (hcs : HeadOk cs)
    (h : parseItems n cs = some (vs, r)) : parseValue (n + 1) ('[' :: cs) = some (.arr vs, r) := by
  obtain ⟨c, t, rfl, hw, hc⟩ := hcs
  rw [parseValue]
  simp only [Char.reduceEq, ↓reduceIte, skipWs_cons hw, hc, h, Option.map_some]

theorem parseValue_obj {n : ℕ} {key : String} {cs r : List Char} {ms : List (String × Json)}
    (hms : (ms.map Prod.fst).Nodup) (h : parseMembers n (dumpsString escape key ++ cs) = some (ms, r)) :
    parseValue (n + 1) ('\x7b' :: (dumpsString escape key ++ cs)) = some (.obj ms, r) := by
  have hs := skipWs_dumpsString escape key cs
  rw [parseValue]
  simp only [Char.reduceEq, ↓reduceIte, hs]
  simp only [dumpsString, List.cons_append] at h ⊢
  simp only [Char.reduceEq, ↓reduceIte, h, Option.map_some, ofPairs_nodup hms]

/-- With fuel `n`, reading the text of a value gives it back, whatever follows that
ends a value. -/
structure Reads (escape : Char → List Char) (n : ℕ) : Prop where
  value : ∀ v rest, v.Valid → weight v ≤ n → Closes rest →
    parseValue n (dumpsChars escape v ++ rest) = some (v, rest)
  items : ∀ x xs rest, Json.ValidItems (x :: xs) → weightItems (x :: xs) ≤ n → Closes rest →
    parseItems n (dumpsChars escape x ++ (dumpsItems escape xs ++ rest)) = some (x :: xs, rest)
  members : ∀ k v ms rest, Json.ValidMembers ((k, v) :: ms) → weightMembers ((k, v) :: ms) ≤ n →
    Closes rest →
    parseMembers n (dumpsString escape k ++ ':' :: (dumpsChars escape v ++ (dumpsMembers escape ms ++ rest))) =
      some ((k, v) :: ms, rest)

theorem reads_value (hescape : Escapes escape) {n : ℕ} (ih : Reads escape n) (v : Json) (rest : List Char) (hv : v.Valid)
    (hn : weight v ≤ n + 1) (hrest : Closes rest) :
    parseValue (n + 1) (dumpsChars escape v ++ rest) = some (v, rest) := by
  cases v with
  | null => rfl
  | bool b => cases b <;> rfl
  | int i => exact parseValue_number n hrest (scanNumber_dumpsInt i)
  | float text =>
    rcases float_cases hv with rfl | rfl | rfl | h
    · rfl
    · rfl
    · rfl
    · exact parseValue_number n hrest h
  | str s =>
    have hs := scanString_dumps hescape s rest
    simp only [dumpsChars, dumpsString, List.cons_append, List.append_assoc, List.nil_append]
    rw [parseValue]
    simp only [↓reduceIte, hs, Option.map_some]
  | arr items =>
    cases items with
    | nil => rfl
    | cons x xs =>
      simp only [weight] at hn
      have hhead : HeadOk (dumpsChars escape x ++ (dumpsItems escape xs ++ rest)) := by
        obtain ⟨c, t, hc, hw, hb⟩ := dumps_headOk escape x hv.1
        rw [hc]
        exact ⟨c, _, rfl, hw, hb⟩
      have hitems := parseValue_arr hhead (ih.items x xs rest hv (by omega) hrest)
      simpa only [dumpsChars, List.cons_append, List.append_assoc] using hitems
  | obj members =>
    cases members with
    | nil => rfl
    | cons m ms =>
      obtain ⟨k, v⟩ := m
      simp only [weight] at hn
      have hmembers := parseValue_obj hv.1 (ih.members k v ms rest hv.2 (by omega) hrest)
      simpa only [dumpsChars, List.cons_append, List.append_assoc] using hmembers

theorem reads_items {n : ℕ} (ih : Reads escape n) (x : Json) (xs : List Json) (rest : List Char)
    (hv : Json.ValidItems (x :: xs)) (hn : weightItems (x :: xs) ≤ n + 1) (hrest : Closes rest) :
    parseItems (n + 1) (dumpsChars escape x ++ (dumpsItems escape xs ++ rest)) = some (x :: xs, rest) := by
  have hx := weight_pos x
  rw [weightItems] at hn
  have hvalue := ih.value x _ hv.1 (by omega) (dumpsItems_closes escape xs rest)
  cases xs with
  | nil => exact parseItems_last hvalue
  | cons y ys =>
    have hmore := ih.items y ys rest hv.2 (by omega) hrest
    have hskip := skipWs_headOk (dumps_headOk escape y hv.2.1) (dumpsItems escape ys ++ rest)
    simp only [dumpsItems, List.cons_append, List.append_assoc] at hvalue ⊢
    exact parseItems_more hvalue hskip hmore

theorem reads_members (hescape : Escapes escape) {n : ℕ} (ih : Reads escape n) (k : String) (v : Json)
    (ms : List (String × Json))
    (rest : List Char) (hv : Json.ValidMembers ((k, v) :: ms))
    (hn : weightMembers ((k, v) :: ms) ≤ n + 1) (hrest : Closes rest) :
    parseMembers (n + 1) (dumpsString escape k ++ ':' :: (dumpsChars escape v ++ (dumpsMembers escape ms ++ rest))) =
      some ((k, v) :: ms, rest) := by
  have hw := weight_pos v
  rw [weightMembers] at hn
  have hvalue := ih.value v _ hv.1 (by omega) (dumpsMembers_closes escape ms rest)
  have hskip := skipWs_headOk (dumps_headOk escape v hv.1) (dumpsMembers escape ms ++ rest)
  cases ms with
  | nil => exact parseMembers_last hescape hskip hvalue
  | cons m ms =>
    obtain ⟨k', v'⟩ := m
    have hmore := ih.members k' v' ms rest hv.2 (by omega) hrest
    simp only [dumpsMembers, List.cons_append, List.append_assoc] at hvalue hskip ⊢
    exact parseMembers_more hescape hskip hvalue (skipWs_dumpsString escape k' _) hmore

theorem reads (hescape : Escapes escape) (n : ℕ) : Reads escape n := by
  induction n with
  | zero =>
    refine ⟨?_, ?_, ?_⟩
    · intro v rest _ hn
      have := weight_pos v
      omega
    · intro x xs rest _ hn
      simp only [weightItems] at hn
      omega
    · intro k v ms rest _ hn
      simp only [weightMembers] at hn
      omega
  | succ n ih => exact ⟨reads_value hescape ih, reads_items ih, reads_members hescape ih⟩

section Weights

variable (escape : Char → List Char)


mutual

theorem weight_le (v : Json) : weight v ≤ 2 * (dumpsChars escape v).length + 1 := by
  match v with
  | .null | .bool true | .bool false | .int _ | .float _ | .str _ | .arr [] | .obj [] =>
    simp [weight, weightItems, weightMembers]
  | .arr (x :: xs) =>
    have hx := weight_le x
    have hxs := weightItems_le xs
    simp only [weight, weightItems, dumpsChars, List.length_cons, List.length_append]
    omega
  | .obj ((k, v) :: ms) =>
    have hv := weight_le v
    have hms := weightMembers_le ms
    simp only [weight, weightMembers, dumpsChars, List.length_cons, List.length_append]
    omega

theorem weightItems_le (xs : List Json) : weightItems xs ≤ 2 * (dumpsItems escape xs).length := by
  match xs with
  | [] => simp [weightItems]
  | x :: xs =>
    have hx := weight_le x
    have hxs := weightItems_le xs
    simp only [weightItems, dumpsItems, List.length_cons, List.length_append]
    omega

theorem weightMembers_le (ms : List (String × Json)) :
    weightMembers ms ≤ 2 * (dumpsMembers escape ms).length := by
  match ms with
  | [] => simp [weightMembers]
  | (k, v) :: ms =>
    have hv := weight_le v
    have hms := weightMembers_le ms
    simp only [weightMembers, dumpsMembers, List.length_cons, List.length_append]
    omega

end

end Weights

theorem loadsChars_dumpsChars {escape : Char → List Char} (hescape : Escapes escape) {v : Json} (hv : v.Valid) :
    loadsChars (dumpsChars escape v) = some v := by
  have hskip : skipWs (dumpsChars escape v) = dumpsChars escape v := by
    have h := skipWs_headOk (dumps_headOk escape v hv) []
    rwa [List.append_nil] at h
  have hw := weight_le escape v
  have hparse := (reads hescape (2 * (dumpsChars escape v).length + 2)).value v [] hv (by omega) closes_nil
  rw [List.append_nil] at hparse
  unfold loadsChars
  rw [hskip, hparse]
  rfl

end Values

theorem loads_dumps {v : Json} (hv : v.Valid) : loads (dumps v) = some v := by
  unfold loads dumps
  rw [String.toList_ofList]
  exact loadsChars_dumpsChars escapes_ascii hv

theorem dumps_injective {v w : Json} (hv : v.Valid) (hw : w.Valid) (h : dumps v = dumps w) : v = w := by
  have hl := loads_dumps hv
  rw [h, loads_dumps hw] at hl
  exact (Option.some.inj hl).symm

end AIRuntime.JsonText
