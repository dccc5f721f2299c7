/-
# Time tags: the language the parsers read

`ParsePsfTimeMS` and `ParseUSFTimeMS` read the `length` and `fade` tags of a PSF-family file.
What they accept is a small language: fields of decimal digits joined by `':'`, the last of
which may carry a fraction after a separator (`'.'` or `','` for the PSF copies, `'.'` alone
for lazyusf).  This module writes that language down as data, a `TimeTag` with its
`render`ing and its meaning `ms`, and proves that the parsers read exactly it:

* **printing then parsing** gives the tag's value (`parsePsfTimeMS_render`,
  `parseUSFTimeMS_render`): each field counts sixty of the next, the fraction's first three
  digits are milliseconds, and the result wraps modulo `2^64` before the clamp to
  `UINT32_MAX`.  The PSF copies read a lone field as an integer instead, so a tag of one field
  from `10000` on is milliseconds and neither wraps nor counts as seconds.  lazyusf reads a
  tag whose fraction follows a `','` as `0`;
* **parsing then printing**: every string the colon form reads as a non-zero time is the
  printing of a well-formed tag (`parseUSFTimeMS_accepts`, `parsePsfTimeMS_accepts`), so the
  parser accepts nothing the grammar does not describe.  The PSF copies' integer branch is
  the exception (`strtoul` skips white space and takes a sign), and that theorem assumes a
  separator.

The proofs follow the source's loops.  One field is scanned digit by digit
(`scanSegment_digits`, `scanSegment_fraction`), and the fields are then consumed from the
left by `colonLoop` (`colonLoop_fields`).  For the converse, an accepted scan is inverted
field by field (`scanSegment_integer_some`, `colonLoop_accepts`).
-/
import Vgmpd.Plugins.PsfTime
import Mathlib.Algebra.Group.Nat.Basic

namespace Vgmpd

/-! ## 1. Digits -/

/-- The digits `ds` read into the accumulator `v`, as each of the parsers' digit loops does
it (`value = value * 10 + digit`). -/
def accumulateDigits (v : Nat) (ds : List Char) : Nat :=
  ds.foldl (fun v d => 10 * v + (d.toNat - '0'.toNat)) v

/-- Every character is a decimal digit. -/
def AllDigits (ds : List Char) : Prop := ∀ c ∈ ds, c.isDigit = true

instance (ds : List Char) : Decidable (AllDigits ds) :=
  inferInstanceAs (Decidable (∀ c ∈ ds, c.isDigit = true))

theorem isDigit_iff (c : Char) : c.isDigit = true ↔ 48 ≤ c.toNat ∧ c.toNat ≤ 57 := by
  simp only [Char.isDigit, Bool.and_eq_true, decide_eq_true_eq]
  exact Iff.rfl

/-- The parsers' test `*q < '0' || *q > '9'` fails exactly on the digits. -/
theorem outside_digits_false {c : Char} (h : c.isDigit = true) :
    (c < '0' || c > '9') = false := by
  rw [isDigit_iff] at h
  simp only [Bool.or_eq_false_iff, decide_eq_false_iff_not]
  exact ⟨fun e => absurd (show c.toNat < 48 from e) (by omega),
    fun e => absurd (show 57 < c.toNat from e) (by omega)⟩

theorem isDigit_of_inside {c : Char} (h : ¬(c < '0' || c > '9') = true) : c.isDigit = true := by
  simp only [Bool.or_eq_true, decide_eq_true_eq, not_or] at h
  exact (isDigit_iff c).2 ⟨Nat.not_lt.1 h.1, Nat.not_lt.1 h.2⟩

theorem not_mem_of_allDigits {c : Char} (hc : c.isDigit = false) {ds : List Char}
    (hd : AllDigits ds) : c ∉ ds :=
  fun h => absurd (hd c h) (by simp [hc])

theorem colon_not_mem_of_allDigits {ds : List Char} (hd : AllDigits ds) : ':' ∉ ds :=
  not_mem_of_allDigits (by decide) hd

/-- The PSF copies' fraction separators are not digits. -/
theorem psfSeparator_of_digit {c : Char} (h : c.isDigit = true) :
    (c = '.' || c = ',') = false := by
  have h1 : c ≠ '.' := fun e => by subst e; simp at h
  have h2 : c ≠ ',' := fun e => by subst e; simp at h
  simp [h1, h2]

theorem accumulateDigits_lt {ds : List Char} (hd : AllDigits ds) :
    ∀ m k, m < 10 ^ k → accumulateDigits m ds < 10 ^ (k + ds.length) := by
  induction ds with
  | nil => intro m k h; simpa [accumulateDigits] using h
  | cons c cs ih =>
    intro m k h
    have hdig : c.toNat - '0'.toNat ≤ 9 := by
      have := (isDigit_iff c).1 (hd c (.head _)); simp; omega
    have := ih (fun x hx => hd x (.tail _ hx)) (10 * m + (c.toNat - '0'.toNat)) (k + 1)
      (by rw [Nat.pow_succ]; omega)
    simpa [accumulateDigits, Nat.add_assoc, Nat.add_comm 1] using this

/-! ## 2. The 64-bit accumulators -/

theorem wrapU64_of_lt {v : Nat} (h : v < UInt64.size) : wrapU64 v = v := Nat.mod_eq_of_lt h

theorem wrapU64_mul_add_wrap (a k b : Nat) :
    wrapU64 (wrapU64 a * k + b) = wrapU64 (a * k + b) := by
  simp only [wrapU64, Nat.add_mod, Nat.mul_mod, Nat.mod_mod]

theorem wrapU64_add_wrap (a b : Nat) : wrapU64 (a + wrapU64 b) = wrapU64 (a + b) := by
  simp only [wrapU64, Nat.add_mod, Nat.mod_mod]

/-- Padding a fraction that fits does not wrap. -/
theorem padFraction_eq : ∀ (k m : Nat), m * 10 ^ k < UInt64.size → padFraction m k = m * 10 ^ k
  | 0, m, _ => by simp [padFraction]
  | k + 1, m, h => by
    have h10 : m * 10 ≤ m * 10 ^ (k + 1) :=
      Nat.mul_le_mul_left m (by simpa using Nat.pow_le_pow_right (by omega) (by omega : 1 ≤ k + 1))
    rw [padFraction, wrapU64_of_lt (by omega),
      padFraction_eq k (m * 10) (by rwa [Nat.mul_assoc, ← Nat.pow_succ']),
      Nat.mul_assoc, ← Nat.pow_succ']

/-- `strtoul` reads a run of digits whole, saturating at `ULONG_MAX`. -/
theorem strtoul_digits {ds : List Char} (hne : ds ≠ []) (hd : AllDigits ds) :
    strtoul ds = some (if decimalValue ds > ulongMax then ulongMax else decimalValue ds, []) := by
  obtain ⟨c, cs, rfl⟩ := List.exists_cons_of_ne_nil hne
  have hc := (isDigit_iff c).1 (hd c (.head _))
  have hspace : isCSpace c = false := by
    have : c ≠ ' ' := fun e => by subst e; simp at hc
    simp [isCSpace, this]; omega
  have hsign : splitSign (c :: cs) = (false, c :: cs) := by
    have h1 : c ≠ '-' := fun e => by subst e; simp at hc
    have h2 : c ≠ '+' := fun e => by subst e; simp at hc
    simp [splitSign, h1, h2]
  have hdrop : (c :: cs).dropWhile isCSpace = c :: cs :=
    List.dropWhile_cons_of_neg (by simp [hspace])
  simp only [strtoul, hdrop, hsign, List.takeWhile_eq_self_iff.2 hd, List.dropWhile_eq_nil_iff.2 hd,
    Bool.false_eq_true, if_false, reduceCtorEq, ↓reduceIte]

/-- Saturating at `ULONG_MAX` first changes nothing after the clamp to `UINT32_MAX`. -/
theorem clampUInt32_saturate (v : Nat) :
    clampUInt32 (if v > ulongMax then ulongMax else v) = clampUInt32 v := by
  split
  · have hm : uint32Max < ulongMax := by decide
    simp only [clampUInt32, if_pos hm, if_pos (Nat.lt_trans hm ‹_›)]
  · rfl

/-! ## 3. Time tags -/

/-- A time tag of the colon form, as fields of characters. -/
structure TimeTag where
  /-- The fields before the last `':'`: minutes, or hours and minutes, and so on. -/
  init : List (List Char)
  /-- The seconds field. -/
  last : List Char
  /-- The digits after the fraction separator, when the tag has one. -/
  fraction : Option (List Char)
deriving DecidableEq, Repr

/-- The tag is in the language: every field is digits, the fields before the last are not
empty, and the last field has a digit before or after its separator. -/
structure TimeTag.WellFormed (t : TimeTag) : Prop where
  init_digits : ∀ f ∈ t.init, f ≠ [] ∧ AllDigits f
  last_digits : AllDigits t.last
  fraction_digits : AllDigits (t.fraction.getD [])
  has_digit : t.last ++ t.fraction.getD [] ≠ []

instance (t : TimeTag) : Decidable t.WellFormed :=
  decidable_of_iff ((∀ f ∈ t.init, f ≠ [] ∧ AllDigits f) ∧ AllDigits t.last ∧
      AllDigits (t.fraction.getD []) ∧ t.last ++ t.fraction.getD [] ≠ [])
    ⟨fun ⟨a, b, c, d⟩ => ⟨a, b, c, d⟩, fun ⟨a, b, c, d⟩ => ⟨a, b, c, d⟩⟩

/-- The last field, its fraction written after `sep`. -/
def TimeTag.lastField (t : TimeTag) (sep : Char) : List Char :=
  t.last ++ match t.fraction with
    | none => []
    | some f => sep :: f

/-- The fields, as the parsers' colon split finds them. -/
def TimeTag.fields (t : TimeTag) (sep : Char) : List (List Char) := t.init ++ [t.lastField sep]

/-- The tag as a string, its fraction written after `sep`. -/
def TimeTag.render (t : TimeTag) (sep : Char) : List Char := [':'].intercalate (t.fields sep)

/-- The seconds the fields give, each counting sixty of the next. -/
def TimeTag.seconds (t : TimeTag) : Nat :=
  (t.init ++ [t.last]).foldl (fun s f => s * 60 + decimalValue f) 0

/-- The milliseconds a fraction gives: its first three digits, as thousandths. -/
def fractionMs (f : List Char) : Nat := decimalValue (f.take 3) * 10 ^ (3 - f.length)

/-- What the tag means, in milliseconds. -/
def TimeTag.ms (t : TimeTag) : Nat := t.seconds * 1000 + (t.fraction.map fractionMs).getD 0

theorem lastField_ne_nil (sep : Char) {t : TimeTag} (ht : t.WellFormed) :
    t.lastField sep ≠ [] := by
  have := ht.has_digit
  rcases hf : t.fraction with _ | f <;> simp_all [TimeTag.lastField]

theorem colon_not_mem_fields {sep : Char} (hcolon : sep ≠ ':') {t : TimeTag}
    (ht : t.WellFormed) : ∀ l ∈ t.fields sep, ':' ∉ l := by
  intro l hl
  rcases List.mem_append.1 hl with h | h
  · exact colon_not_mem_of_allDigits (ht.init_digits l h).2
  · rw [List.mem_singleton.1 h, TimeTag.lastField]
    have hfd := ht.fraction_digits
    rcases hf : t.fraction with _ | f
    · simpa using colon_not_mem_of_allDigits ht.last_digits
    · rw [hf] at hfd
      simp only [List.mem_append, List.mem_cons, not_or]
      exact ⟨colon_not_mem_of_allDigits ht.last_digits, hcolon.symm,
        colon_not_mem_of_allDigits hfd⟩

/-- **The colon split of a printed tag gives back its fields.** -/
theorem splitOn_render {sep : Char} (hcolon : sep ≠ ':') {t : TimeTag} (ht : t.WellFormed) :
    (t.render sep).splitOn ':' = t.fields sep :=
  List.splitOn_intercalate _ _ (colon_not_mem_fields hcolon ht) (by simp [TimeTag.fields])

theorem render_ne_nil {sep : Char} (hcolon : sep ≠ ':') {t : TimeTag} (ht : t.WellFormed) :
    t.render sep ≠ [] := by
  intro h
  have hlast := congrArg List.getLast? (splitOn_render hcolon ht)
  rw [h] at hlast
  simp [TimeTag.fields] at hlast
  exact lastField_ne_nil sep ht hlast

theorem render_of_init_nil {sep : Char} {t : TimeTag} (h : t.init = []) :
    t.render sep = t.lastField sep := by
  simp [TimeTag.render, TimeTag.fields, h, List.intercalate]

/-! ## 4. Scanning one field -/

section Scan

variable {isFrac : Char → Bool}

theorem scanSegment_separator {sep : Char} (hsep : isFrac sep = true) (sd : Bool) (v : Nat)
    (rest : List Char) :
    scanSegment isFrac false ⟨sd, false, v, 0, 0⟩ (sep :: rest) =
      scanSegment isFrac false ⟨sd, true, v, 0, 0⟩ rest := by
  rw [scanSegment, if_pos hsep, if_neg (by simp)]

theorem scanSegment_nonDigit {c : Char} (hf : isFrac c = false) (hc : c.isDigit = false)
    (hasColon : Bool) (st : SegmentScan) (rest : List Char) :
    scanSegment isFrac hasColon st (c :: rest) = none := by
  have hout : (c < '0' || c > '9') = true := by
    rw [← Bool.not_eq_false]
    intro h
    simp only [Bool.or_eq_false_iff, decide_eq_false_iff_not] at h
    rw [← Bool.not_eq_true, isDigit_iff] at hc
    exact hc ⟨Nat.not_lt.1 h.1, Nat.not_lt.1 h.2⟩
  rw [scanSegment, if_neg (by simp [hf]), if_pos hout]

/-- **Digits before the fraction accumulate into the seconds, modulo `2^64`.** -/
theorem scanSegment_digits (hdigit : ∀ c, c.isDigit = true → isFrac c = false) (hc : Bool)
    {ds : List Char} (hd : AllDigits ds) :
    ∀ (sd : Bool) (v : Nat) (rest : List Char),
      scanSegment isFrac hc ⟨sd, false, wrapU64 v, 0, 0⟩ (ds ++ rest) =
        scanSegment isFrac hc
          ⟨sd || !ds.isEmpty, false, wrapU64 (accumulateDigits v ds), 0, 0⟩ rest := by
  induction ds with
  | nil => intro sd v rest; simp [accumulateDigits]
  | cons c cs ih =>
    intro sd v rest
    have hc' := hd c (.head _)
    rw [List.cons_append, scanSegment, if_neg (by simp [hdigit c hc']),
      if_neg (by simp [outside_digits_false hc'])]
    simp only [Bool.not_false, ↓reduceIte]
    rw [show wrapU64 (wrapU64 v * 10 + (c.toNat - '0'.toNat)) =
        wrapU64 (10 * v + (c.toNat - '0'.toNat)) by rw [wrapU64_mul_add_wrap, Nat.mul_comm],
      ih (fun x hx => hd x (.tail _ hx))]
    simp [accumulateDigits]

/-- **The fraction keeps its first three digits.**  Starting from `k` digits read into `m`, the
rest of the field adds digits while fewer than three are in, and only marks later ones seen. -/
theorem scanSegment_fraction (hdigit : ∀ c, c.isDigit = true → isFrac c = false) (hc : Bool)
    {f : List Char} (hd : AllDigits f) :
    ∀ (sd : Bool) (s m k : Nat), k ≤ 3 → m < 10 ^ k →
      scanSegment isFrac hc ⟨sd, true, s, m, k⟩ f =
        some ⟨sd || !f.isEmpty, true, s, accumulateDigits m (f.take (3 - k)),
          k + min (3 - k) f.length⟩ := by
  induction f with
  | nil => intro sd s m k _ _; simp [scanSegment, accumulateDigits]
  | cons c cs ih =>
    intro sd s m k hk hm
    have hc' := hd c (.head _)
    have ih' := ih (fun x hx => hd x (.tail _ hx))
    rw [scanSegment, if_neg (by simp [hdigit c hc']),
      if_neg (by simp [outside_digits_false hc'])]
    simp only [Bool.not_true, Bool.false_eq_true, ↓reduceIte]
    by_cases h3 : k < 3
    · have hdig : c.toNat - '0'.toNat ≤ 9 := by have := (isDigit_iff c).1 hc'; simp; omega
      have hpow : 10 ^ (k + 1) ≤ 1000 := Nat.pow_le_pow_right (n := 10) (by omega) h3
      have hlt : m * 10 + (c.toNat - '0'.toNat) < 10 ^ (k + 1) := by rw [Nat.pow_succ]; omega
      have hsize : (1000 : Nat) < UInt64.size := by decide
      rw [if_pos h3, wrapU64_of_lt (by omega), ih' true s _ (k + 1) h3 hlt]
      obtain ⟨j, hj⟩ : ∃ j, 3 - k = j + 1 := ⟨2 - k, by omega⟩
      simp only [hj, List.take_succ_cons, List.length_cons, accumulateDigits, List.foldl_cons,
        Bool.true_or, List.isEmpty_cons, Bool.not_false, Bool.or_true, Nat.mul_comm m]
      rw [show 3 - (k + 1) = j by omega,
        show k + 1 + min j cs.length = k + min (j + 1) (cs.length + 1) by omega]
    · rw [if_neg h3, ih' true s m k hk hm]
      simp [show 3 - k = 0 by omega]

theorem scanSegment_field (hdigit : ∀ c, c.isDigit = true → isFrac c = false) (hc : Bool)
    {f : List Char} (hne : f ≠ []) (hd : AllDigits f) :
    scanSegment isFrac hc {} f = some ⟨true, false, wrapU64 (decimalValue f), 0, 0⟩ := by
  have h := scanSegment_digits hdigit hc hd false 0 []
  simp only [List.append_nil, Bool.false_or, wrapU64_of_lt (show 0 < UInt64.size by decide)] at h
  rw [show ({} : SegmentScan) = ⟨false, false, 0, 0, 0⟩ from rfl, h, scanSegment]
  simp [List.isEmpty_iff, hne]
  rfl

/-- **The last field of a tag scans to its seconds and its padded fraction.** -/
theorem scanSegment_lastField (hdigit : ∀ c, c.isDigit = true → isFrac c = false)
    {sep : Char} (hsep : isFrac sep = true) {t : TimeTag} (ht : t.WellFormed) :
    ∃ st, scanSegment isFrac false {} (t.lastField sep) = some st ∧ st.seenDigit = true ∧
      st.segmentSeconds = wrapU64 (decimalValue t.last) ∧
      padFraction st.segmentMs (3 - st.fractionDigits) = (t.fraction.map fractionMs).getD 0 := by
  have h0 : ({} : SegmentScan) = ⟨false, false, wrapU64 0, 0, 0⟩ := rfl
  have hd := scanSegment_digits hdigit false ht.last_digits false 0
  have hhas := ht.has_digit
  rcases hf : t.fraction with _ | f
  · rw [hf] at hhas
    rw [TimeTag.lastField, hf, h0, hd, scanSegment]
    refine ⟨_, rfl, ?_, rfl, ?_⟩
    · simpa [List.isEmpty_iff] using hhas
    · exact (padFraction_eq 3 0 (by decide)).trans (Nat.zero_mul _)
  · have hfd : AllDigits f := by simpa [hf] using ht.fraction_digits
    rw [hf] at hhas
    rw [TimeTag.lastField, hf, h0, hd, scanSegment_separator hsep,
      scanSegment_fraction hdigit false hfd _ _ 0 0 (by omega) (by decide)]
    refine ⟨_, rfl, ?_, rfl, ?_⟩
    · simpa [List.isEmpty_iff, ← not_and_or] using hhas
    · have hlt := @accumulateDigits_lt (f.take 3)
        (fun c hc => hfd c (List.mem_of_mem_take hc)) 0 0 (by decide)
      have hpow : 10 ^ (min 3 f.length) * 10 ^ (3 - f.length) = 1000 := by
        rw [← Nat.pow_add, show min 3 f.length + (3 - f.length) = 3 by omega]
      have hbound := Nat.mul_lt_mul_of_pos_right hlt
        (Nat.pos_pow_of_pos (3 - f.length) (by omega : 0 < 10))
      rw [List.length_take, Nat.zero_add, hpow] at hbound
      rw [show 3 - (0 + min (3 - 0) f.length) = 3 - f.length by omega,
        padFraction_eq _ _ (Nat.lt_trans hbound (by decide))]
      rfl

/-- An accepted scan after the separator has read digits only. -/
theorem scanSegment_fraction_some {hc : Bool} {seg : List Char} :
    ∀ {st st' : SegmentScan}, st.seenFraction = true →
      scanSegment isFrac hc st seg = some st' →
        AllDigits seg ∧ st'.seenDigit = (st.seenDigit || !seg.isEmpty) := by
  induction seg with
  | nil => intro st st' _ h; cases h; simp [AllDigits]
  | cons c cs ih =>
    intro st st' hst h
    rw [scanSegment] at h
    by_cases hf : isFrac c = true
    · rw [if_pos hf, if_pos (by simp [hst])] at h; cases h
    by_cases hout : (c < '0' || c > '9') = true
    · rw [if_neg hf, if_pos hout] at h; cases h
    rw [if_neg hf, if_neg hout] at h
    simp only [hst, Bool.not_true, Bool.false_eq_true, ↓reduceIte] at h
    have hnext : ∀ st₁ : SegmentScan, scanSegment isFrac hc st₁ cs = some st' →
        st₁.seenFraction = true → st₁.seenDigit = true →
          AllDigits (c :: cs) ∧ st'.seenDigit = (st.seenDigit || !(c :: cs).isEmpty) := by
      intro st₁ h3 h1 h2
      obtain ⟨hd, hsd⟩ := ih h1 h3
      refine ⟨fun x hx => ?_, by simp [hsd, h2]⟩
      rcases List.mem_cons.1 hx with rfl | hx
      · exact isDigit_of_inside hout
      · exact hd x hx
    split at h
    · exact hnext _ h rfl rfl
    · exact hnext _ h rfl rfl

/-- **An accepted field is digits, or digits, one separator and digits.**  The separator is
allowed only in the last field (`hc = false`). -/
theorem scanSegment_integer_some {hc : Bool} {seg : List Char} :
    ∀ {sd : Bool} {s : Nat} {st' : SegmentScan},
      scanSegment isFrac hc ⟨sd, false, s, 0, 0⟩ seg = some st' →
        (AllDigits seg ∧ st'.seenDigit = (sd || !seg.isEmpty)) ∨
        (hc = false ∧ ∃ d sep f, seg = d ++ sep :: f ∧ isFrac sep = true ∧ AllDigits d ∧
          AllDigits f ∧ st'.seenDigit = (sd || !(d ++ f).isEmpty)) := by
  induction seg with
  | nil => intro sd s st' h; cases h; left; simp [AllDigits]
  | cons c cs ih =>
    intro sd s st' h
    rw [scanSegment] at h
    by_cases hf : isFrac c = true
    · rw [if_pos hf] at h
      cases hc
      · rw [if_neg (by simp)] at h
        obtain ⟨hd, hsd⟩ := scanSegment_fraction_some rfl h
        exact .inr ⟨rfl, [], c, cs, rfl, hf, by simp [AllDigits], hd, by simpa using hsd⟩
      · rw [if_pos (by simp)] at h; cases h
    by_cases hout : (c < '0' || c > '9') = true
    · rw [if_neg hf, if_pos hout] at h; cases h
    rw [if_neg hf, if_neg hout] at h
    simp only [Bool.not_false, ↓reduceIte] at h
    have hc' := isDigit_of_inside hout
    rcases ih h with ⟨hd, hsd⟩ | ⟨hc0, d, sep, f, rfl, hsep, hd, hf', hsd⟩
    · refine .inl ⟨fun x hx => ?_, by simp [hsd]⟩
      rcases List.mem_cons.1 hx with rfl | hx
      · exact hc'
      · exact hd x hx
    · refine .inr ⟨hc0, c :: d, sep, f, rfl, hsep, fun x hx => ?_, hf', by simp [hsd]⟩
      rcases List.mem_cons.1 hx with rfl | hx
      · exact hc'
      · exact hd x hx

end Scan

/-! ## 5. Printing then parsing -/

section Loop

variable {isFrac : Char → Bool}

/-- **The fields before the last fold into the total seconds.** -/
theorem colonLoop_fields (hdigit : ∀ c, c.isDigit = true → isFrac c = false)
    {init : List (List Char)} (hinit : ∀ f ∈ init, f ≠ [] ∧ AllDigits f) (seg : List Char) :
    ∀ v, colonLoop isFrac (wrapU64 v) (init ++ [seg]) =
      colonLoop isFrac (wrapU64 (init.foldl (fun s f => s * 60 + decimalValue f) v)) [seg] := by
  induction init with
  | nil => intro v; rfl
  | cons f fs ih =>
    intro v
    obtain ⟨hne, hd⟩ := hinit f (.head _)
    have hrest : (fs ++ [seg]).isEmpty = false := by simp
    rw [List.cons_append, colonLoop, hrest, Bool.not_false, scanSegment_field hdigit true hne hd]
    simp only [Bool.not_true, Bool.false_eq_true, ↓reduceIte, hrest]
    rw [wrapU64_mul_add_wrap, wrapU64_add_wrap, ih (fun x hx => hinit x (.tail _ hx))]
    rfl

theorem colonLoop_last (v : Nat) {seg : List Char} {st : SegmentScan}
    (h : scanSegment isFrac false {} seg = some st) (hd : st.seenDigit = true) :
    colonLoop isFrac v [seg] = clampUInt32 (wrapU64 (wrapU64 (v * 60 + st.segmentSeconds) * 1000 +
      padFraction st.segmentMs (3 - st.fractionDigits))) := by
  simp [colonLoop, h, hd]

/-- **The colon form reads a printed tag as its value**, wrapped modulo `2^64` and clamped,
whatever the fraction separator, as long as it is not a digit nor `':'`. -/
theorem parseColonTimeMS_render (hdigit : ∀ c, c.isDigit = true → isFrac c = false)
    {sep : Char} (hsep : isFrac sep = true) (hcolon : sep ≠ ':') {t : TimeTag}
    (ht : t.WellFormed) :
    parseColonTimeMS isFrac (t.render sep) = clampUInt32 (wrapU64 t.ms) := by
  obtain ⟨st, hscan, hd, hsec, hms⟩ := scanSegment_lastField hdigit hsep ht
  rw [parseColonTimeMS, splitOn_render hcolon ht, TimeTag.fields,
    show (0 : Nat) = wrapU64 0 from rfl, colonLoop_fields hdigit ht.init_digits,
    colonLoop_last _ hscan hd, hsec, hms]
  simp only [TimeTag.ms, TimeTag.seconds, List.foldl_append, List.foldl_cons, List.foldl_nil,
    wrapU64, Nat.add_mod, Nat.mul_mod, Nat.mod_mod]

end Loop

/-- The integer branch on a run of digits: milliseconds from `10000` on, seconds below. -/
theorem parsePsfTimeMS_digits {ds : List Char} (hne : ds ≠ []) (hd : AllDigits ds) :
    parsePsfTimeMS ds = if 10000 ≤ decimalValue ds then clampUInt32 (decimalValue ds)
      else clampUInt32 (wrapU64 (decimalValue ds * 1000)) := by
  rw [parsePsfTimeMS, if_neg hne, if_pos ⟨colon_not_mem_of_allDigits hd,
    not_mem_of_allDigits (by decide) hd, not_mem_of_allDigits (by decide) hd⟩,
    strtoul_digits hne hd]
  have hbig : 10000 ≤ ulongMax := by decide
  simp only [ne_eq, not_true_eq_false, ↓reduceIte]
  by_cases hv : 10000 ≤ decimalValue ds
  · rw [if_pos hv, if_pos (show (if decimalValue ds > ulongMax then ulongMax
      else decimalValue ds) ≥ 10000 by split <;> omega), clampUInt32_saturate]
  · rw [if_neg (show ¬decimalValue ds > ulongMax by omega),
      if_neg (show ¬decimalValue ds ≥ 10000 from hv), if_neg hv]

/-- A tag of more than one field, or with a fraction, shows a `':'` or its separator. -/
theorem separator_mem_render {sep : Char} (hcolon : sep ≠ ':') {t : TimeTag}
    (ht : t.WellFormed) (h : ¬(t.init = [] ∧ t.fraction = none)) :
    ':' ∈ t.render sep ∨ sep ∈ t.render sep := by
  by_cases h1 : ':' ∈ t.render sep
  · exact .inl h1
  have hinit : t.init = [] := by
    have hl := congrArg List.length (splitOn_render hcolon ht)
    rw [List.splitOn, List.splitOnP_eq_single _ _
      (fun x hx e => h1 (by simp only [beq_iff_eq] at e; exact e ▸ hx))] at hl
    simpa [TimeTag.fields] using hl
  obtain ⟨f, hf⟩ := Option.ne_none_iff_exists'.1 (fun hf => h ⟨hinit, hf⟩)
  exact .inr (by simp [render_of_init_nil hinit, TimeTag.lastField, hf])

/-- **`ParsePsfTimeMS` reads a printed tag as its value.**  With `'.'` or `','` before the
fraction, every well-formed tag reads as its milliseconds modulo `2^64`, clamped to
`UINT32_MAX`; except a tag of one field with no fraction, the integer branch, which from
`10000` on reads as that many milliseconds, clamped but never wrapped. -/
theorem parsePsfTimeMS_render {sep : Char} (hsep : sep = '.' ∨ sep = ',') {t : TimeTag}
    (ht : t.WellFormed) :
    parsePsfTimeMS (t.render sep) =
      if t.init = [] ∧ t.fraction = none ∧ 10000 ≤ decimalValue t.last then
        clampUInt32 (decimalValue t.last)
      else clampUInt32 (wrapU64 t.ms) := by
  have hcolon : sep ≠ ':' := by rcases hsep with rfl | rfl <;> decide
  by_cases hbare : t.init = [] ∧ t.fraction = none
  · have hr : t.render sep = t.last := by
      simp [render_of_init_nil hbare.1, TimeTag.lastField, hbare.2]
    have hms : t.ms = decimalValue t.last * 1000 := by
      simp [TimeTag.ms, TimeTag.seconds, hbare.1, hbare.2]
    rw [hr, parsePsfTimeMS_digits (by simpa [hbare.2] using ht.has_digit) ht.last_digits, hms]
    simp only [hbare, true_and]
  · have hshows : ¬(':' ∉ t.render sep ∧ '.' ∉ t.render sep ∧ ',' ∉ t.render sep) := by
      rcases separator_mem_render hcolon ht hbare with h | h <;> rcases hsep with rfl | rfl <;>
        simp_all
    rw [parsePsfTimeMS, if_neg (render_ne_nil hcolon ht), if_neg hshows,
      if_neg (fun h => hbare ⟨h.1, h.2.1⟩)]
    exact parseColonTimeMS_render (fun c h => psfSeparator_of_digit h)
      (by rcases hsep with rfl | rfl <;> rfl) hcolon ht

theorem parsePsfTimeMS_threeTwentyFive :
    TimeTag.WellFormed ⟨["3".toList], "25".toList, some "5".toList⟩ ∧
      parsePsfTimeMS (TimeTag.render ⟨["3".toList], "25".toList, some "5".toList⟩ ',') =
        205500 :=
  ⟨by decide, (parsePsfTimeMS_render (.inr rfl) (by decide)).trans (by decide)⟩

/-- **`ParseUSFTimeMS` reads a tag printed with `'.'` as its value, and one printed with
`','` as `0`.** -/
theorem parseUSFTimeMS_render {t : TimeTag} (ht : t.WellFormed) :
    parseUSFTimeMS (t.render '.') = clampUInt32 (wrapU64 t.ms) ∧
      (t.fraction ≠ none → parseUSFTimeMS (t.render ',') = 0) := by
  have hdigit : ∀ c : Char, c.isDigit = true → decide (c = '.') = false :=
    fun c h => decide_eq_false (fun e => by subst e; simp at h)
  refine ⟨?_, fun hf => ?_⟩
  · rw [parseUSFTimeMS, if_neg (render_ne_nil (by decide) ht)]
    exact parseColonTimeMS_render hdigit (by decide) (by decide) ht
  · obtain ⟨f, hf⟩ := Option.ne_none_iff_exists'.1 hf
    rw [parseUSFTimeMS, if_neg (render_ne_nil (by decide) ht), parseColonTimeMS,
      splitOn_render (by decide) ht, TimeTag.fields, show (0 : Nat) = wrapU64 0 from rfl,
      colonLoop_fields hdigit ht.init_digits, colonLoop, TimeTag.lastField, hf,
      show ({} : SegmentScan) = ⟨false, false, wrapU64 0, 0, 0⟩ from rfl,
      scanSegment_digits hdigit _ ht.last_digits,
      scanSegment_nonDigit (by decide) (by decide)]

theorem parseUSFTimeMS_oneFive :
    TimeTag.WellFormed ⟨["1".toList], "05".toList, some "25".toList⟩ ∧
      parseUSFTimeMS (TimeTag.render ⟨["1".toList], "05".toList, some "25".toList⟩ '.') =
        65250 ∧
      parseUSFTimeMS (TimeTag.render ⟨["1".toList], "05".toList, some "25".toList⟩ ',') = 0 :=
  have h := parseUSFTimeMS_render (t := ⟨["1".toList], "05".toList, some "25".toList⟩)
    (by decide)
  ⟨by decide, h.1.trans (by decide), h.2 (by decide)⟩

/-! ## 6. Parsing then printing -/

section Accepts

variable {isFrac : Char → Bool}

/-- A loop that does not return `0` ran over fields of digits, then a last field whose scan
saw a digit. -/
theorem colonLoop_accepts {segs : List (List Char)} :
    ∀ {v : Nat}, colonLoop isFrac v segs ≠ 0 →
      ∃ init seg st, segs = init ++ [seg] ∧ (∀ f ∈ init, f ≠ [] ∧ AllDigits f) ∧
        scanSegment isFrac false {} seg = some st ∧ st.seenDigit = true := by
  induction segs with
  | nil => intro v h; exact absurd rfl h
  | cons seg rest ih =>
    intro v h
    rcases hs : scanSegment isFrac (!rest.isEmpty) {} seg with _ | st
    · rw [colonLoop, hs] at h; exact absurd rfl h
    rw [colonLoop, hs] at h
    dsimp only at h
    by_cases hsd : st.seenDigit = true
    swap
    · rw [if_pos (by simpa using hsd)] at h; exact absurd rfl h
    rw [if_neg (by simp [hsd])] at h
    rcases rest with _ | ⟨r, rs⟩
    · exact ⟨[], seg, st, rfl, by simp, hs, hsd⟩
    rw [if_neg (by simp)] at h
    obtain ⟨init, seg', st', hsegs, hinit, hs', hsd'⟩ := ih h
    rcases scanSegment_integer_some hs with ⟨hd, hsd0⟩ | ⟨hc, -⟩
    · refine ⟨seg :: init, seg', st', by rw [hsegs]; rfl, fun f hf => ?_, hs', hsd'⟩
      rcases List.mem_cons.1 hf with rfl | hf
      · exact ⟨fun e => by simp [e, hsd] at hsd0, hd⟩
      · exact hinit f hf
    · cases hc

/-- **What the colon form reads as a non-zero time is a printed tag.** -/
theorem parseColonTimeMS_accepts {sep₀ : Char} (h₀ : isFrac sep₀ = true) {ts : List Char}
    (h : parseColonTimeMS isFrac ts ≠ 0) :
    ∃ (t : TimeTag) (sep : Char), isFrac sep = true ∧ t.WellFormed ∧ t.render sep = ts := by
  obtain ⟨init, seg, st, hsegs, hinit, hs, hsd⟩ := colonLoop_accepts h
  have hts : [':'].intercalate (init ++ [seg]) = ts := hsegs ▸ List.intercalate_splitOn ts ':'
  rcases scanSegment_integer_some hs with ⟨hd, hsd0⟩ | ⟨-, d, sep, f, rfl, hsep, hd, hf, hsd0⟩
  · refine ⟨⟨init, seg, none⟩, sep₀, h₀, ⟨hinit, hd, by simp [AllDigits], ?_⟩, ?_⟩
    · simpa [hsd] using hsd0
    · simpa [TimeTag.render, TimeTag.fields, TimeTag.lastField] using hts
  · refine ⟨⟨init, d, some f⟩, sep, hsep, ⟨hinit, hd, hf, ?_⟩, hts⟩
    simpa [hsd] using hsd0

end Accepts

/-- **Every string `ParseUSFTimeMS` reads as a non-zero time is a printed tag**, with `'.'`
before its fraction, and reads as that tag's value. -/
theorem parseUSFTimeMS_accepts {ts : List Char} (h : parseUSFTimeMS ts ≠ 0) :
    ∃ t : TimeTag, t.WellFormed ∧ t.render '.' = ts ∧
      parseUSFTimeMS ts = clampUInt32 (wrapU64 t.ms) := by
  have hdigit : ∀ c : Char, c.isDigit = true → decide (c = '.') = false :=
    fun c h => decide_eq_false (fun e => by subst e; simp at h)
  have hne : ts ≠ [] := fun e => h (by rw [e]; rfl)
  rw [parseUSFTimeMS, if_neg hne] at h ⊢
  obtain ⟨t, sep, hsep, ht, rfl⟩ :=
    parseColonTimeMS_accepts (by decide : decide ('.' = '.') = true) h
  obtain rfl : sep = '.' := of_decide_eq_true hsep
  exact ⟨t, ht, rfl, parseColonTimeMS_render hdigit (by decide) (by decide) ht⟩

theorem parseUSFTimeMS_twoThirty :
    parseUSFTimeMS "2:30".toList ≠ 0 ∧ ∃ t : TimeTag, t.WellFormed ∧
      t.render '.' = "2:30".toList ∧
      parseUSFTimeMS "2:30".toList = clampUInt32 (wrapU64 t.ms) :=
  ⟨by decide, parseUSFTimeMS_accepts (by decide)⟩

/-- **Every string with a separator that `ParsePsfTimeMS` reads as a non-zero time is a
printed tag**, with `'.'` or `','` before its fraction, and reads as that tag's value. -/
theorem parsePsfTimeMS_accepts {ts : List Char} (hsep : ':' ∈ ts ∨ '.' ∈ ts ∨ ',' ∈ ts)
    (h : parsePsfTimeMS ts ≠ 0) :
    ∃ (t : TimeTag) (sep : Char), (sep = '.' ∨ sep = ',') ∧ t.WellFormed ∧ t.render sep = ts ∧
      parsePsfTimeMS ts = clampUInt32 (wrapU64 t.ms) := by
  have hne : ts ≠ [] := fun e => by simp [e] at hsep
  have hcolon : ¬(':' ∉ ts ∧ '.' ∉ ts ∧ ',' ∉ ts) := by tauto
  rw [parsePsfTimeMS, if_neg hne, if_neg hcolon] at h ⊢
  obtain ⟨t, sep, hs, ht, rfl⟩ :=
    parseColonTimeMS_accepts (by decide : ('.' = '.' || '.' = ',') = true) h
  have hs' : sep = '.' ∨ sep = ',' := by simpa using hs
  have hsc : sep ≠ ':' := by rcases hs' with rfl | rfl <;> decide
  exact ⟨t, sep, hs', ht, rfl,
    parseColonTimeMS_render (fun c h => psfSeparator_of_digit h) hs hsc ht⟩

theorem parsePsfTimeMS_oneFive :
    (':' ∈ "1:05,25".toList ∨ '.' ∈ "1:05,25".toList ∨ ',' ∈ "1:05,25".toList) ∧
      parsePsfTimeMS "1:05,25".toList ≠ 0 ∧
      ∃ (t : TimeTag) (sep : Char), (sep = '.' ∨ sep = ',') ∧ t.WellFormed ∧
        t.render sep = "1:05,25".toList ∧
        parsePsfTimeMS "1:05,25".toList = clampUInt32 (wrapU64 t.ms) :=
  ⟨by decide, by decide, parsePsfTimeMS_accepts (by decide) (by decide)⟩

end Vgmpd
