/-
# Samples and the fade arithmetic

The PSF-family decoders hand MPD signed 16-bit stereo PCM.  A `Sample` is an `int16_t`
value that carries its range, so no out-of-range sample can reach a buffer; a `Buffer` is a
C array of them, indexed by position, where the loops below write in place.

`FadeSample` (lazygsf) and `FadeUSFSample` (lazyusf) are one function: scale a sample by
`numerator / denominator` in `int64_t`, truncating toward zero, and clamp to `int16_t`.  The
product is the one place where the decoders' arithmetic can overflow, so `fadeSample` keeps
the two's-complement wrap (`wrapI64`).  `fadeSample_val` says when it does not matter: for a
denominator up to `2^48` every product fits, and the result is the exact truncated quotient.

`fadeEnvelope` is the fade the plugins are meant to apply: the body as rendered, a linear
ramp to silence over the fade, then silence.
-/
import Mathlib

namespace Vgmpd

/-! ## 1. Samples -/

/-- An `int16_t` PCM sample. -/
@[ext]
structure Sample where
  val : Int
  ge_min : -32768 ≤ val
  le_max : val ≤ 32767
deriving DecidableEq, Repr

/-- The sample `0`, silence. -/
def Sample.zero : Sample := ⟨0, by decide, by decide⟩

@[simp] theorem Sample.zero_val : Sample.zero.val = 0 := rfl

/-- `INT16_MAX`. -/
def Sample.int16Max : Sample := ⟨32767, by decide, by decide⟩

/-- `INT16_MIN`. -/
def Sample.int16Min : Sample := ⟨-32768, by decide, by decide⟩

/-- A C array of samples (`int16_t buf[N]`): entry `j` is `buf[j]`.  Entries past the array's
length are never read. -/
abbrev Buffer := Nat → Sample

/-- The clamp of `FadeSample`: `scaled > INT16_MAX ? INT16_MAX : scaled < INT16_MIN ? INT16_MIN
: scaled`, then `static_cast<int16_t>`. -/
def clampInt16 (v : Int) : Sample :=
  if h : v > 32767 then Sample.int16Max
  else if h' : v < -32768 then Sample.int16Min
  else ⟨v, by omega, by omega⟩

theorem clampInt16_val_of_mem {v : Int} (h1 : -32768 ≤ v) (h2 : v ≤ 32767) :
    (clampInt16 v).val = v := by
  unfold clampInt16
  rw [dif_neg (by omega), dif_neg (by omega)]

/-! ## 2. 64-bit products -/

/-- An `int64_t` result: the exact value wrapped into `[-2^63, 2^63)` modulo `2^64`, as the
targets' two's-complement arithmetic produces it. -/
def wrapI64 (v : Int) : Int := v.bmod UInt64.size

/-- **A value that fits in `int64_t` is its own wrap.** -/
theorem wrapI64_of_mem {v : Int} (h1 : -2 ^ 63 ≤ v) (h2 : v < 2 ^ 63) : wrapI64 v = v := by
  rw [wrapI64, Int.bmod_def]
  simp only [UInt64.size]
  split <;> omega

/-- `x * n / d` truncated toward zero lies between `x` and `0` when `0 ≤ n ≤ d`. -/
theorem tdiv_mul_mem (x n d : Int) (hn : 0 ≤ n) (hnd : n ≤ d) :
    min x 0 ≤ (x * n).tdiv d ∧ (x * n).tdiv d ≤ max x 0 := by
  have hd : 0 ≤ d := by omega
  have scale : ∀ y : Int, 0 ≤ y → 0 ≤ (y * n).tdiv d ∧ (y * n).tdiv d ≤ y := by
    intro y hy
    rw [Int.tdiv_eq_ediv (Int.mul_nonneg hy hn) hd]
    refine ⟨Int.ediv_nonneg (Int.mul_nonneg hy hn) hd, ?_⟩
    by_cases hd0 : d = 0
    · simp [hd0, hy]
    · exact Int.ediv_le_of_le_mul (by omega) (Int.mul_le_mul_of_nonneg_left hnd hy)
  rcases Int.le_total 0 x with hx | hx
  · have := scale x hx
    omega
  · have h := scale (-x) (by omega)
    rw [Int.neg_mul, Int.neg_tdiv] at h
    omega

/-- `x * n / d` for `0 ≤ n ≤ d`, truncated toward zero, as a sample: it lies between `x` and
`0`, so it needs no clamp. -/
def Sample.scale (x : Sample) (n d : Int) (hn : 0 ≤ n) (hnd : n ≤ d) : Sample :=
  ⟨(x.val * n).tdiv d,
    by have := tdiv_mul_mem x.val n d hn hnd; have := x.ge_min; omega,
    by have := tdiv_mul_mem x.val n d hn hnd; have := x.le_max; omega⟩

/-! ## 3. `FadeSample` -/

/-- `FadeSample` / `FadeUSFSample`: silence for a zero sample or a non-positive numerator or
denominator, else `sample * numerator / denominator` in `int64_t`, clamped to `int16_t`. -/
def fadeSample (sample : Sample) (numerator denominator : Int) : Sample :=
  if sample.val = 0 then Sample.zero
  else if denominator ≤ 0 ∨ numerator ≤ 0 then Sample.zero
  else clampInt16 ((wrapI64 (sample.val * numerator)).tdiv denominator)

theorem fadeSample_of_nonpos {sample : Sample} {numerator : Int} (denominator : Int)
    (h : numerator ≤ 0) : fadeSample sample numerator denominator = Sample.zero := by
  unfold fadeSample
  split <;> simp_all

/-- Numerators that agree, or are both non-positive, fade alike. -/
theorem fadeSample_congr_num {sample : Sample} {n n' : Int} (d : Int)
    (h : n = n' ∨ (n ≤ 0 ∧ n' ≤ 0)) : fadeSample sample n d = fadeSample sample n' d := by
  rcases h with rfl | ⟨hn, hn'⟩
  · rfl
  · rw [fadeSample_of_nonpos d hn, fadeSample_of_nonpos d hn']

theorem fadeSample_of_den_nonpos {sample : Sample} (numerator : Int) {denominator : Int}
    (h : denominator ≤ 0) : fadeSample sample numerator denominator = Sample.zero := by
  unfold fadeSample
  split <;> simp_all

/-- **Without overflow `FadeSample` is the truncated quotient.**  For `0 < n ≤ d ≤ 2^48` the
product `x * n` fits in `int64_t` and the quotient in `int16_t`. -/
theorem fadeSample_val {x : Sample} {n d : Int} (hn : 0 < n) (hnd : n ≤ d)
    (hd : d ≤ 2 ^ 48) : (fadeSample x n d).val = (x.val * n).tdiv d := by
  unfold fadeSample
  by_cases hx : x.val = 0
  · simp [hx]
  · have hx1 := x.ge_min
    have hx2 := x.le_max
    have hprod : -2 ^ 63 ≤ x.val * n ∧ x.val * n < 2 ^ 63 := by
      have := Int.mul_le_mul_of_nonneg_right hx1 (Int.le_of_lt hn)
      have := Int.mul_le_mul_of_nonneg_right hx2 (Int.le_of_lt hn)
      omega
    have hq := tdiv_mul_mem x.val n d (Int.le_of_lt hn) hnd
    rw [if_neg hx, if_neg (by omega), wrapI64_of_mem hprod.1 hprod.2,
      clampInt16_val_of_mem (by omega) (by omega)]

/-! ## 4. The intended fade -/

/-- The fade the plugins are meant to apply to the frame at position `p` of a song with `L`
frames of body and `F` frames of fade: the sample `x` as rendered before `L`, scaled by
`(L + F - p) / F` and truncated toward zero over the fade, and silence from `L + F` on. -/
def fadeEnvelope (L F : Int) (p : Nat) (x : Sample) : Sample :=
  if hb : p < L then x
  else if hf : p < L + F then x.scale (L + F - p) F (by omega) (by omega)
  else Sample.zero

theorem fadeEnvelope_val (L F : Int) (p : Nat) (x : Sample) :
    (fadeEnvelope L F p x).val =
      if p < L then x.val else if p < L + F then (x.val * (L + F - p)).tdiv F else 0 := by
  unfold fadeEnvelope
  split_ifs <;> rfl

end Vgmpd
