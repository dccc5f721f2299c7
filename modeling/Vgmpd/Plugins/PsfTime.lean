/-
# `ParsePsfTimeMS` and `ParseUSFTimeMS`: the length and fade tags

A PSF-family file gives its song length and fade as tag strings such as `"3:25.5"` or
`"205"`.  Three plugins (aopsf, lazygsf, upse) carry identical copies of `ParsePsfTimeMS`;
lazyusf has `ParseUSFTimeMS`, which is the colon form alone with `'.'` as the only fraction
separator.  The model has one definition of each form and the four source names as copies
of it.

The parsers compute in `uint64_t` and clamp the result to `UINT32_MAX`.  The model keeps the
64-bit arithmetic (`wrapU64`) and `strtoul`'s behaviour as the C standard fixes it, because
the two are where the parsers do something other than saturate: a digit run of twenty
digits wraps the accumulator before the clamp, and `strtoul` accepts a minus sign and
negates modulo `2^64` (`parsePsfTimeMS_wraps`).

A C string is modelled by the characters before its terminator; a null pointer behaves as
the empty string, as both return `0` on the first line.
-/
import Mathlib.Data.List.Basic

namespace Vgmpd

/-! ## 1. Fixed-width arithmetic and `strtoul` -/

/-- `UINT32_MAX`. -/
def uint32Max : Nat := UInt32.size - 1

/-- `ULONG_MAX` for the 64-bit `unsigned long` of the platforms the plugins build on. -/
def ulongMax : Nat := UInt64.size - 1

/-- A `uint64_t` result: the exact value modulo `2^64`. -/
def wrapU64 (v : Nat) : Nat := v % UInt64.size

/-- `v > UINT32_MAX ? UINT32_MAX : static_cast<uint32_t>(v)`. -/
def clampUInt32 (v : Nat) : UInt32 :=
  if v > uint32Max then UInt32.ofNat uint32Max else UInt32.ofNat v

/-- `isspace` in the "C" locale: the space and `'\t'`, `'\n'`, `'\v'`, `'\f'`, `'\r'`. -/
def isCSpace (c : Char) : Bool := c = ' ' || (9 ≤ c.toNat && c.toNat ≤ 13)

/-- The value of a run of decimal digits. -/
def decimalValue (ds : List Char) : Nat :=
  ds.foldl (fun v d => 10 * v + (d.toNat - '0'.toNat)) 0

/-- The optional sign `strtoul` accepts: whether it is a minus, and what follows it. -/
def splitSign : List Char → Bool × List Char
  | '-' :: r => (true, r)
  | '+' :: r => (false, r)
  | t => (false, t)

/-- `strtoul(nptr, &end, 10)` with a 64-bit `unsigned long`: leading white space, an optional
sign, then a run of digits.  The value saturates at `ULONG_MAX`, and a minus sign negates it
modulo `2^64`.  `none` when no digit follows (`end == nptr`); otherwise the value and the
characters from `end` on. -/
def strtoul (s : List Char) : Option (Nat × List Char) :=
  let (neg, t) := splitSign (s.dropWhile isCSpace)
  let digits := t.takeWhile Char.isDigit
  if digits = [] then none
  else
    let v := decimalValue digits
    some (if v > ulongMax then ulongMax else if neg then (UInt64.size - v) % UInt64.size else v,
      t.dropWhile Char.isDigit)

/-! ## 2. The colon form -/

/-- The locals of the `for` over one segment between colons. -/
structure SegmentScan where
  seenDigit : Bool := false
  seenFraction : Bool := false
  segmentSeconds : Nat := 0
  segmentMs : Nat := 0
  fractionDigits : Nat := 0
deriving DecidableEq, Repr

section Colon

variable (isFractionSeparator : Char → Bool)

/-- The `for` over one segment; `none` is `return 0`.  `hasColon` is `colon != nullptr`: a
fraction is allowed in the last segment only. -/
def scanSegment (hasColon : Bool) : SegmentScan → List Char → Option SegmentScan
  | st, [] => some st
  | st, c :: cs =>
    if isFractionSeparator c then
      if st.seenFraction || hasColon then none
      else scanSegment hasColon { st with seenFraction := true } cs
    else if c < '0' || c > '9' then none
    else
      let digit := c.toNat - '0'.toNat
      if !st.seenFraction then
        scanSegment hasColon
          { st with
            seenDigit := true,
            segmentSeconds := wrapU64 (st.segmentSeconds * 10 + digit) } cs
      else if st.fractionDigits < 3 then
        scanSegment hasColon
          { st with seenDigit := true, segmentMs := wrapU64 (st.segmentMs * 10 + digit),
                    fractionDigits := st.fractionDigits + 1 } cs
      else scanSegment hasColon { st with seenDigit := true } cs

/-- `while (fraction_digits < 3) segment_ms *= 10;`, run `remaining` times. -/
def padFraction (ms : Nat) : (remaining : Nat) → Nat
  | 0 => ms
  | k + 1 => padFraction (wrapU64 (ms * 10)) k

/-- The outer `while (true)` of the colon form, from `total_seconds` over the segments still
to read (the pieces between the colons). -/
def colonLoop (totalSeconds : Nat) : List (List Char) → UInt32
  | [] => 0
  | seg :: rest =>
    match scanSegment isFractionSeparator (!rest.isEmpty) {} seg with
    | none => 0
    | some st =>
      if !st.seenDigit then 0
      else
        let ms := padFraction st.segmentMs (3 - st.fractionDigits)
        let total := wrapU64 (totalSeconds * 60 + st.segmentSeconds)
        if rest.isEmpty then clampUInt32 (wrapU64 (total * 1000 + ms))
        else colonLoop total rest

/-- The colon form of a time tag: its segments split at every `':'`. -/
def parseColonTimeMS (ts : List Char) : UInt32 :=
  colonLoop isFractionSeparator 0 (ts.splitOn ':')

end Colon

/-! ## 3. The two parsers and their copies -/

/-- `ParsePsfTimeMS`: a string with none of `':'`, `'.'`, `','` is an integer read by
`strtoul`, taken as milliseconds from `10000` on and as seconds below; any other string is
the colon form with `'.'` or `','` as fraction separator. -/
def parsePsfTimeMS (ts : List Char) : UInt32 :=
  if ts = [] then 0
  else if ':' ∉ ts ∧ '.' ∉ ts ∧ ',' ∉ ts then
    match strtoul ts with
    | none => 0
    | some (value, rest) =>
      if rest ≠ [] then 0
      else clampUInt32 (if value ≥ 10000 then value else wrapU64 (value * 1000))
  else parseColonTimeMS (fun c => c = '.' || c = ',') ts

/-- `ParseUSFTimeMS`: the colon form alone, `'.'` the only fraction separator. -/
def parseUSFTimeMS (ts : List Char) : UInt32 :=
  if ts = [] then 0 else parseColonTimeMS (fun c => c = '.') ts

/-- `ParsePsfTimeMS` of `AopsfDecoderPlugin.cxx`. -/
def Aopsf.parsePsfTimeMS (ts : List Char) : UInt32 := Vgmpd.parsePsfTimeMS ts

/-- `ParsePsfTimeMS` of `LazygsfDecoderPlugin.cxx`. -/
def Lazygsf.parsePsfTimeMS (ts : List Char) : UInt32 := Vgmpd.parsePsfTimeMS ts

/-- `ParsePsfTimeMS` of `UpseDecoderPlugin.cxx`. -/
def Upse.parsePsfTimeMS (ts : List Char) : UInt32 := Vgmpd.parsePsfTimeMS ts

/-- `ParseUSFTimeMS` of `LazyusfDecoderPlugin.cxx`. -/
def Lazyusf.parseUSFTimeMS (ts : List Char) : UInt32 := Vgmpd.parseUSFTimeMS ts

/-! ## 4. Where the parsers do not saturate -/

/-- **The clamp comes after the wrap, and `strtoul` takes a sign.**  The seconds field of
`"1:18446744073709551616"` is `2^64`, which wraps the 64-bit accumulator to `0`: all four
copies read one minute, `60000` ms, where saturation gives `UINT32_MAX`.  And `strtoul`
reads `"-5"` as `2^64 - 5`, so the three `ParsePsfTimeMS` copies return `UINT32_MAX` for it
rather than the `0` of a malformed integer. -/
theorem parsePsfTimeMS_wraps :
    Aopsf.parsePsfTimeMS "1:18446744073709551616".toList = 60000 ∧
      Lazygsf.parsePsfTimeMS "1:18446744073709551616".toList = 60000 ∧
      Upse.parsePsfTimeMS "1:18446744073709551616".toList = 60000 ∧
      Lazyusf.parseUSFTimeMS "1:18446744073709551616".toList = 60000 ∧
      Aopsf.parsePsfTimeMS "-5".toList = 4294967295 ∧
      Lazygsf.parsePsfTimeMS "-5".toList = 4294967295 ∧
      Upse.parsePsfTimeMS "-5".toList = 4294967295 := by
  decide

end Vgmpd
