/-
# The durations the PSF-family plugins report

Every PSF-family plugin reports a song's duration as its length tag plus its fade tag.  The
tag values are `unsigned`, so the sum is taken modulo `2^32` (`durationMS`), and the parsers
produce values up to `UINT32_MAX` on purpose, by saturating.  A saturated length with any
non-zero fade therefore reports a duration shorter than the length itself, and
`reportedDurations_wrap` shows it for every place the duration leaves a plugin: `OnDuration`
from the four scanners and the length handed to `Ready` by the three decoders that have one.

The tag holders are reduced to the two fields the duration reads.
-/
import Vgmpd.Plugins.PsfTime

namespace Vgmpd

/-! ## 1. The unsigned sum -/

/-- `length_ms + fade_ms` on two `unsigned` values: the sum modulo `2^32`. -/
def durationMS (lengthMs fadeMs : UInt32) : UInt32 := lengthMs + fadeMs

theorem durationMS_toNat (lengthMs fadeMs : UInt32) :
    (durationMS lengthMs fadeMs).toNat = (lengthMs.toNat + fadeMs.toNat) % UInt32.size := by
  simp [durationMS, UInt32.toNat, UInt32.add_def, BitVec.toNat_add]

/-! ## 2. Per plugin -/

/-- `AopsfTags`, reduced to the two fields the duration reads. -/
structure Aopsf.AopsfTags where
  lengthMs : UInt32 := 0
  fadeMs : UInt32 := 0
deriving DecidableEq, Repr

/-- `GetPsfDurationMS`: length plus fade for a positive length, else `0`. -/
def Aopsf.getPsfDurationMS (tags : Aopsf.AopsfTags) : UInt32 :=
  if tags.lengthMs > 0 then durationMS tags.lengthMs tags.fadeMs else 0

/-- The duration aopsf reports: `aopsf_scan_file` passes it to `OnDuration` and
`aopsf_file_decode` to `Ready` when it is positive. -/
def Aopsf.reportedDurationMS (tags : Aopsf.AopsfTags) : Option UInt32 :=
  if Aopsf.getPsfDurationMS tags > 0 then some (Aopsf.getPsfDurationMS tags) else none

/-- The `xsf` record of `upse_psf_t`: the raw `length` and `fade` tag strings. -/
structure Upse.UpseXsf where
  infLength : List Char
  infFade : List Char
deriving DecidableEq, Repr

/-- `upse_psf_t`, reduced to what `GetUpseDurationMS` reads. -/
structure Upse.UpsePsf where
  xsf : Option Upse.UpseXsf := none
  length : UInt32 := 0
  stop : UInt32 := 0
  fade : UInt32 := 0
deriving DecidableEq, Repr

/-- `GetUpseDurationMS`: the xsf tags when they give a length, then the library's `length`,
then its `stop` plus `fade`. -/
def Upse.getUpseDurationMS (meta : Upse.UpsePsf) : UInt32 :=
  let (lengthMs, fadeMs) := match meta.xsf with
    | some xsf => (Upse.parsePsfTimeMS xsf.infLength, Upse.parsePsfTimeMS xsf.infFade)
    | none => (0, 0)
  if lengthMs > 0 then durationMS lengthMs fadeMs
  else if meta.length > 0 then meta.length
  else if meta.stop > 0 then meta.stop + meta.fade
  else 0

/-- The duration `upse_scan_file` passes to `OnDuration`, when it is positive. -/
def Upse.reportedDurationMS (meta : Upse.UpsePsf) : Option UInt32 :=
  if Upse.getUpseDurationMS meta > 0 then some (Upse.getUpseDurationMS meta) else none

/-- `GsfTagHolder`, reduced to the two fields the duration reads. -/
structure Lazygsf.GsfTagHolder where
  lengthMs : UInt32 := 0
  fadeMs : UInt32 := 0
deriving DecidableEq, Repr

/-- The duration `GsfLoadFile` passes to `OnDuration` and `gsf_file_decode` to `Ready`:
length plus fade, for a positive length. -/
def Lazygsf.reportedDurationMS (holder : Lazygsf.GsfTagHolder) : Option UInt32 :=
  if holder.lengthMs > 0 then some (durationMS holder.lengthMs holder.fadeMs) else none

/-- `LazyUSFTagHolder`, reduced to the two fields the duration reads. -/
structure Lazyusf.LazyUSFTagHolder where
  lengthMs : UInt32 := 0
  fadeMs : UInt32 := 0
deriving DecidableEq, Repr

/-- The duration `LazyUSF_openfile` passes to `OnDuration` and `lazyusf_file_decode` to
`Ready`: length plus fade, for a positive length. -/
def Lazyusf.reportedDurationMS (holder : Lazyusf.LazyUSFTagHolder) : Option UInt32 :=
  if holder.lengthMs > 0 then some (durationMS holder.lengthMs holder.fadeMs) else none

/-! ## 3. A saturated length with a fade -/

/-- **Every reported duration wraps.**  A length tag `"4294967295"` parses to `UINT32_MAX`
and a fade tag `"1"` to `1000`; every plugin then reports `999` ms, less than the length. -/
theorem reportedDurations_wrap :
    Aopsf.reportedDurationMS ⟨Aopsf.parsePsfTimeMS "4294967295".toList,
        Aopsf.parsePsfTimeMS "1".toList⟩ = some 999 ∧
      Upse.reportedDurationMS { xsf := some ⟨"4294967295".toList, "1".toList⟩ } = some 999 ∧
      Lazygsf.reportedDurationMS ⟨Lazygsf.parsePsfTimeMS "4294967295".toList,
        Lazygsf.parsePsfTimeMS "1".toList⟩ = some 999 ∧
      Lazyusf.reportedDurationMS ⟨Lazyusf.parseUSFTimeMS "4294967295".toList,
        Lazyusf.parseUSFTimeMS "1".toList⟩ = some 999 := by
  decide

end Vgmpd
