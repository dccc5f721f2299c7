import Vgmpd.DecoderList.Config
import Vgmpd.DecoderList.Registry
import Vgmpd.DecoderList.Priorities
import Vgmpd.DecoderList.Lifecycle
import Vgmpd.Plugins.PsfTime
import Vgmpd.Plugins.TimeGrammar
import Vgmpd.Plugins.Duration
import Vgmpd.Plugins.Tags
import Vgmpd.Plugins.Pcm
import Vgmpd.Plugins.Client
import Vgmpd.Plugins.FadeLoop
import Vgmpd.Plugins.Lazyusf
import Vgmpd.Plugins.Lazygsf
import Vgmpd.Plugins.Aopsf
import Vgmpd.Plugins.Upse
import Vgmpd.Plugins.Load
import Vgmpd.Plugins.Protocol
