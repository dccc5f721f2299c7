/-
# The registry: `decoder_plugins[]`, the enabled flags and the codec priority table

The process-wide state of `DecoderList.cxx` is two globals: `decoder_plugins_enabled[]`, one
flag per compiled-in plugin, and `decoder_codec_priorities`, a map from a lower-cased codec
token to the plugins configured first for it.  `DecoderState` holds both, together with the
trace of the calls the module makes into the plugins and of the lines it logs, so that the
lifecycle results can speak about which `Init` and `Finish` ran.

A plugin pointer is an index `Fin n` into `decoder_plugins[]`; the compiled-in list is a
`DecoderRegistry n`, whose plugin names are distinct by construction (`name_injective`).
The registry helpers `GetEnabledDecoderPlugins` and `decoder_plugins_find` live in
`DecoderList.hxx`, which is not part of the source, and are modelled from the spec: the
enabled plugins in registry order, and the first of them a predicate accepts.

Everything here is a faithful translation; the facts about it are in `Priorities.lean` and
`Lifecycle.lean`.
-/
import Vgmpd.DecoderList.Config
import Mathlib.Data.List.FinRange

namespace Vgmpd

/-! ## 1. Plugins and the compiled-in list -/

/-- A compiled-in decoder plugin, reduced to what the registry reads: its `name` and its
`suffixes`.  `Init` and `Finish` are calls into the plugin; `DecoderState.trace` records
them. -/
structure DecoderPlugin where
  name : String
  suffixes : List String
deriving DecidableEq, Repr

/-- Modelled from the spec: `DecoderPlugin::SupportsSuffix` (`DecoderPlugin.cxx`, not in the
source) is a case-insensitive membership test against the plugin's suffixes. -/
def DecoderPlugin.supportsSuffix (p : DecoderPlugin) (suffix : String) : Bool :=
  p.suffixes.any fun s => lowerASCII s == lowerASCII suffix

/-- `decoder_plugins[]` without its `nullptr` sentinel: `n` plugins, in the fixed order of
the array.  The names are distinct, as the compiled-in list guarantees. -/
structure DecoderRegistry (n : Nat) where
  plugin : Fin n → DecoderPlugin
  name_injective : Function.Injective fun i => (plugin i).name

/-! ## 2. The process-wide state -/

/-- What the decoder list does that the rest of the program can observe, oldest first:
the calls into plugins and the lines it logs. -/
inductive DecoderEvent (n : Nat) where
  /-- `plugin.Init(*param)`. -/
  | init (plugin : Fin n) (block : ConfigBlock)
  /-- `plugin.Finish()`. -/
  | finish (plugin : Fin n)
  /-- The error `"Decoder plugin {:?} is unavailable: {}"` after `PluginUnavailable`. -/
  | unavailable (plugin : Fin n)
  /-- The warning `"Ignoring decoder codecs override for {:?}: plugin not enabled"`. -/
  | overrideIgnored (name : String)
deriving DecidableEq, Repr

/-- `decoder_plugins_enabled[]` and `decoder_codec_priorities`, with the trace of events.
The map is an association list: only `find` and `operator[]` are ever applied to it, so
its iteration order is never observed. -/
structure DecoderState (n : Nat) where
  enabled : Fin n → Bool
  priorities : List (String × List (Fin n))
  trace : List (DecoderEvent n)

variable {n : Nat}

/-- Modelled from the spec: `GetEnabledDecoderPlugins()` (`DecoderList.hxx`, not in the
source), the enabled plugins in registry order. -/
def enabledPlugins (enabled : Fin n → Bool) : List (Fin n) :=
  (List.finRange n).filter enabled

/-- Modelled from the spec: `decoder_plugins_find(f)` (`DecoderList.hxx`, not in the
source), the first enabled plugin `f` accepts. -/
def decoderPluginsFind (reg : DecoderRegistry n) (enabled : Fin n → Bool)
    (f : DecoderPlugin → Bool) : Option (Fin n) :=
  (enabledPlugins enabled).find? fun i => f (reg.plugin i)

/-- `decoder_plugin_from_name(name)`: `strcmp(plugin.name, name) == 0`. -/
def decoderPluginFromName (reg : DecoderRegistry n) (enabled : Fin n → Bool)
    (name : String) : Option (Fin n) :=
  decoderPluginsFind reg enabled fun p => p.name == name

/-! ## 3. The codec priority table -/

/-- `if (std::find(list.begin(), list.end(), p) == list.end()) list.push_back(p)`: the idiom
both `BuildDecoderCodecPriorities` and `decoder_plugins_for_suffix` use to keep a plugin
list free of duplicates. -/
def appendIfAbsent {α : Type} [DecidableEq α] (l : List α) (p : α) : List α :=
  if p ∈ l then l else l ++ [p]

/-- `auto &list = decoder_codec_priorities[codec]` followed by `appendIfAbsent`: the entry is
created empty when the codec has none yet. -/
def addPriority :
    List (String × List (Fin n)) → String → Fin n → List (String × List (Fin n))
  | [], codec, p => [(codec, [p])]
  | (k, l) :: t, codec, p =>
    if k = codec then (k, appendIfAbsent l p) :: t else (k, l) :: addPriority t codec p

section Build

variable (reg : DecoderRegistry n) (isWhitespaceFast : Char → Bool)

/-- The lambda `BuildDecoderCodecPriorities` runs on each `decoder` block: a block without
`plugin` is skipped silently, one naming no enabled plugin is skipped with a warning, one
with an empty codec list adds nothing, and otherwise the plugin is appended to each
token's list unless it is there already. -/
def addBlockPriorities (s : DecoderState n) (block : ConfigBlock) : DecoderState n :=
  match block.plugin with
  | none => s
  | some name =>
    match decoderPluginFromName reg s.enabled name with
    | none => { s with trace := s.trace ++ [.overrideIgnored name] }
    | some p =>
      let codecs := parseCodecList isWhitespaceFast block.codecs
      if codecs = [] then s
      else { s with priorities := codecs.foldl (fun t codec => addPriority t codec p) s.priorities }

/-- `BuildDecoderCodecPriorities(config)`: clear the table, then run the lambda over the
`decoder` blocks in file order. -/
def buildDecoderCodecPriorities (config : List ConfigBlock) (s : DecoderState n) :
    DecoderState n :=
  config.foldl (addBlockPriorities reg isWhitespaceFast) { s with priorities := [] }

end Build

/-- `decoder_plugins_for_suffix(suffix)`: the override list of the lower-cased suffix (none
for the empty suffix), then every enabled plugin not already listed, in registry order. -/
def decoderPluginsForSuffix (s : DecoderState n) (suffix : String) : List (Fin n) :=
  let overrides :=
    if suffix = "" then [] else (s.priorities.lookup (lowerASCII suffix)).getD []
  (enabledPlugins s.enabled).foldl appendIfAbsent overrides

/-- `decoder_plugins_supports_suffix(suffix)`: some enabled plugin declares the suffix. -/
def decoderPluginsSupportsSuffix (reg : DecoderRegistry n) (s : DecoderState n)
    (suffix : String) : Bool :=
  (enabledPlugins s.enabled).any fun i => (reg.plugin i).supportsSuffix suffix

/-! ## 4. Small facts about the definitions -/

@[simp] theorem mem_enabledPlugins {enabled : Fin n → Bool} {i : Fin n} :
    i ∈ enabledPlugins enabled ↔ enabled i = true := by
  simp [enabledPlugins, List.mem_finRange]

theorem nodup_enabledPlugins (enabled : Fin n → Bool) : (enabledPlugins enabled).Nodup :=
  (List.nodup_finRange n).filter _

/-- Looking a key up after `addPriority`: only the codec's own entry changes. -/
theorem lookup_addPriority (t : List (String × List (Fin n))) (codec key : String) (p : Fin n) :
    (addPriority t codec p).lookup key =
      if key = codec then some (appendIfAbsent ((t.lookup key).getD []) p) else t.lookup key := by
  induction t with
  | nil => by_cases h : key = codec <;> simp [addPriority, h, appendIfAbsent]
  | cons e t ih =>
    obtain ⟨k, l⟩ := e
    by_cases h : key = k
    · subst h
      by_cases hk : key = codec <;> simp [addPriority, hk]
    · have hb : (key == k) = false := by simpa using h
      by_cases hk : k = codec
      · subst hk; simp [addPriority, List.lookup_cons, h, hb]
      · simp [addPriority, List.lookup_cons, hk, hb, ih]

end Vgmpd
