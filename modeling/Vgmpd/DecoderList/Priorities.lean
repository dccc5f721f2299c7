/-
# What `decoder_plugins_for_suffix` returns after `BuildDecoderCodecPriorities`

The resolution order is the one piece of real design in `DecoderList.cxx`: the override list
of the suffix first, in the order the configuration declares it, then every other enabled
plugin in registry order.  `decoderPluginsForSuffix_build` states it for every
configuration, every set of enabled plugins, every earlier content of the table and every
suffix, with the override list given in the configuration's own terms (`overridesFor`): the
plugins named by the blocks whose codec list holds the suffix, later repeats removed.

The proof has three steps, each about one of the two duplicate-suppressing folds.

* `appendIfAbsent` folded over a list is `List.eraseDups` (`foldl_appendIfAbsent_nil`), and
  over a list without duplicates it appends the new elements in order
  (`foldl_appendIfAbsent_of_nodup`).
* One block of the build changes the entry of a key exactly as `overrideOf` says
  (`priorityEntry_addBlockPriorities`), so the whole build leaves under each key the
  `eraseDups` of the blocks' overrides (`priorityEntry_build`).  The table is cleared first,
  so nothing of its earlier content survives.
* The lookup then appends the enabled plugins to that list.

Neither step needs the names to be distinct: the override a block contributes is the first
enabled plugin of that name, whichever it is.

Since the list is the enabled plugins reordered, `decoder_plugins_supports_suffix` agrees with
it: a suffix is supported exactly when the list holds a plugin that declares it
(`decoderPluginsSupportsSuffix_build`).
-/
import Vgmpd.DecoderList.Registry

namespace Vgmpd

variable {α : Type} [DecidableEq α] {n : Nat}

/-! ## 1. The duplicate-suppressing append -/

@[simp] theorem mem_appendIfAbsent {l : List α} {p x : α} :
    x ∈ appendIfAbsent l p ↔ x ∈ l ∨ x = p := by
  unfold appendIfAbsent
  split
  · exact ⟨Or.inl, by rintro (hx | rfl) <;> assumption⟩
  · simp

theorem appendIfAbsent_idem (l : List α) (p : α) :
    appendIfAbsent (appendIfAbsent l p) p = appendIfAbsent l p := by
  simp [appendIfAbsent.eq_def (appendIfAbsent l p)]

theorem mem_foldl_appendIfAbsent {xs acc : List α} {x : α} :
    x ∈ xs.foldl appendIfAbsent acc ↔ x ∈ acc ∨ x ∈ xs := by
  induction xs generalizing acc with
  | nil => simp
  | cons y xs ih => simp [ih, or_assoc, or_left_comm]

theorem nodup_foldl_appendIfAbsent {xs acc : List α} (h : acc.Nodup) :
    (xs.foldl appendIfAbsent acc).Nodup := by
  induction xs generalizing acc with
  | nil => exact h
  | cons y xs ih =>
    refine ih ?_
    unfold appendIfAbsent
    split
    · exact h
    · exact h.append (List.nodup_singleton y) (by simpa using ‹y ∉ acc›)

/-- Over a list without duplicates the fold appends, in order, what is not there yet. -/
theorem foldl_appendIfAbsent_of_nodup {xs : List α} (hxs : xs.Nodup) (acc : List α) :
    xs.foldl appendIfAbsent acc = acc ++ xs.filter (fun x => x ∉ acc) := by
  induction xs generalizing acc with
  | nil => simp
  | cons y xs ih =>
    obtain ⟨hy, hxs⟩ := List.nodup_cons.mp hxs
    rw [List.foldl_cons, ih hxs, List.filter_cons]
    by_cases hya : y ∈ acc
    · simp [appendIfAbsent, hya]
    · have hf : xs.filter (fun x => x ∉ acc ++ [y]) = xs.filter (fun x => x ∉ acc) :=
        List.filter_congr fun x hx => by simp [show x ≠ y from fun h => hy (h ▸ hx)]
      rw [show appendIfAbsent acc y = acc ++ [y] from if_neg hya, hf]
      simp [hya]

/-- `List.eraseDups`'s loop is the fold of `appendIfAbsent` over its reversed accumulator. -/
theorem eraseDups_loop_eq (xs bs : List α) :
    List.eraseDups.loop xs bs = xs.foldl appendIfAbsent bs.reverse := by
  induction xs generalizing bs with
  | nil => rfl
  | cons a xs ih =>
    by_cases h : a ∈ bs
    · simp [List.eraseDups.loop, List.elem_eq_mem, h, ih, appendIfAbsent]
    · simp [List.eraseDups.loop, List.elem_eq_mem, h, ih, appendIfAbsent]

/-- **Appending while absent, from nothing, is `List.eraseDups`**: later repeats removed. -/
theorem foldl_appendIfAbsent_nil (xs : List α) : xs.foldl appendIfAbsent [] = xs.eraseDups :=
  (eraseDups_loop_eq xs []).symm

/-! ## 2. The table `BuildDecoderCodecPriorities` leaves -/

/-- The list `decoder_codec_priorities` holds under `key`, empty when it holds none. -/
def priorityEntry (t : List (String × List (Fin n))) (key : String) : List (Fin n) :=
  (t.lookup key).getD []

theorem priorityEntry_foldl_addPriority (p : Fin n) (key : String) (codecs : List String) :
    ∀ t : List (String × List (Fin n)),
      priorityEntry (codecs.foldl (fun t codec => addPriority t codec p) t) key =
        if key ∈ codecs then appendIfAbsent (priorityEntry t key) p else priorityEntry t key := by
  induction codecs with
  | nil => simp
  | cons c codecs ih =>
    intro t
    rw [List.foldl_cons, ih]
    by_cases hc : key = c
    · subst hc; simp [priorityEntry, lookup_addPriority, appendIfAbsent_idem]
    · simp [priorityEntry, lookup_addPriority, hc]

section Spec

variable (reg : DecoderRegistry n) (isWhitespaceFast : Char → Bool)

/-- The plugin a `decoder` block puts first for `suffix`: the enabled plugin its `plugin`
value names, provided its `codecs` value holds a token equal to `suffix` up to ASCII case. -/
def overrideOf (enabled : Fin n → Bool) (suffix : String) (b : ConfigBlock) : Option (Fin n) :=
  (List.finRange n).find? fun i =>
    enabled i ∧ b.plugin = some (reg.plugin i).name ∧
      ∃ t ∈ codecTokens isWhitespaceFast b.codecs, lowerASCII t = lowerASCII suffix

/-- The override list the configuration declares for `suffix`: the plugins the blocks put
first, in block order, later repeats removed.  The empty suffix has none. -/
def overridesFor (enabled : Fin n → Bool) (config : List ConfigBlock) (suffix : String) :
    List (Fin n) :=
  if suffix = "" then []
  else (config.filterMap (overrideOf reg isWhitespaceFast enabled suffix)).eraseDups

end Spec

section Build

variable (reg : DecoderRegistry n) (isWhitespaceFast : Char → Bool)

theorem decoderPluginFromName_eq (enabled : Fin n → Bool) (name : String) :
    decoderPluginFromName reg enabled name =
      (List.finRange n).find? fun i => enabled i ∧ (reg.plugin i).name = name := by
  simp [decoderPluginFromName, decoderPluginsFind, enabledPlugins]

/-- A block overrides when it names a plugin the lookup finds and its codec list holds the
suffix. -/
theorem overrideOf_eq (enabled : Fin n → Bool) (suffix : String) (b : ConfigBlock) :
    overrideOf reg isWhitespaceFast enabled suffix b =
      match b.plugin with
      | none => none
      | some name =>
        if ∃ t ∈ codecTokens isWhitespaceFast b.codecs, lowerASCII t = lowerASCII suffix then
          decoderPluginFromName reg enabled name
        else none := by
  rcases b with ⟨_ | name, enabledSetting, codecs⟩
  · simp [overrideOf]
  · dsimp only
    rw [decoderPluginFromName_eq]
    split_ifs with h
    · simp only [overrideOf]
      congr 1; funext i
      simp [h, @eq_comm _ name]
    · simp [overrideOf, h]

@[simp] theorem addBlockPriorities_enabled (s : DecoderState n) (b : ConfigBlock) :
    (addBlockPriorities reg isWhitespaceFast s b).enabled = s.enabled := by
  unfold addBlockPriorities
  split
  · rfl
  · split
    · rfl
    · dsimp only; split <;> rfl

/-- **One block of the build.**  The entry of the lower-cased suffix gains the block's
override, if it has one, unless it is there already. -/
theorem priorityEntry_addBlockPriorities (s : DecoderState n) (b : ConfigBlock)
    (suffix : String) :
    priorityEntry (addBlockPriorities reg isWhitespaceFast s b).priorities (lowerASCII suffix) =
      (overrideOf reg isWhitespaceFast s.enabled suffix b).toList.foldl appendIfAbsent
        (priorityEntry s.priorities (lowerASCII suffix)) := by
  have hmem : lowerASCII suffix ∈ parseCodecList isWhitespaceFast b.codecs ↔
      ∃ t ∈ codecTokens isWhitespaceFast b.codecs, lowerASCII t = lowerASCII suffix := by
    simp [parseCodecList_eq]
  rw [overrideOf_eq]
  obtain ⟨_ | name, enabledSetting, codecs⟩ := b
  · rfl
  · dsimp only [addBlockPriorities] at hmem ⊢
    cases hp : decoderPluginFromName reg s.enabled name with
    | none => simp
    | some p =>
      dsimp only
      by_cases h : ∃ t ∈ codecTokens isWhitespaceFast codecs, lowerASCII t = lowerASCII suffix
      · have hc : parseCodecList isWhitespaceFast codecs ≠ [] :=
          List.ne_nil_of_mem (hmem.mpr h)
        simp [hc, h, priorityEntry_foldl_addPriority, hmem.mpr h]
      · by_cases hc : parseCodecList isWhitespaceFast codecs = []
        · simp [hc, h]
        · simp [hc, h, priorityEntry_foldl_addPriority, mt hmem.mp h]

/-- The build from any state: the flags do not move, and the entry of the suffix is the
blocks' overrides appended while absent. -/
theorem foldl_addBlockPriorities (suffix : String) (config : List ConfigBlock) :
    ∀ s : DecoderState n,
      (config.foldl (addBlockPriorities reg isWhitespaceFast) s).enabled = s.enabled ∧
      priorityEntry (config.foldl (addBlockPriorities reg isWhitespaceFast) s).priorities
          (lowerASCII suffix) =
        (config.filterMap (overrideOf reg isWhitespaceFast s.enabled suffix)).foldl
          appendIfAbsent (priorityEntry s.priorities (lowerASCII suffix)) := by
  induction config with
  | nil => simp
  | cons b config ih =>
    intro s
    obtain ⟨h1, h2⟩ := ih (addBlockPriorities reg isWhitespaceFast s b)
    rw [addBlockPriorities_enabled] at h1 h2
    refine ⟨h1, ?_⟩
    rw [List.foldl_cons, h2, priorityEntry_addBlockPriorities, List.filterMap_cons]
    cases overrideOf reg isWhitespaceFast s.enabled suffix b <;> rfl

@[simp] theorem buildDecoderCodecPriorities_enabled (config : List ConfigBlock)
    (s : DecoderState n) :
    (buildDecoderCodecPriorities reg isWhitespaceFast config s).enabled = s.enabled :=
  (foldl_addBlockPriorities reg isWhitespaceFast "" config _).1

/-- **The table after the build.**  Under every lower-cased suffix it holds the blocks'
overrides, in block order, later repeats removed, whatever it held before. -/
theorem priorityEntry_build (config : List ConfigBlock) (s : DecoderState n) (suffix : String) :
    priorityEntry (buildDecoderCodecPriorities reg isWhitespaceFast config s).priorities
        (lowerASCII suffix) =
      (config.filterMap (overrideOf reg isWhitespaceFast s.enabled suffix)).eraseDups := by
  rw [buildDecoderCodecPriorities,
    (foldl_addBlockPriorities reg isWhitespaceFast suffix config _).2]
  exact foldl_appendIfAbsent_nil _

end Build

/-! ## 3. The resolution order -/

section Resolve

variable (reg : DecoderRegistry n) (isWhitespaceFast : Char → Bool)

theorem enabled_of_overrideOf {enabled : Fin n → Bool} {suffix : String} {b : ConfigBlock}
    {i : Fin n} (h : overrideOf reg isWhitespaceFast enabled suffix b = some i) :
    enabled i = true := by
  unfold overrideOf at h
  have := List.find?_some h
  simp only [decide_eq_true_eq] at this
  exact this.1

theorem nodup_overridesFor (enabled : Fin n → Bool) (config : List ConfigBlock)
    (suffix : String) : (overridesFor reg isWhitespaceFast enabled config suffix).Nodup := by
  unfold overridesFor
  split
  · exact List.nodup_nil
  · rw [← foldl_appendIfAbsent_nil]
    exact nodup_foldl_appendIfAbsent List.nodup_nil

theorem enabled_of_mem_overridesFor {enabled : Fin n → Bool} {config : List ConfigBlock}
    {suffix : String} {i : Fin n}
    (h : i ∈ overridesFor reg isWhitespaceFast enabled config suffix) :
    enabled i = true := by
  unfold overridesFor at h
  split at h
  · simp at h
  · rw [← foldl_appendIfAbsent_nil, mem_foldl_appendIfAbsent] at h
    obtain ⟨b, -, hb⟩ := List.mem_filterMap.mp (h.resolve_left (List.not_mem_nil i))
    exact enabled_of_overrideOf reg isWhitespaceFast hb

/-- The override list reads the suffix only up to ASCII case. -/
theorem overridesFor_congr {enabled : Fin n → Bool} {config : List ConfigBlock}
    {suffix suffix' : String} (h : lowerASCII suffix' = lowerASCII suffix) :
    overridesFor reg isWhitespaceFast enabled config suffix' =
      overridesFor reg isWhitespaceFast enabled config suffix := by
  have hempty : suffix' = "" ↔ suffix = "" := by
    rw [← lowerASCII_eq_empty, h, lowerASCII_eq_empty]
  have ho : overrideOf reg isWhitespaceFast enabled suffix' =
      overrideOf reg isWhitespaceFast enabled suffix := by
    funext b
    simp only [overrideOf, h]
  simp only [overridesFor, ho, hempty]

theorem decoderPluginsForSuffix_build_eq (config : List ConfigBlock) (s : DecoderState n)
    (suffix : String) :
    decoderPluginsForSuffix (buildDecoderCodecPriorities reg isWhitespaceFast config s) suffix =
      overridesFor reg isWhitespaceFast s.enabled config suffix ++
        (enabledPlugins s.enabled).filter
          (fun p => p ∉ overridesFor reg isWhitespaceFast s.enabled config suffix) := by
  have hO : (if suffix = "" then [] else
      ((buildDecoderCodecPriorities reg isWhitespaceFast config s).priorities.lookup
        (lowerASCII suffix)).getD []) =
        overridesFor reg isWhitespaceFast s.enabled config suffix := by
    unfold overridesFor
    split
    · rfl
    · exact priorityEntry_build reg isWhitespaceFast config s suffix
  simp only [decoderPluginsForSuffix, buildDecoderCodecPriorities_enabled, hO]
  exact foldl_appendIfAbsent_of_nodup (nodup_enabledPlugins _) _

/-- A duplicate-free list of enabled plugins followed by the other enabled plugins lists
every enabled plugin exactly once. -/
theorem perm_append_filter_not_mem {O : List (Fin n)} {enabled : Fin n → Bool}
    (hO : O.Nodup) (hsub : ∀ i ∈ O, enabled i = true) :
    (O ++ (enabledPlugins enabled).filter (fun p => p ∉ O)).Perm (enabledPlugins enabled) := by
  refine (List.perm_ext_iff_of_nodup ?_ (nodup_enabledPlugins enabled)).mpr fun i => ?_
  · refine List.nodup_append.mpr ⟨hO, (nodup_enabledPlugins enabled).filter _, ?_⟩
    intro a ha hb
    simp only [List.mem_filter, decide_eq_true_eq] at hb
    exact hb.2 ha
  · by_cases hi : i ∈ O <;> simp [hi, hsub i]

/-- **The resolution order after a build.**  For every configuration, every set of enabled
plugins, every earlier content of the table and every suffix, `decoder_plugins_for_suffix`
returns the suffix's override list followed by every other enabled plugin in registry
order.  Hence it lists every enabled plugin exactly once and nothing else, and it reads the
suffix only up to ASCII case. -/
theorem decoderPluginsForSuffix_build (config : List ConfigBlock) (s : DecoderState n)
    (suffix : String) :
    let s' := buildDecoderCodecPriorities reg isWhitespaceFast config s
    let O := overridesFor reg isWhitespaceFast s.enabled config suffix
    decoderPluginsForSuffix s' suffix =
        O ++ (enabledPlugins s.enabled).filter (fun p => p ∉ O) ∧
      (decoderPluginsForSuffix s' suffix).Perm (enabledPlugins s.enabled) ∧
      ∀ suffix', lowerASCII suffix' = lowerASCII suffix →
        decoderPluginsForSuffix s' suffix' = decoderPluginsForSuffix s' suffix := by
  intro s' O
  have heq := decoderPluginsForSuffix_build_eq reg isWhitespaceFast config s
  refine ⟨heq suffix, ?_, fun suffix' h => ?_⟩
  · rw [heq suffix]
    exact perm_append_filter_not_mem (nodup_overridesFor reg isWhitespaceFast _ _ _)
      fun i hi => enabled_of_mem_overridesFor reg isWhitespaceFast hi
  · rw [heq suffix', heq suffix, overridesFor_congr reg isWhitespaceFast h]

/-- **The two suffix lookups agree.**  For every configuration, every set of enabled plugins,
every earlier content of the table and every suffix, after a build
`decoder_plugins_supports_suffix` holds exactly when the list `decoder_plugins_for_suffix`
returns has a plugin that declares the suffix: that list is the enabled plugins, reordered. -/
theorem decoderPluginsSupportsSuffix_build (config : List ConfigBlock) (s : DecoderState n)
    (suffix : String) :
    decoderPluginsSupportsSuffix reg (buildDecoderCodecPriorities reg isWhitespaceFast config s)
        suffix =
      (decoderPluginsForSuffix (buildDecoderCodecPriorities reg isWhitespaceFast config s)
        suffix).any fun i => (reg.plugin i).supportsSuffix suffix := by
  have hperm : (decoderPluginsForSuffix (buildDecoderCodecPriorities reg isWhitespaceFast config s)
      suffix).Perm (enabledPlugins s.enabled) := by
    rw [decoderPluginsForSuffix_build_eq]
    exact perm_append_filter_not_mem (nodup_overridesFor reg isWhitespaceFast _ _ _)
      fun i hi => enabled_of_mem_overridesFor reg isWhitespaceFast hi
  simp only [decoderPluginsSupportsSuffix, buildDecoderCodecPriorities_enabled, List.any_eq,
    hperm.mem_iff]

end Resolve

end Vgmpd
