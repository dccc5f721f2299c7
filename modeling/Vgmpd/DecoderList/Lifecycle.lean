/-
# The lifecycle: `decoder_plugin_init_all` and `decoder_plugin_deinit_all`

`decoder_plugin_init_all` walks `decoder_plugins[]` in order.  For each plugin it finds the
plugin's first `decoder` block (or uses an empty one), skips the plugin when that block
disables it, and otherwise calls `Init` and classifies the outcome: `true` sets the
plugin's flag, `false` leaves it, `PluginUnavailable` is logged, and any other exception is
wrapped and propagated, which ends the loop.  Only a loop that runs to the end rebuilds the
codec priority table.  `decoder_plugin_deinit_all` calls `Finish` on every plugin whose
flag is set.

The outcome of each `Init` is an input of the model (`init`): the theorems hold for every
assignment of outcomes, and an outcome may depend on the block the plugin receives.

* `initPlugins_eq` is the run lemma of the loop from any state: which `Init` calls happen,
  what the flags become, which exception escapes.  From the all-disabled state it gives
  `decoderPluginInitAll_fresh`.
* Nothing in either function ever clears a flag (`enabled_lifecycleRun_mono`).  So a plugin
  enabled by one cycle stays enabled through every later `decoder_plugin_init_all`, whatever
  that call's configuration or `Init` outcomes, and every later `decoder_plugin_deinit_all`
  calls its `Finish` again (`finish_mem_deinitAll_lifecycleRun`,
  `initAll_after_cycle_keeps_flag`).
* Every call keeps the table readable (`DecoderState.OverridesEnabled`): each override list
  holds enabled plugins without repeats.  A build clears and refills the table, and a failed
  `decoder_plugin_init_all` keeps the old one, whose plugins are still enabled.  So in every
  state a lifecycle reaches, `decoder_plugins_for_suffix` lists each enabled plugin exactly
  once (`decoderPluginsForSuffix_lifecycleRun`).
-/
import Vgmpd.DecoderList.Priorities

namespace Vgmpd

variable {n : Nat}

/-! ## 1. The model -/

/-- What a plugin's `Init` does when the registry calls it. -/
inductive InitOutcome where
  /-- `Init` returned `ok`. -/
  | returned (ok : Bool)
  /-- `Init` threw `PluginUnavailable`. -/
  | unavailable
  /-- `Init` threw any other exception. -/
  | failed
deriving DecidableEq, Repr

/-- The exception `decoder_plugin_init_all` propagates:
`"Failed to initialize decoder plugin {:?}"` for `plugin`, the plugin's own exception
nested inside. -/
structure InitFailure (n : Nat) where
  plugin : Fin n
deriving DecidableEq, Repr

/-- `decoder_plugins_enabled[i] = true`. -/
def setFlag (enabled : Fin n → Bool) (i : Fin n) : Fin n → Bool :=
  fun j => if j = i then true else enabled j

/-- The `try` block for one plugin: call `Init(*param)` and classify its outcome. -/
def callInit (init : Fin n → ConfigBlock → InitOutcome) (s : DecoderState n) (i : Fin n)
    (param : ConfigBlock) : DecoderState n × Option (InitFailure n) :=
  let s := { s with trace := s.trace ++ [.init i param] }
  match init i param with
  | .returned true => ({ s with enabled := setFlag s.enabled i }, none)
  | .returned false => (s, none)
  | .unavailable => ({ s with trace := s.trace ++ [.unavailable i] }, none)
  | .failed => (s, some ⟨i⟩)

/-- One pass of the loop of `decoder_plugin_init_all`: the plugin's first block, or the empty
block when it has none; a block that disables the plugin skips it (`continue`). -/
def initPlugin (reg : DecoderRegistry n) (config : List ConfigBlock)
    (init : Fin n → ConfigBlock → InitOutcome) (s : DecoderState n) (i : Fin n) :
    DecoderState n × Option (InitFailure n) :=
  match findBlock config (reg.plugin i).name with
  | none => callInit init s i {}
  | some param => if param.isEnabled then callInit init s i param else (s, none)

/-- The loop over the plugins `is`, left at the first exception that escapes. -/
def initPlugins (reg : DecoderRegistry n) (config : List ConfigBlock)
    (init : Fin n → ConfigBlock → InitOutcome) :
    List (Fin n) → DecoderState n → DecoderState n × Option (InitFailure n)
  | [], s => (s, none)
  | i :: is, s =>
    match initPlugin reg config init s i with
    | (s', none) => initPlugins reg config init is s'
    | (s', some e) => (s', some e)

/-- `decoder_plugin_init_all(config)`: the loop over all of `decoder_plugins[]`, then, if no
exception escaped, `BuildDecoderCodecPriorities(config)`.  The state is returned in both
cases, since what the loop did before the exception stays done. -/
def decoderPluginInitAll (reg : DecoderRegistry n) (isWhitespaceFast : Char → Bool)
    (config : List ConfigBlock) (init : Fin n → ConfigBlock → InitOutcome)
    (s : DecoderState n) : DecoderState n × Option (InitFailure n) :=
  match initPlugins reg config init (List.finRange n) s with
  | (s', none) => (buildDecoderCodecPriorities reg isWhitespaceFast config s', none)
  | (s', some e) => (s', some e)

/-- `decoder_plugin_deinit_all()`: `Finish` on every enabled plugin, in registry order. -/
def decoderPluginDeinitAll (s : DecoderState n) : DecoderState n :=
  { s with trace := s.trace ++ (enabledPlugins s.enabled).map .finish }

/-! ## 2. One pass of the loop -/

section Pass

variable (reg : DecoderRegistry n) (config : List ConfigBlock)
  (init : Fin n → ConfigBlock → InitOutcome)

/-- Whether the loop reaches the plugin's `Init`: its first block, if it has one, does not
disable it. -/
def isInitCandidate (i : Fin n) : Bool :=
  ((findBlock config (reg.plugin i).name).map ConfigBlock.isEnabled).getD true

/-- The block the plugin's `Init` receives: its first block, or the empty one. -/
def initBlock (i : Fin n) : ConfigBlock :=
  (findBlock config (reg.plugin i).name).getD {}

/-- What the plugin's `Init` does on the block it receives. -/
def initOutcome (i : Fin n) : InitOutcome :=
  init i (initBlock reg config i)

/-- The events a call of the plugin's `Init` adds: the call, then the error line if it threw
`PluginUnavailable`. -/
def initEvents (i : Fin n) : List (DecoderEvent n) :=
  .init i (initBlock reg config i) ::
    if initOutcome reg config init i = .unavailable then [.unavailable i] else []

/-- The plugins of `is` whose `Init` the loop calls: the candidates, up to and including the
first whose `Init` throws an exception other than `PluginUnavailable`. -/
def calledInits (is : List (Fin n)) : List (Fin n) :=
  (is.filter (isInitCandidate reg config)).takeWhile
      (fun i => initOutcome reg config init i ≠ .failed) ++
    ((is.filter (isInitCandidate reg config)).dropWhile
      (fun i => initOutcome reg config init i ≠ .failed)).take 1

theorem callInit_eq (s : DecoderState n) (i : Fin n) (param : ConfigBlock) :
    callInit init s i param =
      ({ enabled := if init i param = .returned true then setFlag s.enabled i else s.enabled,
         priorities := s.priorities,
         trace := s.trace ++ .init i param ::
           if init i param = .unavailable then [.unavailable i] else [] },
       if init i param = .failed then some ⟨i⟩ else none) := by
  unfold callInit
  cases init i param with
  | returned ok => cases ok <;> simp
  | unavailable => simp
  | failed => simp

theorem initPlugin_eq (s : DecoderState n) (i : Fin n) :
    initPlugin reg config init s i =
      if isInitCandidate reg config i then callInit init s i (initBlock reg config i)
      else (s, none) := by
  unfold initPlugin isInitCandidate initBlock
  cases findBlock config (reg.plugin i).name with
  | none => rfl
  | some b => by_cases h : b.isEnabled <;> simp [h]

theorem calledInits_cons_of_not_candidate {i : Fin n} {is : List (Fin n)}
    (hc : isInitCandidate reg config i = false) :
    calledInits reg config init (i :: is) = calledInits reg config init is := by
  simp [calledInits, List.filter_cons, hc]

theorem calledInits_cons_of_failed {i : Fin n} {is : List (Fin n)}
    (hc : isInitCandidate reg config i = true) (hf : initOutcome reg config init i = .failed) :
    calledInits reg config init (i :: is) = [i] := by
  simp [calledInits, List.filter_cons, hc, hf]

theorem calledInits_cons_of_not_failed {i : Fin n} {is : List (Fin n)}
    (hc : isInitCandidate reg config i = true) (hf : initOutcome reg config init i ≠ .failed) :
    calledInits reg config init (i :: is) = i :: calledInits reg config init is := by
  simp [calledInits, List.filter_cons, hc, hf]

/-- **The loop, from any state.**  Over the plugins `is`, `Init` is called on exactly
`calledInits is`, in order; afterwards a flag is set iff it was set before or the plugin's
`Init` was called and returned `true`; and the exception that escapes, if any, names the
first candidate whose `Init` failed. -/
theorem initPlugins_eq (is : List (Fin n)) (s : DecoderState n) :
    initPlugins reg config init is s =
      ({ enabled := fun j => s.enabled j ||
           decide (j ∈ calledInits reg config init is ∧
             initOutcome reg config init j = .returned true),
         priorities := s.priorities,
         trace := s.trace ++
           (calledInits reg config init is).flatMap (initEvents reg config init) },
       ((is.filter (isInitCandidate reg config)).find?
         (fun i => initOutcome reg config init i = .failed)).map InitFailure.mk) := by
  induction is generalizing s with
  | nil => simp [initPlugins, calledInits]
  | cons i is ih =>
    rw [initPlugins, initPlugin_eq]
    by_cases hc : isInitCandidate reg config i = true
    · have ho : init i (initBlock reg config i) = initOutcome reg config init i := rfl
      rw [if_pos hc, callInit_eq, ho]
      by_cases hf : initOutcome reg config init i = .failed
      · rw [calledInits_cons_of_failed reg config init hc hf]
        simp only [hf, hc, initEvents, List.filter_cons, if_true, reduceCtorEq, if_false,
          List.flatMap_cons, List.flatMap_nil, List.append_nil, List.find?_cons, decide_True,
          Option.map_some', Prod.mk.injEq, DecoderState.mk.injEq, and_true]
        funext j
        by_cases hj : j = i
        · subst hj; simp [hf]
        · simp [hj]
      · rw [calledInits_cons_of_not_failed reg config init hc hf]
        simp only [hf, if_false]
        rw [ih]
        simp only [List.filter_cons, hc, if_true, List.find?_cons, hf, decide_False,
          List.flatMap_cons, List.append_assoc, initEvents, Prod.mk.injEq, DecoderState.mk.injEq,
          and_true, true_and, List.cons_append]
        funext j
        by_cases hj : j = i
        · subst hj
          by_cases ht : initOutcome reg config init j = .returned true <;> simp [ht, setFlag]
        · by_cases ht : initOutcome reg config init i = .returned true <;> simp [ht, hj, setFlag]
    · rw [if_neg hc]
      simp only
      rw [ih, calledInits_cons_of_not_candidate reg config init (by simpa using hc)]
      simp [List.filter_cons, hc]

end Pass

/-! ## 3. `decoder_plugin_init_all` from the all-disabled state -/

section InitAll

variable (reg : DecoderRegistry n) (isWhitespaceFast : Char → Bool)

/-- Two states with the same flags and the same table are still alike after one block of the
build: the block's effect on the table does not read the trace. -/
theorem addBlockPriorities_congr {s s' : DecoderState n} (b : ConfigBlock)
    (he : s.enabled = s'.enabled) (hp : s.priorities = s'.priorities) :
    (addBlockPriorities reg isWhitespaceFast s b).enabled =
        (addBlockPriorities reg isWhitespaceFast s' b).enabled ∧
      (addBlockPriorities reg isWhitespaceFast s b).priorities =
        (addBlockPriorities reg isWhitespaceFast s' b).priorities := by
  obtain ⟨e, p, t⟩ := s
  obtain ⟨e', p', t'⟩ := s'
  dsimp only at he hp
  subst he hp
  unfold addBlockPriorities
  cases b.plugin with
  | none => exact ⟨rfl, rfl⟩
  | some name =>
    dsimp only
    cases decoderPluginFromName reg e name with
    | none => exact ⟨rfl, rfl⟩
    | some q => dsimp only; split <;> exact ⟨rfl, rfl⟩

/-- **The table the build leaves reads only the flags**: not the earlier table, not the trace. -/
theorem buildDecoderCodecPriorities_priorities_congr (config : List ConfigBlock)
    {s s' : DecoderState n} (h : s.enabled = s'.enabled) :
    (buildDecoderCodecPriorities reg isWhitespaceFast config s).priorities =
      (buildDecoderCodecPriorities reg isWhitespaceFast config s').priorities := by
  unfold buildDecoderCodecPriorities
  suffices ∀ (s s' : DecoderState n), s.enabled = s'.enabled → s.priorities = s'.priorities →
      (config.foldl (addBlockPriorities reg isWhitespaceFast) s).priorities =
        (config.foldl (addBlockPriorities reg isWhitespaceFast) s').priorities from
    this _ _ h rfl
  induction config with
  | nil => intro s s' _ hp; exact hp
  | cons b config ih =>
    intro s s' he hp
    obtain ⟨he', hp'⟩ := addBlockPriorities_congr reg isWhitespaceFast b he hp
    exact ih _ _ he' hp'

/-- The build only appends warnings to the trace. -/
theorem buildDecoderCodecPriorities_trace (config : List ConfigBlock) (s : DecoderState n) :
    ∃ warnings, (buildDecoderCodecPriorities reg isWhitespaceFast config s).trace =
      s.trace ++ warnings ∧ ∀ e ∈ warnings, ∃ name, e = .overrideIgnored name := by
  unfold buildDecoderCodecPriorities
  suffices ∀ s : DecoderState n, ∃ warnings,
      (config.foldl (addBlockPriorities reg isWhitespaceFast) s).trace = s.trace ++ warnings ∧
        ∀ e ∈ warnings, ∃ name, e = .overrideIgnored name from this _
  induction config with
  | nil => intro s; exact ⟨[], by simp, by simp⟩
  | cons b config ih =>
    intro s
    obtain ⟨w, hw, hname⟩ := ih (addBlockPriorities reg isWhitespaceFast s b)
    have hstep : ∃ w₀, (addBlockPriorities reg isWhitespaceFast s b).trace = s.trace ++ w₀ ∧
        ∀ e ∈ w₀, ∃ name, e = .overrideIgnored name := by
      unfold addBlockPriorities
      cases b.plugin with
      | none => exact ⟨[], by simp, by simp⟩
      | some name =>
        dsimp only
        cases decoderPluginFromName reg s.enabled name with
        | none => exact ⟨[.overrideIgnored name], rfl, by simp⟩
        | some q => dsimp only; split <;> exact ⟨[], by simp, by simp⟩
    obtain ⟨w₀, hw₀, hname₀⟩ := hstep
    refine ⟨w₀ ++ w, by rw [List.foldl_cons, hw, hw₀, List.append_assoc], ?_⟩
    intro e he
    rcases List.mem_append.mp he with he | he
    · exact hname₀ e he
    · exact hname e he

/-- **`decoder_plugin_init_all` from the all-disabled state.**  `Init` is called, in
registry order, on exactly the plugins whose first block does not disable them, up to and
including the first whose `Init` throws something other than `PluginUnavailable`; a plugin
ends up enabled iff its `Init` was called and returned `true`; the call raises iff such a
fatal `Init` was reached, and names it; and when it returns, the table is the build over
the final flags. -/
theorem decoderPluginInitAll_fresh (config : List ConfigBlock)
    (init : Fin n → ConfigBlock → InitOutcome) (table : List (String × List (Fin n)))
    (trace : List (DecoderEvent n)) :
    let r :=
      decoderPluginInitAll reg isWhitespaceFast config init ⟨fun _ => false, table, trace⟩
    let called := calledInits reg config init (List.finRange n)
    (∃ warnings, r.1.trace = trace ++ called.flatMap (initEvents reg config init) ++ warnings ∧
        ∀ e ∈ warnings, ∃ name, e = .overrideIgnored name) ∧
      (∀ i, r.1.enabled i = true ↔
        i ∈ called ∧ initOutcome reg config init i = .returned true) ∧
      r.2 = (((List.finRange n).filter (isInitCandidate reg config)).find?
        (fun i => initOutcome reg config init i = .failed)).map InitFailure.mk ∧
      (r.2 = none → r.1.priorities =
        (buildDecoderCodecPriorities reg isWhitespaceFast config
          ⟨r.1.enabled, [], []⟩).priorities) := by
  dsimp only
  unfold decoderPluginInitAll
  rw [initPlugins_eq]
  generalize hs : ({ enabled := _, priorities := _, trace := _ } : DecoderState n) = s'
  cases hf : ((List.finRange n).filter (isInitCandidate reg config)).find?
      (fun i => initOutcome reg config init i = .failed) with
  | none =>
    simp only [Option.map_none']
    obtain ⟨w, hw, hname⟩ := buildDecoderCodecPriorities_trace reg isWhitespaceFast config s'
    refine ⟨⟨w, by rw [hw, ← hs], hname⟩, fun i => ?_, trivial, fun _ =>
      buildDecoderCodecPriorities_priorities_congr reg isWhitespaceFast config (by simp)⟩
    simp [← hs]
  | some f =>
    simp only [Option.map_some']
    refine ⟨⟨[], by simp [← hs], by simp⟩, fun i => ?_, trivial, by simp⟩
    simp [← hs]

end InitAll

/-! ## 4. Cycles

The spec's lifecycle runs `Uninitialized → Ready → Uninitialized` and may start again.  A
run is any sequence of the two calls; its invariant is that the flags only ever grow. -/

/-- A call the rest of the program makes on the registry. -/
inductive LifecycleCall (n : Nat) where
  | initAll (config : List ConfigBlock) (init : Fin n → ConfigBlock → InitOutcome)
  | deinitAll

section Cycles

variable (reg : DecoderRegistry n) (isWhitespaceFast : Char → Bool)

/-- One call of a lifecycle run; an exception out of `decoder_plugin_init_all` leaves the
state as the loop left it. -/
def lifecycleStep (s : DecoderState n) : LifecycleCall n → DecoderState n
  | .initAll config init => (decoderPluginInitAll reg isWhitespaceFast config init s).1
  | .deinitAll => decoderPluginDeinitAll s

/-- A lifecycle run: the calls in order. -/
def lifecycleRun (calls : List (LifecycleCall n)) (s : DecoderState n) : DecoderState n :=
  calls.foldl (lifecycleStep reg isWhitespaceFast) s

theorem decoderPluginInitAll_enabled_mono {config : List ConfigBlock}
    {init : Fin n → ConfigBlock → InitOutcome} {s : DecoderState n} {i : Fin n}
    (h : s.enabled i = true) :
    (decoderPluginInitAll reg isWhitespaceFast config init s).1.enabled i = true := by
  unfold decoderPluginInitAll
  rw [initPlugins_eq]
  cases ((List.finRange n).filter (isInitCandidate reg config)).find?
      (fun i => initOutcome reg config init i = .failed) <;> simp [h]

/-- **No call ever clears a flag.**  Along every lifecycle run a plugin enabled once stays
enabled: `decoder_plugin_init_all` only sets flags and `decoder_plugin_deinit_all` does not
touch them. -/
theorem enabled_lifecycleRun_mono (calls : List (LifecycleCall n)) {s : DecoderState n}
    {i : Fin n} (h : s.enabled i = true) :
    (lifecycleRun reg isWhitespaceFast calls s).enabled i = true := by
  induction calls generalizing s with
  | nil => exact h
  | cons c calls ih =>
    apply ih
    cases c with
    | initAll config init => exact decoderPluginInitAll_enabled_mono reg isWhitespaceFast h
    | deinitAll => exact h

/-- **A plugin enabled once is finished by every later `decoder_plugin_deinit_all`.**  Along
every lifecycle run no flag that was set is cleared, and the `decoder_plugin_deinit_all` that
follows the run calls `Finish` on plugin `i`, enabled at the run's start, among the calls it
adds to the trace. -/
theorem finish_mem_deinitAll_lifecycleRun (calls : List (LifecycleCall n))
    {s : DecoderState n} {i : Fin n} (h : s.enabled i = true) :
    (∀ j, s.enabled j = true → (lifecycleRun reg isWhitespaceFast calls s).enabled j = true) ∧
      ∃ evs, (decoderPluginDeinitAll (lifecycleRun reg isWhitespaceFast calls s)).trace =
          (lifecycleRun reg isWhitespaceFast calls s).trace ++ evs ∧
        DecoderEvent.finish i ∈ evs := by
  refine ⟨fun j hj => enabled_lifecycleRun_mono reg isWhitespaceFast calls hj, _, rfl, ?_⟩
  simp [enabled_lifecycleRun_mono reg isWhitespaceFast calls h]

/-! ## 5. The table across cycles -/

/-- What `decoder_plugins_for_suffix` reads of the table: under the lower-cased form of every
suffix, a list of enabled plugins without repeats. -/
def DecoderState.OverridesEnabled (s : DecoderState n) : Prop :=
  ∀ suffix, (priorityEntry s.priorities (lowerASCII suffix)).Nodup ∧
    ∀ i ∈ priorityEntry s.priorities (lowerASCII suffix), s.enabled i = true

/-- A state with the same table and at least the same flags keeps the property. -/
theorem DecoderState.OverridesEnabled.mono {s t : DecoderState n} (h : s.OverridesEnabled)
    (hp : t.priorities = s.priorities) (he : ∀ i, s.enabled i = true → t.enabled i = true) :
    t.OverridesEnabled := fun suffix => by
  rw [hp]
  exact ⟨(h suffix).1, fun i hi => he i ((h suffix).2 i hi)⟩

/-- The build clears the table first, so it leaves the property whatever the table held. -/
theorem overridesEnabled_build (config : List ConfigBlock) (s : DecoderState n) :
    (buildDecoderCodecPriorities reg isWhitespaceFast config s).OverridesEnabled := by
  intro suffix
  rw [priorityEntry_build, buildDecoderCodecPriorities_enabled, ← foldl_appendIfAbsent_nil]
  refine ⟨nodup_foldl_appendIfAbsent List.nodup_nil, fun i hi => ?_⟩
  rw [mem_foldl_appendIfAbsent] at hi
  obtain ⟨b, -, hb⟩ := List.mem_filterMap.mp (hi.resolve_left (List.not_mem_nil i))
  exact enabled_of_overrideOf reg isWhitespaceFast hb

/-- **Each call keeps the property**: a call that runs to the end rebuilds the table, one that
throws leaves the old table with at least the old flags, and `decoder_plugin_deinit_all`
touches neither. -/
theorem overridesEnabled_lifecycleStep {s : DecoderState n} (h : s.OverridesEnabled) :
    ∀ c : LifecycleCall n, (lifecycleStep reg isWhitespaceFast s c).OverridesEnabled
  | .initAll config init => by
    show (decoderPluginInitAll reg isWhitespaceFast config init s).1.OverridesEnabled
    unfold decoderPluginInitAll
    rw [initPlugins_eq]
    cases ((List.finRange n).filter (isInitCandidate reg config)).find?
        (fun i => initOutcome reg config init i = .failed) with
    | none => exact overridesEnabled_build reg isWhitespaceFast config _
    | some e => exact h.mono rfl fun i hi => by simp [hi]
  | .deinitAll => h.mono rfl fun _ hi => hi

/-- The start: no table at all. -/
theorem overridesEnabled_fresh (trace : List (DecoderEvent n)) :
    (⟨fun _ => false, [], trace⟩ : DecoderState n).OverridesEnabled :=
  fun _ => ⟨List.nodup_nil, nofun⟩

theorem overridesEnabled_lifecycleRun (calls : List (LifecycleCall n)) {s : DecoderState n}
    (h : s.OverridesEnabled) : (lifecycleRun reg isWhitespaceFast calls s).OverridesEnabled := by
  induction calls generalizing s with
  | nil => exact h
  | cons c calls ih => exact ih (overridesEnabled_lifecycleStep reg isWhitespaceFast h c)

/-- From a table with the property, every suffix resolves to the enabled plugins, reordered. -/
theorem decoderPluginsForSuffix_perm {s : DecoderState n} (h : s.OverridesEnabled)
    (suffix : String) : (decoderPluginsForSuffix s suffix).Perm (enabledPlugins s.enabled) := by
  have hfold : ∀ O : List (Fin n), O.Nodup → (∀ i ∈ O, s.enabled i = true) →
      ((enabledPlugins s.enabled).foldl appendIfAbsent O).Perm (enabledPlugins s.enabled) :=
    fun O hO hsub => by
      rw [foldl_appendIfAbsent_of_nodup (nodup_enabledPlugins _)]
      exact perm_append_filter_not_mem hO hsub
  unfold decoderPluginsForSuffix
  split
  · exact hfold [] List.nodup_nil nofun
  · exact hfold _ (h suffix).1 (h suffix).2

/-- **In every state a lifecycle reaches, every suffix resolves to each enabled plugin exactly
once.**  From the all-disabled start with an empty table, along every sequence of
`decoder_plugin_init_all` and `decoder_plugin_deinit_all` calls (any configurations, any
`Init` outcomes, exceptions included), `decoder_plugins_for_suffix` returns for every suffix
a permutation of the enabled plugins.  A `decoder_plugin_init_all` that throws keeps the old
table, which stays valid because no flag is ever cleared. -/
theorem decoderPluginsForSuffix_lifecycleRun (calls : List (LifecycleCall n))
    (trace : List (DecoderEvent n)) (suffix : String) :
    (decoderPluginsForSuffix (lifecycleRun reg isWhitespaceFast calls
        ⟨fun _ => false, [], trace⟩) suffix).Perm
      (enabledPlugins (lifecycleRun reg isWhitespaceFast calls
        ⟨fun _ => false, [], trace⟩).enabled) :=
  decoderPluginsForSuffix_perm (overridesEnabled_lifecycleRun reg isWhitespaceFast calls
    (overridesEnabled_fresh trace)) suffix

end Cycles

/-- A registry of one plugin. -/
def oneDecoderRegistry : DecoderRegistry 1 where
  plugin := fun _ => ⟨"upse", ["psf", "minipsf"]⟩
  name_injective := fun a b _ => Subsingleton.elim a b

/-- The state after one cycle in which the plugin's `Init` returned `true`. -/
def upseAfterOneCycle : DecoderState 1 :=
  lifecycleRun oneDecoderRegistry (fun _ => false)
    [.initAll [] (fun _ _ => .returned true), .deinitAll] ⟨fun _ => false, [], []⟩

/-- A configuration whose one block disables the plugin. -/
def disableUpse : List ConfigBlock := [{ plugin := some "upse", enabled := some false }]

/-- **A second cycle keeps the first cycle's flag.**  The second `decoder_plugin_init_all`'s
configuration disables the plugin, so its `Init` is not called; yet the plugin is still
enabled afterwards and the second `decoder_plugin_deinit_all` calls its `Finish` again.  The
same call from the all-disabled state leaves it disabled. -/
theorem initAll_after_cycle_keeps_flag :
    (decoderPluginInitAll oneDecoderRegistry (fun _ => false) disableUpse
        (fun _ _ => .returned false) upseAfterOneCycle).1.enabled 0 = true ∧
      (decoderPluginInitAll oneDecoderRegistry (fun _ => false) disableUpse
        (fun _ _ => .returned false) ⟨fun _ => false, [], []⟩).1.enabled 0 = false ∧
      (decoderPluginDeinitAll (decoderPluginInitAll oneDecoderRegistry (fun _ => false)
        disableUpse (fun _ _ => .returned false) upseAfterOneCycle).1).trace.drop
          upseAfterOneCycle.trace.length = [.finish 0] := by
  decide

/-- After the first cycle, the `decoder_plugin_deinit_all` of a second cycle, whose
configuration disables the plugin, calls its `Finish` again. -/
theorem finish_after_disabling_cycle :
    upseAfterOneCycle.enabled 0 = true ∧
      (∀ j, upseAfterOneCycle.enabled j = true → (lifecycleRun oneDecoderRegistry
          (fun _ => false) [.initAll disableUpse (fun _ _ => .returned false)]
          upseAfterOneCycle).enabled j = true) ∧
      ∃ evs, (decoderPluginDeinitAll (lifecycleRun oneDecoderRegistry (fun _ => false)
          [.initAll disableUpse (fun _ _ => .returned false)] upseAfterOneCycle)).trace =
          (lifecycleRun oneDecoderRegistry (fun _ => false)
            [.initAll disableUpse (fun _ _ => .returned false)] upseAfterOneCycle).trace ++ evs ∧
        DecoderEvent.finish 0 ∈ evs := by
  have h : upseAfterOneCycle.enabled 0 = true := by decide
  exact ⟨h, finish_mem_deinitAll_lifecycleRun oneDecoderRegistry (fun _ => false) _ h⟩

end Vgmpd
