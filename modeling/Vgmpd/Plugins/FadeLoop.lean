/-
# The decode loop of lazygsf and lazyusf, and the player it implements

`gsf_file_decode` and `lazyusf_file_decode` share one loop, line for line.  Each iteration
renders a buffer of `B` frames (`2048` for lazygsf, `1024` for lazyusf), lets the
`if (has_length)` block count the buffer off `song_remaining` and, once the body is used up,
off `fade_remaining`, passing the part past the body to `ApplyFade`; it then submits the
buffer, leaves the loop when both counters are used up, and on a `SEEK` restarts the emulator,
skips to the target and recomputes the counters.  The plugins differ in the buffer size, in
`ApplyFade` and in the warnings they log (`FadeLoopPlugin`).

What the loop is for is a simpler machine, the `FadingPlayer`: it knows only its position `p`
(frames since the last restart), submits the buffer at `p` with every frame passed through an
envelope, stops after the buffer that reaches the song's end `L + F`, and on a seek jumps to
the target.  `fadeLoopStep_refines` proves that the loop implements the player: whenever the
counters track the position (`FadeLoopState.Tracks`), one iteration of the loop is one step of
the player, and `fadeLoop_refines` lifts this to every run.  The plugin enters only through
`FadesAs`, what its `ApplyFade` does to a buffer at a tracked position.

From the player, `FadingPlayer.iterate_plays` counts the buffers: from position `s`, a client
that neither seeks nor stops receives exactly `max 1 ⌈(L + F - s) / B⌉` buffers, and then the
decoder returns.

Without a length the counters are never read, and the loop is the `StreamPlayer`
(`fadeLoop_refines_stream`): it submits the emulator's stream untouched, restarts it at a
seek's target, and returns only on `STOP` (`StreamPlayer.stop_of_refines`).
-/
import Vgmpd.Plugins.Client

namespace Vgmpd

/-! ## 1. The loop -/

/-- What the lazygsf and lazyusf loops differ in. -/
structure FadeLoopPlugin (E : Type) where
  /-- `GSF_BUFFER_FRAMES` / `LAZYUSF_BUFFER_FRAMES`. -/
  bufferFrames : Nat
  bufferFrames_pos : 0 < bufferFrames
  /-- `ApplyFade(buf, bufferFrames, 2, fade_start, fade_remaining, fade_total)`. -/
  applyFade : Buffer → (fadeStart fadeRemaining fadeTotal : Int) → Buffer
  /-- What a failed render call logs. -/
  renderWarning : E → String
  /-- What a failed `SkipFrames` logs. -/
  skipWarning : E → String

/-- The constants the loop reads: `has_length`, `length_frames`, `fade_total` and the sample
rate seek targets are converted with. -/
structure FadeLoopConfig where
  hasLength : Bool
  lengthFrames : Int
  fadeTotal : Int
  sampleRate : Nat
deriving DecidableEq, Repr

/-- The loop's variables, and the emulator's position and call count. -/
structure FadeLoopState where
  songRemaining : Int
  fadeRemaining : Int
  /-- Frames rendered since the last restart. -/
  pos : Nat
  /-- Render calls made so far. -/
  calls : Nat
  /-- `SubmitAudio` calls made so far. -/
  submits : Nat
deriving DecidableEq, Repr

section Loop

variable {E : Type} (P : FadeLoopPlugin E) (emu : Emulator E) (client : DecoderClient)
  (cfg : FadeLoopConfig)

/-- The `if (has_length)` block after a render: the buffer as `ApplyFade` leaves it, and the
new `song_remaining` and `fade_remaining`. -/
def FadeLoopPlugin.trackBuffer (fadeTotal song fade : Int) (raw : Buffer) : Buffer × Int × Int :=
  let song' := if song > 0 then song - P.bufferFrames else song
  if song ≤ P.bufferFrames then
    let fadeStart := max song 0
    (P.applyFade raw fadeStart fade fadeTotal, song',
      max (fade - (P.bufferFrames - fadeStart)) 0)
  else (raw, song', fade)

/-- The `if (cmd == DecoderCommand::SEEK)` block: restart, skip to the target, recompute the
counters, and `CommandFinished`; a failed skip logs and returns. -/
def fadeLoopSeek (seekMs : UInt32) (st : FadeLoopState) :
    List DecodeEvent × Option FadeLoopState :=
  let target := seekFrames cfg.sampleRate seekMs
  if cfg.hasLength then
    let targetRemaining := cfg.lengthFrames - target
    let toSkip := max (cfg.lengthFrames - targetRemaining) 0
    match skipFrames emu st.calls toSkip.toNat with
    | (_, some err) => ([.warning (P.skipWarning err)], none)
    | (calls, none) =>
      let song := if cfg.lengthFrames > 0 then cfg.lengthFrames - min toSkip cfg.lengthFrames
        else cfg.lengthFrames
      ([.commandFinished], some
        { songRemaining := if targetRemaining < 0 then 0 else song
          fadeRemaining := if targetRemaining < 0 then max (cfg.fadeTotal + targetRemaining) 0
            else cfg.fadeTotal
          pos := toSkip.toNat, calls, submits := st.submits })
  else
    match skipFrames emu st.calls target with
    | (_, some err) => ([.warning (P.skipWarning err)], none)
    | (calls, none) =>
      ([.commandFinished], some
        { songRemaining := cfg.lengthFrames, fadeRemaining := cfg.fadeTotal, pos := target,
          calls, submits := st.submits })

/-- A render at `st`, counted off by the `if (has_length)` block: the buffer to submit and the
loop's state after it. -/
def fadeLoopRender (st : FadeLoopState) : Buffer × FadeLoopState :=
  let raw := emu.render st.pos
  let t := if cfg.hasLength then P.trackBuffer cfg.fadeTotal st.songRemaining st.fadeRemaining raw
    else (raw, st.songRemaining, st.fadeRemaining)
  (t.1, { songRemaining := t.2.1, fadeRemaining := t.2.2, pos := st.pos + P.bufferFrames,
          calls := st.calls + 1, submits := st.submits + 1 })

/-- One iteration of the `do { ... } while (cmd != DecoderCommand::STOP)` loop. -/
def fadeLoopStep (st : FadeLoopState) : List DecodeEvent × Option FadeLoopState :=
  match emu.renderError st.calls with
  | some err => ([.warning (P.renderWarning err)], none)
  | none =>
    let r := fadeLoopRender P emu cfg st
    let submitted := DecodeEvent.submit (stereoSpan r.1 P.bufferFrames)
    if cfg.hasLength ∧ r.2.songRemaining ≤ 0 ∧ r.2.fadeRemaining ≤ 0 then
      ([submitted], none)
    else match client.command st.submits with
      | .seek =>
        let s := fadeLoopSeek P emu cfg (client.seekTime st.submits) r.2
        (submitted :: s.1, s.2)
      | .stop => ([submitted], none)
      | _ => ([submitted], some r.2)

/-- The loop's first state: the counters at `length_frames` and `fade_total`, the emulator at
the start of the song after `calls` render calls. -/
def fadeLoopStart (calls : Nat) : FadeLoopState :=
  { songRemaining := cfg.lengthFrames, fadeRemaining := cfg.fadeTotal, pos := 0, calls,
    submits := 0 }

end Loop

/-! ## 2. The fading player -/

/-- A player that knows only its position. -/
structure FadingPlayer where
  bufferFrames : Nat
  /-- `L + F`: the first frame past the fade. -/
  songEnd : Int
  sampleRate : Nat
  /-- The sample submitted for sample `x` of the frame at position `p` of the buffer that
  starts at `q`. -/
  envelope : (q p : Nat) → Sample → Sample

/-- The player's position, and the number of buffers it has submitted. -/
structure PlayerState where
  pos : Nat
  submits : Nat
deriving DecidableEq, Repr

section Player

variable (pl : FadingPlayer) (sample : Nat → Sample) (client : DecoderClient)

/-- The buffer the player submits at position `q`. -/
def FadingPlayer.buffer (q : Nat) : List Sample :=
  (List.range (2 * pl.bufferFrames)).map fun j =>
    pl.envelope q (q + j / 2) (sample (2 * q + j))

/-- One step of the player: submit the buffer at the position; stop after the buffer that
reaches the song's end; otherwise obey the client. -/
def FadingPlayer.step (st : PlayerState) : List DecodeEvent × Option PlayerState :=
  let submitted := DecodeEvent.submit (pl.buffer sample st.pos)
  if pl.songEnd ≤ st.pos + pl.bufferFrames then ([submitted], none)
  else match client.command st.submits with
    | .seek => ([submitted, .commandFinished],
        some ⟨seekFrames pl.sampleRate (client.seekTime st.submits), st.submits + 1⟩)
    | .stop => ([submitted], none)
    | _ => ([submitted], some ⟨st.pos + pl.bufferFrames, st.submits + 1⟩)

/-- `max(1, ⌈(L + F - s) / B⌉)`: the buffers the player submits from position `s` when the
client lets it play. -/
def FadingPlayer.buffersFrom (s : Nat) : Nat :=
  max 1 (((pl.songEnd - s).toNat + pl.bufferFrames - 1) / pl.bufferFrames)

theorem FadingPlayer.buffersFrom_of_end {s : Nat} (h : pl.songEnd ≤ s + pl.bufferFrames) :
    pl.buffersFrom s = 1 := by
  unfold buffersFrom
  have : ((pl.songEnd - s).toNat + pl.bufferFrames - 1) / pl.bufferFrames ≤ 1 := by
    rcases Nat.eq_zero_or_pos pl.bufferFrames with hB | hB
    · simp [hB]
    · rw [Nat.div_le_iff_le_mul_add_pred hB]
      omega
  omega

theorem FadingPlayer.buffersFrom_of_lt {s : Nat} (hB : 0 < pl.bufferFrames)
    (h : ¬ pl.songEnd ≤ s + pl.bufferFrames) :
    pl.buffersFrom s = pl.buffersFrom (s + pl.bufferFrames) + 1 := by
  unfold buffersFrom
  have hsplit : (pl.songEnd - s).toNat + pl.bufferFrames - 1 =
      ((pl.songEnd - ↑(s + pl.bufferFrames)).toNat + pl.bufferFrames - 1) + pl.bufferFrames := by
    omega
  have hpos : 1 ≤ ((pl.songEnd - ↑(s + pl.bufferFrames)).toNat + pl.bufferFrames - 1) /
      pl.bufferFrames := by
    rw [Nat.le_div_iff_mul_le hB]
    omega
  rw [hsplit, Nat.add_div_right _ hB]
  omega

/-- **The player's buffer count.**  From position `s`, a client that neither seeks nor stops
receives the buffers at `s, s + B, ...`: after `fuel` steps the first `fuel` of them while
fewer than `max 1 ⌈(L + F - s) / B⌉` are due, and then exactly that many, when the player
returns. -/
theorem FadingPlayer.iterate_plays (hB : 0 < pl.bufferFrames) :
    ∀ fuel (st : PlayerState), client.PlaysFrom st.submits →
      iterate (pl.step sample client) fuel st =
        ((List.range (min fuel (pl.buffersFrom st.pos))).map fun k =>
            .submit (pl.buffer sample (st.pos + k * pl.bufferFrames)),
          if pl.buffersFrom st.pos ≤ fuel then none
          else some ⟨st.pos + fuel * pl.bufferFrames, st.submits + fuel⟩) := by
  intro fuel
  induction fuel with
  | zero =>
    intro st _
    have : ¬ pl.buffersFrom st.pos ≤ 0 := by unfold buffersFrom; omega
    simp [this]
  | succ fuel ih =>
    intro st hplay
    by_cases hend : pl.songEnd ≤ st.pos + pl.bufferFrames
    · have hstep : pl.step sample client st = ([.submit (pl.buffer sample st.pos)], none) := by
        simp [step, hend]
      rw [iterate_succ_of_return fuel hstep, buffersFrom_of_end pl hend]
      simp [List.range_succ]
    · have hcmd := hplay st.submits (Nat.le_refl _)
      have hstep : pl.step sample client st = ([.submit (pl.buffer sample st.pos)],
          some ⟨st.pos + pl.bufferFrames, st.submits + 1⟩) := by
        simp only [step, if_neg hend]
        split <;> simp_all
      have hn := buffersFrom_of_lt pl hB hend
      rw [iterate_succ_of_continue fuel hstep, ih ⟨st.pos + pl.bufferFrames, st.submits + 1⟩
        (fun k hk => hplay k (Nat.le_of_succ_le hk))]
      dsimp only
      rw [hn, show min (fuel + 1) (pl.buffersFrom (st.pos + pl.bufferFrames) + 1) =
        min fuel (pl.buffersFrom (st.pos + pl.bufferFrames)) + 1 by omega, List.range_succ_eq_map]
      refine Prod.ext ?_ ?_
      · simp only [List.map_cons, List.map_map, Nat.zero_mul, Nat.add_zero, Function.comp_def,
          Nat.succ_mul, Nat.add_assoc, Nat.add_comm pl.bufferFrames, List.singleton_append]
      · simp only [Nat.add_le_add_iff_right, Nat.succ_mul, Nat.add_assoc,
          Nat.add_comm pl.bufferFrames, Nat.add_comm 1]

end Player

/-! ## 3. The counters track the position -/

/-- `song_remaining` and `fade_remaining` as they stand at position `q` of a song with `L`
frames of body and `F` of fade: the body left, then the fade left. -/
def TracksAt (L F : Int) (q : Nat) (song fade : Int) : Prop :=
  (q ≤ L → song = L - q ∧ fade = F) ∧ (L ≤ q → song ≤ 0 ∧ fade = max (L + F - q) 0)

/-- The loop's counters track its position. -/
def FadeLoopState.Tracks (L F : Int) (st : FadeLoopState) : Prop :=
  TracksAt L F st.pos st.songRemaining st.fadeRemaining

/-- The player's view of the loop's state. -/
def FadeLoopState.toPlayer (st : FadeLoopState) : PlayerState := ⟨st.pos, st.submits⟩

section Tracking

variable {E : Type} (P : FadeLoopPlugin E)

theorem tracksAt_start {L F : Int} (hL : 0 ≤ L) (hF : 0 ≤ F) : TracksAt L F 0 L F := by
  unfold TracksAt
  omega

/-- **One buffer keeps the counters on track.** -/
theorem FadeLoopPlugin.trackBuffer_tracks {L F song fade : Int} {q : Nat} (hF : 0 ≤ F)
    (h : TracksAt L F q song fade) (raw : Buffer) :
    TracksAt L F (q + P.bufferFrames) (P.trackBuffer F song fade raw).2.1
      (P.trackBuffer F song fade raw).2.2 := by
  unfold TracksAt at *
  unfold trackBuffer
  have := P.bufferFrames_pos
  split_ifs <;> dsimp only <;> omega

/-- **The loop leaves exactly when the buffer reaches the song's end.** -/
theorem FadeLoopPlugin.trackBuffer_done {L F song fade : Int} {q : Nat} (hF : 0 ≤ F)
    (h : TracksAt L F q song fade) (raw : Buffer) :
    ((P.trackBuffer F song fade raw).2.1 ≤ 0 ∧ (P.trackBuffer F song fade raw).2.2 ≤ 0) ↔
      L + F ≤ q + P.bufferFrames := by
  have h' := P.trackBuffer_tracks hF h raw
  unfold TracksAt at h'
  omega

/-- What `ApplyFade` does to a buffer at a tracked position, as an envelope. -/
def FadeLoopPlugin.FadesAs (L F : Int) (envelope : (q p : Nat) → Sample → Sample) : Prop :=
  ∀ q song fade raw j, TracksAt L F q song fade → j < 2 * P.bufferFrames →
    (P.trackBuffer F song fade raw).1 j = envelope q (q + j / 2) (raw j)

/-- The player a plugin's loop implements for the constants `cfg`. -/
def FadeLoopPlugin.player (cfg : FadeLoopConfig) (envelope : (q p : Nat) → Sample → Sample) :
    FadingPlayer :=
  ⟨P.bufferFrames, cfg.lengthFrames + cfg.fadeTotal, cfg.sampleRate, envelope⟩

end Tracking

/-! ## 4. The loop implements the player -/

section Render

variable {E : Type} (P : FadeLoopPlugin E) (emu : Emulator E) {cfg : FadeLoopConfig}

@[simp] theorem fadeLoopRender_pos (st : FadeLoopState) :
    (fadeLoopRender P emu cfg st).2.pos = st.pos + P.bufferFrames := rfl

@[simp] theorem fadeLoopRender_submits (st : FadeLoopState) :
    (fadeLoopRender P emu cfg st).2.submits = st.submits + 1 := rfl

theorem fadeLoopRender_tracks (hlen : cfg.hasLength = true) (hF : 0 ≤ cfg.fadeTotal)
    {st : FadeLoopState} (hst : st.Tracks cfg.lengthFrames cfg.fadeTotal) :
    (fadeLoopRender P emu cfg st).2.Tracks cfg.lengthFrames cfg.fadeTotal := by
  simpa only [FadeLoopState.Tracks, fadeLoopRender, hlen, if_true] using
    P.trackBuffer_tracks hF hst (emu.render st.pos)

theorem fadeLoopRender_done (hlen : cfg.hasLength = true) (hF : 0 ≤ cfg.fadeTotal)
    {st : FadeLoopState} (hst : st.Tracks cfg.lengthFrames cfg.fadeTotal) :
    ((fadeLoopRender P emu cfg st).2.songRemaining ≤ 0 ∧
        (fadeLoopRender P emu cfg st).2.fadeRemaining ≤ 0) ↔
      cfg.lengthFrames + cfg.fadeTotal ≤ st.pos + P.bufferFrames := by
  simpa only [fadeLoopRender, hlen, if_true] using P.trackBuffer_done hF hst (emu.render st.pos)

/-- **A seek puts the counters on track at the target.** -/
theorem fadeLoopSeek_of_renders (hlen : cfg.hasLength = true) (hF : 0 ≤ cfg.fadeTotal)
    (hemu : emu.Renders) (seekMs : UInt32) (st : FadeLoopState) :
    ∃ st', fadeLoopSeek P emu cfg seekMs st = ([.commandFinished], some st') ∧
      st'.pos = seekFrames cfg.sampleRate seekMs ∧ st'.submits = st.submits ∧
      st'.Tracks cfg.lengthFrames cfg.fadeTotal := by
  have hskip : max (cfg.lengthFrames - (cfg.lengthFrames - ↑(seekFrames cfg.sampleRate seekMs)))
      0 = ↑(seekFrames cfg.sampleRate seekMs) := by omega
  have hnone := skipFrames_of_renders hemu st.calls (seekFrames cfg.sampleRate seekMs)
  rcases hs : skipFrames emu st.calls (seekFrames cfg.sampleRate seekMs) with ⟨calls, _ | err⟩
  · simp only [fadeLoopSeek, hlen, if_true, hskip, Int.toNat_ofNat, hs]
    refine ⟨_, rfl, rfl, rfl, ?_⟩
    unfold FadeLoopState.Tracks TracksAt
    dsimp only
    omega
  · rw [hs] at hnone
    cases hnone

end Render

section Refinement

variable {E : Type} {P : FadeLoopPlugin E} {emu : Emulator E} (client : DecoderClient)
  {cfg : FadeLoopConfig} {envelope : (q p : Nat) → Sample → Sample}

/-- **One iteration of the loop is one step of the player**, for an emulator that renders and
a song with a length, from counters on track. -/
theorem fadeLoopStep_refines (hlen : cfg.hasLength = true) (hF : 0 ≤ cfg.fadeTotal)
    (hemu : emu.Renders)
    (hfade : P.FadesAs cfg.lengthFrames cfg.fadeTotal envelope) :
    StepRefines (fadeLoopStep P emu client cfg) ((P.player cfg envelope).step emu.sample client)
      FadeLoopState.toPlayer (FadeLoopState.Tracks cfg.lengthFrames cfg.fadeTotal) := by
  intro st hst
  have hbuf : stereoSpan (fadeLoopRender P emu cfg st).1 P.bufferFrames =
      (P.player cfg envelope).buffer emu.sample st.pos :=
    List.map_congr_left fun j hj => by
      simp only [fadeLoopRender, hlen, if_true]
      exact hfade _ _ _ _ j hst (List.mem_range.mp hj)
  have htracks := fadeLoopRender_tracks P emu hlen hF hst
  simp only [fadeLoopStep, hemu st.calls, hbuf, hlen, true_and,
    fadeLoopRender_done P emu hlen hF hst, FadingPlayer.step, FadeLoopPlugin.player,
    FadeLoopState.toPlayer]
  split
  · exact ⟨rfl, rfl, fun _ h => by cases h⟩
  · cases client.command st.submits with
    | seek =>
      obtain ⟨st', hseek, hpos, hsub, htr⟩ := fadeLoopSeek_of_renders P emu hlen hF hemu
        (client.seekTime st.submits) (fadeLoopRender P emu cfg st).2
      simp only [hseek, Option.map_some', FadeLoopState.toPlayer, hpos, hsub,
        fadeLoopRender_submits]
      exact ⟨trivial, trivial, fun s' h => by cases h; exact htr⟩
    | stop => exact ⟨rfl, rfl, fun _ h => by cases h⟩
    | none | start => exact ⟨rfl, rfl, fun _ h => by cases h; exact htracks⟩

/-- **The loop implements the player.**  For a song with a length and an emulator that
renders, every run of the loop from its start emits what the same number of player steps
from position `0` emits, and is still running exactly when the player is, at the player's
position. -/
theorem fadeLoop_refines (hlen : cfg.hasLength = true) (hL : 0 ≤ cfg.lengthFrames)
    (hF : 0 ≤ cfg.fadeTotal) (hemu : emu.Renders)
    (hfade : P.FadesAs cfg.lengthFrames cfg.fadeTotal envelope) (fuel calls : Nat) :
    (iterate (fadeLoopStep P emu client cfg) fuel (fadeLoopStart cfg calls)).1 =
        (iterate ((P.player cfg envelope).step emu.sample client) fuel ⟨0, 0⟩).1 ∧
      (iterate (fadeLoopStep P emu client cfg) fuel (fadeLoopStart cfg calls)).2.map
          FadeLoopState.toPlayer =
        (iterate ((P.player cfg envelope).step emu.sample client) fuel ⟨0, 0⟩).2 :=
  iterate_refines (fadeLoopStep_refines client hlen hF hemu hfade) fuel _
    (tracksAt_start hL hF)

end Refinement

/-! ## 5. Without a length: the stream player -/

/-- What the loop is for when the song has no length: a player without an end, which submits
the emulator's stream untouched and stops only when the client says so. -/
structure StreamPlayer where
  bufferFrames : Nat
  sampleRate : Nat
deriving DecidableEq, Repr

section Stream

variable (sp : StreamPlayer) (sample : Nat → Sample) (client : DecoderClient)

/-- The buffer the stream player submits at position `q`. -/
def StreamPlayer.buffer (q : Nat) : List Sample :=
  (List.range (2 * sp.bufferFrames)).map fun j => sample (2 * q + j)

/-- One step of the stream player: submit the buffer at the position and obey the client. -/
def StreamPlayer.step (st : PlayerState) : List DecodeEvent × Option PlayerState :=
  let submitted := DecodeEvent.submit (sp.buffer sample st.pos)
  match client.command st.submits with
  | .seek => ([submitted, .commandFinished],
      some ⟨seekFrames sp.sampleRate (client.seekTime st.submits), st.submits + 1⟩)
  | .stop => ([submitted], none)
  | _ => ([submitted], some ⟨st.pos + sp.bufferFrames, st.submits + 1⟩)

/-- Every answer but `STOP` lets the stream player go on, one buffer further. -/
theorem StreamPlayer.step_of_ne_stop {st : PlayerState} (hc : client.command st.submits ≠ .stop) :
    ∃ evs pos, sp.step sample client st = (evs, some ⟨pos, st.submits + 1⟩) := by
  unfold step
  split
  · exact ⟨_, _, rfl⟩
  · contradiction
  · exact ⟨_, _, rfl⟩

/-- **The stream player returns only on `STOP`.**  From any state, a run that has returned
was told to stop by the answer to one of the buffers it submitted. -/
theorem StreamPlayer.stop_of_returned :
    ∀ fuel (st : PlayerState), (iterate (sp.step sample client) fuel st).2 = none →
      ∃ k, st.submits ≤ k ∧ k < st.submits + fuel ∧ client.command k = .stop := by
  intro fuel
  induction fuel with
  | zero => intro st h; cases h
  | succ fuel ih =>
    intro st h
    by_cases hc : client.command st.submits = .stop
    · exact ⟨st.submits, Nat.le_refl _, by omega, hc⟩
    obtain ⟨evs, pos, hstep⟩ := sp.step_of_ne_stop sample client hc
    rw [iterate_succ_of_continue fuel hstep] at h
    obtain ⟨k, hk, hk', hs⟩ := ih _ h
    exact ⟨k, by dsimp only at hk; omega, by dsimp only at hk'; omega, hs⟩

/-- **A loop that implements the stream player returns only on `STOP`**: a run from a state
before any buffer that has returned was told to stop by the answer to one of its buffers. -/
theorem StreamPlayer.stop_of_refines {σ : Type} {body : σ → List DecodeEvent × Option σ}
    {abs : σ → PlayerState} (h : StepRefines body (sp.step sample client) abs fun _ => True)
    {s : σ} (h0 : (abs s).submits = 0) (fuel : Nat) (hs : (iterate body fuel s).2 = none) :
    ∃ k, k < fuel ∧ client.command k = .stop := by
  have hrun := (iterate_refines h fuel s trivial).2
  rw [hs, Option.map_none'] at hrun
  obtain ⟨k, -, hk, hstop⟩ := sp.stop_of_returned sample client fuel _ hrun.symm
  exact ⟨k, by omega, hstop⟩

end Stream

section StreamRefinement

variable {E : Type} (P : FadeLoopPlugin E) (emu : Emulator E) (client : DecoderClient)
  {cfg : FadeLoopConfig}

/-- The stream player a plugin's loop implements for constants without a length. -/
def FadeLoopPlugin.streamPlayer (cfg : FadeLoopConfig) : StreamPlayer :=
  ⟨P.bufferFrames, cfg.sampleRate⟩

/-- Without a length, a seek skips to the target and the loop goes on from there. -/
theorem fadeLoopSeek_of_untimed (hlen : cfg.hasLength = false) (hemu : emu.Renders)
    (seekMs : UInt32) (st : FadeLoopState) :
    ∃ st', fadeLoopSeek P emu cfg seekMs st = ([.commandFinished], some st') ∧
      st'.pos = seekFrames cfg.sampleRate seekMs ∧ st'.submits = st.submits := by
  have hnone := skipFrames_of_renders hemu st.calls (seekFrames cfg.sampleRate seekMs)
  rcases hs : skipFrames emu st.calls (seekFrames cfg.sampleRate seekMs) with ⟨calls, _ | err⟩
  · simp only [fadeLoopSeek, hlen, hs, Bool.false_eq_true, ↓reduceIte]
    exact ⟨_, rfl, rfl, rfl⟩
  · rw [hs] at hnone
    cases hnone

/-- **Without a length, one iteration of the loop is one step of the stream player**, for an
emulator that renders, from any state. -/
theorem fadeLoopStep_refines_stream (hlen : cfg.hasLength = false) (hemu : emu.Renders) :
    StepRefines (fadeLoopStep P emu client cfg) ((P.streamPlayer cfg).step emu.sample client)
      FadeLoopState.toPlayer (fun _ => True) := by
  intro st _
  have hbuf : stereoSpan (fadeLoopRender P emu cfg st).1 P.bufferFrames =
      (P.streamPlayer cfg).buffer emu.sample st.pos := by
    simp only [fadeLoopRender, hlen, Bool.false_eq_true, ↓reduceIte]
    rfl
  simp only [fadeLoopStep, hemu st.calls, hbuf, hlen, Bool.false_eq_true, false_and,
    ↓reduceIte, StreamPlayer.step, FadeLoopState.toPlayer]
  cases client.command st.submits with
  | seek =>
    obtain ⟨st', hseek, hpos, hsub⟩ := fadeLoopSeek_of_untimed P emu hlen hemu
      (client.seekTime st.submits) (fadeLoopRender P emu cfg st).2
    simp only [hseek, Option.map_some', FadeLoopState.toPlayer, hpos, hsub,
      fadeLoopRender_submits]
    exact ⟨trivial, rfl, fun _ _ => trivial⟩
  | stop => exact ⟨rfl, rfl, nofun⟩
  | none | start => exact ⟨rfl, rfl, fun _ _ => trivial⟩

/-- **Without a length, the loop implements the stream player.**  For an emulator that
renders, every run of the loop from its start emits what the same number of stream-player
steps from position `0` emits, and is still running exactly when the player is, at the
player's position. -/
theorem fadeLoop_refines_stream (hlen : cfg.hasLength = false) (hemu : emu.Renders)
    (fuel calls : Nat) :
    (iterate (fadeLoopStep P emu client cfg) fuel (fadeLoopStart cfg calls)).1 =
        (iterate ((P.streamPlayer cfg).step emu.sample client) fuel ⟨0, 0⟩).1 ∧
      (iterate (fadeLoopStep P emu client cfg) fuel (fadeLoopStart cfg calls)).2.map
          FadeLoopState.toPlayer =
        (iterate ((P.streamPlayer cfg).step emu.sample client) fuel ⟨0, 0⟩).2 :=
  iterate_refines (fadeLoopStep_refines_stream P emu client hlen hemu) fuel _ trivial

end StreamRefinement

end Vgmpd
