/-
# lazyusf: the fade, and where its arithmetic breaks

`lazyusf_file_decode` runs the shared fade loop with `1024`-frame buffers and its own
`ApplyFade`, which fades the frames from `start_frame` on by `fade_remaining - offset` over
`fade_total` and silences a frame once the fade has run out.  At a tracked position that is a
plain envelope of the position (`usfEnvelope`): the sample before the body's end `L`, and
`FadeUSFSample(x, L + F - p, F)` from there on (`fadeLoopPlugin_fadesAs`).  So the decoder is
the fading player with that envelope (`lazyusfFileDecode_refines`), and the bookkeeping of
`song_remaining`, `fade_remaining`, `fade_start` and the seek recomputation is right for every
length, fade, alignment and seek.

What remains is the arithmetic of `FadeUSFSample`: `sample * numerator` is an `int64_t`
product with a numerator up to `F`, which reaches `2^52` for the largest fade tag at the
largest configurable rates.  Up to `F = 2^48` it cannot overflow, and the decoder plays the
intended fade exactly (`lazyusfFileDecode_fades`).  Beyond, the product wraps:
`lazyusfFileDecode_overflows` exhibits a configured rate and fade tag for which the first frame
of the fade comes out as `766` instead of the rendered `32767`.

A file without a length is not faded at all: the decoder is the stream player
(`lazyusfFileDecode_streams`), which submits the stream as rendered and returns only on `STOP`,
whatever the fade tag says.  All of this once MPD's format check accepts the render rate; a
rate it rejects ends the decode before `Ready`.

Without resampling, `usf_render` writes the native rate at every call.  The decode above takes
the rate the probe reports; `lazyusfFileDecodeNative` takes a rate per call, and
`lazyusfFileDecodeNative_eq` shows that the two differ only when the native rate changes and
the client seeks, since `render_rate` is read again only to convert a seek target.
-/
import Vgmpd.Plugins.FadeLoop
import Vgmpd.Plugins.Duration

namespace Vgmpd

/-! ## 1. `ApplyFade` and the decode -/

/-- `FadeUSFSample` of `LazyusfDecoderPlugin.cxx`. -/
def Lazyusf.fadeUSFSample (sample : Sample) (numerator denominator : Int) : Sample :=
  fadeSample sample numerator denominator

/-- `ApplyFade` of `LazyusfDecoderPlugin.cxx`: the loop over the frames `i` from `start_frame`
to `frames` writes each sample of frame `i` once, from its own old value: silence when the fade
is empty or has run out at `i`, else the sample faded by `fade_remaining - (i - start_frame)`
over `fade_total`.  Sample `idx` belongs to frame `idx / channels`. -/
def Lazyusf.applyFade (buf : Buffer) (frames : Int) (channels : Nat)
    (startFrame fadeRemaining fadeTotal : Int) : Buffer := fun idx =>
  let i : Int := (idx / channels : Nat)
  if frames ≤ startFrame ∨ channels = 0 ∨ i < startFrame ∨ frames ≤ i then buf idx
  else
    let remaining := fadeRemaining - (i - startFrame)
    if fadeTotal ≤ 0 ∨ remaining ≤ 0 then Sample.zero
    else Lazyusf.fadeUSFSample (buf idx) remaining fadeTotal

/-- The lazyusf instance of the shared loop: `LAZYUSF_BUFFER_FRAMES = 1024`,
`LAZYUSF_CHANNELS = 2`, and the library's error text logged as it is, by the loop for a
failed render and by `SkipFrames` for a failed skip. -/
def Lazyusf.fadeLoopPlugin : FadeLoopPlugin String where
  bufferFrames := 1024
  bufferFrames_pos := by decide
  applyFade buf fadeStart fadeRemaining fadeTotal :=
    Lazyusf.applyFade buf 1024 2 fadeStart fadeRemaining fadeTotal
  renderWarning err := err
  skipWarning err := err

@[simp] theorem Lazyusf.fadeLoopPlugin_bufferFrames : Lazyusf.fadeLoopPlugin.bufferFrames = 1024 :=
  rfl

/-- `render_rate`: the configured rate when the plugin resamples (`configured_sample_rate > 0`),
else the native rate `usf_render` reports. -/
def Lazyusf.renderRate (configuredSampleRate nativeRate : Int) : Int :=
  if configuredSampleRate > 0 then configuredSampleRate else nativeRate

/-- `has_length`, `length_frames`, `fade_total` and the rate, as `lazyusf_file_decode`
computes them from the tags and the render rate. -/
def Lazyusf.loopConfig (holder : Lazyusf.LazyUSFTagHolder) (renderRate : Int) : FadeLoopConfig where
  hasLength := holder.lengthMs > 0
  lengthFrames := if holder.lengthMs > 0 then holder.lengthMs.toNat * renderRate / 1000 else 0
  fadeTotal := holder.fadeMs.toNat * renderRate / 1000
  sampleRate := renderRate.toNat

/-- `lazyusf_file_decode` from the loaded file on, run for `fuel` iterations of its loop.
Without resampling it first renders zero frames to learn the native rate; a failure there is
logged and ends the decode, and so does a rate that is not positive.  `CheckAudioFormat` on
the rate follows, whose throw ends the decode too; the decode then calls `Ready` and enters
the loop. -/
def Lazyusf.lazyusfFileDecode (fuel : Nat) (holder : Lazyusf.LazyUSFTagHolder)
    (configuredSampleRate nativeRate : Int) (emu : Emulator String) (client : DecoderClient) :
    List DecodeEvent × Option FadeLoopState :=
  let resample := decide (configuredSampleRate > 0)
  match (if resample then none else emu.renderError 0) with
  | some err => ([.warning err], none)
  | none =>
    let rate := Lazyusf.renderRate configuredSampleRate nativeRate
    if rate ≤ 0 then ([.warning "invalid sample rate"], none)
    else if client.acceptsSampleRate rate.toNat then
      let cfg := Lazyusf.loopConfig holder rate
      let r := iterate (fadeLoopStep Lazyusf.fadeLoopPlugin emu client cfg) fuel
        (fadeLoopStart cfg (if resample then 0 else 1))
      (.ready rate.toNat cfg.hasLength (Lazyusf.reportedDurationMS holder) :: r.1, r.2)
    else ([.invalidAudioFormat rate.toNat], none)

/-! ## 2. The envelope lazyusf applies -/

/-- What lazyusf submits for sample `x` of the frame at position `p`: `x` before the body's
end `L`, and `FadeUSFSample(x, L + F - p, F)` from there on. -/
def Lazyusf.usfEnvelope (L F : Int) (_q p : Nat) (x : Sample) : Sample :=
  if p < L then x else Lazyusf.fadeUSFSample x (L + F - p) F

/-- `ApplyFade` on a whole `1024`-frame stereo buffer, sample by sample. -/
theorem Lazyusf.applyFade_apply {buf : Buffer} {start rem total : Int} {j : Nat}
    (hj : j < 2048) :
    Lazyusf.applyFade buf 1024 2 start rem total j =
      if ((j / 2 : Nat) : Int) < start then buf j
      else Lazyusf.fadeUSFSample (buf j) (rem - ((j / 2 : Nat) - start)) total := by
  unfold applyFade
  dsimp only
  by_cases hlt : ((j / 2 : Nat) : Int) < start
  · rw [if_pos (Or.inr (Or.inr (Or.inl hlt))), if_pos hlt]
  · rw [if_neg (by omega), if_neg hlt]
    split
    · rename_i h
      rcases h with h | h
      · exact (fadeSample_of_den_nonpos _ h).symm
      · exact (fadeSample_of_nonpos _ h).symm
    · rfl

/-- **lazyusf's `ApplyFade` is its envelope** at every tracked position. -/
theorem Lazyusf.fadeLoopPlugin_fadesAs (L F : Int) :
    Lazyusf.fadeLoopPlugin.FadesAs L F (Lazyusf.usfEnvelope L F) := by
  intro q song fade raw j htr hj
  replace hj : j < 2048 := hj
  unfold TracksAt at htr
  simp only [FadeLoopPlugin.trackBuffer, fadeLoopPlugin, usfEnvelope]
  by_cases hsong : song ≤ ((1024 : Nat) : Int)
  · rw [if_pos hsong]
    show applyFade raw 1024 2 (max song 0) fade F j = _
    rw [applyFade_apply hj]
    exact if_congr (by omega) rfl (fadeSample_congr_num F (by omega))
  · rw [if_neg hsong]
    exact (if_pos (by omega)).symm

/-! ## 3. lazyusf is the fading player -/

section Refinement

variable (fuel : Nat) (holder : Lazyusf.LazyUSFTagHolder) (configuredSampleRate nativeRate : Int)
  {emu : Emulator String} (client : DecoderClient)

/-- The fading player lazyusf implements, with the envelope `envelope`. -/
def Lazyusf.player (rate : Int) (envelope : Int → Int → (q p : Nat) → Sample → Sample) :
    FadingPlayer :=
  Lazyusf.fadeLoopPlugin.player (Lazyusf.loopConfig holder rate)
    (envelope (Lazyusf.loopConfig holder rate).lengthFrames
      (Lazyusf.loopConfig holder rate).fadeTotal)

/-- For a positive render rate that MPD accepts and an emulator that renders, the probe passes
and the decode is `Ready` and the loop from its start. -/
theorem Lazyusf.lazyusfFileDecode_of_renders
    (hrate : 0 < Lazyusf.renderRate configuredSampleRate nativeRate) (hemu : emu.Renders)
    (hfmt : client.acceptsSampleRate (Lazyusf.renderRate configuredSampleRate nativeRate).toNat) :
    Lazyusf.lazyusfFileDecode fuel holder configuredSampleRate nativeRate emu client =
      let rate := Lazyusf.renderRate configuredSampleRate nativeRate
      let cfg := Lazyusf.loopConfig holder rate
      let r := iterate (fadeLoopStep Lazyusf.fadeLoopPlugin emu client cfg) fuel
        (fadeLoopStart cfg (if decide (configuredSampleRate > 0) = true then 0 else 1))
      (.ready rate.toNat cfg.hasLength (Lazyusf.reportedDurationMS holder) :: r.1, r.2) := by
  have hprobe : (if decide (configuredSampleRate > 0) = true then none else emu.renderError 0) =
      (none : Option String) := by
    split <;> simp [hemu 0]
  unfold lazyusfFileDecode
  simp only [hprobe]
  rw [if_neg (by omega), if_pos hfmt]

/-- **lazyusf implements the fading player with its envelope.**  For a file with a length, a
positive render rate and an emulator that renders, the decode calls `Ready` and then emits
exactly what the player emits, for every client and every number of iterations. -/
theorem Lazyusf.lazyusfFileDecode_refines (hlen : holder.lengthMs > 0)
    (hrate : 0 < Lazyusf.renderRate configuredSampleRate nativeRate) (hemu : emu.Renders)
    (hfmt : client.acceptsSampleRate (Lazyusf.renderRate configuredSampleRate nativeRate).toNat) :
    (Lazyusf.lazyusfFileDecode fuel holder configuredSampleRate nativeRate emu client).1 =
        .ready (Lazyusf.renderRate configuredSampleRate nativeRate).toNat true
            (Lazyusf.reportedDurationMS holder) ::
          (iterate ((Lazyusf.player holder (Lazyusf.renderRate configuredSampleRate nativeRate)
            Lazyusf.usfEnvelope).step emu.sample client) fuel ⟨0, 0⟩).1 ∧
      (Lazyusf.lazyusfFileDecode fuel holder configuredSampleRate nativeRate emu client).2.map
          FadeLoopState.toPlayer =
        (iterate ((Lazyusf.player holder (Lazyusf.renderRate configuredSampleRate nativeRate)
          Lazyusf.usfEnvelope).step emu.sample client) fuel ⟨0, 0⟩).2 := by
  have hcfg : (Lazyusf.loopConfig holder
      (Lazyusf.renderRate configuredSampleRate nativeRate)).hasLength = true := by
    simp [loopConfig, hlen]
  have hL : 0 ≤ (Lazyusf.loopConfig holder
      (Lazyusf.renderRate configuredSampleRate nativeRate)).lengthFrames := by
    simp only [loopConfig, hlen, if_true]
    exact Int.ediv_nonneg (Int.mul_nonneg (by omega) (by omega)) (by decide)
  have hF : 0 ≤ (Lazyusf.loopConfig holder
      (Lazyusf.renderRate configuredSampleRate nativeRate)).fadeTotal :=
    Int.ediv_nonneg (Int.mul_nonneg (by omega) (by omega)) (by decide)
  have h := fadeLoop_refines client hcfg hL hF hemu (fadeLoopPlugin_fadesAs _ _) fuel
    (if decide (configuredSampleRate > 0) = true then 0 else 1)
  rw [lazyusfFileDecode_of_renders fuel holder configuredSampleRate nativeRate client hrate hemu
    hfmt]
  dsimp only
  rw [hcfg]
  exact ⟨congrArg _ h.1, h.2⟩

/-- Without overflow lazyusf's envelope is the intended fade. -/
theorem Lazyusf.usfEnvelope_eq_fadeEnvelope (L : Int) {F : Int} (hF : F ≤ 2 ^ 48) (q p : Nat)
    (x : Sample) : Lazyusf.usfEnvelope L F q p x = fadeEnvelope L F p x := by
  unfold usfEnvelope fadeEnvelope fadeUSFSample
  by_cases hb : (p : Int) < L
  · rw [if_pos hb, dif_pos hb]
  · rw [if_neg hb, dif_neg hb]
    by_cases hf : (p : Int) < L + F
    · rw [dif_pos hf]
      exact Sample.ext (fadeSample_val (by omega) (by omega) hF)
    · rw [dif_neg hf, fadeSample_of_nonpos F (by omega)]

/-- **lazyusf plays the intended fade while `F ≤ 2^48`.**  For a file with a length, a positive
render rate, an emulator that renders and at most `2^48` frames of fade, the decode calls
`Ready` and then emits exactly what the fading player with the intended envelope
`fadeEnvelope` emits, for every client and every number of iterations: the body as rendered,
the fade ramped down linearly, silence after it, and `max 1 ⌈(L + F - s) / 1024⌉` buffers
after a start or seek at `s` when the client lets it play (`FadingPlayer.iterate_plays`). -/
theorem Lazyusf.lazyusfFileDecode_fades (hlen : holder.lengthMs > 0)
    (hrate : 0 < Lazyusf.renderRate configuredSampleRate nativeRate) (hemu : emu.Renders)
    (hF : (Lazyusf.loopConfig holder (Lazyusf.renderRate configuredSampleRate nativeRate)).fadeTotal
      ≤ 2 ^ 48)
    (hfmt : client.acceptsSampleRate (Lazyusf.renderRate configuredSampleRate nativeRate).toNat) :
    (Lazyusf.lazyusfFileDecode fuel holder configuredSampleRate nativeRate emu client).1 =
        .ready (Lazyusf.renderRate configuredSampleRate nativeRate).toNat true
            (Lazyusf.reportedDurationMS holder) ::
          (iterate ((Lazyusf.player holder (Lazyusf.renderRate configuredSampleRate nativeRate)
            fun L F _ p x => fadeEnvelope L F p x).step emu.sample client) fuel ⟨0, 0⟩).1 ∧
      (Lazyusf.lazyusfFileDecode fuel holder configuredSampleRate nativeRate emu client).2.map
          FadeLoopState.toPlayer =
        (iterate ((Lazyusf.player holder (Lazyusf.renderRate configuredSampleRate nativeRate)
          fun L F _ p x => fadeEnvelope L F p x).step emu.sample client) fuel ⟨0, 0⟩).2 := by
  have henv : Lazyusf.usfEnvelope
      (Lazyusf.loopConfig holder (Lazyusf.renderRate configuredSampleRate nativeRate)).lengthFrames
      (Lazyusf.loopConfig holder (Lazyusf.renderRate configuredSampleRate nativeRate)).fadeTotal =
        fun _ p x => fadeEnvelope _ _ p x :=
    funext fun q => funext fun p => funext fun x => usfEnvelope_eq_fadeEnvelope _ hF q p x
  have h := lazyusfFileDecode_refines fuel holder configuredSampleRate nativeRate client hlen hrate
    hemu hfmt
  rwa [player, henv] at h

/-- The tags of a one-second song with a one-second fade. -/
def Lazyusf.oneSecondHolder : Lazyusf.LazyUSFTagHolder := ⟨1000, 1000⟩

/-- A one-second song with a one-second fade, resampled to `44100` Hz (`F = 44100`). -/
theorem Lazyusf.oneSecondHolder_fades :
    Lazyusf.oneSecondHolder.lengthMs > 0 ∧ 0 < Lazyusf.renderRate 44100 0 ∧
      (Emulator.constant Sample.int16Max : Emulator String).Renders ∧
      (Lazyusf.loopConfig Lazyusf.oneSecondHolder (Lazyusf.renderRate 44100 0)).fadeTotal ≤
        2 ^ 48 ∧
      DecoderClient.playing.acceptsSampleRate (Lazyusf.renderRate 44100 0).toNat ∧
      ((Lazyusf.lazyusfFileDecode 3 Lazyusf.oneSecondHolder 44100 0
          (Emulator.constant Sample.int16Max) DecoderClient.playing).1 =
          .ready (Lazyusf.renderRate 44100 0).toNat true
              (Lazyusf.reportedDurationMS Lazyusf.oneSecondHolder) ::
            (iterate ((Lazyusf.player Lazyusf.oneSecondHolder (Lazyusf.renderRate 44100 0)
              fun L F _ p x => fadeEnvelope L F p x).step
                (Emulator.constant Sample.int16Max : Emulator String).sample
                DecoderClient.playing) 3 ⟨0, 0⟩).1 ∧
        (Lazyusf.lazyusfFileDecode 3 Lazyusf.oneSecondHolder 44100 0
            (Emulator.constant Sample.int16Max) DecoderClient.playing).2.map
            FadeLoopState.toPlayer =
          (iterate ((Lazyusf.player Lazyusf.oneSecondHolder (Lazyusf.renderRate 44100 0)
            fun L F _ p x => fadeEnvelope L F p x).step
              (Emulator.constant Sample.int16Max : Emulator String).sample
              DecoderClient.playing) 3 ⟨0, 0⟩).2) :=
  ⟨by decide, by decide, Emulator.constant_renders _, by decide, by decide,
    Lazyusf.lazyusfFileDecode_fades 3 Lazyusf.oneSecondHolder 44100 0 DecoderClient.playing
      (by decide) (by decide) (Emulator.constant_renders _) (by decide) (by decide)⟩

/-- The stream player lazyusf implements at the render rate `rate` for a file without a
length. -/
def Lazyusf.streamPlayer (rate : Int) : StreamPlayer :=
  ⟨Lazyusf.fadeLoopPlugin.bufferFrames, rate.toNat⟩

/-- **Without a length, lazyusf plays the emulator's stream until the client stops it.**  For a
file whose tags give no length, a positive render rate and an emulator that renders, the
decode calls `Ready` without a length and then emits exactly what the stream player emits, for
every client and every number of iterations: the stream's buffers with no fade, and a `SEEK`
to `t` acknowledged with the stream restarted at `⌊t · r / 1000⌋`.  And it returns only after
the client has answered a buffer with `STOP`. -/
theorem Lazyusf.lazyusfFileDecode_streams (hlen : holder.lengthMs = 0)
    (hrate : 0 < Lazyusf.renderRate configuredSampleRate nativeRate) (hemu : emu.Renders)
    (hfmt : client.acceptsSampleRate (Lazyusf.renderRate configuredSampleRate nativeRate).toNat) :
    (Lazyusf.lazyusfFileDecode fuel holder configuredSampleRate nativeRate emu client).1 =
        .ready (Lazyusf.renderRate configuredSampleRate nativeRate).toNat false
            (Lazyusf.reportedDurationMS holder) ::
          (iterate ((Lazyusf.streamPlayer (Lazyusf.renderRate configuredSampleRate
            nativeRate)).step emu.sample client) fuel ⟨0, 0⟩).1 ∧
      (Lazyusf.lazyusfFileDecode fuel holder configuredSampleRate nativeRate emu client).2.map
          FadeLoopState.toPlayer =
        (iterate ((Lazyusf.streamPlayer (Lazyusf.renderRate configuredSampleRate
          nativeRate)).step emu.sample client) fuel ⟨0, 0⟩).2 ∧
      ((Lazyusf.lazyusfFileDecode fuel holder configuredSampleRate nativeRate emu client).2 =
          none → ∃ k, k < fuel ∧ client.command k = .stop) := by
  have hcfg : (Lazyusf.loopConfig holder
      (Lazyusf.renderRate configuredSampleRate nativeRate)).hasLength = false := by
    simp [loopConfig, hlen]
  have h := fadeLoop_refines_stream Lazyusf.fadeLoopPlugin emu client hcfg hemu fuel
    (if decide (configuredSampleRate > 0) = true then 0 else 1)
  rw [lazyusfFileDecode_of_renders fuel holder configuredSampleRate nativeRate client hrate hemu
    hfmt]
  dsimp only
  rw [hcfg]
  exact ⟨congrArg _ h.1, h.2, StreamPlayer.stop_of_refines _ emu.sample client
    (fadeLoopStep_refines_stream _ emu client hcfg hemu) (by rfl) fuel⟩

/-- A file without a length, with a fade tag of `5` s, resampled to `44100` Hz and played for
two iterations. -/
theorem Lazyusf.untimedUsf_streams :
    (⟨0, 5000⟩ : Lazyusf.LazyUSFTagHolder).lengthMs = 0 ∧ 0 < Lazyusf.renderRate 44100 0 ∧
      (Emulator.constant Sample.zero : Emulator String).Renders ∧
      DecoderClient.playing.acceptsSampleRate (Lazyusf.renderRate 44100 0).toNat ∧
      (Lazyusf.lazyusfFileDecode 2 ⟨0, 5000⟩ 44100 0 (Emulator.constant Sample.zero)
          DecoderClient.playing).1 =
        .ready (Lazyusf.renderRate 44100 0).toNat false (Lazyusf.reportedDurationMS ⟨0, 5000⟩) ::
          (iterate ((Lazyusf.streamPlayer (Lazyusf.renderRate 44100 0)).step
            (Emulator.constant Sample.zero : Emulator String).sample DecoderClient.playing) 2
            ⟨0, 0⟩).1 ∧
      (Lazyusf.lazyusfFileDecode 2 ⟨0, 5000⟩ 44100 0 (Emulator.constant Sample.zero)
          DecoderClient.playing).2.map FadeLoopState.toPlayer =
        (iterate ((Lazyusf.streamPlayer (Lazyusf.renderRate 44100 0)).step
          (Emulator.constant Sample.zero : Emulator String).sample DecoderClient.playing) 2
          ⟨0, 0⟩).2 ∧
      ((Lazyusf.lazyusfFileDecode 2 ⟨0, 5000⟩ 44100 0 (Emulator.constant Sample.zero)
          DecoderClient.playing).2 = none →
        ∃ k, k < 2 ∧ DecoderClient.playing.command k = .stop) :=
  ⟨rfl, by decide, Emulator.constant_renders _, by decide,
    Lazyusf.lazyusfFileDecode_streams 2 ⟨0, 5000⟩ 44100 0 DecoderClient.playing rfl (by decide)
      (Emulator.constant_renders _) (by decide)⟩

end Refinement

/-! ## 4. A fade long enough to overflow -/

/-- The tags of a one-millisecond song with the longest fade a tag can give: length
`"0.001"`, fade `"4294967.295"`. -/
def Lazyusf.longFadeHolder : Lazyusf.LazyUSFTagHolder :=
  ⟨Lazyusf.parseUSFTimeMS "0.001".toList, Lazyusf.parseUSFTimeMS "4294967.295".toList⟩

/-- **The fade product overflows.**  Resampled to a configured rate of `134217728` Hz, the tags
of `longFadeHolder` give `L = 134217` frames of body and `F = 576460752169205 > 2^48` frames of
fade.  With an emulator that renders `INT16_MAX` throughout and a client that lets it play,
the `132`nd buffer starts at frame `131 * 1024 = 134144`, so its sample `146` is the left
channel of frame `134217 = L`, the first frame of the fade.  The intended fade leaves it at
`32767`; lazyusf submits `766`, because `32767 * F` wraps in `int64_t`. -/
theorem Lazyusf.lazyusfFileDecode_overflows :
    (Lazyusf.loopConfig Lazyusf.longFadeHolder 134217728).lengthFrames = 134217 ∧
      (Lazyusf.loopConfig Lazyusf.longFadeHolder 134217728).fadeTotal = 576460752169205 ∧
      (∃ b, (Lazyusf.lazyusfFileDecode 132 Lazyusf.longFadeHolder 134217728 0
          (Emulator.constant Sample.int16Max) DecoderClient.playing).1[132]? = some (.submit b) ∧
        b[146]?.map Sample.val = some 766) ∧
      (fadeEnvelope 134217 576460752169205 134217 Sample.int16Max).val = 32767 := by
  have hL : (Lazyusf.loopConfig Lazyusf.longFadeHolder 134217728).lengthFrames = 134217 := by
    decide
  have hF : (Lazyusf.loopConfig Lazyusf.longFadeHolder 134217728).fadeTotal =
      576460752169205 := by
    decide
  refine ⟨hL, hF, ?_, by decide⟩
  rw [(lazyusfFileDecode_refines 132 longFadeHolder 134217728 0 DecoderClient.playing (by decide)
    (by decide) (Emulator.constant_renders _) (by decide)).1,
    FadingPlayer.iterate_plays _ _ _ (by decide) 132 ⟨0, 0⟩ (DecoderClient.playing_plays 0),
    show Lazyusf.renderRate 134217728 0 = 134217728 from rfl]
  dsimp only
  have hmin : min 132 ((Lazyusf.player Lazyusf.longFadeHolder 134217728
      Lazyusf.usfEnvelope).buffersFrom 0) = 132 := by
    decide
  refine ⟨(Lazyusf.player Lazyusf.longFadeHolder 134217728 Lazyusf.usfEnvelope).buffer
    (Emulator.constant Sample.int16Max : Emulator String).sample (131 * 1024), ?_, ?_⟩
  · simp only [hmin, List.getElem?_cons_succ, List.getElem?_map,
      List.getElem?_range (by decide : 131 < 132), Option.map_some']
    rfl
  simp only [FadingPlayer.buffer, player, FadeLoopPlugin.player, fadeLoopPlugin_bufferFrames,
    List.getElem?_map, List.getElem?_range (by decide : 146 < 2 * 1024), Option.map_some', hL, hF]
  decide

/-! ## 5. The native rate -/

/-- `lazyusf_file_decode` from the loaded file on, with the rate `usf_render` writes through
its `rate` argument at every call: `nativeRate n` at the `n`-th render call, the zero-frame
probe being call `0`.  `Ready`, `length_frames` and `fade_total` keep the probe's rate.
`render_rate` is read again only by a seek, right after the iteration's render call wrote it,
so the seek of the iteration at call `n` converts its target with `nativeRate n`. -/
def Lazyusf.lazyusfFileDecodeNative (fuel : Nat) (holder : Lazyusf.LazyUSFTagHolder)
    (configuredSampleRate : Int) (nativeRate : Nat → Int) (emu : Emulator String)
    (client : DecoderClient) : List DecodeEvent × Option FadeLoopState :=
  let resample := decide (configuredSampleRate > 0)
  match (if resample then none else emu.renderError 0) with
  | some err => ([.warning err], none)
  | none =>
    let rate := Lazyusf.renderRate configuredSampleRate (nativeRate 0)
    if rate ≤ 0 then ([.warning "invalid sample rate"], none)
    else if client.acceptsSampleRate rate.toNat then
      let cfg := Lazyusf.loopConfig holder rate
      let r := iterate (fun st => fadeLoopStep Lazyusf.fadeLoopPlugin emu client
          { cfg with sampleRate := (Lazyusf.renderRate configuredSampleRate
            (nativeRate st.calls)).toNat } st)
        fuel (fadeLoopStart cfg (if resample then 0 else 1))
      (.ready rate.toNat cfg.hasLength (Lazyusf.reportedDurationMS holder) :: r.1, r.2)
    else ([.invalidAudioFormat rate.toNat], none)

/-- The shared loop reads the rate only to convert a seek target. -/
theorem fadeLoopStep_sampleRate {E : Type} (P : FadeLoopPlugin E) (emu : Emulator E)
    (client : DecoderClient) (cfg : FadeLoopConfig) (r : Nat) (st : FadeLoopState)
    (h : client.command st.submits ≠ .seek) :
    fadeLoopStep P emu client { cfg with sampleRate := r } st =
      fadeLoopStep P emu client cfg st := by
  unfold fadeLoopStep
  rw [show fadeLoopRender P emu { cfg with sampleRate := r } st = fadeLoopRender P emu cfg st
    from rfl]
  rcases hc : client.command st.submits
  all_goals first | exact absurd hc h | rfl

/-- **The decode at a fixed rate is exact unless the native rate changes under a seek.**  When
the plugin resamples, when the library's native rate never changes, or when the client never
seeks, the decode with the rates the library reports is the decode at the probe's rate, so
every result above holds of it.  A change of the native rate after the probe reaches nothing
but the conversion of a seek target: `Ready`, the counters and the submitted buffers keep the
probe's rate. -/
theorem Lazyusf.lazyusfFileDecodeNative_eq (fuel : Nat) (holder : Lazyusf.LazyUSFTagHolder)
    (configuredSampleRate : Int) (nativeRate : Nat → Int) (emu : Emulator String)
    (client : DecoderClient)
    (h : configuredSampleRate > 0 ∨ (∀ n, nativeRate n = nativeRate 0) ∨
      ∀ n, client.command n ≠ .seek) :
    Lazyusf.lazyusfFileDecodeNative fuel holder configuredSampleRate nativeRate emu client =
      Lazyusf.lazyusfFileDecode fuel holder configuredSampleRate (nativeRate 0) emu client := by
  have hbody : (fun st : FadeLoopState => fadeLoopStep Lazyusf.fadeLoopPlugin emu client
      { Lazyusf.loopConfig holder (Lazyusf.renderRate configuredSampleRate (nativeRate 0)) with
        sampleRate := (Lazyusf.renderRate configuredSampleRate (nativeRate st.calls)).toNat } st) =
      fadeLoopStep Lazyusf.fadeLoopPlugin emu client
        (Lazyusf.loopConfig holder (Lazyusf.renderRate configuredSampleRate (nativeRate 0))) := by
    funext st
    rcases h with hc | hconst | hseek
    · simp only [renderRate, if_pos hc]
      rfl
    · rw [hconst st.calls]
      rfl
    · exact fadeLoopStep_sampleRate _ _ _ _ _ st (hseek _)
  unfold lazyusfFileDecodeNative lazyusfFileDecode
  dsimp only
  rw [hbody]

/-- A library whose native rate climbs by one at every call, under a client that never seeks:
the decode is the one at the probe's `32000` Hz. -/
theorem Lazyusf.playingThroughRateChanges :
    (∀ n, DecoderClient.playing.command n ≠ .seek) ∧
      Lazyusf.lazyusfFileDecodeNative 3 Lazyusf.oneSecondHolder 0 (fun n => 32000 + n)
          (Emulator.constant Sample.int16Max) DecoderClient.playing =
        Lazyusf.lazyusfFileDecode 3 Lazyusf.oneSecondHolder 0 32000
          (Emulator.constant Sample.int16Max) DecoderClient.playing :=
  ⟨fun n => (DecoderClient.playing_plays 0 n n.zero_le).1,
    Lazyusf.lazyusfFileDecodeNative_eq _ _ _ _ _ _
      (.inr (.inr fun n => (DecoderClient.playing_plays 0 n n.zero_le).1))⟩

end Vgmpd
