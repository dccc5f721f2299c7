/-
# lazygsf: the fade counted from the wrong end

`gsf_file_decode` runs the shared fade loop with `2048`-frame buffers, but its `ApplyFade`
differs from lazyusf's in two ways.  It fades every frame of the buffer it is given, not only
those from `offset_frames` on, and it counts a frame's distance into the fade as
`offset_frames + i` where the fade starts at `offset_frames`: the numerator of frame `i` is
`fade_remaining - offset_frames - i` instead of `fade_remaining - (i - offset_frames)`.  And
for an empty fade it returns without touching the buffer, so nothing past the body is
silenced.

`gsfEnvelope` is what this amounts to at a tracked position: in the buffer where the body ends
(the buffer starting at `q` with `L - 2048 ≤ q ≤ L`), frame `p` is faded by
`F - (L - q) - (p - q)`, which puts the body's last frames into the fade and runs the fade out
`2 (L - q)` frames early; later buffers are faded correctly.  lazygsf is the fading player
with that envelope (`gsfFileDecode_refines`): its bookkeeping, and so its buffer count, is the
shared one.  `gsfFileDecode_fades_body` runs it on a song of `441` frames of body and `441` of
fade: the one buffer it submits is silent from its first frame, which lies in the body.
With a length it returns after exactly `max 1 ⌈(L + F) / 2048⌉` buffers when the client lets
it play (`gsfFileDecode_returns`).  Without a length lazygsf is the stream player instead
(`gsfFileDecode_streams`): no fade, and no end but the client's `STOP`.  All of this once MPD's
format check accepts the rate; a rate it rejects ends the decode before `Ready`.
-/
import Vgmpd.Plugins.FadeLoop
import Vgmpd.Plugins.Duration

namespace Vgmpd

/-! ## 1. `ApplyFade` and the decode -/

/-- `FadeSample` of `LazygsfDecoderPlugin.cxx`. -/
def Lazygsf.fadeSample (sample : Sample) (numerator denominator : Int) : Sample :=
  Vgmpd.fadeSample sample numerator denominator

/-- `ApplyFade` of `LazygsfDecoderPlugin.cxx`: nothing for an empty fade; otherwise, with
`fade_remaining` raised to `0`, every sample of frame `i < frames` is faded by
`fade_remaining - (offset_frames + i)` over `fade_total`.  Sample `idx` belongs to frame
`idx / channels`; `samples` is never null here. -/
def Lazygsf.applyFade (samples : Buffer) (frames channels : Nat)
    (offsetFrames fadeRemaining fadeTotal : Int) : Buffer :=
  if channels = 0 ∨ fadeTotal ≤ 0 then samples
  else fun idx =>
    if idx / channels < frames then
      Lazygsf.fadeSample (samples idx)
        (max fadeRemaining 0 - (offsetFrames + ((idx / channels : Nat) : Int))) fadeTotal
    else samples idx

/-- The lazygsf instance of the shared loop: `GSF_BUFFER_FRAMES = 2048`, `GSF_CHANNELS = 2`;
`gsf_render` reports a failure by a non-zero result only, logged as `"render error"`, and a
failed skip is logged as `"seek failed"`. -/
def Lazygsf.fadeLoopPlugin : FadeLoopPlugin Unit where
  bufferFrames := 2048
  bufferFrames_pos := by decide
  applyFade buf fadeStart fadeRemaining fadeTotal :=
    Lazygsf.applyFade buf 2048 2 fadeStart fadeRemaining fadeTotal
  renderWarning _ := "render error"
  skipWarning _ := "seek failed"

@[simp] theorem Lazygsf.fadeLoopPlugin_bufferFrames : Lazygsf.fadeLoopPlugin.bufferFrames = 2048 :=
  rfl

/-- `has_length`, `length_frames`, `fade_total` and the rate, as `gsf_file_decode` computes
them from the tags and the rate `gsf_set_sample_rate` returns. -/
def Lazygsf.loopConfig (holder : Lazygsf.GsfTagHolder) (sampleRate : Nat) : FadeLoopConfig where
  hasLength := holder.lengthMs > 0
  lengthFrames := if holder.lengthMs > 0 then holder.lengthMs.toNat * sampleRate / 1000 else 0
  fadeTotal := holder.fadeMs.toNat * sampleRate / 1000
  sampleRate := sampleRate

/-- `gsf_file_decode` from the loaded file on, run for `fuel` iterations of its loop:
`CheckAudioFormat` on the rate, whose throw ends the decode, then `Ready` and the loop. -/
def Lazygsf.gsfFileDecode (fuel : Nat) (holder : Lazygsf.GsfTagHolder) (sampleRate : Nat)
    (emu : Emulator Unit) (client : DecoderClient) : List DecodeEvent × Option FadeLoopState :=
  let cfg := Lazygsf.loopConfig holder sampleRate
  if client.acceptsSampleRate sampleRate then
    let r := iterate (fadeLoopStep Lazygsf.fadeLoopPlugin emu client cfg) fuel (fadeLoopStart cfg 0)
    (.ready sampleRate cfg.hasLength (Lazygsf.reportedDurationMS holder) :: r.1, r.2)
  else ([.invalidAudioFormat sampleRate], none)

/-- A rate MPD accepts: `Ready`, then the loop. -/
theorem Lazygsf.gsfFileDecode_of_accepted {fuel : Nat} {holder : Lazygsf.GsfTagHolder}
    {sampleRate : Nat} {emu : Emulator Unit} {client : DecoderClient}
    (hfmt : client.acceptsSampleRate sampleRate = true) :
    Lazygsf.gsfFileDecode fuel holder sampleRate emu client =
      (.ready sampleRate (Lazygsf.loopConfig holder sampleRate).hasLength
          (Lazygsf.reportedDurationMS holder) ::
        (iterate (fadeLoopStep Lazygsf.fadeLoopPlugin emu client
          (Lazygsf.loopConfig holder sampleRate)) fuel
          (fadeLoopStart (Lazygsf.loopConfig holder sampleRate) 0)).1,
        (iterate (fadeLoopStep Lazygsf.fadeLoopPlugin emu client
          (Lazygsf.loopConfig holder sampleRate)) fuel
          (fadeLoopStart (Lazygsf.loopConfig holder sampleRate) 0)).2) :=
  if_pos hfmt

/-! ## 2. The envelope lazygsf applies -/

/-- What lazygsf submits for sample `x` of the frame at position `p` of the buffer starting at
`q`: `x` in every buffer that ends before the body does, and for an empty fade; in the buffer
where the body ends, `x` faded by `F - (L - q) - (p - q)`; in later buffers, by what is left
of the fade at `q` less `p - q`. -/
def Lazygsf.gsfEnvelope (L F : Int) (q p : Nat) (x : Sample) : Sample :=
  if F ≤ 0 ∨ q + 2048 < L then x
  else if q ≤ L then Lazygsf.fadeSample x (F - (L - q) - (p - q)) F
  else Lazygsf.fadeSample x (max (L + F - q) 0 - (p - q)) F

/-- `ApplyFade` on a whole `2048`-frame stereo buffer, sample by sample. -/
theorem Lazygsf.applyFade_apply {samples : Buffer} {offset rem total : Int} {j : Nat}
    (hj : j < 4096) :
    Lazygsf.applyFade samples 2048 2 offset rem total j =
      if total ≤ 0 then samples j
      else Lazygsf.fadeSample (samples j) (max rem 0 - (offset + ((j / 2 : Nat) : Int))) total := by
  unfold applyFade
  by_cases ht : total ≤ 0
  · rw [if_pos (Or.inr ht), if_pos ht]
  · rw [if_neg (by omega), if_neg ht]
    exact if_pos (by omega)

/-- **lazygsf's `ApplyFade` is its envelope** at every tracked position. -/
theorem Lazygsf.fadeLoopPlugin_fadesAs (L F : Int) :
    Lazygsf.fadeLoopPlugin.FadesAs L F (Lazygsf.gsfEnvelope L F) := by
  intro q song fade raw j htr hj
  replace hj : j < 4096 := hj
  unfold TracksAt at htr
  simp only [FadeLoopPlugin.trackBuffer, fadeLoopPlugin, gsfEnvelope]
  by_cases hsong : song ≤ ((2048 : Nat) : Int)
  · rw [if_pos hsong]
    show applyFade raw 2048 2 (max song 0) fade F j = _
    rw [applyFade_apply hj]
    by_cases hF : F ≤ 0
    · rw [if_pos hF, if_pos (Or.inl hF)]
    · rw [if_neg hF, if_neg (by omega)]
      split <;> exact fadeSample_congr_num F (Or.inl (by omega))
  · rw [if_neg hsong, if_pos (Or.inr (by omega))]

/-! ## 3. lazygsf is the fading player with its envelope -/

/-- The fading player lazygsf implements. -/
def Lazygsf.player (holder : Lazygsf.GsfTagHolder) (sampleRate : Nat) : FadingPlayer :=
  Lazygsf.fadeLoopPlugin.player (Lazygsf.loopConfig holder sampleRate)
    (Lazygsf.gsfEnvelope (Lazygsf.loopConfig holder sampleRate).lengthFrames
      (Lazygsf.loopConfig holder sampleRate).fadeTotal)

/-- **lazygsf implements the fading player with its envelope.**  For a file with a length and
an emulator that renders, the decode calls `Ready` and then emits exactly what the player with
`gsfEnvelope` emits, for every client and every number of iterations, and is still running
exactly when the player is. -/
theorem Lazygsf.gsfFileDecode_refines (fuel : Nat) (holder : Lazygsf.GsfTagHolder)
    (sampleRate : Nat) {emu : Emulator Unit} (client : DecoderClient)
    (hlen : holder.lengthMs > 0) (hemu : emu.Renders)
    (hfmt : client.acceptsSampleRate sampleRate = true) :
    (Lazygsf.gsfFileDecode fuel holder sampleRate emu client).1 =
        .ready sampleRate true (Lazygsf.reportedDurationMS holder) ::
          (iterate ((Lazygsf.player holder sampleRate).step emu.sample client) fuel
            ⟨0, 0⟩).1 ∧
      (Lazygsf.gsfFileDecode fuel holder sampleRate emu client).2.map FadeLoopState.toPlayer =
        (iterate ((Lazygsf.player holder sampleRate).step emu.sample client) fuel
          ⟨0, 0⟩).2 := by
  have hcfg : (Lazygsf.loopConfig holder sampleRate).hasLength = true := by
    simp [loopConfig, hlen]
  have hL : 0 ≤ (Lazygsf.loopConfig holder sampleRate).lengthFrames := by
    simp only [loopConfig, hlen, if_true]
    exact Int.ediv_nonneg (Int.mul_nonneg (by omega) (by omega)) (by decide)
  have hF : 0 ≤ (Lazygsf.loopConfig holder sampleRate).fadeTotal :=
    Int.ediv_nonneg (Int.mul_nonneg (by omega) (by omega)) (by decide)
  have h := fadeLoop_refines client hcfg hL hF hemu (fadeLoopPlugin_fadesAs _ _) fuel 0
  rw [gsfFileDecode_of_accepted hfmt, hcfg]
  exact ⟨congrArg _ h.1, h.2⟩

/-- The stream player lazygsf implements for a file without a length. -/
def Lazygsf.streamPlayer (sampleRate : Nat) : StreamPlayer :=
  ⟨Lazygsf.fadeLoopPlugin.bufferFrames, sampleRate⟩

/-- **Without a length, lazygsf plays the emulator's stream until the client stops it.**  For
a file whose tags give no length and an emulator that renders, the decode calls `Ready`
without a length and then emits exactly what the stream player emits, for every client and
every number of iterations: the stream's buffers with no fade, whatever the fade tag says, and
a `SEEK` to `t` acknowledged with the stream restarted at `⌊t · r / 1000⌋`.  And it returns
only after the client has answered a buffer with `STOP`. -/
theorem Lazygsf.gsfFileDecode_streams (fuel : Nat) (holder : Lazygsf.GsfTagHolder)
    (sampleRate : Nat) {emu : Emulator Unit} (client : DecoderClient)
    (hlen : holder.lengthMs = 0) (hemu : emu.Renders)
    (hfmt : client.acceptsSampleRate sampleRate = true) :
    (Lazygsf.gsfFileDecode fuel holder sampleRate emu client).1 =
        .ready sampleRate false (Lazygsf.reportedDurationMS holder) ::
          (iterate ((Lazygsf.streamPlayer sampleRate).step emu.sample client) fuel ⟨0, 0⟩).1 ∧
      (Lazygsf.gsfFileDecode fuel holder sampleRate emu client).2.map FadeLoopState.toPlayer =
        (iterate ((Lazygsf.streamPlayer sampleRate).step emu.sample client) fuel ⟨0, 0⟩).2 ∧
      ((Lazygsf.gsfFileDecode fuel holder sampleRate emu client).2 = none →
        ∃ k, k < fuel ∧ client.command k = .stop) := by
  have hcfg : (Lazygsf.loopConfig holder sampleRate).hasLength = false := by
    simp [loopConfig, hlen]
  have h := fadeLoop_refines_stream Lazygsf.fadeLoopPlugin emu client hcfg hemu fuel 0
  rw [gsfFileDecode_of_accepted hfmt, hcfg]
  exact ⟨congrArg _ h.1, h.2, StreamPlayer.stop_of_refines _ emu.sample client
    (fadeLoopStep_refines_stream _ emu client hcfg hemu) (by rfl) fuel⟩

/-- A file without a length, with a fade tag of `5` s, played for two iterations. -/
theorem Lazygsf.untimedGsf_streams :
    (⟨0, 5000⟩ : Lazygsf.GsfTagHolder).lengthMs = 0 ∧
      (Emulator.constant Sample.zero : Emulator Unit).Renders ∧
      DecoderClient.playing.acceptsSampleRate 44100 ∧
      (Lazygsf.gsfFileDecode 2 ⟨0, 5000⟩ 44100 (Emulator.constant Sample.zero)
          DecoderClient.playing).1 =
        .ready 44100 false (Lazygsf.reportedDurationMS ⟨0, 5000⟩) ::
          (iterate ((Lazygsf.streamPlayer 44100).step (Emulator.constant Sample.zero : Emulator Unit).sample
            DecoderClient.playing) 2 ⟨0, 0⟩).1 ∧
      (Lazygsf.gsfFileDecode 2 ⟨0, 5000⟩ 44100 (Emulator.constant Sample.zero)
          DecoderClient.playing).2.map FadeLoopState.toPlayer =
        (iterate ((Lazygsf.streamPlayer 44100).step (Emulator.constant Sample.zero : Emulator Unit).sample
          DecoderClient.playing) 2 ⟨0, 0⟩).2 ∧
      ((Lazygsf.gsfFileDecode 2 ⟨0, 5000⟩ 44100 (Emulator.constant Sample.zero)
          DecoderClient.playing).2 = none → ∃ k, k < 2 ∧ DecoderClient.playing.command k = .stop) :=
  ⟨rfl, Emulator.constant_renders _, rfl, Lazygsf.gsfFileDecode_streams 2 ⟨0, 5000⟩ 44100
    DecoderClient.playing rfl (Emulator.constant_renders _) rfl⟩

/-- The tags of a song of `10` ms with a fade of `10` ms: length `"0.01"`, fade `"0.01"`. -/
def Lazygsf.shortSongHolder : Lazygsf.GsfTagHolder :=
  ⟨Lazygsf.parsePsfTimeMS "0.01".toList, Lazygsf.parsePsfTimeMS "0.01".toList⟩

/-- **lazygsf fades the body.**  At `44100` Hz the tags of `shortSongHolder` give `L = 441`
frames of body and `F = 441` of fade, both inside the first `2048`-frame buffer.  With an
emulator that renders `INT16_MAX` throughout and a client that lets it play, the decode
submits that one buffer and returns; its first sample, of frame `0` in the body, is `0`
(`FadeSample(x, 441 - 441 - 0, 441)`) where the intended fade keeps the rendered `32767`. -/
theorem Lazygsf.gsfFileDecode_fades_body :
    (Lazygsf.loopConfig Lazygsf.shortSongHolder 44100).lengthFrames = 441 ∧
      (Lazygsf.loopConfig Lazygsf.shortSongHolder 44100).fadeTotal = 441 ∧
      (∃ b, Lazygsf.gsfFileDecode 1 Lazygsf.shortSongHolder 44100
          (Emulator.constant Sample.int16Max) DecoderClient.playing =
          ([.ready 44100 true (some 20), .submit b], none) ∧
        b[0]?.map Sample.val = some 0) ∧
      (fadeEnvelope 441 441 0 Sample.int16Max).val = 32767 := by
  have hL : (Lazygsf.loopConfig Lazygsf.shortSongHolder 44100).lengthFrames = 441 := by decide
  have hF : (Lazygsf.loopConfig Lazygsf.shortSongHolder 44100).fadeTotal = 441 := by decide
  refine ⟨hL, hF, ?_, by decide⟩
  have h := gsfFileDecode_refines 1 shortSongHolder 44100 DecoderClient.playing (by decide)
    (Emulator.constant_renders Sample.int16Max) rfl
  rw [FadingPlayer.iterate_plays _ _ _ (by decide) 1 ⟨0, 0⟩
    (DecoderClient.playing_plays 0)] at h
  have hN : (Lazygsf.player Lazygsf.shortSongHolder 44100).buffersFrom 0 = 1 := by decide
  simp only [hN, Nat.min_self, Nat.le_refl, if_true, Option.map_eq_none'] at h
  refine ⟨(Lazygsf.player Lazygsf.shortSongHolder 44100).buffer
    (Emulator.constant Sample.int16Max : Emulator Unit).sample 0, Prod.ext ?_ h.2, ?_⟩
  · rw [h.1]
    rfl
  · simp only [FadingPlayer.buffer, player, FadeLoopPlugin.player, fadeLoopPlugin_bufferFrames,
      List.getElem?_map, List.getElem?_range (by decide : 0 < 2 * 2048), Option.map_some', hL, hF]
    decide

end Vgmpd
