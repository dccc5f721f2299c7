/-
# What a decoder sees: the client and the emulator

A plugin's `Decode(client, path)` talks to two parties.  The `DecoderClient` is MPD's side:
`Ready`, `SubmitAudio` (which returns the pending command), `GetSeekTime` and
`CommandFinished`.  The emulator is the third-party library that renders PCM.  The model
records what the decoder does as a list of `DecodeEvent`s, one per client call plus the
warnings it logs and the format check's exception, and takes both parties as data:

* the client answers the `n`-th `SubmitAudio` with `command n`, and a seek requested there
  targets `seekTime n` milliseconds (`SongTime` counts milliseconds in a `uint32_t`);
* MPD's `CheckAudioFormat`, which each plugin calls right before `Ready`, accepts the sample
  rates `acceptsSampleRate` holds of and throws for the others (`invalidAudioFormat`);
* the emulator is deterministic: after a restart it renders the same interleaved stream
  `sample`, whatever the chunk sizes, and its `n`-th render call fails with `renderError n`
  (the library's own error value, of a type that depends on the library).

`skipFrames` is the `SkipFrames` loop the plugins share: render and discard in chunks of at
most `8192` frames, stopping at the first failing call.

A decode loop runs until it returns, which it need not do, so the model runs its body for a
given number of iterations (`iterate`): the result is the events so far and, while the loop
has not returned, its state.  `iterate_refines` packages the one simulation argument every
loop below needs: if one iteration of a loop is one iteration of a more abstract loop, under
an invariant the iteration keeps, then so is every run.
-/
import Vgmpd.Plugins.Pcm

namespace Vgmpd

/-! ## 1. The client -/

/-- `DecoderCommand`. -/
inductive DecoderCommand where
  | none
  | start
  | stop
  | seek
deriving DecidableEq, Repr

/-- A decoder's calls into its client, the warnings it logs, and the exception that ends it
before `Ready`. -/
inductive DecodeEvent where
  /-- `client.Ready(format, has_length, song_len)`: the format's sample rate (the format is
  always stereo `S16`) and the length in milliseconds when there is one. -/
  | ready (sampleRate : Nat) (hasLength : Bool) (songLenMs : Option UInt32)
  /-- `client.SubmitAudio(nullptr, span, 0)` with the span's samples. -/
  | submit (samples : List Sample)
  /-- `client.CommandFinished()`. -/
  | commandFinished
  /-- `LogWarning(domain, text)`. -/
  | warning (text : String)
  /-- `CheckAudioFormat(sample_rate, S16, channels)` threw for the sample rate: the exception
  leaves `Decode` before `Ready`, for MPD's decoder thread to report. -/
  | invalidAudioFormat (sampleRate : Nat)
deriving DecidableEq, Repr

/-- The samples an event hands the client: those of a `SubmitAudio`, none for the others. -/
def DecodeEvent.samples : DecodeEvent → List Sample
  | .submit b => b
  | _ => []

/-- The decoder's MPD side: the answers its client gives, and the sample rates MPD's audio
format check accepts. -/
structure DecoderClient where
  /-- What the `n`-th `SubmitAudio` returns. -/
  command : Nat → DecoderCommand
  /-- `GetSeekTime().ToMS()` after the `n`-th `SubmitAudio` returned `SEEK`. -/
  seekTime : Nat → UInt32
  /-- Whether `CheckAudioFormat(sample_rate, S16, 2)` returns for `sample_rate` (MPD's
  `pcm/CheckAudioFormat.cxx`, not in src/); for any other rate it throws.  Every plugin
  passes `S16` and two channels. -/
  acceptsSampleRate : Nat → Bool

/-- The rates MPD's `audio_valid_sample_rate` accepts, `0 < rate < 2^30`: the format check of
the clients below. -/
def audioValidSampleRate (rate : Nat) : Bool := decide (0 < rate ∧ rate < 2 ^ 30)

/-- A client that lets the decoder play: every `SubmitAudio` returns `NONE`. -/
def DecoderClient.playing : DecoderClient := ⟨fun _ => .none, fun _ => 0, audioValidSampleRate⟩

/-- The client's commands from the `n`-th `SubmitAudio` on are neither `SEEK` nor `STOP`. -/
def DecoderClient.PlaysFrom (client : DecoderClient) (n : Nat) : Prop :=
  ∀ k, n ≤ k → client.command k ≠ .seek ∧ client.command k ≠ .stop

theorem DecoderClient.playing_plays (n : Nat) : DecoderClient.playing.PlaysFrom n :=
  fun _ _ => ⟨nofun, nofun⟩

/-! ## 2. The emulator -/

/-- A deterministic emulator whose failed render calls report an `E`. -/
structure Emulator (E : Type) where
  /-- The interleaved stereo stream rendered since the last restart: entry `2 * p + c` is
  channel `c` of the frame at position `p`. -/
  sample : Nat → Sample
  /-- The outcome of the `n`-th render call of the decode: `none` on success. -/
  renderError : Nat → Option E

/-- The emulator never fails to render. -/
def Emulator.Renders {E : Type} (emu : Emulator E) : Prop := ∀ n, emu.renderError n = none

/-- An emulator that renders the constant sample `x` on both channels, and never fails. -/
def Emulator.constant {E : Type} (x : Sample) : Emulator E := ⟨fun _ => x, fun _ => none⟩

theorem Emulator.constant_renders {E : Type} (x : Sample) :
    (Emulator.constant x : Emulator E).Renders :=
  fun _ => rfl

/-- The `frames`-frame buffer the emulator renders at position `pos`. -/
def Emulator.render {E : Type} (emu : Emulator E) (pos : Nat) : Buffer :=
  fun j => emu.sample (2 * pos + j)

/-- The samples a span of `frames` stereo frames of `buf` holds. -/
def stereoSpan (buf : Buffer) (frames : Nat) : List Sample :=
  (List.range (2 * frames)).map buf

@[simp] theorem length_stereoSpan (buf : Buffer) (frames : Nat) :
    (stereoSpan buf frames).length = 2 * frames := by
  simp [stereoSpan]

/-! ## 3. `SkipFrames` -/

/-- `seek_ms * sample_rate / 1000`: the frame a seek to `seekMs` milliseconds targets.  The
operands are non-negative and the product stays below `2^63`, so the `int64_t` value is
exact. -/
def seekFrames (sampleRate : Nat) (seekMs : UInt32) : Nat := seekMs.toNat * sampleRate / 1000

/-- `LAZYUSF_SEEK_CHUNK_FRAMES`, `GSF_SEEK_CHUNK_FRAMES`, `AOPSF_SEEK_CHUNK_FRAMES`. -/
def seekChunkFrames : Nat := 8192

/-- `SkipFrames`: from render call `calls` on, render and discard `frames` frames in chunks
of `min frames 8192`.  The number of render calls made and the error of the failing one. -/
def skipFrames {E : Type} (emu : Emulator E) (calls frames : Nat) : Nat × Option E :=
  if frames = 0 then (calls, none)
  else match emu.renderError calls with
    | some err => (calls + 1, some err)
    | none => skipFrames emu (calls + 1) (frames - min frames seekChunkFrames)
termination_by frames
decreasing_by simp only [seekChunkFrames]; omega

/-- **An emulator that renders skips every frame.** -/
theorem skipFrames_of_renders {E : Type} {emu : Emulator E} (h : emu.Renders)
    (calls frames : Nat) : (skipFrames emu calls frames).2 = none := by
  induction frames using Nat.strong_induction_on generalizing calls with
  | _ frames ih =>
    rw [skipFrames]
    split
    · rfl
    · rw [h calls]
      exact ih _ (by simp only [seekChunkFrames]; omega) _

/-! ## 4. Running a loop -/

section Iterate

variable {σ τ : Type}

/-- `fuel` iterations of a loop whose body returns its events and, unless the loop returns,
the next state: the events of the run, and the state unless the loop has returned. -/
def iterate (body : σ → List DecodeEvent × Option σ) :
    Nat → σ → List DecodeEvent × Option σ
  | 0, s => ([], some s)
  | fuel + 1, s =>
    match body s with
    | (evs, none) => (evs, none)
    | (evs, some s') => (evs ++ (iterate body fuel s').1, (iterate body fuel s').2)

@[simp] theorem iterate_zero (body : σ → List DecodeEvent × Option σ) (s : σ) :
    iterate body 0 s = ([], some s) := rfl

theorem iterate_succ_of_return {body : σ → List DecodeEvent × Option σ} {s : σ}
    {evs : List DecodeEvent} (fuel : Nat) (h : body s = (evs, none)) :
    iterate body (fuel + 1) s = (evs, none) := by
  simp only [iterate, h]

theorem iterate_succ_of_continue {body : σ → List DecodeEvent × Option σ} {s s' : σ}
    {evs : List DecodeEvent} (fuel : Nat) (h : body s = (evs, some s')) :
    iterate body (fuel + 1) s = (evs ++ (iterate body fuel s').1, (iterate body fuel s').2) := by
  simp only [iterate, h]

/-- One iteration of `body` from a state satisfying `inv` emits what one iteration of `spec`
emits from the state's abstraction `abs`, ends in the abstraction of `spec`'s next state, and
keeps `inv`. -/
def StepRefines (body : σ → List DecodeEvent × Option σ)
    (spec : τ → List DecodeEvent × Option τ) (abs : σ → τ) (inv : σ → Prop) : Prop :=
  ∀ s, inv s → (body s).1 = (spec (abs s)).1 ∧ (body s).2.map abs = (spec (abs s)).2 ∧
    ∀ s' ∈ (body s).2, inv s'

/-- **Step refinement gives run refinement.** -/
theorem iterate_refines {body : σ → List DecodeEvent × Option σ}
    {spec : τ → List DecodeEvent × Option τ} {abs : σ → τ} {inv : σ → Prop}
    (h : StepRefines body spec abs inv) :
    ∀ fuel s, inv s → (iterate body fuel s).1 = (iterate spec fuel (abs s)).1 ∧
      (iterate body fuel s).2.map abs = (iterate spec fuel (abs s)).2 := by
  intro fuel
  induction fuel with
  | zero => intro s _; simp
  | succ fuel ih =>
    intro s hs
    obtain ⟨hevs, hnext, hinv⟩ := h s hs
    rcases hb : body s with ⟨evs, _ | s'⟩
    · rw [hb] at hevs hnext
      rw [iterate_succ_of_return fuel hb,
        iterate_succ_of_return fuel (Prod.ext hevs.symm hnext.symm)]
      exact ⟨rfl, rfl⟩
    · rw [hb] at hevs hnext hinv
      obtain ⟨ih1, ih2⟩ := ih s' (hinv s' rfl)
      rw [iterate_succ_of_continue fuel hb,
        iterate_succ_of_continue fuel (Prod.ext hevs.symm hnext.symm), ih1]
      exact ⟨rfl, ih2⟩

/-- **An invariant of one iteration holds in every state a run reaches.** -/
theorem iterate_invariant {body : σ → List DecodeEvent × Option σ} {inv : σ → Prop}
    (h : ∀ s, inv s → ∀ s' ∈ (body s).2, inv s') :
    ∀ fuel s, inv s → ∀ s' ∈ (iterate body fuel s).2, inv s' := by
  intro fuel
  induction fuel with
  | zero => intro s hs s' hs'; cases hs'; exact hs
  | succ fuel ih =>
    intro s hs s' hs'
    rcases hb : body s with ⟨evs, _ | t⟩
    · rw [iterate_succ_of_return fuel hb] at hs'
      cases hs'
    · rw [iterate_succ_of_continue fuel hb] at hs'
      exact ih t (h s hs t (by rw [hb]; rfl)) s' hs'

end Iterate

end Vgmpd
