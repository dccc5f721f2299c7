/-
# aopsf: a frame budget, and no fade

`aopsf_file_decode` does not fade at all.  It turns the duration (length plus fade) into a
budget of `D` frames, counts the frames it has played in `frames_played`, generates at most
`1024` frames per iteration and never more than the budget left, and returns when the budget
is used up.  A seek restarts the emulator, generates and discards up to the target
(`AopsfSeek`), and sets `frames_played` to the target.

The one invariant is that `frames_played` is the emulator's position (`aopsfLoopStep_played`):
every state the decode reaches satisfies it.  From it, `aopsfFileDecode_plays_to_end`: from
any state the decode reaches, in particular the start and the state after every successful
seek, a client that neither seeks nor stops receives exactly the frames from the position up
to `D`, as the emulator generated them, and the decode returns.
`aopsfFileDecode_does_not_fade` shows a frame inside the fade submitted at full scale.

A duration of `0`, from a missing length tag or from a length and fade that wrap to `0`, means
no budget: the decoder is then the stream player that lazygsf and lazyusf also implement
without a length (`aopsfFileDecode_streams`), and returns only on `STOP`.

Of the file loading the model keeps the outcomes the decoder branches on and the warnings it
logs; of `CheckAudioFormat`, whether the client's MPD accepts the rate, whose rejection ends
the decode before `Ready`.
-/
import Vgmpd.Plugins.Client
import Vgmpd.Plugins.FadeLoop
import Vgmpd.Plugins.Tags

namespace Vgmpd

/-! ## 1. `AopsfSeek` and the loop -/

/-- `PSX_STATE` as the decoder drives it: an emulator whose failed `psf_gen` leaves a message
that `psx_get_last_error` may report, and whether the `COMMAND_RESTART` of the seek requested
at the `n`-th `SubmitAudio` fails. -/
structure Aopsf.PsxState extends Emulator (Option String) where
  restartFails : Nat → Bool

/-- `AOPSF_BUFFER_FRAMES`. -/
def Aopsf.bufferFrames : Nat := 1024

/-- `AopsfSeek`: restart the emulator, then generate and discard `seek_ms * sample_rate / 1000`
frames.  Its loop counts the frames skipped up to the target, in chunks of
`min (target - skipped) 8192`: the chunks of `SkipFrames`.  Whether the seek succeeded, with
the generate calls made. -/
def Aopsf.aopsfSeek (psx : Aopsf.PsxState) (seekIndex calls : Nat) (seekMs : Int)
    (sampleRate : Nat) : Nat × Bool :=
  let seekMs := max seekMs 0
  if psx.restartFails seekIndex then (calls, false)
  else
    let targetFrames := seekMs * sampleRate / 1000
    if targetFrames ≤ 0 then (calls, true)
    else match skipFrames psx.toEmulator calls targetFrames.toNat with
      | (calls, some _) => (calls, false)
      | (calls, none) => (calls, true)

/-- The loop's variables, and the emulator's position and call count. -/
structure Aopsf.AopsfLoopState where
  framesPlayed : Int
  /-- Frames generated since the last restart. -/
  pos : Nat
  /-- `psf_gen` calls made so far. -/
  calls : Nat
  /-- `SubmitAudio` calls made so far. -/
  submits : Nat
deriving DecidableEq, Repr

section Loop

variable (psx : Aopsf.PsxState) (client : DecoderClient) (hasLength : Bool)
  (lengthFrames : Int) (sampleRate : Nat)

/-- One iteration of the `do { ... } while (cmd != DecoderCommand::STOP)` loop: leave when the
budget is used up, generate at most `1024` frames and no more than the budget left, submit
them, and obey the client.  A failed seek is logged, turns the command into `STOP`, and is
still acknowledged. -/
def Aopsf.aopsfLoopStep (st : Aopsf.AopsfLoopState) :
    List DecodeEvent × Option Aopsf.AopsfLoopState :=
  if hasLength ∧ lengthFrames - st.framesPlayed ≤ 0 then ([], none)
  else
    let frames : Nat :=
      if hasLength then (min (lengthFrames - st.framesPlayed) Aopsf.bufferFrames).toNat
      else Aopsf.bufferFrames
    match psx.renderError st.calls with
    | some msg => ([.warning (msg.getD "decode error")], none)
    | none =>
      let submitted := DecodeEvent.submit (stereoSpan (psx.render st.pos) frames)
      match client.command st.submits with
      | .seek =>
        let seekMs : Int := (client.seekTime st.submits).toNat
        match Aopsf.aopsfSeek psx st.submits (st.calls + 1) seekMs sampleRate with
        | (_, false) => ([submitted, .warning "seek failed", .commandFinished], none)
        | (calls, true) =>
          ([submitted, .commandFinished], some
            { framesPlayed := if hasLength then seekMs * sampleRate / 1000 else 0
              pos := seekFrames sampleRate (client.seekTime st.submits), calls,
              submits := st.submits + 1 })
      | .stop => ([submitted], none)
      | _ => ([submitted], some
          { framesPlayed := st.framesPlayed + frames, pos := st.pos + frames,
            calls := st.calls + 1, submits := st.submits + 1 })

end Loop

/-! ## 2. The decode -/

/-- What `psf_load`, `psf2fs_create`, `psf_start` and `psf2_start` give the decoder. -/
structure Aopsf.AopsfFile where
  /-- The version the probing `psf_load` returns. -/
  version : Int
  tags : Aopsf.AopsfTags
  /-- What the loading `psf_load` returns. -/
  loadResult : Int
  psf2fsCreated : Bool
  startOk : Bool

/-- `PSF1_SAMPLE_RATE` or `PSF2_SAMPLE_RATE`. -/
def Aopsf.sampleRateOf (version : Int) : Nat := if version = 2 then 48000 else 44100

/-- `length_frames`: the duration's frames, `0` without a duration. -/
def Aopsf.lengthFrames (tags : Aopsf.AopsfTags) (sampleRate : Nat) : Int :=
  if Aopsf.getPsfDurationMS tags > 0 then (Aopsf.getPsfDurationMS tags).toNat * sampleRate / 1000
  else 0

/-- The decode's loop for `file`. -/
def Aopsf.aopsfLoop (file : Aopsf.AopsfFile) (psx : Aopsf.PsxState) (client : DecoderClient) :
    Aopsf.AopsfLoopState → List DecodeEvent × Option Aopsf.AopsfLoopState :=
  Aopsf.aopsfLoopStep psx client (Aopsf.getPsfDurationMS file.tags > 0)
    (Aopsf.lengthFrames file.tags (Aopsf.sampleRateOf file.version))
    (Aopsf.sampleRateOf file.version)

/-- `CheckAudioFormat` on the version's rate, whose throw ends the decode, then `Ready` and
`fuel` iterations of the loop from the start. -/
def Aopsf.aopsfPlay (fuel : Nat) (file : Aopsf.AopsfFile) (psx : Aopsf.PsxState)
    (client : DecoderClient) : List DecodeEvent × Option Aopsf.AopsfLoopState :=
  if client.acceptsSampleRate (Aopsf.sampleRateOf file.version) then
    let r := iterate (Aopsf.aopsfLoop file psx client) fuel ⟨0, 0, 0, 0⟩
    (.ready (Aopsf.sampleRateOf file.version) (Aopsf.getPsfDurationMS file.tags > 0)
      (Aopsf.reportedDurationMS file.tags) :: r.1, r.2)
  else ([.invalidAudioFormat (Aopsf.sampleRateOf file.version)], none)

section Play

variable {fuel : Nat} {file : Aopsf.AopsfFile} {psx : Aopsf.PsxState} {client : DecoderClient}

/-- A rate MPD accepts: `Ready`, then the loop. -/
theorem Aopsf.aopsfPlay_of_accepted
    (hfmt : client.acceptsSampleRate (Aopsf.sampleRateOf file.version) = true) :
    Aopsf.aopsfPlay fuel file psx client =
      (.ready (Aopsf.sampleRateOf file.version) (Aopsf.getPsfDurationMS file.tags > 0)
          (Aopsf.reportedDurationMS file.tags) ::
        (iterate (Aopsf.aopsfLoop file psx client) fuel ⟨0, 0, 0, 0⟩).1,
        (iterate (Aopsf.aopsfLoop file psx client) fuel ⟨0, 0, 0, 0⟩).2) :=
  if_pos hfmt

/-- A play still running has passed the format check: its state is the loop's. -/
theorem Aopsf.aopsfPlay_running {st : Aopsf.AopsfLoopState}
    (h : (Aopsf.aopsfPlay fuel file psx client).2 = some st) :
    (iterate (Aopsf.aopsfLoop file psx client) fuel ⟨0, 0, 0, 0⟩).2 = some st := by
  unfold aopsfPlay at h
  split at h
  · exact h
  · cases h

end Play

/-- `aopsf_file_decode`, run for `fuel` iterations of its loop: the version checks, loading
and start-up with their warnings, then `aopsfPlay`. -/
def Aopsf.aopsfFileDecode (fuel : Nat) (file : Aopsf.AopsfFile) (psx : Aopsf.PsxState)
    (client : DecoderClient) : List DecodeEvent × Option Aopsf.AopsfLoopState :=
  if file.version ≤ 0 then ([.warning "error probing file"], none)
  else if file.version = 1 then
    if file.loadResult ≠ 1 then ([.warning "invalid PSF file"], none)
    else if !file.startOk then ([.warning "PSF start failed"], none)
    else Aopsf.aopsfPlay fuel file psx client
  else if file.version = 2 then
    if !file.psf2fsCreated then ([.warning "PSF2 filesystem init failed"], none)
    else if file.loadResult ≠ 2 then ([.warning "invalid PSF2 file"], none)
    else if !file.startOk then ([.warning "PSF2 start failed"], none)
    else Aopsf.aopsfPlay fuel file psx client
  else ([.warning "unsupported PSF version"], none)

/-- The file is a PSF1 or PSF2 file that loads and starts. -/
def Aopsf.AopsfFile.Starts (file : Aopsf.AopsfFile) : Prop :=
  (file.version = 1 ∨ file.version = 2) ∧ file.loadResult = file.version ∧
    (file.version = 2 → file.psf2fsCreated = true) ∧ file.startOk = true

theorem Aopsf.aopsfFileDecode_of_starts {file : Aopsf.AopsfFile} (h : file.Starts) (fuel : Nat)
    (psx : Aopsf.PsxState) (client : DecoderClient) :
    Aopsf.aopsfFileDecode fuel file psx client = Aopsf.aopsfPlay fuel file psx client := by
  obtain ⟨hv | hv, hl, hfs, hs⟩ := h
  · simp [aopsfFileDecode, hv, hl, hs]
  · simp [aopsfFileDecode, hv, hl, hfs hv, hs]

/-! ## 3. `frames_played` is the position -/

section Budget

variable {psx : Aopsf.PsxState} {client : DecoderClient} {lengthFrames : Int}
  {sampleRate : Nat}

/-- **Every iteration keeps `frames_played` at the emulator's position.** -/
theorem Aopsf.aopsfLoopStep_played (st : Aopsf.AopsfLoopState) (h : st.framesPlayed = st.pos) :
    ∀ st' ∈ (Aopsf.aopsfLoopStep psx client true lengthFrames sampleRate st).2,
      st'.framesPlayed = st'.pos := by
  intro st' hst'
  simp only [aopsfLoopStep, true_and, if_true] at hst'
  split at hst'
  · simp at hst'
  · split at hst'
    · simp at hst'
    · split at hst'
      · split at hst'
        · simp at hst'
        · cases hst'
          simp [seekFrames]
      · simp at hst'
      · cases hst'
        simp only [h]
        omega

/-- The frames one iteration generates from a position `s` short of the budget. -/
def Aopsf.chunkFrames (lengthFrames : Int) (s : Nat) : Nat :=
  (min (lengthFrames - s) Aopsf.bufferFrames).toNat

/-- One iteration from position `s` short of the budget, with a client that lets it play: the
next chunk, as generated. -/
theorem Aopsf.aopsfLoopStep_plays {st : Aopsf.AopsfLoopState} (hemu : psx.Renders)
    (h : st.framesPlayed = st.pos) (hs : 0 < lengthFrames - st.pos)
    (hcmd : client.command st.submits ≠ .seek ∧ client.command st.submits ≠ .stop) :
    Aopsf.aopsfLoopStep psx client true lengthFrames sampleRate st =
      ([.submit (stereoSpan (psx.render st.pos) (Aopsf.chunkFrames lengthFrames st.pos))],
        some { framesPlayed := st.pos + Aopsf.chunkFrames lengthFrames st.pos,
               pos := st.pos + Aopsf.chunkFrames lengthFrames st.pos,
               calls := st.calls + 1, submits := st.submits + 1 }) := by
  unfold aopsfLoopStep chunkFrames
  rw [h, if_neg (by simp only [true_and]; omega), hemu st.calls]
  simp only [if_true]
  split
  · exact absurd ‹_› hcmd.1
  · exact absurd ‹_› hcmd.2
  · rfl

/-- **The rest of the budget, as generated.**  From a position `s` with `frames_played = s`, a
client that lets it play receives exactly the frames `s, ..., D - 1` (none when `s ≥ D`), as
the emulator generates them, and the loop returns. -/
theorem Aopsf.iterate_aopsfLoopStep_plays (hemu : psx.Renders) :
    ∀ n fuel (st : Aopsf.AopsfLoopState), (lengthFrames - st.pos).toNat = n →
      st.framesPlayed = st.pos → client.PlaysFrom st.submits → n < fuel →
      (iterate (Aopsf.aopsfLoopStep psx client true lengthFrames sampleRate) fuel st).2 = none ∧
      (iterate (Aopsf.aopsfLoopStep psx client true lengthFrames sampleRate) fuel st).1.flatMap
          DecodeEvent.samples = (List.range (2 * n)).map (fun j => psx.sample (2 * st.pos + j)) ∧
      ∀ e ∈ (iterate (Aopsf.aopsfLoopStep psx client true lengthFrames sampleRate) fuel st).1,
        ∃ b, e = .submit b := by
  intro n
  induction n using Nat.strong_induction_on with
  | _ n ih =>
    intro fuel st hn hplayed hplay hfuel
    obtain ⟨fuel, rfl⟩ : ∃ f, fuel = f + 1 := ⟨fuel - 1, by omega⟩
    by_cases hend : lengthFrames - st.pos ≤ 0
    · have hstep :
          Aopsf.aopsfLoopStep psx client true lengthFrames sampleRate st = ([], none) := by
        unfold aopsfLoopStep
        rw [if_pos (by rw [hplayed]; exact ⟨rfl, hend⟩)]
      rw [iterate_succ_of_return fuel hstep]
      have : n = 0 := by omega
      subst this
      simp
    · set c := Aopsf.chunkFrames lengthFrames st.pos with hc
      have hc0 : 0 < c ∧ c ≤ n := by simp only [hc, chunkFrames, bufferFrames]; omega
      rw [iterate_succ_of_continue fuel (Aopsf.aopsfLoopStep_plays hemu hplayed (by omega)
        (hplay st.submits (Nat.le_refl _)))]
      obtain ⟨h1, h2, h3⟩ := ih (n - c) (by omega) fuel
        ⟨st.pos + c, st.pos + c, st.calls + 1, st.submits + 1⟩ (by dsimp only; omega)
        (by dsimp only; omega) (fun k hk => hplay k (Nat.le_of_succ_le hk)) (by omega)
      refine ⟨h1, ?_, ?_⟩
      · rw [List.flatMap_append, h2]
        have hsplit : 2 * n = 2 * c + 2 * (n - c) := by omega
        rw [hsplit, List.range_add, List.map_append, List.map_map]
        simp only [List.flatMap_cons, List.flatMap_nil, List.append_nil, DecodeEvent.samples,
          stereoSpan, Emulator.render, Function.comp_def]
        congr 2
        funext j
        congr 1
        omega
      · intro e he
        rcases List.mem_append.mp he with he | he
        · exact ⟨_, List.eq_of_mem_singleton he⟩
        · exact h3 e he

end Budget

/-! ## 4. The decode plays its budget -/

/-- `⌊(length_ms + fade_ms) · r / 1000⌋`: the frames of the song and its fade. -/
def Aopsf.songFrames (tags : Aopsf.AopsfTags) (sampleRate : Nat) : Nat :=
  (tags.lengthMs.toNat + tags.fadeMs.toNat) * sampleRate / 1000

theorem Aopsf.lengthFrames_eq (tags : Aopsf.AopsfTags) (sampleRate : Nat)
    (hlen : tags.lengthMs > 0) (hsum : tags.lengthMs.toNat + tags.fadeMs.toNat < 2 ^ 32) :
    Aopsf.getPsfDurationMS tags > 0 ∧
      Aopsf.lengthFrames tags sampleRate = Aopsf.songFrames tags sampleRate := by
  have hdur : (Aopsf.getPsfDurationMS tags).toNat = tags.lengthMs.toNat + tags.fadeMs.toNat := by
    rw [getPsfDurationMS, if_pos hlen, durationMS_toNat,
      Nat.mod_eq_of_lt (by simpa [UInt32.size] using hsum)]
  have hpos : Aopsf.getPsfDurationMS tags > 0 := by
    have : 0 < tags.lengthMs.toNat := hlen
    show 0 < (Aopsf.getPsfDurationMS tags).toNat
    omega
  refine ⟨hpos, ?_⟩
  rw [lengthFrames, if_pos hpos, hdur, songFrames]
  push_cast
  rfl

/-- A PSF1 file whose tags give a length of `1` ms (`"0.001"`) and a fade of `1000` ms
(`"1"`). -/
def Aopsf.fadedFile : Aopsf.AopsfFile where
  version := 1
  tags := ⟨Aopsf.parsePsfTimeMS "0.001".toList, Aopsf.parsePsfTimeMS "1".toList⟩
  loadResult := 1
  psf2fsCreated := true
  startOk := true

theorem Aopsf.fadedFile_starts : Aopsf.fadedFile.Starts :=
  ⟨Or.inl rfl, rfl, fun h => absurd h (by decide), rfl⟩

/-- The emulator of `INT16_MAX` on both channels, whose restarts succeed. -/
def Aopsf.constantPsx : Aopsf.PsxState := ⟨Emulator.constant Sample.int16Max, fun _ => false⟩

/-- **aopsf plays exactly its frame budget, unfaded.**  For a PSF1 or PSF2 file that loads and
starts, with a length and `length_ms + fade_ms < 2^32`, and an emulator that generates: every
state the decode reaches has `frames_played` at the emulator's position `s` (the start, or
`s = ⌊t · r / 1000⌋` right after a successful seek to `t` ms).  From there, a client that
neither seeks nor stops receives exactly the frames `s, ..., D - 1`, as generated, where
`D = ⌊(length_ms + fade_ms) · r / 1000⌋` (none when `s ≥ D`), and the decode returns. -/
theorem Aopsf.aopsfFileDecode_plays_to_end {fuel : Nat} {file : Aopsf.AopsfFile}
    {psx : Aopsf.PsxState} {client : DecoderClient} {st : Aopsf.AopsfLoopState}
    (hfile : file.Starts) (hlen : file.tags.lengthMs > 0)
    (hsum : file.tags.lengthMs.toNat + file.tags.fadeMs.toNat < 2 ^ 32) (hemu : psx.Renders)
    (hst : (Aopsf.aopsfFileDecode fuel file psx client).2 = some st)
    (hplay : client.PlaysFrom st.submits) (fuel' : Nat)
    (hfuel : Aopsf.songFrames file.tags (Aopsf.sampleRateOf file.version) - st.pos < fuel') :
    st.framesPlayed = st.pos ∧
      (iterate (Aopsf.aopsfLoop file psx client) fuel' st).2 = none ∧
      (iterate (Aopsf.aopsfLoop file psx client) fuel' st).1.flatMap DecodeEvent.samples =
        (List.range (2 * (Aopsf.songFrames file.tags (Aopsf.sampleRateOf file.version) -
          st.pos))).map (fun j => psx.sample (2 * st.pos + j)) ∧
      ∀ e ∈ (iterate (Aopsf.aopsfLoop file psx client) fuel' st).1, ∃ b, e = .submit b := by
  obtain ⟨hdur, hD⟩ :=
    Aopsf.lengthFrames_eq file.tags (Aopsf.sampleRateOf file.version) hlen hsum
  have hloop : Aopsf.aopsfLoop file psx client = Aopsf.aopsfLoopStep psx client true
      (Aopsf.songFrames file.tags (Aopsf.sampleRateOf file.version))
      (Aopsf.sampleRateOf file.version) := by
    simp only [aopsfLoop, hD, decide_eq_true hdur]
  rw [Aopsf.aopsfFileDecode_of_starts hfile] at hst
  have hrun := Aopsf.aopsfPlay_running hst
  rw [hloop] at hrun ⊢
  have hplayed : st.framesPlayed = st.pos :=
    iterate_invariant (fun s hs => Aopsf.aopsfLoopStep_played s hs) fuel ⟨0, 0, 0, 0⟩ rfl st hrun
  exact ⟨hplayed, Aopsf.iterate_aopsfLoopStep_plays hemu _ fuel' st (by omega) hplayed hplay
    (by omega)⟩

/-- `fadedFile` from its start: `D = 44144` frames, all of them, as generated. -/
theorem Aopsf.fadedFile_plays_to_end :
    Aopsf.fadedFile.Starts ∧ Aopsf.fadedFile.tags.lengthMs > 0 ∧
      Aopsf.fadedFile.tags.lengthMs.toNat + Aopsf.fadedFile.tags.fadeMs.toNat < 2 ^ 32 ∧
      Aopsf.constantPsx.Renders ∧
      (Aopsf.aopsfFileDecode 0 Aopsf.fadedFile Aopsf.constantPsx DecoderClient.playing).2 =
        some ⟨0, 0, 0, 0⟩ ∧
      DecoderClient.playing.PlaysFrom 0 ∧
      Aopsf.songFrames Aopsf.fadedFile.tags (Aopsf.sampleRateOf Aopsf.fadedFile.version) - 0 <
        44145 ∧
      ((0 : Int) = (0 : Nat) ∧
        (iterate (Aopsf.aopsfLoop Aopsf.fadedFile Aopsf.constantPsx DecoderClient.playing) 44145
          ⟨0, 0, 0, 0⟩).2 = none ∧
        (iterate (Aopsf.aopsfLoop Aopsf.fadedFile Aopsf.constantPsx DecoderClient.playing) 44145
          ⟨0, 0, 0, 0⟩).1.flatMap DecodeEvent.samples =
          (List.range (2 * (Aopsf.songFrames Aopsf.fadedFile.tags
            (Aopsf.sampleRateOf Aopsf.fadedFile.version) - 0))).map
            (fun j => Aopsf.constantPsx.sample (2 * 0 + j)) ∧
        ∀ e ∈ (iterate (Aopsf.aopsfLoop Aopsf.fadedFile Aopsf.constantPsx DecoderClient.playing)
          44145 ⟨0, 0, 0, 0⟩).1, ∃ b, e = .submit b) := by
  have hlen : Aopsf.fadedFile.tags.lengthMs > 0 := by decide
  have hsum : Aopsf.fadedFile.tags.lengthMs.toNat + Aopsf.fadedFile.tags.fadeMs.toNat < 2 ^ 32 := by
    decide
  have hst : (Aopsf.aopsfFileDecode 0 Aopsf.fadedFile Aopsf.constantPsx DecoderClient.playing).2 =
      some ⟨0, 0, 0, 0⟩ := by
    rw [Aopsf.aopsfFileDecode_of_starts Aopsf.fadedFile_starts]
    rfl
  have hfuel : Aopsf.songFrames Aopsf.fadedFile.tags
      (Aopsf.sampleRateOf Aopsf.fadedFile.version) - 0 < 44145 := by decide
  exact ⟨Aopsf.fadedFile_starts, hlen, hsum, Emulator.constant_renders _, hst,
    DecoderClient.playing_plays 0, hfuel,
    Aopsf.aopsfFileDecode_plays_to_end Aopsf.fadedFile_starts hlen hsum
      (Emulator.constant_renders _) hst (DecoderClient.playing_plays 0) 44145 hfuel⟩

/-! ## 5. No fade -/

/-- **aopsf does not fade.**  At `44100` Hz the tags of `fadedFile` give `L = 44` frames of body
and `F = 44100` of fade.  With an emulator that generates `INT16_MAX` throughout and a client
that lets it play, the first buffer holds frames `0` to `1023`; its sample `90`, the left
channel of frame `45` inside the fade, is submitted as `32767`, where the fade
`x · (L + F - p) / F` gives `32766`. -/
theorem Aopsf.aopsfFileDecode_does_not_fade :
    ∃ b, (Aopsf.aopsfFileDecode 1 Aopsf.fadedFile
        Aopsf.constantPsx DecoderClient.playing).1 =
        [.ready 44100 true (some 1001), .submit b] ∧
      b[90]?.map Sample.val = some 32767 ∧
      (fadeEnvelope 44 44100 45 Sample.int16Max).val = 32766 := by
  have hD : Aopsf.lengthFrames Aopsf.fadedFile.tags 44100 = 44144 := by decide
  have hdur : Aopsf.getPsfDurationMS Aopsf.fadedFile.tags > 0 := by decide
  have hstep : Aopsf.aopsfLoop Aopsf.fadedFile Aopsf.constantPsx DecoderClient.playing
      ⟨0, 0, 0, 0⟩ =
      ([.submit (stereoSpan (fun _ => Sample.int16Max) 1024)], some ⟨1024, 1024, 1, 1⟩) := by
    rw [aopsfLoop, decide_eq_true hdur,
      show sampleRateOf Aopsf.fadedFile.version = 44100 from rfl, hD]
    exact Aopsf.aopsfLoopStep_plays (Emulator.constant_renders _) rfl (by decide) ⟨nofun, nofun⟩
  refine ⟨stereoSpan (fun _ => Sample.int16Max) 1024, ?_, ?_, by decide⟩
  · rw [Aopsf.aopsfFileDecode_of_starts Aopsf.fadedFile_starts, aopsfPlay_of_accepted (by decide),
      iterate_succ_of_continue 0 hstep]
    show DecodeEvent.ready 44100 (decide (Aopsf.getPsfDurationMS Aopsf.fadedFile.tags > 0))
      (Aopsf.reportedDurationMS Aopsf.fadedFile.tags) :: _ = _
    rw [decide_eq_true hdur,
      show Aopsf.reportedDurationMS Aopsf.fadedFile.tags = some 1001 by decide]
    rfl
  · simp only [stereoSpan, List.getElem?_map, List.getElem?_range (by decide : 90 < 2 * 1024),
      Option.map_some']
    rfl

/-! ## 6. The length the scan reports -/

section Stream

variable {psx : Aopsf.PsxState} (client : DecoderClient)

/-- The player's view of the loop: the emulator's position, and the buffers submitted. -/
def Aopsf.AopsfLoopState.toPlayer (st : Aopsf.AopsfLoopState) : PlayerState :=
  ⟨st.pos, st.submits⟩

/-- The stream player aopsf implements at the rate `sampleRate` for a file without a
duration. -/
def Aopsf.streamPlayer (sampleRate : Nat) : StreamPlayer := ⟨Aopsf.bufferFrames, sampleRate⟩

/-- A seek on an emulator that generates and restarts succeeds. -/
theorem Aopsf.aopsfSeek_of_renders (hemu : psx.Renders) {seekIndex : Nat}
    (hrestart : psx.restartFails seekIndex = false) (calls : Nat) (seekMs : Int)
    (sampleRate : Nat) : (Aopsf.aopsfSeek psx seekIndex calls seekMs sampleRate).2 = true := by
  have hskip : ∀ frames, skipFrames psx.toEmulator calls frames =
      ((skipFrames psx.toEmulator calls frames).1, none) :=
    fun frames => Prod.ext rfl (skipFrames_of_renders hemu calls frames)
  unfold aopsfSeek
  simp only [hrestart, Bool.false_eq_true, ↓reduceIte]
  split
  · rfl
  · rw [hskip]

/-- **Without a duration, one iteration of aopsf's loop is one step of the stream player**, for
an emulator that generates and whose restarts succeed, from any state. -/
theorem Aopsf.aopsfLoopStep_refines_stream (hemu : psx.Renders)
    (hrestart : ∀ n, psx.restartFails n = false) (lengthFrames : Int) (sampleRate : Nat) :
    StepRefines (Aopsf.aopsfLoopStep psx client false lengthFrames sampleRate)
      ((Aopsf.streamPlayer sampleRate).step psx.sample client) Aopsf.AopsfLoopState.toPlayer
      (fun _ => True) := by
  intro st _
  simp only [aopsfLoopStep, Bool.false_eq_true, false_and, ↓reduceIte, hemu st.calls,
    StreamPlayer.step, AopsfLoopState.toPlayer]
  cases client.command st.submits with
  | seek =>
    have hok := Aopsf.aopsfSeek_of_renders hemu (hrestart st.submits) (st.calls + 1)
      ((client.seekTime st.submits).toNat : Int) sampleRate
    rcases hs : Aopsf.aopsfSeek psx st.submits (st.calls + 1)
      ((client.seekTime st.submits).toNat : Int) sampleRate with ⟨calls, _ | _⟩
    · rw [hs] at hok
      cases hok
    · exact ⟨rfl, rfl, fun _ _ => trivial⟩
  | stop => exact ⟨rfl, rfl, nofun⟩
  | none | start => exact ⟨rfl, rfl, fun _ _ => trivial⟩

/-- **Without a duration, aopsf plays the emulator's stream until the client stops it.**  For a
PSF1 or PSF2 file that loads and starts and whose duration is `0` (no length tag, or a length
and fade whose sum wraps to `0`) and an emulator that generates and whose restarts succeed, the
decode calls `Ready` without a length and then emits exactly what the stream player emits, for
every client and every number of iterations: `1024`-frame buffers as generated, and a `SEEK` to
`t` acknowledged with the stream restarted at `⌊t · r / 1000⌋`.  And it returns only after the
client has answered a buffer with `STOP`. -/
theorem Aopsf.aopsfFileDecode_streams (fuel : Nat) {file : Aopsf.AopsfFile}
    (hstart : file.Starts) (hdur : Aopsf.getPsfDurationMS file.tags = 0) (hemu : psx.Renders)
    (hrestart : ∀ n, psx.restartFails n = false)
    (hfmt : client.acceptsSampleRate (Aopsf.sampleRateOf file.version) = true) :
    (Aopsf.aopsfFileDecode fuel file psx client).1 =
        .ready (Aopsf.sampleRateOf file.version) false none ::
          (iterate ((Aopsf.streamPlayer (Aopsf.sampleRateOf file.version)).step psx.sample
            client) fuel ⟨0, 0⟩).1 ∧
      (Aopsf.aopsfFileDecode fuel file psx client).2.map Aopsf.AopsfLoopState.toPlayer =
        (iterate ((Aopsf.streamPlayer (Aopsf.sampleRateOf file.version)).step psx.sample
          client) fuel ⟨0, 0⟩).2 ∧
      ((Aopsf.aopsfFileDecode fuel file psx client).2 = none →
        ∃ k, k < fuel ∧ client.command k = .stop) := by
  have hstep := Aopsf.aopsfLoopStep_refines_stream client hemu hrestart
    (Aopsf.lengthFrames file.tags (Aopsf.sampleRateOf file.version))
    (Aopsf.sampleRateOf file.version)
  have h := iterate_refines hstep fuel ⟨0, 0, 0, 0⟩ trivial
  have hlen : decide (Aopsf.getPsfDurationMS file.tags > 0) = false := by simp [hdur]
  rw [aopsfFileDecode_of_starts hstart, aopsfPlay_of_accepted hfmt, aopsfLoop, hlen,
    show Aopsf.reportedDurationMS file.tags = none by simp [reportedDurationMS, hdur]]
  exact ⟨congrArg _ h.1, h.2, StreamPlayer.stop_of_refines _ psx.sample client hstep (by rfl) fuel⟩

end Stream

/-- A PSF1 file without tags, which loads and starts. -/
def Aopsf.untimedFile : Aopsf.AopsfFile where
  version := 1
  tags := {}
  loadResult := 1
  psf2fsCreated := true
  startOk := true

/-- `untimedFile` on the constant emulator, for two iterations of a client that plays. -/
theorem Aopsf.untimedFile_streams :
    Aopsf.untimedFile.Starts ∧ Aopsf.getPsfDurationMS Aopsf.untimedFile.tags = 0 ∧
      Aopsf.constantPsx.Renders ∧ (∀ n, Aopsf.constantPsx.restartFails n = false) ∧
      DecoderClient.playing.acceptsSampleRate (Aopsf.sampleRateOf Aopsf.untimedFile.version) ∧
      (Aopsf.aopsfFileDecode 2 Aopsf.untimedFile Aopsf.constantPsx DecoderClient.playing).1 =
        .ready 44100 false none ::
          (iterate ((Aopsf.streamPlayer 44100).step Aopsf.constantPsx.sample
            DecoderClient.playing) 2 ⟨0, 0⟩).1 ∧
      (Aopsf.aopsfFileDecode 2 Aopsf.untimedFile Aopsf.constantPsx
          DecoderClient.playing).2.map Aopsf.AopsfLoopState.toPlayer =
        (iterate ((Aopsf.streamPlayer 44100).step Aopsf.constantPsx.sample
          DecoderClient.playing) 2 ⟨0, 0⟩).2 ∧
      ((Aopsf.aopsfFileDecode 2 Aopsf.untimedFile Aopsf.constantPsx DecoderClient.playing).2 =
          none → ∃ k, k < 2 ∧ DecoderClient.playing.command k = .stop) :=
  have hstart : Aopsf.untimedFile.Starts := ⟨Or.inl rfl, rfl, fun h => absurd h (by decide), rfl⟩
  ⟨hstart, rfl, Emulator.constant_renders _, fun _ => rfl, rfl,
    Aopsf.aopsfFileDecode_streams DecoderClient.playing 2 hstart rfl (Emulator.constant_renders _)
      (fun _ => rfl) rfl⟩

end Vgmpd
