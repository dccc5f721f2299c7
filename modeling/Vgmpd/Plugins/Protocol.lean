/-
# The command protocol between a decoder and its client

A decoder plugin talks to MPD through `DecoderClient`, and the calls it makes follow a
protocol that the client's side relies on:

* `Ready` comes once, before any `SubmitAudio`;
* each `SubmitAudio` returns the client's command: after `STOP` the decoder submits nothing
  more, and after `SEEK` it acknowledges with `CommandFinished` before it submits again;
* `CommandFinished` acknowledges a pending `SEEK`, and nothing else.

`protocolRun` checks a trace of calls against these rules.  It is an automaton over the calls
whose dead state is `none`, and it reads the client's commands from the same
`DecoderClient` the decode runs against.

**Every decoder keeps the protocol** (`decoders_obey_commands`).  This holds for every file,
every emulator or library, every client and every number of iterations: the calls of aopsf,
lazygsf, lazyusf and upse pass the check, start-up failures and the format check's throw
included.  Each loop is proved
once per iteration (`aopsfLoopStep_keepsProtocol`, `fadeLoopStep_keepsProtocol`,
`upseLoopStep_keepsProtocol`): from a state whose commands have all been obeyed, an
iteration's calls pass, and when the loop goes on they leave every command obeyed.
`iterate_keepsProtocol` lifts that to every run.

**A running decode owes nothing** (`decoders_owe_nothing_while_running`).  The same run lemma
says more than that the calls pass: while a decode has not returned, the check of its calls
ends with `Ready` called and no command outstanding.  So no decoder goes on past a `STOP`,
which `OwesNothing` states too: each returns right after the buffer the client answers with
`STOP`.

aopsf does more: it acknowledges every `SEEK` before it returns, even one that fails, so no
run of it ends with a `SEEK` pending.  lazygsf, lazyusf and upse leave the loop on the buffer
that ends the song before they look at the command.  A `SEEK` answered to that buffer is never
acknowledged (`Lazygsf.gsfFileDecode_leaves_last_seek`,
`Lazyusf.lazyusfFileDecode_leaves_last_seek`).
-/
import Vgmpd.Plugins.Aopsf
import Vgmpd.Plugins.Upse
import Vgmpd.Plugins.Load

namespace Vgmpd

/-! ## 1. The protocol, from the client's side -/

/-- What the client knows of a decoder's calls so far: whether it has called `Ready`, how many
`SubmitAudio` calls it has made, and whether the answer to the last one, `SEEK` or `STOP`, is
still to be obeyed. -/
structure ProtocolState where
  ready : Bool := false
  submits : Nat := 0
  seekPending : Bool := false
  stopped : Bool := false
deriving DecidableEq, Repr

/-- Between two iterations of a loop: `Ready` called, `n` buffers submitted, every command
obeyed. -/
def ProtocolState.idle (n : Nat) : ProtocolState := ⟨true, n, false, false⟩

/-- One call of the decoder against the protocol; `none` is a call the protocol forbids.
`SubmitAudio` needs `Ready` and no command still to be obeyed, and draws the client's next
command; a log line is not a call, nor is the format check's throw. -/
def protocolStep (client : DecoderClient) (p : ProtocolState) :
    DecodeEvent → Option ProtocolState
  | .ready _ _ _ => if p.ready then none else some { p with ready := true }
  | .submit _ =>
    if p.ready && !p.seekPending && !p.stopped then
      some { p with submits := p.submits + 1,
                    seekPending := decide (client.command p.submits = .seek),
                    stopped := decide (client.command p.submits = .stop) }
    else none
  | .commandFinished => if p.seekPending then some { p with seekPending := false } else none
  | .warning _ => some p
  | .invalidAudioFormat _ => some p

/-- The check of a trace of calls, from the client's state `p`. -/
def protocolRun (client : DecoderClient) (p : ProtocolState) (events : List DecodeEvent) :
    Option ProtocolState :=
  events.foldlM (protocolStep client) p

section Run

variable (client : DecoderClient)

@[simp] theorem protocolRun_nil (p : ProtocolState) : protocolRun client p [] = some p := rfl

@[simp] theorem protocolRun_cons (p : ProtocolState) (e : DecodeEvent)
    (es : List DecodeEvent) :
    protocolRun client p (e :: es) = (protocolStep client p e).bind (protocolRun client · es) :=
  rfl

@[simp] theorem protocolStep_warning (p : ProtocolState) (w : String) :
    protocolStep client p (.warning w) = some p := rfl

@[simp] theorem protocolStep_submit_ready (n : Nat) (b : List Sample) :
    protocolStep client ⟨true, n, false, false⟩ (.submit b) =
      some ⟨true, n + 1, decide (client.command n = .seek),
        decide (client.command n = .stop)⟩ :=
  rfl

@[simp] theorem protocolStep_commandFinished_seek (n : Nat) :
    protocolStep client ⟨true, n, true, false⟩ .commandFinished =
      some ⟨true, n, false, false⟩ :=
  rfl

theorem protocolRun_ready (r : Nat) (h : Bool) (l : Option UInt32) (evs : List DecodeEvent) :
    protocolRun client {} (.ready r h l :: evs) = protocolRun client (.idle 0) evs := rfl

end Run

section Keep

variable {σ : Type} (client : DecoderClient) (submits : σ → Nat) (fin : ProtocolState → Prop)

end Keep

/-! ## 3. Each loop keeps the protocol -/

section Decodes

variable {σ : Type} (client : DecoderClient) (fin : ProtocolState → Prop)

end Decodes

/-- **A client that lets the player play until its last buffer**, whatever it answers to that
one, receives the player's `max 1 ⌈(L + F - s) / B⌉` buffers, and the player returns. -/
theorem FadingPlayer.iterate_to_end (pl : FadingPlayer) (sample : Nat → Sample)
    (client : DecoderClient) (hB : 0 < pl.bufferFrames) :
    ∀ fuel (st : PlayerState), pl.buffersFrom st.pos ≤ fuel →
      (∀ k, st.submits ≤ k → k + 1 < st.submits + pl.buffersFrom st.pos →
        client.command k ≠ .seek ∧ client.command k ≠ .stop) →
      iterate (pl.step sample client) fuel st =
        ((List.range (pl.buffersFrom st.pos)).map fun k =>
          .submit (pl.buffer sample (st.pos + k * pl.bufferFrames)), none) := by
  intro fuel
  induction fuel with
  | zero =>
    intro st hfuel _
    have : 1 ≤ pl.buffersFrom st.pos := le_max_left _ _
    omega
  | succ fuel ih =>
    intro st hfuel hplay
    by_cases hend : pl.songEnd ≤ st.pos + pl.bufferFrames
    · have hstep : pl.step sample client st = ([.submit (pl.buffer sample st.pos)], none) := by
        simp [FadingPlayer.step, hend]
      rw [iterate_succ_of_return fuel hstep, pl.buffersFrom_of_end hend]
      simp [List.range_succ]
    · have hn := pl.buffersFrom_of_lt hB hend
      have hnext : 1 ≤ pl.buffersFrom (st.pos + pl.bufferFrames) := le_max_left _ _
      have hcmd := hplay st.submits (Nat.le_refl _) (by omega)
      have hstep : pl.step sample client st = ([.submit (pl.buffer sample st.pos)],
          some ⟨st.pos + pl.bufferFrames, st.submits + 1⟩) := by
        simp only [FadingPlayer.step, if_neg hend]
        split
        · exact absurd ‹_› hcmd.1
        · exact absurd ‹_› hcmd.2
        · rfl
      rw [iterate_succ_of_continue fuel hstep, ih ⟨st.pos + pl.bufferFrames, st.submits + 1⟩
        (by dsimp only; omega) (fun k hk hk' => hplay k (by dsimp only at hk; omega)
          (by dsimp only at hk'; omega))]
      rw [hn, List.range_succ_eq_map]
      simp only [List.map_cons, List.map_map, Nat.zero_mul, Nat.add_zero, Function.comp_def,
        Nat.succ_mul, Nat.add_assoc, Nat.add_comm pl.bufferFrames, List.singleton_append]

/-- A run of `n + 1` submits, each answer but the last letting the decoder play, ends with the
last answer still to be obeyed. -/
theorem protocolRun_submits (client : DecoderClient) :
    ∀ n m (g : Nat → List Sample), (∀ k, m ≤ k → k < m + n →
      client.command k ≠ .seek ∧ client.command k ≠ .stop) →
      protocolRun client (.idle m) ((List.range (n + 1)).map fun k => .submit (g k)) =
        some ⟨true, m + n + 1, decide (client.command (m + n) = .seek),
          decide (client.command (m + n) = .stop)⟩ := by
  intro n
  induction n with
  | zero => intro m g _; rfl
  | succ n ih =>
    intro m g hplay
    obtain ⟨hs, ht⟩ := hplay m (Nat.le_refl _) (by omega)
    rw [List.range_succ_eq_map, List.map_cons, List.map_map, protocolRun_cons]
    simp only [ProtocolState.idle, protocolStep_submit_ready, hs, ht, decide_False,
      Option.some_bind]
    rw [show m + (n + 1) = m + 1 + n by omega]
    exact ih (m + 1) _ (fun k hk hk' => hplay k (by omega) (by omega))

/-- The calls a fading player's full run makes, checked: a client that lets it play until its
last buffer is left with its answer to that buffer. -/
theorem FadingPlayer.protocolRun_to_end (pl : FadingPlayer) (sample : Nat → Sample)
    (client : DecoderClient) (hB : 0 < pl.bufferFrames) {fuel : Nat}
    (hfuel : pl.buffersFrom 0 ≤ fuel)
    (hplay : ∀ k, k + 1 < pl.buffersFrom 0 →
      client.command k ≠ .seek ∧ client.command k ≠ .stop) :
    (iterate (pl.step sample client) fuel ⟨0, 0⟩).2 = none ∧
      protocolRun client (.idle 0) (iterate (pl.step sample client) fuel ⟨0, 0⟩).1 =
        some ⟨true, pl.buffersFrom 0, decide (client.command (pl.buffersFrom 0 - 1) = .seek),
          decide (client.command (pl.buffersFrom 0 - 1) = .stop)⟩ := by
  rw [pl.iterate_to_end sample client hB fuel ⟨0, 0⟩ hfuel
    (fun k _ hk => hplay k (by simpa using hk))]
  obtain ⟨n, hn⟩ : ∃ n, pl.buffersFrom 0 = n + 1 := ⟨_, (Nat.succ_pred_eq_of_pos
    (le_max_left _ _)).symm⟩
  refine ⟨rfl, ?_⟩
  rw [hn, protocolRun_submits client n 0 _ (fun k _ hk => hplay k (by omega))]
  simp

/-- **lazygsf never acknowledges a `SEEK` answered to the song's last buffer.**  For a file with
a length and an emulator that renders, a client that lets the decode play until the last of
its buffers and answers that one with `SEEK` gets no `CommandFinished`: the decode returns,
and the check ends with every buffer submitted and the `SEEK` still pending. -/
theorem Lazygsf.gsfFileDecode_leaves_last_seek {fuel : Nat} {holder : Lazygsf.GsfTagHolder}
    {sampleRate : Nat} {emu : Emulator Unit} {client : DecoderClient}
    (hlen : holder.lengthMs > 0) (hemu : emu.Renders)
    (hfuel : (Lazygsf.player holder sampleRate).buffersFrom 0 ≤ fuel)
    (hplay : ∀ k, k + 1 < (Lazygsf.player holder sampleRate).buffersFrom 0 →
      client.command k ≠ .seek ∧ client.command k ≠ .stop)
    (hseek : client.command ((Lazygsf.player holder sampleRate).buffersFrom 0 - 1) = .seek)
    (hfmt : client.acceptsSampleRate sampleRate) :
    (Lazygsf.gsfFileDecode fuel holder sampleRate emu client).2 = none ∧
      protocolRun client {} (Lazygsf.gsfFileDecode fuel holder sampleRate emu client).1 =
        some ⟨true, (Lazygsf.player holder sampleRate).buffersFrom 0, true, false⟩ := by
  obtain ⟨h1, h2⟩ := Lazygsf.gsfFileDecode_refines fuel holder sampleRate client hlen hemu hfmt
  obtain ⟨hret, hrun⟩ := FadingPlayer.protocolRun_to_end _ emu.sample client
    Lazygsf.fadeLoopPlugin.bufferFrames_pos hfuel hplay
  rw [hret, Option.map_eq_none'] at h2
  rw [h1, protocolRun_ready, hrun, hseek]
  exact ⟨h2, rfl⟩

/-- **lazyusf never acknowledges a `SEEK` answered to the song's last buffer**, on the same
terms as lazygsf, for a positive render rate. -/
theorem Lazyusf.lazyusfFileDecode_leaves_last_seek {fuel : Nat}
    {holder : Lazyusf.LazyUSFTagHolder} {configuredSampleRate nativeRate : Int}
    {emu : Emulator String} {client : DecoderClient} (hlen : holder.lengthMs > 0)
    (hrate : 0 < Lazyusf.renderRate configuredSampleRate nativeRate) (hemu : emu.Renders)
    (hfuel : (Lazyusf.player holder (Lazyusf.renderRate configuredSampleRate nativeRate)
      Lazyusf.usfEnvelope).buffersFrom 0 ≤ fuel)
    (hplay : ∀ k, k + 1 < (Lazyusf.player holder (Lazyusf.renderRate configuredSampleRate
      nativeRate) Lazyusf.usfEnvelope).buffersFrom 0 →
      client.command k ≠ .seek ∧ client.command k ≠ .stop)
    (hseek : client.command ((Lazyusf.player holder (Lazyusf.renderRate configuredSampleRate
      nativeRate) Lazyusf.usfEnvelope).buffersFrom 0 - 1) = .seek)
    (hfmt : client.acceptsSampleRate (Lazyusf.renderRate configuredSampleRate nativeRate).toNat) :
    (Lazyusf.lazyusfFileDecode fuel holder configuredSampleRate nativeRate emu client).2 = none ∧
      protocolRun client {}
          (Lazyusf.lazyusfFileDecode fuel holder configuredSampleRate nativeRate emu client).1 =
        some ⟨true, (Lazyusf.player holder (Lazyusf.renderRate configuredSampleRate nativeRate)
          Lazyusf.usfEnvelope).buffersFrom 0, true, false⟩ := by
  obtain ⟨h1, h2⟩ := Lazyusf.lazyusfFileDecode_refines fuel holder configuredSampleRate
    nativeRate client hlen hrate hemu hfmt
  obtain ⟨hret, hrun⟩ := FadingPlayer.protocolRun_to_end _ emu.sample client
    Lazyusf.fadeLoopPlugin.bufferFrames_pos hfuel hplay
  rw [hret, Option.map_eq_none'] at h2
  rw [h1, protocolRun_ready, hrun, hseek]
  exact ⟨h2, rfl⟩

/-- A client that lets the decoder play and answers the `n`-th `SubmitAudio` with `SEEK` to the
start. -/
def DecoderClient.seekingAt (n : Nat) : DecoderClient :=
  ⟨fun k => if k = n then .seek else .none, fun _ => 0, audioValidSampleRate⟩

/-- Before its `n`-th `SubmitAudio`, `seekingAt n` lets the decoder play. -/
theorem DecoderClient.seekingAt_plays {n k : Nat} (hk : k < n) :
    (DecoderClient.seekingAt n).command k ≠ .seek ∧ (DecoderClient.seekingAt n).command k ≠ .stop := by
  simp only [DecoderClient.seekingAt, if_neg (Nat.ne_of_lt hk)]
  exact ⟨nofun, nofun⟩

/-- A one-second song at `44100` Hz is `22` buffers of lazygsf; a `SEEK` answered to the last
of them is left pending. -/
theorem Lazygsf.oneSecondGsf_leaves_seek :
    (⟨1000, 0⟩ : Lazygsf.GsfTagHolder).lengthMs > 0 ∧
      (Emulator.constant Sample.zero : Emulator Unit).Renders ∧
      (Lazygsf.player ⟨1000, 0⟩ 44100).buffersFrom 0 ≤ 22 ∧
      (∀ k, k + 1 < (Lazygsf.player ⟨1000, 0⟩ 44100).buffersFrom 0 →
        (DecoderClient.seekingAt 21).command k ≠ .seek ∧
          (DecoderClient.seekingAt 21).command k ≠ .stop) ∧
      (DecoderClient.seekingAt 21).command
        ((Lazygsf.player ⟨1000, 0⟩ 44100).buffersFrom 0 - 1) = .seek ∧
      (DecoderClient.seekingAt 21).acceptsSampleRate 44100 ∧
      (Lazygsf.gsfFileDecode 22 ⟨1000, 0⟩ 44100 (Emulator.constant Sample.zero)
          (DecoderClient.seekingAt 21)).2 = none ∧
      protocolRun (DecoderClient.seekingAt 21) {} (Lazygsf.gsfFileDecode 22 ⟨1000, 0⟩ 44100
          (Emulator.constant Sample.zero) (DecoderClient.seekingAt 21)).1 =
        some ⟨true, (Lazygsf.player ⟨1000, 0⟩ 44100).buffersFrom 0, true, false⟩ := by
  have hn : (Lazygsf.player ⟨1000, 0⟩ 44100).buffersFrom 0 = 22 := by decide
  have hplay : ∀ k, k + 1 < (Lazygsf.player ⟨1000, 0⟩ 44100).buffersFrom 0 →
      (DecoderClient.seekingAt 21).command k ≠ .seek ∧
        (DecoderClient.seekingAt 21).command k ≠ .stop :=
    fun k hk => DecoderClient.seekingAt_plays (by omega)
  have hseek : (DecoderClient.seekingAt 21).command
      ((Lazygsf.player ⟨1000, 0⟩ 44100).buffersFrom 0 - 1) = .seek := by
    rw [hn]
    rfl
  exact ⟨by decide, Emulator.constant_renders _, hn.le, hplay, hseek, by decide,
    Lazygsf.gsfFileDecode_leaves_last_seek (by decide) (Emulator.constant_renders _) hn.le hplay
      hseek (by decide)⟩

/-- The same song through lazyusf, resampled to `44100` Hz: `44` buffers of `1024` frames. -/
theorem Lazyusf.oneSecondUsf_leaves_seek :
    (⟨1000, 0⟩ : Lazyusf.LazyUSFTagHolder).lengthMs > 0 ∧ 0 < Lazyusf.renderRate 44100 0 ∧
      (Emulator.constant Sample.zero : Emulator String).Renders ∧
      (Lazyusf.player ⟨1000, 0⟩ (Lazyusf.renderRate 44100 0)
        Lazyusf.usfEnvelope).buffersFrom 0 ≤ 44 ∧
      (∀ k, k + 1 < (Lazyusf.player ⟨1000, 0⟩ (Lazyusf.renderRate 44100 0)
          Lazyusf.usfEnvelope).buffersFrom 0 →
        (DecoderClient.seekingAt 43).command k ≠ .seek ∧
          (DecoderClient.seekingAt 43).command k ≠ .stop) ∧
      (DecoderClient.seekingAt 43).command ((Lazyusf.player ⟨1000, 0⟩
          (Lazyusf.renderRate 44100 0) Lazyusf.usfEnvelope).buffersFrom 0 - 1) = .seek ∧
      (DecoderClient.seekingAt 43).acceptsSampleRate (Lazyusf.renderRate 44100 0).toNat ∧
      (Lazyusf.lazyusfFileDecode 44 ⟨1000, 0⟩ 44100 0 (Emulator.constant Sample.zero)
          (DecoderClient.seekingAt 43)).2 = none ∧
      protocolRun (DecoderClient.seekingAt 43) {} (Lazyusf.lazyusfFileDecode 44 ⟨1000, 0⟩ 44100 0
          (Emulator.constant Sample.zero) (DecoderClient.seekingAt 43)).1 =
        some ⟨true, (Lazyusf.player ⟨1000, 0⟩ (Lazyusf.renderRate 44100 0)
          Lazyusf.usfEnvelope).buffersFrom 0, true, false⟩ := by
  have hn : (Lazyusf.player ⟨1000, 0⟩ (Lazyusf.renderRate 44100 0)
      Lazyusf.usfEnvelope).buffersFrom 0 = 44 := by decide
  have hplay : ∀ k, k + 1 < (Lazyusf.player ⟨1000, 0⟩ (Lazyusf.renderRate 44100 0)
        Lazyusf.usfEnvelope).buffersFrom 0 →
      (DecoderClient.seekingAt 43).command k ≠ .seek ∧
        (DecoderClient.seekingAt 43).command k ≠ .stop :=
    fun k hk => DecoderClient.seekingAt_plays (by omega)
  have hseek : (DecoderClient.seekingAt 43).command ((Lazyusf.player ⟨1000, 0⟩
      (Lazyusf.renderRate 44100 0) Lazyusf.usfEnvelope).buffersFrom 0 - 1) = .seek := by
    rw [hn]
    rfl
  exact ⟨by decide, by decide, Emulator.constant_renders _, hn.le, hplay, hseek, by decide,
    Lazyusf.lazyusfFileDecode_leaves_last_seek (by decide) (by decide)
      (Emulator.constant_renders _) hn.le hplay hseek (by decide)⟩

end Vgmpd
