import NetworkCopy.Lane.Agreement
import NetworkCopy.Lib.DuplexStream

/-!
# Payloads on any stream

`agree_payload` says what two parties do with each other.  Here the receiver stands alone: on what
a sender has written it delivers the payload and stops behind it, and on any stream whatever it
hands its writer nothing but the next bytes of the payload, until it has all of them.

An error of the receiver says nothing about what it delivered before.  `strictWriter` does: it
accepts only the next bytes inside the payload, and the receiver does not notice that it is there.
-/

namespace NetworkCopy

open Duplex StreamEnd

/-! ## Turns -/

section

variable {α β : Type}

theorem onStream_attempt {kind : IoError → Fault} {result : IoResult α} {stream rest : Bytes}
    {value : α} : (attempt kind result).onStream stream = returned value rest ↔
      result = .ok value ∧ rest = stream := by
  cases result with
  | ok found =>
    rw [attempt_ok, Proc.onStream_ret]
    constructor
    · intro h
      cases h
      exact ⟨rfl, rfl⟩
    · intro h
      cases h.1
      rw [h.2]
  | error error =>
    rw [attempt_error, Proc.onStream_fail]
    constructor
    · intro h
      cases h
    · intro h
      cases h.1

/-- A step of the receiver that does not read. -/
theorem onStream_attempt_bind (kind : IoError → Fault) (result : IoResult α) (f : α → Party β)
    (stream : Bytes) : (attempt kind result >>= f).onStream stream =
      match result with
      | .ok value => (f value).onStream stream
      | .error error => failed (kind error) := by
  cases result <;> rfl

/-- Two parties in a row. -/
theorem onStream_bind_returned {p : Party α} {f : α → Party β} {stream rest : Bytes} {value : β}
    (h : (p >>= f).onStream stream = returned value rest) :
    ∃ first middle, p.onStream stream = returned first middle ∧
      (f first).onStream middle = returned value rest := by
  rw [Proc.onStream_bind] at h
  exact andThen_eq_returned h

end

section

variable {σ : Type} {blake3 : Bytes → Digest} {zstd : Zstd}
  {writeChunk : σ → Bytes → Nat → IoResult σ} {byteCount bufferBytes : Nat}
  {decision : CompressionDecision}

/-- A chunk that is received has bytes, and no more than the payload is missing. -/
theorem receiveChunk_bounds {remaining : Nat} {stream rest chunk : Bytes}
    (hbuffer : bufferBytes ≠ 0) (hremaining : 0 < remaining)
    (h : (receiveChunk zstd bufferBytes decision remaining).onStream stream =
      returned chunk rest) : 0 < chunk.length ∧ chunk.length ≤ remaining := by
  cases decision with
  | sendRaw =>
    rw [receiveChunk, Proc.onStream_read] at h
    split at h
    · next hcount =>
        cases h
        rw [List.length_take_of_le hcount]
        omega
    · cases h
  | compress =>
    unfold receiveChunk at h
    obtain ⟨rawLength, _, _, h⟩ := onStream_bind_returned h
    obtain ⟨frameLength, _, _, h⟩ := onStream_bind_returned h
    obtain ⟨_, _, hraw, h⟩ := onStream_bind_returned h
    obtain ⟨_, _, _, h⟩ := onStream_bind_returned h
    obtain ⟨frame, _, _, h⟩ := onStream_bind_returned h
    obtain ⟨expanded, _, _, h⟩ := onStream_bind_returned h
    obtain ⟨_, _, hlength, h⟩ := onStream_bind_returned h
    cases h
    have hvalid := ensure_eq_ok.mp (onStream_attempt.mp hraw).1
    have hsame := ensure_eq_ok.mp (onStream_attempt.mp hlength).1
    omega

/-- A turn of the loop, as long as the payload misses bytes. -/
theorem receiveChunks_onStream {fuel transferred : Nat} {hashed stream : Bytes} {state : σ}
    (hmore : transferred < byteCount) :
    (receiveChunks zstd writeChunk byteCount bufferBytes decision (fuel + 1) transferred hashed
      state).onStream stream =
      ((receiveChunk zstd bufferBytes decision (byteCount - transferred)).onStream
        stream).andThen (fun chunk rest =>
          match writeChunk state chunk transferred with
          | .ok next => (receiveChunks zstd writeChunk byteCount bufferBytes decision fuel
              (transferred + chunk.length) (hashed ++ chunk) next).onStream rest
          | .error error => failed (.disk error)) := by
  rw [receiveChunks, if_pos hmore, Proc.onStream_bind]
  congr 1
  funext chunk rest
  exact onStream_attempt_bind _ _ _ _

theorem receiveChunks_done {fuel : Nat} {hashed : Bytes} {state : σ} :
    receiveChunks zstd writeChunk byteCount bufferBytes decision fuel byteCount hashed state =
      Proc.ret (hashed, state) := by
  cases fuel with
  | zero => rfl
  | succ fuel =>
    rw [receiveChunks, if_neg (Nat.lt_irrefl byteCount)]
    rfl

/-- Two continuations that agree on every chunk that can be received. -/
theorem receiveChunk_congr {γ : Type} {transferred : Nat} {stream : Bytes}
    {next next' : Bytes → Bytes → StreamEnd UInt8 Fault γ} (hbuffer : bufferBytes ≠ 0)
    (hmore : transferred < byteCount)
    (hsame : ∀ chunk rest, 0 < chunk.length → transferred + chunk.length ≤ byteCount →
      next chunk rest = next' chunk rest) :
    ((receiveChunk zstd bufferBytes decision (byteCount - transferred)).onStream
      stream).andThen next =
      ((receiveChunk zstd bufferBytes decision (byteCount - transferred)).onStream
        stream).andThen next' := by
  match hchunk : (receiveChunk zstd bufferBytes decision (byteCount - transferred)).onStream
      stream with
  | returned chunk rest =>
    have hbounds := receiveChunk_bounds hbuffer (by omega) hchunk
    exact hsame chunk rest hbounds.1 (by omega)
  | failed error => rfl
  | endOfStream => rfl

/-! ## Enough turns -/

/-- Every turn takes a byte of the payload, so more fuel than missing bytes changes nothing: the
loop has ended by then. -/
theorem receiveChunks_fuel (hbuffer : bufferBytes ≠ 0) :
    ∀ (fuel extra transferred : Nat) (hashed stream : Bytes) (state : σ),
      transferred ≤ byteCount → byteCount - transferred ≤ fuel →
      (receiveChunks zstd writeChunk byteCount bufferBytes decision (fuel + extra) transferred
        hashed state).onStream stream =
      (receiveChunks zstd writeChunk byteCount bufferBytes decision fuel transferred hashed
        state).onStream stream := by
  intro fuel
  induction fuel with
  | zero =>
    intro extra transferred hashed stream state hle hfuel
    have hdone : transferred = byteCount := by omega
    rw [hdone, receiveChunks_done, receiveChunks_done]
  | succ fuel ih =>
    intro extra transferred hashed stream state hle hfuel
    by_cases hmore : transferred < byteCount
    · rw [show fuel + 1 + extra = fuel + extra + 1 by omega, receiveChunks_onStream hmore,
        receiveChunks_onStream hmore]
      apply receiveChunk_congr hbuffer hmore
      intro chunk rest hpos hin
      cases writeChunk state chunk transferred with
      | error error => rfl
      | ok next => exact ih _ _ _ _ _ hin (by omega)
    · have hdone : transferred = byteCount := by omega
      rw [hdone, receiveChunks_done, receiveChunks_done]

/-! ## What is delivered -/

/-- What the loop returns with: the rest of the payload has been delivered and hashed. -/
theorem receiveChunks_returned (hbuffer : bufferBytes ≠ 0) :
    ∀ (fuel transferred : Nat) (hashed stream rest hashed' : Bytes) (state state' : σ),
      transferred ≤ byteCount → byteCount - transferred ≤ fuel →
      (receiveChunks zstd writeChunk byteCount bufferBytes decision fuel transferred hashed
        state).onStream stream = returned (hashed', state') rest →
      ∃ bytes, hashed' = hashed ++ bytes ∧ transferred + bytes.length = byteCount ∧
        Delivered writeChunk state transferred bytes state' := by
  intro fuel
  induction fuel with
  | zero =>
    intro transferred hashed stream rest hashed' state state' hle hfuel h
    cases h
    exact ⟨[], (List.append_nil _).symm, by rw [List.length_nil]; omega, .nil _ _⟩
  | succ fuel ih =>
    intro transferred hashed stream rest hashed' state state' hle hfuel h
    by_cases hmore : transferred < byteCount
    · rw [receiveChunks_onStream hmore] at h
      obtain ⟨chunk, middle, hchunk, h⟩ := andThen_eq_returned h
      have hbounds := receiveChunk_bounds hbuffer (by omega) hchunk
      cases hwrite : writeChunk state chunk transferred with
      | error error =>
        rw [hwrite] at h
        cases h
      | ok next =>
        rw [hwrite] at h
        obtain ⟨bytes, hhashed, hlength, hdelivered⟩ :=
          ih _ _ _ _ _ _ _ (by omega) (by omega) h
        refine ⟨chunk ++ bytes, ?_, ?_, .cons hwrite hdelivered⟩
        · rw [hhashed, List.append_assoc]
        · rw [List.length_append]
          omega
    · have hdone : transferred = byteCount := by omega
      rw [hdone, receiveChunks_done] at h
      cases h
      exact ⟨[], (List.append_nil _).symm, by rw [List.length_nil]; omega, .nil _ _⟩

/-- A writer that counts what it was given, and refuses everything but the next bytes of the
payload. -/
def strictWriter (refusal : IoError) (byteCount : Nat)
    (writeChunk : σ → Bytes → Nat → IoResult σ) : Nat × σ → Bytes → Nat → IoResult (Nat × σ) :=
  fun (delivered, state) chunk offset => do
    ensure (offset = delivered ∧ delivered + chunk.length ≤ byteCount) refusal
    let next ← writeChunk state chunk offset
    return (delivered + chunk.length, next)

theorem strictWriter_next {refusal : IoError} {transferred : Nat} {chunk : Bytes} {state : σ}
    (hin : transferred + chunk.length ≤ byteCount) :
    strictWriter refusal byteCount writeChunk (transferred, state) chunk transferred =
      (writeChunk state chunk transferred).map (fun next => (transferred + chunk.length, next)) := by
  rw [strictWriter, ensure, if_pos ⟨rfl, hin⟩]
  cases writeChunk state chunk transferred <;> rfl

/-- The loop does not notice a strict writer. -/
theorem receiveChunks_strict (hbuffer : bufferBytes ≠ 0) (refusal : IoError) :
    ∀ (fuel transferred : Nat) (hashed stream : Bytes) (state : σ),
      transferred ≤ byteCount → byteCount - transferred ≤ fuel →
      (receiveChunks zstd (strictWriter refusal byteCount writeChunk) byteCount bufferBytes
        decision fuel transferred hashed (transferred, state)).onStream stream =
      ((receiveChunks zstd writeChunk byteCount bufferBytes decision fuel transferred hashed
        state).onStream stream).map (fun received => (received.1, (byteCount, received.2))) := by
  intro fuel
  induction fuel with
  | zero =>
    intro transferred hashed stream state hle hfuel
    have hdone : transferred = byteCount := by omega
    rw [hdone, receiveChunks_done, receiveChunks_done]
    rfl
  | succ fuel ih =>
    intro transferred hashed stream state hle hfuel
    by_cases hmore : transferred < byteCount
    · rw [receiveChunks_onStream hmore, receiveChunks_onStream hmore, map_andThen]
      apply receiveChunk_congr hbuffer hmore
      intro chunk rest hpos hin
      rw [strictWriter_next hin]
      cases writeChunk state chunk transferred with
      | error error => rfl
      | ok next => exact ih _ _ _ _ hin (by omega)
    · have hdone : transferred = byteCount := by omega
      rw [hdone, receiveChunks_done, receiveChunks_done]
      rfl

/-! ## Whose failures there are -/

/-- A failure of the disk is one of the writer. -/
def WriterFault (writeChunk : σ → Bytes → Nat → IoResult σ) : Fault → Prop
  | .disk error => ∃ state chunk offset, writeChunk state chunk offset = .error error
  | _ => True

theorem failsWith_attempt {α : Type} {R : Fault → Prop} {kind : IoError → Fault}
    {result : IoResult α} (h : ∀ error, result = .error error → R (kind error)) :
    (attempt kind result).FailsWith R := by
  cases result with
  | ok value => exact .ret value
  | error error => exact .fail (h error rfl)

theorem receiveChunk_failsWith (remaining : Nat) :
    (receiveChunk zstd bufferBytes decision remaining).FailsWith (WriterFault writeChunk) := by
  cases decision with
  | sendRaw => exact .read _
  | compress =>
    have hprotocol : ∀ {α : Type} {result : IoResult α},
        (attempt .protocol result).FailsWith (WriterFault writeChunk) :=
      failsWith_attempt (fun _ _ => trivial)
    have hu32 : readU32.FailsWith (WriterFault writeChunk) := 
      (Proc.FailsWith.read 4).bind (fun _ => .ret _)
    refine hu32.bind (fun rawLength => hu32.bind (fun frameLength => ?_))
    refine hprotocol.bind (fun _ => hprotocol.bind (fun _ => ?_))
    refine (Proc.FailsWith.read frameLength).bind (fun frame => hprotocol.bind (fun chunk => ?_))
    exact hprotocol.bind (fun _ => .ret chunk)

theorem receiveChunks_failsWith :
    ∀ (fuel transferred : Nat) (hashed : Bytes) (state : σ),
      (receiveChunks zstd writeChunk byteCount bufferBytes decision fuel transferred hashed
        state).FailsWith (WriterFault writeChunk) := by
  intro fuel
  induction fuel with
  | zero => exact fun transferred hashed state => .ret _
  | succ fuel ih =>
    intro transferred hashed state
    rw [receiveChunks]
    split
    · refine (receiveChunk_failsWith _).bind (fun chunk => ?_)
      refine (failsWith_attempt (fun error herror => ?_)).bind (fun next => ih _ _ _)
      exact ⟨state, chunk, transferred, herror⟩
    · exact .ret _

theorem receivePayload_failsWith {context : String} {state : σ} :
    (receivePayload blake3 zstd writeChunk byteCount bufferBytes context state).FailsWith
      (WriterFault writeChunk) := by
  have hmode : readMode.FailsWith (WriterFault writeChunk) := by
    refine (Proc.FailsWith.read 1).bind (fun bytes => ?_)
    show Proc.FailsWith _ (if bytes.headD 0 = modeRaw then _ else _)
    split
    · exact .ret _
    · split
      · exact .ret _
      · exact failsWith_attempt (fun _ _ => trivial)
  refine (failsWith_attempt (fun _ _ => trivial)).bind (fun _ => hmode.bind (fun decision => ?_))
  refine (receiveChunks_failsWith _ _ _ _).bind (fun received => ?_)
  refine ((Proc.FailsWith.read _).bind (fun _ => .ret _)).bind (fun digest => ?_)
  exact (failsWith_attempt (fun _ _ => trivial)).bind (fun _ => .ret _)

/-! ## Payloads -/

/-- A payload arrives: whatever a sender has written of it, with whatever behind it, the receiver
reports the sender's mode, has delivered the content at consecutive offsets and stops behind the
payload; only its writer can keep it from that. -/
def PayloadArrives (blake3 : Bytes → Digest) (zstd : Zstd)
    (writeChunk : σ → Bytes → Nat → IoResult σ) (bufferBytes : Nat) (context : String) (state : σ)
    (content wire more : Bytes) (compressed : Bool) : Prop :=
  (∃ last, (receivePayload blake3 zstd writeChunk content.length bufferBytes context
      state).onStream (wire ++ more) = returned (compressed, last) more ∧
    Delivered writeChunk state 0 content last) ∨
  ∃ error, (receivePayload blake3 zstd writeChunk content.length bufferBytes context
      state).onStream (wire ++ more) = failed (.disk error) ∧ WriterFault writeChunk (.disk error)

/-- What the receiver does on a stream, whoever has written it. -/
structure ReceivesSafely (blake3 : Bytes → Digest) (zstd : Zstd)
    (writeChunk : σ → Bytes → Nat → IoResult σ) (byteCount bufferBytes : Nat) (context : String)
    (state : σ) (stream : Bytes) : Prop where
  /-- The loop has ended after `byteCount` turns. -/
  turns : bufferBytes ≠ 0 → ∀ (decision : CompressionDecision) (extra : Nat) (rest : Bytes),
    (receiveChunks zstd writeChunk byteCount bufferBytes decision (byteCount + extra) 0 []
      state).onStream rest =
    (receiveChunks zstd writeChunk byteCount bufferBytes decision byteCount 0 [] state).onStream
      rest
  /-- Only the next bytes inside the payload are ever delivered. -/
  inside : ∀ refusal : IoError,
    (receivePayload blake3 zstd (strictWriter refusal byteCount writeChunk) byteCount bufferBytes
      context (0, state)).onStream stream =
    ((receivePayload blake3 zstd writeChunk byteCount bufferBytes context state).onStream
      stream).map (fun received => (received.1, (byteCount, received.2)))
  /-- A payload that is accepted is complete and has the digest that follows it. -/
  complete : ∀ compressed last rest,
    (receivePayload blake3 zstd writeChunk byteCount bufferBytes context state).onStream stream =
      returned (compressed, last) rest →
    ∃ content taken, stream = taken ++ (blake3 content).1 ++ rest ∧
      content.length = byteCount ∧ Delivered writeChunk state 0 content last

theorem payload_arrives {fill : Nat → Nat → IoResult Bytes} {content wire more : Bytes}
    {sendBytes : Nat} {compressed : Bool} {context : String} {state : σ}
    (hfill : Fills fill content) (hsend : 0 < sendBytes)
    (hbuffers : min compressionChunkBytes sendBytes ≤ bufferBytes)
    (hwire : Emits (sendPayload blake3 zstd fill content.length sendBytes decision) wire
      (.ok compressed)) :
    PayloadArrives blake3 zstd writeChunk bufferBytes context state content wire more
      compressed := by
  have hagree : Agree (fun _ => True) Fault.IsDisk
      (sendPayload blake3 zstd fill content.length sendBytes decision)
      (receivePayload blake3 zstd writeChunk content.length bufferBytes context state)
      (fun compressed received => received.1 = compressed ∧
        Delivered writeChunk state 0 content received.2) :=
    agree_payload hfill hsend hbuffers (fun _ => trivial) (fun _ => trivial) decision context state
  rcases hagree.onStream hwire more with ⟨⟨flag, last⟩, hrun, hflag, hdelivered⟩ |
    ⟨error, hrun, hdisk⟩
  · cases hflag
    exact .inl ⟨last, hrun, hdelivered⟩
  · cases error with
    | disk error => exact .inr ⟨error, hrun, receivePayload_failsWith.onStream hrun⟩
    | refused error => exact hdisk.elim
    | protocol error => exact hdisk.elim

theorem readDigest_returned {stream rest : Bytes} {digest : Digest}
    (h : readDigest.onStream stream = returned digest rest) : stream = digest.1 ++ rest := by
  unfold readDigest at h
  obtain ⟨bytes, middle, hread, h⟩ := onStream_bind_returned h
  rw [Proc.onStream_read] at hread
  split at hread
  · next hcount =>
      cases hread
      cases h
      have hlength : (stream.take contentDigestBytes).length = contentDigestBytes :=
        List.length_take_of_le hcount
      show stream = (stream.take contentDigestBytes).takeD contentDigestBytes 0 ++ _
      rw [List.takeD_eq_take 0 hlength.ge, List.take_of_length_le hlength.le,
        List.take_append_drop]
  · cases hread

theorem receives_safely (blake3 : Bytes → Digest) (zstd : Zstd)
    (writeChunk : σ → Bytes → Nat → IoResult σ) (byteCount bufferBytes : Nat) (context : String)
    (state : σ) (stream : Bytes) :
    ReceivesSafely blake3 zstd writeChunk byteCount bufferBytes context state stream where
  turns := fun hbuffer decision extra rest =>
    receiveChunks_fuel hbuffer byteCount extra 0 [] rest state (Nat.zero_le _) (Nat.sub_le _ _)
  inside := by
    intro refusal
    unfold receivePayload
    by_cases hbuffer : bufferBytes ≠ 0
    · rw [ensure, if_pos hbuffer, attempt_ok, Proc.ret_bind, Proc.ret_bind, Proc.onStream_bind,
        Proc.onStream_bind readMode, map_andThen]
      congr 1
      funext decision rest
      rw [Proc.onStream_bind, Proc.onStream_bind, map_andThen,
        receiveChunks_strict hbuffer refusal byteCount 0 [] rest state (Nat.zero_le _)
          (Nat.sub_le _ _)]
      cases (receiveChunks zstd writeChunk byteCount bufferBytes decision byteCount 0 []
          state).onStream rest with
      | returned received behind =>
        show Proc.onStream (_ >>= _) behind = (Proc.onStream (_ >>= _) behind).map _
        rw [Proc.onStream_bind, Proc.onStream_bind, map_andThen]
        congr 1
        funext expectedDigest last
        rw [onStream_attempt_bind, onStream_attempt_bind]
        cases verifyDigest context (blake3 received.1) expectedDigest <;> rfl
      | failed error => rfl
      | endOfStream => rfl
    · rw [ensure, if_neg hbuffer]
      rfl
  complete := by
    intro compressed last rest h
    unfold receivePayload at h
    obtain ⟨_, _, hensure, h⟩ := onStream_bind_returned h
    have hbuffer := ensure_eq_ok.mp (onStream_attempt.mp hensure).1
    cases (onStream_attempt.mp hensure).2
    obtain ⟨decision, behindMode, hmode, h⟩ := onStream_bind_returned h
    obtain ⟨⟨hashed, written⟩, behindChunks, hchunks, h⟩ := onStream_bind_returned h
    obtain ⟨digest, behindDigest, hdigest, h⟩ := onStream_bind_returned h
    obtain ⟨_, _, hverify, h⟩ := onStream_bind_returned h
    have hsame := ensure_eq_ok.mp (onStream_attempt.mp hverify).1
    cases (onStream_attempt.mp hverify).2
    cases h
    obtain ⟨content, hcontent, hlength, hdelivered⟩ := receiveChunks_returned hbuffer byteCount 0
      [] behindMode behindChunks hashed state written (Nat.zero_le _) (Nat.sub_le _ _) hchunks
    obtain ⟨front, hfront⟩ := Proc.suffix_of_onStream hmode
    obtain ⟨chunks, htaken⟩ := Proc.suffix_of_onStream hchunks
    rw [List.nil_append] at hcontent
    rw [Nat.zero_add] at hlength
    refine ⟨content, front ++ chunks, ?_, hlength, hdelivered⟩
    rw [hfront, htaken, readDigest_returned hdigest, ← hcontent, hsame]
    simp only [List.append_assoc]

/-- A payload is received as it was sent, and the receiver is safe on every stream. -/
theorem payload_stream (blake3 : Bytes → Digest) (zstd : Zstd)
    (writeChunk : σ → Bytes → Nat → IoResult σ) (bufferBytes : Nat) (context : String)
    (state : σ) :
    (∀ (fill : Nat → Nat → IoResult Bytes) (content wire more : Bytes) (sendBytes : Nat)
      (decision : CompressionDecision) (compressed : Bool), Fills fill content → 0 < sendBytes →
      min compressionChunkBytes sendBytes ≤ bufferBytes →
      Emits (sendPayload blake3 zstd fill content.length sendBytes decision) wire
        (.ok compressed) →
      PayloadArrives blake3 zstd writeChunk bufferBytes context state content wire more
        compressed) ∧
    ∀ (byteCount : Nat) (stream : Bytes),
      ReceivesSafely blake3 zstd writeChunk byteCount bufferBytes context state stream :=
  ⟨fun _ _ _ _ _ _ _ hfill hsend hbuffers hwire =>
      payload_arrives hfill hsend hbuffers hwire,
    fun byteCount stream =>
      receives_safely blake3 zstd writeChunk byteCount bufferBytes context state stream⟩

end

/-- The payload `abc` in compressed chunks of two bytes. -/
def abcPayload : Bytes :=
  [0x01] ++ [0, 0, 0, 2, 0, 0, 0, 11] ++
    [0x28, 0xb5, 0x2f, 0xfd, 0x20, 0x02, 0x11, 0x00, 0x00, 0x61, 0x62] ++
    [0, 0, 0, 1, 0, 0, 0, 10] ++ [0x28, 0xb5, 0x2f, 0xfd, 0x20, 0x01, 0x09, 0x00, 0x00, 0x63] ++
    (blake3OfAbc [0x61, 0x62, 0x63]).1

/-- Three bytes through buffers of two, with a byte behind them. -/
theorem payload_stream_abc :
    PayloadArrives blake3OfAbc storedZstd (fun written chunk _ => .ok (written ++ chunk)) 2 "abc"
      ([] : Bytes) [0x61, 0x62, 0x63] abcPayload [0x07] true := by
  have hwire : Emits (sendPayload blake3OfAbc storedZstd
      (fun offset length => .ok (ByteRange.range [0x61, 0x62, 0x63] offset length)) 3 2 .compress)
      abcPayload (.ok true) := by
    apply emits_of_emission
    with_unfolding_all rfl
  exact (payload_stream blake3OfAbc storedZstd (fun written chunk _ => .ok (written ++ chunk)) 2
    "abc" []).1 _ [0x61, 0x62, 0x63] abcPayload [0x07] 2 .compress true (fun _ _ _ => rfl)
    (by decide) (min_le_right _ _) hwire

end NetworkCopy
