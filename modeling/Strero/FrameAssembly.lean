import Mathlib.Algebra.GroupWithZero.Nat
import Strero.Lib.RingBuffer
import Strero.StreamParams

/-!
# Frames from the packs of the encoder

The encoder delivers a frame in packs, which lie in a ring. `process_frame_from_encoder` adds
up their lengths, grows the buffer of the channel if need be, and copies one pack behind the
other. Every access of the ring and of the buffer is checked here: the value `none` stands
for one outside.
-/

namespace FrameManager

open RingBuffer Scan

/-! ### The stream of the encoder -/

/-- `IMPEncoderPack`. -/
structure Pack where
  offset : UInt32
  length : UInt32
  timestamp : UInt64
deriving DecidableEq, Repr

/-- `IMPEncoderStream`, with the ring at `virAddr` and the array of the packs. Each pack lies in
the ring. -/
structure EncoderStream where
  ring : List UInt8
  streamSize : UInt32
  packs : List Pack
  packCount : UInt32
  ring_length : ring.length = streamSize.toNat
  packs_length : packs.length = packCount.toNat
  inside : ∀ p ∈ packs, p.offset.toNat ≤ ring.length ∧ p.length.toNat ≤ ring.length

/-- `hal_stream_pack_count`, which returns an `int`. -/
def halStreamPackCount (s : EncoderStream) : Int32 := s.packCount.toInt32

/-- `hal_stream_pack_length`. -/
def halStreamPackLength (s : EncoderStream) (index : ℕ) : UInt32 :=
  match s.packs[index]? with
  | none => 0
  | some pack => pack.length

/-- `hal_stream_pack_timestamp_us`. -/
def halStreamPackTimestampUs (s : EncoderStream) (index : ℕ) : UInt64 :=
  match s.packs[index]? with
  | none => 0
  | some pack => pack.timestamp

/-- A copy of part of the ring into the buffer. -/
def memcpy (buffer : List UInt8) (position : ℕ) (ring : List UInt8) (start length : ℕ) :
    Option (List UInt8) :=
  (readPart ring start (start + length)).bind (writeAt buffer position)

/-- `hal_stream_copy_pack` to an offset in a buffer, which may be the null pointer. -/
def halStreamCopyPack (s : EncoderStream) (index : ℕ) (memory : Option (List UInt8))
    (offset : UInt32) : Option (UInt32 × Option (List UInt8)) :=
  match s.packs[index]?, memory with
  | none, memory => some (0, memory)
  | some _, none => if offset = 0 then some (0, none) else none
  | some pack, some buffer => do
    let rem := s.streamSize - pack.offset
    if rem < pack.length then
      let buffer ← memcpy buffer offset.toNat s.ring pack.offset.toNat rem.toNat
      let buffer ← memcpy buffer (offset.toNat + rem.toNat) s.ring 0 (pack.length - rem).toNat
      return (pack.length, some buffer)
    else
      let buffer ← memcpy buffer offset.toNat s.ring pack.offset.toNat pack.length.toNat
      return (pack.length, some buffer)

/-! ### Assembling a frame -/

/-- The iterations of a loop over the packs: none for a negative count. -/
def packIterations (s : EncoderStream) : List ℕ := List.range (halStreamPackCount s).toInt.toNat

/-- The first loop: `frame_size`. -/
def frameSize (s : EncoderStream) : UInt32 :=
  (packIterations s).foldl (fun size i => size + halStreamPackLength s i) 0

/-- An iteration of the second loop. -/
def copyPack (s : EncoderStream) (copied : UInt32 × Option (List UInt8)) (i : ℕ) :
    Option (UInt32 × Option (List UInt8)) :=
  (halStreamCopyPack s i copied.2 copied.1).map fun r => (copied.1 + r.1, r.2)

/-- The second loop: the offset behind the packs, and the buffer. -/
def copyPacks (s : EncoderStream) (memory : Option (List UInt8)) :
    Option (UInt32 × Option (List UInt8)) :=
  (packIterations s).foldlM (copyPack s) (0, memory)

/-- `buf`, `cap` and `seq`, which outlive the call. -/
structure Buffers where
  buf : Fin 4 → Option (List UInt8)
  cap : Fin 4 → UInt32
  seq : Fin 4 → UInt32

/-- No frame has been assembled. -/
def Buffers.empty : Buffers := ⟨fun _ => none, fun _ => 0, fun _ => 0⟩

/-- What the calls of one turn return: the stream, unless `hal_stream_poll` or `hal_stream_get`
fails, and what stands in memory that `realloc` adds, unless that fails. -/
structure EncoderCalls where
  stream : Option EncoderStream
  realloc : Option (ℕ → UInt8)

/-- The buffer and its capacity, with room for the frame if `realloc` finds any. -/
def grow (buf : Option (List UInt8)) (cap size : UInt32) (realloc : Option (ℕ → UInt8)) :
    Option (Option (List UInt8) × UInt32) :=
  if cap < size then
    realloc.map fun fresh =>
      let old := buf.getD []
      (some (old ++ (List.range (size.toNat - old.length)).map fresh), size)
  else some (buf, cap)

/-- `frame_info_t` with the fields that the consumers in `FrameInfo` do not look at. -/
structure AssembledFrame where
  info : FrameInfo
  size : UInt32
  type : FrameType
  tvSec : UInt64
  tvUsec : UInt64
deriving DecidableEq

/-- `process_frame_from_encoder` up to the frame that it passes to `extract_stream_params` and
to `distribute_frame_to_consumers`, if it gets that far. -/
def processFrameFromEncoder (buffers : Buffers) (channel : Fin 4) (calls : EncoderCalls) :
    Option (Buffers × Option AssembledFrame) :=
  match calls.stream with
  | none => some (buffers, none)
  | some s =>
    match grow (buffers.buf channel) (buffers.cap channel) (frameSize s) calls.realloc with
    | none => some (buffers, none)
    | some (memory, cap) =>
      (copyPacks s memory).map fun copied =>
        let timestamp := if halStreamPackCount s > 0 then halStreamPackTimestampUs s 0 else 0
        let sequence := buffers.seq channel + 1
        let data := (copied.2.getD []).take (frameSize s).toNat
        let type := detectFrameType data
        (⟨Function.update buffers.buf channel copied.2, Function.update buffers.cap channel cap,
          Function.update buffers.seq channel sequence⟩,
          some ⟨⟨data, channel, sequence, isKeyframe type⟩, frameSize s, type,
            timestamp / 1000000, timestamp % 1000000⟩)

/-- A history of turns on all channels. -/
def assembleRun (buffers : Buffers) (turns : List (Fin 4 × EncoderCalls)) : Option Buffers :=
  turns.foldlM (fun buffers turn =>
    (processFrameFromEncoder buffers turn.1 turn.2).map Prod.fst) buffers

/-! ### What the packs hold -/

variable {s : EncoderStream}

/-- The bytes of a pack, around the end of the ring. -/
def EncoderStream.packBytes (s : EncoderStream) (pack : Pack) : List UInt8 :=
  unroll s.ring pack.offset.toNat pack.length.toNat

/-- The bytes of the first packs. -/
def EncoderStream.bytesUpTo (s : EncoderStream) (n : ℕ) : List UInt8 :=
  (s.packs.take n).flatMap s.packBytes

/-- The bytes of all packs. -/
def EncoderStream.logicalBytes (s : EncoderStream) : List UInt8 := s.packs.flatMap s.packBytes

/-- The length of all packs. -/
def EncoderStream.totalLength (s : EncoderStream) : ℕ := (s.packs.map (·.length.toNat)).sum

theorem EncoderStream.packBytes_length (s : EncoderStream) {pack : Pack} (h : pack ∈ s.packs) :
    (s.packBytes pack).length = pack.length.toNat :=
  unroll_length (s.inside pack h).1 (s.inside pack h).2

/-- A byte of a pack stands that far behind its offset, around the ring. -/
theorem EncoderStream.packBytes_getElem? (s : EncoderStream) {pack : Pack} (h : pack ∈ s.packs)
    {i : ℕ} (hi : i < pack.length.toNat) :
    (s.packBytes pack)[i]? = s.ring[(pack.offset.toNat + i) % s.streamSize.toNat]? := by
  rw [EncoderStream.packBytes, getElem?_unroll (s.inside pack h).1 (s.inside pack h).2 hi,
    s.ring_length]

/-- The bytes of the packs are as many as their lengths say. -/
theorem EncoderStream.bytesUpTo_length (s : EncoderStream) (n : ℕ) :
    (s.bytesUpTo n).length = ((s.packs.take n).map (·.length.toNat)).sum := by
  rw [EncoderStream.bytesUpTo, List.length_flatMap]
  congr 1
  refine List.map_congr_left fun pack hpack => ?_
  exact s.packBytes_length (List.mem_of_mem_take hpack)

theorem EncoderStream.bytesUpTo_all (s : EncoderStream) :
    s.bytesUpTo s.packs.length = s.logicalBytes := by
  rw [EncoderStream.bytesUpTo, List.take_length, EncoderStream.logicalBytes]

theorem EncoderStream.logicalBytes_length (s : EncoderStream) :
    s.logicalBytes.length = s.totalLength := by
  rw [← s.bytesUpTo_all, s.bytesUpTo_length, List.take_length, EncoderStream.totalLength]

theorem EncoderStream.bytesUpTo_succ (s : EncoderStream) {n : ℕ} (hn : n < s.packs.length) :
    s.bytesUpTo (n + 1) = s.bytesUpTo n ++ s.packBytes s.packs[n] := by
  rw [EncoderStream.bytesUpTo, List.take_succ_eq_append_getElem hn, List.flatMap_append,
    EncoderStream.bytesUpTo]
  simp

/-! ### The two loops -/

/-- A count that is no `int` is a negative one. -/
theorem halStreamPackCount_toNat (s : EncoderStream) :
    (halStreamPackCount s).toInt.toNat = if s.packs.length < 2 ^ 31 then s.packs.length else 0 := by
  have hint : (halStreamPackCount s).toInt = s.packCount.toBitVec.toInt := rfl
  have hnat : s.packCount.toBitVec.toNat = s.packs.length := s.packs_length.symm
  rw [hint, BitVec.toInt_eq_toNat_cond, hnat]
  split_ifs <;> omega

/-- The sum of the lengths is one of 32 bits. -/
theorem foldl_packLength (s : EncoderStream) {n : ℕ} (hn : n ≤ s.packs.length) :
    (List.range n).foldl (fun size i => size + halStreamPackLength s i) 0 =
      UInt32.ofNat (s.bytesUpTo n).length := by
  induction n with
  | zero => rfl
  | succ n ih =>
    have hlength : halStreamPackLength s n = UInt32.ofNat s.packs[n].length.toNat := by
      rw [halStreamPackLength, List.getElem?_eq_getElem hn, UInt32.ofNat_toNat]
    rw [List.range_succ, List.foldl_append, ih (by omega), List.foldl_cons, List.foldl_nil,
      s.bytesUpTo_succ hn, List.length_append, s.packBytes_length (List.getElem_mem hn),
      hlength, ← UInt32.ofNat_add]

/-- A copy of part of the ring. -/
theorem memcpy_eq {buffer ring : List UInt8} {position start length : ℕ}
    (h : start + length ≤ ring.length) :
    memcpy buffer position ring start length =
      writeAt buffer position ((ring.drop start).take length) := by
  rw [memcpy, readPart, if_pos h, Option.bind_some, List.drop_take, Nat.add_sub_cancel_left]

/-- A pack is copied in one piece or in two. -/
theorem halStreamCopyPack_eq (s : EncoderStream) {index : ℕ} (h : index < s.packs.length)
    (buffer : List UInt8) (offset : UInt32) :
    halStreamCopyPack s index (some buffer) offset =
      (writeAt buffer offset.toNat (s.packBytes s.packs[index])).map fun buffer =>
        (s.packs[index].length, some buffer) := by
  obtain ⟨hoffset, hlength⟩ := s.inside _ (List.getElem_mem h)
  have hring := s.ring_length
  have hrem : (s.streamSize - s.packs[index].offset).toNat =
      s.ring.length - s.packs[index].offset.toNat := by
    rw [UInt32.toNat_sub_of_le _ _ (UInt32.le_iff_toNat_le.mpr (by omega)), hring]
  unfold halStreamCopyPack
  rw [List.getElem?_eq_getElem h]
  dsimp only
  by_cases hwraps : s.streamSize - s.packs[index].offset < s.packs[index].length
  · have hover := UInt32.lt_iff_toNat_lt.mp hwraps
    have hsecond : (s.packs[index].length - (s.streamSize - s.packs[index].offset)).toNat =
        s.packs[index].length.toNat - (s.ring.length - s.packs[index].offset.toNat) := by
      rw [UInt32.toNat_sub_of_le _ _ (UInt32.le_iff_toNat_le.mpr hover.le), hrem]
    have hpieces := unroll_wrapped hoffset (hrem ▸ hover.le)
    have hfirst : (s.ring.drop s.packs[index].offset.toNat).length =
        s.ring.length - s.packs[index].offset.toNat := List.length_drop
    rw [if_pos hwraps, hrem, hsecond, memcpy_eq (by omega), List.take_of_length_le hfirst.le,
      EncoderStream.packBytes, hpieces, ← writeAt_append, hfirst, Option.map_eq_bind,
      Option.bind_assoc]
    refine congrArg _ (funext fun buffer => ?_)
    rw [memcpy_eq (by omega), List.drop_zero]
    rfl
  · have hfits := Nat.le_of_not_lt (mt UInt32.lt_iff_toNat_lt.mpr hwraps)
    rw [if_neg hwraps, memcpy_eq (by omega), EncoderStream.packBytes, unroll_of_le (by omega),
      Option.map_eq_bind]
    rfl

/-- The loop over the first packs puts one behind the other at the front of a buffer that has
room for them. -/
theorem foldlM_copyPack (s : EncoderStream) {n : ℕ} (hn : n ≤ s.packs.length)
    {buffer : List UInt8} (hroom : (s.bytesUpTo n).length ≤ buffer.length)
    (hsize : buffer.length < 2 ^ 32) :
    ∃ buffer', (List.range n).foldlM (copyPack s) (0, some buffer) =
        some (UInt32.ofNat (s.bytesUpTo n).length, some buffer') ∧
      buffer'.length = buffer.length ∧
      buffer'.take (s.bytesUpTo n).length = s.bytesUpTo n := by
  induction n with
  | zero => exact ⟨buffer, rfl, rfl, rfl⟩
  | succ n ih =>
    have hsucc := s.bytesUpTo_succ hn
    have hpack := s.packBytes_length (List.getElem_mem hn)
    rw [hsucc, List.length_append] at hroom
    obtain ⟨buffer', hloop, hlength, htake⟩ := ih (by omega) (by omega)
    have hoffset : (UInt32.ofNat (s.bytesUpTo n).length).toNat = (s.bytesUpTo n).length := by
      rw [UInt32.toNat_ofNat']
      omega
    obtain ⟨next, hwrite⟩ : ∃ next, writeAt buffer' (s.bytesUpTo n).length
        (s.packBytes s.packs[n]) = some next := by
      rw [writeAt, if_pos (by omega)]
      exact ⟨_, rfl⟩
    obtain ⟨hnext, hfront⟩ := writeAt_eq_some hwrite
    refine ⟨next, ?_, hnext.trans hlength, ?_⟩
    · rw [List.range_succ, List.foldlM_append, hloop]
      change (copyPack s (UInt32.ofNat (s.bytesUpTo n).length, some buffer') n).bind some = _
      rw [copyPack, halStreamCopyPack_eq s hn, hoffset, hwrite]
      simp only [Option.map_some, Option.bind_some, hsucc, List.length_append, hpack,
        UInt32.ofNat_add, UInt32.ofNat_toNat]
    · rw [hsucc, List.length_append, hfront, htake]

/-- Packs without a byte are not copied to the null pointer. -/
theorem foldlM_copyPack_none (s : EncoderStream) {n : ℕ} (hn : n ≤ s.packs.length)
    (hempty : (s.bytesUpTo n).length = 0) :
    (List.range n).foldlM (copyPack s) (0, none) = some (0, none) := by
  induction n with
  | zero => rfl
  | succ n ih =>
    rw [s.bytesUpTo_succ hn, List.length_append] at hempty
    rw [List.range_succ, List.foldlM_append, ih (by omega) (by omega)]
    change (copyPack s (0, none) n).bind some = _
    unfold copyPack halStreamCopyPack
    rw [List.getElem?_eq_getElem hn]
    rfl

/-! ### The buffers over a run -/

/-- The buffer of each channel has its capacity. -/
def Buffers.Sound (buffers : Buffers) : Prop :=
  ∀ channel, ((buffers.buf channel).getD []).length = (buffers.cap channel).toNat

theorem Buffers.empty_sound : Buffers.empty.Sound := fun _ => rfl

/-- The buffer cannot grow. -/
theorem grow_eq_none_iff (buf : Option (List UInt8)) {cap size : UInt32}
    {realloc : Option (ℕ → UInt8)} :
    grow buf cap size realloc = none ↔ cap < size ∧ realloc = none := by
  unfold grow
  split_ifs with hless
  · rw [Option.map_eq_none_iff, and_iff_right hless]
  · exact iff_of_false (by simp) fun hboth => hless hboth.1

/-- A grown buffer has its capacity, and room for the frame. -/
theorem grow_eq_some {buf memory : Option (List UInt8)} {cap size cap' : UInt32}
    {realloc : Option (ℕ → UInt8)} (hcap : (buf.getD []).length = cap.toNat)
    (h : grow buf cap size realloc = some (memory, cap')) :
    (memory.getD []).length = cap'.toNat ∧ size ≤ cap' := by
  unfold grow at h
  split_ifs at h with hless
  · obtain ⟨fresh, -, hgrown⟩ := Option.map_eq_some_iff.mp h
    obtain ⟨rfl, rfl⟩ := Prod.mk.inj hgrown
    have := UInt32.lt_iff_toNat_lt.mp hless
    refine ⟨?_, UInt32.le_refl _⟩
    rw [Option.getD_some, List.length_append, List.length_map, List.length_range]
    omega
  · obtain ⟨rfl, rfl⟩ := Prod.mk.inj (Option.some.inj h)
    exact ⟨hcap, UInt32.not_lt.mp hless⟩

/-- A copy keeps the size of the buffer. -/
theorem memcpy_length {buffer buffer' ring : List UInt8} {position start length : ℕ}
    (h : memcpy buffer position ring start length = some buffer') :
    buffer'.length = buffer.length := by
  obtain ⟨bytes, -, hwrite⟩ := Option.bind_eq_some_iff.mp h
  exact (writeAt_eq_some hwrite).1

/-- And so does the copy of a pack. -/
theorem halStreamCopyPack_length {index : ℕ} {memory memory' : Option (List UInt8)}
    {offset copied : UInt32}
    (h : halStreamCopyPack s index memory offset = some (copied, memory')) :
    (memory'.getD []).length = (memory.getD []).length := by
  unfold halStreamCopyPack at h
  split at h
  · obtain ⟨-, rfl⟩ := Prod.mk.inj (Option.some.inj h)
    rfl
  · split_ifs at h
    obtain ⟨-, rfl⟩ := Prod.mk.inj (Option.some.inj h)
    rfl
  · dsimp only at h
    split_ifs at h
    · obtain ⟨first, hfirst, h⟩ := Option.bind_eq_some_iff.mp h
      obtain ⟨second, hsecond, h⟩ := Option.bind_eq_some_iff.mp h
      obtain ⟨-, rfl⟩ := Prod.mk.inj (Option.some.inj h)
      exact (memcpy_length hsecond).trans (memcpy_length hfirst)
    · obtain ⟨whole, hwhole, h⟩ := Option.bind_eq_some_iff.mp h
      obtain ⟨-, rfl⟩ := Prod.mk.inj (Option.some.inj h)
      exact memcpy_length hwhole

/-- And so does the loop. -/
theorem copyPacks_length {memory : Option (List UInt8)} {copied : UInt32 × Option (List UInt8)}
    (h : copyPacks s memory = some copied) :
    (copied.2.getD []).length = (memory.getD []).length := by
  unfold copyPacks at h
  suffices hloop : ∀ (indices : List ℕ) (start : UInt32 × Option (List UInt8)),
      indices.foldlM (copyPack s) start = some copied →
        (copied.2.getD []).length = (start.2.getD []).length from hloop _ _ h
  intro indices
  induction indices with
  | nil => rintro start ⟨⟩; rfl
  | cons i indices ih =>
    intro start h
    obtain ⟨next, hnext, hrest⟩ := Option.bind_eq_some_iff.mp h
    obtain ⟨r, hcopy, rfl⟩ := Option.map_eq_some_iff.mp hnext
    exact (ih _ hrest).trans (halStreamCopyPack_length hcopy)

/-- Every turn keeps the buffers sound. -/
theorem Buffers.Sound.process {buffers buffers' : Buffers} {channel : Fin 4}
    {calls : EncoderCalls} {frame : Option AssembledFrame} (hsound : buffers.Sound)
    (h : processFrameFromEncoder buffers channel calls = some (buffers', frame)) :
    buffers'.Sound := by
  unfold processFrameFromEncoder at h
  split at h
  · obtain ⟨rfl, -⟩ := Prod.mk.inj (Option.some.inj h)
    exact hsound
  · split at h
    · obtain ⟨rfl, -⟩ := Prod.mk.inj (Option.some.inj h)
      exact hsound
    · rename_i memory cap hgrow
      obtain ⟨copied, hcopy, hframe⟩ := Option.map_eq_some_iff.mp h
      obtain ⟨rfl, -⟩ := Prod.mk.inj hframe
      intro other
      dsimp only
      by_cases hsame : other = channel
      · subst hsame
        rw [Function.update_self, Function.update_self, copyPacks_length hcopy]
        exact (grow_eq_some (hsound _) hgrow).1
      · rw [Function.update_of_ne hsame, Function.update_of_ne hsame]
        exact hsound other

/-- The buffers are sound after any history. -/
theorem Buffers.Sound.run {buffers buffers' : Buffers} {turns : List (Fin 4 × EncoderCalls)}
    (hsound : buffers.Sound) (h : assembleRun buffers turns = some buffers') :
    buffers'.Sound := by
  induction turns generalizing buffers with
  | nil => exact Option.some.inj h ▸ hsound
  | cons turn turns ih =>
    obtain ⟨next, hnext, hrest⟩ := Option.bind_eq_some_iff.mp h
    obtain ⟨⟨after, frame⟩, hstep, rfl⟩ := Option.map_eq_some_iff.mp hnext
    exact ih (hsound.process hstep) hrest

/-! ### Assembled frames -/

/-- No access is outside, and a frame that is passed on is made up of all the packs. -/
def Assembles (s : EncoderStream) (result : Option (Buffers × Option AssembledFrame)) : Prop :=
  ∃ buffers frame, result = some (buffers, frame) ∧
    ∀ f ∈ frame, f.info.data = s.logicalBytes ∧ f.size.toNat = s.totalLength

/-- `frame_size` is the sum of all lengths modulo 2^32, unless the count is negative. -/
theorem frameSize_eq (s : EncoderStream) :
    frameSize s =
      if s.packs.length < 2 ^ 31 then UInt32.ofNat s.totalLength else 0 := by
  rw [frameSize, packIterations, halStreamPackCount_toNat]
  split_ifs
  · rw [foldl_packLength s le_rfl, s.bytesUpTo_all, s.logicalBytes_length]
  · rfl

/-- All packs are copied to the front of a buffer with room for them. -/
theorem copyPacks_eq (hcount : s.packs.length < 2 ^ 31) {memory : Option (List UInt8)}
    (hroom : s.totalLength ≤ (memory.getD []).length) (hsize : (memory.getD []).length < 2 ^ 32) :
    ∃ copied, copyPacks s memory = some copied ∧
      (copied.2.getD []).take s.totalLength = s.logicalBytes := by
  rw [copyPacks, packIterations, halStreamPackCount_toNat, if_pos hcount]
  have hlength := s.logicalBytes_length
  rw [← s.bytesUpTo_all] at hlength
  cases memory with
  | none =>
    have hempty : s.totalLength = 0 := Nat.le_zero.mp hroom
    refine ⟨_, foldlM_copyPack_none s le_rfl (hlength.trans hempty), ?_⟩
    rw [← s.bytesUpTo_all, List.length_eq_zero_iff.mp (hlength.trans hempty)]
    exact List.take_nil
  | some buffer =>
    obtain ⟨buffer', hloop, -, htake⟩ :=
      foldlM_copyPack s le_rfl (hlength.le.trans hroom) hsize
    refine ⟨_, hloop, ?_⟩
    rw [hlength, s.bytesUpTo_all] at htake
    exact htake

/-- The packs are copied, unless there are too many of them. -/
theorem copyPacks_frameSize {memory : Option (List UInt8)} {cap : UInt32}
    (htotal : s.totalLength < 2 ^ 32) (hcount : s.packs.length < 2 ^ 31 ∨ s.totalLength = 0)
    (hmemory : (memory.getD []).length = cap.toNat) (hroom : frameSize s ≤ cap) :
    ∃ copied, copyPacks s memory = some copied ∧ (frameSize s).toNat = s.totalLength ∧
      (copied.2.getD []).take (frameSize s).toNat = s.logicalBytes := by
  have hcap := cap.toNat_lt
  by_cases hint : s.packs.length < 2 ^ 31
  · have hsize : (frameSize s).toNat = s.totalLength := by
      rw [frameSize_eq, if_pos hint, UInt32.toNat_ofNat', Nat.mod_eq_of_lt htotal]
    have hle := UInt32.le_iff_toNat_le.mp hroom
    rw [hsize]
    have hholds : s.totalLength ≤ (memory.getD []).length := by omega
    obtain ⟨copied, hcopy, htake⟩ := copyPacks_eq hint hholds (by omega)
    exact ⟨copied, hcopy, rfl, htake⟩
  · have hzero := hcount.resolve_left hint
    have hnone : s.logicalBytes = [] :=
      List.length_eq_zero_iff.mp (s.logicalBytes_length.trans hzero)
    rw [frameSize_eq, if_neg hint, copyPacks, packIterations, halStreamPackCount_toNat,
      if_neg hint, hzero, hnone]
    exact ⟨_, rfl, rfl, rfl⟩

/-- A size of 32 bits cannot be that of more packs. -/
theorem Assembles.totalLength_lt {buffers : Buffers} {channel : Fin 4}
    {realloc : Option (ℕ → UInt8)}
    (hgrows : ¬(buffers.cap channel < frameSize s ∧ realloc = none))
    (h : Assembles s (processFrameFromEncoder buffers channel ⟨some s, realloc⟩)) :
    s.totalLength < 2 ^ 32 ∧ (s.packs.length < 2 ^ 31 ∨ s.totalLength = 0) := by
  rw [← grow_eq_none_iff (buffers.buf channel)] at hgrows
  obtain ⟨⟨memory, cap⟩, hgrow⟩ := Option.ne_none_iff_exists'.mp hgrows
  obtain ⟨buffers', frame, hresult, hframe⟩ := h
  unfold processFrameFromEncoder at hresult
  dsimp only at hresult
  rw [hgrow] at hresult
  obtain ⟨copied, -, hpassed⟩ := Option.map_eq_some_iff.mp hresult
  obtain ⟨-, rfl⟩ := Prod.mk.inj hpassed
  have hsize : (frameSize s).toNat = s.totalLength := (hframe _ rfl).2
  have hlt := (frameSize s).toNat_lt
  refine ⟨by omega, or_iff_not_imp_left.mpr fun hcount => ?_⟩
  rw [← hsize, frameSize_eq, if_neg hcount]
  rfl

/-- After any history of frames on all channels, the frame that is passed on is made up of all
the packs of the stream, and no copy is outside of the buffer or the ring, exactly if there is
no frame because the buffer cannot grow, or the lengths of the packs add up to less than 2^32
and their number is an `int` (or there is no byte in them). -/
theorem processFrameFromEncoder_assembles_iff {turns : List (Fin 4 × EncoderCalls)}
    {buffers : Buffers} (hrun : assembleRun .empty turns = some buffers) (channel : Fin 4)
    (s : EncoderStream) (realloc : Option (ℕ → UInt8)) :
    Assembles s (processFrameFromEncoder buffers channel ⟨some s, realloc⟩) ↔
      (buffers.cap channel < frameSize s ∧ realloc = none) ∨
        (s.totalLength < 2 ^ 32 ∧ (s.packs.length < 2 ^ 31 ∨ s.totalLength = 0)) := by
  by_cases hgrows : buffers.cap channel < frameSize s ∧ realloc = none
  · refine iff_of_true ⟨buffers, none, ?_, fun f hf => ?_⟩ (.inl hgrows)
    · unfold processFrameFromEncoder
      dsimp only
      rw [(grow_eq_none_iff _).mpr hgrows]
    · cases hf
  · rw [or_iff_right hgrows]
    refine ⟨Assembles.totalLength_lt hgrows, fun ⟨htotal, hcount⟩ => ?_⟩
    rw [← grow_eq_none_iff (buffers.buf channel)] at hgrows
    obtain ⟨⟨memory, cap⟩, hgrow⟩ := Option.ne_none_iff_exists'.mp hgrows
    obtain ⟨hmemory, hroom⟩ := grow_eq_some (Buffers.empty_sound.run hrun channel) hgrow
    obtain ⟨copied, hcopy, hsize, htake⟩ := copyPacks_frameSize htotal hcount hmemory hroom
    unfold processFrameFromEncoder
    dsimp only
    rw [hgrow]
    dsimp only
    rw [hcopy]
    refine ⟨_, _, rfl, fun f hf => ?_⟩
    obtain rfl := Option.mem_some_iff.mp hf
    exact ⟨htake, hsize⟩

/-- A ring of four bytes with a pack that runs over its end. -/
def wrappedStream : EncoderStream where
  ring := [0xA0, 0xA1, 0xA2, 0xA3]
  streamSize := 4
  packs := [⟨3, 2, 40000⟩, ⟨1, 3, 40000⟩]
  packCount := 2
  ring_length := rfl
  packs_length := rfl
  inside := by decide

/-- The turn of the last channel, which gets this stream. -/
def wrappedTurn : Fin 4 × EncoderCalls := ⟨Fin.last 3, some wrappedStream, some fun _ => 0⟩

theorem assembleRun_wrappedTurn : (assembleRun .empty [wrappedTurn]).isSome = true := by
  decide +kernel

theorem processFrameFromEncoder_assembles_wrappedStream :
    ∃ buffers, assembleRun .empty [wrappedTurn] = some buffers ∧
      (Assembles wrappedStream
          (processFrameFromEncoder buffers (.last 3) ⟨some wrappedStream, some fun _ => 0⟩) ↔
        (buffers.cap (.last 3) < frameSize wrappedStream ∧
          (some fun _ => 0 : Option (ℕ → UInt8)) = none) ∨
          (wrappedStream.totalLength < 2 ^ 32 ∧
            (wrappedStream.packs.length < 2 ^ 31 ∨ wrappedStream.totalLength = 0))) := by
  obtain ⟨buffers, hrun⟩ := Option.isSome_iff_exists.mp assembleRun_wrappedTurn
  exact ⟨buffers, hrun, processFrameFromEncoder_assembles_iff hrun (.last 3) wrappedStream _⟩

/-- A ring of 64 KiB, and as many packs of the whole ring. -/
def crowdedStream : EncoderStream where
  ring := List.replicate 65536 0
  streamSize := 65536
  packs := List.replicate 65536 ⟨0, 65536, 0⟩
  packCount := 65536
  ring_length := List.length_replicate
  packs_length := List.length_replicate
  inside := fun pack hpack => by
    obtain rfl := List.eq_of_mem_replicate hpack
    exact ⟨Nat.zero_le _, List.length_replicate.ge⟩

theorem crowdedStream_totalLength : crowdedStream.totalLength = 2 ^ 32 := by
  rw [EncoderStream.totalLength, crowdedStream, List.map_replicate,
    List.sum_replicate_nat]
  rfl

/-- The sum of these lengths is 0 for the code. -/
theorem not_processFrameFromEncoder_assembles_crowdedStream :
    ¬∀ (turns : List (Fin 4 × EncoderCalls)) (buffers : Buffers) (channel : Fin 4)
      (s : EncoderStream) (realloc : Option (ℕ → UInt8)),
      assembleRun .empty turns = some buffers →
        Assembles s (processFrameFromEncoder buffers channel ⟨some s, realloc⟩) := by
  intro hall
  have hassembles := hall [] .empty 0 crowdedStream (some fun _ => 0) rfl
  have hless := (Assembles.totalLength_lt (fun hboth => Option.some_ne_none _ hboth.2) hassembles).1
  rw [crowdedStream_totalLength] at hless
  exact Nat.lt_irrefl _ hless

end FrameManager
