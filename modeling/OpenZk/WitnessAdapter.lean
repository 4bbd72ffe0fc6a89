import OpenZk.Framing
import OpenZk.WitnessProvider

set_option autoImplicit false

namespace OpenZk.WitnessAdapter

open Words

inductive Fault where
  | outOfBounds
deriving DecidableEq

def sliceAt (data : Bytes) (start stop : Nat) : Except Fault Bytes :=
  if start ≤ stop ∧ stop ≤ data.length then .ok (slice data start stop) else .error .outOfBounds

def lengthToLeBytes (bytes : Bytes) : Bytes := toLittleEndian 4 (UInt32.ofNat bytes.length).toNat

def rawWitnessToBytes (witness : RawWitness) : Bytes :=
  lengthToLeBytes witness.bootInfo ++ witness.bootInfo ++
    lengthToLeBytes witness.oracleData ++ witness.oracleData ++
    lengthToLeBytes witness.blobData ++ witness.blobData

def readChunk (data : Bytes) (offset : Nat) : Except Fault (Option (Bytes × Nat)) :=
  if offset + 4 > data.length then .ok none
  else
    match sliceAt data offset (offset + 4) with
    | .error fault => .error fault
    | .ok header =>
        if offset + 4 + littleEndian header > data.length then .ok none
        else
          match sliceAt data (offset + 4) (offset + 4 + littleEndian header) with
          | .error fault => .error fault
          -- Offsets stay within the buffer and a length within a u32: no addition leaves a 64-bit
          -- usize.
          | .ok chunk => .ok (some (chunk, offset + 4 + littleEndian header))

def bytesToRawWitness (data : Bytes) : Except Fault (Option RawWitness) :=
  match readChunk data 0 with
  | .error fault => .error fault
  | .ok none => .ok none
  | .ok (some (bootInfo, offset)) =>
      match readChunk data offset with
      | .error fault => .error fault
      | .ok none => .ok none
      | .ok (some (oracleData, offset)) =>
          match readChunk data offset with
          | .error fault => .error fault
          | .ok none => .ok none
          | .ok (some (blobData, _)) => .ok (some ⟨bootInfo, oracleData, blobData⟩)

theorem header_lt (header : Bytes) (full : header.length = 4) : littleEndian header < 2 ^ 32 := by
  have bound := little_endian_lt header
  rw [full] at bound
  exact bound

def lengthPrefix : LengthPrefix UInt8 where
  width := 4
  bound := 2 ^ 32
  encode := fun number => toLittleEndian 4 (UInt32.ofNat number).toNat
  decode := littleEndian
  encode_length := fun number => to_little_endian_length 4 _
  decode_encode := by
    intro number bound
    rw [little_endian_to_little_endian, UInt32.toNat_ofNat_of_lt' bound]
    exact Nat.mod_eq_of_lt bound
  encode_decode := by
    intro header full
    rw [UInt32.toNat_ofNat_of_lt' (header_lt header full), ← full, to_little_endian_little_endian]
  decode_lt := header_lt

def chunks (witness : RawWitness) : List Bytes := [witness.bootInfo, witness.oracleData, witness.blobData]

def ofChunks : List Bytes → Option RawWitness
  | [bootInfo, oracleData, blobData] => some ⟨bootInfo, oracleData, blobData⟩
  | _ => none

theorem to_bytes_frames (witness : RawWitness) : rawWitnessToBytes witness = lengthPrefix.frames (chunks witness) := by
  simp [rawWitnessToBytes, LengthPrefix.frames, LengthPrefix.frame, chunks, lengthToLeBytes, lengthPrefix]

theorem slice_drop (data : Bytes) (start count : Nat) : slice data start (start + count) = (data.drop start).take count := by
  rw [slice, List.drop_take, Nat.add_sub_cancel_left]

theorem announced_header (data : Bytes) (offset : Nat) :
    lengthPrefix.announced (data.drop offset) = 4 + littleEndian (slice data offset (offset + 4)) := by
  rw [slice_drop]
  rfl

theorem read_chunk_unframe (data : Bytes) (offset : Nat) (inside : offset ≤ data.length) :
    readChunk data offset =
      .ok ((lengthPrefix.unframe (data.drop offset)).map fun taken => (taken.1, data.length - taken.2.length)) := by
  have left : (data.drop offset).length = data.length - offset := List.length_drop
  rw [readChunk, LengthPrefix.unframe, announced_header, left]
  by_cases header : offset + 4 > data.length
  · have short : ¬ 4 + littleEndian (slice data offset (offset + 4)) ≤ data.length - offset := by omega
    rw [if_pos header, if_neg short, Option.map_none]
  · have front : sliceAt data offset (offset + 4) = .ok (slice data offset (offset + 4)) := if_pos (by omega)
    rw [if_neg header, front]
    dsimp only
    by_cases body : offset + 4 + littleEndian (slice data offset (offset + 4)) > data.length
    · have short : ¬ 4 + littleEndian (slice data offset (offset + 4)) ≤ data.length - offset := by omega
      rw [if_pos body, if_neg short, Option.map_none]
    · have fits : 4 + littleEndian (slice data offset (offset + 4)) ≤ data.length - offset := by omega
      have back : sliceAt data (offset + 4) (offset + 4 + littleEndian (slice data offset (offset + 4))) =
          .ok (slice data (offset + 4) (offset + 4 + littleEndian (slice data offset (offset + 4)))) := if_pos (by omega)
      have chunk : slice data (offset + 4) (offset + 4 + littleEndian (slice data offset (offset + 4))) =
          ((data.drop offset).drop 4).take (littleEndian ((data.drop offset).take 4)) := by
        rw [slice_drop, ← slice_drop data offset 4, List.drop_drop]
      have rest : data.length - (data.length - offset - (4 + littleEndian (slice data offset (offset + 4)))) =
          offset + 4 + littleEndian (slice data offset (offset + 4)) := by omega
      rw [if_neg body, if_pos fits, back, Option.map_some]
      simp only [List.length_drop, rest, chunk]
      rfl

theorem read_chunk_suffix (data left : Bytes) (suffix : left <:+ data) :
    readChunk data (data.length - left.length) =
      .ok ((lengthPrefix.unframe left).map fun taken => (taken.1, data.length - taken.2.length)) := by
  rw [read_chunk_unframe data _ (Nat.sub_le _ _), ← List.suffix_iff_eq_drop.mp suffix]

theorem bytes_to_raw_witness_unframes (data : Bytes) :
    bytesToRawWitness data = .ok ((lengthPrefix.unframes 3 data).bind fun taken => ofChunks taken.1) := by
  have start := read_chunk_suffix data data (List.suffix_refl data)
  rw [Nat.sub_self] at start
  rw [bytesToRawWitness, start, LengthPrefix.unframes]
  cases first : lengthPrefix.unframe data with
  | none => rfl
  | some bootInfo =>
      have second := lengthPrefix.unframe_suffix data bootInfo.1 bootInfo.2 first
      simp only [Option.map_some, Option.bind_some]
      rw [read_chunk_suffix data bootInfo.2 second, LengthPrefix.unframes]
      cases next : lengthPrefix.unframe bootInfo.2 with
      | none => rfl
      | some oracleData =>
          have third := lengthPrefix.unframe_suffix bootInfo.2 oracleData.1 oracleData.2 next
          simp only [Option.map_some, Option.bind_some]
          rw [read_chunk_suffix data oracleData.2 (third.trans second), LengthPrefix.unframes]
          cases lengthPrefix.unframe oracleData.2 with
          | none => rfl
          | some blobData => rfl

def Small (witness : RawWitness) : Prop :=
  witness.bootInfo.length < 2 ^ 32 ∧ witness.oracleData.length < 2 ^ 32 ∧ witness.blobData.length < 2 ^ 32

theorem small_chunks (witness : RawWitness) :
    Small witness ↔ ∀ chunk ∈ chunks witness, chunk.length < lengthPrefix.bound := by
  simp [Small, chunks, lengthPrefix]

theorem bytes_to_raw_witness_iff (data : Bytes) (witness : RawWitness) :
    bytesToRawWitness data = .ok (some witness) ↔ Small witness ∧ ∃ trailing, data = rawWitnessToBytes witness ++ trailing := by
  rw [bytes_to_raw_witness_unframes, Except.ok.injEq, Option.bind_eq_some_iff, to_bytes_frames, small_chunks]
  refine ⟨?_, ?_⟩
  · intro decoded
    obtain ⟨⟨read, trailing⟩, unframed, assembled⟩ := decoded
    obtain ⟨counted, framed, small⟩ := lengthPrefix.unframes_some 3 data read trailing unframed
    obtain ⟨bootInfo, oracleData, blobData, rfl⟩ := List.length_eq_three.mp counted
    cases assembled
    exact ⟨small, trailing, framed⟩
  · intro encoded
    obtain ⟨small, trailing, rfl⟩ := encoded
    exact ⟨_, lengthPrefix.unframes_frames (chunks witness) trailing small, rfl⟩

theorem decoder_in_bounds (data : Bytes) (fault : Fault) : bytesToRawWitness data ≠ .error fault := by
  rw [bytes_to_raw_witness_unframes]
  exact nofun

theorem witness_round_trip (witness : RawWitness) (bootInfo : witness.bootInfo.length < 2 ^ 32)
    (oracleData : witness.oracleData.length < 2 ^ 32) (blobData : witness.blobData.length < 2 ^ 32) :
    bytesToRawWitness (rawWitnessToBytes witness) = .ok (some witness) ∧
      (∀ cut, cut <+: rawWitnessToBytes witness → cut ≠ rawWitnessToBytes witness → bytesToRawWitness cut = .ok none) ∧
      ∀ data fault, bytesToRawWitness data ≠ .error fault := by
  have small : Small witness := ⟨bootInfo, oracleData, blobData⟩
  refine ⟨?_, ?_, decoder_in_bounds⟩
  · exact (bytes_to_raw_witness_iff _ _).mpr ⟨small, [], (List.append_nil _).symm⟩
  · intro cut begins different
    obtain ⟨missing, whole⟩ := begins
    have strict : missing ≠ [] := by
      intro empty
      rw [empty, List.append_nil] at whole
      exact different whole
    rw [to_bytes_frames] at whole
    have short := lengthPrefix.unframes_prefix (chunks witness) cut missing whole strict ((small_chunks witness).mp small)
    have three : (chunks witness).length = 3 := rfl
    rw [three] at short
    rw [bytes_to_raw_witness_unframes, short, Option.bind_none]

def sampleWitness : RawWitness := ⟨[], [0x6f, 0x72], [0x62]⟩

theorem witness_round_trip_sample :
    bytesToRawWitness (rawWitnessToBytes sampleWitness) = .ok (some sampleWitness) ∧
      (∀ cut, cut <+: rawWitnessToBytes sampleWitness → cut ≠ rawWitnessToBytes sampleWitness →
        bytesToRawWitness cut = .ok none) ∧
      ∀ data fault, bytesToRawWitness data ≠ .error fault :=
  witness_round_trip sampleWitness (by decide) (by decide) (by decide)

theorem decoded_extent (data : Bytes) (witness : RawWitness) (decoded : bytesToRawWitness data = .ok (some witness)) :
    lengthPrefix.extent 3 data = (rawWitnessToBytes witness).length := by
  obtain ⟨small, trailing, rfl⟩ := (bytes_to_raw_witness_iff data witness).mp decoded
  rw [to_bytes_frames]
  exact lengthPrefix.extent_frames (chunks witness) trailing ((small_chunks witness).mp small)

theorem decodes_of_extent (data : Bytes) (reach : lengthPrefix.extent 3 data ≤ data.length) :
    ∃ witness, bytesToRawWitness data = .ok (some witness) := by
  obtain ⟨⟨read, trailing⟩, unframed⟩ := (lengthPrefix.unframes_extent 3 data).mpr reach
  obtain ⟨counted, _, _⟩ := lengthPrefix.unframes_some 3 data read trailing unframed
  obtain ⟨bootInfo, oracleData, blobData, rfl⟩ := List.length_eq_three.mp counted
  exact ⟨⟨bootInfo, oracleData, blobData⟩, by rw [bytes_to_raw_witness_unframes, unframed]; rfl⟩

theorem decoder_image_iff (data : Bytes) :
    (∀ witness, bytesToRawWitness data = .ok (some witness) → rawWitnessToBytes witness = data) ↔
      data.length ≤ lengthPrefix.extent 3 data := by
  refine ⟨?_, ?_⟩
  · intro image
    by_cases reach : lengthPrefix.extent 3 data ≤ data.length
    · obtain ⟨witness, decoded⟩ := decodes_of_extent data reach
      rw [decoded_extent data witness decoded, image witness decoded]
    · exact Nat.le_of_not_le reach
  · intro short witness decoded
    have extent := decoded_extent data witness decoded
    obtain ⟨_, trailing, framed⟩ := (bytes_to_raw_witness_iff data witness).mp decoded
    have total := congrArg List.length framed
    rw [List.length_append] at total
    have none_left : trailing = [] := List.eq_nil_of_length_eq_zero (by omega)
    rw [framed, none_left, List.append_nil]

theorem trailing_byte_accepted :
    bytesToRawWitness (rawWitnessToBytes ⟨[], [], []⟩ ++ [0xff]) = .ok (some ⟨[], [], []⟩) ∧
      rawWitnessToBytes ⟨[], [], []⟩ ≠ rawWitnessToBytes ⟨[], [], []⟩ ++ [0xff] := by
  decide

end OpenZk.WitnessAdapter
