import OpenZk.WitnessAdapter

set_option autoImplicit false

namespace OpenZk.WitnessAdapter

open Words

theorem length_prefix_wraps : lengthPrefix.Wraps := by
  intro number
  have encoded : lengthPrefix.decode (lengthPrefix.encode number) = (number % 2 ^ 32) % 256 ^ 4 :=
    little_endian_to_little_endian 4 (UInt32.ofNat number).toNat
  rw [encoded]
  exact Nat.mod_eq_of_lt (Nat.mod_lt _ (by decide))

def Overruns (witness : RawWitness) : Prop :=
  if 2 ^ 32 ≤ witness.bootInfo.length then
    lengthPrefix.Overrun 2
      (lengthPrefix.unread witness.bootInfo ++ lengthPrefix.frames [witness.oracleData, witness.blobData])
  else
    2 ^ 32 ≤ witness.oracleData.length ∧
      lengthPrefix.Overrun 1 (lengthPrefix.unread witness.oracleData ++ lengthPrefix.frames [witness.blobData])

theorem rejected_iff (data : Bytes) : bytesToRawWitness data = .ok none ↔ lengthPrefix.Overrun 3 data := by
  rw [LengthPrefix.overrun_iff, bytes_to_raw_witness_unframes, Except.ok.injEq]
  cases unframed : lengthPrefix.unframes 3 data with
  | none => simp
  | some taken =>
      obtain ⟨counted, _, _⟩ := lengthPrefix.unframes_some 3 data taken.1 taken.2 unframed
      obtain ⟨bootInfo, oracleData, blobData, three⟩ := List.length_eq_three.mp counted
      rw [Option.bind_some, three, ofChunks]
      exact iff_of_false nofun nofun

theorem short_field_skipped (field rest : Bytes) (count : Nat) (short : ¬ 2 ^ 32 ≤ field.length) :
    lengthPrefix.Overrun (count + 1) (lengthPrefix.frame field ++ rest) ↔ lengthPrefix.Overrun count rest := by
  rw [lengthPrefix.overrun_frame length_prefix_wraps, lengthPrefix.unread_short field (Nat.lt_of_not_le short),
    List.nil_append]

theorem overrun_fields (witness : RawWitness) : lengthPrefix.Overrun 3 (rawWitnessToBytes witness) ↔ Overruns witness := by
  have last : ¬ lengthPrefix.Overrun 1 (lengthPrefix.frames [witness.blobData]) := by
    rw [LengthPrefix.frames_cons, lengthPrefix.overrun_frame length_prefix_wraps]
    exact lengthPrefix.overrun_zero _
  rw [to_bytes_frames, chunks, LengthPrefix.frames_cons, Overruns]
  by_cases bootInfo : 2 ^ 32 ≤ witness.bootInfo.length
  · rw [if_pos bootInfo, lengthPrefix.overrun_frame length_prefix_wraps]
  · rw [if_neg bootInfo, short_field_skipped _ _ 2 bootInfo, LengthPrefix.frames_cons]
    by_cases oracleData : 2 ^ 32 ≤ witness.oracleData.length
    · rw [lengthPrefix.overrun_frame length_prefix_wraps, and_iff_right oracleData]
    · rw [short_field_skipped _ _ 1 oracleData]
      exact iff_of_false last fun overrun => oracleData overrun.1

/-- A witness that does not fit its headers is refused only where the headers read out of its own
bytes ask for more than there is, and otherwise comes back as another one. -/
theorem never_replaced_iff (witness : RawWitness) :
    (bytesToRawWitness (rawWitnessToBytes witness) = .ok (some witness) ∨
        bytesToRawWitness (rawWitnessToBytes witness) = .ok none) ↔ Small witness ∨ Overruns witness := by
  have kept : bytesToRawWitness (rawWitnessToBytes witness) = .ok (some witness) ↔ Small witness := by
    rw [bytes_to_raw_witness_iff]
    exact and_iff_left ⟨[], (List.append_nil _).symm⟩
  rw [kept, rejected_iff, overrun_fields]

theorem zeros_frames (length : Nat) (long : 8 ≤ length) :
    (List.replicate length 0 : Bytes) = lengthPrefix.frames [[], []] ++ List.replicate (length - 8) 0 := by
  have headers : lengthPrefix.frames [[], []] = List.replicate 8 0 := by decide
  rw [headers, List.replicate_append_replicate, Nat.add_sub_cancel' long]

theorem zeros_replaced (length : Nat) (wrapped : length % 2 ^ 32 = 0) (long : 8 ≤ length) :
    bytesToRawWitness (rawWitnessToBytes ⟨List.replicate length 0, [], []⟩) = .ok (some ⟨[], [], []⟩) := by
  have header : lengthPrefix.encode length = lengthPrefix.encode 0 :=
    congrArg (toLittleEndian 4) (UInt32.toNat_ofNat'.trans wrapped)
  have first : lengthPrefix.frame (List.replicate length 0 : Bytes) = lengthPrefix.frame [] ++ List.replicate length 0 := by
    rw [LengthPrefix.frame, LengthPrefix.frame, List.length_replicate, header, List.append_nil, List.length_nil]
  rw [bytes_to_raw_witness_iff]
  refine ⟨⟨by decide, by decide, by decide⟩, List.replicate (length - 8) 0 ++ lengthPrefix.frames [[], []], ?_⟩
  rw [to_bytes_frames, to_bytes_frames, chunks, chunks, LengthPrefix.frames_cons, LengthPrefix.frames_cons _ [] [[], []], first]
  conv_lhs => rw [zeros_frames length long]
  simp only [List.append_assoc]

theorem wrapped_witness_replaced :
    bytesToRawWitness (rawWitnessToBytes ⟨List.replicate (2 ^ 32) 0, [], []⟩) = .ok (some ⟨[], [], []⟩) ∧
      (⟨[], [], []⟩ : RawWitness) ≠ ⟨List.replicate (2 ^ 32) 0, [], []⟩ := by
  refine ⟨zeros_replaced (2 ^ 32) (Nat.mod_self _) (by decide), ?_⟩
  intro same
  have lengths := congrArg (fun witness => witness.bootInfo.length) same
  rw [List.length_replicate] at lengths
  exact absurd lengths (by decide)

end OpenZk.WitnessAdapter
