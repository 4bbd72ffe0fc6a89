import Mathlib.Data.List.Basic

set_option autoImplicit false

structure LengthPrefix (α : Type) where
  width : Nat
  bound : Nat
  encode : Nat → List α
  decode : List α → Nat
  encode_length : ∀ number, (encode number).length = width
  decode_encode : ∀ number, number < bound → decode (encode number) = number
  encode_decode : ∀ header, header.length = width → encode (decode header) = header
  decode_lt : ∀ header, header.length = width → decode header < bound

namespace LengthPrefix

variable {α : Type} (h : LengthPrefix α)

def frame (chunk : List α) : List α := h.encode chunk.length ++ chunk

def frames (chunks : List (List α)) : List α := chunks.flatMap h.frame

def announced (data : List α) : Nat := h.width + h.decode (data.take h.width)

def unframe (data : List α) : Option (List α × List α) :=
  if h.announced data ≤ data.length then
    some ((data.drop h.width).take (h.decode (data.take h.width)), data.drop (h.announced data))
  else none

def unframes : Nat → List α → Option (List (List α) × List α)
  | 0, data => some ([], data)
  | count + 1, data =>
      (h.unframe data).bind fun first =>
      (unframes count first.2).map fun later => (first.1 :: later.1, later.2)

def extent : Nat → List α → Nat
  | 0, _ => 0
  | count + 1, data => h.announced data + extent count (data.drop (h.announced data))

def Overrun (count : Nat) (data : List α) : Prop := data.length < h.extent count data

def Wraps : Prop := ∀ number, h.decode (h.encode number) = number % h.bound

def unread (chunk : List α) : List α := chunk.drop (chunk.length % h.bound)

theorem frame_length (chunk : List α) : (h.frame chunk).length = h.width + chunk.length := by
  rw [frame, List.length_append, h.encode_length]

theorem frames_cons (chunk : List α) (chunks : List (List α)) : h.frames (chunk :: chunks) = h.frame chunk ++ h.frames chunks :=
  List.flatMap_cons

theorem frame_header (chunk rest : List α) : (h.frame chunk ++ rest).take h.width = h.encode chunk.length := by
  rw [frame, List.append_assoc, ← h.encode_length chunk.length, List.take_left]

theorem announced_frame (chunk rest : List α) (small : chunk.length < h.bound) :
    h.announced (h.frame chunk ++ rest) = (h.frame chunk).length := by
  rw [announced, frame_header, h.decode_encode _ small, frame_length]

theorem unframe_frame (chunk rest : List α) (small : chunk.length < h.bound) :
    h.unframe (h.frame chunk ++ rest) = some (chunk, rest) := by
  have body : (h.frame chunk ++ rest).drop h.width = chunk ++ rest := by
    rw [frame, List.append_assoc, ← h.encode_length chunk.length, List.drop_left]
  rw [unframe, announced_frame h chunk rest small, frame_header, body, h.decode_encode _ small, List.take_left,
    List.drop_left, if_pos]
  rw [List.length_append]
  exact Nat.le_add_right _ _

theorem unframe_some (data chunk rest : List α) (unframed : h.unframe data = some (chunk, rest)) :
    data = h.frame chunk ++ rest ∧ chunk.length < h.bound := by
  rw [unframe] at unframed
  split at unframed
  · rename_i fits
    cases unframed
    rw [announced] at fits
    have full : (data.take h.width).length = h.width := List.length_take_of_le (by omega)
    have counted : ((data.drop h.width).take (h.decode (data.take h.width))).length = h.decode (data.take h.width) := by
      rw [List.length_take, List.length_drop]
      omega
    refine ⟨?_, ?_⟩
    · rw [frame, counted, h.encode_decode _ full, announced, ← List.drop_drop, List.append_assoc, List.take_append_drop,
        List.take_append_drop]
    · rw [counted]
      exact h.decode_lt _ full
  · cases unframed

theorem unframe_suffix (data chunk rest : List α) (unframed : h.unframe data = some (chunk, rest)) : rest <:+ data :=
  ⟨h.frame chunk, (h.unframe_some data chunk rest unframed).1.symm⟩

theorem unframes_frames (chunks : List (List α)) (rest : List α) (small : ∀ chunk ∈ chunks, chunk.length < h.bound) :
    h.unframes chunks.length (h.frames chunks ++ rest) = some (chunks, rest) := by
  induction chunks with
  | nil => rfl
  | cons chunk later ih =>
      have tail := ih (fun other member => small other (List.mem_cons_of_mem chunk member))
      rw [List.length_cons, unframes, frames_cons, List.append_assoc, h.unframe_frame chunk _ (small chunk List.mem_cons_self),
        Option.bind_some, tail, Option.map_some]

theorem unframes_some (count : Nat) (data : List α) (chunks : List (List α)) (rest : List α)
    (unframed : h.unframes count data = some (chunks, rest)) :
    chunks.length = count ∧ data = h.frames chunks ++ rest ∧ ∀ chunk ∈ chunks, chunk.length < h.bound := by
  induction count generalizing data chunks with
  | zero =>
      cases unframed
      exact ⟨rfl, rfl, by simp⟩
  | succ count ih =>
      rw [unframes] at unframed
      obtain ⟨⟨chunk, middle⟩, first, later⟩ := Option.bind_eq_some_iff.mp unframed
      obtain ⟨⟨others, last⟩, tail, same⟩ := Option.map_eq_some_iff.mp later
      cases same
      obtain ⟨front, small⟩ := h.unframe_some data chunk middle first
      obtain ⟨counted, back, laterSmall⟩ := ih middle others tail
      refine ⟨congrArg Nat.succ counted, ?_, List.forall_mem_cons.mpr ⟨small, laterSmall⟩⟩
      rw [front, back, frames_cons, List.append_assoc]

theorem unframes_prefix (chunks : List (List α)) (cut missing : List α) (whole : cut ++ missing = h.frames chunks)
    (strict : missing ≠ []) (small : ∀ chunk ∈ chunks, chunk.length < h.bound) : h.unframes chunks.length cut = none := by
  cases unframed : h.unframes chunks.length cut with
  | none => rfl
  | some result =>
      obtain ⟨others, rest⟩ := result
      obtain ⟨counted, framed, otherSmall⟩ := h.unframes_some _ _ _ _ unframed
      have first := h.unframes_frames chunks [] small
      have second := h.unframes_frames others (rest ++ missing) otherSmall
      rw [List.append_nil, ← whole] at first
      rw [← List.append_assoc, ← framed, counted, first] at second
      have last := congrArg Prod.snd (Option.some.inj second)
      exact absurd (List.append_eq_nil_iff.mp last.symm).2 strict

theorem unframes_extent (count : Nat) (data : List α) :
    (∃ result, h.unframes count data = some result) ↔ h.extent count data ≤ data.length := by
  -- The induction follows the headers: what the first announces is dropped.
  induction count generalizing data with
  | zero => simp [unframes, extent]
  | succ count ih =>
      rw [unframes, extent, unframe]
      by_cases fits : h.announced data ≤ data.length
      · have later := ih (data.drop (h.announced data))
        rw [List.length_drop] at later
        rw [if_pos fits, Option.bind_some]
        refine ⟨?_, ?_⟩
        · intro unframed
          obtain ⟨result, unframed⟩ := unframed
          obtain ⟨tail, found, _⟩ := Option.map_eq_some_iff.mp unframed
          have inside := later.mp ⟨tail, found⟩
          omega
        · intro inside
          obtain ⟨tail, found⟩ := later.mpr (by omega)
          exact ⟨_, by rw [found, Option.map_some]⟩
      · rw [if_neg fits, Option.bind_none]
        refine ⟨?_, ?_⟩
        · intro unframed
          obtain ⟨result, impossible⟩ := unframed
          cases impossible
        · intro inside
          exact absurd (Nat.le_trans (Nat.le_add_right _ _) inside) fits

theorem extent_frames (chunks : List (List α)) (rest : List α) (small : ∀ chunk ∈ chunks, chunk.length < h.bound) :
    h.extent chunks.length (h.frames chunks ++ rest) = (h.frames chunks).length := by
  induction chunks with
  | nil => rfl
  | cons chunk later ih =>
      have tail := ih (fun other member => small other (List.mem_cons_of_mem chunk member))
      have reach := h.announced_frame chunk (h.frames later ++ rest) (small chunk List.mem_cons_self)
      rw [List.length_cons, extent, frames_cons, List.append_assoc, reach, List.drop_left, tail, List.length_append]

theorem overrun_zero (data : List α) : ¬ h.Overrun 0 data := Nat.not_lt_zero _

theorem overrun_iff (count : Nat) (data : List α) : h.Overrun count data ↔ h.unframes count data = none := by
  rw [Overrun, ← Nat.not_le, ← unframes_extent, Option.eq_none_iff_forall_ne_some, not_exists]

theorem unread_short (chunk : List α) (small : chunk.length < h.bound) : h.unread chunk = [] := by
  rw [unread, Nat.mod_eq_of_lt small, List.drop_length]

theorem overrun_frame (wraps : h.Wraps) (count : Nat) (chunk rest : List α) :
    h.Overrun (count + 1) (h.frame chunk ++ rest) ↔ h.Overrun count (h.unread chunk ++ rest) := by
  have kept : chunk.length % h.bound ≤ chunk.length := Nat.mod_le _ _
  have body : (h.frame chunk ++ rest).drop h.width = chunk ++ rest := by
    rw [frame, List.append_assoc, ← h.encode_length chunk.length, List.drop_left]
  have reach : h.announced (h.frame chunk ++ rest) = h.width + chunk.length % h.bound := by
    rw [announced, frame_header, wraps]
  have left : (h.frame chunk ++ rest).drop (h.announced (h.frame chunk ++ rest)) = h.unread chunk ++ rest := by
    rw [reach, ← List.drop_drop, body, List.drop_append_of_le_length kept, unread]
  have total : (h.frame chunk ++ rest).length = h.width + chunk.length % h.bound + (h.unread chunk ++ rest).length := by
    rw [List.length_append, List.length_append, frame_length, unread, List.length_drop]
    omega
  rw [Overrun, extent, left, total, reach, Overrun]
  omega

end LengthPrefix
