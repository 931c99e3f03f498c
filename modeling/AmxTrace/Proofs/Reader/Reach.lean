import AmxTrace.Proofs.Reader.Written

/-! # How far readers look

A reader has a reach if it looks at no byte past it: where the bytes behind the reach are cut off,
it gives the same value or the same fault, and leaves the bytes that are not cut. -/

namespace AmxTrace.Reader

variable {α β : Type}

/-- What was read, with no more than a number of the bytes that follow. -/
def cutRest (keep : Nat) (read : α × Cursor) : α × Cursor :=
  (read.1, ⟨read.2.offset, read.2.rest.take keep⟩)

/-- A reader that looks at no byte past a number of them. -/
def Reach (reader : Reader α) (width : Nat) : Prop :=
  ∀ offset bytes keep,
    reader ⟨offset, bytes.take (keep + width)⟩ = (reader ⟨offset, bytes⟩).map (cutRest keep)

theorem reach_pure (value : α) : Reach (pure value) 0 := fun _ _ _ => rfl

theorem reach_byte : Reach byte 1 := by
  intro offset bytes keep
  cases bytes with
  | nil => rfl
  | cons b rest => rfl

theorem reach_word16 : Reach word16 2 := by
  intro offset bytes keep
  match bytes with
  | [] | [_] => rfl
  | b0 :: b1 :: rest => rfl

theorem reach_word32 : Reach word32 4 := by
  intro offset bytes keep
  match bytes with
  | [] | [_] | [_, _] | [_, _, _] => rfl
  | b0 :: b1 :: b2 :: b3 :: rest => rfl

namespace Reach

variable {reader : Reader α} {width width' : Nat}

theorem bind {next : α → Reader β} (h : Reach reader width)
    (hnext : ∀ value, Reach (next value) width') : Reach (reader >>= next) (width' + width) := by
  intro offset bytes keep
  rw [← Nat.add_assoc]
  have hcut := h offset bytes (keep + width')
  cases hread : reader ⟨offset, bytes⟩ with
  | error short =>
    rw [hread] at hcut
    rw [bind_of_error hcut, bind_of_error hread]
    rfl
  | ok read =>
    obtain ⟨value, after⟩ := read
    rw [hread] at hcut
    rw [bind_of_ok hcut, bind_of_ok hread]
    exact hnext value after.offset after.rest keep

theorem map (h : Reach reader width) (f : α → β) : Reach (f <$> reader) width := by
  have hboth : Reach (reader >>= fun value => Pure.pure (f value)) (0 + width) :=
    h.bind fun value => reach_pure (f value)
  rwa [Nat.zero_add] at hboth

end Reach

theorem reach_short : Reach short 2 := reach_word16.map _

theorem reach_cell : Reach cell 4 := reach_word32.map _

end AmxTrace.Reader
