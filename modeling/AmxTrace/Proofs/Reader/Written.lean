import AmxTrace.Reader
import Mathlib.Data.List.TakeWhile

/-! # Readers and what was written -/

namespace AmxTrace

theorem except_bind_eq_ok_iff {ε α β : Type} {first : Except ε α} {next : α → Except ε β}
    {result : β} :
    (first >>= next) = .ok result ↔ ∃ value, first = .ok value ∧ next value = .ok result := by
  cases first with
  | error e => simp [bind, Except.bind]
  | ok value => simp [bind, Except.bind]

theorem except_mapError_eq_ok_iff {ε ε' α : Type} {f : ε → ε'} {outcome : Except ε α} {value : α} :
    outcome.mapError f = .ok value ↔ outcome = .ok value := by
  cases outcome with
  | error e => simp [Except.mapError]
  | ok value => simp [Except.mapError]

theorem except_bind_eq_error_iff {ε α β : Type} {first : Except ε α} {next : α → Except ε β}
    {fault : ε} :
    (first >>= next) = .error fault ↔
      first = .error fault ∨ ∃ value, first = .ok value ∧ next value = .error fault := by
  cases first with
  | error e => simp [bind, Except.bind]
  | ok value => simp [bind, Except.bind]

theorem except_mapError_eq_error_iff {ε ε' α : Type} {f : ε → ε'} {outcome : Except ε α}
    {fault : ε'} : outcome.mapError f = .error fault ↔ ∃ e, outcome = .error e ∧ f e = fault := by
  cases outcome with
  | error e => simp [Except.mapError]
  | ok value => simp [Except.mapError]

theorem except_pure_eq_ok_iff {ε α : Type} {value result : α} :
    (pure value : Except ε α) = .ok result ↔ value = result :=
  ⟨Except.ok.inj, congrArg Except.ok⟩

theorem except_refuse_eq_ok_iff {ε α : Type} {ground : Prop} [Decidable ground] {fault : ε}
    {next : Except ε α} {value : α} :
    (if ground then throw fault else next) = .ok value ↔ ¬ground ∧ next = .ok value := by
  by_cases h : ground
  · simp [h, throw, throwThe, MonadExceptOf.throw]
  · simp [h]

namespace Reader

variable {α β : Type}

section Sequencing

variable {reader : Reader α} {next : α → Reader β} {cursor after last : Cursor} {value : α}

theorem bind_of_ok (h : reader cursor = .ok (value, after)) :
    (reader >>= next) cursor = next value after := by
  change (reader cursor >>= fun p => next p.1 p.2) = _
  rw [h]
  rfl

theorem bind_of_error {short : ShortRead} (h : reader cursor = .error short) :
    (reader >>= next) cursor = .error short := by
  change (reader cursor >>= fun p => next p.1 p.2) = _
  rw [h]
  rfl

/-- Two readers in a row succeed exactly when the second succeeds where the first one ends. -/
theorem bind_eq_ok_iff {result : β} :
    (reader >>= next) cursor = .ok (result, last) ↔
      ∃ value after,
        reader cursor = .ok (value, after) ∧ next value after = .ok (result, last) := by
  cases h : reader cursor with
  | error short => simp [bind_of_error h]
  | ok read =>
    obtain ⟨value, after⟩ := read
    rw [bind_of_ok h]
    constructor
    · intro hnext
      exact ⟨value, after, rfl, hnext⟩
    · rintro ⟨_, _, hread, hnext⟩
      cases hread
      exact hnext

theorem pure_eq_ok_iff {result : α} :
    (pure value : Reader α) cursor = .ok (result, after) ↔ value = result ∧ cursor = after := by
  change Except.ok (value, cursor) = .ok (result, after) ↔ _
  simp

theorem map_eq_ok_iff {f : α → β} {result : β} :
    (f <$> reader) cursor = .ok (result, after) ↔
      ∃ value, reader cursor = .ok (value, after) ∧ f value = result := by
  change (reader >>= fun value => pure (f value)) cursor = _ ↔ _
  rw [bind_eq_ok_iff]
  simp only [pure_eq_ok_iff]
  constructor
  · rintro ⟨value, _, h, rfl, rfl⟩
    exact ⟨value, h, rfl⟩
  · rintro ⟨value, h, rfl⟩
    exact ⟨value, after, h, rfl, rfl⟩

end Sequencing

theorem length_repeated {field : Reader α} {count : Nat} {cursor after : Cursor} {values : List α}
    (h : repeated field count cursor = .ok (values, after)) : values.length = count := by
  induction count generalizing cursor values after with
  | zero =>
    obtain ⟨rfl, -⟩ := pure_eq_ok_iff.mp h
    rfl
  | succ count ih =>
    obtain ⟨first, rest, -, hrest⟩ := bind_eq_ok_iff.mp h
    obtain ⟨others, last, hothers, hvalues⟩ := bind_eq_ok_iff.mp hrest
    obtain ⟨rfl, -⟩ := pure_eq_ok_iff.mp hvalues
    rw [List.length_cons, ih hothers]

/-- A field of fixed width: it succeeds exactly where the bytes of a value stand, and moves the
cursor past them. -/
structure Field (reader : Reader α) (width : Nat) (written : α → List UInt8) : Prop where
  length : ∀ value, (written value).length = width
  eq_ok_iff : ∀ cursor value after, reader cursor = .ok (value, after) ↔
    cursor.rest = written value ++ after.rest ∧ after.offset = cursor.offset + width

theorem field_byte : Field byte 1 fun b => [b] where
  length _ := rfl
  eq_ok_iff := by
    rintro ⟨offset, rest⟩ b ⟨last, others⟩
    cases rest with
    | nil => simp [byte]
    | cons first rest =>
      simp only [byte, Except.ok.injEq, Prod.mk.injEq, Cursor.mk.injEq, List.cons_append,
        List.nil_append, List.cons.injEq]
      grind

theorem field_word16 : Field word16 2 Word.toBytes16 where
  length := Word.length_toBytes16
  eq_ok_iff := by
    rintro ⟨offset, rest⟩ w ⟨last, others⟩
    constructor
    · intro h
      unfold word16 at h
      split at h
      next b0 b1 rest heq =>
        simp only [Except.ok.injEq, Prod.mk.injEq, Cursor.mk.injEq] at h
        obtain ⟨rfl, rfl, rfl⟩ := h
        exact ⟨by rw [heq, Word.toBytes16_ofBytes16]; rfl, rfl⟩
      next => cases h
    · rintro ⟨hrest, hoffset⟩
      dsimp only at hrest hoffset
      subst hrest hoffset
      simp [word16, Word.toBytes16, Word.ofBytes16_toUInt8]

theorem field_word32 : Field word32 4 Word.toBytes32 where
  length := Word.length_toBytes32
  eq_ok_iff := by
    rintro ⟨offset, rest⟩ w ⟨last, others⟩
    constructor
    · intro h
      unfold word32 at h
      split at h
      next b0 b1 b2 b3 rest heq =>
        simp only [Except.ok.injEq, Prod.mk.injEq, Cursor.mk.injEq] at h
        obtain ⟨rfl, rfl, rfl⟩ := h
        exact ⟨by rw [heq, Word.toBytes32_ofBytes32]; rfl, rfl⟩
      next => cases h
    · rintro ⟨hrest, hoffset⟩
      dsimp only at hrest hoffset
      subst hrest hoffset
      simp [word32, Word.toBytes32, Word.ofBytes32_toUInt8]

theorem Field.map {reader : Reader α} {width : Nat} {written : α → List UInt8}
    (h : Field reader width written) {f : α → β} {g : β → α} (hgf : ∀ a, g (f a) = a)
    (hfg : ∀ b, f (g b) = b) : Field (f <$> reader) width fun b => written (g b) where
  length b := h.length (g b)
  eq_ok_iff := by
    intro cursor b after
    rw [map_eq_ok_iff, ← h.eq_ok_iff cursor (g b) after]
    constructor
    · rintro ⟨a, ha, rfl⟩
      rwa [hgf]
    · intro hb
      exact ⟨g b, hb, hfg b⟩

theorem field_short : Field short 2 fun s => Word.toBytes16 s.toUInt16 :=
  field_word16.map UInt16.toUInt16_toInt16 Int16.toInt16_toUInt16

theorem field_cell : Field cell 4 fun c => Word.toBytes32 c.toUInt32 :=
  field_word32.map UInt32.toUInt32_toInt32 Int32.toInt32_toUInt32

theorem Field.bind_eq_ok_iff {reader : Reader α} {width : Nat} {written : α → List UInt8}
    (h : Field reader width written) {next : α → Reader β} {cursor last : Cursor} {result : β} :
    (reader >>= next) cursor = .ok (result, last) ↔
      ∃ value rest, cursor.rest = written value ++ rest ∧
        next value ⟨cursor.offset + width, rest⟩ = .ok (result, last) := by
  rw [Reader.bind_eq_ok_iff]
  constructor
  · rintro ⟨value, ⟨offset, rest⟩, hread, hnext⟩
    obtain ⟨hrest, rfl⟩ := (h.eq_ok_iff _ _ _).mp hread
    exact ⟨value, rest, hrest, hnext⟩
  · rintro ⟨value, rest, hrest, hnext⟩
    exact ⟨value, _, (h.eq_ok_iff _ _ _).mpr ⟨hrest, rfl⟩, hnext⟩

section Names

variable {name : List UInt8} (h : 0 ∉ name) (rest : List UInt8)
include h

private theorem bne_zero_of_mem : ∀ b ∈ name, (b != 0) = true := by
  intro b hb
  have hne : b ≠ 0 := fun hzero => h (hzero ▸ hb)
  simpa using hne

theorem takeWhile_name : (name ++ 0 :: rest).takeWhile (· != 0) = name := by
  simp [List.takeWhile_append_of_pos (bne_zero_of_mem h)]

theorem dropWhile_name : (name ++ 0 :: rest).dropWhile (· != 0) = 0 :: rest := by
  simp [List.dropWhile_append_of_pos (bne_zero_of_mem h)]

end Names

theorem terminated_eq_ok_iff {cursor after : Cursor} {name : List UInt8} :
    terminated cursor = .ok (name, after) ↔
      0 ∉ name ∧ cursor.rest = name ++ 0 :: after.rest ∧
        after.offset = cursor.offset + name.length + 1 := by
  obtain ⟨offset, bytes⟩ := cursor
  obtain ⟨last, others⟩ := after
  constructor
  · intro h
    unfold terminated at h
    split at h
    next first rest heq =>
      simp only [Except.ok.injEq, Prod.mk.injEq, Cursor.mk.injEq] at h heq
      obtain ⟨rfl, rfl, rfl⟩ := h
      have hfirst : first = 0 := by
        have := List.head?_dropWhile_not (· != 0) bytes
        simpa [heq] using this
      refine ⟨?_, ?_, rfl⟩
      · intro hmem
        simpa using List.mem_takeWhile_imp hmem
      · rw [← hfirst, ← heq]
        simp only [hfirst, List.takeWhile_append_dropWhile]
    next => cases h
  · rintro ⟨hname, hrest, hoffset⟩
    dsimp only at hrest hoffset
    subst hrest hoffset
    simp [terminated, takeWhile_name hname, dropWhile_name hname]

theorem valueAt_eq_ok_iff {reader : Reader α} {bytes : List UInt8} {offset : Nat} {value : α} :
    valueAt reader bytes offset = .ok value ↔
      offset ≤ bytes.length ∧ ∃ after, reader ⟨offset, bytes.drop offset⟩ = .ok (value, after) := by
  unfold valueAt
  split
  next hle =>
    cases h : reader ⟨offset, bytes.drop offset⟩ with
    | error short => simp [Functor.map, Except.map]
    | ok read => simp [Functor.map, Except.map, hle, Prod.ext_iff]
  next hlt => simp [hlt]

theorem valueAt_terminated_eq_ok_iff {bytes name : List UInt8} {offset : Nat} :
    valueAt terminated bytes offset = .ok name ↔
      0 ∉ name ∧ name ++ [0] <+: bytes.drop offset := by
  simp only [valueAt_eq_ok_iff, terminated_eq_ok_iff]
  constructor
  · rintro ⟨-, ⟨last, rest⟩, hname, hbytes, -⟩
    exact ⟨hname, ⟨rest, by simpa using hbytes.symm⟩⟩
  · rintro ⟨hname, rest, hbytes⟩
    have hlength := congrArg List.length hbytes
    simp only [List.length_append, List.length_drop, List.length_singleton] at hlength
    exact ⟨by omega, ⟨_, rest⟩, hname, by simpa using hbytes.symm, rfl⟩

/-- A strict initial part of two byte strings in a row ends either in the second or in the
first. -/
theorem strictPrefix_append {part first second : List UInt8} (h : part <+: first ++ second)
    (hne : part ≠ first ++ second) :
    (∃ rest, part = first ++ rest ∧ rest <+: second ∧ rest ≠ second) ∨
      (part <+: first ∧ part ≠ first) := by
  by_cases hpast : first <+: part
  · obtain ⟨rest, rfl⟩ := hpast
    exact .inl ⟨rest, rfl, (List.prefix_append_right_inj first).mp h, fun he => hne (he ▸ rfl)⟩
  · refine .inr ⟨?_, fun he => hpast (he ▸ List.prefix_rfl)⟩
    exact (List.prefix_or_prefix_of_prefix h (List.prefix_append _ _)).resolve_right hpast

/-- A reader reads what was written for a value: it gives the value back whatever follows, and
fails on every strict initial part. -/
structure Reads (reader : Reader α) (written : List UInt8) (value : α) : Prop where
  whole : ∀ offset rest,
    reader ⟨offset, written ++ rest⟩ = .ok (value, ⟨offset + written.length, rest⟩)
  cut : ∀ offset part, part <+: written → part ≠ written →
    ∃ short, reader ⟨offset, part⟩ = .error short

theorem Field.reads {reader : Reader α} {width : Nat} {written : α → List UInt8}
    (h : Field reader width written) (value : α) : Reads reader (written value) value where
  whole offset rest := (h.eq_ok_iff _ _ _).mpr ⟨rfl, by rw [h.length]⟩
  cut offset part hpart hne := by
    cases hread : reader ⟨offset, part⟩ with
    | error short => exact ⟨short, rfl⟩
    | ok read =>
      -- a value needs as many bytes as the one that was cut
      have hbytes := ((h.eq_ok_iff _ read.1 read.2).mp hread).1
      have hlength := congrArg List.length hbytes
      rw [List.length_append, h.length, ← h.length value] at hlength
      have hle := hpart.length_le
      dsimp only at hlength
      exact absurd (hpart.eq_of_length (by omega)) hne

theorem reads_terminated {name : List UInt8} (h : 0 ∉ name) :
    Reads terminated (name ++ [0]) name where
  whole offset rest := terminated_eq_ok_iff.mpr ⟨h, by simp, by simp [Nat.add_assoc]⟩
  cut offset part hpart hne := by
    cases hread : terminated ⟨offset, part⟩ with
    | error short => exact ⟨short, rfl⟩
    | ok read =>
      obtain ⟨_, hbytes, _⟩ := terminated_eq_ok_iff.mp hread
      -- without its last byte the name has no zero to end at
      have hzero : (0 : UInt8) ∈ part := by
        rw [show part = _ from hbytes]
        simp
      rcases List.prefix_concat_iff.mp hpart with rfl | hinside
      · exact absurd rfl hne
      · exact absurd (hinside.subset hzero) h

namespace Reads

variable {reader : Reader α} {written written' : List UInt8} {value : α}

theorem pure (value : α) : Reads (pure value) [] value where
  whole _ _ := rfl
  cut _ _ hpart hne := absurd (List.prefix_nil.mp hpart) hne

theorem bind {next : α → Reader β} {result : β} (h : Reads reader written value)
    (hnext : Reads (next value) written' result) :
    Reads (reader >>= next) (written ++ written') result where
  whole offset rest := by
    rw [List.append_assoc, bind_of_ok (h.whole offset _), hnext.whole, List.length_append,
      Nat.add_assoc]
  cut offset part hpart hne := by
    -- the cut lies either past the first part or inside it
    rcases strictPrefix_append hpart hne with ⟨second, rfl, hsecond, hne'⟩ | ⟨hinside, hne'⟩
    · obtain ⟨short, hshort⟩ := hnext.cut (offset + written.length) second hsecond hne'
      exact ⟨short, by rw [bind_of_ok (h.whole offset second), hshort]⟩
    · obtain ⟨short, hshort⟩ := h.cut offset part hinside hne'
      exact ⟨short, bind_of_error hshort⟩

/-- The last of several readers in a row, whose values are put together. -/
theorem map (h : Reads reader written value) (f : α → β) :
    Reads (reader >>= fun value => Pure.pure (f value)) written (f value) := by
  have hboth : Reads (reader >>= fun value => Pure.pure (f value)) (written ++ []) (f value) :=
    h.bind (Reads.pure (f value))
  rwa [List.append_nil] at hboth

theorem repeated {ι : Type} {written : ι → List UInt8} {value : ι → α} {items : List ι}
    (h : ∀ item ∈ items, Reads reader (written item) (value item)) :
    Reads (repeated reader items.length) (items.flatMap written) (items.map value) := by
  induction items with
  | nil => exact Reads.pure []
  | cons item items ih =>
    have hrest := ih fun other hother => h other (List.mem_cons_of_mem _ hother)
    exact (h item List.mem_cons_self).bind (hrest.map (value item :: ·))

end Reads

end Reader

end AmxTrace
