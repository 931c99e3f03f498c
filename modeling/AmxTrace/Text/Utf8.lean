/-! # UTF-8

Bytes are decoded by a machine that takes one byte at a time. -/

namespace AmxTrace.Utf8

/-- What the decoder is in the middle of. -/
inductive State where
  | ready
  /-- Bytes still to come, the range allowed for the next one, and the bits so far. -/
  | inside (remaining : Nat) (low high : UInt8) (bits : Nat)
deriving Repr

/-- Units produced and state reached by a byte that starts a character; `none` stands for
an ill-formed unit. -/
def lead (b : UInt8) : List (Option Char) × State :=
  if b < 0x80 then ([some (Char.ofNat b.toNat)], .ready)
  else if b < 0xC2 then ([none], .ready)
  else if b < 0xE0 then ([], .inside 0 0x80 0xBF (b.toNat % 0x20))
  else if b = 0xE0 then ([], .inside 1 0xA0 0xBF 0)
  else if b = 0xED then ([], .inside 1 0x80 0x9F 0xD)
  else if b < 0xF0 then ([], .inside 1 0x80 0xBF (b.toNat % 0x10))
  else if b = 0xF0 then ([], .inside 2 0x90 0xBF 0)
  else if b < 0xF4 then ([], .inside 2 0x80 0xBF (b.toNat % 0x08))
  else if b = 0xF4 then ([], .inside 2 0x80 0x8F 4)
  else ([none], .ready)

def step (s : State) (b : UInt8) : List (Option Char) × State :=
  match s with
  | .ready => lead b
  | .inside remaining low high bits =>
    if low ≤ b ∧ b ≤ high then
      let bits := bits * 0x40 + b.toNat % 0x40
      match remaining with
      | 0 => ([some (Char.ofNat bits)], .ready)
      | more + 1 => ([], .inside more 0x80 0xBF bits)
    else
      let (units, next) := lead b
      (none :: units, next)

/-- Characters and ill-formed units of a byte sequence, from a state. -/
def unitsFrom : State → List UInt8 → List (Option Char)
  | .ready, [] => []
  | .inside .., [] => [none]
  | s, b :: rest =>
    let (units, next) := step s b
    units ++ unitsFrom next rest

/-- Characters and ill-formed units of a byte sequence. -/
def units (bytes : List UInt8) : List (Option Char) := unitsFrom .ready bytes

/-- Decode, putting the replacement character for every ill-formed unit. -/
def decodeLossy (bytes : List UInt8) : String :=
  String.ofList ((units bytes).map (·.getD (Char.ofNat 0xFFFD)))

def decode? (bytes : List UInt8) : Option String :=
  String.ofList <$> (units bytes).mapM id

/-- A decoder inside a character waits for bytes that are no ASCII. -/
def State.Reachable : State → Prop
  | .ready => True
  | .inside _ low _ _ => 0x80 ≤ low

theorem reachable_lead (b : UInt8) : (lead b).2.Reachable := by
  unfold lead
  repeat' split
  all_goals simp [State.Reachable]

theorem reachable_step {s : State} (b : UInt8) : (step s b).2.Reachable := by
  cases s with
  | ready => exact reachable_lead b
  | inside remaining low high bits =>
    unfold step
    dsimp only
    split
    · cases remaining <;> simp [State.Reachable]
    · exact reachable_lead b

theorem lead_ascii {b : UInt8} (hb : b < 0x80) :
    lead b = ([some (Char.ofNat b.toNat)], .ready) := if_pos hb

theorem unitsFrom_concat_ascii {s : State} (hs : s.Reachable) (bytes : List UInt8) {b : UInt8}
    (hb : b < 0x80) :
    unitsFrom s (bytes ++ [b]) = unitsFrom s bytes ++ [some (Char.ofNat b.toNat)] := by
  induction bytes generalizing s with
  | nil =>
    cases s with
    | ready => simp [unitsFrom, step, lead_ascii hb]
    | inside remaining low high bits =>
      have hout : ¬(low ≤ b ∧ b ≤ high) := by
        rintro ⟨hle, -⟩
        exact absurd (UInt8.lt_of_le_of_lt (UInt8.le_trans hs hle) hb) (UInt8.lt_irrefl _)
      simp [unitsFrom, step, hout, lead_ascii hb]
  | cons first bytes ih =>
    have hcons (rest : List UInt8) :
        unitsFrom s (first :: rest) = (step s first).1 ++ unitsFrom (step s first).2 rest := by
      cases s <;> rfl
    rw [List.cons_append, hcons, hcons, ih (reachable_step first), List.append_assoc]

theorem decodeLossy_concat_ascii (bytes : List UInt8) {b : UInt8} (hb : b < 0x80) :
    decodeLossy (bytes ++ [b]) = decodeLossy bytes ++ String.singleton (Char.ofNat b.toNat) := by
  have hready : State.ready.Reachable := trivial
  simp [decodeLossy, units, unitsFrom_concat_ascii hready bytes hb, String.ofList_append]

end AmxTrace.Utf8
