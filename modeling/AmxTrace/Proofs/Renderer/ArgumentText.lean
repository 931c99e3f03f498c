import AmxTrace.Backtrace.Renderer

/-! # The text of an argument -/

namespace AmxTrace

private theorem not_mem_toDigits (n : Nat) : '?' ∉ Nat.toDigits 10 n := by
  intro h
  have hdigit := Nat.isDigit_of_mem_toDigits (by decide) (by decide) h
  exact absurd hdigit (by decide)

private theorem not_mem_decimal (c : Cell) : '?' ∉ c.decimal.toList := by
  rw [Cell.decimal, Int.toString_eq_repr, Int.repr_eq_if]
  split
  · rw [Nat.toList_repr]
    exact not_mem_toDigits _
  · simp [not_mem_toDigits]

private theorem not_mem_positional (s : Decimal.Scaled) : '?' ∉ (Decimal.positional s).toList := by
  have hdigits := not_mem_toDigits s.digits
  unfold Decimal.positional
  split
  · simp [hdigits]
  · dsimp only
    generalize hpadded : List.replicate _ '0' ++ (toString s.digits).toList = padded
    have hmem : '?' ∉ padded := by simp [← hpadded, hdigits]
    intro h
    rw [String.toList_ofList, List.mem_append, List.mem_cons] at h
    rcases h with h | h | h
    · exact hmem (List.mem_of_mem_take h)
    · exact absurd h (by decide)
    · exact hmem (List.mem_of_mem_drop h)

private theorem not_mem_binary32 (bits : Nat) : '?' ∉ (Decimal.Binary32.text bits).toList := by
  have hmagnitude (biased fraction : Nat) :
      '?' ∉ (Decimal.Binary32.magnitudeText biased fraction).toList := by
    unfold Decimal.Binary32.magnitudeText
    split
    · split <;> decide
    · split
      · decide
      · cases Decimal.firstHit (Decimal.Binary32.rounding biased fraction) 39 100 with
        | some s => exact not_mem_positional s
        | none => decide
  unfold Decimal.Binary32.text
  dsimp only
  split
  · simpa using hmagnitude _ _
  · exact hmagnitude _ _

namespace Renderer

private theorem not_mem_scalarText (tag : Option String) (value : Cell) :
    '?' ∉ (scalarText tag value).toList := by
  unfold scalarText
  split
  · split <;> decide
  · split
    · exact not_mem_binary32 _
    · exact not_mem_decimal value

/-- What stands before the value of an argument: a mark for a reference, the tag and the name. -/
def argumentName (r : Renderer) (argument : DebugSymbol) : String :=
  (if argument.isReference then "&" else "") ++ (r.tagName? argument.tag).elim "" (· ++ ":") ++
    argument.name

def quotedText (r : Renderer) (cells : List Cell) : String :=
  let limit := r.limits.maxStringLength
  let decoded := CellString.decode cells (limit + 1)
  (if decoded.packed then "!\"" else "\"") ++ CellString.clip decoded.text limit ++ "\""

/-- What is shown after the name of an array, with the string that it holds. -/
def arrayText (r : Renderer) (argument : DebugSymbol) (value : Cell) (text : Option String) :
    String :=
  String.join (argument.dimensions.map r.dimensionText) ++ pointerText value ++ optionalText " " text

variable (r : Renderer) (m : Machine) (argument : DebugSymbol)

theorem argumentText_none : r.argumentText m argument none = r.argumentName argument ++ "=?" := rfl

theorem argumentText_some (value : Cell) :
    r.argumentText m argument (some value) =
      r.argumentName argument ++ r.valueText m argument (r.tagName? argument.tag) value := rfl

theorem stringText?_of_isDataAddress {address : Cell} (h : m.isDataAddress address = true)
    (size : UInt32) :
    r.stringText? m address size =
      some (r.quotedText (m.dataCells address (r.stringCells m address size))) := if_pos h

theorem valueText_of_isArray (h : argument.isArray = true) (tag : Option String) (value : Cell) :
    r.valueText m argument tag value =
      r.arrayText argument value (r.arrayString? m argument tag value) := by
  have hkind : argument.kind = .array ∨ argument.kind = .arrayRef := by
    simpa [DebugSymbol.isArray] using h
  have hvariable : argument.isVariable = false := by
    rcases hkind with hkind | hkind <;> simp [DebugSymbol.isVariable, hkind]
  have hreference : argument.isReference = false := by
    rcases hkind with hkind | hkind <;> simp [DebugSymbol.isReference, hkind]
  simp [valueText, arrayText, hvariable, hreference, h]

theorem valueText_ne_unknown (tag : Option String) (value : Cell) :
    r.valueText m argument tag value ≠ "=?" := by
  intro h
  have hchars := congrArg String.toList h
  unfold valueText at hchars
  split at hchars
  · have hscalar : (scalarText tag value).toList = ['?'] := by simpa using hchars
    exact not_mem_scalarText tag value (hscalar ▸ List.mem_singleton_self '?')
  · split at hchars
    · simp [pointerText] at hchars
    · split at hchars
      · cases hdimensions : argument.dimensions with
        | nil => simp [hdimensions, pointerText] at hchars
        | cons first rest =>
          rw [hdimensions] at hchars
          have hopens : ∃ others, (r.dimensionText first).toList = '[' :: others := by
            unfold dimensionText
            split <;> simp
          obtain ⟨others, hothers⟩ := hopens
          simp [hothers] at hchars
      · have hdecimal : value.decimal.toList = ['?'] := by simpa using hchars
        exact not_mem_decimal value (hdecimal ▸ List.mem_singleton_self '?')

theorem argumentText_eq_unknown_iff (value : Option Cell) :
    r.argumentText m argument value = r.argumentName argument ++ "=?" ↔ value = none := by
  cases value with
  | none => simp [argumentText_none]
  | some value =>
    rw [argumentText_some, String.append_right_inj]
    simp [valueText_ne_unknown]

end Renderer

end AmxTrace
