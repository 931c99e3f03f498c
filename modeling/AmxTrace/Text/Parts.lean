/-! # Parts of a text -/

namespace AmxTrace.Text

/-- Whether a character is white space in Unicode. -/
def isBlank (c : Char) : Bool :=
  let code := c.toNat
  (9 ≤ code && code ≤ 13) || (0x2000 ≤ code && code ≤ 0x200A) ||
    [0x20, 0x85, 0xA0, 0x1680, 0x2028, 0x2029, 0x202F, 0x205F, 0x3000].contains code

def parts (separator : Char → Bool) : List Char → List (List Char)
  | [] => [[]]
  | c :: rest =>
    if separator c then [] :: parts separator rest
    else match parts separator rest with
      | part :: others => (c :: part) :: others
      | [] => [[c]]

def joined (separator : Char) (parts : List (List Char)) : List Char :=
  [separator].intercalate parts

theorem parts_ne_nil (separator : Char → Bool) (text : List Char) : parts separator text ≠ [] := by
  cases text with
  | nil => simp [parts]
  | cons c rest =>
    unfold parts
    split
    · simp
    · split <;> simp

theorem not_separator_of_mem_parts {separator : Char → Bool} {text part : List Char}
    (h : part ∈ parts separator text) : ∀ c ∈ part, separator c = false := by
  induction text generalizing part with
  | nil =>
    obtain rfl : part = [] := by simpa [parts] using h
    simp
  | cons c rest ih =>
    rw [parts] at h
    cases hc : separator c with
    | true =>
      rw [if_pos hc, List.mem_cons] at h
      rcases h with rfl | h
      · simp
      · exact ih h
    | false =>
      rw [if_neg (by simp [hc])] at h
      cases hparts : parts separator rest with
      | nil => exact absurd hparts (parts_ne_nil separator rest)
      | cons first others =>
        rw [hparts] at h ih
        rcases List.mem_cons.mp h with rfl | h
        · exact List.forall_mem_cons.mpr ⟨hc, ih List.mem_cons_self⟩
        · exact ih (List.mem_cons_of_mem _ h)

theorem joined_parts (separator : Char) (text : List Char) :
    joined separator (parts (· == separator) text) = text := by
  induction text with
  | nil => rfl
  | cons c rest ih =>
    unfold parts
    cases h : parts (· == separator) rest with
    | nil => exact absurd h (parts_ne_nil _ _)
    | cons part others =>
      rw [h] at ih
      by_cases hc : (c == separator) = true
      · have : c = separator := by simpa using hc
        subst this
        simp [joined, List.intercalate_cons_cons, ← ih]
      · cases others with
        | nil => simp_all [joined]
        | cons other others => simp_all [joined, List.intercalate_cons_cons]

end AmxTrace.Text
