import AmxTrace.Json.Decode
import Mathlib.Algebra.Group.Nat.Defs
import Mathlib.Data.List.Forall2
import Mathlib.Data.List.Nodup

/-! # Values read back from JSON -/

namespace AmxTrace.Json

theorem intBetween?_integer (low high n : Int) :
    intBetween? low high (.integer n) = if low ≤ n ∧ n ≤ high then some n else none := rfl

@[simp] theorem cell?_integer (c : Cell) : cell? (.integer c.toInt) = some c := by
  have hlow := c.le_toInt
  have hhigh := c.toInt_lt
  rw [cell?, intBetween?_integer, if_pos (by omega), Option.map_some, Int32.ofInt_toInt]

theorem size?_integer (n : Nat) : size? (.integer n) = if n < 2 ^ 64 then some n else none := by
  rw [size?, intBetween?_integer]
  by_cases h : n < 2 ^ 64
  · rw [if_pos (by omega), if_pos h]
    rfl
  · rw [if_neg (by omega), if_neg h]
    rfl

section Options

variable {α : Type} {encode : α → Json} {decode : Json → Option α}

@[simp] theorem nullable?_null (decode : Json → Option α) : nullable? decode .null = some none := rfl

theorem nullable?_of_ne_null (decode : Json → Option α) {value : Json} (h : value ≠ .null) :
    nullable? decode value = (decode value).map some := by
  cases value with
  | null => exact absurd rfl h
  | _ => rfl

theorem nullable?_ofOption_eq_some_iff (hnull : ∀ a, encode a ≠ .null) {value : Option α} :
    nullable? decode (ofOption encode value) = some value ↔
      ∀ a ∈ value, decode (encode a) = some a := by
  cases value with
  | none => simp [ofOption]
  | some a =>
    rw [ofOption, nullable?_of_ne_null decode (hnull a)]
    simp

@[simp] theorem nullable?_ofOptionString (text : Option String) :
    nullable? text? (ofOptionString text) = some text :=
  (nullable?_ofOption_eq_some_iff nofun).mpr fun _ _ => rfl

@[simp] theorem nullable?_ofOptionCell (c : Option Cell) :
    nullable? cell? (ofOption (fun c => .integer c.toInt) c) = some c :=
  (nullable?_ofOption_eq_some_iff nofun).mpr fun c _ => cell?_integer c

theorem nullable?_ofOptionSize (n : Option Nat) :
    nullable? size? (ofOption (fun n : Nat => .integer n) n) =
      if ∀ size ∈ n, size < 2 ^ 64 then some n else none := by
  cases n with
  | none => simp [ofOption]
  | some size =>
    have hnumber : Json.integer size ≠ .null := nofun
    rw [ofOption, nullable?_of_ne_null size? hnumber, size?_integer]
    simp

end Options

section Lists

variable {α β : Type}

theorem mapM_eq_some_iff {f : α → Option β} {items : List α} {results : List β} :
    items.mapM f = some results ↔ List.Forall₂ (fun a b => f a = some b) items results := by
  induction items generalizing results with
  | nil => simp [eq_comm]
  | cons first rest ih =>
    rw [List.mapM_cons]
    cases results with
    | nil => simp [Option.bind_eq_some_iff]
    | cons result others =>
      rw [List.forall₂_cons, ← ih]
      simp [Option.bind_eq_some_iff]

theorem listOf?_map_eq_some_iff {encode : α → Json} {decode : Json → Option α} {items : List α} :
    listOf? decode (.array (items.map encode)) = some items ↔
      ∀ a ∈ items, decode (encode a) = some a := by
  rw [listOf?, mapM_eq_some_iff, List.forall₂_map_left_iff, List.forall₂_same]

@[simp] theorem listOf?_ofStrings (texts : List String) :
    listOf? text? (ofStrings texts) = some texts :=
  listOf?_map_eq_some_iff.mpr fun _ _ => rfl

end Lists

section Members

variable {members : List (String × Json)} {name : String} {value : Json}

theorem valuesOf_cons (name : String) (first : String × Json) (rest : List (String × Json)) :
    valuesOf name (first :: rest) =
      if first.1 = name then first.2 :: valuesOf name rest else valuesOf name rest := by
  by_cases h : first.1 = name <;> simp [valuesOf, h]

theorem valuesOf_eq_nil (h : name ∉ members.map (·.1)) : valuesOf name members = [] := by
  have hother : ∀ m ∈ members, ¬ (m.1 == name) = true := by
    intro m hm hname
    exact h (beq_iff_eq.mp hname ▸ List.mem_map_of_mem hm)
  rw [valuesOf, List.filter_eq_nil_iff.mpr hother, List.map_nil]

theorem givenOnce?_cons (h : name ∉ members.map (·.1)) :
    givenOnce? ((name, value) :: members) name = some (some value) := by
  rw [givenOnce?, valuesOf_cons, if_pos rfl, valuesOf_eq_nil h]

theorem givenOnce?_of_mem (hnames : (members.map (·.1)).Nodup) (h : (name, value) ∈ members) :
    givenOnce? members name = some (some value) := by
  induction members with
  | nil => cases h
  | cons first rest ih =>
    obtain ⟨hfirst, hrest⟩ := List.nodup_cons.mp hnames
    rcases List.mem_cons.mp h with rfl | hmem
    · exact givenOnce?_cons hfirst
    · have hne : first.1 ≠ name := by
        rintro rfl
        exact hfirst (List.mem_map.mpr ⟨_, hmem, rfl⟩)
      rw [givenOnce?, valuesOf_cons, if_neg hne]
      exact ih hrest hmem

theorem fields?_zip {names : List String} {values : List Json} (hnames : names.Nodup)
    (hlength : names.length = values.length) :
    fields? names (.object (names.zip values)) = some ⟨true, values.map some⟩ := by
  have hfst : (names.zip values).map (·.1) = names := List.map_fst_zip (Nat.le_of_eq hlength)
  have hsnd : (names.zip values).map (·.2) = values := List.map_snd_zip (Nat.le_of_eq hlength.symm)
  have hgiven : ((names.zip values).map (·.1)).mapM (givenOnce? (names.zip values)) =
      some ((names.zip values).map fun m => some m.2) := by
    rw [mapM_eq_some_iff, List.forall₂_map_left_iff, List.forall₂_map_right_iff, List.forall₂_same]
    intro m hm
    exact givenOnce?_of_mem (by rwa [hfst]) hm
  rw [hfst] at hgiven
  rw [fields?, hgiven, ← hsnd, List.map_map, hsnd]
  rfl

theorem filter_name_ne (h : name ∉ members.map (·.1)) :
    ((name, value) :: members).filter (fun m => m.1 != name) = members := by
  rw [List.filter_cons_of_neg (by simp), List.filter_eq_self]
  intro m hm
  rw [bne_iff_ne]
  rintro rfl
  exact h (List.mem_map_of_mem hm)

end Members

namespace Fields

variable {α : Type} (values : List Json) (index : Nat) (decode : Json → Option α)

theorem at?_map_some : Fields.at? ⟨true, values.map some⟩ index = values[index]? := by
  rw [at?, List.getElem?_map]
  cases values[index]? <;> rfl

theorem required?_map_some :
    Fields.required? ⟨true, values.map some⟩ index decode = values[index]?.bind decode := by
  rw [required?, at?_map_some]

theorem optional?_map_some :
    Fields.optional? ⟨true, values.map some⟩ index decode =
      values[index]?.elim (some none) (nullable? decode) := by
  rw [optional?, at?_map_some]
  cases values[index]? <;> rfl

end Fields

end AmxTrace.Json
