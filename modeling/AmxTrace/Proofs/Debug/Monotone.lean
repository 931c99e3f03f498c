import AmxTrace.Proofs.Debug.Lookup
import Mathlib.Data.List.Pairwise

/-! # Address queries in order -/

namespace AmxTrace

def DebugSymbol.Holds (s : DebugSymbol) (address : Cell) : Prop :=
  s.codeStart ≤ address ∧ address < s.codeEnd

/-- No address lies in the code of both symbols. -/
def DebugSymbol.Apart (s t : DebugSymbol) : Prop :=
  ∀ address, ¬ (s.Holds address ∧ t.Holds address)

instance DebugSymbol.symm_apart : Std.Symm DebugSymbol.Apart where
  symm _ _ h address hboth := h address hboth.symm

namespace DebugStore

/-- What an address query answers from a table whose entries start at addresses. -/
structure AnswersInOrder {α : Type} (start : α → Cell) (entries : List α)
    (query : Cell → Option α) : Prop where
  covers : ∀ a e, query a = some e → e ∈ entries ∧ start e ≤ a
  mono : ∀ a b e, a ≤ b → query a = some e → ∃ g, query b = some g ∧ start e ≤ start g
  nearest : entries.Pairwise (fun e g => start e ≤ start g) →
    ∀ a e, query a = some e → ∀ g ∈ entries, ¬ (start e < start g ∧ start g ≤ a)

section Covering

variable {α : Type} {start : α → Cell} {entries : List α} {a b : Cell} {e : α}

theorem covering?_cons (start : α → Cell) (first : α) (rest : List α) (a : Cell) :
    covering? start (first :: rest) a =
      (covering? start rest a).or (if start first ≤ a then some first else none) := by
  by_cases h : start first ≤ a <;> simp [covering?, List.find?_append, h]

theorem covering?_eq_none_iff :
    covering? start entries a = none ↔ ∀ e ∈ entries, a < start e := by
  simp [covering?]

theorem covering?_mono (hab : a ≤ b) (he : covering? start entries a = some e) :
    ∃ g, covering? start entries b = some g ∧ start e ≤ start g := by
  induction entries with
  | nil => simp [covering?] at he
  | cons first rest ih =>
    rw [covering?_cons] at he
    rw [covering?_cons]
    cases hrest : covering? start rest a with
    | some later =>
      rw [hrest, Option.some_or] at he
      obtain ⟨g, hg, hle⟩ := ih (hrest.trans he)
      exact ⟨g, by rw [hg, Option.some_or], hle⟩
    | none =>
      rw [hrest, Option.none_or] at he
      obtain ⟨hle, rfl⟩ : start first ≤ a ∧ first = e := by simpa using he
      cases hlater : covering? start rest b with
      | none => exact ⟨first, by simp [Int32.le_trans hle hab], Int32.le_refl _⟩
      | some g =>
        -- all entries behind the first start past the lower address
        obtain ⟨earlier, others, hsplit, -, -⟩ := covering?_eq_some_iff.mp hlater
        have hpast : a < start g := covering?_eq_none_iff.mp hrest g (by simp [hsplit])
        exact ⟨g, Option.some_or, Int32.le_of_lt (Int32.lt_of_le_of_lt hle hpast)⟩

theorem answersInOrder_covering? (start : α → Cell) (entries : List α) :
    AnswersInOrder start entries (covering? start entries) where
  covers a e he := by
    obtain ⟨earlier, later, hsplit, hle, -⟩ := covering?_eq_some_iff.mp he
    exact ⟨by simp [hsplit], hle⟩
  mono a b e hab he := covering?_mono hab he
  nearest hsorted a e he g hg := by
    obtain ⟨earlier, later, rfl, -, hlater⟩ := covering?_eq_some_iff.mp he
    rintro ⟨hlt, hle⟩
    rcases List.mem_append.mp hg with hg | hg
    · have hbefore := (List.pairwise_append.mp hsorted).2.2 g hg e List.mem_cons_self
      exact Int32.not_le.mpr hlt hbefore
    · rcases List.mem_cons.mp hg with rfl | hg
      · exact Int32.lt_irrefl hlt
      · exact Int32.not_le.mpr (hlater g hg) hle

end Covering

variable {d : DebugStore} {a b : Cell} {f g : DebugSymbol}

theorem function?_eq_some (hf : d.function? a = some f) : f ∈ d.functions ∧ f.Holds a := by
  have hholds := List.find?_some hf
  simp only [Bool.and_eq_true, decide_eq_true_eq] at hholds
  exact ⟨List.mem_of_find?_eq_some hf, hholds⟩

theorem function?_mono (hapart : d.functions.Pairwise DebugSymbol.Apart) (hab : a ≤ b)
    (hf : d.function? a = some f) (hg : d.function? b = some g) : f.codeStart ≤ g.codeStart := by
  obtain ⟨hfmem, hfa⟩ := function?_eq_some hf
  obtain ⟨hgmem, hgb⟩ := function?_eq_some hg
  by_contra hlt
  rw [Int32.not_le] at hlt
  have hne : f ≠ g := by
    rintro rfl
    exact Int32.lt_irrefl hlt
  have hdisjoint := hapart.forall hfmem hgmem hne
  -- the start of `f` would lie in the code of both
  have hstart : f.codeStart ≤ b := Int32.le_trans hfa.1 hab
  exact hdisjoint f.codeStart ⟨⟨Int32.le_refl _, Int32.lt_of_le_of_lt hfa.1 hfa.2⟩,
    ⟨Int32.le_of_lt hlt, Int32.lt_of_le_of_lt hstart hgb.2⟩⟩

/-- Address queries come in order of address: for lines and files in every table, sorted or not, and
for functions where no two of them share code. -/
theorem address_queries_in_order (d : DebugStore) :
    AnswersInOrder LineEntry.address d.lines d.line? ∧
    AnswersInOrder SourceFile.address d.files d.file? ∧
    (d.functions.Pairwise DebugSymbol.Apart → ∀ a b f g, a ≤ b →
      d.function? a = some f → d.function? b = some g →
        f.Holds a ∧ f.codeStart ≤ g.codeStart) := by
  refine ⟨answersInOrder_covering? _ _, answersInOrder_covering? _ _, ?_⟩
  intro hapart a b f g hab hf hg
  exact ⟨(function?_eq_some hf).2, function?_mono hapart hab hf hg⟩

def functionSymbol (name : String) (codeStart codeEnd : Cell) : DebugSymbol where
  name
  address := codeStart
  tag := 0
  codeStart
  codeEnd
  kind := .function
  storage := .global
  dimensions := []

/-- Lines out of order, and two functions side by side. -/
def outOfOrder : DebugStore where
  lines := [⟨32, 4⟩, ⟨0, 1⟩, ⟨16, 2⟩]
  symbols := [functionSymbol "Upper" 16 48, functionSymbol "Lower" 0 16]

theorem address_queries_in_order_outOfOrder :
    (∃ later, outOfOrder.line? 40 = some later ∧ 0 ≤ later.address) ∧
    outOfOrder.functions.Pairwise DebugSymbol.Apart ∧
    (functionSymbol "Lower" 0 16).Holds 8 ∧
    (functionSymbol "Lower" 0 16).codeStart ≤ (functionSymbol "Upper" 16 48).codeStart := by
  obtain ⟨hlines, -, hfunctions⟩ := address_queries_in_order outOfOrder
  have hapart : outOfOrder.functions.Pairwise DebugSymbol.Apart := by
    refine List.pairwise_pair.mpr ?_
    rintro address ⟨⟨hupper, -⟩, ⟨-, hlower⟩⟩
    exact Int32.not_le.mpr hlower hupper
  exact ⟨hlines.mono 8 40 ⟨0, 1⟩ (by decide) (by decide), hapart,
    hfunctions hapart 8 40 _ _ (by decide) (by decide) (by decide)⟩

end DebugStore

end AmxTrace
