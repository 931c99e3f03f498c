import AmxTrace.Files.Path
import Mathlib.Data.List.Basic

/-! # Paths as steps -/

namespace AmxTrace

theorem Text.parts_append_separator {separator : Char → Bool} {c : Char} (hc : separator c = true)
    (front back : List Char) :
    parts separator (front ++ c :: back) = parts separator front ++ parts separator back := by
  induction front with
  | nil => simp [parts, hc]
  | cons first rest ih =>
    rw [List.cons_append, parts, parts, ih]
    split
    · rfl
    · cases hparts : parts separator rest with
      | nil => exact absurd hparts (parts_ne_nil separator rest)
      | cons part others => rfl

theorem Text.parts_of_forall_not {separator : Char → Bool} {text : List Char}
    (h : ∀ c ∈ text, separator c = false) : parts separator text = [text] := by
  induction text with
  | nil => rfl
  | cons first rest ih =>
    obtain ⟨hfirst, hrest⟩ := List.forall_mem_cons.mp h
    rw [parts, hfirst, ih hrest]
    rfl

/-- The step that a component is, unless a path starts with it. -/
def PathComponent.step? : PathComponent → Option (List Char)
  | root | here => none
  | up => some ['.', '.']
  | name text => some text.toList

namespace Path

/-- The parts of a path that lead somewhere. -/
def steps (path : String) : List (List Char) :=
  (piecesOf path.toList).filter fun piece => !isIdle piece

theorem piecesOf_of_not_mem {text : List Char} (h : '/' ∉ text) : piecesOf text = [text] := by
  apply Text.parts_of_forall_not
  intro c hc
  rw [beq_eq_false_iff_ne]
  exact fun heq => h (heq ▸ hc)

theorem piecesOf_append_slash (front back : List Char) :
    piecesOf (front ++ '/' :: back) = piecesOf front ++ piecesOf back :=
  Text.parts_append_separator rfl front back

variable {directory name : String}

theorem isAbsolute_of_not_mem (hname : '/' ∉ name.toList) : isAbsolute name = false := by
  rw [isAbsolute, beq_eq_false_iff_ne]
  exact fun h => hname (List.mem_of_mem_head? h)

theorem exists_toList_join (hdirectory : directory ≠ "") (hname : '/' ∉ name.toList) :
    ∃ front, (join directory name).toList = front ++ '/' :: name.toList ∧
      (directory.toList = front ∨ directory.toList = front ++ ['/']) := by
  rw [join, if_neg (by simp [isAbsolute_of_not_mem hname, hdirectory])]
  split
  next hslash =>
    obtain ⟨front, hfront⟩ := List.getLast?_eq_some_iff.mp hslash
    refine ⟨front, ?_, .inr hfront⟩
    rw [String.toList_append, hfront, List.append_assoc, List.singleton_append]
  next =>
    refine ⟨directory.toList, ?_, .inl rfl⟩
    rw [String.toList_append, String.toList_append, List.append_assoc]
    rfl

theorem exists_piecesOf_join (hdirectory : directory ≠ "") (hname : '/' ∉ name.toList) :
    ∃ pieces, piecesOf (join directory name).toList = pieces ++ [name.toList] ∧
      pieces.filter (fun piece => !isIdle piece) = steps directory := by
  obtain ⟨front, hjoin, hfront⟩ := exists_toList_join hdirectory hname
  refine ⟨piecesOf front, ?_, ?_⟩
  · rw [hjoin, piecesOf_append_slash, piecesOf_of_not_mem hname]
  · rcases hfront with hfront | hfront
    · rw [steps, hfront]
    · rw [steps, hfront, piecesOf_append_slash, List.filter_append]
      exact (List.append_nil _).symm

theorem steps_join (hdirectory : directory ≠ "") (hname : '/' ∉ name.toList)
    (hidle : isIdle name.toList = false) :
    steps (join directory name) = steps directory ++ [name.toList] := by
  obtain ⟨pieces, hjoin, hpieces⟩ := exists_piecesOf_join hdirectory hname
  rw [steps, hjoin, List.filter_append, hpieces, List.filter_cons_of_pos (by rw [hidle]; rfl),
    List.filter_nil]

theorem isAbsolute_join (hdirectory : directory ≠ "") (hname : '/' ∉ name.toList) :
    isAbsolute (join directory name) = isAbsolute directory := by
  obtain ⟨front, hjoin, hfront⟩ := exists_toList_join hdirectory hname
  cases front with
  | nil =>
    rcases hfront with hfront | hfront
    · exact absurd (String.toList_eq_nil_iff.mp hfront) hdirectory
    · rw [isAbsolute, isAbsolute, hjoin, hfront]
      rfl
  | cons first rest =>
    rcases hfront with hfront | hfront <;> rw [isAbsolute, isAbsolute, hjoin, hfront] <;> rfl

theorem step?_componentOf (piece : List Char) : (componentOf piece).step? = some piece := by
  unfold componentOf
  split
  next h => rw [h]; rfl
  next => exact congrArg some String.toList_ofList

theorem componentOf_ne_root (piece : List Char) : componentOf piece ≠ .root := by
  unfold componentOf
  split <;> exact nofun

theorem steps_eq_split (path : String) :
    steps path = (split path).2.filter fun piece => !isIdle piece := by
  unfold steps split
  split
  next rest h =>
    have hpieces : piecesOf ('/' :: rest) = [] :: piecesOf rest := piecesOf_append_slash [] rest
    rw [h, hpieces]
    rfl
  next h =>
    rw [h]
    rfl
  next rest h =>
    have hpieces : piecesOf ('.' :: '/' :: rest) = ['.'] :: piecesOf rest :=
      piecesOf_append_slash ['.'] rest
    rw [h, hpieces]
    rfl
  next => rfl

theorem isAbsolute_eq_split (path : String) :
    isAbsolute path = ((split path).1 == some .root) := by
  unfold isAbsolute split
  split
  next rest h => rw [h]; rfl
  next h => rw [h]; rfl
  next rest h => rw [h]; rfl
  next hroot _ _ =>
    cases htext : path.toList with
    | nil => rfl
    | cons first rest =>
      have hfirst : first ≠ '/' := fun h => hroot rest (by rw [htext, h])
      simpa using hfirst

theorem split_fst (path : String) :
    (split path).1 = none ∨ (split path).1 = some .root ∨ (split path).1 = some .here := by
  unfold split
  split <;> simp

theorem components_eq (path : String) :
    components path = (split path).1.toList ++ (steps path).map componentOf := by
  rw [components, steps_eq_split]

theorem steps_eq_components (path : String) : steps path = (components path).filterMap (·.step?) := by
  have hlead : (split path).1.toList.filterMap (·.step?) = [] := by
    rcases split_fst path with h | h | h <;> rw [h] <;> rfl
  have hsteps : (steps path).filterMap (fun piece => (componentOf piece).step?) = steps path := by
    simp only [step?_componentOf, List.filterMap_some]
  rw [components_eq, List.filterMap_append, hlead, List.nil_append, List.filterMap_map]
  exact hsteps.symm

theorem isAbsolute_eq_components (path : String) :
    isAbsolute path = ((components path).head? == some .root) := by
  rw [isAbsolute_eq_split, components_eq]
  cases (split path).1 with
  | some lead => rfl
  | none =>
    cases steps path with
    | nil => rfl
    | cons piece rest =>
      simpa using componentOf_ne_root piece

theorem steps_of_components_append {inner outer : String} {names : List String}
    (h : components inner = components outer ++ names.map .name) :
    isAbsolute inner = isAbsolute outer ∧ steps inner = steps outer ++ names.map String.toList := by
  constructor
  · rw [isAbsolute_eq_components, isAbsolute_eq_components, h]
    cases components outer with
    | nil => cases names <;> rfl
    | cons first rest => rfl
  · rw [steps_eq_components, steps_eq_components, h, List.filterMap_append, List.filterMap_map]
    exact congrArg _ (congrFun List.filterMap_eq_map names)

theorem name_of_mem_components {path text : String} (h : .name text ∈ components path) :
    isIdle text.toList = false ∧ text ≠ ".." := by
  rw [components_eq, List.mem_append] at h
  rcases h with h | h
  · rcases split_fst path with hlead | hlead | hlead <;> rw [hlead] at h <;> simp at h
  · obtain ⟨piece, hpiece, hname⟩ := List.mem_map.mp h
    have hstep : isIdle piece = false := by simpa using (List.mem_filter.mp hpiece).2
    unfold componentOf at hname
    split at hname
    next => cases hname
    next hup =>
      obtain rfl := PathComponent.name.inj hname
      exact ⟨by rw [String.toList_ofList]; exact hstep,
        fun htext => hup (String.ofList_injective htext)⟩

theorem same_iff {p q : String} : same p q = true ↔ components p = components q :=
  beq_iff_eq

theorem same_refl (p : String) : same p p = true :=
  same_iff.mpr rfl

theorem same_comm (p q : String) : same p q = same q p :=
  Bool.eq_iff_iff.mpr (by rw [same_iff, same_iff, eq_comm])

theorem same_congr_left {p q r : String} (h : same p q = true) : same p r = same q r := by
  rw [same, same, same_iff.mp h]

theorem steps_eq_of_same {p q : String} (h : same p q = true) : steps p = steps q := by
  rw [steps_eq_components, steps_eq_components, same_iff.mp h]

theorem isAbsolute_eq_of_same {p q : String} (h : same p q = true) :
    isAbsolute p = isAbsolute q := by
  rw [isAbsolute_eq_components, isAbsolute_eq_components, same_iff.mp h]

end Path

namespace PathComponent

theorem eq_or_names_of_rank_eq {a b : PathComponent} (h : a.rank = b.rank) :
    a = b ∨ ∃ s t, a = name s ∧ b = name t := by
  cases a <;> cases b <;> first | exact .inl rfl | exact .inr ⟨_, _, rfl, rfl⟩ | exact nomatch h

theorem before_iff {a b : PathComponent} :
    a.before b = true ↔ a.rank < b.rank ∨ ∃ s t, a = name s ∧ b = name t ∧ s < t := by
  unfold before
  split
  next s t =>
    rw [decide_eq_true_eq]
    constructor
    · exact fun h => .inr ⟨s, t, rfl, rfl, h⟩
    · rintro (h | ⟨_, _, ⟨⟩, ⟨⟩, h⟩)
      · exact absurd h (Nat.lt_irrefl 3)
      · exact h
  next hkind =>
    rw [decide_eq_true_eq]
    exact ⟨.inl, fun h => h.resolve_right fun ⟨s, t, hs, ht, _⟩ => hkind s t hs ht⟩

theorem before_irrefl (a : PathComponent) : a.before a = false := by
  rw [Bool.eq_false_iff, ne_eq, before_iff]
  rintro (h | ⟨s, t, rfl, ⟨⟩, h⟩)
  · exact absurd h (Nat.lt_irrefl _)
  · exact absurd h (String.lt_irrefl _)

theorem before_trans {a b c : PathComponent} (hab : a.before b = true) (hbc : b.before c = true) :
    a.before c = true := by
  rw [before_iff] at hab hbc ⊢
  rcases hab with hab | ⟨s, t, rfl, rfl, hab⟩
  · rcases hbc with hbc | ⟨s, t, rfl, rfl, -⟩
    · exact .inl (Nat.lt_trans hab hbc)
    · exact .inl hab
  · rcases hbc with hbc | ⟨t, u, ⟨⟩, rfl, hbc⟩
    · exact .inl hbc
    · exact .inr ⟨s, u, rfl, rfl, String.lt_trans hab hbc⟩

theorem eq_of_not_before {a b : PathComponent} (hab : a.before b = false)
    (hba : b.before a = false) : a = b := by
  rw [Bool.eq_false_iff, ne_eq, before_iff, not_or] at hab hba
  have hrank : a.rank = b.rank := Nat.le_antisymm (Nat.not_lt.mp hba.1) (Nat.not_lt.mp hab.1)
  rcases eq_or_names_of_rank_eq hrank with h | ⟨s, t, rfl, rfl⟩
  · exact h
  · have hst : ¬ s < t := fun h => hab.2 ⟨s, t, rfl, rfl, h⟩
    have hts : ¬ t < s := fun h => hba.2 ⟨t, s, rfl, rfl, h⟩
    rw [String.le_antisymm (String.not_lt.mp hts) (String.not_lt.mp hst)]

end PathComponent

namespace Path

theorem componentsBefore_irrefl (p : List PathComponent) : componentsBefore p p = false := by
  induction p with
  | nil => rfl
  | cons a p ih => simp [componentsBefore, PathComponent.before_irrefl, ih]

theorem componentsBefore_trans {p q r : List PathComponent} (hpq : componentsBefore p q = true)
    (hqr : componentsBefore q r = true) : componentsBefore p r = true := by
  induction p generalizing q r with
  | nil =>
    cases q with
    | nil => exact hqr
    | cons b q =>
      cases r with
      | nil => exact absurd hqr nofun
      | cons c r => rfl
  | cons a p ih =>
    cases q with
    | nil => exact absurd hpq nofun
    | cons b q =>
      cases r with
      | nil => exact absurd hqr nofun
      | cons c r =>
        simp only [componentsBefore, Bool.or_eq_true, Bool.and_eq_true, beq_iff_eq] at hpq hqr ⊢
        rcases hpq with hab | ⟨rfl, hpq⟩
        · rcases hqr with hbc | ⟨rfl, -⟩
          · exact .inl (PathComponent.before_trans hab hbc)
          · exact .inl hab
        · rcases hqr with hac | ⟨rfl, hqr⟩
          · exact .inl hac
          · exact .inr ⟨rfl, ih hpq hqr⟩

theorem eq_of_not_componentsBefore {p q : List PathComponent} (hpq : componentsBefore p q = false)
    (hqp : componentsBefore q p = false) : p = q := by
  induction p generalizing q with
  | nil =>
    cases q with
    | nil => rfl
    | cons b q => exact absurd hpq nofun
  | cons a p ih =>
    cases q with
    | nil => exact absurd hqp nofun
    | cons b q =>
      simp only [componentsBefore, Bool.or_eq_false_iff, Bool.and_eq_false_iff] at hpq hqp
      have hab : a = b := PathComponent.eq_of_not_before hpq.1 hqp.1
      subst hab
      simp only [beq_self_eq_true, Bool.true_eq_false, false_or] at hpq hqp
      rw [ih hpq.2 hqp.2]

theorem before_trans {p q r : String} (hpq : before p q = true) (hqr : before q r = true) :
    before p r = true :=
  componentsBefore_trans hpq hqr

theorem not_same_of_before {p q : String} (h : before p q = true) : same p q = false := by
  rw [Bool.eq_false_iff, ne_eq, same_iff]
  intro hsame
  rw [before, hsame, componentsBefore_irrefl] at h
  exact absurd h nofun

theorem before_irrefl (p : String) : before p p = false :=
  componentsBefore_irrefl _

theorem before_asymm {p q : String} (h : before p q = true) : before q p = false := by
  rw [Bool.eq_false_iff]
  intro hqp
  have hpp := before_trans h hqp
  rw [before_irrefl] at hpp
  exact absurd hpp nofun

theorem before_congr_left {p q r : String} (h : same p q = true) : before p r = before q r := by
  rw [before, before, same_iff.mp h]

theorem before_congr_right {p q r : String} (h : same q r = true) : before p q = before p r := by
  rw [before, before, same_iff.mp h]

theorem same_of_not_before {p q : String} (hpq : before p q = false) (hqp : before q p = false) :
    same p q = true :=
  same_iff.mpr (eq_of_not_componentsBefore hpq hqp)

theorem before_of_not_same_of_not_before {p q : String} (hne : same p q = false)
    (hqp : before q p = false) : before p q = true := by
  by_contra hpq
  rw [same_of_not_before (Bool.not_eq_true _ ▸ hpq) hqp] at hne
  exact absurd hne nofun

end Path

end AmxTrace
