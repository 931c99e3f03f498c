import AmxTrace.Proofs.Files.Path
import Mathlib.Data.List.Chain
import Mathlib.Data.List.Infix

/-! # Parents of a path -/

namespace AmxTrace.Path

theorem joined_cons_cons (first second : List Char) (rest : List (List Char)) :
    Text.joined '/' (first :: second :: rest) =
      first ++ '/' :: Text.joined '/' (second :: rest) := by
  simp [Text.joined, List.intercalate_cons_cons]

theorem piecesOf_joined {pieces : List (List Char)} (hpieces : pieces ≠ [])
    (hslash : ∀ piece ∈ pieces, '/' ∉ piece) : piecesOf (Text.joined '/' pieces) = pieces := by
  induction pieces with
  | nil => exact absurd rfl hpieces
  | cons first rest ih =>
    obtain ⟨hfirst, hrest⟩ := List.forall_mem_cons.mp hslash
    cases rest with
    | nil => simpa [Text.joined] using piecesOf_of_not_mem hfirst
    | cons second rest =>
      rw [joined_cons_cons, piecesOf_append_slash, piecesOf_of_not_mem hfirst,
        ih (List.cons_ne_nil _ _) hrest]
      rfl

theorem not_mem_of_mem_piecesOf {path piece : List Char} (h : piece ∈ piecesOf path) :
    '/' ∉ piece := by
  intro hslash
  have hseparator := Text.not_separator_of_mem_parts h '/' hslash
  simp at hseparator

/-- The parts that can come after what a path starts with. A part that a path starts with leads
somewhere, for else it would be a start of its own. -/
def Follows : Option PathComponent → List (List Char) → Prop
  | some .root, _ => True
  | some .here, pieces => ∀ first ∈ pieces.head?, first = []
  | some _, _ => False
  | none, pieces => ∀ first ∈ pieces.head?, isIdle first = false

theorem not_mem_of_mem_split {path : String} {piece : List Char} (h : piece ∈ (split path).2) :
    '/' ∉ piece := by
  unfold split at h
  split at h
  · exact not_mem_of_mem_piecesOf h
  · exact absurd h List.not_mem_nil
  · rcases List.mem_cons.mp h with rfl | h
    · exact List.not_mem_nil
    · exact not_mem_of_mem_piecesOf h
  · exact not_mem_of_mem_piecesOf h

theorem follows_split {path : String} (hpath : path ≠ "") :
    Follows (split path).1 (split path).2 := by
  unfold split
  split
  next => exact True.intro
  next => exact nofun
  next => exact fun first hfirst => (Option.mem_some_iff.mp hfirst).symm
  next hroot hhere hhere' =>
    intro first hfirst
    obtain ⟨rest, hpieces⟩ := List.head?_eq_some_iff.mp hfirst
    have hjoined : Text.joined '/' (first :: rest) = path.toList := by
      rw [← hpieces]
      exact Text.joined_parts '/' path.toList
    rw [Bool.eq_false_iff]
    intro hidle
    -- an idle part in front is what a path from the root or from a dot starts with
    rcases (by simpa [isIdle] using hidle : first = [] ∨ first = ['.']) with rfl | rfl
    · cases rest with
      | nil => exact hpath (String.toList_eq_nil_iff.mp hjoined.symm)
      | cons second rest => exact hroot _ hjoined.symm
    · cases rest with
      | nil => exact hhere hjoined.symm
      | cons second rest => exact hhere' _ hjoined.symm

/-- Cutting a path that was made of parts gives the parts back, if one of them leads somewhere. -/
theorem split_ofList {lead : Option PathComponent} {front : List (List Char)}
    (hstep : ∃ piece ∈ front, isIdle piece = false) (hslash : ∀ piece ∈ front, '/' ∉ piece)
    (hfollows : Follows lead front) :
    split (String.ofList (leadText lead ++ Text.joined '/' front)) = (lead, front) := by
  obtain ⟨piece, hmem, hpiece⟩ := hstep
  obtain ⟨first, rest, rfl⟩ := List.exists_cons_of_ne_nil (List.ne_nil_of_mem hmem)
  have hpieces := piecesOf_joined (List.cons_ne_nil first rest) hslash
  cases lead with
  | none =>
    have hfirst : isIdle first = false := hfollows first rfl
    -- each other start would make the first part an idle one
    have hother : ∀ {text idle others}, Text.joined '/' (first :: rest) = text →
        piecesOf text = idle :: others → isIdle idle = true → False := by
      intro text idle others htext hothers hidle
      rw [← htext, hpieces] at hothers
      rw [(List.cons.inj hothers).1, hidle] at hfirst
      exact Bool.noConfusion hfirst
    unfold split
    rw [leadText, List.nil_append, String.toList_ofList]
    · split
      next other h => exact (hother h (piecesOf_append_slash [] other) rfl).elim
      next h => exact (hother h (piecesOf_of_not_mem (by decide)) rfl).elim
      next other h => exact (hother h (piecesOf_append_slash ['.'] other) rfl).elim
      next => rw [hpieces]
    · exact nofun
    · exact nofun
  | some component =>
    cases component with
    | root => simp [split, leadText, hpieces]
    | here =>
      obtain rfl : first = [] := hfollows first rfl
      cases rest with
      | nil =>
        obtain rfl := List.mem_singleton.mp hmem
        exact absurd hpiece (by decide)
      | cons second rest =>
        have hrest : piecesOf (Text.joined '/' (second :: rest)) = second :: rest :=
          piecesOf_joined (List.cons_ne_nil _ _) (List.forall_mem_cons.mp hslash).2
        rw [joined_cons_cons, List.nil_append]
        simp [split, leadText, hrest]
    | up => exact hfollows.elim
    | name text => exact hfollows.elim

theorem ancestorsOf_dropWhile (lead : Option PathComponent) (reversed : List (List Char)) :
    ancestorsOf lead (reversed.dropWhile isIdle) = ancestorsOf lead reversed := by
  induction reversed with
  | nil => rfl
  | cons piece rest ih =>
    cases hidle : isIdle piece with
    | true =>
      rw [List.dropWhile_cons_of_pos hidle, ancestorsOf, if_pos hidle]
      exact ih
    | false => rw [List.dropWhile_cons_of_neg (by simp [hidle])]

theorem filter_dropWhile (reversed : List (List Char)) :
    (reversed.dropWhile isIdle).filter (fun piece => !isIdle piece) =
      reversed.filter fun piece => !isIdle piece := by
  induction reversed with
  | nil => rfl
  | cons piece rest ih =>
    cases hidle : isIdle piece with
    | true =>
      rw [List.dropWhile_cons_of_pos hidle, List.filter_cons_of_neg (by simp [hidle])]
      exact ih
    | false => rw [List.dropWhile_cons_of_neg (by simp [hidle])]

theorem Follows.front {lead : Option PathComponent} {front pieces : List (List Char)}
    (h : Follows lead pieces) (hfront : front <+: pieces) : Follows lead front := by
  have hhead : ∀ first ∈ front.head?, first ∈ pieces.head? := by
    obtain ⟨rest, rfl⟩ := hfront
    cases front with
    | nil => exact nofun
    | cons first front => exact fun _ h => h
  cases lead with
  | none => exact fun first hfirst => h first (hhead first hfirst)
  | some component =>
    cases component with
    | root => exact True.intro
    | here => exact fun first hfirst => h first (hhead first hfirst)
    | up => exact h
    | name text => exact h

section Around

variable {path : String} (hpath : path ≠ "") {suffix : List (List Char)}
  (hsuffix : suffix <:+ (split path).2.reverse)
include hpath hsuffix

/-- A path around another is cut as that one is, but for idle parts at its end. -/
theorem split_textOf :
    ∃ pieces, split (textOf (split path).1 suffix) = ((split path).1, pieces) ∧
      pieces.reverse.dropWhile isIdle = suffix.dropWhile isIdle := by
  have hfollows := follows_split hpath
  cases hrest : suffix.dropWhile isIdle with
  | nil =>
    rw [textOf, hrest]
    cases hlead : (split path).1 with
    | none => exact ⟨[[]], rfl, rfl⟩
    | some component =>
      rw [hlead] at hfollows
      cases component with
      | root => exact ⟨[[]], rfl, rfl⟩
      | here => exact ⟨[], rfl, rfl⟩
      | up => exact hfollows.elim
      | name text => exact hfollows.elim
  | cons last rest =>
    have hlast : isIdle last = false := by
      have hhead := List.head?_dropWhile_not isIdle suffix
      rw [hrest] at hhead
      exact hhead
    have hfront : (suffix.dropWhile isIdle).reverse <+: (split path).2 := by
      rw [← List.reverse_suffix, List.reverse_reverse]
      exact (List.dropWhile_suffix isIdle).trans hsuffix
    rw [hrest] at hfront
    refine ⟨(last :: rest).reverse, ?_, ?_⟩
    · rw [textOf, hrest]
      exact split_ofList ⟨last, by simp, hlast⟩
        (fun piece hmem => not_mem_of_mem_split (hfront.subset hmem)) (hfollows.front hfront)
    · rw [List.reverse_reverse, List.dropWhile_cons_of_neg (by simp [hlast])]

theorem ancestors_textOf :
    ancestors (textOf (split path).1 suffix) = ancestorsOf (split path).1 suffix := by
  obtain ⟨pieces, hsplit, hpieces⟩ := split_textOf hpath hsuffix
  rw [ancestors, hsplit, ← ancestorsOf_dropWhile _ suffix, ← hpieces, ancestorsOf_dropWhile]

theorem steps_textOf :
    steps (textOf (split path).1 suffix) = suffix.reverse.filter fun piece => !isIdle piece := by
  obtain ⟨pieces, hsplit, hpieces⟩ := split_textOf hpath hsuffix
  rw [steps_eq_split, hsplit, List.filter_reverse, ← filter_dropWhile suffix, ← hpieces,
    filter_dropWhile, ← List.filter_reverse, List.reverse_reverse]

theorem components_textOf : components (textOf (split path).1 suffix) =
    (split path).1.toList ++ (suffix.reverse.filter fun piece => !isIdle piece).map componentOf := by
  obtain ⟨pieces, hsplit, -⟩ := split_textOf hpath hsuffix
  rw [components_eq, steps_textOf hpath hsuffix, hsplit]

end Around

/-- The first path around another is the empty one after a dot, or has the parts before the last
one that counts. -/
theorem ancestorsOf_eq_cons {lead : Option PathComponent} {reversed : List (List Char)}
    {first : String} {others : List String} (h : ancestorsOf lead reversed = first :: others) :
    (lead = some .here ∧ first = "" ∧ others = [] ∧ reversed.filter (fun piece => !isIdle piece) = []) ∨
      ∃ piece suffix, suffix <:+ reversed ∧ first = textOf lead suffix ∧
        others = ancestorsOf lead suffix ∧ reversed.filter (fun piece => !isIdle piece) =
          piece :: suffix.filter fun piece => !isIdle piece := by
  induction reversed with
  | nil =>
    rw [ancestorsOf] at h
    split at h
    next hlead =>
      obtain ⟨hfirst, hothers⟩ := List.cons.inj h
      exact .inl ⟨hlead, hfirst.symm, hothers.symm, rfl⟩
    next => cases h
  | cons piece rest ih =>
    rw [ancestorsOf] at h
    split at h
    next hidle =>
      rw [List.filter_cons_of_neg (by simp [hidle])]
      refine (ih h).imp_right ?_
      rintro ⟨last, suffix, hsuffix, hfirst⟩
      exact ⟨last, suffix, hsuffix.trans (List.suffix_cons piece rest), hfirst⟩
    next hstep =>
      obtain ⟨hfirst, hothers⟩ := List.cons.inj h
      rw [List.filter_cons_of_pos (by simp [hstep])]
      exact .inr ⟨piece, rest, List.suffix_cons piece rest, hfirst.symm, hothers.symm, rfl⟩

theorem ancestorsOf_eq_nil {lead : Option PathComponent} {reversed : List (List Char)}
    (h : ancestorsOf lead reversed = []) :
    lead ≠ some .here ∧ reversed.filter (fun piece => !isIdle piece) = [] := by
  induction reversed with
  | nil =>
    refine ⟨fun hlead => ?_, rfl⟩
    rw [ancestorsOf, if_pos hlead] at h
    cases h
  | cons piece rest ih =>
    rw [ancestorsOf] at h
    split at h
    next hidle =>
      rw [List.filter_cons_of_neg (by simp [hidle])]
      exact ih h
    next => cases h

theorem steps_eq_reverse (path : String) :
    steps path = ((split path).2.reverse.filter fun piece => !isIdle piece).reverse := by
  rw [steps_eq_split, List.filter_reverse, List.reverse_reverse]

/-- A path has a component more than its parent, and what lies around the parent lies around it. -/
theorem parent?_eq_some {path parent : String} (h : parent? path = some parent) :
    ancestors path = parent :: ancestors parent ∧
      ∃ last, last ≠ .root ∧ components path = components parent ++ [last] := by
  obtain ⟨others, hothers⟩ := List.head?_eq_some_iff.mp h
  have hpath : path ≠ "" := by
    rintro rfl
    cases hothers
  have haround : ancestorsOf (split path).1 (split path).2.reverse = parent :: others := hothers
  rcases ancestorsOf_eq_cons haround with
    ⟨hlead, rfl, rfl, hsteps⟩ | ⟨piece, suffix, hsuffix, rfl, rfl, hsteps⟩
  · refine ⟨hothers, .here, nofun, ?_⟩
    rw [components_eq, hlead, steps_eq_reverse, hsteps]
    rfl
  · refine ⟨hothers.trans (congrArg _ (ancestors_textOf hpath hsuffix).symm), componentOf piece,
      componentOf_ne_root piece, ?_⟩
    rw [components_textOf hpath hsuffix, components_eq, steps_eq_reverse, hsteps,
      List.reverse_cons, List.filter_reverse, List.map_append, List.append_assoc]
    rfl

theorem parent?_eq_none {path : String} (h : parent? path = none) :
    ancestors path = [] ∧ (components path = [] ∨ components path = [.root]) := by
  have hnone : ancestors path = [] := List.head?_eq_none_iff.mp h
  have haround : ancestorsOf (split path).1 (split path).2.reverse = [] := hnone
  obtain ⟨hlead, hsteps⟩ := ancestorsOf_eq_nil haround
  refine ⟨hnone, ?_⟩
  rw [components_eq, steps_eq_reverse, hsteps]
  rcases split_fst path with hnone | hroot | hhere
  · exact .inl (by rw [hnone]; rfl)
  · exact .inr (by rw [hroot]; rfl)
  · exact absurd hhere hlead

theorem wellFounded_parent? : WellFounded fun outer inner => parent? inner = some outer := by
  refine Subrelation.wf ?_ (measure fun path => (components path).length).wf
  intro outer inner h
  obtain ⟨-, last, -, hcomponents⟩ := parent?_eq_some h
  change (components outer).length < (components inner).length
  rw [hcomponents, List.length_append]
  exact Nat.lt_succ_self _

/-- The directories from a path outward that its last names spell out, the path itself first. -/
def SpelledOut (lead : List PathComponent) (names around : List String) : Prop :=
  around.map components = names.inits.reverse.map fun front => lead ++ front.map .name

/-- A path is another one continued by names. -/
def Below (inner outer : String) : Prop :=
  ∃ names : List String, components inner = components outer ++ names.map .name

theorem Below.refl (path : String) : Below path path :=
  ⟨[], (List.append_nil _).symm⟩

theorem reverse_inits_concat {α : Type} (front : List α) (last : α) :
    (front ++ [last]).inits.reverse = (front ++ [last]) :: front.inits.reverse := by
  simp [List.inits_append]

theorem pairwise_reverse_inits {α : Type} (names : List α) :
    names.inits.reverse.Pairwise fun longer shorter => shorter <+: longer := by
  induction names using List.reverseRecOn with
  | nil => exact List.pairwise_singleton _ _
  | append_singleton names name ih =>
    rw [reverse_inits_concat, List.pairwise_cons]
    refine ⟨fun front hfront => ?_, ih⟩
    rw [List.mem_reverse, List.mem_inits] at hfront
    exact hfront.trans (List.prefix_append names [name])

theorem SpelledOut.pairwise {lead : List PathComponent} {names around : List String}
    (h : SpelledOut lead names around) : around.Pairwise Below := by
  have hcomponents : (around.map components).Pairwise fun longer shorter =>
      ∃ rest : List String, longer = shorter ++ rest.map .name := by
    rw [h, List.pairwise_map]
    refine (pairwise_reverse_inits names).imp ?_
    rintro _ shorter ⟨rest, rfl⟩
    exact ⟨rest, by rw [List.map_append, List.append_assoc]⟩
  rw [List.pairwise_map] at hcomponents
  exact hcomponents

/-- A directory on the way outward to another is spelled out by the path, and spells out the other. -/
theorem SpelledOut.between {lead : List PathComponent} {names nearer farther around : List String}
    {start directory closer : String} (h : SpelledOut lead names (start :: around))
    (haround : start :: around = nearer ++ directory :: farther)
    (hcloser : closer ∈ nearer ++ [directory]) : Below start closer ∧ Below closer directory := by
  have hpairwise := h.pairwise
  constructor
  · have hmem : closer ∈ start :: around := by
      rw [haround, ← List.singleton_append, ← List.append_assoc]
      exact List.mem_append_left _ hcloser
    rcases List.mem_cons.mp hmem with rfl | hmem
    · exact .refl _
    · exact List.rel_of_pairwise_cons hpairwise hmem
  · rw [haround, List.pairwise_append] at hpairwise
    rcases List.mem_append.mp hcloser with hmem | hmem
    · exact hpairwise.2.2 closer hmem directory List.mem_cons_self
    · obtain rfl := List.mem_singleton.mp hmem
      exact .refl _

theorem exists_spelledOut {start : String} {lead : List PathComponent} {names : List String}
    (h : components start = lead ++ names.map .name) :
    ∃ inner beyond, start :: ancestors start = (start :: inner) ++ beyond ∧
      SpelledOut lead names (start :: inner) ∧ (lead = [.root] → beyond = []) := by
  induction names using List.reverseRecOn generalizing start with
  | nil =>
    rw [List.map_nil, List.append_nil] at h
    refine ⟨[], ancestors start, rfl, ?_, ?_⟩
    · rw [SpelledOut, List.map_singleton, h]
      simp
    · rintro rfl
      cases hparent : parent? start with
      | none => exact (parent?_eq_none hparent).1
      | some parent =>
        obtain ⟨-, last, hlast, hcomponents⟩ := parent?_eq_some hparent
        have hroot : [] ++ [PathComponent.root] = components parent ++ [last] :=
          h.symm.trans hcomponents
        exact absurd (List.append_inj' hroot rfl).2 (by simpa using hlast.symm)
  | append_singleton names name ih =>
    rw [List.map_append, ← List.append_assoc] at h
    cases hparent : parent? start with
    | none =>
      rcases (parent?_eq_none hparent).2 with hnil | hroot
      · rw [hnil] at h
        exact absurd h.symm (List.append_ne_nil_of_right_ne_nil _ nofun)
      · have hname : [] ++ [PathComponent.root] = (lead ++ names.map .name) ++ [.name name] :=
          hroot.symm.trans h
        exact absurd (List.append_inj' hname rfl).2 (by simp)
    | some parent =>
      obtain ⟨hancestors, last, -, hcomponents⟩ := parent?_eq_some hparent
      have hfront := (List.append_inj' (h.symm.trans hcomponents) rfl).1
      obtain ⟨inner, beyond, hsplit, hspelled, hbeyond⟩ := ih hfront.symm
      refine ⟨parent :: inner, beyond, ?_, ?_, hbeyond⟩
      · rw [hancestors, hsplit]
        rfl
      · rw [SpelledOut] at hspelled ⊢
        rw [List.map_cons, hspelled, h, reverse_inits_concat]
        simp

end AmxTrace.Path
