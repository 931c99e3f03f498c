import AmxTrace.Settings
import Mathlib.Tactic.SplitIfs

/-! # Settings that are accepted -/

namespace AmxTrace

namespace TraceFlags

/-- A character that may stand in a trace: the letter of a flag, or a blank. -/
def IsLetter (c : Char) : Prop := c = 'n' ∨ c = 'p' ∨ c = 'f' ∨ Text.isBlank c = true

def named (letters : List Char) : TraceFlags where
  natives := letters.contains 'n'
  publics := letters.contains 'p'
  functions := letters.contains 'f'

/-- The flags that are set in either. -/
def union (a b : TraceFlags) : TraceFlags where
  natives := a.natives || b.natives
  publics := a.publics || b.publics
  functions := a.functions || b.functions

theorem union_named_nil (flags : TraceFlags) : flags.union (named []) = flags := by
  simp [union, named]

theorem union_named_cons (flags : TraceFlags) (letter : Char) (letters : List Char) :
    flags.union (named (letter :: letters)) =
      (flags.union (named [letter])).union (named letters) := by
  simp [union, named, Bool.or_assoc, Bool.decide_or]

theorem addLetter?_of_isLetter {letter : Char} (h : IsLetter letter) (flags : TraceFlags) :
    flags.addLetter? letter = some (flags.union (named [letter])) := by
  rw [addLetter?]
  split_ifs with hn hp hf hblank
  · subst hn
    simp [union, named]
  · subst hp
    simp [union, named]
  · subst hf
    simp [union, named]
  · simp [union, named, Ne.symm hn, Ne.symm hp, Ne.symm hf]
  · simp [IsLetter, hn, hp, hf, hblank] at h

theorem addLetter?_of_not_isLetter {letter : Char} (h : ¬ IsLetter letter) (flags : TraceFlags) :
    flags.addLetter? letter = none := by
  simp only [IsLetter, not_or] at h
  simp [addLetter?, h]

theorem addLetters_eq_ok_iff {flags result : TraceFlags} {letters : List Char} :
    flags.addLetters letters = .ok result ↔
      (∀ letter ∈ letters, IsLetter letter) ∧ result = flags.union (named letters) := by
  induction letters generalizing flags with
  | nil => simp [addLetters, union_named_nil, eq_comm]
  | cons letter letters ih =>
    rw [addLetters, union_named_cons, List.forall_mem_cons]
    by_cases hletter : IsLetter letter
    · simp only [addLetter?_of_isLetter hletter, ih, hletter, true_and]
    · simp [addLetter?_of_not_isLetter hletter, hletter]

/-- A trace is accepted if it has letters only, and stands for the flags whose letters occur. -/
theorem parse_eq_ok_iff {text : String} {flags : TraceFlags} :
    parse text = .ok flags ↔
      (∀ letter ∈ text.toList, IsLetter letter) ∧ flags = named text.toList := by
  have hnone : union {} (named text.toList) = named text.toList := by simp [union]
  rw [parse, addLetters_eq_ok_iff, hnone]

end TraceFlags

theorem LineFilter.ofPattern_eq_ok_iff {compile : String → Except String (String → Bool)}
    {pattern : String} {filter : LineFilter} :
    ofPattern compile pattern = .ok filter ↔
      filter.text = pattern ∧ compile pattern = .ok filter.accepts := by
  obtain ⟨text, accepts⟩ := filter
  rw [ofPattern]
  cases compile pattern with
  | error reason => exact iff_of_false nofun fun h => nomatch h.2
  | ok found =>
    change Except.ok (⟨pattern, found⟩ : LineFilter) = _ ↔ _
    rw [Except.ok.injEq, LineFilter.mk.injEq, Except.ok.injEq, eq_comm (a := pattern)]

/-- The limits that settings may give. -/
inductive Limit where
  | depth
  | arguments
  | stringLength
deriving DecidableEq, Repr

namespace Limit

def given : Limit → LimitSettings → Option Nat
  | depth => (·.maxDepth)
  | arguments => (·.maxArguments)
  | stringLength => (·.maxStringLength)

def value : Limit → Limits → Nat
  | depth => (·.maxDepth)
  | arguments => (·.maxArguments)
  | stringLength => (·.maxStringLength)

def default : Limit → Nat
  | depth => 100
  | arguments => 10
  | stringLength => 80

theorem forall_iff {p : Limit → Prop} : (∀ limit, p limit) ↔ p depth ∧ p arguments ∧ p stringLength :=
  ⟨fun h => ⟨h depth, h arguments, h stringLength⟩, fun h limit => match limit with
    | depth => h.1
    | arguments => h.2.1
    | stringLength => h.2.2⟩

end Limit

namespace Settings

variable {languages : Languages} {files : TextFiles} {path : String} {s : Settings}

def limit? (s : Settings) (limit : Limit) : Option Nat := s.backtrace.bind limit.given

/-- Every value that is given is accepted. -/
structure Valid (languages : Languages) (s : Settings) : Prop where
  trace : ∀ text, s.trace = some text → ∀ letter ∈ text.toList, TraceFlags.IsLetter letter
  filter : ∀ pattern, s.traceFilter = some pattern →
    ∃ accepts, languages.pattern pattern = .ok accepts
  limits : ∀ limit n, s.limit? limit = some n → n ≠ 0

theorem valid_empty : Valid languages {} where
  trace := nofun
  filter := nofun
  limits limit := by simp [limit?]

theorem traceFault?_eq_none_iff :
    s.traceFault? = none ↔
      ∀ text, s.trace = some text → ∀ letter ∈ text.toList, TraceFlags.IsLetter letter := by
  rw [traceFault?]
  cases s.trace with
  | none => simp
  | some text =>
    cases hparse : TraceFlags.parse text with
    | ok flags =>
      have hletters := (TraceFlags.parse_eq_ok_iff.mp hparse).1
      simpa [hparse] using hletters
    | error letter =>
      have hnot : ¬ ∀ letter ∈ text.toList, TraceFlags.IsLetter letter := by
        intro hletters
        have hok := TraceFlags.parse_eq_ok_iff.mpr ⟨hletters, rfl⟩
        rw [hparse] at hok
        cases hok
      simpa [hparse] using hnot

theorem filterFault?_eq_none_iff :
    s.filterFault? languages = none ↔
      ∀ pattern, s.traceFilter = some pattern →
        ∃ accepts, languages.pattern pattern = .ok accepts := by
  rw [filterFault?]
  cases s.traceFilter with
  | none => simp
  | some pattern =>
    simp only [Option.bind_some, Option.some.injEq, forall_eq', LineFilter.ofPattern]
    cases languages.pattern pattern <;> simp [Except.map]

theorem limitFault?_eq_none_iff :
    s.limitFault? = none ↔ ∀ limit n, s.limit? limit = some n → n ≠ 0 := by
  have hnonzero (limit : Option Nat) : (∀ n, limit = some n → n ≠ 0) ↔ limit ≠ some 0 := by
    cases limit <;> simp
  simp only [limitFault?, limit?, Limit.forall_iff, Limit.given, hnonzero]
  cases s.backtrace with
  | none => simp
  | some limits =>
    simp only [Option.bind_eq_bind, Option.bind_some]
    by_cases hdepth : limits.maxDepth = some 0
    · simp [hdepth]
    by_cases harguments : limits.maxArguments = some 0
    · simp [hdepth, harguments]
    by_cases hlength : limits.maxStringLength = some 0
    · simp [hdepth, harguments, hlength]
    · simp [hdepth, harguments, hlength]

theorem fault?_eq_none_iff : s.fault? languages = none ↔ s.Valid languages := by
  have horElse : s.fault? languages = none ↔
      s.traceFault? = none ∧ s.filterFault? languages = none ∧ s.limitFault? = none := by
    rw [fault?]
    cases s.traceFault? <;> cases s.filterFault? languages <;> simp
  rw [horElse, traceFault?_eq_none_iff, filterFault?_eq_none_iff, limitFault?_eq_none_iff]
  exact ⟨fun ⟨htrace, hfilter, hlimits⟩ => ⟨htrace, hfilter, hlimits⟩,
    fun h => ⟨h.trace, h.filter, h.limits⟩⟩

theorem checked_eq_ok_iff {accepted : Settings} :
    s.checked languages = .ok accepted ↔ accepted = s ∧ s.Valid languages := by
  rw [← fault?_eq_none_iff, checked]
  cases s.fault? languages with
  | none => simp [pure, Except.pure, eq_comm (a := s)]
  | some fault => simp [throw, throwThe, MonadExceptOf.throw]

variable (languages files path) in
/-- The file at a path can be read as the text of settings that are accepted. -/
def Gives (s : Settings) : Prop :=
  ∃ text, files.readText path = .ok text ∧ languages.settings text = .ok s ∧ s.Valid languages

variable (languages files path) in
/-- What can be wrong with a settings file. -/
inductive Unusable : Prop where
  | unreadable (fault : ReadFault) (hread : files.readText path = .error fault)
  | malformed (text reason : String) (hread : files.readText path = .ok text)
      (hparse : languages.settings text = .error reason)
  | refused (text : String) (s : Settings) (hread : files.readText path = .ok text)
      (hparse : languages.settings text = .ok s) (hvalid : ¬ s.Valid languages)

theorem load_eq_ok_iff : load languages files path = .ok s ↔ Gives languages files path s := by
  rw [load, Gives]
  cases hread : files.readText path with
  | error fault => cases fault <;> simp [throw, throwThe, MonadExceptOf.throw]
  | ok text =>
    simp only [Except.ok.injEq, exists_eq_left', parse]
    cases hparse : languages.settings text with
    | error reason => simp [throw, throwThe, MonadExceptOf.throw]
    | ok given =>
      simp only [checked_eq_ok_iff, Except.ok.injEq]
      constructor
      · rintro ⟨rfl, hvalid⟩
        exact ⟨rfl, hvalid⟩
      · rintro ⟨rfl, hvalid⟩
        exact ⟨rfl, hvalid⟩

theorem unusable_iff :
    Unusable languages files path ↔ ∀ s, ¬ Gives languages files path s := by
  constructor
  · intro h s ⟨text, hread, hparse, hvalid⟩
    cases h with
    | unreadable fault hread' => simp [hread] at hread'
    | malformed text' reason hread' hparse' =>
      obtain rfl : text = text' := by simpa [hread] using hread'
      simp [hparse] at hparse'
    | refused text' s' hread' hparse' hvalid' =>
      obtain rfl : text = text' := by simpa [hread] using hread'
      obtain rfl : s = s' := by simpa [hparse] using hparse'
      exact hvalid' hvalid
  · intro h
    cases hread : files.readText path with
    | error fault => exact .unreadable fault hread
    | ok text =>
      cases hparse : languages.settings text with
      | error reason => exact .malformed text reason hread hparse
      | ok s => exact .refused text s hread hparse fun hvalid => h s ⟨text, hread, hparse, hvalid⟩

theorem load_eq_error_iff :
    (∃ fault, load languages files path = .error fault) ↔ Unusable languages files path := by
  simp only [unusable_iff, ← load_eq_ok_iff]
  cases load languages files path <;> simp

end Settings
end AmxTrace
