import AmxTrace.Configuration
import AmxTrace.Proofs.Settings.Accepted
import Mathlib.Tactic.ByContra

/-! # Layers of the configuration -/

namespace AmxTrace

namespace Settings

variable {languages : Languages} {base top s : Settings}

def paths? (s : Settings) : Option (List String) := s.search.bind (·.paths)

theorem overlay_bind {α β : Type} {combine : α → α → α} {field : α → Option β}
    (hfield : ∀ lower upper, field (combine lower upper) = (field upper).or (field lower))
    (lower upper : Option α) :
    (overlay combine lower upper).bind field = (upper.bind field).or (lower.bind field) := by
  cases lower <;> cases upper <;> simp [overlay, hfield]

theorem limit?_merge (base top : Settings) (limit : Limit) :
    (base.merge top).limit? limit = (top.limit? limit).or (base.limit? limit) :=
  overlay_bind (by cases limit <;> exact fun _ _ => rfl) base.backtrace top.backtrace

example :
    (({ backtrace := some { maxDepth := some 5 } } : Settings).merge
      { backtrace := some { maxArguments := some 3 } }).limits = ⟨5, 3, 80⟩ := rfl

theorem paths?_merge (base top : Settings) :
    (base.merge top).paths? = top.paths?.or base.paths? :=
  overlay_bind (fun _ _ => rfl) base.search top.search

private theorem forall_of_or {α : Type} {p : α → Prop} {upper lower : Option α}
    (hupper : ∀ value, upper = some value → p value)
    (hlower : ∀ value, lower = some value → p value) (value : α)
    (h : upper.or lower = some value) : p value := by
  rcases Option.or_eq_some_iff.mp h with h | ⟨-, h⟩
  · exact hupper value h
  · exact hlower value h

theorem Valid.merge (hbase : base.Valid languages) (htop : top.Valid languages) :
    (base.merge top).Valid languages where
  trace := forall_of_or htop.trace hbase.trace
  filter := forall_of_or htop.filter hbase.filter
  limits limit := by
    rw [limit?_merge]
    exact forall_of_or (htop.limits limit) (hbase.limits limit)

theorem value_limits (s : Settings) (limit : Limit) :
    limit.value s.limits = (s.limit? limit).getD limit.default := by
  rw [limits, limit?]
  cases s.backtrace <;> cases limit <;> rfl

theorem Valid.value_limits_ne_zero (h : s.Valid languages) (limit : Limit) :
    limit.value s.limits ≠ 0 := by
  rw [value_limits]
  cases hgiven : s.limit? limit with
  | none => cases limit <;> decide
  | some n => exact h.limits limit n hgiven

theorem Valid.traceFlags (h : s.Valid languages) :
    s.traceFlags = TraceFlags.named (s.trace.getD "").toList := by
  rw [Settings.traceFlags]
  cases htrace : s.trace with
  | none => rfl
  | some text =>
    have hparse : TraceFlags.parse text = .ok (TraceFlags.named text.toList) :=
      TraceFlags.parse_eq_ok_iff.mpr ⟨h.trace text htrace, rfl⟩
    simp [hparse, Except.toOption]

theorem Valid.lineFilter (h : s.Valid languages) :
    Option.Rel (fun pattern filter =>
      filter.text = pattern ∧ languages.pattern pattern = .ok filter.accepts) s.traceFilter
      (s.lineFilter languages) := by
  rw [Settings.lineFilter]
  cases hpattern : s.traceFilter with
  | none => exact .none
  | some pattern =>
    obtain ⟨accepts, haccepts⟩ := h.filter pattern hpattern
    have hfilter : LineFilter.ofPattern languages.pattern pattern = .ok ⟨pattern, accepts⟩ :=
      LineFilter.ofPattern_eq_ok_iff.mpr ⟨rfl, haccepts⟩
    rw [Option.bind_some, hfilter]
    exact .some ⟨rfl, haccepts⟩

end Settings

namespace Configuration

/-- The paths that a text lists: what lies between its colons, the empty parts left out. -/
def Lists (text : String) (paths : List String) : Prop :=
  ∃ parts, Text.joined ':' parts = text.toList ∧ parts ≠ [] ∧ (∀ part ∈ parts, ':' ∉ part) ∧
    paths = (parts.filter (· ≠ [])).map String.ofList

theorem lists_listedPaths (text : String) : Lists text (listedPaths text) := by
  refine ⟨Text.parts (· == ':') text.toList, Text.joined_parts _ _, Text.parts_ne_nil _ _, ?_, rfl⟩
  intro part hpart hcolon
  have hseparator := Text.not_separator_of_mem_parts hpart ':' hcolon
  simp at hseparator

/-- The trace variable is set, to a text with a character that no trace has. -/
def Misspelt (environment : Environment) : Prop :=
  ∃ text, environment.value? traceVariable = some text ∧
    ∃ letter ∈ text.toList, ¬ TraceFlags.IsLetter letter

/-- The configuration with what the variables say. -/
def overlaid (c : Configuration) (environment : Environment) : Configuration :=
  { c with
    trace := ((environment.value? traceVariable).map fun text => .named text.toList).getD c.trace
    searchPaths := listedPaths ((environment.value? searchVariable).getD "") ++ c.searchPaths }

theorem withEnvironment_of_misspelt {environment : Environment} (h : Misspelt environment)
    (c : Configuration) : ∃ fault, c.withEnvironment environment = .error fault := by
  obtain ⟨text, hset, letter, hmem, hletter⟩ := h
  rw [withEnvironment, hset]
  cases hparse : TraceFlags.parse text with
  | ok flags => exact absurd ((TraceFlags.parse_eq_ok_iff.mp hparse).1 letter hmem) hletter
  | error first => exact ⟨.unknownFlag first, by simp only [hparse]; rfl⟩

theorem withEnvironment_of_not_misspelt {environment : Environment} (h : ¬ Misspelt environment)
    (c : Configuration) : c.withEnvironment environment = .ok (c.overlaid environment) := by
  rw [withEnvironment, overlaid]
  cases hset : environment.value? traceVariable with
  | none => cases environment.value? searchVariable <;> rfl
  | some text =>
    have hletters : ∀ letter ∈ text.toList, TraceFlags.IsLetter letter := by
      intro letter hmem
      by_contra hletter
      exact h ⟨text, hset, letter, hmem, hletter⟩
    have hparse : TraceFlags.parse text = .ok (.named text.toList) :=
      TraceFlags.parse_eq_ok_iff.mpr ⟨hletters, rfl⟩
    simp only [hparse]
    cases environment.value? searchVariable <;> rfl

section Layers

variable (languages : Languages) (files : TextFiles) (environment : Environment) (global : String)

/-- The near settings are those of their file, or none where there is no file. -/
def NearSettings : Option String → Settings → Prop
  | some path, near => Settings.Gives languages files path near
  | none, near => near = {}

/-- The far settings are those of the global file, or none if that file is missing or of no use. -/
def FarSettings (far : Settings) : Prop :=
  (files.exists? global = true ∧ Settings.Gives languages files global far) ∨
    ((files.exists? global = false ∨ Settings.Unusable languages files global) ∧ far = {})

/-- Each value comes from the first layer that gives it. -/
structure Layered (near far : Settings) (root : Option String) (c : Configuration) : Prop where
  limits : ∀ limit : Limit, limit.value c.limits =
    ((near.limit? limit).or (far.limit? limit)).getD limit.default
  limits_ne_zero : ∀ limit : Limit, limit.value c.limits ≠ 0
  trace : c.trace = .named (((environment.value? traceVariable).or
    (near.trace.or far.trace)).getD "").toList
  filter : Option.Rel (fun pattern filter =>
    filter.text = pattern ∧ languages.pattern pattern = .ok filter.accepts)
    (near.traceFilter.or far.traceFilter) c.filter
  searchPaths : ∃ listed, Lists ((environment.value? searchVariable).getD "") listed ∧
    c.searchPaths = listed ++ (near.paths?.or far.paths?).getD ["gamemodes", "filterscripts"]
  root : c.root = root

/-- What makes a load fail. The global file has no part in it. -/
inductive Refused (file : Option String) : Prop where
  | unusable (path : String) (hfile : file = some path)
      (h : Settings.Unusable languages files path)
  | misspelt (h : Misspelt environment)

/-- Outcomes of a load: it fails if it is refused, and only then; else the layers decide. -/
inductive Decides (file root : Option String) : Except SettingsError Configuration → Prop where
  | fails (fault : SettingsError) (h : Refused languages files environment file) :
      Decides file root (.error fault)
  | succeeds (c : Configuration) (near far : Settings)
      (h : ¬ Refused languages files environment file)
      (hnear : NearSettings languages files file near) (hfar : FarSettings languages files global far)
      (hlayered : Layered languages environment near far root c) : Decides file root (.ok c)

/-- The first of some directories with a local settings file, or none if none has one. -/
inductive Nearest (around : List String) : Option String → Prop where
  | found (nearer farther : List String) (directory : String)
      (hsplit : around = nearer ++ directory :: farther)
      (hexists : files.exists? (Path.join directory fileName) = true)
      (hnearer : ∀ other ∈ nearer, files.exists? (Path.join other fileName) = false) :
      Nearest around (some directory)
  | nowhere (h : ∀ directory ∈ around, files.exists? (Path.join directory fileName) = false) :
      Nearest around none

end Layers

variable {languages : Languages} {files : TextFiles} {environment : Environment} {global : String}

theorem nearest_find? (around : List String) :
    Nearest files around
      (around.find? fun directory => files.exists? (Path.join directory fileName)) := by
  cases hroot : around.find? fun directory => files.exists? (Path.join directory fileName) with
  | none =>
    rw [List.find?_eq_none] at hroot
    exact .nowhere fun directory hmem => by simpa using hroot directory hmem
  | some directory =>
    obtain ⟨hexists, nearer, farther, hsplit, hnearer⟩ := List.find?_eq_some_iff_append.mp hroot
    exact .found nearer farther directory hsplit hexists fun other hmem => by
      simpa using hnearer other hmem

theorem farSettings_globalSettings :
    FarSettings languages files global (globalSettings languages files global) := by
  rw [globalSettings]
  cases hexists : files.exists? global with
  | false => exact .inr ⟨.inl hexists, rfl⟩
  | true =>
    rw [if_pos rfl]
    cases hload : Settings.load languages files global with
    | ok far => exact .inl ⟨hexists, Settings.load_eq_ok_iff.mp hload⟩
    | error fault => exact .inr ⟨.inr (Settings.load_eq_error_iff.mp ⟨fault, hload⟩), rfl⟩

theorem FarSettings.valid {far : Settings} (h : FarSettings languages files global far) :
    far.Valid languages := by
  rcases h with ⟨-, _, _, _, hvalid⟩ | ⟨-, rfl⟩
  · exact hvalid
  · exact Settings.valid_empty

theorem NearSettings.valid {file : Option String} {near : Settings}
    (h : NearSettings languages files file near) : near.Valid languages := by
  cases file with
  | none =>
    obtain rfl : near = {} := h
    exact Settings.valid_empty
  | some path =>
    obtain ⟨_, _, _, hvalid⟩ := h
    exact hvalid

theorem layered_overlaid {near far : Settings} (hnear : near.Valid languages)
    (hfar : far.Valid languages) (root : Option String) :
    Layered languages environment near far root
      ((ofSettings languages (far.merge near) root).overlaid environment) where
  limits limit := by
    rw [← Settings.limit?_merge]
    exact Settings.value_limits _ limit
  limits_ne_zero := (hfar.merge hnear).value_limits_ne_zero
  trace := by
    have hmerged : (far.merge near).traceFlags = .named ((near.trace.or far.trace).getD "").toList :=
      (hfar.merge hnear).traceFlags
    rw [overlaid, ofSettings, hmerged]
    cases environment.value? traceVariable <;> rfl
  filter := (hfar.merge hnear).lineFilter
  searchPaths := by
    refine ⟨_, lists_listedPaths _, ?_⟩
    rw [← Settings.paths?_merge]
    rfl
  root := rfl

variable (languages files) in
def nearSettings : Option String → Except SettingsError Settings
  | some path => Settings.load languages files path
  | none => pure {}

variable (languages files environment global) in
/-- A load from a file, with the global file under it and the variables over it. -/
def loadOver (file root : Option String) : Except SettingsError Configuration := do
  let near ← nearSettings languages files file
  (ofSettings languages ((globalSettings languages files global).merge near) root).withEnvironment
    environment

theorem loadFrom_eq_loadOver (start : String) :
    loadFrom languages files environment global start =
      loadOver languages files environment global
        ((localRoot? files start).map (Path.join · fileName)) (localRoot? files start) := by
  rw [loadFrom, loadOver]
  cases localRoot? files start <;> rfl

theorem loadFile_eq_loadOver (path : String) :
    loadFile languages files environment global path =
      loadOver languages files environment global (some path) (Path.parent? path) := rfl

theorem decides_loadOver (file root : Option String) :
    Decides languages files environment global file root
      (loadOver languages files environment global file root) := by
  rw [loadOver]
  cases hload : nearSettings languages files file with
  | error fault =>
    cases file with
    | none => cases hload
    | some path =>
      have hunusable : Settings.Unusable languages files path :=
        Settings.load_eq_error_iff.mp ⟨fault, hload⟩
      exact .fails fault (.unusable path rfl hunusable)
  | ok near =>
    have hnear : NearSettings languages files file near := by
      cases file with
      | none => simpa [nearSettings, NearSettings, pure, Except.pure, eq_comm] using hload
      | some path => exact Settings.load_eq_ok_iff.mp hload
    have hfar : FarSettings languages files global (globalSettings languages files global) :=
      farSettings_globalSettings
    change Decides languages files environment global file root
      ((ofSettings languages ((globalSettings languages files global).merge near)
        root).withEnvironment environment)
    by_cases hmisspelt : Misspelt environment
    · obtain ⟨fault, hfault⟩ := withEnvironment_of_misspelt hmisspelt
        (ofSettings languages ((globalSettings languages files global).merge near) root)
      rw [hfault]
      exact .fails fault (.misspelt hmisspelt)
    · rw [withEnvironment_of_not_misspelt hmisspelt]
      refine .succeeds _ near _ ?_ hnear hfar (layered_overlaid hnear.valid hfar.valid root)
      rintro (⟨path, rfl, hunusable⟩ | hmisspelt')
      · exact Settings.unusable_iff.mp hunusable near hnear
      · exact hmisspelt hmisspelt'

end Configuration
end AmxTrace
