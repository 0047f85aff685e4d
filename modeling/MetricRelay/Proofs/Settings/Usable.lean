/-
**Which settings pass the check.**

`Settings.Usable` says it without the check and without an order of faults: rows have a target, they
are made durable at some cadence, a host name can stand in the name of a file, and every pattern
compiles.

* `FilterPatterns.compiles_iff`: patterns compile together if each of them does;
* `Settings.check_eq_ok_iff`: the check accepts exactly the settings that can be used.
-/

import MetricRelay.Settings.Basic

namespace MetricRelay

/-- Of two steps that may fail, both ended well. -/
theorem Except.bind_eq_ok_iff {ε α β : Type} {first : Except ε α} {later : α → Except ε β}
    {result : β} :
    first.bind later = .ok result ↔ ∃ value, first = .ok value ∧ later value = .ok result := by
  constructor
  · intro done
    cases first with
    | ok value => exact ⟨value, rfl, done⟩
    | error fault => cases done
  · rintro ⟨value, rfl, done⟩
    exact done

theorem Except.mapError_eq_ok_iff {ε ε' α : Type} {attempt : Except ε α} {wrap : ε → ε'}
    {result : α} : attempt.mapError wrap = .ok result ↔ attempt = .ok result := by
  cases attempt with
  | error fault => exact ⟨nofun, nofun⟩
  | ok value =>
    show (Except.ok value : Except ε' α) = .ok result ↔ _
    rw [Except.ok.injEq, Except.ok.injEq]

/-! ### Parts of settings -/

namespace Text

/-- Something of the text can be seen. -/
def IsVisible (text : String) : Prop :=
  ∃ c ∈ text.toList, isBlank c = false

theorem isBlankText_eq_false_iff {text : String} : isBlankText text = false ↔ IsVisible text := by
  unfold isBlankText
  rw [List.all_eq_false]
  refine exists_congr fun c => and_congr_right fun _ => ?_
  rw [Bool.not_eq_true]

end Text

/-- Rows can be delivered there: to a directory that has a path, or to a broker that has a host and
a port. -/
def SinkChoice.HasTarget : SinkChoice → Prop
  | durableLog directory => directory.text ≠ ""
  | publish host port => Text.IsVisible host ∧ port ≠ 0

theorem SinkChoice.check_eq_ok_iff {sink : SinkChoice} : sink.check = .ok () ↔ sink.HasTarget := by
  cases sink with
  | durableLog directory =>
    show (if directory.text = "" then _ else _) = _ ↔ directory.text ≠ ""
    by_cases empty : directory.text = "" <;> simp [empty]
  | publish host port =>
    show (if Text.isBlankText host = true then _ else if port = 0 then _ else _) = _ ↔
      Text.IsVisible host ∧ port ≠ 0
    rw [← Text.isBlankText_eq_false_iff]
    by_cases blank : Text.isBlankText host = true <;> by_cases zero : port = 0 <;>
      simp [blank, zero]

namespace FilterPatterns

/-- **Patterns compile together if each of them does.** -/
theorem compileAll_eq_ok_iff {texts : List String} :
    (∃ patterns, compileAll texts = .ok patterns) ↔
      ∀ text ∈ texts, ∃ pattern, Pattern.compile text = .ok pattern := by
  induction texts with
  | nil => simp [compileAll]
  | cons text rest ih =>
    rw [List.forall_mem_cons, ← ih]
    cases compiled : Pattern.compile text with
    | error fault =>
      have refused : compileAll (text :: rest) = .error ⟨text, fault⟩ := by
        simp only [compileAll, compiled]
      simp [refused]
    | ok pattern =>
      have goesOn : compileAll (text :: rest) = (compileAll rest).map (pattern :: ·) := by
        simp only [compileAll, compiled]
      rw [goesOn]
      cases compileAll rest with
      | error refusal => simp [Except.map]
      | ok patterns => simp [Except.map]

theorem compiles_iff {patterns : FilterPatterns} :
    (∃ compiled, patterns.compile = .ok compiled) ↔
      ∀ text ∈ patterns.wanted ++ patterns.unwanted,
        ∃ pattern, Pattern.compile text = .ok pattern := by
  rw [List.forall_mem_append, ← compileAll_eq_ok_iff, ← compileAll_eq_ok_iff]
  unfold compile
  cases compileAll patterns.wanted with
  | error refusal => simp [bind, Except.bind]
  | ok wanted =>
    cases compileAll patterns.unwanted with
    | error refusal => simp [bind, Except.bind]
    | ok unwanted => simp [bind, Except.bind, pure, Except.pure]

end FilterPatterns

/-! ### Settings -/

namespace Settings

theorem isUsableHostname_iff {hostname : String} :
    isUsableHostname hostname = true ↔ Text.IsVisible hostname ∧ '/' ∉ hostname.toList := by
  unfold isUsableHostname
  rw [Bool.and_eq_true, Bool.not_eq_true', Bool.not_eq_true', Text.isBlankText_eq_false_iff]
  simp

/-- The settings can be used. -/
structure Usable (settings : Settings) : Prop where
  target : settings.sink.HasTarget
  cadence : settings.syncEvery ≠ 0
  hostname : ∀ hostname ∈ settings.hostname, Text.IsVisible hostname ∧ '/' ∉ hostname.toList
  patterns : ∀ text ∈ settings.filter.wanted ++ settings.filter.unwanted,
    ∃ pattern, Pattern.compile text = .ok pattern

theorem checkHostname_eq_ok_iff {hostname : Option String} :
    checkHostname hostname = .ok () ↔
      ∀ name ∈ hostname, Text.IsVisible name ∧ '/' ∉ name.toList := by
  cases hostname with
  | none => simp [checkHostname]
  | some name =>
    simp only [Option.mem_some, forall_eq', ← isUsableHostname_iff]
    unfold checkHostname
    by_cases usable : isUsableHostname name = true <;> simp [usable]

/-- The steps of the check, for settings with a cadence. -/
theorem check_of_cadence {settings : Settings} (cadence : settings.syncEvery ≠ 0) :
    settings.check = settings.sink.check.bind fun _ =>
      (checkHostname settings.hostname).bind fun _ =>
        (settings.filter.compile.mapError SettingsError.pattern).bind fun _ => .ok () := by
  unfold check
  simp only [if_neg cadence]
  rfl

theorem check_ne_ok_of_no_cadence {settings : Settings} (never : settings.syncEvery = 0) :
    settings.check ≠ .ok () := by
  unfold check
  simp only [if_pos never]
  cases settings.sink.check <;> exact nofun

/-- **The check accepts exactly the settings that can be used.** -/
theorem check_eq_ok_iff {settings : Settings} : settings.check = .ok () ↔ settings.Usable := by
  by_cases cadence : settings.syncEvery = 0
  · exact ⟨fun accepted => absurd accepted (check_ne_ok_of_no_cadence cadence),
      fun usable => absurd cadence usable.cadence⟩
  rw [check_of_cadence cadence]
  simp only [Except.bind_eq_ok_iff, Except.mapError_eq_ok_iff, and_true]
  constructor
  · rintro ⟨⟨⟩, target, ⟨⟩, hostname, compiles⟩
    exact ⟨SinkChoice.check_eq_ok_iff.mp target, cadence, checkHostname_eq_ok_iff.mp hostname,
      FilterPatterns.compiles_iff.mp compiles⟩
  · intro usable
    exact ⟨(), SinkChoice.check_eq_ok_iff.mpr usable.target,
      (), checkHostname_eq_ok_iff.mpr usable.hostname,
      FilterPatterns.compiles_iff.mpr usable.patterns⟩

end Settings

end MetricRelay
