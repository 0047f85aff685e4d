/-
**Where settings are looked for.**

Settings may stand in several places, and only the first place that is there counts. What stands
there is taken or refused; a later place is never tried instead.

* `Settings.Source.First`: the place that is there first. A file that is named is there, whether
  it exists or not; the one in the directory for settings is there if it is a file;
* `Settings.Source.Says`: the settings that stand at a place, if any do;
* `Settings.resolve_eq_ok_iff`: which settings are found, and from where;
* `Settings.resolve_congr`: nothing else decides, not even whether there is an answer.
-/

import MetricRelay.Proofs.Settings.Usable
import MetricRelay.Settings.Load

namespace MetricRelay

/-- The text of some bytes is the one that has them. -/
theorem Text.fromUTF8?_eq_some_iff {bytes : ByteArray} {text : String} :
    String.fromUTF8? bytes = some text ↔ bytes = text.toUTF8 := by
  unfold String.fromUTF8?
  by_cases valid : bytes.IsValidUTF8
  · rw [dif_pos valid, Option.some.injEq, ← String.toByteArray_inj]
    rfl
  · rw [dif_neg valid]
    refine iff_of_false (by simp) fun same => valid ?_
    rw [same]
    exact text.isValidUTF8

namespace Settings

variable {disk otherDisk : Disk} {standard settings : Settings} {source other : Source}
  {explicit environment directory otherExplicit otherEnvironment otherDirectory : Option Path}

namespace Source

/-- The first place that is there, of those that are given. -/
inductive First (disk : Disk) : Option Path → Option Path → Option Path → Source → Prop where
  | explicit (path : Path) (environment directory : Option Path) :
      First disk (some path) environment directory (.explicit path)
  | environment (path : Path) (directory : Option Path) :
      First disk none (some path) directory (.environment path)
  | directory (directory : Path) (there : disk.isFile (fileBelow directory) = true) :
      First disk none none (some directory) (.directory (fileBelow directory))
  | standard (directory : Option Path)
      (nowhere : ∀ path ∈ directory, disk.isFile (fileBelow path) = false) :
      First disk none none directory .standard

theorem first_source (disk : Disk) (explicit environment directory : Option Path) :
    First disk explicit environment directory
      (Settings.source disk explicit environment directory) := by
  cases explicit with
  | some path => exact .explicit path environment directory
  | none =>
    cases environment with
    | some path => exact .environment path directory
    | none =>
      cases directory with
      | none => exact .standard none (by simp)
      | some directory =>
        unfold Settings.source
        by_cases there : disk.isFile (fileBelow directory) = true
        · simp only [if_pos there]
          exact .directory directory there
        · simp only [if_neg there]
          exact .standard (some directory) (by simpa using there)

/-- One place is there first. -/
theorem First.unique (first : First disk explicit environment directory source)
    (another : First disk explicit environment directory other) : other = source := by
  cases first with
  | explicit | environment =>
    cases another
    rfl
  | directory directory there =>
    cases another with
    | directory => rfl
    | standard _ nowhere => exact absurd there (by simp [nowhere directory rfl])
  | standard directory nowhere =>
    cases another with
    | directory directory there => exact absurd there (by simp [nowhere directory rfl])
    | standard => rfl

theorem first_iff : First disk explicit environment directory source ↔
    source = Settings.source disk explicit environment directory := by
  constructor
  · intro first
    exact (first_source disk explicit environment directory).unique first
  · rintro rfl
    exact first_source disk explicit environment directory

/-- The file of a source. -/
def path? : Source → Option Path
  | .explicit path | .environment path | .directory path => some path
  | .standard => none

end Source

/-- What a text says in the format that the name of its file tells. -/
def ofText? (standard : Settings) (path : Path) (text : String) : Option Settings :=
  if isJsonPath path then ofJsonText? standard text else ofTomlText? standard text

/-- The settings stand there: the bytes of the file are a text that says them. Without a file the
standard settings hold. -/
def Source.Says (disk : Disk) (standard : Settings) (source : Source) (settings : Settings) : Prop :=
  match source.path? with
  | some path => ∃ text : String, disk.read? path = some text.toUTF8 ∧
      ofText? standard path text = some settings
  | none => settings = standard

/-- **A file is loaded if its bytes are a text that says settings.** -/
theorem load_eq_ok_iff {path : Path} : load disk standard path = .ok settings ↔
    ∃ text : String, disk.read? path = some text.toUTF8 ∧
      ofText? standard path text = some settings := by
  have readable (text : String) : disk.read? path = some text.toUTF8 ↔
      (disk.read? path).bind String.fromUTF8? = some text := by
    simp [Option.bind_eq_some_iff, Text.fromUTF8?_eq_some_iff]
  simp only [readable]
  unfold load ofText?
  cases (disk.read? path).bind String.fromUTF8? with
  | none => simp
  | some text =>
    simp only [Option.some.injEq, exists_eq_left']
    by_cases json : isJsonPath path = true
    · simp only [if_pos json]
      cases ofJsonText? standard text <;> simp
    · simp only [if_neg json]
      cases ofTomlText? standard text <;> simp

theorem ofSource_eq_ok_iff :
    ofSource disk standard source = .ok settings ↔ source.Says disk standard settings := by
  cases source with
  | explicit | environment | directory => exact load_eq_ok_iff
  | standard =>
    show Except.ok standard = Except.ok settings ↔ settings = standard
    rw [Except.ok.injEq, eq_comm]

/-- **Settings are found where the first place says some that can be used.** -/
theorem resolve_eq_ok_iff {place : Source}
    (first : Source.First disk explicit environment directory source) :
    resolve disk standard explicit environment directory = .ok (settings, place) ↔
      place = source ∧ source.Says disk standard settings ∧ settings.Usable := by
  rw [← ofSource_eq_ok_iff, ← check_eq_ok_iff]
  have steps : resolve disk standard explicit environment directory =
      (ofSource disk standard source).bind fun found =>
        found.check.bind fun _ => .ok (found, source) := by
    unfold resolve
    rw [← Source.first_iff.mp first]
    rfl
  rw [steps]
  simp only [Except.bind_eq_ok_iff, Except.ok.injEq, Prod.mk.injEq]
  constructor
  · rintro ⟨found, stands, ⟨⟩, checked, rfl, rfl⟩
    exact ⟨rfl, stands, checked⟩
  · rintro ⟨rfl, stands, checked⟩
    exact ⟨settings, stands, (), checked, rfl, rfl⟩

/-- **What stands at a later place is not read,** nor anything else on the disk. -/
theorem resolve_congr (first : Source.First disk explicit environment directory source)
    (otherFirst : Source.First otherDisk otherExplicit otherEnvironment otherDirectory source)
    (same : ∀ path ∈ source.path?, otherDisk.read? path = disk.read? path) :
    resolve otherDisk standard otherExplicit otherEnvironment otherDirectory =
      resolve disk standard explicit environment directory := by
  have loaded : ofSource otherDisk standard source = ofSource disk standard source := by
    cases source with
    | explicit path | environment path | directory path =>
      show load otherDisk standard path = load disk standard path
      unfold load
      rw [same path rfl]
    | standard => rfl
  unfold resolve
  rw [← Source.first_iff.mp first, ← Source.first_iff.mp otherFirst]
  simp only [loaded]

end Settings

end MetricRelay
