/-
**Where the files of streams are.**

The names of metrics come from outside, and they name directories and files below the directory of a
journal. That they name nothing else rests on how a name is cut at its dots, on the digits of an
executor id, and on the host names that settings may give.

* `Settings.Allows`: a host name that some settings may give;
* `Route.PlainIds`: what is in the ids of a routable name;
* `Journal.fileName`: the name of the file of a stream.

Main statement: `Journal.logs_stay_below_directory`.
-/

import MetricRelay.Proofs.Disk.Join
import MetricRelay.Proofs.Settings.Usable
import MetricRelay.Proofs.Stream.Names
import MetricRelay.Sink.Journal

namespace MetricRelay

/-! ### Host names -/

/-- Some settings that can be used give this host name. -/
def Settings.Allows (hostname : String) : Prop :=
  ∃ settings : Settings, settings.check = .ok () ∧ settings.hostname = some hostname

/-- Settings that can be used give a host name that can stand in the name of a file. -/
theorem Settings.Allows.usable {hostname : String} (allowed : Settings.Allows hostname) :
    isUsableHostname hostname = true := by
  obtain ⟨settings, accepted, named⟩ := allowed
  have usable : settings.Usable := check_eq_ok_iff.mp accepted
  exact isUsableHostname_iff.mpr (usable.hostname hostname named)

theorem Settings.Allows.slashless {hostname : String} (allowed : Settings.Allows hostname) :
    '/' ∉ hostname.toList :=
  (isUsableHostname_iff.mp allowed.usable).2

/-! ### Names of metrics -/

namespace Route

/-- What the ids of a routable name hold. -/
structure PlainIds (route : Route) : Prop where
  letter : ∃ rest, route.application.text.toList = 'a' :: rest
  dotless : '.' ∉ route.application.text.toList
  slashless : '/' ∉ route.executor.text.toList

theorem plainIds_of_ofName? {name : String} {route : Route} (routed : ofName? name = some route) :
    PlainIds route := by
  obtain ⟨application, executor, rest, ids, _, _, rfl⟩ :=
    names_iff.mp (ofName?_eq_some_iff_names.mp routed)
  obtain ⟨behind, begins⟩ := ids.marked
  obtain ⟨n, numeral, _⟩ := ids.numeral
  exact ⟨⟨_, begins.symm⟩, ids.dotless, numeral.notMem (by decide)⟩

end Route

/-! ### The path of a file -/

namespace Journal

/-- The name of the file of a stream. -/
def fileName (hostname : String) (executor : ExecutorId) : String :=
  hostname ++ "_" ++ executor.text ++ ".json"

/-- The path from the directory of a journal to the directory of the files of an application. -/
def folders (application : ApplicationId) : List Path.Component :=
  Path.named application.text.toList

variable {hostname : String} {route : Route}

/-- The application id begins with a name, so it is joined to the directory. -/
theorem application_begins (plain : route.PlainIds) :
    (Path.mk route.application.text).BeginsWithName := by
  obtain ⟨rest, begins⟩ := plain.letter
  obtain ⟨piece, others, parts⟩ := Path.pieces_cons (show 'a' ≠ '/' by decide) rest
  rw [← begins] at parts
  exact Path.beginsWithName parts (List.cons_ne_nil _ _) (by simp)

theorem fileName_toList (hostname : String) (executor : ExecutorId) :
    (fileName hostname executor).toList =
      hostname.toList ++ '_' :: (executor.text.toList ++ ['.', 'j', 's', 'o', 'n']) := by
  simp [fileName]

theorem slash_notMem_fileName (allowed : Settings.Allows hostname) (plain : route.PlainIds) :
    '/' ∉ (fileName hostname route.executor).toList := by
  rw [fileName_toList]
  simp [allowed.slashless, plain.slashless]

/-- A text with an underscore is no dot or two, and not empty. -/
theorem solid_of_underscore {text : List Char} (holds : '_' ∈ text) :
    text ≠ [] ∧ text ≠ ['.'] ∧ text ≠ ['.', '.'] := by
  refine ⟨?_, ?_, ?_⟩ <;>
    · rintro rfl
      exact absurd holds (by decide)

theorem underscore_mem_fileName (hostname : String) (executor : ExecutorId) :
    '_' ∈ (fileName hostname executor).toList := by
  rw [fileName_toList]
  exact List.mem_append_right _ List.mem_cons_self

/-- A file is one name. -/
theorem named_fileName (allowed : Settings.Allows hostname) (plain : route.PlainIds) :
    Path.named (fileName hostname route.executor).toList =
      [.name (fileName hostname route.executor).toList] := by
  obtain ⟨solid, here, up⟩ := solid_of_underscore (underscore_mem_fileName hostname route.executor)
  exact Path.named_of_slashless (slash_notMem_fileName allowed plain) solid here up

/-- The name of a file begins with a name, so it is joined to the directory. -/
theorem fileName_begins (allowed : Settings.Allows hostname) (plain : route.PlainIds) :
    (Path.mk (fileName hostname route.executor)).BeginsWithName := by
  obtain ⟨solid, here, _⟩ := solid_of_underscore (underscore_mem_fileName hostname route.executor)
  have parts : (fileName hostname route.executor).toList.splitOn '/' =
      [(fileName hostname route.executor).toList] :=
    List.splitOn_eq_singleton (slash_notMem_fileName allowed plain)
  exact Path.beginsWithName parts solid here

/-- **The components of the file of a stream** are those of the directory, the folders of its
application and one name. -/
theorem components_logPath (directory : Path) (allowed : Settings.Allows hostname)
    (plain : route.PlainIds) :
    (logPath directory (.of route.application route.executor hostname)).components =
      directory.components ++ folders route.application ++
        [.name (fileName hostname route.executor).toList] := by
  show ((directory.join ⟨route.application.text⟩).join
    ⟨fileName hostname route.executor⟩).components = _
  rw [Path.components_join _ (fileName_begins allowed plain),
    Path.components_join _ (application_begins plain), named_fileName allowed plain]
  rfl

/-- The folders of an application are names without dots, and there is one. -/
theorem folders_plain (plain : route.PlainIds) :
    folders route.application ≠ [] ∧ ∀ folder ∈ folders route.application,
      ∃ text, folder = .name text ∧ text ≠ [] ∧ '.' ∉ text ∧ '/' ∉ text := by
  refine ⟨?_, fun folder member => Path.mem_named_of_dotless plain.dotless member⟩
  obtain ⟨rest, begins⟩ := plain.letter
  unfold folders
  rw [begins]
  exact Path.named_ne_nil (by decide) rest

/-- **The file of a stream is no directory on the way to the file of another one.** The name of a
file holds a dot, and the folders of an application hold none. -/
theorem not_isAbove (directory : Path) (allowed : Settings.Allows hostname)
    (plain : route.PlainIds) {otherHostname : String} {otherRoute : Route}
    (otherAllowed : Settings.Allows otherHostname) (otherPlain : otherRoute.PlainIds) :
    ¬ (logPath directory (.of route.application route.executor hostname)).IsAbove
      (logPath directory (.of otherRoute.application otherRoute.executor otherHostname)) := by
  rintro ⟨before, different⟩
  rw [components_logPath directory allowed plain,
    components_logPath directory otherAllowed otherPlain] at before different
  rw [List.append_assoc, List.append_assoc, List.prefix_append_right_inj,
    List.prefix_concat_iff] at before
  rcases before with same | inside
  · rw [List.append_assoc, List.append_assoc, same] at different
    exact different rfl
  · obtain ⟨text, named, _, dotless, _⟩ := (folders_plain otherPlain).2 _
      (inside.subset (List.mem_append_right _ (List.mem_singleton_self _)))
    rw [Path.Component.name.injEq] at named
    rw [← named, fileName_toList] at dotless
    exact dotless (by simp)

/-- **Log files stay below their directory, and none of them is in the way of another one.** For
every directory, every host name that settings may give and every routable name:

* the path of the file is that of the directory, followed by at least one folder and by the name of
  the file, which is made of the host name and the executor. The folders are names without dots, and
  no name holds a slash;
* neither of the joined paths is absolute, so the path begins with that of the directory, which is
  above it;
* it is no directory on the way to the file of another stream. -/
theorem logs_stay_below_directory (directory : Path) {hostname : String}
    (allowed : Settings.Allows hostname) {name : String} {route : Route}
    (routed : Route.ofName? name = some route) :
    let path := logPath directory (.of route.application route.executor hostname)
    let file := fileName hostname route.executor
    (∃ folders : List Path.Component,
      path.components = directory.components ++ folders ++ [.name file.toList] ∧
      folders ≠ [] ∧ '/' ∉ file.toList ∧
      ∀ folder ∈ folders, ∃ text, folder = .name text ∧ text ≠ [] ∧ '.' ∉ text ∧ '/' ∉ text) ∧
    (Path.mk route.application.text).isAbsolute = false ∧ (Path.mk file).isAbsolute = false ∧
    directory.text.toList <+: path.text.toList ∧ directory.IsAbove path ∧
    ∀ (otherHostname otherName : String) (otherRoute : Route), Settings.Allows otherHostname →
      Route.ofName? otherName = some otherRoute →
      ¬ path.IsAbove
        (logPath directory (.of otherRoute.application otherRoute.executor otherHostname)) := by
  intro path file
  have plain := Route.plainIds_of_ofName? routed
  have application := application_begins plain
  have last := fileName_begins allowed plain
  have whole := components_logPath directory allowed plain
  obtain ⟨inhabited, every⟩ := folders_plain plain
  refine ⟨⟨folders route.application, whole, inhabited, slash_notMem_fileName allowed plain, every⟩,
    application.2, last.2, ?_, ⟨?_, ?_⟩, ?_⟩
  · exact (directory.text_join application).trans (Path.text_join _ last)
  · rw [whole, List.append_assoc]
    exact List.prefix_append _ _
  · rw [whole, List.append_assoc]
    exact fun same => absurd (List.self_eq_append_right.mp same) (by simp)
  · exact fun otherHostname otherName otherRoute otherAllowed otherRouted =>
      not_isAbove directory allowed plain otherAllowed (Route.plainIds_of_ofName? otherRouted)

/-- Two folders of an application whose id holds a slash, below a directory. -/
theorem log_of_nested_application :
    Settings.Allows "host" ∧
    Route.ofName? "app/x.1.pool.jobs" = some ⟨⟨"app/x"⟩, ⟨"1"⟩, ["jobs"]⟩ ∧
    (Path.mk "out").IsAbove (logPath ⟨"out"⟩ (.of ⟨"app/x"⟩ ⟨"1"⟩ "host")) := by
  have allowed : Settings.Allows "host" :=
    ⟨{ sink := .durableLog ⟨"out"⟩, hostname := some "host" }, rfl, rfl⟩
  have routed : Route.ofName? "app/x.1.pool.jobs" = some ⟨⟨"app/x"⟩, ⟨"1"⟩, ["jobs"]⟩ := by
    decide +kernel
  obtain ⟨_, _, _, _, above, _⟩ := logs_stay_below_directory ⟨"out"⟩ allowed routed
  exact ⟨allowed, routed, above⟩

end Journal

end MetricRelay
