/-
**Which streams share a file.**

The file of a stream is named for its host name and its executor, and these can be read off its
name. The application id is cut at its slashes instead, and empty names between slashes are no
folders. So two applications whose ids differ in such slashes only share their folders, and the
rows of both go to one file.

* `ApplicationId.folderNames`: the names between the slashes of an id, without the empty ones;
* `ApplicationId.IsTidy`: none of them is empty, so they determine the id.

Main statement: `Journal.files_are_shared_by_folders`.
-/

import MetricRelay.Proofs.Sink.Logged
import MetricRelay.Proofs.Sink.LogPath

namespace MetricRelay

namespace ApplicationId

/-- The names between the slashes of an id. -/
def folderNames (application : ApplicationId) : List (List Char) :=
  (application.text.toList.splitOn '/').filter (· ≠ [])

/-- No name between the slashes is empty: no slash stands at the end or behind another one. -/
def IsTidy (application : ApplicationId) : Prop :=
  [] ∉ application.text.toList.splitOn '/'

instance (application : ApplicationId) : Decidable application.IsTidy :=
  inferInstanceAs (Decidable ([] ∉ application.text.toList.splitOn '/'))

/-- A tidy id is determined by its folders. -/
theorem eq_of_folderNames {application other : ApplicationId} (tidy : application.IsTidy)
    (otherTidy : other.IsTidy) (same : application.folderNames = other.folderNames) :
    application = other := by
  have whole {application : ApplicationId} (tidy : application.IsTidy) :
      ['/'].intercalate application.folderNames = application.text.toList := by
    have every : application.folderNames = application.text.toList.splitOn '/' := by
      refine List.filter_eq_self.mpr fun piece member => decide_eq_true fun empty => ?_
      exact tidy (empty ▸ member)
    rw [every, List.intercalate_splitOn]
  have texts : application.text.toList = other.text.toList := by
    rw [← whole tidy, same, whole otherTidy]
  exact congrArg ApplicationId.mk (String.toList_injective texts)

end ApplicationId

namespace Journal

variable {hostname otherHostname : String} {route otherRoute : Route}

/-- The folders of an application, if its id holds no dots. -/
theorem folders_eq {application : ApplicationId} (dotless : '.' ∉ application.text.toList) :
    folders application = application.folderNames.map Path.Component.name := by
  unfold folders Path.named ApplicationId.folderNames
  rw [← List.filterMap_eq_map, List.filterMap_filter]
  refine List.filterMap_congr fun piece member => ?_
  have free : '.' ∉ piece := fun dot => dotless ((mem_of_mem_splitOn member).2 dot)
  by_cases empty : piece = []
  · simp [empty, Path.component?]
  · have here : piece ≠ ['.'] := fun same => free (by simp [same])
    have up : piece ≠ ['.', '.'] := fun same => free (by simp [same])
    simp [empty, here, up, Path.component?]

/-- The name of a file determines its host tag. -/
theorem tag_of_fileName {executor otherExecutor : ExecutorId}
    (same : (fileName hostname executor).toList = (fileName otherHostname otherExecutor).toList) :
    HostTag.of hostname executor = HostTag.of otherHostname otherExecutor := by
  have tags : (HostTag.of hostname executor).text ++ ".json" =
      (HostTag.of otherHostname otherExecutor).text ++ ".json" := String.toList_injective same
  exact congrArg HostTag.mk (String.append_left_inj ".json" |>.mp tags)

/-- **Two streams share a file exactly if they have the same host name, the same executor and the
same folders.** -/
theorem same_logPath_iff (directory : Path) (allowed : Settings.Allows hostname)
    (otherAllowed : Settings.Allows otherHostname) {name otherName : String}
    (routed : Route.ofName? name = some route)
    (otherRouted : Route.ofName? otherName = some otherRoute) :
    (logPath directory (.of route.application route.executor hostname)).same
        (logPath directory (.of otherRoute.application otherRoute.executor otherHostname)) = true ↔
      hostname = otherHostname ∧ route.executor = otherRoute.executor ∧
        route.application.folderNames = otherRoute.application.folderNames := by
  have plain := Route.plainIds_of_ofName? routed
  have otherPlain := Route.plainIds_of_ofName? otherRouted
  unfold Path.same
  rw [beq_iff_eq, components_logPath directory allowed plain,
    components_logPath directory otherAllowed otherPlain, folders_eq plain.dotless,
    folders_eq otherPlain.dotless, List.append_assoc, List.append_assoc, List.append_cancel_left_eq]
  constructor
  · intro same
    obtain ⟨folders, files⟩ := List.append_inj' same rfl
    obtain ⟨_, _, _, _, _, parsed, _⟩ := Route.ofName?_eq_some_iff.mp routed
    obtain ⟨_, _, _, _, _, otherParsed, _⟩ := Route.ofName?_eq_some_iff.mp otherRouted
    have tags := tag_of_fileName (Path.Component.name.inj (List.singleton_inj.mp files))
    obtain ⟨hostnames, executors⟩ := HostTag.of_injective parsed otherParsed tags
    exact ⟨hostnames, executors, List.map_injective_iff.mpr (fun _ _ => Path.Component.name.inj) folders⟩
  · rintro ⟨rfl, executor, folders⟩
    rw [executor, folders]

/-- **Log files are shared by folders, not by applications.** For every directory, any two host names
that settings may give and any two routable names:

* the two streams have the same file exactly if they have the same host name, the same executor as
  it is spelled, and application ids with the same folders;
* so two streams with tidy application ids have the same file exactly if they are the same stream of
  the same host. -/
theorem files_are_shared_by_folders (directory : Path) (allowed : Settings.Allows hostname)
    (otherAllowed : Settings.Allows otherHostname) {name otherName : String}
    (routed : Route.ofName? name = some route)
    (otherRouted : Route.ofName? otherName = some otherRoute) :
    let path := logPath directory (.of route.application route.executor hostname)
    let otherPath :=
      logPath directory (.of otherRoute.application otherRoute.executor otherHostname)
    (path.same otherPath = true ↔ hostname = otherHostname ∧
      route.executor = otherRoute.executor ∧
      route.application.folderNames = otherRoute.application.folderNames) ∧
    (route.application.IsTidy → otherRoute.application.IsTidy →
      (path.same otherPath = true ↔
        hostname = otherHostname ∧ route.sameStream otherRoute = true)) := by
  intro path otherPath
  have shared := same_logPath_iff directory allowed otherAllowed routed otherRouted
  refine ⟨shared, fun tidy otherTidy => shared.trans (and_congr_right fun _ => ?_)⟩
  rw [Route.sameStream, Bool.and_eq_true, beq_iff_eq, beq_iff_eq, and_comm]
  refine and_congr_left fun _ => ⟨ApplicationId.eq_of_folderNames tidy otherTidy, fun same => ?_⟩
  rw [same]

/-- Two ids with the same folders, one with a slash more. -/
theorem folders_behind_two_slashes :
    let path := logPath ⟨"out"⟩ (.of ⟨"app/x"⟩ ⟨"+1"⟩ "host")
    let otherPath := logPath ⟨"out"⟩ (.of ⟨"app//x"⟩ ⟨"+1"⟩ "host")
    Settings.Allows "host" ∧
    Route.ofName? "app/x.+1.pool.jobs" = some ⟨⟨"app/x"⟩, ⟨"+1"⟩, ["jobs"]⟩ ∧
    Route.ofName? "app//x.+1.pool.jobs" = some ⟨⟨"app//x"⟩, ⟨"+1"⟩, ["jobs"]⟩ ∧
    path.same otherPath = true := by
  intro path otherPath
  have allowed : Settings.Allows "host" :=
    ⟨{ sink := .durableLog ⟨"out"⟩, hostname := some "host" }, rfl, rfl⟩
  have routed : Route.ofName? "app/x.+1.pool.jobs" = some ⟨⟨"app/x"⟩, ⟨"+1"⟩, ["jobs"]⟩ := by
    decide +kernel
  have otherRouted : Route.ofName? "app//x.+1.pool.jobs" =
      some ⟨⟨"app//x"⟩, ⟨"+1"⟩, ["jobs"]⟩ := by
    decide +kernel
  have shared := files_are_shared_by_folders ⟨"out"⟩ allowed allowed routed otherRouted
  exact ⟨allowed, routed, otherRouted, shared.1.mpr ⟨rfl, rfl, by decide +kernel⟩⟩

/-- **Two applications can share a file.** A slash at the end of an id leads to no other path, and
the rows of two streams follow each other in one file. -/
theorem slash_at_end_shares_the_file :
    let stream := StreamKey.of ⟨"app-1"⟩ ⟨"3"⟩ "worker"
    let other := StreamKey.of ⟨"app-1/"⟩ ⟨"3"⟩ "worker"
    let route : Route := ⟨⟨"app-1"⟩, ⟨"3"⟩, ["v"]⟩
    let otherRoute : Route := ⟨⟨"app-1/"⟩, ⟨"3"⟩, ["v"]⟩
    Settings.Allows "worker" ∧
    Route.ofName? "app-1.3.src.v" = some route ∧ Route.ofName? "app-1/.3.src.v" = some otherRoute ∧
    route.sameStream otherRoute = false ∧
    logPath ⟨"out"⟩ stream = logPath ⟨"out"⟩ other ∧
    (SinkCall.performAll [.opened stream, .emitted "first", .closed, .opened other,
        .emitted "second", .closed] ({ directory := ⟨"out"⟩, disk := {} } : Journal)).disk.read?
      ⟨"out/app-1/worker_3.json"⟩ = some "first\nsecond\n".toUTF8 := by
  have allowed : Settings.Allows "worker" :=
    ⟨{ sink := .durableLog ⟨"out"⟩, hostname := some "worker" }, rfl, rfl⟩
  exact ⟨allowed, by decide +kernel, by decide +kernel, by decide +kernel, by decide +kernel,
    by decide +kernel⟩

end Journal

end MetricRelay
