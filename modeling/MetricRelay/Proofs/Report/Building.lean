/-
**Only settings that can be used lead to a reporter.**

Settings are checked twice: when they are found, and when a reporter is built from them. The two
checks never disagree, and what they looked at stays as it was for as long as the reporter is in
use.

* `Outlet.target?`: where a sink delivers rows. No call changes it (`Outlet.targets_keep`);
* `SinkChoice.IsServed`: the machine has a broker, if the sink needs one;
* `Reporter.ofSettings_isOk_iff`, `Reporter.ofSettings_refusal`: what comes of building;
* `Batcher.Upholds`: what was checked holds of a batcher in use.

Main statement: `Reporter.only_usable_settings_run`.
-/

import MetricRelay.Proofs.Command.Delivery
import MetricRelay.Proofs.Report.Cycle
import MetricRelay.Proofs.Settings.Precedence
import MetricRelay.Proofs.Sink.Healthy

namespace MetricRelay

/-! ### Where a sink delivers -/

theorem Publisher.perform_address (call : SinkCall) (publisher : Publisher) :
    (call.perform publisher).2.host = publisher.host ∧
      (call.perform publisher).2.port = publisher.port := by
  cases call with
  | opened stream =>
    show (openStream stream publisher).2.host = _ ∧ (openStream stream publisher).2.port = _
    unfold openStream
    split
    · exact ⟨rfl, rfl⟩
    · split <;> exact ⟨rfl, rfl⟩
  | emitted line =>
    show (emit line publisher).2.host = _ ∧ (emit line publisher).2.port = _
    unfold emit
    split <;> exact ⟨rfl, rfl⟩
  | synced => exact ⟨rfl, rfl⟩
  | closed =>
    show (close publisher).2.host = _ ∧ (close publisher).2.port = _
    unfold close
    split <;> exact ⟨rfl, rfl⟩

namespace Outlet

/-- Where rows are delivered, as settings say it. -/
def target? : Outlet → Option SinkChoice
  | journal inner => some (.durableLog inner.directory)
  | publisher inner => some (.publish inner.host inner.port)
  | recorder _ => none

/-- **No call changes where rows are delivered.** -/
theorem targets_keep (target : Option SinkChoice) :
    Sink.Keeps fun outlet : Outlet => outlet.target? = target := by
  intro call outlet same
  rw [← same]
  cases outlet with
  | journal inner =>
    rw [perform_journal]
    show some (SinkChoice.durableLog (call.perform inner).2.directory) = _
    rw [Journal.perform_directory]
    rfl
  | publisher inner =>
    rw [perform_publisher]
    show some (SinkChoice.publish (call.perform inner).2.host (call.perform inner).2.port) = _
    rw [(Publisher.perform_address call inner).1, (Publisher.perform_address call inner).2]
    rfl
  | recorder inner =>
    rw [perform_recorder]
    rfl

end Outlet

/-! ### Building -/

/-- The machine has a broker, if the sink needs one. -/
def SinkChoice.IsServed (machine : Machine) : SinkChoice → Prop
  | durableLog _ => True
  | publish _ _ => machine.broker.isSome = true

theorem Outlet.ofChoice_of_isServed {machine : Machine} {choice : SinkChoice}
    (served : choice.IsServed machine) :
    ∃ sink, ofChoice machine choice = .ok sink ∧ sink.target? = some choice := by
  cases choice with
  | durableLog directory => exact ⟨_, rfl, rfl⟩
  | publish host port =>
    obtain ⟨broker, there⟩ := Option.isSome_iff_exists.mp served
    unfold ofChoice
    rw [there]
    exact ⟨_, rfl, rfl⟩

theorem Outlet.ofChoice_of_not_isServed {machine : Machine} {choice : SinkChoice}
    (unserved : ¬ choice.IsServed machine) :
    ∃ reason, ofChoice machine choice = .error (.settings reason) := by
  cases choice with
  | durableLog directory => exact absurd trivial unserved
  | publish host port =>
    have missing : machine.broker = none := Option.not_isSome_iff_eq_none.mp unserved
    unfold ofChoice
    rw [missing]
    exact ⟨_, rfl⟩

namespace Reporter

variable {settings : Settings} {machine : Machine}

/-- The filter of settings that can be used is there, since the patterns compile a second time. -/
theorem filterOf_of_usable (usable : settings.Usable) :
    ∃ filter, filterOf settings.filter = .ok filter := by
  obtain ⟨compiled, compiles⟩ := FilterPatterns.compiles_iff.mpr usable.patterns
  unfold filterOf Filter.ofPatterns
  rw [compiles]
  by_cases void : settings.filter.isEmpty = true
  · exact ⟨_, if_pos void⟩
  · exact ⟨_, if_neg void⟩

/-- **A reporter is built** from settings that can be used, where the machine serves them. -/
theorem ofSettings_usable (usable : settings.Usable) (served : settings.sink.IsServed machine) :
    ∃ reporter sink, ofSettings settings machine = .ok reporter ∧
      sink.target? = some settings.sink ∧
      reporter.batcher = .new sink (settings.hostnameOn machine.name) settings.syncEvery := by
  obtain ⟨sink, chosen, target⟩ := Outlet.ofChoice_of_isServed served
  obtain ⟨filter, filtered⟩ := filterOf_of_usable usable
  unfold ofSettings
  rw [Settings.check_eq_ok_iff.mpr usable, chosen, filtered]
  exact ⟨_, sink, rfl, target, rfl⟩

theorem ofSettings_unusable (unusable : ¬ settings.Usable) :
    ∃ reason, ofSettings settings machine = .error (.settings reason) := by
  unfold ofSettings
  cases checked : settings.check with
  | error error => exact ⟨_, rfl⟩
  | ok => exact absurd (Settings.check_eq_ok_iff.mp checked) unusable

theorem ofSettings_unserved (unserved : ¬ settings.sink.IsServed machine) :
    ∃ reason, ofSettings settings machine = .error (.settings reason) := by
  by_cases usable : settings.Usable
  · obtain ⟨reason, refused⟩ := Outlet.ofChoice_of_not_isServed unserved
    unfold ofSettings
    rw [Settings.check_eq_ok_iff.mpr usable, refused]
    exact ⟨_, rfl⟩
  · exact ofSettings_unusable usable

theorem ofSettings_isOk_iff : (∃ reporter, ofSettings settings machine = .ok reporter) ↔
    settings.Usable ∧ settings.sink.IsServed machine := by
  constructor
  · rintro ⟨reporter, built⟩
    refine ⟨by_contra fun unusable => ?_, by_contra fun unserved => ?_⟩
    · have refusal : ∃ reason, ofSettings settings machine = .error (.settings reason) :=
        ofSettings_unusable unusable
      obtain ⟨reason, refused⟩ := refusal
      rw [refused] at built
      cases built
    · obtain ⟨reason, refused⟩ := ofSettings_unserved unserved
      rw [refused] at built
      cases built
  · rintro ⟨usable, served⟩
    obtain ⟨reporter, _, built, _⟩ := ofSettings_usable usable served
    exact ⟨reporter, built⟩

/-- A reporter that is not built is refused for its settings, never for anything else. -/
theorem ofSettings_refusal {failure : Failure}
    (refused : ofSettings settings machine = .error failure) :
    ∃ reason, failure = .settings reason := by
  have unmet : ¬ (settings.Usable ∧ settings.sink.IsServed machine) := by
    rw [← ofSettings_isOk_iff]
    rintro ⟨reporter, built⟩
    rw [built] at refused
    cases refused
  have refusal : ∃ reason, ofSettings settings machine = .error (.settings reason) := by
    rcases not_and_or.mp unmet with unusable | unserved
    · exact ofSettings_unusable unusable
    · exact ofSettings_unserved unserved
  obtain ⟨reason, same⟩ := refusal
  rw [refused] at same
  exact ⟨reason, Except.error.inj same⟩

end Reporter

/-! ### In use -/

/-- The batcher works as the settings say, and what was checked of them holds of it. Its host name
can have a slash only if that is the name of the machine. -/
structure Batcher.Upholds (settings : Settings) (machine : Machine) (batcher : Batcher Outlet) :
    Prop where
  cadence : batcher.syncEvery = settings.syncEvery
  durable : batcher.syncEvery ≠ 0
  target : batcher.sink.target? = some settings.sink
  targeted : settings.sink.HasTarget
  hostname : batcher.hostname = settings.hostnameOn machine.name
  slashless : '/' ∈ batcher.hostname.toList →
    settings.hostname = none ∧ '/' ∈ machine.name.toList

namespace Reporter

variable {settings : Settings} {machine : Machine}

/-- Settings that can be used bring no slash into a host name. -/
theorem slash_of_hostnameOn (usable : settings.Usable)
    (slash : '/' ∈ (settings.hostnameOn machine.name).toList) :
    settings.hostname = none ∧ '/' ∈ machine.name.toList := by
  unfold Settings.hostnameOn at slash
  cases given : settings.hostname with
  | none =>
    rw [given, Option.getD_none] at slash
    split at slash
    · exact absurd slash (by decide)
    · exact ⟨rfl, slash⟩
  | some hostname =>
    rw [given] at slash
    exact absurd slash (usable.hostname hostname given).2

/-- **What was checked holds for as long as the reporter is in use.** -/
theorem upholds_of_live {reporter : Reporter Outlet}
    (built : ofSettings settings machine = .ok reporter) (requests : List Request) :
    (reporter.live requests).batcher.Upholds settings machine := by
  obtain ⟨usable, served⟩ := ofSettings_isOk_iff.mp ⟨reporter, built⟩
  obtain ⟨same, sink, builtSame, target, new⟩ := ofSettings_usable usable served
  rw [built] at builtSame
  cases builtSame
  have consistent :=
    Batcher.new_consistent sink (settings.hostnameOn machine.name) settings.syncEvery
  obtain ⟨hostname, cadence⟩ := consistent.run_frame (reporter.asked requests)
  rw [← live_of_new new] at hostname cadence
  have positive : max settings.syncEvery 1 = settings.syncEvery := by
    have := usable.cadence
    omega
  have cadence : (reporter.live requests).batcher.syncEvery = settings.syncEvery :=
    cadence.trans positive
  refine ⟨cadence, cadence ▸ usable.cadence, ?_, usable.target, hostname, fun slash => ?_⟩
  · rw [live_of_new new]
    exact consistent.run_keeps (Outlet.targets_keep _) target _
  · rw [hostname] at slash
    exact slash_of_hostnameOn usable slash

/-- **Only settings that can be used lead to a reporter.** Of the places where settings may stand,
one is there first. What is found is what it says, if that can be used, and otherwise nothing is
found; two machines on which that place holds the same find the same.

The check passes exactly the settings that can be used, so everything found passes it, and a
reporter is built from settings exactly if they pass it and the machine serves their sink. A
reporter that is not built is refused for that: the patterns of settings that passed compile once
more. -/
theorem only_usable_settings_run :
    (∀ (disk : Disk) (standard : Settings) (explicit environment directory : Option Path),
      let found := Settings.resolve disk standard explicit environment directory
      ∃ source, Settings.Source.First disk explicit environment directory source ∧
        (∀ other, Settings.Source.First disk explicit environment directory other →
          other = source) ∧
        (∀ settings place, found = .ok (settings, place) ↔
          place = source ∧ source.Says disk standard settings ∧ settings.check = .ok ()) ∧
        ((∀ settings, source.Says disk standard settings → settings.check ≠ .ok ()) →
          ∃ error, found = .error error) ∧
        ∀ (otherDisk : Disk) (otherExplicit otherEnvironment otherDirectory : Option Path),
          Settings.Source.First otherDisk otherExplicit otherEnvironment otherDirectory source →
          (∀ path ∈ source.path?, otherDisk.read? path = disk.read? path) →
          Settings.resolve otherDisk standard otherExplicit otherEnvironment otherDirectory =
            found) ∧
    ∀ (settings : Settings) (machine : Machine),
      (settings.check = .ok () ↔ settings.Usable) ∧
      ((∃ reporter, ofSettings settings machine = .ok reporter) ↔
        settings.check = .ok () ∧ settings.sink.IsServed machine) ∧
      (settings.check = .ok () → ∃ filter, filterOf settings.filter = .ok filter) ∧
      (∀ failure, ofSettings settings machine = .error failure →
        ∃ reason, failure = .settings reason) ∧
      ∀ reporter, ofSettings settings machine = .ok reporter → ∀ requests : List Request,
        (reporter.live requests).batcher.Upholds settings machine := by
  refine ⟨fun disk standard explicit environment directory => ?_, fun settings machine => ?_⟩
  · have first := Settings.Source.first_source disk explicit environment directory
    refine ⟨_, first, fun other another => first.unique another, fun settings place => ?_,
      fun refused => ?_, fun _ _ _ _ otherFirst same =>
        Settings.resolve_congr first otherFirst same⟩
    · rw [Settings.check_eq_ok_iff]
      exact Settings.resolve_eq_ok_iff first
    · cases outcome : Settings.resolve disk standard explicit environment directory with
      | error error => exact ⟨error, rfl⟩
      | ok answer =>
        obtain ⟨_, stands, usable⟩ := (Settings.resolve_eq_ok_iff first).mp outcome
        exact absurd (Settings.check_eq_ok_iff.mpr usable) (refused answer.1 stands)
  · refine ⟨Settings.check_eq_ok_iff, ?_, fun checked => ?_,
      fun failure refused => ofSettings_refusal refused,
      fun reporter built requests => upholds_of_live built requests⟩
    · rw [Settings.check_eq_ok_iff]
      exact ofSettings_isOk_iff
    · exact filterOf_of_usable (Settings.check_eq_ok_iff.mp checked)

/-- Settings that name no host. -/
def unnamed : Settings := .standard ⟨"out"⟩

/-- A report of one counter, and a stop. -/
def oneCount : List Request :=
  [.report ⟨1000⟩ { counters := .ofList [("app.1.s.v", ⟨1⟩)] }, .stop]

/-- **A machine can bring a slash into a host name.** Only a name that is set is checked: without one
the settings pass, and on a machine that is called `a/b` their reporter goes by that name. Nothing
is checked of a reporter that is put together without settings, and its rows bear the slash. -/
theorem machine_can_bring_slash :
    unnamed.check = .ok () ∧
    ((ofSettings unnamed ⟨"a/b", {}, none⟩).toOption.map fun reporter =>
      (reporter.live oneCount).batcher.hostname) = some "a/b" ∧
    (live ({ batcher := .new {} "a/b" 20 } : Reporter Recorder) oneCount).batcher.sink.lines =
      ["\x7b\"timestamp\":1,\"values\":\x7b\"v\":1\x7d,\"host\":\"a/b_1\"\x7d"] :=
  ⟨by decide, by decide +kernel, by decide +kernel⟩

end Reporter

end MetricRelay
