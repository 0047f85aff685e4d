/-
**Which streams share a client id.**

A client id joins an application id, a host name and an executor id by dashes, and each of the three
may hold dashes itself: application ids and host names anywhere, executor ids as a sign. So a client
id can be cut at another dash than it was joined at.

* `Publisher.origin`: what stands in front of the executor;
* `Publisher.clientId_eq_iff`: equal client ids have the same origin and the same executor, unless
  the minus of one executor is the end of the other host name;
* `Publisher.origin_eq_iff`: equal origins have the same parts, unless a part of one application id
  is the beginning of the other host name.

Main statement: `Publisher.client_ids_are_shared_by_dashes`.
-/

import MetricRelay.Proofs.Sink.Logged
import MetricRelay.Proofs.Sink.LogPath
import MetricRelay.Sink.Publisher

namespace MetricRelay

/-! ### Dashes -/

/-- Two texts that are joined by a dash: a joined text is that of another pair only if a part was
moved over the dash. -/
theorem append_dash_eq_iff {front back otherFront otherBack : List Char} :
    front ++ '-' :: back = otherFront ++ '-' :: otherBack ↔
      (front = otherFront ∧ back = otherBack) ∨
      (∃ part, otherFront = front ++ '-' :: part ∧ back = part ++ '-' :: otherBack) ∨
      ∃ part, front = otherFront ++ '-' :: part ∧ otherBack = part ++ '-' :: back := by
  constructor
  · intro same
    rcases List.append_eq_append_iff.mp same with ⟨moved, longer, rest⟩ | ⟨moved, longer, rest⟩
    · cases moved with
      | nil => exact .inl ⟨by rw [longer, List.append_nil], (List.cons.inj rest).2⟩
      | cons dash part =>
        obtain ⟨rfl, back⟩ := List.cons.inj rest
        exact .inr (.inl ⟨part, longer, back⟩)
    · cases moved with
      | nil => exact .inl ⟨by rw [longer, List.append_nil], (List.cons.inj rest).2.symm⟩
      | cons dash part =>
        obtain ⟨rfl, back⟩ := List.cons.inj rest
        exact .inr (.inr ⟨part, longer, back⟩)
  · rintro (⟨rfl, rfl⟩ | ⟨part, rfl, rfl⟩ | ⟨part, rfl, rfl⟩)
    · rfl
    · rw [List.append_assoc, List.cons_append]
    · rw [List.append_assoc, List.cons_append]

theorem dashed_toList (front back : String) :
    (front ++ "-" ++ back).toList = front.toList ++ '-' :: back.toList := by
  rw [String.toList_append, String.toList_append, List.append_assoc]
  rfl

/-- A numeral holds no dash, or one in front of the others. -/
theorem Text.Numeral.dash {text : List Char} {n : Int} (numeral : Text.Numeral text n) :
    '-' ∉ text ∨ ∃ rest, text = '-' :: rest ∧ '-' ∉ rest := by
  have free (digits : List (Fin 10)) : '-' ∉ Text.spelled digits := by
    intro member
    have digit := List.all_eq_true.mp (Text.all_isDigit_spelled digits) '-' member
    cases digit
  cases numeral with
  | @unsigned digits => exact .inl (free digits)
  | @plus digits =>
    left
    intro member
    exact (List.mem_cons.mp member).elim (by decide) (free digits)
  | @minus digits => exact .inr ⟨_, rfl, free digits⟩

namespace Publisher

variable {stream other : StreamKey}

/-- What stands in front of the executor in a client id. -/
def origin (stream : StreamKey) : String :=
  stream.application.text ++ "-" ++ stream.hostname

theorem clientId_toList (stream : StreamKey) :
    (clientId stream).toList = (origin stream).toList ++ '-' :: stream.executor.text.toList :=
  dashed_toList (origin stream) stream.executor.text

/-- **Equal client ids.** The executors are the same, or one of them has a minus more, which is read
as the end of the other host name. -/
theorem clientId_eq_iff {text otherText : String}
    (parsed : ExecutorId.parse? text = some stream.executor)
    (otherParsed : ExecutorId.parse? otherText = some other.executor) :
    clientId stream = clientId other ↔
      (origin stream = origin other ∧ stream.executor.text = other.executor.text) ∨
      (origin stream ++ "-" = origin other ∧ stream.executor.text = "-" ++ other.executor.text) ∨
      (origin stream = origin other ++ "-" ∧ "-" ++ stream.executor.text = other.executor.text) := by
  obtain ⟨own, _, numeral, _⟩ := ExecutorId.parse?_eq_some_iff.mp parsed
  obtain ⟨otherOwn, _, otherNumeral, _⟩ := ExecutorId.parse?_eq_some_iff.mp otherParsed
  simp only [← String.toList_inj, String.toList_append, clientId_toList]
  rw [own, otherOwn]
  generalize text.toList = executor at numeral
  generalize otherText.toList = otherExecutor at otherNumeral
  generalize (origin stream).toList = front
  generalize (origin other).toList = otherFront
  show _ ↔ _ ∨ (front ++ ['-'] = otherFront ∧ executor = '-' :: otherExecutor) ∨
    (front = otherFront ++ ['-'] ∧ '-' :: executor = otherExecutor)
  constructor
  · intro same
    rcases numeral.dash with free | ⟨rest, rfl, free⟩ <;>
      rcases otherNumeral.dash with otherFree | ⟨otherRest, rfl, otherFree⟩
    · exact .inl (eq_of_append_cons free otherFree same)
    · -- The minus of the other executor is the dash in front of it.
      have joined : front ++ '-' :: executor = (otherFront ++ ['-']) ++ '-' :: otherRest := by
        rw [same, List.append_assoc, List.singleton_append]
      obtain ⟨origins, executors⟩ := eq_of_append_cons free otherFree joined
      exact .inr (.inr ⟨origins, by rw [executors]⟩)
    · have joined : (front ++ ['-']) ++ '-' :: rest = otherFront ++ '-' :: otherExecutor := by
        rw [← same, List.append_assoc, List.singleton_append]
      obtain ⟨origins, executors⟩ := eq_of_append_cons free otherFree joined
      exact .inr (.inl ⟨origins, by rw [executors]⟩)
    · have joined :
          (front ++ ['-']) ++ '-' :: rest = (otherFront ++ ['-']) ++ '-' :: otherRest := by
        rw [List.append_assoc, List.append_assoc]
        exact same
      obtain ⟨origins, executors⟩ := eq_of_append_cons free otherFree joined
      exact .inl ⟨List.append_cancel_right origins, by rw [executors]⟩
  · rintro (⟨rfl, rfl⟩ | ⟨rfl, rfl⟩ | ⟨rfl, rfl⟩)
    · rfl
    · rw [List.append_assoc, List.singleton_append]
    · rw [List.append_assoc, List.singleton_append]

/-- **Equal origins.** The application ids and the host names are the same, or the end of one
application id behind a dash is read as the beginning of the other host name. -/
theorem origin_eq_iff :
    origin stream = origin other ↔
      (stream.application.text = other.application.text ∧ stream.hostname = other.hostname) ∨
      (∃ part, other.application.text = stream.application.text ++ "-" ++ part ∧
        stream.hostname = part ++ "-" ++ other.hostname) ∨
      ∃ part, stream.application.text = other.application.text ++ "-" ++ part ∧
        other.hostname = part ++ "-" ++ stream.hostname := by
  have parts (condition : List Char → Prop) :
      (∃ part : String, condition part.toList) ↔ ∃ part, condition part :=
    ⟨fun ⟨part, holds⟩ => ⟨part.toList, holds⟩,
      fun ⟨part, holds⟩ => ⟨String.ofList part, by rwa [String.toList_ofList]⟩⟩
  simp only [← String.toList_inj, origin, dashed_toList]
  rw [append_dash_eq_iff, parts fun part => _ = _ ++ '-' :: part ∧ _ = part ++ _,
    parts fun part => _ = _ ++ '-' :: part ∧ _ = part ++ _]

/-- Without dashes in the host names a client id can only be cut where it was joined. -/
theorem eq_of_clientId_eq {text otherText : String}
    (parsed : ExecutorId.parse? text = some stream.executor)
    (otherParsed : ExecutorId.parse? otherText = some other.executor)
    (filled : stream.hostname ≠ "") (otherFilled : other.hostname ≠ "")
    (plain : '-' ∉ stream.hostname.toList) (otherPlain : '-' ∉ other.hostname.toList)
    (same : clientId stream = clientId other) :
    stream.application = other.application ∧ stream.hostname = other.hostname ∧
      stream.executor = other.executor := by
  -- A host name without dashes is no end of an origin that has a dash more.
  have ended {first later : StreamKey} (filled : later.hostname ≠ "")
      (plain : '-' ∉ later.hostname.toList) : origin first ++ "-" ≠ origin later := by
    intro longer
    have ends : (origin later).toList.getLast? = some '-' := by
      rw [← longer, String.toList_append]
      exact List.getLast?_concat
    have solid : later.hostname.toList ≠ [] := fun empty => filled (String.toList_injective empty)
    rw [origin, dashed_toList, List.getLast?_append_cons,
      List.getLast?_cons_of_ne_nil solid] at ends
    exact plain (List.mem_of_getLast? ends)
  have held (part hostname : String) : '-' ∈ (part ++ "-" ++ hostname).toList := by
    rw [dashed_toList]
    simp
  rcases (clientId_eq_iff parsed otherParsed).mp same with ⟨origins, executors⟩ | ⟨longer, _⟩ |
    ⟨shorter, _⟩
  · rcases origin_eq_iff.mp origins with ⟨applications, hostnames⟩ | ⟨part, _, moved⟩ |
      ⟨part, _, moved⟩
    · exact ⟨congrArg ApplicationId.mk applications, hostnames, congrArg ExecutorId.mk executors⟩
    · exact absurd (moved ▸ held part other.hostname) plain
    · exact absurd (moved ▸ held part stream.hostname) otherPlain
  · exact absurd longer (ended otherFilled otherPlain)
  · exact absurd shorter.symm (ended filled plain)

end Publisher

/-- A host name that settings may give is not empty. -/
theorem Settings.Allows.filled {hostname : String} (allowed : Settings.Allows hostname) :
    hostname ≠ "" := by
  rintro rfl
  have usable := allowed.usable
  revert usable
  decide

namespace Publisher

/-- **Client ids are shared by dashes.** For any two host names that settings may give, any two
routable names and any two publishers that connect for their streams:

* the client ids are equal exactly if application id and host name are joined to the same text and
  the executors are spelled the same, or one text has a dash more at its end and the other executor
  a minus more in front;
* two such texts are equal exactly if the application ids and the host names are, or if one
  application id goes on with a dash and a part, and the other host name begins with that part and a
  dash;
* so if the host names hold no dash, equal client ids are those of one application, one host name and
  one executor. -/
theorem client_ids_are_shared_by_dashes {hostname otherHostname name otherName : String}
    {route otherRoute : Route} (allowed : Settings.Allows hostname)
    (otherAllowed : Settings.Allows otherHostname) (routed : Route.ofName? name = some route)
    (otherRouted : Route.ofName? otherName = some otherRoute) (publisher otherPublisher : Publisher) :
    let stream := StreamKey.of route.application route.executor hostname
    let other := StreamKey.of otherRoute.application otherRoute.executor otherHostname
    let id := (publisher.connection stream).clientId
    let otherId := (otherPublisher.connection other).clientId
    (id = otherId ↔
      (origin stream = origin other ∧ route.executor.text = otherRoute.executor.text) ∨
      (origin stream ++ "-" = origin other ∧
        route.executor.text = "-" ++ otherRoute.executor.text) ∨
      (origin stream = origin other ++ "-" ∧
        "-" ++ route.executor.text = otherRoute.executor.text)) ∧
    (origin stream = origin other ↔
      (route.application.text = otherRoute.application.text ∧ hostname = otherHostname) ∨
      (∃ part, otherRoute.application.text = route.application.text ++ "-" ++ part ∧
        hostname = part ++ "-" ++ otherHostname) ∨
      ∃ part, route.application.text = otherRoute.application.text ++ "-" ++ part ∧
        otherHostname = part ++ "-" ++ hostname) ∧
    ('-' ∉ hostname.toList → '-' ∉ otherHostname.toList →
      (id = otherId ↔ route.sameStream otherRoute = true ∧ hostname = otherHostname)) := by
  intro stream other id otherId
  obtain ⟨_, _, _, _, _, parsed, _⟩ := Route.ofName?_eq_some_iff.mp routed
  obtain ⟨_, _, _, _, _, otherParsed, _⟩ := Route.ofName?_eq_some_iff.mp otherRouted
  refine ⟨clientId_eq_iff parsed otherParsed, origin_eq_iff, fun plain otherPlain => ?_⟩
  rw [Route.sameStream, Bool.and_eq_true, beq_iff_eq, beq_iff_eq]
  constructor
  · intro same
    obtain ⟨application, hostnames, executor⟩ := eq_of_clientId_eq parsed otherParsed allowed.filled
      otherAllowed.filled plain otherPlain same
    exact ⟨⟨application, executor⟩, hostnames⟩
  · rintro ⟨⟨application, executor⟩, hostnames⟩
    show clientId stream = clientId other
    simp only [stream, other, application, executor, hostnames]

/-- The minus of an executor is the end of a host name, while plain host names are told apart. -/
theorem minus_ends_a_hostname :
    let publisher : Publisher := { host := "master", port := 1883, broker := {} }
    let below := StreamKey.of ⟨"app-1"⟩ ⟨"-3"⟩ "worker"
    let above := StreamKey.of ⟨"app-1"⟩ ⟨"3"⟩ "worker-"
    let aside := StreamKey.of ⟨"app-1"⟩ ⟨"3"⟩ "edge"
    Settings.Allows "worker" ∧ Settings.Allows "worker-" ∧ Settings.Allows "edge" ∧
    Route.ofName? "app-1.-3.src.v" = some ⟨⟨"app-1"⟩, ⟨"-3"⟩, ["v"]⟩ ∧
    Route.ofName? "app-1.3.src.v" = some ⟨⟨"app-1"⟩, ⟨"3"⟩, ["v"]⟩ ∧
    (publisher.connection below).clientId = (publisher.connection above).clientId ∧
    (publisher.connection below).clientId ≠ (publisher.connection aside).clientId := by
  intro publisher below above aside
  have worker : Settings.Allows "worker" :=
    ⟨{ sink := .durableLog ⟨"out"⟩, hostname := some "worker" }, rfl, rfl⟩
  have dashed : Settings.Allows "worker-" :=
    ⟨{ sink := .durableLog ⟨"out"⟩, hostname := some "worker-" }, rfl, rfl⟩
  have edge : Settings.Allows "edge" :=
    ⟨{ sink := .durableLog ⟨"out"⟩, hostname := some "edge" }, rfl, rfl⟩
  have negative : Route.ofName? "app-1.-3.src.v" = some ⟨⟨"app-1"⟩, ⟨"-3"⟩, ["v"]⟩ := by
    decide +kernel
  have positive : Route.ofName? "app-1.3.src.v" = some ⟨⟨"app-1"⟩, ⟨"3"⟩, ["v"]⟩ := by
    decide +kernel
  obtain ⟨shared, _, _⟩ := client_ids_are_shared_by_dashes worker dashed negative positive publisher
    publisher
  obtain ⟨_, _, identified⟩ := client_ids_are_shared_by_dashes worker edge negative positive publisher
    publisher
  refine ⟨worker, dashed, edge, negative, positive, shared.mpr (.inr (.inl ⟨rfl, rfl⟩)), ?_⟩
  intro same
  obtain ⟨_, hostnames⟩ := (identified (by decide) (by decide)).mp same
  revert hostnames
  decide

/-- **Two streams can have one client id.** The end of an application id is read as the beginning of
a host name, and one broker sees the same client for both. -/
theorem part_of_application_begins_hostname :
    let stream := StreamKey.of ⟨"app-1"⟩ ⟨"3"⟩ "worker"
    let other := StreamKey.of ⟨"app"⟩ ⟨"3"⟩ "1-worker"
    let publisher : Publisher := { host := "master", port := 1883, broker := {} }
    Settings.Allows "worker" ∧ Settings.Allows "1-worker" ∧
    Route.ofName? "app-1.3.src.v" = some ⟨⟨"app-1"⟩, ⟨"3"⟩, ["v"]⟩ ∧
    Route.ofName? "app.3.src.v" = some ⟨⟨"app"⟩, ⟨"3"⟩, ["v"]⟩ ∧
    stream.application ≠ other.application ∧ stream.hostname ≠ other.hostname ∧
    clientId stream = clientId other ∧
    (SinkCall.performAll [.opened stream, .closed, .opened other] publisher).broker.connections.map
      Connection.clientId = ["app-1-worker-3", "app-1-worker-3"] := by
  have worker : Settings.Allows "worker" :=
    ⟨{ sink := .durableLog ⟨"out"⟩, hostname := some "worker" }, rfl, rfl⟩
  have numbered : Settings.Allows "1-worker" :=
    ⟨{ sink := .durableLog ⟨"out"⟩, hostname := some "1-worker" }, rfl, rfl⟩
  exact ⟨worker, numbered, by decide +kernel, by decide +kernel, by decide +kernel,
    by decide +kernel, by decide +kernel, by decide +kernel⟩

end Publisher

end MetricRelay
