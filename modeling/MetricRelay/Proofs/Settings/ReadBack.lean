/-
**Settings that are shown can be loaded.**

Settings are written and read by separate definitions. What is written is read as the same settings,
and of what is left out each member stands for its default, whatever else is left out.

* `Json.without`: a value without the members at some paths;
* `Settings.optionalPaths`: the members that have a default;
* `Settings.withDefaults`: settings with the defaults of the members that are left out;
* `Settings.ofDocument?_without`: what is read of settings without some members;
* `Settings.isJsonPath_of_fileName`: the files that hold JSON.

Main statement: `Settings.shown_settings_load_back`.
-/

import MetricRelay.Command.Run
import MetricRelay.Proofs.Json.Pretty
import MetricRelay.Proofs.Json.Records
import MetricRelay.Proofs.Settings.Precedence

namespace MetricRelay

/-! ### Members that are left out -/

namespace Json

mutual

/-- The value without the members at some paths. Arrays stay whole. -/
def without (gone : List String → Bool) : Json → Json
  | object members => object (withoutMembers gone members)
  | other => other

def withoutMembers (gone : List String → Bool) : List (String × Json) → List (String × Json)
  | [] => []
  | (key, value) :: rest =>
    if gone [key] then withoutMembers gone rest
    else (key, value.without fun path => gone (key :: path)) :: withoutMembers gone rest

end

mutual

/-- Nothing is left out. -/
theorem without_nothing : ∀ value : Json, value.without (fun _ => false) = value
  | .object members => by rw [without, withoutMembers_nothing members]
  | .null | .bool _ | .int _ | .float _ | .text _ | .array _ | .faulty => rfl

theorem withoutMembers_nothing : ∀ members : List (String × Json),
    withoutMembers (fun _ => false) members = members
  | [] => rfl
  | (key, value) :: rest => by
    rw [withoutMembers, if_neg Bool.false_ne_true, without_nothing value,
      withoutMembers_nothing rest]

end

mutual

/-- What is left of a value is read as it is written, if the whole value is. -/
theorem ReadsBack.without : ∀ {value : Json} (gone : List String → Bool), value.ReadsBack →
    (value.without gone).ReadsBack
  | .object members, gone, reads => by
    rw [ReadsBack, ReadsAs] at reads
    rw [Json.without, ReadsBack, ReadsAs]
    exact MembersReadBack.without gone reads
  | .null, _, reads | .bool _, _, reads | .int _, _, reads | .float _, _, reads
  | .text _, _, reads | .array _, _, reads | .faulty, _, reads => reads

theorem MembersReadBack.without : ∀ {members : List (String × Json)} (gone : List String → Bool),
    MembersReadBack members → MembersReadBack (withoutMembers gone members)
  | [], _, reads => reads
  | (key, value) :: rest, gone, reads => by
    rw [MembersReadBack, MembersReadAs] at reads
    rw [withoutMembers]
    split
    · exact MembersReadBack.without gone reads.2
    · rw [MembersReadBack, MembersReadAs]
      exact ⟨ReadsBack.without _ reads.1, MembersReadBack.without gone reads.2⟩

end

/-- No member is added. -/
theorem withoutMembers_names (gone : List String → Bool) (members : List (String × Json)) :
    ((withoutMembers gone members).map Prod.fst).Sublist (members.map Prod.fst) := by
  induction members with
  | nil => exact .slnil
  | cons member rest ih =>
    obtain ⟨key, value⟩ := member
    rw [withoutMembers]
    split
    · exact ih.cons key
    · exact ih.cons_cons key

/-- **A member is left out, or it is there without what is left out of it.** -/
theorem lookup_withoutMembers (gone : List String → Bool) (members : List (String × Json))
    (name : String) :
    (withoutMembers gone members).lookup name =
      if gone [name] then none
      else
        (members.lookup name).map fun value => value.without fun path => gone (name :: path) := by
  induction members with
  | nil => simp [withoutMembers]
  | cons member rest ih =>
    obtain ⟨key, value⟩ := member
    by_cases same : name = key
    · subst same
      rw [withoutMembers]
      by_cases out : gone [name] = true
      · rw [if_pos out, ih, if_pos out, if_pos out]
      · rw [if_neg out, if_neg out, List.lookup_cons_self, List.lookup_cons_self]
        rfl
    · have differs : (name == key) = false := beq_eq_false_iff_ne.mpr same
      have later : ((key, value) :: rest).lookup name = rest.lookup name := by
        rw [List.lookup_cons, differs]
      rw [withoutMembers, later, ← ih]
      split
      · rfl
      · rw [List.lookup_cons, differs]

theorem texts_readBack (texts : List String) : (array (texts.map text)).ReadsBack := by
  rw [ReadsBack, ReadsAs]
  induction texts with
  | nil => trivial
  | cons text rest ih =>
    rw [List.map_cons, ItemsReadAs, ReadsAs]
    exact ⟨trivial, ih⟩

end Json

/-! ### Members that are read -/

namespace Fields

variable {gone : List String → Bool} {members fields : List (String × Json)} {name : String}
  {β : Type} {read : Json → Option β} {default : β}

/-- The default stands for a member that is left out. -/
theorem optional_without (value : Json) (there : members.lookup name = some value)
    (found : fields.lookup name = (Json.withoutMembers gone members).lookup name) {result : β}
    (reads : read (value.without fun path => gone (name :: path)) = some result) :
    optional read fields name default = some (if gone [name] then default else result) := by
  unfold optional
  rw [found, Json.lookup_withoutMembers, there]
  by_cases out : gone [name] = true
  · simp only [if_pos out]
  · simp only [if_neg out]
    exact reads

/-- So it does for a member that was not there before. -/
theorem optional_absent (absent : members.lookup name = none)
    (found : fields.lookup name = (Json.withoutMembers gone members).lookup name) :
    optional read fields name default = some default := by
  unfold optional
  rw [found, Json.lookup_withoutMembers, absent, Option.map_none, ite_self]

end Fields

/-- The fields of what is left of an object. -/
theorem Document.fields?_without (names : List String) {members : List (String × Json)}
    (different : (members.map Prod.fst).Nodup) (gone : List String → Bool) :
    ∃ fields, fields? names ((Json.object members).without gone) = some fields ∧
      ∀ name ∈ names, fields.lookup name = (Json.withoutMembers gone members).lookup name :=
  Fields.known?_of_nodup names (different.sublist (Json.withoutMembers_names gone members))

theorem Document.natural?_int {bound n : Nat} (fits : n ≤ bound) :
    natural? bound (Json.int n) = some n := by
  show (if (0 : Int) ≤ n ∧ (n : Int) ≤ bound then some (n : Int).toNat else none) = some n
  rw [if_pos (by omega), Int.toNat_natCast]

theorem Document.texts?_array (texts : List String) :
    texts? (Json.array (texts.map Json.text)) = some texts := by
  show (texts.map Json.text).mapM Json.text? = some texts
  induction texts with
  | nil => rfl
  | cons text rest ih =>
    rw [List.map_cons, List.mapM_cons, ih]
    rfl

theorem TimeUnit.ofPlural?_plural (unit : TimeUnit) : ofPlural? unit.plural = some unit := by
  cases unit <;> decide

theorem ValueMode.ofName?_name (mode : ValueMode) : ofName? mode.name = some mode := by
  cases mode <;> rfl

/-- Settings that can be stored: a port has 16 bits, and the cadence 64. -/
structure Settings.Fits (settings : Settings) : Prop where
  port : ∀ host port, settings.sink = .publish host port → port ≤ 65535
  cadence : settings.syncEvery ≤ 18446744073709551615

/-! ### Parts of settings -/

namespace SinkChoice

/-- The sink with the defaults of the members that are left out. -/
def withDefaults (gone : List String → Bool) : SinkChoice → SinkChoice
  | durableLog directory => durableLog directory
  | publish host port => publish host (if gone ["port"] then 1883 else port)

/-- **What is left of a sink is read with its default port.** -/
theorem ofDocument?_without {sink : SinkChoice} {gone : List String → Bool}
    (fits : ∀ host port, sink = publish host port → port ≤ 65535)
    (optional : ∀ name, gone [name] = true → name = "port") :
    ofDocument? (sink.toJson.without gone) = some (sink.withDefaults gone) := by
  have kept (name : String) (other : name ≠ "port") : gone [name] = false :=
    Bool.eq_false_iff.mpr fun out => other (optional name out)
  cases sink with
  | durableLog directory =>
    have whole : (durableLog directory).toJson.without gone = (durableLog directory).toJson := by
      simp [toJson, Json.without, Json.withoutMembers, kept]
    rw [whole]
    rfl
  | publish host port =>
    have small := fits host port rfl
    by_cases out : gone ["port"] = true
    · have left : (publish host port).toJson.without gone =
          .object [("kind", .text "publish"), ("host", .text host)] := by
        simp [toJson, Json.without, Json.withoutMembers, kept, out]
      rw [left, withDefaults, if_pos out]
      rfl
    · have whole : (publish host port).toJson.without gone = (publish host port).toJson := by
        simp [toJson, Json.without, Json.withoutMembers, kept, out]
      rw [whole, withDefaults, if_neg out]
      show (Document.natural? 65535 (Json.int port)).bind (fun port => some (publish host port)) = _
      rw [Document.natural?_int small]
      rfl

end SinkChoice

namespace FilterPatterns

/-- The filter with the defaults of the members that are left out. -/
def withDefaults (gone : List String → Bool) (patterns : FilterPatterns) : FilterPatterns where
  wanted := if gone ["include"] then [] else patterns.wanted
  unwanted := if gone ["exclude"] then [] else patterns.unwanted

/-- **What is left of a filter is read without the patterns that are left out.** -/
theorem ofDocument?_without (patterns : FilterPatterns) (gone : List String → Bool) :
    ofDocument? (patterns.toJson.without gone) = some (patterns.withDefaults gone) := by
  have different : ([("include", Json.array (patterns.wanted.map Json.text)),
      ("exclude", Json.array (patterns.unwanted.map Json.text))].map Prod.fst).Nodup := by simp
  obtain ⟨fields, known, found⟩ :=
    Document.fields?_without ["include", "exclude"] different gone
  have wanted : Fields.optional Document.texts? fields "include" [] = _ :=
    Fields.optional_without (.array (patterns.wanted.map Json.text)) rfl (found _ (by decide))
      (Document.texts?_array patterns.wanted)
  have unwanted : Fields.optional Document.texts? fields "exclude" [] = _ :=
    Fields.optional_without (.array (patterns.unwanted.map Json.text)) rfl (found _ (by decide))
      (Document.texts?_array patterns.unwanted)
  unfold ofDocument? toJson
  rw [known, Option.bind_eq_bind, Option.bind_some, wanted, unwanted]
  rfl

end FilterPatterns

/-! ### Settings -/

namespace Settings

/-- The paths of the members that have a default. -/
def optionalPaths : List (List String) :=
  [["sink"], ["sink", "port"], ["rate_unit"], ["duration_unit"], ["filter"], ["filter", "include"],
    ["filter", "exclude"], ["value_mode"], ["sync_every"], ["hostname"]]

/-- The settings with the defaults of the members that are left out, where rows are kept in a
directory unless something else is said. -/
def withDefaults (gone : List String → Bool) (directory : Path) (settings : Settings) :
    Settings where
  sink :=
    if gone ["sink"] then .durableLog directory
    else settings.sink.withDefaults fun path => gone ("sink" :: path)
  units := {
    rate := if gone ["rate_unit"] then .seconds else settings.units.rate
    duration := if gone ["duration_unit"] then .milliseconds else settings.units.duration }
  filter :=
    if gone ["filter"] then {} else settings.filter.withDefaults fun path => gone ("filter" :: path)
  mode := if gone ["value_mode"] then .primary else settings.mode
  syncEvery := if gone ["sync_every"] then 20 else settings.syncEvery
  hostname := if gone ["hostname"] then none else settings.hostname

theorem withDefaults_nothing (directory : Path) (settings : Settings) :
    settings.withDefaults (fun _ => false) directory = settings := by
  obtain ⟨sink, units, filter, mode, syncEvery, hostname⟩ := settings
  cases sink <;> rfl

/-- The members that settings are written with. -/
def members (settings : Settings) : List (String × Json) :=
  [("sink", settings.sink.toJson), ("rate_unit", .text settings.units.rate.plural),
    ("duration_unit", .text settings.units.duration.plural), ("filter", settings.filter.toJson),
    ("value_mode", .text settings.mode.name), ("sync_every", .int settings.syncEvery)] ++
    (settings.hostname.map fun hostname => ("hostname", Json.text hostname)).toList

theorem toJson_eq (settings : Settings) : settings.toJson = .object settings.members := by
  unfold toJson members
  cases settings.hostname <;> rfl

/-- Each member stands there once. -/
theorem members_nodup (settings : Settings) : (settings.members.map Prod.fst).Nodup := by
  unfold members
  cases settings.hostname <;> simp

/-- **What is left of settings is read with the defaults of what is left out.** -/
theorem ofDocument?_without {settings : Settings} (fits : settings.Fits)
    {gone : List String → Bool} (optional : ∀ path, gone path = true → path ∈ optionalPaths)
    (directory : Path) :
    ofDocument? (standard directory) (settings.toJson.without gone) =
      some (settings.withDefaults gone directory) := by
  obtain ⟨fields, known, found⟩ := Document.fields?_without names settings.members_nodup gone
  have sinkReads : SinkChoice.ofDocument? (settings.sink.toJson.without fun path =>
      gone ("sink" :: path)) = _ :=
    SinkChoice.ofDocument?_without fits.port fun name out => by
      simpa [optionalPaths] using optional ["sink", name] out
  have sink : Fields.optional SinkChoice.ofDocument? fields "sink" (.durableLog directory) = _ :=
    Fields.optional_without settings.sink.toJson rfl (found _ (by decide)) sinkReads
  have rate : Fields.optional unit? fields "rate_unit" .seconds = _ :=
    Fields.optional_without (.text settings.units.rate.plural) rfl (found _ (by decide))
      (TimeUnit.ofPlural?_plural settings.units.rate)
  have duration : Fields.optional unit? fields "duration_unit" .milliseconds = _ :=
    Fields.optional_without (.text settings.units.duration.plural) rfl (found _ (by decide))
      (TimeUnit.ofPlural?_plural settings.units.duration)
  have filter : Fields.optional FilterPatterns.ofDocument? fields "filter" {} = _ :=
    Fields.optional_without settings.filter.toJson rfl (found _ (by decide))
      (FilterPatterns.ofDocument?_without settings.filter _)
  have mode : Fields.optional mode? fields "value_mode" .primary = _ :=
    Fields.optional_without (.text settings.mode.name) rfl (found _ (by decide))
      (ValueMode.ofName?_name settings.mode)
  have cadence :
      Fields.optional (Document.natural? 18446744073709551615) fields "sync_every" 20 = _ :=
    Fields.optional_without (.int settings.syncEvery) rfl (found _ (by decide))
      (Document.natural?_int fits.cadence)
  have hostname : Fields.optional Document.maybeText? fields "hostname" none =
      some (if gone ["hostname"] then none else settings.hostname) := by
    cases given : settings.hostname with
    | none =>
      rw [ite_self]
      refine Fields.optional_absent ?_ (found _ (by decide))
      rw [members, given]
      rfl
    | some hostname =>
      refine Fields.optional_without (.text hostname) ?_ (found _ (by decide)) rfl
      rw [members, given]
      rfl
  unfold ofDocument?
  rw [toJson_eq, known, Option.bind_eq_bind, Option.bind_some]
  simp only [standard, sink, rate, duration, filter, mode, cadence, hostname]
  rfl

/-! ### Files -/

/-- **Settings that can be stored are read as they are written.** -/
theorem toJson_readsBack {settings : Settings} (fits : settings.Fits) :
    settings.toJson.ReadsBack := by
  have sink : settings.sink.toJson.ReadsBack := by
    cases chosen : settings.sink with
    | durableLog directory => simp [SinkChoice.toJson, Json.ReadsAs, Json.MembersReadAs]
    | publish host port =>
      have small := fits.port host port chosen
      have read : (Json.int port).ReadsBack := Json.int_readsAs (by omega) (by omega)
      simp only [SinkChoice.toJson, Json.ReadsBack, Json.ReadsAs, Json.MembersReadAs, true_and,
        and_true]
      rw [← Json.ReadsAs]
      exact read
  have filter : settings.filter.toJson.ReadsBack := by
    rw [FilterPatterns.toJson, Json.ReadsBack, Json.ReadsAs]
    exact ⟨Json.texts_readBack _, Json.texts_readBack _, trivial⟩
  have cadence : (Json.int settings.syncEvery).ReadsBack :=
    Json.int_readsAs (by omega) (by have := fits.cadence; omega)
  rw [toJson_eq, members, Json.ReadsBack, Json.ReadsAs]
  cases settings.hostname with
  | none => exact ⟨sink, trivial, trivial, filter, trivial, cadence, trivial⟩
  | some hostname => exact ⟨sink, trivial, trivial, filter, trivial, cadence, trivial, trivial⟩

/-- **A file whose name ends in `.json`, in any letter case, holds JSON.** -/
theorem isJsonPath_of_fileName {path : Path} {stem ending : List Char}
    (name : path.fileName? = some (stem ++ '.' :: ending)) (named : stem ≠ [])
    (json : ending.map Char.toLower = ['j', 's', 'o', 'n']) : isJsonPath path = true := by
  have dotless : '.' ∉ ending := by
    intro dot
    have lowered : Char.toLower '.' ∈ ending.map Char.toLower := List.mem_map_of_mem dot
    rw [json] at lowered
    exact absurd lowered (by decide)
  have after : (stem ++ '.' :: ending).reverse.takeWhile (· != '.') = ending.reverse := by
    have letters : ∀ c ∈ ending.reverse, (c != '.') = true := by
      intro c member
      rw [bne_iff_ne]
      rintro rfl
      exact dotless (List.mem_reverse.mp member)
    rw [List.reverse_append, List.reverse_cons, List.append_assoc,
      List.takeWhile_append_of_pos letters]
    simp
  have before : (stem ++ '.' :: ending).dropLast.take
      ((stem ++ '.' :: ending).length - ending.reverse.length - 1) = stem := by
    have long : (stem ++ '.' :: ending).length - ending.reverse.length - 1 = stem.length := by
      simp only [List.length_append, List.length_cons, List.length_reverse]
      omega
    rw [long, List.dropLast_append_cons, List.take_left]
  have shorter : ending.reverse.length ≠ (stem ++ '.' :: ending).length := by
    simp only [List.length_append, List.length_cons, List.length_reverse]
    omega
  have extension : path.extension? = some ending := by
    unfold Path.extension?
    rw [name, Option.bind_eq_bind, Option.bind_some]
    simp only [after, before, shorter, List.isEmpty_iff, named, or_self, if_false,
      List.reverse_reverse]
  unfold isJsonPath
  rw [extension]
  exact beq_iff_eq.mpr json

theorem load_of_json {disk : Disk} {standard settings : Settings} {path : Path} {json : Json}
    {text : String} (isJson : isJsonPath path = true) (reads : json.ReadsBack)
    (prints : json.Prints text) (holds : disk.read? path = some text.toUTF8)
    (means : ofDocument? standard json = some settings) :
    load disk standard path = .ok settings := by
  refine load_eq_ok_iff.mpr ⟨text, holds, ?_⟩
  unfold ofText? ofJsonText?
  rw [if_pos isJson, Json.parse?_of_prints reads prints, Option.bind_some, means]

/-- **Settings that are shown can be loaded.** A file with a name in `.json`, in any letter case,
whose text is what settings are shown as, in one line or in several, is loaded as these settings;
what the command prints is such a text. With any members left out that have a default it is loaded
as the settings with these defaults. -/
theorem shown_settings_load_back {settings : Settings} (fits : settings.Fits) {path : Path}
    {stem ending : List Char} (name : path.fileName? = some (stem ++ '.' :: ending))
    (named : stem ≠ []) (json : ending.map Char.toLower = ['j', 's', 'o', 'n'])
    (disk : Disk) (directory : Path) :
    settings.toJson.Prints (Command.printed settings.toJson) ∧
    (∀ text, settings.toJson.Prints text → disk.read? path = some text.toUTF8 →
      load disk (standard directory) path = .ok settings) ∧
    ∀ gone : List String → Bool, (∀ place, gone place = true → place ∈ optionalPaths) →
      ∀ text, (settings.toJson.without gone).Prints text → disk.read? path = some text.toUTF8 →
        load disk (standard directory) path = .ok (settings.withDefaults gone directory) := by
  have isJson := isJsonPath_of_fileName name named json
  have reads := toJson_readsBack fits
  have left (gone : List String → Bool)
      (optional : ∀ place, gone place = true → place ∈ optionalPaths) (text : String)
      (prints : (settings.toJson.without gone).Prints text)
      (holds : disk.read? path = some text.toUTF8) :
      load disk (standard directory) path = .ok (settings.withDefaults gone directory) :=
    load_of_json isJson (Json.ReadsBack.without gone reads) prints holds
      (ofDocument?_without fits optional directory)
  refine ⟨⟨"\n", List.all_eq_true.mp rfl, .inr rfl⟩, fun text prints holds => ?_, left⟩
  have whole := left (fun _ => false) (fun _ out => absurd out Bool.false_ne_true) text
    (by rwa [Json.without_nothing]) holds
  rwa [withDefaults_nothing] at whole

/-- Settings of a broker whose names have to be escaped. -/
def escaped : Settings where
  sink := .publish "\"\\\n\x01ü" 0
  filter := { wanted := ["^executor\\.", ""], unwanted := ["\t"] }
  mode := .statistics
  syncEvery := 18446744073709551615
  hostname := some ""

/-- They are loaded from a file, and so are they without their port, their patterns and their host
name. -/
theorem escaped_settings_load_back :
    let gone : List String → Bool :=
      [["sink", "port"], ["filter", "include"], ["hostname"]].contains
    let disk (text : String) : Disk :=
      { nodes := [(["work"], .directory), (["work", "shown.Json"], .file text.toUTF8)] }
    load (disk (Command.printed escaped.toJson)) (standard ⟨"rows"⟩) ⟨"shown.Json"⟩ = .ok escaped ∧
    load (disk (escaped.toJson.without gone).compact) (standard ⟨"rows"⟩) ⟨"shown.Json"⟩ =
      .ok { escaped with
        sink := .publish "\"\\\n\x01ü" 1883
        filter := { unwanted := ["\t"] }
        hostname := none } := by
  intro gone disk
  have fits : escaped.Fits := by
    refine ⟨fun host port same => ?_, by decide⟩
    cases same
    decide
  have name : (Path.mk "shown.Json").fileName? =
      some (['s', 'h', 'o', 'w', 'n'] ++ '.' :: ['J', 's', 'o', 'n']) := by decide
  have holds (text : String) : (disk text).read? ⟨"shown.Json"⟩ = some text.toUTF8 := rfl
  have loads (text : String) := shown_settings_load_back fits name (by decide) (by decide)
    (disk text) ⟨"rows"⟩
  constructor
  · obtain ⟨printed, whole, _⟩ := loads (Command.printed escaped.toJson)
    exact whole _ printed (holds _)
  · obtain ⟨_, _, left⟩ := loads (escaped.toJson.without gone).compact
    have optional : ∀ place ∈ [["sink", "port"], ["filter", "include"], ["hostname"]],
        place ∈ optionalPaths := by decide
    exact left gone (fun place out => optional place (List.contains_iff_mem.mp out)) _
      ⟨"", List.all_eq_true.mp rfl, .inl String.append_empty.symm⟩ (holds _)

end Settings

end MetricRelay
