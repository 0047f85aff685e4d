/-
**Which names have a route.**

A name is cut at its dots. Dots at its end count for nothing, so it is read without them
(`Route.withoutEnd`), and what is left is either nothing or the join of its parts
(`Route.joined_of_parts`).

* `Route.dotted`: the text that parts joined by dots are;
* `Route.Ids`: two parts that are the ids of a stream;
* `Route.Names`: the grammar of names without dots at the end, with the route of each of them.

Main statement: `Route.names_follow_grammar`.
-/

import Mathlib.Data.List.DropRight
import MetricRelay.Proofs.Disk.Join
import MetricRelay.Proofs.Stream.Identity
import MetricRelay.Stream.Route

namespace MetricRelay

namespace Route

/-! ### Parts of a name -/

/-- The text without the dots at its end. -/
def withoutEnd (name : String) : String :=
  String.ofList (name.toList.rdropWhile (· == '.'))

/-- The text that parts joined by dots are. -/
def dotted (parts : List String) : String :=
  ".".intercalate parts

/-- No part holds a dot. -/
def Dotless (parts : List String) : Prop :=
  ∀ part ∈ parts, '.' ∉ part.toList

theorem dotted_toList (list : List String) :
    (dotted list).toList = ['.'].intercalate (list.map String.toList) :=
  String.toList_intercalate

/-- A dot at the end begins an empty part. -/
theorem splitOn_concat_dot (text : List Char) :
    (text ++ ['.']).splitOn '.' = text.splitOn '.' ++ [[]] :=
  List.splitOn_append_cons_self text []

/-- Any other character at the end goes on with the last part. -/
theorem splitOn_concat {c : Char} (plain : c ≠ '.') (text : List Char) :
    ∃ front last, (text ++ [c]).splitOn '.' = front ++ [last ++ [c]] := by
  induction text with
  | nil => exact ⟨[], [], List.splitOn_eq_singleton (by simpa using plain.symm)⟩
  | cons first rest ih =>
    obtain ⟨front, last, parts⟩ := ih
    rw [List.cons_append, List.splitOn_cons_eq_if_modifyHead, parts]
    by_cases dot : (first == '.') = true
    · exact ⟨[] :: front, last, by rw [if_pos dot, List.cons_append]⟩
    · rw [if_neg dot]
      cases front with
      | nil => exact ⟨[], first :: last, rfl⟩
      | cons part others => exact ⟨(first :: part) :: others, last, rfl⟩

/-- **The empty parts at the end are those behind the dots at the end.** -/
theorem dropEmptyEnd_splitOn (text : List Char) :
    dropEmptyEnd (text.splitOn '.') =
      if text.rdropWhile (· == '.') = [] then []
      else (text.rdropWhile (· == '.')).splitOn '.' := by
  have unfolded (parts : List (List Char)) : dropEmptyEnd parts = parts.rdropWhile List.isEmpty :=
    rfl
  rw [unfolded]
  induction text using List.reverseRecOn with
  | nil => rfl
  | append_singleton text c ih =>
    by_cases dot : c = '.'
    · subst dot
      rw [splitOn_concat_dot, List.rdropWhile_concat_pos _ _ _ rfl,
        List.rdropWhile_concat_pos _ _ _ rfl, ih]
    · obtain ⟨front, last, parts⟩ := splitOn_concat dot text
      rw [List.rdropWhile_concat_neg _ _ _ (by simpa using dot), parts,
        List.rdropWhile_concat_neg _ _ _ (by simp), if_neg (by simp)]

theorem parts_of_void {name : String} (void : withoutEnd name = "") : parts name = [] := by
  have empty : name.toList.rdropWhile (· == '.') = [] := by
    simpa [withoutEnd] using congrArg String.toList void
  rw [parts, dropEmptyEnd_splitOn, if_pos empty]
  rfl

/-- The parts of a name are those between the dots that are left. -/
theorem parts_of_filled {name : String} (filled : withoutEnd name ≠ "") :
    (parts name).map String.toList = (withoutEnd name).toList.splitOn '.' := by
  have nonempty : name.toList.rdropWhile (· == '.') ≠ [] := by
    intro empty
    exact filled (congrArg String.ofList empty)
  rw [parts, dropEmptyEnd_splitOn, if_neg nonempty, List.map_map, withoutEnd,
    String.toList_ofList]
  simp [Function.comp_def]

/-- **A name joins its parts,** and none of them holds a dot. -/
theorem joined_of_parts {name : String} (some : parts name ≠ []) :
    withoutEnd name = dotted (parts name) ∧ Dotless (parts name) := by
  have filled := parts_of_filled (fun void => some (parts_of_void void))
  constructor
  · refine String.toList_injective ?_
    rw [dotted_toList, filled, List.intercalate_splitOn]
  · intro part member
    have among := List.mem_map_of_mem (f := String.toList) member
    rw [filled] at among
    exact (mem_of_mem_splitOn among).1

/-- **The parts of a name are those that it joins.** -/
theorem parts_of_joined {name : String} {list : List String} (joined : withoutEnd name = dotted list)
    (filled : dotted list ≠ "") (dotless : Dotless list) : parts name = list := by
  have some : list ≠ [] := by
    rintro rfl
    exact filled rfl
  refine List.map_injective_iff.mpr (fun _ _ => String.toList_injective) ?_
  rw [parts_of_filled (joined ▸ filled), joined, dotted_toList, List.splitOn_intercalate]
  · simpa [Dotless] using dotless
  · simpa using some

/-- A text that joins two parts or more is not empty. -/
theorem dotted_ne_empty (first second : String) (rest : List String) :
    dotted (first :: second :: rest) ≠ "" := by
  intro void
  have empty := congrArg String.toList void
  rw [dotted_toList, List.map_cons, List.map_cons, List.intercalate_cons_cons] at empty
  simp at empty

/-- The last part of a name is not empty. -/
theorem getLast?_parts {name last : String} (ends : (parts name).getLast? = some last) :
    last ≠ "" := by
  rintro rfl
  unfold parts at ends
  rw [List.getLast?_map, Option.map_eq_some_iff] at ends
  obtain ⟨segment, ends, empty⟩ := ends
  have solid : dropEmptyEnd (name.toList.splitOn '.') ≠ [] := by
    rintro void
    rw [void] at ends
    cases ends
  have last := List.rdropWhile_last_not List.isEmpty (name.toList.splitOn '.') solid
  rw [List.getLast?_eq_some_getLast solid, Option.some.injEq] at ends
  have kept : segment.isEmpty = false := by
    rw [← ends]
    exact Bool.eq_false_iff.mpr last
  rw [show segment = [] by simpa using congrArg String.toList empty] at kept
  cases kept

/-- More dots at the end make no other parts. -/
theorem parts_append_dots (name : String) (dots : Nat) :
    parts (name ++ String.ofList (List.replicate dots '.')) = parts name := by
  have same : (name.toList ++ List.replicate dots '.').rdropWhile (· == '.') =
      name.toList.rdropWhile (· == '.') := by
    induction dots with
    | zero => rw [List.replicate_zero, List.append_nil]
    | succ dots ih =>
      rw [List.replicate_succ', ← List.append_assoc, List.rdropWhile_concat_pos _ _ _ rfl, ih]
  unfold parts
  rw [dropEmptyEnd_splitOn, dropEmptyEnd_splitOn, String.toList_append, String.toList_ofList,
    same]

/-- A text that joins parts ends with the last one. -/
theorem suffix_dotted (front : List String) (last : String) :
    last.toList <:+ (dotted (front ++ [last])).toList := by
  rw [dotted_toList]
  induction front with
  | nil => simp
  | cons first rest ih =>
    obtain ⟨second, others, same⟩ :=
      List.exists_cons_of_ne_nil (List.append_ne_nil_of_right_ne_nil rest (List.cons_ne_nil last []))
    rw [List.cons_append, same, List.map_cons, List.map_cons, List.intercalate_cons_cons,
      ← List.map_cons, ← same]
    exact ih.trans (List.suffix_append _ _)

/-- A text that joins parts has no dot at its end, if the last one is not empty and has none. -/
theorem withoutEnd_dotted {list : List String} {last : String} (ends : list.getLast? = some last)
    (solid : last ≠ "") (dotless : '.' ∉ last.toList) : withoutEnd (dotted list) = dotted list := by
  obtain ⟨front, rfl⟩ := List.getLast?_eq_some_iff.mp ends
  obtain ⟨before, text⟩ := suffix_dotted front last
  have filled : last.toList ≠ [] := fun empty => solid (String.toList_injective empty)
  obtain ⟨init, c, spelling⟩ := (List.eq_nil_or_concat last.toList).resolve_left filled
  rw [List.concat_eq_append] at spelling
  rw [spelling] at dotless
  rw [spelling, ← List.append_assoc] at text
  have other : c ≠ '.' := by
    rintro rfl
    exact dotless (by simp)
  rw [withoutEnd, ← text, List.rdropWhile_concat_neg _ _ _ (by simpa using other), text,
    String.ofList_toList]

/-! ### The grammar -/

/-- Two parts that are the ids of a stream: the first one starts with `app`, and the second one is
a numeral of a value that 32 bits hold. -/
structure Ids (application executor : String) : Prop where
  marked : "app".toList <+: application.toList
  dotless : '.' ∉ application.toList
  numeral : ∃ n, Text.Numeral executor.toList n ∧ -2 ^ 31 ≤ n ∧ n ≤ 2 ^ 31 - 1

/-- A name without dots at its end, and its route. Behind the ids stands nothing, or a marker, or a
marker and a path. -/
inductive Names : String → Route → Prop where
  | ids {application executor : String} (ids : Ids application executor) :
      Names (dotted [application, executor]) ⟨⟨application⟩, ⟨executor⟩, []⟩
  | marked {application executor marker : String} (ids : Ids application executor)
      (dotless : Dotless [marker]) :
      Names (dotted [application, executor, marker]) ⟨⟨application⟩, ⟨executor⟩, []⟩
  | placed {application executor marker : String} {path : List String}
      (ids : Ids application executor) (dotless : Dotless (marker :: path)) (some : path ≠ []) :
      Names (dotted (application :: executor :: marker :: path))
        ⟨⟨application⟩, ⟨executor⟩, path⟩

/-- What stands behind the ids is a marker and a path, as far as it is there. -/
theorem names_iff {text : String} {route : Route} :
    Names text route ↔ ∃ application executor rest, Ids application executor ∧ Dotless rest ∧
      text = dotted (application :: executor :: rest) ∧
      route = ⟨⟨application⟩, ⟨executor⟩, rest.drop 1⟩ := by
  constructor
  · intro names
    cases names with
    | ids ids => exact ⟨_, _, [], ids, by simp [Dotless], rfl, rfl⟩
    | marked ids dotless => exact ⟨_, _, [_], ids, dotless, rfl, rfl⟩
    | placed ids dotless => exact ⟨_, _, _ :: _, ids, dotless, rfl, rfl⟩
  · rintro ⟨application, executor, rest, ids, dotless, rfl, rfl⟩
    match rest with
    | [] => exact .ids ids
    | [_] => exact .marked ids dotless
    | _ :: _ :: _ => exact .placed ids dotless (List.cons_ne_nil _ _)

/-- A routable name begins with the ids of its stream, and its path is all but the first of the
other parts. -/
theorem ofName?_eq_some_iff {name : String} {route : Route} :
    ofName? name = some route ↔ ∃ application executor rest,
      parts name = application :: executor :: rest ∧
      ApplicationId.parse? application = some route.application ∧
      ExecutorId.parse? executor = some route.executor ∧ route.path = rest.drop 1 := by
  obtain ⟨ownApplication, ownExecutor, path⟩ := route
  unfold ofName?
  constructor
  · intro routed
    split at routed
    next application executor rest cut =>
      obtain ⟨first, known, routed⟩ := Option.bind_eq_some_iff.mp routed
      obtain ⟨second, numbered, routed⟩ := Option.bind_eq_some_iff.mp routed
      cases routed
      exact ⟨application, executor, rest, cut, known, numbered, rfl⟩
    next => cases routed
  · rintro ⟨application, executor, rest, cut, known, numbered, rfl⟩
    rw [cut]
    simp only [known, numbered]
    rfl

/-- Two parts are read as the ids of a stream exactly if they are spelled like ids. -/
theorem ids_iff {application executor : String} {applicationId : ApplicationId}
    {executorId : ExecutorId} (dotless : '.' ∉ application.toList) :
    ApplicationId.parse? application = some applicationId ∧
        ExecutorId.parse? executor = some executorId ↔
      Ids application executor ∧ applicationId = ⟨application⟩ ∧ executorId = ⟨executor⟩ := by
  rw [ApplicationId.parse?_eq_some_iff, ExecutorId.parse?_eq_some_iff]
  constructor
  · rintro ⟨⟨spelled, marked⟩, spelling, numeral⟩
    exact ⟨⟨marked, dotless, numeral⟩, spelled, spelling⟩
  · rintro ⟨ids, spelled, spelling⟩
    exact ⟨⟨spelled, ids.marked⟩, spelling, ids.numeral⟩

/-- Ids hold no dot. -/
theorem Ids.dotless_both {application executor : String} (ids : Ids application executor) :
    Dotless [application, executor] := by
  obtain ⟨n, numeral, _⟩ := ids.numeral
  intro part member
  rcases List.mem_cons.mp member with rfl | second
  · exact ids.dotless
  · rw [List.mem_singleton.mp second]
    exact numeral.notMem (by decide)

/-- **A name has the route that the grammar gives it, and no other one.** -/
theorem ofName?_eq_some_iff_names {name : String} {route : Route} :
    ofName? name = some route ↔ Names (withoutEnd name) route := by
  rw [ofName?_eq_some_iff, names_iff]
  refine exists_congr fun application => exists_congr fun executor => exists_congr fun rest => ?_
  obtain ⟨applicationId, executorId, path⟩ := route
  rw [Route.mk.injEq]
  constructor
  · rintro ⟨cut, known, numbered, same⟩
    obtain ⟨joined, dotless⟩ := joined_of_parts (cut ▸ List.cons_ne_nil application _)
    rw [cut] at joined dotless
    obtain ⟨ids, spelled, spelling⟩ :=
      (ids_iff (dotless application List.mem_cons_self)).mp ⟨known, numbered⟩
    exact ⟨ids, fun part member => dotless part (by simp [member]), joined, spelled, spelling, same⟩
  · rintro ⟨ids, dotless, joined, spelled, spelling, same⟩
    obtain ⟨known, numbered⟩ := (ids_iff ids.dotless).mpr ⟨ids, spelled, spelling⟩
    have every : Dotless (application :: executor :: rest) :=
      List.forall_mem_append.mpr ⟨ids.dotless_both, dotless⟩
    exact ⟨parts_of_joined joined (dotted_ne_empty application executor rest) every, known,
      numbered, same⟩

/-- The path of a name ends with no empty part. -/
theorem getLast?_path {name : String} {route : Route} (routed : ofName? name = some route)
    {last : String} (ends : route.path.getLast? = some last) : last ≠ "" := by
  obtain ⟨application, executor, rest, cut, _, _, same⟩ := ofName?_eq_some_iff.mp routed
  obtain ⟨front, path⟩ := List.getLast?_eq_some_iff.mp ends
  obtain ⟨marker, behind⟩ : ∃ marker, rest = marker :: route.path := by
    cases rest with
    | nil => rw [same] at path; simp at path
    | cons marker others => exact ⟨marker, by rw [same]; rfl⟩
  have ends : (parts name).getLast? = some last := by
    rw [cut, behind, path]
    show ((application :: executor :: marker :: front) ++ [last]).getLast? = some last
    exact List.getLast?_concat
  exact getLast?_parts ends

/-- **Routes are read off names by their grammar.** For every name, let the dots at its end be left
out:

* the name has a route exactly if it is `a.e`, `a.e.m` or `a.e.m.p₁…pₙ`, with parts that hold no
  dots, `a` an application id and `e` an executor id; then the route has these ids, as they are
  spelled, and the path of `p₁` to `pₙ`, empty parts among them;
* the path does not end with an empty part;
* more dots at the end change nothing;
* a route with a path is also that of every name that joins its ids, a marker without dots and its
  path. -/
theorem names_follow_grammar (name : String) :
    (∀ route, ofName? name = some route ↔ Names (withoutEnd name) route) ∧
    (∀ route, ofName? name = some route → route.path.getLast? ≠ some "") ∧
    (∀ dots, ofName? (name ++ String.ofList (List.replicate dots '.')) = ofName? name) ∧
    ∀ (route : Route) (marker : String), ofName? name = some route → route.path ≠ [] →
      '.' ∉ marker.toList →
      ofName? (dotted (route.application.text :: route.executor.text :: marker :: route.path)) =
        some route := by
  refine ⟨fun route => ofName?_eq_some_iff_names, fun route routed ends => ?_, fun dots => ?_, ?_⟩
  · exact getLast?_path routed ends rfl
  · unfold ofName?
    rw [parts_append_dots]
  · intro route marker routed placed plain
    obtain ⟨application, executor, rest, ids, dotless, _, rfl⟩ :=
      names_iff.mp (ofName?_eq_some_iff_names.mp routed)
    have free : Dotless (rest.drop 1) := fun part member => dotless part (List.mem_of_mem_drop member)
    obtain ⟨last, ends⟩ := Option.ne_none_iff_exists'.mp (mt List.getLast?_eq_none_iff.mp placed)
    have whole : (application :: executor :: marker :: rest.drop 1).getLast? = some last := by
      rw [List.getLast?_cons, List.getLast?_cons, List.getLast?_cons, ends]
      rfl
    rw [ofName?_eq_some_iff_names, withoutEnd_dotted whole (getLast?_path routed ends)
      (free last (List.mem_of_getLast? ends))]
    exact .placed ids (List.forall_mem_cons.mpr ⟨plain, free⟩) placed

end Route

end MetricRelay
