/-
**Paths below a path.**

The components of a joined path are those of the directory, followed by those of the other path, if
that one begins with a name (`Path.components_join`).

* `mem_of_mem_splitOn`: what the parts of a list that is split at a separator hold;
* `Path.named`: the components of a text that does not begin a path;
* `Path.BeginsWithName`: a path that begins with a name, so it is not absolute;
* `Path.IsAbove`: the one path is a directory on the way to the other one.
-/

import MetricRelay.Disk.Path

namespace MetricRelay

/-- A part of a split list holds no separator, and nothing that the list does not hold. -/
theorem mem_of_mem_splitOn {α : Type} [BEq α] [LawfulBEq α] {separator : α} {list part : List α}
    (member : part ∈ list.splitOn separator) : separator ∉ part ∧ part ⊆ list := by
  induction list generalizing part with
  | nil =>
    rw [List.splitOn_nil, List.mem_singleton] at member
    rw [member]
    exact ⟨List.not_mem_nil, List.Subset.refl _⟩
  | cons first rest ih =>
    rw [List.splitOn_cons_eq_if_modifyHead] at member
    by_cases separates : (first == separator) = true
    · rw [if_pos separates] at member
      rcases List.mem_cons.mp member with rfl | later
      · exact ⟨List.not_mem_nil, List.nil_subset _⟩
      · exact (ih later).imp_right (List.subset_cons_of_subset _)
    · rw [if_neg separates] at member
      cases parts : rest.splitOn separator with
      | nil => exact absurd parts (List.splitOn_ne_nil separator rest)
      | cons head others =>
        rw [parts] at ih
        rw [parts, List.modifyHead_cons] at member
        rcases List.mem_cons.mp member with rfl | later
        · obtain ⟨free, inside⟩ := ih List.mem_cons_self
          refine ⟨fun held => ?_, List.cons_subset_cons first inside⟩
          rcases List.mem_cons.mp held with rfl | held
          · exact separates (beq_self_eq_true separator)
          · exact free held
        · exact (ih (List.mem_cons_of_mem _ later)).imp_right (List.subset_cons_of_subset _)

namespace Path

/-! ### Pieces -/

/-- The components of a text that does not begin a path. -/
def named (text : List Char) : List Component :=
  (text.splitOn '/').filterMap component?

/-- A text without dots names files and directories only. -/
theorem mem_named_of_dotless {text : List Char} (dotless : '.' ∉ text) {component : Component}
    (member : component ∈ named text) :
    ∃ name, component = .name name ∧ name ≠ [] ∧ '.' ∉ name ∧ '/' ∉ name := by
  obtain ⟨piece, pieceMem, known⟩ := List.mem_filterMap.mp member
  obtain ⟨slashless, inside⟩ := mem_of_mem_splitOn pieceMem
  have free : '.' ∉ piece := fun held => dotless (inside held)
  unfold component? at known
  split at known
  · cases known
  next solid =>
    rw [not_or] at solid
    split at known
    next up =>
      rw [up] at free
      exact absurd List.mem_cons_self free
    next => exact ⟨piece, (Option.some.inj known).symm, solid.1, free, slashless⟩

/-- The first piece begins like the text. -/
theorem pieces_cons {c : Char} (plain : c ≠ '/') (rest : List Char) :
    ∃ piece others, (c :: rest).splitOn '/' = (c :: piece) :: others := by
  rw [List.splitOn_cons_eq_if_modifyHead, if_neg (by simpa using plain)]
  cases parts : rest.splitOn '/' with
  | nil => exact absurd parts (List.splitOn_ne_nil '/' rest)
  | cons piece others => exact ⟨piece, others, rfl⟩

/-- A text that begins with a name has a component. -/
theorem named_ne_nil {c : Char} (plain : c ≠ '/' ∧ c ≠ '.') (rest : List Char) :
    named (c :: rest) ≠ [] := by
  obtain ⟨piece, others, parts⟩ := pieces_cons plain.1 rest
  have known : component? (c :: piece) = some (.name (c :: piece)) := by
    simp [component?, plain.2]
  rw [named, parts, List.filterMap_cons, known]
  exact List.cons_ne_nil _ _

/-- A text without slashes that is no dot or two is one name. -/
theorem named_of_slashless {text : List Char} (slashless : '/' ∉ text) (solid : text ≠ [])
    (here : text ≠ ['.']) (up : text ≠ ['.', '.']) : named text = [.name text] := by
  unfold named
  rw [List.splitOn_eq_singleton slashless]
  simp [component?, solid, here, up]

/-! ### Joining -/

/-- The path does not begin with a slash or a single dot, and is not empty. -/
def BeginsWithName (path : Path) : Prop :=
  path.components = named path.text.toList ∧ path.isAbsolute = false

theorem beginsWithName {path : Path} {first : List Char} {rest : List (List Char)}
    (parts : path.text.toList.splitOn '/' = first :: rest) (solid : first ≠ [])
    (plain : first ≠ ['.']) : path.BeginsWithName := by
  constructor
  · rw [components, componentsOf, named, parts]
    simp only [if_neg solid, if_neg plain, List.filterMap_cons]
    cases component? first <;> rfl
  · unfold isAbsolute
    cases text : path.text.toList with
    | nil => rfl
    | cons c others =>
      refine beq_eq_false_iff_ne.mpr fun slash => solid ?_
      rw [List.head?_cons, Option.some.injEq] at slash
      rw [text, slash] at parts
      exact (List.cons.inj ((List.splitOn_append_cons_self [] others).symm.trans parts)).1.symm

theorem eq_nil_of_pieces {text : List Char} (single : text.splitOn '/' = [[]]) : text = [] := by
  have slashless : '/' ∉ text := fun held => by
    obtain ⟨front, back, rfl⟩ := List.append_of_mem held
    rw [List.splitOn_append_cons_self] at single
    have lengths := congrArg List.length single
    have front := List.length_pos_iff.mpr (List.splitOn_ne_nil '/' front)
    have back := List.length_pos_iff.mpr (List.splitOn_ne_nil '/' back)
    simp at lengths
    omega
  rw [List.splitOn_eq_singleton slashless, List.cons.injEq] at single
  exact single.1

/-- Behind a slash no component is special. -/
theorem componentsOf_slash (front back : List Char) :
    componentsOf (front ++ '/' :: back) = componentsOf (front ++ ['/']) ++ named back := by
  have ended : (front ++ ['/']).splitOn '/' = front.splitOn '/' ++ [[]] :=
    List.splitOn_append_cons_self front []
  unfold componentsOf named
  rw [List.splitOn_append_cons_self, ended]
  cases parts : front.splitOn '/' with
  | nil => exact absurd parts (List.splitOn_ne_nil '/' front)
  | cons first rest =>
    have more : (rest ++ back.splitOn '/').isEmpty = false := by
      rw [List.isEmpty_eq_false_iff]
      exact List.append_ne_nil_of_right_ne_nil _ (List.splitOn_ne_nil '/' back)
    have void : component? [] = none := rfl
    simp [more, List.filterMap_append, void]

/-- A slash at the end makes no difference, except for the empty path. -/
theorem componentsOf_concat_slash {text : List Char} (nonempty : text ≠ []) :
    componentsOf (text ++ ['/']) = componentsOf text := by
  have ended : (text ++ ['/']).splitOn '/' = text.splitOn '/' ++ [[]] :=
    List.splitOn_append_cons_self text []
  unfold componentsOf
  rw [ended]
  cases parts : text.splitOn '/' with
  | nil => exact absurd parts (List.splitOn_ne_nil '/' text)
  | cons first rest =>
    have void : component? [] = none := rfl
    by_cases begins : first = []
    · have several : rest ≠ [] := by
        rintro rfl
        exact nonempty (eq_nil_of_pieces (parts.trans (by rw [begins])))
      simp [begins, several, List.filterMap_append, void]
    · simp [begins, List.filterMap_append, void]

/-- How a path that begins with a name is joined. -/
theorem join_cases (directory : Path) {path : Path} (begins : path.BeginsWithName) :
    directory.text.toList = [] ∧ directory.join path = path ∨
    ∃ front, directory.components = componentsOf (front ++ ['/']) ∧
      directory.text.toList <+: front ++ ['/'] ∧
      (directory.join path).text.toList = front ++ '/' :: path.text.toList := by
  have relative : ¬ path.isAbsolute = true := by
    rw [begins.2]
    decide
  unfold join
  rw [if_neg relative]
  split
  next empty => exact .inl ⟨List.getLast?_eq_none_iff.mp empty, rfl⟩
  next slash =>
    obtain ⟨front, text⟩ := List.getLast?_eq_some_iff.mp slash
    refine .inr ⟨front, ?_, ?_, ?_⟩
    · rw [components, text]
    · exact ⟨[], by rw [List.append_nil, text]⟩
    · rw [String.toList_append, text, List.append_assoc, List.singleton_append]
  next last _ known =>
    have nonempty : directory.text.toList ≠ [] := by
      intro empty
      rw [empty] at known
      cases known
    refine .inr ⟨directory.text.toList, (componentsOf_concat_slash nonempty).symm,
      List.prefix_append _ _, ?_⟩
    rw [String.toList_append, String.toList_append, List.append_assoc]
    rfl

/-- **The components of a joined path** are those of the directory and of the other path. -/
theorem components_join (directory : Path) {path : Path} (begins : path.BeginsWithName) :
    (directory.join path).components = directory.components ++ named path.text.toList := by
  rcases join_cases directory begins with ⟨empty, joined⟩ | ⟨front, above, _, joined⟩
  · rw [joined, begins.1, components, empty]
    rfl
  · rw [above, components, joined, componentsOf_slash]

/-- A joined path begins with the text of the directory. -/
theorem text_join (directory : Path) {path : Path} (begins : path.BeginsWithName) :
    directory.text.toList <+: (directory.join path).text.toList := by
  rcases join_cases directory begins with ⟨empty, _⟩ | ⟨front, _, start, joined⟩
  · rw [empty]
    exact List.nil_prefix
  · rw [joined, List.append_cons]
    exact start.trans (List.prefix_append _ _)

/-- The one path is a directory on the way to the other one. -/
def IsAbove (directory path : Path) : Prop :=
  directory.components <+: path.components ∧ directory.components ≠ path.components

end Path

end MetricRelay
