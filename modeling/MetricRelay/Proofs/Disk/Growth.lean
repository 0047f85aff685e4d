/-
**What file operations do to a disk.**

No operation takes a node away or shortens a file. A node that is a directory, or a device, stays
what it is; a file grows at its end, by whole lines if whole lines are written; where nothing was, a
directory or a file can begin.

* `Lines.bytes`: the bytes of whole lines; `Lines.Extend`: a file before and after they are written;
* `Node.Grown`: what stands at a place before and after, and the lines that were written there;
* `Disk.Grows`: the same for a whole disk, with the outcomes that were asked for on the way.

For each operation one lemma says how the disk grows, and why it failed if it did.
-/

import MetricRelay.Disk.Basic

namespace MetricRelay

/-- The bytes of lines, each with the mark of its end. -/
def Lines.bytes (lines : List String) : ByteArray :=
  lines.foldr (fun line rest => (line ++ "\n").toUTF8 ++ rest) .empty

namespace Lines

@[simp] theorem bytes_nil : bytes [] = .empty := rfl

theorem bytes_cons (line : String) (lines : List String) :
    bytes (line :: lines) = (line ++ "\n").toUTF8 ++ bytes lines := rfl

theorem bytes_singleton (line : String) : bytes [line] = (line ++ "\n").toUTF8 := by
  rw [bytes_cons, bytes_nil, ByteArray.append_empty]

theorem bytes_append (first later : List String) :
    bytes (first ++ later) = bytes first ++ bytes later := by
  induction first with
  | nil => rw [List.nil_append, bytes_nil, ByteArray.empty_append]
  | cons line rest ih => rw [List.cons_append, bytes_cons, bytes_cons, ih, ByteArray.append_assoc]

theorem size_line_pos (line : String) : 0 < (line ++ "\n").toUTF8.size := by
  rw [String.toUTF8_eq_toByteArray, String.size_toByteArray, String.utf8ByteSize_append]
  exact Nat.lt_of_lt_of_le Nat.zero_lt_one (Nat.le_add_left 1 _)

/-- Only no lines have no bytes. -/
theorem eq_nil_of_size_bytes {lines : List String} (void : (bytes lines).size = 0) :
    lines = [] := by
  cases lines with
  | nil => rfl
  | cons line rest =>
    rw [bytes_cons, ByteArray.size_append] at void
    have positive := size_line_pos line
    omega

/-- A file has what it had, and these lines behind it. Without lines there need be no file. -/
def Extend (lines : List String) : Option ByteArray → Option ByteArray → Prop
  | some before, some after => after = before ++ bytes lines
  | none, some after => after = bytes lines
  | none, none => lines = []
  | some _, none => False

end Lines

namespace Node

/-- What stands at a place before and after, when these lines were written there. -/
inductive Grown : Option Node → Option Node → List String → Prop where
  | same (node : Option Node) : Grown node node []
  | directory : Grown none (some .directory) []
  | begun (lines : List String) : Grown none (some (.file (Lines.bytes lines))) lines
  | longer (content : ByteArray) (lines : List String) :
      Grown (some (.file content)) (some (.file (content ++ Lines.bytes lines))) lines

/-- Bytes can be written there, or it is the device that takes none. -/
inductive IsOpen : Option Node → Prop where
  | file (content : ByteArray) : IsOpen (some (.file content))
  | full : IsOpen (some .full)

namespace Grown

variable {before middle after : Option Node} {first later lines : List String}

theorem trans (early : Grown before middle first) (late : Grown middle after later) :
    Grown before after (first ++ later) := by
  cases early with
  | same => exact late
  | directory =>
    cases late with
    | same => exact .directory
  | begun =>
    cases late with
    | same =>
      rw [List.append_nil]
      exact .begun first
    | longer =>
      rw [← Lines.bytes_append]
      exact .begun (first ++ later)
  | longer content =>
    cases late with
    | same =>
      rw [List.append_nil]
      exact .longer content first
    | longer =>
      rw [ByteArray.append_assoc, ← Lines.bytes_append]
      exact .longer content (first ++ later)

/-- What was open can be kept open. -/
theorem isOpen (grown : Grown before after lines) (opened : IsOpen before) : IsOpen after := by
  cases opened with
  | file content =>
    cases grown with
    | same => exact .file content
    | longer => exact .file _
  | full =>
    cases grown with
    | same => exact .full

/-- The full device was there from the beginning. -/
theorem eq_full (grown : Grown before (some .full) lines) : before = some .full := by
  cases grown with
  | same => rfl

end Grown

end Node

namespace Disk

/-! ### Places -/

theorem node?_setNode_self (disk : Disk) {place : List String} (below : place ≠ []) (node : Node) :
    (disk.setNode place node).node? place = some node := by
  unfold node? setNode
  rw [if_neg below, List.lookup_append]
  have gone : (disk.nodes.filter fun entry => entry.1 != place).lookup place = none := by
    rw [List.lookup_eq_none_iff]
    intro entry member
    have different : (entry.1 != place) = true := (List.mem_filter.mp member).2
    rw [bne_iff_ne] at different
    exact bne_iff_ne.mpr different.symm
  rw [gone, Option.none_or, List.lookup_cons_self]

theorem node?_setNode_other (disk : Disk) {place other : List String} (different : other ≠ place)
    (node : Node) : (disk.setNode place node).node? other = disk.node? other := by
  unfold node? setNode
  by_cases root : other = []
  · rw [if_pos root, if_pos root]
  · rw [if_neg root, if_neg root, List.lookup_append]
    have kept (entries : List (List String × Node)) :
        (entries.filter fun entry => entry.1 != place).lookup other = entries.lookup other := by
      induction entries with
      | nil => rfl
      | cons entry rest ih =>
        by_cases same : entry.1 = place
        · have unlike : (other == entry.1) = false := same ▸ beq_eq_false_iff_ne.mpr different
          rw [List.filter_cons_of_neg (by simp [same]), ih, List.lookup_cons, unlike]
        · rw [List.filter_cons_of_pos (by simp [same]), List.lookup_cons, List.lookup_cons, ih]
    rw [kept]
    have absent : [(place, node)].lookup other = none := by
      have unlike : (other == place) = false := beq_eq_false_iff_ne.mpr different
      rw [List.lookup_cons, unlike, List.lookup_nil]
    rw [absent, Option.or_none]

/-- Only the root is not a place where something can be put, and it is a directory. -/
theorem ne_root {disk : Disk} {place : List String} (plain : disk.isDirectory place = false) :
    place ≠ [] := by
  rintro rfl
  cases plain

theorem isDirectory_of_none {disk : Disk} {place : List String} (void : disk.node? place = none) :
    disk.isDirectory place = false := by
  unfold isDirectory
  rw [void]

/-! ### Growth -/

/-- No lines, wherever. -/
def nowhere : List String → List String := fun _ => []

/-- These lines at one place. -/
def only (place : List String) (lines : List String) : List String → List String :=
  fun other => if other = place then lines else []

/-- How a disk grows: the outcomes that its calls asked for, and the lines that were written at each
place. -/
structure Grows (before after : Disk) (used : List Bool) (written : List String → List String) :
    Prop where
  faults : before.faults = used ++ after.faults
  working : after.working = before.working
  nodes : ∀ place, Node.Grown (before.node? place) (after.node? place) (written place)

/-- A disk on which no file changed and none began. -/
structure Quiet (before after : Disk) (used : List Bool) : Prop where
  grows : Grows before after used nowhere
  contents : ∀ place, after.content? place = before.content? place

section Relations

variable {before middle after : Disk} {used more : List Bool}

theorem Grows.refl (disk : Disk) : Grows disk disk [] nowhere :=
  ⟨rfl, rfl, fun _ => .same _⟩

/-- What is in the files, when a disk grows. -/
theorem Grows.extend {written : List String → List String}
    (grows : Grows before after used written) (place : List String) :
    Lines.Extend (written place) (before.content? place) (after.content? place) := by
  have grown := grows.nodes place
  unfold content?
  generalize before.node? place = first at grown ⊢
  generalize after.node? place = last at grown ⊢
  generalize written place = lines at grown ⊢
  cases grown with
  | same =>
    rcases first with _ | (_ | _ | content | _)
    · rfl
    · rfl
    · rfl
    · exact ByteArray.append_empty.symm
    · rfl
  | directory => rfl
  | begun => rfl
  | longer content => rfl

theorem Grows.trans {first later : List String → List String}
    (early : Grows before middle used first) (late : Grows middle after more later) :
    Grows before after (used ++ more) fun place => first place ++ later place where
  faults := by rw [early.faults, late.faults, List.append_assoc]
  working := late.working.trans early.working
  nodes place := (early.nodes place).trans (late.nodes place)

theorem Quiet.refl (disk : Disk) : Quiet disk disk [] :=
  ⟨Grows.refl disk, fun _ => rfl⟩

theorem Quiet.trans (early : Quiet before middle used) (late : Quiet middle after more) :
    Quiet before after (used ++ more) :=
  ⟨early.grows.trans late.grows, fun place => (late.contents place).trans (early.contents place)⟩

/-- A disk with the same nodes is as quiet as can be. -/
theorem Quiet.of_nodes (faults : before.faults = used ++ after.faults)
    (working : after.working = before.working)
    (nodes : ∀ place, after.node? place = before.node? place) : Quiet before after used where
  grows := ⟨faults, working, fun place => by rw [nodes place]; exact .same _⟩
  contents place := by
    unfold content?
    rw [nodes place]

end Relations

/-! ### Operations -/

/-- A call asks what becomes of it, and that is all it does to the disk. -/
theorem nextFault_quiet (disk : Disk) :
    ∃ used, Quiet disk disk.nextFault.2 used ∧ (disk.nextFault.1 = true → true ∈ used) := by
  unfold nextFault
  cases known : disk.faults with
  | nil => exact ⟨[], Quiet.refl disk, fun failed => by cases failed⟩
  | cons fault rest =>
    refine ⟨[fault], Quiet.of_nodes known rfl fun _ => rfl, fun failed => ?_⟩
    rw [show fault = true from failed]
    exact List.mem_singleton_self true

/-- Putting a node at a place lets the disk grow if what stands there grows. -/
theorem setNode_grows {disk : Disk} {place : List String} {node : Node} {lines : List String}
    (below : place ≠ []) (grown : Node.Grown (disk.node? place) (some node) lines) :
    Grows disk (disk.setNode place node) [] (only place lines) := by
  refine ⟨rfl, rfl, fun other => ?_⟩
  unfold only
  by_cases same : other = place
  · rw [if_pos same, same, node?_setNode_self disk below]
    exact grown
  · rw [if_neg same, node?_setNode_other disk same]
    exact .same _

theorem content?_setNode_other (disk : Disk) {place other : List String} (different : other ≠ place)
    (node : Node) : (disk.setNode place node).content? other = disk.content? other := by
  unfold content?
  rw [node?_setNode_other disk different]

theorem only_nil (place : List String) : only place [] = nowhere := by
  funext other
  exact ite_self []

theorem setNode_directory_quiet (disk : Disk) {place : List String}
    (void : disk.node? place = none) : Quiet disk (disk.setNode place .directory) [] := by
  have below : place ≠ [] := ne_root (isDirectory_of_none void)
  have grows : Grows disk (disk.setNode place .directory) [] nowhere := by
    rw [← only_nil place]
    refine setNode_grows below ?_
    rw [void]
    exact .directory
  refine ⟨grows, fun other => ?_⟩
  by_cases same : other = place
  · unfold content?
    rw [same, node?_setNode_self disk below, void]
  · exact content?_setNode_other disk same .directory

theorem create_quiet (disk : Disk) (place : List String) (components : List Path.Component) :
    Quiet disk (disk.create place components).2 [] := by
  induction components generalizing disk place with
  | nil => exact Quiet.refl disk
  | cons component rest ih =>
    unfold create
    cases enter place component with
    | none => exact Quiet.refl disk
    | some next =>
      simp only
      by_cases present : disk.isDirectory next = true
      · rw [if_pos present]
        exact ih disk next
      · rw [if_neg present]
        by_cases blocked : ((disk.node? next).isSome || !disk.canCreate next) = true
        · rw [if_pos blocked]
          exact Quiet.refl disk
        · rw [if_neg blocked]
          have void : disk.node? next = none := by
            rw [Bool.or_eq_true, not_or] at blocked
            exact Option.not_isSome_iff_eq_none.mp blocked.1
          exact (setNode_directory_quiet disk void).trans (ih _ next)

/-- **Creating directories changes no file.** -/
theorem createDirectories_quiet (disk : Disk) (path : Path) :
    ∃ used, Quiet disk (disk.createDirectories path).2 used := by
  obtain ⟨used, asked, _⟩ := nextFault_quiet disk
  refine ⟨used, ?_⟩
  unfold createDirectories
  rcases fault : disk.nextFault with ⟨_ | _, after⟩
  · rw [fault] at asked
    simp only
    by_cases here : path.text = ""
    · rw [if_pos here]
      exact asked
    · rw [if_neg here]
      by_cases usable : isUsable path = true
      · rw [if_pos usable]
        have created :=
          asked.trans (create_quiet after (after.start path.components) path.components)
        rwa [List.append_nil] at created
      · rw [if_neg usable]
        exact asked
  · rw [fault] at asked
    exact asked

/-- What opening a file for writing does to a disk. -/
inductive Opening (disk : Disk) : Option (List String) × Disk → Prop where
  | failed (after : Disk) (used : List Bool) (quiet : Quiet disk after used) :
      Opening disk (none, after)
  /-- There is a file at the place, a new one without bytes if there was nothing. -/
  | opened (place : List String) (after : Disk) (used : List Bool)
      (grows : Grows disk after used nowhere)
      (others : ∀ other, other ≠ place → after.content? other = disk.content? other)
      (writable : Node.IsOpen (after.node? place)) : Opening disk (some place, after)

/-- **Opening a file changes no other file, and no bytes.** -/
theorem openAppend_cases (disk : Disk) (path : Path) : Opening disk (disk.openAppend path) := by
  obtain ⟨used, asked, _⟩ := nextFault_quiet disk
  unfold openAppend
  rcases fault : disk.nextFault with ⟨_ | _, after⟩
  · rw [fault] at asked
    simp only
    cases after.place? path with
    | none => exact .failed after used asked
    | some place =>
      simp only
      by_cases directory : after.isDirectory place = true
      · rw [if_pos directory]
        exact .failed after used asked
      · rw [if_neg directory]
        have plain : after.isDirectory place = false := Bool.eq_false_iff.mpr directory
        cases standing : after.node? place with
        | some node =>
          rw [if_pos Option.isSome_some]
          refine .opened place after used asked.grows (fun other _ => asked.contents other) ?_
          unfold isDirectory at plain
          rw [standing] at plain ⊢
          cases node with
          | directory | sealed => cases plain
          | file content => exact .file content
          | full => exact .full
        | none =>
          rw [if_neg (by simp)]
          by_cases creatable : after.canCreate place = true
          · rw [if_pos creatable]
            have begins : Grows after (after.setNode place (.file .empty)) [] nowhere := by
              rw [← only_nil place]
              refine setNode_grows (ne_root plain) ?_
              rw [standing]
              exact .begun []
            refine .opened place _ (used ++ []) (asked.grows.trans begins)
              (fun other different => ?_) ?_
            · rw [content?_setNode_other after different]
              exact asked.contents other
            · rw [node?_setNode_self after (ne_root plain)]
              exact .file .empty
          · rw [if_neg creatable]
            exact .failed after used asked
  · rw [fault] at asked
    exact .failed after used asked

/-- What writing to an open file does to a disk. -/
inductive Appending (disk : Disk) (place : List String) (bytes : ByteArray) :
    Bool × Disk → Prop where
  /-- The call was made to fail, or the place is the device that takes no bytes. -/
  | failed (after : Disk) (used : List Bool) (quiet : Quiet disk after used)
      (reason : true ∈ used ∨ disk.node? place = some .full) :
      Appending disk place bytes (false, after)
  | written (after : Disk) (used : List Bool)
      (others : ∀ other, other ≠ place → after.content? other = disk.content? other)
      (grows : ∀ lines, bytes = Lines.bytes lines → Grows disk after used (only place lines)) :
      Appending disk place bytes (true, after)

/-- **Writing changes one file, at its end, or nothing.** -/
theorem append_cases (disk : Disk) {place : List String} (writable : Node.IsOpen (disk.node? place))
    (bytes : ByteArray) : Appending disk place bytes (disk.append place bytes) := by
  obtain ⟨used, asked, made⟩ := nextFault_quiet disk
  unfold append
  rcases fault : disk.nextFault with ⟨_ | _, after⟩
  · rw [fault] at asked
    have still := (asked.grows.nodes place).isOpen writable
    simp only
    cases standing : after.node? place with
    | none =>
      rw [standing] at still
      cases still
    | some node =>
      rw [standing] at still
      cases still with
      | full =>
        refine .failed after used asked (.inr ?_)
        have grown := asked.grows.nodes place
        rw [standing] at grown
        exact grown.eq_full
      | file content =>
        have below : place ≠ [] := by
          rintro rfl
          cases standing
        refine .written _ (used ++ []) (fun other different => ?_) fun lines whole => ?_
        · rw [content?_setNode_other after different]
          exact asked.contents other
        · have longer : Grows after (after.setNode place (.file (content ++ bytes))) []
              (only place lines) := by
            refine setNode_grows below ?_
            rw [standing, whole]
            exact .longer content lines
          exact asked.grows.trans longer
  · rw [fault] at asked
    exact .failed after used asked (.inl (made (by rw [fault])))

/-- **Making a file durable changes no file.** -/
theorem settle_quiet (disk : Disk) (place : List String) :
    ∃ used, Quiet disk (disk.settle place).2 used := by
  obtain ⟨used, asked, _⟩ := nextFault_quiet disk
  refine ⟨used, ?_⟩
  unfold settle
  rcases fault : disk.nextFault with ⟨_ | _, after⟩
  · rw [fault] at asked
    simp only
    rcases after.node? place with _ | (_ | _ | _ | _) <;> exact asked
  · rw [fault] at asked
    exact asked

end Disk

end MetricRelay
