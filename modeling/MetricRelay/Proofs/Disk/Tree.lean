/-
**Where paths lead.**

What a path leads to depends on the directories of a disk and on where paths start. A disk that
grows keeps both, so a path leads where it led (`Disk.Grows.place?`), and a file that is opened
stands where its path leads (`Disk.openAppend_place?`).
-/

import MetricRelay.Proofs.Disk.Growth

namespace MetricRelay

namespace Disk

section Grows

variable {before after : Disk} {used : List Bool} {written : List String → List String}
  (grows : Grows before after used written)

include grows

/-- A directory stays one. -/
theorem Grows.isDirectory {place : List String} (directory : before.isDirectory place = true) :
    after.isDirectory place = true := by
  have grown := grows.nodes place
  unfold Disk.isDirectory at directory ⊢
  generalize before.node? place = first at directory grown
  generalize after.node? place = last at grown ⊢
  generalize written place = lines at grown
  cases grown with
  | same => exact directory
  | directory | begun | longer => cases directory

theorem Grows.follow {place found : List String} {components : List Path.Component}
    (leads : before.follow place components = some found) :
    after.follow place components = some found := by
  induction components generalizing place with
  | nil => exact leads
  | cons component rest ih =>
    unfold Disk.follow at leads ⊢
    by_cases directory : before.isDirectory place = true
    · rw [if_pos directory] at leads
      rw [if_pos (grows.isDirectory directory)]
      obtain ⟨next, entered, leads⟩ := Option.bind_eq_some_iff.mp leads
      rw [entered, Option.bind_some]
      exact ih leads
    · rw [if_neg directory] at leads
      cases leads

/-- **A path leads where it led.** -/
theorem Grows.place? {path : Path} {place : List String}
    (leads : before.place? path = some place) : after.place? path = some place := by
  have begins : after.start path.components = before.start path.components := by
    unfold start
    rw [grows.working]
  unfold Disk.place? at leads ⊢
  by_cases usable : isUsable path = true
  · simp only [usable, Bool.not_true, Bool.false_eq_true, if_false] at leads ⊢
    obtain ⟨found, followed, leads⟩ := Option.bind_eq_some_iff.mp leads
    rw [begins, grows.follow followed]
    by_cases missing : (path.namesDirectory && !before.isDirectory found) = true
    · rw [if_pos missing] at leads
      cases leads
    · rw [if_neg missing] at leads
      have there : ¬ (path.namesDirectory && !after.isDirectory found) = true := by
        intro missingAfter
        rw [Bool.and_eq_true, Bool.not_eq_true'] at missing missingAfter
        refine missing ⟨missingAfter.1, Bool.eq_false_iff.mpr fun directory => ?_⟩
        rw [grows.isDirectory directory] at missingAfter
        cases missingAfter.2
      show (if _ then _ else _) = _
      rw [if_neg there]
      exact leads
  · simp only [usable, Bool.not_false, if_true] at leads
    cases leads

end Grows

/-- **A file that is opened** stands where its path leads. -/
theorem openAppend_place? {disk after : Disk} {path : Path} {place : List String}
    (opened : disk.openAppend path = (some place, after)) : after.place? path = some place := by
  unfold openAppend at opened
  rcases fault : disk.nextFault with ⟨_ | _, asked⟩
  · rw [fault] at opened
    simp only at opened
    cases found : asked.place? path with
    | none =>
      rw [found] at opened
      cases opened
    | some other =>
      rw [found] at opened
      simp only at opened
      by_cases directory : asked.isDirectory other = true
      · rw [if_pos directory] at opened
        cases opened
      · rw [if_neg directory] at opened
        cases standing : asked.node? other with
        | some node =>
          rw [standing, if_pos Option.isSome_some] at opened
          cases opened
          exact found
        | none =>
          rw [standing, if_neg (by simp)] at opened
          by_cases creatable : asked.canCreate other = true
          · rw [if_pos creatable] at opened
            cases opened
            have below := ne_root (Bool.eq_false_iff.mpr directory)
            exact (setNode_grows below (by rw [standing]; exact .begun [])).place? found
          · rw [if_neg creatable] at opened
            cases opened
  · rw [fault] at opened
    cases opened

end Disk

end MetricRelay
