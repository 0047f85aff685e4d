/-
**Ids are kept as they are spelled.**

An application id starts with `app` and is free apart from that. An executor id is a numeral, so it
holds a sign and digits only. That is why a host tag can be taken apart again
(`HostTag.of_injective`): the last underscore in it is the one that joins the host name and the
executor.
-/

import MetricRelay.Proofs.Disk.Join
import MetricRelay.Proofs.Text.Numeral
import MetricRelay.Stream.Identity

namespace MetricRelay

/-- An application id is a text that starts with the mark, as it was spelled. -/
theorem ApplicationId.parse?_eq_some_iff {text : String} {application : ApplicationId} :
    parse? text = some application ↔ application = ⟨text⟩ ∧ mark <+: text.toList := by
  unfold parse?
  rw [Option.ite_none_right_eq_some, List.isPrefixOf_iff_prefix, Option.some.injEq, and_comm,
    eq_comm]

/-- An executor id is a numeral of a value that 32 bits hold, as it was spelled. -/
theorem ExecutorId.parse?_eq_some_iff {text : String} {executor : ExecutorId} :
    parse? text = some executor ↔ executor = ⟨text⟩ ∧
      ∃ n, Text.Numeral text.toList n ∧ -2 ^ 31 ≤ n ∧ n ≤ 2 ^ 31 - 1 := by
  have bounds (n : Int) : inRange n = true ↔ -2 ^ 31 ≤ n ∧ n ≤ 2 ^ 31 - 1 := by
    rw [inRange, Bool.and_eq_true, decide_eq_true_eq, decide_eq_true_eq]
    omega
  unfold parse?
  constructor
  · intro parsed
    split at parsed
    next n read =>
      obtain ⟨within, same⟩ := Option.ite_none_right_eq_some.mp parsed
      exact ⟨(Option.some.inj same).symm, n, Text.integer?_eq_some_iff.mp read, (bounds n).mp within⟩
    next => cases parsed
  · rintro ⟨rfl, n, numeral, within⟩
    rw [Text.integer?_eq_some_iff.mpr numeral]
    exact if_pos ((bounds n).mpr within)

/-- What is neither a sign nor a digit stands in no executor id. -/
theorem ExecutorId.notMem {text : String} {executor : ExecutorId}
    (parsed : parse? text = some executor) {c : Char}
    (other : ¬ (c = '+' ∨ c = '-' ∨ c.isDigit = true)) : c ∉ executor.text.toList := by
  obtain ⟨rfl, n, numeral, _⟩ := parse?_eq_some_iff.mp parsed
  exact numeral.notMem other

/-- Two lists that are joined by an element which both second parts lack have the same parts. -/
theorem eq_of_append_cons {α : Type} [BEq α] [LawfulBEq α] {separator : α}
    {front back otherFront otherBack : List α} (free : separator ∉ back)
    (otherFree : separator ∉ otherBack)
    (same : front ++ separator :: back = otherFront ++ separator :: otherBack) :
    front = otherFront ∧ back = otherBack := by
  have parts := congrArg (List.splitOn separator) same
  rw [List.splitOn_append_cons_self, List.splitOn_append_cons_self,
    List.splitOn_eq_singleton free, List.splitOn_eq_singleton otherFree] at parts
  obtain ⟨fronts, backs⟩ := List.append_inj' parts rfl
  refine ⟨?_, List.singleton_inj.mp backs⟩
  have joined := congrArg (List.intercalate [separator]) fronts
  rwa [List.intercalate_splitOn, List.intercalate_splitOn] at joined

/-- **A host tag determines its host name and its executor.** -/
theorem HostTag.of_injective {hostname otherHostname text otherText : String}
    {executor otherExecutor : ExecutorId} (parsed : ExecutorId.parse? text = some executor)
    (otherParsed : ExecutorId.parse? otherText = some otherExecutor)
    (same : HostTag.of hostname executor = HostTag.of otherHostname otherExecutor) :
    hostname = otherHostname ∧ executor = otherExecutor := by
  have texts : hostname.toList ++ '_' :: executor.text.toList =
      otherHostname.toList ++ '_' :: otherExecutor.text.toList := by
    simpa [HostTag.of] using congrArg (fun tag => tag.text.toList) same
  obtain ⟨hostnames, executors⟩ := eq_of_append_cons (ExecutorId.notMem parsed (by decide))
    (ExecutorId.notMem otherParsed (by decide)) texts
  exact ⟨String.toList_injective hostnames,
    congrArg ExecutorId.mk (String.toList_injective executors)⟩

end MetricRelay
