/-
**Runs over another sink.**

A batcher reads nothing of its sink but the results of the calls. So a map between sinks that keeps
all results carries steps to steps, case by case, and runs to runs (`Batcher.run_withSink`). The
results need to be kept only as long as the sink stays good, whatever that is.

The log of a logged sink can be forgotten that way (`Batcher.run_forget`).
-/

import MetricRelay.Proofs.Batch.Cases

namespace MetricRelay

namespace Batcher

variable {σ τ : Type} [Sink σ] [Sink τ] {good : σ → Prop} {project : σ → τ} {batcher : Batcher σ}

/-- A call of a batcher, as its sink and the image of its sink see it. -/
theorem follow (follows : Sink.Follows good project) (call : SinkCall) {sink after : σ}
    {result : Except Failure Unit} (made : call.perform sink = (result, after))
    (held : good after) : good sink ∧ call.perform (project sink) = (result, project after) := by
  have followed := follows call sink
  rw [made] at followed
  exact followed held

theorem Closing.withSink (follows : Sink.Follows good project) {stream : StreamKey}
    {timestamp : Int} {result : Bool × Batcher σ} (closing : Closing batcher stream timestamp result)
    (held : good result.2.sink) : good batcher.sink ∧
      Closing (batcher.withSink project) stream timestamp (result.1, result.2.withSink project) := by
  cases closing with
  | empty void => exact ⟨held, .empty void⟩
  | lost failure sink full emit =>
    obtain ⟨before, emitted⟩ := follow follows (.emitted _) emit held
    exact ⟨before, .lost failure (project sink) full emitted⟩
  | delivered sink full emit early =>
    obtain ⟨before, emitted⟩ := follow follows (.emitted _) emit held
    exact ⟨before, .delivered (project sink) full emitted early⟩
  | settled sink after full emit due sync =>
    obtain ⟨between, synced⟩ := follow follows .synced sync held
    obtain ⟨before, emitted⟩ := follow follows (.emitted _) emit between
    exact ⟨before, .settled (project sink) (project after) full emitted due synced⟩
  | unsettled sink after failure full emit due sync =>
    obtain ⟨between, synced⟩ := follow follows .synced sync held
    obtain ⟨before, emitted⟩ := follow follows (.emitted _) emit between
    exact ⟨before, .unsettled (project sink) (project after) failure full emitted due synced⟩

omit [Sink σ] [Sink τ] in
theorem mergeSample_withSink (project : σ → τ) (batcher : Batcher σ) (path : List String)
    (value : Measure) (offer : Offer) :
    (batcher.withSink project).mergeSample path value offer =
      ((batcher.mergeSample path value offer).1,
        (batcher.mergeSample path value offer).2.withSink project) := by
  unfold mergeSample
  simp only [show (batcher.withSink project).record = batcher.record from rfl]
  rcases batcher.record.merge path value with ⟨record, outcome⟩
  cases outcome <;> rfl

theorem Taking.withSink (follows : Sink.Follows good project) {sample : Offered}
    {result : Offer × Batcher σ} (taking : Taking batcher sample result)
    (held : good result.2.sink) : good batcher.sink ∧
      Taking (batcher.withSink project) sample (result.1, result.2.withSink project) := by
  cases taking with
  | stopped phase => exact ⟨held, .stopped phase⟩
  | waiting phase failed => exact ⟨held, .waiting phase failed⟩
  | refused failure sink phase ready call =>
    obtain ⟨before, opened⟩ := follow follows (.opened _) call held
    exact ⟨before, .refused failure (project sink) phase ready opened⟩
  | adopted sink phase ready call =>
    rw [mergeSample_sink] at held
    obtain ⟨before, opened⟩ := follow follows (.opened _) call held
    rw [← mergeSample_withSink]
    exact ⟨before, .adopted (project sink) phase ready opened⟩
  | foreign stream before phase known other =>
    exact ⟨held, .foreign stream before phase known other⟩
  | joined phase own =>
    rw [mergeSample_sink] at held
    rw [← mergeSample_withSink]
    exact ⟨held, .joined phase own⟩
  | rolled before emitted closed phase own different closing =>
    rw [mergeSample_sink] at held
    obtain ⟨begun, closes⟩ := closing.withSink follows held
    rw [← mergeSample_withSink]
    exact ⟨begun, .rolled before emitted (closed.withSink project) phase own different closes⟩

theorem Stopping.withSink (follows : Sink.Follows good project) {after : Batcher σ}
    (stopping : Stopping batcher after) (held : good after.sink) :
    good batcher.sink ∧ Stopping (batcher.withSink project) (after.withSink project) := by
  cases stopping with
  | again phase => exact ⟨held, .again phase⟩
  | unused phase => exact ⟨held, .unused phase⟩
  | empty stream before result sink phase known void close =>
    obtain ⟨begun, closed⟩ := follow follows .closed close held
    exact ⟨begun, .empty stream before result (project sink) phase known void closed⟩
  | lost stream before failure result sink after phase known full emit close =>
    obtain ⟨between, closed⟩ := follow follows .closed close held
    obtain ⟨begun, emitted⟩ := follow follows (.emitted _) emit between
    exact ⟨begun, .lost stream before failure result (project sink) (project after) phase known full
      emitted closed⟩
  | delivered stream before result sink after phase known full emit close =>
    obtain ⟨between, closed⟩ := follow follows .closed close held
    obtain ⟨begun, emitted⟩ := follow follows (.emitted _) emit between
    exact ⟨begun, .delivered stream before result (project sink) (project after) phase known full
      emitted closed⟩

theorem next_withSink (follows : Sink.Follows good project) (consistent : batcher.Consistent)
    (event : Event) (held : good (batcher.next event).sink) : good batcher.sink ∧
      (batcher.withSink project).next event = (batcher.next event).withSink project := by
  have alike : (batcher.withSink project).Consistent := consistent
  cases event with
  | cycle => exact ⟨held, rfl⟩
  | offer sample =>
    obtain ⟨before, taken⟩ := (take_cases consistent sample).withSink follows held
    exact ⟨before, congrArg Prod.snd (taken.eq alike)⟩
  | stop =>
    obtain ⟨before, stopped⟩ := (stop_cases consistent).withSink follows held
    exact ⟨before, stopped.eq alike⟩

/-- **A map between sinks that keeps all results carries runs to runs.** -/
theorem run_withSink (follows : Sink.Follows good project) (consistent : batcher.Consistent)
    (events : List Event) (held : good (batcher.run events).sink) : good batcher.sink ∧
      (batcher.withSink project).run events = (batcher.run events).withSink project := by
  induction events generalizing batcher with
  | nil => exact ⟨held, rfl⟩
  | cons event events ih =>
    obtain ⟨middle, later⟩ := ih (next_consistent consistent event) held
    obtain ⟨before, first⟩ := next_withSink follows consistent event middle
    exact ⟨before, by rw [run_cons, first, later, run_cons]⟩

omit [Sink τ] in
/-- **A run over a logged sink is a run over the sink,** and a log of its calls. -/
theorem run_forget (sink : σ) (hostname : String) (syncEvery : Nat) (events : List Event) :
    ((logged sink hostname syncEvery).run events).forget =
      (new sink hostname syncEvery).run events :=
  (run_withSink Logged.follows_sink (logged_consistent sink hostname syncEvery []) events
    trivial).2.symm

end Batcher

end MetricRelay
