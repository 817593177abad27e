import BusExporter.Commands.FinalFlush
import BusExporter.Foundation.Automaton

/-!
# Graceful shutdown

The order of a shutdown, as a protocol that the daemon follows. The exporters are
cancelled once, an exporter that has its provider flushes after that and once, and no
value is given to it after the flush; the wait for the collectors runs out of time once
at most. The main task completes only when such an exporter has flushed and the
collectors have returned, panicked or are out of time. Wherever the daemon is, it can
still complete, and in time.
-/

namespace BusExporter.RunCommand

open Foundation Collector

/-! ## The protocol -/

structure Shutdown where
  /-- The exporter has its provider. -/
  started : Bool
  cancelled : Bool
  flushed : Bool
  timedOut : Bool
  deriving DecidableEq

namespace Shutdown

/-- Where an event leads. -/
def next (k : Shutdown) : Event → Option Shutdown
  | .collector _ _ => some k
  | .started => if k.started then none else some { k with started := true }
  | .update _ => if k.started ∧ ¬ k.flushed then some k else none
  | .cancel => if k.cancelled then none else some { k with cancelled := true }
  | .flush _ =>
    if k.started ∧ k.cancelled ∧ ¬ k.flushed then some { k with flushed := true } else none
  | .timedOut => if k.cancelled ∧ ¬ k.timedOut then some { k with timedOut := true } else none

def protocol : Automaton Shutdown Event := ⟨⟨false, false, false, false⟩, next⟩

end Shutdown

/-- The exporter has its provider, or had it. -/
def ExporterLocation.started : ExporterLocation → Bool
  | absent | starting => false
  | waiting | flushing | stopped => true

/-- The state of the protocol that belongs to a state of the daemon. -/
structure State.Shows (s : State) (k : Shutdown) : Prop where
  serving : s.main = .serving ↔ s.cancelled = false
  started : k.started = s.exporter.started
  cancelled : k.cancelled = s.cancelled
  flushing : s.exporter = .flushing ∨ s.exporter = .stopped → s.cancelled = true
  flushed : k.flushed = true ↔ s.exporter = .stopped
  timedOut : k.timedOut = true → s.main = .awaiting ∨ s.main = .complete
  complete : s.main = .complete → s.exporter.ended = true

variable {daemon : Daemon} {s s' : State} {events history : List Event}

/-- The events of a collector lead nowhere. -/
theorem foldlM_collector (index : ℕ) (own : List Collector.Event) (k : Shutdown) :
    (own.map (Event.collector index)).foldlM Shutdown.next k = some k := by
  induction own with
  | nil => rfl
  | cons event own ih => exact ih

namespace State.Shows

variable {k : Shutdown} (shows : s.Shows k)
include shows

theorem cancelled_of_main (past : s.main ≠ .serving) : s.cancelled = true := by
  rw [← Bool.not_eq_false, ← shows.serving]
  exact past

theorem inTime (waiting : s.main ≠ .awaiting ∧ s.main ≠ .complete) : k.timedOut = false := by
  rw [← Bool.not_eq_true]
  exact fun late => (shows.timedOut late).elim waiting.1 waiting.2

theorem unflushed (running : s.exporter ≠ .stopped) : k.flushed = false := by
  rw [← Bool.not_eq_true, shows.flushed]
  exact running

theorem running (waited : s.exporter.ended = false) : s.main ≠ .complete := by
  intro complete
  rw [shows.complete complete] at waited
  cases waited

end State.Shows

theorem shows_of_transition {k : Shutdown} (shows : s.Shows k)
    (transition : Transition daemon s s' events) :
    ∃ k', events.foldlM Shutdown.next k = some k' ∧ s'.Shows k' := by
  obtain ⟨serving, started, cancelled, flushing, flushed, timedOut, complete⟩ := id shows
  cases transition with
  | collector at_index alive ran =>
    exact ⟨k, foldlM_collector _ _ k, serving, started, cancelled, flushing, flushed, timedOut,
      complete⟩
  | panicked at_index running =>
    exact ⟨k, rfl, serving, started, cancelled, flushing, flushed, timedOut, complete⟩
  | interrupt at_main =>
    have uncancelled := cancelled.trans (serving.mp at_main)
    have inTime := shows.inTime (by simp [at_main])
    exact ⟨{ k with cancelled := true }, by simp [Shutdown.next, uncancelled], by simp, started,
      rfl, fun _ => rfl, flushed, by simp [inTime], by simp⟩
  | shutdown at_main =>
    have past := shows.cancelled_of_main (by simp [at_main])
    have inTime := shows.inTime (by simp [at_main])
    exact ⟨k, rfl, by simp [past], started, cancelled, flushing, flushed, by simp [inTime],
      by simp⟩
  | joined at_main ended =>
    have past := shows.cancelled_of_main (by simp [at_main])
    exact ⟨k, rfl, by simp [State.dropSender, past], started, cancelled, flushing, flushed,
      fun _ => .inl rfl, by simp [State.dropSender]⟩
  | timedOut at_main =>
    have past := shows.cancelled_of_main (by simp [at_main])
    have inTime := shows.inTime (by simp [at_main])
    exact ⟨{ k with timedOut := true }, by simp [Shutdown.next, cancelled, past, inTime],
      by simp [State.dropSender, past], started, cancelled, flushing, flushed, fun _ => .inl rfl,
      by simp [State.dropSender]⟩
  | finished at_main ended =>
    have past := shows.cancelled_of_main (by simp [at_main])
    exact ⟨k, rfl, by simp [past], started, cancelled, flushing, flushed, fun _ => .inr rfl,
      fun _ => ended⟩
  | started starting =>
    -- The main task waits for the exporter, so it is not complete.
    have running := shows.running (by simp [starting, ExporterLocation.ended])
    have unflushed := shows.unflushed (by simp [starting])
    rw [starting] at started
    exact ⟨{ k with started := true }, by simp [Shutdown.next, started, ExporterLocation.started],
      serving, rfl, cancelled, by simp, by simp [unflushed], timedOut,
      fun complete => absurd complete running⟩
  | unstarted starting =>
    have unflushed := shows.unflushed (by simp [starting])
    rw [starting] at started
    exact ⟨k, rfl, serving, started, cancelled, by simp, by simp [unflushed], timedOut,
      fun _ => rfl⟩
  | ticked waiting =>
    have unflushed := shows.unflushed (by simp [waiting])
    rw [waiting] at started
    exact ⟨k, by simp [Shutdown.next, unflushed, started, ExporterLocation.started], serving,
      by simp [waiting, started], cancelled, flushing, flushed, timedOut, complete⟩
  | stopped waiting past =>
    have unflushed := shows.unflushed (by simp [waiting])
    have running := shows.running (by simp [waiting, ExporterLocation.ended])
    rw [waiting] at started
    exact ⟨k, rfl, serving, started, cancelled, fun _ => past, by simp [unflushed], timedOut,
      fun complete => absurd complete running⟩
  | flushed at_flush =>
    have unflushed := shows.unflushed (by simp [at_flush])
    have past := flushing (.inl at_flush)
    rw [at_flush] at started
    exact ⟨{ k with flushed := true },
      by simp [Shutdown.next, started, ExporterLocation.started, cancelled, past, unflushed],
      serving, started, cancelled, fun _ => past, by simp, timedOut, fun _ => rfl⟩

theorem shows_initial (daemon : Daemon) : daemon.initial.Shows Shutdown.protocol.start := by
  unfold Daemon.initial
  cases daemon.exports <;>
    exact ⟨by simp, rfl, rfl, by simp, by simp [Shutdown.protocol], by simp [Shutdown.protocol],
      by simp⟩

/-- Every run of the daemon follows the protocol. -/
theorem shows_of_reaches (reaches : daemon.machine.Reaches s history) :
    ∃ k, Shutdown.protocol.after history = some k ∧ s.Shows k :=
  Automaton.of_reaches State.Shows (shows_initial daemon)
    (fun _ _ shows stepped => shows_of_transition shows (transition_of_step stepped)) reaches

/-! ## The end -/

/-- The exporter can come to its end as soon as it is cancelled. -/
theorem leads_ended (s : State) (history : List Event) (cancelled : s.cancelled = true) :
    ∃ s' history', daemon.machine.Leads s history s' history' ∧ s'.exporter.ended = true ∧
      (.timedOut ∉ history → .timedOut ∉ history') := by
  cases exporter : s.exporter with
  | absent | stopped => exact ⟨s, history, .refl s history, by rw [exporter]; rfl, id⟩
  | starting =>
    exact ⟨_, _, .step (.provider false) (if_pos exporter) (.refl _ _), rfl, by simp⟩
  | flushing => exact ⟨_, _, .step .flush (if_pos exporter) (.refl _ _), rfl, by simp⟩
  | waiting =>
    have stops : daemon.machine.step s .stop = some ({ s with exporter := .flushing }, []) :=
      if_pos ⟨exporter, cancelled⟩
    have flushes : daemon.machine.step { s with exporter := .flushing } .flush =
        some ({ s with sharedMetrics := s.store.allMetricsFlat, exporter := .stopped },
          [.flush s.store.allMetricsFlat]) := rfl
    exact ⟨_, _, .step .stop stops (.step .flush flushes (.refl _ _)), rfl, by simp⟩

/-- The exporters can be cancelled. -/
theorem leads_cancelled {k : Shutdown} (shows : s.Shows k) :
    ∃ s' history', daemon.machine.Leads s history s' history' ∧ s'.cancelled = true ∧
      (.timedOut ∉ history → .timedOut ∉ history') := by
  by_cases serving : s.main = .serving
  · exact ⟨_, _, .step .interrupt (if_pos serving) (.refl _ _), rfl, by simp⟩
  · exact ⟨s, history, .refl s history, shows.cancelled_of_main serving, id⟩

/-- From every state of a run the daemon can complete, and without running out of time if it
has not done so already. -/
theorem canComplete (reaches : daemon.machine.Reaches s history) :
    ∃ s' history', daemon.machine.Leads s history s' history' ∧ s'.main = .complete ∧
      (.timedOut ∉ history → .timedOut ∉ history') := by
  obtain ⟨k, -, shows⟩ := shows_of_reaches reaches
  obtain ⟨s₁, history₁, cancels, cancelled, inTime₁⟩ := @leads_cancelled daemon _ history _ shows
  obtain ⟨s₂, history₂, stops, ended, inTime₂⟩ := @leads_ended daemon s₁ history₁ cancelled
  have inv := daemonInv_of_leads (daemonInv_of_reaches reaches) (cancels.trans stops)
  -- What is left to the main task depends on how far it has come.
  by_cases past : s₂.main = .awaiting ∨ s₂.main = .complete
  · rcases past with awaiting | complete
    · have finished : daemon.machine.Leads s₂ history₂ { s₂ with main := .complete } history₂ :=
        .step .finish (if_pos ⟨awaiting, ended⟩) (.refl _ _)
      exact ⟨_, _, (cancels.trans stops).trans finished, rfl, inTime₂ ∘ inTime₁⟩
    · exact ⟨s₂, history₂, cancels.trans stops, complete, inTime₂ ∘ inTime₁⟩
  · rw [not_or] at past
    obtain ⟨s₃, history₃, completes, complete⟩ := exists_complete inv ended past
    exact ⟨s₃, history₃, (cancels.trans stops).trans completes.leads, complete,
      completes.inTime ∘ inTime₂ ∘ inTime₁⟩

/-- How a run of the daemon shuts down. -/
structure ShutsDown (daemon : Daemon) (s : State) (history : List Event) : Prop where
  /-- At the end the exporter has flushed exactly if it ever had a provider. -/
  follows : ∃ k, Shutdown.protocol.after history = some k ∧
    (s.main = .complete → k.cancelled = true ∧ k.flushed = k.started)
  joined : s.main = .complete → .timedOut ∈ history ∨ ∀ c ∈ s.collectors, c.Ended
  completes : ∃ s' history', daemon.machine.Leads s history s' history' ∧ s'.main = .complete ∧
    (.timedOut ∉ history → .timedOut ∉ history')

end BusExporter.RunCommand
