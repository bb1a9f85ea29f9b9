import PageLoom.Watch.Event

set_option autoImplicit false

/-! # Bursts of changes

Changes come in bursts. A debouncer answers each change that matters by stopping the timer it set
last and setting another one, so that the callback runs once, a fixed delay after the last change of
a burst. Times are whole milliseconds on a clock that starts at zero. -/

namespace PageLoom
namespace Watch

/-- A timer that is running. -/
structure Timer where
  /-- How many timers were set before it. -/
  number : Nat
  /-- When it runs out. -/
  due : Int
  deriving DecidableEq, Repr

/-- The delay, and the timers that were set with it. -/
structure Debouncer where
  delay : Int
  /-- The timers that are running, first to last. -/
  running : List Timer
  /-- The number of the timer that was set last, until it is dropped. It may have run out. -/
  held : Option Nat
  /-- How many timers were set. -/
  made : Nat
  deriving DecidableEq, Repr

namespace Debouncer

/-- No timer was set yet. -/
def idle (delay : Int) : Debouncer := ⟨delay, [], none, 0⟩

/-- Stops the timer that is held; one that has run out is past stopping. -/
def stopHeld (d : Debouncer) : Debouncer :=
  { d with running := d.running.filter fun t => d.held ≠ some t.number }

/-- Sets the timer anew. -/
def trigger (d : Debouncer) (now : Int) : Debouncer :=
  { d.stopHeld with
    running := d.stopHeld.running ++ [⟨d.made, now + d.delay⟩]
    held := some d.made
    made := d.made + 1 }

/-- Drops the timer. -/
def cancel (d : Debouncer) : Debouncer := { d.stopHeld with held := none }

/-- Lets the time pass up to `now`: timers due by then run out, and their times are given back in
    order. -/
def expire (d : Debouncer) (now : Int) : Debouncer × List Int :=
  ({ d with running := d.running.filter fun t => now < t.due },
    ((d.running.filter fun t => t.due ≤ now).map Timer.due).mergeSort)

/-- The time at which a timer runs out next, if one is running. -/
def due (d : Debouncer) : Option Int := (d.running.map Timer.due).min?

end Debouncer

/-- What a debouncer is told, in order. -/
inductive Signal where
  /-- Time passes. -/
  | advance (time : Nat)
  | trigger
  | cancel
  | change (change : Change)
  deriving DecidableEq, Repr

/-- A debouncer on its clock, with the times at which the callback ran. -/
structure Timeline where
  now : Int
  debouncer : Debouncer
  /-- The times at which the callback ran, first to last. -/
  runs : List Int
  deriving DecidableEq, Repr

namespace Timeline

/-- The clock at zero. -/
def start (delay : Int) : Timeline := ⟨0, .idle delay, []⟩

/-- What a failed callback notes. -/
def failureNote (report : Text) : Entry := .error ("Change callback failed: " ++ report)

/-- The timer is set anew now. -/
def trigger (l : Timeline) : Timeline := { l with debouncer := l.debouncer.trigger l.now }

/-- One signal. `outcome` says with which report the callback fails when it runs for the n-th time,
    counted from zero, if it fails. -/
def step (extensions : List Text) (outcome : Nat → Option Text) (l : Timeline) :
    Signal → Timeline × List Entry
  | .advance time =>
      let now := l.now + time
      let (d, times) := l.debouncer.expire now
      (⟨now, d, l.runs ++ times⟩,
        (times.zipIdx l.runs.length).flatMap fun run => (outcome run.2).toList.map failureNote)
  | .trigger => (l.trigger, [])
  | .cancel => ({ l with debouncer := l.debouncer.cancel }, [])
  | .change c =>
      match c.relevant? extensions with
      | some path => (l.trigger, [Change.note path])
      | none => (l, [])

/-- One signal after the other, with all that is noted. -/
def follow (extensions : List Text) (outcome : Nat → Option Text) (l : Timeline) :
    List Signal → Timeline × List Entry
  | [] => (l, [])
  | s :: rest =>
      let (next, notes) := step extensions outcome l s
      let (last, more) := follow extensions outcome next rest
      (last, notes ++ more)

end Timeline
end Watch
end PageLoom
