import Mathlib.Tactic.TypeStar

/-!
# Watching something that changes

A source changes as it likes, and each change sets an event. A reader waits for the event, clears it
and reads the source; what it has read it works on until the round is over, while the source may
change again. It clears the event before it reads, so no change is lost.

* `Reader`, `Watched` -- how far the reader has come, what it watches, and what its last round read;
* `Watched.change`, `Watched.signal`, `Watched.rearm`, ... -- what happens;
* `Watched.Current` -- what the reader has is what the source has, or the event is set; every step
  keeps it.
-/

namespace Xencons.Lib

variable {α : Type*}

/-- How far the reader has come. -/
inductive Reader (α : Type*) where
  | waits
  | awake
  | holds (a : α)

/-- A source and its reader. -/
structure Watched (α : Type*) where
  source : α
  /-- a change sets the event -/
  armed : Bool
  event : Bool
  reader : Reader α
  /-- what the last round has read, unless it has given up -/
  seen : Option α

namespace Watched

def init (a : α) : Watched α := ⟨a, false, false, .waits, none⟩

def change (w : Watched α) (a : α) : Watched α :=
  { w with source := a, event := w.event || w.armed }

/-- Somebody else sets the event. -/
def signal (w : Watched α) : Watched α := { w with event := true }

/-- Whether changes set the event from now on. Who arms the watch sets the event. -/
def rearm (w : Watched α) (armed : Bool) (wakes : Bool) : Watched α :=
  { w with armed := armed, event := w.event || wakes }

/-- The reader wakes up, and clears the event. -/
def wake (w : Watched α) : Watched α := { w with event := false, reader := .awake }

def read (w : Watched α) : Watched α := { w with reader := .holds w.source }

/-- The round is over, with nothing done. -/
def giveUp (w : Watched α) : Watched α := { w with reader := .waits, seen := none }

/-- The round is over. -/
def finish (w : Watched α) (a : α) : Watched α := { w with reader := .waits, seen := some a }

/-- What the reader has against a source. -/
def UpToDate (w : Watched α) : Prop :=
  match w.reader with
  | .waits => ∀ a, w.seen = some a → w.source = a
  | .awake => True
  | .holds a => w.source = a

/-- **No change is lost.** -/
def Current (w : Watched α) : Prop := w.armed = true → w.event = true ∨ w.UpToDate

variable {w : Watched α}

theorem Current.init (a : α) : (Watched.init a).Current := fun h => by cases h

theorem Current.change (w : Watched α) (a : α) : (w.change a).Current := by
  intro harmed
  have harmed : w.armed = true := harmed
  exact .inl (by simp [Watched.change, harmed])

theorem Current.signal (w : Watched α) : w.signal.Current := fun _ => .inl rfl

theorem Current.rearm (h : w.Current) {armed wakes : Bool}
    (ha : armed = true → w.armed = true ∨ wakes = true) : (w.rearm armed wakes).Current := by
  intro harmed
  rcases ha harmed with harmed | hwakes
  · rcases h harmed with hevent | hseen
    · exact .inl (by simp [Watched.rearm, hevent])
    · exact .inr hseen
  · exact .inl (by simp [Watched.rearm, hwakes])

theorem Current.wake (w : Watched α) : w.wake.Current := fun _ => .inr trivial

theorem Current.read (w : Watched α) : w.read.Current := fun _ => .inr rfl

theorem Current.giveUp (w : Watched α) : w.giveUp.Current :=
  fun _ => .inr fun _ h => by cases h

theorem Current.finish (h : w.Current) {a : α} (hr : w.reader = .holds a) :
    (w.finish a).Current := by
  intro harmed
  refine (h harmed).imp_right fun hseen a' ha' => ?_
  obtain rfl : a = a' := Option.some.inj ha'
  unfold UpToDate at hseen
  rwa [hr] at hseen

/-- **Who waits for an event that is clear has seen what there is.** -/
theorem Current.seen (h : w.Current) (harmed : w.armed = true) (hevent : w.event = false)
    (hr : w.reader = .waits) {a : α} (ha : w.seen = some a) : w.source = a := by
  rcases h harmed with hset | hseen
  · cases hevent.symm.trans hset
  · unfold UpToDate at hseen
    rw [hr] at hseen
    exact hseen a ha

end Watched

end Xencons.Lib
