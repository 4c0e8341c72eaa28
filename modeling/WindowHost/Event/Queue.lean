import WindowHost.Event

/-!
# The event queue

Events wait in a `Queue` until the host program asks for them, all that pass a filter at once with
`Queue.drain`, or one at a time with `Queue.consumeOne?`, which puts it into the current slot.
-/

namespace WindowHost.Event

/-- Waiting events, oldest first, beside a slot for the event at hand. -/
structure Queue where
  /-- The events that wait, oldest first. -/
  waiting : List Event := []
  /-- The event that was taken last, or that the host program has put there. -/
  current : Event := {}
  deriving DecidableEq, Repr, Inhabited

namespace Queue

def size (q : Queue) : Nat := q.waiting.length

def isEmpty (q : Queue) : Bool := q.waiting.isEmpty

/-- A new event joins at the end. -/
def push (q : Queue) (e : Event) : Queue := { q with waiting := q.waiting ++ [e] }

/-- Goes through the events, takes those that pass the filter and keeps the others. -/
def sift (q : Queue) (filter : Kind) : List Event × Queue :=
  let (taken, kept) := q.waiting.partition (Event.passes filter)
  (taken, { q with waiting := kept })

/-- Takes all events that pass the filter, and leaves the others in their order. Without a filter
the queue is emptied at once. -/
def drain (q : Queue) (filter : Kind) : List Event × Queue :=
  if filter = .any then (q.waiting, { q with waiting := [] }) else q.sift filter

/-- Moves the first event that passes the filter from its place into the current slot, if there is
one. -/
def consumeOne? (q : Queue) (filter : Kind) : Option Queue := do
  let place ← q.waiting.findIdx? (Event.passes filter)
  let e ← q.waiting[place]?
  some { waiting := q.waiting.eraseIdx place, current := e }

/-- Moves the first event that passes the filter into the current slot, and tells whether there was
one. -/
def consumeOne (q : Queue) (filter : Kind) : Bool × Queue :=
  match q.consumeOne? filter with
  | some q' => (true, q')
  | none => (false, q)

/-- Puts an event into the current slot. -/
def setCurrent (q : Queue) (e : Event) : Queue := { q with current := e }

@[simp] theorem waiting_push (q : Queue) (e : Event) : (q.push e).waiting = q.waiting ++ [e] := rfl

@[simp] theorem current_push (q : Queue) (e : Event) : (q.push e).current = q.current := rfl

@[simp] theorem sift_eq (q : Queue) (filter : Kind) :
    q.sift filter = (q.waiting.filter (Event.passes filter),
      { q with waiting := q.waiting.filter (! Event.passes filter ·) }) := by
  simp [sift, Function.comp_def]

theorem drain_eq_sift (q : Queue) (filter : Kind) : q.drain filter = q.sift filter := by
  by_cases hany : filter = .any
  · have hall : q.waiting.filter (Event.passes filter) = q.waiting :=
      List.filter_eq_self.2 fun e _ => hany ▸ e.passes_any
    have hnone : q.waiting.filter (! Event.passes filter ·) = [] :=
      List.filter_eq_nil_iff.2 fun e _ => by rw [hany, e.passes_any]; decide
    rw [sift_eq, hall, hnone]
    exact if_pos hany
  · exact if_neg hany

@[simp] theorem drain_fst (q : Queue) (filter : Kind) :
    (q.drain filter).1 = q.waiting.filter (Event.passes filter) := by
  rw [drain_eq_sift, sift_eq]

@[simp] theorem drain_snd_waiting (q : Queue) (filter : Kind) :
    (q.drain filter).2.waiting = q.waiting.filter (! Event.passes filter ·) := by
  rw [drain_eq_sift, sift_eq]

/-- The event at the place that was found is the first that passes, and that one is erased. -/
theorem consumeOne?_eq (q : Queue) (filter : Kind) :
    q.consumeOne? filter = (q.waiting.find? (Event.passes filter)).map fun e =>
      { waiting := q.waiting.eraseP (Event.passes filter), current := e } := by
  unfold consumeOne?
  rcases hplace : q.waiting.findIdx? (Event.passes filter) with _ | place
  · rw [List.find?_eq_none.2 (by simpa using hplace)]
    rfl
  · obtain ⟨-, hfound⟩ := List.findIdx?_eq_some_iff_findIdx_eq.1 hplace
    rw [List.find?_eq_getElem?_findIdx, hfound, List.eraseP_eq_eraseIdx, hplace]
    exact Option.map_eq_bind.symm

end Queue

end WindowHost.Event
