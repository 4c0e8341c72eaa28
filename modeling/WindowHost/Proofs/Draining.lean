import WindowHost.Event.Queue

/-!
# Events at once and one by one

A host program takes the events that pass a filter all at once with `Queue.drain`, or one at a time
until there are none left, which is `Queue.consumeAll`. One event after the other comes into the
current slot as `drain` would have listed them, and the same queue is left (`drain_one_by_one`).
-/

namespace WindowHost.Event.Queue

variable {q q' : Queue} {filter : Kind}

/-! ## One event -/

/-- What passes a filter starts with the event that is found first, and goes on with what passes
when that event is erased; what does not pass stays. -/
theorem filter_of_find? {α : Type} {p : α → Bool} {l : List α} {e : α} (h : l.find? p = some e) :
    l.filter p = e :: (l.eraseP p).filter p ∧
      (l.eraseP p).filter (! p ·) = l.filter (! p ·) := by
  obtain ⟨he, before, after, rfl, hbefore⟩ := List.find?_eq_some_iff_append.1 h
  have hnone : ∀ a ∈ before, ¬ p a = true := by simpa using hbefore
  have herase : (before ++ e :: after).eraseP p = before ++ after := by
    rw [List.eraseP_append_right _ hnone, List.eraseP_cons_of_pos he]
  rw [herase, List.filter_append, List.filter_append, List.filter_append, List.filter_append,
    List.filter_eq_nil_iff.2 hnone, List.filter_cons_of_pos he,
    List.filter_cons_of_neg (by simp [he])]
  exact ⟨rfl, rfl⟩

theorem consumeOne_eq (q : Queue) (filter : Kind) :
    q.consumeOne filter =
      match q.waiting.find? (Event.passes filter) with
      | some e => (true, { waiting := q.waiting.eraseP (Event.passes filter), current := e })
      | none => (false, q) := by
  rw [consumeOne, consumeOne?_eq]
  rcases q.waiting.find? (Event.passes filter) with _ | e <;> rfl

/-- The event that is consumed is the one that would have been drained first. -/
theorem drain_of_consumeOne (h : q.consumeOne filter = (true, q')) :
    q.drain filter =
      (q'.current :: (q'.drain filter).1, (q'.drain filter).2.setCurrent q.current) := by
  rw [consumeOne_eq] at h
  rcases hfind : q.waiting.find? (Event.passes filter) with _ | e
  · rw [hfind] at h
    cases h
  · rw [hfind] at h
    obtain rfl := (Prod.mk.inj h).2
    obtain ⟨htaken, hkept⟩ := filter_of_find? hfind
    rw [drain_eq_sift, sift_eq, drain_eq_sift, sift_eq, htaken, ← hkept]
    rfl

/-- Where there is nothing to consume there is nothing to drain, and the queue stays as it is. -/
theorem drain_of_not_consumeOne (h : q.consumeOne filter = (false, q')) :
    q' = q ∧ q.drain filter = ([], q) := by
  rw [consumeOne_eq] at h
  rcases hfind : q.waiting.find? (Event.passes filter) with _ | e
  · rw [hfind] at h
    have hnone : ∀ e ∈ q.waiting, ¬ Event.passes filter e = true := List.find?_eq_none.1 hfind
    refine ⟨(Prod.mk.inj h).2.symm, ?_⟩
    rw [drain_eq_sift, sift_eq, List.filter_eq_nil_iff.2 hnone,
      List.filter_eq_self.2 fun e he => by simpa using hnone e he]
  · rw [hfind] at h
    cases h

theorem length_of_consumeOne (h : q.consumeOne filter = (true, q')) :
    (q'.drain filter).1.length < (q.drain filter).1.length := by
  rw [drain_of_consumeOne h, List.length_cons]
  exact Nat.lt_succ_self _

/-! ## One event after the other -/

/-- Consumes events until there is none that passes the filter. Every call gives its answer and what
is in the current slot then; the queue is what the last call leaves. -/
def consumeAll (filter : Kind) (q : Queue) : List (Bool × Event) × Queue :=
  match _ : q.consumeOne filter with
  | (true, q') =>
    let (calls, rest) := consumeAll filter q'
    ((true, q'.current) :: calls, rest)
  | (false, q') => ([(false, q'.current)], q')
termination_by (q.drain filter).1.length
decreasing_by exact length_of_consumeOne ‹_›

theorem consumeAll_eq (filter : Kind) (q : Queue) :
    q.consumeAll filter =
      ((q.drain filter).1.map (true, ·) ++ [(false, (q.drain filter).1.getLastD q.current)],
        (q.drain filter).2.setCurrent ((q.drain filter).1.getLastD q.current)) := by
  fun_induction consumeAll filter q with
  | case1 q q' h calls rest hrest ih =>
    obtain ⟨rfl, rfl⟩ := Prod.mk.inj (hrest.symm.trans ih)
    rw [drain_of_consumeOne h, List.getLastD_cons]
    rfl
  | case2 q q' h =>
    obtain ⟨rfl, hdrain⟩ := drain_of_not_consumeOne h
    rw [hdrain]
    rfl

/-! ## Two filters -/

/-- No event passes two filters for different kinds. -/
theorem passes_apart {e : Event} {filter filter' : Kind} (hany : filter ≠ .any)
    (hany' : filter' ≠ .any) (hne : filter ≠ filter') (h : e.passes filter = true) :
    e.passes filter' = false := by
  obtain rfl : e.kind = filter := by simpa [Event.passes, Kind.passes, hany] using h
  simpa [Event.passes, Kind.passes, hany'] using hne

/-- Filters for different kinds do not interfere: after the first, the second takes what it would
have taken before, and in the end there stays what passes neither. -/
theorem drain_drain {filter filter' : Kind} (hany : filter ≠ .any) (hany' : filter' ≠ .any)
    (hne : filter ≠ filter') (q : Queue) :
    (q.drain filter).2.drain filter' = ((q.drain filter').1,
      { q with waiting := q.waiting.filter fun e => ! e.passes filter && ! e.passes filter' }) := by
  have hsame (e : Event) : (e.passes filter' && ! e.passes filter) = e.passes filter' := by
    rcases hf : e.passes filter' with _ | _
    · rfl
    · rw [passes_apart hany' hany hne.symm hf]
      rfl
  simp only [drain_eq_sift, sift_eq, List.filter_filter, hsame, Bool.and_comm]

/-- Whatever waits in the queue, and whatever the filter: draining takes the events that pass, in
their order, and leaves the others in theirs. Consuming one event after the other brings the same
events into the current slot in the same order and leaves the same queue. It ends with the first
call that finds nothing, after one call for each event, and such a call leaves queue and slot as
they were. To empty the queue at once is what the way through all events would do where each of them
passes. And presses and releases can be drained in either order. -/
theorem drain_one_by_one (q : Queue) (filter : Kind) :
    q.drain filter = (q.waiting.filter (Event.passes filter),
        { q with waiting := q.waiting.filter (! Event.passes filter ·) }) ∧
      q.consumeAll filter =
        ((q.drain filter).1.map (true, ·) ++ [(false, (q.drain filter).1.getLastD q.current)],
          (q.drain filter).2.setCurrent ((q.drain filter).1.getLastD q.current)) ∧
      (q.consumeAll filter).1.length = (q.waiting.filter (Event.passes filter)).length + 1 ∧
      (q.consumeOne filter = (false, q) ∨ ∃ q', q.consumeOne filter = (true, q')) ∧
      q.drain .any = q.sift .any ∧
      ∃ rest, (q.drain .press).2.drain .release = ((q.drain .release).1, rest) ∧
        (q.drain .release).2.drain .press = ((q.drain .press).1, rest) := by
  refine ⟨?_, consumeAll_eq filter q, ?_, ?_, drain_eq_sift q .any, ?_⟩
  · rw [drain_eq_sift, sift_eq]
  · rw [consumeAll_eq, List.length_append, List.length_map, drain_fst]
    rfl
  · rcases hone : q.consumeOne filter with ⟨_ | _, q'⟩
    · exact .inl (congrArg (false, ·) (drain_of_not_consumeOne hone).1)
    · exact .inr ⟨q', rfl⟩
  · refine ⟨_, drain_drain (by decide) (by decide) (by decide) q, ?_⟩
    rw [drain_drain (by decide) (by decide) (by decide) q]
    simp only [Bool.and_comm]

/-- A press is taken from the middle of a queue, before an event that only passes `any`. -/
example :
    let q : Queue := { waiting := [⟨.release, "B"⟩, ⟨.press, "A"⟩, ⟨.any, "C"⟩, ⟨.press, "D"⟩] }
    q.consumeOne .press =
      (true, ⟨[⟨.release, "B"⟩, ⟨.any, "C"⟩, ⟨.press, "D"⟩], ⟨.press, "A"⟩⟩) := by
  decide

end WindowHost.Event.Queue
