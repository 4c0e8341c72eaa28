import WindowHost.Proofs.Record

/-!
# Calls that settle sizes

Over recorded devices the readings of the size of the framebuffer and the waits are counted. A wait
follows directly after each reading of a size without an area, and nothing else does
(`WaitsExactly`). A change of size reads the size once more than it waits (`Round`). Handing over a
batch makes such calls and no others that have to do with sizes, unless a wait is given up
(`Ends.sizings`).
-/

namespace WindowHost

variable {W α β Raw Frame : Type}

/-! ## Readings and waits -/

namespace Call

def isWait : Call α Raw Frame → Bool
  | .wait _ => true
  | _ => false

/-- Whether a call reads the size of the framebuffer. -/
def isReading : Call α Raw Frame → Bool
  | .framebufferSize _ => true
  | _ => false

/-- Whether a call reads a size without an area. -/
def readsEmpty : Call α Raw Frame → Bool
  | .framebufferSize size => size.isEmpty
  | _ => false

/-- Whether a call has to do with the size of the framebuffer. -/
def isSizing : Call α Raw Frame → Bool
  | .framebufferSize _ | .wait _ | .resize .. => true
  | _ => false

end Call

/-- Every call is a wait if and only if the call before it has read a size without an area. At the
start a wait may be due, at the end none is. -/
def WaitsExactly (due : Bool) : List (Call α Raw Frame) → Prop
  | [] => due = false
  | call :: calls => call.isWait = due ∧ WaitsExactly call.readsEmpty calls

section WaitsExactly

variable {due : Bool} {calls calls' : List (Call α Raw Frame)}

theorem WaitsExactly.append (h : WaitsExactly due calls) (h' : WaitsExactly false calls') :
    WaitsExactly due (calls ++ calls') := by
  induction calls generalizing due with
  | nil =>
    obtain rfl : due = false := h
    exact h'
  | cons call calls ih => exact ⟨h.1, ih h.2⟩

theorem WaitsExactly.countP_isWait (h : WaitsExactly due calls) :
    calls.countP Call.isWait = due.toNat + calls.countP Call.readsEmpty := by
  induction calls generalizing due with
  | nil =>
    obtain rfl : due = false := h
    rfl
  | cons call calls ih =>
    obtain ⟨hcall, hrest⟩ := h
    have hcount := ih hrest
    rw [List.countP_cons, List.countP_cons, hcall, hcount]
    cases due <;> cases call.readsEmpty <;> simp <;> omega

end WaitsExactly

/-- A change of size: how it was settled, and what the renderer has answered to the new size. -/
structure Round (α Raw : Type) where
  settling : Settling α Raw
  outcome : Except BackendError Unit

def Round.calls (x : Round α Raw) : List (Call α Raw Frame) :=
  x.settling.calls ++ [.resize x.settling.size x.outcome]

/-- There was a wait after each size without an area, and the last size has an area. -/
def Settling.Exact (g : Settling α Raw) : Prop :=
  (∀ x ∈ g.waits, x.1.isEmpty = true) ∧ g.size.isEmpty = false

theorem Waits.forall_isEmpty {p : Platform W α Raw} {w w' : W} {g : Settling α Raw}
    (h : Waits p w g w') : ∀ x ∈ g.waits, x.1.isEmpty = true := by
  induction h with
  | last _ => nofun
  | again _ hempty _ _ ih => exact List.forall_mem_cons.2 ⟨hempty, ih⟩

namespace Settling

theorem calls_cons (x : Extent × List (Report α Raw)) (waits : List (Extent × List (Report α Raw)))
    (size : Extent) :
    ((⟨x :: waits, size⟩ : Settling α Raw).calls : List (Call α Raw Frame)) =
      .framebufferSize x.1 :: .wait x.2 :: (⟨waits, size⟩ : Settling α Raw).calls := rfl

theorem countP_isWait (g : Settling α Raw) :
    (g.calls : List (Call α Raw Frame)).countP Call.isWait = g.waits.length := by
  obtain ⟨waits, size⟩ := g
  induction waits with
  | nil => rfl
  | cons x waits ih =>
    rw [calls_cons, List.countP_cons_of_neg Bool.false_ne_true, List.countP_cons_of_pos rfl, ih]
    rfl

theorem countP_isReading (g : Settling α Raw) :
    (g.calls : List (Call α Raw Frame)).countP Call.isReading = g.waits.length + 1 := by
  obtain ⟨waits, size⟩ := g
  induction waits with
  | nil => rfl
  | cons x waits ih =>
    rw [calls_cons, List.countP_cons_of_pos rfl, List.countP_cons_of_neg Bool.false_ne_true, ih]
    rfl

theorem countP_readsEmpty {g : Settling α Raw} (h : ∀ x ∈ g.waits, x.1.isEmpty = true) :
    (g.calls : List (Call α Raw Frame)).countP Call.readsEmpty =
      g.waits.length + g.size.isEmpty.toNat := by
  obtain ⟨waits, size⟩ := g
  induction waits with
  | nil =>
    show List.countP Call.readsEmpty [.framebufferSize size] = _
    rw [List.countP_singleton]
    cases hsize : size.isEmpty <;> simp [Call.readsEmpty, hsize]
  | cons x waits ih =>
    obtain ⟨hfirst, hrest⟩ := List.forall_mem_cons.1 h
    have hempty : (.framebufferSize x.1 : Call α Raw Frame).readsEmpty = true := hfirst
    rw [calls_cons, List.countP_cons_of_pos hempty, List.countP_cons_of_neg Bool.false_ne_true,
      ih hrest]
    exact Nat.add_right_comm _ _ _

theorem Exact.waitsExactly {g : Settling α Raw} (h : g.Exact) :
    WaitsExactly false (g.calls : List (Call α Raw Frame)) := by
  obtain ⟨waits, size⟩ := g
  obtain ⟨hwaits, hsize⟩ := h
  induction waits with
  | nil => exact ⟨rfl, hsize⟩
  | cons x waits ih =>
    obtain ⟨hfirst, hrest⟩ := List.forall_mem_cons.1 hwaits
    exact ⟨rfl, hfirst.symm, ih hrest hsize⟩

end Settling

/-- Calls that settle changes of size, one after the other, with other calls around each. -/
structure Sizings (calls : List (Call α Raw Frame)) : Prop where
  waits : WaitsExactly false calls
  rounds : ∃ rounds : List (Round α Raw),
    calls.filter Call.isSizing = rounds.flatMap Round.calls ∧ ∀ x ∈ rounds, x.settling.Exact

namespace Sizings

variable {calls calls' : List (Call α Raw Frame)}

theorem append (h : Sizings calls) (h' : Sizings calls') : Sizings (calls ++ calls') := by
  obtain ⟨rounds, hcalls, hexact⟩ := h.rounds
  obtain ⟨rounds', hcalls', hexact'⟩ := h'.rounds
  refine ⟨h.waits.append h'.waits, rounds ++ rounds', ?_,
    List.forall_mem_append.2 ⟨hexact, hexact'⟩⟩
  rw [List.filter_append, List.flatMap_append, hcalls, hcalls']

theorem cons_idle {call : Call α Raw Frame} (hcall : call.isSizing = false) (h : Sizings calls) :
    Sizings (call :: calls) := by
  obtain ⟨rounds, hcalls, hexact⟩ := h.rounds
  refine ⟨?_, rounds, ?_, hexact⟩
  · cases call with
    | wait | framebufferSize | resize => cases hcall
    | _ => exact ⟨rfl, h.waits⟩
  · rw [List.filter_cons_of_neg (by simp [hcall]), hcalls]

theorem of_idle (h : ∀ call ∈ calls, call.isSizing = false) : Sizings calls := by
  induction calls with
  | nil => exact ⟨rfl, [], rfl, nofun⟩
  | cons call calls ih =>
    obtain ⟨hcall, hrest⟩ := List.forall_mem_cons.1 h
    exact (ih hrest).cons_idle hcall

end Sizings

theorem Round.sizings {x : Round α Raw} (h : x.settling.Exact) :
    Sizings (x.calls : List (Call α Raw Frame)) := by
  have hresize : WaitsExactly false
      [(.resize x.settling.size x.outcome : Call α Raw Frame)] := ⟨rfl, rfl⟩
  refine ⟨h.waitsExactly.append hresize, [x], ?_, List.forall_mem_singleton.2 h⟩
  rw [List.flatMap_singleton, List.filter_eq_self]
  intro call hcall
  rcases List.mem_append.1 hcall with hcall | hcall
  · rcases List.mem_append.1 hcall with hcall | hcall
    · obtain ⟨y, -, hy⟩ := List.mem_flatMap.1 hcall
      rcases List.mem_cons.1 hy with rfl | hy
      · rfl
      · obtain rfl := List.mem_singleton.1 hy
        rfl
    · obtain rfl := List.mem_singleton.1 hcall
      rfl
  · obtain rfl := List.mem_singleton.1 hcall
    rfl

theorem Round.countP_isReading (x : Round α Raw) :
    (x.calls : List (Call α Raw Frame)).countP Call.isReading =
      (x.calls : List (Call α Raw Frame)).countP Call.isWait + 1 := by
  rw [Round.calls, List.countP_append, List.countP_append, x.settling.countP_isReading,
    x.settling.countP_isWait]
  rfl

theorem Report.countP_isWait (r : Report α Raw) :
    (r.calls : List (Call α Raw Frame)).countP Call.isWait = 0 := by
  rcases r with ⟨o, _ | raw⟩ <;> rfl

theorem Report.sizings (r : Report α Raw) : Sizings (r.calls : List (Call α Raw Frame)) := by
  refine .of_idle fun call hcall => ?_
  obtain ⟨raw, -, rfl⟩ := List.mem_map.1 hcall
  rfl

namespace Window

open Recorded (Adds adds_nil adds_singleton adds_waits adds_resize)

section Ends

variable [Scalar α] [Narrowing α β] {d : Devices W α Raw Frame}
  {s s' : RecordedWindow W α β Raw Frame} {size : Extent} {batch : List (Report α Raw)}
  {ds : List (Delivery α Raw)} {p : Except Halt Unit × RecordedWindow W α β Raw Frame}

theorem Path.sizings (h : Path d.recorded size s ds s') :
    Sizings (ds.flatMap Delivery.calls : List (Call α Raw Frame)) := by
  induction h with
  | nil => exact .of_idle nofun
  | @plain size s s' r ds _ _ ih => exact r.sizings.append ih
  | @resized size s s' r g w₁ w₂ ds _ hw hg _ _ ih =>
    have hround : Sizings (Round.calls ⟨g, .ok ()⟩ : List (Call α Raw Frame)) :=
      Round.sizings ⟨hw.forall_isEmpty, hg⟩
    have hcalls := (r.sizings.append hround).append ih
    rw [Round.calls, ← List.append_assoc] at hcalls
    exact hcalls

/-- Handing over a batch settles changes of size, unless a wait is given up. -/
theorem Ends.sizings (h : Ends d.recorded s batch ds p) (hp : p.1 ≠ .error .stalled) :
    ∃ calls, Adds d s.world calls p.2.world ∧ Sizings calls := by
  cases h with
  | done _ hpath => exact ⟨_, hpath.adds, hpath.sizings⟩
  | @refused s₁ r g _ _ _ e _ hpath hw hg hd =>
    have hround : Sizings (Round.calls ⟨g, .error e⟩ : List (Call α Raw Frame)) :=
      Round.sizings ⟨hw.forall_isEmpty, hg⟩
    have hcalls := r.sizings.append hround
    rw [Round.calls, ← List.append_assoc] at hcalls
    exact ⟨_, hpath.adds.append (Recorded.adds_settled hw hd), hpath.sizings.append hcalls⟩
  | stalled => exact absurd rfl hp

end Ends

end Window

end WindowHost
