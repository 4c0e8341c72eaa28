import WindowHost.Proofs.Nesting
import WindowHost.Proofs.Pumping

/-!
# How often a window waits

A pump ends if the framebuffer keeps an area from some point on (`Devices.Settles`), however changes
of size are nested in what the waits bring, and its calls are those of `Sizings`. That takes
patience for as many waits as there can be: any number of them that is large enough will do
(`FinishesWithin`), and so does the patience of a platform that knows how often a wait can help.
-/

namespace WindowHost

variable {W α β Raw Frame : Type}

/-- From a world on, so many sizes without an area are read at most, whatever is called. -/
def Devices.Settles (d : Devices W α Raw Frame) (w : W) (n : Nat) : Prop :=
  ∀ calls w', d.Trace w calls w' → calls.countP Call.readsEmpty ≤ n

namespace Devices.Settles

variable {d : Devices W α Raw Frame} {w w' : W} {n : Nat} {calls : List (Call α Raw Frame)}

theorem mono {n' : Nat} (h : d.Settles w n) (hn : n ≤ n') : d.Settles w n' :=
  fun calls w' htrace => Nat.le_trans (h calls w' htrace) hn

/-- Each size without an area that was read is one less to come. -/
theorem spent (h : d.Settles w n) (htrace : d.Trace w calls w') :
    d.Settles w' (n - calls.countP Call.readsEmpty) := by
  intro calls' w'' htrace'
  have hle := h _ _ (htrace.append htrace')
  rw [List.countP_append] at hle
  omega

theorem after (h : d.Settles w n) (htrace : d.Trace w calls w') : d.Settles w' n :=
  (h.spent htrace).mono (Nat.sub_le _ _)

/-- A wait that is not given up before it has lasted as long as the bound ends with an area:
otherwise it would have read too many sizes without one. -/
theorem nonempty {w w' : Recorded W α Raw Frame} {g : Settling α Raw} (h : d.Settles w.world n)
    (hwaits : Waits d.recorded.platform w g w')
    (hspent : g.size.isEmpty = true → n ≤ g.waits.length) : g.size.isEmpty = false := by
  rcases hsize : g.size.isEmpty with _ | _
  · rfl
  · have hlong := hspent hsize
    have hle := h _ _ (Recorded.adds_waits hwaits).trace
    rw [Settling.countP_readsEmpty hwaits.forall_isEmpty, hsize, Bool.toNat_true] at hle
    omega

end Devices.Settles

/-! ## Hope -/

section Hope

variable {d : Devices W α Raw Frame}

theorem Waits.forget {w w' : Recorded W α Raw Frame} {g : Settling α Raw}
    (h : Waits d.recorded.platform w g w') : Waits d.platform w.world g w'.world := by
  induction h with
  | @last w w' size hread =>
    obtain ⟨rfl, rfl⟩ := Prod.mk.inj hread
    exact .last rfl
  | @again w w₁ w₂ w₃ size batch g hread hsize hwait _ ih =>
    obtain ⟨rfl, rfl⟩ := Prod.mk.inj hread
    obtain ⟨rfl, rfl⟩ := Prod.mk.inj hwait
    exact .again rfl hsize rfl ih

theorem Patient.recorded (hd : Patient d) : Patient d.recorded where
  read w := hd.read w.world
  wait w := hd.wait w.world
  forward raw w := hd.forward raw w.world
  resize size w := hd.resize size w.world
  last w hpatience hempty g _ hwaits := hd.last w.world hpatience hempty g _ hwaits.forget

/-- While sizes without an area are bounded, a wait has hope. -/
theorem Devices.Settles.not_hopeless {s : RecordedWindow W α β Raw Frame} {n : Nat}
    (h : d.Settles s.world.world n) : ¬ Hopeless d.recorded.platform s.world := by
  intro hopeless
  obtain ⟨g, w, hwaits, -, hspent, -⟩ := Window.exec_awaitSize d.recorded n s
  have hempty := hopeless g w hwaits
  rw [h.nonempty hwaits hspent] at hempty
  cases hempty

end Hope

namespace Window

open Recorded (Adds adds_nil adds_singleton adds_waits adds_resize)

section Ends

variable [Scalar α] [Narrowing α β] {d : Devices W α Raw Frame} {n : Nat}
  {s : RecordedWindow W α β Raw Frame} {batch : List (Report α Raw)} {ds : List (Delivery α Raw)}
  {p : Except Halt Unit × RecordedWindow W α β Raw Frame}

/-- A batch is handed over to its end, or to a size that the renderer refuses. -/
theorem Ends.ne_stalled (hd : Patient d) (hs : d.Settles s.world.world n)
    (h : Ends d.recorded s batch ds p) : p.1 ≠ .error .stalled := by
  cases h with
  | done => nofun
  | refused => nofun
  | @stalled s₁ r _ _ _ _ hpath _ _ hopeless =>
    have hforward : Adds d s₁.world r.calls (r.forward d.recorded.gui s₁.world) :=
      Recorded.adds_forward r s₁.world
    have hlater := hs.after (hpath.adds.append hforward).trace
    have hhope := Devices.Settles.not_hopeless (s := s₁.inWorld _) hlater
    exact absurd (hopeless hd.recorded) hhope

end Ends

/-! ## Coming to an end -/

/-- A run from a window comes to an end, after calls that settle changes of size. -/
def Finished (d : Devices W α Raw Frame) (s : RecordedWindow W α β Raw Frame)
    (p : Except Halt Unit × RecordedWindow W α β Raw Frame) : Prop :=
  p.1 ≠ .error .stalled ∧ ∃ calls, Adds d s.world calls p.2.world ∧ Sizings calls

/-- Where at most so many sizes without an area are to come, `m` comes to an end. -/
def FinishesWithin (d : Devices W α Raw Frame) (n : Nat)
    (m : WindowM (Recorded W α Raw Frame) α β Unit) : Prop :=
  ∀ s, d.Settles s.world.world n → Finished d s (exec m s)

section Finishes

variable {d : Devices W α Raw Frame} {n patience : Nat} {s t : RecordedWindow W α β Raw Frame}
  {p : Except Halt Unit × RecordedWindow W α β Raw Frame} {calls : List (Call α Raw Frame)}
  {m m' : WindowM (Recorded W α Raw Frame) α β Unit}
  {follow : List (Report α Raw) → WindowM (Recorded W α Raw Frame) α β Unit}

theorem Finished.after (h : Finished d t p) (hadds : Adds d s.world calls t.world)
    (hcalls : Sizings calls) : Finished d s p := by
  obtain ⟨hend, calls', hadds', hcalls'⟩ := h
  exact ⟨hend, _, hadds.append hadds', hcalls.append hcalls'⟩

theorem finished_ok (h : t.world = s.world) : Finished d s (.ok (), t) :=
  ⟨nofun, [], h ▸ adds_nil, .of_idle nofun⟩

/-- What comes next comes to an end if it does wherever the first part succeeds. -/
theorem Finished.bind (h : Finished d s (exec m s))
    (h' : ∀ s₁, (exec m s) = (.ok (), s₁) → Finished d s₁ (exec m' s₁)) :
    Finished d s (exec (m >>= fun _ => m') s) := by
  rw [exec_bind]
  rcases hexec : exec m s with ⟨e | ⟨⟩, s₁⟩
  · rw [hexec] at h
    obtain ⟨hend, hcalls⟩ := h
    exact ⟨fun hstalled => hend (by cases hstalled; rfl), hcalls⟩
  · rw [hexec] at h
    obtain ⟨-, calls, hadds, hcalls⟩ := h
    exact (h' s₁ hexec).after hadds hcalls

theorem FinishesWithin.bind (hm : FinishesWithin d n m) (hm' : FinishesWithin d n m') :
    FinishesWithin d n (m >>= fun _ => m') := by
  intro s hs
  refine (hm s hs).bind fun s₁ hexec => hm' s₁ ?_
  obtain ⟨-, calls, hadds, -⟩ := hm s hs
  rw [hexec] at hadds
  exact hs.after hadds.trace

theorem finishesWithin_forM {γ : Type} {h : γ → WindowM (Recorded W α Raw Frame) α β Unit}
    (hfinishes : ∀ x, FinishesWithin d n (h x)) (xs : List γ) :
    FinishesWithin d n (xs.forM h) := by
  induction xs with
  | nil => exact fun s _ => finished_ok rfl
  | cons x xs ih => exact (hfinishes x).bind ih

/-- Settling a size takes patience for the waits that can come. If it has waited, what follows has
one size without an area less to come; if not, nothing follows. -/
theorem finishesWithin_settleSize (hpatience : n ≤ patience)
    (hnone : ∀ s, exec (follow []) s = (.ok (), s))
    (hfollow : ∀ rs, 0 < n → FinishesWithin d (n - 1) (follow rs)) :
    FinishesWithin d n (settleSize d.recorded patience follow) := by
  intro s hs
  obtain ⟨g, w, hg, -, hspent, hexec⟩ := exec_settleSize d.recorded patience follow s
  have hsize := hs.nonempty hg fun hempty => Nat.le_trans hpatience (hspent hempty)
  have hempty := hg.forall_isEmpty
  rw [hexec, hsize, if_neg Bool.false_ne_true]
  rcases hresize : d.recorded.renderer.resize g.size w with ⟨outcome, w'⟩
  have hadds : Adds d s.world (Round.calls ⟨g, outcome⟩) w' :=
    (adds_waits hg).append (adds_resize hresize)
  have hround : Sizings (Round.calls ⟨g, outcome⟩ : List (Call α Raw Frame)) :=
    Round.sizings ⟨hempty, hsize⟩
  have hleft : d.Settles w'.world (n - g.waits.length) := by
    have hcount : (g.calls : List (Call α Raw Frame)).countP Call.readsEmpty =
        g.waits.length + g.size.isEmpty.toNat := Settling.countP_readsEmpty hempty
    rw [hsize, Bool.toNat_false, Nat.add_zero] at hcount
    rw [← hcount]
    exact (hs.spent (adds_waits hg).trace).after (adds_resize hresize).trace
  have hwaited : g.waits.length ≤ n := by
    have hle := hs _ _ (adds_waits hg).trace
    rw [Settling.countP_readsEmpty hempty] at hle
    omega
  rcases outcome with e | ⟨⟩
  · exact ⟨nofun, _, hadds, hround⟩
  · refine Finished.after (t := (s.inWorld w').withSize g.size) ?_ hadds hround
    rcases hdeferred : g.deferred with _ | ⟨r, rs⟩
    · show Finished d _ (exec (follow []) _)
      rw [hnone]
      exact finished_ok rfl
    · have hpos : 0 < g.waits.length :=
        Settling.length_pos_of_deferred (by rw [hdeferred]; exact List.cons_ne_nil r rs)
      exact hfollow (r :: rs) (by omega) _ (hleft.mono (by omega))

variable [Scalar α] [Narrowing α β]

theorem finishesWithin_handle (hpatience : n ≤ patience)
    (hnone : ∀ s, exec (follow []) s = (.ok (), s))
    (hfollow : ∀ rs, 0 < n → FinishesWithin d (n - 1) (follow rs)) (r : Report α Raw) :
    FinishesWithin d n (handle d.recorded patience follow r) := by
  intro s hs
  have hforward : Adds d s.world r.calls (r.forward d.recorded.gui s.world) :=
    Recorded.adds_forward r s.world
  rw [exec_handle]
  refine Finished.after (t := s.inWorld (r.forward d.recorded.gui s.world)) ?_ hforward r.sizings
  rcases r.occurrence with _ | o
  · exact finished_ok rfl
  · cases o with
    | resized size =>
      exact finishesWithin_settleSize hpatience hnone hfollow _ (hs.after hforward.trace)
    | _ => exact finished_ok rfl

/-- Patience for each wait that can come lets a dispatch come to an end. -/
theorem finishesWithin_dispatch (hpatience : n ≤ patience) (reports : List (Report α Raw)) :
    FinishesWithin d n (dispatch d.recorded patience reports : WindowM _ α β _) := by
  induction patience generalizing n reports with
  | zero =>
    -- no wait can come, and so nothing follows
    exact finishesWithin_forM (finishesWithin_handle hpatience (fun _ => rfl)
      fun _ hpos => absurd (Nat.lt_of_lt_of_le hpos hpatience) (Nat.lt_irrefl 0)) reports
  | succ patience ih =>
    exact finishesWithin_forM (finishesWithin_handle hpatience (exec_dispatch_nil _ patience)
      fun rs _ => ih (by omega) rs) reports

omit [Scalar α] [Narrowing α β] in
theorem finishesWithin_ifAny (h : ∀ rs, FinishesWithin d n (follow rs))
    (rs : List (Report α Raw)) : FinishesWithin d n (ifAny follow rs) := by
  rcases rs with _ | ⟨r, rs⟩
  · exact fun s _ => finished_ok rfl
  · exact h (r :: rs)

theorem finishesWithin_dispatchWithin (hpatience : n ≤ patience) {levels : Nat}
    (hlevels : n < levels) (reports : List (Report α Raw)) :
    FinishesWithin d n (dispatchWithin d.recorded patience levels reports : WindowM _ α β _) := by
  induction levels generalizing n reports with
  | zero => exact absurd hlevels (Nat.not_lt_zero _)
  | succ levels ih =>
    exact finishesWithin_forM (finishesWithin_handle hpatience (fun _ => rfl)
      fun rs _ => finishesWithin_ifAny (ih (by omega) (by omega)) rs) reports

theorem finishesWithin_resizeWithin (hpatience : n ≤ patience) {levels : Nat}
    (hlevels : n ≤ levels) :
    FinishesWithin d n (resizeWithin d.recorded levels patience : WindowM _ α β _) :=
  finishesWithin_settleSize hpatience (fun _ => rfl) fun rs _ =>
    finishesWithin_ifAny (finishesWithin_dispatchWithin (by omega) (by omega)) rs

end Finishes

/-! ## Waiting out the sizes without an area -/

/-- What is true of a run from a window that comes to an end after some calls. `within` is the run
with so many levels of dispatch and so much patience. -/
structure WaitsOut (d : Devices W α Raw Frame) (n : Nat) (s : RecordedWindow W α β Raw Frame)
    (p : Except Halt Unit × RecordedWindow W α β Raw Frame)
    (within : Nat → Nat → Except Halt Unit × RecordedWindow W α β Raw Frame)
    (calls : List (Call α Raw Frame)) : Prop where
  ends : p.1 ≠ .error .stalled
  adds : Adds d s.world calls p.2.world
  waits : WaitsExactly false calls
  count : calls.countP Call.isWait = calls.countP Call.readsEmpty
  bound : calls.countP Call.isWait ≤ n
  /-- A change of size reads the size once more than it waits, and there are no other waits. -/
  rounds : ∃ rounds : List (Round α Raw),
    calls.filter Call.isSizing = rounds.flatMap Round.calls ∧
      ∀ x ∈ rounds, x.settling.Exact ∧
        (x.calls : List (Call α Raw Frame)).countP Call.isReading =
          (x.calls : List (Call α Raw Frame)).countP Call.isWait + 1
  nesting : ∀ levels patience, calls.countP Call.isWait < levels →
    calls.countP Call.isWait ≤ patience → within levels patience = p

section WaitsOut

variable {d : Devices W α Raw Frame} {n : Nat} {s : RecordedWindow W α β Raw Frame}
  {m : WindowM (Recorded W α Raw Frame) α β Unit}
  {m' : Nat → Nat → WindowM (Recorded W α Raw Frame) α β Unit} {calls : List (Call α Raw Frame)}

theorem Finished.waitsOut (hfinished : Finished d s (exec m s)) (hs : d.Settles s.world.world n)
    (hagrees : ∀ waits levels patience, waits < levels → waits ≤ patience →
      Agrees waits m (m' levels patience)) :
    ∃ calls, WaitsOut d n s (exec m s) (fun levels patience => exec (m' levels patience) s)
      calls := by
  obtain ⟨hend, calls, hadds, hcalls⟩ := hfinished
  have hcount : calls.countP Call.isWait = calls.countP Call.readsEmpty := by
    simpa using hcalls.waits.countP_isWait
  obtain ⟨rounds, hrounds, hexact⟩ := hcalls.rounds
  exact ⟨calls, {
    ends := hend
    adds := hadds
    waits := hcalls.waits
    count := hcount
    bound := Nat.le_trans (Nat.le_of_eq hcount) (hs _ _ hadds.trace)
    rounds := ⟨rounds, hrounds, fun x hx => ⟨hexact x hx, x.countP_isReading⟩⟩
    nesting := fun levels patience hlevels hpatience =>
      hagrees _ levels patience hlevels hpatience s hend (Nat.le_of_eq hadds.waited_eq) }⟩

/-- The waits are those that have joined the record. -/
theorem WaitsOut.countP_isWait {p : Except Halt Unit × RecordedWindow W α β Raw Frame}
    {within : Nat → Nat → Except Halt Unit × RecordedWindow W α β Raw Frame} {k : Nat}
    (h : WaitsOut d n s p within calls) (hbefore : s.world.waited = 0)
    (hafter : p.2.world.waited = k) : calls.countP Call.isWait = k := by
  rw [← hafter, h.adds.waited_eq, hbefore, Nat.zero_add]

/-- Opening a window comes to an end if settling its first size does: a flawed configuration is
refused, and a hidden window settles no size. -/
theorem Finished.opening {settle : WindowM (Recorded W α Raw Frame) α β Unit}
    (hsettle : Finished d s (exec settle s)) (config : Config) :
    Finished d s (exec (opening d.recorded settle config) s) := by
  have hprepare (s : RecordedWindow W α β Raw Frame) :
      Finished d s (exec (prepareForNextFrame d.recorded) s) := by
    have hrenderer : Adds d s.world [.prepareRenderer] (d.recorded.renderer.prepare s.world) :=
      adds_singleton (.prepareRenderer s.world.world) rfl
    have hgui : Adds d (d.recorded.renderer.prepare s.world) [.prepareGui]
        (d.recorded.gui.prepare (d.recorded.renderer.prepare s.world)) :=
      adds_singleton (.prepareGui (d.renderer.prepare s.world.world)) rfl
    exact ⟨nofun, _, hrenderer.append hgui, .of_idle (by simp [Call.isSizing])⟩
  rcases hflaw : config.flaw? with _ | flaw
  · rcases hshow : config.showWindow with _ | _
    · rw [exec_opening_hidden hflaw hshow]
      exact hprepare s
    · rw [exec_opening_visible hflaw hshow]
      exact hsettle.bind fun s₁ _ => hprepare s₁
  · rw [exec_opening_of_flaw hflaw]
    exact ⟨nofun, [], adds_nil, .of_idle nofun⟩

variable [Scalar α] [Narrowing α β]

theorem Ends.finished {batch : List (Report α Raw)} {ds : List (Delivery α Raw)}
    {p : Except Halt Unit × RecordedWindow W α β Raw Frame} (hd : Patient d)
    (hs : d.Settles s.world.world n) (h : Ends d.recorded s batch ds p) : Finished d s p :=
  ⟨h.ne_stalled hd hs, h.sizings (h.ne_stalled hd hs)⟩

/-- A change of size comes to an end with patience for the waits that can come, and with the
patience of a platform that knows how often a wait can help. -/
theorem finished_resize (hwired : s.Wired) (hs : d.Settles s.world.world n)
    (hpatience : Patient d ∨ n ≤ d.platform.patience s.world.world) :
    Finished d s (exec (resize d.recorded) s) := by
  rcases hpatience with hd | hpatience
  · obtain ⟨ds, hends⟩ := exec_resize_ends d.recorded s hwired
    exact hends.finished hd hs
  · rw [resize, exec_bind_of_ok (exec_get _)]
    exact finishesWithin_settleSize hpatience (exec_dispatch_nil _ _)
      (fun rs _ => finishesWithin_dispatch (Nat.sub_le_sub_right hpatience 1) rs) s hs

omit [Scalar α] [Narrowing α β] in
/-- A pump comes to an end if it does after the poll. -/
theorem Finished.polled {p : Except Halt Unit × RecordedWindow W α β Raw Frame}
    (h : Finished d (s.inWorld (d.recorded.platform.poll s.world).2) p) : Finished d s p :=
  h.after (Recorded.adds_poll s.world) (.of_idle (by simp [Call.isSizing]))

theorem finished_pump (hwired : s.Wired) (hs : d.Settles s.world.world n)
    (hpatience : Patient d ∨ n ≤ d.platform.patience (d.platform.poll s.world.world).2) :
    Finished d s (exec (pump d.recorded) s) := by
  have hleft : d.Settles (d.platform.poll s.world.world).2 n :=
    hs.after (Recorded.adds_poll s.world).trace
  rcases hpatience with hd | hpatience
  · obtain ⟨ds, hends⟩ := exec_pump_ends d.recorded s hwired
    exact (hends.finished hd hleft).polled
  · rw [pump, exec_bind_of_ok (exec_ask _ _), exec_bind_of_ok (exec_get _)]
    exact (finishesWithin_dispatch hpatience _ _ hleft).polled

theorem finished_pumpWithin {patience levels : Nat} (hs : d.Settles s.world.world n)
    (hpatience : n ≤ patience) (hlevels : n < levels) :
    Finished d s (exec (pumpWithin d.recorded levels patience) s) := by
  have hleft : d.Settles (d.platform.poll s.world.world).2 n :=
    hs.after (Recorded.adds_poll s.world).trace
  rw [pumpWithin, exec_bind_of_ok (exec_ask _ _)]
  exact (finishesWithin_dispatchWithin hpatience hlevels _ _ hleft).polled

end WaitsOut

/-- How opening a window waits, in this run of it. -/
def OpeningWaits [Scalar α] [Narrowing α β] [Scalar β] (d : Devices W α Raw Frame) (n : Nat)
    (config : Config) (world : W) (p : Except Halt Unit × RecordedWindow W α β Raw Frame) : Prop :=
  ∃ calls, WaitsOut d n (fresh d.recorded config ⟨world, []⟩) p
    (fun levels patience => openWithin d.recorded levels patience config ⟨world, []⟩) calls

/-- Opening a window waits as it should if the way in which it settles its first size comes to an
end, and is the one with limited room where that suffices. -/
theorem openingWaits [Scalar α] [Narrowing α β] [Scalar β] {d : Devices W α Raw Frame} {n : Nat}
    {config : Config} {world : W} {settle : WindowM (Recorded W α Raw Frame) α β Unit}
    (hs : d.Settles world n)
    (hsettle : Finished d (fresh d.recorded config ⟨world, []⟩)
      (exec settle (fresh d.recorded config ⟨world, []⟩)))
    (hgrows : Grows settle)
    (hagrees : ∀ waits levels patience, waits < levels → waits ≤ patience →
      Agrees waits settle (resizeWithin d.recorded levels patience)) :
    OpeningWaits d n config world
      (exec (opening d.recorded settle config) (fresh d.recorded config ⟨world, []⟩)) :=
  (hsettle.opening config).waitsOut hs fun waits levels patience hlevels hpatience =>
    opening_agrees (hagrees waits levels patience hlevels hpatience) hgrows config

/-- How pumping waits, in this run of it. -/
def PumpWaits [Scalar α] [Narrowing α β] (d : Devices W α Raw Frame) (n : Nat)
    (s : RecordedWindow W α β Raw Frame)
    (p : Except Halt Unit × RecordedWindow W α β Raw Frame) : Prop :=
  ∃ calls, WaitsOut d n s p
    (fun levels patience => exec (pumpWithin d.recorded levels patience) s) calls

/-- Opening a window and pumping come to an end if the framebuffer keeps an area from some point on,
however changes of size are nested in the reports that come while waiting. There is one wait for
each size without an area that was read, directly after it, and no other. Each change of size reads
the size once more than it waits. No more dispatches are inside each other than there are waits, and
one, so the end is the same without any bound on the nesting or on the waits. Any bound that leaves
room for the sizes without an area will do: one that is set from outside, the platform's own, and
whatever bound a patient platform has. -/
theorem sizes_waited_out [Scalar α] [Narrowing α β] [Scalar β] (d : Devices W α Raw Frame)
    (n : Nat) :
    (∀ levels patience, n < levels → n ≤ patience →
      (∀ config world, d.Settles world n → OpeningWaits (β := β) d n config world
        (openWithin d.recorded levels patience config ⟨world, []⟩)) ∧
      ∀ s : RecordedWindow W α β Raw Frame, d.Settles s.world.world n →
        PumpWaits d n s (exec (pumpWithin d.recorded levels patience) s)) ∧
      (∀ config world, d.Settles world n → (Patient d ∨ n ≤ d.platform.patience world) →
        OpeningWaits (β := β) d n config world (openWith d.recorded config ⟨world, []⟩)) ∧
      ∀ s : RecordedWindow W α β Raw Frame, s.Wired → d.Settles s.world.world n →
        (Patient d ∨ n ≤ d.platform.patience (d.platform.poll s.world.world).2) →
        PumpWaits d n s (exec (pump d.recorded) s) := by
  refine ⟨fun levels patience hlevels hpatience => ⟨fun config world hs => ?_, fun s hs => ?_⟩,
    fun config world hs hpatience => ?_, fun s hwired hs hpatience => ?_⟩
  · exact openingWaits hs (finishesWithin_resizeWithin hpatience (Nat.le_of_lt hlevels) _ hs)
      (makes_resizeWithin levels).grows fun _ levels' _ hlevels' =>
        resizeWithin_agrees levels levels' (Nat.le_of_lt hlevels')
  · exact (finished_pumpWithin hs hpatience hlevels).waitsOut hs fun _ levels' _ =>
      pumpWithin_agrees levels levels'
  · rw [openWith_eq]
    exact openingWaits hs (finished_resize (wired_fresh config _) hs hpatience) makes_resize.grows
      fun _ levels' _ hlevels' => resize_agrees levels' (Nat.le_of_lt hlevels')
  · exact (finished_pump hwired hs hpatience).waitsOut hs fun _ levels' _ => pump_agrees levels'

/-! ## A script that settles -/

/-- A call on a stage leaves its sizes as they are, or reads the first of them. -/
theorem does_stage {w w' : Script.Stage α Raw} {call : Call α Raw Nat}
    (h : (Script.devices : Devices (Script.Stage α Raw) α Raw Nat).Does w call w') :
    (call.readsEmpty = false ∧ w'.platform.sizes = w.platform.sizes ∧
        w'.platform.size = w.platform.size) ∨
      (call = .framebufferSize (w.platform.sizes.headD w.platform.size) ∧
        w'.platform.sizes = w.platform.sizes.tail ∧
        w'.platform.size = w.platform.sizes.headD w.platform.size) := by
  cases h with
  | framebufferSize => exact .inr ⟨rfl, rfl, rfl⟩
  | _ => exact .inl ⟨rfl, rfl, rfl⟩

/-- A script whose last size has an area settles: it reads as many sizes without one as it has. -/
theorem settles_stage {w : Script.Stage α Raw}
    (h : (w.platform.sizes.getLastD w.platform.size).isEmpty = false) :
    (Script.devices : Devices (Script.Stage α Raw) α Raw Nat).Settles w
      (w.platform.sizes.countP Extent.isEmpty) := by
  intro calls w' htrace
  induction htrace with
  | nil => exact Nat.zero_le _
  | @cons w w₁ w₂ call calls hdoes _ ih =>
    rw [List.countP_cons]
    rcases does_stage hdoes with ⟨hcall, hsizes, hsize⟩ | ⟨rfl, hsizes, hsize⟩
    · rw [hsizes, hsize] at ih
      rw [hcall]
      exact ih h
    · rw [hsizes, hsize] at ih
      rcases hcase : w.platform.sizes with _ | ⟨size, sizes⟩
      · -- the size stays as it is, and it has an area
        rw [hcase] at h ih
        have hread : (.framebufferSize w.platform.size : Call α Raw Nat).readsEmpty = false := h
        rw [List.headD_nil, hread]
        exact ih h
      · rw [hcase] at h ih
        rw [List.getLastD_cons] at h
        rw [List.headD_cons, List.countP_cons]
        exact Nat.add_le_add_right (ih h) _

/-- The stage of a window that has to wait for its first size, twice and then once more for a second
change of size that the first wait brings. -/
def nestedStart : Script.Stage Rat Unit :=
  { nestedStage with
    platform := { nestedStage.platform with sizes := nestedStage.platform.sizes.tail } }

/-- The window that will wait in this way when it pumps, with a record. -/
def nestedRecorded : RecordedWindow (Script.Stage Rat Unit) Rat Rat Unit Nat :=
  (openWith Script.devices.recorded {} ⟨nestedStage, []⟩).2

theorem sizes_waited_out_nested :
    (∃ calls, WaitsOut Script.devices 3
        (fresh Script.devices.recorded {} ⟨nestedStart, []⟩ : RecordedWindow _ Rat Rat Unit Nat)
        (openWith Script.devices.recorded {} ⟨nestedStart, []⟩)
        (fun levels patience =>
          openWithin Script.devices.recorded levels patience {} ⟨nestedStart, []⟩) calls ∧
      calls.countP Call.isWait = 3) ∧
      (∃ calls, WaitsOut Script.devices 3 nestedRecorded
          (exec (pump Script.devices.recorded) nestedRecorded)
          (fun levels patience =>
            exec (pumpWithin Script.devices.recorded levels patience) nestedRecorded) calls ∧
        calls.countP Call.isWait = 3) ∧
      PumpWaits Script.devices 3 nestedRecorded
        (exec (pumpWithin Script.devices.recorded 4 3) nestedRecorded) := by
  have hstart : Script.devices.Settles nestedStart 3 := settles_stage rfl
  have hleft : nestedRecorded.world.world.platform.sizes = nestedStart.platform.sizes := by
    decide +kernel
  have hlater : Script.devices.Settles nestedRecorded.world.world 3 := by
    have hsettles := settles_stage (w := nestedRecorded.world.world) (by decide +kernel)
    rw [hleft] at hsettles
    exact hsettles
  obtain ⟨hwithin, hopening, hpumping⟩ :=
    sizes_waited_out (β := Rat) (Script.devices : Devices (Script.Stage Rat Unit) Rat Unit Nat) 3
  obtain ⟨calls, hcalls⟩ := hopening {} nestedStart hstart (.inl patient_stage)
  obtain ⟨calls', hcalls'⟩ := hpumping nestedRecorded ⟨by decide +kernel, by decide +kernel⟩ hlater
    (.inl patient_stage)
  refine ⟨⟨calls, hcalls, hcalls.countP_isWait rfl (by decide +kernel)⟩, ⟨calls', hcalls',
    hcalls'.countP_isWait (by decide +kernel) (by decide +kernel)⟩, ?_⟩
  exact (hwithin 4 3 (by decide) (by decide)).2 nestedRecorded hlater

end Window

end WindowHost
