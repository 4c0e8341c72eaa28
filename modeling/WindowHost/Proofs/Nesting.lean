import WindowHost.Proofs.Sizing

/-!
# How deeply changes of size are nested

A change of size hands over what it has deferred, and that may bring a change of size again. The
nesting is told by a second dispatch that gives up when it is nested too deeply (`dispatchWithin`).
Where there is room for one level more than there are waits, it does what the first one does, and
the same whatever room there is (`Agrees`).
-/

namespace WindowHost

variable {W α β Raw Frame : Type}

namespace Window

/-! ## Dispatch with limited room -/

section Within

variable [Scalar α] [Narrowing α β] (d : Devices W α Raw Frame)

/-- Sees to reports if there are any. -/
def ifAny (follow : List (Report α Raw) → WindowM W α β Unit) (reports : List (Report α Raw)) :
    WindowM W α β Unit :=
  if reports.isEmpty then pure () else follow reports

/-- Hands over the reports in their order, with so many dispatches inside each other at most. Each
change of size has the same patience. -/
def dispatchWithin (patience : Nat) : (levels : Nat) → List (Report α Raw) → WindowM W α β Unit
  | 0, _ => throw .stalled
  | levels + 1, reports => reports.forM (handle d patience (ifAny (dispatchWithin patience levels)))

/-- Settles the size of the framebuffer, where that dispatch sees to what was deferred. -/
def resizeWithin (levels patience : Nat) : WindowM W α β Unit :=
  settleSize d patience (ifAny (dispatchWithin d patience levels))

/-- Pumps with that dispatch. -/
def pumpWithin (levels patience : Nat) : WindowM W α β Unit := do
  let reports ← ask d.platform.poll
  dispatchWithin d patience levels reports

/-- What opens a window that settles its size in such a way. -/
def opening (settle : WindowM W α β Unit) (config : Config) : WindowM W α β Unit := do
  if let some flaw := config.flaw? then
    fail (.invalidConfig flaw)
  if config.showWindow then
    settle
  prepareForNextFrame d

/-- Opens a window with that dispatch. -/
def openWithin [Scalar β] (levels patience : Nat) (config : Config) (world : W) :
    Except Halt Unit × Window W α β :=
  exec (opening d (resizeWithin d levels patience) config) (fresh d config world)

theorem openWith_eq [Scalar β] (config : Config) (world : W) :
    (openWith d config world : _ × Window W α β) =
      exec (opening d (resize d) config) (fresh d config world) := rfl

section Opening

variable {d} {settle : WindowM W α β Unit} {config : Config} {s : Window W α β}

omit [Scalar α] [Narrowing α β]

theorem exec_opening_of_flaw {flaw : Config.Flaw} (hflaw : config.flaw? = some flaw) :
    exec (opening d settle config) s = (.error (.failed (.invalidConfig flaw)), s) := by
  rw [opening, hflaw]
  rfl

theorem exec_opening_hidden (hflaw : config.flaw? = none) (hshow : config.showWindow = false) :
    exec (opening d settle config) s = exec (prepareForNextFrame d) s := by
  rw [opening, hflaw, hshow]
  rfl

theorem exec_opening_visible (hflaw : config.flaw? = none) (hshow : config.showWindow = true) :
    exec (opening d settle config) s = exec (settle >>= fun _ => prepareForNextFrame d) s := by
  rw [opening, hflaw, hshow]
  rfl

end Opening

end Within

end Window

/-- How many waits are in the record. -/
def Recorded.waited (w : Recorded W α Raw Frame) : Nat := w.calls.countP Call.isWait

theorem Recorded.Adds.waited_eq {d : Devices W α Raw Frame} {w w' : Recorded W α Raw Frame}
    {calls : List (Call α Raw Frame)} (h : Adds d w calls w') :
    w'.waited = w.waited + calls.countP Call.isWait := by
  rw [waited, h.record, List.countP_append, waited]

namespace Window

open Recorded (Adds adds_nil adds_singleton adds_waits adds_resize)

/-- Whatever becomes of `m`, no wait is struck from the record. -/
def Grows (m : WindowM (Recorded W α Raw Frame) α β Unit) : Prop :=
  ∀ s, s.world.waited ≤ (exec m s).2.world.waited

/-- Where `m` comes to an end with so many waits at most, `m'` does the same. -/
def Agrees (waits : Nat) (m m' : WindowM (Recorded W α Raw Frame) α β Unit) : Prop :=
  ∀ s, (exec m s).1 ≠ .error .stalled →
    (exec m s).2.world.waited ≤ s.world.waited + waits → exec m' s = exec m s

section Rules

variable {d : Devices W α Raw Frame} {m m' n n' : WindowM (Recorded W α Raw Frame) α β Unit}
  {waits : Nat}

theorem Makes.grows {γ : Type} {kinds : List Call.Kind} {f : RecordedWindow W α β Raw Frame → γ}
    (h : Makes d kinds f m) : Grows m := by
  intro s
  obtain ⟨-, calls, hadds, -⟩ := h s
  rw [hadds.waited_eq]
  exact Nat.le_add_right _ _

theorem Agrees.refl (m : WindowM (Recorded W α Raw Frame) α β Unit) : Agrees waits m m :=
  fun _ _ _ => rfl

/-- A run with fewer waits is one of those with more. -/
theorem Agrees.mono {waits' : Nat} (h : Agrees waits m m') (hle : waits' ≤ waits) :
    Agrees waits' m m' :=
  fun s hend hwaits => h s hend (Nat.le_trans hwaits (Nat.add_le_add_left hle _))

theorem Agrees.bind (hm : Agrees waits m m') (hn : Agrees waits n n') (hgrows : Grows m)
    (hgrows' : Grows n) : Agrees waits (m >>= fun _ => n) (m' >>= fun _ => n') := by
  intro s hend hwaits
  have hstart := hgrows s
  rw [exec_bind] at hend hwaits ⊢
  rw [exec_bind]
  rcases hexec : exec m s with ⟨e | ⟨⟩, s₁⟩
  · rw [hexec] at hend hwaits
    have hsame := hm s (by rw [hexec]; exact hend) (by rw [hexec]; exact hwaits)
    rw [hsame, hexec]
  · rw [hexec] at hend hwaits hstart
    have hfirst : s.world.waited ≤ s₁.world.waited := hstart
    have hbound : (exec n s₁).2.world.waited ≤ s.world.waited + waits := hwaits
    have hrest := hgrows' s₁
    have hsame := hm s (by rw [hexec]; nofun) (by rw [hexec]; exact Nat.le_trans hrest hbound)
    rw [hsame, hexec]
    exact hn s₁ hend (by omega)

theorem Agrees.forM {γ : Type} {h h' : γ → WindowM (Recorded W α Raw Frame) α β Unit}
    (hagrees : ∀ x, Agrees waits (h x) (h' x)) (hgrows : ∀ x, Grows (h x))
    (hall : ∀ xs : List γ, Grows (xs.forM h)) (xs : List γ) :
    Agrees waits (xs.forM h) (xs.forM h') := by
  induction xs with
  | nil => exact .refl _
  | cons x xs ih => exact (hagrees x).bind ih (hgrows x) (hall xs)

theorem makes_forM {γ δ : Type} {kinds : List Call.Kind} {f : RecordedWindow W α β Raw Frame → δ}
    {h : γ → WindowM (Recorded W α Raw Frame) α β Unit} (hmakes : ∀ x, Makes d kinds f (h x))
    (xs : List γ) : Makes d kinds f (xs.forM h) := by
  induction xs with
  | nil => exact makes_pure _
  | cons x xs ih => exact (hmakes x).bind fun _ => ih

end Rules

/-! ### What a dispatch calls -/

section Makes

variable {d : Devices W α Raw Frame}
  {follow : List (Report α Raw) → WindowM (Recorded W α Raw Frame) α β Unit}

/-- A view that shows nothing at all. -/
def nothing (_ : RecordedWindow W α β Raw Frame) : Unit := ()

theorem makes_awaitSize (patience : Nat) :
    Makes d [.pumping] nothing (awaitSize d.recorded patience : WindowM _ α β _) := by
  have hread : Notes d [.pumping] fun w => (d.recorded.platform.framebufferSize w).2 :=
    fun w => ⟨_, .framebufferSize w.world, rfl, .head _⟩
  have hwait : Notes d [.pumping] fun w => (d.recorded.platform.wait w).2 :=
    fun w => ⟨_, .wait w.world, rfl, .head _⟩
  induction patience with
  | zero =>
    exact (makes_ask (fun _ _ => rfl) hread).bind fun size =>
      (makes_of_world (fun _ => rfl) fun _ => rfl).ite (makes_pure _)
  | succ patience ih =>
    exact (makes_ask (fun _ _ => rfl) hread).bind fun size => Makes.ite
      ((makes_ask (fun _ _ => rfl) hwait).bind fun batch => ih.bind fun later => makes_pure _)
      (makes_pure _)

theorem makes_settleSize (patience : Nat)
    (hfollow : ∀ rs, Makes d [.pumping, .resizing] nothing (follow rs)) :
    Makes d [.pumping, .resizing] nothing (settleSize d.recorded patience follow) := by
  have hresize (size : Extent) :
      Notes d [.pumping, .resizing] fun w => (d.recorded.renderer.resize size w).2 :=
    fun w => ⟨_, .resize size w.world, rfl, .tail _ (.head _)⟩
  have hsize (size : Extent) : Makes d [.pumping, .resizing] nothing
      (modify (·.withSize size) : WindowM (Recorded W α Raw Frame) α β PUnit) :=
    makes_modify (fun _ => rfl) fun _ => rfl
  exact ((makes_awaitSize patience).mono (by decide)).bind fun settled =>
    (makes_attempt (fun _ _ => rfl) (hresize settled.1)).bind fun _ =>
      (hsize settled.1).bind fun _ => hfollow settled.2

variable [Scalar α] [Narrowing α β]

theorem makes_handle (patience : Nat)
    (hfollow : ∀ rs, Makes d [.pumping, .resizing] nothing (follow rs)) (r : Report α Raw) :
    Makes d [.pumping, .resizing] nothing (handle d.recorded patience follow r) := by
  have hforward (raw : Raw) : Notes d [.pumping, .resizing] (d.recorded.gui.onRawEvent raw) :=
    fun w => ⟨_, .rawEvent raw w.world, rfl, .head _⟩
  have hreceive (o : Occurrence α) : Makes d [.pumping, .resizing] nothing
      (modify (·.receive o) : WindowM (Recorded W α Raw Frame) α β PUnit) :=
    makes_modify (fun _ => rfl) fun s => by cases o <;> rfl
  obtain ⟨o, raw⟩ := r
  -- without a raw event, only what is left once the widgets have seen it is called
  have hrest : Makes d [.pumping, .resizing] nothing
      (handle d.recorded patience follow ⟨o, none⟩) := by
    rcases o with _ | o
    · exact makes_pure _
    · cases o with
      | resized size => exact makes_settleSize patience hfollow
      | _ => exact hreceive _
  cases raw with
  | none => exact hrest
  | some raw => exact (makes_act (fun _ _ => rfl) (hforward raw)).bind fun _ => hrest

theorem makes_dispatch (patience : Nat) (reports : List (Report α Raw)) :
    Makes d [.pumping, .resizing] nothing
      (dispatch d.recorded patience reports : WindowM _ α β _) := by
  -- what a report defers is handed over with less patience
  induction patience generalizing reports with
  | zero => exact makes_forM (makes_handle 0 fun _ => makes_pure _) reports
  | succ patience ih => exact makes_forM (makes_handle (patience + 1) ih) reports

theorem makes_resize :
    Makes d [.pumping, .resizing] nothing (resize d.recorded : WindowM _ α β _) :=
  makes_get.bind fun _ => makes_settleSize _ (makes_dispatch _)

end Makes

/-! ### The same with less room -/

section Agrees

variable {d : Devices W α Raw Frame} {waits patience patience' : Nat}
  {follow follow' : List (Report α Raw) → WindowM (Recorded W α Raw Frame) α β Unit}

/-- A size that is there after some waits is found with any patience for so many. -/
theorem exec_awaitSize_of_waits {d : Devices W α Raw Frame} {s : Window W α β} {w w' : W}
    {g : Settling α Raw} (h : Waits d.platform w g w') (hg : g.size.isEmpty = false)
    (hpatience : g.waits.length ≤ patience) :
    exec (awaitSize d patience) (s.inWorld w) = (.ok (g.size, g.deferred), s.inWorld w') := by
  induction h generalizing patience with
  | @last w w' size hread =>
    have hsize : ¬ size.isEmpty = true := by simpa using hg
    cases patience <;>
      · rw [awaitSize, exec_bind_of_ok (exec_ask _ _), inWorld_world, hread]
        exact congrArg (exec · _) (if_neg hsize)
  | @again w w₁ w₂ w₃ size batch g hread hsize hwait _ ih =>
    obtain ⟨patience, rfl⟩ : ∃ k, patience = k + 1 := ⟨patience - 1, by
      rw [List.length_cons] at hpatience
      omega⟩
    rw [awaitSize, exec_bind_of_ok (exec_ask _ _), inWorld_world, hread]
    dsimp only
    rw [if_pos hsize, exec_bind_of_ok (exec_ask _ _), inWorld_inWorld, inWorld_world, hwait,
      inWorld_inWorld, exec_bind_of_ok (ih hg (Nat.le_of_succ_le_succ hpatience))]
    rfl

theorem exec_settleSize_of_waits {d : Devices W α Raw Frame}
    {follow : List (Report α Raw) → WindowM W α β Unit} {s : Window W α β} {w : W}
    {g : Settling α Raw} (h : Waits d.platform s.world g w) (hg : g.size.isEmpty = false)
    (hpatience : g.waits.length ≤ patience) :
    exec (settleSize d patience follow) s =
      match d.renderer.resize g.size w with
      | (.ok (), w') => exec (follow g.deferred) ((s.inWorld w').withSize g.size)
      | (.error e, w') => (.error (.failed (.backend e)), s.inWorld w') := by
  have hwait : exec (awaitSize d patience) s = (.ok (g.size, g.deferred), s.inWorld w) :=
    exec_awaitSize_of_waits (s := s) h hg hpatience
  rw [settleSize, exec_bind_of_ok hwait]
  show exec (attempt (d.renderer.resize g.size) >>= _) (s.inWorld w) = _
  rw [exec_bind, exec_attempt, inWorld_world]
  rcases d.renderer.resize g.size w with ⟨_ | _, w'⟩ <;> rfl

theorem Settling.length_pos_of_deferred {g : Settling α Raw} (h : g.deferred ≠ []) :
    0 < g.waits.length := by
  refine List.length_pos_iff.2 fun hwaits => h ?_
  rw [Settling.deferred, hwaits, List.flatMap_nil]

/-- What follows a change of size agrees if it does so where a wait has been spent. Without a wait
nothing was deferred. -/
theorem Agrees.deferred {g : Settling α Raw} {s : RecordedWindow W α β Raw Frame}
    (hnone : ∀ s, exec (follow []) s = (.ok (), s))
    (hfollow : g.deferred ≠ [] → Agrees waits (follow g.deferred) (follow' g.deferred))
    (hend : (exec (follow g.deferred) s).1 ≠ .error .stalled)
    (hwaits : (exec (follow g.deferred) s).2.world.waited ≤ s.world.waited + waits) :
    exec (ifAny follow' g.deferred) s = exec (follow g.deferred) s := by
  unfold ifAny
  rcases hdeferred : g.deferred with _ | ⟨r, rs⟩
  · exact (hnone s).symm
  · rw [hdeferred] at hfollow hend hwaits
    exact hfollow (List.cons_ne_nil r rs) s hend hwaits

/-- Settling a size agrees if what follows it does with one wait less. -/
theorem Agrees.settleSize (hpatience : waits ≤ patience')
    (hnone : ∀ s, exec (follow []) s = (.ok (), s)) (hgrows : ∀ rs, Grows (follow rs))
    (hfollow : ∀ rs, 0 < patience → 0 < waits → Agrees (waits - 1) (follow rs) (follow' rs)) :
    Agrees waits (settleSize d.recorded patience follow)
      (settleSize d.recorded patience' (ifAny follow')) := by
  intro s hend hwaits
  obtain ⟨g, w, hg, hlen, -, hexec⟩ := exec_settleSize d.recorded patience follow s
  rw [hexec] at hend hwaits ⊢
  rcases hsize : g.size.isEmpty with _ | _
  · rw [hsize] at hend hwaits
    rcases hresize : d.recorded.renderer.resize g.size w with ⟨outcome, w'⟩
    rw [hresize] at hend hwaits
    have hspent : w'.waited = s.world.waited + g.waits.length := by
      rw [((adds_waits hg).append (adds_resize hresize)).waited_eq, List.countP_append,
        Settling.countP_isWait]
      rfl
    have same (hle : g.waits.length ≤ waits) :
        exec (Window.settleSize d.recorded patience' (ifAny follow')) s = _ :=
      exec_settleSize_of_waits hg hsize (Nat.le_trans hle hpatience)
    rcases outcome with e | ⟨⟩
    · have hlast : w'.waited ≤ s.world.waited + waits := hwaits
      rw [same (by omega), hresize]
      rfl
    · have hend' : (exec (follow g.deferred) ((s.inWorld w').withSize g.size)).1 ≠
          .error .stalled := hend
      have hlast : (exec (follow g.deferred) ((s.inWorld w').withSize g.size)).2.world.waited ≤
          s.world.waited + waits := hwaits
      have hgrown : w'.waited ≤ _ := hgrows g.deferred ((s.inWorld w').withSize g.size)
      rw [same (by omega), hresize]
      have hrest : (exec (follow g.deferred) ((s.inWorld w').withSize g.size)).2.world.waited ≤
          w'.waited + (waits - g.waits.length) := by omega
      refine Agrees.deferred hnone (fun hdeferred => ?_) hend' hrest
      have hpos := Settling.length_pos_of_deferred hdeferred
      exact (hfollow g.deferred (by omega) (by omega)).mono (by omega)
  · rw [hsize] at hend
    exact absurd rfl hend

variable [Scalar α] [Narrowing α β]

theorem Agrees.handle (hpatience : waits ≤ patience')
    (hnone : ∀ s, exec (follow []) s = (.ok (), s)) (hgrows : ∀ rs, Grows (follow rs))
    (hfollow : ∀ rs, 0 < patience → 0 < waits → Agrees (waits - 1) (follow rs) (follow' rs))
    (r : Report α Raw) :
    Agrees waits (handle d.recorded patience follow r)
      (handle d.recorded patience' (ifAny follow') r) := by
  intro s hend hwaits
  have hforward : (r.forward d.recorded.gui s.world).waited = s.world.waited := by
    rw [(Recorded.adds_forward (d := d) r s.world).waited_eq, r.countP_isWait, Nat.add_zero]
  rw [← hforward] at hwaits
  rw [exec_handle] at hend hwaits ⊢
  rw [exec_handle]
  -- only a change of size looks at what follows
  rcases ho : r.occurrence with _ | o
  · rfl
  · rw [ho] at hend hwaits
    cases o with
    | resized size => exact Agrees.settleSize hpatience hnone hgrows hfollow _ hend hwaits
    | _ => rfl

theorem exec_dispatch_nil (d : Devices W α Raw Frame) (patience : Nat) (s : Window W α β) :
    exec (dispatch d patience []) s = (.ok (), s) := by
  cases patience <;> rfl

theorem Agrees.forM_handle (hpatience : waits ≤ patience')
    (hnone : ∀ s, exec (follow []) s = (.ok (), s))
    (hmakes : ∀ rs, Makes d [.pumping, .resizing] nothing (follow rs))
    (hfollow : ∀ rs, 0 < patience → 0 < waits → Agrees (waits - 1) (follow rs) (follow' rs))
    (reports : List (Report α Raw)) :
    Agrees waits (reports.forM (Window.handle d.recorded patience follow))
      (reports.forM (Window.handle d.recorded patience' (ifAny follow'))) := by
  have hhandle := makes_handle patience hmakes
  exact .forM (Agrees.handle hpatience hnone (fun rs => (hmakes rs).grows) hfollow)
    (fun r => (hhandle r).grows) (fun rs => (makes_forM hhandle rs).grows) reports

/-- A dispatch with room for one level more than there are waits does the same. -/
theorem dispatch_agrees (levels : Nat) (hlevels : waits < levels) (hpatience : waits ≤ patience')
    (reports : List (Report α Raw)) :
    Agrees waits (dispatch d.recorded patience reports : WindowM _ α β _)
      (dispatchWithin d.recorded patience' levels reports) := by
  induction levels generalizing waits patience reports with
  | zero => exact absurd hlevels (Nat.not_lt_zero _)
  | succ levels ih =>
    cases patience with
    | zero =>
      -- without patience there is no wait, and so nothing follows
      exact .forM_handle hpatience (fun _ => rfl) (fun _ => makes_pure _)
        (fun _ hpos => absurd hpos (Nat.lt_irrefl 0)) reports
    | succ patience =>
      exact .forM_handle hpatience (exec_dispatch_nil _ patience) (makes_dispatch patience)
        (fun rs _ hwaits => ih (by omega) (by omega) rs) reports

/-- Settling a size is like handing over an opening report, so it nests as deeply as there are
waits. -/
theorem resize_agrees (levels : Nat) (hlevels : waits ≤ levels) (hpatience : waits ≤ patience') :
    Agrees waits (resize d.recorded : WindowM _ α β _)
      (resizeWithin d.recorded levels patience') := by
  intro s
  rw [resize, exec_bind_of_ok (exec_get _)]
  exact Agrees.settleSize hpatience (exec_dispatch_nil _ _) (fun rs => (makes_dispatch _ rs).grows)
    (fun rs _ hwaits => dispatch_agrees levels (by omega) (by omega) rs) s

omit [Scalar α] [Narrowing α β] in
/-- Pumping agrees if handing over the batch does. -/
theorem Agrees.polled {m m' : List (Report α Raw) → WindowM (Recorded W α Raw Frame) α β Unit}
    (h : ∀ rs, Agrees waits (m rs) (m' rs)) :
    Agrees waits (ask d.recorded.platform.poll >>= m) (ask d.recorded.platform.poll >>= m') := by
  intro s hend hwaits
  have hpoll : (d.recorded.platform.poll s.world).2.waited = s.world.waited :=
    (Recorded.adds_poll (d := d) s.world).waited_eq
  rw [exec_bind_of_ok (exec_ask _ _)] at hend hwaits ⊢
  rw [exec_bind_of_ok (exec_ask _ _)]
  rw [← hpoll] at hwaits
  exact h _ _ hend hwaits

theorem pump_agrees (levels : Nat) (hlevels : waits < levels) (hpatience : waits ≤ patience') :
    Agrees waits (pump d.recorded : WindowM _ α β _) (pumpWithin d.recorded levels patience') :=
  .polled fun rs s => by
    rw [exec_bind_of_ok (exec_get _)]
    exact dispatch_agrees levels hlevels hpatience rs s

/-! ### The same with any room -/

omit [Scalar α] [Narrowing α β] in
theorem makes_ifAny (hfollow : ∀ rs, Makes d [.pumping, .resizing] nothing (follow rs))
    (rs : List (Report α Raw)) : Makes d [.pumping, .resizing] nothing (ifAny follow rs) :=
  (makes_pure _).ite (hfollow rs)

omit [Scalar α] [Narrowing α β] in
theorem Agrees.ifAny_left (hnone : ∀ s, exec (follow' []) s = (.ok (), s))
    (h : ∀ rs, Agrees waits (follow rs) (follow' rs)) (rs : List (Report α Raw)) :
    Agrees waits (ifAny follow rs) (follow' rs) := by
  rcases rs with _ | ⟨r, rs⟩
  · exact fun s _ _ => hnone s
  · exact h (r :: rs)

theorem makes_dispatchWithin (levels : Nat) (reports : List (Report α Raw)) :
    Makes d [.pumping, .resizing] nothing
      (dispatchWithin d.recorded patience levels reports : WindowM _ α β _) := by
  induction levels generalizing reports with
  | zero => exact makes_of_world (fun _ => rfl) fun _ => rfl
  | succ levels ih => exact makes_forM (makes_handle patience (makes_ifAny ih)) reports

theorem exec_dispatchWithin_nil {levels : Nat} (hlevels : 0 < levels) (d : Devices W α Raw Frame)
    (patience : Nat) (s : Window W α β) :
    exec (dispatchWithin d patience levels []) s = (.ok (), s) := by
  cases levels with
  | zero => exact absurd hlevels (Nat.lt_irrefl 0)
  | succ levels => rfl

/-- A dispatch that came to an end with limited room does the same with other room, as long as that
suffices for its waits. -/
theorem dispatchWithin_agrees (levels levels' : Nat) (hlevels : waits < levels')
    (hpatience : waits ≤ patience') (reports : List (Report α Raw)) :
    Agrees waits (dispatchWithin d.recorded patience levels reports : WindowM _ α β _)
      (dispatchWithin d.recorded patience' levels' reports) := by
  induction levels' generalizing waits levels reports with
  | zero => exact absurd hlevels (Nat.not_lt_zero _)
  | succ levels' ih =>
    cases levels with
    | zero => exact fun s hend => absurd rfl hend
    | succ levels =>
      exact .forM_handle hpatience (fun _ => rfl) (makes_ifAny (makes_dispatchWithin levels))
        (fun rs _ hwaits => .ifAny_left (exec_dispatchWithin_nil (by omega) _ _)
          (ih levels (by omega) (by omega)) rs) reports

theorem resizeWithin_agrees (levels levels' : Nat) (hlevels : waits ≤ levels')
    (hpatience : waits ≤ patience') :
    Agrees waits (resizeWithin d.recorded levels patience : WindowM _ α β _)
      (resizeWithin d.recorded levels' patience') :=
  Agrees.settleSize hpatience (fun _ => rfl)
    (fun rs => (makes_ifAny (makes_dispatchWithin levels) rs).grows)
    fun rs _ hwaits => .ifAny_left (exec_dispatchWithin_nil (by omega) _ _)
      (dispatchWithin_agrees levels levels' (by omega) (by omega)) rs

theorem pumpWithin_agrees (levels levels' : Nat) (hlevels : waits < levels')
    (hpatience : waits ≤ patience') :
    Agrees waits (pumpWithin d.recorded levels patience : WindowM _ α β _)
      (pumpWithin d.recorded levels' patience') :=
  .polled fun rs => dispatchWithin_agrees levels levels' hlevels hpatience rs

theorem makes_resizeWithin (levels : Nat) :
    Makes d [.pumping, .resizing] nothing
      (resizeWithin d.recorded levels patience : WindowM _ α β _) :=
  makes_settleSize patience (makes_ifAny (makes_dispatchWithin levels))

omit [Scalar α] [Narrowing α β] in
/-- Opening a window agrees if settling its first size does. -/
theorem opening_agrees {settle settle' : WindowM (Recorded W α Raw Frame) α β Unit}
    (hsettle : Agrees waits settle settle') (hgrows : Grows settle) (config : Config) :
    Agrees waits (opening d.recorded settle config) (opening d.recorded settle' config) := by
  intro s hend hwaits
  rcases hflaw : config.flaw? with _ | flaw
  · rcases hshow : config.showWindow with _ | _
    · rw [exec_opening_hidden hflaw hshow, exec_opening_hidden hflaw hshow]
    · rw [exec_opening_visible hflaw hshow] at hend hwaits ⊢
      rw [exec_opening_visible hflaw hshow]
      exact hsettle.bind (.refl _) hgrows
        (makes_prepareForNextFrame (d := d) (f := nothing) (fun _ _ => rfl) fun _ _ => rfl).grows
        s hend hwaits
  · rw [exec_opening_of_flaw hflaw, exec_opening_of_flaw hflaw]

end Agrees

end Window

end WindowHost
