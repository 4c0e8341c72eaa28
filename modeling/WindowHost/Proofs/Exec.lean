import WindowHost.Window.Frame
import WindowHost.Window.Query

/-!
# Running operations

`exec m s` runs the operation `m` from the window `s` and gives its outcome with the window that it
leaves. The primitive steps have their equations here, so that what an operation does is read off by
rewriting, and `exec_bind_ok` takes a sequence apart that succeeds.
-/

namespace WindowHost.Window

variable {W α β r t : Type}

/-- The outcome of an operation and the window that it leaves. -/
def exec (m : WindowM W α β r) (s : Window W α β) : Except Halt r × Window W α β := m.run.run s

def inWorld (s : Window W α β) (w : W) : Window W α β := { s with world := w }

section InWorld

variable (s : Window W α β) (w w' : W)

@[simp] theorem inWorld_world : (s.inWorld w).world = w := rfl

@[simp] theorem inWorld_config : (s.inWorld w).config = s.config := rfl

@[simp] theorem inWorld_events : (s.inWorld w).events = s.events := rfl

@[simp] theorem inWorld_input : (s.inWorld w).input = s.input := rfl

@[simp] theorem inWorld_inWorld : (s.inWorld w).inWorld w' = s.inWorld w' := rfl

end InWorld

/-! ## Sequences -/

theorem exec_bind (m : WindowM W α β r) (f : r → WindowM W α β t) (s : Window W α β) :
    exec (m >>= f) s =
      match exec m s with
      | (.ok x, s') => exec (f x) s'
      | (.error h, s') => (.error h, s') := by
  unfold exec
  rw [ExceptT.run_bind, StateT.run_bind]
  rcases m.run.run s with ⟨_ | _, _⟩ <;> rfl

theorem exec_bind_of_ok {m : WindowM W α β r} {x : r} {s s' : Window W α β}
    (h : exec m s = (.ok x, s')) (f : r → WindowM W α β t) :
    exec (m >>= f) s = exec (f x) s' := by
  rw [exec_bind, h]

theorem exec_bind_of_error {m : WindowM W α β r} {e : Halt} {s s' : Window W α β}
    (h : exec m s = (.error e, s')) (f : r → WindowM W α β t) :
    exec (m >>= f) s = (.error e, s') := by
  rw [exec_bind, h]

theorem exec_map (f : r → t) (m : WindowM W α β r) (s : Window W α β) :
    exec (f <$> m) s = ((exec m s).1.map f, (exec m s).2) := by
  rw [show f <$> m = m >>= fun x => pure (f x) from rfl, exec_bind]
  rcases exec m s with ⟨_ | _, _⟩ <;> rfl

/-- A sequence that succeeds has two parts that succeed. -/
theorem exec_bind_ok {m : WindowM W α β r} {f : r → WindowM W α β t} {s s' : Window W α β} {y : t}
    (h : exec (m >>= f) s = (.ok y, s')) :
    ∃ x s₁, exec m s = (.ok x, s₁) ∧ exec (f x) s₁ = (.ok y, s') := by
  rw [exec_bind] at h
  rcases hm : exec m s with ⟨e | x, s₁⟩
  · rw [hm] at h
    cases h
  · rw [hm] at h
    exact ⟨x, s₁, rfl, h⟩

/-! ## Primitive steps -/

section Primitive

variable (s : Window W α β)

@[simp] theorem exec_get : exec (get : WindowM W α β _) s = (.ok s, s) := rfl

@[simp] theorem exec_set (s' : Window W α β) :
    exec (set s' : WindowM W α β PUnit) s = (.ok ⟨⟩, s') := rfl

@[simp] theorem exec_modify (f : Window W α β → Window W α β) :
    exec (modify f : WindowM W α β PUnit) s = (.ok ⟨⟩, f s) := rfl

@[simp] theorem exec_act (f : W → W) :
    exec (act f : WindowM W α β Unit) s = (.ok (), s.inWorld (f s.world)) := rfl

@[simp] theorem exec_ask (f : W → r × W) :
    exec (ask f : WindowM W α β r) s = (.ok (f s.world).1, s.inWorld (f s.world).2) := rfl

theorem exec_attempt (f : W → Except BackendError r × W) :
    exec (attempt f : WindowM W α β r) s =
      ((f s.world).1.mapError fun e => .failed (.backend e), s.inWorld (f s.world).2) := by
  rw [attempt, exec_bind, exec_ask]
  cases (f s.world).1 <;> rfl

theorem exec_requireVisible (operation : SurfaceOperation) :
    exec (requireVisible operation : WindowM W α β Unit) s =
      if s.config.showWindow then (.ok (), s)
      else (.error (.failed (.noVisibleSurface operation)), s) := by
  rw [requireVisible, exec_bind, exec_get]
  show exec (if s.config.showWindow = true then pure () else fail _) s = _
  split <;> rfl

theorem exec_requireVisible_ok {s : Window W α β} (hshow : s.config.showWindow = true)
    (operation : SurfaceOperation) :
    exec (requireVisible operation : WindowM W α β Unit) s = (.ok (), s) := by
  rw [exec_requireVisible, if_pos hshow]

theorem exec_requireVisible_error {s : Window W α β} (hhidden : ¬ s.config.showWindow = true)
    (operation : SurfaceOperation) :
    exec (requireVisible operation : WindowM W α β Unit) s =
      (.error (.failed (.noVisibleSurface operation)), s) := by
  rw [exec_requireVisible, if_neg hhidden]

end Primitive

theorem exec_attempt_ok {f : W → Except BackendError r × W} {s : Window W α β} {x : r} {w : W}
    (h : f s.world = (.ok x, w)) :
    exec (attempt f : WindowM W α β r) s = (.ok x, s.inWorld w) := by
  rw [exec_attempt, h]
  rfl

theorem exec_attempt_error {f : W → Except BackendError r × W} {s : Window W α β}
    {e : BackendError} {w : W} (h : f s.world = (.error e, w)) :
    exec (attempt f : WindowM W α β r) s = (.error (.failed (.backend e)), s.inWorld w) := by
  rw [exec_attempt, h]
  rfl

theorem exec_finishRead_eq {Raw Frame : Type} (d : Devices W α Raw Frame) (s : Window W α β) :
    exec (finishRead d) s =
      if s.config.showWindow then (.ok (), s) else exec (prepareForNextFrame d) s := by
  rw [finishRead, exec_bind_of_ok (exec_get s)]
  rcases s.config.showWindow with _ | _ <;> rfl

/-! ## Outcomes -/

theorem exists_eq_ok {ε γ σ : Type} {p : Except ε γ × σ} (h : p.1.isOk = true) :
    ∃ x, p = (.ok x, p.2) := by
  obtain ⟨e | x, y⟩ := p
  · cases h
  · exact ⟨x, rfl⟩

theorem exists_eq_failed {γ σ : Type} {p : Except Halt γ × σ}
    (h : (match p.1 with | .error (.failed _) => true | _ => false) = true) :
    ∃ e, p = (.error (.failed e), p.2) := by
  obtain ⟨(e | _) | x, y⟩ := p
  · exact ⟨e, rfl⟩
  · cases h
  · cases h

end WindowHost.Window
