import WindowHost.Proofs.Exec

/-!
# What operations leave alone

`Keeps f m` says that whatever becomes of `m`, the window looks the same under `f` as before. The
rules follow the structure of `m`. A `Steady` view shows neither the devices nor how far the frame
is, and so everything that only draws, reads and prepares keeps it.
-/

namespace WindowHost.Window

variable {W α β r t γ : Type} {f : Window W α β → γ}

/-- Running `m` changes nothing that `f` shows. -/
def Keeps (f : Window W α β → γ) (m : WindowM W α β r) : Prop := ∀ s, f (exec m s).2 = f s

/-- A view that shows neither the devices nor whether the frame at hand was drawn. -/
structure Steady (f : Window W α β → γ) : Prop where
  inWorld : ∀ s w, f (s.inWorld w) = f s
  drawn : ∀ s b, f { s with drawn := b } = f s

/-! ## Rules -/

theorem keeps_pure (x : r) : Keeps f (pure x : WindowM W α β r) := fun _ => rfl

theorem keeps_fail (e : WindowError) : Keeps f (fail e : WindowM W α β r) := fun _ => rfl

theorem keeps_get : Keeps f (get : WindowM W α β _) := fun _ => rfl

theorem keeps_modify {g : Window W α β → Window W α β} (hg : ∀ s, f (g s) = f s) :
    Keeps f (modify g : WindowM W α β PUnit) := hg

theorem keeps_modifyGet {g : Window W α β → r × Window W α β} (hg : ∀ s, f (g s).2 = f s) :
    Keeps f (modifyGet g : WindowM W α β r) := hg

theorem Keeps.bind {m : WindowM W α β r} {n : r → WindowM W α β t} (hm : Keeps f m)
    (hn : ∀ x, Keeps f (n x)) : Keeps f (m >>= n) := by
  intro s
  rw [exec_bind, ← hm s]
  rcases exec m s with ⟨_ | x, s'⟩
  · rfl
  · exact hn x s'

theorem Keeps.map {m : WindowM W α β r} (hm : Keeps f m) (g : r → t) : Keeps f (g <$> m) := by
  intro s
  rw [exec_map]
  exact hm s

theorem Keeps.ite {p : Prop} [Decidable p] {m n : WindowM W α β r} (hm : Keeps f m)
    (hn : Keeps f n) : Keeps f (if p then m else n) := by
  split
  · exact hm
  · exact hn

theorem keeps_act {g : W → W} (hg : ∀ s, f (s.inWorld (g s.world)) = f s) :
    Keeps f (act g : WindowM W α β Unit) := hg

theorem keeps_ask {g : W → r × W} (hg : ∀ s, f (s.inWorld (g s.world).2) = f s) :
    Keeps f (ask g : WindowM W α β r) := hg

theorem keeps_attempt {g : W → Except BackendError r × W}
    (hg : ∀ s, f (s.inWorld (g s.world).2) = f s) : Keeps f (attempt g : WindowM W α β r) := by
  intro s
  rw [exec_attempt]
  exact hg s

theorem keeps_requireVisible (operation : SurfaceOperation) :
    Keeps f (requireVisible operation : WindowM W α β Unit) := by
  intro s
  rw [exec_requireVisible]
  split <;> rfl

theorem Keeps.eq {m : WindowM W α β r} (hm : Keeps f m) {s s' : Window W α β}
    {res : Except Halt r} (h : exec m s = (res, s')) : f s' = f s := by
  rw [← hm s, h]

/-! ## Frames -/

section Frames

variable {Raw Frame : Type} (d : Devices W α Raw Frame) (hf : Steady f)

include hf

theorem keeps_prepareForNextFrame : Keeps f (prepareForNextFrame d : WindowM W α β Unit) :=
  (keeps_act fun s => hf.inWorld s _).bind fun _ =>
    (keeps_act fun s => hf.inWorld s _).bind fun _ => keeps_modify fun s => hf.drawn s _

theorem keeps_drawFrame : Keeps f (drawFrame d : WindowM W α β Unit) :=
  (keeps_ask fun s => hf.inWorld s _).bind fun _ =>
    (keeps_attempt fun s => hf.inWorld s _).bind fun _ => keeps_modify fun s => hf.drawn s _

theorem keeps_ensureDrawn : Keeps f (ensureDrawn d : WindowM W α β Unit) :=
  keeps_get.bind fun _ => (keeps_pure _).ite (keeps_drawFrame d hf)

theorem keeps_finishRead : Keeps f (finishRead d : WindowM W α β Unit) :=
  keeps_get.bind fun _ => (keeps_pure _).ite (keeps_prepareForNextFrame d hf)

theorem keeps_dumpImage : Keeps f (dumpImage d : WindowM W α β _) :=
  (keeps_ensureDrawn d hf).bind fun _ => (keeps_attempt fun s => hf.inWorld s _).bind fun _ =>
    (keeps_finishRead d hf).bind fun _ => keeps_pure _

theorem keeps_writeImage (path : String) : Keeps f (writeImage d path : WindowM W α β Unit) :=
  (keeps_ensureDrawn d hf).bind fun _ => (keeps_attempt fun s => hf.inWorld s _).bind fun _ =>
    keeps_finishRead d hf

theorem keeps_copyDepth (target : Array Float32) :
    Keeps f (copyDepth d target : WindowM W α β _) :=
  (keeps_ensureDrawn d hf).bind fun _ => (keeps_attempt fun s => hf.inWorld s _).bind fun _ =>
    (keeps_finishRead d hf).bind fun _ => keeps_pure _

theorem keeps_requestStop (stop : Bool) : Keeps f (requestStop d stop : WindowM W α β Unit) :=
  keeps_get.bind fun _ => (keeps_act fun s => hf.inWorld s _).ite (keeps_pure _)

theorem keeps_pace [Scalar α] (hp : ∀ s p, f { s with pacer := p } = f s) :
    Keeps f (pace d : WindowM W α β Unit) := by
  intro s
  rcases hpace : s.pacer.pace d.clock s.config.fpsLimit s.world with ⟨_, pacer, world⟩
  have hexec : (exec (pace d : WindowM W α β Unit) s).2 = { s with pacer, world } := by
    simp only [pace, exec_modify, hpace]
  rw [hexec]
  exact (hf.inWorld { s with pacer } world).trans (hp s pacer)

theorem keeps_countFrame [Scalar α] (hr : ∀ s r, f { s with rate := r } = f s) :
    Keeps f (countFrame d : WindowM W α β Unit) := by
  intro s
  rw [countFrame, exec_bind_of_ok (exec_get s)]
  rcases (s.rate.tick (d.clock.now s.world) : Option α × _) with ⟨_ | average, rate⟩
  · exact hr s rate
  · exact (hf.inWorld _ _).trans (hr s rate)

theorem keeps_settleCursor (hc : ∀ s c, f { s with cursor := c } = f s) :
    Keeps f (settleCursor d : WindowM W α β Unit) := by
  intro s
  rw [settleCursor, exec_bind_of_ok (exec_get s)]
  rcases s.cursor.arbitrate (signal d s.world) d.platform.cursor s.world with ⟨cursor, world⟩
  dsimp only
  rw [exec_bind_of_ok (exec_set _ _)]
  have hset : f { s with cursor, world } = f s :=
    (hf.inWorld { s with cursor } world).trans (hc s cursor)
  rw [← hset]
  exact (keeps_act fun s => hf.inWorld s _).ite (keeps_pure _) _

end Frames

end WindowHost.Window
