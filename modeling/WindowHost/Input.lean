import WindowHost.Button
import WindowHost.Config
import WindowHost.Number.Scalar

/-!
# Input state

`Input` folds what a display reports into the buttons that are down, the place of the cursor and
the scrolling not yet taken. A transition of a button also yields a `Notice` for each listener of
its kind, in the order in which the listeners joined; the notices speak of the state after the
transition.
-/

namespace WindowHost

/-- What a listener is told about a button. -/
structure Notice (ι : Type) where
  listener : ι
  button : Button
  action : Action
  deriving DecidableEq, Repr

/-- The input received so far, with numbers `α` for scrolling, numbers `β` for the place of the
cursor, and listeners named by `ι`. -/
structure Input (α β ι : Type) where
  keyListeners : List ι
  mouseListeners : List ι
  /-- The buttons that are down, each once. -/
  pressed : List Button
  /-- The place of the cursor as fractions of the window, from the left and from the top. -/
  position : β × β
  /-- The scrolling since it was last taken. -/
  scroll : α × α

namespace Input

variable {α β ι : Type}

/-- No listener, no button down, the cursor in the upper left corner and nothing scrolled. -/
def empty [Scalar α] [Scalar β] : Input α β ι where
  keyListeners := []
  mouseListeners := []
  pressed := []
  position := (Scalar.ofNat 0, Scalar.ofNat 0)
  scroll := (Scalar.ofNat 0, Scalar.ofNat 0)

def addKeyListener (i : Input α β ι) (listener : ι) : Input α β ι :=
  { i with keyListeners := i.keyListeners ++ [listener] }

def addMouseListener (i : Input α β ι) (listener : ι) : Input α β ι :=
  { i with mouseListeners := i.mouseListeners ++ [listener] }

def isPressed (i : Input α β ι) (b : Button) : Bool := i.pressed.contains b

/-- The state after a transition of a button. -/
def record (i : Input α β ι) (b : Button) (action : Action) : Input α β ι :=
  { i with
    pressed := if action.leavesDown then i.pressed.insert b else i.pressed.filter (· != b) }

/-- A transition of a button: it is recorded, and then the listeners are told in turn, each with the
input as it is then. -/
def transition {m : Type → Type} [Monad m] (tell : Input α β ι → Notice ι → m Unit)
    (listeners : List ι) (b : Button) (action : Action) (i : Input α β ι) :
    m (Input α β ι) := do
  let i := i.record b action
  listeners.forM fun listener => tell i ⟨listener, b, action⟩
  pure i

/-- Adds a notice to those that were given. -/
def notify (_ : Input α β ι) (n : Notice ι) : StateM (List (Notice ι)) Unit := modify (· ++ [n])

def key (i : Input α β ι) (b : Button) (action : Action) : Input α β ι × List (Notice ι) :=
  (i.transition notify i.keyListeners b action).run []

def mouse (i : Input α β ι) (b : Button) (action : Action) : Input α β ι × List (Notice ι) :=
  (i.transition notify i.mouseListeners b action).run []

/-- The notices of a transition, one for each listener in turn. -/
def notices (listeners : List ι) (b : Button) (action : Action) : List (Notice ι) :=
  listeners.map fun listener => ⟨listener, b, action⟩

/-- The cursor is at `(x, y)` in a window of that size; in a window without area it has no place. -/
def moveCursor [Scalar α] [Narrowing α β] (i : Input α β ι) (x y : α) (size : Extent) :
    Input α β ι :=
  if size.isEmpty then i
  else
    let fraction (p : α) (side : UInt32) : β := Narrowing.narrow (p / Scalar.ofNat side.toNat)
    { i with position := (fraction x size.width, fraction y size.height) }

def addScroll [Scalar α] (i : Input α β ι) (dx dy : α) : Input α β ι :=
  { i with scroll := (i.scroll.1 + dx, i.scroll.2 + dy) }

/-- Takes the scrolling since the last time. -/
def takeScroll [Scalar α] (i : Input α β ι) : (α × α) × Input α β ι :=
  (i.scroll, { i with scroll := (Scalar.ofNat 0, Scalar.ofNat 0) })

theorem run_forM_notify (i : Input α β ι) (listeners : List ι) (b : Button) (action : Action)
    (told : List (Notice ι)) :
    (listeners.forM fun listener => notify i ⟨listener, b, action⟩).run told =
      ((), told ++ notices listeners b action) := by
  induction listeners generalizing told with
  | nil => exact congrArg ((), ·) (List.append_nil told).symm
  | cons listener listeners ih =>
    refine (ih (told ++ [⟨listener, b, action⟩])).trans ?_
    rw [List.append_assoc]
    rfl

theorem run_transition (i : Input α β ι) (listeners : List ι) (b : Button) (action : Action) :
    (i.transition notify listeners b action).run [] =
      (i.record b action, notices listeners b action) :=
  congrArg (fun run : Unit × List (Notice ι) => (i.record b action, run.2))
    (run_forM_notify (i.record b action) listeners b action [])

theorem key_eq (i : Input α β ι) (b : Button) (action : Action) :
    i.key b action = (i.record b action, notices i.keyListeners b action) :=
  run_transition i i.keyListeners b action

theorem mouse_eq (i : Input α β ι) (b : Button) (action : Action) :
    i.mouse b action = (i.record b action, notices i.mouseListeners b action) :=
  run_transition i i.mouseListeners b action

theorem isPressed_record (i : Input α β ι) (b c : Button) (action : Action) :
    (i.record b action).isPressed c =
      if b = c then action.leavesDown else i.isPressed c := by
  unfold isPressed record
  cases hd : action.leavesDown <;> by_cases h : b = c
  · simp [h]
  · simp [h, Ne.symm h]
  · simp [h]
  · simp [h, Ne.symm h]

end Input

end WindowHost
