import WindowHost.Config
import WindowHost.Cursor.Icon
import WindowHost.Gui.Texture
import WindowHost.Gui.Widget
import WindowHost.Native.Event

/-!
# Widget toolkits

A toolkit declares widgets anew in every frame. Events wait with it until the input of a frame is
taken; then the frame is begun, sub-windows are declared in it, and it is ended. `Toolkit` is the
interface of such a toolkit with a state `T`.
-/

namespace WindowHost.Gui

/-- A toolkit with state `T` and frame input `In`, that paints shapes `P` with textures of names `N`
and contents `C`. -/
structure Toolkit (T In P N C : Type) where
  /-- Keeps an event for the next frame. -/
  onEvent : Native.DisplayEvent → T → T
  /-- Takes the input of a frame for a window of that size. -/
  takeInput : Extent → T → In × T
  beginFrame : In → T → T
  /-- Ends the frame: the cursor that its widgets ask for, and what is to be painted. -/
  endFrame : T → (Cursor.WidgetIcon × Painted P N C) × T
  wantsMouse : T → Bool
  wantsKeyboard : T → Bool
  /-- Declares a sub-window in the frame that is open. -/
  declare : SubWindow → Label.Cache (List String) → T →
    List Value × Label.Cache (List String) × T

end WindowHost.Gui
