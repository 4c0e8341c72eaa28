import WindowHost.Config

/-!
# Errors

`IoError`, `BackendError` and `WindowError` name the causes for which an operation of a window
fails. The text shown for each is its `message`.
-/

namespace WindowHost

/-- Why a file could not be written. -/
inductive IoError where
  | notFound
  | isADirectory
  /-- Any other cause, in the words of the system. -/
  | other (text : String)
  deriving DecidableEq, Repr

def IoError.message : IoError → String
  | .notFound => "No such file or directory (os error 2)"
  | .isADirectory => "Is a directory (os error 21)"
  | .other text => text

def IoError.kind : IoError → String
  | .notFound => "Io.NotFound"
  | .isADirectory => "Io.IsADirectory"
  | .other _ => "Io"

/-- Why a renderer failed. -/
inductive BackendError where
  | surface (text : String)
  | texture (text : String)
  | unsupported (feature : String)
  | depthBufferSize (expected actual : Nat)
  | io (cause : IoError)
  deriving DecidableEq, Repr

def BackendError.message : BackendError → String
  | .surface text => "surface error: " ++ text
  | .texture text => "texture error: " ++ text
  | .unsupported feature => feature ++ " is not supported by this backend"
  | .depthBufferSize expected actual =>
    "depth target holds " ++ toString actual ++ " values but the framebuffer has " ++
      toString expected
  | .io cause => cause.message

def BackendError.kind : BackendError → String
  | .surface _ => "Backend.Surface"
  | .texture _ => "Backend.Texture"
  | .unsupported _ => "Backend.Unsupported"
  | .depthBufferSize .. => "Backend.DepthBufferSize"
  | .io _ => "Backend.Io"

/-- Why there is no event loop. -/
inductive EventLoopError where
  | notSupported
  | recreated
  deriving DecidableEq, Repr

def EventLoopError.reason : EventLoopError → String
  | .notSupported => "the requested operation is not supported by Winit"
  | .recreated => "EventLoop can't be recreated"

/-- An operation that only a window with a visible surface has. -/
inductive SurfaceOperation where
  | showFrame | cursorPosition | takeScrollDelta | pollEvents | pollOneEvent | currentEvent
  | setCurrentEvent | setCursor | guiWantsMouse | guiWantsKeyboard
  deriving DecidableEq, Repr

def SurfaceOperation.name : SurfaceOperation → String
  | .showFrame => "show"
  | .cursorPosition => "cursor_position"
  | .takeScrollDelta => "take_scroll_delta"
  | .pollEvents => "poll_events"
  | .pollOneEvent => "poll_one_event"
  | .currentEvent => "current_event"
  | .setCurrentEvent => "set_current_event"
  | .setCursor => "set_cursor"
  | .guiWantsMouse => "gui_wants_mouse"
  | .guiWantsKeyboard => "gui_wants_keyboard"

/-- Why an operation of a window failed. -/
inductive WindowError where
  | noVisibleSurface (operation : SurfaceOperation)
  | invalidCursorShape (index : Int32)
  | invalidConfig (flaw : Config.Flaw)
  | backend (cause : BackendError)
  | eventLoop (cause : EventLoopError)
  | nativeWindow (text : String)
  | io (cause : IoError)
  deriving DecidableEq, Repr

def WindowError.message : WindowError → String
  | .noVisibleSurface operation =>
    "show_window must be enabled to use `" ++ operation.name ++ "`"
  | .invalidCursorShape index =>
    "invalid cursor shape " ++ toString index.toInt ++ ": must be -2 (default), -1 (hidden) or 0-9"
  | .invalidConfig flaw => "invalid window configuration: " ++ flaw.reason
  | .backend cause => cause.message
  | .eventLoop cause => "event loop error: " ++ cause.reason
  | .nativeWindow text => "failed to create native window: " ++ text
  | .io cause => cause.message

def WindowError.kind : WindowError → String
  | .noVisibleSurface _ => "NoVisibleSurface"
  | .invalidCursorShape _ => "InvalidCursorShape"
  | .invalidConfig _ => "InvalidConfig"
  | .backend cause => cause.kind
  | .eventLoop _ => "EventLoop"
  | .nativeWindow _ => "Os"
  | .io cause => cause.kind

end WindowHost
