import WindowHost.Cursor.Arbiter

/-!
# Cursor icons

A display knows cursors as a `NativeIcon`, named as style sheets name them. Widgets ask for a
`WidgetIcon`. `Shape.icon` and `WidgetIcon.native?` are the native icons for both, and
`WidgetIcon.wish` is how a widget's icon reads to the arbiter.
-/

namespace WindowHost.Cursor

/-- A cursor of a display. -/
inductive NativeIcon where
  | default | contextMenu | help | pointer | progress | wait | cell | crosshair | text
  | verticalText | alias | copy | move | noDrop | notAllowed | grab | grabbing | allScroll
  | zoomIn | zoomOut | eResize | nResize | neResize | nwResize | sResize | seResize | swResize
  | wResize | ewResize | nsResize | neswResize | nwseResize | colResize | rowResize
  deriving DecidableEq, Repr, Inhabited

def NativeIcon.name : NativeIcon → String
  | .default => "default"
  | .contextMenu => "context-menu"
  | .help => "help"
  | .pointer => "pointer"
  | .progress => "progress"
  | .wait => "wait"
  | .cell => "cell"
  | .crosshair => "crosshair"
  | .text => "text"
  | .verticalText => "vertical-text"
  | .alias => "alias"
  | .copy => "copy"
  | .move => "move"
  | .noDrop => "no-drop"
  | .notAllowed => "not-allowed"
  | .grab => "grab"
  | .grabbing => "grabbing"
  | .allScroll => "all-scroll"
  | .zoomIn => "zoom-in"
  | .zoomOut => "zoom-out"
  | .eResize => "e-resize"
  | .nResize => "n-resize"
  | .neResize => "ne-resize"
  | .nwResize => "nw-resize"
  | .sResize => "s-resize"
  | .seResize => "se-resize"
  | .swResize => "sw-resize"
  | .wResize => "w-resize"
  | .ewResize => "ew-resize"
  | .nsResize => "ns-resize"
  | .neswResize => "nesw-resize"
  | .nwseResize => "nwse-resize"
  | .colResize => "col-resize"
  | .rowResize => "row-resize"

/-- The native icon of a shape. -/
def Shape.icon : Shape → NativeIcon
  | .arrow => .default
  | .iBeam => .text
  | .crosshair => .crosshair
  | .hand => .pointer
  | .resizeEW => .ewResize
  | .resizeNS => .nsResize
  | .resizeNWSE => .nwseResize
  | .resizeNESW => .neswResize
  | .resizeAll => .move
  | .notAllowed => .notAllowed

/-- A cursor that widgets ask for. -/
inductive WidgetIcon where
  | default | none | contextMenu | help | pointingHand | progress | wait | cell | crosshair | text
  | verticalText | alias | copy | move | noDrop | notAllowed | grab | grabbing | allScroll
  | resizeHorizontal | resizeNeSw | resizeNwSe | resizeVertical | resizeEast | resizeSouthEast
  | resizeSouth | resizeSouthWest | resizeWest | resizeNorthWest | resizeNorth | resizeNorthEast
  | resizeColumn | resizeRow | zoomIn | zoomOut
  deriving DecidableEq, Repr, Inhabited

namespace WidgetIcon

def all : List WidgetIcon :=
  [.default, .none, .contextMenu, .help, .pointingHand, .progress, .wait, .cell, .crosshair, .text,
    .verticalText, .alias, .copy, .move, .noDrop, .notAllowed, .grab, .grabbing, .allScroll,
    .resizeHorizontal, .resizeNeSw, .resizeNwSe, .resizeVertical, .resizeEast, .resizeSouthEast,
    .resizeSouth, .resizeSouthWest, .resizeWest, .resizeNorthWest, .resizeNorth, .resizeNorthEast,
    .resizeColumn, .resizeRow, .zoomIn, .zoomOut]

def name : WidgetIcon → String
  | .default => "Default"
  | .none => "None"
  | .contextMenu => "ContextMenu"
  | .help => "Help"
  | .pointingHand => "PointingHand"
  | .progress => "Progress"
  | .wait => "Wait"
  | .cell => "Cell"
  | .crosshair => "Crosshair"
  | .text => "Text"
  | .verticalText => "VerticalText"
  | .alias => "Alias"
  | .copy => "Copy"
  | .move => "Move"
  | .noDrop => "NoDrop"
  | .notAllowed => "NotAllowed"
  | .grab => "Grab"
  | .grabbing => "Grabbing"
  | .allScroll => "AllScroll"
  | .resizeHorizontal => "ResizeHorizontal"
  | .resizeNeSw => "ResizeNeSw"
  | .resizeNwSe => "ResizeNwSe"
  | .resizeVertical => "ResizeVertical"
  | .resizeEast => "ResizeEast"
  | .resizeSouthEast => "ResizeSouthEast"
  | .resizeSouth => "ResizeSouth"
  | .resizeSouthWest => "ResizeSouthWest"
  | .resizeWest => "ResizeWest"
  | .resizeNorthWest => "ResizeNorthWest"
  | .resizeNorth => "ResizeNorth"
  | .resizeNorthEast => "ResizeNorthEast"
  | .resizeColumn => "ResizeColumn"
  | .resizeRow => "ResizeRow"
  | .zoomIn => "ZoomIn"
  | .zoomOut => "ZoomOut"

def ofName? (s : String) : Option WidgetIcon := all.find? fun i => i.name == s

/-- The native icon for a widget's cursor; none hides the native cursor. -/
def native? : WidgetIcon → Option NativeIcon
  | .none => Option.none
  | .default => some .default
  | .contextMenu => some .contextMenu
  | .help => some .help
  | .pointingHand => some .pointer
  | .progress => some .progress
  | .wait => some .wait
  | .cell => some .cell
  | .crosshair => some .crosshair
  | .text => some .text
  | .verticalText => some .verticalText
  | .alias => some .alias
  | .copy => some .copy
  | .move => some .move
  | .noDrop => some .noDrop
  | .notAllowed => some .notAllowed
  | .grab => some .grab
  | .grabbing => some .grabbing
  | .allScroll => some .allScroll
  | .resizeHorizontal => some .ewResize
  | .resizeNeSw => some .neswResize
  | .resizeNwSe => some .nwseResize
  | .resizeVertical => some .nsResize
  | .resizeEast => some .eResize
  | .resizeSouthEast => some .seResize
  | .resizeSouth => some .sResize
  | .resizeSouthWest => some .swResize
  | .resizeWest => some .wResize
  | .resizeNorthWest => some .nwResize
  | .resizeNorth => some .nResize
  | .resizeNorthEast => some .neResize
  | .resizeColumn => some .colResize
  | .resizeRow => some .rowResize
  | .zoomIn => some .zoomIn
  | .zoomOut => some .zoomOut

/-- How a widget's cursor reads to the arbiter. -/
def wish : WidgetIcon → GuiCursor
  | .none => .none
  | .default => .default
  | _ => .special

end WidgetIcon

end WindowHost.Cursor
