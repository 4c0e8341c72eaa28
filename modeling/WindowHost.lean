import WindowHost.Button
import WindowHost.Button.Key
import WindowHost.Button.Vocabulary
import WindowHost.Config
import WindowHost.Cursor.Arbiter
import WindowHost.Cursor.Icon
import WindowHost.Cursor.Request
import WindowHost.Cursor.Shape
import WindowHost.Demo
import WindowHost.Devices
import WindowHost.Devices.Parts
import WindowHost.Devices.Recorded
import WindowHost.Error
import WindowHost.Event
import WindowHost.Event.Queue
import WindowHost.Graphics
import WindowHost.Gui.Choice
import WindowHost.Gui.Colour
import WindowHost.Gui.Context
import WindowHost.Gui.CursorWriter
import WindowHost.Gui.Embedded
import WindowHost.Gui.Field
import WindowHost.Gui.Floating
import WindowHost.Gui.Forwarding
import WindowHost.Gui.Frame
import WindowHost.Gui.Geometry
import WindowHost.Gui.Layer
import WindowHost.Gui.Panel
import WindowHost.Gui.Picker
import WindowHost.Gui.Pointer
import WindowHost.Gui.Region
import WindowHost.Gui.Response
import WindowHost.Gui.Session
import WindowHost.Gui.Slider
import WindowHost.Gui.Texture
import WindowHost.Gui.Toolkit
import WindowHost.Gui.Typeface
import WindowHost.Gui.Ui
import WindowHost.Gui.Widget
import WindowHost.Image.Pixel
import WindowHost.Image.Pixmap
import WindowHost.Input
import WindowHost.Label.Cache
import WindowHost.Main
import WindowHost.Native.Desktop
import WindowHost.Native.Display
import WindowHost.Native.Event
import WindowHost.Native.Log
import WindowHost.Native.Surface
import WindowHost.Number.Binary
import WindowHost.Number.Decimal
import WindowHost.Number.Rounding
import WindowHost.Number.Scalar
import WindowHost.Number.Simplest
import WindowHost.Number.Word
import WindowHost.Pacing.Clock
import WindowHost.Pacing.Pacer
import WindowHost.Pacing.Rate
import WindowHost.Script
import WindowHost.Storage.Disk
import WindowHost.Text.GraphemeExtend
import WindowHost.Text.Quoted
import WindowHost.Text.Unprintable
import WindowHost.Time
import WindowHost.Window.Basic
import WindowHost.Window.Frame
import WindowHost.Window.Pump
import WindowHost.Window.Query
import WindowHost.Proofs.Delivery
import WindowHost.Proofs.Course
import WindowHost.Proofs.Keeps
import WindowHost.Proofs.Pumping
import WindowHost.Proofs.Ledger
import WindowHost.Proofs.Order
import WindowHost.Proofs.Scrolling
import WindowHost.Proofs.ExactlyOnce
import WindowHost.Proofs.NativeCursor
import WindowHost.Proofs.HostCursor
import WindowHost.Proofs.Closing
import WindowHost.Proofs.Record
import WindowHost.Proofs.Mirror
import WindowHost.Proofs.Size
import WindowHost.Proofs.FrameProtocol
import WindowHost.Proofs.CursorLag
import WindowHost.Proofs.Drift
import WindowHost.Proofs.Credit
import WindowHost.Proofs.Presenting
import WindowHost.Proofs.Losses
import WindowHost.Proofs.TextureFlow
import WindowHost.Proofs.TextureFates
import WindowHost.Proofs.Arbitration
import WindowHost.Proofs.Transparency
import WindowHost.Proofs.HandBack
import WindowHost.Proofs.SideBySide
import WindowHost.Proofs.Independence
import WindowHost.Proofs.Vocabulary
import WindowHost.Proofs.Naming
import WindowHost.Proofs.CursorRange
import WindowHost.Proofs.Headless
import WindowHost.Proofs.Passes
import WindowHost.Proofs.Buffers
import WindowHost.Proofs.PixmapReading
import WindowHost.Proofs.Overshoot
import WindowHost.Proofs.FrameRate
import WindowHost.Proofs.Sizing
import WindowHost.Proofs.Nesting
import WindowHost.Proofs.Waiting
import WindowHost.Proofs.Merging
import WindowHost.Proofs.Draining
import WindowHost.Proofs.Eviction
import WindowHost.Proofs.Listening
import WindowHost.Proofs.Forwarding
