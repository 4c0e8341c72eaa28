/-!
# Graphics interfaces

A configuration names the graphics interface that rendering should use as a `GraphicsApi`.
`GraphicsApi.candidates` are the interfaces of the system that this leaves open.
-/

namespace WindowHost

/-- The choice of a graphics interface. -/
inductive GraphicsApi where
  | auto | vulkan | metal | dx12 | gl
  deriving DecidableEq, Repr, Inhabited

def GraphicsApi.all : List GraphicsApi := [.auto, .vulkan, .metal, .dx12, .gl]

def GraphicsApi.name : GraphicsApi → String
  | .auto => "Auto"
  | .vulkan => "Vulkan"
  | .metal => "Metal"
  | .dx12 => "Dx12"
  | .gl => "Gl"

/-- The name of a choice as its users know it. -/
def GraphicsApi.displayName : GraphicsApi → String
  | .auto => "Auto"
  | .vulkan => "Vulkan"
  | .metal => "Metal"
  | .dx12 => "DirectX 12"
  | .gl => "OpenGL"

/-- A graphics interface that a system may have. -/
inductive GpuInterface where
  | vulkan | gl | metal | dx12 | webGpu
  deriving DecidableEq, Repr, Inhabited

def GpuInterface.all : List GpuInterface := [.vulkan, .gl, .metal, .dx12, .webGpu]

def GpuInterface.name : GpuInterface → String
  | .vulkan => "Vulkan"
  | .gl => "Gl"
  | .metal => "Metal"
  | .dx12 => "Dx12"
  | .webGpu => "WebGpu"

/-- The interfaces that a choice leaves open. Without a preference these are all but the oldest. -/
def GraphicsApi.candidates : GraphicsApi → List GpuInterface
  | .auto => [.vulkan, .metal, .dx12, .webGpu]
  | .vulkan => [.vulkan]
  | .metal => [.metal]
  | .dx12 => [.dx12]
  | .gl => [.gl]

end WindowHost
