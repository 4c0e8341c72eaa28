import WindowHost.Native.Surface

/-!
# The buffers of a surface

A surface has four bytes of canvas and one depth value for each pixel of its size. `Surface.Fits`
says so, together with the bounds of the size, and every `Use` of a surface keeps it, refused ones
included. The size is the last one that was accepted, and so reading a surface never meets a buffer
of another length. A boundary of a frame and a change of size leave the canvas in the colour that
was set last and the depth at one. What is relied on of the graphics processor is `Gpu.Proper`.
-/

namespace WindowHost

namespace Image

/-! ## Frames of one colour -/

/-- The channels of a pixel come round with every four bytes. -/
theorem Colour.channel_add (c : Colour) (i k : Nat) : c.channel (4 * i + k) = c.channel k := by
  unfold Colour.channel
  rw [Nat.mul_add_mod]

/-- A pixel has a colour if its four bytes are the channels of it. -/
theorem colourAt_of_channels {bytes : Array UInt8} {c : Colour} {n i : Nat}
    (hsize : bytes.size = 4 * n)
    (h : ∀ (j : Nat) (hj : j < bytes.size), bytes[j] = c.channel j) (hi : i < n) :
    colourAt bytes i = c := by
  have hbyte (k : Nat) (hk : k < 4) : bytes.getD (4 * i + k) 0 = c.channel k := by
    have hlt : 4 * i + k < bytes.size := by omega
    rw [Array.getD, dif_pos hlt, Array.getInternal_eq_getElem, h _ hlt, c.channel_add]
  unfold colourAt
  rw [hbyte 1 (by omega), hbyte 2 (by omega), hbyte 3 (by omega),
    show bytes.getD (4 * i) 0 = c.channel 0 from hbyte 0 (by omega)]
  rfl

/-- A buffer of whole pixels that was filled has the colour everywhere. -/
theorem colourAt_fillRgba {frame : Array UInt8} (colour : Colour) {n i : Nat}
    (hsize : frame.size = 4 * n) (hi : i < n) : colourAt (fillRgba frame colour) i = colour := by
  refine colourAt_of_channels ((size_fillRgba frame colour).trans hsize) (fun j hj => ?_) hi
  rw [size_fillRgba] at hj
  have hwhole : j < frame.size / 4 * 4 := by omega
  simp [fillRgba, hwhole]

/-- A buffer of whole pixels can be packed. -/
theorem packRgba_of_size {bytes : Array UInt8} {n : Nat} (hsize : bytes.size = 4 * n) :
    packRgba bytes = .ok (packedPixels bytes) := by
  unfold packRgba
  rw [if_pos (by omega)]

end Image

namespace Native

open Gui (Painted)
open Image (Colour colourAt packRgba)

/-- A side is within the limit in a size that has nothing wrong with it. -/
theorem bounds_of_sizeFault? {limit : Nat} {size : Extent} (h : sizeFault? limit size = none) :
    size.width.toNat ≤ limit ∧ size.height.toNat ≤ limit := by
  unfold sizeFault? at h
  dsimp only at h
  split at h
  · cases h
  · next hwidth =>
    split at h
    · cases h
    · next hheight =>
      simp only [Bool.not_eq_true', Bool.not_eq_false, Bool.and_eq_true, decide_eq_true_eq]
        at hwidth hheight
      exact ⟨hwidth.2, hheight.2⟩

/-- What is relied on of a graphics processor: no texture that it takes has a side beyond its limit,
which sixteen bits can count, and a canvas has four bytes for each pixel of the size that it was
brought to. -/
structure Gpu.Proper (g : Gpu) : Prop where
  limit : g.textureLimit ≤ 65535
  taken : ∀ size, g.textureFault? size = none →
    size.width.toNat ≤ g.textureLimit ∧ size.height.toNat ≤ g.textureLimit
  whole : ∀ bytes size, (g.buffer bytes size).size = 4 * size.area

/-- Sides of sixteen bits have a product of thirty-two. -/
theorem Gpu.Proper.area {g : Gpu} (hg : g.Proper) {size : Extent}
    (hsize : g.textureFault? size = none) :
    size.area < UInt32.size ∧ (size.width * size.height).toNat = size.area := by
  obtain ⟨hwidth, hheight⟩ := hg.taken size hsize
  have hlimit := hg.limit
  have hlt : size.area < UInt32.size :=
    calc size.area ≤ 65535 * 65535 := Nat.mul_le_mul (by omega) (by omega)
      _ < UInt32.size := by decide
  refine ⟨hlt, ?_⟩
  rw [UInt32.toNat_mul]
  exact Nat.mod_eq_of_lt hlt

/-- A processor without the answers that it is still to give. -/
def Gpu.settled (g : Gpu) : Gpu := { g with acquires := [] }

namespace Surface

variable {P N C : Type}

/-! ## Buffers -/

section Steps

variable (s : Surface P N C)

theorem size_blankDepth (size : Extent) :
    (blankDepth size).size = (size.width * size.height).toNat := by
  simp [blankDepth]

theorem eq_of_mem_blankDepth {size : Extent} {v : Float32} (hv : v ∈ blankDepth size) : v = 1 := by
  unfold blankDepth at hv
  rw [Array.mem_replicate] at hv
  exact hv.2

/-- Writing to the canvas does not change its length. -/
@[simp] theorem size_writeCanvas (start : Nat) (bytes : List UInt8) :
    (s.writeCanvas start bytes).canvas.size = s.canvas.size := by
  unfold writeCanvas
  dsimp only
  generalize bytes.zipIdx = writes
  generalize s.canvas = canvas
  induction writes generalizing canvas with
  | nil => rfl
  | cons write writes ih =>
    rw [List.foldl_cons, ih, Array.size_setIfInBounds]

/-- What of a surface a presentation leaves alone. -/
def buffers : Gpu × Extent × Colour × Array UInt8 × Array Float32 :=
  (s.gpu.settled, s.size, s.clearColour, s.canvas, s.depth)

theorem buffers_paint [DecidableEq N] (frame : Option (Painted P N C)) :
    (s.paint frame).2.buffers = s.buffers := by
  cases frame <;> rfl

theorem buffers_present [DecidableEq N] : s.present.2.buffers = s.buffers := by
  unfold present
  dsimp only
  split
  · exact buffers_paint _ _
  · split
    · exact buffers_paint _ _
    · rfl

/-- A surface in another size, before its canvas is cleared. -/
def brought (size : Extent) : Surface P N C :=
  { s with
    configured := size
    canvas := s.gpu.buffer s.canvas size
    size
    depth := blankDepth size }

/-- What a change of size can come to. -/
inductive Resizes (s : Surface P N C) (size : Extent) :
    (List Entry × Except BackendError Unit) × Surface P N C → Prop where
  | same : size = s.size → Resizes s size (([], .ok ()), s)
  /-- The surface on the window is refused, and nothing has changed. -/
  | surfaceRefused {fault} : size ≠ s.size → s.gpu.surfaceFault? size = some fault →
      Resizes s size (([], .error (.surface fault.message)), s)
  /-- The texture of the canvas is refused when the surface on the window has the size already. -/
  | textureRefused {fault} : size ≠ s.size → s.gpu.surfaceFault? size = none →
      s.gpu.textureFault? size = some fault →
      Resizes s size (([.configured size s.vsync], .error (.texture fault.message)),
        { s with configured := size })
  | taken : size ≠ s.size → s.gpu.surfaceFault? size = none → s.gpu.textureFault? size = none →
      Resizes s size (([.configured size s.vsync], .ok ()), (s.brought size).fillCanvas)

theorem resizes_resize (size : Extent) : Resizes s size (s.resize size) := by
  unfold resize
  by_cases hsame : size = s.size
  · rw [if_pos hsame]
    exact .same hsame
  · rw [if_neg hsame]
    rcases hsurface : s.gpu.surfaceFault? size with _ | fault
    · dsimp only
      rcases htexture : s.gpu.textureFault? size with _ | fault
      · exact .taken hsame hsurface htexture
      · exact .textureRefused hsame hsurface htexture
    · exact .surfaceRefused hsame hsurface

end Steps

/-! ## Cleared buffers -/

/-- Every pixel has that colour, and nothing is in front of the farthest depth. -/
structure Cleared (colour : Colour) (s : Surface P N C) : Prop where
  canvas : ∀ i < s.size.area, colourAt s.canvas i = colour
  depth : ∀ v ∈ s.depth, v = 1

/-- Filling a canvas of the right length clears it. -/
theorem cleared_fillCanvas {s : Surface P N C} (hcanvas : s.canvas.size = 4 * s.size.area)
    (hdepth : ∀ v ∈ s.depth, v = 1) : s.fillCanvas.Cleared s.clearColour :=
  ⟨fun _ hi => Image.colourAt_fillRgba s.clearColour hcanvas hi, hdepth⟩

theorem cleared_prepare {s : Surface P N C} (hcanvas : s.canvas.size = 4 * s.size.area) :
    s.prepare.Cleared s.clearColour := by
  refine cleared_fillCanvas (s := { s with depth := s.depth.map fun _ => clearDepth }) hcanvas
    fun v hv => ?_
  obtain ⟨_, -, hv⟩ := Array.mem_map.1 hv
  exact hv.symm

theorem cleared_brought {s : Surface P N C} (hgpu : s.gpu.Proper) (size : Extent) :
    (s.brought size).fillCanvas.Cleared s.clearColour :=
  cleared_fillCanvas (s := s.brought size) (hgpu.whole s.canvas size)
    fun _ hv => eq_of_mem_blankDepth hv

/-! ## Uses -/

/-- What a host program and its window do with a surface. -/
inductive Use (P N C : Type) where
  | resize (size : Extent)
  | draw (frame : Painted P N C)
  | present
  | writeCanvas (start : Nat) (bytes : List UInt8)
  | writeDepth (i : Nat) (value : Float32)
  | setClearColour (colour : Colour)
  | dump
  | writeImage (path : String) (disk : Storage.Disk)
  | copyDepth (target : Array Float32)
  | prepare

/-- Whether a use succeeds, and the surface after it. -/
def Use.perform [DecidableEq N] (s : Surface P N C) :
    Use P N C → Except BackendError Unit × Surface P N C
  | .resize size => ((s.resize size).1.2, (s.resize size).2)
  | .draw frame => (.ok (), s.draw frame)
  | .present => (s.present.1.2, s.present.2)
  | .writeCanvas start bytes => (.ok (), s.writeCanvas start bytes)
  | .writeDepth i value => (.ok (), s.writeDepth i value)
  | .setClearColour colour => (.ok (), s.setClearColour colour)
  | .dump => (.ok (), s)
  | .writeImage path disk => ((s.writeImage path disk).map fun _ => (), s)
  | .copyDepth target => ((s.copyDepth target).map fun _ => (), s)
  | .prepare => (.ok (), s.prepare)

/-- A use with its outcome. -/
abbrev Record (P N C : Type) := Use P N C × Except BackendError Unit

/-- The size that a use has brought the surface to. -/
def accepted? : Record P N C → Option Extent
  | (.resize size, .ok ()) => some size
  | _ => none

/-- The colour that a use sets for clearing. -/
def colour? : Record P N C → Option Colour
  | (.setClearColour colour, _) => some colour
  | _ => none

/-- What the records tell last of something, or what it was at first. -/
def latest {γ : Type} (f : Record P N C → Option γ) (first : γ) (records : List (Record P N C)) :
    γ :=
  (records.filterMap f).getLast?.getD first

theorem latest_concat {γ : Type} (f : Record P N C → Option γ) (first : γ)
    (records : List (Record P N C)) (r : Record P N C) :
    latest f first (records ++ [r]) = (f r).getD (latest f first records) := by
  unfold latest
  rw [List.filterMap_append]
  rcases hr : f r with _ | x <;> simp [hr]

/-- A surface after some uses of it, with their outcomes. -/
inductive Used [DecidableEq N] (s₀ : Surface P N C) :
    List (Record P N C) → Surface P N C → Prop where
  | opened : Used s₀ [] s₀
  | next {records s u outcome s'} : Used s₀ records s → Use.perform s u = (outcome, s') →
      Used s₀ (records ++ [(u, outcome)]) s'

/-! ## What every use keeps -/

/-- The surface is on that processor, in a size that it takes, and the buffers have the length for
it. -/
structure Fits (gpu : Gpu) (s : Surface P N C) : Prop where
  processor : s.gpu.settled = gpu.settled
  taken : gpu.textureFault? s.size = none
  canvas : s.canvas.size = 4 * s.size.area
  depth : s.depth.size = s.size.area

section Fits

variable {gpu : Gpu} {s s' : Surface P N C}

theorem Fits.of_buffers (h : s.Fits gpu) (hs : s'.buffers = s.buffers) : s'.Fits gpu := by
  unfold buffers at hs
  simp only [Prod.mk.injEq] at hs
  obtain ⟨hgpu, hsize, -, hcanvas, hdepth⟩ := hs
  refine ⟨hgpu.trans h.processor, ?_, ?_, ?_⟩
  · rw [hsize]
    exact h.taken
  · rw [hcanvas, hsize]
    exact h.canvas
  · rw [hdepth, hsize]
    exact h.depth

theorem Fits.surfaceFault? (h : s.Fits gpu) : s.gpu.surfaceFault? = gpu.surfaceFault? := by
  have hfault := congrArg Gpu.surfaceFault? h.processor
  exact hfault

theorem Fits.textureFault? (h : s.Fits gpu) : s.gpu.textureFault? = gpu.textureFault? := by
  have hfault := congrArg Gpu.textureFault? h.processor
  exact hfault

theorem Fits.proper (h : s.Fits gpu) (hgpu : gpu.Proper) : s.gpu.Proper := by
  have hsettled : s.gpu.settled.Proper := by
    rw [h.processor]
    exact ⟨hgpu.limit, hgpu.taken, hgpu.whole⟩
  exact ⟨hsettled.limit, hsettled.taken, hsettled.whole⟩

/-- A size that the processor takes has buffers of the right length, before and after the canvas is
cleared. -/
theorem Fits.brought (h : s.Fits gpu) (hgpu : gpu.Proper) {size : Extent}
    (hsize : s.gpu.textureFault? size = none) : (s.brought size).fillCanvas.Fits gpu := by
  have hcanvas : (s.gpu.buffer s.canvas size).size = 4 * size.area := (h.proper hgpu).whole _ _
  refine ⟨h.processor, h.textureFault? ▸ hsize, (Image.size_fillRgba _ _).trans hcanvas, ?_⟩
  exact (size_blankDepth size).trans ((h.proper hgpu).area hsize).2

/-- Every use keeps the buffers at their length. It changes the size only if it is accepted, and the
colour for clearing only if it sets it. -/
theorem Fits.perform [DecidableEq N] (h : s.Fits gpu) (hgpu : gpu.Proper) {u : Use P N C}
    {outcome : Except BackendError Unit} (hu : u.perform s = (outcome, s')) :
    s'.Fits gpu ∧ s'.size = (accepted? (u, outcome)).getD s.size ∧
      s'.clearColour = (colour? (u, outcome)).getD s.clearColour := by
  cases u with
  | resize size =>
    have hresize := s.resizes_resize size
    rw [Use.perform] at hu
    generalize s.resize size = p at hresize hu
    cases hresize with
    | same hsame =>
      cases hu
      exact ⟨h, hsame.symm, rfl⟩
    | surfaceRefused =>
      cases hu
      exact ⟨h, rfl, rfl⟩
    | textureRefused =>
      cases hu
      exact ⟨⟨h.processor, h.taken, h.canvas, h.depth⟩, rfl, rfl⟩
    | taken _ _ htexture =>
      cases hu
      exact ⟨h.brought hgpu htexture, rfl, rfl⟩
  | present =>
    cases hu
    have hkeep := s.buffers_present
    exact ⟨h.of_buffers hkeep, congrArg (fun b => b.2.1) hkeep, congrArg (fun b => b.2.2.1) hkeep⟩
  | writeCanvas start bytes =>
    cases hu
    have hcanvas := (s.size_writeCanvas start bytes).trans h.canvas
    exact ⟨⟨h.processor, h.taken, hcanvas, h.depth⟩, rfl, rfl⟩
  | writeDepth i value =>
    cases hu
    have hdepth : (s.writeDepth i value).depth.size = s.size.area :=
      Array.size_setIfInBounds.trans h.depth
    exact ⟨⟨h.processor, h.taken, h.canvas, hdepth⟩, rfl, rfl⟩
  | prepare =>
    cases hu
    have hcanvas := (Image.size_fillRgba s.canvas s.clearColour).trans h.canvas
    exact ⟨⟨h.processor, h.taken, hcanvas, Array.size_map.trans h.depth⟩, rfl, rfl⟩
  | draw | setClearColour | dump | writeImage | copyDepth =>
    cases hu
    exact ⟨⟨h.processor, h.taken, h.canvas, h.depth⟩, rfl, rfl⟩

/-- A surface opens in the size of the framebuffer, where a side without length counts as one. -/
theorem fits_openOn (hgpu : gpu.Proper) {framebuffer : Extent} {vsync : Bool} {entry : Entry}
    (h : openOn gpu framebuffer vsync = .ok (entry, s)) :
    s.Fits gpu ∧ s.size = atLeastOne framebuffer ∧ s.clearColour = Native.clearColour := by
  unfold openOn at h
  dsimp only at h
  split at h
  · cases h
  · rcases hfault : (gpu.surfaceFault? (atLeastOne framebuffer)).or
        (gpu.textureFault? (atLeastOne framebuffer)) with _ | fault
    · rw [hfault] at h
      cases h
      obtain ⟨-, htaken⟩ := Option.or_eq_none_iff.1 hfault
      have hdepth := (size_blankDepth (atLeastOne framebuffer)).trans (hgpu.area htaken).2
      refine ⟨⟨rfl, htaken, (Image.size_fillRgba _ _).trans (hgpu.whole _ _), ?_⟩, rfl, rfl⟩
      exact Array.size_map.trans hdepth
    · rw [hfault] at h
      cases h

theorem Used.fits [DecidableEq N] {s₀ : Surface P N C} {records : List (Record P N C)}
    (h : Used s₀ records s) (hgpu : gpu.Proper) (h₀ : s₀.Fits gpu) :
    s.Fits gpu ∧ s.size = latest accepted? s₀.size records ∧
      s.clearColour = latest colour? s₀.clearColour records := by
  induction h with
  | opened => exact ⟨h₀, rfl, rfl⟩
  | next _ hu ih =>
    obtain ⟨hfits, hsize, hcolour⟩ := ih
    obtain ⟨hfits', hsize', hcolour'⟩ := hfits.perform hgpu hu
    refine ⟨hfits', ?_, ?_⟩
    · rw [latest_concat, hsize', hsize]
    · rw [latest_concat, hcolour', hcolour]

/-- A change to another size that is accepted clears the buffers. -/
theorem Fits.cleared_resize (h : s.Fits gpu) (hgpu : gpu.Proper) {size : Extent}
    (hne : size ≠ s.size) (hok : (s.resize size).1.2 = .ok ()) :
    (s.resize size).2.Cleared s.clearColour ∧ (s.resize size).2.size = size := by
  have hresize := s.resizes_resize size
  generalize s.resize size = p at hresize hok ⊢
  cases hresize with
  | same hsame => exact absurd hsame hne
  | surfaceRefused => cases hok
  | textureRefused => cases hok
  | taken => exact ⟨cleared_brought (h.proper hgpu) size, rfl⟩

/-- A change of size was refused. Nothing has changed but the size that the surface on the window is
configured in, and that only if it was the texture of the canvas that was refused. -/
inductive Refused (gpu : Gpu) (s : Surface P N C) (size : Extent) :
    BackendError → Surface P N C → Prop where
  | surface {fault} : gpu.surfaceFault? size = some fault →
      Refused gpu s size (.surface fault.message) s
  | texture {fault} : gpu.surfaceFault? size = none → gpu.textureFault? size = some fault →
      Refused gpu s size (.texture fault.message) { s with configured := size }

theorem Fits.refused (h : s.Fits gpu) {size : Extent} {e : BackendError}
    (herror : (s.resize size).1.2 = .error e) : Refused gpu s size e (s.resize size).2 := by
  have hresize := s.resizes_resize size
  generalize s.resize size = p at hresize herror ⊢
  cases hresize with
  | same => cases herror
  | surfaceRefused _ hsurface =>
    cases herror
    exact .surface (h.surfaceFault? ▸ hsurface)
  | textureRefused _ hsurface htexture =>
    cases herror
    exact .texture (h.surfaceFault? ▸ hsurface) (h.textureFault? ▸ htexture)
  | taken => cases herror

end Fits

/-- The contents of a target after a copy into it; a copy that fails writes nothing. -/
def copied (target : Array Float32) (outcome : Except BackendError (Array Float32)) :
    Array Float32 :=
  outcome.toOption.getD target

/-- A copy of the depth fails exactly for a target of another length, and leaves it then. -/
theorem copyDepth_iff {s : Surface P N C} {n : Nat} (h : s.depth.size = n)
    (target : Array Float32) :
    ((∃ e, s.copyDepth target = .error e) ↔ target.size ≠ n) ∧
      copied target (s.copyDepth target) = if target.size = n then s.depth else target := by
  unfold copyDepth copied
  rw [h]
  by_cases htarget : target.size = n
  · simp [htarget, Except.toOption]
  · simp [htarget, Except.toOption]

/-- The buffers of a surface match its size in every run of uses, and whatever is refused on the
way. The size is the one that was accepted last; it has fewer than 2^32 pixels, so that a product of
thirty-two bits counts them. The canvas has four bytes and the depth one value for each. Reading the
canvas always gives a picture of that many pixels, and a copy of the depth fails exactly for a
target of another length, which stays as it is. The boundary of a frame and every change to another
size that is accepted leave the canvas in the colour that was set last and the depth at one. A
change that is refused at either of its two steps leaves size and buffers as they were. -/
theorem buffers_match_size [DecidableEq N] {gpu : Gpu} (hgpu : gpu.Proper)
    {framebuffer : Extent} {vsync : Bool} {entry : Entry} {s₀ s : Surface P N C}
    (hopen : openOn gpu framebuffer vsync = .ok (entry, s₀)) {records : List (Record P N C)}
    (h : Used s₀ records s) :
    s.size = latest accepted? (atLeastOne framebuffer) records ∧
      (s.size.area < UInt32.size ∧ (s.size.width * s.size.height).toNat = s.size.area) ∧
      s.canvas.size = 4 * s.size.area ∧ s.depth.size = s.size.area ∧
      (packRgba s.canvas = .ok s.dump.pixels ∧ s.dump.pixels.size = s.size.area ∧
        s.dump.size = s.size) ∧
      (∀ target, ((∃ e, s.copyDepth target = .error e) ↔ target.size ≠ s.size.area) ∧
        copied target (s.copyDepth target) =
          if target.size = s.size.area then s.depth else target) ∧
      s.prepare.Cleared (latest colour? Native.clearColour records) ∧
      (∀ size, size ≠ s.size → (s.resize size).1.2 = .ok () →
        (s.resize size).2.Cleared (latest colour? Native.clearColour records) ∧
          (s.resize size).2.size = size) ∧
      ∀ size e, (s.resize size).1.2 = .error e → Refused gpu s size e (s.resize size).2 := by
  obtain ⟨hfits₀, hsize₀, hcolour₀⟩ := fits_openOn hgpu hopen
  obtain ⟨hfits, hsize, hcolour⟩ := h.fits hgpu hfits₀
  rw [hsize₀] at hsize
  rw [hcolour₀] at hcolour
  refine ⟨hsize, hgpu.area hfits.taken, hfits.canvas, hfits.depth,
    ⟨Image.packRgba_of_size hfits.canvas, ?_, rfl⟩, copyDepth_iff hfits.depth,
    hcolour ▸ cleared_prepare hfits.canvas,
    fun size hne hok => hcolour ▸ hfits.cleared_resize hgpu hne hok,
    fun size e herror => hfits.refused herror⟩
  show (Image.packedPixels s.canvas).size = _
  rw [Image.size_packedPixels, hfits.canvas]
  omega

/-- A processor that refuses the texture of one size only when the surface on the window has it, and
that will lose its first two textures. -/
def frail : Gpu where
  textureLimit := 8
  textureFault? size := if size = ⟨5, 5⟩ then some (.width 5) else sizeFault? 8 size
  acquires := [.lost, .lost]

theorem proper_frail : frail.Proper where
  limit := by decide
  taken size h := by
    by_cases hsize : size = ⟨5, 5⟩
    · subst hsize
      cases h
    · exact bounds_of_sizeFault? ((if_neg hsize).symm.trans h)
  whole _ _ := Array.size_ofFn

/-- A surface of that processor, as it is opened. -/
def frailSurface : Surface Unit Unit Unit := (built frail ⟨1, 3⟩ false).prepare

theorem buffers_match_size_refused :
    ∃ records s, openOn frail ⟨0, 3⟩ false = .ok (.configured ⟨1, 3⟩ false, frailSurface) ∧
      Used frailSurface records s ∧
      records.map (fun r => r.2.isOk) = [true, false, true, false, false, true, true, true] ∧
      s.size = ⟨4, 2⟩ ∧ s.canvas.size = 32 ∧ s.depth.size = 8 ∧ s.dump.pixels.size = 8 ∧
      colourAt s.canvas 6 = ⟨9, 8, 7, 255⟩ ∧ colourAt s.canvas 7 = ⟨9, 8, 1, 2⟩ ∧
      s.depth.toList = [1, 1, 1, 1, 1, 1, 1, 0.5] ∧
      s.prepare.Cleared ⟨9, 8, 7, 255⟩ ∧ (s.resize ⟨2, 2⟩).2.Cleared ⟨9, 8, 7, 255⟩ ∧
      (s.resize ⟨5, 5⟩).2.configured = ⟨5, 5⟩ ∧ (s.resize ⟨5, 5⟩).2.size = ⟨4, 2⟩ := by
  have hopen : openOn frail ⟨0, 3⟩ false =
    .ok (.configured ⟨1, 3⟩ false, frailSurface) := rfl
  have h₀ : Used frailSurface [] frailSurface := .opened
  have h₁ := h₀.next (u := .draw ⟨(), [], [], 1⟩) rfl
  have h₂ := h₁.next (u := .present) rfl
  have h₃ := h₂.next (u := .setClearColour ⟨9, 8, 7, 255⟩) rfl
  have h₄ := h₃.next (u := .resize ⟨0, 5⟩) rfl
  have h₅ := h₄.next (u := .resize ⟨5, 5⟩) rfl
  have h₆ := h₅.next (u := .resize ⟨4, 2⟩) rfl
  have h₇ := h₆.next (u := .writeCanvas 30 [1, 2, 3]) rfl
  have h₈ := h₇.next (u := .writeDepth 7 0.5) rfl
  obtain ⟨hsize, -, hcanvas, hdepth, ⟨-, hpixels, -⟩, -, hprepare, hresize, -⟩ :=
    buffers_match_size proper_frail hopen h₈
  rw [hsize] at hcanvas hdepth hpixels
  exact ⟨_, _, hopen, h₈, rfl, hsize, hcanvas, hdepth, hpixels, rfl, rfl, rfl, hprepare,
    (hresize ⟨2, 2⟩ (by decide) rfl).1, rfl, rfl⟩

end Surface

end Native

end WindowHost
