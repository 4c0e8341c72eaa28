import Mathlib.Tactic.IntervalCases
import WindowHost.Image.Pixmap
import WindowHost.Proofs.Buffers
import WindowHost.Storage.Disk

/-!
# Reading pixmaps back

A frame that is packed and written as a pixmap can be read back. `Pixmap.decode?` reads a file from
its front: the size in decimal, the largest value of a channel, a blank and then nothing but the
channels. The size ends at a blank, and one blank only ends the header, so whatever bytes follow are
not taken for a part of it. What is read back is the frame without its opacities.
-/

namespace WindowHost.Image

/-! ## Words and bytes -/

/-- The bytes of a word, the lowest first. -/
def wordBytes (w : UInt32) : List UInt8 :=
  [w.toUInt8, (w >>> 8).toUInt8, (w >>> 16).toUInt8, (w >>> 24).toUInt8]

/-- Every fourth byte is left out. -/
def dropFourths : List UInt8 → List UInt8
  | a :: b :: c :: _ :: bytes => a :: b :: c :: dropFourths bytes
  | bytes => bytes

namespace Colour

theorem toNat_pack (c : Colour) :
    c.pack.toNat =
      c.red.toNat + 0x100 * c.green.toNat + 0x10000 * c.blue.toNat + 0x1000000 * c.alpha.toNat := by
  have hred := c.red.toNat_lt
  have hgreen := c.green.toNat_lt
  have hblue := c.blue.toNat_lt
  have halpha := c.alpha.toNat_lt
  refine UInt32.toNat_ofNat_of_lt' ?_
  show _ < 4294967296
  omega

theorem unpack_pack (c : Colour) : unpack c.pack = c := by
  have hword := c.toNat_pack
  have hred := c.red.toNat_lt
  have hgreen := c.green.toNat_lt
  have hblue := c.blue.toNat_lt
  have halpha := c.alpha.toNat_lt
  rcases c with ⟨red, green, blue, alpha⟩
  simp only [unpack, Colour.mk.injEq]
  refine ⟨?_, ?_, ?_, ?_⟩
  all_goals
    apply UInt8.toNat_inj.1
    simp at *
    omega

/-- The four bytes of a pixel. -/
def bytes (c : Colour) : List UInt8 := [c.red, c.green, c.blue, c.alpha]

/-- The three bytes of a pixel without its opacity. -/
def rgb (c : Colour) : List UInt8 := [c.red, c.green, c.blue]

end Colour

/-- The bytes of a word, the lowest first, are the channels of its colour. -/
theorem wordBytes_eq (w : UInt32) : wordBytes w = (Colour.unpack w).bytes := by
  simp only [wordBytes, Colour.unpack, Colour.bytes, List.cons.injEq, and_true]
  refine ⟨?_, ?_, ?_, ?_⟩
  all_goals
    apply UInt8.toNat_inj.1
    simp [Nat.shiftRight_eq_div_pow]

/-! ## Buffers as lists of colours -/

/-- A buffer of whole pixels holds a list of colours. -/
theorem exists_colours :
    ∀ l : List UInt8, l.length % 4 = 0 → ∃ cs : List Colour, l = cs.flatMap Colour.bytes
  | [], _ => ⟨[], rfl⟩
  | [_], h | [_, _], h | [_, _, _], h => by simp at h
  | red :: green :: blue :: alpha :: l, h => by
    simp only [List.length_cons] at h
    obtain ⟨cs, hcs⟩ := exists_colours l (by omega)
    exact ⟨⟨red, green, blue, alpha⟩ :: cs, by rw [hcs]; rfl⟩

section Buffers

variable {cs : List Colour} {bytes : Array UInt8}

theorem length_flatMap_bytes (cs : List Colour) :
    (cs.flatMap Colour.bytes).length = 4 * cs.length := by
  induction cs with
  | nil => rfl
  | cons c cs ih =>
    rw [List.flatMap_cons, List.length_append, ih, List.length_cons]
    show 4 + _ = _
    omega

theorem dropFourths_flatMap (cs : List Colour) :
    dropFourths (cs.flatMap Colour.bytes) = cs.flatMap Colour.rgb := by
  induction cs with
  | nil => rfl
  | cons c cs ih =>
    show c.red :: c.green :: c.blue :: dropFourths (cs.flatMap Colour.bytes) = _
    rw [ih]
    rfl

/-- In a list of stretches of one length, a place is that of the stretch and that within it. -/
theorem getElem?_flatMap_of_length {γ δ : Type} {f : γ → List δ} {n : Nat}
    (hf : ∀ x, (f x).length = n) (xs : List γ) (i : Nat) {k : Nat} (hk : k < n) :
    (xs.flatMap f)[n * i + k]? = xs[i]?.bind fun x => (f x)[k]? := by
  induction xs generalizing i with
  | nil => rfl
  | cons x xs ih =>
    cases i with
    | zero =>
      rw [List.flatMap_cons, List.getElem?_append_left (by rw [hf]; omega), Nat.mul_zero,
        Nat.zero_add]
      rfl
    | succ i =>
      have hplace : n * (i + 1) + k = (f x).length + (n * i + k) := by
        rw [hf, Nat.mul_succ]
        omega
      rw [List.flatMap_cons, hplace, List.getElem?_append_right (Nat.le_add_right _ _),
        Nat.add_sub_cancel_left, ih]
      rfl

theorem colourAt_of_toList (h : bytes.toList = cs.flatMap Colour.bytes) {i : Nat}
    (hi : i < cs.length) : colourAt bytes i = cs[i] := by
  have hbyte (k : Nat) (hk : k < 4) : bytes.getD (4 * i + k) 0 = cs[i].channel k := by
    rw [Array.getD_eq_getD_getElem?, ← Array.getElem?_toList, h,
      getElem?_flatMap_of_length (f := Colour.bytes) (fun _ => rfl) cs i hk,
      List.getElem?_eq_getElem hi]
    interval_cases k <;> rfl
  unfold colourAt
  rw [hbyte 1 (by omega), hbyte 2 (by omega), hbyte 3 (by omega),
    show bytes.getD (4 * i) 0 = cs[i].channel 0 from hbyte 0 (by omega)]
  rfl

/-- Packing goes through the colours in their order. -/
theorem toList_packedPixels (hsize : bytes.size = 4 * cs.length)
    (h : ∀ (i : Nat) (hi : i < cs.length), colourAt bytes i = cs[i]) :
    (packedPixels bytes).toList = cs.map Colour.pack := by
  have hlength : bytes.size / 4 = cs.length := by omega
  refine List.ext_getElem ?_ fun i hi hi' => ?_
  · simp [hlength]
  · rw [List.length_map] at hi'
    simp [packedPixels, h i hi']

/-- Unpacking goes through the words in their order. -/
theorem toList_rgbBytes (pixels : Array UInt32) :
    (rgbBytes pixels).toList = pixels.toList.flatMap fun w => (Colour.unpack w).rgb := by
  have hchannel (c : Colour) {k : Nat} (hk : k < 3) : c.rgb[k]? = some (c.channel k) := by
    interval_cases k <;> rfl
  refine List.ext_getElem? fun i => ?_
  have hplace := getElem?_flatMap_of_length (f := fun w => (Colour.unpack w).rgb) (fun _ => rfl)
    pixels.toList (i / 3) (Nat.mod_lt i (by decide : 0 < 3))
  rw [Nat.div_add_mod] at hplace
  rw [hplace, Array.getElem?_toList, Array.getElem?_toList, rgbBytes, Array.getElem?_ofFn]
  by_cases hi : i < 3 * pixels.size
  · have hpixel : i / 3 < pixels.size := by omega
    simp [hi, hpixel, hchannel _ (Nat.mod_lt i (by decide : 0 < 3))]
  · have hpixel : ¬ i / 3 < pixels.size := by omega
    simp [hi, hpixel]

end Buffers

/-! ## Packed buffers -/

section Packed

variable {bytes : Array UInt8} {pixels : Array UInt32}

/-- A buffer can be packed if it holds a list of colours, and these are what the words are of. -/
theorem packRgba_eq_ok_iff :
    packRgba bytes = .ok pixels ↔
      ∃ cs : List Colour,
        bytes.toList = cs.flatMap Colour.bytes ∧ pixels.toList = cs.map Colour.pack := by
  have hpacked {cs : List Colour} (hcs : bytes.toList = cs.flatMap Colour.bytes) :
      bytes.size = 4 * cs.length ∧ (packedPixels bytes).toList = cs.map Colour.pack := by
    have hsize : bytes.size = 4 * cs.length := by
      rw [← Array.length_toList, hcs, length_flatMap_bytes]
    exact ⟨hsize, toList_packedPixels hsize fun i hi => colourAt_of_toList hcs hi⟩
  constructor
  · intro h
    unfold packRgba at h
    by_cases hwhole : bytes.size % 4 = 0
    · rw [if_pos hwhole] at h
      cases h
      obtain ⟨cs, hcs⟩ := exists_colours bytes.toList hwhole
      exact ⟨cs, hcs, (hpacked hcs).2⟩
    · rw [if_neg hwhole] at h
      cases h
  · rintro ⟨cs, hcs, hpixels⟩
    obtain ⟨hsize, hwords⟩ := hpacked hcs
    rw [packRgba_of_size hsize, Array.toList_inj.1 (hwords.trans hpixels.symm)]

/-- The bytes of the words are the buffer again. -/
theorem flatMap_wordBytes_of_packRgba (h : packRgba bytes = .ok pixels) :
    pixels.toList.flatMap wordBytes = bytes.toList := by
  obtain ⟨cs, hcs, hpixels⟩ := packRgba_eq_ok_iff.1 h
  rw [hcs, hpixels, List.flatMap_map]
  simp only [wordBytes_eq, Colour.unpack_pack]

/-- Without the opacities, the words are the buffer without every fourth byte. -/
theorem toList_rgbBytes_of_packRgba (h : packRgba bytes = .ok pixels) :
    (rgbBytes pixels).toList = dropFourths bytes.toList := by
  obtain ⟨cs, hcs, hpixels⟩ := packRgba_eq_ok_iff.1 h
  rw [toList_rgbBytes, hpixels, hcs, dropFourths_flatMap, List.flatMap_map]
  simp only [Colour.unpack_pack]

/-- A buffer of whole pixels that was filled holds copies of the colour. -/
theorem toList_fillRgba {frame : Array UInt8} (colour : Colour) {n : Nat}
    (hsize : frame.size = 4 * n) :
    (fillRgba frame colour).toList = (List.replicate n colour).flatMap Colour.bytes := by
  have hfilled : (fillRgba frame colour).toList.length = 4 * n := by
    rw [Array.length_toList, size_fillRgba, hsize]
  obtain ⟨cs, hcs⟩ := exists_colours (fillRgba frame colour).toList (by omega)
  have hlength : cs.length = n := by
    rw [hcs, length_flatMap_bytes] at hfilled
    omega
  have hcolours : cs = List.replicate n colour := by
    refine List.eq_replicate_iff.2 ⟨hlength, fun c hc => ?_⟩
    obtain ⟨i, hi, rfl⟩ := List.getElem_of_mem hc
    rw [← colourAt_of_toList hcs hi, colourAt_fillRgba colour hsize (hlength ▸ hi)]
  rw [hcs, hcolours]

end Packed

/-! ## A reader -/

namespace Pixmap

def isBlank (b : UInt8) : Bool := [9, 10, 11, 12, 13, 32].contains b

def isDigit (b : UInt8) : Bool := 48 ≤ b && b ≤ 57

/-- The number that decimal digits stand for, the first one highest. -/
def numberOf (digits : List UInt8) : Nat := digits.foldl (fun n b => 10 * n + (b.toNat - 48)) 0

/-- Reads a number, as far as there are digits, and there must be one. -/
def number? (bytes : List UInt8) : Option (Nat × List UInt8) :=
  if bytes.takeWhile isDigit = [] then none
  else some (numberOf (bytes.takeWhile isDigit), bytes.dropWhile isDigit)

/-- Passes over blanks, of which there must be one. -/
def blanks? (bytes : List UInt8) : Option (List UInt8) :=
  if bytes.takeWhile isBlank = [] then none else some (bytes.dropWhile isBlank)

/-- What is read from a pixmap. -/
structure Contents where
  width : Nat
  height : Nat
  /-- Three bytes a pixel, row by row from the top. -/
  channels : List UInt8
  deriving DecidableEq, Repr

/-- Reads a file: the letter and the digit of the format, the size and the largest value of a
channel with blanks before each, one blank, and the channels of that many pixels. -/
def decode? : List UInt8 → Option Contents
  | 80 :: 54 :: bytes => do
    let (width, bytes) ← number? (← blanks? bytes)
    let (height, bytes) ← number? (← blanks? bytes)
    let (largest, bytes) ← number? (← blanks? bytes)
    match bytes with
    | blank :: channels =>
      if largest = 255 ∧ isBlank blank ∧ channels.length = 3 * (width * height) then
        some ⟨width, height, channels⟩
      else none
    | [] => none
  | _ => none

/-! ## Numbers in decimal -/

/-- A number in decimal. -/
def decimal (n : Nat) : List UInt8 := (toString n).toUTF8.data.toList

/-- The last digit is that of the ones. -/
theorem decimal_eq (n : Nat) :
    decimal n = (if n < 10 then [] else decimal (n / 10)) ++ [UInt8.ofNat (48 + n % 10)] := by
  have hdigit (d : Nat) (hd : d < 10) :
      ([d.digitChar].utf8Encode).data.toList = [UInt8.ofNat (48 + d)] := by
    interval_cases d <;> rfl
  have hrepr (n : Nat) : decimal n = (Nat.toDigits 10 n).utf8Encode.data.toList := rfl
  rw [hrepr, hrepr, Nat.toDigits_eq_if (by decide)]
  by_cases hn : n < 10
  · rw [if_pos hn, if_pos hn, hdigit n hn, Nat.mod_eq_of_lt hn]
    rfl
  · rw [if_neg hn, if_neg hn, List.utf8Encode_append, ByteArray.data_append, Array.toList_append,
      hdigit _ (Nat.mod_lt n (by decide))]

theorem numberOf_concat (digits : List UInt8) {d : Nat} (hd : d < 10) :
    numberOf (digits ++ [UInt8.ofNat (48 + d)]) = 10 * numberOf digits + d := by
  rw [numberOf, List.foldl_append]
  interval_cases d <;> rfl

/-- A number in decimal has a digit, has only digits, and stands for itself. -/
theorem decimal_spec (n : Nat) :
    decimal n ≠ [] ∧ (∀ b ∈ decimal n, isDigit b = true) ∧ numberOf (decimal n) = n := by
  induction n using Nat.strongRecOn with
  | ind n ih =>
    have hlast : n % 10 < 10 := Nat.mod_lt n (by decide)
    have hdigit : isDigit (UInt8.ofNat (48 + n % 10)) = true := by
      generalize n % 10 = d at hlast
      interval_cases d <;> rfl
    rw [decimal_eq, numberOf_concat _ hlast]
    by_cases hn : n < 10
    · rw [if_pos hn]
      refine ⟨by simp, by simpa using hdigit, ?_⟩
      show 10 * 0 + _ = n
      omega
    · -- what stands before the last digit is a tenth of the number
      obtain ⟨-, hdigits, hnumber⟩ := ih (n / 10) (by omega)
      rw [if_neg hn, hnumber]
      refine ⟨by simp, fun b hb => ?_, by omega⟩
      rcases List.mem_append.1 hb with hb | hb
      · exact hdigits b hb
      · rw [List.mem_singleton.1 hb]
        exact hdigit

theorem isBlank_of_isDigit {b : UInt8} (h : isDigit b = true) : isBlank b = false := by
  by_contra hblank
  simp only [isBlank, List.contains_eq_mem, List.mem_cons, List.not_mem_nil, or_false,
    decide_eq_false_iff_not, not_not] at hblank
  rcases hblank with rfl | rfl | rfl | rfl | rfl | rfl
  all_goals exact absurd h (by decide)

section Fields

variable {b : UInt8} (n : Nat) (bytes : List UInt8)

/-- A number ends where the digits end. -/
theorem number?_decimal (hb : isDigit b = false) :
    number? (decimal n ++ b :: bytes) = some (n, b :: bytes) := by
  obtain ⟨hne, hdigits, hnumber⟩ := decimal_spec n
  have htaken : (b :: bytes).takeWhile isDigit = [] := by simp [hb]
  have hleft : (b :: bytes).dropWhile isDigit = b :: bytes := by simp [hb]
  rw [number?, List.takeWhile_append_of_pos hdigits, List.dropWhile_append_of_pos hdigits, htaken,
    hleft, List.append_nil, if_neg hne, hnumber]

/-- A blank before a number is passed over, and no digit of it. -/
theorem blanks?_decimal (hb : isBlank b = true) :
    blanks? (b :: (decimal n ++ bytes)) = some (decimal n ++ bytes) := by
  obtain ⟨hne, hdigits, -⟩ := decimal_spec n
  obtain ⟨first, digits, hdecimal⟩ := List.exists_cons_of_ne_nil hne
  have hfirst : isBlank first = false :=
    isBlank_of_isDigit (hdigits first (by rw [hdecimal]; exact .head _))
  rw [blanks?, hdecimal]
  simp [hb, hfirst]

end Fields

/-! ## Reading what was written -/

theorem toList_header (size : Extent) :
    (header size).toUTF8.data.toList =
      80 :: 54 :: 10 :: (decimal size.width.toNat ++
        32 :: (decimal size.height.toNat ++ 10 :: (decimal 255 ++ [10]))) := by
  have happend (s t : String) :
      (s ++ t).toUTF8.data.toList = s.toUTF8.data.toList ++ t.toUTF8.data.toList := by
    simp only [String.toUTF8_eq_toByteArray, String.toByteArray_append, ByteArray.data_append,
      Array.toList_append]
  rw [header, happend, happend, happend, happend]
  simp only [List.append_assoc]
  rfl

/-- Whatever the channels are, the header ends before them. -/
theorem decode?_header (size : Extent) {channels : List UInt8}
    (hlength : channels.length = 3 * size.area) :
    decode? ((header size).toUTF8.data.toList ++ channels) =
      some ⟨size.width.toNat, size.height.toNat, channels⟩ := by
  rw [toList_header]
  have hline : isBlank 10 = true := rfl
  have hspace : isBlank 32 = true := rfl
  have hends : isDigit 10 = false ∧ isDigit 32 = false := ⟨rfl, rfl⟩
  simp only [List.cons_append, List.append_assoc, List.nil_append, decode?,
    blanks?_decimal _ _ hline, blanks?_decimal _ _ hspace, number?_decimal _ _ hends.1,
    number?_decimal _ _ hends.2, Option.bind_eq_bind, Option.bind_some]
  exact if_pos ⟨trivial, hline, hlength⟩

theorem toList_encode (p : Picture) :
    (encode p).toList = (header p.size).toUTF8.data.toList ++ (rgbBytes p.pixels).toList := by
  rw [encode, Array.toList_append]

/-- A picture with as many pixels as its size says can be read. -/
theorem decode?_encode {p : Picture} (hpixels : p.pixels.size = p.size.area) :
    decode? (encode p).toList =
      some ⟨p.size.width.toNat, p.size.height.toNat, (rgbBytes p.pixels).toList⟩ := by
  rw [toList_encode]
  refine decode?_header p.size ?_
  rw [Array.length_toList, size_rgbBytes, hpixels]

/-- A buffer is packed, its words are unpacked without a failure, and wherever the pixmap of a size
is written, that size and those channels are read from the file. -/
def ReadsBack (bytes : Array UInt8) (size : Extent) (channels : List UInt8) : Prop :=
  ∃ pixels rgb, packRgba bytes = .ok pixels ∧ packedToRgb pixels (pixels.size * 3) = .ok rgb ∧
    encode ⟨pixels, size⟩ = (header size).toUTF8.data ++ rgb ∧
    ∀ (disk disk' : Storage.Disk) (path : String),
      disk.write path (encode ⟨pixels, size⟩) = .ok disk' →
        ∃ file, disk'.read? path = some file ∧
          decode? file.toList = some ⟨size.width.toNat, size.height.toNat, channels⟩

theorem readsBack {bytes : Array UInt8} {size : Extent} (hsize : bytes.size = 4 * size.area) :
    ReadsBack bytes size (dropFourths bytes.toList) := by
  have hpacked := packRgba_of_size hsize
  refine ⟨_, _, hpacked, if_pos rfl, rfl, fun disk disk' path hwrite => ?_⟩
  refine ⟨_, Storage.Disk.read?_of_write hwrite, ?_⟩
  rw [← toList_rgbBytes_of_packRgba hpacked]
  refine decode?_encode ?_
  show (packedPixels bytes).size = size.area
  rw [size_packedPixels, hsize]
  omega

/-- A buffer of whole pixels survives packing, and without its opacities also a file. Its words have
its bytes, so no other buffer is packed into the same words. Written as a pixmap of any size with
that many pixels, it never meets the check of a length, and a reader of pixmaps finds the size and
every byte but the fourth ones, in their order, however much these look like a header. A frame of
one colour is read as copies of the colour. -/
theorem pixmap_round_trip (size : Extent) :
    (∀ bytes, bytes.size = 4 * size.area → ReadsBack bytes size (dropFourths bytes.toList)) ∧
      (∀ frame colour, frame.size = 4 * size.area →
        ReadsBack (fillRgba frame colour) size
          ((List.replicate size.area colour).flatMap Colour.rgb)) ∧
      ∀ bytes pixels, packRgba bytes = .ok pixels →
        pixels.toList.flatMap wordBytes = bytes.toList ∧
          ∀ other, packRgba other = .ok pixels → other = bytes := by
  refine ⟨fun bytes hsize => readsBack hsize, fun frame colour hsize => ?_,
    fun bytes pixels h => ⟨flatMap_wordBytes_of_packRgba h, fun other hother => ?_⟩⟩
  · have hread := readsBack ((size_fillRgba frame colour).trans hsize)
    rw [toList_fillRgba colour hsize, dropFourths_flatMap] at hread
    exact hread
  · have hbytes := flatMap_wordBytes_of_packRgba hother
    rw [flatMap_wordBytes_of_packRgba h] at hbytes
    exact (Array.toList_inj.1 hbytes).symm

/-- A pixel that is a line break, a digit and a blank, and one that is a blank and two digits. -/
def headerLike : Array UInt8 := #[10, 48, 32, 1, 32, 50, 53, 2]

def headerLikeWords : Array UInt32 := #[18886666, 37040672]

/-- They are read as channels. -/
theorem pixmap_round_trip_blanks :
    (packRgba headerLike = .ok headerLikeWords ∧
        headerLikeWords.toList.flatMap wordBytes = headerLike.toList) ∧
      (∃ (disk : Storage.Disk) (file : Array UInt8),
        Storage.Disk.write {} "frame.ppm" (encode ⟨headerLikeWords, ⟨2, 1⟩⟩) = .ok disk ∧
          disk.read? "frame.ppm" = some file ∧
          decode? file.toList = some ⟨2, 1, [10, 48, 32, 32, 50, 53]⟩) ∧
      ReadsBack (fillRgba headerLike ⟨53, 10, 48, 9⟩) ⟨1, 2⟩ [53, 10, 48, 53, 10, 48] := by
  have hpacked : packRgba headerLike = .ok headerLikeWords := by decide
  refine ⟨⟨hpacked, ((pixmap_round_trip ⟨2, 1⟩).2.2 _ _ hpacked).1⟩, ?_,
    (pixmap_round_trip ⟨1, 2⟩).2.1 _ _ rfl⟩
  obtain ⟨pixels, -, hpixels, -, -, hread⟩ := (pixmap_round_trip ⟨2, 1⟩).1 headerLike rfl
  obtain rfl : headerLikeWords = pixels := Except.ok.inj (hpacked.symm.trans hpixels)
  have hwrite : Storage.Disk.write {} "frame.ppm" (encode ⟨headerLikeWords, ⟨2, 1⟩⟩) =
    .ok ⟨[], [("frame.ppm", encode ⟨headerLikeWords, ⟨2, 1⟩⟩)]⟩ := rfl
  obtain ⟨file, hfile, hcontents⟩ := hread {} _ _ hwrite
  exact ⟨_, file, hwrite, hfile, hcontents⟩

end Pixmap

end WindowHost.Image
