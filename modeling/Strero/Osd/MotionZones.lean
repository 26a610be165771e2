import Mathlib.Tactic.IntervalCases
import Strero.Lib.Hexadecimal
import Strero.Motion.Configuration

/-!
# The colours of the motion zones on the display

The zones of the motion detector are drawn as rectangles. The colours of a stream are configured
as strings `#RRGGBBAA`. They are kept as words of 32 bits, in another order of the bytes, and a
zone is drawn in the colour of the palette that is chosen by three of the four bytes.
-/

namespace Osd

open CString Scanf

/-! ### The configuration -/

/-- The platform that the program is built for. All but two have the palette of the last. -/
inductive Platform
  | t20 | t23 | t31
deriving DecidableEq

/-- The colours of lines that the platforms have. -/
inductive OsdColor
  | white | black | red | green | blue | yellow
deriving DecidableEq

/-- `motion_zones` of a stream in `osd_module_config_t`. -/
structure MotionZonesConfig where
  enabled : Bool
  showIncludeZones : Bool
  showExcludeZones : Bool
  includeColor : FixedString 16
  excludeColor : FixedString 16
  lineWidth : Int32
deriving DecidableEq

/-- What `osd_module_config_parse` starts with. -/
def MotionZonesConfig.defaults : MotionZonesConfig where
  enabled := false
  showIncludeZones := true
  showExcludeZones := true
  includeColor := .copy 16 size16_pos (ascii "#00FF0080")
  excludeColor := .copy 16 size16_pos (ascii "#FF000080")
  lineWidth := 2

/-- The part of `osd_module_config_parse` that reads `motion_zones` of a stream. -/
def MotionZonesConfig.parse (J : JsonC) (object : J.Object) : MotionZonesConfig :=
  let c := defaults
  { enabled := J.boolField object (ascii "enabled") c.enabled
    showIncludeZones := J.boolField object (ascii "show_include_zones") c.showIncludeZones
    showExcludeZones := J.boolField object (ascii "show_exclude_zones") c.showExcludeZones
    includeColor := J.stringField size16_pos object (ascii "include_color") c.includeColor
    excludeColor := J.stringField size16_pos object (ascii "exclude_color") c.excludeColor
    lineWidth := ((J.getEx object (ascii "line_width")).map fun member =>
      Int32.ofInt (J.getInt member)).getD c.lineWidth }

/-- What the drawing of the zones uses of `osd_context_t`. -/
structure ZonesContext where
  streamWidth : Int32
  streamHeight : Int32
  enabled : Bool
  showIncludeZones : Bool
  showExcludeZones : Bool
  includeColor : UInt32
  excludeColor : UInt32
  lineWidth : UInt32

/-- The part of `osd_context_init` for the zones. -/
def contextInit (streamWidth streamHeight : Int32) : ZonesContext where
  streamWidth
  streamHeight
  enabled := false
  showIncludeZones := true
  showExcludeZones := true
  includeColor := 0x00FF0080
  excludeColor := 0x0000FF80
  lineWidth := 2

/-- The order of the bytes is changed: `Convert RGBA to BGRA format`. -/
def convert (rgba : UInt32) : UInt32 :=
  (rgba &&& (0xFF000000 : UInt32)) |||
    ((rgba &&& (0x00FF0000 : UInt32)) >>> (16 : UInt32)) |||
    (rgba &&& (0x0000FF00 : UInt32)) |||
    ((rgba &&& (0x000000FF : UInt32)) <<< (16 : UInt32))

/-- The colour of a string, or the one that was there for a string in another format. -/
def parseColor (text : List UInt8) (color : UInt32) : UInt32 :=
  match text with
  | [] => color
  | c :: rest => if c = 35 ∧ rest.length = 8 then convert (strtoulHex rest) else color

/-- `osd_apply_motion_zones_config`. -/
def applyMotionZonesConfig (ctx : ZonesContext) (config : MotionZonesConfig) : ZonesContext :=
  { ctx with
    enabled := config.enabled
    showIncludeZones := config.showIncludeZones
    showExcludeZones := config.showExcludeZones
    lineWidth := config.lineWidth.toUInt32
    includeColor := parseColor config.includeColor.bytes ctx.includeColor
    excludeColor := parseColor config.excludeColor.bytes ctx.excludeColor }

/-! ### The drawing -/

/-- The rectangle of a region. -/
structure Rect where
  x0 : Int32
  y0 : Int32
  x1 : Int32
  y1 : Int32
deriving DecidableEq

/-- The attributes of a region with the border of a rectangle. -/
structure RgnAttr where
  rect : Rect
  color : OsdColor
  linewidth : UInt32
deriving DecidableEq

/-- The calls for the region of the zone with a number. -/
inductive RgnCall
  | showRgn (zone : ℕ) (visible : Bool)
  | setRgnAttr (zone : ℕ) (attr : RgnAttr)
  | setGrpRgnAttr (zone : ℕ)
deriving DecidableEq

/-- Whether the calls for the region of a zone succeed. -/
structure RgnResults where
  setRgnAttr : ℕ → Bool
  setGrpRgnAttr : ℕ → Bool

/-- The largest coordinates of the zones that are not the full frame, from those before on. -/
def maxZone (zones : List Motion.Zone) : Int32 × Int32 :=
  zones.foldl (fun limits (z : Motion.Zone) =>
    if 0 < z.width ∧ 0 < z.height then
      (if limits.1 < z.x + z.width then z.x + z.width else limits.1,
        if limits.2 < z.y + z.height then z.y + z.height else limits.2)
    else limits) (0, 0)

/-- The resolution in which the zones are given, as it is guessed from their coordinates. -/
def originalSize (zones : List Motion.Zone) : Int32 × Int32 :=
  let (x, y) := maxZone zones
  if 0 < x ∧ 0 < y then
    if x ≤ 640 ∧ y ≤ 360 then (640, 360)
    else if x ≤ 1280 ∧ y ≤ 720 then (1280, 720)
    else (1920, 1080)
  else (1920, 1080)

/-- A coordinate is scaled with single precision. -/
def scaled (coordinate stream original : Int32) : Int32 :=
  (coordinate.toFloat32 * (stream.toFloat32 / original.toFloat32)).toInt32

/-- The rectangle of a zone in the picture of the stream, if the zone is not skipped. -/
def zoneRect (ctx : ZonesContext) (original : Int32 × Int32) (z : Motion.Zone) : Option Rect :=
  let (x, y, w, h) :=
    if z.width = 0 ∨ z.height = 0 then (0, 0, ctx.streamWidth, ctx.streamHeight)
    else (scaled z.x ctx.streamWidth original.1, scaled z.y ctx.streamHeight original.2,
      scaled z.width ctx.streamWidth original.1, scaled z.height ctx.streamHeight original.2)
  if w ≤ 0 ∨ h ≤ 0 then none
  else if ctx.streamWidth ≤ x ∨ ctx.streamHeight ≤ y then none
  else some ⟨x, y, x + w - 1, y + h - 1⟩

/-- A byte of a word. -/
def component (word shift : UInt32) : ℕ := ((word >>> shift) &&& (0xFF : UInt32)).toNat

/-- `Map color to nearest supported palette`. -/
def palette (platform : Platform) (r g b : ℕ) : OsdColor :=
  match platform with
  | .t20 =>
    if r > 200 ∧ g < 100 ∧ b < 100 then .red
    else if r < 100 ∧ g > 200 ∧ b < 100 then .white
    else if r > 200 ∧ g > 200 ∧ b > 200 then .white
    else .black
  | .t23 =>
    if r > 200 ∧ g < 100 ∧ b < 100 then .red
    else if r < 100 ∧ g > 200 ∧ b < 100 then .green
    else if r > 200 ∧ g > 200 ∧ b > 200 then .yellow
    else .black
  | .t31 =>
    if r > 200 ∧ g < 100 ∧ b < 100 then .red
    else if r < 100 ∧ g > 200 ∧ b < 100 then .green
    else if r < 100 ∧ g < 100 ∧ b > 200 then .blue
    else if r > 200 ∧ g > 200 ∧ b > 200 then .white
    else .black

/-- The colour that is drawn for a word: `Extract RGB components from #RRGGBBAA format`. -/
def osdColor (platform : Platform) (word : UInt32) : OsdColor :=
  palette platform (component word 24) (component word 16) (component word 8)

/-- The word for the type of a zone. -/
def configuredColor (ctx : ZonesContext) (z : Motion.Zone) : UInt32 :=
  if z.type.bytes = Motion.includeType then ctx.includeColor else ctx.excludeColor

/-- The calls for one zone. -/
def drawZone (platform : Platform) (ctx : ZonesContext) (original : Int32 × Int32)
    (results : RgnResults) (i : ℕ) (z : Motion.Zone) : List RgnCall :=
  match zoneRect ctx original z with
  | none => []
  | some rect =>
    .setRgnAttr i ⟨rect, osdColor platform (configuredColor ctx z), ctx.lineWidth⟩ ::
      if results.setRgnAttr i then
        .setGrpRgnAttr i :: if results.setGrpRgnAttr i then [.showRgn i true] else []
      else []

/-- All regions of zones are hidden. -/
def hideZones : List RgnCall := (List.range Motion.maxRoiCount).map fun i => .showRgn i false

/-- The zones that `motion_module_get_zones` gives, if the module is initialised. -/
def zonesShown (ctx : ZonesContext) (motion : Option Motion.Config) : List Motion.Zone :=
  if ctx.enabled then motion.elim [] Motion.Config.inUse else []

/-- `osd_update_motion_zones` for a group whose context is there, or not: what is returned, and
the calls. There are as many regions as `motion_module_get_zones` can give zones. -/
def updateMotionZones (platform : Platform) (ctx : Option ZonesContext)
    (motion : Option Motion.Config) (results : RgnResults) : ℤ × List RgnCall :=
  match ctx with
  | none => (-1, [])
  | some ctx =>
    if !ctx.enabled then (0, [])
    else
      match motion with
      | none => (0, hideZones)
      | some c =>
        if c.zoneCount = 0 then (0, hideZones)
        else (0, hideZones ++ c.inUse.zipIdx.flatMap fun (z, i) =>
          drawZone platform ctx (originalSize c.inUse) results i z)

/-! ### The palette

For a red and a blue byte on the outer sides of the thresholds the green byte decides between one
colour and black. For all others the colour is black. -/

section Palette

variable {platform : Platform} {r g a b : ℕ}

theorem palette_red (hr : 200 < r) (hb : b < 100) :
    palette platform r g b = if g < 100 then .red else .black := by
  have hrow : ¬r < 100 ∧ ¬200 < b := by omega
  cases platform <;> simp [palette, hr, hb, hrow]

theorem palette_green (hr : r < 100) (hb : b < 100) :
    palette platform r g b =
      if 200 < g then (if platform = .t20 then .white else .green) else .black := by
  have hrow : ¬200 < r ∧ ¬200 < b := by omega
  cases platform <;> simp [palette, hr, hb, hrow]

theorem palette_white (hr : 200 < r) (hb : 200 < b) :
    palette platform r g b =
      if 200 < g then (if platform = .t23 then .yellow else .white) else .black := by
  have hrow : ¬r < 100 ∧ ¬b < 100 := by omega
  cases platform <;> simp [palette, hr, hb, hrow]

theorem palette_blue (hr : r < 100) (hb : 200 < b) :
    palette platform r g b =
      if g < 100 then (if platform = .t31 then .blue else .black) else .black := by
  have hrow : ¬200 < r ∧ ¬b < 100 := by omega
  cases platform <;> simp [palette, hr, hb, hrow]

theorem palette_black (hhigh : 200 < r → 100 ≤ b ∧ b ≤ 200)
    (hlow : r < 100 → 100 ≤ b ∧ b ≤ 200) : palette platform r g b = .black := by
  have hred : ¬(r > 200 ∧ g < 100 ∧ b < 100) := by omega
  have hgreen : ¬(r < 100 ∧ g > 200 ∧ b < 100) := by omega
  have hblue : ¬(r < 100 ∧ g < 100 ∧ b > 200) := by omega
  have hwhite : ¬(r > 200 ∧ g > 200 ∧ b > 200) := by omega
  cases platform <;>
    simp only [palette, if_neg hred, if_neg hgreen, if_neg hblue, if_neg hwhite]

/-- Another byte is on the same side as the green one of the threshold that the bytes for red and
blue leave to decide. -/
def SameSide (platform : Platform) (r g a b : ℕ) : Prop :=
  (200 < r ∧ b < 100 → (a < 100 ↔ g < 100)) ∧
    (r < 100 ∧ b < 100 → (200 < a ↔ 200 < g)) ∧
    (200 < r ∧ 200 < b → (200 < a ↔ 200 < g)) ∧
    (platform = .t31 → r < 100 ∧ 200 < b → (a < 100 ↔ g < 100))

/-- Two colours are told apart by their conditions. -/
theorem ite_left_eq_iff {x y : OsdColor} (h : x ≠ y) (c d : Prop) [Decidable c] [Decidable d] :
    ((if c then x else y) = if d then x else y) ↔ (c ↔ d) := by
  by_cases hc : c <;> by_cases hd : d <;> simp [hc, hd, h, h.symm]

/-- Nothing else decides whether another byte may stand in for the green one. -/
theorem palette_eq_iff :
    palette platform r a b = palette platform r g b ↔ SameSide platform r g a b := by
  unfold SameSide
  by_cases hred : 200 < r ∧ b < 100
  · rw [palette_red hred.1 hred.2, palette_red hred.1 hred.2, ite_left_eq_iff (by decide)]
    omega
  by_cases hgreen : r < 100 ∧ b < 100
  · have hne : (if platform = .t20 then OsdColor.white else .green) ≠ .black := by
      split <;> decide
    rw [palette_green hgreen.1 hgreen.2, palette_green hgreen.1 hgreen.2, ite_left_eq_iff hne]
    omega
  by_cases hwhite : 200 < r ∧ 200 < b
  · have hne : (if platform = .t23 then OsdColor.yellow else .white) ≠ .black := by
      split <;> decide
    rw [palette_white hwhite.1 hwhite.2, palette_white hwhite.1 hwhite.2, ite_left_eq_iff hne]
    omega
  by_cases hblue : r < 100 ∧ 200 < b
  · rw [palette_blue hblue.1 hblue.2, palette_blue hblue.1 hblue.2]
    by_cases ht31 : platform = .t31
    · rw [if_pos ht31, ite_left_eq_iff (by decide), forall_prop_of_true ht31]
      omega
    · rw [if_neg ht31, ite_self, ite_self]
      exact iff_of_true rfl ⟨by omega, by omega, by omega, fun h => absurd h ht31⟩
  · rw [palette_black (by omega) (by omega), palette_black (by omega) (by omega)]
    simp only [true_iff]
    omega

end Palette

/-! ### The bytes of a colour -/

/-- A string `#RRGGBBAA`. -/
structure ColorText where
  digits : List UInt8
  length_eq : digits.length = 8
  hex : ∀ c ∈ digits, isXDigit c = true

namespace ColorText

variable (s : ColorText)

def red : ℕ := hexadecimal (s.digits.take 2)

def green : ℕ := hexadecimal ((s.digits.drop 2).take 2)

def blue : ℕ := hexadecimal ((s.digits.drop 4).take 2)

def alpha : ℕ := hexadecimal (s.digits.drop 6)

/-- The string as a value of the array in the configuration. -/
def text : FixedString 16 where
  bytes := 35 :: s.digits
  fits := by rw [List.length_cons, s.length_eq]; decide
  noNul := by
    rw [List.mem_cons, not_or]
    refine ⟨by decide, fun hzero => ?_⟩
    exact absurd (s.hex 0 hzero) (by decide)

/-- The number that the string stands for. -/
def word : UInt32 := strtoulHex s.digits

variable {s}

/-- Two digits make a byte. -/
theorem pair_lt {digits : List UInt8} (hlength : digits.length = 2)
    (hex : ∀ c ∈ digits, isXDigit c = true) : hexadecimal digits < 256 := by
  have hlt := hexadecimal_lt hex
  rw [hlength] at hlt
  omega

/-- The four bytes of the string. -/
theorem bytes_lt : s.red < 256 ∧ s.green < 256 ∧ s.blue < 256 ∧ s.alpha < 256 := by
  have hlength := s.length_eq
  refine ⟨pair_lt ?_ fun c hc => s.hex c (List.mem_of_mem_take hc),
    pair_lt ?_ fun c hc => s.hex c (List.mem_of_mem_drop (List.mem_of_mem_take hc)),
    pair_lt ?_ fun c hc => s.hex c (List.mem_of_mem_drop (List.mem_of_mem_take hc)),
    pair_lt ?_ fun c hc => s.hex c (List.mem_of_mem_drop hc)⟩
  all_goals
    simp only [List.length_take, List.length_drop]
    omega

/-- The next two digits come off the front. -/
theorem hexadecimal_drop (digits : List UInt8) (n : ℕ) :
    hexadecimal (digits.drop n) = hexadecimal ((digits.drop n).take 2) *
      16 ^ (digits.length - (n + 2)) + hexadecimal (digits.drop (n + 2)) := by
  have hsplit : digits.drop n = (digits.drop n).take 2 ++ digits.drop (n + 2) := by
    rw [← List.drop_drop, List.take_append_drop]
  rw [← List.length_drop, ← hexadecimal_append, ← hsplit]

/-- The number of the string is made of its four bytes, the red one first. -/
theorem hexadecimal_digits :
    hexadecimal s.digits = ((s.red * 256 + s.green) * 256 + s.blue) * 256 + s.alpha := by
  have hred : hexadecimal s.digits = s.red * 16777216 + hexadecimal (s.digits.drop 2) := by
    have h := hexadecimal_drop s.digits 0
    rw [s.length_eq] at h
    exact h
  have hgreen : hexadecimal (s.digits.drop 2) =
      s.green * 65536 + hexadecimal (s.digits.drop 4) := by
    have h := hexadecimal_drop s.digits 2
    rw [s.length_eq] at h
    exact h
  have hblue : hexadecimal (s.digits.drop 4) = s.blue * 256 + s.alpha := by
    have h := hexadecimal_drop s.digits 4
    rw [s.length_eq] at h
    exact h
  rw [hred, hgreen, hblue]
  generalize s.red = r, s.green = g, s.blue = b, s.alpha = a
  omega

theorem toNat_word :
    s.word.toNat = ((s.red * 256 + s.green) * 256 + s.blue) * 256 + s.alpha := by
  have hbytes := s.bytes_lt
  have hsmall : hexadecimal s.digits < 2 ^ 32 := by
    rw [hexadecimal_digits]
    omega
  rw [word, strtoulHex_digits s.hex hsmall, UInt32.toNat_ofNat_of_lt' hsmall, hexadecimal_digits]

end ColorText

/-! ### The order of the bytes

The word is converted bit by bit. -/

/-- A byte of a word is found by division. -/
theorem component_eq (word : UInt32) {shift : UInt32} (h : shift.toNat < 32) :
    component word shift = word.toNat / 2 ^ shift.toNat % 256 := by
  unfold component
  rw [UInt32.toNat_and, UInt32.toNat_shiftRight, Nat.mod_eq_of_lt h, Nat.shiftRight_eq_div_pow]
  exact Nat.and_two_pow_sub_one_eq_mod _ 8

/-- The red and the blue byte are found where they were, but that for the green one is the alpha
byte. -/
theorem component_convert (rgba : UInt32) :
    component (convert rgba) 24 = component rgba 24 ∧
      component (convert rgba) 16 = component rgba 0 ∧
      component (convert rgba) 8 = component rgba 8 := by
  unfold component convert
  refine ⟨congrArg UInt32.toNat ?_, congrArg UInt32.toNat ?_, congrArg UInt32.toNat ?_⟩
  all_goals
    apply UInt32.toBitVec_inj.mp
    simp only [UInt32.toBitVec_and, UInt32.toBitVec_or, UInt32.toBitVec_shiftRight,
      UInt32.toBitVec_shiftLeft]
    ext i hi
    interval_cases i <;> simp

namespace ColorText

variable {s : ColorText}

/-- The bytes of the number are those of the string. -/
theorem component_word :
    component s.word 24 = s.red ∧ component s.word 16 = s.green ∧
      component s.word 8 = s.blue ∧ component s.word 0 = s.alpha := by
  have hbytes := s.bytes_lt
  have hword := s.toNat_word
  rw [component_eq _ (by decide), component_eq _ (by decide), component_eq _ (by decide),
    component_eq _ (by decide), hword]
  simp only [show UInt32.toNat 24 = 24 from rfl, show UInt32.toNat 16 = 16 from rfl,
    show UInt32.toNat 8 = 8 from rfl, show UInt32.toNat 0 = 0 from rfl]
  generalize s.red = r at *
  generalize s.green = g at *
  generalize s.blue = b at *
  generalize s.alpha = a at *
  refine ⟨?_, ?_, ?_, ?_⟩
  all_goals omega

/-- A word that is the number of the string, as the built-in ones are, is drawn by the bytes for
red, green and blue. -/
theorem osdColor_word (platform : Platform) :
    osdColor platform s.word = palette platform s.red s.green s.blue := by
  obtain ⟨hred, hgreen, hblue, -⟩ := s.component_word
  rw [osdColor, hred, hgreen, hblue]

/-- A configured string is drawn with the byte for alpha in the place of green. -/
theorem osdColor_convert (platform : Platform) :
    osdColor platform (convert s.word) = palette platform s.red s.alpha s.blue := by
  obtain ⟨hred, -, hblue, halpha⟩ := s.component_word
  obtain ⟨h24, h16, h8⟩ := component_convert s.word
  rw [osdColor, h24, h16, h8, hred, halpha, hblue]

/-- A string of the format is always parsed. -/
theorem parseColor_text (color : UInt32) : parseColor s.text.bytes color = convert s.word :=
  if_pos ⟨rfl, s.length_eq⟩

end ColorText

/-! ### What is drawn -/

section Drawn

variable {platform : Platform} {ctx : ZonesContext} {original : Int32 × Int32}
  {motion : Option Motion.Config} {results : RgnResults} {i : ℕ} {attr : RgnAttr}

theorem setRgnAttr_mem_drawZone {z : Motion.Zone} {j : ℕ} :
    .setRgnAttr i attr ∈ drawZone platform ctx original results j z ↔
      i = j ∧ ∃ rect, zoneRect ctx original z = some rect ∧
        attr = ⟨rect, osdColor platform (configuredColor ctx z), ctx.lineWidth⟩ := by
  unfold drawZone
  cases hrect : zoneRect ctx original z with
  | none => simp
  | some rect => by_cases hset : results.setRgnAttr j <;>
      by_cases hgrp : results.setGrpRgnAttr j <;> simp [hset, hgrp]

/-- The attributes that are set are those of the zones that are shown and not skipped. -/
theorem setRgnAttr_mem_updateMotionZones :
    .setRgnAttr i attr ∈ (updateMotionZones platform (some ctx) motion results).2 ↔
      ∃ z rect, (zonesShown ctx motion)[i]? = some z ∧
        zoneRect ctx (originalSize (zonesShown ctx motion)) z = some rect ∧
        attr = ⟨rect, osdColor platform (configuredColor ctx z), ctx.lineWidth⟩ := by
  have hhide : .setRgnAttr i attr ∉ hideZones := by simp [hideZones]
  unfold updateMotionZones zonesShown
  by_cases henabled : ctx.enabled
  · cases motion with
    | none => simp [henabled, hhide]
    | some c =>
      by_cases hcount : c.zoneCount = 0
      · have hnone : c.inUse = [] := by
          rw [Motion.Config.inUse, hcount]
          rfl
        simp [henabled, hcount, hhide, hnone]
      · simp only [henabled, Bool.not_true, Bool.false_eq_true, if_false, if_true, hcount,
          List.mem_append, hhide, false_or, List.mem_flatMap, Prod.exists,
          setRgnAttr_mem_drawZone, List.mem_zipIdx_iff_getElem?, Option.elim_some]
        constructor
        · rintro ⟨z, j, hz, rfl, rect, hrect, hattr⟩
          exact ⟨z, rect, hz, hrect, hattr⟩
        · rintro ⟨z, rect, hz, hrect, hattr⟩
          exact ⟨z, i, hz, rfl, rect, hrect, hattr⟩
  · simp [henabled]

end Drawn

/-! ### The colours that are configured -/

/-- The string for the type of a zone. -/
def textFor (included excluded : ColorText) (z : Motion.Zone) : ColorText :=
  if z.type.bytes = Motion.includeType then included else excluded

/-- The context of a stream with the two strings in its configuration. -/
def configured (config : MotionZonesConfig) (included excluded : ColorText)
    (streamWidth streamHeight : Int32) : ZonesContext :=
  applyMotionZonesConfig (contextInit streamWidth streamHeight)
    { config with includeColor := included.text, excludeColor := excluded.text }

/-- Two strings that are given for a stream are configured. -/
theorem configured_parse {J : JsonC} {object : J.Object} {included excluded : ColorText}
    (hincluded : (J.getEx object (ascii "include_color")).bind J.getString =
      some included.text.bytes)
    (hexcluded : (J.getEx object (ascii "exclude_color")).bind J.getString =
      some excluded.text.bytes) (streamWidth streamHeight : Int32) :
    applyMotionZonesConfig (contextInit streamWidth streamHeight) (.parse J object) =
      configured (.parse J object) included excluded streamWidth streamHeight := by
  have hfield (key : List UInt8) (text dest : FixedString 16)
      (htext : (J.getEx object key).bind J.getString = some text.bytes) :
      J.stringField size16_pos object key dest = text := by
    rw [JsonC.stringField, htext, Option.map_some, Option.getD_some, FixedString.copy_bytes]
  have hfirst : (MotionZonesConfig.parse J object).includeColor = included.text :=
    hfield _ _ _ hincluded
  have hsecond : (MotionZonesConfig.parse J object).excludeColor = excluded.text :=
    hfield _ _ _ hexcluded
  unfold configured
  rw [← hfirst, ← hsecond]

/-- Every zone that is drawn has the colour that the palette assigns to the bytes for red, green
and blue of its string, which is the one that the number of the string has as a built-in
colour. -/
def ColorsFollow (platform : Platform) (included excluded : ColorText) (zones : List Motion.Zone)
    (calls : List RgnCall) : Prop :=
  ∀ i attr, .setRgnAttr i attr ∈ calls → ∃ z, zones[i]? = some z ∧
    attr.color = palette platform (textFor included excluded z).red
      (textFor included excluded z).green (textFor included excluded z).blue ∧
    attr.color = osdColor platform (textFor included excluded z).word

/-- The word for a zone is the converted number of its string. -/
theorem configuredColor_configured (config : MotionZonesConfig) (included excluded : ColorText)
    (streamWidth streamHeight : Int32) (z : Motion.Zone) :
    configuredColor (configured config included excluded streamWidth streamHeight) z =
      convert (textFor included excluded z).word := by
  unfold configuredColor textFor
  by_cases htype : z.type.bytes = Motion.includeType
  · rw [if_pos htype, if_pos htype]
    exact included.parseColor_text _
  · rw [if_neg htype, if_neg htype]
    exact excluded.parseColor_text _

/-- The colours follow the configuration exactly if for each zone that is drawn the byte for alpha
of its string stands in for the green one. -/
theorem motionZones_colorsFollow_iff (platform : Platform) (config : MotionZonesConfig)
    (included excluded : ColorText) (streamWidth streamHeight : Int32)
    (motion : Option Motion.Config) (results : RgnResults) :
    let ctx := configured config included excluded streamWidth streamHeight
    let zones := zonesShown ctx motion
    ColorsFollow platform included excluded zones
        (updateMotionZones platform (some ctx) motion results).2 ↔
      ∀ z ∈ zones, (zoneRect ctx (originalSize zones) z).isSome →
        SameSide platform (textFor included excluded z).red (textFor included excluded z).green
          (textFor included excluded z).alpha (textFor included excluded z).blue := by
  intro ctx zones
  have hcolor : ∀ z, osdColor platform (configuredColor ctx z) =
      palette platform (textFor included excluded z).red (textFor included excluded z).alpha
        (textFor included excluded z).blue := by
    intro z
    rw [configuredColor_configured, ColorText.osdColor_convert]
  constructor
  · intro h z hz hdrawn
    obtain ⟨rect, hrect⟩ := Option.isSome_iff_exists.mp hdrawn
    obtain ⟨i, hi⟩ := List.mem_iff_getElem?.mp hz
    obtain ⟨z', hz', hsame, -⟩ := h i _ (setRgnAttr_mem_updateMotionZones.mpr
      ⟨z, rect, hi, hrect, rfl⟩)
    obtain rfl : z = z' := Option.some.inj (hi.symm.trans hz')
    rw [hcolor] at hsame
    exact palette_eq_iff.mp hsame
  · intro h i attr hattr
    obtain ⟨z, rect, hz, hrect, rfl⟩ := setRgnAttr_mem_updateMotionZones.mp hattr
    have hside := h z (List.mem_of_getElem? hz) (Option.isSome_iff_exists.mpr ⟨rect, hrect⟩)
    have hsame := (hcolor z).trans (palette_eq_iff.mpr hside)
    refine ⟨z, hz, hsame, ?_⟩
    rw [ColorText.osdColor_word]
    exact hsame

theorem defaultGreen_hex : (ascii "00FF0080").all isXDigit = true := by decide

theorem defaultRed_hex : (ascii "FF000080").all isXDigit = true := by decide

/-- The default string for zones of type `include`. -/
def defaultGreen : ColorText := ⟨ascii "00FF0080", rfl, List.all_eq_true.mp defaultGreen_hex⟩

/-- The default string for zones of type `exclude`. -/
def defaultRed : ColorText := ⟨ascii "FF000080", rfl, List.all_eq_true.mp defaultRed_hex⟩

/-- With the default strings the default zone, the whole frame, is drawn black and not green. -/
theorem not_defaultZone_colorsFollow :
    let ctx := configured { MotionZonesConfig.defaults with enabled := true } defaultGreen
      defaultRed 640 360
    ¬ColorsFollow .t31 defaultGreen defaultRed (zonesShown ctx (some Motion.Config.defaults))
      (updateMotionZones .t31 (some ctx) (some Motion.Config.defaults)
        ⟨fun _ => true, fun _ => true⟩).2 := by
  intro ctx h
  obtain ⟨z, hz, hcolor, -⟩ := h 0 ⟨⟨0, 0, 639, 359⟩, .black, 2⟩ (by decide +kernel)
  have hfirst : (zonesShown ctx (some Motion.Config.defaults))[0]? = some .fullFrame := by
    decide +kernel
  obtain rfl : Motion.Zone.fullFrame = z := Option.some.inj (hfirst.symm.trans hz)
  exact absurd hcolor (by decide +kernel)

end Osd
