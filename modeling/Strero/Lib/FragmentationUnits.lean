import Strero.Lib.Rtp

/-!
# Payload formats of H.264 and H.265

A packet carries a whole NAL unit or a fragment of one. A fragment names the type
of the unit and says whether it is the first and whether it is the last. A
receiver puts the unit together again from its fragments.
-/

namespace Rtp

/-- What the payload of a packet carries. A fragment comes with the header of
the unit that it belongs to. -/
inductive Carried
  | unit (nal : List UInt8)
  | fragment (start stop : Bool) (header data : List UInt8)
  | other
deriving DecidableEq, Repr

/-- The payload format of H.264, for single units and fragments of kind A. -/
def h264Carried : List UInt8 → Carried
  | [] => .other
  | indicator :: rest =>
    let type : UInt8 := indicator &&& 0x1F
    if 1 ≤ type ∧ type ≤ 23 then .unit (indicator :: rest)
    else if type = 28 then
      match rest with
      | header :: data =>
        let unitHeader : UInt8 := (indicator &&& 0xE0) ||| (header &&& 0x1F)
        .fragment (header &&& 0x80 ≠ 0) (header &&& 0x40 ≠ 0) [unitHeader] data
      | [] => .other
    else .other

/-- The payload format of H.265, for single units and fragments. -/
def h265Carried : List UInt8 → Carried
  | b₀ :: b₁ :: rest =>
    let type : UInt8 := (b₀ >>> 1) &&& 0x3F
    if type ≤ 47 then .unit (b₀ :: b₁ :: rest)
    else if type = 49 then
      match rest with
      | header :: data =>
        let unitType : UInt8 := (header &&& 0x3F) <<< (1 : UInt8)
        let unitHeader : UInt8 := (b₀ &&& 0x81) ||| unitType
        .fragment (header &&& 0x80 ≠ 0) (header &&& 0x40 ≠ 0) [unitHeader, b₁] data
      | [] => .other
    else .other
  | _ => .other

/-- A receiver: the unit in pieces, if there is one, and the units delivered. -/
structure Assembly where
  pending : Option (List UInt8)
  units : List (List UInt8)
deriving DecidableEq

/-- Nothing received yet. -/
def Assembly.empty : Assembly := ⟨none, []⟩

/-- A receiver takes what a packet carries. A fragment without its start is
dropped. -/
def Assembly.push (a : Assembly) : Carried → Assembly
  | .unit nal => ⟨none, a.units ++ [nal]⟩
  | .fragment start stop header data =>
    match if start then some header else a.pending with
    | none => a
    | some bytes =>
      if stop then ⟨none, a.units ++ [bytes ++ data]⟩ else ⟨some (bytes ++ data), a.units⟩
  | .other => a

/-- The units that a receiver makes of a sequence of payloads. -/
def depacketize (carried : List UInt8 → Carried) (payloads : List (List UInt8)) :
    List (List UInt8) :=
  (payloads.foldl (fun (a : Assembly) payload => a.push (carried payload)) Assembly.empty).units

/-- A piece of a unit, and its place among the pieces. -/
structure Piece where
  start : Bool
  stop : Bool
  data : List UInt8
deriving DecidableEq

/-- A unit cut into pieces of at most `limit` bytes. -/
def pieces (limit : ℕ) [NeZero limit] (start : Bool) (data : List UInt8) : List Piece :=
  if data.length ≤ limit then [⟨start, true, data⟩]
  else ⟨start, false, data.take limit⟩ :: pieces limit false (data.drop limit)
termination_by data.length
decreasing_by
  have := NeZero.ne limit
  simp only [List.length_drop]
  omega

variable {limit : ℕ} [NeZero limit]

theorem pieces_ne_nil (start : Bool) (data : List UInt8) : pieces limit start data ≠ [] := by
  rw [pieces]
  split_ifs <;> simp

/-- No piece is longer than the limit. -/
theorem length_le_of_mem_pieces {start : Bool} {data : List UInt8} {p : Piece}
    (hp : p ∈ pieces limit start data) : p.data.length ≤ limit := by
  fun_induction pieces limit start data with
  | case1 start data hfits =>
    obtain rfl := List.mem_singleton.mp hp
    exact hfits
  | case2 start data hlong ih =>
    rcases List.mem_cons.mp hp with rfl | hp
    · exact List.length_take_le limit data
    · exact ih hp

/-- A unit is cut exactly if it is longer than the limit. -/
theorem two_le_length_pieces_iff (start : Bool) {data : List UInt8} :
    2 ≤ (pieces limit start data).length ↔ limit < data.length := by
  rw [pieces]
  split_ifs with hfits
  · simpa using hfits
  · have hne : pieces limit false (data.drop limit) ≠ [] := pieces_ne_nil _ _
    have hrest := List.length_pos_iff.mpr hne
    rw [List.length_cons]
    omega

/-- Only the first piece is marked as the first, and only the last one as the last. -/
theorem pieces_getElem? {start : Bool} {data : List UInt8} {i : ℕ} {p : Piece}
    (h : (pieces limit start data)[i]? = some p) :
    p.start = (start && decide (i = 0)) ∧
      p.stop = decide (i + 1 = (pieces limit start data).length) := by
  fun_induction pieces limit start data generalizing i with
  | case1 start data hfits =>
    cases i with
    | zero =>
      cases h
      simp
    | succ i => simp at h
  | case2 start data hlong ih =>
    have hrest : pieces limit false (data.drop limit) ≠ [] := pieces_ne_nil _ _
    cases i with
    | zero =>
      cases h
      simpa using hrest
    | succ i =>
      obtain ⟨hstart, hstop⟩ := ih h
      rw [hstart, hstop]
      simp

/-- The pieces of a unit are put together again, whatever is pending before its
first piece. -/
theorem push_pieces {carried : List UInt8 → Carried} {payload : Piece → List UInt8}
    {header : List UInt8}
    (hcarried : ∀ p, carried (payload p) = .fragment p.start p.stop header p.data)
    (start : Bool) (data : List UInt8) (a : Assembly) {bytes : List UInt8}
    (hbytes : (if start then some header else a.pending) = some bytes) :
    (pieces limit start data).foldl (fun (a : Assembly) p => a.push (carried (payload p))) a =
      ⟨none, a.units ++ [bytes ++ data]⟩ := by
  fun_induction pieces limit start data generalizing a bytes with
  | case1 start data hfits =>
    simp [hcarried, Assembly.push, hbytes]
  | case2 start data hlong ih =>
    have hpush : a.push (carried (payload ⟨start, false, data.take limit⟩)) =
        ⟨some (bytes ++ data.take limit), a.units⟩ := by
      simp [hcarried, Assembly.push, hbytes]
    rw [List.foldl_cons, hpush, ih ⟨some (bytes ++ data.take limit), a.units⟩ rfl]
    simp

/-- A receiver of the pieces of a unit has the unit. -/
theorem depacketize_pieces {carried : List UInt8 → Carried} {payload : Piece → List UInt8}
    {header : List UInt8}
    (hcarried : ∀ p, carried (payload p) = .fragment p.start p.stop header p.data)
    (data : List UInt8) :
    depacketize carried ((pieces limit true data).map payload) = [header ++ data] := by
  rw [depacketize, List.foldl_map, push_pieces hcarried true data .empty rfl]
  rfl

/-- A receiver of a whole unit has the unit. -/
theorem depacketize_unit {carried : List UInt8 → Carried} {nal : List UInt8}
    (hcarried : carried nal = .unit nal) : depacketize carried [nal] = [nal] := by
  simp [depacketize, hcarried, Assembly.push, Assembly.empty]

/-! ### One unit after the other -/

/-- The payloads give these units to a receiver that waits for no fragment, and it waits for none
afterwards. -/
def Delivers (carried : List UInt8 → Carried) (payloads nals : List (List UInt8)) : Prop :=
  ∀ units, payloads.foldl (fun (a : Assembly) payload => a.push (carried payload)) ⟨none, units⟩ =
    ⟨none, units ++ nals⟩

variable {carried : List UInt8 → Carried}

theorem delivers_nil : Delivers carried [] [] := fun units => by
  rw [List.foldl_nil, List.append_nil]

theorem Delivers.append {payloads payloads' nals nals' : List (List UInt8)}
    (h : Delivers carried payloads nals) (h' : Delivers carried payloads' nals') :
    Delivers carried (payloads ++ payloads') (nals ++ nals') := by
  intro units
  rw [List.foldl_append, h units, h' (units ++ nals), List.append_assoc]

/-- Units that are delivered one by one are delivered together. -/
theorem Delivers.flatMap {payloads : List UInt8 → List (List UInt8)} {nals : List (List UInt8)}
    (h : ∀ nal ∈ nals, Delivers carried (payloads nal) [nal]) :
    Delivers carried (nals.flatMap payloads) nals := by
  induction nals with
  | nil => exact delivers_nil
  | cons nal nals ih =>
    obtain ⟨hnal, hnals⟩ := List.forall_mem_cons.mp h
    rw [List.flatMap_cons]
    exact hnal.append (ih hnals)

theorem Delivers.depacketize_eq {payloads nals : List (List UInt8)}
    (h : Delivers carried payloads nals) : depacketize carried payloads = nals := by
  rw [depacketize, Assembly.empty, h []]
  rfl

theorem delivers_unit {nal : List UInt8} (hcarried : carried nal = .unit nal) :
    Delivers carried [nal] [nal] := by
  intro units
  simp [hcarried, Assembly.push]

theorem delivers_pieces {payload : Piece → List UInt8} {header : List UInt8}
    (hcarried : ∀ p, carried (payload p) = .fragment p.start p.stop header p.data)
    (data : List UInt8) :
    Delivers carried ((pieces limit true data).map payload) [header ++ data] := by
  intro units
  rw [List.foldl_map, push_pieces hcarried true data ⟨none, units⟩ rfl]

end Rtp
