import Strero.Lib.Decimal
import Strero.Rtsp.Handlers

/-!
# Transport headers

A transport is followed by parameters in any order. The handler of SETUP keeps the first 255
bytes of the header and looks for the pair of channels or ports in the second parameter only.
-/

namespace Rtsp

open CString Scanf

/-! ### What a header says -/

/-- A text without a semicolon, the end of a line, or NUL. -/
def Plain (text : List UInt8) : Prop :=
  ∀ c ∈ text, c ≠ ';'.toUInt8 ∧ c ≠ '\r'.toUInt8 ∧ c ≠ '\n'.toUInt8 ∧ c ≠ 0

instance Plain.decidable (text : List UInt8) : Decidable (Plain text) :=
  List.decidableBAll _ text

/-- The value of a parameter. -/
abbrev ParameterValue := {value : List UInt8 // Plain value}

/-- A port that a client can ask for. -/
abbrev Port := {port : ℕ // 1 ≤ port ∧ port ≤ 65535}

/-- A parameter. -/
inductive Parameter
  | unicast
  | interleaved (rtp rtcp : Fin 256)
  | clientPort (rtp rtcp : Port)
  | mode (value : ParameterValue)
  | destination (value : ParameterValue)

/-- Two numbers with the name of their parameter. -/
def pairText (name : String) (first second : ℕ) : List UInt8 :=
  ascii name ++ (digits first ++ '-'.toUInt8 :: digits second)

/-- A parameter as it is written. -/
def Parameter.text : Parameter → List UInt8
  | .unicast => ascii "unicast"
  | .interleaved rtp rtcp => pairText "interleaved=" rtp rtcp
  | .clientPort rtp rtcp => pairText "client_port=" rtp rtcp
  | .mode value => ascii "mode=" ++ value.val
  | .destination value => ascii "destination=" ++ value.val

/-- A transport with its parameters. -/
structure TransportSpec where
  tcp : Bool
  parameters : List Parameter

/-- The transport without its parameters. -/
def transportName (tcp : Bool) : List UInt8 :=
  if tcp then ascii "RTP/AVP/TCP" else ascii "RTP/AVP"

/-- Parameters as they are written, each behind a semicolon. -/
def parametersText (parameters : List Parameter) : List UInt8 :=
  parameters.flatMap fun parameter => ';'.toUInt8 :: parameter.text

/-- The value of the header. -/
def TransportSpec.text (spec : TransportSpec) : List UInt8 :=
  transportName spec.tcp ++ parametersText spec.parameters

/-- What the handler is given of the header. -/
def TransportSpec.stored (spec : TransportSpec) : List UInt8 := spec.text.take 255

/-- The name of the parameter with the pair. -/
def pairName (tcp : Bool) : String := if tcp then "interleaved=" else "client_port="

/-- The pair that a parameter asks for: channels of the connection, or ports. -/
def Parameter.pair (tcp : Bool) : Parameter → Option (ℕ × ℕ)
  | .interleaved rtp rtcp => if tcp then some (rtp, rtcp) else none
  | .clientPort rtp rtcp => if tcp then none else some (rtp, rtcp)
  | _ => none

/-- The pair that a header asks for. -/
def TransportSpec.requested (spec : TransportSpec) : Option (ℕ × ℕ) :=
  spec.parameters.findSome? (·.pair spec.tcp)

/-! ### The text of a parameter -/

theorem plain_append {left right : List UInt8} (hleft : Plain left) (hright : Plain right) :
    Plain (left ++ right) := List.forall_mem_append.mpr ⟨hleft, hright⟩

theorem plain_digits (n : ℕ) : Plain (digits n) := by
  intro c hc
  have hdigit := isDigit_of_mem_digits hc
  refine ⟨?_, ?_, ?_, ?_⟩ <;> rintro rfl <;> exact absurd hdigit (by decide)

theorem plain_pairText {name : String} (hname : Plain (ascii name)) (first second : ℕ) :
    Plain (pairText name first second) := by
  have hdash : Plain ['-'.toUInt8] := by decide
  exact plain_append hname (plain_append (plain_digits first)
    (plain_append hdash (plain_digits second)))

/-- A parameter has no semicolon, end of line or NUL in it. -/
theorem Parameter.plain_text (parameter : Parameter) : Plain parameter.text := by
  cases parameter with
  | unicast => exact (by decide : Plain (ascii "unicast"))
  | interleaved rtp rtcp => exact plain_pairText (by decide) _ _
  | clientPort rtp rtcp => exact plain_pairText (by decide) _ _
  | mode value => exact plain_append (by decide) value.property
  | destination value => exact plain_append (by decide) value.property

/-- The first letter of a parameter tells what it is. -/
def Parameter.letter : Parameter → UInt8
  | .unicast => 'u'.toUInt8
  | .interleaved _ _ => 'i'.toUInt8
  | .clientPort _ _ => 'c'.toUInt8
  | .mode _ => 'm'.toUInt8
  | .destination _ => 'd'.toUInt8

theorem Parameter.text_eq_cons (parameter : Parameter) :
    ∃ rest, parameter.text = parameter.letter :: rest := by
  cases parameter <;> exact ⟨_, rfl⟩

/-! ### Looking for the pair -/

/-- The end of the format of `transportPair`. -/
def pairFormat (name : String) : Scanner (ℤ × ℤ) := do
  literal name
  let first ← int
  literal "-"
  let second ← int
  return (first, second)

/-- The text up to a semicolon. -/
theorem set_semicolon {run rest : List UInt8} (hne : run ≠ []) (hrun : Plain run) :
    set none (· ≠ ';'.toUInt8) (run ++ ';'.toUInt8 :: rest) = some (run, ';'.toUInt8 :: rest) := by
  have hall : ∀ c ∈ run, decide (c ≠ ';'.toUInt8) = true := fun c hc => by simp [(hrun c hc).1]
  rw [set_none_eq, List.takeWhile_append_of_pos hall, List.dropWhile_append_of_pos hall]
  simp [hne]

/-- Without a semicolon the whole text is taken. -/
theorem set_plain {run : List UInt8} (hrun : Plain run) :
    set none (· ≠ ';'.toUInt8) run = if run = [] then none else some (run, []) := by
  have hall : ∀ c ∈ run, decide (c ≠ ';'.toUInt8) = true := fun c hc => by simp [(hrun c hc).1]
  rw [set_none_eq, List.takeWhile_eq_self_iff.mpr hall, List.dropWhile_eq_nil_iff.mpr hall]

theorem literal_semicolon (rest : List UInt8) :
    literal ";" (';'.toUInt8 :: rest) = some ((), rest) := by
  have hstart : ascii ";" <+: ';'.toUInt8 :: rest := ⟨rest, rfl⟩
  rw [literal, if_pos hstart]
  rfl

/-- The pair is looked for behind two semicolons. -/
theorem transportPair_scan {base first rest : List UInt8} (hbase : base ≠ [])
    (hbasePlain : Plain base) (hfirst : first ≠ []) (hfirstPlain : Plain first) (name : String) :
    (transportPair name).scan (base ++ ';'.toUInt8 :: (first ++ ';'.toUInt8 :: rest)) =
      (pairFormat name).scan rest := by
  simp only [Scanner.scan, transportPair, bind, StateT.bind, Option.bind]
  rw [set_semicolon hbase hbasePlain]
  simp only [literal_semicolon, set_semicolon hfirst hfirstPlain]
  rfl

/-- With one semicolon at most there is no pair. -/
theorem transportPair_scan_none {base first : List UInt8} (hbase : base ≠ [])
    (hbasePlain : Plain base) (hfirstPlain : Plain first) (name : String) :
    (transportPair name).scan base = none ∧
      (transportPair name).scan (base ++ ';'.toUInt8 :: first) = none := by
  have hstop : literal ";" [] = none := rfl
  simp only [Scanner.scan, transportPair, bind, StateT.bind, Option.bind]
  rw [set_semicolon hbase hbasePlain, set_plain hbasePlain, if_neg hbase]
  simp only [literal_semicolon, hstop, Option.map_none, true_and]
  rw [set_plain hfirstPlain]
  by_cases hempty : first = []
  · rw [if_pos hempty]
    rfl
  · rw [if_neg hempty]
    simp only [hstop]
    rfl

/-! ### Reading the pair -/

theorem literal_append (name : String) (rest : List UInt8) :
    literal name (ascii name ++ rest) = some ((), rest) := by
  rw [literal, if_pos (List.prefix_append _ _), List.drop_left]

theorem int_nil : int [] = none := rfl

/-- The pair is read step by step. -/
theorem pairFormat_scan (name : String) (text : List UInt8) :
    (pairFormat name).scan text =
      (literal name text).bind fun named => (int named.2).bind fun first =>
        (literal "-" first.2).bind fun dash => (int dash.2).map fun second =>
          (first.1, second.1) := by
  simp only [Scanner.scan, pairFormat, bind, StateT.bind]
  cases literal name text with
  | none => rfl
  | some named =>
    simp only [Option.bind_some]
    cases int named.2 with
    | none => rfl
    | some first =>
      simp only [Option.bind_some]
      cases literal "-" first.2 with
      | none => rfl
      | some dash =>
        simp only [Option.bind_some]
        cases int dash.2 with
        | none => rfl
        | some second => rfl

/-- What is read of a pair of which the first `k` bytes are left: the second number as far as
there are digits of it. -/
theorem pairFormat_scan_take (name : String) (first second : ℕ) {rest : List UInt8}
    (hrest : EndsNumber rest) (k : ℕ) :
    (pairFormat name).scan ((pairText name first second ++ rest).take k) =
      if k ≤ (ascii name).length + (digits first).length + 1 then none
      else some ((first : ℤ), decimal ((digits second).take
        (k - ((ascii name).length + (digits first).length + 1)))) := by
  have hdash : EndsNumber ('-'.toUInt8 :: (digits second ++ rest)) := by
    intro c hc
    obtain rfl := Option.some.inj hc
    decide
  have hliteral : ∀ rest, literal "-" ('-'.toUInt8 :: rest) = some ((), rest) :=
    fun rest => literal_append "-" rest
  have htext : pairText name first second ++ rest =
      ascii name ++ (digits first ++ '-'.toUInt8 :: (digits second ++ rest)) := by
    simp [pairText]
  rw [htext, pairFormat_scan, List.take_append]
  rcases Nat.lt_or_ge k (ascii name).length with hshort | hnamed
  · -- the name itself is cut off
    have hcut : ¬ascii name <+: (ascii name).take k ++
        (digits first ++ '-'.toUInt8 :: (digits second ++ rest)).take
          (k - (ascii name).length) := by
      intro hstart
      have := hstart.length_le
      simp only [List.length_append, List.length_take] at this
      omega
    rw [if_pos (by omega), literal, if_neg hcut, Option.bind_none]
  rw [List.take_of_length_le hnamed, literal_append, Option.bind_some]
  obtain ⟨k, rfl⟩ := Nat.exists_eq_add_of_le hnamed
  rw [Nat.add_sub_cancel_left]
  rcases Nat.eq_zero_or_pos k with rfl | hpos
  · rw [if_pos (by omega)]
    rfl
  dsimp only
  rw [int_take (digits_ne_nil first) (fun _ => isDigit_of_mem_digits) hdash hpos,
    Option.bind_some]
  dsimp only
  rcases Nat.lt_or_ge k ((digits first).length + 2) with hshort | hlong
  · -- nothing is left behind the dash
    rw [if_pos (by omega)]
    rcases Nat.lt_or_ge (digits first).length k with hless | hge
    · have hk : k - (digits first).length = 1 := by omega
      rw [hk, List.take_succ_cons, List.take_zero, hliteral, Option.bind_some, int_nil,
        Option.map_none]
    · rw [Nat.sub_eq_zero_of_le hge, List.take_zero]
      rfl
  · rw [if_neg (by omega), List.take_of_length_le (by omega : (digits first).length ≤ k),
      decimal_digits]
    obtain ⟨j, hj⟩ := Nat.exists_eq_add_of_le hlong
    have hk : k - (digits first).length = j + 1 + 1 := by omega
    have hleft : (ascii name).length + k - ((ascii name).length + (digits first).length + 1) =
        j + 1 := by omega
    rw [hk, List.take_succ_cons, hliteral, Option.bind_some, hleft]
    dsimp only
    rw [int_take (digits_ne_nil second) (fun _ => isDigit_of_mem_digits) hrest (Nat.succ_pos j),
      Option.map_some]

/-- A parameter that asks for no pair of this kind begins with another letter. -/
theorem Parameter.letter_ne {tcp : Bool} {parameter : Parameter}
    (h : parameter.pair tcp = none) :
    (ascii (pairName tcp)).head? ≠ some parameter.letter := by
  have hi : (ascii (pairName false)).head? ≠ some 'i'.toUInt8 := by decide
  have hc : (ascii (pairName true)).head? ≠ some 'c'.toUInt8 := by decide
  have hothers : ∀ tcp, ∀ letter ∈ ['u'.toUInt8, 'm'.toUInt8, 'd'.toUInt8],
      (ascii (pairName tcp)).head? ≠ some letter := by decide +kernel
  cases parameter with
  | unicast => exact hothers tcp _ (by decide)
  | interleaved rtp rtcp =>
    cases tcp with
    | false => exact hi
    | true => cases h
  | clientPort rtp rtcp =>
    cases tcp with
    | false => cases h
    | true => exact hc
  | mode value => exact hothers tcp 'm'.toUInt8 (by decide)
  | destination value => exact hothers tcp 'd'.toUInt8 (by decide)

/-- A parameter that asks for no pair of this kind is not read as one. -/
theorem pairFormat_scan_of_pair_eq_none {tcp : Bool} {parameter : Parameter}
    (h : parameter.pair tcp = none) (rest : List UInt8) (k : ℕ) :
    (pairFormat (pairName tcp)).scan ((parameter.text ++ rest).take k) = none := by
  have hname : ¬ascii (pairName tcp) <+: (parameter.text ++ rest).take k := by
    intro hstart
    obtain ⟨tail, htail⟩ := hstart.trans (List.take_prefix k _)
    obtain ⟨body, hbody⟩ := parameter.text_eq_cons
    obtain ⟨c, name, hc⟩ : ∃ c name, ascii (pairName tcp) = c :: name := by
      cases tcp <;> exact ⟨_, _, rfl⟩
    have hletter := Parameter.letter_ne h
    rw [hc, hbody] at htail
    rw [hc, (List.cons.inj htail).1] at hletter
    exact hletter rfl
  rw [pairFormat_scan, literal, if_neg hname, Option.bind_none]

/-- A parameter that asks for a pair is written with the name of it. -/
theorem text_of_pair_eq_some {tcp : Bool} {parameter : Parameter} {pair : ℕ × ℕ}
    (h : parameter.pair tcp = some pair) :
    parameter.text = pairText (pairName tcp) pair.1 pair.2 := by
  cases tcp <;> cases parameter <;> first
    | (obtain rfl := Option.some.inj h; rfl)
    | cases h

/-! ### Where the pair is found -/

/-- The number of bytes in front of the second number of a pair that is the second parameter. -/
def TransportSpec.secondNumberAt (spec : TransportSpec) (pair : ℕ × ℕ) : ℕ :=
  (transportName spec.tcp).length + (parametersText (spec.parameters.take 1)).length + 1 +
    ((ascii (pairName spec.tcp)).length + (digits pair.1).length + 1)

/-- The second parameter asks for this pair. -/
def TransportSpec.SecondIs (spec : TransportSpec) (pair : ℕ × ℕ) : Prop :=
  spec.parameters[1]?.bind (Parameter.pair spec.tcp) = some pair

/-- A cut behind the first byte of the second part. -/
theorem take_append_cons {left : List UInt8} {k : ℕ} (h : left.length < k) (c : UInt8)
    (right : List UInt8) :
    (left ++ c :: right).take k = left ++ c :: right.take (k - left.length - 1) := by
  obtain ⟨j, hj⟩ := Nat.exists_eq_add_of_le h
  have hleft : k - left.length = j + 1 := by omega
  rw [List.take_append, List.take_of_length_le h.le, hleft, List.take_succ_cons,
    Nat.add_sub_cancel]

theorem plain_take {text : List UInt8} (h : Plain text) (k : ℕ) : Plain (text.take k) :=
  fun c hc => h c (List.mem_of_mem_take hc)

/-- Behind a parameter the header ends or goes on with a semicolon. -/
theorem endsNumber_parametersText (parameters : List Parameter) :
    EndsNumber (parametersText parameters) := by
  intro c hc
  cases parameters with
  | nil => cases hc
  | cons parameter parameters =>
    obtain rfl := Option.some.inj hc
    decide

/-- What is read of a header: the pair of its second parameter, as far as it is stored. -/
theorem transportPair_scan_stored (spec : TransportSpec) :
    (transportPair (pairName spec.tcp)).scan spec.stored =
      (spec.parameters[1]?.bind (Parameter.pair spec.tcp)).bind fun pair =>
        if 255 ≤ spec.secondNumberAt pair then none
        else some ((pair.1 : ℤ),
          decimal ((digits pair.2).take (255 - spec.secondNumberAt pair))) := by
  obtain ⟨tcp, parameters⟩ := spec
  have hname : transportName tcp ≠ [] ∧ Plain (transportName tcp) ∧
      (transportName tcp).length < 255 := by
    cases tcp <;> decide
  obtain ⟨hne, hplain, hlength⟩ := hname
  unfold TransportSpec.stored TransportSpec.text TransportSpec.secondNumberAt
  dsimp only
  match parameters with
  | [] =>
    rw [parametersText, List.flatMap_nil, List.append_nil, List.take_of_length_le hlength.le]
    exact (transportPair_scan_none hne hplain hplain _).1
  | [first] =>
    have htext : parametersText [first] = ';'.toUInt8 :: first.text := by simp [parametersText]
    rw [htext, take_append_cons hlength]
    exact (transportPair_scan_none hne hplain (plain_take first.plain_text _) _).2
  | first :: second :: rest =>
    have htext : parametersText (first :: second :: rest) =
        ';'.toUInt8 :: (first.text ++ ';'.toUInt8 :: (second.text ++ parametersText rest)) := by
      simp [parametersText]
    have hfirst : first.text ≠ [] := by
      obtain ⟨tail, htail⟩ := first.text_eq_cons
      rw [htail]
      exact List.cons_ne_nil _ _
    have hfront : (parametersText ((first :: second :: rest).take 1)).length =
        first.text.length + 1 := by
      simp [parametersText]
    have hsecond : (first :: second :: rest)[1]? = some second := rfl
    rw [htext, take_append_cons hlength, hfront, hsecond, Option.bind_some]
    generalize hk : 255 - (transportName tcp).length - 1 = k
    rcases Nat.lt_or_ge first.text.length k with hstored | hcut
    · rw [take_append_cons hstored, transportPair_scan hne hplain hfirst first.plain_text]
      cases hpair : second.pair tcp with
      | none => exact pairFormat_scan_of_pair_eq_none hpair _ _
      | some pair =>
        rw [text_of_pair_eq_some hpair, pairFormat_scan_take _ _ _ (endsNumber_parametersText rest),
          Option.bind_some]
        generalize (ascii (pairName tcp)).length + (digits pair.1).length + 1 = front
        have hleft : k - first.text.length - 1 - front =
            255 - ((transportName tcp).length + (first.text.length + 1) + 1 + front) := by omega
        rw [hleft]
        refine if_congr ?_ rfl rfl
        omega
    · rw [List.take_append_of_le_length hcut,
        (transportPair_scan_none hne hplain (plain_take first.plain_text k) _).2]
      cases second.pair tcp with
      | none => rfl
      | some pair =>
        rw [Option.bind_some, if_pos]
        omega

/-- The second parameter asks for this pair, and all of it is stored. -/
def TransportSpec.InPlace (spec : TransportSpec) (pair : ℕ × ℕ) : Prop :=
  spec.SecondIs pair ∧ spec.secondNumberAt pair + (digits pair.2).length ≤ 255

/-- The second parameter asks for no pair, or nothing of its second number is stored. -/
def TransportSpec.NoneInPlace (spec : TransportSpec) : Prop :=
  ∀ pair, spec.SecondIs pair → 255 ≤ spec.secondNumberAt pair

/-- Without a pair in place none is read. -/
theorem transportPair_scan_stored_eq_none_iff (spec : TransportSpec) :
    (transportPair (pairName spec.tcp)).scan spec.stored = none ↔ spec.NoneInPlace := by
  rw [transportPair_scan_stored]
  unfold TransportSpec.NoneInPlace TransportSpec.SecondIs
  cases spec.parameters[1]?.bind (Parameter.pair spec.tcp) with
  | none => simp
  | some pair =>
    rw [Option.bind_some]
    constructor
    · intro hnone pair' hpair
      obtain rfl := Option.some.inj hpair
      by_contra hstored
      rw [if_neg hstored] at hnone
      cases hnone
    · intro h
      rw [if_pos (h pair rfl)]

/-- Channels and ports have at most five digits. -/
theorem Parameter.digits_length_le {tcp : Bool} {parameter : Parameter} {pair : ℕ × ℕ}
    (h : parameter.pair tcp = some pair) :
    (digits pair.1).length ≤ 5 ∧ (digits pair.2).length ≤ 5 := by
  have hdigits : ∀ n < 10 ^ 5, (digits n).length ≤ 5 := fun _ => length_digits_le (by decide)
  cases parameter with
  | interleaved rtp rtcp =>
    cases tcp with
    | false => cases h
    | true =>
      obtain rfl := Option.some.inj h
      exact ⟨hdigits _ (by omega), hdigits _ (by omega)⟩
  | clientPort rtp rtcp =>
    cases tcp with
    | false =>
      obtain rfl := Option.some.inj h
      have := rtp.property.2
      have := rtcp.property.2
      exact ⟨hdigits _ (by omega), hdigits _ (by omega)⟩
    | true => cases h
  | unicast => cases h
  | mode value => cases h
  | destination value => cases h

/-- If the first parameter asks for a pair too, then all of the second one is stored. -/
theorem TransportSpec.stored_of_first {spec : TransportSpec} {first second : Parameter}
    {rest : List Parameter} (hparameters : spec.parameters = first :: second :: rest)
    {pair pair' : ℕ × ℕ} (hfirst : first.pair spec.tcp = some pair)
    (hsecond : second.pair spec.tcp = some pair') :
    spec.secondNumberAt pair' + (digits pair'.2).length ≤ 255 := by
  have hname : (transportName spec.tcp).length ≤ 11 ∧
      (ascii (pairName spec.tcp)).length ≤ 12 := by
    cases spec.tcp <;> decide
  have hfront : parametersText (spec.parameters.take 1) = ';'.toUInt8 :: first.text := by
    simp [hparameters, parametersText]
  have := first.digits_length_le hfirst
  have := second.digits_length_le hsecond
  rw [TransportSpec.secondNumberAt, hfront, text_of_pair_eq_some hfirst]
  simp only [pairText, List.length_cons, List.length_append]
  omega

theorem cons_cons_of_getElem? {α : Type*} {l : List α} {second : α} (h : l[1]? = some second) :
    ∃ first rest, l = first :: second :: rest := by
  match l, h with
  | first :: _ :: rest, h =>
    obtain rfl := Option.some.inj h
    exact ⟨first, rest, rfl⟩

/-- The pair that a header asks for is read exactly if it is in place. -/
theorem transportPair_scan_stored_eq_some_iff {spec : TransportSpec} {pair : ℕ × ℕ}
    (hrequested : spec.requested = some pair) :
    (transportPair (pairName spec.tcp)).scan spec.stored = some ((pair.1 : ℤ), (pair.2 : ℤ)) ↔
      spec.InPlace pair := by
  rw [transportPair_scan_stored]
  constructor
  · intro h
    obtain ⟨pair', hsecond, hread⟩ := Option.bind_eq_some_iff.mp h
    split at hread
    · cases hread
    · rename_i hstored
      obtain ⟨hfirst, hnumber⟩ := Prod.mk.inj (Option.some.inj hread)
      rcases Nat.lt_or_ge (255 - spec.secondNumberAt pair') (digits pair'.2).length with hcut | hall
      · -- the second number has been cut off, so the header asks for another one
        exfalso
        obtain ⟨second, hindex, hpair⟩ := Option.bind_eq_some_iff.mp hsecond
        obtain ⟨first, rest, hparameters⟩ := cons_cons_of_getElem? hindex
        cases hpairFirst : first.pair spec.tcp with
        | some _ =>
          have := spec.stored_of_first hparameters hpairFirst hpair
          omega
        | none =>
          have hsame : pair' = pair := by
            rw [TransportSpec.requested, hparameters, List.findSome?_cons, hpairFirst,
              List.findSome?_cons, hpair] at hrequested
            exact Option.some.inj hrequested
          have hzero : (digits 0).length = 1 := rfl
          have hpos : 0 < pair'.2 := Nat.pos_of_ne_zero fun h => by
            rw [h] at hcut
            omega
          have hless := decimal_take_lt hpos hcut
          rw [hnumber, hsame] at hless
          exact lt_irrefl _ hless
      · rw [List.take_of_length_le hall, decimal_digits] at hnumber
        have heq : pair' = pair :=
          Prod.ext (Int.natCast_inj.mp hfirst) (Int.natCast_inj.mp hnumber)
        subst heq
        exact ⟨hsecond, by omega⟩
  · rintro ⟨hsecond, hlength⟩
    have hpos : 0 < (digits pair.2).length := List.length_pos_iff.mpr (digits_ne_nil _)
    rw [hsecond, Option.bind_some, if_neg (by omega), List.take_of_length_le (by omega),
      decimal_digits]

end Rtsp
