import Mathlib.Data.Fintype.Sets
import Mathlib.Logic.Function.Basic
import Strero.AuthUtils

/-!
# Authentication on two threads

The HTTP thread and the RTSP thread check requests at the same time. Each extracts the
header of its request and then validates it. The copy of the header that is handed over
in between is in one array for both threads.
-/

namespace AuthUtils

open CString

/-- The threads that check requests. -/
inductive Thread
  | http | rtsp
deriving DecidableEq, Repr

instance : Fintype Thread := ⟨{.http, .rtsp}, fun thread => by cases thread <;> decide⟩

/-- The other one of the two. -/
def Thread.other : Thread → Thread
  | .http => .rtsp
  | .rtsp => .http

theorem Thread.other_ne (thread : Thread) : thread.other ≠ thread := by cases thread <;> decide

/-- What `extract_auth_header` returns: no header, a pointer into the request, or the
address of the array. -/
inductive HeaderPointer
  | null
  | request (value : List UInt8)
  | array
deriving DecidableEq

/-- `extract_auth_header`, with the string that it leaves in the array if it copies. -/
def extractSharedHeader (request : List UInt8) : HeaderPointer × Option (List UInt8) :=
  match (strstr request (ascii "Authorization:")).orElse fun _ =>
      strstr request (ascii "authorization:") with
  | none => (.null, none)
  | some line =>
    let value := (line.drop 14).dropWhile (· = ' '.toUInt8)
    match (strstr value (ascii "\r\n")).orElse fun _ => strstr value (ascii "\n") with
    | none => (.request value, none)
    | some stop => (.array, some ((between value stop).take 255))

/-- The string behind a pointer, by what the array holds. -/
def HeaderPointer.read (array : List UInt8) : HeaderPointer → Option (List UInt8)
  | .null => none
  | .request value => some value
  | .array => some array

/-- Read at once, the pointer gives the header of the request. -/
theorem extractSharedHeader_read (request array : List UInt8) :
    (extractSharedHeader request).1.read ((extractSharedHeader request).2.getD array) =
      extractAuthHeader request := by
  unfold extractSharedHeader extractAuthHeader
  cases (strstr request (ascii "Authorization:")).orElse fun _ =>
      strstr request (ascii "authorization:") with
  | none => rfl
  | some line =>
    dsimp only [Option.bind_eq_bind, Option.bind_some]
    cases (strstr ((line.drop 14).dropWhile (· = ' '.toUInt8)) (ascii "\r\n")).orElse fun _ =>
        strstr ((line.drop 14).dropWhile (· = ' '.toUInt8)) (ascii "\n") with
    | none => rfl
    | some stop => rfl

/-- A pointer that is not to the array gives the same at any time. -/
theorem extractSharedHeader_cases (request : List UInt8) :
    (∃ copied, extractSharedHeader request = (.array, some copied)) ∨
      (extractSharedHeader request).2 = none ∧ ∀ array,
        (extractSharedHeader request).1.read array = extractAuthHeader request := by
  have hread := extractSharedHeader_read request
  unfold extractSharedHeader at hread ⊢
  split
  · rename_i hnone
    rw [hnone] at hread
    exact .inr ⟨rfl, hread⟩
  · rename_i line hline
    rw [hline] at hread
    dsimp only at hread ⊢
    split
    · rename_i hnone
      rw [hnone] at hread
      exact .inr ⟨rfl, hread⟩
    · exact .inl ⟨_, rfl⟩

/-! ### The steps of the threads -/

/-- What a call of `auth_check_http_request` or `auth_check_rtsp_request` is given. -/
structure Check where
  request : List UInt8
  config : AuthConfig
  client : ClientInfo

/-- How far the check of a thread has come. -/
inductive Progress
  | started
  | extracted (pointer : HeaderPointer)
  | decided (result : Option AuthResult)
deriving DecidableEq

/-- `auth_header` and the progress of the checks. -/
structure Threads where
  array : List UInt8
  progress : Thread → Progress

/-- The next atomic step of the check of a thread. A client that needs no authentication
is passed in the first one. -/
def Threads.step (tableAddress : UInt32) (checks : Thread → Check) (s : Threads)
    (thread : Thread) : Threads :=
  let check := checks thread
  match s.progress thread with
  | .started =>
    if !authIsRequired check.config check.client then
      { s with progress := Function.update s.progress thread (.decided (some .success)) }
    else
      let (pointer, copied) := extractSharedHeader check.request
      { s with
        array := copied.getD s.array
        progress := Function.update s.progress thread (.extracted pointer) }
  | .extracted pointer =>
    let result := authValidateBasic tableAddress (pointer.read s.array) check.config
    { s with progress := Function.update s.progress thread (.decided result) }
  | .decided _ => s

/-- Both checks are about to start. -/
def Threads.start (array : List UInt8) : Threads := ⟨array, fun _ => .started⟩

/-- The threads after some steps. -/
def Threads.run (tableAddress : UInt32) (checks : Thread → Check) (s : Threads)
    (schedule : List Thread) : Threads :=
  schedule.foldl (Threads.step tableAddress checks) s

/-- What the thread decides for its own request, run alone. -/
def Thread.decidesAlone (tableAddress : UInt32) (check : Check) : Thread → Option AuthResult
  | .http => authCheckHttpRequest tableAddress check.request check.config check.client
  | .rtsp => authCheckRtspRequest tableAddress check.request check.config check.client

/-- The header that a check copies into the array. -/
def Check.copiedHeader (check : Check) : Option (List UInt8) :=
  if authIsRequired check.config check.client then (extractSharedHeader check.request).2 else none

/-- Both checks copy a header, and with that of the other check this one would be decided
differently. -/
def Check.Confuses (tableAddress : UInt32) (check other : Check) : Prop :=
  ∃ own ∈ check.copiedHeader, ∃ copied ∈ other.copiedHeader,
    authValidateBasic tableAddress (some copied) check.config ≠
      authValidateBasic tableAddress (some own) check.config

/-! ### Single steps -/

section Steps

variable {tableAddress : UInt32} {checks : Thread → Check} {s : Threads} {thread : Thread}

/-- The progress after the first step. -/
def Check.opened (check : Check) : Progress :=
  if authIsRequired check.config check.client then
    .extracted (extractSharedHeader check.request).1
  else .decided (some .success)

/-- The result of the second step, by what the array holds. -/
def Check.result (check : Check) (tableAddress : UInt32) (array : List UInt8) :
    Option AuthResult :=
  if authIsRequired check.config check.client then
    authValidateBasic tableAddress ((extractSharedHeader check.request).1.read array) check.config
  else some .success

/-- The first step of a thread. -/
theorem Threads.step_started (hstarted : s.progress thread = .started) :
    s.step tableAddress checks thread =
      ⟨(checks thread).copiedHeader.getD s.array,
        Function.update s.progress thread (checks thread).opened⟩ := by
  unfold Threads.step Check.copiedHeader Check.opened
  simp only [hstarted]
  cases authIsRequired (checks thread).config (checks thread).client <;> rfl

/-- The second step of a thread. -/
theorem Threads.step_opened (hopened : s.progress thread = (checks thread).opened) :
    s.step tableAddress checks thread =
      ⟨s.array, Function.update s.progress thread
        (.decided ((checks thread).result tableAddress s.array))⟩ := by
  unfold Threads.step
  rw [hopened]
  unfold Check.opened at hopened ⊢
  unfold Check.result
  split_ifs with hrequired
  · rfl
  · rw [if_neg hrequired] at hopened
    dsimp only
    rw [← hopened, Function.update_eq_self]

/-- With the own header in the array, or none, the thread decides as if it were alone. -/
theorem Check.result_own (check : Check) (tableAddress : UInt32) (array : List UInt8)
    (thread : Thread) :
    check.result tableAddress (check.copiedHeader.getD array) =
      thread.decidesAlone tableAddress check := by
  unfold Check.result Check.copiedHeader
  have halone : thread.decidesAlone tableAddress check =
      authCheckHttpRequest tableAddress check.request check.config check.client := by
    cases thread <;> rfl
  rw [halone, authCheckHttpRequest]
  cases authIsRequired check.config check.client with
  | false => rfl
  | true =>
    rw [if_pos rfl, if_pos rfl, extractSharedHeader_read]
    rfl

/-- With the header of the other check in the array the thread decides as if it were alone
unless the two are confused. -/
theorem Check.result_other (check other : Check) (tableAddress : UInt32) (array : List UInt8)
    (thread : Thread) :
    check.result tableAddress (other.copiedHeader.getD (check.copiedHeader.getD array)) =
        thread.decidesAlone tableAddress check ↔ ¬check.Confuses tableAddress other := by
  have hown := check.result_own tableAddress array thread
  rw [← hown]
  unfold Check.Confuses
  cases hother : other.copiedHeader with
  | none => exact iff_of_true rfl (by simp)
  | some copied =>
    cases hcheck : check.copiedHeader with
    | none =>
      refine iff_of_true ?_ (by simp)
      unfold Check.copiedHeader at hcheck
      unfold Check.result
      split_ifs at hcheck ⊢ with hrequired
      · rcases extractSharedHeader_cases check.request with ⟨own, hown⟩ | ⟨-, hread⟩
        · simp [hown] at hcheck
        · rw [hread, hread]
      · rfl
    | some own =>
      unfold Check.copiedHeader at hcheck
      split_ifs at hcheck with hrequired
      have hpointer : (extractSharedHeader check.request).1 = .array := by
        rcases extractSharedHeader_cases check.request with ⟨own, hown⟩ | ⟨hnone, -⟩
        · rw [hown]
        · rw [hnone] at hcheck
          cases hcheck
      simp [Check.result, hrequired, hpointer, HeaderPointer.read]

end Steps

/-! ### Schedules -/

@[simp] theorem Thread.other_other (thread : Thread) : thread.other.other = thread := by
  cases thread <;> rfl

/-- The two threads are all there are. -/
theorem Thread.forall_iff (first : Thread) {p : Thread → Prop} :
    (∀ thread, p thread) ↔ p first ∧ p first.other := by
  refine ⟨fun h => ⟨h _, h _⟩, ?_⟩
  rintro ⟨hfirst, hother⟩ thread
  by_cases hthread : thread = first
  · exact hthread ▸ hfirst
  · have hrest : thread = first.other := by
      revert hthread
      cases thread <;> cases first <;> simp [Thread.other]
    exact hrest ▸ hother

/-- A complete schedule lets one thread finish before the other starts, or lets both extract
before one of them validates. -/
theorem schedule_cases {schedule : List Thread} (hcomplete : ∀ thread, schedule.count thread = 2) :
    ∃ first last : Thread, schedule = [first, first, first.other, first.other] ∨
      schedule = [first, first.other, last, last.other] := by
  have hlength : schedule.length = 4 := by
    have hcount : schedule.length = schedule.count .http + schedule.count .rtsp := by
      clear hcomplete
      induction schedule with
      | nil => rfl
      | cons thread schedule ih => cases thread <;> simp [ih] <;> omega
    rw [hcount, hcomplete, hcomplete]
  obtain ⟨a, b, c, d, rfl⟩ : ∃ a b c d, schedule = [a, b, c, d] := by
    match schedule, hlength with
    | [a, b, c, d], _ => exact ⟨a, b, c, d, rfl⟩
  revert a b c d
  decide

section Schedules

variable {tableAddress : UInt32} {checks : Thread → Check} {s : Threads}

variable (tableAddress) in
/-- Once both have extracted, both validate what the array holds then. -/
theorem Threads.run_opened (hopened : ∀ thread, s.progress thread = (checks thread).opened)
    (last thread : Thread) :
    (s.run tableAddress checks [last, last.other]).progress thread =
      .decided ((checks thread).result tableAddress s.array) := by
  have hlater : (s.step tableAddress checks last).progress last.other =
      (checks last.other).opened := by
    rw [Threads.step_opened (hopened last)]
    dsimp only
    rw [Function.update_of_ne last.other_ne, hopened]
  change ((s.step tableAddress checks last).step tableAddress checks last.other).progress thread = _
  rw [Threads.step_opened hlater, Threads.step_opened (hopened last)]
  dsimp only
  revert thread
  rw [Thread.forall_iff last]
  constructor
  · rw [Function.update_of_ne last.other_ne.symm, Function.update_self]
  · rw [Function.update_self]

variable (tableAddress checks) (array : List UInt8) (first : Thread)

/-- One check after the other: both threads decide as if they were alone. -/
theorem Threads.run_apart (thread : Thread) :
    ((Threads.start array).run tableAddress checks
      [first, first, first.other, first.other]).progress thread =
        .decided (thread.decidesAlone tableAddress (checks thread)) := by
  have hpair : ∀ {s : Threads} {t : Thread}, s.progress t = .started →
      (s.step tableAddress checks t).step tableAddress checks t =
        ⟨(checks t).copiedHeader.getD s.array, Function.update s.progress t
          (.decided (t.decidesAlone tableAddress (checks t)))⟩ := by
    intro s t hstarted
    rw [Threads.step_started hstarted, Threads.step_opened (Function.update_self _ _ _)]
    dsimp only
    rw [Function.update_idem, Check.result_own _ _ _ t]
  change (((((Threads.start array).step tableAddress checks first).step tableAddress checks
    first).step tableAddress checks first.other).step tableAddress checks
      first.other).progress thread = _
  have hfirst : (Threads.start array).progress first = .started := rfl
  rw [hpair hfirst, hpair (Function.update_of_ne first.other_ne _ _)]
  dsimp only
  revert thread
  rw [Thread.forall_iff first]
  constructor
  · rw [Function.update_of_ne first.other_ne.symm, Function.update_self]
  · rw [Function.update_self]

/-- Both extract first: both validate with the array of the thread that was second. -/
theorem Threads.run_together (last thread : Thread) :
    ((Threads.start array).run tableAddress checks
      [first, first.other, last, last.other]).progress thread =
        .decided ((checks thread).result tableAddress
          ((checks first.other).copiedHeader.getD ((checks first).copiedHeader.getD array))) := by
  have hfirst : (Threads.start array).progress first = .started := rfl
  have hother : ((Threads.start array).step tableAddress checks first).progress first.other =
      .started := by
    rw [Threads.step_started hfirst]
    exact Function.update_of_ne first.other_ne _ _
  have hopened : ∀ thread, (((Threads.start array).step tableAddress checks first).step
      tableAddress checks first.other).progress thread = (checks thread).opened := by
    rw [Threads.step_started hother, Threads.step_started hfirst, Thread.forall_iff first]
    dsimp only
    constructor
    · rw [Function.update_of_ne first.other_ne.symm, Function.update_self]
    · rw [Function.update_self]
  have hrun := Threads.run_opened tableAddress hopened last thread
  have harray : (((Threads.start array).step tableAddress checks first).step tableAddress checks
      first.other).array =
      (checks first.other).copiedHeader.getD ((checks first).copiedHeader.getD array) := by
    rw [Threads.step_started hother, Threads.step_started hfirst]
    rfl
  rw [harray] at hrun
  exact hrun

end Schedules

/-- Under a complete schedule both threads decide as if they were alone exactly when the
first to extract finishes before the other extracts, or is not confused by the other. -/
theorem Threads.run_decidesAlone_iff (tableAddress : UInt32) (checks : Thread → Check)
    (array : List UInt8) {schedule : List Thread}
    (hcomplete : ∀ thread, schedule.count thread = 2) :
    (∀ thread, ((Threads.start array).run tableAddress checks schedule).progress thread =
        .decided (thread.decidesAlone tableAddress (checks thread))) ↔
      ∀ first : Thread, [first, first.other] <+: schedule →
        ¬(checks first).Confuses tableAddress (checks first.other) := by
  obtain ⟨first, last, rfl | rfl⟩ := schedule_cases hcomplete
  · refine iff_of_true (fun thread => Threads.run_apart _ _ _ first thread) ?_
    intro other hstart
    have hboth : other = first ∧ other.other = first := by simpa using hstart
    exact absurd (hboth.2.trans hboth.1.symm) other.other_ne
  · have hstart : ∀ other : Thread,
        [other, other.other] <+: [first, first.other, last, last.other] ↔ other = first := by
      intro other
      constructor
      · intro h
        exact (List.cons_prefix_cons.mp h).1
      · rintro rfl
        exact ⟨[last, last.other], rfl⟩
    simp only [hstart, forall_eq, Threads.run_together, Progress.decided.injEq]
    rw [Thread.forall_iff first, Check.result_own, Check.result_other]
    exact and_iff_left rfl

/-- A client that sends the Basic credentials `x:y`. -/
def wrongRequest : List UInt8 :=
  ascii "OPTIONS rtsp://192.168.1.10/ch0 RTSP/1.0\r\nAuthorization: Basic eDp5\r\n\r\n"

/-- The HTTP thread checks the right credentials and the RTSP thread wrong ones. -/
def rightAndWrong : Thread → Check
  | .http => ⟨basicRequest, adminConfig "secret", lanClient⟩
  | .rtsp => ⟨wrongRequest, adminConfig "secret", lanClient⟩

/-- One after the other they are told apart. -/
theorem Threads.run_decidesAlone_apart :
    (∀ thread, [Thread.rtsp, .rtsp, .http, .http].count thread = 2) ∧
      ∀ thread, ((Threads.start []).run 0 rightAndWrong
        [.rtsp, .rtsp, .http, .http]).progress thread =
          .decided (thread.decidesAlone 0 (rightAndWrong thread)) :=
  ⟨by decide, (Threads.run_decidesAlone_iff 0 rightAndWrong [] (by decide)).mpr
    fun first hstart => absurd hstart (by revert first; decide)⟩

/-- Interleaved, the wrong credentials pass. -/
theorem Threads.not_run_decidesAlone :
    ¬∀ (tableAddress : UInt32) (checks : Thread → Check) (array : List UInt8)
        (schedule : List Thread), (∀ thread, schedule.count thread = 2) →
      ∀ thread, ((Threads.start array).run tableAddress checks schedule).progress thread =
        .decided (thread.decidesAlone tableAddress (checks thread)) := by
  intro h
  have hdecided := h 0 rightAndWrong [] [.rtsp, .http, .rtsp, .http] (by decide) .rtsp
  have hpassed : ((Threads.start []).run 0 rightAndWrong
      [.rtsp, .http, .rtsp, .http]).progress .rtsp = .decided (some .success) := by decide +kernel
  have halone : Thread.decidesAlone 0 (rightAndWrong .rtsp) .rtsp = some .invalid := by
    decide +kernel
  rw [hpassed, halone] at hdecided
  cases hdecided

end AuthUtils
