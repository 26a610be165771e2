import Mathlib.Data.List.Induction
import Mathlib.Data.Vector.Basic
import Strero.Lib.CString
import Strero.Lib.RecentRing
import Strero.Lib.Runs

/-!
# Probes for the camera

The discovery thread answers a probe unless its message has been seen recently, or its client
has just been answered. It remembers messages in one ring and clients in another. A message is
remembered before it is known whether the client is answered, and a client that is answered
again keeps its old slot.
-/

namespace Onvif.Discovery

open CString RecentRing

/-! ### The two caches -/

/-- A probe with the identifier of its message and the address of its client, and what `time`
returns in the two functions that look it up. -/
structure Probe where
  messageId : List UInt8
  clientIp : UInt32
  idTime : ℕ
  clientTime : ℕ
deriving DecidableEq

/-- `recent_messages` and `client_cooldown_cache`. -/
structure Caches where
  recentMessages : Ring 20 (List UInt8 × ℕ)
  clientIps : Ring 20 UInt32
  lastResponseTimes : Fin 20 → ℕ

/-- The slot that is written first. -/
def firstSlot : Fin 20 := ⟨0, Nat.zero_lt_succ 19⟩

/-- Before the first probe. -/
def Caches.initial : Caches :=
  ⟨⟨fun _ => ([], 0), firstSlot⟩, ⟨fun _ => 0, firstSlot⟩, fun _ => 0⟩

/-- What becomes of a probe. If it passes, its client gets a slot, or has entered it before. -/
inductive Outcome
  | duplicate
  | cooldown
  | passed (slot : Fin 20) (entered : Bool)
deriving DecidableEq

/-- The message has an identifier in the cache that is less than 5 seconds old. -/
def Caches.knowsMessage (caches : Caches) (probe : Probe) : Bool :=
  (List.finRange 20).any fun i =>
    probe.idTime < (caches.recentMessages.slots i).2 + 5 &&
      (caches.recentMessages.slots i).1 = probe.messageId

/-- `is_duplicate_message`, for a message that is new. -/
def Caches.addMessage (caches : Caches) (probe : Probe) : Caches :=
  { caches with
    recentMessages := caches.recentMessages.push (strncpy 128 probe.messageId, probe.idTime) }

/-- The first slot with the address of a client. -/
def Caches.clientIndex (caches : Caches) (clientIp : UInt32) : Option (Fin 20) :=
  (List.finRange 20).find? fun i => caches.clientIps.slots i = clientIp

/-- `is_client_in_cooldown`. -/
def Caches.checkClient (caches : Caches) (probe : Probe) : Caches × Outcome :=
  match caches.clientIndex probe.clientIp with
  | some i =>
    if probe.clientTime < caches.lastResponseTimes i + 1 then (caches, .cooldown)
    else
      ({ caches with
        lastResponseTimes := Function.update caches.lastResponseTimes i probe.clientTime },
        .passed i false)
  | none =>
    ({ caches with
      clientIps := caches.clientIps.push probe.clientIp
      lastResponseTimes :=
        Function.update caches.lastResponseTimes caches.clientIps.next probe.clientTime },
      .passed caches.clientIps.next true)

/-- The part of the loop of `discovery_thread_func` that decides on a probe. -/
def Caches.handleProbe (caches : Caches) (probe : Probe) : Caches × Outcome :=
  if caches.knowsMessage probe then (caches, .duplicate)
  else (caches.addMessage probe).checkClient probe

/-- The probe is answered. An answer needs the address and the port of the server. -/
def Outcome.answers (configured : Bool) : Outcome → Bool
  | .passed _ _ => configured
  | _ => false

/-- The probes so far and what has become of them. -/
abbrev History := List (Probe × Outcome)

/-- A probe is handled and noted. -/
def serve (state : Caches × History) (probe : Probe) : Caches × History :=
  ((state.1.handleProbe probe).1, state.2 ++ [(probe, (state.1.handleProbe probe).2)])

/-- The state after some probes. -/
def served (probes : List Probe) : Caches × History := probes.foldl serve (.initial, [])

/-! ### The rule -/

/-- A probe with the same identifier was taken for a new message less than 5 seconds earlier. -/
def Seen (history : History) (probe : Probe) : Prop :=
  ∃ e ∈ history, e.2 ≠ .duplicate ∧ e.1.messageId = probe.messageId ∧
    probe.idTime < e.1.idTime + 5

instance (history : History) (probe : Probe) : Decidable (Seen history probe) :=
  inferInstanceAs (Decidable (∃ e ∈ history, _))

/-- A probe with the same identifier was answered less than 5 seconds earlier. -/
def AnsweredMessage (configured : Bool) (history : History) (probe : Probe) : Prop :=
  ∃ e ∈ history, e.2.answers configured = true ∧ e.1.messageId = probe.messageId ∧
    probe.idTime < e.1.idTime + 5

instance (configured : Bool) (history : History) (probe : Probe) :
    Decidable (AnsweredMessage configured history probe) :=
  inferInstanceAs (Decidable (∃ e ∈ history, _))

/-- A probe from the same address was answered less than a second earlier. -/
def AnsweredClient (configured : Bool) (history : History) (probe : Probe) : Prop :=
  ∃ e ∈ history, e.2.answers configured = true ∧ e.1.clientIp = probe.clientIp ∧
    probe.clientTime < e.1.clientTime + 1

instance (configured : Bool) (history : History) (probe : Probe) :
    Decidable (AnsweredClient configured history probe) :=
  inferInstanceAs (Decidable (∃ e ∈ history, _))

/-- The last probe from the same address that passed did so less than a second earlier, in a slot
that the address had before, and another address has entered that slot since. -/
def Forgotten (history : History) (probe : Probe) : Prop :=
  ∃ before e after slot, history = before ++ e :: after ∧ e.1.clientIp = probe.clientIp ∧
    e.2 = .passed slot false ∧ probe.clientTime < e.1.clientTime + 1 ∧
    (∀ later ∈ after, later.1.clientIp = probe.clientIp →
      ∀ other entered, later.2 ≠ .passed other entered) ∧
    ∃ later ∈ after, later.2 = .passed slot true

/-- Probes whose identifiers are strings of 1 to 127 characters, with readings of a clock that
does not go back. In 5 seconds there are no more than 20 identifiers, and in one second no more
than 20 clients. -/
structure Valid (probes : List Probe) : Prop where
  ids : ∀ probe ∈ probes, probe.messageId ≠ [] ∧ probe.messageId.length < 128 ∧
    0 ∉ probe.messageId
  started : ∀ probe ∈ probes, 5 ≤ probe.idTime ∧ probe.idTime ≤ probe.clientTime
  ordered : probes.Pairwise fun p q => p.clientTime ≤ q.idTime
  fewIds : FewKeys 20 5 (probes.map fun p => (p.messageId, p.idTime))
  fewClients : FewKeys 20 1 (probes.map fun p => (p.clientIp, p.clientTime))

/-! ### What the caches hold -/

variable {caches : Caches} {history : History} {probe : Probe}

/-- The identifiers that were taken for new, and when. -/
def records (history : History) : List (List UInt8 × ℕ) :=
  (history.filter fun e => e.2 ≠ .duplicate).map fun e => (e.1.messageId, e.1.idTime)

/-- The client of a probe has got a slot that it did not have before. -/
def Outcome.enters : Outcome → Bool
  | .passed _ entered => entered
  | _ => false

/-- The addresses that have been entered, and when. -/
def entries (history : History) : List (UInt32 × ℕ) :=
  (history.filter fun e => e.2.enters).map fun e => (e.1.clientIp, e.1.clientTime)

/-- The caches hold what has happened last: identifiers and addresses in their rings, and in each
slot the time at which its client has passed. -/
structure Tracks (caches : Caches) (history : History) : Prop where
  messages : caches.recentMessages.Records (List.replicate 20 ([], 0) ++ records history)
  freshMessages : Fresh 20 5 (records history)
  clients : caches.clientIps.Records (List.replicate 20 0 ++ (entries history).map Prod.fst)
  freshClients : Fresh 20 1 (entries history)
  entrySlots : ∀ before e after slot, history = before ++ e :: after →
    e.2 = .passed slot true → slot.val = (entries before).length % 20
  times : ∀ i, caches.lastResponseTimes i = 0 ∨ ∃ e ∈ history,
    e.1.clientIp = caches.clientIps.slots i ∧ e.1.clientTime = caches.lastResponseTimes i ∧
      ∃ slot entered, e.2 = .passed slot entered
  lookups : ∀ before e after slot entered, history = before ++ e :: after →
    e.2 = .passed slot entered →
    (∀ later ∈ after, later.1.clientIp = e.1.clientIp →
      ∀ other entered, later.2 ≠ .passed other entered) →
    (∀ later ∈ after, later.2 ≠ .passed slot true) →
    caches.clientIndex e.1.clientIp = some slot ∧
      caches.lastResponseTimes slot = e.1.clientTime

/-- The caches at the beginning. -/
theorem tracks_initial : Tracks .initial [] where
  messages := records_replicate _ firstSlot rfl
  freshMessages := fresh_nil
  clients := records_replicate _ firstSlot rfl
  freshClients := fresh_nil
  entrySlots before e after slot hsplit := by simp at hsplit
  times i := .inl rfl
  lookups before e after slot entered hsplit := by simp at hsplit

theorem knowsMessage_iff : caches.knowsMessage probe = true ↔ ∃ i : Fin 20,
    probe.idTime < (caches.recentMessages.slots i).2 + 5 ∧
      (caches.recentMessages.slots i).1 = probe.messageId := by
  simp [Caches.knowsMessage]

/-- The index of a client is the first one with its address. -/
theorem clientIndex_eq_some_iff {clientIp : UInt32} {i : Fin 20} :
    caches.clientIndex clientIp = some i ↔
      caches.clientIps.slots i = clientIp ∧ ∀ j < i, caches.clientIps.slots j ≠ clientIp := by
  rw [Caches.clientIndex, ← Fin.find?_eq_find?_finRange, Fin.find?_eq_some_iff]
  simp only [decide_eq_true_eq, decide_eq_false_iff_not, ne_eq]

theorem clientIndex_eq_none_iff {clientIp : UInt32} :
    caches.clientIndex clientIp = none ↔ ∀ i, caches.clientIps.slots i ≠ clientIp := by
  simp [Caches.clientIndex]

/-- What a probe does: it is a duplicate and changes nothing, or its message is added and its
client is too early, is found in its slot, or enters the next one. -/
theorem handleProbe_cases (caches : Caches) (probe : Probe) :
    caches.knowsMessage probe = true ∧ caches.handleProbe probe = (caches, .duplicate) ∨
    caches.knowsMessage probe = false ∧
      ((∃ slot, caches.clientIndex probe.clientIp = some slot ∧
          probe.clientTime < caches.lastResponseTimes slot + 1 ∧
          caches.handleProbe probe = (caches.addMessage probe, .cooldown)) ∨
        (∃ slot, caches.clientIndex probe.clientIp = some slot ∧
          ¬probe.clientTime < caches.lastResponseTimes slot + 1 ∧
          caches.handleProbe probe = ({ caches.addMessage probe with
            lastResponseTimes := Function.update caches.lastResponseTimes slot probe.clientTime },
            .passed slot false)) ∨
        caches.clientIndex probe.clientIp = none ∧
          caches.handleProbe probe = ({ caches.addMessage probe with
            clientIps := caches.clientIps.push probe.clientIp
            lastResponseTimes := Function.update caches.lastResponseTimes caches.clientIps.next
              probe.clientTime }, .passed caches.clientIps.next true)) := by
  unfold Caches.handleProbe
  cases hknown : caches.knowsMessage probe with
  | true => exact .inl ⟨rfl, rfl⟩
  | false =>
    refine .inr ⟨rfl, ?_⟩
    have hsame : (caches.addMessage probe).clientIndex probe.clientIp =
        caches.clientIndex probe.clientIp := rfl
    rw [if_neg Bool.false_ne_true, Caches.checkClient, hsame]
    cases hindex : caches.clientIndex probe.clientIp with
    | none => exact .inr (.inr ⟨rfl, rfl⟩)
    | some slot =>
      dsimp only
      by_cases hearly : probe.clientTime < caches.lastResponseTimes slot + 1
      · exact .inl ⟨slot, rfl, hearly, if_pos hearly⟩
      · exact .inr (.inl ⟨slot, rfl, hearly, if_neg hearly⟩)

/-! ### One probe -/

@[simp] theorem records_concat (history : History) (e : Probe × Outcome) :
    records (history ++ [e]) = records history ++
      (if e.2 = .duplicate then [] else [(e.1.messageId, e.1.idTime)]) := by
  unfold records
  rw [List.filter_append, List.map_append]
  split_ifs with h <;> simp [h]

@[simp] theorem entries_concat (history : History) (e : Probe × Outcome) :
    entries (history ++ [e]) = entries history ++
      (if e.2.enters = true then [(e.1.clientIp, e.1.clientTime)] else []) := by
  unfold entries
  rw [List.filter_append, List.map_append]
  split_ifs with h <;> simp [h]

/-- A history that is one longer ends in the last event, or is split earlier. -/
theorem concat_eq_append_cons {before after : History} {e last : Probe × Outcome}
    (h : history ++ [last] = before ++ e :: after) :
    before = history ∧ e = last ∧ after = [] ∨
      ∃ rest, history = before ++ e :: rest ∧ after = rest ++ [last] := by
  rcases List.eq_nil_or_concat' after with rfl | ⟨rest, other, rfl⟩
  · obtain ⟨rfl, hlast⟩ := List.append_inj' h rfl
    exact .inl ⟨rfl, (List.singleton_inj.mp hlast).symm, rfl⟩
  · rw [← List.cons_append, ← List.append_assoc] at h
    obtain ⟨rfl, hlast⟩ := List.append_inj' h rfl
    exact .inr ⟨rest, rfl, by rw [List.singleton_inj.mp hlast]⟩

/-- A new message is recorded. -/
theorem Tracks.records_push (h : Tracks caches history)
    (hid : strncpy 128 probe.messageId = probe.messageId) :
    (caches.addMessage probe).recentMessages.Records
      (List.replicate 20 ([], 0) ++ (records history ++ [(probe.messageId, probe.idTime)])) := by
  rw [← List.append_assoc]
  have hpush := h.messages.push (probe.messageId, probe.idTime)
  rwa [Caches.addMessage, hid]

/-- A message that the cache does not know is fresh. -/
theorem Tracks.fresh_push (h : Tracks caches history)
    (hnew : caches.knowsMessage probe = false) :
    Fresh 20 5 (records history ++ [(probe.messageId, probe.idTime)]) := by
  refine h.freshMessages.concat fun i a hrecent hentry hkey => ?_
  by_contra hyoung
  obtain ⟨slot, -, hslot⟩ := h.messages.exists_slot hrecent hentry
  have hknown : caches.knowsMessage probe = true := by
    refine knowsMessage_iff.mpr ⟨slot, ?_, by rw [hslot, hkey]⟩
    rw [hslot]
    exact Nat.lt_of_not_le hyoung
  rw [hnew] at hknown
  cases hknown

/-- An address that has no slot is fresh. -/
theorem Tracks.fresh_enter (h : Tracks caches history)
    (hnew : caches.clientIndex probe.clientIp = none) :
    Fresh 20 1 (entries history ++ [(probe.clientIp, probe.clientTime)]) := by
  refine h.freshClients.concat fun i a hrecent hentry hkey => ?_
  obtain ⟨slot, -, hslot⟩ := h.clients.exists_slot (a := a.1)
    (by rwa [List.length_map]) (by rw [List.getElem?_map, hentry, Option.map_some])
  exact absurd (hslot.trans hkey) (clientIndex_eq_none_iff.mp hnew slot)

/-- The next slot for an address is counted around the ring. -/
theorem Tracks.next_slot (h : Tracks caches history) :
    caches.clientIps.next.val = (entries history).length % 20 := by
  have hnext := h.clients.next
  rwa [List.length_append, List.length_replicate, List.length_map, Nat.add_mod_left] at hnext

section Noted

variable {messages : Ring 20 (List UInt8 × ℕ)}

/-- A probe that does not pass leaves the clients as they are. -/
theorem Tracks.note (h : Tracks caches history) {outcome : Outcome}
    (hquiet : ∀ slot entered, outcome ≠ .passed slot entered)
    (hmessages : messages.Records
      (List.replicate 20 ([], 0) ++ records (history ++ [(probe, outcome)])))
    (hfresh : Fresh 20 5 (records (history ++ [(probe, outcome)]))) :
    Tracks { caches with recentMessages := messages } (history ++ [(probe, outcome)]) := by
  have hentries : entries (history ++ [(probe, outcome)]) = entries history := by
    have hnone : outcome.enters = false := by
      cases outcome with
      | duplicate => rfl
      | cooldown => rfl
      | passed slot entered => exact absurd rfl (hquiet slot entered)
    rw [entries_concat, if_neg (by rw [hnone]; exact Bool.false_ne_true), List.append_nil]
  refine ⟨hmessages, hfresh, by rw [hentries]; exact h.clients,
    by rw [hentries]; exact h.freshClients, ?_, ?_, ?_⟩
  · intro before e after slot hsplit hpassed
    rcases concat_eq_append_cons hsplit with ⟨-, rfl, -⟩ | ⟨rest, hold, -⟩
    · exact absurd hpassed (hquiet slot true)
    · exact h.entrySlots before e rest slot hold hpassed
  · intro i
    refine (h.times i).imp_right ?_
    rintro ⟨e, he, hevent⟩
    exact ⟨e, List.mem_append_left _ he, hevent⟩
  · intro before e after slot entered hsplit hpassed hlast hover
    rcases concat_eq_append_cons hsplit with ⟨-, rfl, -⟩ | ⟨rest, hold, rfl⟩
    · exact absurd hpassed (hquiet slot entered)
    · exact h.lookups before e rest slot entered hold hpassed
        (fun later hlater => hlast later (List.mem_append_left _ hlater))
        (fun later hlater => hover later (List.mem_append_left _ hlater))

/-- A probe that passes leaves its address and its time in a slot. The other clients keep
theirs. -/
theorem Tracks.pass (h : Tracks caches history) {ips : Ring 20 UInt32} {slot : Fin 20}
    {entered : Bool}
    (hmessages : messages.Records
      (List.replicate 20 ([], 0) ++ records (history ++ [(probe, .passed slot entered)])))
    (hfresh : Fresh 20 5 (records (history ++ [(probe, .passed slot entered)])))
    (hclients : ips.Records (List.replicate 20 0 ++
      (entries (history ++ [(probe, .passed slot entered)])).map Prod.fst))
    (hfreshClients : Fresh 20 1 (entries (history ++ [(probe, .passed slot entered)])))
    (hself : ips.slots slot = probe.clientIp)
    (hothers : ∀ j ≠ slot, ips.slots j = caches.clientIps.slots j)
    (hfirst : ∀ j < slot, caches.clientIps.slots j ≠ probe.clientIp)
    (hkept : entered = false → caches.clientIps.slots slot = probe.clientIp)
    (hslot : entered = true → slot.val = (entries history).length % 20) :
    Tracks ⟨messages, ips, Function.update caches.lastResponseTimes slot probe.clientTime⟩
      (history ++ [(probe, .passed slot entered)]) := by
  refine ⟨hmessages, hfresh, hclients, hfreshClients, ?_, ?_, ?_⟩
  · intro before e after other hsplit hpassed
    rcases concat_eq_append_cons hsplit with ⟨rfl, rfl, -⟩ | ⟨rest, hold, -⟩
    · obtain ⟨rfl, rfl⟩ := Outcome.passed.inj hpassed
      exact hslot rfl
    · exact h.entrySlots before e rest other hold hpassed
  · intro i
    by_cases hi : i = slot
    · subst hi
      refine .inr ⟨_, List.mem_append_right _ List.mem_cons_self, hself.symm, ?_, i, entered, rfl⟩
      dsimp only
      rw [Function.update_self]
    · dsimp only
      rw [Function.update_of_ne hi, hothers i hi]
      refine (h.times i).imp_right ?_
      rintro ⟨e, he, hevent⟩
      exact ⟨e, List.mem_append_left _ he, hevent⟩
  · intro before e after other again hsplit hpassed hlast hover
    rcases concat_eq_append_cons hsplit with ⟨rfl, rfl, rfl⟩ | ⟨rest, hold, rfl⟩
    · obtain ⟨rfl, rfl⟩ := Outcome.passed.inj hpassed
      refine ⟨clientIndex_eq_some_iff.mpr ⟨hself, fun j hj => ?_⟩, Function.update_self ..⟩
      dsimp only
      rw [hothers j (Fin.ne_of_lt hj)]
      exact hfirst j hj
    · have hcurrent := List.mem_append_right rest (List.mem_singleton_self (probe,
        Outcome.passed slot entered))
      have hip : probe.clientIp ≠ e.1.clientIp := fun heq =>
        hlast _ hcurrent heq slot entered rfl
      obtain ⟨hindex, htime⟩ := h.lookups before e rest other again hold hpassed
        (fun later hlater => hlast later (List.mem_append_left _ hlater))
        (fun later hlater => hover later (List.mem_append_left _ hlater))
      obtain ⟨hother, hbefore⟩ := clientIndex_eq_some_iff.mp hindex
      have hne : other ≠ slot := by
        rintro rfl
        cases entered with
        | true => exact hover _ hcurrent rfl
        | false => exact hip ((hkept rfl).symm.trans hother)
      refine ⟨clientIndex_eq_some_iff.mpr ⟨(hothers other hne).trans hother, fun j hj => ?_⟩, ?_⟩
      · by_cases hjslot : j = slot
        · rw [hjslot]
          exact fun heq => hip (hself.symm.trans heq)
        · exact fun heq => hbefore j hj ((hothers j hjslot).symm.trans heq)
      · exact (Function.update_of_ne hne ..).trans htime

end Noted

/-- The step rule: the caches go on to hold what has happened. -/
theorem Tracks.handleProbe (h : Tracks caches history)
    (hid : strncpy 128 probe.messageId = probe.messageId) :
    Tracks (caches.handleProbe probe).1 (history ++ [(probe, (caches.handleProbe probe).2)]) := by
  have hpush := h.records_push hid
  rcases handleProbe_cases caches probe with ⟨hknown, hstep⟩ | ⟨hnew, hrest⟩
  · rw [hstep]
    have hrecords : records (history ++ [(probe, .duplicate)]) = records history := by simp
    have hmessages := h.messages
    have hfresh := h.freshMessages
    rw [← hrecords] at hmessages hfresh
    exact h.note (fun _ _ => Outcome.noConfusion) hmessages hfresh
  have hfresh := h.fresh_push hnew
  have hrecords (outcome : Outcome) (hne : outcome ≠ .duplicate) :
      records (history ++ [(probe, outcome)]) =
        records history ++ [(probe.messageId, probe.idTime)] := by
    rw [records_concat, if_neg hne]
  rcases hrest with ⟨slot, -, -, hstep⟩ | ⟨slot, hindex, -, hstep⟩ | ⟨hnone, hstep⟩
  · rw [hstep]
    rw [← hrecords .cooldown (by decide)] at hpush hfresh
    exact h.note (fun _ _ => Outcome.noConfusion) hpush hfresh
  · rw [hstep]
    rw [← hrecords (.passed slot false) Outcome.noConfusion] at hpush hfresh
    obtain ⟨hself, hfirst⟩ := clientIndex_eq_some_iff.mp hindex
    have hentries : entries (history ++ [(probe, .passed slot false)]) = entries history := by
      simp [Outcome.enters]
    exact h.pass hpush hfresh (by rw [hentries]; exact h.clients)
      (by rw [hentries]; exact h.freshClients) hself (fun _ _ => rfl) hfirst (fun _ => hself)
      Bool.noConfusion
  · rw [hstep]
    rw [← hrecords (.passed caches.clientIps.next true) Outcome.noConfusion] at hpush hfresh
    have hentries : entries (history ++ [(probe, .passed caches.clientIps.next true)]) =
        entries history ++ [(probe.clientIp, probe.clientTime)] := by
      simp [Outcome.enters]
    have hclients := h.clients.push probe.clientIp
    refine h.pass hpush hfresh ?_ (by rw [hentries]; exact h.fresh_enter hnone)
      (caches.clientIps.push_slots_next probe.clientIp)
      (fun j hj => caches.clientIps.push_slots_of_ne probe.clientIp hj)
      (fun j _ => clientIndex_eq_none_iff.mp hnone j) Bool.noConfusion
      (fun _ => h.next_slot)
    rw [hentries, List.map_append, ← List.append_assoc]
    exact hclients

/-! ### Every probe -/

variable {past future probes : List Probe}

/-- The run rule: the caches hold what has happened after any probes. -/
theorem tracks_served (hids : ∀ probe ∈ probes, strncpy 128 probe.messageId = probe.messageId) :
    Tracks (served probes).1 (served probes).2 := by
  induction probes using List.reverseRecOn with
  | nil => exact tracks_initial
  | append_singleton probes probe ih =>
    have hrest := ih fun other hother => hids other (List.mem_append_left _ hother)
    have hstep := hrest.handleProbe (hids probe (List.mem_append_right _ List.mem_cons_self))
    rwa [served, List.foldl_concat]

/-- The history is that of the probes. -/
theorem map_fst_served (probes : List Probe) : (served probes).2.map Prod.fst = probes := by
  have hserved (state : Caches × History) :
      (probes.foldl serve state).2.map Prod.fst = state.2.map Prod.fst ++ probes := by
    induction probes generalizing state with
    | nil => rw [List.foldl_nil, List.append_nil]
    | cons probe probes ih =>
      rw [List.foldl_cons, ih, serve, List.map_append, List.append_assoc]
      rfl
  exact hserved (.initial, [])

/-- The probes of a history are those served. -/
theorem mem_of_mem_served {e : Probe × Outcome} (he : e ∈ (served past).2) : e.1 ∈ past :=
  map_fst_served past ▸ List.mem_map_of_mem he

/-- The identifiers of valid probes are copied whole. -/
theorem Valid.strncpy_eq (h : Valid probes) (hprobe : probe ∈ probes) :
    strncpy 128 probe.messageId = probe.messageId := by
  obtain ⟨-, hlength, hzero⟩ := h.ids probe hprobe
  exact (strncpy_eq_self_iff (by decide) _).mpr ⟨hlength, hzero⟩

/-- The caches before a probe. -/
theorem Valid.tracks (h : Valid (past ++ probe :: future)) :
    Tracks (served past).1 (served past).2 :=
  tracks_served fun _ hearlier => h.strncpy_eq (List.mem_append_left _ hearlier)

/-- A probe comes after those before it. -/
theorem Valid.le (h : Valid (past ++ probe :: future)) {earlier : Probe}
    (hearlier : earlier ∈ past) :
    earlier.idTime ≤ earlier.clientTime ∧ earlier.clientTime ≤ probe.idTime ∧
      probe.idTime ≤ probe.clientTime :=
  ⟨(h.started earlier (List.mem_append_left _ hearlier)).2,
    (List.pairwise_append.mp h.ordered).2.2 earlier hearlier probe List.mem_cons_self,
    (h.started probe (List.mem_append_right _ List.mem_cons_self)).2⟩

/-- The readings of the clock are in order. -/
theorem Valid.history_ordered (h : Valid (past ++ probe :: future)) :
    (served past).2.Pairwise fun a b =>
      a.1.idTime ≤ b.1.idTime ∧ a.1.clientTime ≤ b.1.clientTime := by
  have hordered : (served past).2.Pairwise fun a b => a.1.clientTime ≤ b.1.idTime := by
    have hpast := (List.pairwise_append.mp h.ordered).1
    rw [← map_fst_served past] at hpast
    exact List.pairwise_map.mp hpast
  refine hordered.imp_of_mem fun ha hb hle => ?_
  have hfirst := h.le (mem_of_mem_served ha)
  have hsecond := h.le (mem_of_mem_served hb)
  omega

/-- The records are in order, and few in each window. -/
theorem Valid.records_window (h : Valid (past ++ probe :: future)) :
    FewKeys 20 5 (records (served past).2) ∧
      (records (served past).2).Pairwise fun a b => a.2 ≤ b.2 := by
  refine ⟨h.fewIds.mono fun a ha => ?_, ?_⟩
  · obtain ⟨e, he, rfl⟩ := List.mem_map.mp ha
    have hprobe := mem_of_mem_served (List.mem_filter.mp he).1
    exact List.mem_map_of_mem (f := fun p : Probe => (p.messageId, p.idTime))
      (List.mem_append_left _ hprobe)
  · exact List.pairwise_map.mpr ((h.history_ordered.imp And.left).filter _)

/-- The entries are in order, and few in each window. -/
theorem Valid.entries_window (h : Valid (past ++ probe :: future)) :
    FewKeys 20 1 (entries (served past).2) ∧
      (entries (served past).2).Pairwise fun a b => a.2 ≤ b.2 := by
  refine ⟨h.fewClients.mono fun a ha => ?_, ?_⟩
  · obtain ⟨e, he, rfl⟩ := List.mem_map.mp ha
    have hprobe := mem_of_mem_served (List.mem_filter.mp he).1
    exact List.mem_map_of_mem (f := fun p : Probe => (p.clientIp, p.clientTime))
      (List.mem_append_left _ hprobe)
  · exact List.pairwise_map.mpr ((h.history_ordered.imp And.right).filter _)

/-- A probe is taken for a duplicate exactly if its message has been seen. -/
theorem knowsMessage_iff_seen (h : Valid (past ++ probe :: future)) :
    (served past).1.knowsMessage probe = true ↔ Seen (served past).2 probe := by
  rw [knowsMessage_iff]
  constructor
  · rintro ⟨i, hrecent, hid⟩
    rcases h.tracks.messages.mem_of_slot i with hfirst | hrecord
    · have hempty := (h.ids probe (List.mem_append_right _ List.mem_cons_self)).1
      rw [hfirst] at hid
      exact absurd hid.symm hempty
    · obtain ⟨e, he, hslot⟩ := List.mem_map.mp hrecord
      obtain ⟨hmem, hnew⟩ := List.mem_filter.mp he
      rw [← hslot] at hrecent hid
      exact ⟨e, hmem, of_decide_eq_true hnew, hid, hrecent⟩
  · rintro ⟨e, he, hnew, hid, hrecent⟩
    have hrecord : (e.1.messageId, e.1.idTime) ∈ records (served past).2 :=
      List.mem_map_of_mem (List.mem_filter.mpr ⟨he, decide_eq_true hnew⟩)
    obtain ⟨j, hentry⟩ := List.mem_iff_getElem?.mp hrecord
    obtain ⟨hfew, hsorted⟩ := h.records_window
    have hnow : ∀ b ∈ records (served past).2, b.2 < e.1.idTime + 5 := by
      intro b hb
      obtain ⟨other, hother, rfl⟩ := List.mem_map.mp hb
      have hle := h.le (mem_of_mem_served (List.mem_filter.mp hother).1)
      dsimp only
      omega
    have hlast := h.tracks.freshMessages.recent hfew hsorted hentry hnow
    obtain ⟨slot, -, hslot⟩ := h.tracks.messages.exists_slot hlast hentry
    exact ⟨slot, by rw [hslot]; exact hrecent, by rw [hslot]; exact hid⟩

/-- Some event is the last one of its kind. -/
theorem exists_last {p : Probe × Outcome → Bool} {e : Probe × Outcome} (he : e ∈ history)
    (hp : p e = true) : ∃ before last after, history = before ++ last :: after ∧ p last = true ∧
      ∀ later ∈ after, p later = false := by
  obtain ⟨last, hlast⟩ := Option.isSome_iff_exists.mp
    (List.find?_isSome.mpr ⟨e, List.mem_reverse.mpr he, hp⟩)
  obtain ⟨hfound, front, back, hsplit, hnone⟩ := List.find?_eq_some_iff_append.mp hlast
  refine ⟨back.reverse, last, front.reverse, ?_, hfound, fun later hlater => ?_⟩
  · rw [← List.reverse_reverse history, hsplit]
    simp
  · simpa using hnone later (List.mem_reverse.mp hlater)

theorem answers_true_iff {outcome : Outcome} :
    outcome.answers true = true ↔ ∃ slot entered, outcome = .passed slot entered := by
  cases outcome with
  | duplicate => simp [Outcome.answers]
  | cooldown => simp [Outcome.answers]
  | passed slot entered => exact iff_of_true rfl ⟨slot, entered, rfl⟩

/-- A client that has just entered its slot keeps it for a second. -/
theorem Valid.keeps_slot (h : Valid (past ++ probe :: future)) {before after : History}
    {e later : Probe × Outcome} {slot : Fin 20} (hsplit : (served past).2 = before ++ e :: after)
    (hentered : e.2 = .passed slot true) (hyoung : probe.clientTime < e.1.clientTime + 1)
    (hlater : later ∈ after) : later.2 ≠ .passed slot true := by
  intro hover
  obtain ⟨between, rest, rfl⟩ := List.append_of_mem hlater
  have hfirst := h.tracks.entrySlots _ _ _ _ hsplit hentered
  have hagain := h.tracks.entrySlots (before ++ e :: between) later rest slot
    (by rw [hsplit, List.append_assoc, List.cons_append]) hover
  have hcons (e : Probe × Outcome) (he : e.2 = .passed slot true) (events : History) :
      entries (e :: events) = (e.1.clientIp, e.1.clientTime) :: entries events := by
    unfold entries
    rw [List.filter_cons_of_pos (by rw [he]; rfl), List.map_cons]
  have happend (events more : History) :
      entries (events ++ more) = entries events ++ entries more := by
    unfold entries
    rw [List.filter_append, List.map_append]
  have hentries : entries (served past).2 = entries before ++ (e.1.clientIp, e.1.clientTime) ::
      (entries between ++ (later.1.clientIp, later.1.clientTime) :: entries rest) := by
    rw [hsplit, happend, hcons e hentered, happend, hcons later hover]
  rw [happend, hcons e hentered, List.length_append, List.length_cons] at hagain
  obtain ⟨hfew, hsorted⟩ := h.entries_window
  have hentry : (entries (served past).2)[(entries before).length]? =
      some (e.1.clientIp, e.1.clientTime) := by
    rw [hentries, List.getElem?_append_right (Nat.le_refl _), Nat.sub_self, List.getElem?_cons_zero]
  have hnow : ∀ b ∈ entries (served past).2, b.2 < e.1.clientTime + 1 := by
    intro b hb
    obtain ⟨other, hother, rfl⟩ := List.mem_map.mp hb
    have hle := h.le (mem_of_mem_served (List.mem_filter.mp hother).1)
    dsimp only
    omega
  have hlast := h.tracks.freshClients.recent hfew hsorted hentry hnow
  rw [hentries] at hlast
  simp only [List.length_append, List.length_cons] at hlast
  omega

/-- The cache knows of a client that has just been answered and is not forgotten. -/
theorem Valid.too_early (h : Valid (past ++ probe :: future))
    (hremembered : ¬Forgotten (served past).2 probe)
    (hanswered : AnsweredClient true (served past).2 probe) :
    ∃ slot, (served past).1.clientIndex probe.clientIp = some slot ∧
      probe.clientTime < (served past).1.lastResponseTimes slot + 1 := by
  obtain ⟨first, hfirst, hpasses, hip, hyoung⟩ := hanswered
  obtain ⟨before, e, after, hsplit, hlast, hnone⟩ := exists_last hfirst
    (p := fun e => decide (e.1.clientIp = probe.clientIp) && e.2.answers true)
    (by rw [hpasses, Bool.and_true, decide_eq_true hip])
  rw [Bool.and_eq_true, decide_eq_true_eq] at hlast
  obtain ⟨slot, entered, hpassed⟩ := answers_true_iff.mp hlast.2
  have hlater : ∀ later ∈ after, later.1.clientIp = probe.clientIp →
      ∀ other again, later.2 ≠ .passed other again := by
    intro later hmem hsame other again hagain
    have hfails := hnone later hmem
    rw [hagain, decide_eq_true hsame, Bool.true_and] at hfails
    exact Bool.noConfusion hfails
  -- The last one is not earlier than the first one.
  have hrecent : probe.clientTime < e.1.clientTime + 1 := by
    have hordered := h.history_ordered
    rw [hsplit] at hfirst hordered
    rcases List.mem_append.mp hfirst with hbefore | hrest
    · have hle := ((List.pairwise_append.mp hordered).2.2 first hbefore e List.mem_cons_self).2
      omega
    · rcases List.mem_cons.mp hrest with rfl | hafter
      · exact hyoung
      · obtain ⟨other, again, hagain⟩ := answers_true_iff.mp hpasses
        exact absurd hagain (hlater first hafter hip other again)
  have hkept : ∀ later ∈ after, later.2 ≠ .passed slot true := by
    intro later hmem hover
    cases entered with
    | true => exact h.keeps_slot hsplit hpassed hrecent hmem hover
    | false =>
      exact hremembered ⟨before, e, after, slot, hsplit, hlast.1, hpassed, hrecent, hlater,
        later, hmem, hover⟩
  obtain ⟨hindex, htime⟩ := h.tracks.lookups before e after slot entered hsplit hpassed
    (by rw [hlast.1]; exact hlater) hkept
  exact ⟨slot, hlast.1 ▸ hindex, by rwa [htime]⟩

/-- A new message whose client is not forgotten passes exactly if the client has not been
answered. -/
theorem passes_iff (h : Valid (past ++ probe :: future))
    (hnew : (served past).1.knowsMessage probe = false)
    (hremembered : ¬Forgotten (served past).2 probe) :
    ((served past).1.handleProbe probe).2.answers true = true ↔
      ¬AnsweredClient true (served past).2 probe := by
  have hearly := h.too_early hremembered
  rcases handleProbe_cases (served past).1 probe with ⟨hknown, -⟩ | ⟨-, hrest⟩
  · rw [hnew] at hknown
    cases hknown
  rcases hrest with ⟨slot, hindex, hsoon, hstep⟩ | ⟨slot, hindex, hlate, hstep⟩ | ⟨hnone, hstep⟩
  · rw [hstep]
    refine iff_of_false Bool.false_ne_true (not_not.mpr ?_)
    have hstarted := h.started probe (List.mem_append_right _ List.mem_cons_self)
    rcases h.tracks.times slot with hzero | ⟨e, he, hip, htime, hpassed⟩
    · omega
    · rw [(clientIndex_eq_some_iff.mp hindex).1] at hip
      exact ⟨e, he, answers_true_iff.mpr hpassed, hip, by rwa [htime]⟩
  · rw [hstep]
    refine iff_of_true rfl fun hanswered => ?_
    obtain ⟨other, hother, hsoon⟩ := hearly hanswered
    rw [hindex] at hother
    exact hlate (Option.some.inj hother ▸ hsoon)
  · rw [hstep]
    refine iff_of_true rfl fun hanswered => ?_
    obtain ⟨other, hother, -⟩ := hearly hanswered
    rw [hnone] at hother
    cases hother

/-- The rule: a probe whose client is not forgotten is answered if and only if its message has
not been seen for 5 seconds and its client has not been answered for one second. -/
theorem answers_iff (configured : Bool) (past : List Probe) (probe : Probe)
    (future : List Probe) (h : Valid (past ++ probe :: future))
    (hremembered : ¬Forgotten (served past).2 probe) :
    ((served past).1.handleProbe probe).2.answers configured = true ↔
      configured = true ∧ ¬Seen (served past).2 probe ∧
        ¬AnsweredClient configured (served past).2 probe := by
  cases configured with
  | false =>
    refine iff_of_false ?_ fun hrule => Bool.false_ne_true hrule.1
    cases ((served past).1.handleProbe probe).2 <;> exact Bool.false_ne_true
  | true =>
    rw [← knowsMessage_iff_seen h, and_iff_right rfl]
    cases hknown : (served past).1.knowsMessage probe with
    | true =>
      rw [Caches.handleProbe, if_pos hknown]
      exact iff_of_false Bool.false_ne_true fun hrule => hrule.1 rfl
    | false =>
      rw [passes_iff h hknown hremembered]
      exact (and_iff_right Bool.false_ne_true).symm

/-- A client that sends two probes at once, and the second one again two seconds later. -/
def firstProbe : Probe := ⟨ascii "urn:uuid:1", 0xC0A80002, 10, 10⟩

def secondProbe : Probe := ⟨ascii "urn:uuid:2", 0xC0A80002, 10, 10⟩

def secondProbeAgain : Probe := ⟨ascii "urn:uuid:2", 0xC0A80002, 12, 12⟩

/-- These probes are valid. -/
theorem valid_probes : Valid ([firstProbe, secondProbe] ++ secondProbeAgain :: []) where
  ids := by decide
  started := by decide
  ordered := by decide
  fewIds := fewKeys_of_length_le (by decide)
  fewClients := fewKeys_of_length_le (by decide)

/-- The second probe was refused only because of its client, and is still refused when it comes
again. -/
theorem answers_iff_secondProbeAgain :
    Seen (served [firstProbe, secondProbe]).2 secondProbeAgain ∧
      ((served [firstProbe, secondProbe]).1.handleProbe secondProbeAgain).2.answers true ≠
        true := by
  have hremembered : ¬Forgotten (served [firstProbe, secondProbe]).2 secondProbeAgain := by
    rintro ⟨before, e, after, slot, hsplit, -, hpassed, -⟩
    have hfresh : ∀ e ∈ (served [firstProbe, secondProbe]).2, ∀ slot,
        e.2 ≠ .passed slot false := by decide +kernel
    exact hfresh e (hsplit ▸ List.mem_append_right before List.mem_cons_self) slot hpassed
  have hseen : Seen (served [firstProbe, secondProbe]).2 secondProbeAgain := by decide +kernel
  exact ⟨hseen, fun hanswers =>
    ((answers_iff true _ _ _ valid_probes hremembered).mp hanswers).2.1 hseen⟩

/-- No probe with its identifier was answered, and no probe of its client in the last second. -/
theorem not_answers_iff_answered :
    ¬∀ (past : List Probe) (probe : Probe) (future : List Probe),
      Valid (past ++ probe :: future) →
      (((served past).1.handleProbe probe).2.answers true = true ↔
        ¬AnsweredMessage true (served past).2 probe ∧
          ¬AnsweredClient true (served past).2 probe) := by
  intro h
  have hrule := h [firstProbe, secondProbe] secondProbeAgain [] valid_probes
  exact absurd hrule (by decide +kernel)

end Onvif.Discovery
