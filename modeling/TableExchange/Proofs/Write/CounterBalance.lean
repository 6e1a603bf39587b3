import TableExchange.Proofs.Write.Publication
import TableExchange.Proofs.Write.WriterCounts

/-!
The counters of writers add up. Any number of writers of any sessions are created, called and
dropped in any order, and every request and fail point may fail. For each session the uploads that
were opened are those that were committed or aborted by the counters or are still held by a writer,
dropped or not; the commits that gave a message are counted one by one, and the bytes and records
are the sums of the totals of all writers.
-/
namespace TableExchange

variable {σ υ β : Type}

namespace WriteEvent

def opensFor (id : String) : WriteEvent υ → Bool
  | opening request (.ok _) => request.sessionId = id
  | _ => false

/-- An upload is consumed with an acknowledgement or without one. -/
theorem countP_consumes (events : List (WriteEvent υ)) :
    events.countP consumes = events.countP finishes + events.countP loses := by
  induction events with
  | nil => rfl
  | cons e rest ih =>
    simp only [List.countP_cons, ih]
    rcases e with _ | _ | ⟨_, _ | _⟩ | _ | _ <;> simp [consumes, finishes, loses] <;> omega

end WriteEvent

/-- The uploads of an attempt are opened for the session of its writer. -/
theorem Trail.countP_opensFor {request : BlockRequest} {events : List (WriteEvent υ)}
    {state : UploadState υ} (h : Trail request events state) (id : String) :
    events.countP (WriteEvent.opensFor id) =
      if request.sessionId = id then events.countP WriteEvent.opens else 0 := by
  induction h with
  | start => simp
  | refused f h ih => simpa [WriteEvent.opensFor, WriteEvent.opens] using ih
  | opened u h ih =>
    rw [List.countP_append, List.countP_append, ih]
    by_cases hid : request.sessionId = id <;> simp [WriteEvent.opensFor, WriteEvent.opens, hid]
  | sent bytes answer u' h ih => simpa [WriteEvent.opensFor, WriteEvent.opens] using ih
  | finished answer h ih => simpa [WriteEvent.opensFor, WriteEvent.opens] using ih
  | aborted h ih => simpa [WriteEvent.opensFor, WriteEvent.opens] using ih

namespace BlockWriter

variable {w w' : BlockWriter υ} {x : Exchange σ} {call : WriterCall β}
  {events : List (WriteEvent υ)} {answer : WriterAnswer}

/-- A call gives a message when it finished an upload. -/
theorem Made.countP_finishes (hm : w.Made x call events answer w') :
    events.countP WriteEvent.finishes = answer.messages.length := by
  cases hm with
  | write hw =>
    have hnone : ∀ e ∈ events, ¬e.finishes = true := by
      rintro (_ | _ | ⟨u, _ | token⟩ | _ | _) he <;> simp [WriteEvent.finishes]
      exact hw.not_finishing u _ he
    rw [List.countP_eq_zero.mpr hnone]
    rfl
  | commit he => cases he <;> rfl
  | abort hg => cases hg <;> rfl

theorem due_append_due (c : WriterCounter) (w w' : BlockWriter υ)
    (events new : List (WriteEvent υ)) :
    w'.due c (events ++ new) + w.due c [] = w.due c events + w'.due c new := by
  cases c with
  | committed => simp [due]
  | aborted => simp [due]
  | bytes => exact add_comm _ _
  | records => exact add_comm _ _

end BlockWriter

/-- A call moves a counter by what its writer accounts for after it and did not before. -/
theorem Visit.value_left (svc : WriteService σ υ) (call : WriterCall β) (w : BlockWriter υ)
    (x : Exchange σ) (id : String) (c : WriterCounter) :
    let v := Visit.of svc call w x
    v.left.counters.value (c.key id) + w.dueTo id c [] =
      x.counters.value (c.key id) + v.after.dueTo id c v.events := by
  intro v
  have hexcess : (call.make svc.journaled w (x.watched (WriteEvent υ))).2.1.excess id c
      (call.make svc.journaled w (x.watched (WriteEvent υ))).2.2 =
        w.excess id c (x.watched (WriteEvent υ)) := w.excess_make svc _ call
  have hplain := w.make_plain svc call (x.watched (WriteEvent υ))
  rw [Exchange.plain_watched] at hplain
  have hafter : v.after = (call.make svc.journaled w (x.watched (WriteEvent υ))).2.1 :=
    congrArg (·.2.1) hplain
  have hleft : v.left.counters =
      (call.make svc.journaled w (x.watched (WriteEvent υ))).2.2.counters :=
    congrArg (·.2.2.counters) hplain
  rw [hafter, hleft]
  exact sub_eq_sub_iff_add_eq_add.mp hexcess

structure Hand (β σ υ : Type) where
  attempt : Attempt β σ υ
  dropped : Bool := false

namespace Hand

variable (h : Hand β σ υ)

def writer : BlockWriter υ :=
  h.attempt.writer

def events : List (WriteEvent υ) :=
  h.attempt.events

def messages : List CommitMessage :=
  h.attempt.visits.flatMap (·.answer.messages)

def isOpen : Bool :=
  h.writer.stage.isOpen

end Hand

structure Fleet (β σ υ : Type) where
  counters : Counters := []
  hands : List (Hand β σ υ) := []

/-- What can happen to a fleet. A call finds its own service, fail points and clock, since anything
may have happened to these since the last call; only the counters go from call to call. Other parts
of a process add to counters of their own. -/
inductive FleetMove (β σ : Type)
  | create (request : BlockRequest)
  | call (index : Nat) (call : WriterCall β) (found : Exchange σ)
  | drop (index : Nat)
  | other (key : CounterKey) (n : UInt64) (h : ∀ (c : WriterCounter) id, c.key id ≠ key)

namespace Fleet

/-- Makes one move. What was dropped is not called any more. -/
def take (svc : WriteService σ υ) (p : Fleet β σ υ) : FleetMove β σ → Fleet β σ υ
  | .create request => { p with hands := p.hands ++ [⟨.start request, false⟩] }
  | .call index call found =>
    match p.hands[index]? with
    | some ⟨a, false⟩ =>
      let found := { found with counters := p.counters }
      { counters := (Visit.of svc call a.writer found).left.counters
        hands := p.hands.set index ⟨a.take svc (call, found), false⟩ }
    | _ => p
  | .drop index =>
    match p.hands[index]? with
    | some hand => { p with hands := p.hands.set index { hand with dropped := true } }
    | none => p
  | .other key n _ => { p with counters := p.counters.add key n }

def run (svc : WriteService σ υ) (p : Fleet β σ υ) (moves : List (FleetMove β σ)) : Fleet β σ υ :=
  moves.foldl (take svc) p

def counter (p : Fleet β σ υ) (c : WriterCounter) (id : String) : UInt64 :=
  p.counters.value (c.key id)

def handsOf (p : Fleet β σ υ) (id : String) : List (Hand β σ υ) :=
  p.hands.filter fun h => h.writer.request.sessionId = id

def opened (p : Fleet β σ υ) (id : String) : Nat :=
  (p.hands.flatMap (·.events)).countP (WriteEvent.opensFor id)

def messages (p : Fleet β σ υ) (id : String) : List CommitMessage :=
  (p.handsOf id).flatMap (·.messages)

/-- The number of a session's writers that hold an upload, and were dropped or not. -/
def holding (p : Fleet β σ υ) (id : String) (dropped : Bool) : Nat :=
  (p.handsOf id).countP fun h => h.isOpen && h.dropped == dropped

structure Balanced (p : Fleet β σ υ) (id : String) : Prop where
  /-- What was opened is committed, aborted, still held, or dropped while it was held. -/
  streams : .ofNat (p.opened id) = p.counter .committed id + p.counter .aborted id +
    .ofNat (p.holding id false) + .ofNat (p.holding id true)
  streamsExact : p.opened id < UInt64.size →
    p.opened id = (p.counter .committed id).toNat + (p.counter .aborted id).toNat +
      p.holding id false + p.holding id true
  commits : p.counter .committed id = .ofNat (p.messages id).length
  bytes : p.counter .bytes id = ((p.handsOf id).map (·.writer.bytes)).sum
  records : p.counter .records id = ((p.handsOf id).map (·.writer.records)).sum
  sends : ∀ h ∈ p.handsOf id, ∀ v ∈ h.attempt.visits, v.Sends

structure Kept (p : Fleet β σ υ) : Prop where
  tracked : ∀ h ∈ p.hands, h.attempt.Tracked h.writer.request
  finished : ∀ h ∈ p.hands, h.events.countP WriteEvent.finishes = h.messages.length
  due : ∀ id c, p.counter c id = (p.hands.map fun h => h.writer.dueTo id c h.events).sum

variable {p : Fleet β σ υ}

theorem kept_empty : ({} : Fleet β σ υ).Kept where
  tracked := by simp
  finished := by simp
  due _ _ := rfl

/-- One writer is replaced, and the counters move by what it accounts for. -/
theorem Kept.set (hp : p.Kept) {counters : Counters} {index : Nat} {h h' : Hand β σ υ}
    (hget : p.hands[index]? = some h) (htracked : h'.attempt.Tracked h'.writer.request)
    (hfinished : h'.events.countP WriteEvent.finishes = h'.messages.length)
    (hdue : ∀ id c, counters.value (c.key id) + h.writer.dueTo id c h.events =
      p.counter c id + h'.writer.dueTo id c h'.events) :
    Kept { counters, hands := p.hands.set index h' } := by
  obtain ⟨hlt, rfl⟩ := List.getElem?_eq_some_iff.mp hget
  obtain ⟨pre, post, hsplit, -, hset⟩ : ∃ pre post, p.hands = pre ++ p.hands[index] :: post ∧
      pre.length = index ∧ p.hands.set index h' = pre ++ h' :: post := List.exists_of_set hlt
  generalize p.hands[index] = h at hsplit hdue
  rw [hset]
  have hmem : ∀ d ∈ pre ++ h' :: post, d = h' ∨ d ∈ p.hands := by
    intro d hd
    rw [hsplit]
    simp only [List.mem_append, List.mem_cons] at hd ⊢
    rcases hd with hd | rfl | hd
    · exact .inr (.inl hd)
    · exact .inl rfl
    · exact .inr (.inr (.inr hd))
  refine ⟨fun d hd => ?_, fun d hd => ?_, fun id c => ?_⟩
  · rcases hmem d hd with rfl | hd
    · exact htracked
    · exact hp.tracked d hd
  · rcases hmem d hd with rfl | hd
    · exact hfinished
    · exact hp.finished d hd
  · have hbefore := hp.due id c
    have hstep := hdue id c
    rw [hbefore, hsplit] at hstep
    simp only [counter, List.map_append, List.map_cons, List.sum_append, List.sum_cons] at hstep ⊢
    refine add_right_cancel (hstep.trans ?_)
    ac_rfl

theorem Kept.call (hp : p.Kept) (svc : WriteService σ υ) {index : Nat} {a : Attempt β σ υ}
    (hget : p.hands[index]? = some ⟨a, false⟩) (call : WriterCall β) (found : Exchange σ)
    (hfound : found.counters = p.counters) :
    Kept { counters := (Visit.of svc call a.writer found).left.counters
           hands := p.hands.set index ⟨a.take svc (call, found), false⟩ } := by
  have hmem := List.mem_of_getElem? hget
  have hm := Visit.made svc call a.writer found
  have htracked := hp.tracked _ hmem
  have hevents : (a.take svc (call, found)).events =
      a.events ++ (Visit.of svc call a.writer found).events := by
    simp [Attempt.events, Attempt.take]
  refine hp.set hget ?_ ?_ fun id c => ?_
  · have hrequest : (a.take svc (call, found)).writer.request = a.writer.request := hm.request
    simp only [Hand.writer, hrequest]
    exact htracked.take svc (call, found)
  · have hbefore := hp.finished _ hmem
    simp only [Hand.events, Hand.messages, hevents, List.countP_append] at hbefore ⊢
    rw [hbefore, hm.countP_finishes]
    simp [Attempt.take]
  · have hvalue := Visit.value_left svc call a.writer found id c
    rw [hfound] at hvalue
    have hrequest : (Visit.of svc call a.writer found).after.request = a.writer.request :=
      hm.request
    have hsplit := BlockWriter.due_append_due c a.writer
      (Visit.of svc call a.writer found).after a.events (Visit.of svc call a.writer found).events
    simp only [Hand.writer, Hand.events, hevents, counter] at hvalue ⊢
    have hafter : (a.take svc (call, found)).writer = (Visit.of svc call a.writer found).after :=
      rfl
    rw [hafter]
    simp only [BlockWriter.dueTo, hrequest] at hvalue ⊢
    split
    · next hid =>
      simp only [if_pos hid] at hvalue
      grind
    · next hid =>
      simpa only [if_neg hid] using hvalue

theorem Kept.take (hp : p.Kept) (svc : WriteService σ υ) (m : FleetMove β σ) :
    (p.take svc m).Kept := by
  cases m with
  | create request =>
    have hmem : ∀ h ∈ p.hands ++ [⟨.start request, false⟩],
        h ∈ p.hands ∨ h = ⟨.start request, false⟩ := by
      intro h hh
      simpa using hh
    refine ⟨fun h hh => ?_, fun h hh => ?_, fun id c => ?_⟩
    · rcases hmem h hh with hh | rfl
      · exact hp.tracked h hh
      · exact Attempt.tracked_start request
    · rcases hmem h hh with hh | rfl
      · exact hp.finished h hh
      · rfl
    · let new : Hand β σ υ := ⟨.start request, false⟩
      have hnone : new.writer.dueTo id c new.events = 0 := by
        cases c <;> exact ite_self 0
      have hsum : ((p.hands ++ [new]).map fun h => h.writer.dueTo id c h.events).sum =
          (p.hands.map fun h => h.writer.dueTo id c h.events).sum := by
        rw [List.map_append, List.sum_append, List.map_singleton, List.sum_singleton, hnone,
          add_zero]
      exact (hp.due id c).trans hsum.symm
  | call index call found =>
    simp only [Fleet.take]
    split
    · next a hget => exact hp.call svc hget call { found with counters := p.counters } rfl
    · exact hp
  | drop index =>
    simp only [Fleet.take]
    split
    · next hand hget =>
      have hmem := List.mem_of_getElem? hget
      exact hp.set hget (hp.tracked hand hmem) (hp.finished hand hmem) fun id c => rfl
    · exact hp
  | other key n hkey =>
    refine ⟨hp.tracked, hp.finished, fun id c => ?_⟩
    refine Eq.trans ?_ (hp.due id c)
    exact Counters.value_add_of_ne (hkey c id) n p.counters

theorem Kept.run (hp : p.Kept) (svc : WriteService σ υ) (moves : List (FleetMove β σ)) :
    (p.run svc moves).Kept := by
  induction moves generalizing p with
  | nil => exact hp
  | cons m rest ih => exact ih (hp.take svc m)

theorem Kept.opened_eq (hp : p.Kept) (id : String) :
    p.opened id = ((p.handsOf id).map fun h => h.events.countP WriteEvent.opens).sum := by
  have htracked := hp.tracked
  simp only [opened, handsOf]
  generalize p.hands = hands at htracked
  induction hands with
  | nil => rfl
  | cons h rest ih =>
    obtain ⟨hfirst, hrest⟩ := List.forall_mem_cons.mp htracked
    obtain ⟨state, htrail, -⟩ := hfirst.trail
    have hopens := htrail.countP_opensFor id
    rw [List.flatMap_cons, List.countP_append, ih hrest]
    rw [show h.events.countP (WriteEvent.opensFor id) = _ from hopens]
    by_cases hid : h.writer.request.sessionId = id
    · simp [hid, Hand.events]
    · simp [hid]

theorem Kept.counter_eq (hp : p.Kept) (c : WriterCounter) (id : String) :
    p.counter c id = ((p.handsOf id).map fun h => h.writer.due c h.events).sum := by
  rw [hp.due id c]
  simp only [handsOf]
  induction p.hands with
  | nil => rfl
  | cons h rest ih =>
    by_cases hid : h.writer.request.sessionId = id
    · simp [BlockWriter.dueTo, hid, ← ih]
    · simp [BlockWriter.dueTo, hid, ← ih]

/-- Numbers add up as words. -/
theorem sum_ofNat {α : Type} (f : α → Nat) (l : List α) :
    (l.map fun a => UInt64.ofNat (f a)).sum = .ofNat (l.map f).sum := by
  induction l with
  | nil => rfl
  | cons a rest ih => simp [ih]

/-- What some writers opened they have committed, aborted, or still hold. -/
theorem Kept.sum_opens (hp : p.Kept) {hands : List (Hand β σ υ)} (hsub : ∀ h ∈ hands, h ∈ p.hands) :
    (hands.map fun h => h.events.countP WriteEvent.opens).sum =
      (hands.map fun h => h.events.countP WriteEvent.finishes).sum +
        (hands.map fun h => h.events.countP WriteEvent.loses).sum +
        hands.countP fun h => h.isOpen := by
  induction hands with
  | nil => rfl
  | cons h rest ih =>
    obtain ⟨hfirst, hrest⟩ := List.forall_mem_cons.mp hsub
    have hbalanced := (hp.tracked h hfirst).lawful.balanced
    rw [WriteEvent.countP_consumes] at hbalanced
    have hone : h.events.countP WriteEvent.opens = h.events.countP WriteEvent.finishes +
        h.events.countP WriteEvent.loses + if h.isOpen then 1 else 0 := hbalanced.symm
    simp only [List.map_cons, List.sum_cons, List.countP_cons, ih hrest, hone]
    omega

theorem holding_add (p : Fleet β σ υ) (id : String) :
    (p.handsOf id).countP (fun h => h.isOpen) = p.holding id false + p.holding id true := by
  simp only [holding]
  induction p.handsOf id with
  | nil => rfl
  | cons h rest ih =>
    simp only [List.countP_cons, ih]
    cases h.isOpen <;> cases h.dropped <;> simp <;> omega

theorem Kept.sum_finishes (hp : p.Kept) (id : String) :
    ((p.handsOf id).map fun h => h.events.countP WriteEvent.finishes).sum =
      (p.messages id).length := by
  rw [messages, List.length_flatMap]
  refine congrArg List.sum (List.map_congr_left fun h hh => ?_)
  exact hp.finished h (List.mem_of_mem_filter hh)

theorem Kept.balanced (hp : p.Kept) (id : String) : p.Balanced id := by
  have hcommitted : p.counter .committed id = .ofNat (p.messages id).length := by
    rw [hp.counter_eq, ← hp.sum_finishes]
    exact sum_ofNat _ _
  have haborted : p.counter .aborted id =
      .ofNat ((p.handsOf id).map fun h => h.events.countP WriteEvent.loses).sum := by
    rw [hp.counter_eq]
    exact sum_ofNat _ _
  have hopened : p.opened id = (p.messages id).length +
      ((p.handsOf id).map fun h => h.events.countP WriteEvent.loses).sum +
      (p.holding id false + p.holding id true) := by
    have hmem : ∀ h ∈ p.handsOf id, h ∈ p.hands := fun h hh => List.mem_of_mem_filter hh
    rw [hp.opened_eq, hp.sum_opens hmem, hp.sum_finishes, holding_add]
  have hsends : ∀ h ∈ p.handsOf id, ∀ v ∈ h.attempt.visits, v.Sends := by
    intro h hh v hv
    exact ((hp.tracked h (List.mem_of_mem_filter hh)).each v hv).sends
  refine ⟨?_, fun hsize => ?_, hcommitted, hp.counter_eq .bytes id, hp.counter_eq .records id,
    hsends⟩
  · rw [hopened, hcommitted, haborted]
    simp only [UInt64.ofNat_add, add_assoc]
  · rw [hcommitted, haborted, UInt64.toNat_ofNat_of_lt', UInt64.toNat_ofNat_of_lt']
    all_goals omega

end Fleet

/-- Whatever writers are created, called and dropped, on whatever service, and whatever fails: the
counters of every session add up. -/
theorem writer_counters_balance (svc : WriteService σ υ) (moves : List (FleetMove β σ))
    (id : String) : (({} : Fleet β σ υ).run svc moves).Balanced id :=
  (Fleet.kept_empty.run svc moves).balanced id

end TableExchange
