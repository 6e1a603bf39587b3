import TableExchange.Proofs.Service.Journal
import TableExchange.Proofs.Shutdown.Scene

/-!
How the waits of receivers end, whatever happens on their channel: a wait is cut short by the first
signal since the reference point of its receiver, and by no other one. What a receiver has not heard
yet is told by the history alone; receivers compare counts of signals instead.
-/
namespace TableExchange

namespace Scene

/-- What an event makes of the times of the signals that the receivers have not heard yet. -/
def hear : List (List Nat) → ShutdownEvent → List (List Nat)
  | u, .signalled time => u.map (· ++ [time])
  | u, .subscribed => u ++ [[]]
  | u, .cloned origin => u ++ [(u[origin]?).getD []]
  | u, .slept i _ _ true => u.set i []
  | u, .slept _ _ _ false => u

/-- For each receiver, the times of the signals since its reference point: its subscription, or the
reference point that its origin had when it was cloned, or its last wait that was cut short. -/
def unheard (history : List ShutdownEvent) : List (List Nat) :=
  history.foldl hear []

@[simp] theorem unheard_concat (history : List ShutdownEvent) (e : ShutdownEvent) :
    unheard (history ++ [e]) = hear (unheard history) e := by
  simp [unheard]

/-- A wait that has ended did so as it should: cut short by the first signal since the reference
point of its receiver, at once if that was sent before the wait began, or else at the time of the
signal; or, without a signal, when its span had passed. -/
def EndsDuly (before : List ShutdownEvent) : ShutdownEvent → Prop
  | .slept i w ended cut => ∃ times, (unheard before)[i]? = some times ∧
      ((∃ first later, times = first :: later ∧ cut = true ∧ ended = max w.began first ∧
          (first ≤ w.began ∨ first < w.began + w.span)) ∨
        (times = [] ∧ cut = false ∧ ended = w.began + w.span))
  | _ => True

/-- What a receiver knows of a channel at a time, next to the signals that it has not heard. -/
structure Keeps (now signals : Nat) (l : Listener) (times : List Nat) : Prop where
  seen : l.receiver.seen + times.length = signals
  past : ∀ t ∈ times, t ≤ now
  /-- A wait that is under way is not over, and a signal that it has not heard was sent just now. -/
  waiting : ∀ w, l.pause = some w → w.began ≤ now ∧ now < w.began + w.span ∧ ∀ t ∈ times, t = now

theorem Keeps.hasUnseen_iff {now : Nat} {c : Shutdown.Channel} {l : Listener} {times : List Nat}
    (h : Keeps now c.signals l times) : l.receiver.hasUnseen c = true ↔ times ≠ [] := by
  have hseen := h.seen
  rw [← List.length_pos_iff]
  simp only [Shutdown.Receiver.hasUnseen, decide_eq_true_eq]
  omega

/-- The history agrees with the receivers, and all waits so far have ended as they should. -/
structure Tracked (p : Scene) : Prop where
  count : (unheard p.history).length = p.listeners.length
  keeps : ∀ (i : Nat) (l : Listener) (times : List Nat), p.listeners[i]? = some l →
    (unheard p.history)[i]? = some times →
    Keeps p.now p.channel.signals l times
  duly : AtEach EndsDuly p.history
  senders : p.channel.hasSender = true ↔ 0 < p.senders

theorem tracked_start : Tracked start where
  count := rfl
  keeps i l times hl ht := by
    cases i with
    | zero =>
      obtain rfl := Option.some.inj hl
      obtain rfl := Option.some.inj ht
      exact ⟨rfl, by simp, by simp⟩
    | succ i => simp [start] at hl
  duly := atEach_concat.mpr ⟨atEach_nil _, trivial⟩
  senders := by decide

section Moves

variable {p p' : Scene} {i : Nat}

/-- Every receiver has its signals in the history. -/
theorem Tracked.times (h : p.Tracked) {l : Listener} (hl : p.listeners[i]? = some l) :
    ∃ times, (unheard p.history)[i]? = some times := by
  obtain ⟨hi, -⟩ := List.getElem?_eq_some_iff.mp hl
  exact ⟨_, List.getElem?_eq_getElem (h.count ▸ hi)⟩

theorem Tracked.signal (h : p.Tracked) : (p.make .signal).Tracked := by
  simp only [make]
  split
  · refine ⟨?_, ?_, atEach_concat.mpr ⟨h.duly, trivial⟩, h.senders⟩
    · simpa [hear] using h.count
    · intro j l times hl ht
      simp only [unheard_concat, hear, List.getElem?_map, Option.map_eq_some_iff] at ht
      obtain ⟨earlier, hearlier, rfl⟩ := ht
      have hkeeps := h.keeps j l earlier hl hearlier
      have hseen := hkeeps.seen
      refine ⟨?_, ?_, ?_⟩
      · simp only [List.length_append, List.length_singleton, Shutdown.Channel.signal]
        omega
      · exact List.forall_mem_append.mpr ⟨hkeeps.past, by simp⟩
      · intro w hw
        obtain ⟨hbegan, hrunning, hheard⟩ := hkeeps.waiting w hw
        exact ⟨hbegan, hrunning, List.forall_mem_append.mpr ⟨hheard, by simp⟩⟩
  · exact h

/-- A new receiver that does not wait joins the others. -/
theorem Tracked.join (h : p.Tracked) {r : Shutdown.Receiver} {e : ShutdownEvent} {times : List Nat}
    (hhear : hear (unheard p.history) e = unheard p.history ++ [times])
    (hduly : EndsDuly p.history e) (hseen : r.seen + times.length = p.channel.signals)
    (hpast : ∀ t ∈ times, t ≤ p.now) :
    Tracked { p with
      listeners := p.listeners ++ [{ receiver := r }], history := p.history ++ [e] } := by
  refine ⟨?_, ?_, atEach_concat.mpr ⟨h.duly, hduly⟩, h.senders⟩
  · simp [hhear, h.count]
  · intro j l earlier hl ht
    rw [unheard_concat, hhear] at ht
    rcases Nat.lt_or_ge j p.listeners.length with hold | hnew
    · rw [List.getElem?_append_left hold] at hl
      rw [List.getElem?_append_left (h.count ▸ hold)] at ht
      exact h.keeps j l earlier hl ht
    · rw [List.getElem?_append_right hnew] at hl
      rw [List.getElem?_append_right (h.count ▸ hnew), h.count] at ht
      obtain rfl : l = { receiver := r } := by simpa using List.mem_of_getElem? hl
      obtain rfl : earlier = times := by simpa using List.mem_of_getElem? ht
      exact ⟨hseen, hpast, by simp⟩

theorem Tracked.subscribe (h : p.Tracked) : (p.make .subscribe).Tracked := by
  simp only [make]
  split
  · exact h.join (e := .subscribed) rfl trivial rfl (by simp)
  · exact h

theorem Tracked.clone (h : p.Tracked) (i : Nat) : (p.make (.clone i)).Tracked := by
  simp only [make]
  split
  · next r hl =>
    obtain ⟨times, ht⟩ := h.times hl
    have hkeeps := h.keeps i _ times hl ht
    exact h.join (by simp [hear, ht]) trivial hkeeps.seen hkeeps.past
  · exact h

theorem Tracked.addSender (h : p.Tracked) : (p.make .addSender).Tracked := by
  simp only [make]
  split
  · next hsender => exact { h with senders := iff_of_true hsender (Nat.succ_pos _) }
  · exact h

theorem Tracked.dropSender (h : p.Tracked) : (p.make .dropSender).Tracked := by
  have hsenders := h.senders
  simp only [make]
  split
  · next hlast =>
    have hnone : ¬0 < p.senders - 1 := by omega
    exact { h with senders := iff_of_false Bool.false_ne_true hnone }
  · next hmore =>
    have hsome : 0 < p.senders ↔ 0 < p.senders - 1 := by omega
    exact { h with senders := hsenders.trans hsome }

/-- A wait ends, and its receiver goes on with what it has not heard then. -/
theorem Tracked.settled (h : p.Tracked) {r : Shutdown.Receiver} {w : Pause} {ended : Nat}
    {cut : Bool} (times : List Nat) (hduly : EndsDuly p.history (.slept i w ended cut))
    (hhear : hear (unheard p.history) (.slept i w ended cut) = (unheard p.history).set i times)
    (hseen : r.seen + times.length = p.channel.signals) (hpast : ∀ t ∈ times, t ≤ p.now) :
    (p.settle i r w ended cut).Tracked := by
  refine ⟨?_, ?_, atEach_concat.mpr ⟨h.duly, hduly⟩, h.senders⟩
  · simp [settle, hhear, h.count]
  · intro j l earlier hl ht
    simp only [settle, unheard_concat, hhear] at ht
    by_cases hij : i = j
    · subst hij
      obtain rfl := free_of_settled hl
      obtain rfl : times = earlier := by
        obtain ⟨hi, hset⟩ := List.getElem?_eq_some_iff.mp ht
        simpa using hset
      exact ⟨hseen, hpast, by simp⟩
    · simp only [settle] at hl
      rw [List.getElem?_set_ne hij] at hl ht
      exact h.keeps j l earlier hl ht

section Settle

variable {r : Shutdown.Receiver} {pause : Option Pause} {w : Pause} {times : List Nat}

/-- A wait is cut short by the first signal that its receiver has not heard. -/
theorem Tracked.cut (h : p.Tracked) (hl : p.listeners[i]? = some ⟨r, pause⟩)
    (ht : (unheard p.history)[i]? = some times) (hunseen : r.hasUnseen p.channel = true)
    (hdue : ∀ t ∈ times, p.now = max w.began t ∧ (t ≤ w.began ∨ t < w.began + w.span)) :
    (p.settle i (r.catchUp p.channel) w p.now true).Tracked := by
  refine h.settled [] ?_ rfl rfl (by simp)
  cases times with
  | nil => exact absurd rfl ((h.keeps i _ _ hl ht).hasUnseen_iff.mp hunseen)
  | cons first later =>
    obtain ⟨hnow, hfirst⟩ := hdue first List.mem_cons_self
    exact ⟨_, ht, .inl ⟨first, later, rfl, rfl, hnow, hfirst⟩⟩

/-- Without a signal that its receiver has not heard, a wait ends when its span has passed. -/
theorem Tracked.ended (h : p.Tracked) (hl : p.listeners[i]? = some ⟨r, pause⟩)
    (ht : (unheard p.history)[i]? = some times) (hunseen : r.hasUnseen p.channel = false) :
    (p.settle i r w (w.began + w.span) false).Tracked := by
  have hkeeps := h.keeps i _ times hl ht
  have hempty : times = [] := by
    have hiff := hkeeps.hasUnseen_iff
    simpa [hunseen] using hiff
  refine h.settled times ?_ ?_ hkeeps.seen hkeeps.past
  · exact ⟨times, ht, .inr ⟨hempty, rfl, rfl⟩⟩
  · obtain ⟨hi, rfl⟩ := List.getElem?_eq_some_iff.mp ht
    simp [hear]

end Settle

theorem Tracked.of_resumed (h : p.Tracked) (hp : Polled 0 p i p') : p'.Tracked := by
  cases hp with
  | idle hidle => exact h
  | cut hl hunseen =>
    obtain ⟨times, ht⟩ := h.times hl
    obtain ⟨hbegan, hrunning, hheard⟩ := (h.keeps i _ times hl ht).waiting _ rfl
    refine h.cut hl ht hunseen fun t htimes => ?_
    obtain rfl := hheard t htimes
    exact ⟨(Nat.max_eq_right hbegan).symm, .inr hrunning⟩
  | ended hl hunseen hend =>
    obtain ⟨times, ht⟩ := h.times hl
    obtain ⟨-, hrunning, -⟩ := (h.keeps i _ times hl ht).waiting _ rfl
    omega
  | waiting hl hunseen hend => exact h

/-- Whatever was sent before a wait begins cuts it short at once. -/
theorem Tracked.of_begun {span : Nat} (h : p.Tracked) (hb : Begun span p i p') : p'.Tracked := by
  cases hb with
  | busy hbusy => exact h
  | cut hl hunseen =>
    obtain ⟨times, ht⟩ := h.times hl
    have hpast := (h.keeps i _ times hl ht).past
    refine h.cut hl ht hunseen fun t htimes => ?_
    exact ⟨(Nat.max_eq_left (hpast t htimes)).symm, .inl (hpast t htimes)⟩
  | ended hl hunseen hspan =>
    obtain ⟨times, ht⟩ := h.times hl
    exact h.ended (w := ⟨p.now, span⟩) hl ht hunseen
  | @waiting r hl hunseen hspan =>
    refine { h with count := by simpa using h.count, keeps := ?_ }
    intro j l times hl' ht
    by_cases hij : i = j
    · subst hij
      obtain ⟨hi, -⟩ := List.getElem?_eq_some_iff.mp hl
      rw [List.getElem?_set_self hi] at hl'
      obtain rfl := Option.some.inj hl'
      have hkeeps := h.keeps i _ times hl ht
      have hempty : times = [] := by simpa [hunseen] using hkeeps.hasUnseen_iff
      refine ⟨hkeeps.seen, hkeeps.past, ?_⟩
      rintro w hw
      obtain rfl := Option.some.inj hw
      exact ⟨Nat.le_refl _, Nat.lt_add_of_pos_right hspan, by simp [hempty]⟩
    · rw [List.getElem?_set_ne hij] at hl'
      exact h.keeps j l times hl' ht

end Moves

/-- What polls leave alone; they only end waits. -/
structure Frame (p p' : Scene) : Prop where
  now : p'.now = p.now
  channel : p'.channel = p.channel
  count : p'.listeners.length = p.listeners.length
  waits : ∀ (i : Nat) (r : Shutdown.Receiver) (w : Pause), p'.listeners[i]? = some ⟨r, some w⟩ →
    p.listeners[i]? = some ⟨r, some w⟩

theorem Frame.refl (p : Scene) : Frame p p :=
  ⟨rfl, rfl, rfl, fun _ _ _ h => h⟩

theorem Frame.trans {p p' p'' : Scene} (h : Frame p p') (h' : Frame p' p'') : Frame p p'' where
  now := h'.now.trans h.now
  channel := h'.channel.trans h.channel
  count := h'.count.trans h.count
  waits i r w hl := h.waits i r w (h'.waits i r w hl)

theorem frame_settle (p : Scene) (i : Nat) (r : Shutdown.Receiver) (w : Pause) (ended : Nat)
    (cut : Bool) : Frame p (p.settle i r w ended cut) where
  now := rfl
  channel := rfl
  count := by simp [settle]
  waits j s v hl := by
    by_cases hij : i = j
    · subst hij
      simpa using free_of_settled hl
    · simp only [settle] at hl
      rwa [List.getElem?_set_ne hij] at hl

theorem Polled.frame {part i : Nat} {p p' : Scene} (h : Polled part p i p') : Frame p p' := by
  cases h with
  | idle _ => exact .refl p
  | cut _ _ => exact frame_settle ..
  | ended _ _ _ => exact frame_settle ..
  | waiting _ _ _ => exact .refl p

/-- A wait that outlasts a poll has no signal to notice, and its span is not over. -/
theorem Polled.outlasting {part i : Nat} {p p' : Scene} (h : Polled part p i p')
    {r : Shutdown.Receiver} {w : Pause} (hl : p'.listeners[i]? = some ⟨r, some w⟩) :
    r.hasUnseen p.channel = false ∧ p.now + part < w.began + w.span := by
  cases h with
  | idle hidle => exact absurd (hidle _ hl) (by simp)
  | cut _ _ | ended _ _ _ => simpa using free_of_settled hl
  | waiting hl' hunseen hend =>
    obtain ⟨rfl, rfl⟩ : _ = r ∧ _ = w := by simpa [hl'] using hl
    exact ⟨hunseen, hend⟩

theorem pollFirst_outlasting (part : Nat) (p : Scene) (n : Nat) :
    Frame p (p.pollFirst part n) ∧ ∀ (i : Nat) (r : Shutdown.Receiver) (w : Pause), i < n →
      (p.pollFirst part n).listeners[i]? = some ⟨r, some w⟩ →
      r.hasUnseen p.channel = false ∧ p.now + part < w.began + w.span := by
  induction n with
  | zero => exact ⟨.refl p, by simp⟩
  | succ n ih =>
    obtain ⟨hframe, houtlast⟩ := ih
    have hpoll := polled part (p.pollFirst part n) n
    refine ⟨hframe.trans hpoll.frame, fun i r w hi hl => ?_⟩
    rcases Nat.lt_succ_iff_lt_or_eq.mp hi with hearlier | rfl
    · exact houtlast i r w hearlier (hpoll.frame.waits i r w hl)
    · have hlast := hpoll.outlasting hl
      rwa [hframe.channel, hframe.now] at hlast

theorem Tracked.resumeFirst {p : Scene} (h : p.Tracked) (n : Nat) : (p.pollFirst 0 n).Tracked := by
  induction n with
  | zero => exact h
  | succ n ih => exact ih.of_resumed (polled 0 _ n)

/-- With no signals to notice, the waits whose span is over by the next time end then. -/
theorem Tracked.passFirst {p : Scene} (h : p.Tracked)
    (hquiet : ∀ (i : Nat) (r : Shutdown.Receiver) (w : Pause),
      p.listeners[i]? = some ⟨r, some w⟩ → r.hasUnseen p.channel = false) (n : Nat) :
    (p.pollFirst 1 n).Tracked := by
  induction n with
  | zero => exact h
  | succ n ih =>
    obtain ⟨hframe, -⟩ := pollFirst_outlasting 1 p n
    have hpoll := polled 1 (p.pollFirst 1 n) n
    simp only [pollFirst]
    generalize (p.pollFirst 1 n).poll 1 n = p' at hpoll
    cases hpoll with
    | idle _ => exact ih
    | cut hl hunseen =>
      have hnone := hquiet n _ _ (hframe.waits n _ _ hl)
      rw [hframe.channel, hnone] at hunseen
      simp at hunseen
    | @ended r w hl hunseen hend =>
      obtain ⟨times, ht⟩ := ih.times hl
      obtain ⟨-, hrunning, -⟩ := (ih.keeps n _ times hl ht).waiting w rfl
      have hnow : (p.pollFirst 1 n).now + 1 = w.began + w.span := by omega
      rw [hnow]
      exact ih.ended hl ht hunseen
    | waiting _ _ _ => exact ih

theorem Tracked.elapse {p : Scene} (h : p.Tracked) : p.elapse.Tracked := by
  obtain ⟨hframe, hheard⟩ := pollFirst_outlasting 0 p p.listeners.length
  have hbound : ∀ (i : Nat) (l : Listener), (p.pollFirst 0 p.listeners.length).listeners[i]? =
      some l → i < p.listeners.length := by
    intro i l hl
    obtain ⟨hi, -⟩ := List.getElem?_eq_some_iff.mp hl
    exact hframe.count ▸ hi
  have hresumed := h.resumeFirst p.listeners.length
  have hquiet : ∀ (i : Nat) (r : Shutdown.Receiver) (w : Pause),
      (p.pollFirst 0 p.listeners.length).listeners[i]? = some ⟨r, some w⟩ →
      r.hasUnseen (p.pollFirst 0 p.listeners.length).channel = false := by
    intro i r w hl
    rw [hframe.channel]
    exact (hheard i r w (hbound i _ hl) hl).1
  have hpassed := hresumed.passFirst hquiet p.listeners.length
  obtain ⟨hframe', hrunning⟩ :=
    pollFirst_outlasting 1 (p.pollFirst 0 p.listeners.length) p.listeners.length
  unfold Scene.elapse
  refine { hpassed with keeps := ?_ }
  intro i l times hl ht
  have hkeeps := hpassed.keeps i l times hl ht
  refine ⟨hkeeps.seen, fun t htimes => Nat.le_succ_of_le (hkeeps.past t htimes), ?_⟩
  rintro w hw
  obtain ⟨r, pause⟩ := l
  obtain rfl : pause = some w := hw
  have hi := hbound i _ (hframe'.waits i r w hl)
  obtain ⟨hunseen, hlast⟩ := hrunning i r w hi hl
  obtain ⟨hbegan, -, -⟩ := hkeeps.waiting w rfl
  have hempty : times = [] := by
    have hiff := hkeeps.hasUnseen_iff
    rw [hframe'.channel, hunseen] at hiff
    simpa using hiff
  rw [← hframe'.now] at hlast
  exact ⟨Nat.le_succ_of_le hbegan, hlast, by simp [hempty]⟩

theorem Tracked.make {p : Scene} (h : p.Tracked) (m : SceneMove) : (p.make m).Tracked := by
  cases m with
  | signal => exact h.signal
  | subscribe => exact h.subscribe
  | addSender => exact h.addSender
  | dropSender => exact h.dropSender
  | clone i => exact h.clone i
  | sleep i span => exact h.of_begun (begun span p i)
  | resume i => exact h.of_resumed (polled 0 p i)
  | elapse => exact h.elapse

theorem tracked_run (moves : List SceneMove) : (start.run moves).Tracked := by
  suffices hall : ∀ p : Scene, p.Tracked → (p.run moves).Tracked from hall start tracked_start
  induction moves with
  | nil => exact fun p h => h
  | cons m rest ih => exact fun p h => ih (p.make m) (h.make m)

/-- Without a new signal, a receiver that has heard all still has. -/
theorem unheard_append_of_quiet {i : Nat} {history middle : List ShutdownEvent}
    (h : (unheard history)[i]? = some []) (hquiet : ∀ time, .signalled time ∉ middle) :
    (unheard (history ++ middle))[i]? = some [] := by
  induction middle generalizing history with
  | nil => simpa using h
  | cons e rest ih =>
    have hone : (unheard (history ++ [e]))[i]? = some [] := by
      obtain ⟨hi, -⟩ := List.getElem?_eq_some_iff.mp h
      cases e with
      | signalled time => exact absurd List.mem_cons_self (hquiet time)
      | subscribed => rwa [unheard_concat, hear, List.getElem?_append_left hi]
      | cloned origin => rwa [unheard_concat, hear, List.getElem?_append_left hi]
      | slept j w ended cut =>
        cases cut with
        | false => rwa [unheard_concat]
        | true =>
          rw [unheard_concat, hear]
          by_cases hij : j = i
          · rw [hij, List.getElem?_set_self hi]
          · rwa [List.getElem?_set_ne hij]
    have hrest := ih hone fun time hmem => hquiet time (List.mem_cons_of_mem _ hmem)
    rwa [List.append_assoc] at hrest

/-- Two waits of one receiver that were cut short have a signal between them. -/
theorem Tracked.once {p : Scene} (h : p.Tracked) {first middle last : List ShutdownEvent} {i : Nat}
    {w w' : Pause} {t t' : Nat}
    (hsplit : p.history = first ++ .slept i w t true :: (middle ++ .slept i w' t' true :: last)) :
    ∃ time, .signalled time ∈ middle := by
  refine Classical.byContradiction fun hnone => ?_
  have hquiet : ∀ time, .signalled time ∉ middle := fun time hmem => hnone ⟨time, hmem⟩
  obtain ⟨times, ht, -⟩ := h.duly first _ _ hsplit
  have hheard : (unheard (first ++ [.slept i w t true]))[i]? = some [] := by
    obtain ⟨hi, -⟩ := List.getElem?_eq_some_iff.mp ht
    rw [unheard_concat, hear, List.getElem?_set_self hi]
  have hsame := unheard_append_of_quiet hheard hquiet
  have hsplit' : p.history = (first ++ [.slept i w t true] ++ middle) ++
      .slept i w' t' true :: last := by simp [hsplit]
  obtain ⟨times', ht', hduly⟩ := h.duly _ _ _ hsplit'
  rw [hsame] at ht'
  obtain rfl := Option.some.inj ht'
  simp at hduly

/-- What does not touch a receiver: it stays as it is, and so does what it has not heard. -/
def Apart (j : Nat) (p p' : Scene) : Prop :=
  p'.listeners[j]? = p.listeners[j]? ∧ (unheard p'.history)[j]? = (unheard p.history)[j]?

theorem apart_settle (p : Scene) {i j : Nat} (hij : i ≠ j) (r : Shutdown.Receiver) (w : Pause)
    (ended : Nat) (cut : Bool) : Apart j p (p.settle i r w ended cut) := by
  refine ⟨by simp [settle, List.getElem?_set_ne hij], ?_⟩
  cases cut with
  | false => simp [settle, hear]
  | true => simp [settle, hear, List.getElem?_set_ne hij]

theorem Polled.apart {part i j : Nat} {p p' : Scene} (h : Polled part p i p') (hij : i ≠ j) :
    Apart j p p' := by
  cases h with
  | idle _ => exact ⟨rfl, rfl⟩
  | cut _ _ => exact apart_settle p hij ..
  | ended _ _ _ => exact apart_settle p hij ..
  | waiting _ _ _ => exact ⟨rfl, rfl⟩

theorem Begun.apart {span i j : Nat} {p p' : Scene} (h : Begun span p i p') (hij : i ≠ j) :
    Apart j p p' := by
  cases h with
  | busy _ => exact ⟨rfl, rfl⟩
  | cut _ _ => exact apart_settle p hij ..
  | ended _ _ _ => exact apart_settle p hij ..
  | waiting _ _ _ => exact ⟨List.getElem?_set_ne hij, rfl⟩

/-- How a wait begins on a receiver that does not wait yet: a signal to notice ends it at once, and
so does the lack of a span. -/
theorem Begun.of_idle {span i : Nat} {p p' : Scene} {r : Shutdown.Receiver}
    (h : Begun span p i p') (hl : p.listeners[i]? = some ⟨r, none⟩) :
    (r.hasUnseen p.channel = true → p'.history = p.history ++ [.slept i ⟨p.now, span⟩ p.now true]) ∧
    (r.hasUnseen p.channel = false → span = 0 →
      p'.history = p.history ++ [.slept i ⟨p.now, span⟩ p.now false]) ∧
    (r.hasUnseen p.channel = false → 0 < span → p'.history = p.history ∧
      p'.listeners[i]? = some ⟨r, some ⟨p.now, span⟩⟩) := by
  cases h with
  | busy hbusy => exact absurd rfl (hbusy _ hl)
  | cut hl' hunseen =>
    obtain rfl : r = _ := by simpa [hl] using hl'
    simp [hunseen, settle]
  | ended hl' hunseen hspan =>
    obtain rfl : r = _ := by simpa [hl] using hl'
    simp [hunseen, settle, hspan]
  | waiting hl' hunseen hspan =>
    obtain rfl : r = _ := by simpa [hl] using hl'
    obtain ⟨hi, -⟩ := List.getElem?_eq_some_iff.mp hl
    simp [hunseen, hspan, Nat.ne_of_gt hspan, List.getElem?_set_self hi]

theorem Polled.of_unseen {i : Nat} {p p' : Scene} {r : Shutdown.Receiver} {w : Pause}
    (h : Polled 0 p i p') (hl : p.listeners[i]? = some ⟨r, some w⟩)
    (hunseen : r.hasUnseen p.channel = true) :
    p'.history = p.history ++ [.slept i w p.now true] := by
  cases h with
  | idle hidle => exact absurd (hidle _ hl) (by simp)
  | cut hl' _ =>
    obtain ⟨rfl, rfl⟩ : r = _ ∧ w = _ := by simpa [hl] using hl'
    rfl
  | ended hl' hnone _ | waiting hl' hnone _ =>
    obtain ⟨rfl, rfl⟩ : r = _ ∧ w = _ := by simpa [hl] using hl'
    simp [hunseen] at hnone

structure Lawful (p : Scene) : Prop where
  /-- Every receiver has a reference point. -/
  known : (unheard p.history).length = p.listeners.length
  /-- Every wait that ended did so duly. -/
  ended : AtEach EndsDuly p.history
  /-- No signal is lost: a receiver has one to notice exactly if it was sent since the reference
  point. -/
  noticed : ∀ (i : Nat) (l : Listener) (times : List Nat), p.listeners[i]? = some l →
    (unheard p.history)[i]? = some times → (l.receiver.hasUnseen p.channel = true ↔ times ≠ [])
  /-- No wait is overdue: its span is not over, and a signal that has not cut it short yet was sent
  just now. -/
  waiting : ∀ (i : Nat) (r : Shutdown.Receiver) (w : Pause) (times : List Nat),
    p.listeners[i]? = some ⟨r, some w⟩ → (unheard p.history)[i]? = some times →
    w.began ≤ p.now ∧ p.now < w.began + w.span ∧ ∀ t ∈ times, t = p.now
  /-- A wait that begins with a signal to notice ends at once, one without a span too, and any other
  one is under way. -/
  begins : ∀ (i span : Nat) (r : Shutdown.Receiver) (times : List Nat),
    p.listeners[i]? = some ⟨r, none⟩ → (unheard p.history)[i]? = some times →
    (times ≠ [] → (p.make (.sleep i span)).history =
      p.history ++ [.slept i ⟨p.now, span⟩ p.now true]) ∧
    (times = [] → span = 0 → (p.make (.sleep i span)).history =
      p.history ++ [.slept i ⟨p.now, span⟩ p.now false]) ∧
    (times = [] → 0 < span → (p.make (.sleep i span)).history = p.history ∧
      (p.make (.sleep i span)).listeners[i]? = some ⟨r, some ⟨p.now, span⟩⟩)
  /-- A wait that is let go on with a signal to notice ends. -/
  resumes : ∀ (i : Nat) (r : Shutdown.Receiver) (w : Pause) (times : List Nat),
    p.listeners[i]? = some ⟨r, some w⟩ → (unheard p.history)[i]? = some times → times ≠ [] →
    (p.make (.resume i)).history = p.history ++ [.slept i w p.now true]
  /-- A signal cuts at most one wait of a receiver short, and several signals one wait. -/
  once : ∀ first middle last i w t w' t',
    p.history = first ++ .slept i w t true :: (middle ++ .slept i w' t' true :: last) →
    ∃ time, .signalled time ∈ middle
  /-- What one receiver does leaves the others alone. -/
  apart : ∀ i j span, i ≠ j → Apart j p (p.make (.sleep i span)) ∧ Apart j p (p.make (.resume i))

theorem Tracked.lawful {p : Scene} (h : p.Tracked) : p.Lawful where
  known := h.count
  ended := h.duly
  noticed i l times hl ht := (h.keeps i l times hl ht).hasUnseen_iff
  waiting i r w times hl ht := (h.keeps i _ times hl ht).waiting w rfl
  begins i span r times hl ht := by
    have hnoticed := (h.keeps i _ times hl ht).hasUnseen_iff
    obtain ⟨hcut, hended, hwaiting⟩ := (begun span p i).of_idle hl
    have hquiet : times = [] → r.hasUnseen p.channel = false := by
      rintro rfl
      simpa using hnoticed
    exact ⟨fun htimes => hcut (hnoticed.mpr htimes), fun htimes => hended (hquiet htimes),
      fun htimes => hwaiting (hquiet htimes)⟩
  resumes i r w times hl ht htimes :=
    (polled 0 p i).of_unseen hl ((h.keeps i _ times hl ht).hasUnseen_iff.mpr htimes)
  once _ _ _ _ _ _ _ _ hsplit := h.once hsplit
  apart i j span hij := ⟨(begun span p i).apart hij, (polled 0 p i).apart hij⟩

end Scene

/-- Whatever happens on a channel, in any order and on any number of receivers, every wait ends duly
and no other receiver's waits are touched. -/
theorem scene_lawful (moves : List SceneMove) : (Scene.start.run moves).Lawful :=
  (Scene.tracked_run moves).lawful

/-- A clone has not heard what its origin had not heard, and two signals cut one wait short. -/
example : (Scene.start.run [.signal, .clone 0, .signal, .sleep 0 5, .sleep 0 2, .elapse, .elapse,
    .sleep 1 5]).history =
      [.subscribed, .signalled 0, .cloned 0, .signalled 0, .slept 0 ⟨0, 5⟩ 0 true,
        .slept 0 ⟨0, 2⟩ 2 false, .slept 1 ⟨2, 5⟩ 2 true] := by decide

namespace Scene

def CutsAtOnce (p : Scene) (i span : Nat) : Prop :=
  (p.make (.sleep i span)).history = p.history ++ [.slept i ⟨p.now, span⟩ p.now true]

theorem Tracked.cutsAtOnce_iff {p : Scene} (h : p.Tracked) {i span : Nat} {r : Shutdown.Receiver}
    (hl : p.listeners[i]? = some ⟨r, none⟩) (hspan : 0 < span) :
    p.CutsAtOnce i span ↔ r.hasUnseen p.channel = true := by
  obtain ⟨times, ht⟩ := h.times hl
  obtain ⟨hcut, -, hwaiting⟩ := (begun span p i).of_idle hl
  constructor
  · intro hcuts
    cases hunseen : r.hasUnseen p.channel with
    | true => rfl
    | false =>
      have hsame : p.history ++ [.slept i ⟨p.now, span⟩ p.now true] = p.history :=
        hcuts.symm.trans (hwaiting hunseen hspan).1
      simp at hsame
  · exact hcut

structure Reports (p : Scene) : Prop where
  /-- A receiver reports a shutdown if a wait would be cut short at once and a sender is left. -/
  isShutdown_iff : ∀ (i span : Nat) (r : Shutdown.Receiver), p.listeners[i]? = some ⟨r, none⟩ →
    0 < span → (r.isShutdown p.channel = true ↔ 0 < p.senders ∧ p.CutsAtOnce i span)
  /-- The last sender takes no signal along: waits are cut short as before. -/
  cutsAtOnce_iff : ∀ (i span : Nat) (r : Shutdown.Receiver) (times : List Nat),
    p.listeners[i]? = some ⟨r, none⟩ → (unheard p.history)[i]? = some times → 0 < span →
    (p.CutsAtOnce i span ↔ times ≠ [])

end Scene

/-- Reports of a shutdown agree with waits as long as there is a sender, and only so long. -/
theorem scene_reports (moves : List SceneMove) : (Scene.start.run moves).Reports where
  isShutdown_iff i span r hl hspan := by
    have htracked := Scene.tracked_run moves
    rw [htracked.cutsAtOnce_iff hl hspan, ← htracked.senders]
    simp [Shutdown.Receiver.isShutdown]
  cutsAtOnce_iff i span r times hl ht hspan := by
    have htracked := Scene.tracked_run moves
    exact (htracked.cutsAtOnce_iff hl hspan).trans (htracked.keeps i _ times hl ht).hasUnseen_iff

/-- Once the only sender is gone after its signal, no shutdown is reported, but waits are still cut
short. -/
theorem orphan_reports_none :
    (Scene.start.run [.signal, .dropSender]).listeners[0]? = some ⟨⟨0⟩, none⟩ ∧
      Shutdown.Receiver.isShutdown ⟨0⟩ (Scene.start.run [.signal, .dropSender]).channel = false ∧
      (Scene.start.run [.signal, .dropSender]).CutsAtOnce 0 1 :=
  ⟨rfl, rfl, rfl⟩

end TableExchange
