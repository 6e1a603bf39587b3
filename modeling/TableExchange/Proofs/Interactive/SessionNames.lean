import Mathlib.Data.List.TakeWhile
import TableExchange.Proofs.Interactive.Creation

/-!
The settings that the options of a session amount to, and the name that the session is shown under.
A setting is what the options give for its hint, or else what the caller has set; the caller's other
settings stay. A name that is not blank is set and shown alike, without the blanks around it. A name
of blanks is shown like no name at all, but it is set all the same, as an empty text in place of
the caller's setting.
-/
namespace TableExchange

variable {σ : Type}

/-- Nothing is left of a text exactly if it is blank. -/
theorem Text.trim_eq_empty_iff (s : String) : trim s = "" ↔ isBlank s = true := by
  have hchars : trim s = "" ↔ trimChars s.toList = [] := by
    rw [trim, ← String.toList_inj, String.toList_ofList]
    rfl
  rw [hchars, trimChars, List.reverse_eq_nil_iff, List.dropWhile_eq_nil_iff, isBlank,
    List.all_eq_true]
  constructor
  · intro h c hc
    rw [← List.takeWhile_append_dropWhile (p := isBlankChar) (l := s.toList)] at hc
    rcases List.mem_append.mp hc with hc | hc
    · exact List.mem_takeWhile_imp hc
    · exact h c (List.mem_reverse.mpr hc)
  · intro h c hc
    exact h c ((List.dropWhile_sublist _).subset (List.mem_reverse.mp hc))

namespace InteractiveOptions

def nonEmpty (text : Option String) : Option String :=
  text.filter fun t => !t.isEmpty

@[simp] theorem nonEmpty_some {t : String} (h : t ≠ "") : nonEmpty (some t) = some t := by
  simp [nonEmpty, h]

def hintValues (o : InteractiveOptions) : List (String × Option String) :=
  [(workerSpareSpanHint, nonEmpty o.workerSpareSpan),
    (sessionNameHint, (nonEmpty o.sessionName).map Text.trim),
    (workerCountHint, o.workerCount.map fun n => toString n.toNat),
    (workerMemoryHint, o.workerMemoryMb.map fun n => toString n.toNat),
    (shareIdHint, o.shareId),
    (submitModeHint, some "script")]

theorem get?_overlay (key : String) (value : Option String) (s : Settings) (k : String) :
    (overlay key value s).get? k = if k = key then value.or (s.get? k) else s.get? k := by
  cases value with
  | none => simp
  | some v => rw [overlay_some, SortedMap.get?_insert, Option.some_or]

theorem lookup_eq_none_of_keys {values : List (String × Option String)} {k : String}
    (h : k ∉ values.map (·.1)) : values.lookup k = none := by
  rw [List.lookup_eq_none_iff]
  intro e he
  have hne : k ≠ e.1 := by
    rintro rfl
    exact h (List.mem_map_of_mem he)
  simpa using hne

/-- Overlays of different keys do not get in each other's way. -/
theorem get?_overlays {values : List (String × Option String)} (h : (values.map (·.1)).Nodup)
    (s : Settings) (k : String) :
    (values.foldl (fun s e => overlay e.1 e.2 s) s).get? k =
      (values.lookup k).join.or (s.get? k) := by
  induction values generalizing s with
  | nil => rfl
  | cons e rest ih =>
    obtain ⟨key, value⟩ := e
    obtain ⟨hkey, hrest⟩ := List.nodup_cons.mp h
    rw [List.foldl_cons, ih hrest, get?_overlay]
    by_cases hk : k = key
    · subst hk
      rw [if_pos rfl, lookup_eq_none_of_keys hkey, List.lookup_cons_self]
      rfl
    · rw [if_neg hk, List.lookup_cons, beq_eq_false_iff_ne.mpr hk]

theorem keys_hintValues (o : InteractiveOptions) : o.hintValues.map (·.1) =
    [workerSpareSpanHint, sessionNameHint, workerCountHint, workerMemoryHint, shareIdHint,
      submitModeHint] := rfl

/-- A setting is the hint's value if the options give one, or else the caller's. -/
theorem get?_taskSettings (o : InteractiveOptions) (key : String) :
    o.taskSettings.get? key = (o.hintValues.lookup key).join.or (o.settings.get? key) := by
  have hnodup : (o.hintValues.map (·.1)).Nodup := by
    rw [keys_hintValues]
    decide
  exact get?_overlays hnodup o.settings key

/-- What the settings of a task hold apart from the session's name. -/
structure Overlaid (o : InteractiveOptions) : Prop where
  others : ∀ key ∉ hints, o.taskSettings.get? key = o.settings.get? key
  spareSpan : o.taskSettings.get? workerSpareSpanHint =
    (nonEmpty o.workerSpareSpan).or (o.settings.get? workerSpareSpanHint)
  workerCount : o.taskSettings.get? workerCountHint =
    (o.workerCount.map fun n => toString n.toNat).or (o.settings.get? workerCountHint)
  workerMemory : o.taskSettings.get? workerMemoryHint =
    (o.workerMemoryMb.map fun n => toString n.toNat).or (o.settings.get? workerMemoryHint)
  shareId : o.taskSettings.get? shareIdHint = o.shareId.or (o.settings.get? shareIdHint)
  submitMode : o.taskSettings.get? submitModeHint = some "script"

theorem overlaid (o : InteractiveOptions) : o.Overlaid where
  others key hkey := by
    have hkeys : o.hintValues.map (·.1) ⊆ hints := by
      rw [keys_hintValues]
      decide
    rw [get?_taskSettings, lookup_eq_none_of_keys fun hmem => hkey (hkeys hmem)]
    rfl
  spareSpan := get?_taskSettings o workerSpareSpanHint
  workerCount := get?_taskSettings o workerCountHint
  workerMemory := get?_taskSettings o workerMemoryHint
  shareId := get?_taskSettings o shareIdHint
  submitMode := get?_taskSettings o submitModeHint

/-- The setting of a session's name, and the name that it is shown under. -/
theorem get?_sessionName (o : InteractiveOptions) : o.taskSettings.get? sessionNameHint =
    ((nonEmpty o.sessionName).map Text.trim).or (o.settings.get? sessionNameHint) :=
  get?_taskSettings o sessionNameHint

/-- A session is created under the name that it is shown under. -/
structure NamedAlike (o : InteractiveOptions) : Prop where
  named : ∀ name ∈ o.sessionName, Text.trim name ≠ "" →
    o.taskSettings.get? sessionNameHint = some (Text.trim name) ∧
      o.displayName = some (Text.trim name)
  unnamed : (∀ name ∈ o.sessionName, Text.trim name = "") →
    o.taskSettings.get? sessionNameHint = o.settings.get? sessionNameHint ∧
      o.displayName = o.shareId

theorem of_named (o : InteractiveOptions) {name : String} (hname : o.sessionName = some name)
    (htrim : Text.trim name ≠ "") :
    o.taskSettings.get? sessionNameHint = some (Text.trim name) ∧
      o.displayName = some (Text.trim name) := by
  have hne : name ≠ "" := by
    rintro rfl
    exact htrim rfl
  constructor
  · rw [get?_sessionName, hname, nonEmpty_some hne]
    rfl
  · rw [displayName, hname, Option.map_some, ← nonEmpty, nonEmpty_some htrim]
    rfl

theorem displayName_of_unnamed (o : InteractiveOptions)
    (h : ∀ name ∈ o.sessionName, Text.trim name = "") : o.displayName = o.shareId := by
  cases hname : o.sessionName with
  | none => rw [displayName, hname]; rfl
  | some name => rw [displayName, hname, Option.map_some, h name hname]; rfl

/-- A name of blanks is set as an empty text. -/
theorem get?_of_blank (o : InteractiveOptions) {name : String} (hname : o.sessionName = some name)
    (hne : name ≠ "") (hblank : Text.isBlank name = true) :
    o.taskSettings.get? sessionNameHint = some "" := by
  rw [get?_sessionName, hname, nonEmpty_some hne, Option.map_some,
    (Text.trim_eq_empty_iff name).mpr hblank]
  rfl

def BlankName (o : InteractiveOptions) : Prop :=
  ∃ name, o.sessionName = some name ∧ name ≠ "" ∧ Text.isBlank name = true

theorem get?_of_empty (o : InteractiveOptions) (h : ∀ name ∈ o.sessionName, name = "") :
    o.taskSettings.get? sessionNameHint = o.settings.get? sessionNameHint := by
  rw [get?_sessionName]
  cases hname : o.sessionName with
  | none => rfl
  | some name => rw [h name hname]; rfl

theorem namedAlike_iff (o : InteractiveOptions) :
    o.NamedAlike ↔ (o.BlankName → o.settings.get? sessionNameHint = some "") := by
  constructor
  · rintro h ⟨name, hname, hne, hblank⟩
    have htrim := (Text.trim_eq_empty_iff name).mpr hblank
    have hkept := (h.unnamed fun n hn => by
      obtain rfl := Option.some.inj (hname.symm.trans hn)
      exact htrim).1
    rw [← hkept, o.get?_of_blank hname hne hblank]
  · intro h
    refine ⟨fun name hname htrim => o.of_named hname htrim, fun hall => ⟨?_, ?_⟩⟩
    · by_cases hblank : o.BlankName
      · rw [h hblank]
        obtain ⟨name, hname, hne, hblank⟩ := hblank
        exact o.get?_of_blank hname hne hblank
      · refine o.get?_of_empty fun name hname => ?_
        by_contra hne
        exact hblank ⟨name, hname, hne, (Text.trim_eq_empty_iff name).mp (hall name hname)⟩
    · exact o.displayName_of_unnamed hall

end InteractiveOptions

theorem InteractiveSession.Watched.name {s s₁ : InteractiveSession} {events : List TaskEvent}
    (h : Watched s events s₁) : s₁.name = s.name := by
  induction h with
  | start => rfl
  | probed _ _ hp ih =>
    rw [hp.rest]
    exact ih
  | noticed _ _ ih => exact ih

namespace Coordinator

/-- Waiting for the start asks about the task only, and leaves the session its name. -/
theorem awaitStart_name (svc : InstanceService σ) (rounds : Nat) (timeoutMs : Option Nat)
    {s : InteractiveSession} (hphase : s.phase ≠ .notStarted) (y : Exchange (σ × List TaskEvent)) :
    (∃ waits, (awaitStart svc.journaled rounds timeoutMs s y).2.journal = y.journal ++ waits ∧
      ∀ e ∈ waits, e.asksTask = true) ∧
    ∀ t, (awaitStart svc.journaled rounds timeoutMs s y).1 = some (.ok t) → t.name = s.name := by
  cases timeoutMs with
  | none =>
    refine ⟨⟨[], by simp [awaitStart], by simp⟩, fun t ht => ?_⟩
    obtain rfl := Except.ok.inj (Option.some.inj ht)
    rfl
  | some span =>
    obtain ⟨waits, hwaits, hwatched⟩ := InteractiveSession.waited svc rounds span hphase y
    rcases hwait : s.waitForStart svc.journaled rounds span y with ⟨answer, s', y'⟩
    rw [hwait] at hwaits hwatched
    rcases answer with _ | f | started
    · simp only [awaitStart, hwait]
      exact ⟨⟨waits, hwaits, hwatched.asksTask⟩, by simp⟩
    · simp only [awaitStart, hwait]
      exact ⟨⟨waits, hwaits, hwatched.asksTask⟩, by simp⟩
    · simp only [awaitStart, hwait]
      refine ⟨⟨waits, hwaits, hwatched.asksTask⟩, fun t ht => ?_⟩
      obtain rfl := Except.ok.inj (Option.some.inj ht)
      exact hwatched.name

/-- Every instance is asked for with the settings of the options, and the session is shown under
their name. -/
theorem created_under (c : Coordinator) (svc : InstanceService σ) (rounds : Nat)
    (o : InteractiveOptions) (x : Exchange σ) :
    (∀ r a, .creating r a ∈
        (c.createInteractive svc.journaled rounds o (x.watched TaskEvent)).2.journal →
      r.settings = o.taskSettings) ∧
    ∀ s, (c.createInteractive svc.journaled rounds o (x.watched TaskEvent)).1 = some (.ok s) →
      s.name = o.displayName := by
  unfold createInteractive
  cases o.validate with
  | error f => simp
  | ok valid =>
    obtain ⟨answer, y₁, hask, -, hcreated⟩ := (x.watched TaskEvent).ask_noted
      (.creating (c.instanceRequest o)) (svc.createInstance (c.instanceRequest o))
    rw [Exchange.journal_watched, List.nil_append] at hcreated
    simp only [InstanceService.journaled, hask]
    cases answer with
    | error f => simp [hcreated, instanceRequest]
    | ok id =>
      obtain ⟨view, y₂, hask₁, -, hviewed⟩ := y₁.ask_noted (.viewing id) (svc.logView id)
      rw [hcreated] at hviewed
      simp only [hask₁]
      cases view with
      | error f => simp [hviewed, instanceRequest]
      | ok view =>
        obtain ⟨⟨waits, hwaits, hasks⟩, hname⟩ :=
          awaitStart_name svc rounds o.startTimeoutMs (s := {
            channel := ⟨id, (c.instanceRequest o).taskName⟩
            name := o.displayName
            pollMs := c.poll.intervalMs.toNat
            receiver := y₂.shutdown.subscribe
            logView := view }) (by simp) y₂
        refine ⟨fun r a hr => ?_, hname⟩
        have hmem : .creating r a ∈ y₂.journal ++ waits := hwaits ▸ hr
        rw [hviewed] at hmem
        have hnot : .creating r a ∉ waits := Creation.not_mem_of_asksTask hasks rfl
        obtain ⟨rfl, -⟩ : r = c.instanceRequest o ∧ a = .ok id := by simpa [hnot] using hmem
        rfl

end Coordinator

theorem Creation.of_under (c : Coordinator) (svc : InstanceService σ) (rounds : Nat)
    (o : InteractiveOptions) (x : Exchange σ) :
    (∀ r a, .creating r a ∈ (of c svc rounds (.create o) x).events →
      r.settings = o.taskSettings) ∧
    ∀ s, (of c svc rounds (.create o) x).answer = some (.ok s) → s.name = o.displayName := by
  have hplain := (CreationCall.create o).make_plain c svc rounds (x.watched TaskEvent)
  rw [Exchange.plain_watched] at hplain
  simp only [of, hplain]
  exact c.created_under svc rounds o x

namespace InteractiveOptions

/-- What the options of a session amount to: its settings, its name, and what a creation makes of
them on any service. -/
structure Configured (o : InteractiveOptions) : Prop where
  overlaid : o.Overlaid
  named : ∀ name ∈ o.sessionName, Text.trim name ≠ "" →
    o.taskSettings.get? sessionNameHint = some (Text.trim name) ∧
      o.displayName = some (Text.trim name)
  shown : (∀ name ∈ o.sessionName, Text.trim name = "") → o.displayName = o.shareId
  kept : (∀ name ∈ o.sessionName, name = "") →
    o.taskSettings.get? sessionNameHint = o.settings.get? sessionNameHint
  blank : o.BlankName → o.taskSettings.get? sessionNameHint = some ""
  /-- Only a name of blanks makes a difference, unless the caller has set an empty name anyway. -/
  alike_iff : o.NamedAlike ↔ (o.BlankName → o.settings.get? sessionNameHint = some "")
  created : ∀ (σ : Type) (c : Coordinator) (svc : InstanceService σ) (rounds : Nat)
    (x : Exchange σ),
    (∀ r a, .creating r a ∈ (Creation.of c svc rounds (.create o) x).events →
      r.settings = o.taskSettings) ∧
    ∀ s, (Creation.of c svc rounds (.create o) x).answer = some (.ok s) → s.name = o.displayName

/-- Whatever the options are, and whatever the caller has set. -/
theorem options_configure_session (o : InteractiveOptions) : o.Configured where
  overlaid := o.overlaid
  named _ hname htrim := o.of_named hname htrim
  shown := o.displayName_of_unnamed
  kept := o.get?_of_empty
  blank := by
    rintro ⟨name, hname, hne, hblank⟩
    exact o.get?_of_blank hname hne hblank
  alike_iff := o.namedAlike_iff
  created _ c svc rounds x := Creation.of_under c svc rounds o x

/-- Options with a name of blanks, from a caller who has set a name himself. -/
def blankOptions : InteractiveOptions where
  sessionName := some "  "
  settings := (∅ : Settings).insert sessionNameHint "mine"

/-- The blank name counts as none where it is shown, and yet takes the place of the caller's. -/
theorem blank_name_displaces_caller :
    Text.trim "  " = "" ∧ blankOptions.displayName = blankOptions.shareId ∧
      blankOptions.settings.get? sessionNameHint = some "mine" ∧
      blankOptions.taskSettings.get? sessionNameHint = some "" ∧ ¬blankOptions.NamedAlike := by
  have hblank : blankOptions.BlankName := ⟨"  ", rfl, by decide, by decide⟩
  have hcaller : blankOptions.settings.get? sessionNameHint = some "mine" :=
    SortedMap.get?_insert_self _ _ _
  refine ⟨by decide, by decide, hcaller, ?_, ?_⟩
  · exact get?_of_blank _ rfl (by decide) (by decide)
  · rw [namedAlike_iff, hcaller]
    intro h
    simpa using h hblank

end InteractiveOptions

end TableExchange
