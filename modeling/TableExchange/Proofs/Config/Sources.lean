import Mathlib.Data.List.TakeWhile
import TableExchange.Config.Load
import TableExchange.Proofs.Config.Layering

/-!
What the sources of a configuration give, told by what stands in them. A file gives what its table
has at some names, and an environment variable gives its text at the names that it is called by.
-/
namespace TableExchange

open ConfigValue

namespace ConfigValue

/-- What is solid at some names: the empty table gives nothing. -/
def solid? (names : List String) (o : Option ConfigValue) : Option ConfigValue :=
  (o.bind (part? names)).filter fun v => !v.isHollow

def Lacks : List String → ConfigValue → Prop
  | [], v => v = table []
  | k :: names, v => ∃ es, v = table es ∧ ∀ e ∈ es, Text.lowercase e.1 = k → Lacks names e.2

/-- A value has a scalar at some names, which count in small letters. Of the entries of one name it
is the last one that has anything there. -/
inductive Finds : List String → ConfigValue → ConfigValue → Prop
  | here {v : ConfigValue} (h : v.isScalar = true) : Finds [] v v
  | under {name : String} {names : List String} {before after : List (String × ConfigValue)}
      {v x : ConfigValue} (h : Finds names v x)
      (hafter : ∀ e ∈ after, Text.lowercase e.1 = Text.lowercase name → Lacks names e.2) :
      Finds (Text.lowercase name :: names) (table (before ++ (name, v) :: after)) x

section Solid

variable {k n : String} {names : List String} {es : List (String × ConfigValue)}
  {v x : ConfigValue}

theorem solid?_cons (k : String) (names : List String) (o : Option ConfigValue) :
    solid? (k :: names) o = solid? names (under k o) := by
  simp only [solid?, part?, under, Option.bind_assoc]

theorem solid?_empty (names : List String) : solid? names (some (table [])) = none := by
  cases names <;> rfl

theorem solid?_assign_self (u : ConfigValue) : solid? (k :: names) (some (table (assign k u es))) =
    solid? names (some u) := by
  rw [solid?_cons, under_eq]
  simp only [entriesOf, Option.getD_some, entries, find?_assign_self]

theorem solid?_assign_of_ne (hne : k ≠ n) (u : ConfigValue) (o : Option ConfigValue) :
    solid? (k :: names) (some (table (assign n u (entriesOf o)))) = solid? (k :: names) o := by
  rw [solid?_cons, solid?_cons, under_eq, under_eq]
  simp only [entriesOf, Option.getD_some, entries, find?_assign_of_ne hne]

/-- Entries that lack some names leave what is there, if values that lack the rest of them do. -/
theorem solid?_overlayEntries
    (hrest : ∀ {v}, Lacks names v → ∀ below, solid? names (some (overlay below v)) =
      solid? names below)
    (hes : ∀ e ∈ es, Text.lowercase e.1 = k → Lacks names e.2) (below : ConfigValue) :
    solid? (k :: names) (some (overlayEntries below es)) = solid? (k :: names) (some below) := by
  induction es generalizing below with
  | nil => rfl
  | cons e rest ih =>
    obtain ⟨name, u⟩ := e
    simp only [overlayEntries]
    rw [ih fun e' he' => hes e' (List.mem_cons_of_mem _ he')]
    by_cases hk : Text.lowercase name = k
    · rw [hk, solid?_assign_self, hrest (hes _ List.mem_cons_self hk), solid?_cons]
      rfl
    · exact solid?_assign_of_ne (Ne.symm hk) _ (some below)

theorem Lacks.solid? (h : Lacks names v) (below : Option ConfigValue) :
    solid? names (some (overlay below v)) = solid? names below := by
  induction names generalizing v below with
  | nil =>
    obtain rfl : v = table [] := h
    cases below <;> rfl
  | cons k names ih =>
    obtain ⟨es, rfl, hes⟩ := h
    rw [overlay, solid?_overlayEntries ih hes]
    cases below <;> rfl

theorem overlayEntries_append (below : ConfigValue) (es fs : List (String × ConfigValue)) :
    overlayEntries below (es ++ fs) = overlayEntries (overlayEntries below es) fs := by
  induction es generalizing below with
  | nil => rfl
  | cons e rest ih => exact ih _

theorem Finds.solid? (h : Finds names v x) (below : Option ConfigValue) :
    solid? names (some (overlay below v)) = some x := by
  induction h generalizing below with
  | @here v hv =>
    cases v with
    | list vs => contradiction
    | table es => contradiction
    | _ => rfl
  | under h hafter ih =>
    -- The later entries of the name leave what this one gives.
    rw [overlay, overlayEntries_append, overlayEntries,
      solid?_overlayEntries Lacks.solid? hafter, solid?_assign_self]
    exact ih _

/-- What is laid at the end of some names is there. -/
theorem solid?_overlayAt_self (names : List String) (text : String) (below : Option ConfigValue) :
    solid? (names.map Text.lowercase) (some (overlayAt (names.map .entry) (.text text) below)) =
      some (.text text) := by
  induction names generalizing below with
  | nil => rfl
  | cons n names ih =>
    simp only [List.map_cons, overlayAt]
    rw [solid?_assign_self]
    exact ih _

/-- It changes nothing at names that lead elsewhere. -/
theorem solid?_overlayAt_of_apart {others : List String}
    (hshorter : ¬others <+: names.map Text.lowercase)
    (hlonger : ¬names.map Text.lowercase <+: others) (below : Option ConfigValue) :
    solid? others (some (overlayAt (names.map .entry) v below)) = solid? others below := by
  induction names generalizing others below with
  | nil => exact absurd List.nil_prefix hlonger
  | cons n names ih =>
    match others with
    | [] => exact absurd List.nil_prefix hshorter
    | k :: others =>
      simp only [List.map_cons, overlayAt]
      by_cases hk : k = Text.lowercase n
      · subst hk
        have hrest := ih (fun h => hshorter (List.prefix_cons_inj _ |>.mpr h))
          (fun h => hlonger (List.prefix_cons_inj _ |>.mpr h))
        rw [solid?_assign_self, hrest, solid?_cons, under_eq]
        rfl
      · exact solid?_assign_of_ne hk _ below

end Solid

end ConfigValue

namespace PathStep

/-- A name without marks that mean something in a path. -/
def IsPlain (name : String) : Prop :=
  name ≠ "" ∧ ∀ c ∈ name.toList, isNameChar c = true

theorem pathOf_of_plain {name : String} (h : IsPlain name) : pathOf name = [.entry name] := by
  obtain ⟨hne, hchars⟩ := h
  have htake : name.toList.takeWhile isNameChar = name.toList :=
    List.takeWhile_eq_self_iff.mpr hchars
  have hdrop : name.toList.dropWhile isNameChar = [] := List.dropWhile_eq_nil_iff.mpr hchars
  simp [pathOf, htake, hdrop, steps?, hne]

end PathStep

inductive Source
  | file (entries : List (String × ConfigValue))
  | var (name value : String)

namespace Source

def layer : Source → Layer
  | file es => .ofTable (.table es)
  | var name value => .ofVariables [(name, value)]

def gives? (names : List String) (s : Source) : Option ConfigValue :=
  s.layer.given? names

def GivesSections (s : Source) : Prop :=
  ∀ e ∈ s.layer, GivesTablesAt ClientConfig.sections [] e.1 e.2

instance (s : Source) : Decidable s.GivesSections :=
  inferInstanceAs (Decidable (∀ e ∈ s.layer, GivesTablesAt ClientConfig.sections [] e.1 e.2))

end Source

namespace Layer

theorem given?_eq (names : List String) (layer : Layer) :
    layer.given? names = solid? names (some (putOn (.table []) layer)) := rfl

theorem putOn_ofTable {es : List (String × ConfigValue)}
    (hplain : ∀ e ∈ es, PathStep.IsPlain e.1) (below : ConfigValue) :
    putOn below (ofTable (.table es)) = overlayEntries below es := by
  induction es generalizing below with
  | nil => rfl
  | cons e rest ih =>
    have hrest := ih fun e' he' => hplain e' (List.mem_cons_of_mem _ he')
    have hpath := PathStep.pathOf_of_plain (hplain e List.mem_cons_self)
    simp only [putOn, ofTable, entries, List.map_cons, List.foldl_cons, hpath] at hrest ⊢
    rw [hrest]
    rfl

theorem ofVariables_cons (v : String × String) (vars : List (String × String)) :
    ofVariables (v :: vars) = ofVariables [v] ++ ofVariables vars := by
  rw [ofVariables, ofVariables, ofVariables, ← List.filterMap_append]
  rfl

theorem ofVariable?_eq {name key : String} (h : Text.lowercase name = "app_" ++ key)
    (value : String) : ofVariable? name value =
      some (PathStep.pathOf (String.ofList (dotted key.toList)), .text value) := by
  have hsmall : (Text.lowercase name).toList = variableStart.toList ++ key.toList := by
    rw [h, String.toList_append]
    rfl
  have hdrop : (variableStart.toList ++ key.toList).drop variableStart.length = key.toList :=
    List.drop_left' rfl
  simp [ofVariable?, hsmall, hdrop]

theorem ofVariable?_eq_none {name : String}
    (h : ¬"app_".toList <+: (Text.lowercase name).toList) (value : String) :
    ofVariable? name value = none := by
  have hstart : variableStart.toList.isPrefixOf (Text.lowercase name).toList = false := by
    rw [Bool.eq_false_iff, ne_eq, List.isPrefixOf_iff_prefix]
    exact h
  simp [ofVariable?, hstart]

end Layer

namespace ClientConfig

def leaves : List (List String) :=
  [["service", "endpoint"], ["service", "project"], ["service", "schema"],
    ["service", "access_token"], ["service", "request_timeout_ms"], ["service", "log_view_host"],
    ["poll", "interval_ms"], ["poll", "task_name"], ["writer", "data_format", "type"],
    ["writer", "data_format", "version"], ["writer", "commit_conflict_policy"]]

theorem pathOf_leaf : ∀ names ∈ leaves,
    PathStep.pathOf (String.ofList (Layer.dotted ("__".intercalate names).toList)) =
      names.map .entry := by
  decide +kernel

theorem lowercase_leaf {names : List String} (h : names ∈ leaves) :
    names.map Text.lowercase = names := by
  have hsmall : leaves.all (·.all (·.toList.all (· ∈ Text.smallChars))) = true := by
    decide +kernel
  have hnames := List.all_eq_true.mp (List.all_eq_true.mp hsmall names h)
  calc names.map Text.lowercase = names.map id :=
        List.map_congr_left fun n hn => Text.lowercase_of_small (hnames n hn)
    _ = names := List.map_id names

theorem leaves_apart : ∀ names ∈ leaves, ∀ others ∈ leaves, names <+: others → names = others := by
  decide

end ClientConfig

/-- What the sources give, told by what stands in them. -/
structure GivenAsSpelled : Prop where
  /-- A variable that is called `APP_` and the names of a leaf, in any case and with two underscores
  between them, gives its text there and nothing at the other leaves. -/
  called : ∀ names ∈ ClientConfig.leaves, ∀ name value,
    Text.lowercase name = "app_" ++ "__".intercalate names →
      (Source.var name value).gives? names = some (.text value) ∧
      ∀ others ∈ ClientConfig.leaves, others ≠ names →
        (Source.var name value).gives? others = none
  /-- Variables that are called otherwise give nothing. -/
  ignored : ∀ name value names, ¬"app_".toList <+: (Text.lowercase name).toList →
    (Source.var name value).gives? names = none
  /-- A file gives what its table has. -/
  found : ∀ es names x, (∀ e ∈ es, PathStep.IsPlain e.1) → (ConfigValue.table es).Finds names x →
    (Source.file es).gives? names = some x
  lacked : ∀ es names, (∀ e ∈ es, PathStep.IsPlain e.1) → (ConfigValue.table es).Lacks names →
    (Source.file es).gives? names = none

theorem givenAsSpelled : GivenAsSpelled where
  called names hnames name value hname := by
    have hlayer : (Source.var name value).layer = [(names.map .entry, .text value)] := by
      simp only [Source.layer, Layer.ofVariables, List.filterMap_cons, List.filterMap_nil,
        Layer.ofVariable?_eq hname, ClientConfig.pathOf_leaf names hnames]
    have hgives (others : List String) : (Source.var name value).gives? others =
        solid? others (some (overlayAt (names.map .entry) (.text value) (some (.table [])))) := by
      rw [Source.gives?, hlayer]
      rfl
    have hsmall := ClientConfig.lowercase_leaf hnames
    refine ⟨?_, fun others hothers hne => ?_⟩
    · have hself := solid?_overlayAt_self names value (some (.table []))
      rwa [hsmall, ← hgives] at hself
    · rw [hgives, solid?_overlayAt_of_apart, solid?_empty]
      · rw [hsmall]
        exact fun h => hne (ClientConfig.leaves_apart others hothers names hnames h)
      · rw [hsmall]
        exact fun h => hne (ClientConfig.leaves_apart names hnames others hothers h).symm
  ignored name value names h := by
    have hlayer : (Source.var name value).layer = [] := by
      simp only [Source.layer, Layer.ofVariables, List.filterMap_cons, List.filterMap_nil,
        Layer.ofVariable?_eq_none h]
    rw [Source.gives?, hlayer]
    exact solid?_empty names
  found es names x hplain h := by
    rw [Source.gives?, Layer.given?_eq, Source.layer, Layer.putOn_ofTable hplain]
    exact h.solid? none
  lacked es names hplain h := by
    rw [Source.gives?, Layer.given?_eq, Source.layer, Layer.putOn_ofTable hplain]
    exact h.solid? none

/-- The sources of a configuration: the base file, the file of the environment and the variables. -/
def Surroundings.sources (w : Surroundings) (base environment : List (String × ConfigValue)) :
    List Source :=
  .file base :: .file environment :: w.environment.map fun v => .var v.1 v.2

/-- Variables in a layer of their own each make the same stack as all of them in one. -/
theorem Surroundings.stack_sources (w : Surroundings)
    (base environment : List (String × ConfigValue)) :
    Layer.stack ((w.sources base environment).map Source.layer) =
      Layer.stack [.ofTable (.table base), .ofTable (.table environment),
        .ofVariables w.environment] := by
  have hvars (vars : List (String × String)) (below : ConfigValue) :
      ((vars.map fun v => Source.var v.1 v.2).map Source.layer).foldl Layer.putOn below =
        Layer.putOn below (.ofVariables vars) := by
    induction vars generalizing below with
    | nil => rfl
    | cons v rest ih =>
      rw [List.map_cons, List.map_cons, List.foldl_cons, ih, Layer.ofVariables_cons,
        Layer.putOn_append]
      rfl
  simp only [Layer.stack, sources, List.map_cons, List.foldl_cons, List.foldl_nil]
  exact hvars _ _

end TableExchange
