import TableExchange.Config.Layer

/-!
One layer next to the stack that it is laid over. What lies at a field of a section afterwards is
what the layer gives there by itself, or what was there before if the layer gives nothing, as long
as every layer gives the sections as tables.
-/
namespace TableExchange.ConfigValue

def part? : List String → ConfigValue → Option ConfigValue
  | [], v => some v
  | k :: names, v => (v.entry? k).bind (part? names)

def entriesOf (o : Option ConfigValue) : List (String × ConfigValue) :=
  (o.getD nil).entries

def under (k : String) (o : Option ConfigValue) : Option ConfigValue :=
  o.bind (ConfigValue.entry? k)

theorem under_eq (k : String) (o : Option ConfigValue) : under k o = find? k (entriesOf o) := by
  cases o <;> rfl

theorem entries_getD (o : Option ConfigValue) : (o.getD (table [])).entries = entriesOf o := by
  cases o <;> rfl

section Sections

variable (sections : List (List String))

mutual

/-- A value laid over the place of some names gives no section anything but a table. -/
def GivesTables (here : List String) : ConfigValue → Prop
  | table es => EntriesGiveTables here es
  | nil => here ∉ sections
  | bool _ => here ∉ sections
  | integer _ => here ∉ sections
  | real _ => here ∉ sections
  | text _ => here ∉ sections
  | list _ => here ∉ sections

/-- Entries laid over the place of some names give no section anything but a table. -/
def EntriesGiveTables (here : List String) : List (String × ConfigValue) → Prop
  | [] => True
  | (name, v) :: rest =>
    GivesTables (here ++ [Text.lowercase name]) v ∧ EntriesGiveTables here rest

end

/-- A value laid over the end of a path gives no section anything but a table. -/
def GivesTablesAt : List String → List PathStep → ConfigValue → Prop
  | here, [], v => GivesTables sections here v
  | here, .entry name :: path, v => GivesTablesAt (here ++ [Text.lowercase name]) path v
  | here, .item _ :: _, _ => here ∉ sections

mutual

def decideGivesTables (here : List String) :
    (v : ConfigValue) → Decidable (GivesTables sections here v)
  | table es => decideEntries here es
  | nil => inferInstanceAs (Decidable (here ∉ sections))
  | bool _ => inferInstanceAs (Decidable (here ∉ sections))
  | integer _ => inferInstanceAs (Decidable (here ∉ sections))
  | real _ => inferInstanceAs (Decidable (here ∉ sections))
  | text _ => inferInstanceAs (Decidable (here ∉ sections))
  | list _ => inferInstanceAs (Decidable (here ∉ sections))

def decideEntries (here : List String) :
    (es : List (String × ConfigValue)) → Decidable (EntriesGiveTables sections here es)
  | [] => inferInstanceAs (Decidable True)
  | (name, v) :: rest =>
    match decideGivesTables (here ++ [Text.lowercase name]) v, decideEntries here rest with
    | .isTrue hv, .isTrue hrest => .isTrue ⟨hv, hrest⟩
    | .isFalse hv, _ => .isFalse fun h => hv h.1
    | _, .isFalse hrest => .isFalse fun h => hrest h.2

end

instance decideGivesTablesAt : (here : List String) → (path : List PathStep) → (v : ConfigValue) →
    Decidable (GivesTablesAt sections here path v)
  | here, [], v => decideGivesTables sections here v
  | here, .entry name :: path, v => decideGivesTablesAt (here ++ [Text.lowercase name]) path v
  | here, .item _ :: _, _ => inferInstanceAs (Decidable (here ∉ sections))

/-- Every place on the way along some names is a section. -/
def Within : List String → List String → Prop
  | _, [] => True
  | here, k :: names => here ∈ sections ∧ Within (here ++ [k]) names

end Sections

/-- The names in one list of entries are all in another, and none of them is twice in the first. -/
structure Named (es fs : List (String × ConfigValue)) : Prop where
  nodup : (es.map (·.1)).Nodup
  among : es.map (·.1) ⊆ fs.map (·.1)

theorem map_fst_assign (k : String) (v : ConfigValue) (es : List (String × ConfigValue)) :
    (assign k v es).map (·.1) =
      if k ∈ es.map (·.1) then es.map (·.1) else es.map (·.1) ++ [k] := by
  induction es with
  | nil => rfl
  | cons e rest ih =>
    by_cases he : e.1 = k
    · simp [assign, he]
    · simp only [assign, he, if_false, List.map_cons, ih, List.mem_cons, Ne.symm he, false_or]
      split <;> rfl

theorem assign_ne_nil (k : String) (v : ConfigValue) (es : List (String × ConfigValue)) :
    assign k v es ≠ [] := by
  cases es with
  | nil => simp [assign]
  | cons e rest =>
    simp only [assign]
    split <;> simp

theorem Named.assign {es fs : List (String × ConfigValue)} (h : Named es fs) (k : String)
    (v w : ConfigValue) : Named (assign k v es) (assign k w fs) := by
  constructor
  · rw [map_fst_assign]
    split
    · exact h.nodup
    · next hk =>
      refine List.nodup_append.mpr ⟨h.nodup, by simp, fun n hn m hm => ?_⟩
      rintro rfl
      exact hk (List.mem_singleton.mp hm ▸ hn)
  · intro n hn
    rw [map_fst_assign] at hn ⊢
    have hmem : n ∈ es.map (·.1) ∨ n = k := by
      split at hn
      · exact .inl hn
      · simpa using hn
    rcases hmem with hmem | rfl
    · have hfs := h.among hmem
      split
      · exact hfs
      · exact List.mem_append_left _ hfs
    · split
      · assumption
      · simp

def isScalar : ConfigValue → Bool
  | list _ | table _ => false
  | _ => true

theorem entriesOf_scalar {v : ConfigValue} (h : v.isScalar = true) : entriesOf (some v) = [] := by
  cases v with
  | table es => contradiction
  | _ => rfl

/-- The first value is what a layer gives, and the second what lies there then: one scalar, two
lists, or two tables of which the second has all the names of the first. -/
inductive Shows : ConfigValue → ConfigValue → Prop
  | scalar {v : ConfigValue} (h : v.isScalar = true) : Shows v v
  | list (vs ws : List ConfigValue) : Shows (list vs) (list ws)
  | table {es fs : List (String × ConfigValue)} (hne : es ≠ []) (h : Named es fs) :
      Shows (table es) (table fs)

theorem Shows.overlayEntries {es fs : List (String × ConfigValue)}
    (h : Shows (.table es) (.table fs)) (later : List (String × ConfigValue)) :
    Shows (overlayEntries (.table es) later) (overlayEntries (.table fs) later) := by
  induction later generalizing es fs with
  | nil => exact h
  | cons e rest ih =>
    cases h with
    | scalar h => contradiction
    | table hne hnamed => exact ih (.table (assign_ne_nil _ _ _) (hnamed.assign _ _ _))

/-- What a layer gives by itself, and what lies there then. An empty table counts as nothing, except
where there was nothing at all. -/
inductive Given (below : Option ConfigValue) : Option ConfigValue → Option ConfigValue → Prop
  | nothing : Given below none below
  | hollow : Given below (some (table [])) (some (below.getD (table [])))
  | shown {g f : ConfigValue} (h : Shows g f) : Given below (some g) (some f)

section Given

variable {below a f : Option ConfigValue}

theorem Given.named (h : Given below a f) : Named (entriesOf a) (entriesOf f) := by
  have hempty (fs : List (String × ConfigValue)) : Named [] fs := ⟨List.nodup_nil, by simp⟩
  cases h with
  | nothing => exact hempty _
  | hollow => exact hempty _
  | shown h =>
    cases h with
    | scalar hv => exact entriesOf_scalar hv ▸ hempty _
    | list => exact hempty _
    | table _ h => exact h

theorem overlayAt_item (index : Int) (path : List PathStep) (v : ConfigValue)
    (o : Option ConfigValue) : ∃ vs, overlayAt (.item index :: path) v o = list vs := by
  simp only [overlayAt]
  split <;> exact ⟨_, rfl⟩

theorem Given.overlay (h : Given below a f) (v : ConfigValue) :
    Given below (some (overlay a v)) (some (overlay f v)) := by
  cases v with
  | table es =>
    cases es with
    | nil =>
      cases h with
      | nothing => exact .hollow
      | hollow => exact .hollow
      | shown h => exact .shown h
    | cons e rest =>
      simp only [ConfigValue.overlay, ConfigValue.overlayEntries, entries_getD]
      exact .shown (Shows.overlayEntries (.table (assign_ne_nil _ _ _) (h.named.assign _ _ _)) _)
  | list vs => exact .shown (.list vs vs)
  | _ => exact .shown (.scalar rfl)

theorem Given.overlayAt (h : Given below a f) (path : List PathStep) (v : ConfigValue) :
    Given below (some (overlayAt path v a)) (some (overlayAt path v f)) := by
  match path with
  | [] => exact h.overlay v
  | .entry name :: path => exact .shown (.table (assign_ne_nil _ _ _) (h.named.assign _ _ _))
  | .item index :: path =>
    obtain ⟨vs, hvs⟩ := overlayAt_item index path v a
    obtain ⟨ws, hws⟩ := overlayAt_item index path v f
    rw [hvs, hws]
    exact .shown (.list vs ws)

end Given

def IsTable (o : Option ConfigValue) : Prop :=
  ∀ v ∈ o, ∃ es, v = table es

def TablesAlong : List String → Option ConfigValue → Prop
  | [], _ => True
  | k :: names, o => IsTable o ∧ TablesAlong names (under k o)

/-- A layer by itself next to the stack with it: tables along the names, and at their end what the
layer gives. -/
def Along : List String → Option ConfigValue → Option ConfigValue → Option ConfigValue → Prop
  | [], below, a, f => Given below a f
  | k :: names, below, a, f =>
    IsTable a ∧ IsTable f ∧ Along names (under k below) (under k a) (under k f)

theorem isTable_table (es : List (String × ConfigValue)) : IsTable (some (table es)) := by
  rintro v ⟨⟩
  exact ⟨es, rfl⟩

section Along

variable {sections : List (List String)} {k n : String} {here names : List String}
  {below a f : Option ConfigValue}

theorem Along.start (h : TablesAlong names below) : Along names below none below := by
  induction names generalizing below with
  | nil => exact .nothing
  | cons k names ih => exact ⟨nofun, h.1, ih h.2⟩

theorem Along.tablesAlong (h : Along names below a f) : TablesAlong names f := by
  induction names generalizing below a f with
  | nil => trivial
  | cons k names ih => exact ⟨h.2.1, ih h.2.2⟩

theorem Along.given (h : Along names below a f) :
    Given (below.bind (part? names)) (a.bind (part? names)) (f.bind (part? names)) := by
  induction names generalizing below a f with
  | nil =>
    have hself (o : Option ConfigValue) : o.bind (part? []) = o := by cases o <;> rfl
    rw [hself, hself, hself]
    exact h
  | cons k names ih => simpa only [part?, under, Option.bind_assoc] using ih h.2.2

/-- The empty table stands in for nothing. -/
theorem Along.getD (h : Along (k :: names) below a f) :
    Along (k :: names) below (some (a.getD (table []))) (some (f.getD (table []))) := by
  obtain ⟨ha, hf, hrest⟩ := h
  have hgetD (o : Option ConfigValue) (ho : IsTable o) : IsTable (some (o.getD (table []))) := by
    cases o with
    | none => exact isTable_table []
    | some v => exact ho
  refine ⟨hgetD a ha, hgetD f hf, ?_⟩
  simpa only [under_eq, entriesOf, Option.getD_some, entries_getD] using hrest

theorem Along.assign_self {u v : ConfigValue} {es fs : List (String × ConfigValue)}
    (h : Along names (under k below) (some u) (some v)) :
    Along (k :: names) below (some (table (assign k u es))) (some (table (assign k v fs))) := by
  refine ⟨isTable_table _, isTable_table _, ?_⟩
  simpa only [under_eq, entriesOf, Option.getD_some, entries, find?_assign_self] using h

theorem Along.assign_of_ne (hne : k ≠ n) (u v : ConfigValue) (h : Along (k :: names) below a f) :
    Along (k :: names) below (some (table (assign n u (entriesOf a))))
      (some (table (assign n v (entriesOf f)))) := by
  refine ⟨isTable_table _, isTable_table _, ?_⟩
  have hrest := h.2.2
  simpa only [under_eq, entriesOf, Option.getD_some, entries, find?_assign_of_ne hne] using hrest

-- The names lead through sections only, where nothing but a table may be laid; at their end any
-- value replaces what is there in both alike.
mutual

/-- Laying a value over both keeps them together. -/
theorem Along.overlay : ∀ {v : ConfigValue} {here names : List String}
    {below a f : Option ConfigValue}, GivesTables sections here v → Within sections here names →
      Along names below a f → Along names below (some (overlay a v)) (some (overlay f v))
  | v, _, [], _, _, _, _, _, h => Given.overlay h v
  | .table _, _, _ :: _, _, _, _, hgives, hwithin, h =>
    Along.overlayEntries hgives hwithin h.getD
  | .nil, _, _ :: _, _, _, _, hgives, hwithin, _ => absurd hwithin.1 hgives
  | .bool _, _, _ :: _, _, _, _, hgives, hwithin, _ => absurd hwithin.1 hgives
  | .integer _, _, _ :: _, _, _, _, hgives, hwithin, _ => absurd hwithin.1 hgives
  | .real _, _, _ :: _, _, _, _, hgives, hwithin, _ => absurd hwithin.1 hgives
  | .text _, _, _ :: _, _, _, _, hgives, hwithin, _ => absurd hwithin.1 hgives
  | .list _, _, _ :: _, _, _, _, hgives, hwithin, _ => absurd hwithin.1 hgives

/-- Laying entries over both, one after another, keeps them together. -/
theorem Along.overlayEntries : ∀ {es : List (String × ConfigValue)} {k : String}
    {here names : List String} {below : Option ConfigValue} {x y : ConfigValue},
    EntriesGiveTables sections here es → Within sections here (k :: names) →
      Along (k :: names) below (some x) (some y) →
      Along (k :: names) below (some (overlayEntries x es)) (some (overlayEntries y es))
  | [], _, _, _, _, _, _, _, _, h => h
  | (name, v) :: rest, k, here, names, below, x, y, hgives, hwithin, h => by
    simp only [ConfigValue.overlayEntries]
    refine Along.overlayEntries hgives.2 hwithin ?_
    by_cases hk : k = Text.lowercase name
    · subst hk
      exact Along.assign_self (Along.overlay hgives.1 hwithin.2 h.2.2)
    · exact Along.assign_of_ne hk _ _ h

end

/-- Laying a value over the end of a path in both keeps them together. -/
theorem Along.overlayAt {path : List PathStep} {v : ConfigValue}
    (hgives : GivesTablesAt sections here path v) (hwithin : Within sections here names)
    (h : Along names below a f) :
    Along names below (some (overlayAt path v a)) (some (overlayAt path v f)) := by
  induction path generalizing here names below a f with
  | nil => exact Along.overlay hgives hwithin h
  | cons step path ih =>
    match names, step with
    | [], step => exact Given.overlayAt h (step :: path) v
    | k :: names, .item index => exact absurd hwithin.1 hgives
    | k :: names, .entry name =>
      by_cases hk : k = Text.lowercase name
      · subst hk
        have hrest := ih hgives hwithin.2 h.2.2
        rw [under_eq _ a, under_eq _ f] at hrest
        exact Along.assign_self hrest
      · exact Along.assign_of_ne hk _ _ h

end Along

end TableExchange.ConfigValue
