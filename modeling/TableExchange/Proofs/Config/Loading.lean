import TableExchange.Config.Load
import TableExchange.Proofs.Config.Sources
import TableExchange.Proofs.Json.ReadBack

/-!
Loading from a directory. Of the files of one name the first counts, the fields are read from the
tables of these files and from the environment variables, and no other file has any part in the
outcome.
-/
namespace TableExchange

def Surroundings.IsFile (w : Surroundings) (path : String) : Prop :=
  ∃ bytes, w.entry? path = some (.file bytes)

def Surroundings.environment? (w : Surroundings) : Except String Environment :=
  Environment.ofVariable (w.environment.lookup ClientConfig.environmentVariable)

theorem ClientConfig.load_eq (w : Surroundings) (directory : String) :
    load w directory =
      if w.entry? directory ≠ some .directory then .error (.missingDirectory directory)
      else match w.environment? with
        | .error reason => .error (.environment reason)
        | .ok e => match baseLayer w directory with
          | .error f => .error f
          | .ok base => match environmentLayer w directory e with
            | .error f => .error f
            | .ok environment =>
              match ofValue? (Layer.stack [base, environment, .ofVariables w.environment]) with
              | some config => .ok config
              | none => .error .unfitting := by
  unfold load Surroundings.environment?
  split
  · rfl
  · cases Environment.ofVariable (w.environment.lookup environmentVariable) with
    | error reason => rfl
    | ok e =>
      cases baseLayer w directory with
      | error f => rfl
      | ok base =>
        simp only [Except.mapError, bind, Except.bind, pure, Except.pure, throw, throwThe,
          MonadExceptOf.throw]
        cases environmentLayer w directory e <;> rfl

/-- The environment is the one that a variable names in any case, or the first one. -/
def Surroundings.Selects (w : Surroundings) (e : Environment) : Prop :=
  match w.environment.lookup "APP_ENVIRONMENT" with
  | some name => Text.lowercase name = e.text
  | none => e = .dev

theorem Surroundings.selects_of_environment? {w : Surroundings} {e : Environment}
    (h : w.environment? = .ok e) : w.Selects e := by
  unfold Surroundings.environment? at h
  unfold Selects
  rw [ClientConfig.environmentVariable] at h
  cases hlookup : w.environment.lookup "APP_ENVIRONMENT" with
  | none =>
    rw [hlookup] at h
    exact (Except.ok.inj h).symm
  | some name =>
    rw [hlookup, Environment.ofVariable, Environment.ofText] at h
    split at h
    · next hname =>
      obtain rfl := Except.ok.inj h
      exact hname
    · split at h
      · next hname =>
        obtain rfl := Except.ok.inj h
        exact hname
      · contradiction

namespace Layer

theorem Format.table_of_parse? {format : Format} {text : String} {v : ConfigValue}
    (h : format.parse? text = some v) : ∃ es, v = .table es := by
  cases format with
  | yaml =>
    obtain ⟨tokens, -, h⟩ := Option.bind_eq_some_iff.mp h
    split at h
    · exact ⟨_, (Option.some.inj h).symm⟩
    · contradiction
  | json =>
    simp only [Format.parse?] at h
    split at h
    · exact ⟨_, (Option.some.inj h).symm⟩
    · contradiction

theorem ofFile?_eq_some {format : Format} {bytes : List UInt8} {layer : Layer}
    (h : ofFile? format bytes = some layer) : ∃ text es, Text.Utf8.decode bytes = .ok text ∧
      format.parse? text = some (.table es) ∧ layer = ofTable (.table es) := by
  obtain ⟨text, hdecode, h⟩ := Option.bind_eq_some_iff.mp h
  obtain ⟨v, hparse, rfl⟩ := Option.map_eq_some_iff.mp h
  obtain ⟨es, rfl⟩ := Format.table_of_parse? hparse
  refine ⟨text, es, ?_, hparse, rfl⟩
  cases hbytes : Text.Utf8.decode bytes with
  | error flaw => simp [hbytes, Except.toOption] at hdecode
  | ok text' =>
    rw [hbytes] at hdecode
    rw [Option.some.inj hdecode]

end Layer

namespace ConfigFile

variable {f : ConfigFile} {w other : Surroundings} {directory path : String}
  {format : Layer.Format} {bytes : List UInt8}

def FirstFile (f : ConfigFile) (w : Surroundings) (directory path : String)
    (format : Layer.Format) (bytes : List UInt8) : Prop :=
  ∃ before after, f.candidates directory = before ++ (path, format) :: after ∧
    w.entry? path = some (.file bytes) ∧ ∀ c ∈ before, ¬w.IsFile c.1

def Holds (f : ConfigFile) (w : Surroundings) (directory : String)
    (es : List (String × ConfigValue)) : Prop :=
  ∃ path format bytes text, f.FirstFile w directory path format bytes ∧
    Text.Utf8.decode bytes = .ok text ∧ format.parse? text = some (.table es)

def Missing (f : ConfigFile) (w : Surroundings) (directory : String) : Prop :=
  ∀ c ∈ f.candidates directory, ¬w.IsFile c.1

/-- Loading asks for the base file, and for the file of the environment that a variable names. -/
def Wanted (f : ConfigFile) (w : Surroundings) : Prop :=
  f = base ∨ ∃ e, w.environment? = .ok e ∧ f = environment e

def lookAt (w : Surroundings) (c : String × Layer.Format) :
    Option (String × Layer.Format × List UInt8) :=
  match w.entry? c.1 with
  | some (.file bytes) => some (c.1, c.2, bytes)
  | _ => none

theorem find?_eq (f : ConfigFile) (w : Surroundings) (directory : String) :
    f.find? w directory = (f.candidates directory).findSome? (lookAt w) := rfl

theorem lookAt_of_entry {c : String × Layer.Format} (h : w.entry? c.1 = some (.file bytes)) :
    lookAt w c = some (c.1, c.2, bytes) := by
  rw [lookAt, h]

theorem lookAt_eq_none {c : String × Layer.Format} : lookAt w c = none ↔ ¬w.IsFile c.1 := by
  constructor
  · rintro hnone ⟨bytes, hbytes⟩
    rw [lookAt_of_entry hbytes] at hnone
    contradiction
  · intro hfile
    unfold lookAt
    split
    · next bytes hbytes => exact absurd ⟨bytes, hbytes⟩ hfile
    · rfl

theorem lookAt_eq_some {c : String × Layer.Format} (h : lookAt w c = some (path, format, bytes)) :
    c = (path, format) ∧ w.entry? path = some (.file bytes) := by
  unfold lookAt at h
  split at h
  · next bytes' hentry =>
    obtain ⟨⟩ := h
    exact ⟨rfl, hentry⟩
  · contradiction

theorem find?_eq_some_iff : f.find? w directory = some (path, format, bytes) ↔
    f.FirstFile w directory path format bytes := by
  rw [find?_eq, List.findSome?_eq_some_iff]
  constructor
  · rintro ⟨before, c, after, hsplit, hc, hbefore⟩
    obtain ⟨rfl, hentry⟩ := lookAt_eq_some hc
    exact ⟨before, after, hsplit, hentry, fun b hb => lookAt_eq_none.mp (hbefore b hb)⟩
  · rintro ⟨before, after, hsplit, hentry, hbefore⟩
    exact ⟨before, _, after, hsplit, lookAt_of_entry hentry,
      fun b hb => lookAt_eq_none.mpr (hbefore b hb)⟩

theorem Holds.unique {es fs : List (String × ConfigValue)} (h : f.Holds w directory es)
    (h' : f.Holds w directory fs) : es = fs := by
  obtain ⟨path, format, bytes, text, hfirst, hdecode, hparse⟩ := h
  obtain ⟨path', format', bytes', text', hfirst', hdecode', hparse'⟩ := h'
  have hfind := (find?_eq_some_iff.mpr hfirst).symm.trans (find?_eq_some_iff.mpr hfirst')
  obtain ⟨⟩ := hfind
  obtain rfl := Except.ok.inj (hdecode.symm.trans hdecode')
  exact ConfigValue.table.inj (Option.some.inj (hparse.symm.trans hparse'))

/-- The extensions in the order in which they are tried. -/
example : base.candidates "d" =
    [("d/base.yaml", .yaml), ("d/base.yml", .yaml), ("d/base.json", .json)] := by
  decide +kernel

theorem missing_of_find? (h : f.find? w directory = none) : f.Missing w directory := by
  rw [find?_eq] at h
  exact fun c hc => lookAt_eq_none.mp (List.findSome?_eq_none_iff.mp h c hc)

theorem holds_of_layerOf {found : String × Layer.Format × List UInt8} {layer : Layer}
    (hfind : f.find? w directory = some found)
    (h : ClientConfig.layerOf f found = .ok layer) :
    ∃ es, f.Holds w directory es ∧ layer = .ofTable (.table es) := by
  unfold ClientConfig.layerOf at h
  split at h
  · next layer' hlayer =>
    obtain rfl := Except.ok.inj h
    obtain ⟨text, es, hdecode, hparse, rfl⟩ := Layer.ofFile?_eq_some hlayer
    exact ⟨es, ⟨_, _, _, text, find?_eq_some_iff.mp hfind, hdecode, hparse⟩, rfl⟩
  · contradiction

theorem holds_of_baseLayer {layer : Layer}
    (h : ClientConfig.baseLayer w directory = .ok layer) :
    ∃ es, base.Holds w directory es ∧ layer = .ofTable (.table es) := by
  unfold ClientConfig.baseLayer at h
  split at h
  · next found hfind => exact holds_of_layerOf hfind h
  · contradiction

theorem holds_of_environmentLayer {e : Environment} {layer : Layer}
    (h : ClientConfig.environmentLayer w directory e = .ok layer) :
    ∃ es, ((environment e).Holds w directory es ∨
      (environment e).Missing w directory ∧ es = []) ∧ layer = .ofTable (.table es) := by
  unfold ClientConfig.environmentLayer at h
  split at h
  · next found hfind =>
    obtain ⟨es, hes, hlayer⟩ := holds_of_layerOf hfind h
    exact ⟨es, .inl hes, hlayer⟩
  · next hfind =>
    obtain rfl := Except.ok.inj h
    exact ⟨[], .inr ⟨missing_of_find? hfind, rfl⟩, rfl⟩

end ConfigFile

/-- Wherever loading would try a path, it has found a file before. -/
def Unread (w : Surroundings) (directory path : String) : Prop :=
  ∀ f : ConfigFile, f.Wanted w → ∀ before c after,
    f.candidates directory = before ++ c :: after → c.1 = path → ∃ b ∈ before, w.IsFile b.1

/-- Two surroundings that differ in nothing but unread paths. -/
structure DiffersUnread (w other : Surroundings) (directory : String) : Prop where
  environment : other.environment = w.environment
  place : other.entry? directory = w.entry? directory
  paths : ∀ path, other.entry? path ≠ w.entry? path → Unread w directory path

section Unread

variable {w other : Surroundings} {directory : String}

/-- A file is unread if it is the first one of no name. -/
theorem unread_of_isFile {path : String} (hfile : w.IsFile path)
    (hnot : ∀ (f : ConfigFile) (format : Layer.Format) (bytes : List UInt8), f.Wanted w →
      ¬f.FirstFile w directory path format bytes) : Unread w directory path := by
  rintro f hf before ⟨path, format⟩ after hsplit rfl
  obtain ⟨bytes, hbytes⟩ := hfile
  by_contra hnone
  have hfirst (b : String × Layer.Format) (hb : b ∈ before) : ¬w.IsFile b.1 :=
    fun hb' => hnone ⟨b, hb, hb'⟩
  exact hnot f format bytes hf ⟨before, after, hsplit, hbytes, hfirst⟩

theorem DiffersUnread.environment? (h : DiffersUnread w other directory) :
    other.environment? = w.environment? := by
  rw [Surroundings.environment?, h.environment, Surroundings.environment?]

/-- The search ends at the first file, so entries after it have no part in it. -/
theorem findSome?_lookAt {candidates : List (String × Layer.Format)}
    (h : ∀ before c after, candidates = before ++ c :: after → other.entry? c.1 ≠ w.entry? c.1 →
      ∃ b ∈ before, w.IsFile b.1) :
    candidates.findSome? (ConfigFile.lookAt other) =
      candidates.findSome? (ConfigFile.lookAt w) := by
  induction candidates with
  | nil => rfl
  | cons c rest ih =>
    -- No file comes before the first candidate, so it is the same in both.
    have hsame : other.entry? c.1 = w.entry? c.1 := by
      by_contra hne
      obtain ⟨b, hb, -⟩ := h [] c rest rfl hne
      contradiction
    have hlook : ConfigFile.lookAt other c = ConfigFile.lookAt w c := by
      rw [ConfigFile.lookAt, ConfigFile.lookAt, hsame]
    rw [List.findSome?_cons, List.findSome?_cons, hlook]
    split
    · rfl
    · next hnone =>
      refine ih fun before c' after hsplit hne => ?_
      obtain ⟨b, hb, hfile⟩ := h (c :: before) c' after (by rw [hsplit]; rfl) hne
      rcases List.mem_cons.mp hb with rfl | hb
      · exact absurd hfile (ConfigFile.lookAt_eq_none.mp hnone)
      · exact ⟨b, hb, hfile⟩

theorem DiffersUnread.find? (h : DiffersUnread w other directory) {f : ConfigFile}
    (hf : f.Wanted w) : f.find? other directory = f.find? w directory := by
  rw [ConfigFile.find?_eq, ConfigFile.find?_eq]
  exact findSome?_lookAt fun before c after hsplit hne =>
    h.paths c.1 hne f hf before c after hsplit rfl

theorem DiffersUnread.load (h : DiffersUnread w other directory) :
    ClientConfig.load other directory = ClientConfig.load w directory := by
  have hbase : ClientConfig.baseLayer other directory = ClientConfig.baseLayer w directory := by
    rw [ClientConfig.baseLayer, ClientConfig.baseLayer, h.find? (.inl rfl)]
  have henvironment (e : Environment) (he : w.environment? = .ok e) :
      ClientConfig.environmentLayer other directory e =
        ClientConfig.environmentLayer w directory e := by
    rw [ClientConfig.environmentLayer, ClientConfig.environmentLayer,
      h.find? (.inr ⟨e, he, rfl⟩)]
  rw [ClientConfig.load_eq, ClientConfig.load_eq, h.place, h.environment?, h.environment, hbase]
  split
  · rfl
  · split
    · rfl
    · next e he => rw [henvironment e he]

end Unread

/-- What a successful load has read: the first base file, the first file of the environment if it
has one, and the variables. -/
theorem sources_of_load {w : Surroundings} {directory : String} {c : ClientConfig}
    (h : ClientConfig.load w directory = .ok c) :
    ∃ e base environment, w.environment? = .ok e ∧ ConfigFile.base.Holds w directory base ∧
      ((ConfigFile.environment e).Holds w directory environment ∨
        (ConfigFile.environment e).Missing w directory ∧ environment = []) ∧
      ClientConfig.ofValue? (Layer.stack ((w.sources base environment).map Source.layer)) =
        some c := by
  rw [ClientConfig.load_eq] at h
  split at h
  · contradiction
  · split at h
    · contradiction
    · next e he =>
      split at h
      · contradiction
      · next layer hlayer =>
        obtain ⟨base, hbase, rfl⟩ := ConfigFile.holds_of_baseLayer hlayer
        split at h
        · contradiction
        · next layer hlayer =>
          obtain ⟨environment, henvironment, rfl⟩ := ConfigFile.holds_of_environmentLayer hlayer
          rw [← w.stack_sources] at h
          split at h
          · next c' hc =>
            obtain rfl := Except.ok.inj h
            exact ⟨e, base, environment, he, hbase, henvironment, hc⟩
          · contradiction

def baseMembers : List (String × Json) :=
  [("service", .object [("endpoint", .string "http://h"), ("project", .string "p")]),
    ("poll", .object [("interval_ms", .integer 5)])]

def prodMembers : List (String × Json) :=
  [("poll", .object [("interval_ms", .integer 6)])]

/-- A base file, a file of the second environment, and a variable over both. -/
def layered : Surroundings where
  entry? path :=
    if path = "conf" then some .directory
    else if path = "conf/base.json" then
      some (.file (Text.Utf8.encode (Json.object baseMembers).render))
    else if path = "conf/prod.json" then
      some (.file (Text.Utf8.encode (Json.object prodMembers).render))
    else none
  environment := [("APP_ENVIRONMENT", "PROD"), ("App_Poll__Interval_Ms", "7")]

theorem ConfigFile.holds_of_render {f : ConfigFile} {w : Surroundings} {directory path : String}
    {members : List (String × Json)} (hexact : Json.Exact (.object members))
    (hplain : Json.isPlain Json.depthLimit (.object members) = true)
    (hdecode : Text.Utf8.decode (Text.Utf8.encode (Json.object members).render) =
      .ok (Json.object members).render)
    (hfirst : f.FirstFile w directory path .json
      (Text.Utf8.encode (Json.object members).render)) :
    f.Holds w directory (ConfigValue.ofMembers members) := by
  refine ⟨path, .json, _, _, hfirst, hdecode, ?_⟩
  simp only [Layer.Format.parse?, Json.parse?_render hexact, Option.bind_some, Json.plain?, hplain,
    if_true]
  rfl

theorem holds_base : ConfigFile.base.Holds layered "conf" (ConfigValue.ofMembers baseMembers) := by
  have hfirst : ConfigFile.base.FirstFile layered "conf" "conf/base.json" .json
      (Text.Utf8.encode (Json.object baseMembers).render) :=
    ⟨[("conf/base.yaml", .yaml), ("conf/base.yml", .yaml)], [], by decide +kernel, rfl,
      by simp [layered, Surroundings.IsFile]⟩
  refine ConfigFile.holds_of_render ?_ (by decide +kernel) (by decide +kernel) hfirst
  simp [baseMembers, Json.Exact, Json.ExactMembers, Json.FitsWord]

theorem holds_prod :
    (ConfigFile.environment .prod).Holds layered "conf" (ConfigValue.ofMembers prodMembers) := by
  have hfirst : (ConfigFile.environment .prod).FirstFile layered "conf" "conf/prod.json" .json
      (Text.Utf8.encode (Json.object prodMembers).render) :=
    ⟨[("conf/prod.yaml", .yaml), ("conf/prod.yml", .yaml)], [], by decide +kernel, rfl,
      by simp [layered, Surroundings.IsFile]⟩
  refine ConfigFile.holds_of_render ?_ (by decide +kernel) (by decide +kernel) hfirst
  simp [prodMembers, Json.Exact, Json.ExactMembers, Json.FitsWord]

end TableExchange
