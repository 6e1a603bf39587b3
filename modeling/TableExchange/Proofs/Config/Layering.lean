import Mathlib.Data.List.Induction
import TableExchange.Config.Section
import TableExchange.Proofs.Config.Overlay

/-!
Layers over one another. Every field of the sections is read from the last layer that gives it, each
field by itself, and takes its default where no layer does.
-/
namespace TableExchange

open ConfigValue

/-- Whether a value is the empty table, which gives nothing. -/
def ConfigValue.isHollow : ConfigValue → Bool
  | table [] => true
  | _ => false

theorem ConfigValue.Shows.not_hollow {g f : ConfigValue} (h : Shows g f) : g.isHollow = false := by
  match g, h with
  | .table (_ :: _), _ => rfl
  | .table [], .table hne _ => exact absurd rfl hne
  | .nil, _ | .bool _, _ | .integer _, _ | .real _, _ | .text _, _ | .list _, _ => rfl

/-- What lies at a field of a stack, and what the last layer gives that gives anything there. -/
inductive Carries : Option ConfigValue → Option ConfigValue → Prop
  | absent : Carries none none
  | hollow : Carries (some (.table [])) none
  | shown {g f : ConfigValue} (h : Shows g f) : Carries (some f) (some g)

theorem Carries.overlay {below last a f : Option ConfigValue} (h : Carries below last)
    (hgiven : Given below a f) : Carries f ((a.filter fun v => !v.isHollow).or last) := by
  cases hgiven with
  | nothing => exact h
  | hollow =>
    cases h with
    | absent => exact .hollow
    | hollow => exact .hollow
    | shown h => exact .shown h
  | shown hshows =>
    simp only [Option.filter, hshows.not_hollow]
    exact .shown hshows

namespace Layer

/-- The layer gives no section anything but a table. -/
def GivesSections (sections : List (List String)) (layer : Layer) : Prop :=
  ∀ e ∈ layer, GivesTablesAt sections [] e.1 e.2

def given? (names : List String) (layer : Layer) : Option ConfigValue :=
  ((putOn (.table []) layer).part? names).filter fun v => !v.isHollow

/-- What the last layer gives that gives anything at some names. -/
def lastGiven? (names : List String) (layers : List Layer) : Option ConfigValue :=
  (layers.filterMap (given? names)).getLast?

theorem lastGiven?_concat (names : List String) (layers : List Layer) (layer : Layer) :
    lastGiven? names (layers ++ [layer]) = (layer.given? names).or (lastGiven? names layers) := by
  cases h : layer.given? names <;> simp [lastGiven?, h]

theorem stack_concat (layers : List Layer) (layer : Layer) :
    stack (layers ++ [layer]) = putOn (stack layers) layer := by
  simp [stack]

variable {sections : List (List String)} {k : String} {names : List String}

theorem along_putOn {layer : Layer} (hlayer : layer.GivesSections sections)
    (hwithin : Within sections [] names) {below : Option ConfigValue} {x y : ConfigValue}
    (h : Along names below (some x) (some y)) :
    Along names below (some (putOn x layer)) (some (putOn y layer)) := by
  induction layer generalizing x y with
  | nil => exact h
  | cons e rest ih =>
    have he := hlayer e List.mem_cons_self
    exact ih (fun e' he' => hlayer e' (List.mem_cons_of_mem _ he')) (h.overlayAt he hwithin)

theorem tablesAlong_none (names : List String) : TablesAlong names none := by
  induction names with
  | nil => trivial
  | cons k names ih => exact ⟨nofun, ih⟩

/-- A stack has tables on the way to a field, and at the field what the last layer gives. -/
theorem stack_carries {layers : List Layer} (hlayers : ∀ l ∈ layers, l.GivesSections sections)
    (hwithin : Within sections [] (k :: names)) :
    TablesAlong (k :: names) (some (stack layers)) ∧
      Carries ((stack layers).part? (k :: names)) (lastGiven? (k :: names) layers) := by
  induction layers using List.reverseRecOn with
  | nil => exact ⟨⟨isTable_table [], tablesAlong_none names⟩, .absent⟩
  | append_singleton layers layer ih =>
    -- The layer by itself starts from the empty table, which stands in for nothing.
    obtain ⟨htables, hcarries⟩ := ih fun l hl => hlayers l (List.mem_append_left _ hl)
    have hlayer := hlayers layer (by simp)
    have halong := along_putOn hlayer hwithin (Along.start htables).getD
    rw [stack_concat, lastGiven?_concat]
    exact ⟨halong.tablesAlong, hcarries.overlay halong.given⟩

/-- A layer that gives one field of a section leaves the others to the layers below it. -/
example : [["service", "endpoint"], ["service", "project"]].map (lastGiven? · [
    [([.entry "service"], .table [("endpoint", .text "e"), ("project", .text "p")])],
    [([.entry "Service", .entry "project"], .text "q")]]) =
      [some (.text "e"), some (.text "q")] := by
  cbv

end Layer

section Readers

variable {α : Type} {read : ConfigValue → Option α}

/-- A reader of scalars: no list can be read, and of a table only the name of its one entry. -/
structure ReadsScalar (read : ConfigValue → Option α) : Prop where
  list : ∀ vs, read (.list vs) = none
  table : ∀ {es a}, read (.table es) = some a →
    ∃ k v, es = [(k, v)] ∧ ∀ w, read (.table [(k, w)]) = some a

theorem readsScalar_text : ReadsScalar toText? :=
  ⟨fun _ => rfl, nofun⟩

theorem readsScalar_word : ReadsScalar toWord? :=
  ⟨fun _ => rfl, nofun⟩

theorem readsScalar_variant (alternatives : List (String × α)) :
    ReadsScalar (toVariant? alternatives) := by
  refine ⟨fun _ => rfl, fun {es a} h => ?_⟩
  match es with
  | [(k, v)] => exact ⟨k, v, rfl, fun _ => h⟩

theorem ConfigValue.Named.eq_singleton {es : List (String × ConfigValue)} {k : String}
    {v : ConfigValue} (hne : es ≠ []) (h : Named es [(k, v)]) : ∃ w, es = [(k, w)] := by
  have honly (e : String × ConfigValue) (he : e ∈ es) : e.1 = k := by
    simpa using h.among (List.mem_map_of_mem he)
  match es, hne with
  | [e], _ => exact ⟨e.2, by rw [← honly e List.mem_cons_self]⟩
  | e :: e' :: rest, _ =>
    have hdistinct := (List.nodup_cons.mp h.nodup).1
    have hsame : e.1 = e'.1 := by rw [honly e (by simp), honly e' (by simp)]
    simp [hsame] at hdistinct

theorem ConfigValue.Shows.read_eq (h : ReadsScalar read) {g f : ConfigValue} (hshows : Shows g f)
    {a : α} (hread : read f = some a) : read g = some a := by
  cases hshows with
  | scalar => exact hread
  | list vs ws => simp [h.list] at hread
  | table hne hnamed =>
    obtain ⟨k, v, rfl, hname⟩ := h.table hread
    obtain ⟨w, rfl⟩ := hnamed.eq_singleton hne
    exact hname w

def ReadsLast (field : Option ConfigValue → Option α) : Prop :=
  ∀ {f last a}, Carries f last → field f = some a → field last = some a

theorem ReadsScalar.table_nil (h : ReadsScalar read) : read (.table []) = none := by
  cases hread : read (.table []) with
  | none => rfl
  | some a =>
    obtain ⟨k, v, hnil, -⟩ := h.table hread
    contradiction

theorem readsLast_required (h : ReadsScalar read) : ReadsLast (required read) := by
  intro f last a hcarries hread
  cases hcarries with
  | absent => exact hread
  | hollow => simp [required, h.table_nil] at hread
  | shown hshows => exact hshows.read_eq h hread

theorem readsLast_orElse (h : ReadsScalar read) (default : α) :
    ReadsLast (orElse read default) := by
  intro f last a hcarries hread
  cases hcarries with
  | absent => exact hread
  | hollow => simp [orElse, h.table_nil] at hread
  | shown hshows => exact hshows.read_eq h hread

theorem readsLast_optional (h : ReadsScalar read) : ReadsLast (ConfigValue.optional read) := by
  intro f last a hcarries hread
  cases hcarries with
  | absent => exact hread
  | hollow => simp [ConfigValue.optional, h.table_nil] at hread
  | shown hshows =>
    cases hshows with
    | scalar => exact hread
    | list vs ws => simp [ConfigValue.optional, h.list] at hread
    | table hne hnamed =>
      obtain ⟨b, hb, rfl⟩ := Option.map_eq_some_iff.mp hread
      have hlast := (Shows.table hne hnamed).read_eq h hb
      simp [ConfigValue.optional, hlast]

end Readers

theorem ConfigValue.part?_pair (k n : String) (v : ConfigValue) :
    v.part? [k, n] = under n (v.entry? k) := by
  simp [part?, under]

theorem ConfigValue.part?_triple (k n m : String) (v : ConfigValue) :
    v.part? [k, n, m] = under m (under n (v.entry? k)) := by
  simp [part?, under, Option.bind_assoc]

theorem ServiceConfig.fields_of_ofValue? {o : Option ConfigValue} (ho : IsTable o)
    {c : ServiceConfig} (h : required ofValue? o = some c) :
    required toText? (under "endpoint" o) = some c.endpoint ∧
      required toText? (under "project" o) = some c.project ∧
      orElse toText? "default" (under "schema" o) = some c.schema ∧
      ConfigValue.optional toText? (under "access_token" o) = some c.accessToken ∧
      orElse toWord? 60000 (under "request_timeout_ms" o) = some c.requestTimeoutMs ∧
      ConfigValue.optional toText? (under "log_view_host" o) = some c.logViewHost := by
  cases o with
  | none => contradiction
  | some v =>
    obtain ⟨es, rfl⟩ := ho v rfl
    obtain ⟨endpoint, he, h⟩ := Option.bind_eq_some_iff.mp h
    obtain ⟨project, hp, h⟩ := Option.bind_eq_some_iff.mp h
    obtain ⟨schema, hs, h⟩ := Option.bind_eq_some_iff.mp h
    obtain ⟨token, ha, h⟩ := Option.bind_eq_some_iff.mp h
    obtain ⟨timeout, ht, h⟩ := Option.bind_eq_some_iff.mp h
    obtain ⟨host, hl, h⟩ := Option.bind_eq_some_iff.mp h
    obtain rfl := Option.some.inj h
    exact ⟨he, hp, hs, ha, ht, hl⟩

theorem PollConfig.fields_of_ofValue? {o : Option ConfigValue} (ho : IsTable o)
    {c : PollConfig} (h : orElse ofValue? {} o = some c) :
    orElse toWord? 3000 (under "interval_ms" o) = some c.intervalMs ∧
      orElse toText? "console_sqlrt_task" (under "task_name" o) = some c.taskName := by
  cases o with
  | none =>
    obtain rfl := Option.some.inj h
    exact ⟨rfl, rfl⟩
  | some v =>
    obtain ⟨es, rfl⟩ := ho v rfl
    obtain ⟨interval, hi, h⟩ := Option.bind_eq_some_iff.mp h
    obtain ⟨task, ht, h⟩ := Option.bind_eq_some_iff.mp h
    obtain rfl := Option.some.inj h
    exact ⟨hi, ht⟩

theorem ConfigValue.orElse_of_required {α : Type} {read : ConfigValue → Option α}
    {o : Option ConfigValue} {a default : α} (h : required read o = some a) :
    orElse read default o = some a := by
  cases o with
  | none => contradiction
  | some v => exact h

theorem DataFormat.fields_of_ofValue? {o : Option ConfigValue} (ho : IsTable o)
    {c : DataFormat} (h : orElse ofValue? {} o = some c) :
    orElse (toVariant? DataLayout.wireNames) .arrow (under "type" o) = some c.layout ∧
      orElse (toVariant? DataVersion.wireNames) .v1 (under "version" o) =
        some c.version := by
  cases o with
  | none =>
    obtain rfl := Option.some.inj h
    exact ⟨rfl, rfl⟩
  | some v =>
    obtain ⟨es, rfl⟩ := ho v rfl
    obtain ⟨layout, ht, h⟩ := Option.bind_eq_some_iff.mp h
    obtain ⟨version, hv, h⟩ := Option.bind_eq_some_iff.mp h
    obtain rfl := Option.some.inj h
    exact ⟨orElse_of_required ht, orElse_of_required hv⟩

theorem WriterConfig.fields_of_ofValue? {o : Option ConfigValue} (ho : IsTable o)
    {c : WriterConfig} (h : orElse ofValue? {} o = some c) :
    orElse DataFormat.ofValue? {} (under "data_format" o) = some c.dataFormat ∧
      orElse (toVariant? ConflictPolicy.wireNames) .reject
        (under "commit_conflict_policy" o) = some c.conflictPolicy := by
  cases o with
  | none =>
    obtain rfl := Option.some.inj h
    exact ⟨rfl, rfl⟩
  | some v =>
    obtain ⟨es, rfl⟩ := ho v rfl
    obtain ⟨format, hf, h⟩ := Option.bind_eq_some_iff.mp h
    obtain ⟨policy, hp, h⟩ := Option.bind_eq_some_iff.mp h
    obtain rfl := Option.some.inj h
    exact ⟨hf, hp⟩

namespace ClientConfig

/-- The names of the sections, the whole being the section without a name. -/
def sections : List (List String) :=
  [[], ["service"], ["poll"], ["writer"], ["writer", "data_format"]]

/-- Every field is read from what was given last at its names, each field by itself, and has its
default if nothing was. -/
structure Follows (last : List String → Option ConfigValue) (c : ClientConfig) : Prop where
  endpoint : required toText? (last ["service", "endpoint"]) =
    some c.service.endpoint
  project : required toText? (last ["service", "project"]) =
    some c.service.project
  schema : orElse toText? "default" (last ["service", "schema"]) =
    some c.service.schema
  accessToken : ConfigValue.optional toText?
    (last ["service", "access_token"]) = some c.service.accessToken
  requestTimeoutMs : orElse toWord? 60000
    (last ["service", "request_timeout_ms"]) = some c.service.requestTimeoutMs
  logViewHost : ConfigValue.optional toText?
    (last ["service", "log_view_host"]) = some c.service.logViewHost
  intervalMs : orElse toWord? 3000 (last ["poll", "interval_ms"]) =
    some c.poll.intervalMs
  taskName : orElse toText? "console_sqlrt_task"
    (last ["poll", "task_name"]) = some c.poll.taskName
  layout : orElse (toVariant? DataLayout.wireNames) .arrow
    (last ["writer", "data_format", "type"]) = some c.writer.dataFormat.layout
  version : orElse (toVariant? DataVersion.wireNames) .v1
    (last ["writer", "data_format", "version"]) =
      some c.writer.dataFormat.version
  conflictPolicy : orElse (toVariant? ConflictPolicy.wireNames) .reject
    (last ["writer", "commit_conflict_policy"]) = some c.writer.conflictPolicy

section Stack

def stacked (layers : List Layer) (k : String) : Option ConfigValue :=
  ConfigValue.entry? k (Layer.stack layers)

variable {layers : List Layer} (hlayers : ∀ l ∈ layers, l.GivesSections sections)
include hlayers

theorem stacked_isTable {k : String} (hk : [k] ∈ sections) : IsTable (stacked layers k) := by
  have hwithin : Within sections [] [k, ""] := ⟨by decide, hk, trivial⟩
  exact (Layer.stack_carries hlayers hwithin).1.2.1

theorem stacked_part_isTable {k n : String} (hk : [k] ∈ sections) (hn : [k, n] ∈ sections) :
    IsTable (under n (stacked layers k)) := by
  have hwithin : Within sections [] [k, n, ""] := ⟨by decide, hk, hn, trivial⟩
  exact (Layer.stack_carries hlayers hwithin).1.2.2.1

theorem stacked_carries {k n : String} (hk : [k] ∈ sections) :
    Carries (under n (stacked layers k)) (Layer.lastGiven? [k, n] layers) := by
  have hwithin : Within sections [] [k, n] := ⟨by decide, hk, trivial⟩
  have hcarries := (Layer.stack_carries hlayers hwithin).2
  rwa [part?_pair] at hcarries

theorem stacked_part_carries {k n m : String} (hk : [k] ∈ sections) (hn : [k, n] ∈ sections) :
    Carries (under m (under n (stacked layers k))) (Layer.lastGiven? [k, n, m] layers) := by
  have hwithin : Within sections [] [k, n, m] := ⟨by decide, hk, hn, trivial⟩
  have hcarries := (Layer.stack_carries hlayers hwithin).2
  rwa [part?_triple] at hcarries

/-- The sections of a configuration are read from the entries of the stack. -/
theorem sections_of_ofValue? {c : ClientConfig} (h : ofValue? (Layer.stack layers) = some c) :
    required ServiceConfig.ofValue? (stacked layers "service") = some c.service ∧
      orElse PollConfig.ofValue? {} (stacked layers "poll") = some c.poll ∧
      orElse WriterConfig.ofValue? {} (stacked layers "writer") = some c.writer := by
  have hwithin : Within sections [] [""] := ⟨by decide, trivial⟩
  obtain ⟨es, hes⟩ := (Layer.stack_carries hlayers hwithin).1.1 _ rfl
  simp only [stacked, hes]
  rw [hes] at h
  obtain ⟨service, hs, h⟩ := Option.bind_eq_some_iff.mp h
  obtain ⟨poll, hp, h⟩ := Option.bind_eq_some_iff.mp h
  obtain ⟨writer, hw, h⟩ := Option.bind_eq_some_iff.mp h
  obtain rfl := Option.some.inj h
  exact ⟨hs, hp, hw⟩

theorem follows_of_ofValue? {c : ClientConfig} (h : ofValue? (Layer.stack layers) = some c) :
    Follows (Layer.lastGiven? · layers) c := by
  obtain ⟨hservice, hpoll, hwriter⟩ := sections_of_ofValue? hlayers h
  have hs : ["service"] ∈ sections := by decide
  have hp : ["poll"] ∈ sections := by decide
  have hw : ["writer"] ∈ sections := by decide
  have hd : ["writer", "data_format"] ∈ sections := by decide
  obtain ⟨hendpoint, hproject, hschema, htoken, htimeout, hhost⟩ :=
    ServiceConfig.fields_of_ofValue? (stacked_isTable hlayers hs) hservice
  obtain ⟨hinterval, htask⟩ := PollConfig.fields_of_ofValue? (stacked_isTable hlayers hp) hpoll
  obtain ⟨hformat, hpolicy⟩ :=
    WriterConfig.fields_of_ofValue? (stacked_isTable hlayers hw) hwriter
  obtain ⟨hlayout, hversion⟩ :=
    DataFormat.fields_of_ofValue? (stacked_part_isTable hlayers hw hd) hformat
  have htext : ReadsLast (required toText?) := readsLast_required readsScalar_text
  have hoptional : ReadsLast (ConfigValue.optional toText?) := readsLast_optional readsScalar_text
  exact {
    endpoint := htext (stacked_carries hlayers hs) hendpoint
    project := htext (stacked_carries hlayers hs) hproject
    schema := readsLast_orElse readsScalar_text _ (stacked_carries hlayers hs) hschema
    accessToken := hoptional (stacked_carries hlayers hs) htoken
    requestTimeoutMs := readsLast_orElse readsScalar_word _ (stacked_carries hlayers hs) htimeout
    logViewHost := hoptional (stacked_carries hlayers hs) hhost
    intervalMs := readsLast_orElse readsScalar_word _ (stacked_carries hlayers hp) hinterval
    taskName := readsLast_orElse readsScalar_text _ (stacked_carries hlayers hp) htask
    layout :=
      readsLast_orElse (readsScalar_variant _) _ (stacked_part_carries hlayers hw hd) hlayout
    version :=
      readsLast_orElse (readsScalar_variant _) _ (stacked_part_carries hlayers hw hd) hversion
    conflictPolicy :=
      readsLast_orElse (readsScalar_variant _) _ (stacked_carries hlayers hw) hpolicy }

end Stack

end ClientConfig

end TableExchange
