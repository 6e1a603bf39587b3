import TableExchange.Interactive.Instance
import TableExchange.Proofs.Json.Fields
import TableExchange.Table.Block
import TableExchange.Table.Session
import TableExchange.Table.Split

/-!
Values that are shipped as text. A value is written as the compact text of its record and read from
any text; each kind of value comes back from its own text unchanged, and a value that was read once
comes back from then on.
-/
namespace TableExchange

def shipped {α : Type} (write : α → Json) (a : α) : String :=
  (write a).render

def received? {α : Type} (read : Json → Option α) (text : String) : Option α :=
  (Json.parse? text).bind read

/-- Shipping keeps the values that are meant, and only those are ever received. -/
structure Survives {α : Type} (write : α → Json) (read : Json → Option α) (Meant : α → Prop) :
    Prop where
  arrives : ∀ a, Meant a → received? read (shipped write a) = some a
  meant : ∀ text a, received? read text = some a → Meant a
  again : ∀ text a, received? read text = some a → received? read (shipped write a) = some a

theorem received?_shipped {α : Type} {write : α → Json} {read : Json → Option α}
    {Meant : α → Prop} (h : Json.Inverts read write Meant) {a : α} (ha : Meant a) :
    received? read (shipped write a) = some a := by
  rw [received?, shipped, Json.parse?_render (h.exact a), Option.bind_some, h.back ha]

theorem survives_of_inverts {α : Type} {write : α → Json} {read : Json → Option α}
    {Meant : α → Prop} (h : Json.Inverts read write Meant) : Survives write read Meant where
  arrives _ ha := received?_shipped h ha
  meant text a htext := by
    obtain ⟨j, -, hj⟩ := Option.bind_eq_some_iff.mp htext
    exact h.meant hj
  again text a htext := by
    obtain ⟨j, -, hj⟩ := Option.bind_eq_some_iff.mp htext
    exact received?_shipped h (h.meant hj)

section Records

open Json

theorem TableRef.inverts : InvertsAll ofJson? toJson := by
  refine invertsAll (fun t => ?_) fun t => exact_texts _
  have hslots : t.toJson.slots ["project", "schema", "table"] = some
      [.given (.string t.project), .given (.string t.schema), .given (.string t.table)] := rfl
  simp [ofJson?, hslots, inverts_text.read_write]

theorem CommitMessage.inverts : InvertsAll ofJson? toJson := by
  refine invertsAll (fun m => ?_) fun m =>
    ⟨inverts_word64.exact _, inverts_word32.exact _, trivial, trivial⟩
  have hslots : m.toJson.slots ["block_number", "attempt", "token"] = some
      [.given (.nat m.block.toNat), .given (.nat m.attempt.toNat), .given (.string m.token)] := rfl
  simp [ofJson?, hslots, inverts_text.read_write, inverts_word32.read_write,
    inverts_word64.read_write]

theorem Split.inverts : InvertsAll ofJson? toJson := by
  refine invertsAll (fun s => ?_) fun s => exact_texts _
  have hslots : s.toJson.slots ["key", "locator"] = some
      [.given (.string s.key), .given (.string s.locator)] := rfl
  simp [ofJson?, hslots, inverts_text.read_write]

theorem Marker.inverts : InvertsAll ofJson? toJson :=
  invertsAll (fun _ => rfl) fun _ => trivial

theorem InstanceId.inverts : InvertsAll ofJson? toJson := by
  refine invertsAll (fun i => ?_) fun i => exact_texts _
  have hslots : i.toJson.slots ["project", "id"] = some
      [.given (.string i.project), .given (.string i.id)] := rfl
  simp [ofJson?, hslots, inverts_text.read_write]

theorem LaunchProgress.inverts : InvertsAll ofJson? toJson := by
  refine invertsAll (fun p => ?_) fun p =>
    ⟨inverts_word32.exact _, inverts_word32.exact _, inverts_word32.exact _, trivial⟩
  have hslots : p.toJson.slots
      ["totalWorkerCount", "launchedWorkerCount", "launchedPercentage"] = some
        [.given (.nat p.totalWorkers.toNat), .given (.nat p.launchedWorkers.toNat),
          .given (.nat p.percentage.toNat)] := rfl
  simp [ofJson?, hslots, inverts_word32.read_write]

/-- A text or null. -/
theorem inverts_textOrNull : InvertsAll (nullOr text?) (.optional .string) :=
  inverts_optional_all inverts_text fun _ => nofun

theorem WriteOptions.inverts : InvertsAll ofJson? toJson := by
  refine invertsAll (fun o => ?_) fun o => ⟨trivial, inverts_textOrNull.exact _, trivial⟩
  have hslots : o.toJson.slots ["overwrite", "partition"] = some
      [.given (.bool o.overwrite), .given (.optional .string o.partition)] := rfl
  simp [ofJson?, hslots, inverts_bool.read_write, inverts_textOrNull.read_write]

theorem Scope.inverts : InvertsAll ofJson? toJson := by
  have htexts := inverts_list inverts_text
  have hsize : InvertsAll (nullOr word32?) (.optional fun n => .nat n.toNat) :=
    inverts_optional_all inverts_word32 fun _ => nofun
  refine invertsAll (fun s => ?_) fun s =>
    ⟨htexts.exact _, htexts.exact _, inverts_textOrNull.exact _, hsize.exact _, trivial⟩
  have hslots : s.toJson.slots ["partitions", "columns", "filter", "page_size"] = some
      [.given (.array (s.partitions.map .string)), .given (.array (s.columns.map .string)),
        .given (.optional .string s.filter),
        .given (.optional (fun n => .nat n.toNat) s.pageSize)] := rfl
  simp [ofJson?, hslots, htexts.read_write, inverts_textOrNull.read_write, hsize.read_write]

theorem DataFormat.inverts : InvertsAll ofJson? toJson := by
  have hlayout : InvertsAll (variant? DataLayout.wireNames) (variantText DataLayout.wireNames) :=
    inverts_variant (by rintro ⟨⟩ <;> rfl)
  have hversion : InvertsAll (variant? DataVersion.wireNames)
      (variantText DataVersion.wireNames) :=
    inverts_variant (by rintro ⟨⟩; rfl)
  refine invertsAll (fun f => ?_) fun f => ⟨hlayout.exact _, hversion.exact _, trivial⟩
  have hslots : f.toJson.slots ["type", "version"] = some
      [.given (variantText DataLayout.wireNames f.layout),
        .given (variantText DataVersion.wireNames f.version)] := rfl
  simp [ofJson?, hslots, hlayout.read_write, hversion.read_write]

theorem SessionKind.inverts : InvertsAll ofJson? toJson :=
  inverts_variant (by rintro ⟨⟩ <;> rfl)

theorem SessionStatus.inverts : InvertsAll ofJson? toJson :=
  inverts_variant (by rintro ⟨⟩ <;> rfl)

theorem TaskStatus.inverts : InvertsAll ofJson? toJson :=
  inverts_variant (by rintro ⟨⟩ <;> rfl)

theorem TableSession.inverts : InvertsAll ofJson? toJson := by
  refine invertsAll (fun s => ?_) fun s =>
    ⟨trivial, TableRef.inverts.exact _, SessionKind.inverts.exact _,
      SessionStatus.inverts.exact _, inverts_textOrNull.exact _, inverts_textOrNull.exact _,
      trivial⟩
  have hslots : s.toJson.slots ["id", "table", "kind", "status", "message", "log_view"] = some
      [.given (.string s.id), .given s.table.toJson, .given s.kind.toJson,
        .given s.status.toJson, .given (.optional .string s.message),
        .given (.optional .string s.logView)] := rfl
  simp [ofJson?, hslots, inverts_text.read_write, TableRef.inverts.read_write,
    SessionKind.inverts.read_write, SessionStatus.inverts.read_write,
    inverts_textOrNull.read_write]

/-- No known status is spelt by its code. -/
def ObjectStatus.Canonical (s : ObjectStatus) : Prop :=
  ∀ c, s = .other c → c ∉ ([2, 4, 5, 6] : List Int32)

theorem ObjectStatus.canonical_ofCode (n : Int32) : (ofCode n).Canonical := by
  unfold ofCode
  split_ifs with h2 h4 h5 h6
  all_goals rintro c ⟨⟩
  simp [h2, h4, h5, h6]

theorem ObjectStatus.Canonical.ofCode_code {s : ObjectStatus} (h : s.Canonical) :
    ofCode s.code = s := by
  cases s with
  | other c =>
    have hc := h c rfl
    simp only [List.mem_cons, List.not_mem_nil, or_false, not_or] at hc
    simp [ofCode, code, hc]
  | _ => rfl

theorem ObjectStatus.inverts : Inverts ofJson? toJson Canonical where
  back {s} h := by
    rw [ofJson?, toJson, inverts_signed32.read_write, Option.map_some, h.ofCode_code]
  exact s := inverts_signed32.exact s.code
  meant {j s} h := by
    obtain ⟨n, -, rfl⟩ := Option.map_eq_some_iff.mp h
    exact canonical_ofCode n

def TaskPayload.Canonical (p : TaskPayload) : Prop :=
  ∀ s ∈ p.status, s.Canonical

theorem TaskPayload.inverts : Inverts ofJson? toJson Canonical := by
  have hstatus := inverts_optional ObjectStatus.inverts fun _ => nofun
  have hquery : InvertsAll (nullOr signed64?) (.optional fun n => .integer n.toInt) :=
    inverts_optional_all inverts_signed64 fun _ => nofun
  refine ⟨fun {p} h => ?_, fun p => ?_, fun {j p} h => ?_⟩
  · have hslots : p.toJson.slots ["status", "result", "warnings", "subQueryId"] = some
        [.given (.optional ObjectStatus.toJson p.status), .given (.optional .string p.result),
          .given (.optional .string p.warnings),
          .given (.optional (fun n => .integer n.toInt) p.subQueryId)] := rfl
    simp [ofJson?, hslots, hstatus.back h, inverts_textOrNull.read_write, hquery.read_write]
  · exact ⟨hstatus.exact _, inverts_textOrNull.exact _, inverts_textOrNull.exact _,
      hquery.exact _, trivial⟩
  · -- Of a payload that was read only the status has to be meant.
    unfold ofJson? at h
    obtain ⟨slots, -, h⟩ := Option.bind_eq_some_iff.mp h
    split at h
    · next s r w i =>
      obtain ⟨status, hread, h⟩ := Option.bind_eq_some_iff.mp h
      obtain ⟨result, -, h⟩ := Option.bind_eq_some_iff.mp h
      obtain ⟨warnings, -, h⟩ := Option.bind_eq_some_iff.mp h
      obtain ⟨query, -, h⟩ := Option.bind_eq_some_iff.mp h
      obtain rfl := Option.some.inj h
      exact hstatus.meant_orElse hread nofun
    · contradiction

end Records

/-- Every kind of value survives being shipped. Of the payloads those survive whose status is not
a known one in disguise, and no other is ever received. -/
theorem shipped_values_survive :
    Survives CommitMessage.toJson CommitMessage.ofJson? (fun _ => True) ∧
    Survives (fun attempt : UInt32 => .nat attempt.toNat) Json.word32? (fun _ => True) ∧
    Survives Split.toJson Split.ofJson? (fun _ => True) ∧
    Survives Marker.toJson Marker.ofJson? (fun _ => True) ∧
    Survives Scope.toJson Scope.ofJson? (fun _ => True) ∧
    Survives WriteOptions.toJson WriteOptions.ofJson? (fun _ => True) ∧
    Survives TableRef.toJson TableRef.ofJson? (fun _ => True) ∧
    Survives TableSession.toJson TableSession.ofJson? (fun _ => True) ∧
    Survives InstanceId.toJson InstanceId.ofJson? (fun _ => True) ∧
    Survives DataFormat.toJson DataFormat.ofJson? (fun _ => True) ∧
    Survives LaunchProgress.toJson LaunchProgress.ofJson? (fun _ => True) ∧
    Survives TaskStatus.toJson TaskStatus.ofJson? (fun _ => True) ∧
    Survives TaskPayload.toJson TaskPayload.ofJson? TaskPayload.Canonical :=
  ⟨survives_of_inverts CommitMessage.inverts, survives_of_inverts Json.inverts_word32,
    survives_of_inverts Split.inverts, survives_of_inverts Marker.inverts,
    survives_of_inverts Scope.inverts, survives_of_inverts WriteOptions.inverts,
    survives_of_inverts TableRef.inverts, survives_of_inverts TableSession.inverts,
    survives_of_inverts InstanceId.inverts, survives_of_inverts DataFormat.inverts,
    survives_of_inverts LaunchProgress.inverts, survives_of_inverts TaskStatus.inverts,
    survives_of_inverts TaskPayload.inverts⟩

/-- A status that spells a known one by its code comes back as the known one. -/
example : received? TaskPayload.ofJson? (shipped TaskPayload.toJson ⟨some (.other 5), none, none,
    none⟩) = some ⟨some .terminated, none, none, none⟩ := by
  cbv

end TableExchange
