import TableExchange.Proofs.Interactive.SessionRuns
import TableExchange.Proofs.Json.Fields
import TableExchange.Rest.Service

/-!
Texts within texts. A query travels as a JSON text, and the settings of an instance as a JSON text
within the JSON text of a request; both are read back from what is sent, whatever characters they
hold, so no two queries and no two settings share a payload.
-/
namespace TableExchange

section Entries

variable {κ ν : Type} [Ord κ] [Std.TransOrd κ] [Std.LawfulEqOrd κ]

omit [Std.LawfulEqOrd κ] in
theorem upsert_append {k : κ} {v : ν} {entries : List (κ × ν)}
    (h : ∀ e ∈ entries, compare e.1 k = .lt) : upsert k v entries = entries ++ [(k, v)] := by
  induction entries with
  | nil => rfl
  | cons e rest ih =>
    have hgt : compare k e.1 = .gt := Std.OrientedCmp.gt_of_lt (h e List.mem_cons_self)
    simp only [upsert, hgt, List.cons_append,
      ih fun e' he' => h e' (List.mem_cons_of_mem _ he')]

/-- Entries in ascending order are added at the end of the map. -/
theorem entries_foldl_insert (m : SortedMap κ ν) {entries : List (κ × ν)}
    (h : Ascending (m.entries ++ entries)) :
    (entries.foldl (fun m e => m.insert e.1 e.2) m).entries = m.entries ++ entries := by
  induction entries generalizing m with
  | nil => simp
  | cons e rest ih =>
    have hlast : (m.insert e.1 e.2).entries = m.entries ++ [e] :=
      upsert_append fun e' he' => (List.pairwise_append.mp h).2.2 e' he' e List.mem_cons_self
    have hrest := ih (m.insert e.1 e.2) (by rwa [hlast, List.append_assoc])
    rw [List.foldl_cons, hrest, hlast, List.append_assoc, List.singleton_append]

theorem SortedMap.ofList_entries (m : SortedMap κ ν) : SortedMap.ofList m.entries = m :=
  SortedMap.ext (entries_foldl_insert ∅ m.ascending)

end Entries

/-- Settings from an object of texts; of two members with one name the later counts. -/
def Settings.ofJson? : Json → Option Settings
  | .object members =>
    (members.mapM fun m => (Json.text? m.2).map (m.1, ·)).map SortedMap.ofList
  | _ => none

theorem Settings.ofJson?_toJson (s : Settings) : ofJson? s.toJson = some s := by
  have htexts (entries : List (String × String)) :
      (entries.map fun e => (e.1, Json.string e.2)).mapM
        (fun m => (Json.text? m.2).map (m.1, ·)) = some entries := by
    induction entries with
    | nil => rfl
    | cons e rest ih =>
      rw [List.map_cons, List.mapM_cons, ih]
      rfl
  rw [toJson, Json.texts, ofJson?, htexts, Option.map_some, SortedMap.ofList_entries]

theorem Settings.exact_toJson (s : Settings) : Json.Exact s.toJson :=
  Json.exact_texts _

/-- The query and the settings of a text that holds these two and nothing else. -/
def submitted? (text : String) : Option (String × Settings) :=
  match Json.parse? text with
  | some (.object [(query, .string sql), (settings, j)]) =>
    if query = "query" ∧ settings = "settings" then (Settings.ofJson? j).map (sql, ·) else none
  | _ => none

theorem submitted?_queryText (sql : String) (settings : Settings) :
    submitted? (InteractiveSession.queryText sql settings) = some (sql, settings) := by
  have hexact : Json.Exact (.object [("query", .string sql), ("settings", settings.toJson)]) :=
    ⟨trivial, settings.exact_toJson, trivial⟩
  simp [submitted?, InteractiveSession.queryText, Json.parse?_render hexact,
    Settings.ofJson?_toJson]

namespace Rest

open Http (Network Payload Request)

def journaledNetwork {σ υ : Type} (net : Network σ υ) : Network (σ × List Request) υ where
  roundTrip span q s :=
    let (answer, next) := net.roundTrip span q s.1
    (answer, (next, s.2 ++ [q]))
  startUpload q s :=
    let (u, next) := net.startUpload q s.1
    (u, (next, s.2 ++ [q]))
  push u bytes s :=
    let (taken, next) := net.push u bytes s.1
    (taken, (next, s.2))
  collect u s :=
    let (answer, next) := net.collect u s.1
    (answer, (next, s.2))
  cancel u s := (net.cancel u s.1, s.2)

def memberOf? (name : String) : Json → Option Json
  | .object members => Json.member? name members
  | _ => none

/-- The settings of the first task of an instance, as the text that the request holds. -/
def settingsText? (body : Json) : Option String := do
  match ← memberOf? "Tasks" (← memberOf? "Instance" body) with
  | .array (task :: _) =>
    Json.text? (← memberOf? "settings" (← memberOf? "Properties" task))
  | _ => none

/-- The settings that a request to create an instance holds, read from the text within its text. -/
def configured? (text : String) : Option Settings := do
  Settings.ofJson? (← Json.parse? (← settingsText? (← Json.parse? text)))

theorem settingsText?_instanceBody (r : InstanceRequest) :
    settingsText? (instanceBody r) = some r.settings.toJson.render := by
  cases hpriority : r.priority <;> cases hcluster : r.runningCluster <;>
    simp only [instanceBody, hpriority, hcluster] <;> rfl

theorem exact_instanceBody (r : InstanceRequest) : Json.Exact (instanceBody r) := by
  have hproperties := Json.exact_texts [("settings", r.settings.toJson.render)]
  cases hpriority : r.priority with
  | none =>
    cases hcluster : r.runningCluster <;> simp only [instanceBody, hpriority, hcluster]
    all_goals simp [given, Json.Exact, Json.ExactMembers, Json.ExactItems, hproperties]
  | some n =>
    have hn := Json.inverts_word32.exact n
    cases hcluster : r.runningCluster <;> simp only [instanceBody, hpriority, hcluster]
    all_goals simp [given, Json.Exact, Json.ExactMembers, Json.ExactItems, hproperties, hn]

theorem configured?_instanceBody (r : InstanceRequest) :
    configured? (instanceBody r).render = some r.settings := by
  simp [configured?, Json.parse?_render (exact_instanceBody r), settingsText?_instanceBody,
    Json.parse?_render r.settings.exact_toJson, Settings.ofJson?_toJson]

/-- The payload of a request has no part in whether the request can be built. -/
theorem Client.request_payload (c : Client) (method : Http.Method) (address : String)
    (pairs : List (String × String)) (payload : Payload) :
    c.request method address pairs payload =
      (c.request method address pairs .none).map ({ · with payload }) := by
  unfold request
  split
  · rfl
  · dsimp only
    split_ifs <;> rfl

theorem Client.sent_send {σ υ : Type} (c : Client) (net : Network σ υ)
    (built : Except Failure Request) (y : σ × List Request) :
    (c.send (journaledNetwork net) built y).2.2 = y.2 ++ built.toOption.toList := by
  cases built with
  | error f => simp [send, Except.toOption]
  | ok q => rfl

theorem Client.sent_sendJson {σ υ α : Type} (c : Client) (net : Network σ υ)
    (built : Except Failure Request) (read : Json → Option α) (y : σ × List Request) :
    (c.sendJson (journaledNetwork net) built read y).2.2 = y.2 ++ built.toOption.toList := by
  have hsent := c.sent_send net built y
  unfold sendJson
  split
  · next heq => rwa [heq] at hsent
  · next heq =>
    rw [heq] at hsent
    split <;> exact hsent

/-- What a request to create an instance sends: nothing if its address cannot be requested, and
else one request with the body. -/
theorem Client.sent_createInstance {σ υ : Type} (c : Client) (net : Network σ υ)
    (r : InstanceRequest) (y : σ × List Request) :
    ∃ sent, ((c.hosting (journaledNetwork net)).createInstance r y).2.2 = y.2 ++ sent ∧
      (sent = [] ↔ (c.request .post (c.instancesUrl r.project) [] .none).toOption = none) ∧
      ∀ q ∈ sent, q.payload = .json (instanceBody r).render := by
  refine ⟨_, c.sent_sendJson net _ instanceIdOf? y, ?_⟩
  rw [c.request_payload]
  cases c.request .post (c.instancesUrl r.project) [] .none with
  | error f => simp [Except.map, Except.toOption]
  | ok q => simp [Except.map, Except.toOption, jsonPayload]

end Rest

/-- What a query and a request for an instance hold is read back from what is sent. Running a query
writes one text, which stands for the query and its settings and for nothing else. What
is sent to create an instance, which is nothing only if its address cannot be requested, holds the
settings in a text within the text. Payloads of different queries or settings therefore differ. -/
theorem nested_texts_read_back :
    (∀ (σ : Type) (svc : InstanceService σ) (s : InteractiveSession) (sql : String)
      (settings : Settings) (y : Exchange (σ × List TaskEvent)), ∃ text answer,
      (s.run svc.journaled sql settings y).2.journal =
        y.journal ++ [s.channel.writing TaskChannel.queryKey text answer] ∧
      submitted? text = some (sql, settings)) ∧
    (∀ (σ υ : Type) (c : Rest.Client) (net : Http.Network σ υ) (r : InstanceRequest)
      (y : σ × List Http.Request), ∃ sent,
      ((c.hosting (Rest.journaledNetwork net)).createInstance r y).2.2 = y.2 ++ sent ∧
      (sent = [] ↔ (c.request .post (c.instancesUrl r.project) [] .none).toOption = none) ∧
      ∀ q ∈ sent, ∃ text, q.payload = .json text ∧ Rest.configured? text = some r.settings) ∧
    (∀ (sql sql' : String) (settings settings' : Settings),
      InteractiveSession.queryText sql settings = InteractiveSession.queryText sql' settings' →
        sql = sql' ∧ settings = settings') ∧
    ∀ r r' : InstanceRequest, (Rest.instanceBody r).render = (Rest.instanceBody r').render →
      r.settings = r'.settings := by
  refine ⟨fun σ svc s sql settings y => ?_, fun σ υ c net r y => ?_,
    fun sql sql' settings settings' htexts => ?_, fun r r' htexts => ?_⟩
  · obtain ⟨answer, hjournal, -⟩ := s.submitted svc sql settings y
    exact ⟨_, answer, hjournal, submitted?_queryText sql settings⟩
  · obtain ⟨sent, hjournal, hnone, hpayload⟩ := c.sent_createInstance net r y
    exact ⟨sent, hjournal, hnone, fun q hq => ⟨_, hpayload q hq, Rest.configured?_instanceBody r⟩⟩
  · have hsame := congrArg submitted? htexts
    rw [submitted?_queryText, submitted?_queryText] at hsame
    exact Prod.mk.inj (Option.some.inj hsame)
  · have hsame := congrArg Rest.configured? htexts
    rw [Rest.configured?_instanceBody, Rest.configured?_instanceBody] at hsame
    exact Option.some.inj hsame

end TableExchange
