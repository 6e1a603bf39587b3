import TableExchange.Proofs.Config.Endpoints
import TableExchange.Rest.Client

/-!
The addresses of a client's resources, taken apart again. An address is faithful when its path is
the path of the endpoint followed by the fixed segments and one segment for each name. Names stand
in addresses as they are, so this holds exactly when the endpoint has no query and no fragment and
no name has a character that ends a segment or the path; and two resources share an address only if
names on both sides have slashes.
-/
namespace TableExchange.Rest

open ServiceConfig (afterScheme? endsAuthority)

def endsPath (c : Char) : Bool :=
  c == '?' || c == '#'

/-- The path of an address without its scheme: what stands after the authority, up to a query or a
fragment. -/
def pathAfter (rest : List Char) : List Char :=
  (rest.dropWhile fun c => !endsAuthority c).takeWhile fun c => !endsPath c

def pathPart (address : String) : List Char :=
  ((afterScheme? address.toList).map pathAfter).getD []

def pathOf (segments : List String) : List Char :=
  segments.flatMap fun s => '/' :: s.toList

/-- The path of an address is that of the endpoint followed by the segments. -/
def Faithful (endpoint address : String) (segments : List String) : Prop :=
  (pathPart address).splitOn '/' = (pathPart endpoint).splitOn '/' ++ segments.map String.toList

/-- Nothing in a text ends a path. -/
def Unmarked (cs : List Char) : Prop :=
  ∀ c ∈ cs, endsPath c = false

instance (cs : List Char) : Decidable (Unmarked cs) :=
  List.decidableBAll (fun c => endsPath c = false) cs

/-- A text can be one segment of a path. -/
def Plain (s : String) : Prop :=
  '/' ∉ s.toList ∧ Unmarked s.toList

instance (s : String) : Decidable (Plain s) :=
  inferInstanceAs (Decidable (_ ∧ _))

section Paths

variable {x y e : List Char} {segments segments' : List String}

theorem endsAuthority_of_endsPath {c : Char} (h : endsPath c = true) : endsAuthority c = true := by
  simp only [endsPath, endsAuthority, Bool.or_eq_true] at h ⊢
  rcases h with h | h
  · exact .inl (.inr h)
  · exact .inr h

/-- The texts between slashes have characters of the whole text, and no slash. -/
theorem of_mem_splitOn {piece : List Char} {c : Char} (hpiece : piece ∈ x.splitOn '/')
    (hc : c ∈ piece) : c ∈ x ∧ c ≠ '/' := by
  induction x generalizing piece with
  | nil =>
    obtain rfl : piece = [] := by simpa using hpiece
    exact absurd hc List.not_mem_nil
  | cons d x ih =>
    rw [List.splitOn_cons_eq_if_modifyHead] at hpiece
    by_cases hd : d = '/'
    · rw [if_pos (beq_iff_eq.mpr hd), List.mem_cons] at hpiece
      rcases hpiece with rfl | hpiece
      · exact absurd hc List.not_mem_nil
      · exact (ih hpiece hc).imp_left (List.mem_cons_of_mem d)
    · rw [if_neg (by simpa using hd)] at hpiece
      rcases hsplit : x.splitOn '/' with _ | ⟨first, rest⟩
      · exact absurd hsplit (List.splitOn_ne_nil _ x)
      · rw [hsplit] at ih hpiece
        rcases List.mem_cons.mp hpiece with rfl | hpiece
        · rcases List.mem_cons.mp hc with rfl | hc
          · exact ⟨List.mem_cons_self, hd⟩
          · exact (ih List.mem_cons_self hc).imp_left (List.mem_cons_of_mem d)
        · exact (ih (List.mem_cons_of_mem _ hpiece) hc).imp_left (List.mem_cons_of_mem d)

/-- Segments without slashes are found again. -/
theorem splitOn_append_pathOf (hfree : ∀ s ∈ segments, '/' ∉ s.toList) (x : List Char) :
    (x ++ pathOf segments).splitOn '/' = x.splitOn '/' ++ segments.map String.toList := by
  induction segments generalizing x with
  | nil => simp [pathOf]
  | cons s rest ih =>
    obtain ⟨hs, hrest⟩ := List.forall_mem_cons.mp hfree
    have hassoc : x ++ pathOf (s :: rest) = (x ++ '/' :: s.toList) ++ pathOf rest := by
      simp [pathOf]
    rw [hassoc, ih hrest, List.splitOn_append_cons_self, List.splitOn_eq_singleton hs,
      List.append_assoc]
    rfl

theorem count_pathOf (segments : List String) : (pathOf segments).count '/' =
    segments.length + (segments.flatMap String.toList).count '/' := by
  induction segments with
  | nil => rfl
  | cons s rest ih =>
    have hcons : pathOf (s :: rest) = '/' :: s.toList ++ pathOf rest := rfl
    rw [hcons, List.count_append, List.count_cons_self, ih, List.length_cons, List.flatMap_cons,
      List.count_append]
    omega

/-- Segments have no slashes where a path has one for each of them. -/
theorem free_iff_count : (∀ s ∈ segments, '/' ∉ s.toList) ↔
    (pathOf segments).count '/' = segments.length := by
  have hzero : (∀ s ∈ segments, '/' ∉ s.toList) ↔
      (segments.flatMap String.toList).count '/' = 0 := by
    simp only [List.count_eq_zero, List.mem_flatMap, not_exists, not_and]
  rw [hzero, count_pathOf]
  omega

/-- Different lists of as many segments make different paths, if the segments on one side have no
slashes. The other side then has none to spare either. -/
theorem pathOf_inj (hlength : segments.length = segments'.length)
    (hfree : ∀ s ∈ segments, '/' ∉ s.toList) (h : pathOf segments = pathOf segments') :
    segments = segments' := by
  have hfree' : ∀ s ∈ segments', '/' ∉ s.toList := by
    rw [free_iff_count, ← h, ← hlength]
    exact free_iff_count.mp hfree
  have hsplit := splitOn_append_pathOf hfree []
  rw [h, splitOn_append_pathOf hfree' []] at hsplit
  have hlists := List.append_cancel_left hsplit
  exact ((List.map_inj_right fun _ _ => String.toList_inj.mp).mp hlists).symm

/-- A path that is set behind an authority and a path. -/
theorem dropWhile_append_pathOf (hne : segments ≠ []) (e : List Char) :
    (e ++ pathOf segments).dropWhile (fun c => !endsAuthority c) =
      e.dropWhile (fun c => !endsAuthority c) ++ pathOf segments := by
  have hpath : (pathOf segments).dropWhile (fun c => !endsAuthority c) = pathOf segments := by
    cases segments with
    | nil => exact absurd rfl hne
    | cons s rest => rfl
  rw [List.dropWhile_append, hpath]
  split
  · next hempty => rw [List.isEmpty_iff.mp hempty, List.nil_append]
  · rfl

/-- A character that ends the path stands behind the authority. -/
theorem unmarked_dropWhile_iff (e : List Char) :
    Unmarked (e.dropWhile fun c => !endsAuthority c) ↔ Unmarked e := by
  have hauthority : Unmarked (e.takeWhile fun c => !endsAuthority c) := by
    intro c hc
    have hnot := List.mem_takeWhile_imp hc
    refine Bool.eq_false_iff.mpr fun hends => ?_
    rw [endsAuthority_of_endsPath hends] at hnot
    contradiction
  constructor
  · intro h c hc
    rw [← List.takeWhile_append_dropWhile (p := fun c => !endsAuthority c) (l := e)] at hc
    rcases List.mem_append.mp hc with hc | hc
    · exact hauthority c hc
    · exact h c hc
  · intro h c hc
    exact h c ((List.dropWhile_sublist _).subset hc)

theorem Unmarked.takeWhile_append (hx : Unmarked x) (y : List Char) :
    (x ++ y).takeWhile (fun c => !endsPath c) = x ++ y.takeWhile fun c => !endsPath c := by
  refine List.takeWhile_append_of_pos fun c hc => ?_
  rw [hx c hc]
  rfl

theorem unmarked_iff_takeWhile : Unmarked x ↔ x.takeWhile (fun c => !endsPath c) = x := by
  simp [Unmarked]

theorem pathAfter_append (hne : segments ≠ []) (he : Unmarked e) :
    pathAfter (e ++ pathOf segments) =
      pathAfter e ++ (pathOf segments).takeWhile fun c => !endsPath c := by
  have hkept := (unmarked_dropWhile_iff e).mpr he
  rw [pathAfter, dropWhile_append_pathOf hne, hkept.takeWhile_append, pathAfter,
    unmarked_iff_takeWhile.mp hkept]

/-- Behind a query or a fragment nothing belongs to the path. -/
theorem pathAfter_append_of_marked (hne : segments ≠ []) (he : ¬Unmarked e) :
    pathAfter (e ++ pathOf segments) = pathAfter e := by
  rw [pathAfter, dropWhile_append_pathOf hne, List.takeWhile_append, if_neg, pathAfter]
  intro hlength
  have hall := (List.takeWhile_prefix _).eq_of_length hlength
  exact he ((unmarked_dropWhile_iff e).mp (unmarked_iff_takeWhile.mpr hall))

/-- Segments stand in the path of an address just where nothing ends the path before them, and
neither they nor the path are cut. -/
theorem faithful_iff (hne : segments ≠ []) (e : List Char) :
    (pathAfter (e ++ pathOf segments)).splitOn '/' =
        (pathAfter e).splitOn '/' ++ segments.map String.toList ↔
      Unmarked e ∧ ∀ s ∈ segments, Plain s := by
  constructor
  · intro h
    have he : Unmarked e := by
      refine Classical.byContradiction fun hmarked => ?_
      rw [pathAfter_append_of_marked hne hmarked] at h
      have hnil := List.self_eq_append_right.mp h
      exact hne (List.map_eq_nil_iff.mp hnil)
    have hpiece : ∀ s ∈ segments, ∀ c ∈ s.toList,
        c ∈ pathAfter (e ++ pathOf segments) ∧ c ≠ '/' := by
      intro s hs c hc
      refine of_mem_splitOn ?_ hc
      rw [h]
      exact List.mem_append_right _ (List.mem_map_of_mem hs)
    refine ⟨he, fun s hs => ⟨fun hslash => ?_, fun c hc => ?_⟩⟩
    · exact (hpiece s hs '/' hslash).2 rfl
    · simpa using List.mem_takeWhile_imp (hpiece s hs c hc).1
  · rintro ⟨he, hplain⟩
    have hkept : Unmarked (pathOf segments) := by
      intro c hc
      obtain ⟨s, hs, hc⟩ := List.mem_flatMap.mp hc
      rcases List.mem_cons.mp hc with rfl | hc
      · rfl
      · exact (hplain s hs).2 c hc
    rw [pathAfter_append hne he, unmarked_iff_takeWhile.mp hkept]
    exact splitOn_append_pathOf (fun s hs => (hplain s hs).1) _

end Paths

/-- An address is a scheme of HTTP with something behind it. -/
def Rooted (address : String) (e : List Char) : Prop :=
  address.toList = "http://".toList ++ e ∨ address.toList = "https://".toList ++ e

theorem Rooted.pathPart_eq {endpoint address : String} {e x : List Char} (h : Rooted endpoint e)
    (haddress : address.toList = endpoint.toList ++ x) : pathPart address = pathAfter (e ++ x) := by
  have hscheme : afterScheme? address.toList = some (e ++ x) := by
    rcases h with h | h <;> rw [haddress, h] <;> rfl
  rw [pathPart, hscheme]
  rfl

/-- Nothing in a scheme ends a path. -/
theorem Rooted.unmarked_iff {address : String} {e : List Char} (h : Rooted address e) :
    Unmarked address.toList ↔ Unmarked e := by
  have hscheme : ∃ scheme, Unmarked scheme ∧ address.toList = scheme ++ e := by
    rcases h with h | h
    · exact ⟨_, by decide, h⟩
    · exact ⟨_, by decide, h⟩
  obtain ⟨scheme, hunmarked, h⟩ := hscheme
  rw [h]
  constructor
  · intro hall c hc
    exact hall c (List.mem_append_right _ hc)
  · intro hall c hc
    rcases List.mem_append.mp hc with hc | hc
    · exact hunmarked c hc
    · exact hall c hc

theorem toList_withoutSlashes (s : String) :
    (withoutSlashes s).toList = (s.toList.reverse.dropWhile (· = '/')).reverse :=
  String.toList_ofList

/-- Slashes are not what ends a path. -/
theorem unmarked_withoutSlashes_iff (s : String) :
    Unmarked (withoutSlashes s).toList ↔ Unmarked s.toList := by
  rw [toList_withoutSlashes]
  constructor
  · intro h c hc
    rw [← List.mem_reverse, ← List.takeWhile_append_dropWhile (p := fun c => decide (c = '/'))
      (l := s.toList.reverse)] at hc
    rcases List.mem_append.mp hc with hc | hc
    · obtain rfl : c = '/' := by simpa using List.mem_takeWhile_imp hc
      rfl
    · exact h c (List.mem_reverse.mpr hc)
  · intro h c hc
    exact h c (List.mem_reverse.mp ((List.dropWhile_sublist _).subset (List.mem_reverse.mp hc)))

/-- Taking slashes off the end leaves the scheme alone where a host follows. -/
theorem Rooted.withoutSlashes {endpoint : String} {e : List Char} (h : Rooted endpoint e)
    (hhost : ∃ c ∈ e, c ≠ '/') :
    Rooted (withoutSlashes endpoint) (e.reverse.dropWhile (· = '/')).reverse := by
  have hkept : (e.reverse.dropWhile fun c => decide (c = '/')).isEmpty = false := by
    obtain ⟨c, hc, hslash⟩ := hhost
    refine Bool.eq_false_iff.mpr fun hempty => hslash ?_
    have hall := List.dropWhile_eq_nil_iff.mp (List.isEmpty_iff.mp hempty)
    simpa using hall c (List.mem_reverse.mpr hc)
  rw [Rooted, toList_withoutSlashes]
  rcases h with h | h
  · refine .inl ?_
    rw [h, List.reverse_append, List.dropWhile_append, hkept]
    simp
  · refine .inr ?_
    rw [h, List.reverse_append, List.dropWhile_append, hkept]
    simp

/-- An endpoint has a host behind its scheme, so more than slashes. -/
theorem rooted_of_isEndpoint {endpoint : String} (h : ServiceConfig.IsEndpoint endpoint) :
    ∃ e, Rooted endpoint e ∧ ∃ c ∈ e, c ≠ '/' := by
  obtain ⟨scheme, user, host, tail, hendpoint, hscheme, -, hhost, -⟩ := h
  obtain ⟨c, others, rfl⟩ := List.exists_cons_of_ne_nil hhost.nonempty
  have hmem : c ∈ user ++ (c :: others) ++ tail := by simp
  have hslash : c ≠ '/' := ne_of_mem_of_not_mem List.mem_cons_self hhost.undivided.1
  refine ⟨user ++ (c :: others) ++ tail, ?_, c, hmem, hslash⟩
  rw [Rooted, hendpoint]
  rcases hscheme with rfl | rfl <;> simp

/-- The endpoint of a client has its scheme, and a query or a fragment if it was configured with
one. -/
theorem rooted_of_ofConfig {config : ServiceConfig} {c : Client}
    (h : Client.ofConfig config = .ok c) :
    c.endpoint = withoutSlashes config.endpoint ∧ ∃ e, Rooted c.endpoint e ∧
      (Unmarked e ↔ Unmarked config.endpoint.toList) := by
  have hendpoint : config.validate = .ok () ∧ c.endpoint = withoutSlashes config.endpoint := by
    unfold Client.ofConfig at h
    split at h
    · contradiction
    · next hvalid =>
      split at h
      · contradiction
      · obtain rfl := Except.ok.inj h
        exact ⟨hvalid, rfl⟩
  obtain ⟨hvalid, hendpoint⟩ := hendpoint
  obtain ⟨haddress, -, -⟩ := config.validate_eq_ok_iff.mp hvalid
  obtain ⟨e, hrooted, hhost⟩ := rooted_of_isEndpoint haddress
  have hkept := hrooted.withoutSlashes hhost
  refine ⟨hendpoint, _, hendpoint ▸ hkept, ?_⟩
  rw [← hkept.unmarked_iff, unmarked_withoutSlashes_iff]

def sessionSegments (t : TableRef) (id : String) : List String :=
  ["projects", t.project, "schemas", t.schema, "tables", t.table, "sessions", id]

def instanceSegments (i : InstanceId) : List String :=
  ["projects", i.project, "instances", i.id]

theorem toList_sessionUrl (c : Client) (t : TableRef) (id : String) :
    (c.sessionUrl t id).toList = c.endpoint.toList ++ pathOf (sessionSegments t id) := by
  simp [Client.sessionUrl, Client.sessionsUrl, pathOf, sessionSegments, toString]

theorem toList_instanceUrl (c : Client) (i : InstanceId) :
    (c.instanceUrl i).toList = c.endpoint.toList ++ pathOf (instanceSegments i) := by
  simp [Client.instanceUrl, Client.instancesUrl, pathOf, instanceSegments, toString]

structure Addressing (config : ServiceConfig) (c : Client) : Prop where
  sessionFaithful : ∀ t id, Faithful (withoutSlashes config.endpoint) (c.sessionUrl t id)
      (sessionSegments t id) ↔
    Unmarked config.endpoint.toList ∧
      Plain t.project ∧ Plain t.schema ∧ Plain t.table ∧ Plain id
  instanceFaithful : ∀ i, Faithful (withoutSlashes config.endpoint) (c.instanceUrl i)
      (instanceSegments i) ↔
    Unmarked config.endpoint.toList ∧ Plain i.project ∧ Plain i.id
  /-- A session whose names have no slashes shares its address with no other. -/
  sessionUnique : ∀ t id t' id',
    '/' ∉ t.project.toList → '/' ∉ t.schema.toList → '/' ∉ t.table.toList → '/' ∉ id.toList →
    c.sessionUrl t id = c.sessionUrl t' id' → t = t' ∧ id = id'
  instanceUnique : ∀ i i', '/' ∉ i.project.toList → '/' ∉ i.id.toList →
    c.instanceUrl i = c.instanceUrl i' → i = i'

/-- An address behind a client's endpoint is faithful when the endpoint has only a path and the
segments are plain. -/
theorem faithful_iff_of_ofConfig {config : ServiceConfig} {c : Client}
    (h : Client.ofConfig config = .ok c) {address : String} {segments : List String}
    (haddress : address.toList = c.endpoint.toList ++ pathOf segments) (hne : segments ≠ []) :
    Faithful (withoutSlashes config.endpoint) address segments ↔
      Unmarked config.endpoint.toList ∧ ∀ s ∈ segments, Plain s := by
  obtain ⟨hendpoint, e, hrooted, hmarks⟩ := rooted_of_ofConfig h
  have hpath := hrooted.pathPart_eq (x := []) (List.append_nil _).symm
  rw [List.append_nil] at hpath
  rw [← hendpoint, Faithful, hrooted.pathPart_eq haddress, hpath, ← hmarks]
  exact faithful_iff hne e

theorem plain_sessionSegments_iff (t : TableRef) (id : String) :
    (∀ s ∈ sessionSegments t id, Plain s) ↔
      Plain t.project ∧ Plain t.schema ∧ Plain t.table ∧ Plain id := by
  have hfixed : Plain "projects" ∧ Plain "schemas" ∧ Plain "tables" ∧ Plain "sessions" := by decide
  simp [sessionSegments, hfixed]

theorem plain_instanceSegments_iff (i : InstanceId) :
    (∀ s ∈ instanceSegments i, Plain s) ↔ Plain i.project ∧ Plain i.id := by
  have hfixed : Plain "projects" ∧ Plain "instances" := by decide
  simp [instanceSegments, hfixed]

/-- The addresses of every client: faithful where all names are plain, and shared by two resources
only if the names of both have slashes. -/
theorem addresses_faithful_when_plain {config : ServiceConfig} {c : Client}
    (h : Client.ofConfig config = .ok c) : Addressing config c where
  sessionFaithful t id := by
    rw [faithful_iff_of_ofConfig h (toList_sessionUrl c t id) (List.cons_ne_nil _ _),
      plain_sessionSegments_iff]
  instanceFaithful i := by
    rw [faithful_iff_of_ofConfig h (toList_instanceUrl c i) (List.cons_ne_nil _ _),
      plain_instanceSegments_iff]
  sessionUnique t id t' id' hproject hschema htable hid hsame := by
    have hfree : ∀ s ∈ sessionSegments t id, '/' ∉ s.toList := by
      simp [sessionSegments, hproject, hschema, htable, hid]
    have hpaths := congrArg String.toList hsame
    rw [toList_sessionUrl, toList_sessionUrl] at hpaths
    have hsegments : sessionSegments t id = sessionSegments t' id' :=
      pathOf_inj rfl hfree (List.append_cancel_left hpaths)
    simp only [sessionSegments, List.cons.injEq, true_and, and_true] at hsegments
    obtain ⟨hp, hs, ht, rfl⟩ := hsegments
    cases t
    cases t'
    simp only at hp hs ht
    subst hp hs ht
    exact ⟨rfl, rfl⟩
  instanceUnique i i' hproject hid hsame := by
    have hfree : ∀ s ∈ instanceSegments i, '/' ∉ s.toList := by
      simp [instanceSegments, hproject, hid]
    have hpaths := congrArg String.toList hsame
    rw [toList_instanceUrl, toList_instanceUrl] at hpaths
    have hsegments : instanceSegments i = instanceSegments i' :=
      pathOf_inj rfl hfree (List.append_cancel_left hpaths)
    simp only [instanceSegments, List.cons.injEq, true_and, and_true] at hsegments
    cases i
    cases i'
    simpa using hsegments

def localConfig : ServiceConfig :=
  { endpoint := "http://localhost:8080/api/", project := "analytics" }

def localClient : Client where
  endpoint := "http://localhost:8080/api"
  token := none
  timeoutMs := 60000
  logViewHost := none

theorem ofConfig_localConfig : Client.ofConfig localConfig = .ok localClient := by
  have hclient : (Client.ofConfig localConfig).toOption = some localClient := by decide +kernel
  cases hanswer : Client.ofConfig localConfig with
  | error f =>
    rw [hanswer] at hclient
    contradiction
  | ok c =>
    rw [hanswer] at hclient
    exact congrArg Except.ok (Option.some.inj hclient)

theorem addresses_faithful_when_local : Client.ofConfig localConfig = .ok localClient ∧
    Addressing localConfig localClient :=
  ⟨ofConfig_localConfig, addresses_faithful_when_plain ofConfig_localConfig⟩

/-- Two instances of two projects share an address, on a client with a valid configuration. -/
theorem instances_share_address :
    let i : InstanceId := ⟨"a", "b/instances/c"⟩
    let i' : InstanceId := ⟨"a/instances/b", "c"⟩
    Client.ofConfig localConfig = .ok localClient ∧ i ≠ i' ∧
      localClient.instanceUrl i = localClient.instanceUrl i' ∧
      ¬Faithful (withoutSlashes localConfig.endpoint) (localClient.instanceUrl i)
        (instanceSegments i) := by
  refine ⟨ofConfig_localConfig, by decide, by decide, ?_⟩
  rw [faithful_iff_of_ofConfig ofConfig_localConfig (toList_instanceUrl _ _) (List.cons_ne_nil _ _),
    plain_instanceSegments_iff]
  decide

end TableExchange.Rest
