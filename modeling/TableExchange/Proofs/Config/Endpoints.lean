import Mathlib.Data.List.TakeWhile
import TableExchange.Config.Model

/-!
The endpoints that a configuration of the service may have. Validation finds the host by cuts:
behind the scheme, before the first character that ends the authority, behind the last at-sign. Each
cut is the only one of its form, so what is accepted is what can be composed of a scheme, a user
part, a host and a tail.
-/
namespace TableExchange

/-- A list is cut before the first element that fails a test just where all elements before the cut
pass it and the one behind the cut fails. -/
theorem takeWhile_eq_iff {α : Type} {p : α → Bool} {l kept : List α} :
    l.takeWhile p = kept ↔
      (∀ x ∈ kept, p x = true) ∧ ∃ rest, l = kept ++ rest ∧ ∀ x ∈ rest.head?, p x = false := by
  constructor
  · rintro rfl
    refine ⟨fun x => List.mem_takeWhile_imp, l.dropWhile p, ?_, fun x hx => ?_⟩
    · exact List.takeWhile_append_dropWhile.symm
    · have hhead := List.head?_dropWhile_not p l
      rw [Option.mem_def.mp hx] at hhead
      exact hhead
  · rintro ⟨hkept, rest, rfl, hrest⟩
    rw [List.takeWhile_append_of_pos hkept]
    cases rest with
    | nil => exact List.append_nil kept
    | cons x rest =>
      have hx : p x = false := hrest x rfl
      rw [List.takeWhile_cons_of_neg (by simp [hx]), List.append_nil]

namespace ServiceConfig

/-- What may stand before a host: nothing, or a text within the authority and an at-sign. -/
def IsUserPart (cs : List Char) : Prop :=
  cs = [] ∨ ∃ user, cs = user ++ ['@'] ∧ '/' ∉ user ∧ '?' ∉ user ∧ '#' ∉ user

/-- What may stand behind a host: nothing, or a path, a query or a fragment. -/
def IsTail (cs : List Char) : Prop :=
  cs = [] ∨ ∃ mark rest, cs = mark :: rest ∧ (mark = '/' ∨ mark = '?' ∨ mark = '#')

structure IsHost (cs : List Char) : Prop where
  nonempty : cs ≠ []
  undivided : '/' ∉ cs ∧ '?' ∉ cs ∧ '#' ∉ cs ∧ '@' ∉ cs
  unspaced : ∀ c ∈ cs, Text.isBlankChar c = false
  named : cs.head? ≠ some ':'

def IsEndpoint (address : String) : Prop :=
  ∃ scheme user host tail, address.toList = scheme ++ user ++ host ++ tail ∧
    (scheme = "http://".toList ∨ scheme = "https://".toList) ∧
    IsUserPart user ∧ IsHost host ∧ IsTail tail

section Parts

variable {cs rest host : List Char}

theorem afterScheme?_eq_some_iff : afterScheme? cs = some rest ↔
    cs = "http://".toList ++ rest ∨ cs = "https://".toList ++ rest := by
  constructor
  · intro h
    unfold afterScheme? at h
    split at h
    · next hprefix =>
      obtain ⟨tail, rfl⟩ := List.isPrefixOf_iff_prefix.mp hprefix
      obtain rfl : tail = rest := Option.some.inj h
      exact .inl rfl
    · split at h
      · next hprefix =>
        obtain ⟨tail, rfl⟩ := List.isPrefixOf_iff_prefix.mp hprefix
        obtain rfl : tail = rest := Option.some.inj h
        exact .inr rfl
      · contradiction
  · rintro (rfl | rfl) <;> rfl

theorem endsAuthority_eq_false_iff {c : Char} :
    endsAuthority c = false ↔ c ≠ '/' ∧ c ≠ '?' ∧ c ≠ '#' := by
  simp [endsAuthority, and_assoc]

/-- Nothing in a text ends the authority. -/
theorem forall_endsAuthority_iff :
    (∀ c ∈ cs, endsAuthority c = false) ↔ '/' ∉ cs ∧ '?' ∉ cs ∧ '#' ∉ cs := by
  simp only [endsAuthority_eq_false_iff]
  constructor
  · intro h
    exact ⟨fun hc => (h _ hc).1 rfl, fun hc => (h _ hc).2.1 rfl, fun hc => (h _ hc).2.2 rfl⟩
  · rintro ⟨hslash, hquery, hfragment⟩ c hc
    exact ⟨ne_of_mem_of_not_mem hc hslash, ne_of_mem_of_not_mem hc hquery,
      ne_of_mem_of_not_mem hc hfragment⟩

theorem isTail_iff : IsTail cs ↔ ∀ c ∈ cs.head?, endsAuthority c = true := by
  cases cs with
  | nil => simp [IsTail]
  | cons c rest => simp [IsTail, endsAuthority, or_assoc]

/-- The last at-sign is the one that no other follows. -/
theorem afterLastAt_eq_iff : afterLastAt cs = host ↔
    '@' ∉ host ∧ (cs = host ∨ ∃ user, cs = user ++ '@' :: host) := by
  rw [afterLastAt, List.reverse_eq_iff, takeWhile_eq_iff]
  refine and_congr ?_ ?_
  · simp only [List.mem_reverse, bne_iff_ne]
    exact ⟨fun h hat => h _ hat rfl, fun h c hc => ne_of_mem_of_not_mem hc h⟩
  · constructor
    · rintro ⟨before, hcs, hbefore⟩
      rw [List.reverse_eq_iff, List.reverse_append, List.reverse_reverse] at hcs
      cases before with
      | nil => exact .inl hcs
      | cons c before =>
        obtain rfl : c = '@' := by simpa using hbefore c rfl
        refine .inr ⟨before.reverse, ?_⟩
        rw [hcs, List.reverse_cons, List.append_assoc]
        rfl
    · rintro (rfl | ⟨user, rfl⟩)
      · exact ⟨[], (List.append_nil _).symm, by simp⟩
      · exact ⟨'@' :: user.reverse, by simp, by simp⟩

/-- The host is what can be written between a user part and a tail. -/
theorem hostPart_eq_iff : hostPart rest = host ↔
    ('/' ∉ host ∧ '?' ∉ host ∧ '#' ∉ host ∧ '@' ∉ host) ∧
      ∃ user tail, rest = user ++ host ++ tail ∧ IsUserPart user ∧ IsTail tail := by
  constructor
  · intro h
    obtain ⟨authority, hcut⟩ : ∃ authority,
        rest.takeWhile (fun c => !endsAuthority c) = authority := ⟨_, rfl⟩
    rw [hostPart, hcut, afterLastAt_eq_iff] at h
    obtain ⟨hwithin, tail, hrest, htail⟩ := takeWhile_eq_iff.mp hcut
    have hmarks := forall_endsAuthority_iff.mp fun c hc => by simpa using hwithin c hc
    have htail' : IsTail tail := isTail_iff.mpr fun c hc => by simpa using htail c hc
    obtain ⟨hat, rfl | ⟨user, rfl⟩⟩ := h
    · exact ⟨⟨hmarks.1, hmarks.2.1, hmarks.2.2, hat⟩, [], tail, hrest, .inl rfl, htail'⟩
    · simp only [List.mem_append, List.mem_cons, not_or] at hmarks
      obtain ⟨⟨hslash, -, hslash'⟩, ⟨hquery, -, hquery'⟩, hfragment, -, hfragment'⟩ := hmarks
      refine ⟨⟨hslash', hquery', hfragment', hat⟩, user ++ ['@'], tail, ?_, ?_, htail'⟩
      · rw [hrest, List.append_cons]
      · exact .inr ⟨user, rfl, hslash, hquery, hfragment⟩
  · rintro ⟨⟨hslash, hquery, hfragment, hat⟩, user, tail, rfl, huser, htail⟩
    have hcut : (user ++ host ++ tail).takeWhile (fun c => !endsAuthority c) = user ++ host := by
      refine takeWhile_eq_iff.mpr ⟨fun c hc => ?_, tail, rfl, fun c hc => ?_⟩
      · suffices hmarks : '/' ∉ user ++ host ∧ '?' ∉ user ++ host ∧ '#' ∉ user ++ host by
          rw [forall_endsAuthority_iff.mpr hmarks c hc]
          rfl
        obtain rfl | ⟨user, rfl, hmarks⟩ := huser
        · exact ⟨hslash, hquery, hfragment⟩
        · simp [hmarks, hslash, hquery, hfragment]
      · rw [isTail_iff.mp htail c hc]
        rfl
    rw [hostPart, hcut, afterLastAt_eq_iff]
    obtain rfl | ⟨user, rfl, -⟩ := huser
    · exact ⟨hat, .inl rfl⟩
    · exact ⟨hat, .inr ⟨user, by simp⟩⟩

theorem namesHost_iff : namesHost host = true ↔
    host ≠ [] ∧ host.head? ≠ some ':' ∧ ∀ c ∈ host, Text.isBlankChar c = false := by
  simp [namesHost, and_assoc]

end Parts

/-- The way in which validation finds a host. -/
theorem isEndpoint_iff (address : String) : IsEndpoint address ↔
    ∃ rest, afterScheme? address.toList = some rest ∧ namesHost (hostPart rest) = true := by
  constructor
  · rintro ⟨scheme, user, host, tail, haddress, hscheme, huser, hhost, htail⟩
    have hpart : hostPart (user ++ host ++ tail) = host :=
      hostPart_eq_iff.mpr ⟨hhost.undivided, user, tail, rfl, huser, htail⟩
    refine ⟨user ++ host ++ tail, afterScheme?_eq_some_iff.mpr ?_, ?_⟩
    · rw [haddress]
      rcases hscheme with rfl | rfl <;> simp
    · rw [hpart]
      exact namesHost_iff.mpr ⟨hhost.nonempty, hhost.named, hhost.unspaced⟩
  · rintro ⟨rest, hscheme, hhost⟩
    obtain ⟨hundivided, user, tail, hrest, huser, htail⟩ :=
      hostPart_eq_iff.mp (Eq.refl (hostPart rest))
    obtain ⟨hnonempty, hnamed, hunspaced⟩ := namesHost_iff.mp hhost
    have haddress : ∃ scheme, (scheme = "http://".toList ∨ scheme = "https://".toList) ∧
        address.toList = scheme ++ rest := by
      rcases afterScheme?_eq_some_iff.mp hscheme with h | h
      · exact ⟨_, .inl rfl, h⟩
      · exact ⟨_, .inr rfl, h⟩
    obtain ⟨scheme, hscheme, haddress⟩ := haddress
    refine ⟨scheme, user, hostPart rest, tail, ?_, hscheme, huser,
      ⟨hnonempty, hundivided, hunspaced, hnamed⟩, htail⟩
    rw [haddress, List.append_assoc, List.append_assoc, ← List.append_assoc user, ← hrest]

instance (address : String) : Decidable (IsEndpoint address) :=
  decidable_of_iff ((afterScheme? address.toList).any fun rest => namesHost (hostPart rest))
    ((Option.any_eq_true _ _).trans (isEndpoint_iff address).symm)

/-- A user part needs a host behind it, also where another at-sign follows. -/
example : ¬IsEndpoint "http://user@/api" ∧ ¬IsEndpoint "http://user@?x@host" ∧
    IsEndpoint "http://user@@host" := by decide

/-- A text with a scheme is not blank. -/
theorem isBlank_of_afterScheme? {address : String} {rest : List Char}
    (h : afterScheme? address.toList = some rest) : Text.isBlank address = false := by
  rw [Text.isBlank]
  rcases afterScheme?_eq_some_iff.mp h with h | h <;> rw [h] <;> rfl

/-- The rules of validation, one for each field. -/
theorem validate_eq_ok_iff (c : ServiceConfig) : c.validate = .ok () ↔
    IsEndpoint c.endpoint ∧ Text.isBlank c.project = false ∧ 0 < c.requestTimeoutMs := by
  rw [isEndpoint_iff]
  constructor
  · intro h
    unfold validate at h
    split at h
    · contradiction
    · split at h
      · contradiction
      · next rest hscheme =>
        split_ifs at h with hhost hproject htimeout
        refine ⟨⟨rest, hscheme, ?_⟩, ?_, UInt64.pos_iff_ne_zero.mpr htimeout⟩
        · simpa using hhost
        · simpa using hproject
  · rintro ⟨⟨rest, hscheme, hhost⟩, hproject, htimeout⟩
    have hpositive : c.requestTimeoutMs ≠ 0 := UInt64.pos_iff_ne_zero.mp htimeout
    simp [validate, isBlank_of_afterScheme? hscheme, hscheme, hhost, hproject, hpositive]

/-- With the other fields in order, the endpoints that are accepted are the addresses of HTTP that
name a host. -/
theorem endpoint_accepted_iff {c : ServiceConfig} (hproject : Text.isBlank c.project = false)
    (htimeout : 0 < c.requestTimeoutMs) : c.validate = .ok () ↔ IsEndpoint c.endpoint := by
  rw [validate_eq_ok_iff]
  exact ⟨fun h => h.1, fun h => ⟨h, hproject, htimeout⟩⟩

/-- At-signs within the user part and behind the host, and a query without a path. -/
theorem endpoint_accepted_with_many_marks :
    let c : ServiceConfig := { endpoint := "https://a:b@c@host:8443?x@y/#", project := "analytics" }
    Text.isBlank c.project = false ∧ 0 < c.requestTimeoutMs ∧ c.validate = .ok () ∧
      IsEndpoint c.endpoint := by
  intro c
  have hproject : Text.isBlank c.project = false := by decide
  have htimeout : 0 < c.requestTimeoutMs := by decide
  have haccepted : c.validate = .ok () := by decide
  exact ⟨hproject, htimeout, haccepted, (endpoint_accepted_iff hproject htimeout).mp haccepted⟩

end ServiceConfig

end TableExchange
