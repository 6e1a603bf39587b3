import TableExchange.Proofs.Json.SingleLine
import TableExchange.Proofs.Write.RecordLines

/-!
Framing of records by line feeds. No record's text holds a line feed, so cutting the bytes of a
batch at its line feeds gives back the texts, one for each record and in their order.
-/
namespace TableExchange

section Pieces

variable {α : Type} [DecidableEq α] {sep : α} {pieces : List (List α)}

theorem splitOn_pieces (h : ∀ p ∈ pieces, sep ∉ p) :
    (pieces.flatMap (· ++ [sep])).splitOn sep = pieces ++ [[]] := by
  induction pieces with
  | nil => rfl
  | cons p rest ih =>
    obtain ⟨hp, hrest⟩ := List.forall_mem_cons.mp h
    have hcut : ∀ a ∈ p, (a == sep) = false := by
      intro a ha
      rw [beq_eq_false_iff_ne]
      rintro rfl
      exact hp ha
    have hnext := ih hrest
    rw [List.splitOn_eq_splitOnP] at hnext ⊢
    rw [List.flatMap_cons, List.append_assoc, List.singleton_append,
      List.splitOnP_append_cons_of_forall_mem hcut sep (beq_self_eq_true sep), hnext,
      List.cons_append]

theorem count_pieces (h : ∀ p ∈ pieces, sep ∉ p) :
    (pieces.flatMap (· ++ [sep])).count sep = pieces.length := by
  induction pieces with
  | nil => rfl
  | cons p rest ih =>
    obtain ⟨hp, hrest⟩ := List.forall_mem_cons.mp h
    rw [List.flatMap_cons, List.count_append, List.count_append, List.count_eq_zero.mpr hp,
      ih hrest, List.length_cons]
    simp [Nat.add_comm]

omit [DecidableEq α] in
theorem getLast?_pieces (h : pieces ≠ []) :
    (pieces.flatMap (· ++ [sep])).getLast? = some sep := by
  obtain ⟨init, last, rfl⟩ := (List.eq_nil_or_concat pieces).resolve_left h
  simp

end Pieces

def lineFeed : UInt8 := 10

namespace Text.Utf8

theorem encode_injective : Function.Injective encode := by
  intro s t h
  rw [encode_eq, encode_eq, Array.toList_inj] at h
  exact String.toByteArray_inj.mp (ByteArray.ext h)

theorem encode_ofList (cs : List Char) :
    encode (String.ofList cs) = cs.flatMap String.utf8EncodeChar := by
  rw [encode_eq, String.toByteArray_ofList, List.utf8Encode, List.data_toByteArray]

theorem lineFeed_eq_ofNat_iff (n : Nat) : lineFeed = UInt8.ofNat n ↔ n % 256 = 10 := by
  rw [← UInt8.toNat_inj, UInt8.toNat_ofNat']
  exact eq_comm

/-- All bytes of a longer sequence have their highest bit set. -/
theorem lineFeed_mem_utf8EncodeChar {c : Char} (h : lineFeed ∈ String.utf8EncodeChar c) :
    c = '\n' := by
  unfold String.utf8EncodeChar at h
  dsimp only at h
  split_ifs at h with h1 h2 h3 <;>
    simp only [List.mem_cons, List.not_mem_nil, or_false, lineFeed_eq_ofNat_iff] at h
  · have hval : c.val.toNat = 10 := by omega
    exact Char.ext (UInt32.toNat_inj.mp hval)
  · omega
  · omega
  · omega

theorem lineFeed_not_mem_encode {s : String} (h : '\n' ∉ s.toList) : lineFeed ∉ encode s := by
  rw [← String.ofList_toList (s := s), encode_ofList, List.mem_flatMap]
  rintro ⟨c, hc, hbyte⟩
  exact h (lineFeed_mem_utf8EncodeChar hbyte ▸ hc)

end Text.Utf8

def JsonRecord.text? : JsonRecord → Option String
  | .value j => some j.render
  | .unwritable _ => none

def Json.bytes (j : Json) : List UInt8 :=
  Text.Utf8.encode j.render

theorem Json.lineFeed_not_mem_bytes (j : Json) : lineFeed ∉ j.bytes := by
  apply Text.Utf8.lineFeed_not_mem_encode
  rw [Json.render, String.toList_ofList]
  exact j.lineFeed_not_mem_renderChars

/-- Either every record is a value, or there is a first one that cannot be written. -/
theorem values_or_unwritable (records : List JsonRecord) :
    (∃ values : List Json, records = values.map .value) ∨
      ∃ (values : List Json) (reason : String) (rest : List JsonRecord),
        records = values.map .value ++ .unwritable reason :: rest := by
  induction records with
  | nil => exact .inl ⟨[], rfl⟩
  | cons r records ih =>
    cases r with
    | unwritable reason => exact .inr ⟨[], reason, records, rfl⟩
    | value j =>
      rcases ih with ⟨values, rfl⟩ | ⟨values, reason, rest, rfl⟩
      · exact .inl ⟨j :: values, rfl⟩
      · exact .inr ⟨j :: values, reason, rest, rfl⟩

theorem unwritable_not_mem_values (values : List Json) (reason : String) :
    .unwritable reason ∉ values.map JsonRecord.value := by
  simp

namespace JsonLines

theorem lines_values (values : List Json) :
    lines (values.map .value) = .ok (values.flatMap fun j => j.renderChars ++ ['\n']) := by
  induction values with
  | nil => rfl
  | cons j rest ih =>
    rw [List.map_cons, lines, ih]
    rfl

/-- The first record that cannot be written decides, whatever follows it. -/
theorem lines_unwritable (values : List Json) (reason : String) (rest : List JsonRecord) :
    lines (values.map .value ++ .unwritable reason :: rest) =
      .error ((Failure.of .serialization "Encoding a record failed").becauseOf [reason]) := by
  induction values with
  | nil => rfl
  | cons j values ih =>
    rw [List.map_cons, List.cons_append, lines, ih]
    rfl

theorem encode_lines (values : List Json) :
    Text.Utf8.encode (String.ofList (values.flatMap fun j => j.renderChars ++ ['\n'])) =
      (values.map Json.bytes).flatMap (· ++ [lineFeed]) := by
  induction values with
  | nil => rw [Text.Utf8.encode_ofList]; rfl
  | cons j rest ih =>
    have hfeed : Text.Utf8.encode (String.ofList ['\n']) = [lineFeed] := by
      rw [Text.Utf8.encode_ofList]
      rfl
    rw [List.flatMap_cons, String.ofList_append, Text.Utf8.encode_append, ih, String.ofList_append,
      Text.Utf8.encode_append, hfeed]
    rfl

end JsonLines

namespace Codec

theorem jsonLines_values (values : List Json) : jsonLines.encode (values.map .value) =
    .ok ⟨(values.map Json.bytes).flatMap (· ++ [lineFeed]), values.length.toUInt64⟩ := by
  rw [jsonLines_of_lines (JsonLines.lines_values values), JsonLines.encode_lines, List.length_map]

theorem jsonLines_unwritable (values : List Json) (reason : String) (rest : List JsonRecord) :
    jsonLines.encode (values.map .value ++ .unwritable reason :: rest) =
      .error ((Failure.of .serialization "Encoding a record failed").becauseOf [reason]) := by
  simp only [jsonLines, JsonLines.lines_unwritable]
  rfl

theorem values_of_jsonLines {records : List JsonRecord} {e : EncodedBatch}
    (h : jsonLines.encode records = .ok e) : ∃ values : List Json, records = values.map .value ∧
      e = ⟨(values.map Json.bytes).flatMap (· ++ [lineFeed]), values.length.toUInt64⟩ := by
  rcases values_or_unwritable records with ⟨values, rfl⟩ | ⟨values, reason, rest, rfl⟩
  · rw [jsonLines_values] at h
    exact ⟨values, rfl, (Except.ok.inj h).symm⟩
  · rw [jsonLines_unwritable] at h
    contradiction

theorem unwritable_of_jsonLines {records : List JsonRecord} {f : Failure}
    (h : jsonLines.encode records = .error f) :
    ∃ (values : List Json) (reason : String) (rest : List JsonRecord),
      records = values.map .value ++ .unwritable reason :: rest ∧
        f = (Failure.of .serialization "Encoding a record failed").becauseOf [reason] := by
  rcases values_or_unwritable records with ⟨values, rfl⟩ | ⟨values, reason, rest, rfl⟩
  · rw [jsonLines_values] at h
    contradiction
  · rw [jsonLines_unwritable] at h
    exact ⟨values, reason, rest, rfl, (Except.error.inj h).symm⟩

end Codec

/-- A batch holds the texts of the values, each ended by a line feed. -/
structure Framed (values : List Json) (e : EncodedBatch) : Prop where
  counted : e.records = values.length.toUInt64
  /-- The count is exact for every list that has a length in a machine word. -/
  exact : values.length < UInt64.size → e.records.toNat = values.length
  feeds : e.bytes.count lineFeed = values.length
  ends : e.bytes ≠ [] → e.bytes.getLast? = some lineFeed
  /-- Nothing follows the last line feed. -/
  cut : e.bytes.splitOn lineFeed = values.map Json.bytes ++ [[]]

theorem framed_values (values : List Json) :
    Framed values ⟨(values.map Json.bytes).flatMap (· ++ [lineFeed]), values.length.toUInt64⟩ := by
  have hpieces : ∀ p ∈ values.map Json.bytes, lineFeed ∉ p := by
    intro p hp
    obtain ⟨j, -, rfl⟩ := List.mem_map.mp hp
    exact j.lineFeed_not_mem_bytes
  refine ⟨rfl, fun hsize => ?_, ?_, fun hne => ?_, splitOn_pieces hpieces⟩
  · exact UInt64.toNat_ofNat_of_lt' hsize
  · rw [count_pieces hpieces, List.length_map]
  · apply getLast?_pieces
    rintro hnil
    simp [hnil] at hne

structure FramesRecords (records : List JsonRecord) : Prop where
  fails_iff : (∃ f, Codec.jsonLines.encode records = .error f) ↔
    ∃ reason, .unwritable reason ∈ records
  kind : ∀ f, Codec.jsonLines.encode records = .error f → f.kind = .serialization
  framed : ∀ e, Codec.jsonLines.encode records = .ok e →
    ∃ values : List Json, records = values.map .value ∧ Framed values e
  /-- The bytes tell the text of every record. -/
  unambiguous : ∀ others e e', Codec.jsonLines.encode records = .ok e →
    Codec.jsonLines.encode others = .ok e' → e.bytes = e'.bytes →
      records.map JsonRecord.text? = others.map JsonRecord.text?
  /-- Records that follow have their bytes and their count added, or fail by themselves. -/
  appended : ∀ others, Codec.jsonLines.encode (records ++ others) =
    (Codec.jsonLines.encode records).bind fun e => (Codec.jsonLines.encode others).map fun e' =>
      ⟨e.bytes ++ e'.bytes, e.records + e'.records⟩

theorem text?_values (values : List Json) :
    (values.map JsonRecord.value).map JsonRecord.text? = values.map fun j => some j.render := by
  rw [List.map_map]
  rfl

theorem render_eq_of_bytes {values others : List Json}
    (h : values.map Json.bytes = others.map Json.bytes) :
    values.map Json.render = others.map Json.render := by
  have hall : (values.map Json.render).map Text.Utf8.encode =
      (others.map Json.render).map Text.Utf8.encode := by
    rw [List.map_map, List.map_map]
    exact h
  exact List.map_injective_iff.mpr Text.Utf8.encode_injective hall

/-- Records are framed by line feeds, so that the bytes tell them apart. -/
theorem record_lines_framed (records : List JsonRecord) : FramesRecords records where
  fails_iff := by
    constructor
    · rintro ⟨f, hf⟩
      obtain ⟨values, reason, rest, rfl, -⟩ := Codec.unwritable_of_jsonLines hf
      exact ⟨reason, by simp⟩
    · rintro ⟨reason, hmem⟩
      rcases values_or_unwritable records with ⟨values, rfl⟩ | ⟨values, first, rest, rfl⟩
      · exact absurd hmem (unwritable_not_mem_values values reason)
      · exact ⟨_, Codec.jsonLines_unwritable values first rest⟩
  kind f hf := by
    obtain ⟨values, reason, rest, -, rfl⟩ := Codec.unwritable_of_jsonLines hf
    rfl
  framed e he := by
    obtain ⟨values, rfl, rfl⟩ := Codec.values_of_jsonLines he
    exact ⟨values, rfl, framed_values values⟩
  unambiguous others e e' he he' hbytes := by
    obtain ⟨values, rfl, rfl⟩ := Codec.values_of_jsonLines he
    obtain ⟨values', rfl, rfl⟩ := Codec.values_of_jsonLines he'
    -- Both are cut at the same places, and the pieces give the texts back.
    have hcut := congrArg (List.splitOn lineFeed) hbytes
    rw [(framed_values values).cut, (framed_values values').cut] at hcut
    rw [List.append_cancel_right_eq] at hcut
    have hrender := congrArg (List.map some) (render_eq_of_bytes hcut)
    rw [List.map_map, List.map_map] at hrender
    rw [text?_values, text?_values]
    exact hrender
  appended others := by
    -- The first record that cannot be written decides, in whichever of the two lists it is.
    cases he : Codec.jsonLines.encode records with
    | error f =>
      obtain ⟨values, reason, rest, rfl, rfl⟩ := Codec.unwritable_of_jsonLines he
      rw [List.append_assoc, List.cons_append, Codec.jsonLines_unwritable]
      rfl
    | ok e =>
      cases he' : Codec.jsonLines.encode others with
      | error f =>
        obtain ⟨values, rfl, -⟩ := Codec.values_of_jsonLines he
        obtain ⟨values', reason, rest, rfl, rfl⟩ := Codec.unwritable_of_jsonLines he'
        rw [← List.append_assoc, ← List.map_append, Codec.jsonLines_unwritable]
        rfl
      | ok e' => exact Codec.jsonLines_append he he'

end TableExchange
