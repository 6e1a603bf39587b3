import TableExchange.Write.Codec

/-!
Records as lines of JSON. The lines of two lists of records, one after the other, are the lines of
the list that the two make up, and so are their bytes.
-/
namespace TableExchange

namespace Text.Utf8

theorem toList_loop (bytes : ByteArray) (i : Nat) (done : List UInt8) :
    ByteArray.toList.loop bytes i done = done.reverse ++ bytes.data.toList.drop i := by
  induction i, done using ByteArray.toList.loop.induct bytes with
  | case1 i done hlt ih =>
    have hlength : i < bytes.data.toList.length := by simpa using hlt
    have hbyte : bytes.get! i = bytes.data.toList[i] := by
      rw [ByteArray.get!, Array.getElem_toList]
      exact getElem!_pos bytes.data i (by simpa using hlt)
    rw [ByteArray.toList.loop, if_pos hlt, ih, List.drop_eq_getElem_cons hlength, hbyte,
      List.reverse_cons, List.append_assoc, List.singleton_append]
  | case2 i done hge =>
    have hlength : bytes.data.toList.length ≤ i := by simpa using hge
    rw [ByteArray.toList.loop, if_neg hge, List.drop_eq_nil_of_le hlength, List.append_nil]

theorem encode_eq (s : String) : encode s = s.toByteArray.data.toList := by
  rw [encode, String.toUTF8, ByteArray.toList, toList_loop]
  simp

@[simp] theorem encode_append (s t : String) : encode (s ++ t) = encode s ++ encode t := by
  simp only [encode_eq, String.toByteArray_append, ByteArray.toList_data_append]

end Text.Utf8

namespace JsonLines

variable {first second : List JsonRecord} {cs ds : List Char}

/-- Lists of records whose lines can be written have their lines written in a row. -/
theorem lines_append (hfirst : lines first = .ok cs) (hsecond : lines second = .ok ds) :
    lines (first ++ second) = .ok (cs ++ ds) := by
  induction first generalizing cs with
  | nil =>
    obtain rfl := Except.ok.inj hfirst
    exact hsecond
  | cons r rest ih =>
    simp only [lines, List.cons_append] at hfirst ⊢
    cases hline : line r with
    | error f =>
      rw [hline] at hfirst
      contradiction
    | ok l =>
      cases hrest : lines rest with
      | error f =>
        rw [hline, hrest] at hfirst
        contradiction
      | ok ls =>
        rw [hline, hrest] at hfirst
        obtain rfl : l ++ ls = cs := Except.ok.inj hfirst
        rw [ih hrest, List.append_assoc]
        rfl

end JsonLines

namespace Codec

variable {first second : List JsonRecord} {e e' : EncodedBatch}

theorem jsonLines_of_lines {records : List JsonRecord} {cs : List Char}
    (h : JsonLines.lines records = .ok cs) : jsonLines.encode records =
      .ok ⟨Text.Utf8.encode (String.ofList cs), records.length.toUInt64⟩ := by
  simp only [jsonLines, h]
  rfl

theorem lines_of_jsonLines {records : List JsonRecord} (h : jsonLines.encode records = .ok e) :
    ∃ cs, JsonLines.lines records = .ok cs ∧
      e = ⟨Text.Utf8.encode (String.ofList cs), records.length.toUInt64⟩ := by
  cases hlines : JsonLines.lines records with
  | error f =>
    simp only [jsonLines, hlines] at h
    contradiction
  | ok cs =>
    rw [jsonLines_of_lines hlines] at h
    exact ⟨cs, rfl, (Except.ok.inj h).symm⟩

theorem jsonLines_nil : jsonLines.encode [] = .ok ⟨[], 0⟩ := by
  rw [jsonLines_of_lines (show JsonLines.lines [] = .ok [] from rfl), Text.Utf8.encode_eq]
  simp

/-- Two batches of records have the bytes and the count of the one batch that they make up. -/
theorem jsonLines_append (hfirst : jsonLines.encode first = .ok e)
    (hsecond : jsonLines.encode second = .ok e') :
    jsonLines.encode (first ++ second) = .ok ⟨e.bytes ++ e'.bytes, e.records + e'.records⟩ := by
  obtain ⟨cs, hcs, rfl⟩ := lines_of_jsonLines hfirst
  obtain ⟨ds, hds, rfl⟩ := lines_of_jsonLines hsecond
  have hcount : (first ++ second).length.toUInt64 =
      first.length.toUInt64 + second.length.toUInt64 := by
    rw [List.length_append]
    exact UInt64.ofNat_add _ _
  rw [jsonLines_of_lines (JsonLines.lines_append hcs hds), String.ofList_append,
    Text.Utf8.encode_append, hcount]

end Codec

end TableExchange
