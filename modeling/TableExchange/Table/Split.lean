import TableExchange.Json.Record

/-!
Splits, the independently readable units of a table scan, and the pages and scopes of their
listings. Splits are ordered by key and then by locator.
-/

namespace TableExchange

/-- One unit of a scan: its position within the scan, and where to read it. -/
structure Split where
  key : String
  locator : String
deriving DecidableEq, Repr

namespace Split

/-- Whether a split comes no later than another. -/
def atMost (a b : Split) : Bool :=
  a.key < b.key || (a.key == b.key && a.locator ≤ b.locator)

def text (s : Split) : String :=
  s!"{s.key}@{s.locator}"

def sort (splits : List Split) : List Split :=
  splits.mergeSort atMost

/-- The split of a number, its key of at least four digits. -/
def ofNumber (n : Nat) : Split :=
  let digits := toString n
  ⟨String.ofList (List.replicate (4 - digits.length) '0') ++ digits, s!"split-{n}"⟩

def numbered (count : Nat) : List Split :=
  (List.range count).map ofNumber

def toJson (s : Split) : Json :=
  .texts [("key", s.key), ("locator", s.locator)]

def ofJson? (j : Json) : Option Split := do
  match ← j.slots ["key", "locator"] with
  | [k, l] => return ⟨← k.required Json.text?, ← l.required Json.text?⟩
  | _ => none

end Split

/-- An opaque cursor into a listing. The empty cursor says that no page follows. -/
structure Marker where
  text : String
deriving DecidableEq, Repr

namespace Marker

def isEmpty (m : Marker) : Bool :=
  m.text.isEmpty

def toJson (m : Marker) : Json :=
  .string m.text

/-- Reads the cursor from the wire. -/
def ofJson? (j : Json) : Option Marker :=
  (Json.text? j).map Marker.mk

end Marker

/-- One page of a listing. `maxItems` is the page size that the service applied. -/
structure SplitPage where
  splits : List Split
  nextMarker : Option Marker
  maxItems : Option UInt32
deriving DecidableEq, Repr

def SplitPage.continuation (p : SplitPage) : Option Marker :=
  p.nextMarker.filter fun m => !m.isEmpty

/-- The part of a table that a read session scans. Without partitions or columns it is all of
them; the filter is opaque text for the service. -/
structure Scope where
  partitions : List String := []
  columns : List String := []
  filter : Option String := none
  pageSize : Option UInt32 := none
deriving DecidableEq, Repr

namespace Scope

def toJson (s : Scope) : Json :=
  .object [("partitions", .array (s.partitions.map .string)),
    ("columns", .array (s.columns.map .string)), ("filter", .optional .string s.filter),
    ("page_size", .optional (fun n => .nat n.toNat) s.pageSize)]

/-- Reads the record; every part may be missing. -/
def ofJson? (j : Json) : Option Scope := do
  match ← j.slots ["partitions", "columns", "filter", "page_size"] with
  | [p, c, f, n] =>
    return {
      partitions := ← p.orElse (Json.list? Json.text?) []
      columns := ← c.orElse (Json.list? Json.text?) []
      filter := ← f.orElse (Json.nullOr Json.text?) none
      pageSize := ← n.orElse (Json.nullOr Json.word32?) none }
  | _ => none

end Scope

end TableExchange
