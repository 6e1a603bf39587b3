import TableExchange.Failure.Kind

/-!
Failures. A failure is either single, with a kind and a description, or an aggregate of failures
that arose together. An aggregate of one failure is that failure.
-/

namespace TableExchange

/-- A failure. `causes` holds the texts of what led to it, the nearest first. -/
inductive Failure where
  | single (kind : FailureKind) (description : String) (detail : Option String)
      (causes : List String)
  | many (members : List Failure)
deriving Repr, Inhabited

namespace Failure

def of (kind : FailureKind) (description : String) (detail : Option String := none) : Failure :=
  .single kind description detail []

/-- Aggregates failures; a lone one stands for itself. -/
def ofList : List Failure → Failure
  | [f] => f
  | fs => .many fs

@[simp] theorem ofList_singleton (f : Failure) : ofList [f] = f := rfl

mutual

def kind : Failure → FailureKind
  | .single k _ _ _ => k
  | .many members => firstKind members

def firstKind : List Failure → FailureKind
  | [] => .unknown
  | f :: _ => kind f

end

@[simp] theorem kind_ofList (fs : List Failure) : (ofList fs).kind = firstKind fs := by
  rcases fs with _ | ⟨f, _ | ⟨g, rest⟩⟩ <;> rfl

mutual

def kinds : Failure → List FailureKind
  | .single k _ _ _ => [k]
  | .many members => kindsOf members

def kindsOf : List Failure → List FailureKind
  | [] => []
  | f :: rest => kinds f ++ kindsOf rest

end

@[simp] theorem kinds_ofList (fs : List Failure) : (ofList fs).kinds = kindsOf fs := by
  rcases fs with _ | ⟨f, _ | ⟨g, rest⟩⟩
  · rfl
  · simp [kindsOf]
  · rfl

def category (f : Failure) : FailureCategory :=
  f.kind.category

def description : Failure → Option String
  | .single _ d _ _ => some d
  | .many _ => none

mutual

def detail : Failure → Option String
  | .single _ _ d _ => d
  | .many members => firstDetail members

def firstDetail : List Failure → Option String
  | [] => none
  | f :: rest => (detail f).or (firstDetail rest)

end

/-- Whether a failure records where it arose: aggregates leave that to their members. -/
def hasTrace : Failure → Bool
  | .single _ _ _ _ => true
  | .many _ => false

/-- Records what led to a failure. An aggregate has its first member as its cause already. -/
def becauseOf (causes : List String) : Failure → Failure
  | .single k d t _ => .single k d t causes
  | .many members => .many members

mutual

/-- Whether two failures count as equal: single ones of one kind, and aggregates whose members are
pairwise equal. -/
def same : Failure → Failure → Bool
  | .single a _ _ _, .single b _ _ _ => a == b
  | .many as, .many bs => sameAll as bs
  | _, _ => false

/-- Whether two lists of failures are pairwise equal. -/
def sameAll : List Failure → List Failure → Bool
  | [], [] => true
  | a :: as, b :: bs => same a b && sameAll as bs
  | _, _ => false

end

inductive HashPiece
  | shape (aggregate : Bool)
  | kind (k : FailureKind)
  | text (s : String)
  | count (n : Nat)
deriving DecidableEq, Repr

mutual

/-- What a failure feeds to a hash function: kinds and descriptions, so that repeated occurrences
group together. -/
def hashPieces : Failure → List HashPiece
  | .single k d _ _ => [.shape false, .kind k, .text d]
  | .many members => .shape true :: .count members.length :: hashPiecesOf members

/-- What the members feed to a hash function. -/
def hashPiecesOf : List Failure → List HashPiece
  | [] => []
  | f :: rest => hashPieces f ++ hashPiecesOf rest

end

end Failure

end TableExchange
