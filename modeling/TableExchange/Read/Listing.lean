import TableExchange.Service.Interface

/-!
Listings of the splits of a read session. A listing fetches pages on demand, hands out their splits
in order, page by page or one by one, and reports its end once. Keys must ascend strictly across
all pages.
-/

namespace TableExchange

/-- Fetches one page. An empty marker is refused without a request: the listing it belongs to has
ended. -/
def fetchPage {σ : Type} (svc : ReadService σ) (session : TableSession) (scope : Scope)
    (marker : Option Marker) (x : Exchange σ) : Except Failure SplitPage × Exchange σ :=
  if marker.any Marker.isEmpty then
    (.error (.of .staleMarker "The split listing already ended"
      (some s!"an empty marker was supplied for session {session.id}")), x)
  else x.ask (svc.listSplits session scope marker)

/-- Lists the splits with keys from `lower` up to an optional upper key, in one request. -/
def listRange {σ : Type} (svc : ReadService σ) (session : TableSession) (lower : String)
    (upper : Option String) (x : Exchange σ) : Except Failure (List Split) × Exchange σ :=
  if lower.isEmpty then
    (.error (.of .validation "A lower split key is required for range listings"), x)
  else x.ask (svc.listRange session lower upper)

/-- How far a listing has come: no page fetched, a page to follow, the last page fetched, or the
end reported. -/
inductive ListingStage
  | initial
  | following (marker : Marker)
  | exhausted
  | reported
deriving DecidableEq, Repr

structure Listing where
  session : TableSession
  scope : Scope
  stage : ListingStage := .initial
  buffered : List Split := []
  lastKey : Option String := none
  pagesFetched : Nat := 0
deriving DecidableEq, Repr

namespace Listing

def start (session : TableSession) (scope : Scope) : Listing :=
  { session, scope }

/-- Lists again from the first page. -/
def restart (l : Listing) : Listing :=
  start l.session l.scope

/-- Whether the last page was fetched and all its splits were handed out. -/
def isExhausted (l : Listing) : Bool :=
  l.buffered.isEmpty && (l.stage == .exhausted || l.stage == .reported)

def outOfOrder (l : Listing) (key last : String) : Failure :=
  .of .orderViolated "The service returned splits out of order"
    (some s!"split key '{key}' follows '{last}' in session {l.session.id}")

/-- Checks that the keys ascend from the last accepted one on. Keys are accepted one by one, also
when a later one is refused. -/
def checkOrder (l : Listing) : List Split → Except Failure Unit × Listing
  | [] => (.ok (), l)
  | s :: rest =>
    match l.lastKey with
    | some last =>
      if s.key ≤ last then (.error (l.outOfOrder s.key last), l)
      else checkOrder { l with lastKey := some s.key } rest
    | none => checkOrder { l with lastKey := some s.key } rest

/-- Takes over a page whose keys were accepted. -/
def accept (l : Listing) (page : SplitPage) : Listing :=
  { l with
    pagesFetched := l.pagesFetched + 1
    stage := match page.continuation with
      | some marker => .following marker
      | none => .exhausted }

/-- Fetches a page, checks it, and hands it out. -/
def fetch {σ : Type} (svc : ReadService σ) (marker : Option Marker) (l : Listing)
    (x : Exchange σ) : Except Failure (Option (List Split)) × Listing × Exchange σ :=
  match fetchPage svc l.session l.scope marker x with
  | (.error f, x) => (.error f, l, x)
  | (.ok page, x) =>
    match l.checkOrder page.splits with
    | (.error f, l) => (.error f, l, x)
    | (.ok (), l) =>
      (.ok (some page.splits), l.accept page,
        (x.count (.pagesFetched l.session.id) 1).count (.splitsListed l.session.id)
          page.splits.length.toUInt64)

/-- The next page, or nothing at the end, which is reported once. Splits that were fetched but not
handed out come first. -/
def nextPage {σ : Type} (svc : ReadService σ) (l : Listing) (x : Exchange σ) :
    Except Failure (Option (List Split)) × Listing × Exchange σ :=
  if !l.buffered.isEmpty then (.ok (some l.buffered), { l with buffered := [] }, x)
  else match l.stage with
    | .initial => l.fetch svc none x
    | .following marker => l.fetch svc (some marker) x
    | .exhausted => (.ok none, { l with stage := .reported }, x)
    | .reported =>
      (.error (.of .listingExhausted "The split listing was already exhausted"
        (some s!"session {l.session.id}")), l, x)

/-- One step towards the next split: hands out a buffered one, or fetches a page. -/
def stepSplit {σ : Type} (svc : ReadService σ) :
    Listing × Exchange σ → Option (Except Failure (Option Split)) × Listing × Exchange σ
  | (l, x) =>
    match l.buffered with
    | s :: rest => (some (.ok (some s)), { l with buffered := rest }, x)
    | [] =>
      match l.nextPage svc x with
      | (.error f, l, x) => (some (.error f), l, x)
      | (.ok none, l, x) => (some (.ok none), l, x)
      | (.ok (some page), l, x) => (none, { l with buffered := page }, x)

/-- The next split, or nothing at the end. The answer is absent when `rounds` steps do not reach
it. -/
def nextSplit {σ : Type} (svc : ReadService σ) (rounds : Nat) (l : Listing) (x : Exchange σ) :
    Option (Except Failure (Option Split)) × Listing × Exchange σ :=
  settle (stepSplit svc) rounds (l, x)

/-- Hands out splits until the end or the first failure, which is the last item. -/
def stream {σ : Type} (svc : ReadService σ) (rounds : Nat) :
    Nat → Listing → Exchange σ → List (Except Failure Split) × Listing × Exchange σ
  | 0, l, x => ([], l, x)
  | items + 1, l, x =>
    match l.nextSplit svc rounds x with
    | (some (.ok (some s)), l, x) =>
      let (rest, l, x) := stream svc rounds items l x
      (.ok s :: rest, l, x)
    | (some (.error f), l, x) => ([.error f], l, x)
    | (_, l, x) => ([], l, x)

@[simp] theorem session_accept (l : Listing) (page : SplitPage) :
    (l.accept page).session = l.session := rfl

@[simp] theorem isExhausted_start (session : TableSession) (scope : Scope) :
    (start session scope).isExhausted = false := rfl

end Listing

end TableExchange
