import ComplianceRegistry.Trail

/-!
# Pages of the audit trail

The trail is read in pages, the latest entry first. A page is asked for by filters, all of which
an entry has to pass, by its number and by the number of entries on a page.

## Main definitions

* `AuditQuery` — filters, number and size of a page
* `AuditQuery.matching` — the entries that pass the filters, latest first
* `AuditPage.find` — the page
-/

namespace ComplianceRegistry

/-- What is asked of the trail. An empty module or entity type is no filter. -/
structure AuditQuery where
  module : Option Text
  entityType : Option Text
  entityId : Option Int
  action : Option Trail.Action
  page : Int
  perPage : Int
deriving DecidableEq, Repr

/-- A page of the trail. -/
structure AuditPage where
  items : List AuditEntry
  total : Nat
  page : Int
  perPage : Int
  pages : Int
deriving DecidableEq, Repr

namespace AuditQuery

/-- The filter by a text; the empty text filters nothing. -/
def passesText (filter : Option Text) (t : Text) : Bool :=
  match filter with
  | none => true
  | some [] => true
  | some wanted => wanted == t

/-- The entry passes all filters. -/
def passes (q : AuditQuery) (e : AuditEntry) : Bool :=
  passesText q.module e.module && passesText q.entityType e.entityType &&
    q.entityId.all (· == e.entityId) && q.action.all (·.name == e.action)

/-- The first entry comes before the second: it is later, or as late with a larger id. -/
def precedes (a b : AuditEntry) : Bool :=
  b.createdAt.micros < a.createdAt.micros ||
    (a.createdAt.micros == b.createdAt.micros && b.id ≤ a.id)

/-- The entries that pass the filters, latest first. -/
def matching (q : AuditQuery) (s : Store) : List AuditEntry :=
  (s.audit.filter q.passes).mergeSort precedes

/-- How many entries come before the page. -/
def offset (q : AuditQuery) : Int := (q.page - 1) * q.perPage

end AuditQuery

namespace AuditPage

/-- The entry can be shown: its action is one of the three. -/
def readable (e : AuditEntry) : Bool := (Trail.Action.ofName? e.action).isSome

/-- The page that is asked for. -/
def find (s : Store) (q : AuditQuery) : Except Fault AuditPage := do
  checkText? q.module
  checkText? q.entityType
  checkInteger (q.entityId.getD 0)
  checkInteger q.offset
  let all := q.matching s
  let items := (all.drop q.offset.toNat).take q.perPage.toNat
  if items.all readable then
    .ok
      { items
        total := all.length
        page := q.page
        perPage := q.perPage
        pages := (all.length + q.perPage - 1) / q.perPage }
  else .error .rowUnreadable

end AuditPage

end ComplianceRegistry
