import ComplianceRegistry.Registry.AuditPage
import ComplianceRegistry.Registry.Statuses

/-!
# Answers

What the registry gives back is answered as documents.

## Main definitions

* `RegulationType.answer`, `RegulationView.answer`, `StatusView.answer`, `AuditEntry.answer`,
  `AuditPage.answer` — the documents
-/

namespace ComplianceRegistry

/-- The document of an optional text. -/
def Document.ofText? : Option Text → Document
  | some t => .text t
  | none => .null

/-- The document of an optional truth value. -/
def Document.ofTruth? : Option Bool → Document
  | some b => .truth b
  | none => .null

/-- The document of an optional integer. -/
def Document.ofInteger? : Option Int → Document
  | some n => .integer n
  | none => .null

/-- A type of the catalog as an answer. -/
def RegulationType.answer (t : RegulationType) : Document :=
  .object
    [("id", .integer t.id), ("name", .text t.name), ("description", .ofText? t.description)]

/-- A regulation with its type as an answer. -/
def RegulationView.answer (v : RegulationView) : Document :=
  let r := v.regulation
  .object
    [("id", .integer r.id), ("name", .text r.name), ("display_name", .ofText? r.displayName),
      ("description", .ofText? r.description), ("config", .ofText? r.config),
      ("order", .integer r.order), ("type", v.type.answer), ("project_id", .integer r.projectId),
      ("created_at", .text r.createdAt.iso), ("updated_at", .text r.updatedAt.iso)]

/-- A status as an answer, its version named by the catalog id. -/
def StatusView.answer (v : StatusView) : Document :=
  let st := v.status
  .object
    [("id", .integer st.id), ("regulation_id", .integer st.regulationId),
      ("version_id", .text v.catalogId), ("value", .ofText? st.value),
      ("report_details", st.details), ("is_compliant", .ofTruth? st.compliant),
      ("created_at", .text st.createdAt.iso), ("updated_at", .text st.updatedAt.iso)]

/-- An entry of the trail as an answer. -/
def AuditEntry.answer (e : AuditEntry) : Document :=
  .object
    [("id", .integer e.id), ("created_at", .text e.createdAt.iso), ("action", .text e.action),
      ("module", .text e.module), ("entity_type", .text e.entityType),
      ("entity_id", .integer e.entityId), ("field_name", .ofText? e.fieldName),
      ("old_value", .ofText? e.oldValue), ("new_value", .ofText? e.newValue),
      ("user_id", .ofInteger? e.userId), ("ip_address", .ofText? e.address)]

/-- A page of the trail as an answer. -/
def AuditPage.answer (p : AuditPage) : Document :=
  .object
    [("items", .list (p.items.map AuditEntry.answer)), ("total", .integer p.total),
      ("page", .integer p.page), ("per_page", .integer p.perPage), ("pages", .integer p.pages)]

end ComplianceRegistry
