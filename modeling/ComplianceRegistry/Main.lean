import ComplianceRegistry.Registry.Catalog

/-!
# Printing the catalog

The program sets up a registry without rows, seeds its type catalog and prints what the catalog
holds then. Like the script that seeds a registry, it does not record what it changes.
-/

namespace ComplianceRegistry

/-- The text that is printed after seeding a registry without rows. -/
def freshCatalog : Text :=
  let seeded := (Catalog.seed false ⟨⟨0⟩, none, none, false⟩).perform .empty
  match seeded.answer with
  | .ok created => Catalog.report created (Catalog.list seeded.store)
  | .error fault => fault.message?.getD []

end ComplianceRegistry

/-- Prints the catalog of a registry that was just set up. -/
def main : IO Unit := IO.print ComplianceRegistry.freshCatalog.toString
