import ComplianceRegistry.Proofs.Arrivals
import ComplianceRegistry.Proofs.Faults

/-!
# The configs of regulations

A type and a config may be changed apart from each other, through types that take no config or any
config at all. Whatever was changed before, a regulation has a type and its config has the grammar
of that type. A threshold has a number to compare with, and a regulation that is changed in other
respects keeps its config without complaint.

## Main results

* `Verdict.evaluate_threshold` — the verdict on a threshold whose config is a number
* `World.configs_serve` — after every run configs have the grammar of their types
-/

namespace ComplianceRegistry

variable {typeName : Text} {config : Option Text} {ctx : Context} {s : Store}

namespace Config

theorem Grammatical.of_boolean (h : Grammatical Kind.boolean.name config) : config = none := by
  simpa [Grammatical] using h

theorem Grammatical.of_threshold (h : Grammatical Kind.threshold.name config) :
    IsNumber config := by
  simpa [Grammatical] using h

theorem Grammatical.of_junit (h : Grammatical Kind.junit.name config) : IsNumber config := by
  simpa [Grammatical] using h

theorem IsNumber.readOptional_eq (h : IsNumber config) :
    ∃ n, Verdict.readOptional config = .number n := by
  obtain ⟨t, n, rfl, hn⟩ := h
  exact ⟨n, hn⟩

end Config

namespace Verdict

/-- With a number to compare with, the verdict on a threshold depends on the value alone. -/
theorem evaluate_threshold {bound : Number} {value : Option Text}
    (h : readOptional config = .number bound) :
    evaluate Kind.threshold.name config value =
      match readOptional value with
      | .number n => .ok (bound.le n)
      | .notNumber => .ok false
      | .beyondBounds => .error .numberBeyondBounds := by
  simp only [evaluate, Kind.ofName?_name, threshold, h]
  cases readOptional value <;> rfl

end Verdict

namespace Store

/-- The config of a regulation has the grammar of the one type that it has. -/
theorem Sound.grammatical (hs : s.Sound) {r : Regulation} {t : RegulationType}
    (hr : r ∈ s.regulations) (ht : t ∈ s.types) (hid : t.id = r.typeId) :
    Config.Grammatical t.name r.config := by
  -- ids of types are unshared, so that there is no other type to look at
  obtain ⟨u, hu, huid, hgrammar⟩ := hs.configures r hr
  rwa [eq_of_key_eq hs.typeIds ht hu (hid.trans huid.symm)]

end Store

namespace Operation

/-- An update that touches neither the type nor the config never finds fault with the config. -/
theorem ne_configNotNumber (hs : s.Sound) {project : Int} {address : Address} {patch : Patch}
    (htype : patch.typeId = none) (hconfig : patch.config = none) {kind : Kind} :
    ((run ctx (.updateRegulation project address patch)).perform s).answer ≠
      .error (.configNotNumber kind) := by
  intro h
  -- an update ends in this fault only if it patches the type or the config
  rcases (run_refuses hs (.updateRegulation project address patch)).perform h with hend | hend
  · exact hend htype
  · exact hend hconfig

end Operation

namespace World

variable {settings : Settings} {w : World} {arrivals : List Arrival}

/-- After every run each regulation has a type and a config with its grammar; so a threshold has a
number to compare with, and an update of other columns never finds fault with the config. -/
theorem configs_serve (h : w.store.Initial) :
    (∀ r ∈ (w.serve settings arrivals).store.regulations,
      (∃ t ∈ (w.serve settings arrivals).store.types, t.id = r.typeId) ∧
      ∀ t ∈ (w.serve settings arrivals).store.types, t.id = r.typeId →
        (t.name = Kind.boolean.name → r.config = none) ∧
        (t.name = Kind.threshold.name ∨ t.name = Kind.junit.name →
          ∃ text n, r.config = some text ∧ Number.read text = .number n) ∧
        (t.name = Kind.threshold.name → Verdict.readOptional r.config ≠ .notNumber ∧
          ∃ bound, ∀ value, Verdict.evaluate t.name r.config value =
            match Verdict.readOptional value with
            | .number n => .ok (Number.le bound n)
            | .notNumber => .ok false
            | .beyondBounds => .error .numberBeyondBounds)) ∧
    ∀ (ctx : Context) (project : Int) (address : Address) (patch : Patch),
      patch.typeId = none → patch.config = none → ∀ kind,
      (((Operation.updateRegulation project address patch).run ctx).perform
        (w.serve settings arrivals).store).answer ≠ .error (.configNotNumber kind) := by
  have hs : (w.serve settings arrivals).store.Sound := (kept_serve h).toSound
  refine ⟨fun r hr => ⟨List.mem_map.1 (hs.regulationTypes r hr), fun t ht hid => ?_⟩,
    fun _ _ _ _ htype hconfig _ => Operation.ne_configNotNumber hs htype hconfig⟩
  have hgrammar := hs.grammatical hr ht hid
  refine ⟨fun hname => ?_, fun hname => ?_, fun hname => ?_⟩
  · rw [hname] at hgrammar
    exact hgrammar.of_boolean
  · rcases hname with hname | hname
    · rw [hname] at hgrammar
      exact hgrammar.of_threshold
    · rw [hname] at hgrammar
      exact hgrammar.of_junit
  · rw [hname] at hgrammar ⊢
    obtain ⟨bound, hbound⟩ := hgrammar.of_threshold.readOptional_eq
    exact ⟨by simp [hbound], bound, fun _ => Verdict.evaluate_threshold hbound⟩

/-- A threshold is created, refuses a config that is no number, and is then renamed. -/
def thresholdArrivals : List Arrival :=
  [.plain "POST" "/api/v1/projects/1/regulations"
      "\x7b\"name\": \"t\", \"type_id\": 2, \"config\": \" 0.5 \"\x7d",
    .plain "PUT" "/api/v1/projects/1/regulations/1" "\x7b\"config\": \"high\"\x7d",
    .plain "PUT" "/api/v1/projects/1/regulations/1" "\x7b\"name\": \"u\"\x7d"]

/-- The threshold keeps its number through all of this, and any other name may follow. -/
theorem configs_serve_threshold :
    sample.store.Initial ∧
    (∀ r ∈ (sample.serve (.ofDatabase "sqlite") thresholdArrivals).store.regulations,
      ∃ text n, r.config = some text ∧ Number.read text = .number n) ∧
    (((Operation.updateRegulation 1 (.byId 1) ⟨some "v", none, none, none, none, none⟩).run
        ⟨⟨0⟩, none, none, false⟩).perform
      (sample.serve (.ofDatabase "sqlite") thresholdArrivals).store).answer ≠
      .error (.configNotNumber .threshold) := by
  obtain ⟨hconfigs, hupdate⟩ :=
    @configs_serve (.ofDatabase "sqlite") sample thresholdArrivals Store.initial_sample
  refine ⟨Store.initial_sample, fun r hr => ?_, hupdate _ _ _ _ rfl rfl _⟩
  have htype : ∃ t ∈ (sample.serve (.ofDatabase "sqlite") thresholdArrivals).store.types,
      t.id = r.typeId ∧ t.name = Kind.threshold.name := by
    revert r
    decide +kernel
  obtain ⟨t, ht, hid, hname⟩ := htype
  exact ((hconfigs r hr).2 t ht hid).2.1 (.inl hname)

end World

end ComplianceRegistry
