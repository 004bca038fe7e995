import TemplateBatch.Pipeline
import TemplateBatch.Proofs.Utf8
import TemplateBatch.Proofs.WorkResults

/-!
The libraries that the host carries. They are texts, so they can always be read back from their
octets, and every compiler builds its modules with both of them. What keeps a pipeline from being
put together is then only its toolchain or its layout.
-/
namespace TemplateBatch

theorem Reference.ofResource_encode (name text : String) :
    ofResource ⟨name, Text.Utf8.encode text⟩ = .ok (.source (resourceName name) text) := by
  simp only [ofResource, Text.Utf8.decode?_encode]

namespace Bundle

def textResource : String := referencesStart ++ "text.rs"

def casingResource : String := referencesStart ++ "casing.rs"

/-- The libraries are found by the start of their names, whatever is in them. -/
theorem startingWith_libraries (text casing configuration : Bytes) :
    (((empty.insert textResource text).insert casingResource casing).insertConfiguration
        configuration).startingWith referencesStart =
      [⟨textResource, text⟩, ⟨casingResource, casing⟩] := by
  have hdistinct : textResource ≠ casingResource ∧ textResource ≠ configurationResource ∧
      casingResource ≠ configurationResource := by decide +kernel
  have hstart : Text.startsWith textResource referencesStart = true ∧
      Text.startsWith casingResource referencesStart = true ∧
      Text.startsWith configurationResource referencesStart = false := by decide +kernel
  simp only [insertConfiguration, insert, empty, put, hdistinct, if_false, startingWith,
    List.filter, hstart]

end Bundle

namespace Reference

open TemplateBatch.Bundle (textResource casingResource)

/-- What every module is built with. -/
def libraries : List Reference :=
  [.source "text" Embedded.textLibrary, .source "casing" Embedded.casingLibrary]

theorem load_libraries (text casing : String) (configuration : Bytes) :
    load (((Bundle.empty.insert textResource (Text.Utf8.encode text)).insert casingResource
        (Text.Utf8.encode casing)).insertConfiguration configuration) =
      .ok [.source "text" text, .source "casing" casing] := by
  have htext : resourceName textResource = "text" := by decide +kernel
  have hcasing : resourceName casingResource = "casing" := by decide +kernel
  rw [load, Bundle.startingWith_libraries]
  simp only [ofResources, ofResource_encode, htext, hcasing]

theorem baseline_eq : baseline = .ok libraries := load_libraries _ _ _

end Reference

theorem ModuleCompiler.ofToolchain_eq (toolchain : Toolchain) (options : CompilerOptions) :
    ofToolchain toolchain options = .ok ⟨toolchain, options, Reference.libraries⟩ := by
  -- Unfolded as a function, so that the libraries are not decoded on the way.
  generalize hf : ofToolchain = f
  delta ofToolchain at hf
  rw [← hf, Reference.baseline_eq]

section Configured
variable {m : Machine} {c : Configuration} {b : Bundle} {w w₁ : World}

theorem ModuleCompiler.gives_ofConfiguration {toolchain : Toolchain}
    (h : (Toolchain.resolve m c.compiler).Gives w toolchain w₁) :
    (ofConfiguration m c).Gives w ⟨toolchain, c.options, Reference.libraries⟩ w₁ :=
  Work.gives_bind.mpr ⟨toolchain, w₁, Work.gives_mapError.mpr h,
    Work.gives_ofExcept.mpr ⟨ofToolchain_eq toolchain c.options, rfl⟩⟩

/-- A pipeline is put together from its toolchain and its layout. -/
theorem Pipeline.gives_ofConfiguration {toolchain : Toolchain} {place : Staging.Layout}
    (htoolchain : (Toolchain.resolve m c.compiler).Gives w toolchain w₁)
    (hlayout : layout m c = .ok place) :
    let bundle := workerBundle c toolchain.libraryDirectory b
    (ofConfiguration m c b).Gives w
      ⟨⟨toolchain, c.options, Reference.libraries⟩, ⟨⟨place, bundle, false⟩, c.runtimeDirectory⟩,
        c.output, []⟩
      (Staging.Stager.create m place bundle w₁).2 := by
  have hcompiler := ModuleCompiler.gives_ofConfiguration htoolchain
  refine Work.gives_bind.mpr ⟨_, w₁, Work.gives_mapError.mpr hcompiler, ?_⟩
  refine Work.gives_bind.mpr ⟨_, w₁, Work.gives_ofExcept.mpr ⟨hlayout, rfl⟩, ?_⟩
  refine Work.gives_bind.mpr ⟨w₁, w₁, Work.gives_world.mpr ⟨rfl, rfl⟩, ?_⟩
  refine Work.gives_bind.mpr ⟨(), _, Work.gives_set.mpr rfl, ?_⟩
  exact Work.gives_pure.mpr ⟨rfl, rfl⟩

end Configured
end TemplateBatch
