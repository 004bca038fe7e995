import TemplateBatch.Proofs.ParentPaths
import TemplateBatch.Proofs.StagingSteps
import TemplateBatch.RunConfiguration

/-!
The components of paths that are joined and taken apart. A name that is joined to a path is one
component more, and its parent has the components of that path again, however the path is spelled.
The worker therefore looks for its run configuration where the host stages it.
-/
namespace TemplateBatch

namespace Path

theorem not_isIdle_name {name : String} (h : IsName name) : (!isIdle name.toList) = true := by
  have hhere : name.toList ≠ ['.'] := h.ne_of_dots (by simp)
  simp [isIdle, h.toList_ne_nil, hhere]

theorem counted_name {name : String} (h : IsName name) : counted name.toList = [name.toList] :=
  filter_pieces_name _ h (not_isIdle_name h)

theorem component_name {name : String} (h : IsName name) :
    component name.toList = .name name.toList :=
  if_neg (h.ne_of_dots (by simp))

theorem openingComponents_name {name : String} (h : IsName name) :
    openingComponents name.toList = [] := by
  obtain ⟨c, hc, hdot⟩ := h.notDots
  have hseparator := h.noSeparator
  revert hc hseparator
  unfold openingComponents
  fun_cases opening name.toList with
  | case1 => simp
  | case2 => simp [hdot]
  | case3 => simp
  | case4 => exact fun _ _ => rfl

section Join
variable (p : Path) {name : String} (h : IsName name)
include h

theorem counted_join : counted (p.join name).chars = counted p.chars ++ [name.toList] :=
  filter_pieces_join p h rfl (not_isIdle_name h)

theorem openingComponents_join :
    openingComponents (p.join name).chars = openingComponents p.chars := by
  rcases chars_join p h with ⟨hnil | ⟨a, ha⟩, hchars⟩ | ⟨hne, hchars⟩
  · rw [hchars, hnil, List.nil_append, openingComponents_name h]
    rfl
  · rw [hchars, ha, List.append_assoc, List.singleton_append]
    by_cases hnil : a = []
    · rw [hnil]
      rfl
    · rw [openingComponents_append hnil, openingComponents_append hnil]
  · rw [hchars, openingComponents_append hne]

theorem components_join : (p.join name).components = p.components ++ [.name name.toList] := by
  rw [components_eq, components_eq, openingComponents_join p h, counted_join p h, List.map_append,
    List.map_singleton, component_name h, List.append_assoc]

/-- The parent of a path that a name was joined to has the components of this path again. -/
theorem exists_parent_join :
    ∃ parent, (p.join name).parent? = some parent ∧ parent.components = p.components := by
  have hcounted : counted (p.join name).chars ≠ [] := by
    rw [counted_join p h]
    exact List.append_ne_nil_of_right_ne_nil _ (List.cons_ne_nil _ _)
  obtain ⟨parent, hparent, _⟩ := exists_parent hcounted
  refine ⟨parent, hparent, ?_⟩
  rw [components_of_parent? hparent, components_join p h, List.dropLast_concat]

end Join

end Path

/-- The worker looks for its run configuration where the host stages it: at the components of the
staging directory and one more, in whatever way the directory is spelled. -/
theorem configuration_beside_executable (l : Staging.Layout) :
    (RunConfiguration.beside l.executablePath).Same l.configurationPath ∧
      l.configurationPath.components =
        l.directory.components ++ [.name Bundle.configurationFileName.toList] := by
  have hconfiguration : Path.IsName Bundle.configurationFileName :=
    Staging.Artifact.configuration.isName
  have hstaged : l.configurationPath.components =
      l.directory.components ++ [.name Bundle.configurationFileName.toList] :=
    l.directory.components_join hconfiguration
  obtain ⟨parent, hparent, hsame⟩ : ∃ parent, l.executablePath.parent? = some parent ∧
      parent.components = l.directory.components :=
    l.directory.exists_parent_join Staging.Artifact.executable.isName
  refine ⟨?_, hstaged⟩
  rw [Path.Same, RunConfiguration.beside, hparent, Option.getD_some,
    parent.components_join hconfiguration, hsame, hstaged]

/-- The two spellings need not be equal. -/
example :
    RunConfiguration.beside (Staging.Layout.mk ⟨"s//./"⟩).executablePath ≠
      (Staging.Layout.mk ⟨"s//./"⟩).configurationPath := by
  decide +kernel

end TemplateBatch
