import Mathlib.Data.List.Induction
import TemplateBatch.Bundle
import TemplateBatch.Proofs.TextPieces

/-!
The listing of a bundle as an ordered map. However a bundle was written, each name is listed once, in
the order in which the names were first written, and stands for what was last written under it.
-/
namespace TemplateBatch.Bundle

theorem names_put (name : String) (content : Bytes) (entries : List Resource) :
    (put name content entries).map Resource.name =
      if name ∈ entries.map Resource.name then entries.map Resource.name
      else entries.map Resource.name ++ [name] := by
  induction entries with
  | nil => rfl
  | cons entry entries ih =>
    rw [put]
    by_cases hentry : entry.name = name
    · simp [hentry]
    · rw [if_neg hentry, List.map_cons, ih]
      by_cases hname : name ∈ entries.map Resource.name
      · have hold : name ∈ (entry :: entries).map Resource.name :=
          List.mem_cons_of_mem entry.name hname
        rw [if_pos hname, if_pos hold]
        rfl
      · have hnew : name ∉ (entry :: entries).map Resource.name := by
          rw [List.map_cons, List.mem_cons, not_or]
          exact ⟨Ne.symm hentry, hname⟩
        rw [if_neg hname, if_neg hnew]
        rfl

/-- A name keeps its place, and a new one is listed behind the others. -/
theorem names_insert (b : Bundle) (name : String) (content : Bytes) :
    (b.insert name content).names = if name ∈ b.names then b.names else b.names ++ [name] :=
  names_put name content b.entries

theorem nodup_names_insert {b : Bundle} (h : b.names.Nodup) (name : String) (content : Bytes) :
    (b.insert name content).names.Nodup := by
  rw [names_insert]
  split_ifs with hname
  · exact h
  · rw [List.nodup_append]
    refine ⟨h, by simp, fun listed hlisted new hnew => ?_⟩
    rw [List.mem_singleton.mp hnew]
    rintro rfl
    exact hname hlisted

theorem get?_put (name key : String) (content : Bytes) (entries : List Resource) :
    get? ⟨put name content entries⟩ key =
      if key = name then some content else get? ⟨entries⟩ key := by
  simp only [get?]
  induction entries with
  | nil =>
    by_cases hkey : key = name
    · simp [put, hkey]
    · simp [put, hkey, Ne.symm hkey]
  | cons entry entries ih =>
    rw [put]
    by_cases hentry : entry.name = name
    · by_cases hkey : key = name
      · simp [hentry, hkey]
      · simp [hentry, hkey, Ne.symm hkey]
    · by_cases hfound : entry.name = key
      · have hkey : key ≠ name := hfound ▸ hentry
        simp [hfound, hkey]
      · simpa [hentry, hfound] using ih

theorem get?_insert (b : Bundle) (name key : String) (content : Bytes) :
    (b.insert name content).get? key = if key = name then some content else b.get? key :=
  get?_put name key content b.entries

/-- One of the ways to write to a bundle. -/
inductive Write where
  | resource (name : String) (content : Bytes)
  | worker (content : Bytes)
  | configuration (content : Bytes)
  deriving DecidableEq, Repr

namespace Write

/-- The name that is written to. -/
def name : Write → String
  | .resource name _ => name
  | .worker _ => workerResource
  | .configuration _ => configurationResource

def content : Write → Bytes
  | .resource _ content => content
  | .worker content => content
  | .configuration content => content

def apply (b : Bundle) : Write → Bundle
  | .resource name content => b.insert name content
  | .worker content => b.insertWorker content
  | .configuration content => b.insertConfiguration content

theorem apply_eq (b : Bundle) (w : Write) : apply b w = b.insert w.name w.content := by
  cases w <;> rfl

end Write

/-- What comes of an empty bundle with these writes one after the other. -/
def written (ws : List Write) : Bundle := ws.foldl Write.apply empty

/-- What was last written to a name. -/
def lastContent? (ws : List Write) (name : String) : Option Bytes :=
  (ws.filter fun w => w.name == name).getLast?.map Write.content

theorem written_concat (ws : List Write) (w : Write) :
    written (ws ++ [w]) = (written ws).insert w.name w.content := by
  rw [written, List.foldl_concat, Write.apply_eq]
  rfl

theorem lastContent?_concat (ws : List Write) (w : Write) (name : String) :
    lastContent? (ws ++ [w]) name =
      if name = w.name then some w.content else lastContent? ws name := by
  rw [lastContent?, List.filter_append]
  by_cases hname : name = w.name
  · simp [hname]
  · simp [hname, Ne.symm hname, lastContent?]

theorem nodup_names_written (ws : List Write) : (written ws).names.Nodup := by
  induction ws using List.reverseRecOn with
  | nil => exact List.nodup_nil
  | append_singleton ws w ih =>
    rw [written_concat]
    exact nodup_names_insert ih w.name w.content

theorem names_written (ws : List Write) :
    (written ws).names = (ws.map Write.name).eraseDups := by
  induction ws using List.reverseRecOn with
  | nil => rfl
  | append_singleton ws w ih =>
    have hlisted : w.name ∈ (written ws).names ↔ w.name ∈ ws.map Write.name := by
      rw [ih, List.mem_eraseDups]
    rw [written_concat, names_insert, List.map_append, List.map_singleton, List.eraseDups_append,
      ← ih]
    by_cases hname : w.name ∈ ws.map Write.name
    · simp [hlisted, hname, List.cons_removeAll]
    · simp [hlisted, hname, List.cons_removeAll, List.eraseDups_cons]

theorem get?_written (ws : List Write) (name : String) :
    (written ws).get? name = lastContent? ws name := by
  induction ws using List.reverseRecOn with
  | nil => rfl
  | append_singleton ws w ih => rw [written_concat, get?_insert, ih, lastContent?_concat]

theorem require_eq_ok_iff {b : Bundle} {name : String} {content : Bytes} :
    b.require name = .ok content ↔ b.get? name = some content := by
  rw [require]
  cases b.get? name <;> simp

theorem require_eq_error_iff {b : Bundle} {name : String} {e : ResourceError} :
    b.require name = .error e ↔ b.get? name = none ∧ e = .missing name := by
  rw [require]
  cases b.get? name <;> simp [eq_comm]

theorem startingWith_eq (b : Bundle) (start : String) :
    b.startingWith start = b.entries.filter fun entry => start.toList <+: entry.name.toList := by
  rw [startingWith]
  refine List.filter_congr fun entry _ => ?_
  rw [Bool.eq_iff_iff, Text.startsWith_iff, decide_eq_true_iff]

/-- However a bundle was written, its listing is an ordered map. Each name stands in it once, in the
order of the first writes, and for what was last written to it, and a beginning of names selects
those that begin so. -/
theorem written_ordered_map (ws : List Write) :
    (written ws).names.Nodup ∧
      (written ws).names = (ws.map Write.name).eraseDups ∧
      (∀ name, (written ws).get? name = lastContent? ws name) ∧
      (∀ name content, (written ws).require name = .ok content ↔
        (written ws).get? name = some content) ∧
      (∀ name e, (written ws).require name = .error e ↔
        (written ws).get? name = none ∧ e = .missing name) ∧
      ∀ start, (written ws).startingWith start =
        (written ws).entries.filter fun entry => start.toList <+: entry.name.toList :=
  ⟨nodup_names_written ws, names_written ws, get?_written ws, fun _ _ => require_eq_ok_iff,
    fun _ _ => require_eq_error_iff, startingWith_eq (written ws)⟩

/-- A name that is written to again keeps its place. -/
example : (written [.worker [1], .resource "dates" [2], .worker [3]]).entries =
    [⟨workerResource, [3]⟩, ⟨"dates", [2]⟩] := by decide +kernel

end TemplateBatch.Bundle
