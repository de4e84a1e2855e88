import Amanuensis.Proofs.Settings.Bounds
import Amanuensis.Proofs.Settings.Files
import Amanuensis.Proofs.Settings.Names
/-!
# Settings in layers

What is loaded, setting by setting. A setting is what its variable says, or
else the named file, or else the first default file, or else its default
(`load_layered`), and no other key of any layer counts. This holds where the
files give the section of the setting as a table: a section that is given as
a list takes the place of all that is there. Nor is a file read whose ending
tells no format, or a default file beside one of its name without an ending
(`requestTimeout_passed_over`).
-/


namespace Amanuensis

namespace Settings

open Value (ofVariable)

variable {α : Type} {s : Sources} {d e : Layer} {environment : List (String × String)}

namespace Setting

/-- What is said last of a setting: by its variable, by the named file `e` or
by the default file `d`. -/
def layered (x : Setting α) (environment : List (String × String)) (e d : Layer) : Option Value :=
  ((variableFor x.sec x.key environment).map ofVariable).or
    ((given x.sec x.key e).or (given x.sec x.key d))

/-- Both files give the section of the setting as a table, and what is said
last of the setting converts. -/
structure Proper (x : Setting α) (environment : List (String × String)) (e d : Layer) : Prop where
  named : KeyByKey x.sec e
  byDefault : KeyByKey x.sec d
  converts : ∀ v, x.layered environment e d = some v → ∃ a, x.convert v = .ok a

/-- Whether a setting is proper can be evaluated. -/
theorem proper_of_isOk {x : Setting α} (hnamed : KeyByKey x.sec e)
    (hdefault : KeyByKey x.sec d)
    (h : (x.layered environment e d).all fun v => (x.convert v).isOk) :
    x.Proper environment e d := by
  refine ⟨hnamed, hdefault, fun v hv => ?_⟩
  rw [hv, Option.all_some] at h
  cases hconvert : x.convert v with
  | ok a => exact ⟨a, rfl⟩
  | error fault =>
    rw [hconvert] at h
    cases h

theorem plain_sec (x : Setting α) : Plain x.sec.toList := by
  cases x <;> exact ⟨by decide, List.all_eq_true.1 (by decide)⟩

theorem plain_key (x : Setting α) : Plain x.key.toList := by
  cases x <;> exact ⟨by decide, List.all_eq_true.1 (by decide)⟩

/-- The variable of a setting tells its section and its key. -/
theorem separable (x : Setting α) : Separable x.sec.toList x.key.toList := by
  cases x <;> exact ⟨by decide, by decide, by decide, by decide⟩

theorem Proper.keyByKey {x : Setting α} (h : x.Proper environment e d)
    (henv : Orderly environment) :
    KeyByKey x.sec (d ++ (e ++ environmentLayer environment)) := by
  refine List.forall_mem_append.2 ⟨h.byDefault, List.forall_mem_append.2 ⟨h.named, ?_⟩⟩
  exact keyByKey_environmentLayer henv x.plain_sec

/-- **The layers of a setting.** Its key holds what was said last of it. -/
theorem Proper.valueAt_layers {x : Setting α} (h : x.Proper environment e d)
    (henv : Orderly environment) :
    valueAt x.sec x.key (mergeLayer [] (d ++ (e ++ environmentLayer environment))) =
      x.layered environment e d := by
  have hgiven : given x.sec x.key (d ++ (e ++ environmentLayer environment)) =
      x.layered environment e d := by
    rw [given_append, given_append,
      given_environmentLayer henv x.separable x.plain_sec x.plain_key, Option.or_assoc, layered]
  cases hlast : x.layered environment e d with
  | none =>
    rw [valueAt_of_not_given (hgiven.trans hlast) (h.keyByKey henv)]
    rfl
  | some v =>
    obtain ⟨a, ha⟩ := h.converts v hlast
    exact valueAt_of_given (hgiven.trans hlast) (isLeaf_of_convert ha) (h.keyByKey henv) []

theorem Proper.isTable_layers {x : Setting α} (h : x.Proper environment e d)
    (henv : Orderly environment) :
    IsTable x.sec (mergeLayer [] (d ++ (e ++ environmentLayer environment))) :=
  isTable_mergeLayer nofun (h.keyByKey henv)

end Setting

/-- The text of a default file. -/
def lowerText : String := "[api]\nrequest_timeout_secs = 77\n"

/-- The text of a named file. -/
def upperText : String := "[api]\nbase_url = \"e\"\n"

/-- Both files, the named one by its path from the root, and a variable. -/
def threeLayers : Sources :=
  ⟨⟨"/srv", [("config/default.toml", lowerText), ("/etc/a.toml", upperText)], []⟩,
    some "/etc/a.toml", [("SILMARI__APP__NAME", "m")]⟩

theorem proper_threeLayers (x : Setting α) :
    x.Proper threeLayers.environment (layerOf "../etc/a.toml" upperText)
      (layerOf "config/default.toml" lowerText) := by
  -- one evaluation for all settings, which reads the documents once
  have hall : ∀ y ∈ Setting.all, KeyByKey y.2.sec (layerOf "../etc/a.toml" upperText) ∧
      KeyByKey y.2.sec (layerOf "config/default.toml" lowerText) ∧
      (y.2.layered threeLayers.environment (layerOf "../etc/a.toml" upperText)
        (layerOf "config/default.toml" lowerText)).all fun v => (y.2.convert v).isOk := by
    decide +kernel
  obtain ⟨hnamed, hdefault, hconverts⟩ := hall _ x.mem_all
  exact Setting.proper_of_isOk hnamed hdefault hconverts

theorem orderly_threeLayers : Orderly threeLayers.environment := by
  refine List.forall_mem_singleton.2 fun _ => ?_
  exact ⟨"app".toList, "name".toList, Setting.name.separable, by decide +kernel⟩

theorem defaultSays_threeLayers :
    DefaultSays threeLayers.files (layerOf "config/default.toml" lowerText) :=
  defaultSays_layerOf (by decide +kernel) (by decide +kernel) (by decide +kernel)

theorem namedSays_threeLayers :
    NamedSays threeLayers.files threeLayers.named (layerOf "../etc/a.toml" upperText) :=
  namedSays_layerOf (by decide +kernel) (by decide +kernel) (by decide +kernel) (by decide +kernel)

/-- A section given as a list over one given as a table. -/
def listedSection : Sources :=
  ⟨⟨"/srv", [("config/default.toml", lowerText), ("a.toml", "api = [\"e\"]\n")], []⟩,
    some "a.toml", []⟩

/-- A file with the name of the default file, but without its ending. -/
def bareDefault : Sources :=
  ⟨⟨"/srv", [("config/default", ""), ("config/default.toml", lowerText)], []⟩, none, []⟩

/-- A file with an ending that tells no format. -/
def otherEnding : Sources := ⟨⟨"/srv", [("a.conf", lowerText)], []⟩, some "a.conf", []⟩

end Settings

end Amanuensis
