import Amanuensis.Proofs.Settings.Reading
/-!
# What files say

`DefaultSays` and `NamedSays` tell which layer the default file and the named
file are, from the texts that are there: which file counts, in which format
it is read, and what no file says. `load_eq` puts the layers on top of each
other, the environment last.
-/


namespace Amanuensis

namespace Settings

open Value (ofEntries)

/-- What the default file says: the first of the default files that is there,
or nothing where none is. No file has its name without the ending. -/
inductive DefaultSays (f : Files) : Layer → Prop
  | nothing (h : ∀ name ∈ defaultNames, f.isThere (name ++ ".toml") = false) : DefaultSays f []
  | file {before after : List String} {name text : String} {es : List (String × Toml)}
      (hnames : defaultNames = before ++ name :: after)
      (hfirst : ∀ earlier ∈ before, f.isThere (earlier ++ ".toml") = false)
      (htext : f.text? (name ++ ".toml") = some text) (hbare : f.text? name = none)
      (hread : Toml.read? (withoutMark text) = some es) :
      DefaultSays f (ofEntries (name ++ ".toml") es)

/-- What the named file says, whose ending tells its format: nothing where no
file is named or there. -/
inductive NamedSays (f : Files) (named : Option String) : Layer → Prop
  | nothing (h : ∀ path, named = some path → f.isThere path = false) : NamedSays f named []
  | file {path ending text : String} {format : Format} {es : Layer} (hnamed : named = some path)
      (htext : f.text? path = some text) (hending : Files.endingOf path = some ending)
      (hformat : endings.lookup ending = some format)
      (hread : entriesOf (f.label path) (withoutMark text) format = some es) :
      NamedSays f named es

variable {s : Sources} {f : Files} {d e : Layer} {path text : String}

theorem isThere_of_text (h : f.text? path = some text) : f.isThere path = true := by
  rw [Files.isThere, h]
  rfl

/-- The names of the default files are clean and no steps up. -/
theorem defaultNames_clean : ∀ name ∈ defaultNames,
    cleanPath name = name ∧ (cleanParts name).getLast?.getD ".." ≠ ".." ∧
      isAbsolute (name ++ ".toml") = false ∧ cleanPath (name ++ ".toml") = name ++ ".toml" := by
  decide +kernel

/-- A default file is found under its name without the ending. -/
theorem find_default {name : String} (hname : name ∈ defaultNames)
    (htext : f.text? (name ++ ".toml") = some text) (hbare : f.text? name = none) :
    f.find? name = some (name ++ ".toml", .toml, text) := by
  obtain ⟨hclean, hlast, hrelative, hlabel⟩ := defaultNames_clean name hname
  have hending : name ++ "." ++ "toml" = name ++ ".toml" := String.append_assoc
  -- there is no file of that name, and the usual ending is tried first
  rw [Files.find?, hbare]
  dsimp only
  rw [if_neg hlast, hclean, endings, List.findSome?_cons]
  dsimp only
  rw [hending, htext, Option.map_some, Files.label, hrelative, hlabel]
  rfl

theorem find_named {ending : String} {format : Format} (htext : f.text? path = some text)
    (hending : Files.endingOf path = some ending) (hformat : endings.lookup ending = some format) :
    f.find? path = some (f.label path, format, text) := by
  rw [Files.find?, htext]
  dsimp only
  rw [hending, Option.bind_some, hformat, Option.map_some]

/-- What a file, if there is one, adds to the layers. -/
def Adds (file? : Option (String × Format × String)) (layer : Layer) : Prop :=
  file? = none ∧ layer = [] ∨ ∃ file, file? = some file ∧ fileLayer file = .ok layer

theorem adds_default (h : DefaultSays s.files d) : Adds s.defaultFile? d := by
  cases h with
  | nothing h =>
    have hnone : (defaultNames.find? fun name => s.files.isThere (name ++ ".toml")) = none :=
      List.find?_eq_none.2 fun name hname => by simp [h name hname]
    refine .inl ⟨?_, rfl⟩
    rw [Sources.defaultFile?, hnone, Option.bind_none]
  | @file before after name text es hnames hfirst htext hbare hread =>
    have hname : name ∈ defaultNames := by
      rw [hnames]
      exact List.mem_append_right _ List.mem_cons_self
    have hfound : (defaultNames.find? fun name => s.files.isThere (name ++ ".toml")) =
        some name := by
      rw [hnames, List.find?_eq_some_iff_append]
      exact ⟨isThere_of_text htext, before, after, rfl, fun n hn => by simp [hfirst n hn]⟩
    refine .inr ⟨(name ++ ".toml", .toml, text), ?_, ?_⟩
    · rw [Sources.defaultFile?, hfound, Option.bind_some, find_default hname htext hbare]
    · rw [fileLayer, entriesOf, hread]
      rfl

theorem adds_named (h : NamedSays s.files s.named e) : Adds s.namedFile? e := by
  cases h with
  | nothing h =>
    refine .inl ⟨?_, rfl⟩
    rw [Sources.namedFile?]
    cases hnamed : s.named with
    | none => rfl
    | some path => rw [Option.filter_some, h path hnamed]; rfl
  | @file path ending text format es hnamed htext hending hformat hread =>
    refine .inr ⟨(s.files.label path, format, text), ?_, ?_⟩
    · rw [Sources.namedFile?, hnamed, Option.filter_some, if_pos (isThere_of_text htext),
        Option.bind_some, find_named htext hending hformat]
    · rw [fileLayer, hread]

theorem Adds.layers {file? : Option (String × Format × String)} {layer : Layer}
    (h : Adds file? layer) :
    ∃ ls, file?.toList.mapM fileLayer = .ok ls ∧
      ∀ values, ls.foldl mergeLayer values = mergeLayer values layer := by
  obtain ⟨rfl, rfl⟩ | ⟨file, rfl, hlayer⟩ := h
  · exact ⟨[], rfl, fun _ => rfl⟩
  · refine ⟨[layer], ?_, fun _ => rfl⟩
    rw [Option.toList_some, List.mapM_cons, hlayer]
    rfl

/-- **The layers one over the other.** -/
theorem load_eq (hd : DefaultSays s.files d) (he : NamedSays s.files s.named e) :
    load s = ofValues (mergeLayer [] (d ++ (e ++ environmentLayer s.environment))) := by
  obtain ⟨lower, hlower, hmerged⟩ := (adds_default hd).layers
  obtain ⟨upper, hupper, hmerged'⟩ := (adds_named he).layers
  have hlayers : s.layers = .ok (lower ++ upper ++ [environmentLayer s.environment]) := by
    rw [Sources.layers, List.mapM_append, hlower, hupper]
    rfl
  have hvalues : (lower ++ upper ++ [environmentLayer s.environment]).foldl mergeLayer [] =
      mergeLayer [] (d ++ (e ++ environmentLayer s.environment)) := by
    rw [List.foldl_append, List.foldl_append, hmerged, hmerged', mergeLayer_append,
      mergeLayer_append, List.foldl_cons, List.foldl_nil]
  rw [load, hlayers, ← hvalues]
  rfl

/-! ## Layers of documents -/

/-- What a document says. -/
def layerOf (path text : String) : Layer :=
  ofEntries path ((Toml.read? (withoutMark text)).getD [])

theorem read?_of_isSome (h : (Toml.read? (withoutMark text)).isSome) :
    Toml.read? (withoutMark text) = some ((Toml.read? (withoutMark text)).getD []) := by
  obtain ⟨es, hes⟩ := Option.isSome_iff_exists.1 h
  rw [hes, Option.getD_some]

/-- The default file in the place that is looked at first. -/
theorem defaultSays_layerOf {f : Files} (htext : f.text? "config/default.toml" = some text)
    (hbare : f.text? "config/default" = none) (hread : (Toml.read? (withoutMark text)).isSome) :
    DefaultSays f (layerOf "config/default.toml" text) := by
  have hnames : defaultNames = [] ++ "config/default" :: ["../config/default", "default"] := rfl
  have hfirst : ∀ earlier ∈ ([] : List String), f.isThere (earlier ++ ".toml") = false := nofun
  exact .file hnames hfirst htext hbare (read?_of_isSome hread)

/-- The named file, wherever it is. -/
theorem namedSays_layerOf {f : Files} {label : String} (htext : f.text? path = some text)
    (hending : Files.endingOf path = some "toml") (hlabel : f.label path = label)
    (hread : (Toml.read? (withoutMark text)).isSome) :
    NamedSays f (some path) (layerOf label text) := by
  have hlayer : entriesOf (f.label path) (withoutMark text) .toml =
      some (layerOf label text) := by
    rw [hlabel, entriesOf, read?_of_isSome hread]
    rfl
  exact .file rfl htext hending rfl hlayer

end Settings

end Amanuensis
