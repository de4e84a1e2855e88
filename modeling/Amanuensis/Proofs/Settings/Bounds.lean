import Amanuensis.Proofs.Settings.Reading
import Amanuensis.Proofs.Toml.Integers
/-!
# Bounds of settings

Wherever a number is set, it fits 64 bits once it is loaded (`load_inWords`):
integers of documents and variables do, merging layers makes no new ones,
and conversion stays within. So no duration made of a setting is cut short
(`InWords.carried`, `InWords.timeout`).
-/


namespace Amanuensis

namespace Settings

/-- Every integer in the value fits a word. -/
inductive Value.Fits : Value → Prop
  | unit (origin : Option String) : Fits (.unit origin)
  | bool (b : Bool) (origin : Option String) : Fits (.bool b origin)
  | int {n : Int} (h : Text.fitsWord n = true) (origin : Option String) : Fits (.int n origin)
  | float (x : Binary64) (origin : Option String) : Fits (.float x origin)
  | str (s : String) (origin : Option String) : Fits (.str s origin)
  | arr {items : List Value} (h : ∀ v ∈ items, Fits v) (origin : Option String) :
      Fits (.arr items origin)
  | table {es : List (String × Value)} (h : ∀ e ∈ es, Fits e.2) (origin : Option String) :
      Fits (.table es origin)

/-- Every integer in the layer fits a word. -/
def Fits (layer : Layer) : Prop := ∀ e ∈ layer, e.2.Fits

variable {key : String} {v old : Value} {es layer values : Layer} {settings : Settings} {n : Nat}

open Value (mergeEntries mergedWith setEntry)

/-! ## Merging -/

theorem fits_nil : Fits [] := List.forall_mem_nil _

theorem Fits.lookup (h : Fits es) (hfind : es.lookup key = some v) : v.Fits := by
  obtain ⟨before, after, rfl, -⟩ := List.lookup_eq_some_iff.1 hfind
  exact h (key, v) (List.mem_append_right before List.mem_cons_self)

theorem Fits.lookup_getD (h : Fits es) : ((es.lookup key).getD (.unit none)).Fits := by
  cases hfind : es.lookup key with
  | none => exact .unit none
  | some v => exact h.lookup hfind

theorem Fits.setEntry (h : Fits es) (hv : v.Fits) : Fits (setEntry key v es) := by
  induction es with
  | nil => exact List.forall_mem_singleton.2 hv
  | cons e es ih =>
    obtain ⟨he, hes⟩ := List.forall_mem_cons.1 h
    rw [Value.setEntry]
    split
    · exact List.forall_mem_cons.2 ⟨hv, hes⟩
    · exact List.forall_mem_cons.2 ⟨he, ih hes⟩

theorem Value.Fits.asTable (h : v.Fits) : Settings.Fits v.asTable.1 := by
  cases h with
  | table hes => exact hes
  | _ => exact fits_nil

theorem Value.Fits.asList (h : v.Fits) : ∀ w ∈ v.asList.1, w.Fits := by
  cases h with
  | arr hitems => exact hitems
  | _ => exact List.forall_mem_nil _

/-- Entries merge into ones that fit if each of them does. -/
theorem Fits.mergeEntries {done : Layer} (hdone : Fits done)
    (hes : ∀ e ∈ es, ∀ before : Option Value, (before.getD (.unit none)).Fits →
      (mergedWith before e.2).Fits) : Fits (mergeEntries done es) := by
  induction es generalizing done with
  | nil => exact hdone
  | cons e es ih =>
    obtain ⟨he, hes⟩ := List.forall_mem_cons.1 hes
    exact ih (hdone.setEntry (he _ hdone.lookup_getD)) hes

theorem Value.Fits.mergedWith (h : v.Fits) {before : Option Value}
    (hbefore : (before.getD (.unit none)).Fits) : (mergedWith before v).Fits := by
  induction h generalizing before with
  | @table es hes origin ih =>
    cases es with
    | nil =>
      cases before with
      | none => exact .table fits_nil none
      | some w => exact hbefore -- a table without entries changes nothing
    | cons e es =>
      rw [Value.mergedWith]
      exact .table (hbefore.asTable.mergeEntries fun e he before hb => ih e he hb) _
  | unit origin => exact .unit origin
  | bool b origin => exact .bool b origin
  | int hn origin => exact .int hn origin
  | float x origin => exact .float x origin
  | str s origin => exact .str s origin
  | arr hitems origin => exact .arr hitems origin

theorem forall_mem_modify {α : Type} {P : α → Prop} {f : α → α} {l : List α} {i : Nat}
    (hl : ∀ a ∈ l, P a) (hf : ∀ a ∈ l, P (f a)) : ∀ a ∈ l.modify i f, P a := by
  intro a ha
  obtain ⟨j, hj⟩ := List.mem_iff_getElem?.1 ha
  rw [List.getElem?_modify] at hj
  obtain ⟨b, hb, rfl⟩ := Option.map_eq_some_iff.1 hj
  have hmem := List.mem_of_getElem? hb
  split
  · exact hf b hmem
  · exact hl b hmem

theorem fits_fillUp {items : List Value} (h : ∀ v ∈ items, v.Fits) (index : Int) :
    ∀ v ∈ (fillUp items index).1, v.Fits := by
  have hfilled : ∀ k, ∀ v ∈ List.replicate k (Inhabited.default : Value), v.Fits := by
    intro k v hv
    rw [List.eq_of_mem_replicate hv]
    exact .unit none
  rw [fillUp]
  generalize (if index < 0 then (items.length : Int) + index else index) = place
  split
  · exact List.forall_mem_append.2 ⟨hfilled _, h⟩
  · exact List.forall_mem_append.2 ⟨h, hfilled _⟩

theorem Value.Fits.put (h : v.Fits) (hold : old.Fits) (path : List Step) :
    (v.put path old).Fits := by
  induction path generalizing old with
  | nil => exact h
  | cons step path ih =>
    cases step with
    | key k =>
      cases path with
      | nil => exact .table (hold.asTable.setEntry (h.mergedWith hold.asTable.lookup_getD)) _
      | cons next path => exact .table (hold.asTable.setEntry (ih hold.asTable.lookup_getD)) _
    | item i =>
      have hfilled := fits_fillUp hold.asList i
      exact .arr (forall_mem_modify hfilled fun w hw => ih (hfilled w hw)) _

theorem Fits.mergeLayer (hvalues : Fits values) (h : Fits layer) :
    Fits (mergeLayer values layer) := by
  induction layer generalizing values with
  | nil => exact hvalues
  | cons e layer ih =>
    obtain ⟨he, hlayer⟩ := List.forall_mem_cons.1 h
    exact ih (he.put (.table hvalues none) (steps e.1)).asTable hlayer

/-! ## Layers -/

theorem ofItems_eq (path : String) (items : List Toml) :
    Value.ofItems path items = items.map (Value.ofToml path) := by
  induction items with
  | nil => rfl
  | cons t items ih => rw [Value.ofItems, ih, List.map_cons]

theorem ofEntries_eq (path : String) (es : List (String × Toml)) :
    Value.ofEntries path es =
      es.map fun e => (String.ofList (Text.lowercase e.1.toList), Value.ofToml path e.2) := by
  induction es with
  | nil => rfl
  | cons e es ih => rw [Value.ofEntries, ih, List.map_cons]

/-- Integers of a document are integers of its values. -/
theorem fits_ofToml {t : Toml} (h : t.Fits) (path : String) : (Value.ofToml path t).Fits := by
  induction h with
  | arr _ ih =>
    rw [Value.ofToml, ofItems_eq]
    exact .arr (List.forall_mem_map.2 ih) _
  | table _ ih =>
    rw [Value.ofToml, ofEntries_eq]
    exact .table (List.forall_mem_map.2 ih) _
  | int hn => exact .int hn _
  | str s => exact .str s _
  | float x => exact .float x _
  | bool b => exact .bool b _
  | time text => exact .str text _

theorem fitsWord_iff {k : Int} :
    Text.fitsWord k = true ↔ -9223372036854775808 ≤ k ∧ k < 9223372036854775808 := by
  have hword : (Text.wordLimit : Int) = 9223372036854775808 := by decide
  rw [Text.fitsWord, hword, Bool.and_eq_true, decide_eq_true_eq, decide_eq_true_eq]

theorem fitsWord_of_le {k : Int} (h : -Value.maxInteger - 1 ≤ k ∧ k ≤ Value.maxInteger) :
    Text.fitsWord k = true := by
  have hmax : Value.maxInteger = 9223372036854775807 := by decide
  rw [hmax] at h
  rw [fitsWord_iff]
  omega

mutual

/-- An integer of an object that fits no word is a double. -/
theorem fits_ofJson (path : String) : ∀ j : Json, (Value.ofJson path j).Fits
  | .null => .unit _
  | .str s => .str s _
  | .num (.int k) => by
    rw [Value.ofJson]
    split
    · rename_i hk
      exact .int (fitsWord_of_le hk) _
    · exact .float _ _
  | .num (.float x) => .float x _
  | .bool b => .bool b _
  | .arr items => .arr (fits_ofJsonItems path items) _
  | .obj members => .table (fits_ofMembers path members) _

theorem fits_ofJsonItems (path : String) :
    ∀ items : List Json, ∀ v ∈ Value.ofJsonItems path items, v.Fits
  | [] => List.forall_mem_nil _
  | j :: rest => List.forall_mem_cons.2 ⟨fits_ofJson path j, fits_ofJsonItems path rest⟩

theorem fits_ofMembers (path : String) :
    ∀ members : List (String × Json), Fits (Value.ofMembers path members)
  | [] => fits_nil
  | (_, j) :: rest => List.forall_mem_cons.2 ⟨fits_ofJson path j, fits_ofMembers path rest⟩

end

theorem fits_integer {s : List Char} {m : Int} (h : Text.integer? s = some m) :
    Text.fitsWord m = true := by
  obtain ⟨k, -, hk⟩ := Option.bind_eq_some_iff.1 h
  obtain ⟨hfits, hm⟩ := Option.ite_none_right_eq_some.1 hk
  exact Option.some.inj hm ▸ hfits

theorem fits_ofVariable (value : String) : (Value.ofVariable value).Fits := by
  simp only [Value.ofVariable]
  split_ifs
  · exact .bool true _
  · exact .bool false _
  · split
    · rename_i m _ hm
      exact .int (fits_integer hm) _
    · exact .float _ _
    · exact .str _ _

theorem fits_environmentLayer (environment : List (String × String)) :
    Fits (environmentLayer environment) := by
  intro e he
  obtain ⟨v, -, hentry⟩ := List.mem_filterMap.1 he
  unfold variableEntry? at hentry
  dsimp only at hentry
  split at hentry
  · cases hentry
    exact fits_ofVariable v.2
  · cases hentry

theorem fits_fileLayer {file : String × Format × String} (h : fileLayer file = .ok layer) :
    Fits layer := by
  obtain ⟨path, format, text⟩ := file
  unfold fileLayer at h
  split at h
  · rename_i es hes
    cases h
    cases format with
    | toml =>
      obtain ⟨entries, hread, rfl⟩ := Option.map_eq_some_iff.1 hes
      rw [ofEntries_eq]
      exact List.forall_mem_map.2 fun e he => fits_ofToml (Toml.read?_fits hread e he) path
    | json =>
      unfold entriesOf at hes
      dsimp only at hes
      split at hes
      · cases hes
        exact fits_ofMembers _ _
      · cases hes
  · cases h

theorem fits_mapM {files : List (String × Format × String)} {ls : List Layer}
    (h : files.mapM fileLayer = .ok ls) : ∀ layer ∈ ls, Fits layer := by
  induction files generalizing ls with
  | nil =>
    cases h
    exact List.forall_mem_nil _
  | cons file files ih =>
    rw [List.mapM_cons, bind_eq_ok] at h
    obtain ⟨first, hfirst, h⟩ := h
    obtain ⟨rest, hrest, h⟩ := bind_eq_ok.1 h
    cases h
    exact List.forall_mem_cons.2 ⟨fits_fileLayer hfirst, ih hrest⟩

theorem fits_layers {s : Sources} {ls : List Layer} (h : s.layers = .ok ls) :
    ∀ layer ∈ ls, Fits layer := by
  rw [Sources.layers, bind_eq_ok] at h
  obtain ⟨files, hfiles, h⟩ := h
  cases h
  refine List.forall_mem_append.2 ⟨?_, List.forall_mem_singleton.2 (fits_environmentLayer _)⟩
  exact fits_mapM hfiles

/-- What is merged of all layers fits. -/
theorem fits_merged {ls : List Layer} (h : ∀ layer ∈ ls, Fits layer) (hvalues : Fits values) :
    Fits (ls.foldl mergeLayer values) := by
  induction ls generalizing values with
  | nil => exact hvalues
  | cons layer ls ih =>
    obtain ⟨hlayer, hls⟩ := List.forall_mem_cons.1 h
    exact ih hls (hvalues.mergeLayer hlayer)

/-! ## Conversion -/

theorem natural_lt (x : Binary64) : Value.natural x < UInt64.size := by
  have hmax : Value.maxNatural < UInt64.size := by decide
  rw [Value.natural]
  split
  · decide
  · split
    · exact hmax
    · exact Nat.lt_of_le_of_lt (Nat.min_le_right _ _) hmax

theorem toNat_lt (b : Bool) : b.toNat < UInt64.size := by
  cases b <;> decide

/-- A natural number fits 64 bits. -/
theorem toNatural_lt (h : v.Fits) (hn : v.toNatural = .ok n) : n < UInt64.size := by
  cases h with
  | @int m hm origin =>
    unfold Value.toNatural at hn
    dsimp only at hn
    -- a negative integer is refused
    split at hn
    · cases hn
    · cases hn
      have hsize : UInt64.size = 18446744073709551616 := rfl
      rw [fitsWord_iff] at hm
      omega
  | bool b origin =>
    cases hn
    exact toNat_lt b
  | float x origin =>
    cases hn
    exact natural_lt x
  | str s origin =>
    unfold Value.toNatural at hn
    dsimp only at hn
    split at hn
    · cases hn
      exact toNat_lt _
    · rename_i m _ hread
      cases hn
      unfold Text.naturalBelow? at hread
      split at hread
      · cases hread
      · simpa using (Option.filter_eq_some_iff.1 hread).2
    · cases hn
  | _ => cases hn

theorem toSmallNatural_lt (hn : v.toSmallNatural = .ok n) : n < UInt32.size := by
  obtain ⟨m, -, hn⟩ := bind_eq_ok.1 hn
  split at hn
  · rename_i hm
    cases hn
    exact hm
  · cases hn

/-! ## Settings -/

theorem fits_sectionOf (h : Fits values) (sec : String) : (sectionOf values sec).given.Fits := by
  rw [sectionOf]
  split
  · rename_i v hv
    exact h.lookup hv
  · exact .table fits_nil none

theorem fits_find {s : Section} (hs : s.given.Fits) {place : Nat} {found : String}
    (h : s.find place key = (found, some v)) : v.Fits := by
  unfold Section.find at h
  split at h
  · rename_i items origin hgiven
    cases h' : items[place]? with
    | none => simp [h'] at h
    | some w =>
      rw [hgiven] at hs
      cases hs with
      | arr hitems =>
        simp only [h', Prod.mk.injEq, Option.some.injEq] at h
        exact h.2 ▸ hitems w (List.mem_of_getElem? h')
  · simp only [Prod.mk.injEq] at h
    exact hs.asTable.lookup h.2

/-- What is converted, or the default, wherever a section has it. -/
theorem read_of_fits {α : Type} {s : Section} {place : Nat} {convert : Value → Except Fault α}
    {default a : α} {P : α → Prop} (hs : s.given.Fits) (hdefault : P default)
    (hconvert : ∀ v : Value, v.Fits → ∀ a, convert v = .ok a → P a)
    (h : s.read place key convert default = .ok a) : P a := by
  unfold Section.read at h
  split at h
  · cases h
    exact hdefault
  · rename_i found v hfound
    split at h
    · rename_i b hb
      cases h
      exact hconvert v (fits_find hs hfound) a hb
    · cases h

theorem read_lt {s : Section} {place default : Nat} (hs : s.given.Fits)
    (hdefault : default < UInt64.size) (h : s.read place key Value.toNatural default = .ok n) :
    n < UInt64.size :=
  read_of_fits (P := (· < UInt64.size)) hs hdefault (fun _ hv _ hn => toNatural_lt hv hn) h

/-- The settings that are natural numbers fit 64 bits, and the number of
repeated requests 32. -/
structure InWords (settings : Settings) : Prop where
  requestTimeout : settings.api.requestTimeoutSeconds < UInt64.size
  initialInterval : settings.polling.initialInterval < UInt64.size
  maxInterval : settings.polling.maxInterval < UInt64.size
  maxDuration : settings.polling.maxDuration < UInt64.size
  retryDelay : settings.polling.retryDelay < UInt64.size
  maxRetries : settings.polling.maxRetries < UInt32.size
  toolTimeout : settings.tools.timeoutSeconds < UInt64.size

theorem inWords_ofValues (hvalues : Fits values) (h : ofValues values = .ok settings) :
    InWords settings := by
  obtain ⟨-, hapi, hpolling, htools⟩ := ofValues_eq_ok.1 h
  simp only [Api.read, bind_eq_ok, pure_eq_ok] at hapi
  simp only [Polling.read, bind_eq_ok, pure_eq_ok] at hpolling
  simp only [Tools.read, bind_eq_ok, pure_eq_ok] at htools
  obtain ⟨-, -, url, -, request, hrequest, hapi⟩ := hapi
  obtain ⟨-, -, initial, hinitial, interval, hinterval, duration, hduration, delay, hdelay,
    retries, hretries, hpolling⟩ := hpolling
  obtain ⟨-, -, timeout, htimeout, score, -, htools⟩ := htools
  have hfits := fits_sectionOf hvalues
  constructor
  · exact hapi ▸ read_lt (hfits _) (by decide) hrequest
  · exact hpolling ▸ read_lt (hfits _) (by decide) hinitial
  · exact hpolling ▸ read_lt (hfits _) (by decide) hinterval
  · exact hpolling ▸ read_lt (hfits _) (by decide) hduration
  · exact hpolling ▸ read_lt (hfits _) (by decide) hdelay
  · exact hpolling ▸ read_of_fits (P := (· < UInt32.size)) (hfits _) (by decide)
      (fun _ _ _ hn => toSmallNatural_lt hn) hretries
  · exact htools ▸ read_lt (hfits _) (by decide) htimeout

/-- **Loaded settings fit**, whatever the files and the environment hold. -/
theorem load_inWords {s : Sources} (h : load s = .ok settings) : InWords settings := by
  obtain ⟨ls, hls, h⟩ := bind_eq_ok.1 h
  exact inWords_ofValues (fits_merged (fits_layers hls) fits_nil) h

/-! ## Durations -/

theorem nanos_ofMillis (h : n < UInt64.size) :
    (Duration.ofMillis n).nanos = n * Duration.nanosPerMilli := by
  have hsize : UInt64.size = 18446744073709551616 := rfl
  simp only [Duration.ofMillis, Duration.ofNanos, Duration.maxNanos, Duration.nanosPerMilli]
  omega

theorem nanos_ofSeconds (h : n < UInt64.size) :
    (Duration.ofParts n 0).nanos = n * Duration.nanosPerSecond := by
  have hsize : UInt64.size = 18446744073709551616 := rfl
  simp only [Duration.ofParts, Duration.ofNanos, Duration.maxNanos, Duration.nanosPerSecond]
  omega

/-- The options of polling say what the settings say. -/
structure Polling.Carried (p : Polling) (o : Research.Poll.Options) : Prop where
  initialInterval : o.initialInterval.nanos = p.initialInterval * Duration.nanosPerMilli
  maxInterval : o.maxInterval.nanos = p.maxInterval * Duration.nanosPerMilli
  maxDuration : o.maxDuration.nanos = p.maxDuration * Duration.nanosPerMilli
  retryDelay : o.retryDelay.nanos = p.retryDelay * Duration.nanosPerMilli
  maxRetries : o.maxRetries.toNat = p.maxRetries

/-- **The options of polling** are cut short nowhere. -/
theorem InWords.carried (h : InWords settings) :
    settings.polling.Carried settings.polling.options :=
  ⟨nanos_ofMillis h.initialInterval, nanos_ofMillis h.maxInterval, nanos_ofMillis h.maxDuration,
    nanos_ofMillis h.retryDelay, UInt32.toNat_ofNat_of_lt' h.maxRetries⟩

/-- **The deadline of calls** is that of the settings, where zero is none. -/
theorem InWords.timeout (h : InWords settings) :
    settings.tools.timeout.map Duration.nanos =
      if settings.tools.timeoutSeconds = 0 then none
      else some (settings.tools.timeoutSeconds * Duration.nanosPerSecond) := by
  rw [Tools.timeout]
  split
  · rfl
  · rw [Option.map_some, nanos_ofSeconds h.toolTimeout]

end Settings

end Amanuensis
