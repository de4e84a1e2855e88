import Amanuensis.Toml.Document
import Mathlib.Data.List.Basic
import Mathlib.Data.Option.Basic
/-!
# Integers of documents

Every integer in a document that is read fits a word (`read?_fits`), in
whatever lists and tables it stands. A value is fit when it is read, and
stays so when its table is put together from entries and sections and when
marked times are taken for times.
-/


namespace Amanuensis

namespace Toml

/-- Every integer in the value fits a word. -/
inductive Fits : Toml → Prop
  | str (s : String) : Fits (.str s)
  | int {n : Int} (h : Text.fitsWord n = true) : Fits (.int n)
  | float (x : Binary64) : Fits (.float x)
  | bool (b : Bool) : Fits (.bool b)
  | time (text : String) : Fits (.time text)
  | arr {items : List Toml} (h : ∀ v ∈ items, Fits v) : Fits (.arr items)
  | table {es : List (String × Toml)} (h : ∀ e ∈ es, Fits e.2) : Fits (.table es)

/-- Every integer in a part of a table under construction fits a word. -/
inductive Node.Fits : Node → Prop
  | value {v : Toml} (h : v.Fits) : Node.Fits (.value v)
  | table {opening : Opening} {es : Entries} (h : ∀ e ∈ es, Node.Fits e.2) :
      Node.Fits (.table opening es)
  | tables {items : List Entries} (h : ∀ es ∈ items, ∀ e ∈ es, Node.Fits e.2) :
      Node.Fits (.tables items)

variable {key : String} {v : Toml} {path : List String} {n : Node} {several : Bool}

namespace Entries

variable {es es' : Entries}

/-- Every integer in the entries fits a word. -/
def Fits (es : Entries) : Prop := ∀ e ∈ es, e.2.Fits

theorem fits_nil : Fits [] := List.forall_mem_nil _

theorem Fits.find (h : es.Fits) (hfind : es.find? key = some n) : n.Fits := by
  obtain ⟨before, after, rfl, -⟩ := List.lookup_eq_some_iff.1 hfind
  exact h (key, n) (List.mem_append_right before List.mem_cons_self)

theorem Fits.set (h : es.Fits) (hn : n.Fits) : (es.set key n).Fits := by
  induction es with
  | nil => exact List.forall_mem_singleton.2 hn
  | cons e es ih =>
    obtain ⟨k, m⟩ := e
    obtain ⟨hm, hes⟩ := List.forall_mem_cons.1 h
    rw [Entries.set]
    split
    · exact List.forall_mem_cons.2 ⟨hn, hes⟩
    · exact List.forall_mem_cons.2 ⟨hm, ih hes⟩

/-- What holds of the items still does when the last one is changed. -/
theorem forall_changeLast {α : Type} {P : α → Prop} {change : α → Option α} {l l' : List α}
    (hl : ∀ a ∈ l, P a) (hchange : ∀ a ∈ l, ∀ b, change a = some b → P b)
    (h : changeLast change l = some l') : ∀ a ∈ l', P a := by
  induction l generalizing l' with
  | nil => cases h
  | cons a l ih =>
    cases l with
    | nil =>
      obtain ⟨b, hb, rfl⟩ := Option.map_eq_some_iff.1 h
      exact List.forall_mem_singleton.2 (hchange a List.mem_cons_self b hb)
    | cons c l =>
      obtain ⟨rest, hrest, rfl⟩ := Option.map_eq_some_iff.1 h
      obtain ⟨ha, hl⟩ := List.forall_mem_cons.1 hl
      obtain ⟨-, hchange⟩ := List.forall_mem_cons.1 hchange
      exact List.forall_mem_cons.2 ⟨ha, ih hl hchange hrest⟩

theorem Fits.put (h : es.Fits) (hv : v.Fits) (hput : es.put key v path = some es') : es'.Fits := by
  induction path generalizing es es' with
  | nil =>
    rw [Entries.put] at hput
    split at hput
    · cases hput
      exact h.set (.value hv)
    · cases hput
  | cons k path ih =>
    rw [Entries.put] at hput
    split at hput
    · obtain ⟨inner, hinner, rfl⟩ := Option.map_eq_some_iff.1 hput
      exact h.set (.table (ih fits_nil hinner))
    · rename_i opening inner hfind
      split at hput
      · cases hput
      · obtain ⟨inner', hinner, rfl⟩ := Option.map_eq_some_iff.1 hput
        cases h.find hfind with
        | table hold => exact h.set (.table (ih hold hinner))
    · rename_i items hfind
      split at hput
      · cases hput
      · obtain ⟨items', hitems, rfl⟩ := Option.map_eq_some_iff.1 hput
        cases h.find hfind with
        | tables hold =>
          exact h.set (.tables (forall_changeLast hold (fun es hes _ => ih (hold es hes)) hitems))
    · cases hput

theorem Fits.putAll {lines : List (List String × String × Toml)} (h : es.Fits)
    (hlines : ∀ line ∈ lines, line.2.2.Fits) (hput : es.putAll lines = some es') : es'.Fits := by
  induction lines generalizing es with
  | nil =>
    cases hput
    exact h
  | cons line lines ih =>
    obtain ⟨path, key, v⟩ := line
    obtain ⟨hline, hlines⟩ := List.forall_mem_cons.1 hlines
    rw [Entries.putAll] at hput
    split at hput
    · rename_i inner hinner
      exact ih (h.put hline hinner) hlines hput
    · cases hput

variable {fill : Entries → Option Entries}

theorem Fits.openSection (h : es.Fits)
    (hfill : ∀ inner inner', Fits inner → fill inner = some inner' → Fits inner')
    (hopen : es.openSection several key fill = some es') : es'.Fits := by
  rw [Entries.openSection] at hopen
  split at hopen
  · -- one more table of a list
    split at hopen
    · obtain ⟨inner, hinner, rfl⟩ := Option.map_eq_some_iff.1 hopen
      exact h.set (.tables (List.forall_mem_singleton.2 (hfill _ _ fits_nil hinner)))
    · rename_i items hfind
      obtain ⟨inner, hinner, rfl⟩ := Option.map_eq_some_iff.1 hopen
      cases h.find hfind with
      | tables hold =>
        refine h.set (.tables fun es hes => ?_)
        rcases List.mem_append.1 hes with hes | hes
        · exact hold es hes
        · rw [List.mem_singleton.1 hes]
          exact hfill _ _ fits_nil hinner
    · cases hopen
  · split at hopen
    · obtain ⟨inner, hinner, rfl⟩ := Option.map_eq_some_iff.1 hopen
      exact h.set (.table (hfill _ _ fits_nil hinner))
    · rename_i inner hfind
      obtain ⟨inner', hinner, rfl⟩ := Option.map_eq_some_iff.1 hopen
      have hrest : Fits (es.filter fun e => e.1 ≠ key) :=
        fun e he => h e (List.mem_of_mem_filter he)
      cases h.find hfind with
      | table hold => exact hrest.set (.table (hfill _ _ hold hinner))
    · cases hopen

theorem Fits.addSection (h : es.Fits)
    (hfill : ∀ inner inner', Fits inner → fill inner = some inner' → Fits inner')
    (hadd : es.addSection several key fill path = some es') : es'.Fits := by
  induction path generalizing es es' with
  | nil =>
    rw [Entries.addSection] at hadd
    exact h.openSection hfill hadd
  | cons k path ih =>
    rw [Entries.addSection] at hadd
    split at hadd
    · obtain ⟨inner, hinner, rfl⟩ := Option.map_eq_some_iff.1 hadd
      exact h.set (.table (ih fits_nil hinner))
    · rename_i opening inner hfind
      obtain ⟨inner', hinner, rfl⟩ := Option.map_eq_some_iff.1 hadd
      cases h.find hfind with
      | table hold => exact h.set (.table (ih hold hinner))
    · rename_i items hfind
      obtain ⟨items', hitems, rfl⟩ := Option.map_eq_some_iff.1 hadd
      cases h.find hfind with
      | tables hold =>
        exact h.set (.tables (forall_changeLast hold (fun es hes _ => ih (hold es hes)) hitems))
    · cases hadd

end Entries

/-! ## Finished tables -/

theorem finishEntries_eq (es : Entries) :
    finishEntries es = es.map fun e => (e.1, e.2.finish) := by
  induction es with
  | nil => rfl
  | cons e es ih => rw [finishEntries, ih, List.map_cons]

theorem finishItems_eq (items : List Entries) :
    finishItems items = items.map fun es => .table (finishEntries es) := by
  induction items with
  | nil => rfl
  | cons es items ih => rw [finishItems, ih, List.map_cons]

theorem Node.Fits.finish (h : n.Fits) : n.finish.Fits := by
  induction h with
  | value hv => exact hv
  | table hes ih =>
    rw [Node.finish, finishEntries_eq]
    exact .table (List.forall_mem_map.2 ih)
  | tables hitems ih =>
    rw [Node.finish, finishItems_eq]
    refine .arr (List.forall_mem_map.2 fun es hes => ?_)
    rw [finishEntries_eq]
    exact .table (List.forall_mem_map.2 (ih es hes))

theorem Entries.Fits.finish {es : Entries} (h : es.Fits) : ∀ e ∈ finishEntries es, e.2.Fits := by
  rw [finishEntries_eq]
  exact List.forall_mem_map.2 fun e he => (h e he).finish

/-! ## Marked times -/

theorem mem_withTimesItems {items items' : List Toml} (h : withTimesItems items = some items') :
    ∀ v' ∈ items', ∃ v ∈ items, v.withTimes = some v' := by
  induction items generalizing items' with
  | nil =>
    cases h
    exact List.forall_mem_nil _
  | cons v items ih =>
    obtain ⟨first, hfirst, h⟩ := Option.bind_eq_some_iff.1 h
    obtain ⟨rest, hrest, h⟩ := Option.bind_eq_some_iff.1 h
    cases h
    refine List.forall_mem_cons.2 ⟨⟨v, List.mem_cons_self, hfirst⟩, fun v' hv' => ?_⟩
    obtain ⟨w, hw, hwtimes⟩ := ih hrest v' hv'
    exact ⟨w, List.mem_cons_of_mem v hw, hwtimes⟩

theorem mem_withTimesEntries {es es' : List (String × Toml)}
    (h : withTimesEntries es = some es') :
    ∀ e' ∈ es', ∃ e ∈ es, e.2.withTimes = some e'.2 := by
  induction es generalizing es' with
  | nil =>
    cases h
    exact List.forall_mem_nil _
  | cons e es ih =>
    obtain ⟨first, hfirst, h⟩ := Option.bind_eq_some_iff.1 h
    obtain ⟨rest, hrest, h⟩ := Option.bind_eq_some_iff.1 h
    cases h
    refine List.forall_mem_cons.2 ⟨⟨e, List.mem_cons_self, hfirst⟩, fun e' he' => ?_⟩
    obtain ⟨w, hw, hwtimes⟩ := ih hrest e' he'
    exact ⟨w, List.mem_cons_of_mem e hw, hwtimes⟩

theorem Fits.withTimes {v' : Toml} (h : v.Fits) (htimes : v.withTimes = some v') : v'.Fits := by
  induction h generalizing v' with
  | @arr items _ ih =>
    obtain ⟨items', hitems, rfl⟩ := Option.map_eq_some_iff.1 htimes
    refine .arr fun w hw => ?_
    obtain ⟨u, hu, hutimes⟩ := mem_withTimesItems hitems w hw
    exact ih u hu hutimes
  | @table es _ ih =>
    cases es with
    | nil =>
      cases htimes
      exact .table (List.forall_mem_nil _)
    | cons e es =>
      obtain ⟨key, first⟩ := e
      unfold Toml.withTimes at htimes
      split at htimes
      · -- a marked table is a time
        split at htimes
        · obtain ⟨time, -, rfl⟩ := Option.map_eq_some_iff.1 htimes
          exact .time time
        · cases htimes
      · obtain ⟨first, hfirst, htimes⟩ := Option.bind_eq_some_iff.1 htimes
        obtain ⟨rest, hrest, htimes⟩ := Option.bind_eq_some_iff.1 htimes
        cases htimes
        obtain ⟨ihfirst, ihrest⟩ := List.forall_mem_cons.1 ih
        refine .table (List.forall_mem_cons.2 ⟨ihfirst hfirst, fun w hw => ?_⟩)
        obtain ⟨u, hu, hutimes⟩ := mem_withTimesEntries hrest w hw
        exact ihrest u hu hutimes
  | int hn =>
    cases htimes
    exact .int hn
  | str s =>
    cases htimes
    exact .str s
  | float x =>
    cases htimes
    exact .float x
  | bool b =>
    cases htimes
    exact .bool b
  | time text =>
    cases htimes
    exact .time text

/-! ## Reading -/

namespace Reader

variable {s rest : List Char}

theorem fits_fitting {n m : Int} (h : fitting n s = some (m, rest)) :
    Text.fitsWord m = true := by
  rw [fitting] at h
  split at h
  · rename_i hfits
    cases h
    exact hfits
  · cases h

theorem fits_integer {n : Int} (h : integer s = some (n, rest)) : Text.fitsWord n = true := by
  have hbased : ∀ base isDigit s, based base isDigit s = some (n, rest) →
      Text.fitsWord n = true := by
    intro base isDigit s h
    obtain ⟨r, -, hr⟩ := Option.bind_eq_some_iff.1 h
    exact fits_fitting hr
  unfold integer at h
  split at h
  · exact hbased _ _ _ h
  · exact hbased _ _ _ h
  · exact hbased _ _ _ h
  · obtain ⟨r, -, hr⟩ := Option.bind_eq_some_iff.1 h
    exact fits_fitting hr

theorem fits_scalar (h : scalar s = some (v, rest)) : v.Fits := by
  unfold scalar at h
  split at h
  · cases h
    exact .bool true
  · cases h
    exact .bool false
  · simp only [Option.orElse_eq_some] at h
    obtain h | ⟨-, h | ⟨-, h⟩⟩ := h
    · obtain ⟨r, -, hr⟩ := Option.map_eq_some_iff.1 h
      cases hr
      exact .time _
    · obtain ⟨r, -, hr⟩ := Option.map_eq_some_iff.1 h
      cases hr
      exact .float _
    · obtain ⟨r, hread, hr⟩ := Option.map_eq_some_iff.1 h
      cases hr
      exact .int (fits_integer hread)

/-- Whatever is read with so much fuel fits. -/
structure ReadsFit (fuel : Nat) : Prop where
  value {room : Nat} {s rest : List Char} {v : Toml} (h : value fuel room s = some (v, rest)) :
    v.Fits
  items {room : Nat} {s rest : List Char} {done all : List Toml} (hdone : ∀ v ∈ done, Fits v)
    (h : items fuel room done s = some (all, rest)) : ∀ v ∈ all, Fits v
  pairs {room : Nat} {s rest : List Char} {done all : List (List String × String × Toml)}
    (hdone : ∀ line ∈ done, line.2.2.Fits) (h : pairs fuel room done s = some (all, rest)) :
    ∀ line ∈ all, line.2.2.Fits
  entry {room : Nat} {s rest : List Char} {e : List String × String × Toml}
    (h : entry fuel room s = some (e, rest)) : e.2.2.Fits

section

variable {fuel room : Nat}

theorem fits_value (ih : ReadsFit fuel) (h : value (fuel + 1) room s = some (v, rest)) :
    v.Fits := by
  unfold value at h
  split at h
  · obtain ⟨r, -, hr⟩ := Option.map_eq_some_iff.1 h
    cases hr
    exact .str _
  · obtain ⟨r, -, hr⟩ := Option.map_eq_some_iff.1 h
    cases hr
    exact .str _
  · split at h
    · cases h
    · obtain ⟨r, hread, hr⟩ := Option.map_eq_some_iff.1 h
      cases hr
      exact .arr (ih.items (List.forall_mem_nil _) hread)
  · -- a table on one line is put together from its entries
    split at h
    · cases h
    · cases h
      exact .table (List.forall_mem_nil _)
    · obtain ⟨r, hread, hr⟩ := Option.bind_eq_some_iff.1 h
      obtain ⟨es, hes, hr⟩ := Option.map_eq_some_iff.1 hr
      cases hr
      have hlines := ih.pairs (List.forall_mem_nil _) hread
      exact .table (Entries.fits_nil.putAll hlines hes).finish
  · exact fits_scalar h

theorem fits_items (ih : ReadsFit fuel) {done all : List Toml}
    (hdone : ∀ v ∈ done, Fits v) (h : items (fuel + 1) room done s = some (all, rest)) :
    ∀ v ∈ all, Fits v := by
  unfold items at h
  split at h
  · cases h
    exact fun v hv => hdone v (List.mem_reverse.1 hv)
  · obtain ⟨r, hread, h⟩ := Option.bind_eq_some_iff.1 h
    have hmore : ∀ v ∈ r.1 :: done, Fits v := List.forall_mem_cons.2 ⟨ih.value hread, hdone⟩
    split at h
    · exact ih.items hmore h
    · cases h
      exact fun v hv => hmore v (List.mem_reverse.1 hv)
    · cases h

theorem fits_pairs (ih : ReadsFit fuel) {done all : List (List String × String × Toml)}
    (hdone : ∀ line ∈ done, line.2.2.Fits)
    (h : pairs (fuel + 1) room done s = some (all, rest)) : ∀ line ∈ all, line.2.2.Fits := by
  unfold pairs at h
  obtain ⟨r, hread, h⟩ := Option.bind_eq_some_iff.1 h
  have hmore : ∀ line ∈ r.1 :: done, line.2.2.Fits :=
    List.forall_mem_cons.2 ⟨ih.entry hread, hdone⟩
  split at h
  · exact ih.pairs hmore h
  · cases h
    exact fun line hline => hmore line (List.mem_reverse.1 hline)
  · cases h

theorem fits_entry (ih : ReadsFit fuel) {e : List String × String × Toml}
    (h : entry (fuel + 1) room s = some (e, rest)) : e.2.2.Fits := by
  unfold entry at h
  obtain ⟨k, -, h⟩ := Option.bind_eq_some_iff.1 h
  split at h
  · obtain ⟨r, hread, hr⟩ := Option.map_eq_some_iff.1 h
    cases hr
    exact ih.value hread
  · cases h

end

/-- However deep a value goes, it fits. -/
theorem readsFit (fuel : Nat) : ReadsFit fuel := by
  induction fuel with
  | zero =>
    -- without fuel nothing is read
    constructor
    · intro room s rest v h
      rw [value] at h
      cases h
    · intro room s rest done all _ h
      rw [items] at h
      cases h
    · intro room s rest done all _ h
      rw [pairs] at h
      cases h
    · intro room s rest e h
      rw [entry] at h
      cases h
  | succ fuel ih => exact ⟨fits_value ih, fits_items ih, fits_pairs ih, fits_entry ih⟩

/-- The value on a line fits. -/
inductive Line.Fits : Line → Prop
  | nothing : Line.Fits .nothing
  | entry {path : List String} {key : String} {v : Toml} (h : v.Fits) :
      Line.Fits (.entry path key v)
  | header (several : Bool) (path : List String) (key : String) :
      Line.Fits (.header several path key)

theorem fits_line {l : Line} (h : line s = some (l, rest)) : l.Fits := by
  unfold line at h
  split at h
  · obtain ⟨r, hread, h⟩ := Option.bind_eq_some_iff.1 h
    obtain ⟨after, -, h⟩ := Option.map_eq_some_iff.1 h
    cases h
    obtain ⟨k, -, hread⟩ := Option.bind_eq_some_iff.1 hread
    split at hread
    · cases hread
      exact .header _ _ _
    · cases hread
      exact .header _ _ _
    · cases hread
  · obtain ⟨after, -, h⟩ := Option.map_eq_some_iff.1 h
    cases h
    exact .nothing
  · cases h
    exact .nothing
  · split at h
    · obtain ⟨after, -, h⟩ := Option.map_eq_some_iff.1 h
      cases h
      exact .nothing
    · obtain ⟨r, hread, h⟩ := Option.bind_eq_some_iff.1 h
      obtain ⟨after, -, h⟩ := Option.map_eq_some_iff.1 h
      cases h
      exact .entry ((readsFit _).entry hread)

theorem fits_lines {fuel : Nat} {ls : List Line} (h : lines fuel s = some ls) :
    ∀ l ∈ ls, l.Fits := by
  induction fuel generalizing s ls with
  | zero =>
    rw [lines] at h
    split at h
    · cases h
      exact List.forall_mem_nil _
    · cases h
  | succ fuel ih =>
    rw [lines] at h
    split at h
    · cases h
      exact List.forall_mem_nil _
    · obtain ⟨r, hread, h⟩ := Option.bind_eq_some_iff.1 h
      obtain ⟨rest, hrest, rfl⟩ := Option.map_eq_some_iff.1 h
      exact List.forall_mem_cons.2 ⟨fits_line hread, ih hrest⟩

end Reader

/-! ## Sections -/

open Reader (Line)

theorem fits_splitSection {ls : List Line} (h : ∀ l ∈ ls, l.Fits) :
    (∀ line ∈ (splitSection ls).1, line.2.2.Fits) ∧ ∀ l ∈ (splitSection ls).2, l.Fits := by
  induction ls with
  | nil => exact ⟨List.forall_mem_nil _, List.forall_mem_nil _⟩
  | cons l ls ih =>
    obtain ⟨hl, hls⟩ := List.forall_mem_cons.1 h
    obtain ⟨hentries, hrest⟩ := ih hls
    cases hl with
    | nothing => exact ⟨hentries, hrest⟩
    | entry hv => exact ⟨List.forall_mem_cons.2 ⟨hv, hentries⟩, hrest⟩
    | header several path key => exact ⟨List.forall_mem_nil _, h⟩

theorem fits_addSections {fuel : Nat} {es es' : Entries} {ls : List Line} (h : es.Fits)
    (hall : ∀ l ∈ ls, l.Fits) (hadd : addSections fuel es ls = some es') : es'.Fits := by
  induction fuel generalizing es ls with
  | zero => cases hadd
  | succ fuel ih =>
    cases ls with
    | nil =>
      cases hadd
      exact h
    | cons l ls =>
      obtain ⟨hl, hls⟩ := List.forall_mem_cons.1 hall
      cases hl with
      | nothing => exact ih h hls hadd
      | entry hv => exact ih h hls hadd
      | header several path key =>
        -- the section is filled with the entries up to the next header
        obtain ⟨hentries, hrest⟩ := fits_splitSection hls
        obtain ⟨inner, hinner, hadd⟩ := Option.bind_eq_some_iff.1 hadd
        have hfits := h.addSection (fun _ _ hes hput => hes.putAll hentries hput) hinner
        exact ih hfits hrest hadd

/-- **Every integer of a document fits a word.** -/
theorem read?_fits {s : String} {es : List (String × Toml)} (h : read? s = some es) :
    ∀ e ∈ es, e.2.Fits := by
  obtain ⟨ls, hls, h⟩ := Option.bind_eq_some_iff.1 h
  obtain ⟨entries, hentries, h⟩ := Option.bind_eq_some_iff.1 h
  obtain ⟨v, hv, h⟩ := Option.bind_eq_some_iff.1 h
  obtain ⟨heading, hrest⟩ := fits_splitSection (Reader.fits_lines hls)
  obtain ⟨top, htop, hentries⟩ := Option.bind_eq_some_iff.1 hentries
  obtain ⟨whole, hwhole, rfl⟩ := Option.map_eq_some_iff.1 hentries
  have hfits := fits_addSections (Entries.fits_nil.putAll heading htop) hrest hwhole
  have hv := (Fits.table hfits.finish).withTimes hv
  cases hv with
  | table hes =>
    cases h
    exact hes
  | _ => cases h

end Toml

end Amanuensis
