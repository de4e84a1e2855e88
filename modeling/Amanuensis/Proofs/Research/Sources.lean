import Amanuensis.Research.Report
import Mathlib.Data.List.Forall2
/-!
# The list of sources

What a reader gets of a report: its text, and below it the sources that have
something to show, each on a line of its own. `Citation.Shows` says what a
source shows, without the program. Skipping and numbering are two passes over
the citations, and `markdown_lists` says that together they number what is
shown from one on, whatever is skipped in between.
-/


namespace Amanuensis

namespace Research

/-! ## What a source shows -/

namespace Citation

variable {c : Citation} {shown : String}

/-- What a source shows: its title with its address as a link, or whichever
of the two there is. -/
inductive Shows (c : Citation) : String → Prop
  | link {title url : String} (htitle : c.title = some title) (hurl : c.url = some url) :
    Shows c ("[" ++ title ++ "](" ++ url ++ ")")
  | address {url : String} (htitle : c.title = none) (hurl : c.url = some url) : Shows c url
  | title {title : String} (htitle : c.title = some title) (hurl : c.url = none) : Shows c title

/-- Has the source a title or an address? -/
def isShown (c : Citation) : Bool := c.title.isSome || c.url.isSome

theorem isShown_eq_false : c.isShown = false ↔ c.title = none ∧ c.url = none := by
  simp [isShown]

theorem entry_eq_some_iff : c.entry = some shown ↔ c.Shows shown := by
  constructor
  · intro h
    unfold entry at h
    split at h
    · rename_i htitle hurl
      cases h
      exact .link htitle hurl
    · rename_i htitle hurl
      cases h
      exact .address htitle hurl
    · rename_i htitle hurl
      cases h
      exact .title htitle hurl
    · cases h
  · rintro (⟨htitle, hurl⟩ | ⟨htitle, hurl⟩ | ⟨htitle, hurl⟩) <;> simp [entry, htitle, hurl]

theorem entry_eq_none_iff : c.entry = none ↔ c.isShown = false := by
  cases htitle : c.title <;> cases hurl : c.url <;> simp [entry, isShown, htitle, hurl]

/-- **Skipping keeps the order**: the entries are what is shown, one after
the other, by the sources that show something. -/
theorem entries_shown (citations : List Citation) :
    List.Forall₂ Shows (citations.filter isShown) (citations.filterMap entry) := by
  induction citations with
  | nil => exact .nil
  | cons c citations ih =>
    cases hentry : c.entry with
    | none =>
      have hskip : c.isShown = false := entry_eq_none_iff.1 hentry
      rw [List.filterMap_cons_none hentry, List.filter_cons_of_neg (by simp [hskip])]
      exact ih
    | some shown =>
      have hshown : c.isShown = true := by
        rw [← Bool.not_eq_false, ← entry_eq_none_iff, hentry]
        exact Option.some_ne_none shown
      rw [List.filterMap_cons_some hentry, List.filter_cons_of_pos hshown]
      exact .cons (entry_eq_some_iff.1 hentry) ih

end Citation

/-! ## Numbering -/

namespace Report

/-- A line of the list: its number, a dot and a blank before what is shown. -/
def line (number : Nat) (shown : String) : String := toString number ++ ". " ++ shown ++ "\n"

/-- The lines bear the numbers from the first one on. -/
theorem numbered_eq (n : Nat) (entries : List String) :
    numbered n entries = String.join (entries.mapIdx fun k shown => line (n + k) shown) := by
  induction entries generalizing n with
  | nil => rfl
  | cons shown entries ih =>
    have hshift : (fun k shown => line (n + 1 + k) shown) =
        fun k shown => line (n + (k + 1)) shown := by
      funext k shown
      rw [Nat.add_right_comm, Nat.add_assoc]
    rw [numbered, ih, List.mapIdx_cons, String.join_cons, hshift]
    rfl

theorem markdown_of_not_shown {r : Report} (h : ∀ c ∈ r.citations, c.isShown = false) :
    r.markdown = r.text := by
  have hnil : r.citations.filterMap Citation.entry = [] :=
    List.filterMap_eq_nil_iff.2 fun c hc => Citation.entry_eq_none_iff.2 (h c hc)
  rw [markdown, hnil]

/-- The heading stands above at least one line. -/
theorem markdown_of_shown {r : Report} {c : Citation} (hc : c ∈ r.citations)
    (h : c.isShown = true) :
    r.markdown = r.text ++ sourcesHeading ++
      String.join ((r.citations.filterMap Citation.entry).mapIdx fun k shown =>
        line (k + 1) shown) := by
  have hne : r.citations.filterMap Citation.entry ≠ [] := by
    intro hnil
    have hnone := Citation.entry_eq_none_iff.1 (List.filterMap_eq_nil_iff.1 hnil c hc)
    rw [h] at hnone
    exact Bool.noConfusion hnone
  have hline : (fun k shown => line (k + 1) shown) = fun k shown => line (1 + k) shown := by
    funext k shown
    rw [Nat.add_comm]
  unfold markdown
  split
  · rename_i hnil
    exact absurd hnil hne
  · rw [numbered_eq, hline]

/-- **The sources of a report.** A report of which no source has a title or
an address is its text alone. Any other is its text, the heading and a line
for each source that has one, in their order and numbered from one on. -/
theorem markdown_lists (r : Report) :
    (r.markdown = r.text ↔ ∀ c ∈ r.citations, c.title = none ∧ c.url = none) ∧
      ((∃ c ∈ r.citations, c.title ≠ none ∨ c.url ≠ none) →
        ∃ entries, List.Forall₂ Citation.Shows (r.citations.filter Citation.isShown) entries ∧
          r.markdown = r.text ++ "\n\n## Sources\n" ++
            String.join (entries.mapIdx fun k shown => line (k + 1) shown)) ∧
      ∃ rest, r.markdown = r.text ++ rest := by
  by_cases hnone : ∀ c ∈ r.citations, c.isShown = false
  · have hplain : r.markdown = r.text := markdown_of_not_shown hnone
    have hall : ∀ c ∈ r.citations, c.title = none ∧ c.url = none := fun c hc =>
      Citation.isShown_eq_false.1 (hnone c hc)
    refine ⟨iff_of_true hplain hall, ?_, "", by rw [hplain, String.append_empty]⟩
    rintro ⟨c, hc, hshown⟩
    obtain ⟨htitle, hurl⟩ := hall c hc
    exact absurd hshown (not_or.2 ⟨not_not.2 htitle, not_not.2 hurl⟩)
  · push Not at hnone
    obtain ⟨c, hc, hshown⟩ := hnone
    rw [Ne, Bool.not_eq_false] at hshown
    have hlist := markdown_of_shown hc hshown
    refine ⟨iff_of_false (fun hplain => ?_) (fun hall => ?_), fun _ =>
      ⟨_, Citation.entries_shown r.citations, hlist⟩, _, hlist.trans (String.append_assoc ..)⟩
    · -- the heading alone makes the text longer
      have hlength := congrArg String.length (hplain.symm.trans hlist)
      have hheading : sourcesHeading.length = 13 := by decide
      rw [String.length_append, String.length_append] at hlength
      omega
    · rw [Citation.isShown_eq_false.2 (hall c hc)] at hshown
      exact Bool.noConfusion hshown

/-- A source that is skipped takes no number. -/
example :
    (Report.mk "Body" [⟨none, some "a", []⟩, ⟨none, none, []⟩, ⟨some "B", none, []⟩] []).markdown =
      "Body\n\n## Sources\n1. a\n2. B\n" := by
  rfl

end Report

end Research

end Amanuensis
