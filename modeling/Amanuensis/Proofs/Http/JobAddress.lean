import Amanuensis.Http.Message
import Amanuensis.Proofs.Url.Reading
/-!
# The address of a job

Where the state of a job is asked for. The base of the service may end in
slashes; what it keeps besides them stands in front of the path to the jobs
(`parse_research`), and the name of the job is added as one segment behind
it. That segment reads as the name, except where the name is a step or has
breaks in it (`jobStatusUrl_addresses`).
-/


namespace Amanuensis

namespace Http

open Url (isEdge opened takeStep isStep encode inAddedSegment isDropped textOfBytes? decodeBytes)

variable {base jobId : String} {u v : Url} {kept : List (List Char)}

/-- Only slashes are taken off the base. -/
theorem exists_trimBase (base : String) :
    ∃ n, base.toList = (trimBase base).toList ++ List.replicate n '/' := by
  have hslashes : base.toList.rtakeWhile (· = '/') =
      List.replicate (base.toList.rtakeWhile (· = '/')).length '/' := by
    refine List.eq_replicate_iff.2 ⟨rfl, fun c hc => ?_⟩
    simpa using List.mem_rtakeWhile_imp hc
  refine ⟨(base.toList.rtakeWhile (· = '/')).length, ?_⟩
  rw [← hslashes, trimBase, String.toList_ofList]
  exact List.rdropWhile_append_rtakeWhile.symm

/-- What is read of a base are its slashes at the end behind what is read of it
in front of a path. -/
theorem exists_cleaned_base (hend : ∀ c ∈ base.toList.getLast?, ' ' < c) :
    ∃ n, Url.cleaned base.toList = opened (trimBase base).toList ++ List.replicate n '/' := by
  obtain ⟨n, hn⟩ := exists_trimBase base
  have hedge : ∀ c ∈ base.toList.getLast?, isEdge c = false := fun c hc =>
    decide_eq_false (Char.not_le.2 (hend c hc))
  rw [hn] at hedge
  exact ⟨n, by rw [hn, Url.cleaned_slashes hedge]⟩

/-- The segments of the path to the research jobs. -/
def researchSegments : List (List Char) :=
  ["api".toList, "tools".toList, "deep-research".toList]

theorem length_le_append_researchSegments (kept : List (List Char)) :
    3 ≤ (kept ++ researchSegments).length := by
  rw [List.length_append]
  exact Nat.le_add_left _ _

theorem ne_of_length {parts : List (List Char)} (h : 3 ≤ parts.length) : parts ≠ [[]] := by
  rintro rfl
  exact absurd h (by decide)

theorem knownSegments_researchPath : Url.knownSegments researchPath.toList = researchSegments := by
  decide

theorem slashed_researchPath : Url.Slashed researchPath.toList := by
  intro c hc
  exact (Option.some.inj hc).symm

/-- **What is read of a base in front of the path to the jobs**: all but the
slashes at its end. -/
theorem parse_research (hbase : Url.parse base = .ok u)
    (hscheme : u.scheme = "http" ∨ u.scheme = "https") (hquery : u.query = none)
    (hfragment : u.fragment = none) (hend : ∀ c ∈ base.toList.getLast?, ' ' < c) :
    ∃ kept n, u.path = .segments (kept ++ List.replicate n []) ∧ u.authority.isSome = true ∧
      Url.parse (trimBase base ++ researchPath) =
        .ok { u with path := .segments (kept ++ researchSegments) } := by
  have hknown : Url.isKnown u.scheme = true := by
    rcases hscheme with h | h <;> rw [h] <;> rfl
  have hfile : u.scheme ≠ "file" := by
    rcases hscheme with h | h <;> rw [h] <;> decide
  obtain ⟨n, hbaseText⟩ := exists_cleaned_base hend
  obtain ⟨s, w, hfront, hwhole, hs, hserver, hu⟩ :=
    Url.exists_server hbase hbaseText hknown hfile hquery hfragment
  have htext : Url.cleaned (trimBase base ++ researchPath).toList =
      opened (trimBase base).toList ++ researchPath.toList := by
    rw [String.toList_append]
    exact Url.cleaned_slashed slashed_researchPath (by decide)
      (List.forall_iff_forall_mem.1 (by decide)) _
  have hwhole' : Url.isWhole (s ++ researchPath.toList) = true := by
    rw [Url.isWhole_append, hwhole]
    decide
  have hparse := Url.parse_of_known htext hfront slashed_researchPath hwhole' hknown hfile hs
  obtain ⟨kept, hempties, hgoes⟩ := Url.exists_resolve_slash (Url.pathText s)
  obtain ⟨m, hm⟩ := hempties n
  have hpath : Url.resolve [] (Url.knownSegments (Url.pathText s ++ researchPath.toList)) =
      kept ++ researchSegments := by
    have hplain : ∀ s ∈ researchSegments, isStep s = false := by decide
    rw [← Url.resolve_plain hplain, ← knownSegments_researchPath]
    exact hgoes _
  rw [hserver, hpath] at hparse
  rw [hm] at hu
  refine ⟨kept, m, by rw [hu], by rw [hu]; rfl, hparse.trans ?_⟩
  rw [hu]
  rfl

/-- The segments of the path to the state of a job. -/
def statusSegments (segment : List Char) : List (List Char) :=
  researchSegments ++ [segment, "status".toList]

theorem encode_status (scheme : String) :
    encode (inAddedSegment scheme) "status".toList = "status".toList := by
  have hplain : ∀ known, "status".toList.Forall fun c =>
      (Url.inSegment c || (known && decide (c = '\\'))) = false := by decide
  exact Url.encode_eq_self (List.forall_iff_forall_mem.1 (hplain (Url.isKnown scheme)))

/-- A segment is told apart by the address, if all else is the same. -/
theorem segment_eq_of_text_eq {before after : List (List Char)} {s t : List Char}
    (hserver : u.authority.isSome = true)
    (h : ({ u with path := .segments (before ++ s :: after) } : Url).text =
      ({ u with path := .segments (before ++ t :: after) } : Url).text) : s = t := by
  obtain ⟨a, ha⟩ := Option.isSome_iff_exists.1 hserver
  have htext : ∀ parts, ({ u with path := .segments parts } : Url).text =
      u.scheme ++ ":" ++ String.ofList ('/' :: '/' :: a.text ++ parts.flatMap (fun s => '/' :: s) ++
        Url.marked '?' u.query ++ Url.marked '#' u.fragment) := by
    intro parts
    have hstep : Url.Path.text false (.segments parts) = parts.flatMap fun s => '/' :: s := by
      rcases parts with _ | ⟨_ | ⟨c, s⟩, _ | ⟨t, parts⟩⟩ <;> rfl
    rw [Url.text, ← hstep]
    simp only [ha]
    rfl
  rw [htext, htext] at h
  have hlists := String.ofList_injective (String.append_right_inj _ |>.1 h)
  simp only [List.flatMap_append, List.flatMap_cons, List.append_assoc, List.append_cancel_left_eq,
    List.cons_append, List.cons.injEq, true_and] at hlists
  exact List.append_cancel_right hlists

/-- The name of the job is added behind the path to the jobs, whatever it is. -/
theorem jobStatusUrl_eq (hparse : Url.parse (trimBase base ++ researchPath) =
      .ok { u with path := .segments (kept ++ researchSegments) }) (hfile : u.scheme ≠ "file")
    (jobId : String) :
    jobStatusUrl base jobId = .ok { u with
      path := .segments (Url.pushSegment u.scheme (kept ++ researchSegments) jobId.toList ++
        ["status".toList]) } := by
  have hlength := length_le_append_researchSegments kept
  have hpushed : 3 ≤ (Url.pushSegment u.scheme (kept ++ researchSegments) jobId.toList).length :=
    hlength.trans (Url.length_le_pushSegment hfile (ne_of_length hlength))
  have hstatus : Url.IsSegment "status".toList :=
    ⟨by decide, List.forall_iff_forall_mem.1 (by decide)⟩
  have hlast := Url.pushSegment_plain hfile (ne_of_length hpushed) hstatus
  rw [encode_status] at hlast
  rw [jobStatusUrl, hparse]
  simp only [Url.push, Option.bind_some, hlast]

/-- **The state of a job is asked for at the base of the service**, whatever the
name of the job is: only the path is another. The path is that of the base, less
empty segments at its end, with the segments to the jobs, one segment that reads
as the name, and the last segment, exactly if the name is not one or two dots and
has no breaks in it; and such names are told apart by the address. -/
theorem jobStatusUrl_addresses (hbase : Url.parse base = .ok u)
    (hscheme : u.scheme = "http" ∨ u.scheme = "https") (hquery : u.query = none)
    (hfragment : u.fragment = none) (hend : ∀ c ∈ base.toList.getLast?, ' ' < c) :
    ∃ kept n, u.path = .segments (kept ++ List.replicate n []) ∧
      (∀ jobId, ∃ parts, jobStatusUrl base jobId = .ok { u with path := .segments parts } ∧
        (Url.IsSegment jobId.toList ↔ ∃ segment, parts = kept ++ statusSegments segment ∧
          textOfBytes? (decodeBytes segment) = some jobId.toList)) ∧
      ∀ jobId jobId' v v', Url.IsSegment jobId.toList → Url.IsSegment jobId'.toList →
        jobStatusUrl base jobId = .ok v → jobStatusUrl base jobId' = .ok v' →
        v.text = v'.text → jobId = jobId' := by
  have hfile : u.scheme ≠ "file" := by
    rcases hscheme with h | h <;> rw [h] <;> decide
  obtain ⟨kept, n, hpath, hserver, hparse⟩ := parse_research hbase hscheme hquery hfragment hend
  have hparts := ne_of_length (length_le_append_researchSegments kept)
  have hstatus := jobStatusUrl_eq hparse hfile
  have hlast : ∀ segment, kept ++ statusSegments segment =
      kept ++ researchSegments ++ [segment] ++ ["status".toList] := by
    intro segment
    rw [statusSegments, ← List.append_assoc, List.append_assoc (kept ++ researchSegments)]
    rfl
  refine ⟨kept, n, hpath, fun jobId => ⟨_, hstatus jobId, ?_⟩, ?_⟩
  · rw [Url.pushSegment_reads_iff hfile hparts]
    refine exists_congr fun segment => and_congr_left' ?_
    rw [hlast, List.append_left_inj]
  · intro jobId jobId' v v' hjob hjob' hv hv' htext
    rw [hstatus, Url.pushSegment_plain hfile hparts hjob] at hv
    rw [hstatus, Url.pushSegment_plain hfile hparts hjob'] at hv'
    obtain rfl := Except.ok.inj hv
    obtain rfl := Except.ok.inj hv'
    rw [List.append_assoc, List.append_assoc _ [_]] at htext
    have hencoded := segment_eq_of_text_eq hserver htext
    exact String.ext (Url.encode_injective (Url.inAddedSegment_percent u.scheme) hencoded)

/-- The base of a service on this machine, -/
def localBase : String := "http://localhost:8000/"

/-- and the address that it is. -/
def localUrl : Url :=
  ⟨"http", some ⟨[], none, "localhost".toList, some 8000⟩, .segments [[]], none, none⟩

/-- So it is for a service on this machine. -/
theorem localUrl_addresses :
    ∃ kept n, localUrl.path = .segments (kept ++ List.replicate n []) ∧
      (∀ jobId, ∃ parts,
        jobStatusUrl localBase jobId = .ok { localUrl with path := .segments parts } ∧
        (Url.IsSegment jobId.toList ↔ ∃ segment, parts = kept ++ statusSegments segment ∧
          textOfBytes? (decodeBytes segment) = some jobId.toList)) ∧
      ∀ jobId jobId' v v', Url.IsSegment jobId.toList → Url.IsSegment jobId'.toList →
        jobStatusUrl localBase jobId = .ok v → jobStatusUrl localBase jobId' = .ok v' →
        v.text = v'.text → jobId = jobId' :=
  jobStatusUrl_addresses (by decide +kernel) (.inl rfl) rfl rfl
    fun _ hc => Option.some.inj hc ▸ (by decide : ' ' < '/')

/-- **A name that is two dots leaves no segment**, and a tab in a name is lost. -/
theorem dots_and_breaks_lost :
    Url.parse localBase = .ok localUrl ∧
      (¬ ∃ segment, jobStatusUrl localBase ".." =
        .ok { localUrl with path := .segments (statusSegments segment) }) ∧
      jobStatusUrl localBase "a\tb" = jobStatusUrl localBase "ab" := by
  have hdots : jobStatusUrl localBase ".." =
      .ok { localUrl with path := .segments (researchSegments ++ ["status".toList]) } := by
    decide +kernel
  refine ⟨by decide +kernel, ?_, by decide +kernel⟩
  rintro ⟨segment, h⟩
  have hpaths := congrArg Url.path (Except.ok.inj (hdots.symm.trans h))
  have hlengths : 4 = 5 := congrArg List.length (Url.Path.segments.inj hpaths)
  exact absurd hlengths (by decide)

end Http

end Amanuensis
