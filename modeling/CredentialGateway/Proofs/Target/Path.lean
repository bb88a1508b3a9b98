/-
What becomes of the path of a request.

Slashes around a path are dropped, and the first segment ends at the first slash behind
that.  A strategy that finds its URL by the first segment takes the segment and this one
slash off, and what is left goes to the backend; all others send the path as it is.  Behind
the base URL there is one slash again, whatever slashes the base URL ends with or the path
that is left begins with.  Slashes within the path are never touched, so nothing of it is
lost and nothing is sent twice.
-/
import Mathlib
import CredentialGateway.Proofs.Target.Entry
import CredentialGateway.Proofs.Target.Key

namespace CredentialGateway.Target

/-! ### Slashes at the ends -/

/-- What is left of a text when the slashes at its start are dropped. -/
structure StripsStart (text rest : String) : Prop where
  /-- Nothing but slashes is dropped. -/
  slashes : ∃ lead, (∀ c ∈ lead, c = '/') ∧ text.toList = lead ++ rest.toList
  /-- All of them are dropped. -/
  stops : rest.toList.head? ≠ some '/'

/-- What is left of a text when the slashes at its end are dropped. -/
structure StripsEnd (text front : String) : Prop where
  /-- Nothing but slashes is dropped. -/
  slashes : ∃ trail, (∀ c ∈ trail, c = '/') ∧ text.toList = front.toList ++ trail
  /-- All of them are dropped. -/
  stops : front.toList.getLast? ≠ some '/'

theorem head?_trimStart (text : List Char) : (Text.trimStart isSlash text).head? ≠ some '/' :=
  fun hhead => absurd (Text.head?_trimStart hhead) (by decide)

theorem stripsStart_trimStart (text : String) :
    StripsStart text (String.ofList (Text.trimStart isSlash text.toList)) where
  slashes := by
    obtain ⟨lead, hlead, htext⟩ := Text.trimStart_split isSlash text.toList
    refine ⟨lead, fun c hc => isSlash_eq_true_iff.mp (hlead c hc), ?_⟩
    rw [String.toList_ofList, ← htext]
  stops := by
    rw [String.toList_ofList]
    exact head?_trimStart text.toList

theorem stripsEnd_trimEnd (text : String) :
    StripsEnd text (String.ofList (Text.trimEnd isSlash text.toList)) where
  slashes := by
    obtain ⟨trail, htrail, htext⟩ := Text.trimEnd_split isSlash text.toList
    refine ⟨trail, fun c hc => isSlash_eq_true_iff.mp (htrail c hc), ?_⟩
    rw [String.toList_ofList, ← htext]
  stops := by
    rw [String.toList_ofList, Text.trimEnd, List.getLast?_reverse]
    exact head?_trimStart text.toList.reverse

/-! ### The first segment -/

variable {get : Lookup} {path : String} {query : Option String}

/-- A path is its first segment, a slash and what follows. -/
theorem Request.path_of_rest {rest : String} (h : (Request.of path query).rest = some rest) :
    '/' ∉ (Request.of path query).segment.toList ∧
      (Request.of path query).path = (Request.of path query).segment ++ "/" ++ rest := by
  obtain ⟨⟨left, right⟩, hcut, rfl⟩ := Option.map_eq_some_iff.mp h
  obtain ⟨htext, hslash⟩ := Text.splitFirst?_eq_some_iff.mp hcut
  have hsegment : (Request.of path query).segment = String.ofList left := by
    simp only [Request.of, hcut, Option.map_some, Option.getD_some]
  have hpath : (Request.of path query).path = String.ofList (left ++ '/' :: right) := by
    rw [← htext]
    rfl
  rw [hsegment, hpath, String.toList_ofList]
  refine ⟨hslash, ?_⟩
  rw [← String.toList_inj]
  simp

/-- A path without a slash in it is its first segment. -/
theorem Request.segment_of_no_rest (h : (Request.of path query).rest = none) :
    (Request.of path query).segment = (Request.of path query).path := by
  have hcut := Option.map_eq_none_iff.mp h
  simp only [Request.of, hcut, Option.map_none, Option.getD_none]

/-- The path of a request is the path it comes with, without the slashes around it. -/
theorem Request.exists_strips (path : String) (query : Option String) :
    ∃ middle, StripsStart path middle ∧ StripsEnd middle (Request.of path query).path := by
  refine ⟨String.ofList (Text.trimStart isSlash path.toList), stripsStart_trimStart path, ?_⟩
  have hend := stripsEnd_trimEnd (String.ofList (Text.trimStart isSlash path.toList))
  rw [String.toList_ofList] at hend
  exact hend

/-! ### What is left of a path -/

/-- Whether a path is a first segment, a slash and what is kept of it. -/
def Behind (path kept : String) : Prop :=
  ∃ segment : String, '/' ∉ segment.toList ∧ path = segment ++ "/" ++ kept

/-- What a target keeps of a path: all of it if the path did not lead to the target, else what
follows the first segment.  The name of an entry may be all there is. -/
def Keeps (get : Lookup) (path : String) (t : Target) : Prop :=
  match t.strategy with
  | .targetParam | .serviceParam | .default => t.path = path
  | .servicePath | .derivedUrl => Behind path t.path
  | .configName => Behind path t.path ∨ (get path).isSome ∧ t.path = ""

theorem Found.keeps {t : Target} (h : Found get (Request.of path query) t) :
    Keeps get (Request.of path query).path t := by
  have hbehind : ∀ {rest : String}, (Request.of path query).rest = some rest →
      Behind (Request.of path query).path rest := by
    intro rest hrest
    exact ⟨_, Request.path_of_rest hrest⟩
  cases h with
  | targetParam | serviceParam | default => exact rfl
  | servicePath hrest | derivedUrl hrest => exact hbehind hrest
  | @configName value hvalue =>
      show Behind _ ((Request.of path query).rest.getD "") ∨
        (get (Request.of path query).path).isSome ∧ (Request.of path query).rest.getD "" = ""
      cases hrest : (Request.of path query).rest with
      | some rest => exact .inl (hbehind hrest)
      | none =>
          right
          rw [← Request.segment_of_no_rest hrest, hvalue]
          exact ⟨rfl, rfl⟩

/-- What is kept of a path is a part of it. -/
theorem Keeps.mem {t : Target} {c : Char} (h : Keeps get path t) (hc : c ∈ t.path.toList) :
    c ∈ path.toList := by
  have hbehind : Behind path t.path → c ∈ path.toList := by
    rintro ⟨segment, -, rfl⟩
    rw [String.toList_append]
    exact List.mem_append_right _ hc
  unfold Keeps at h
  split at h
  · rwa [← h]
  · rwa [← h]
  · rwa [← h]
  · exact hbehind h
  · exact hbehind h
  · rcases h with h | ⟨-, h⟩
    · exact hbehind h
    · rw [h] at hc
      cases hc

/-! ### The URL -/

/-- A query with its mark; an empty one is none. -/
def queryPart : Option String → String
  | none => ""
  | some query => if query = "" then "" else "?" ++ query

/-- **Base URL and path are put together with one slash.** -/
theorem url_joined (t : Target) (query : Option String) :
    ∃ base rest, StripsEnd t.baseUrl base ∧ StripsStart t.path rest ∧
      t.url query = base ++ "/" ++ rest ++ queryPart query := by
  refine ⟨_, _, stripsEnd_trimEnd t.baseUrl, stripsStart_trimStart t.path, ?_⟩
  rw [← String.toList_inj]
  cases query with
  | none => simp [url, queryPart]
  | some query =>
      by_cases hempty : query = ""
      · simp [url, queryPart, hempty]
      · simp [url, queryPart, hempty]

/-- **Nothing of a path is lost or sent twice.**  Of the path without the slashes around it a
target keeps all if the path did not lead to it, and what follows the first segment and its slash
if it did; if the path is the name of an entry, nothing is left.  The URL is the base URL without
the slashes at its end, one slash, what is kept without the slashes at its start, and the query
with its mark if there is one that is not empty. -/
theorem path_is_kept (s : Store) (path : String) (query : Option String) (t : Target)
    (h : resolve s.get path query = .ok t) :
    (∃ middle bare, StripsStart path middle ∧ StripsEnd middle bare ∧ Keeps s.get bare t) ∧
      ∀ q, ∃ base rest, StripsEnd t.baseUrl base ∧ StripsStart t.path rest ∧
        t.url q = base ++ "/" ++ rest ++ queryPart q := by
  obtain ⟨u, hfound, rfl⟩ := exists_found_of_resolve h
  obtain ⟨middle, hstart, hend⟩ := Request.exists_strips path query
  exact ⟨⟨middle, _, hstart, hend, hfound.keeps⟩, url_joined _⟩

/-- Slashes at all seams: those around the path are dropped, all but one of those behind the segment
stay in the path that is kept, and the URL has one in the place of four. -/
theorem path_is_kept_at_seams :
    let s : Store := ⟨[("SEARCH_API_URL", "https://search.example/s//")], "s3cret", by decide,
      by decide, by decide⟩
    let t : Target := ⟨"https://search.example/s//", none, "//a//b", .derivedUrl⟩
    resolve s.get "//search///a//b//" none = .ok t ∧
      (∃ middle bare, StripsStart "//search///a//b//" middle ∧ StripsEnd middle bare ∧
        Keeps s.get bare t) ∧
      (∃ base rest, StripsEnd t.baseUrl base ∧ StripsStart t.path rest ∧
        t.url (some "q=1") = base ++ "/" ++ rest ++ "?q=1") ∧
      t.url (some "q=1") = "https://search.example/s/a//b?q=1" := by
  intro s t
  have h : resolve s.get "//search///a//b//" none = .ok t := by decide +kernel
  obtain ⟨hkept, hjoined⟩ := path_is_kept s _ none t h
  exact ⟨h, hkept, hjoined (some "q=1"), by decide +kernel⟩

end CredentialGateway.Target
