/-
The key of a backend that expects it in the body.

Such a backend is configured by an entry, and the entry is read twice: to find where
the request goes, and to find the key that goes into its body.  The first reading
replaces the references in the URL, the second compares the URL that came out with the
text of the entry as it stands.  Both agree on an entry without references.  On one
with references the key is found only if the URL that came out happens to be the text
of the entry, or to continue it: as a rule the backend gets no key.
-/
import Mathlib
import CredentialGateway.Injection
import CredentialGateway.Proofs.Target.Entry

namespace CredentialGateway.Injection

variable {get : Lookup}

/-! ### The key of one pair and the key of a URL -/

theorem continues_iff {url special : String} :
    continues url special = true ↔ url = special ∨ ∃ rest, url = special ++ "/" ++ rest := by
  constructor
  · intro h
    unfold continues at h
    split at h
    · rename_i rest hrest
      have hurl := Text.after?_toList_eq_some_iff.mp hrest
      cases rest with
      | nil => exact Or.inl (by simpa using hurl)
      | cons c rest =>
          obtain rfl : c = '/' := by simpa using h
          refine Or.inr ⟨String.ofList rest, ?_⟩
          rw [hurl, ← String.toList_inj]
          simp
    · cases h
  · rintro (hurl | ⟨rest, hurl⟩)
    · have hafter : Text.after? special.toList url.toList = some [] := Text.after?_toList_eq_some_iff.mpr (by simp [hurl])
      rw [continues, hafter]
      rfl
    · have hafter : Text.after? special.toList url.toList = some ('/' :: rest.toList) := by
        rw [Text.after?_toList_eq_some_iff, hurl, ← String.toList_inj]
        simp
      rw [continues, hafter]
      rfl

/-- A pair with a URL gives its key to that URL and to those that continue it. -/
theorem keyOfPair?_of_url {pair : String × String} {url special : String}
    (hurl : get pair.1 = some special) (hne : special ≠ "") :
    keyOfPair? get url pair = if continues url special then get pair.2 else none := by
  have hfilter : (some special).filter (fun u => !u.isEmpty) = some special := by
    simp [Option.filter, hne]
  rw [keyOfPair?, hurl, hfilter]

/-- The URL of a pair is configured, and a URL is that one or continues it with a slash. -/
structure Reaches (get : Lookup) (url : String) (pair : String × String) (special : String) :
    Prop where
  configured : get pair.1 = some special
  nonempty : special ≠ ""
  within : url = special ∨ ∃ rest, url = special ++ "/" ++ rest

/-- **A pair gives its key to the URLs that its URL leads to**, and to no other. -/
theorem keyOfPair?_eq_some_iff {pair : String × String} {url key : String} :
    keyOfPair? get url pair = some key ↔
      (∃ special, Reaches get url pair special) ∧ get pair.2 = some key := by
  constructor
  · intro h
    unfold keyOfPair? at h
    split at h
    · rename_i special hspecial
      rw [Option.ite_none_right_eq_some, continues_iff] at h
      rw [Option.filter_eq_some_iff] at hspecial
      exact ⟨⟨special, hspecial.1, by simpa using hspecial.2, h.1⟩, h.2⟩
    · cases h
  · rintro ⟨⟨special, hreaches⟩, hkey⟩
    rw [keyOfPair?_of_url hreaches.configured hreaches.nonempty,
      if_pos (continues_iff.mpr hreaches.within), hkey]

/-- A pair without a URL or without a key gives no key. -/
theorem keyOfPair?_of_unconfigured {pair : String × String} (url : String)
    (h : ∀ special, get pair.1 = some special → special ≠ "" → get pair.2 = none) :
    keyOfPair? get url pair = none := by
  cases hgives : keyOfPair? get url pair with
  | none => rfl
  | some key =>
      obtain ⟨⟨special, hreaches⟩, hkey⟩ := keyOfPair?_eq_some_iff.mp hgives
      rw [h special hreaches.configured hreaches.nonempty] at hkey
      cases hkey

/-- Where one pair alone gives keys, the key of a URL is the one that pair gives. -/
theorem keyFor?_of_only {pair : String × String} {url : String} (hpair : pair ∈ pairs)
    (honly : ∀ q ∈ pairs, q ≠ pair → keyOfPair? get url q = none) :
    keyFor? get url = keyOfPair? get url pair := by
  cases hkey : keyFor? get url with
  | none => exact (List.findSome?_eq_none_iff.mp hkey pair hpair).symm
  | some key =>
      obtain ⟨q, hq, hgives⟩ := List.exists_of_findSome?_eq_some hkey
      have hsame : q = pair := by
        by_contra hother
        rw [honly q hq hother] at hgives
        cases hgives
      rw [← hsame, hgives]

/-! ### The key of a backend that a path names -/

theorem name_of_mem_pairs {pair : String × String} (h : pair ∈ pairs) :
    pair.1 ≠ "" ∧ '/' ∉ pair.1.toList := by
  have hall : ∀ pair ∈ pairs, pair.1 ≠ "" ∧ '/' ∉ pair.1.toList := by decide
  exact hall pair h

theorem not_isWebUrl_empty : Target.isWebUrl (Substitution.interpolate get "") = false := by
  have hempty : Substitution.interpolate get "" = "" := by
    simp [Substitution.interpolate, Substitution.interpolate?, Reference.segments,
      Reference.segmentsFrom]
  rw [hempty]
  decide +kernel

/-- **The two readings of an entry.**  Of the pairs one alone is configured, and a path names its
URL.  The target has that URL with its references replaced, and the key for the target is that of
the pair if what came out is the text of the entry or continues it, and there is none otherwise;
so without references the backend gets its key. -/
theorem keyFor?_of_named_entry (s : Store) (pair : String × String) (special key path : String)
    (query : Option String) (t : Target) (hpair : pair ∈ pairs)
    (hurl : s.get pair.1 = some special) (hkey : s.get pair.2 = some key)
    (honly : ∀ q ∈ pairs, q ≠ pair →
      ∀ other, s.get q.1 = some other → other ≠ "" → s.get q.2 = none)
    (hpath : path = "/" ++ pair.1 ∨ ∃ rest, path = "/" ++ pair.1 ++ "/" ++ rest)
    (hquery : Form.param ((query.map Form.parse).getD []) "target" = none)
    (hresolve : Target.resolve s.get path query = .ok t) :
    t.baseUrl = Substitution.interpolate s.get special ∧
      (keyFor? s.get t.baseUrl = some key ↔
        t.baseUrl = special ∨ ∃ rest, t.baseUrl = special ++ "/" ++ rest) ∧
      (keyFor? s.get t.baseUrl = some key ∨ keyFor? s.get t.baseUrl = none) ∧
      (Substitution.interpolate? s.get special = none → keyFor? s.get t.baseUrl = some key) := by
  obtain ⟨hne, hslash⟩ := name_of_mem_pairs hpair
  have hsegment := Target.Request.segment_of query hne hslash hpath
  obtain ⟨hbase, hweb⟩ := Target.resolve_of_entry hquery (hsegment ▸ hurl) hresolve
  have hspecial : special ≠ "" := by
    rintro rfl
    rw [not_isWebUrl_empty] at hweb
    cases hweb
  -- The path puts the interpolated text into `t.baseUrl`, the look-up reads `special` as it is.
  have hfound : keyFor? s.get t.baseUrl =
      if continues t.baseUrl special then some key else none := by
    rw [keyFor?_of_only hpair fun q hq hother =>
      keyOfPair?_of_unconfigured t.baseUrl (honly q hq hother), keyOfPair?_of_url hurl hspecial, hkey]
  have hexact : keyFor? s.get t.baseUrl = some key ↔
      t.baseUrl = special ∨ ∃ rest, t.baseUrl = special ++ "/" ++ rest := by
    rw [hfound, Option.ite_none_right_eq_some, continues_iff]
    simp
  refine ⟨hbase, hexact, ?_, ?_⟩
  · rw [hfound]
    split
    · exact Or.inl rfl
    · exact Or.inr rfl
  · intro hplain
    refine hexact.mpr (Or.inl ?_)
    rw [hbase, Substitution.interpolate, hplain, Option.getD_none]

/-- A backend with a plain URL gets its key, also deep down its path. -/
theorem voice_backend_gets_key :
    let s : Store := ⟨[("VOICE_UNDERSTANDING_API_BASE_URL", "https://voice.example/v1"),
      ("VOICE_UNDERSTANDING_API_KEY", "voice-key"), ("BING_SUBSCRIPTION_KEY", "bing-key")],
      "s3cret", by decide, by decide, by decide⟩
    let t : Target := ⟨"https://voice.example/v1", some "voice-key", "asr/run", .configName⟩
    Target.resolve s.get "/VOICE_UNDERSTANDING_API_BASE_URL/asr/run" (some "a=b") = .ok t ∧
      keyFor? s.get t.baseUrl = some "voice-key" := by
  intro s t
  have hresolve : Target.resolve s.get "/VOICE_UNDERSTANDING_API_BASE_URL/asr/run" (some "a=b") =
      .ok t := by decide +kernel
  have honly : ∀ q ∈ pairs, q ≠ ("VOICE_UNDERSTANDING_API_BASE_URL", "VOICE_UNDERSTANDING_API_KEY") →
      s.get q.1 = none := by decide +kernel
  refine ⟨hresolve, ?_⟩
  refine (keyFor?_of_named_entry s
    ("VOICE_UNDERSTANDING_API_BASE_URL", "VOICE_UNDERSTANDING_API_KEY") "https://voice.example/v1"
    "voice-key" _ (some "a=b") t (by decide) (by decide +kernel) (by decide +kernel) ?_ ?_
    (by decide +kernel) hresolve).2.2.2 (by decide +kernel)
  · intro q hq hother other hget
    rw [honly q hq hother] at hget
    cases hget
  · exact Or.inr ⟨"asr/run", by decide +kernel⟩

/-- A backend with a reference in its URL: the request is sent there, and there is no key. -/
theorem image_backend_gets_no_key :
    let s : Store := ⟨[("TEXT_TO_IMAGE_API_BASE_URL", "http://${HOST}/img"),
      ("HOST", "h.example"), ("TEXT_TO_IMAGE_ACCESS_KEY", "img-key")],
      "s3cret", by decide, by decide, by decide⟩
    (∀ q ∈ pairs, (s.get q.1).isSome ∧ (s.get q.2).isSome ↔
        q = ("TEXT_TO_IMAGE_API_BASE_URL", "TEXT_TO_IMAGE_ACCESS_KEY")) ∧
      Target.resolve s.get "/TEXT_TO_IMAGE_API_BASE_URL/generate" none =
        .ok ⟨"http://h.example/img", none, "generate", .configName⟩ ∧
      keyFor? s.get "http://h.example/img" = none := by
  intro s
  exact ⟨by decide +kernel, by decide +kernel, by decide +kernel⟩

end CredentialGateway.Injection
